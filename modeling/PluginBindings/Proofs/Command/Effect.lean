import PluginBindings.Command.Run
import PluginBindings.Proofs.Files.Place

namespace PluginBindings

open FileTree

namespace Command
namespace Job

-- One generator has put its text in place, made of the files as they were.
inductive Delivers [PatternEngine] (settings : Settings) (tree : FileTree) (job : Job) :
    FileTree → Prop where
  | written (output : job.action = .write path)
      (product : (job.product settings tree.readText).result = .ok text)
      (aims : Aims tree path place)
      (replaced : Replaced tree place (String.ofList text).toUTF8 after) :
      Delivers settings tree job after

theorem delivers_directories [PatternEngine] {job : Job}
    (delivers : job.Delivers settings tree after) :
    SameDirectories tree after := by
  obtain ⟨-, -, -, replaced⟩ := delivers
  exact replaced_directories replaced

-- A job that fails has changed nothing, and neither has one that only looks.
inductive Ran [PatternEngine] (settings : Settings) (tree : FileTree) (job : Job) :
    FileTree → Except Fault Text → Prop where
  | failed : Ran settings tree job tree (.error fault)
  | looked (looks : ∀ path, job.action ≠ .write path) : Ran settings tree job tree (.ok printed)
  | delivered (delivers : job.Delivers settings tree after) : Ran settings tree job after (.ok printed)

theorem run_ran [PatternEngine] (settings : Settings) (tree : FileTree) (job : Job) :
    job.Ran settings tree (job.run settings tree).1 (job.run settings tree).2.result := by
  unfold run
  cases product : (job.product settings tree.readText).result with
  | error fault =>
    simp only [product]
    exact .failed
  | ok text =>
    simp only [Outcome.result_bind, product]
    cases action : job.action with
    | print => exact .looked (by simp [action])
    | check path =>
      have looks : ∀ other, job.action ≠ .write other := by simp [action]
      simp only [Action.run]
      cases checked : (do Output.check tree path text; return [] : Outcome Text).result with
      | error fault => exact .failed
      | ok printed => exact .looked looks
    | write path =>
      simp only [Action.run]
      rcases (Output.write_atomic tree path text).1 with
        ⟨place, after, aims, written, replaced, -⟩ | kept
      · rw [written]
        exact .delivered (.written action product aims replaced)
      · obtain ⟨kind, kept, -⟩ := kept
        rw [kept]
        exact .failed

end Job

inductive Delivered [PatternEngine] (settings : Settings) :
    FileTree → List Job → FileTree → Prop where
  | none : Delivered settings tree [] tree
  | next (first : job.Delivers settings tree middle) (onwards : Delivered settings middle jobs after) :
      Delivered settings tree (job :: jobs) after

theorem delivered_directories [PatternEngine] (delivered : Delivered settings tree jobs after) :
    SameDirectories tree after := by
  induction delivered with
  | none => exact ⟨rfl, fun _ => Iff.rfl⟩
  | next first _ ih => exact (Job.delivers_directories first).trans ih

-- The file at `place` is none that these jobs write.
def Spared (tree : FileTree) (jobs : List Job) (place : Location) : Prop :=
  ∀ job ∈ jobs, ∀ path, job.action = .write path → ¬ Aims tree path place

theorem spared_agrees (same : SameDirectories tree other) (spared : Spared tree jobs place) :
    Spared other jobs place :=
  fun job member path output aims => spared job member path output (aims_agree same.symm aims)

theorem delivered_others [PatternEngine] (delivered : Delivered settings tree jobs after)
    (spared : Spared tree jobs place) : after.find? place = tree.find? place := by
  induction delivered with
  | none => rfl
  | next first _ ih =>
    obtain ⟨here, later⟩ := List.forall_mem_cons.mp spared
    rw [ih (spared_agrees (Job.delivers_directories first) later)]
    obtain ⟨output, -, aims, replaced⟩ := first
    apply replaced.others
    rintro rfl
    exact here _ output aims

theorem delivered_split [PatternEngine] {earlier later : List Job}
    (delivered : Delivered settings tree (earlier ++ later) after) :
    ∃ middle, Delivered settings tree earlier middle ∧ Delivered settings middle later after := by
  induction earlier generalizing tree with
  | nil => exact ⟨tree, .none, delivered⟩
  | cons job earlier ih =>
    obtain - | ⟨first, onwards⟩ := delivered
    obtain ⟨middle, done, left⟩ := ih onwards
    exact ⟨middle, .next first done, left⟩

-- Every output holds the whole text of its generator, made of the files as that generator
-- found them, unless a later job has written the same file again.
theorem delivered_holds [PatternEngine] {earlier later : List Job} {job : Job}
    (delivered : Delivered settings tree (earlier ++ job :: later) after) :
    ∃ middle path text place, Delivered settings tree earlier middle ∧
      Delivered settings middle (job :: later) after ∧ job.action = .write path ∧
      (job.product settings middle.readText).result = .ok text ∧ Aims tree path place ∧
      (Spared tree later place → after.find? place = some (.file (String.ofList text).toUTF8)) := by
  obtain ⟨middle, done, left⟩ := delivered_split delivered
  have same := delivered_directories done
  obtain - | ⟨first, onwards⟩ := id left
  have same' := Job.delivers_directories first
  obtain ⟨output, product, aims, replaced⟩ := first
  refine ⟨middle, _, _, _, done, left, output, product, aims_agree same.symm aims, fun spared => ?_⟩
  rw [delivered_others onwards (spared_agrees (same.trans same') spared)]
  exact replaced.stands

theorem runJobs_next [PatternEngine] (settings : Settings) (tree : FileTree) (job : Job)
    (jobs : List Job) :
    ((runJobs settings tree (job :: jobs)).tree = tree ∧
      (runJobs settings tree (job :: jobs)).fault ≠ none) ∨
    ∃ after printed, job.Ran settings tree after (.ok printed) ∧
      (runJobs settings tree (job :: jobs)).tree = (runJobs settings after jobs).tree ∧
      (runJobs settings tree (job :: jobs)).fault = (runJobs settings after jobs).fault := by
  have ran := job.run_ran settings tree
  simp only [runJobs]
  generalize job.run settings tree = step at ran
  obtain ⟨after, result, notices⟩ := step
  cases result with
  | error fault =>
    cases ran
    exact .inl ⟨rfl, nofun⟩
  | ok printed => exact .inr ⟨after, printed, ran, rfl, rfl⟩

theorem runJobs_delivered [PatternEngine] {settings : Settings} (tree : FileTree) {jobs : List Job}
    (writes : ∀ job ∈ jobs, ∃ path, job.action = .write path) :
    ∃ done left, jobs = done ++ left ∧ ((runJobs settings tree jobs).fault = none ↔ left = []) ∧
      Delivered settings tree done (runJobs settings tree jobs).tree := by
  induction jobs generalizing tree with
  | nil => exact ⟨[], [], rfl, by simp [runJobs], .none⟩
  | cons job jobs ih =>
    obtain ⟨⟨path, output⟩, later⟩ := List.forall_mem_cons.mp writes
    rcases runJobs_next settings tree job jobs with ⟨kept, failed⟩ | ⟨after, _, ran, onwards, fault⟩
    · refine ⟨[], job :: jobs, rfl, iff_of_false failed nofun, ?_⟩
      rw [kept]
      exact .none
    · cases ran with
      | looked looks => exact absurd output (looks path)
      | delivered first =>
        obtain ⟨done, left, same, all, rest⟩ := ih after later
        rw [onwards, fault]
        exact ⟨job :: done, left, by rw [same, List.cons_append], all, .next first rest⟩

theorem runJobs_looked [PatternEngine] {settings : Settings} {tree : FileTree} {jobs : List Job}
    (looks : ∀ job ∈ jobs, ∀ path, job.action ≠ .write path) :
    (runJobs settings tree jobs).tree = tree := by
  induction jobs with
  | nil => rfl
  | cons job jobs ih =>
    obtain ⟨here, later⟩ := List.forall_mem_cons.mp looks
    rcases runJobs_next settings tree job jobs with ⟨kept, -⟩ | ⟨after, _, ran, onwards, -⟩
    · exact kept
    · cases ran with
      | looked => exact onwards.trans (ih later)
      | delivered first =>
        obtain ⟨output, -⟩ := first
        exact absurd output (here _)

theorem runJobs_single [PatternEngine] {settings : Settings} {tree : FileTree} {job : Job}
    (failed : (runJobs settings tree [job]).fault ≠ none) :
    (runJobs settings tree [job]).tree = tree := by
  rcases runJobs_next settings tree job [] with ⟨kept, -⟩ | ⟨_, _, -, -, clean⟩
  · exact kept
  · exact absurd clean failed

end Command

def FileLayout.outputs (layout : FileLayout) : List Text :=
  [layout.eventsOutput, layout.preferencesOutput, layout.declarationsOutput]

namespace Command

def Task.purpose : Task → Purpose
  | .events _ _ _ purpose | .preferences _ _ purpose | .wrappers _ _ purpose | .all purpose => purpose

def Invocation.outputs (invocation : Invocation) (settings : Settings) : List Text :=
  match invocation.task with
  | .events _ _ output _ => [joinPath invocation.root (output.getD settings.layout.eventsOutput)]
  | .preferences _ output _ => [joinPath invocation.root (output.getD settings.layout.preferencesOutput)]
  | .wrappers _ output _ => [joinPath invocation.root (output.getD settings.layout.declarationsOutput)]
  | .all _ => settings.layout.outputs.map (joinPath invocation.root)

theorem jobs_actions (invocation : Invocation) (settings : Settings) :
    (invocation.jobs settings).map Job.action =
      (invocation.outputs settings).map invocation.task.purpose.action := by
  obtain ⟨_, _, _, task⟩ := invocation
  cases task <;> rfl

theorem jobs_write {invocation : Invocation} (writes : invocation.task.purpose = .write)
    (settings : Settings) : ∀ job ∈ invocation.jobs settings, ∃ path, job.action = .write path := by
  intro job member
  have among := List.mem_map_of_mem (f := Job.action) member
  rw [jobs_actions, writes] at among
  obtain ⟨output, -, same⟩ := List.mem_map.mp among
  exact ⟨output, same.symm⟩

theorem job_writes {invocation : Invocation} {settings : Settings} {job : Job}
    (member : job ∈ invocation.jobs settings) (writes : job.action = .write path) :
    invocation.task.purpose = .write ∧ path ∈ invocation.outputs settings := by
  have among := List.mem_map_of_mem (f := Job.action) member
  rw [jobs_actions, writes] at among
  obtain ⟨output, outputs, same⟩ := List.mem_map.mp among
  cases purpose : invocation.task.purpose with
  | write =>
    rw [purpose] at same
    cases same
    exact ⟨rfl, outputs⟩
  | check | print => simp [purpose, Purpose.action] at same

theorem jobs_single {invocation : Invocation} (single : ∀ purpose, invocation.task ≠ .all purpose)
    (settings : Settings) : ∃ job, invocation.jobs settings = [job] := by
  obtain ⟨_, _, _, task⟩ := invocation
  cases task with
  | all purpose => exact absurd rfl (single purpose)
  | events | preferences | wrappers => exact ⟨_, rfl⟩

def Invocation.report (invocation : Invocation) (run : Run) : Report :=
  ⟨if run.fault.isSome then 1 else 0, run.printed, run.notices.filter invocation.shows, run.fault,
    run.tree⟩

theorem run_report [PatternEngine] {invocation : Invocation}
    (given : readArguments arguments = .ok invocation)
    (tree : FileTree) : run arguments tree = invocation.report (invocation.run tree) := by
  unfold run
  rw [given]
  rfl

theorem run_accepted [PatternEngine] {invocation : Invocation}
    (given : readArguments arguments = .ok invocation)
    (tree : FileTree) : (run arguments tree).tree = (invocation.run tree).tree ∧
      ((run arguments tree).code = 0 ↔ (invocation.run tree).fault = none) := by
  rw [run_report given]
  refine ⟨rfl, ?_⟩
  unfold Invocation.report
  cases (invocation.run tree).fault <;> simp

-- Nothing that only looks or that is refused changes a file. What writes puts whole outputs in
-- place, one after the other, up to the first that fails.
theorem run_effect [PatternEngine] (arguments : List Text) (tree : FileTree) :
    (∀ refusal, readArguments arguments = .error refusal → (run arguments tree).tree = tree) ∧
    ∀ invocation, readArguments arguments = .ok invocation →
      (invocation.task.purpose ≠ .write → (run arguments tree).tree = tree) ∧
      ((∀ purpose, invocation.task ≠ .all purpose) → (run arguments tree).code ≠ 0 →
        (run arguments tree).tree = tree) ∧
      (∀ fault, invocation.readSettings tree.readText = .error fault →
        (run arguments tree).code ≠ 0 ∧ (run arguments tree).tree = tree) ∧
      ∀ settings, invocation.readSettings tree.readText = .ok settings →
        invocation.task.purpose = .write →
        (invocation.jobs settings).map Job.action = (invocation.outputs settings).map .write ∧
        ∃ done left, invocation.jobs settings = done ++ left ∧
          ((run arguments tree).code = 0 ↔ left = []) ∧
          Delivered settings tree done (run arguments tree).tree ∧
          (∀ earlier job later, done = earlier ++ job :: later →
            ∃ middle path text place, Delivered settings tree earlier middle ∧
              Delivered settings middle (job :: later) (run arguments tree).tree ∧
              job.action = .write path ∧
              (job.product settings middle.readText).result = .ok text ∧ Aims tree path place ∧
              (Spared tree later place →
                (run arguments tree).tree.find? place = some (.file (String.ofList text).toUTF8))) ∧
          ∀ place, Spared tree done place →
            (run arguments tree).tree.find? place = tree.find? place := by
  refine ⟨fun refusal refused => ?_, fun invocation given => ?_⟩
  · unfold run
    rw [refused]
    cases refusal <;> rfl
  obtain ⟨same, code⟩ := run_accepted given tree
  simp only [same, ne_eq, code]
  cases read : invocation.readSettings tree.readText with
  | error fault =>
    have kept : invocation.run tree = ⟨tree, [], [], some fault⟩ := by rw [Invocation.run, read]
    rw [kept]
    refine ⟨fun _ => rfl, fun _ _ => rfl, fun _ _ => ⟨?_, rfl⟩, nofun⟩
    exact Option.some_ne_none fault
  | ok settings =>
    have ran : invocation.run tree = runJobs settings tree (invocation.jobs settings) := by
      rw [Invocation.run, read]
    rw [ran]
    refine ⟨fun looks => runJobs_looked fun job member path output =>
      looks (job_writes member output).1, fun single failed => ?_, nofun, ?_⟩
    · obtain ⟨job, alone⟩ := jobs_single single settings
      rw [alone] at failed ⊢
      exact runJobs_single failed
    · rintro _ ⟨rfl⟩ writes
      obtain ⟨done, left, jobs, all, delivered⟩ :=
        runJobs_delivered tree (jobs_write writes settings)
      refine ⟨by rw [jobs_actions, writes]; rfl, done, left, jobs, all, delivered, ?_,
        fun place => delivered_others delivered⟩
      rintro earlier job later rfl
      exact delivered_holds delivered

end Command
end PluginBindings
