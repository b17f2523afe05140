import Mathlib.Data.List.Forall2
import PluginBindings.Proofs.Command.Inputs

namespace PluginBindings

open FileTree

namespace Command

def Run.andThen (first : Run) (next : FileTree → Run) : Run :=
  match first.fault with
  | some _ => first
  | none =>
    let rest := next first.tree
    ⟨rest.tree, first.printed ++ rest.printed, first.notices ++ rest.notices, rest.fault⟩

def Report.andThen (first : Report) (next : FileTree → Report) : Report :=
  if first.code = 0 then
    let rest := next first.tree
    ⟨rest.code, first.printed ++ rest.printed, first.notices ++ rest.notices, rest.fault, rest.tree⟩
  else first

def runInOrder [PatternEngine] (tree : FileTree) : List (List Text) → Report
  | [] => ⟨0, [], [], none, tree⟩
  | arguments :: later => (run arguments tree).andThen fun after => runInOrder after later

theorem report_andThen (invocation : Invocation) (first : Run) (next : FileTree → Run) :
    invocation.report (first.andThen next) =
      (invocation.report first).andThen fun tree => invocation.report (next tree) := by
  obtain ⟨tree, printed, notices, fault⟩ := first
  unfold Run.andThen Report.andThen Invocation.report
  cases fault <;> simp

theorem andThen_congr {first : Report} {next other : FileTree → Report}
    (same : first.code = 0 → next first.tree = other first.tree) :
    first.andThen next = first.andThen other := by
  unfold Report.andThen
  split
  · rename_i succeeded
    rw [same succeeded]
  · rfl

theorem runJobs_cons [PatternEngine] (settings : Settings) (tree : FileTree) (job : Job)
    (jobs : List Job) :
    runJobs settings tree (job :: jobs) =
      (runJobs settings tree [job]).andThen fun after => runJobs settings after jobs := by
  simp only [runJobs, Run.andThen]
  cases (job.run settings tree).2.result with
  | error fault => rfl
  | ok printed => simp

theorem single_tree [PatternEngine] (settings : Settings) (tree : FileTree) (job : Job) :
    (runJobs settings tree [job]).tree = tree ∨
      job.Delivers settings tree (runJobs settings tree [job]).tree := by
  rcases runJobs_next settings tree job [] with ⟨kept, -⟩ | ⟨after, _, ran, onwards, -⟩
  · exact .inl kept
  · rw [onwards]
    cases ran with
    | looked => exact .inl rfl
    | delivered delivers => exact .inr delivers

def Line (invocation : Invocation) (settings : Settings) (arguments : List Text) (job : Job) :
    Prop :=
  ∃ task, readArguments arguments = .ok { invocation with task := task } ∧
    Invocation.jobs { invocation with task := task } settings = [job]

theorem run_line [PatternEngine] {invocation : Invocation} {settings : Settings} {tree : FileTree}
    (line : Line invocation settings arguments job)
    (read : invocation.readSettings tree.readText = .ok settings) :
    run arguments tree = invocation.report (runJobs settings tree [job]) := by
  obtain ⟨task, given, jobs⟩ := line
  have read' : Invocation.readSettings { invocation with task := task } tree.readText =
      .ok settings := read
  rw [run_report given, Invocation.run, read']
  dsimp only
  rw [jobs]
  rfl

-- Each line reads its settings again: no job before it has written over them.
theorem runJobs_in_order [PatternEngine] {invocation : Invocation} {settings : Settings}
    {tree : FileTree}
    {lines : List (List Text)} {jobs : List Job}
    (each : List.Forall₂ (Line invocation settings) lines jobs)
    (apart : ∀ job ∈ jobs, ∀ output, job.action = .write output →
      ∀ path ∈ invocation.settings, Apart tree output (joinPath invocation.root path))
    (read : invocation.readSettings tree.readText = .ok settings) :
    invocation.report (runJobs settings tree jobs) = runInOrder tree lines := by
  induction each generalizing tree with
  | nil => rfl
  | @cons arguments job lines jobs line _ ih =>
    obtain ⟨here, later⟩ := List.forall_mem_cons.mp apart
    rw [runJobs_cons, report_andThen, runInOrder, run_line line read]
    apply andThen_congr
    intro _
    change invocation.report (runJobs settings (runJobs settings tree [job]).tree jobs) =
      runInOrder (runJobs settings tree [job]).tree lines
    rcases single_tree settings tree job with kept | delivers
    · rw [kept]
      exact ih later read
    · have same := Job.delivers_directories delivers
      apply ih
      · exact fun job member output written path given =>
          apart_agrees same (later job member output written path given)
      · refine readSettings_kept (fun path given text found => ?_) read
        refine delivered_reads (.next delivers .none) ?_ found
        simp only [List.forall_mem_singleton]
        exact fun output written => here output written path given

-- The same files, the same notices, and the same fault where one of them fails.
theorem all_in_order [PatternEngine] {arguments events preferences wrappers : List Text}
    {configuration : Option Text} {root : Text} {verbosity : Nat} {purpose : Purpose}
    (all : readArguments arguments = .ok ⟨configuration, root, verbosity, .all purpose⟩)
    (first : readArguments events =
      .ok ⟨configuration, root, verbosity, .events none none none purpose⟩)
    (second : readArguments preferences =
      .ok ⟨configuration, root, verbosity, .preferences none none purpose⟩)
    (third : readArguments wrappers =
      .ok ⟨configuration, root, verbosity, .wrappers none none purpose⟩)
    (tree : FileTree)
    (apart : ∀ path settings, configuration = some path →
      Settings.load (joinPath root path) tree.readText = .ok settings →
      ∀ output ∈ settings.layout.outputs, Apart tree (joinPath root output) (joinPath root path)) :
    run arguments tree = runInOrder tree [events, preferences, wrappers] := by
  rw [run_report all, Invocation.run]
  cases read : Invocation.readSettings ⟨configuration, root, verbosity, .all purpose⟩
      tree.readText with
  | error fault =>
    have refused : run events tree =
        Invocation.report ⟨configuration, root, verbosity, .all purpose⟩
          ⟨tree, [], [], some fault⟩ := by
      have read' : Invocation.readSettings
          ⟨configuration, root, verbosity, .events none none none purpose⟩ tree.readText =
            .error fault := read
      rw [run_report first, Invocation.run, read']
      rfl
    rw [runInOrder, refused]
    rfl
  | ok settings =>
    refine runJobs_in_order (.cons ⟨_, first, rfl⟩ (.cons ⟨_, second, rfl⟩
      (.cons ⟨_, third, rfl⟩ .nil))) ?_ read
    intro job member output written path given
    obtain ⟨-, among⟩ := job_writes member written
    obtain ⟨output, configured, rfl⟩ := List.mem_map.mp among
    have given : configuration = some path := given
    subst given
    exact apart path settings rfl read output configured

def workshop : FileTree :=
  ⟨[], [("c", "[0,\"none\",5,0,\"H\",[\"d\",\"e\",\"f\",\"p\",\"q\",\"s\",\"t\"]]"), ("d", ""),
    ("e", "Beep\nBEEP\nnone\n\nn0\n"), ("p", "\t\x7b\"a\", 0, TYPE_INT\x7d,\n"),
    ("s", "unsafe fn f(ph: *mut H, n: c_int) \x7b\x7d\n")].map fun (name, text) =>
      ([name.toList], .file text.toUTF8)⟩

attribute [local instance] PatternEngine.standard

theorem workshop_in_order :
    let line (name : String) := ["-c".toList, "c".toList, name.toList]
    (run (line "all") workshop).code = 0 ∧
      run (line "all") workshop =
        runInOrder workshop [line "events", line "prefs", line "rewrite"] := by
  have given : ∀ name task, (readArguments ["-c".toList, "c".toList, String.toList name]).toOption =
      some ⟨some ['c'], ['.'], 0, task⟩ →
        readArguments ["-c".toList, "c".toList, String.toList name] =
          .ok ⟨some ['c'], ['.'], 0, task⟩ := fun _ _ => toOption_exact.mp
  refine ⟨by decide +kernel, ?_⟩
  apply all_in_order (given "all" (.all .write) (by decide +kernel))
    (given "events" (.events none none none .write) (by decide +kernel))
    (given "prefs" (.preferences none none .write) (by decide +kernel))
    (given "rewrite" (.wrappers none none .write) (by decide +kernel))
  intro path settings same read output member
  cases same
  have outputs : (Settings.load (joinPath ['.'] ['c']) workshop.readText).toOption.map (·.layout.outputs) =
      some [['f'], ['q'], ['t']] := by decide +kernel
  have configured : settings.layout.outputs = [['f'], ['q'], ['t']] := by
    rw [toOption_exact.mpr read] at outputs
    exact Option.some.inj outputs
  rw [configured] at member
  have differs : [['f'], ['q'], ['t']].all (fun output =>
      workshop.locate (joinPath ['.'] output) != workshop.locate (joinPath ['.'] ['c'])) = true := by
    decide +kernel
  exact apart_located (by simpa using List.all_eq_true.mp differs output member)

end Command
end PluginBindings
