import PluginBindings.Proofs.Command.Sequence

namespace PluginBindings

open FileTree

namespace Command

def Action.checked : Action → Action
  | .write path => .check path
  | action => action

def Job.checked : Job → Job
  | .events descriptors table action => .events descriptors table action.checked
  | .preferences input action => .preferences input action.checked
  | .wrappers input action => .wrappers input action.checked

def Task.withPurpose (purpose : Purpose) : Task → Task
  | .events descriptors table output _ => .events descriptors table output purpose
  | .preferences input output _ => .preferences input output purpose
  | .wrappers input output _ => .wrappers input output purpose
  | .all _ => .all purpose

def Invocation.checking (invocation : Invocation) : Invocation :=
  { invocation with task := invocation.task.withPurpose .check }

theorem jobs_checked {invocation : Invocation} (writes : invocation.task.purpose = .write)
    (settings : Settings) :
    invocation.checking.jobs settings = (invocation.jobs settings).map Job.checked := by
  obtain ⟨_, _, _, task⟩ := invocation
  cases task <;> (cases writes; rfl)

theorem Job.checked_action (job : Job) : job.checked.action = job.action.checked := by
  cases job <;> rfl

theorem Job.checked_product [PatternEngine] {job : Job} (output : job.action = .write path)
    (settings : Settings)
    (input : Input) : job.checked.product settings input = job.product settings input := by
  cases job with
  | events descriptors table action =>
    cases output
    simp [checked, product, Action.checked]
  | preferences file action =>
    cases output
    simp [checked, product, Action.checked]
  | wrappers file action =>
    cases output
    simp [checked, product, Action.checked]

theorem Job.checked_run [PatternEngine] {job : Job} (output : job.action = .write path)
    (product : (job.product settings tree.readText).result = .ok text)
    (stands : tree.readText path = .ok text) :
    (job.checked.run settings tree).1 = tree ∧ (job.checked.run settings tree).2.result = .ok [] := by
  have checked : job.checked.action = .check path := by
    rw [Job.checked_action, output]
    rfl
  simp only [Job.run, Job.checked_product output, product, checked, Action.run,
    Output.check_current stands, Outcome.result_bind, true_and]
  rfl

-- The files hold what the generators make of them.
def Current [PatternEngine] (settings : Settings) (tree : FileTree) (jobs : List Job) : Prop :=
  ∀ job ∈ jobs, ∃ path text, job.action = .write path ∧
    (job.product settings tree.readText).result = .ok text ∧ tree.readText path = .ok text

theorem runJobs_current [PatternEngine] (current : Current settings tree jobs) :
    (runJobs settings tree (jobs.map Job.checked)).tree = tree ∧
      (runJobs settings tree (jobs.map Job.checked)).fault = none := by
  induction jobs with
  | nil => exact ⟨rfl, rfl⟩
  | cons job jobs ih =>
    obtain ⟨⟨path, text, output, product, stands⟩, later⟩ := List.forall_mem_cons.mp current
    have ran := Job.checked_run output product stands
    rw [List.map_cons, runJobs]
    generalize job.checked.run settings tree = step at ran
    obtain ⟨after, result, notices⟩ := step
    obtain ⟨rfl, rfl⟩ := ran
    exact ih later

structure Invocation.Separate (invocation : Invocation) (settings : Settings) (tree : FileTree) :
    Prop where
  inputs : ∀ output ∈ invocation.outputs settings, ∀ job ∈ invocation.jobs settings,
    ∀ input ∈ job.inputs, Apart tree output input
  configuration : ∀ output ∈ invocation.outputs settings, ∀ path ∈ invocation.settings,
    Apart tree output (joinPath invocation.root path)
  outputs : (invocation.outputs settings).Pairwise (Apart tree)

theorem delivered_current [PatternEngine] (delivered : Delivered settings tree jobs after)
    (inputs : ∀ job ∈ jobs, ∀ output, job.action = .write output →
      ∀ reader ∈ jobs, ∀ input ∈ reader.inputs, Apart tree output input)
    (outputs : jobs.Pairwise fun job other => ∀ output path, job.action = .write output →
      other.action = .write path → Apart tree output path) : Current settings after jobs := by
  intro job member
  obtain ⟨earlier, later, rfl⟩ := List.append_of_mem member
  obtain ⟨middle, path, text, place, done, left, output, product, aims, holds⟩ :=
    delivered_holds delivered
  refine ⟨path, text, output, ?_, ?_⟩
  · rw [← product]
    congr 1
    apply Job.product_agrees
    intro input among
    obtain ⟨found, read⟩ := Job.product_reads product input among
    rw [read]
    refine delivered_reads left (fun writer within output written => ?_) read
    apply apart_agrees (delivered_directories done)
    exact inputs writer (List.mem_append_right _ within) output written job member input among
  · have spared : Spared tree later place := by
      intro other within path' written aims'
      obtain ⟨-, behind, -⟩ := List.pairwise_append.mp outputs
      have apart := (List.pairwise_cons.mp behind).1 other within path path' output written
      exact apart place aims (aims_located aims')
    exact aims_readText (aims_agree (delivered_directories delivered) aims) (holds spared)

theorem separate_jobs {invocation : Invocation} {settings : Settings} {tree : FileTree}
    (writes : invocation.task.purpose = .write) (separate : invocation.Separate settings tree) :
    (invocation.jobs settings).Pairwise fun job other => ∀ output path, job.action = .write output →
      other.action = .write path → Apart tree output path := by
  have actions : ((invocation.jobs settings).map Job.action).Pairwise fun first second =>
      ∀ output path, first = .write output → second = .write path → Apart tree output path := by
    rw [jobs_actions, writes, List.pairwise_map]
    refine separate.outputs.imp fun apart output path here there => ?_
    cases here
    cases there
    exact apart
  exact List.pairwise_map.mp actions

-- A run that has gone well is found well by the run that checks it, and stays as it is.
theorem checked_after_write [PatternEngine] {arguments checks : List Text} {invocation : Invocation}
    (given : readArguments arguments = .ok invocation) (writes : invocation.task.purpose = .write)
    (again : readArguments checks = .ok invocation.checking) {tree : FileTree}
    (separate : ∀ settings, invocation.readSettings tree.readText = .ok settings →
      invocation.Separate settings tree)
    (succeeded : (run arguments tree).code = 0) :
    (run checks (run arguments tree).tree).code = 0 ∧
      (run checks (run arguments tree).tree).tree = (run arguments tree).tree := by
  obtain ⟨same, code⟩ := run_accepted given tree
  have clean := code.mp succeeded
  rw [same]
  obtain ⟨same', code'⟩ := run_accepted again (invocation.run tree).tree
  rw [same', code']
  cases read : invocation.readSettings tree.readText with
  | error fault =>
    rw [Invocation.run, read] at clean
    cases clean
  | ok settings =>
    have ran : invocation.run tree = runJobs settings tree (invocation.jobs settings) := by
      rw [Invocation.run, read]
    rw [ran] at clean ⊢
    have apart := separate settings read
    obtain ⟨done, left, jobs, all, delivered⟩ := runJobs_delivered tree (jobs_write writes settings)
    obtain rfl := all.mp clean
    rw [List.append_nil] at jobs
    rw [← jobs] at delivered
    generalize (runJobs settings tree (invocation.jobs settings)).tree = after at delivered
    have current : Current settings after (invocation.jobs settings) :=
      delivered_current delivered (fun job member output written => apart.inputs output
        (job_writes member written).2) (separate_jobs writes apart)
    have read' : invocation.checking.readSettings after.readText = .ok settings := by
      refine readSettings_kept (fun path given text found => ?_) read
      refine delivered_reads delivered (fun job member output written => ?_) found
      exact apart.configuration output (job_writes member written).2 path given
    have ran' : invocation.checking.run after =
        runJobs settings after ((invocation.jobs settings).map Job.checked) := by
      rw [Invocation.run, read', ← jobs_checked writes]
    rw [ran']
    exact (runJobs_current current).symm

attribute [local instance] PatternEngine.standard

theorem workshop_checked :
    let line := ["-c".toList, "c".toList, "all".toList]
    let checks := ["-c".toList, "c".toList, "all".toList, "--check".toList]
    (run checks workshop).code = 1 ∧ (run line workshop).code = 0 ∧
      (run checks (run line workshop).tree).code = 0 ∧
      (run checks (run line workshop).tree).tree = (run line workshop).tree := by
  intro line checks
  let invocation : Invocation := ⟨some ['c'], ['.'], 0, .all .write⟩
  have given : readArguments line = .ok invocation := toOption_exact.mp (by decide +kernel)
  have again : readArguments checks = .ok invocation.checking :=
    toOption_exact.mp (by decide +kernel)
  have succeeded : (run line workshop).code = 0 := by decide +kernel
  refine ⟨by decide +kernel, succeeded, checked_after_write given rfl again ?_ succeeded⟩
  intro settings read
  let known : Settings :=
    ⟨0, "none".toList, 5, 0, ['H'], ⟨['d'], ['e'], ['f'], ['p'], ['q'], ['s'], ['t']⟩⟩
  have found : (invocation.readSettings workshop.readText).toOption = some known := by
    decide +kernel
  rw [read] at found
  obtain rfl : settings = known := Option.some.inj found
  have inputs : ∀ output ∈ invocation.outputs known, ∀ job ∈ invocation.jobs known,
      ∀ input ∈ job.inputs, workshop.locate output ≠ workshop.locate input := by decide +kernel
  have configuration : ∀ output ∈ invocation.outputs known, ∀ path ∈ invocation.settings,
      workshop.locate output ≠ workshop.locate (joinPath invocation.root path) := by decide +kernel
  have outputs : (invocation.outputs known).Pairwise fun output other =>
      workshop.locate output ≠ workshop.locate other := by decide +kernel
  exact ⟨fun output member job among input read => apart_located (inputs output member job among input read),
    fun output member path given => apart_located (configuration output member path given),
    outputs.imp apart_located⟩

end Command
end PluginBindings
