import PluginBindings.Proofs.Command.Effect

namespace PluginBindings

open FileTree

namespace Command
namespace Job

theorem readInput_exact {input : Input} {path text : Text} :
    (readInput input path).result = .ok text ↔ input path = .ok text := by
  unfold readInput
  cases input path with
  | ok found => simp
  | error kind => simp [Outcome.fail]

-- A generator makes the same of the same inputs: no other file has a part in it.
theorem product_agrees [PatternEngine] {job : Job} {input other : Input}
    (agrees : ∀ path ∈ job.inputs, input path = other path) :
    job.product settings input = job.product settings other := by
  have read : ∀ path ∈ job.inputs, readInput input path = readInput other path := by
    intro path member
    rw [readInput, readInput, agrees path member]
  cases job with
  | events descriptors table action =>
    obtain ⟨first, second⟩ := List.forall_mem_cons.mp read
    rw [product, product, first, second table (by simp)]
  | preferences path action =>
    rw [product, product, read path (by simp [inputs])]
  | wrappers path action =>
    rw [product, product, read path (by simp [inputs])]

theorem product_reads [PatternEngine] {job : Job} {input : Input}
    (made : (job.product settings input).result = .ok text) :
    ∀ path ∈ job.inputs, ∃ found, input path = .ok found := by
  cases job with
  | events descriptors table action =>
    simp only [product, Outcome.result_bind, ok_bind_exact, readInput_exact] at made
    obtain ⟨first, here, second, there, -⟩ := made
    simp [inputs, here, there]
  | preferences path action =>
    simp only [product, Outcome.result_bind, ok_bind_exact, readInput_exact] at made
    obtain ⟨found, here, -⟩ := made
    simp [inputs, here]
  | wrappers path action =>
    simp only [product, Outcome.result_bind, ok_bind_exact, readInput_exact] at made
    obtain ⟨found, here, -⟩ := made
    simp [inputs, here]

end Job

-- What is read stays readable, and the same, as long as it is none of the outputs.
theorem delivered_reads [PatternEngine] (delivered : Delivered settings tree jobs after)
    (apart : ∀ job ∈ jobs, ∀ output, job.action = .write output → Apart tree output path)
    (read : tree.readText path = .ok text) : after.readText path = .ok text := by
  induction delivered with
  | none => exact read
  | next first _ ih =>
    obtain ⟨here, later⟩ := List.forall_mem_cons.mp apart
    have same := Job.delivers_directories first
    obtain ⟨output, -, aims, replaced⟩ := first
    apply ih
    · exact fun job member output written => apart_agrees same (later job member output written)
    · exact readText_kept replaced read (here _ output _ aims)

theorem load_exact {path : Text} {input : Input} {settings : Settings} :
    Settings.load path input = .ok settings ↔
      ∃ text, input path = .ok text ∧ Settings.ofText text = .ok settings := by
  unfold Settings.load
  cases input path <;> simp

theorem readSettings_exact {invocation : Invocation} {input : Input} {settings : Settings} :
    invocation.readSettings input = .ok settings ↔
      (invocation.settings = none ∧ settings = {}) ∨
      ∃ path text, invocation.settings = some path ∧
        input (joinPath invocation.root path) = .ok text ∧ Settings.ofText text = .ok settings := by
  unfold Invocation.readSettings
  cases invocation.settings with
  | none => simp [eq_comm]
  | some path => simp [load_exact]

theorem readSettings_kept {invocation : Invocation} {input other : Input}
    (kept : ∀ path ∈ invocation.settings, ∀ text, input (joinPath invocation.root path) = .ok text →
      other (joinPath invocation.root path) = .ok text)
    (read : invocation.readSettings input = .ok settings) :
    invocation.readSettings other = .ok settings := by
  apply readSettings_exact.mpr
  rcases readSettings_exact.mp read with default | ⟨path, text, given, found, read⟩
  · exact .inl default
  · exact .inr ⟨path, text, given, kept path given text found, read⟩

end Command
end PluginBindings
