import PluginBindings.Proofs.Report.Reading
import PluginBindings.Proofs.Signature.Declaration
import PluginBindings.Proofs.Signature.Handle
import PluginBindings.Proofs.Signature.ParameterList
import PluginBindings.Signature.Wrapper

namespace PluginBindings

namespace Parameter

-- A list on one line is read whatever the engine takes.
def Readable [PatternEngine] (unit : Text) : Prop := unit = [] ∨ (Pattern.parameterEntry unit).Fits

instance [PatternEngine] (unit : Text) : Decidable (Readable unit) :=
  inferInstanceAs (Decidable (_ ∨ _))

theorem readable_exact [PatternEngine] {unit : Text} (nonempty : unit ≠ []) :
    Readable unit ↔ (Pattern.parameterEntry unit).Fits := or_iff_right nonempty

theorem read_exact [PatternEngine] (block unit : Text) :
    read block unit = if Readable unit then .ok (names block unit)
      else .error (.patternTooBig PatternEngine.limit) := by
  by_cases empty : unit = []
  · simp only [read, Readable, empty, true_or, if_true]
    rfl
  · by_cases fits : (Pattern.parameterEntry unit).Fits
    · simp only [read, Readable, Pattern.compile, empty, fits, List.isEmpty_iff, or_true, if_true,
        if_false]
      rfl
    · simp only [read, Readable, Pattern.compile, empty, fits, List.isEmpty_iff, or_false, if_false]
      rfl

end Parameter

namespace Removal

def Ready [PatternEngine] (type : Text) : Prop :=
  (Pattern.handleLine type).Fits ∧ (Pattern.handleEntry type).Fits

instance [PatternEngine] (type : Text) : Decidable (Ready type) :=
  inferInstanceAs (Decidable (_ ∧ _))

theorem prepare_exact [PatternEngine] (type : Text) :
    prepare type = if Ready type then .ok ()
      else .error (.patternTooBig PatternEngine.limit) := by
  by_cases line : (Pattern.handleLine type).Fits
  · by_cases entry : (Pattern.handleEntry type).Fits <;>
      simp [prepare, Ready, Pattern.compile, line, entry, bind, Except.bind]
  · simp [prepare, Ready, Pattern.compile, line, bind, Except.bind]

end Removal

namespace Signature

theorem ofBlock_declared [PatternEngine] {block : Text} {declaration : Declaration}
    (found : Declaration.find? block = some declaration) :
    ofBlock block = if Parameter.Readable (Parameter.indentationUnit block) then
        .ok ⟨declaration.name, (Parameter.names block (Parameter.indentationUnit block)).drop 1,
          Parameter.indentationUnit block⟩
      else .error (.patternTooBig PatternEngine.limit) := by
  rw [ofBlock, found]
  simp only [Parameter.read_exact]
  split <;> rfl

theorem ofBlock_exact [PatternEngine] {block : Text} {signature : Signature} :
    ofBlock block = .ok signature ↔
      ∃ declaration, Declaration.find? block = some declaration ∧
        Parameter.Readable (Parameter.indentationUnit block) ∧
        signature = ⟨declaration.name,
          (Parameter.names block (Parameter.indentationUnit block)).drop 1,
          Parameter.indentationUnit block⟩ := by
  cases found : Declaration.find? block with
  | none => simp [ofBlock, found]
  | some declaration =>
    rw [ofBlock_declared found]
    by_cases readable : Parameter.Readable (Parameter.indentationUnit block) <;>
      simp [readable, eq_comm]

theorem ofBlock_read [PatternEngine] {block : Text} {signature : Signature}
    (parsed : ofBlock block = .ok signature) :
    Parameter.read block signature.indentationUnit =
      .ok (Parameter.names block signature.indentationUnit) := by
  obtain ⟨declaration, -, readable, rfl⟩ := ofBlock_exact.mp parsed
  rw [Parameter.read_exact, if_pos readable]

theorem forwardingBody_call (signature : Signature) (indent : Text) :
    signature.forwardingBody indent =
      ['\n'] ++ indent ++ "// Safety: forwarded to caller\n".toList ++ indent ++
        "unsafe \x7b ((*self.handle.as_ptr()).".toList ++ signature.name ++ ")(".toList ++
        Text.join ", ".toList ("self.handle.as_ptr()".toList :: signature.parameters) ++
        ") \x7d".toList := by
  unfold forwardingBody arguments
  rw [join_cons]

end Signature

namespace Wrapper

theorem assemble_result [PatternEngine] {type block indent : Text} {signature : Signature}
    (parsed : Signature.ofBlock block = .ok signature) :
    (assemble type block indent).result =
      match Removal.find? type block with
      | none => .error (.wrapper (.noHandle signature.name))
      | some removal =>
        if (Parameter.names block signature.indentationUnit).head? = some removal.handle then
          .ok ⟨removal.text ++ signature.forwardingBody (indent ++ bodyIndent), signature⟩
        else .error (.wrapper (.handleNotFirst removal.handle signature.name)) := by
  rw [assemble, Outcome.result_bind, parsed]
  simp only [Outcome.ofExcept, bind, Except.bind, Outcome.bind, Signature.ofBlock_read parsed]
  cases Removal.find? type block with
  | none => rfl
  | some removal =>
    by_cases first : (Parameter.names block signature.indentationUnit).head? = some removal.handle
    · simp [first, Outcome.note]
    · simp [first, Outcome.fail]

theorem assemble_exact [PatternEngine] {type block indent : Text} {wrapper : Wrapper} :
    (assemble type block indent).result = .ok wrapper ↔
      ∃ signature removal, Signature.ofBlock block = .ok signature ∧
        Removal.find? type block = some removal ∧
        (Parameter.names block signature.indentationUnit).head? = some removal.handle ∧
        wrapper = ⟨removal.text ++ signature.forwardingBody (indent ++ bodyIndent), signature⟩ := by
  cases parsed : Signature.ofBlock block with
  | error fault =>
    rw [assemble, Outcome.result_bind, parsed]
    simp [Outcome.ofExcept, bind, Except.bind]
  | ok signature =>
    rw [assemble_result parsed]
    cases Removal.find? type block with
    | none => simp
    | some removal =>
      by_cases first : (Parameter.names block signature.indentationUnit).head? = some removal.handle
      · simp [first, eq_comm (b := wrapper)]
      · simp [first]

theorem ofBlock_result [PatternEngine] (type block indent : Text) :
    (ofBlock type block indent).result =
      if Removal.Ready type then (assemble type block indent).result
      else .error (.patternTooBig PatternEngine.limit) := by
  rw [ofBlock, Outcome.result_bind, Outcome.ofExcept, Removal.prepare_exact]
  by_cases ready : Removal.Ready type <;> simp only [ready, if_true, if_false] <;> rfl

theorem ofBlock_exact [PatternEngine] {type block indent : Text} {wrapper : Wrapper} :
    (ofBlock type block indent).result = .ok wrapper ↔
      Removal.Ready type ∧ (assemble type block indent).result = .ok wrapper := by
  rw [ofBlock_result]
  by_cases ready : Removal.Ready type <;> simp [ready]

theorem accepted_exact [PatternEngine] {type block indent : Text} {declaration : Declaration}
    (opened : Declaration.find? block = some declaration)
    (first : (Parameter.names block (Parameter.indentationUnit block)).head? = some name) :
    ((∃ wrapper, (ofBlock type block indent).result = .ok wrapper) ↔
      Removal.Ready type ∧ Parameter.Readable (Parameter.indentationUnit block) ∧
        (Removal.find? type block).map (·.handle) = some name) ∧
    ∀ wrapper, (ofBlock type block indent).result = .ok wrapper →
      wrapper.signature = ⟨declaration.name,
        (Parameter.names block (Parameter.indentationUnit block)).drop 1,
        Parameter.indentationUnit block⟩ := by
  constructor
  · constructor
    · rintro ⟨wrapper, accepted⟩
      obtain ⟨ready, made⟩ := ofBlock_exact.mp accepted
      obtain ⟨signature, removal, parsed, found, first', -⟩ := assemble_exact.mp made
      obtain ⟨_, -, readable, rfl⟩ := Signature.ofBlock_exact.mp parsed
      refine ⟨ready, readable, ?_⟩
      rw [found, ← first, first']
      rfl
    · intro conditions
      obtain ⟨ready, readable, handle⟩ := conditions
      obtain ⟨removal, found, rfl⟩ := Option.map_eq_some_iff.mp handle
      have parsed := Signature.ofBlock_exact.mpr ⟨declaration, opened, readable, rfl⟩
      exact ⟨_, ofBlock_exact.mpr ⟨ready, assemble_exact.mpr ⟨_, removal, parsed, found, first, rfl⟩⟩⟩
  · intro wrapper accepted
    obtain ⟨signature, removal, parsed, -, -, rfl⟩ := assemble_exact.mp (ofBlock_exact.mp accepted).2
    obtain ⟨other, opened', -, rfl⟩ := Signature.ofBlock_exact.mp parsed
    cases opened.symm.trans opened'
    rfl

-- Only the engine can still refuse.
theorem ofBlock_written [PatternEngine] {type indent : Text} {declaration : Declaration}
    {names : List Text} {removal : Removal} (written : declaration.WellFormed)
    (read : Parameter.names declaration.text (Parameter.indentationUnit declaration.text) =
      removal.handle :: names)
    (removed : Removal.find? type declaration.text = some removal) (signature : Signature)
    (same : signature = ⟨declaration.name, names, Parameter.indentationUnit declaration.text⟩) :
    (ofBlock type declaration.text indent).result =
      if Removal.Ready type ∧ Parameter.Readable signature.indentationUnit then
        .ok ⟨removal.text ++ signature.forwardingBody (indent ++ bodyIndent), signature⟩
      else .error (.patternTooBig PatternEngine.limit) := by
  have parsed := Signature.ofBlock_declared (Declaration.find?_text written)
  rw [read, List.drop_one, List.tail_cons, ← same] at parsed
  have unit : signature.indentationUnit = Parameter.indentationUnit declaration.text := by rw [same]
  rw [← unit] at parsed read
  rw [ofBlock_result]
  by_cases ready : Removal.Ready type
  · by_cases readable : Parameter.Readable signature.indentationUnit
    · rw [if_pos readable] at parsed
      rw [if_pos ready, if_pos ⟨ready, readable⟩, assemble_result parsed, removed, read]
      exact if_pos rfl
    · rw [if_neg readable] at parsed
      rw [if_pos ready, if_neg fun both => readable both.2, assemble, Outcome.result_bind, parsed]
      rfl
  · rw [if_neg ready, if_neg fun both => ready both.1]

end Wrapper
end PluginBindings
