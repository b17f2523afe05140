import PluginBindings.Proofs.Descriptor.Extraction
import PluginBindings.Proofs.Descriptor.Table
import PluginBindings.Proofs.Report.Wording
import PluginBindings.Proofs.Settings.Reading
import PluginBindings.Proofs.Signature.Verbatim

namespace PluginBindings

-- The faults of a source that cannot be read, whatever the engine.
inductive Fault.Raised : Fault → Prop where
  | reading (failed : .error fault ∈ (Descriptor.read text header).items) : Raised fault
  | inserting {table : DescriptorTable} (refused : (table.insert descriptor).2 = .error fault) :
      Raised fault
  | collecting (failed : (DescriptorTable.ofText text header emptyKey).result = .error fault) :
      Raised fault
  | parsing [PatternEngine] (refused : Signature.ofBlock block = .error fault) : Raised fault
  | wrapping [PatternEngine] (refused : (Wrapper.ofBlock type block indent).result = .error fault) :
      Raised fault
  | rewriting [PatternEngine] (refused : (WrappedSource.ofText type text).result = .error fault) :
      Raised fault

-- Each of them is about a line or a name, which its message has in quotes, or about a pattern.

theorem Descriptor.halt_quotes (halt : Halt rest (some ending)) (line : Nat) :
    (Fault.parse ending.1 line).quoted ≠ [] := by
  cases halt <;> exact List.cons_ne_nil _ _

theorem Descriptor.read_quotes {text : Text} {header : Nat}
    (failed : .error fault ∈ (read text header).items) : fault.quoted ≠ [] := by
  obtain ⟨whole, rest, arrays, ending, -, -, halt, items⟩ := readFrom_halts (numberedLines text header)
  rw [read, items, List.mem_append] at failed
  rcases failed with array | stopped
  · obtain ⟨descriptor, -, same⟩ := List.mem_map.mp array
    cases same
  · cases ending with
    | none => cases stopped
    | some ending =>
      cases List.mem_singleton.mp stopped
      exact halt_quotes halt ending.2

theorem DescriptorTable.insert_quotes {table : DescriptorTable}
    (refused : (table.insert descriptor).2 = .error fault) : fault.quoted ≠ [] := by
  obtain ⟨first, -, rfl⟩ := insert_refused_exact.mp refused
  exact List.cons_ne_nil _ _

theorem DescriptorTable.ofText_quotes {text emptyKey : Text} {header : Nat}
    (failed : (ofText text header emptyKey).result = .error fault) : fault.quoted ≠ [] := by
  obtain ⟨values, item, later, reached, items, -, stopped⟩ := Reading.foldInto_error_exact.mp failed
  rcases error_bind_exact.mp stopped with rfl | ⟨descriptor, -, refused⟩
  · have member : .error fault ∈ (Descriptor.read text header).items := by
      rw [items]
      exact List.mem_append_right _ List.mem_cons_self
    exact Descriptor.read_quotes member
  · exact insert_quotes (extend_refused_exact.mp refused)

theorem Signature.ofBlock_definite [PatternEngine] (refused : ofBlock block = .error fault) :
    fault.Definite := by
  cases found : Declaration.find? block with
  | none =>
    rw [ofBlock, found] at refused
    cases refused
    exact .inl (List.cons_ne_nil _ _)
  | some declaration =>
    rw [ofBlock_declared found] at refused
    split at refused
    · cases refused
    · cases refused
      exact .inr ⟨_, rfl⟩

theorem Wrapper.assemble_definite [PatternEngine]
    (refused : (assemble type block indent).result = .error fault) : fault.Definite := by
  cases parsed : Signature.ofBlock block with
  | error other =>
    rw [assemble, Outcome.result_bind, parsed] at refused
    cases refused
    exact Signature.ofBlock_definite parsed
  | ok signature =>
    rw [assemble_result parsed] at refused
    split at refused
    · cases refused
      exact .inl (List.cons_ne_nil _ _)
    · split at refused
      · cases refused
      · cases refused
        exact .inl (List.cons_ne_nil _ _)

theorem Wrapper.ofBlock_definite [PatternEngine]
    (refused : (ofBlock type block indent).result = .error fault) : fault.Definite := by
  rw [ofBlock_result] at refused
  split at refused
  · exact assemble_definite refused
  · cases refused
    exact .inr ⟨_, rfl⟩

theorem WrappedSource.wrap_definite [PatternEngine] {hits : List (Text × Declaration)}
    (refused : (wrap type front tail hits).result = .error fault) : fault.Definite := by
  induction hits generalizing front with
  | nil => cases refused
  | cons hit hits ih =>
    obtain ⟨gap, declaration⟩ := hit
    simp only [wrap, Outcome.result_bind, error_bind_exact, Outcome.result_pure] at refused
    rcases refused with here | ⟨wrapper, -, later | ⟨rest, -, impossible⟩⟩
    · exact Wrapper.assemble_definite here
    · exact ih later
    · cases impossible

theorem WrappedSource.ofText_definite [PatternEngine] {type text : Text}
    (refused : (ofText type text).result = .error fault) : fault.Definite := by
  rw [ofText_result] at refused
  split at refused
  · exact wrap_definite refused
  · cases refused
    exact .inr ⟨_, rfl⟩

theorem Fault.raised_definite {fault : Fault} (raised : fault.Raised) : fault.Definite := by
  cases raised with
  | reading failed => exact .inl (Descriptor.read_quotes failed)
  | inserting refused => exact .inl (DescriptorTable.insert_quotes refused)
  | collecting failed => exact .inl (DescriptorTable.ofText_quotes failed)
  | parsing refused => exact Signature.ofBlock_definite refused
  | wrapping refused => exact Wrapper.ofBlock_definite refused
  | rewriting refused => exact WrappedSource.ofText_definite refused

-- A line or a name is quoted on one line, as a string that reads back as just that. So the
-- message of a fault tells the fault: no quoted text runs into the words around it.
theorem quoting_lossless :
    (∀ text, Text.SingleLine (Json.quote text)) ∧
    (∀ text document, Settings.HandleTypeText (Json.quote text) document →
      Settings.ofText document = .ok { ({} : Settings) with handleType := text }) ∧
    (∀ text other, Json.quote text = Json.quote other → text = other) ∧
    (∀ fault : Fault, fault.Raised →
      (fault.quoted ≠ [] ∨ ∃ limit, fault = .patternTooBig limit) ∧
      Text.SingleLine fault.message ∧ ∀ text ∈ fault.quoted, Json.quote text <:+: fault.message) ∧
    ∀ fault fault' : Fault, fault.Raised → fault'.Raised → fault.message = fault'.message →
      fault = fault' := by
  refine ⟨Json.quote_singleLine, fun _ _ => Settings.handleType_read, ?_, ?_, ?_⟩
  · intro text other same
    exact (Json.quote_unique (congrArg (· ++ []) same)).1
  · intro fault raised
    have definite := Fault.raised_definite raised
    rw [fault.message_wording]
    exact ⟨definite, Wording.render_singleLine (Fault.wording_clear definite),
      fun _ => Wording.quote_infix⟩
  · intro fault fault' raised raised' same
    exact Fault.message_unique (Fault.raised_definite raised) (Fault.raised_definite raised') same

theorem mimicked_tab_told :
    let line := "a\t\"b".toList
    let mimic := "a\\t\"b".toList
    Fault.Raised (.parse (.noDeclaration line) 1) ∧ Fault.Raised (.parse (.noDeclaration mimic) 1) ∧
      (Fault.parse (.noDeclaration line) 1).message ≠ (Fault.parse (.noDeclaration mimic) 1).message ∧
      Settings.ofText ("\x7b \"handle_type\": \"a\\t\\\"b\"\x7d\n".toList) =
        .ok { ({} : Settings) with handleType := line } := by
  intro line mimic
  have stopped : .error (.parse (.noDeclaration line) 1) ∈ (Descriptor.read line 0).items := by
    decide +kernel
  have stopped' : .error (.parse (.noDeclaration mimic) 1) ∈ (Descriptor.read mimic 0).items := by
    decide +kernel
  have raised := Fault.Raised.reading stopped
  have raised' := Fault.Raised.reading stopped'
  obtain ⟨-, back, -, -, told⟩ := quoting_lossless
  refine ⟨raised, raised', fun same => ?_, ?_⟩
  · have alike := told _ _ raised raised' same
    revert alike
    decide
  · have none : Json.Gap [] := List.forall_mem_nil _
    have one : Json.Gap [' '] := List.forall_mem_singleton.mpr rfl
    have after : Json.Gap ['\n'] := List.forall_mem_singleton.mpr rfl
    exact back line _ (.written (.written none one) (.full (.last one none)) none after)

end PluginBindings
