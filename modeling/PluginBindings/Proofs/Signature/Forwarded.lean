import PluginBindings.Proofs.Signature.LineNames
import PluginBindings.Proofs.Signature.Segments
import PluginBindings.Proofs.Signature.Wrapper

namespace PluginBindings

namespace Formal

-- Always in a list on one line, else where the entry heads a line.
def Found (unit : Text) (entry : Formal) : Prop := unit = [] ∨ entry.Heads unit

instance (unit : Text) (entry : Formal) : Decidable (entry.Found unit) :=
  inferInstanceAs (Decidable (_ ∨ _))

def strays (unit : Text) (entry : Formal) : List Text :=
  if unit = [] then ((Parameter.cuts entry.type).drop 1).filterMap Parameter.segmentName?
  else if entry.Heads unit then Parameter.lineNames unit (entry.type.drop 1)
  else Parameter.lineNames unit entry.type

def read (unit : Text) (entry : Formal) : List Text :=
  (if entry.Found unit then [entry.name] else []) ++ entry.strays unit

end Formal

namespace Block

def names (block : Block) : List Text := block.entries.map Formal.name

def returned (unit : Text) (block : Block) : List Text :=
  if unit = [] then [] else Parameter.lineNames unit block.returns

def strays (unit : Text) (block : Block) : List Text :=
  block.entries.flatMap (Formal.strays unit) ++ block.returned unit

def read (unit : Text) (block : Block) : List Text :=
  block.entries.flatMap (Formal.read unit) ++ block.returned unit

theorem Listed.names_exact {block : Block} (written : block.Listed angles)
    (indents : ∀ c ∈ unit, isIndent c = true) : Parameter.names block.text unit = block.read unit := by
  by_cases empty : unit = []
  · subst empty
    have listed : Parameter.names block.text [] = Parameter.listedNames block.text := rfl
    rw [listed, listedNames_exact written, read, returned, if_pos rfl, List.append_nil]
    exact List.flatMap_congr fun entry _ => by simp [Formal.read, Formal.Found, Formal.strays]
  · have nonempty : unit.isEmpty = false := by simpa using empty
    have lined : Parameter.names block.text unit = Parameter.lineNames unit block.text := by
      simp [Parameter.names, nonempty, Parameter.lineNames]
    rw [lined, lineNames_exact written indents, read, returned, if_neg empty]
    congr 1
    refine List.flatMap_congr fun entry member => ?_
    have formed := written.entries entry member
    by_cases heads : entry.Heads unit
    · simp [Formal.read, Formal.Found, Formal.strays, empty, heads,
        Formal.lineNames_heads formed indents heads]
    · simp [Formal.read, Formal.Found, Formal.strays, empty, heads,
        Formal.lineNames_other formed indents heads]

theorem names_exact {block : Block} (written : block.WellFormed angles)
    (indents : ∀ c ∈ unit, isIndent c = true) : Parameter.names block.text unit = block.read unit :=
  written.listed.names_exact indents

theorem read_clean {unit : Text} {block : Block} (found : ∀ entry ∈ block.entries, entry.Found unit)
    (clean : block.strays unit = []) : block.read unit = block.names := by
  obtain ⟨strays, returned⟩ := List.append_eq_nil_iff.mp clean
  have own : ∀ entry ∈ block.entries, entry.read unit = [entry.name] := by
    intro entry member
    rw [Formal.read, if_pos (found entry member), List.flatMap_eq_nil_iff.mp strays entry member]
    rfl
  rw [read, returned, List.append_nil, List.flatMap_congr own, names, List.map_eq_flatMap]

theorem read_length (unit : Text) (block : Block) :
    (block.read unit).length =
      block.entries.countP (fun entry => entry.Found unit) + (block.strays unit).length := by
  have entries : ∀ entries : List Formal, (entries.flatMap (Formal.read unit)).length =
      entries.countP (fun entry => entry.Found unit) +
        (entries.flatMap (Formal.strays unit)).length := by
    intro entries
    induction entries with
    | nil => rfl
    | cons entry entries ih =>
      by_cases found : entry.Found unit
      · simp only [List.flatMap_cons, List.length_append, ih, Formal.read, found, if_true,
          List.countP_cons_of_pos, decide_true, List.length_singleton]
        omega
      · simp only [List.flatMap_cons, List.length_append, ih, Formal.read, found, if_false,
          List.countP_cons, decide_false, List.length_nil]
        simp
        omega
  rw [read, strays, List.length_append, List.length_append, entries]
  omega

-- When the names are the right ones, as many were found in types as own names were missed.
theorem found_exact {unit : Text} {block : Block}
    (size : (block.read unit).length = block.names.length) :
    (∀ entry ∈ block.entries, entry.Found unit) ↔ block.strays unit = [] := by
  rw [read_length, names, List.length_map] at size
  constructor
  · intro found
    have all : block.entries.countP (fun entry => entry.Found unit) = block.entries.length :=
      List.countP_eq_length.mpr fun entry member => by simpa using found entry member
    exact List.length_eq_zero_iff.mp (by omega)
  · intro none entry member
    rw [none, List.length_nil, Nat.add_zero] at size
    simpa using List.countP_eq_length.mp size entry member

end Block

namespace Wrapper

-- What a wrapper passes on behind its handle. The names are read off the layout, so they
-- are the right ones where every parameter is found and no type brings in one of its own.
theorem parameters_forwarded_exact [PatternEngine] {type indent : Text} {block : Block}
    {wrapper : Wrapper} (written : block.WellFormed angles)
    (accepted : (ofBlock type block.text indent).result = .ok wrapper) :
    wrapper.signature.indentationUnit = Parameter.indentationUnit block.text ∧
    wrapper.signature.parameters = (block.read wrapper.signature.indentationUnit).drop 1 ∧
    ((∀ entry ∈ block.entries, entry.Found wrapper.signature.indentationUnit) →
      block.strays wrapper.signature.indentationUnit = [] →
      wrapper.signature.parameters = block.names.drop 1) ∧
    (block.entries ≠ [] → wrapper.signature.parameters = block.names.drop 1 →
      ((∀ entry ∈ block.entries, entry.Found wrapper.signature.indentationUnit) ↔
        block.strays wrapper.signature.indentationUnit = [])) ∧
    ∃ front, wrapper.text = front ++ ")(".toList ++ Text.join ", ".toList
      ("self.handle.as_ptr()".toList :: wrapper.signature.parameters) ++ ") \x7d".toList := by
  obtain ⟨signature, removal, parsed, -, first, rfl⟩ :=
    assemble_exact.mp (ofBlock_exact.mp accepted).2
  obtain ⟨declaration, -, -, rfl⟩ := Signature.ofBlock_exact.mp parsed
  have names := Block.names_exact written (Parameter.unit_indents block.text)
  have nonempty : block.read (Parameter.indentationUnit block.text) ≠ [] := by
    intro empty
    dsimp only at first
    rw [names, empty] at first
    cases first
  dsimp only
  rw [names]
  refine ⟨rfl, rfl, ?_, ?_, ?_⟩
  · intro found clean
    rw [Block.read_clean found clean]
  · intro entries same
    apply Block.found_exact
    have size := congrArg List.length same
    have positive : 0 < block.names.length := by
      simpa [Block.names] using List.length_pos_iff.mpr entries
    have positive' := List.length_pos_iff.mpr nonempty
    simp only [List.length_drop] at size
    omega
  · rw [Signature.forwardingBody_call]
    simp only [← List.append_assoc]
    exact ⟨_, rfl⟩

attribute [local instance] PatternEngine.standard

theorem ownLine_forwarded :
    ∃ wrapper, (ofBlock "H".toList Block.ownLine.text []).result = .ok wrapper ∧
      wrapper.signature.parameters = ["n".toList] := by
  have given : (ofBlock "H".toList Block.ownLine.text []).result.toOption.map
      (·.signature.indentationUnit) = some "    ".toList := by decide +kernel
  obtain ⟨wrapper, read, unit⟩ := Option.map_eq_some_iff.mp given
  have accepted := toOption_exact.mp read
  obtain ⟨-, -, forwarded, -⟩ := parameters_forwarded_exact (Block.ownLine_wellFormed true) accepted
  refine ⟨wrapper, accepted, ?_⟩
  rw [unit] at forwarded
  refine forwarded (fun entry member => ?_) (by decide +kernel)
  have checked : Block.ownLine.entries.all (fun entry => entry.Found "    ".toList) = true := by
    decide
  simpa using List.all_eq_true.mp checked entry member

def sharedLine : Block where
  name := "f".toList
  header := "unsafe fn f(".toList
  receiver := none
  entries := [⟨"\n    ".toList, "ph".toList, [], " *mut H".toList⟩,
    ⟨[' '], "a".toList, [], " c_int".toList⟩, ⟨"\n    ".toList, "b".toList, [], " c_int".toList⟩]
  trailing := some "\n".toList
  returns := [' ']

theorem sharedLine_wellFormed : sharedLine.WellFormed true where
  header := Block.plain_header
  receiver := by decide
  entries := by
    have checked : sharedLine.entries.all (fun entry => entry.lead.all isBlank &&
        isName entry.name && entry.gap.all isBlank &&
        entry.type.all fun c => !delimits true c && (c != ',' || false)) = true := by decide +kernel
    intro entry member
    have here := List.all_eq_true.mp checked entry member
    simp only [Bool.and_eq_true] at here
    exact ⟨List.all_eq_true.mp here.1.1.1, here.1.1.2, List.all_eq_true.mp here.1.2,
      balanced_checked here.2⟩
  trailing := by
    rintro blanks ⟨⟩
    exact List.all_eq_true.mp (by decide)
  closed := by decide

-- The parameter in between is lost, and the call has one argument too few.
theorem sharedLine_lost :
    sharedLine.WellFormed true ∧ isName "H".toList = true ∧
      ∃ wrapper, (ofBlock "H".toList sharedLine.text []).result = .ok wrapper ∧
        wrapper.signature.parameters = ["b".toList] ∧
        sharedLine.names.drop 1 = ["a".toList, "b".toList] := by
  have given : (ofBlock "H".toList sharedLine.text []).result.toOption.map
      (·.signature.parameters) = some ["b".toList] := by decide +kernel
  obtain ⟨wrapper, read, parameters⟩ := Option.map_eq_some_iff.mp given
  exact ⟨sharedLine_wellFormed, by decide +kernel, wrapper, toOption_exact.mp read, parameters, rfl⟩

end Wrapper
end PluginBindings
