import Mathlib.Data.List.Basic
import PluginBindings.Proofs.Signature.ParameterList
import PluginBindings.Signature.Parameter

namespace PluginBindings
namespace Parameter

theorem entryForm_exact {source name rest : Text} :
    entryForm source = some (name, rest) ↔
      ∃ gap behind, source = name ++ gap ++ ':' :: behind ∧ isName name = true ∧
        (∀ c ∈ gap, isIndent c = true) ∧ behind.head? ≠ some ':' ∧ rest = behind.drop 1 := by
  simp only [entryForm, Scan.bind_exact, Scan.literal_exact, Scan.span_exact, Scan.name_exact]
  constructor
  · intro found
    obtain ⟨found, _, ⟨rfl, named, -⟩, gap, _, ⟨rfl, run, -⟩, -, behind, rfl, read⟩ := found
    have edge : found = name ∧ behind.head? ≠ some ':' ∧ rest = behind.drop 1 := by
      cases behind with
      | nil => simpa [eq_comm] using read
      | cons c behind =>
        by_cases colon : c = ':'
        · simp [colon] at read
        · obtain ⟨rfl, rfl⟩ : found = name ∧ behind = rest := by simpa [colon] using read
          exact ⟨rfl, by simpa using colon, rfl⟩
    obtain ⟨rfl, single, rfl⟩ := edge
    exact ⟨gap, behind, by simp, named, run, single, rfl⟩
  · intro written
    obtain ⟨gap, behind, rfl, named, run, single, rfl⟩ := written
    have colon := colon_stops behind
    refine ⟨name, gap ++ ':' :: behind,
      ⟨by simp, named, blank_stops_word (fun c member => indent_blank (run c member)) colon.1⟩, gap,
      ':' :: behind, ⟨rfl, run, stops_indent colon.2⟩, (), behind, rfl, ?_⟩
    cases behind with
    | nil => rfl
    | cons c behind => simp_all

theorem entryAt_exact {unit source name rest : Text} :
    entryAt unit source = some (name, rest) ↔
      ∃ gap behind, source = '\n' :: unit ++ name ++ gap ++ ':' :: behind ∧ isName name = true ∧
        (∀ c ∈ gap, isIndent c = true) ∧ behind.head? ≠ some ':' ∧ rest = behind.drop 1 := by
  simp only [entryAt, Scan.bind_exact, Scan.literal_exact, entryForm_exact]
  constructor
  · intro read
    obtain ⟨-, _, rfl, gap, behind, rfl, facts⟩ := read
    exact ⟨gap, behind, by simp, facts⟩
  · intro written
    obtain ⟨gap, behind, rfl, facts⟩ := written
    exact ⟨(), name ++ gap ++ ':' :: behind, by simp, gap, behind, rfl, facts⟩

theorem entryAt_absent (absent : ':' ∉ source) : entryAt unit source = none := by
  cases read : entryAt unit source with
  | none => rfl
  | some found =>
    obtain ⟨gap, behind, rfl, -⟩ := entryAt_exact.mp read
    exact absurd (by simp) absent

-- The unit is sniffed by the same form that is then looked for with it.
theorem indentedEntry_exact {source unit rest : Text} :
    indentedEntry source = some (unit, rest) ↔
      unit ≠ [] ∧ (∀ c ∈ unit, isIndent c = true) ∧
        ∃ name, entryAt unit source = some (name, rest) := by
  simp only [indentedEntry, Scan.bind_exact, Scan.literal_exact, Scan.span1_exact, Scan.pure_exact,
    entryAt_exact]
  constructor
  · intro read
    obtain ⟨-, _, rfl, _, _, ⟨rfl, nonempty, run, -⟩, name, _, entered, rfl, rfl⟩ := read
    obtain ⟨gap, behind, rfl, facts⟩ := entryForm_exact.mp entered
    exact ⟨nonempty, run, name, gap, behind, by simp, facts⟩
  · intro written
    obtain ⟨nonempty, run, name, gap, behind, rfl, facts⟩ := written
    refine ⟨(), _, rfl, unit, name ++ gap ++ ':' :: behind, ⟨by simp, nonempty, run, ?_⟩, name, rest,
      entryForm_exact.mpr ⟨gap, behind, rfl, facts⟩, rfl, rfl⟩
    simpa using stops_indent (name_stops_blank facts.1)

theorem unit_indents (block : Text) : ∀ c ∈ indentationUnit block, isIndent c = true := by
  unfold indentationUnit
  split
  · rename_i gap unit rest found
    obtain ⟨source, -, read, -⟩ := Scan.findFirst_some_exact.mp found
    exact (indentedEntry_exact.mp read).2.1
  · simp

theorem entryAt_advances (unit : Text) : Scan.Advances (entryAt unit) := by
  intro source name rest read
  obtain ⟨gap, behind, rfl, -, -, -, rfl⟩ := entryAt_exact.mp read
  simp only [List.length_append, List.length_cons, List.length_drop]
  omega

def lineNames (unit text : Text) : List Text := (sweep (entryAt unit) text).hits.map (·.2)

theorem lineNames_last (absent : Scan.findFirst (entryAt unit) text = none) :
    lineNames unit text = [] := by
  rw [lineNames, sweep_last absent]
  rfl

theorem lineNames_next (found : Scan.findFirst (entryAt unit) text = some (gap, name, rest)) :
    lineNames unit text = name :: lineNames unit rest := by
  rw [lineNames, sweep_next (entryAt_advances unit) found]
  rfl

-- Where no name begins in a piece, or reaches out of it, the piece adds none.
theorem lineNames_skip {front back : Text} (silent : Scan.Silent (entryAt unit) front back) :
    lineNames unit (front ++ back) = lineNames unit back := by
  have behind := Scan.findFirst_behind silent
  cases found : Scan.findFirst (entryAt unit) back with
  | none =>
    rw [found] at behind
    rw [lineNames_last found, lineNames_last behind]
  | some read =>
    rw [found] at behind
    rw [lineNames_next found, lineNames_next behind]

theorem lineNames_nil (unit : Text) : lineNames unit [] = [] :=
  lineNames_last (Scan.findFirst_none_exact.mpr fun front source same => by
    obtain ⟨-, rfl⟩ := List.append_eq_nil_iff.mp same.symm
    rfl)

theorem form_plain {unit name gap : Text} (indents : ∀ c ∈ unit, isIndent c = true)
    (named : isName name = true) (run : ∀ c ∈ gap, isIndent c = true) :
    ∀ c ∈ '\n' :: unit ++ name ++ gap, isBlank c = true ∨ isWord c = true := by
  intro c member
  simp only [List.cons_append, List.mem_cons, List.mem_append] at member
  rcases member with rfl | (member | member) | member
  · exact .inl (by decide)
  · exact .inl (indent_blank (indents c member))
  · exact .inr (isName_word named c member)
  · exact .inl (indent_blank (run c member))

-- A sign of punctuation ends what is read before it, up to the character behind a colon.
theorem entryAt_stops {front back : Text} (indents : ∀ c ∈ unit, isIndent c = true)
    (sign : isBlank c = false ∧ isWord c = false) (other : c ≠ ':')
    (absent : entryAt unit front = none) : entryAt unit (front ++ c :: back) = none := by
  cases read : entryAt unit (front ++ c :: back) with
  | none => rfl
  | some found =>
    obtain ⟨gap, behind, same, named, run, single, -⟩ := entryAt_exact.mp read
    have outside : c ∉ '\n' :: unit ++ found.1 ++ gap ++ [':'] := by
      simpa [other] using sign_absent (form_plain indents named run) sign
    have shape : front ++ c :: back = ('\n' :: unit ++ found.1 ++ gap ++ [':']) ++ behind := by
      simpa using same
    rcases List.append_eq_append_iff.mp shape with ⟨more, longer, rest⟩ | ⟨more, longer, rest⟩
    · cases more with
      | nil =>
        have here : front = '\n' :: unit ++ found.1 ++ gap ++ ':' :: [] := by simpa using longer.symm
        have reached := entryAt_exact.mpr ⟨gap, [], here, named, run, by simp, rfl⟩
        cases absent.symm.trans reached
      | cons d more =>
        obtain ⟨rfl, -⟩ := List.cons.inj rest
        exact absurd (by rw [longer]; simp) outside
    · have here : front = '\n' :: unit ++ found.1 ++ gap ++ ':' :: more := by simpa using longer
      have alone : more.head? ≠ some ':' := by
        cases more with
        | nil => simp
        | cons d more => simpa [rest] using single
      have reached := entryAt_exact.mpr ⟨gap, more, here, named, run, alone, rfl⟩
      cases absent.symm.trans reached

theorem indentationUnit_first {front source name rest : Text} (nonempty : unit ≠ [])
    (indents : ∀ c ∈ unit, isIndent c = true) (absent : ':' ∉ front)
    (sign : isBlank c = false ∧ isWord c = false) (other : c ≠ ':')
    (stands : entryAt unit source = some (name, rest)) :
    indentationUnit (front ++ c :: source) = unit := by
  suffices found : Scan.findFirst indentedEntry (front ++ c :: source) =
      some (front ++ [c], unit, rest) by rw [indentationUnit, found]
  refine Scan.findFirst_some_exact.mpr
    ⟨source, by simp, indentedEntry_exact.mpr ⟨nonempty, indents, name, stands⟩, ?_⟩
  intro earlier later same nonempty
  obtain ⟨inside, rfl, before⟩ := Text.append_last same nonempty
  cases read : indentedEntry (inside ++ [c] ++ source) with
  | none => rfl
  | some found =>
    obtain ⟨-, run, name, entered⟩ := indentedEntry_exact.mp read
    have bare : entryAt found.1 inside = none := entryAt_absent fun member =>
      absent (by simp [before, member])
    have refused : entryAt found.1 (inside ++ c :: source) = none :=
      entryAt_stops run sign other bare
    rw [List.append_cons] at refused
    cases refused.symm.trans entered

theorem indentationUnit_unbroken {block : Text} (unbroken : '\n' ∉ block) :
    indentationUnit block = [] := by
  have none : Scan.findFirst indentedEntry block = none := by
    refine Scan.findFirst_none_exact.mpr fun front source same => ?_
    cases read : indentedEntry source with
    | none => rfl
    | some found =>
      obtain ⟨-, -, name, entered⟩ := indentedEntry_exact.mp read
      obtain ⟨gap, behind, rfl, -⟩ := entryAt_exact.mp entered
      exact absurd (by simp [same]) unbroken
  rw [indentationUnit, none]

-- So it parts a text: what is read behind it does not depend on what stands before.
theorem lineNames_stop {front back : Text} (indents : ∀ c ∈ unit, isIndent c = true)
    (sign : isBlank c = false ∧ isWord c = false) (other : c ≠ ':') :
    lineNames unit (front ++ c :: back) = lineNames unit front ++ lineNames unit back := by
  -- on the length: the character behind a colon is taken along, be it the sign itself
  induction size : front.length using Nat.strongRecOn generalizing front with
  | _ size ih =>
    cases found : Scan.findFirst (entryAt unit) front with
    | none =>
      have skipped : lineNames unit ((front ++ [c]) ++ back) = lineNames unit back := by
        refine lineNames_skip fun earlier later same nonempty => ?_
        obtain ⟨inside, rfl, rfl⟩ := Text.append_last same nonempty
        have absent := Scan.findFirst_none_exact.mp found earlier inside rfl
        simpa using entryAt_stops indents sign other absent
      rw [lineNames_last found, List.nil_append]
      simpa using skipped
    | some read =>
      obtain ⟨gap, name, rest⟩ := read
      obtain ⟨source, rfl, reached, earliest⟩ := Scan.findFirst_some_exact.mp found
      obtain ⟨space, behind, rfl, named, run, single, rfl⟩ := entryAt_exact.mp reached
      have here : entryAt unit ('\n' :: unit ++ name ++ space ++ ':' :: behind ++ c :: back) =
          some (name, (behind ++ c :: back).drop 1) := by
        refine entryAt_exact.mpr ⟨space, behind ++ c :: back, by simp, named, run, ?_, rfl⟩
        cases behind with
        | nil => simpa using other
        | cons d behind => simpa using single
      have whole : Scan.findFirst (entryAt unit)
          (gap ++ ('\n' :: unit ++ name ++ space ++ ':' :: behind) ++ c :: back) =
          some (gap, name, (behind ++ c :: back).drop 1) := by
        refine Scan.findFirst_some_exact.mpr ⟨_, List.append_assoc .., here, ?_⟩
        intro earlier later same nonempty
        rw [← List.append_assoc]
        exact entryAt_stops indents sign other (earliest earlier later same nonempty)
      rw [lineNames_next whole, lineNames_next found]
      cases behind with
      | nil => simp [lineNames_nil]
      | cons d behind =>
        have shorter : behind.length <
            (gap ++ ('\n' :: unit ++ name ++ space ++ ':' :: d :: behind)).length := by
          simp only [List.length_append, List.length_cons]
          omega
        simpa using ih behind.length (size ▸ shorter) rfl

-- No name is read where all colons come before all breaks.
theorem lineNames_parted {front back : Text} (unbroken : '\n' ∉ front) (absent : ':' ∉ back) :
    lineNames unit (front ++ back) = [] := by
  refine lineNames_last (Scan.findFirst_none_exact.mpr fun earlier source same => ?_)
  cases read : entryAt unit source with
  | none => rfl
  | some found =>
    exfalso
    obtain ⟨gap, behind, rfl, -⟩ := entryAt_exact.mp read
    rcases List.append_eq_append_iff.mp same with ⟨more, -, rest⟩ | ⟨more, rfl, rest⟩
    · exact absent (by rw [rest]; simp)
    · cases more with
      | nil => exact absent (by rw [← List.nil_append back, ← rest]; simp)
      | cons c more =>
        obtain ⟨rfl, -⟩ := List.cons.inj rest
        exact unbroken (by simp)

theorem lineNames_absent {text : Text} (absent : ':' ∉ text) : lineNames unit text = [] :=
  lineNames_parted (List.not_mem_nil (a := '\n')) absent

theorem lineNames_unbroken {text : Text} (unbroken : '\n' ∉ text) : lineNames unit text = [] := by
  simpa using lineNames_parted unbroken (List.not_mem_nil (a := ':'))

theorem lineNames_list {part : Text} {parts : List Text} (indents : ∀ c ∈ unit, isIndent c = true) :
    lineNames unit (part ++ parts.flatMap ([','] ++ ·)) = (part :: parts).flatMap (lineNames unit) := by
  induction parts generalizing part with
  | nil => simp
  | cons next parts ih =>
    have shape : part ++ (next :: parts).flatMap ([','] ++ ·) =
        part ++ ',' :: (next ++ parts.flatMap ([','] ++ ·)) := by simp
    rw [shape, lineNames_stop indents comma_sign (by decide), ih]
    simp

end Parameter

namespace Formal

def Heads (unit : Text) (entry : Formal) : Prop :=
  '\n' :: unit <:+ entry.lead ∧ entry.gap.all isIndent = true ∧ entry.type.head? ≠ some ':'

instance (unit : Text) (entry : Formal) : Decidable (entry.Heads unit) :=
  inferInstanceAs (Decidable (_ ∧ _ ∧ _))

theorem unit_stops (front : Text) (indents : ∀ c ∈ unit, isIndent c = true) :
    Stops isWord (front ++ '\n' :: unit).reverse := by
  rw [List.reverse_append, List.reverse_cons, List.append_assoc]
  refine blank_stops_word (fun c member => indent_blank (indents c (by simpa using member))) ?_
  exact stops_cons.mpr (by decide +kernel)

theorem lead_stops {entry : Formal} (written : entry.WellFormed angles) :
    Stops isWord entry.lead.reverse := by
  have whole : Stops isWord (entry.lead.reverse ++ []) :=
    blank_stops_word (by simpa using written.lead) stops_nil
  simpa using whole

theorem lineNames_heads {entry : Formal} (written : entry.WellFormed angles)
    (indents : ∀ c ∈ unit, isIndent c = true) (heads : entry.Heads unit) :
    Parameter.lineNames unit entry.text =
      entry.name :: Parameter.lineNames unit (entry.type.drop 1) := by
  obtain ⟨⟨front, lead⟩, indented, single⟩ := heads
  have run := List.all_eq_true.mp indented
  have here : Parameter.entryAt unit
      ('\n' :: unit ++ entry.name ++ entry.gap ++ ':' :: entry.type) =
      some (entry.name, entry.type.drop 1) :=
    Parameter.entryAt_exact.mpr ⟨entry.gap, entry.type, rfl, written.named, run, single, rfl⟩
  suffices found : Scan.findFirst (Parameter.entryAt unit) entry.text =
      some (front, entry.name, entry.type.drop 1) from Parameter.lineNames_next found
  refine Scan.findFirst_some_exact.mpr ⟨_, by simp [text, ← lead], here, ?_⟩
  intro earlier later same nonempty
  cases read : Parameter.entryAt unit (later ++ ('\n' :: unit ++ entry.name ++ entry.gap ++
      ':' :: entry.type)) with
  | none => rfl
  | some found =>
    obtain ⟨gap, behind, shape, named, run', -⟩ := Parameter.entryAt_exact.mp read
    have shape : (later ++ '\n' :: unit ++ entry.name ++ entry.gap) ++ ':' :: entry.type =
        ('\n' :: unit ++ found.1 ++ gap) ++ ':' :: behind := by simpa using shape
    have absent : ':' ∉ later ++ '\n' :: unit ++ entry.name ++ entry.gap := by
      refine sign_absent (fun c member => ?_) colon_sign
      rw [List.append_assoc, List.append_assoc, List.mem_append] at member
      rcases member with member | member
      · exact .inl (written.lead c (by rw [← lead, same]; simp [member]))
      · exact Parameter.form_plain indents written.named run c (by simpa using member)
    have fronts := (Text.cut_unique shape absent
      (sign_absent (Parameter.form_plain indents named run') colon_sign)).1
    have names : (later ++ '\n' :: unit) ++ entry.name = ('\n' :: unit) ++ found.1 :=
      (blanks_unique (by simpa using fronts) written.named (fun c member => indent_blank (run c member))
        named fun c member => indent_blank (run' c member)).1
    -- both readings end in one name, so nothing is left to stand before the unit
    have stops : Stops isWord ('\n' :: unit).reverse := by simpa using unit_stops [] indents
    have places := (name_unique names written.named (unit_stops later indents) named stops).1
    have size := congrArg List.length places
    simp only [List.length_append, List.length_cons] at size
    exact absurd (List.length_eq_zero_iff.mp (by omega)) nonempty

theorem lineNames_other {entry : Formal} (written : entry.WellFormed angles)
    (indents : ∀ c ∈ unit, isIndent c = true) (other : ¬ entry.Heads unit) :
    Parameter.lineNames unit entry.text = Parameter.lineNames unit entry.type := by
  have shape : entry.text = (entry.lead ++ entry.name ++ entry.gap ++ [':']) ++ entry.type := by
    simp [text]
  rw [shape]
  refine Parameter.lineNames_skip fun earlier later same nonempty => ?_
  obtain ⟨inside, rfl, front⟩ := Text.append_last same nonempty
  cases read : Parameter.entryAt unit (inside ++ [':'] ++ entry.type) with
  | none => rfl
  | some found =>
    obtain ⟨gap, behind, reached, named, run, single, -⟩ := Parameter.entryAt_exact.mp read
    have absent : ':' ∉ inside := fun member =>
      sign_absent (front_plain written) colon_sign (by rw [front]; simp [member])
    have parts := Text.cut_unique (by simpa using reached) absent
      (sign_absent (Parameter.form_plain indents named run) colon_sign)
    have whole : entry.lead ++ (entry.name ++ entry.gap) =
        (earlier ++ '\n' :: unit) ++ (found.1 ++ gap) := by
      rw [← List.append_assoc, front, parts.1]
      simp
    obtain ⟨names, gaps⟩ := blanks_unique whole written.named written.gap named
      fun c member => indent_blank (run c member)
    have leads := (name_unique names written.named (lead_stops written) named
      (unit_stops earlier indents)).1
    exact absurd ⟨⟨earlier, leads.symm⟩, List.all_eq_true.mpr (gaps ▸ run), parts.2 ▸ single⟩ other

end Formal

namespace Block

theorem lineNames_exact {block : Block} (written : block.Listed angles)
    (indents : ∀ c ∈ unit, isIndent c = true) :
    Parameter.lineNames unit block.text =
      (block.entries.flatMap fun entry => Parameter.lineNames unit entry.text) ++
        Parameter.lineNames unit block.returns := by
  obtain ⟨words, header, plain⟩ := Declaration.header_words written.header
  have list : Parameter.lineNames unit (Text.join [','] block.segments) =
      block.segments.flatMap (Parameter.lineNames unit) := by
    cases block.segments with
    | nil => exact Parameter.lineNames_nil unit
    | cons part parts => rw [join_cons, Parameter.lineNames_list indents]
  have shape : block.text = words ++ '(' :: (Text.join [','] block.segments ++
      ')' :: (block.returns ++ '{' :: [])) := by simp [text, header]
  have outside := sign_absent plain colon_sign
  rw [shape, Parameter.lineNames_stop indents (by decide +kernel) (by decide),
    Parameter.lineNames_stop indents (by decide +kernel) (by decide),
    Parameter.lineNames_stop indents (by decide +kernel) (by decide),
    Parameter.lineNames_absent outside, Parameter.lineNames_nil, list,
    segments_read written fun text plain =>
      Parameter.lineNames_absent (sign_absent plain colon_sign)]
  simp

end Block
end PluginBindings
