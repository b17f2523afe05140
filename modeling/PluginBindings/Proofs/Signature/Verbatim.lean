import PluginBindings.Proofs.Signature.Wrapper
import PluginBindings.Proofs.Text.Lines

namespace PluginBindings

-- The blanks that open the line on which `block` starts, all of them.
def LineIndent (front block indent : Text) : Prop :=
  ∃ earlier started, front = earlier ++ indent ++ started ∧ Scan.startsLine true earlier = true ∧
    (∀ c ∈ indent, isIndent c = true) ∧ Stops isIndent (started ++ block) ∧ '\n' ∉ started

theorem lineIndent_exact {front block : Text} (stops : Stops isIndent block) :
    LineIndent front block (WrappedSource.lineIndent front) := by
  have reversed := List.takeWhile_append_dropWhile (p := (· != '\n')) (l := front.reverse)
  refine ⟨(front.reverse.dropWhile (· != '\n')).reverse, (Text.lastLine front).dropWhile isIndent, ?_,
    ?_, List.all_eq_true.mp List.all_takeWhile, ?_, ?_⟩
  · rw [List.append_assoc, WrappedSource.lineIndent, List.takeWhile_append_dropWhile, Text.lastLine,
      ← List.reverse_append, reversed, List.reverse_reverse]
  · have stops := stops_dropWhile (· != '\n') front.reverse
    cases left : front.reverse.dropWhile (· != '\n') with
    | nil => rfl
    | cons c rest =>
      rw [left, stops_cons] at stops
      have breaks : c = '\n' := by simpa using stops
      exact Scan.startsLine_exact.mpr (.inr ⟨rest.reverse, by simp [breaks]⟩)
  · cases started : (Text.lastLine front).dropWhile isIndent with
    | nil => exact stops
    | cons c rest =>
      have stops := stops_dropWhile isIndent (Text.lastLine front)
      rw [started] at stops
      exact stops_cons.mpr (stops_cons.mp stops)
  · intro member
    have within : '\n' ∈ Text.lastLine front := List.dropWhile_subset _ member
    have unbroken := List.all_eq_true.mp (List.all_takeWhile (p := (· != '\n')) (l := front.reverse))
      '\n' (by simpa [Text.lastLine] using within)
    simp at unbroken

structure Edit where
  gap : Text
  declaration : Declaration
  removal : Removal
  indent : Text
  signature : Signature

namespace Edit

def place (edit : Edit) : Text × Declaration := (edit.gap, edit.declaration)

def source (edit : Edit) : Text := edit.gap ++ edit.declaration.text

def result (edit : Edit) : Text :=
  edit.gap ++ edit.removal.text ++ edit.signature.forwardingBody (edit.indent ++ "    ".toList)

-- A type without brackets and commas brings none of its own into the span.
structure Sound [PatternEngine] (type front : Text) (edit : Edit) : Prop where
  parsed : Signature.ofBlock edit.declaration.text = .ok edit.signature
  parts : edit.declaration.text =
    edit.removal.before ++ edit.removal.deleted ++ edit.removal.after
  behind : ∃ kept, edit.removal.before = edit.declaration.header ++ kept
  ahead : ∃ kept, edit.removal.after = kept ++ ['{']
  plain : (∀ c ∈ type, isBracket c = false ∧ c ≠ ',') →
    (∀ c ∈ edit.removal.deleted, isBracket c = false) ∧ edit.removal.deleted.count ',' ≤ 1
  indented : LineIndent front edit.declaration.text edit.indent

end Edit

namespace WrappedSource

theorem text_stops_indent {declaration : Declaration} (written : declaration.WellFormed) :
    Stops isIndent declaration.text := by
  obtain ⟨first, second, third, same, -⟩ := written.header
  rw [Declaration.text, same]
  simp
  decide

theorem wrap_step [PatternEngine] {type front gap : Text} {declaration : Declaration}
    {wrapper : Wrapper}
    (written : declaration.WellFormed)
    (accepted : (Wrapper.assemble type declaration.text (lineIndent (front ++ gap))).result =
      .ok wrapper) :
    ∃ edit : Edit, edit.place = (gap, declaration) ∧ edit.result = gap ++ wrapper.text ∧
      edit.signature = wrapper.signature ∧ edit.Sound type (front ++ gap) := by
  obtain ⟨signature, removal, parsed, found, -, rfl⟩ := Wrapper.assemble_exact.mp accepted
  obtain ⟨parts, lead, entry, trail, cut⟩ := Removal.find?_cut found
  refine ⟨⟨gap, declaration, removal, lineIndent (front ++ gap), signature⟩, rfl, ?_, rfl,
    parsed, parts, ?_, ?_, fun plain => ⟨?_, ?_⟩, lineIndent_exact (text_stops_indent written)⟩
  · rw [Edit.result, List.append_assoc]
    rfl
  · rw [Declaration.text, List.append_assoc] at found
    exact Removal.find?_behind found (Declaration.header_opens written.header)
      (Declaration.header_lacks written.header colon_sign (by decide))
  · exact Removal.find?_before found
  · exact Removal.cut_no_bracket cut fun c member => (plain c member).1
  · exact Removal.cut_commas cut fun member => (plain ',' member).2 rfl

theorem wrap_exact [PatternEngine] {type front tail : Text} {hits : List (Text × Declaration)}
    {wrapped : WrappedSource} (written : ∀ hit ∈ hits, hit.2.WellFormed)
    (accepted : (wrap type front tail hits).result = .ok wrapped) :
    ∃ edits : List Edit, edits.map Edit.place = hits ∧
      wrapped.text = edits.flatMap Edit.result ++ tail ∧
      wrapped.signatures = edits.map Edit.signature ∧
      ∀ earlier edit later, edits = earlier ++ edit :: later →
        edit.Sound type (front ++ earlier.flatMap Edit.source ++ edit.gap) := by
  induction hits generalizing front wrapped with
  | nil =>
    cases accepted
    exact ⟨[], rfl, rfl, rfl, by simp⟩
  | cons hit hits ih =>
    obtain ⟨gap, declaration⟩ := hit
    simp only [wrap, Outcome.result_bind, ok_bind_exact, Outcome.result_pure] at accepted
    obtain ⟨wrapper, made, rest, onwards, same⟩ := accepted
    cases same
    obtain ⟨edit, place, result, signature, sound⟩ :=
      wrap_step (written (gap, declaration) (by simp)) made
    obtain ⟨edits, places, text, signatures, sounds⟩ :=
      ih (fun hit member => written hit (by simp [member])) onwards
    refine ⟨edit :: edits, by simp [place, places], by simp [result, text],
      by simp [signature, signatures], ?_⟩
    intro earlier current later split
    cases place
    cases earlier with
    | nil =>
      obtain ⟨rfl, -⟩ := List.cons.inj split
      simpa using sound
    | cons first earlier =>
      obtain ⟨rfl, others⟩ := List.cons.inj split
      simpa [Edit.source] using sounds earlier current later others

theorem ofText_result [PatternEngine] (type text : Text) : (ofText type text).result =
    if Removal.Ready type then
      (wrap type [] (sweep Declaration.form text).tail (sweep Declaration.form text).hits).result
    else .error (.patternTooBig PatternEngine.limit) := by
  simp only [ofText, Outcome.result_bind, Outcome.ofExcept, Removal.prepare_exact]
  by_cases ready : Removal.Ready type
  · rw [if_pos ready, if_pos ready]
    change ((wrap _ _ _ _).result >>= _) = _
    refine (bind_congr fun wrapped => ?_).trans (bind_pure _)
    split <;> rfl
  · rw [if_neg ready, if_neg ready]
    rfl

theorem ofText_exact [PatternEngine] {type text : Text} {wrapped : WrappedSource} :
    (ofText type text).result = .ok wrapped ↔ Removal.Ready type ∧
      (wrap type [] (sweep Declaration.form text).tail (sweep Declaration.form text).hits).result =
        .ok wrapped := by
  rw [ofText_result]
  by_cases ready : Removal.Ready type <;> simp [ready]

attribute [local instance] PatternEngine.standard

end WrappedSource
end PluginBindings
