import PluginBindings.Proofs.Signature.LineNames
import PluginBindings.Proofs.Signature.Verbatim

namespace PluginBindings
namespace Declaration

def blocks (text : Text) : List Declaration := (sweep form text).hits.map (·.2)

theorem blocks_last {source : Text} (absent : Scan.findFirst form source = none) :
    blocks source = [] := by
  rw [blocks, sweep_last absent]
  rfl

theorem blocks_next {source back : Text}
    (found : Scan.findFirst form source = some (gap, block, back)) :
    blocks source = block :: blocks back := by
  rw [blocks, sweep_next form_advances found]
  rfl

theorem form_header (refused : headerForm source = none) : form source = none := by
  simp [form, refused]

theorem silent_letter {front : Text} (absent : 'u' ∉ front) (back : Text) :
    Scan.Silent headerForm front back := by
  intro earlier later same nonempty
  cases later with
  | nil => exact absurd rfl nonempty
  | cons c later =>
    cases read : headerForm (c :: later ++ back) with
    | none => rfl
    | some found =>
      obtain ⟨header, split, first, second, third, rfl, -⟩ := headerForm_exact.mp read
      have letter : c = 'u' := (List.cons.inj split).1
      exact absurd (by simp [same, letter]) absent

theorem silent_sign {run : Text} (absent : '(' ∉ run) (sign : isBlank c = false ∧ isWord c = false)
    (other : c ≠ '(') (back : Text) : Scan.Silent headerForm (run ++ [c]) back := by
  intro earlier later same nonempty
  obtain ⟨inside, rfl, rfl⟩ := Text.append_last same nonempty
  cases read : headerForm (inside ++ [c] ++ back) with
  | none => rfl
  | some found =>
    obtain ⟨header, split, written⟩ := headerForm_exact.mp read
    obtain ⟨words, opens⟩ := header_opens written
    have lacks := header_lacks written sign other
    rw [List.append_assoc] at split
    rcases List.append_eq_append_iff.mp split with ⟨shift, rfl, rest⟩ | ⟨shift, rfl, -⟩
    · cases shift with
      | nil =>
        rw [List.append_nil] at opens
        exact absurd (by simp [opens]) absent
      | cons d shift =>
        obtain ⟨rfl, -⟩ := List.cons.inj rest
        exact absurd (by simp) lacks
    · exact absurd (by simp [opens]) absent

-- A header that begins before another ends no later than that one.
theorem header_within {name name' header header' front back inside : Text}
    (opened : Header name header) (written : Header name' header')
    (split : front ++ (header' ++ back) = header ++ inside) :
    ∃ shift, front ++ header' = header ++ shift := by
  rw [← List.append_assoc] at split
  rcases List.append_eq_append_iff.mp split with ⟨shift, reaches, -⟩ | ⟨shift, short, -⟩
  · obtain ⟨words, ends, plain⟩ := header_words opened
    cases shift with
    | nil => exact ⟨[], by simpa using reaches.symm⟩
    | cons c shift =>
      obtain ⟨words', ends'⟩ := header_opens written
      obtain ⟨before, -, rest⟩ := Text.append_last (ends.symm.trans reaches) (by simp)
      refine absurd ?_ (sign_absent plain paren_sign)
      simp [rest, ends']
  · exact ⟨shift, short⟩

-- What is before a declaration stays silent whatever its header is followed by: a header
-- that began there would be closed by the declaration's own brace.
theorem gap_silent {gap later : Text} {block : Declaration}
    (leftmost : ∀ front (other : Declaration) back, other.WellFormed →
      gap ++ block.text ++ later = front ++ other.text ++ back →
      (front = gap ∧ other = block) ∨ gap.length < front.length)
    (written : block.WellFormed) (back : Text) :
    Scan.Silent headerForm gap (block.header ++ back) := by
  intro earlier front same nonempty
  cases read : headerForm (front ++ (block.header ++ back)) with
  | none => rfl
  | some found =>
    obtain ⟨name, inside⟩ := found
    obtain ⟨header, split, opened⟩ := headerForm_exact.mp read
    obtain ⟨shift, within⟩ := header_within opened written.header split
    have brace : '{' ∈ shift ++ (block.rest ++ '{' :: later) := by simp
    cases cut : Text.cutAt? '{' (shift ++ (block.rest ++ '{' :: later)) with
    | none => exact absurd brace (Text.cutAt?_none_exact.mp cut)
    | some parts =>
      obtain ⟨rest, behind⟩ := parts
      obtain ⟨whole, closed⟩ := Text.cutAt?_exact.mp cut
      have source : gap ++ block.text ++ later =
          earlier ++ (⟨name, header, rest⟩ : Declaration).text ++ behind := by
        calc gap ++ block.text ++ later
            = earlier ++ ((front ++ block.header) ++ (block.rest ++ '{' :: later)) := by
              simp [same, text]
          _ = earlier ++ (header ++ (shift ++ (block.rest ++ '{' :: later))) := by
              rw [within, List.append_assoc]
          _ = earlier ++ (⟨name, header, rest⟩ : Declaration).text ++ behind := by
              rw [whole]
              simp [text]
      rcases leftmost earlier _ behind ⟨opened, closed⟩ source with ⟨rfl, -⟩ | longer
      · exact absurd (List.self_eq_append_right.mp same) nonempty
      · rw [same, List.length_append] at longer
        omega

theorem silent_form {front back : Text} (silent : Scan.Silent headerForm front back) :
    Scan.Silent form front back :=
  fun earlier later same nonempty => form_header (silent earlier later same nonempty)

theorem blocks_behind {front back : Text} {block : Declaration} (written : block.WellFormed)
    (silent : Scan.Silent headerForm front (block.text ++ back)) :
    blocks (front ++ (block.text ++ back)) = block :: blocks back := by
  have here : form (block.text ++ back) = some (block, back) := form_exact.mpr ⟨rfl, written⟩
  exact blocks_next (Scan.findFirst_some_exact.mpr ⟨_, rfl, here, silent_form silent⟩)

theorem blocks_none {front tail : Text} (silent : Scan.Silent headerForm front tail)
    (absent : ∀ front (other : Declaration) back, other.WellFormed →
      tail ≠ front ++ other.text ++ back) : blocks (front ++ tail) = [] := by
  apply blocks_last
  rw [Scan.findFirst_behind (silent_form silent), Option.map_eq_none_iff]
  refine Scan.findFirst_none_exact.mpr fun earlier source same => ?_
  cases read : form source with
  | none => rfl
  | some found =>
    obtain ⟨rfl, written⟩ := form_exact.mp read
    exact absurd (by simpa using same) (absent earlier found.1 found.2 written)

end Declaration

namespace Parameter

theorem segmentName?_named {segment name : Text} (read : segmentName? segment = some name) :
    isName name = true := by
  unfold segmentName? at read
  cases cut : Text.cutAt? ':' segment with
  | none => simp [cut] at read
  | some parts =>
    by_cases named : isName (Text.trim parts.1) = true
    · have same : Text.trim parts.1 = name := by simpa [cut, named] using read
      rw [← same]
      exact named
    · simp [cut, named, failure] at read

theorem names_named {block unit : Text} : ∀ name ∈ names block unit, isName name = true := by
  unfold names
  split
  · unfold listedNames
    split
    · simp
    · intro name member
      obtain ⟨segment, -, read⟩ := List.mem_filterMap.mp member
      exact segmentName?_named read
  · have each : ∀ hit ∈ (sweep (entryAt unit) block).hits, isName hit.2 = true := by
      refine sweep_induction (motive := fun _ hits _ => ∀ hit ∈ hits, isName hit.2 = true)
        (entryAt_advances unit) (by simp) ?_ block
      intro text gap name rest hits tail found later
      obtain ⟨source, -, read, -⟩ := Scan.findFirst_some_exact.mp found
      obtain ⟨-, -, -, named, -⟩ := entryAt_exact.mp read
      exact List.forall_mem_cons.mpr ⟨named, later⟩
    intro name member
    obtain ⟨hit, among, rfl⟩ := List.mem_map.mp member
    exact each hit among

end Parameter

namespace Signature

theorem ofBlock_names [PatternEngine] {declaration : Declaration} {signature : Signature}
    (written : declaration.WellFormed) (parsed : ofBlock declaration.text = .ok signature) :
    signature.name = declaration.name ∧ ∀ name ∈ signature.parameters, isName name = true := by
  obtain ⟨found, read, -, rfl⟩ := ofBlock_exact.mp parsed
  rw [Declaration.find?_text written] at read
  cases read
  exact ⟨rfl, fun name member => Parameter.names_named name (List.mem_of_mem_drop member)⟩

end Signature

namespace Declaration

-- The engine takes the unit that the parameters of a declaration are indented by.
def Readable [PatternEngine] (declaration : Declaration) : Prop :=
  Parameter.Readable (Parameter.indentationUnit declaration.text)

instance [PatternEngine] (declaration : Declaration) : Decidable declaration.Readable :=
  inferInstanceAs (Decidable (Parameter.Readable _))

def signature (declaration : Declaration) : Signature :=
  ⟨declaration.name,
    (Parameter.names declaration.text (Parameter.indentationUnit declaration.text)).drop 1,
    Parameter.indentationUnit declaration.text⟩

end Declaration

namespace Signature

theorem ofBlock_text [PatternEngine] {declaration : Declaration}
    (written : declaration.WellFormed) :
    ofBlock declaration.text = if declaration.Readable then .ok declaration.signature
      else .error (.patternTooBig PatternEngine.limit) :=
  ofBlock_declared (Declaration.find?_text written)

theorem readAll_result [PatternEngine] (text : Text) : readAll text =
    if ∀ block ∈ Declaration.blocks text, block.Readable then
      .ok ((Declaration.blocks text).map Declaration.signature)
    else .error (.patternTooBig PatternEngine.limit) := by
  have written := Declaration.successive_written (Declaration.sweep_successive text)
  rw [Declaration.blocks, readAll]
  generalize (sweep Declaration.form text).hits = hits at written
  induction hits with
  | nil => rfl
  | cons hit hits ih =>
    obtain ⟨first, others⟩ := List.forall_mem_cons.mp written
    rw [List.mapM_cons, ofBlock_text first, ih others]
    simp only [List.map_cons, List.forall_mem_cons]
    by_cases readable : hit.2.Readable
    · by_cases later : ∀ block ∈ hits.map (·.2), block.Readable
      · rw [if_pos readable, if_pos later, if_pos ⟨readable, later⟩]
        rfl
      · rw [if_pos readable, if_neg later, if_neg fun both => later both.2]
        rfl
    · have refused : ¬ (hit.2.Readable ∧ ∀ block ∈ hits.map (·.2), block.Readable) :=
        fun both => readable both.1
      rw [if_neg readable, if_neg refused]
      rfl

-- A body in pieces that end in a sign or have no letter a header could begin with.
theorem forwardingBody_pieces (signature : Signature) (indent : Text) :
    signature.forwardingBody indent =
      (['\n'] ++ indent ++ "// Safety: forwarded to caller\n".toList ++ indent ++ "unsafe ".toList ++
        ['{']) ++ (" ((*self.handle.as_ptr()).".toList ++ ((signature.name ++ [')']) ++
      ("(self.handle.as_ptr()".toList ++ ((signature.parameters.flatMap (", ".toList ++ ·) ++
        [')']) ++ " \x7d".toList)))) := by
  have start : "unsafe \x7b ((*self.handle.as_ptr()).".toList =
      "unsafe ".toList ++ (['{'] ++ " ((*self.handle.as_ptr()).".toList) := by decide
  have call : ")(".toList = [')'] ++ ['('] := by decide
  have opens : "(self.handle.as_ptr()".toList = ['('] ++ "self.handle.as_ptr()".toList := by decide
  have closes : ") \x7d".toList = [')'] ++ " \x7d".toList := by decide
  unfold forwardingBody arguments
  rw [start, call, opens, closes]
  simp only [List.append_assoc]

theorem forwardingBody_silent {signature : Signature} {indent : Text}
    (named : isName signature.name = true)
    (parameters : ∀ name ∈ signature.parameters, isName name = true)
    (indents : ∀ c ∈ indent, isIndent c = true) (back : Text) :
    Scan.Silent Declaration.headerForm (signature.forwardingBody indent) back := by
  have opens : ∀ name : Text, isName name = true → '(' ∉ name := fun name named =>
    sign_absent (fun c member => .inr (isName_word named c member)) paren_sign
  have blank : '(' ∉ indent := fun member => by
    cases (indents '(' member).symm.trans (by decide : isIndent '(' = false)
  rw [forwardingBody_pieces]
  apply Scan.silent_append
  · apply Declaration.silent_sign _ brace_sign (by decide)
    simp only [List.mem_append, not_or]
    exact ⟨⟨⟨⟨by decide, blank⟩, by decide⟩, blank⟩, by decide⟩
  apply Scan.silent_append (Declaration.silent_letter (by decide) _)
  apply Scan.silent_append (Declaration.silent_sign (opens _ named) closing_sign (by decide) _)
  apply Scan.silent_append (Declaration.silent_letter (by decide) _)
  apply Scan.silent_append
  · apply Declaration.silent_sign _ closing_sign (by decide)
    intro member
    obtain ⟨name, among, inside⟩ := List.mem_flatMap.mp member
    rcases List.mem_append.mp inside with separator | inside
    · exact absurd separator (by decide)
    · exact opens name (parameters name among) inside
  · exact Declaration.silent_letter (by decide) _

end Signature

structure Declaration.Shortened (block left : Declaration) : Prop where
  name : left.name = block.name
  header : left.header = block.header
  rest : ∃ front deleted back, block.rest = front ++ deleted ++ back ∧ left.rest = front ++ back

theorem Declaration.shortened_names {blocks lefts : List Declaration}
    (shortened : List.Forall₂ Shortened blocks lefts) : lefts.map (·.name) = blocks.map (·.name) := by
  induction shortened with
  | nil => rfl
  | cons first _ ih => rw [List.map_cons, List.map_cons, first.name, ih]

namespace Edit

theorem shortened [PatternEngine] {type front : Text} {edit : Edit}
    (sound : edit.Sound type front) :
    ∃ left, edit.declaration.Shortened left ∧ left.text = edit.removal.text := by
  obtain ⟨kept, before⟩ := sound.behind
  obtain ⟨kept', after⟩ := sound.ahead
  have whole : edit.declaration.header ++ edit.declaration.rest ++ ['{'] =
      edit.declaration.header ++ (kept ++ edit.removal.deleted ++ kept') ++ ['{'] := by
    have parts := sound.parts
    rw [before, after, Declaration.text] at parts
    simpa using parts
  have rest := List.append_cancel_left (List.append_cancel_right whole)
  refine ⟨⟨edit.declaration.name, edit.declaration.header, kept ++ kept'⟩,
    ⟨rfl, rfl, kept, edit.removal.deleted, kept', rest, rfl⟩, ?_⟩
  rw [Removal.text, before, after]
  simp [Declaration.text]

theorem shortened_wellFormed {block left : Declaration} (shortened : block.Shortened left)
    (written : block.WellFormed) : left.WellFormed := by
  obtain ⟨name, header, front, deleted, back, whole, rest⟩ := shortened
  have closed := written.closed
  rw [whole, List.mem_append, List.mem_append, not_or, not_or] at closed
  refine ⟨?_, ?_⟩
  · rw [name, header]
    exact written.header
  · rw [rest, List.mem_append, not_or]
    exact ⟨closed.1.1, closed.2⟩

def body (edit : Edit) : Text := edit.signature.forwardingBody (edit.indent ++ "    ".toList)

theorem body_silent [PatternEngine] {type front : Text} {edit : Edit}
    (written : edit.declaration.WellFormed)
    (sound : edit.Sound type front) (back : Text) :
    Scan.Silent Declaration.headerForm edit.body back := by
  obtain ⟨name, parameters⟩ := Signature.ofBlock_names written sound.parsed
  obtain ⟨first, second, third, -, -, -, -, -, named, -⟩ := written.header
  obtain ⟨earlier, started, -, -, indents, -⟩ := sound.indented
  apply Signature.forwardingBody_silent
  · rw [name]
    exact named
  · exact parameters
  · intro c member
    rcases List.mem_append.mp member with member | member
    · exact indents c member
    · exact List.all_eq_true.mp (by decide : "    ".toList.all isIndent = true) c member

theorem signatures_named [PatternEngine] {type : Text} {edits : List Edit}
    (written : ∀ edit ∈ edits, edit.declaration.WellFormed)
    (sounds : ∀ edit ∈ edits, ∃ front, edit.Sound type front) :
    edits.map (·.signature.name) = edits.map (·.declaration.name) := by
  refine List.map_congr_left fun edit member => ?_
  obtain ⟨front, sound⟩ := sounds edit member
  exact (Signature.ofBlock_names (written edit member) sound.parsed).1

-- What stands before is the end of a body, and begins nothing.
theorem blocks_edited [PatternEngine] {type front source tail : Text} {edits : List Edit}
    (placed : Declaration.Successive source (edits.map Edit.place) tail)
    (sounds : ∀ edit ∈ edits, ∃ front, edit.Sound type front)
    (silent : ∀ back, Scan.Silent Declaration.headerForm front back) :
    List.Forall₂ Declaration.Shortened (edits.map (·.declaration))
      (Declaration.blocks (front ++ (edits.flatMap Edit.result ++ tail))) := by
  induction edits generalizing front source with
  | nil =>
    cases placed with
    | last absent =>
      rw [List.flatMap_nil, List.nil_append, Declaration.blocks_none (silent _) absent]
      exact .nil
  | cons edit edits ih =>
    obtain ⟨⟨_, sound⟩, others⟩ := List.forall_mem_cons.mp sounds
    cases placed with
    | next written leftmost onwards =>
      obtain ⟨left, shortened, same⟩ := Edit.shortened sound
      have text : front ++ ((edit :: edits).flatMap Edit.result ++ tail) =
          (front ++ edit.gap) ++ (left.text ++ (edit.body ++ (edits.flatMap Edit.result ++ tail))) := by
        simp [Edit.result, body, same]
      have gap : Scan.Silent Declaration.headerForm (front ++ edit.gap)
          (left.text ++ (edit.body ++ (edits.flatMap Edit.result ++ tail))) := by
        apply Scan.silent_append (silent _)
        rw [Declaration.text, shortened.header, List.append_assoc, List.append_assoc]
        exact Declaration.gap_silent leftmost written _
      rw [text, Declaration.blocks_behind (shortened_wellFormed shortened written) gap]
      exact .cons shortened (ih onwards others (body_silent written sound))

end Edit

namespace WrappedSource

-- The declarations of the result are those of the source, each without its handle. So they
-- read under the same names, if they read at all.
theorem declarations_kept [PatternEngine] {type text : Text} {wrapped : WrappedSource}
    (accepted : (ofText type text).result = .ok wrapped) :
    ((∀ block ∈ Declaration.blocks wrapped.text, block.Readable) →
      ∃ signatures, Signature.readAll wrapped.text = .ok signatures ∧
        signatures.map (·.name) = wrapped.signatures.map (·.name)) ∧
    ((∃ block ∈ Declaration.blocks wrapped.text, ¬ block.Readable) →
      Signature.readAll wrapped.text = .error (.patternTooBig PatternEngine.limit)) ∧
    (Declaration.blocks wrapped.text).map (·.name) = wrapped.signatures.map (·.name) ∧
    List.Forall₂ Declaration.Shortened (Declaration.blocks text)
      (Declaration.blocks wrapped.text) := by
  have placed := Declaration.sweep_successive text
  have written := Declaration.successive_written placed
  obtain ⟨edits, places, result, signatures, sounds⟩ := wrap_exact written (ofText_exact.mp accepted).2
  have formed : ∀ edit ∈ edits, edit.declaration.WellFormed := fun edit member =>
    written edit.place (places ▸ List.mem_map_of_mem member)
  rw [← places] at placed
  have sound : ∀ edit ∈ edits, ∃ front, edit.Sound type front := by
    intro edit member
    obtain ⟨earlier, later, split⟩ := List.append_of_mem member
    exact ⟨_, sounds earlier edit later split⟩
  have blocks : Declaration.blocks text = edits.map (·.declaration) := by
    rw [Declaration.blocks, ← places, List.map_map]
    rfl
  have edited := Edit.blocks_edited placed sound (Scan.silent_nil _)
  rw [List.nil_append, ← result] at edited
  have names : (Declaration.blocks wrapped.text).map (·.name) = wrapped.signatures.map (·.name) :=
    calc (Declaration.blocks wrapped.text).map (·.name)
        = (edits.map (·.declaration)).map (·.name) := Declaration.shortened_names edited
      _ = edits.map (·.signature.name) := by
          rw [List.map_map]
          exact (Edit.signatures_named formed sound).symm
      _ = wrapped.signatures.map (·.name) := by
          rw [signatures, List.map_map]
          rfl
  refine ⟨fun readable => ?_, fun unreadable => ?_, names, blocks ▸ edited⟩
  · refine ⟨_, (Signature.readAll_result wrapped.text).trans (if_pos readable), ?_⟩
    rw [List.map_map, ← names]
    rfl
  · obtain ⟨block, member, refused⟩ := unreadable
    exact (Signature.readAll_result wrapped.text).trans (if_neg fun all => refused (all block member))

attribute [local instance] PatternEngine.standard

theorem adjacent_declarations_kept :
    ∃ wrapped signatures, (ofText "H".toList ("unsafe fn f(ph: *mut H) \x7b\x7d unsafe ".toList ++
        "unsafe fn g(\n    ph: *mut H,\n    n: c_int,\n) \x7b\n\x7d\n".toList)).result = .ok wrapped ∧
      Signature.readAll wrapped.text = .ok signatures ∧
      signatures.map (·.name) = ["f".toList, "g".toList] := by
  have given : (ofText "H".toList ("unsafe fn f(ph: *mut H) \x7b\x7d unsafe ".toList ++
      "unsafe fn g(\n    ph: *mut H,\n    n: c_int,\n) \x7b\n\x7d\n".toList)).result.toOption.map
        (fun wrapped : WrappedSource => (wrapped.signatures.map (·.name),
          decide (∀ block ∈ Declaration.blocks wrapped.text, block.Readable))) =
      some (["f".toList, "g".toList], true) := by
    decide +kernel
  obtain ⟨wrapped, read, told⟩ := Option.map_eq_some_iff.mp given
  obtain ⟨names, readable⟩ := Prod.mk.inj told
  have accepted := toOption_exact.mp read
  obtain ⟨signatures, all, same⟩ := (declarations_kept accepted).1 (of_decide_eq_true readable)
  exact ⟨wrapped, signatures, accepted, all, same.trans names⟩

end WrappedSource
end PluginBindings
