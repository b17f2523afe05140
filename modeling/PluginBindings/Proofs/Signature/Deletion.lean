import PluginBindings.Proofs.Signature.ParameterList
import PluginBindings.Proofs.Signature.Wrapper

namespace PluginBindings

-- A parameter that takes a pointer to the type, in any layout.
def Formal.IsHandle (type : Text) (entry : Formal) : Prop :=
  ∃ first second third, entry.type = first ++ "*mut".toList ++ second ++ type ++ third ∧
    (∀ c ∈ first, isBlank c = true) ∧ second ≠ [] ∧ (∀ c ∈ second, isBlank c = true) ∧
    ∀ c ∈ third, isBlank c = true

theorem isHandle_written {type : Text} {entry : Formal} (formed : entry.WellFormed angles)
    (handle : entry.IsHandle type) :
    ∃ core blanks, entry.type = core ++ blanks ∧ (∀ c ∈ blanks, isBlank c = true) ∧
      Removal.Handle isBlank type entry.name (entry.name ++ entry.gap ++ ':' :: core) := by
  obtain ⟨star, third, blanks, whole, run, nonempty, run', run''⟩ := handle
  exact ⟨_, blanks, whole, run'', entry.gap, star, third, by simp, formed.named, formed.gap, run,
    nonempty, run'⟩

-- A span that is one declaration up to the blanks and the comma that go with it.
def Removal.Deletes (front declared : Text) (removal : Removal) : Prop :=
  ∃ lead trail, removal.before ++ lead = front ∧ removal.deleted = lead ++ declared ++ trail ∧
    (∀ c ∈ lead ++ trail, isBlank c = true ∨ c = ',') ∧ (lead ++ trail).count ',' ≤ 1

namespace Block

def FirstDeleted (block : Block) (removal : Removal) : Prop :=
  ∃ first rest core blanks, block.entries = first :: rest ∧ first.type = core ++ blanks ∧
    (∀ c ∈ blanks, isBlank c = true) ∧
    removal.Deletes (block.opening ++ first.lead) (first.name ++ first.gap ++ ':' :: core)

def AloneBehind (type : Text) (block : Block) (front : Text) : Prop :=
  Scan.startsLine true front = true ∧
    ∃ name line back, block.text = front ++ line ++ back ∧ Removal.Alone type name line

-- The first parameter is the handle, and where any line holds one alone it is its line.
def HandleFirst (type : Text) (block : Block) : Prop :=
  ∃ first rest, block.entries = first :: rest ∧ first.IsHandle type ∧
    ((∀ front, ¬ block.AloneBehind type front) ∨
      ∃ front lead, block.opening ++ first.lead = front ++ lead ∧
        (∀ c ∈ lead, isIndent c = true) ∧ block.AloneBehind type front)

theorem first_no_colon {block : Block} (written : block.Listed angles)
    (entries : block.entries = first :: rest) :
    ':' ∉ block.opening ++ first.lead ++ first.name ++ first.gap := by
  have formed := written.entries first (by simp [entries])
  have front := sign_absent (Formal.front_plain formed) colon_sign
  have header := Declaration.header_lacks written.header colon_sign (by decide)
  have receivers : ':' ∉ block.receivers.flatMap (· ++ [',']) := by
    intro member
    obtain ⟨part, among, inside⟩ := List.mem_flatMap.mp member
    exact sign_absent (receivers_plain written part among) colon_sign (by simpa using inside)
  simp only [opening, List.mem_append, not_or] at front header receivers ⊢
  exact ⟨⟨⟨⟨header, receivers⟩, front.1.1⟩, front.1.2⟩, front.2⟩

theorem text_colon {block : Block} (entries : block.entries = first :: rest) :
    block.text = (block.opening ++ first.lead ++ first.name ++ first.gap) ++
      ':' :: (first.type ++ block.behind rest) := by
  rw [text_first entries, Formal.text]
  simp

end Block

def separates (c : Char) : Bool := isBlank c || c == ','

theorem word_not_around (word : isWord c = true) : ¬ (isBlank c = true ∨ c = ',') := by
  intro around
  rcases around with blank | rfl
  · cases (word_not_blank word).symm.trans blank
  · cases comma_sign.2.symm.trans word

theorem name_stops_separates {name rest : Text} (named : isName name = true) :
    Stops separates (name ++ rest) := by
  cases name with
  | nil => cases named
  | cons c name =>
    have word := isName_word named c (by simp)
    simpa [separates] using word_not_around word

theorem around_separates {text : Text} (around : ∀ c ∈ text, isBlank c = true ∨ c = ',') :
    ∀ c ∈ text, separates c = true := by
  intro c member
  simpa [separates] using around c member

theorem around_blank {text : Text} (around : ∀ c ∈ text, isBlank c = true ∨ c = ',')
    (lone : ',' ∉ text) : ∀ c ∈ text, isBlank c = true := by
  intro c member
  rcases around c member with blank | rfl
  · exact blank
  · exact absurd member lone

theorem place_unique {lead name trail lead' name' entry' trail' : Text} (named : isName name = true)
    (around : ∀ c ∈ lead, isBlank c = true ∨ c = ',')
    (written : Removal.Handle isBlank type name' entry')
    (around' : ∀ c ∈ lead', isBlank c = true ∨ c = ',')
    (same : lead ++ (name ++ trail) = lead' ++ (entry' ++ trail')) :
    lead = lead' ∧ name ++ trail = entry' ++ trail' := by
  obtain ⟨first, second, third, rfl, named', -⟩ := written
  simp only [List.append_assoc] at same ⊢
  exact run_unique same (around_separates around) (name_stops_separates named)
    (around_separates around') (name_stops_separates named')

-- Two ways to read one text up to its first colon agree, and so do the types behind it.
theorem handle_type {name gap core trail name' entry' trail' : Text} (named : isName name = true)
    (run : ∀ c ∈ gap, isBlank c = true) (written : Removal.Handle isBlank type name' entry')
    (same : name ++ (gap ++ ':' :: core ++ trail) = entry' ++ trail') :
    ∃ front second third, entry' = front ++ (second ++ "*mut".toList ++ third ++ type) ∧
      core ++ trail = (second ++ "*mut".toList ++ third ++ type) ++ trail' ∧
      (∀ c ∈ second, isBlank c = true) ∧ third ≠ [] ∧ ∀ c ∈ third, isBlank c = true := by
  obtain ⟨gap', second, third, rfl, named', run', run'', nonempty, run3⟩ := written
  refine ⟨name' ++ gap' ++ [':'], second, third, by simp, ?_, run'', nonempty, run3⟩
  simp only [List.append_assoc, List.cons_append] at same
  obtain ⟨-, behindName⟩ := run_unique same (isName_word named)
    (blank_stops_word run (colon_stops _).1) (isName_word named')
    (blank_stops_word run' (colon_stops _).1)
  obtain ⟨-, atColon⟩ := run_unique behindName run (colon_stops _).2 run' (colon_stops _).2
  simpa using (List.cons.inj atColon).2

theorem deleted_isHandle {removal : Removal} {first : Formal} {lead core blanks trail : Text}
    {lead' entry' trail' : Text} (typed : isName type = true) (formed : first.WellFormed angles)
    (whole : first.type = core ++ blanks) (run : ∀ c ∈ blanks, isBlank c = true)
    (deleted : removal.deleted = lead ++ (first.name ++ first.gap ++ ':' :: core) ++ trail)
    (around : ∀ c ∈ lead ++ trail, isBlank c = true ∨ c = ',')
    (cut : Removal.Cut type removal lead' entry' trail') : first.IsHandle type := by
  have placed : lead = lead' ∧
      first.name ++ (first.gap ++ ':' :: core ++ trail) = entry' ++ trail' := by
    refine place_unique formed.named (fun c member => around c (by simp [member])) cut.written
      (fun c member => cut.around c (by simp [member])) ?_
    rw [← List.append_assoc lead', ← cut.deleted, deleted]
    simp
  obtain ⟨front, second, third, shape, atType, run', nonempty, run''⟩ :=
    handle_type formed.named formed.gap cut.written placed.2
  rcases List.append_eq_append_iff.mp atType with ⟨more, longer, later⟩ | ⟨more, longer, later⟩
  · rcases List.eq_nil_or_concat more with rfl | ⟨front, c, rfl⟩
    · refine ⟨second, third, blanks, ?_, run', nonempty, run'', run⟩
      rw [whole, ← List.append_nil core, ← longer]
    · have ends := congrArg List.getLast? longer
      rw [List.getLast?_append, List.getLast?_eq_some_getLast (isName_nonempty typed)] at ends
      have last : type.getLast (isName_nonempty typed) = c := by simpa using ends
      have word := isName_word typed c (last ▸ List.getLast_mem _)
      exact absurd (around c (by simp [later])) (word_not_around word)
  · have inside : ∀ c ∈ more, isBlank c = true ∨ c = ',' := fun c member =>
      cut.around c (by simp [later, member])
    have plain : ∀ c ∈ core, isBracket c = false := by
      intro c member
      rw [longer] at member
      rcases List.mem_append.mp member with member | member
      · refine Removal.handle_no_bracket cut.written (fun c member => word_no_bracket
          (isName_word typed c member)) c ?_
        rw [shape]
        exact List.mem_append_right _ member
      · exact Removal.around_no_bracket (inside c member)
    have lone : ',' ∉ more := by
      intro comma
      apply balanced_no_comma (whole ▸ formed.typed) plain
      rw [longer]
      exact List.mem_append_right _ comma
    refine ⟨second, third, more ++ blanks, ?_, run', nonempty, run'', ?_⟩
    · rw [whole, longer]
      simp
    · intro c member
      rcases List.mem_append.mp member with member | member
      · exact around_blank inside lone c member
      · exact run c member

namespace Block

theorem firstDeleted_handleFirst {block : Block} {removal : Removal} (typed : isName type = true)
    (written : block.WellFormed angles) (found : Removal.find? type block.text = some removal)
    (deleted : block.FirstDeleted removal) : block.HandleFirst type := by
  obtain ⟨first, rest, core, blanks, entries, whole, run, lead, trail, place, span, around, -⟩ :=
    deleted
  obtain ⟨parts, lead', entry', trail', cut⟩ := Removal.find?_cut found
  have formed := written.entries first (by simp [entries])
  refine ⟨first, rest, entries, deleted_isHandle typed formed whole run span around cut, ?_⟩
  cases line : Scan.findAtLineStart (Removal.ownLineForm type) true block.text with
  | none =>
    left
    rintro front ⟨starts, name, line', back, same, alone⟩
    rw [List.append_assoc] at same
    have absent := Scan.findAtLineStart_none_exact.mp line front (line' ++ back) same starts
    rw [Removal.ownLineForm_complete (fun _ => name_stops_blank typed) alone] at absent
    cases absent
  | some read =>
    right
    obtain ⟨front, name, back⟩ := read
    obtain ⟨_, same, starts, alone, removed⟩ := Removal.find?_line line
    cases found.symm.trans removed
    refine ⟨front, lead, place.symm, ?_, starts, name, _, back, same, alone⟩
    obtain ⟨lead2, entry2, trail2, rfl, run2, written2, -⟩ := alone
    have ahead : ∀ c ∈ lead, isBlank c = true ∨ c = ',' := fun c member =>
      around c (by simp [member])
    have span : lead ++ (first.name ++ (first.gap ++ ':' :: core ++ trail)) =
        lead2 ++ (entry2 ++ trail2) := by simpa using span.symm
    have placed := place_unique formed.named ahead (Removal.handle_widens written2)
      (fun c member => .inl (indent_blank (run2 c member))) span
    exact placed.1 ▸ run2

theorem firstDeleted_at {block : Block} {removal : Removal} {lead entry trail : Text}
    (typed : isName type = true) (formed : first.WellFormed angles)
    (entries : block.entries = first :: rest) (handle : first.IsHandle type)
    (parts : block.text = removal.before ++ removal.deleted ++ removal.after)
    (cut : Removal.Cut type removal lead entry trail)
    (place : removal.before ++ lead = block.opening ++ first.lead) : block.FirstDeleted removal := by
  obtain ⟨core, blanks, whole, run, written⟩ := isHandle_written formed handle
  have same : (block.opening ++ first.lead) ++ (entry ++ (trail ++ removal.after)) =
      (block.opening ++ first.lead) ++
        ((first.name ++ first.gap ++ ':' :: core) ++ (blanks ++ block.behind rest)) := by
    calc (block.opening ++ first.lead) ++ (entry ++ (trail ++ removal.after))
        = removal.before ++ removal.deleted ++ removal.after := by rw [← place, cut.deleted]; simp
      _ = block.text := parts.symm
      _ = _ := by rw [text_first entries, Formal.text, whole]; simp
  obtain ⟨-, rfl, -⟩ := Removal.handle_unique typed cut.written written (List.append_cancel_left same)
  exact ⟨first, rest, _, blanks, entries, whole, run, lead, trail, place, cut.deleted, cut.around,
    cut.commas⟩

theorem opening_last {block : Block} (written : block.Listed angles) :
    ∃ front c, block.opening = front ++ [c] ∧ isBlank c = false ∧ isWord c = false := by
  obtain ⟨words, same⟩ := Declaration.header_opens written.header
  cases receiver : block.receiver with
  | none => exact ⟨words, '(', by simp [opening, receivers, receiver, same], paren_sign⟩
  | some blanks =>
    exact ⟨block.header ++ (blanks.1 ++ "self".toList ++ blanks.2), ',',
      by simp [opening, receivers, receiver], comma_sign⟩

theorem opening_ends {block : Block} (written : block.Listed angles)
    (blanks : ∀ c ∈ lead, isBlank c = true) : Stops isWord (block.opening ++ lead).reverse := by
  obtain ⟨front, c, same, -, word⟩ := opening_last written
  rw [List.reverse_append, same]
  exact blank_stops_word (by simpa using blanks) (by simpa using word)

-- A handle that begins no later than the first parameter, separators aside, is that parameter.
theorem place_first {block : Block} {gap tail front name entry z : Text}
    (written : block.WellFormed angles) (entries : block.entries = first :: rest)
    (within : block.opening ++ first.lead = gap ++ tail)
    (around : ∀ c ∈ front, isBlank c = true ∨ c = ',')
    (handle : Removal.Handle isBlank type name entry)
    (same : block.text = gap ++ front ++ entry ++ z) :
    gap ++ front = block.opening ++ first.lead := by
  have formed := written.entries first (by simp [entries])
  obtain ⟨space, second, third, rfl, named, run, -⟩ := handle
  have absent := first_no_colon written.listed entries
  have absent' : ':' ∉ gap ++ front ++ name ++ space := by
    rw [within, List.append_assoc, List.append_assoc, List.mem_append, not_or] at absent
    rw [List.append_assoc, List.append_assoc, ← List.append_assoc front, List.mem_append, not_or]
    exact ⟨absent.1, Removal.separated_no_colon around named run⟩
  have whole : (gap ++ front ++ name ++ space) ++
        ':' :: (second ++ "*mut".toList ++ third ++ type ++ z) =
      (block.opening ++ first.lead ++ first.name ++ first.gap) ++
        ':' :: (first.type ++ block.behind rest) := by
    rw [← text_colon entries, same]
    simp
  have colon := (Text.cut_unique whole absent' absent).1
  have names : gap ++ front ++ name = block.opening ++ first.lead ++ first.name :=
    (blanks_unique (by simpa using colon) named run formed.named formed.gap).1
  rcases List.append_eq_append_iff.mp names with ⟨more, longer, later⟩ | ⟨more, longer, later⟩
  · rcases List.eq_nil_or_concat more with rfl | ⟨word, c, rfl⟩
    · simp [longer]
    · -- the name would reach back over the sign that the opening ends in
      have stops := opening_ends written.listed formed.lead
      rw [longer] at stops
      have word := isName_word named c (by simp [later])
      cases word.symm.trans (by simpa using stops)
  · rcases List.eq_nil_or_concat more with rfl | ⟨word, c, rfl⟩
    · simp [longer]
    · -- the name would begin within the parameter's, behind separators that are no word
      exfalso
      have word := isName_word formed.named c (by simp [later])
      rcases List.eq_nil_or_concat front with rfl | ⟨front, d, rfl⟩
      · have size := congrArg List.length longer
        rw [within] at size
        simp at size
      · have last := congrArg List.getLast? longer
        have same : d = c := by simpa using last
        subst same
        exact absurd (around d (by simp)) (word_not_around word)

theorem firstDeleted_alone {block : Block} {removal : Removal} {front lead : Text}
    (typed : isName type = true) (written : block.WellFormed angles)
    (entries : block.entries = first :: rest) (handle : first.IsHandle type)
    (place : block.opening ++ first.lead = front ++ lead) (own : block.AloneBehind type front)
    (found : Removal.find? type block.text = some removal) : block.FirstDeleted removal := by
  obtain ⟨starts, name, line, back, same, alone⟩ := own
  rw [List.append_assoc] at same
  have stands : Removal.ownLineForm type (line ++ back) = some (name, back) :=
    Removal.ownLineForm_complete (fun _ => name_stops_blank typed) alone
  cases earliest : Scan.findAtLineStart (Removal.ownLineForm type) true block.text with
  | none =>
    have absent := Scan.findAtLineStart_none_exact.mp earliest front (line ++ back) same starts
    cases absent.symm.trans stands
  | some read =>
    obtain ⟨gap, name', back'⟩ := read
    obtain ⟨shift, before⟩ := Scan.findAtLineStart_leftmost earliest same starts stands
    obtain ⟨line', same', -, alone', removed⟩ := Removal.find?_line earliest
    cases found.symm.trans removed
    obtain ⟨lead', entry, trail, cut, run, -⟩ := Removal.alone_cut gap back' alone'
    have within : block.opening ++ first.lead = gap ++ (shift ++ lead) := by
      rw [place, before]
      simp
    have whole : block.text = gap ++ lead' ++ entry ++ (trail ++ back') := by
      rw [same', show line' = lead' ++ entry ++ trail from cut.deleted]
      simp
    apply firstDeleted_at typed (written.entries first (by simp [entries])) entries handle same' cut
    exact place_first written entries within (fun c member => .inl (indent_blank (run c member)))
      cut.written whole

theorem behind_stops (block : Block) (rest : List Formal) (comma : accepts ',' = false)
    (closing : accepts ')' = false) : Stops accepts (block.behind rest) := by
  rw [behind]
  cases block.later rest with
  | nil => simpa using closing
  | cons part parts => simpa using comma

theorem inlineEntry_first {block : Block} (typed : isName type = true)
    (written : block.WellFormed angles) (entries : block.entries = first :: rest)
    (handle : first.IsHandle type) :
    ∃ opened back, block.text = block.opening ++ first.lead ++ opened ∧
      Removal.inlineEntry type opened = some (first.name, back) ∧ Stops separates opened := by
  have formed := written.entries first (by simp [entries])
  obtain ⟨core, blanks, whole, run, declared⟩ := isHandle_written formed handle
  refine ⟨_, _, ?_, Removal.inlineEntry_complete (fun _ => name_stops_blank typed) declared
    ((Removal.boundary_exact typed).mpr
      (blank_stops_word run (block.behind_stops rest (by decide +kernel) (by decide +kernel)))), ?_⟩
  · rw [text_first entries, Formal.text, whole]
    simp
  · rw [List.append_assoc, List.append_assoc]
    exact name_stops_separates formed.named

theorem inlineForm_first {block : Block} (typed : isName type = true)
    (written : block.WellFormed angles) (entries : block.entries = first :: rest)
    (handle : first.IsHandle type) :
    ∃ front tail source removal back, block.opening ++ first.lead = front ++ tail ∧
      block.text = front ++ source ∧
      Removal.inlineForm type source = some (removal, back) := by
  have formed := written.entries first (by simp [entries])
  obtain ⟨opened, back, text, entered, stops⟩ := inlineEntry_first typed written entries handle
  cases receiver : block.receiver with
  | none =>
    have absent : Removal.comma? opened = none := by
      refine Removal.comma?_none_exact.mpr fun comma => ?_
      exact absurd (stops ',' comma) (by decide)
    obtain ⟨removal, back, stands⟩ := Removal.inlineForm_stands (by rw [absent]; rfl) entered
    exact ⟨block.opening ++ first.lead, [], opened, removal, back, by simp, text, stands⟩
  | some around =>
    have opening : block.opening =
        block.header ++ (around.1 ++ "self".toList ++ around.2) ++ [','] := by
      simp [Block.opening, receivers, receiver]
    have blank : Stops isBlank opened := fun c member => by
      simpa [separates] using (Bool.or_eq_false_iff.mp (stops c member)).1
    have present : Removal.comma? (',' :: first.lead ++ opened) = some opened :=
      Removal.comma?_exact.mpr ⟨first.lead, rfl, formed.lead, blank⟩
    obtain ⟨removal, back, stands⟩ := Removal.inlineForm_stands (by rw [present]; rfl) entered
    refine ⟨block.header ++ (around.1 ++ "self".toList ++ around.2), ',' :: first.lead,
      ',' :: first.lead ++ opened, removal, back, ?_, ?_, stands⟩
    · rw [opening]
      simp
    · rw [text, opening]
      simp

theorem firstDeleted_among {block : Block} {removal : Removal} (typed : isName type = true)
    (written : block.WellFormed angles) (entries : block.entries = first :: rest)
    (handle : first.IsHandle type) (absent : ∀ front, ¬ block.AloneBehind type front)
    (found : Removal.find? type block.text = some removal) : block.FirstDeleted removal := by
  have none : Scan.findAtLineStart (Removal.ownLineForm type) true block.text = none := by
    refine Scan.findAtLineStart_none_exact.mpr fun front source same starts => ?_
    cases read : Removal.ownLineForm type source with
    | none => rfl
    | some reading =>
      obtain ⟨line, rfl, alone⟩ := Removal.ownLineForm_sound read
      exact absurd ⟨starts, reading.1, line, reading.2, by simp [same], alone⟩ (absent front)
  obtain ⟨gap, inner, back, place, rfl⟩ := Removal.find?_among none found
  obtain ⟨front, tail, source, _, _, within, text, stands⟩ :=
    inlineForm_first typed written entries handle
  obtain ⟨shift, rfl⟩ := Scan.findFirst_leftmost place text stands
  obtain ⟨_, split, read, -⟩ := Scan.findFirst_some_exact.mp place
  obtain ⟨front', entry, back', rfl, placed, lead, trail, rfl, rfl, cut⟩ := Removal.inlineForm_cut read
  have around := (Removal.opened_around placed).1
  have whole : block.text = gap ++ (inner.before ++ lead) ++ entry ++ (trail ++ inner.after) := by
    rw [split]
    simp
  have ahead := place_first written entries (within.trans (List.append_assoc ..)) around cut.written
    whole
  refine firstDeleted_at typed (written.entries _ (by simp [entries])) entries handle ?_
    ⟨cut.deleted, cut.written, cut.around, cut.commas, cut.bounded⟩ (by simpa using ahead)
  rw [split, cut.deleted]
  simp

theorem firstDeleted_exact {block : Block} {removal : Removal} (typed : isName type = true)
    (written : block.WellFormed angles) (found : Removal.find? type block.text = some removal) :
    block.FirstDeleted removal ↔ block.HandleFirst type := by
  refine ⟨firstDeleted_handleFirst typed written found, ?_⟩
  intro first
  obtain ⟨first, rest, entries, handle, absent | ⟨front, lead, place, -, own⟩⟩ := first
  · exact firstDeleted_among typed written entries handle absent found
  · exact firstDeleted_alone typed written entries handle place own found

end Block
end PluginBindings
