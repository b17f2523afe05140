import PluginBindings.Proofs.Signature.Deletion

namespace PluginBindings

theorem blanks_behind {front gap back lead : Text} (same : front ++ gap = back ++ lead)
    (stops : Stops isBlank front.reverse) (run : ∀ c ∈ lead, isBlank c = true) :
    ∃ kept, back = front ++ kept ∧ gap = kept ++ lead := by
  rcases List.append_eq_append_iff.mp same with ⟨kept, longer, rest⟩ | ⟨more, longer, rest⟩
  · exact ⟨kept, longer, rest⟩
  · rcases List.eq_nil_or_concat more with rfl | ⟨word, c, rfl⟩
    · exact ⟨[], by simpa using longer.symm, by simpa using rest.symm⟩
    · rw [longer] at stops
      cases (run c (by simp [rest])).symm.trans (by simpa using stops)

theorem blanks_ahead {gap front trail back : Text} (same : trail ++ back = gap ++ front)
    (stops : Stops isBlank front) (run : ∀ c ∈ trail, isBlank c = true) :
    ∃ kept, back = kept ++ front ∧ gap = trail ++ kept := by
  rcases List.append_eq_append_iff.mp same with ⟨kept, longer, rest⟩ | ⟨more, longer, rest⟩
  · exact ⟨kept, rest, longer⟩
  · cases more with
    | nil => exact ⟨[], by simpa using rest.symm, by simpa using longer.symm⟩
    | cons c more =>
      rw [rest, List.cons_append, stops_cons] at stops
      cases (run c (by simp [longer])).symm.trans stops

-- With one comma at most, what goes with a handle is blank on at least one side of it.
theorem around_parts {text : Text} (around : ∀ c ∈ text, isBlank c = true ∨ c = ',')
    (few : text.count ',' ≤ 1) :
    (∀ c ∈ text, isBlank c = true) ∨ ∃ front back, text = front ++ ',' :: back ∧
      (∀ c ∈ front, isBlank c = true) ∧ ∀ c ∈ back, isBlank c = true := by
  by_cases comma : ',' ∈ text
  · right
    obtain ⟨front, back, rfl⟩ := List.append_of_mem comma
    have none : front.count ',' = 0 ∧ back.count ',' = 0 := by
      simp only [List.count_append, List.count_cons_self] at few
      omega
    refine ⟨front, back, rfl, ?_, ?_⟩
    · exact around_blank (fun c member => around c (by simp [member])) (List.count_eq_zero.mp none.1)
    · exact around_blank (fun c member => around c (by simp [member])) (List.count_eq_zero.mp none.2)
  · left
    exact around_blank around comma

theorem trim_nonempty {text : Text} (member : c ∈ text) (written : isBlank c = false) :
    Text.trim text ≠ [] := by
  intro empty
  obtain ⟨front, back, rfl, run, run', -⟩ := trim_exact.mp empty
  rcases List.mem_append.mp member with inside | inside
  · cases written.symm.trans (run c (by simpa using inside))
  · cases written.symm.trans (run' c inside)

-- The pieces between the commas outside brackets, without blanks and without the empty ones.
def Lists (angles : Bool) (list : Text) (parameters : List Text) : Prop :=
  ∃ segments, list = Text.join [','] segments ∧
    (∀ segment ∈ segments, Balanced angles false segment) ∧
    (segments.map Text.trim).filter (· ≠ []) = parameters

namespace Block

theorem receivers_trim {block : Block} (written : block.WellFormed angles) :
    ∀ part ∈ block.receivers, Text.trim part = "self".toList := by
  intro part member
  obtain ⟨blanks, given, rfl⟩ := List.mem_map.mp member
  obtain ⟨run, run'⟩ := written.receiver blanks (by simpa using given)
  exact (trim_around run run').trans (by decide)

theorem receivers_balanced {block : Block} (written : block.WellFormed angles) :
    ∀ part ∈ block.receivers, Balanced angles false part :=
  fun part member => segments_balanced written.listed part (by simp [segments, member])

theorem entry_trim (entry : Formal) : Text.trim entry.text ≠ [] := by
  have colon : ':' ∈ entry.text := by simp [Formal.text]
  exact trim_nonempty colon (by decide)

theorem later_balanced {block : Block} (written : block.WellFormed angles)
    (entries : block.entries = first :: rest) :
    ∀ part ∈ block.later rest, Balanced angles false part := by
  intro part member
  apply segments_balanced written.listed part
  rw [later] at member
  simp only [segments, entries, List.map_cons, List.mem_append, List.mem_cons] at member ⊢
  exact member.elim (fun among => .inl (.inr (.inr among))) .inr

theorem later_declares {block : Block} (written : block.WellFormed angles) (rest : List Formal) :
    ((block.later rest).map Text.trim).filter (· ≠ []) = (rest.map Formal.text).map Text.trim := by
  rw [later, List.map_append, List.filter_append, List.filter_eq_self.mpr, List.filter_eq_nil_iff.mpr]
  · simp
  · intro part member
    obtain ⟨blanks, given, rfl⟩ := List.mem_map.mp member
    simp [trim_blank (written.trailing blanks (by simpa using given))]
  · intro part member
    obtain ⟨_, among, rfl⟩ := List.mem_map.mp member
    obtain ⟨entry, -, rfl⟩ := List.mem_map.mp among
    simpa using entry_trim entry

theorem receivers_declare {block : Block} (written : block.WellFormed angles) :
    (block.receivers.map Text.trim).filter (· ≠ []) = block.receivers.map Text.trim := by
  refine List.filter_eq_self.mpr fun part member => ?_
  obtain ⟨receiver, given, rfl⟩ := List.mem_map.mp member
  simp [receivers_trim written receiver given]

def LeavesOthers (angles : Bool) (block : Block) (removal : Removal) : Prop :=
  ∃ list, removal.text = block.header ++ list ++ ')' :: block.returns ++ ['{'] ∧
    Lists angles list
      (block.receivers.map Text.trim ++ (block.entries.tail.map Formal.text).map Text.trim)

theorem lists_joined {block : Block} {removal : Removal} {earlier later : List Text} {part : Text}
    (text : removal.text = block.header ++ earlier.flatMap (· ++ [',']) ++ part ++
      (later.flatMap ([','] ++ ·) ++ ')' :: block.returns ++ ['{']))
    (balanced : ∀ segment ∈ earlier ++ part :: later, Balanced angles false segment)
    (declares : ((earlier ++ part :: later).map Text.trim).filter (· ≠ []) =
      block.receivers.map Text.trim ++ (block.entries.tail.map Formal.text).map Text.trim) :
    block.LeavesOthers angles removal := by
  refine ⟨Text.join [','] (earlier ++ part :: later), ?_, _, rfl, balanced, declares⟩
  rw [text, join_append]
  simp

-- No comma goes: a blank piece is left where the parameter stood.
theorem leaves_blank {block : Block} {removal : Removal} {kept kept' : Text}
    (written : block.WellFormed angles) (entries : block.entries = first :: rest)
    (before : removal.before = block.opening ++ kept) (blank : ∀ c ∈ kept, isBlank c = true)
    (after : removal.after = kept' ++ block.behind rest) (blank' : ∀ c ∈ kept', isBlank c = true) :
    block.LeavesOthers angles removal := by
  have blanks : ∀ c ∈ kept ++ kept', isBlank c = true := fun c member =>
    (List.mem_append.mp member).elim (blank c) (blank' c)
  have text : removal.text = block.header ++ block.receivers.flatMap (· ++ [',']) ++
      (kept ++ kept') ++ ((block.later rest).flatMap ([','] ++ ·) ++ ')' :: block.returns ++ ['{']) := by
    rw [Removal.text, before, after]
    simp [opening, behind]
  apply lists_joined text
  · intro segment member
    rcases List.mem_append.mp member with receiver | member
    · exact receivers_balanced written segment receiver
    · rcases List.mem_cons.mp member with rfl | later
      · exact balanced_blank blanks
      · exact later_balanced written entries segment later
  · rw [List.map_append, List.filter_append, receivers_declare written, List.map_cons,
      trim_blank blanks, List.filter_cons_of_neg (by simp), later_declares written, entries,
      List.tail_cons]

-- The comma behind goes: what is left of the blanks before it joins the next piece.
theorem leaves_next {block : Block} {removal : Removal} {kept trail : Text}
    (written : block.WellFormed angles) (entries : block.entries = first :: rest)
    (before : removal.before = block.opening ++ kept) (blank : ∀ c ∈ kept, isBlank c = true)
    (after : ',' :: (trail ++ removal.after) = block.behind rest)
    (blank' : ∀ c ∈ trail, isBlank c = true) : block.LeavesOthers angles removal := by
  have balanced := later_balanced written entries
  have declares := later_declares written rest
  rw [behind] at after
  cases others : block.later rest with
  | nil => simp [others] at after
  | cons next others' =>
    rw [others] at after balanced declares
    have onwards : trail ++ removal.after =
        next ++ (others'.flatMap ([','] ++ ·) ++ ')' :: block.returns ++ ['{']) := by
      simpa using after
    have stops : Stops isBlank (others'.flatMap ([','] ++ ·) ++ ')' :: block.returns ++ ['{']) := by
      cases others' with
      | nil => simp; decide
      | cons part parts => simp; decide
    obtain ⟨kept', behindTrail, rfl⟩ := blanks_ahead onwards stops blank'
    have trimmed : Text.trim (kept ++ kept') = Text.trim (trail ++ kept') :=
      (trim_behind blank).trans (trim_behind blank').symm
    have text : removal.text = block.header ++ block.receivers.flatMap (· ++ [',']) ++
        (kept ++ kept') ++ (others'.flatMap ([','] ++ ·) ++ ')' :: block.returns ++ ['{']) := by
      rw [Removal.text, before, behindTrail]
      simp [opening]
    apply lists_joined text
    · intro segment member
      rcases List.mem_append.mp member with receiver | member
      · exact receivers_balanced written segment receiver
      · rcases List.mem_cons.mp member with rfl | later
        · exact balanced_append (balanced_blank blank)
            (balanced_behind (balanced _ (by simp)) blank')
        · exact balanced segment (by simp [later])
    · rw [List.map_append, List.filter_append, receivers_declare written, List.map_cons, trimmed,
        ← List.map_cons, declares, entries, List.tail_cons]

theorem comma_receiver {block : Block} {first : Formal} {before front back : Text}
    (written : block.WellFormed angles) (formed : first.WellFormed angles)
    (place : before ++ (front ++ ',' :: back) = block.opening ++ first.lead)
    (blank : ∀ c ∈ front, isBlank c = true) (blankBack : ∀ c ∈ back, isBlank c = true) :
    ∃ around kept, block.receiver = some around ∧ around.2 = kept ++ front ∧
      before = block.header ++ around.1 ++ "self".toList ++ kept := by
  have noComma : ∀ {text : Text}, (∀ c ∈ text, isBlank c = true) → ',' ∉ text :=
    fun run => List.count_eq_zero.mp (Removal.blanks_no_comma run)
  cases receiver : block.receiver with
  | none =>
    have header : ',' ∉ block.header :=
      Declaration.header_lacks written.header comma_sign (by decide)
    have member : ',' ∈ block.opening ++ first.lead := by rw [← place]; simp
    simp only [opening, receivers, receiver, Option.toList_none, List.map_nil, List.flatMap_nil,
      List.append_nil, List.mem_append] at member
    exact absurd member (not_or.mpr ⟨header, noComma formed.lead⟩)
  | some around =>
    have opened : block.opening = block.header ++ around.1 ++ "self".toList ++ around.2 ++ [','] := by
      simp [opening, receivers, receiver]
    have places : (before ++ front) ++ ',' :: back =
        (block.header ++ around.1 ++ "self".toList ++ around.2) ++ ',' :: first.lead := by
      rw [opened] at place
      simpa using place
    have cut := Text.cutAtLast?_exact.mpr ⟨places, noComma formed.lead⟩
    rw [Text.cutAtLast?_exact.mpr ⟨rfl, noComma blankBack⟩] at cut
    have ends : (block.header ++ around.1 ++ "self".toList) ++ around.2 = before ++ front := by
      injection cut with cut
      exact (Prod.mk.inj cut).1.symm
    have stops : Stops isBlank (block.header ++ around.1 ++ "self".toList).reverse := by
      simp
      decide
    obtain ⟨kept, before, parts⟩ := blanks_behind ends stops blank
    exact ⟨around, kept, rfl, parts, before⟩

-- The comma before goes: what is left of the blanks on both sides joins the receiver's own.
theorem leaves_receiver {block : Block} {removal : Removal} {front back kept' : Text}
    (written : block.WellFormed angles) (entries : block.entries = first :: rest)
    (place : removal.before ++ (front ++ ',' :: back) = block.opening ++ first.lead)
    (blank : ∀ c ∈ front, isBlank c = true) (blankBack : ∀ c ∈ back, isBlank c = true)
    (after : removal.after = kept' ++ block.behind rest) (blank' : ∀ c ∈ kept', isBlank c = true) :
    block.LeavesOthers angles removal := by
  obtain ⟨around, kept, receiver, parts, before⟩ :=
    comma_receiver written (written.entries first (by simp [entries])) place blank blankBack
  obtain ⟨run, run'⟩ := written.receiver around (by simp [receiver])
  have blanks : ∀ c ∈ kept ++ kept', isBlank c = true := fun c member =>
    (List.mem_append.mp member).elim (fun member => run' c (by simp [parts, member])) (blank' c)
  have text : removal.text = block.header ++ ([] : List Text).flatMap (· ++ [',']) ++
      (around.1 ++ "self".toList ++ (kept ++ kept')) ++
      ((block.later rest).flatMap ([','] ++ ·) ++ ')' :: block.returns ++ ['{']) := by
    rw [Removal.text, before, after]
    simp [behind]
  have trimmed : Text.trim (around.1 ++ "self".toList ++ (kept ++ kept')) = "self".toList :=
    (trim_around run blanks).trans (by decide)
  have receivers : block.receivers.map Text.trim = ["self".toList] := by
    simp only [Block.receivers, receiver, Option.toList_some, List.map_cons, List.map_nil]
    rw [trim_around run run']
    decide
  apply lists_joined text
  · intro segment member
    rcases List.mem_cons.mp member with rfl | later
    · exact balanced_append (balanced_append (balanced_blank run)
        (balanced_words fun c member => .inr (self_word c member))) (balanced_blank blanks)
    · exact later_balanced written entries segment later
  · rw [List.nil_append, List.map_cons, trimmed, List.filter_cons_of_pos (by decide),
      later_declares written, receivers, entries]
    rfl

theorem firstDeleted_leaves {block : Block} {removal : Removal} (written : block.WellFormed angles)
    (parts : block.text = removal.before ++ removal.deleted ++ removal.after)
    (deleted : block.FirstDeleted removal) : block.LeavesOthers angles removal := by
  obtain ⟨first, rest, core, blanks, entries, whole, run, lead, trail, place, span, around, few⟩ :=
    deleted
  have formed := written.entries first (by simp [entries])
  have onwards : trail ++ removal.after = blanks ++ block.behind rest := by
    have text := text_first entries
    rw [parts, span, Formal.text, whole] at text
    have same : (removal.before ++ lead) ++ ((first.name ++ first.gap ++ ':' :: core) ++
          (trail ++ removal.after)) =
        (block.opening ++ first.lead) ++ ((first.name ++ first.gap ++ ':' :: core) ++
          (blanks ++ block.behind rest)) := by simpa using text
    rw [place] at same
    exact List.append_cancel_left (List.append_cancel_left same)
  have openingStops : Stops isBlank block.opening.reverse := by
    obtain ⟨front, c, same, blank, -⟩ := opening_last written.listed
    simpa [same] using blank
  have behindStops : Stops isBlank (block.behind rest) :=
    block.behind_stops rest (by decide) (by decide)
  rw [List.count_append] at few
  rcases around_parts (fun c member => around c (List.mem_append_left _ member)) (by omega)
    with blankLead | ⟨front, back, rfl, blankFront, blankBack⟩
  · obtain ⟨kept, before, leadParts⟩ := blanks_behind place.symm openingStops blankLead
    have blankKept : ∀ c ∈ kept, isBlank c = true := fun c member =>
      formed.lead c (by simp [leadParts, member])
    rcases around_parts (fun c member => around c (List.mem_append_right _ member)) (by omega)
      with blankTrail | ⟨front, back, rfl, blankFront, blankBack⟩
    · obtain ⟨kept', after, trailParts⟩ := blanks_ahead onwards behindStops blankTrail
      exact leaves_blank written entries before blankKept after fun c member =>
        run c (by simp [trailParts, member])
    · rw [List.append_assoc] at onwards
      have comma : Stops isBlank (',' :: back ++ removal.after) := stops_cons.mpr (by decide)
      have after := (run_unique onwards blankFront comma run behindStops).2
      exact leaves_next written entries before blankKept after blankBack
  · have blankTrail : ∀ c ∈ trail, isBlank c = true := by
      have none : trail.count ',' = 0 := by
        simp only [List.count_append, List.count_cons_self] at few
        omega
      exact around_blank (fun c member => around c (List.mem_append_right _ member))
        (List.count_eq_zero.mp none)
    obtain ⟨kept', after, trailParts⟩ := blanks_ahead onwards behindStops blankTrail
    exact leaves_receiver written entries place blankFront blankBack after fun c member =>
      run c (by simp [trailParts, member])

end Block

namespace Wrapper

-- Which parameter a wrapper loses. A handle that does not stand alone on its line gives
-- way to any that does, be it inside the type of another parameter.
theorem handle_removed_exact [PatternEngine] {type indent : Text} {block : Block}
    {wrapper : Wrapper}
    (typed : isName type = true) (written : block.WellFormed angles)
    (accepted : (ofBlock type block.text indent).result = .ok wrapper) :
    ∃ removal, Removal.find? type block.text = some removal ∧
      wrapper.text = removal.text ++ wrapper.signature.forwardingBody (indent ++ bodyIndent) ∧
      (block.FirstDeleted removal ↔ block.HandleFirst type) ∧
      (block.HandleFirst type → block.LeavesOthers angles removal) := by
  obtain ⟨signature, removal, -, found, -, rfl⟩ := assemble_exact.mp (ofBlock_exact.mp accepted).2
  have exact := Block.firstDeleted_exact typed written found
  exact ⟨removal, found, rfl, exact, fun first =>
    Block.firstDeleted_leaves written (Removal.find?_cut found).1 (exact.mpr first)⟩

theorem ownLine_handleFirst : Block.ownLine.HandleFirst "H".toList := by
  have space : ∀ c ∈ [' '], isIndent c = true := List.all_eq_true.mp (by decide)
  have blank : ∀ c ∈ [' '], isBlank c = true := fun c member => indent_blank (space c member)
  have indents : ∀ c ∈ "    ".toList, isIndent c = true := List.all_eq_true.mp (by decide)
  refine ⟨_, _, rfl, ⟨[' '], [' '], [], rfl, blank, by decide, blank, by simp⟩, .inr
    ⟨"unsafe fn f(\n".toList, "    ".toList, rfl, indents, rfl, "ph".toList,
      "    ph: *mut H,\n".toList, "    n: c_int,\n) \x7b".toList, by decide, ?_⟩⟩
  exact ⟨"    ".toList, "ph: *mut H".toList, ",\n".toList, rfl, indents,
    ⟨[], [' '], [' '], rfl, by decide +kernel, by simp, space, by decide, space⟩,
    [], [','], [], [], rfl, by simp, .inr rfl, by simp, .inl rfl⟩

attribute [local instance] PatternEngine.standard

theorem ownLine_handle_removed :
    ∃ wrapper removal, (ofBlock "H".toList Block.ownLine.text []).result = .ok wrapper ∧
      Removal.find? "H".toList Block.ownLine.text = some removal ∧
      Block.ownLine.FirstDeleted removal ∧ Block.ownLine.LeavesOthers false removal := by
  have given : (ofBlock "H".toList Block.ownLine.text []).result.toOption.isSome = true := by
    decide +kernel
  obtain ⟨wrapper, read⟩ := Option.isSome_iff_exists.mp given
  have accepted := toOption_exact.mp read
  obtain ⟨removal, found, -, exact, leaves⟩ :=
    handle_removed_exact (by decide +kernel) (Block.ownLine_wellFormed false) accepted
  exact ⟨wrapper, removal, accepted, found, exact.mpr ownLine_handleFirst,
    leaves ownLine_handleFirst⟩

def nested : Block where
  name := "f".toList
  header := "unsafe fn f(".toList
  receiver := none
  entries := [⟨"\n    ".toList, "ph".toList, [], "\n        *mut H".toList⟩,
    ⟨"\n    ".toList, "cb".toList, [], " fn".toList ++ ('(' :: "\n        ph: *mut H,\n    ".toList ++
      ')' :: " -> c_int".toList)⟩]
  trailing := some "\n".toList
  returns := [' ']

theorem nested_wellFormed : nested.WellFormed false where
  header := Block.plain_header
  receiver := by simp [nested]
  entries := by
    have callback : Balanced false false (" fn".toList ++
        ('(' :: "\n        ph: *mut H,\n    ".toList ++ ')' :: " -> c_int".toList)) :=
      balanced_append (balanced_checked (by decide))
        (.group (by decide) (balanced_checked (by decide)) (balanced_checked (by decide)))
    intro entry member
    rcases List.mem_cons.mp member with rfl | member
    · exact ⟨List.all_eq_true.mp (by decide), by decide +kernel, by simp,
        balanced_checked (by decide)⟩
    · cases List.mem_singleton.mp member
      exact ⟨List.all_eq_true.mp (by decide), by decide +kernel, by simp, callback⟩
  trailing := by
    rintro blanks ⟨⟩
    exact List.all_eq_true.mp (by decide)
  closed := by decide

theorem nested_handle_kept :
    nested.WellFormed false ∧ isName "H".toList = true ∧
      ∃ wrapper removal, (ofBlock "H".toList nested.text []).result = .ok wrapper ∧
        Removal.find? "H".toList nested.text = some removal ∧ ¬ nested.FirstDeleted removal ∧
        removal.text =
          "unsafe fn f(\n    ph:\n        *mut H,\n    cb: fn(\n    ) -> c_int,\n) \x7b".toList := by
  have given : (ofBlock "H".toList nested.text []).result.toOption.isSome = true := by
    decide +kernel
  have places : (Removal.find? "H".toList nested.text).map
      (fun removal => (removal.before.length, removal.text)) = some (49,
        "unsafe fn f(\n    ph:\n        *mut H,\n    cb: fn(\n    ) -> c_int,\n) \x7b".toList) := by
    decide +kernel
  obtain ⟨wrapper, read⟩ := Option.isSome_iff_exists.mp given
  obtain ⟨removal, found, place⟩ := Option.map_eq_some_iff.mp places
  obtain ⟨place, left⟩ := Prod.mk.inj place
  refine ⟨nested_wellFormed, by decide +kernel, wrapper, removal, toOption_exact.mp read, found, ?_,
    left⟩
  intro deleted
  obtain ⟨first, rest, -, -, entries, -, -, lead, -, front, -⟩ := deleted
  obtain ⟨rfl, -⟩ := List.cons.inj entries
  have size := congrArg List.length front
  have short : (nested.opening ++ "\n    ".toList).length = 17 := by decide
  rw [List.length_append, place, short] at size
  omega

end Wrapper
end PluginBindings
