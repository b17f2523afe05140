import PluginBindings.Proofs.Descriptor.Literal
import PluginBindings.Proofs.Event.Compilation

namespace PluginBindings

-- Each literal ends at its own quote, so a line can be read from the front.

theorem literal_unique {label other rest rest' : Text}
    (same : label ++ '"' :: rest = other ++ '"' :: rest') (body : Descriptor.isBody label = true)
    (body' : Descriptor.isBody other = true) : label = other ∧ rest = rest' := by
  obtain rfl := Descriptor.isBodyFrom_unique same body body'
  obtain ⟨-, later⟩ := List.cons.inj (List.append_cancel_left same)
  exact ⟨rfl, later⟩

theorem isBodyFrom_concat {text : Text} (plain : c ≠ '"' ∧ c ≠ '\\')
    (body : Descriptor.isBodyFrom escaped text = true) :
    Descriptor.isBodyFrom escaped (text ++ [c]) = true := by
  induction text generalizing escaped with
  | nil =>
    cases escaped with
    | true => cases body
    | false => simp [Descriptor.isBodyFrom, plain]
  | cons d text ih =>
    cases escaped with
    | true => exact ih body
    | false =>
      rw [List.cons_append, Descriptor.isBodyFrom, Bool.and_eq_true] at *
      exact ⟨body.1, ih body.2⟩

def behindLabel (index : Nat) (more : List Text) (rest : Text) : Text :=
  if more = [] then ')' :: rest else ',' :: (numbered index more ++ ')' :: rest)

theorem numbered_label (index : Nat) (label : Text) (more : List Text) (rest : Text) :
    numbered index (label :: more) ++ ')' :: rest =
      (' ' :: Text.ofNat index ++ ": ".toList ++ ['"']) ++
        (label ++ '"' :: behindLabel (index + 1) more rest) := by
  cases more with
  | nil => simp [numbered, behindLabel]
  | cons next more => simp [numbered, behindLabel]

theorem numbered_unique {labels others : List Text} {rest rest' : Text}
    (bodies : ∀ label ∈ labels, Descriptor.isBody label = true)
    (bodies' : ∀ label ∈ others, Descriptor.isBody label = true)
    (same : numbered index labels ++ ')' :: rest = numbered index others ++ ')' :: rest') :
    labels = others ∧ rest = rest' := by
  induction labels generalizing others index with
  | nil =>
    cases others with
    | nil => exact ⟨rfl, (List.cons.inj same).2⟩
    | cons other others =>
      rw [numbered_label] at same
      cases same
  | cons label more ih =>
    cases others with
    | nil =>
      rw [numbered_label] at same
      cases same
    | cons other others =>
      obtain ⟨body, later⟩ := List.forall_mem_cons.mp bodies
      obtain ⟨body', later'⟩ := List.forall_mem_cons.mp bodies'
      rw [numbered_label, numbered_label] at same
      obtain ⟨rfl, behind⟩ := literal_unique (List.append_cancel_left same) body body'
      cases more with
      | nil =>
        cases others with
        | nil => exact ⟨rfl, (List.cons.inj behind).2⟩
        | cons next others => cases behind
      | cons next more =>
        cases others with
        | nil => cases behind
        | cons next' others =>
          obtain ⟨fields, ends⟩ := ih later later' (List.cons.inj behind).2
          exact ⟨congrArg (label :: ·) fields, ends⟩

theorem eventLine_literals (name format : Text) (labels : List Text) (rest : Text) :
    eventLine name format labels ++ rest =
      ("print_event!(".toList ++ Text.toIdentifier name ++ ", ".toList) ++
        '"' :: (name ++ '"' :: (", \"`".toList ++
          (format ++ ['`'] ++ '"' :: (',' :: (numbered 0 labels ++ ')' :: ';' :: rest))))) := by
  have opening : ", \"".toList = ", ".toList ++ ['"'] := rfl
  have between : "\", \"`".toList = '"' :: ", \"`".toList := rfl
  have closing : "`\",".toList = ['`', '"', ','] := rfl
  have ending : ");".toList = [')', ';'] := rfl
  unfold eventLine
  simp only [opening, between, closing, ending, List.append_assoc, List.cons_append,
    List.nil_append]

theorem eventLine_front (name : Text) :
    '"' ∉ "print_event!(".toList ++ Text.toIdentifier name ++ ", ".toList := by
  have identifier := Text.identifier_words (by decide : Text.isLow '"' = true)
    (by decide +kernel : isWord '"' = false) name
  simp [identifier]

structure Literal (name format : Text) (labels : List Text) : Prop where
  name : Descriptor.isBody name = true
  format : Descriptor.isBody format = true
  labels : ∀ label ∈ labels, Descriptor.isBody label = true

theorem eventLine_unique {name format name' format' rest rest' : Text} {labels labels' : List Text}
    (literal : Literal name format labels) (literal' : Literal name' format' labels')
    (same : eventLine name format labels ++ rest = eventLine name' format' labels' ++ rest') :
    name = name' ∧ format = format' ∧ labels = labels' ∧ rest = rest' := by
  rw [eventLine_literals, eventLine_literals] at same
  obtain ⟨-, named⟩ := Text.cut_unique same (eventLine_front name) (eventLine_front name')
  obtain ⟨rfl, behind⟩ := literal_unique named literal.name literal'.name
  have quoted : '`' ≠ '"' ∧ '`' ≠ '\\' := by decide
  obtain ⟨formats, listed⟩ := literal_unique (List.append_cancel_left behind)
    (isBodyFrom_concat quoted literal.format) (isBodyFrom_concat quoted literal'.format)
  obtain ⟨fields, ends⟩ := numbered_unique literal.labels literal'.labels (List.cons.inj listed).2
  exact ⟨rfl, List.append_cancel_right formats, fields, (List.cons.inj ends).2⟩

structure ToldAlike (table table' : DescriptorTable) (spec spec' : EventSpec) : Prop where
  name : spec.name = spec'.name
  format : spec.format = spec'.format
  labels : ∃ labels, table.resolve spec.fieldsKey spec.name = .ok labels ∧
    table'.resolve spec'.fieldsKey spec'.name = .ok labels

theorem told_exact {table table' : DescriptorTable}
    (known : table.resolve spec.fieldsKey spec.name = .ok labels)
    (known' : table'.resolve spec'.fieldsKey spec'.name = .ok labels') :
    ToldAlike table table' spec spec' ↔
      spec.name = spec'.name ∧ spec.format = spec'.format ∧ labels = labels' := by
  constructor
  · intro told
    obtain ⟨common, found, found'⟩ := told.labels
    cases known.symm.trans found
    cases known'.symm.trans found'
    exact ⟨told.name, told.format, rfl⟩
  · rintro ⟨name, format, rfl⟩
    exact ⟨name, format, labels, known, known'⟩

theorem registered_unique {table table' : DescriptorTable} {specs specs' : List EventSpec}
    {records records' : List Text}
    (registered : Registered table.descriptors table.emptyKey specs records)
    (registered' : Registered table'.descriptors table'.emptyKey specs' records')
    (literal : ∀ spec ∈ specs, ∀ labels, table.resolve spec.fieldsKey spec.name = .ok labels →
      Literal spec.name spec.format labels)
    (literal' : ∀ spec ∈ specs', ∀ labels, table'.resolve spec.fieldsKey spec.name = .ok labels →
      Literal spec.name spec.format labels) :
    records.flatMap (· ++ ['\n']) = records'.flatMap (· ++ ['\n']) ↔
      List.Forall₂ (ToldAlike table table') specs specs' := by
  induction registered generalizing specs' records' with
  | nil =>
    cases registered' with
    | nil => exact iff_of_true rfl .nil
    | cons first later =>
      obtain ⟨labels, -, rfl⟩ := first
      refine iff_of_false ?_ ?_
      · intro same
        cases same
      · intro told
        cases told
  | @cons spec record specs records first later ih =>
    obtain ⟨labels, found, rfl⟩ := first
    cases registered' with
    | nil =>
      refine iff_of_false ?_ ?_
      · intro same
        cases same
      · intro told
        cases told
    | @cons spec' record' specs' records' first' later' =>
      obtain ⟨labels', found', rfl⟩ := first'
      obtain ⟨here, others⟩ := List.forall_mem_cons.mp literal
      obtain ⟨here', others'⟩ := List.forall_mem_cons.mp literal'
      have known : table.resolve spec.fieldsKey spec.name = .ok labels :=
        DescriptorTable.resolve_ok_exact.mpr found
      have known' : table'.resolve spec'.fieldsKey spec'.name = .ok labels' :=
        DescriptorTable.resolve_ok_exact.mpr found'
      rw [List.forall₂_cons, told_exact known known', ← ih later' others others',
        List.flatMap_cons, List.flatMap_cons, List.append_assoc, List.append_assoc]
      constructor
      · intro same
        obtain ⟨name, format, fields, behind⟩ :=
          eventLine_unique (here labels known) (here' labels' known') same
        exact ⟨⟨name, format, fields⟩, (List.cons.inj behind).2⟩
      · rintro ⟨⟨name, format, fields⟩, behind⟩
        rw [name, format, fields, behind]

-- Nothing of what a binding is told is lost or runs into something else. Literals may hold what
-- looks like the text around them, also line breaks.
theorem registered_text_exact {specs specs' : List EventSpec} {table table' : DescriptorTable}
    {out out' : Text} (registered : registerEvents specs table = .ok out)
    (registered' : registerEvents specs' table' = .ok out')
    (literal : ∀ spec ∈ specs, ∀ labels, table.resolve spec.fieldsKey spec.name = .ok labels →
      Literal spec.name spec.format labels)
    (literal' : ∀ spec ∈ specs', ∀ labels, table'.resolve spec.fieldsKey spec.name = .ok labels →
      Literal spec.name spec.format labels) :
    out = out' ↔ List.Forall₂ (ToldAlike table table') specs specs' := by
  obtain ⟨records, lines, rfl⟩ := registerEvents_ok_exact.mp registered
  obtain ⟨records', lines', rfl⟩ := registerEvents_ok_exact.mp registered'
  exact registered_unique lines lines' literal literal'

theorem mimicked_separator_told :
    let labels := ["Nick\\\", 1: \\\"Host".toList, "Reason".toList]
    let table : DescriptorTable := ⟨[], [⟨"part_help".toList, 1, labels⟩], by decide⟩
    let table' : DescriptorTable := ⟨[], [⟨"leave_help".toList, 7, labels⟩], by decide⟩
    let spec : EventSpec := ⟨"Part".toList, 1, [], "part_help".toList, "%`\\\"".toList, []⟩
    let spec' : EventSpec := ⟨"Part".toList, 6, [], "leave_help".toList, "%`\\\"".toList, []⟩
    registerEvents [spec] table = registerEvents [spec'] table' ∧
      List.Forall₂ (ToldAlike table table') [spec] [spec'] := by
  intro labels table table' spec spec'
  have registered : registerEvents [spec] table =
      .ok (eventLine spec.name spec.format labels ++ ['\n']) := by decide +kernel
  have registered' : registerEvents [spec'] table' =
      .ok (eventLine spec.name spec.format labels ++ ['\n']) := by decide +kernel
  have written : Literal "Part".toList "%`\\\"".toList labels := ⟨rfl, rfl, by decide⟩
  refine ⟨registered.trans registered'.symm, ?_⟩
  refine (registered_text_exact registered registered' ?_ ?_).mp rfl
  · intro spec among labels found
    obtain rfl := List.mem_singleton.mp among
    cases found
    exact written
  · intro spec among labels found
    obtain rfl := List.mem_singleton.mp among
    cases found
    exact written

end PluginBindings
