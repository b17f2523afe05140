import Mathlib.Data.List.Forall2
import Mathlib.Data.List.Nodup
import PluginBindings.Generator
import PluginBindings.Proofs.Descriptor.Table
import PluginBindings.Proofs.Event.Records
import PluginBindings.Proofs.Text.Lines
import PluginBindings.Proofs.Text.TitleCase

namespace PluginBindings

-- A refusal is the first one: every item before it was taken.
theorem mapM_error_exact {take : α → Except Fault β} {items : List α} :
    items.mapM take = .error fault ↔
      ∃ (i : Nat) (item : α), items[i]? = some item ∧ take item = .error fault ∧
        ∀ j < i, ∀ earlier, items[j]? = some earlier → ∃ value, take earlier = .ok value := by
  induction items with
  | nil => simp [pure, Except.pure]
  | cons item items ih =>
    simp only [List.mapM_cons, error_bind_exact, ih]
    constructor
    · intro refused
      rcases refused with refused | ⟨value, taken, ⟨i, other, found, refused, before⟩ | ⟨_, _, impossible⟩⟩
      · exact ⟨0, item, rfl, refused, by simp⟩
      · refine ⟨i + 1, other, found, refused, ?_⟩
        intro j below earlier at_
        cases j with
        | zero => cases at_; exact ⟨value, taken⟩
        | succ j => exact before j (by omega) earlier at_
      · cases impossible
    · intro refused
      obtain ⟨i, other, found, refused, before⟩ := refused
      cases i with
      | zero => cases found; exact .inl refused
      | succ i =>
        obtain ⟨value, taken⟩ := before 0 (by omega) item rfl
        exact .inr ⟨value, taken, .inl ⟨i, other, found, refused, fun j below earlier at_ =>
          before (j + 1) (by omega) earlier at_⟩⟩

inductive Labels (arrays : List FieldDescriptor) (emptyKey key : Text) : List Text → Prop where
  | declared (member : array ∈ arrays) (same : array.key = key) :
      Labels arrays emptyKey key array.fields
  | reserved (undeclared : ∀ array ∈ arrays, array.key ≠ key) (empty : key = emptyKey) :
      Labels arrays emptyKey key []

def Unresolved (arrays : List FieldDescriptor) (emptyKey key : Text) : Prop :=
  (∀ array ∈ arrays, array.key ≠ key) ∧ key ≠ emptyKey

namespace DescriptorTable

theorem resolve_ok_exact {table : DescriptorTable} {key event : Text} :
    table.resolve key event = .ok labels ↔ Labels table.descriptors table.emptyKey key labels := by
  unfold resolve
  split
  · rename_i array found
    obtain ⟨member, same⟩ := find?_some_exact.mp found
    simp only [Except.ok.injEq]
    constructor
    · rintro rfl
      exact .declared member same
    · intro labels
      cases labels with
      | declared among same' =>
        rw [List.inj_on_of_nodup_map table.distinct member among (same.trans same'.symm)]
      | reserved undeclared => exact absurd same (undeclared array member)
  · rename_i absent
    have undeclared : ∀ array ∈ table.descriptors, array.key ≠ key := fun array member same =>
      find?_eq_none_iff.mp absent (List.mem_map.mpr ⟨array, member, same⟩)
    split
    · rename_i empty
      simp only [Except.ok.injEq]
      constructor
      · rintro rfl
        exact .reserved undeclared empty
      · intro labels
        cases labels with
        | declared member same => exact absurd same (undeclared _ member)
        | reserved => rfl
    · rename_i kept
      simp only [reduceCtorEq, false_iff]
      intro labels
      cases labels with
      | declared member same => exact undeclared _ member same
      | reserved _ empty => exact kept empty

theorem resolve_error_exact {table : DescriptorTable} {key event : Text} :
    table.resolve key event = .error fault ↔
      Unresolved table.descriptors table.emptyKey key ∧ fault = .unresolvedReference key event := by
  unfold resolve
  split
  · rename_i array found
    obtain ⟨member, same⟩ := find?_some_exact.mp found
    simp only [reduceCtorEq, false_iff, not_and]
    exact fun unresolved => absurd same (unresolved.1 array member)
  · rename_i absent
    have undeclared : ∀ array ∈ table.descriptors, array.key ≠ key := fun array member same =>
      find?_eq_none_iff.mp absent (List.mem_map.mpr ⟨array, member, same⟩)
    split
    · rename_i empty
      simp [Unresolved, empty]
    · rename_i kept
      simp only [Except.error.injEq]
      exact ⟨fun same => ⟨⟨undeclared, kept⟩, same.symm⟩, fun facts => facts.2.symm⟩

end DescriptorTable

def numbered (index : Nat) : List Text → Text
  | [] => []
  | [label] => ' ' :: Text.ofNat index ++ ": \"".toList ++ label ++ ['"']
  | label :: more =>
    ' ' :: Text.ofNat index ++ ": \"".toList ++ label ++ "\",".toList ++ numbered (index + 1) more

def eventLine (name format : Text) (labels : List Text) : Text :=
  "print_event!(".toList ++ Text.toIdentifier name ++ ", \"".toList ++ name ++ "\", \"`".toList ++
    format ++ "`\",".toList ++ numbered 0 labels ++ ");".toList

theorem numbered_exact (labels : List Text) (index : Nat) :
    Text.join [','] ((labels.zipIdx index).map fun row => ResolvedEvent.field row.1 row.2) =
      numbered index labels := by
  induction labels generalizing index with
  | nil => rfl
  | cons label more ih =>
    cases more with
    | nil => simp [Text.join, numbered, ResolvedEvent.field]
    | cons next more =>
      have later := ih (index + 1)
      simp only [Text.join, List.zipIdx_cons, List.map_cons] at later ⊢
      rw [List.intercalate_cons_cons, later]
      simp [numbered, ResolvedEvent.field]

theorem registration_exact (event : ResolvedEvent) :
    event.registration = eventLine event.spec.name event.spec.format event.fields := by
  unfold ResolvedEvent.registration ResolvedEvent.fieldList
  rw [numbered_exact]
  rfl

theorem ofNat_unbroken (n : Nat) : '\n' ∉ Text.ofNat n := by
  intro member
  have digit := Nat.isDigit_of_mem_toDigits (by decide) (by decide) member
  exact absurd digit (by decide)

theorem numbered_unbroken (unbroken : ∀ label ∈ labels, '\n' ∉ label) (index : Nat) :
    '\n' ∉ numbered index labels := by
  fun_induction numbered index labels with
  | case1 => simp
  | case2 index label =>
    simp [ofNat_unbroken, unbroken]
  | case3 index label more _ ih =>
    have later := ih fun other member => unbroken other (by simp [member])
    simp [ofNat_unbroken, unbroken, later]

theorem eventLine_unbroken (name : '\n' ∉ eventName) (format : '\n' ∉ eventFormat)
    (unbroken : ∀ label ∈ labels, '\n' ∉ label) :
    '\n' ∉ eventLine eventName eventFormat labels := by
  have identifier := Text.identifier_lacks (by decide : Text.isLow '\n' = true) name
  have fields := numbered_unbroken unbroken 0
  unfold eventLine
  simp only [List.mem_append, not_or]
  refine ⟨⟨⟨⟨⟨⟨⟨⟨?_, identifier⟩, ?_⟩, name⟩, ?_⟩, format⟩, ?_⟩, fields⟩, ?_⟩ <;> simp

theorem sheet_labels (sheet : Descriptor.Sheet lines arrays) (member : array ∈ arrays)
    (among : label ∈ array.fields) : ∃ line ∈ lines, Descriptor.label? line.text = some label := by
  obtain ⟨above, body, below, opening, closing, rfl, -, -, labelled, -⟩ :=
    Descriptor.sheet_array sheet member
  have read : some label ∈ array.fields.map some := List.mem_map_of_mem among
  rw [← labelled] at read
  obtain ⟨line, inside, read⟩ := List.mem_map.mp read
  exact ⟨line, by simp [inside], read⟩

theorem labels_unbroken (sheet : Descriptor.Sheet (numberedLines text header) arrays)
    (found : Labels arrays emptyKey key labels) : ∀ label ∈ labels, '\n' ∉ label := by
  intro label among
  cases found with
  | declared member =>
    obtain ⟨line, inside, read⟩ := sheet_labels sheet member among
    exact fun breaks => numberedLines_unbroken inside ((Descriptor.label_inside read).1 breaks)
  | reserved => cases among

theorem line_at_unbroken {text line : Text} {i : Nat} (found : (Text.lines text)[i]? = some line) :
    '\n' ∉ line :=
  Text.lines_unbroken text line (List.mem_of_getElem? found)

def Registered (arrays : List FieldDescriptor) (emptyKey : Text) :
    List EventSpec → List Text → Prop :=
  List.Forall₂ fun spec record =>
    ∃ labels, Labels arrays emptyKey spec.fieldsKey labels ∧
      record = eventLine spec.name spec.format labels

theorem ofSpec_exact {table : DescriptorTable} :
    ResolvedEvent.ofSpec table spec = .ok event ↔
      event.spec = spec ∧ Labels table.descriptors table.emptyKey spec.fieldsKey event.fields := by
  unfold ResolvedEvent.ofSpec
  simp only [ok_bind_exact, DescriptorTable.resolve_ok_exact, pure, Except.pure, Except.ok.injEq]
  constructor
  · intro found
    obtain ⟨labels, found, rfl⟩ := found
    exact ⟨rfl, found⟩
  · intro found
    obtain ⟨rfl, found⟩ := found
    exact ⟨event.fields, found, rfl⟩

theorem registerEvents_ok_exact {table : DescriptorTable} :
    registerEvents specs table = .ok out ↔
      ∃ records, Registered table.descriptors table.emptyKey specs records ∧
        out = records.flatMap (· ++ ['\n']) := by
  unfold registerEvents
  simp only [ok_bind_exact, mapM_ok_exact, ofSpec_exact, pure, Except.pure, Except.ok.injEq]
  constructor
  · intro registered
    obtain ⟨events, resolved, rfl⟩ := registered
    refine ⟨events.map ResolvedEvent.registration, ?_, rfl⟩
    refine List.forall₂_map_right_iff.mpr (resolved.imp ?_)
    rintro spec event ⟨rfl, found⟩
    exact ⟨event.fields, found, registration_exact event⟩
  · intro mapped
    obtain ⟨records, registered, rfl⟩ := mapped
    induction registered with
    | nil => exact ⟨[], .nil, rfl⟩
    | @cons spec record specs records first _ ih =>
      obtain ⟨labels, found, rfl⟩ := first
      obtain ⟨events, resolved, lines⟩ := ih
      refine ⟨⟨spec, labels⟩ :: events, .cons ⟨rfl, found⟩ resolved, ?_⟩
      simp only [registrationLines, List.map_cons, List.flatMap_cons, registration_exact] at lines ⊢
      rw [lines]

theorem registerEvents_unresolved {table : DescriptorTable} {specs : List EventSpec} {i : Nat}
    (found : specs[i]? = some spec)
    (unresolved : Unresolved table.descriptors table.emptyKey spec.fieldsKey)
    (first : ∀ j < i, ∀ earlier, specs[j]? = some earlier →
      ∃ labels, Labels table.descriptors table.emptyKey earlier.fieldsKey labels) :
    registerEvents specs table = .error (.unresolvedReference spec.fieldsKey spec.name) := by
  have refused : ResolvedEvent.ofSpec table spec =
      .error (.unresolvedReference spec.fieldsKey spec.name) := by
    rw [ResolvedEvent.ofSpec, DescriptorTable.resolve_error_exact.mpr ⟨unresolved, rfl⟩]
    rfl
  have stopped := mapM_error_exact.mpr ⟨i, spec, found, refused, fun j below earlier at_ =>
    have ⟨labels, known⟩ := first j below earlier at_
    ⟨⟨earlier, labels⟩, ofSpec_exact.mpr ⟨rfl, known⟩⟩⟩
  rw [registerEvents, stopped]
  rfl

theorem events_result (settings : Settings) (descriptors events : Text) :
    (Generator.events settings descriptors events).result =
      (DescriptorTable.ofText descriptors settings.descriptorHeader settings.emptyKey).result >>=
        fun table => (EventSpec.readAll events settings.eventStride).result >>=
          fun specs => registerEvents specs table := by
  simp only [Generator.events, Outcome.result_bind]
  rfl

structure RecordAt (stride : Nat) (lines : List Text) (i : Nat) (name key format : Text) :
    Prop where
  name : lines[stride * i]? = some name
  key : lines[stride * i + 2]? = some key
  format : lines[stride * i + 3]? = some format

theorem recordAt_spec (records : EventSpec.Records stride (numberedLines text 0) specs)
    (found : specs[i]? = some spec) :
    RecordAt stride (Text.lines text) i spec.name spec.fieldsKey spec.format := by
  obtain ⟨name, signal, key, format, hint, rfl, at0, -, at2, at3, -⟩ :=
    EventSpec.records_at records found
  simp only [numberedLines_at, Option.map_eq_some_iff] at at0 at2 at3
  obtain ⟨_, at0, rfl⟩ := at0
  obtain ⟨_, at2, rfl⟩ := at2
  obtain ⟨_, at3, rfl⟩ := at3
  exact ⟨at0, at2, at3⟩

theorem recordAt_unique (first : RecordAt stride lines i name key format)
    (second : RecordAt stride lines i name' key' format') :
    name = name' ∧ key = key' ∧ format = format' := by
  refine ⟨?_, ?_, ?_⟩
  · exact Option.some.inj (first.name.symm.trans second.name)
  · exact Option.some.inj (first.key.symm.trans second.key)
  · exact Option.some.inj (first.format.symm.trans second.format)

theorem recordAt_found (records : EventSpec.Records stride (numberedLines text 0) specs)
    (place : RecordAt stride (Text.lines text) i name key format) :
    ∃ spec, specs[i]? = some spec ∧ spec.name = name ∧ spec.fieldsKey = key ∧
      spec.format = format := by
  have within := (List.getElem?_eq_some_iff.mp place.name).1
  rw [← numberedLines_length, EventSpec.records_length records] at within
  have found := List.getElem?_eq_getElem (Nat.lt_of_mul_lt_mul_left within)
  exact ⟨_, found, recordAt_unique (recordAt_spec records found) place⟩

theorem registered_exact (records : EventSpec.Records stride (numberedLines text 0) specs) :
    Registered arrays emptyKey specs lines ↔ specs.length = lines.length ∧
      ∀ i record, lines[i]? = some record → ∃ name key format labels,
        RecordAt stride (Text.lines text) i name key format ∧
        Labels arrays emptyKey key labels ∧ record = eventLine name format labels := by
  refine List.forall₂_iff_get.trans (and_congr_right fun count => ⟨?_, ?_⟩)
  · intro pointwise i record found
    obtain ⟨below, rfl⟩ := List.getElem?_eq_some_iff.mp found
    obtain ⟨labels, known, line⟩ := pointwise i (count ▸ below) below
    have place := recordAt_spec records (List.getElem?_eq_getElem (count ▸ below))
    exact ⟨_, _, _, labels, place, known, line⟩
  · intro read i first second
    obtain ⟨name, key, format, labels, place, known, line⟩ :=
      read i _ (List.getElem?_eq_getElem second)
    obtain ⟨rfl, rfl, rfl⟩ :=
      recordAt_unique place (recordAt_spec records (List.getElem?_eq_getElem first))
    exact ⟨labels, known, line⟩

theorem recordAt_unbroken (place : RecordAt stride (Text.lines text) i name key format)
    (sheet : Descriptor.Sheet (numberedLines descriptors header) arrays)
    (known : Labels arrays emptyKey key labels) : '\n' ∉ eventLine name format labels :=
  eventLine_unbroken (line_at_unbroken place.name) (line_at_unbroken place.format)
    (labels_unbroken sheet known)

-- When the generator succeeds and with which lines, and which event it gives up on.
theorem compiled_events_exact (settings : Settings) (descriptors events : Text) :
    (∀ out, (Generator.events settings descriptors events).result = .ok out ↔
      ∃ (arrays : List FieldDescriptor) (records : List Text),
        Descriptor.Sheet (numberedLines descriptors settings.descriptorHeader) arrays ∧
        (arrays.map (·.key)).Nodup ∧ 5 ≤ settings.eventStride ∧
        (Text.lines events).length = settings.eventStride * records.length ∧
        out = records.flatMap (· ++ ['\n']) ∧
        ∀ i record, records[i]? = some record → '\n' ∉ record ∧ ∃ name key format labels,
          RecordAt settings.eventStride (Text.lines events) i name key format ∧
          Labels arrays settings.emptyKey key labels ∧ record = eventLine name format labels) ∧
    (∀ (arrays : List FieldDescriptor) (i : Nat) (name key format : Text),
      Descriptor.Sheet (numberedLines descriptors settings.descriptorHeader) arrays →
      (arrays.map (·.key)).Nodup → 5 ≤ settings.eventStride →
      settings.eventStride ∣ (Text.lines events).length →
      RecordAt settings.eventStride (Text.lines events) i name key format →
      Unresolved arrays settings.emptyKey key →
      (∀ j < i, ∀ name key format,
        RecordAt settings.eventStride (Text.lines events) j name key format →
        ∃ labels, Labels arrays settings.emptyKey key labels) →
      (Generator.events settings descriptors events).result =
        .error (.unresolvedReference key name)) := by
  rw [events_result]
  refine ⟨fun out => ⟨?_, ?_⟩, ?_⟩
  · intro accepted
    simp only [ok_bind_exact, DescriptorTable.ofText_exact, EventSpec.readAll_exact,
      registerEvents_ok_exact] at accepted
    obtain ⟨table, ⟨keys, sheet⟩, specs, ⟨long, records⟩, lines, registered, rfl⟩ := accepted
    have size := EventSpec.records_length records
    rw [numberedLines_length, registered.length_eq] at size
    refine ⟨table.descriptors, lines, sheet, table.distinct, long, size, rfl, ?_⟩
    intro i record found
    obtain ⟨name, key, format, labels, place, known, rfl⟩ :=
      ((registered_exact records).mp registered).2 i record found
    rw [keys] at known
    exact ⟨recordAt_unbroken place sheet known, name, key, format, labels, place, known, rfl⟩
  · intro bound
    obtain ⟨arrays, lines, sheet, distinct, long, size, rfl, read⟩ := bound
    rw [← numberedLines_length] at size
    obtain ⟨specs, records, count⟩ := EventSpec.records_complete long size
    simp only [ok_bind_exact, DescriptorTable.ofText_exact, EventSpec.readAll_exact,
      registerEvents_ok_exact]
    exact ⟨⟨settings.emptyKey, arrays, distinct⟩, ⟨rfl, sheet⟩, specs, ⟨long, records⟩, lines,
      (registered_exact records).mpr ⟨count, fun i record found => (read i record found).2⟩, rfl⟩
  · intro arrays i name key format sheet distinct long whole place unresolved first
    obtain ⟨count, size⟩ := whole
    rw [← numberedLines_length] at size
    obtain ⟨specs, records, -⟩ := EventSpec.records_complete long size
    obtain ⟨spec, found, rfl, rfl, rfl⟩ := recordAt_found records place
    have table : (DescriptorTable.ofText descriptors settings.descriptorHeader
        settings.emptyKey).result = .ok ⟨settings.emptyKey, arrays, distinct⟩ :=
      DescriptorTable.ofText_exact.mpr ⟨rfl, sheet⟩
    rw [table, EventSpec.readAll_exact.mpr ⟨long, records⟩]
    apply registerEvents_unresolved found unresolved
    intro j before earlier known
    exact first j before _ _ _ (recordAt_spec records known)

def joinArray : Text :=
  "static char *const join_help[] = \x7b\n\tN_(\"nick\"),\n\tN_(\"channel\"),\n\x7d;\n".toList

def joinRecord : Text := "Join\nXP_TE_JOIN\njoin_help\n%C23$t$1 joined\n2\n".toList

def bellRecord : Text := "Bell\nXP_TE_BELL\nbell_help\n$tRing\n0\n".toList

def joinDescriptor : FieldDescriptor :=
  ⟨"join_help".toList, 1, ["nick".toList, "channel".toList]⟩

theorem joinArray_sheet : Descriptor.Sheet (numberedLines joinArray 0) [joinDescriptor] := by
  have lines : numberedLines joinArray 0 =
      [⟨1, "static char *const join_help[] = \x7b".toList⟩, ⟨2, "\tN_(\"nick\"),".toList⟩,
        ⟨3, "\tN_(\"channel\"),".toList⟩, ⟨4, "\x7d;".toList⟩] := by decide
  have declared : Descriptor.declaredKey? "static char *const join_help[] = \x7b".toList =
      some joinDescriptor.key := by decide
  have labelled : [Line.mk 2 "\tN_(\"nick\"),".toList, ⟨3, "\tN_(\"channel\"),".toList⟩].map
      (Descriptor.label? ·.text) = joinDescriptor.fields.map some := by decide
  have closed : Descriptor.isClosing (Line.mk 4 "\x7d;".toList).text = true := by decide
  rw [lines]
  exact .array declared labelled closed .done

theorem undeclared_event_refused :
    (Generator.events { descriptorHeader := 0 } joinArray joinRecord).result =
      .ok ("print_event!(Join, \"Join\", \"`%C23$t$1 joined`\", 0: \"nick\",".toList ++
        " 1: \"channel\");\n".toList) ∧
    (Generator.events { descriptorHeader := 0 } joinArray (joinRecord ++ bellRecord)).result =
      .error (.unresolvedReference "bell_help".toList "Bell".toList) := by
  have distinct : ([joinDescriptor].map (·.key)).Nodup := by decide
  have known : Labels [joinDescriptor] "pevt_generic_none_help".toList "join_help".toList
      joinDescriptor.fields := .declared (List.mem_singleton_self _) rfl
  have alone : Text.lines joinRecord = ["Join".toList, "XP_TE_JOIN".toList, "join_help".toList,
      "%C23$t$1 joined".toList, "2".toList] := by decide
  have both : Text.lines (joinRecord ++ bellRecord) = Text.lines joinRecord ++ ["Bell".toList,
      "XP_TE_BELL".toList, "bell_help".toList, "$tRing".toList, "0".toList] := by decide
  constructor
  · have written : eventLine "Join".toList "%C23$t$1 joined".toList joinDescriptor.fields ++ ['\n'] =
        "print_event!(Join, \"Join\", \"`%C23$t$1 joined`\", 0: \"nick\",".toList ++
          " 1: \"channel\");\n".toList := by decide +kernel
    refine ((compiled_events_exact { descriptorHeader := 0 } joinArray joinRecord).1 _).mpr
      ⟨[joinDescriptor], [eventLine "Join".toList "%C23$t$1 joined".toList joinDescriptor.fields],
        joinArray_sheet, distinct, by decide, by rw [alone]; rfl, written.symm, ?_⟩
    intro i record found
    cases i with
    | succ i => cases found
    | zero =>
      cases found
      refine ⟨by decide +kernel, _, _, _, _, ?_, known, rfl⟩
      rw [alone]
      exact ⟨rfl, rfl, rfl⟩
  · have bell : RecordAt 5 (Text.lines (joinRecord ++ bellRecord)) 1 "Bell".toList
        "bell_help".toList "$tRing".toList := by
      rw [both, alone]
      exact ⟨rfl, rfl, rfl⟩
    have join : RecordAt 5 (Text.lines (joinRecord ++ bellRecord)) 0 "Join".toList
        "join_help".toList "%C23$t$1 joined".toList := by
      rw [both, alone]
      exact ⟨rfl, rfl, rfl⟩
    refine (compiled_events_exact { descriptorHeader := 0 } joinArray (joinRecord ++ bellRecord)).2
      [joinDescriptor] 1 _ _ _ joinArray_sheet distinct (by decide) ?_ bell ?_ ?_
    · rw [both, alone]
      decide
    · exact ⟨by decide, by decide⟩
    · intro j before name key format place
      cases Nat.lt_one_iff.mp before
      obtain ⟨rfl, rfl, rfl⟩ := recordAt_unique join place
      exact ⟨_, known⟩

end PluginBindings
