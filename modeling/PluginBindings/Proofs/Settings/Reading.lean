import PluginBindings.Proofs.Json.Record
import PluginBindings.Settings.Reader

namespace PluginBindings

def picked (keys : List Text) (key : Text) (given usual : α) : α :=
  if keys.contains key then given else usual

theorem picked_same : picked (key :: keys) key given usual = given :=
  if_pos (List.contains_iff_mem.mpr List.mem_cons_self)

theorem picked_other (other : key ≠ name) :
    picked (name :: keys) key given usual = picked keys key given usual := by
  simp [picked, other]

theorem picked_alike (same : ∀ key, key ∈ keys ↔ key ∈ keys') (key : Text) (given usual : α) :
    picked keys key given usual = picked keys' key given usual := by
  simp only [picked, List.contains_iff_mem, same]

theorem lookup_named {rows : List (Text × α)} (named : name ∈ rows.map Prod.fst) :
    ∃ value, rows.lookup name = some value := by
  rw [← Option.isSome_iff_exists, List.lookup_isSome_iff]
  obtain ⟨row, member, rfl⟩ := List.mem_map.mp named
  exact ⟨row, member, beq_self_eq_true _⟩

namespace FileLayout

def paths (layout : FileLayout) : List (Text × Text) := [
  ("descriptors".toList, layout.descriptors),
  ("events".toList, layout.events),
  ("events_output".toList, layout.eventsOutput),
  ("prefs".toList, layout.preferences),
  ("prefs_output".toList, layout.preferencesOutput),
  ("signatures".toList, layout.declarations),
  ("signatures_output".toList, layout.declarationsOutput)]

inductive Value (layout : FileLayout) : Text → Text → Prop where
  | path (named : layout.paths.lookup key = some path) (spells : Json.Spells written path) :
      layout.Value key (Json.quoted written)

def Written (layout : FileLayout) : List Text → Text → Prop :=
  Json.RecordText (layout.paths.map Prod.fst) layout.Value

def chosen (layout : FileLayout) (keys : List Text) : FileLayout where
  descriptors := picked keys "descriptors".toList layout.descriptors ({} : FileLayout).descriptors
  events := picked keys "events".toList layout.events ({} : FileLayout).events
  eventsOutput := picked keys "events_output".toList layout.eventsOutput ({} : FileLayout).eventsOutput
  preferences := picked keys "prefs".toList layout.preferences ({} : FileLayout).preferences
  preferencesOutput :=
    picked keys "prefs_output".toList layout.preferencesOutput ({} : FileLayout).preferencesOutput
  declarations := picked keys "signatures".toList layout.declarations ({} : FileLayout).declarations
  declarationsOutput :=
    picked keys "signatures_output".toList layout.declarationsOutput ({} : FileLayout).declarationsOutput

theorem chosen_none (layout : FileLayout) : layout.chosen [] = {} := rfl

theorem chosen_alike (layout : FileLayout) (same : ∀ key, key ∈ keys ↔ key ∈ keys') :
    layout.chosen keys = layout.chosen keys' := by
  simp only [chosen, picked_alike same]

theorem pathField_fills {layout : FileLayout} {name : String} {set : Text → FileLayout → FileLayout}
    (named : layout.paths.lookup name.toList = some path)
    (sets : ∀ filled, set path (layout.chosen filled) = layout.chosen (name.toList :: filled)) :
    Json.Fills (pathField name set) (layout.Value name.toList) layout.chosen := by
  refine ⟨?_, ?_⟩
  · rintro value ⟨_, _⟩
    exact Json.quoted_opens _
  · rintro value ⟨other, spells⟩
    cases named.symm.trans other
    refine ⟨set path, fun front rest gap ends => ?_, sets⟩
    exact Json.reads_bind (Json.reads_stringFor _ spells gap rest) (Json.reads_pure _ rest)

theorem fields_fill (layout : FileLayout) :
    ∀ field ∈ fields, Json.Fills field (layout.Value field.name) layout.chosen := by
  simp only [fields, List.forall_mem_cons]
  refine ⟨pathField_fills rfl ?_, pathField_fills rfl ?_, pathField_fills rfl ?_, pathField_fills rfl ?_,
    pathField_fills rfl ?_, pathField_fills rfl ?_, pathField_fills rfl ?_, List.forall_mem_nil _⟩
  all_goals
    intro filled
    simp (disch := decide) only [chosen, picked_same, picked_other]

theorem layout_written (layout : FileLayout)
    (once : (Json.among (layout.paths.map Prod.fst) keys).Nodup) :
    ∃ text, layout.Written (Json.among (layout.paths.map Prod.fst) keys) text := by
  refine Json.record_written (fun name named => ?_) once
  obtain ⟨path, listed⟩ := lookup_named named
  exact ⟨_, .path listed (Json.quote_spells path)⟩

end FileLayout

namespace Settings

inductive Entry where
  | count (n : Nat)
  | text (content : Text)
  | paths (files : FileLayout)

def entries (settings : Settings) : List (Text × Entry) := [
  ("descriptor_header_lines".toList, .count settings.descriptorHeader),
  ("empty_descriptor_key".toList, .text settings.emptyKey),
  ("event_stride".toList, .count settings.eventStride),
  ("pref_header_lines".toList, .count settings.preferenceHeader),
  ("handle_type".toList, .text settings.handleType),
  ("paths".toList, .paths settings.layout)]

inductive Entry.Written (layoutKeys : List Text) : Entry → Text → Prop where
  | count : Written layoutKeys (.count n) (Text.ofNat n)
  | text (spells : Json.Spells written content) : Written layoutKeys (.text content) (Json.quoted written)
  | paths (record : files.Written layoutKeys written) : Written layoutKeys (.paths files) written

def Value (settings : Settings) (layoutKeys : List Text) (key value : Text) : Prop :=
  ∃ entry, settings.entries.lookup key = some entry ∧ entry.Written layoutKeys value

theorem Value.entry {settings : Settings} {entry : Entry}
    (given : settings.Value layoutKeys key value)
    (named : settings.entries.lookup key = some entry) : entry.Written layoutKeys value := by
  obtain ⟨other, named', written⟩ := given
  cases named.symm.trans named'
  exact written

def Written (settings : Settings) (keys layoutKeys : List Text) : Text → Prop :=
  Json.RecordText (settings.entries.map Prod.fst) (settings.Value layoutKeys) keys

def chosen (settings : Settings) (keys layoutKeys : List Text) : Settings where
  descriptorHeader :=
    picked keys "descriptor_header_lines".toList settings.descriptorHeader ({} : Settings).descriptorHeader
  emptyKey := picked keys "empty_descriptor_key".toList settings.emptyKey ({} : Settings).emptyKey
  eventStride := picked keys "event_stride".toList settings.eventStride ({} : Settings).eventStride
  preferenceHeader :=
    picked keys "pref_header_lines".toList settings.preferenceHeader ({} : Settings).preferenceHeader
  handleType := picked keys "handle_type".toList settings.handleType ({} : Settings).handleType
  layout := picked keys "paths".toList (settings.layout.chosen layoutKeys) ({} : Settings).layout

theorem chosen_none (settings : Settings) (layoutKeys : List Text) :
    settings.chosen [] layoutKeys = {} := rfl

theorem chosen_alike (settings : Settings) (same : ∀ key, key ∈ keys ↔ key ∈ keys')
    (alike : ∀ key, key ∈ layoutKeys ↔ key ∈ layoutKeys') :
    settings.chosen keys layoutKeys = settings.chosen keys' layoutKeys' := by
  simp only [chosen, picked_alike same, settings.layout.chosen_alike alike]

-- Larger numbers are read as floating ones, which count nothing.
def Small (settings : Settings) : Prop :=
  settings.descriptorHeader < Decimal.twoTo 64 ∧ settings.eventStride < Decimal.twoTo 64 ∧
    settings.preferenceHeader < Decimal.twoTo 64

variable {settings : Settings} {layoutKeys : List Text}

theorem countField_fills {name : String} {set : Nat → Settings → Settings}
    (named : settings.entries.lookup name.toList = some (.count n)) (small : n < Decimal.twoTo 64)
    (sets : ∀ filled, set n (settings.chosen filled layoutKeys) =
      settings.chosen (name.toList :: filled) layoutKeys) :
    Json.Fills (countField name set) (settings.Value layoutKeys name.toList)
      (settings.chosen · layoutKeys) := by
  refine ⟨fun value given => ?_, fun value given => ?_⟩
  · cases given.entry named
    exact Json.ofNat_opens n
  · cases given.entry named
    refine ⟨set n, fun front rest gap ends => ?_, sets⟩
    exact Json.reads_bind (Json.reads_count small gap ends) (Json.reads_pure _ rest)

theorem textField_fills {name : String} {set : Text → Settings → Settings}
    (named : settings.entries.lookup name.toList = some (.text text))
    (sets : ∀ filled, set text (settings.chosen filled layoutKeys) =
      settings.chosen (name.toList :: filled) layoutKeys) :
    Json.Fills (textField name set) (settings.Value layoutKeys name.toList)
      (settings.chosen · layoutKeys) := by
  refine ⟨fun value given => ?_, fun value given => ?_⟩
  · cases given.entry named
    exact Json.quoted_opens _
  · cases given.entry named with
    | text spells =>
      refine ⟨set text, fun front rest gap ends => ?_, sets⟩
      exact Json.reads_bind (Json.reads_stringFor _ spells gap rest) (Json.reads_pure _ rest)

theorem layout_read (written : settings.layout.Written layoutKeys text) (gap : Json.Gap front)
    (rest : Text) :
    Json.Reads FileLayout.read (front ++ (text ++ rest)) (settings.layout.chosen layoutKeys) rest := by
  have read := Json.record_read settings.layout.fields_fill written gap "struct PathConfig".toList rest
  rwa [settings.layout.chosen_none, settings.layout.chosen_alike fun key => List.mem_reverse] at read

theorem layoutField_fills {set : FileLayout → Settings → Settings}
    (sets : ∀ filled, set (settings.layout.chosen layoutKeys) (settings.chosen filled layoutKeys) =
      settings.chosen ("paths".toList :: filled) layoutKeys) :
    Json.Fills ⟨"paths".toList, do return set (← FileLayout.read)⟩
      (settings.Value layoutKeys "paths".toList) (settings.chosen · layoutKeys) := by
  have named : settings.entries.lookup "paths".toList = some (.paths settings.layout) := rfl
  refine ⟨fun value given => ?_, fun value given => ?_⟩
  · cases given.entry named with
    | paths record => exact Json.recordText_opens record
  · cases given.entry named with
    | paths record =>
      refine ⟨set (settings.layout.chosen layoutKeys), fun front rest gap ends => ?_, sets⟩
      exact Json.reads_bind (layout_read record gap rest) (Json.reads_pure _ rest)

theorem fields_fill (small : settings.Small) (layoutKeys : List Text) :
    ∀ field ∈ fields, Json.Fills field (settings.Value layoutKeys field.name)
      (settings.chosen · layoutKeys) := by
  obtain ⟨descriptorHeader, eventStride, preferenceHeader⟩ := small
  simp only [fields, List.forall_mem_cons]
  refine ⟨countField_fills rfl descriptorHeader ?_, textField_fills rfl ?_, countField_fills rfl eventStride ?_,
    countField_fills rfl preferenceHeader ?_, textField_fills rfl ?_, layoutField_fills ?_, List.forall_mem_nil _⟩
  all_goals
    intro filled
    simp (disch := decide) only [chosen, picked_same, picked_other]

theorem ofText_chosen (small : settings.Small) (written : settings.Written keys layoutKeys text)
    (before : Json.Gap front) (after : Json.Gap back) :
    ofText (front ++ (text ++ back)) = .ok (settings.chosen keys layoutKeys) := by
  have read := Json.record_read (fields_fill small layoutKeys) written before
    "struct GeneratorConfig".toList back
  rw [settings.chosen_none, settings.chosen_alike (fun key => List.mem_reverse) fun key => Iff.rfl] at read
  rw [ofText, Settings.read, Json.document_read read after]

inductive HandleTypeText (value : Text) : Text → Prop where
  | written (member : Json.MemberText "handle_type".toList value item)
      (object : Json.Bracketed .object [item] text) (before : Json.Gap front) (after : Json.Gap back) :
      HandleTypeText value (front ++ (text ++ back))

theorem default_small : ({} : Settings).Small :=
  ⟨by decide +kernel, by decide +kernel, by decide +kernel⟩

theorem handleType_read (given : HandleTypeText (Json.quote type) document) :
    ofText document = .ok { ({} : Settings) with handleType := type } := by
  obtain ⟨member, object, before, after⟩ := given
  let settings : Settings := { ({} : Settings) with handleType := type }
  have named : "handle_type".toList ∈ ({} : Settings).entries.map Prod.fst := by decide
  have key : Json.Spells "handle_type".toList "handle_type".toList :=
    Json.quote_spells "handle_type".toList
  have value : settings.Value [] "handle_type".toList (Json.quote type) :=
    ⟨_, rfl, .text (Json.quote_spells type)⟩
  have members : List.Forall₂ (Json.MemberOf (settings.entries.map Prod.fst) (settings.Value []))
      ["handle_type".toList] [_] :=
    .cons (.written key (fun _ => value) (absurd named) member) .nil
  have once : (Json.among (({} : Settings).entries.map Prod.fst) ["handle_type".toList]).Nodup := by
    decide
  have written : settings.Written ["handle_type".toList] [] _ :=
    Json.RecordText.object members once object
  have small : settings.Small := default_small
  exact ofText_chosen small written before after

theorem settings_written (settings : Settings)
    (once : (Json.among (settings.entries.map Prod.fst) keys).Nodup)
    (layoutOnce : (Json.among (settings.layout.paths.map Prod.fst) layoutKeys).Nodup) :
    ∃ text, settings.Written (Json.among (settings.entries.map Prod.fst) keys)
      (Json.among (settings.layout.paths.map Prod.fst) layoutKeys) text := by
  refine Json.record_written (fun name named => ?_) once
  obtain ⟨entry, listed⟩ := lookup_named named
  cases entry with
  | count n => exact ⟨_, _, listed, .count⟩
  | text content => exact ⟨_, _, listed, .text (Json.quote_spells content)⟩
  | paths files =>
    obtain ⟨text, written⟩ := files.layout_written layoutOnce
    exact ⟨text, _, listed, .paths written⟩

def reordered : Settings where
  eventStride := Decimal.twoTo 64 - 1
  preferenceHeader := 9
  emptyKey := "a\"☃".toList
  layout := { descriptors := "d".toList, events := "in.txt".toList }

def reorderedText : Text :=
  ("\x7b\"later\": \x7b\"x\": [null, true]\x7d, \"event_stride\": 18446744073709551615, " ++
    "\"paths\": [\"d\", \"in.txt\"], \"empty_descriptor_key\": \"a\\\"☃\"\x7d").toList

theorem nested_value : Json.ValueText "\x7b\"x\": [null, true]\x7d".toList := by
  have none : Json.Gap [] := List.forall_mem_nil _
  have one : Json.Gap [' '] := List.forall_mem_singleton.mpr rfl
  have words : ∀ item ∈ ["null".toList, "true".toList], Json.ValueText item := by
    simp only [List.forall_mem_cons]
    exact ⟨.word (.inl rfl), .word (.inr (.inl rfl)), List.forall_mem_nil _⟩
  have list : ∀ member ∈ [("x".toList, "[null, true]".toList)], Json.ValueText member.2 :=
    List.forall_mem_singleton.mpr (.list words (.full (.next none none (.last one none))))
  have key : ∀ member ∈ [("x".toList, "[null, true]".toList)], Json.Body member.1 :=
    List.forall_mem_singleton.mpr (.cons (.plain (by decide) (by decide) (by decide)) .nil)
  exact .object key list (.cons (.written none one) .nil) (.full (.last none none))

theorem reordered_layout : reordered.layout.Written ["descriptors".toList, "events".toList]
    "[\"d\", \"in.txt\"]".toList := by
  have elements : List.Forall₂ reordered.layout.Value ((reordered.layout.paths.map Prod.fst).take 2)
      [Json.quoted "d".toList, Json.quoted "in.txt".toList] :=
    .cons ⟨rfl, Json.quote_spells "d".toList⟩ (.cons ⟨rfl, Json.quote_spells "in.txt".toList⟩ .nil)
  have none : Json.Gap [] := List.forall_mem_nil _
  have one : Json.Gap [' '] := List.forall_mem_singleton.mpr rfl
  exact Json.RecordText.list elements (.full (.next none none (.last one none)))

theorem reordered_written : reordered.Written
    ["event_stride".toList, "paths".toList, "empty_descriptor_key".toList]
    ["descriptors".toList, "events".toList] reorderedText := by
  have none : Json.Gap [] := List.forall_mem_nil _
  have one : Json.Gap [' '] := List.forall_mem_singleton.mpr rfl
  have members : List.Forall₂ (Json.MemberOf (reordered.entries.map Prod.fst)
      (reordered.Value ["descriptors".toList, "events".toList]))
      ["later".toList, "event_stride".toList, "paths".toList, "empty_descriptor_key".toList]
      ["\"later\": \x7b\"x\": [null, true]\x7d".toList, "\"event_stride\": 18446744073709551615".toList,
        "\"paths\": [\"d\", \"in.txt\"]".toList, "\"empty_descriptor_key\": \"a\\\"☃\"".toList] := by
    refine .cons ?_ (.cons ?_ (.cons ?_ (.cons ?_ .nil)))
    · exact .written (Json.quote_spells _) (fun known => absurd known (by decide)) (fun _ => nested_value)
        (.written none one)
    · exact .written (Json.quote_spells _) (fun _ => ⟨_, rfl, .count⟩) (absurd (by decide)) (.written none one)
    · exact .written (Json.quote_spells _) (fun _ => ⟨_, rfl, .paths reordered_layout⟩) (absurd (by decide))
        (.written none one)
    · exact .written (Json.quote_spells _) (fun _ => ⟨_, rfl, .text (Json.quote_spells _)⟩) (absurd (by decide))
        (.written none one)
  have written := Json.RecordText.object members (by decide)
    (.full (.next none none (.next one none (.next one none (.last one none)))))
  unfold Written
  convert written using 1 <;> decide +kernel

-- Keys can be written in any order and with any others between them. Texts that have the values
-- of the same keys are read alike: so is a list as the object that has just the keys of its values.
theorem selection_read (small : settings.Small) :
    (∀ keys layoutKeys, (Json.among (settings.entries.map Prod.fst) keys).Nodup →
      (Json.among (settings.layout.paths.map Prod.fst) layoutKeys).Nodup →
      ∃ text, settings.Written (Json.among (settings.entries.map Prod.fst) keys)
        (Json.among (settings.layout.paths.map Prod.fst) layoutKeys) text) ∧
    (∀ keys layoutKeys text front back, settings.Written keys layoutKeys text → Json.Gap front →
      Json.Gap back → ofText (front ++ (text ++ back)) = .ok (settings.chosen keys layoutKeys)) ∧
    ∀ keys keys' layoutKeys layoutKeys' text text', settings.Written keys layoutKeys text →
      settings.Written keys' layoutKeys' text' → (∀ key, key ∈ keys ↔ key ∈ keys') →
      (∀ key, key ∈ layoutKeys ↔ key ∈ layoutKeys') → ofText text = ofText text' := by
  refine ⟨fun _ _ once layoutOnce => settings.settings_written once layoutOnce,
    fun _ _ _ _ _ written before after => ofText_chosen small written before after, ?_⟩
  intro keys keys' layoutKeys layoutKeys' text text' written written' same alike
  have none : Json.Gap [] := List.forall_mem_nil _
  have read := ofText_chosen small written none none
  have read' := ofText_chosen small written' none none
  rw [List.nil_append, List.append_nil] at read read'
  rw [read, read', settings.chosen_alike same alike]

theorem reordered_settings_read : reordered.Small ∧
    ofText ([' '] ++ (reorderedText ++ ['\n'])) =
      .ok { reordered with preferenceHeader := ({} : Settings).preferenceHeader } := by
  have small : reordered.Small := ⟨by decide +kernel, by decide +kernel, by decide +kernel⟩
  have before : Json.Gap [' '] := List.forall_mem_singleton.mpr rfl
  have after : Json.Gap ['\n'] := List.forall_mem_singleton.mpr rfl
  have chosen : reordered.chosen ["event_stride".toList, "paths".toList, "empty_descriptor_key".toList]
      ["descriptors".toList, "events".toList] =
        { reordered with preferenceHeader := ({} : Settings).preferenceHeader } := by decide +kernel
  have read := (selection_read small).2.1 _ _ _ _ _ reordered_written before after
  rw [chosen] at read
  exact ⟨small, read⟩

end Settings
end PluginBindings
