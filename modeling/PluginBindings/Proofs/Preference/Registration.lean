import PluginBindings.Generator
import PluginBindings.Proofs.Preference.RowForm
import PluginBindings.Proofs.Text.TitleCase

namespace PluginBindings

theorem lines_registrations {records : List Text} (solid : ∀ record ∈ records, Text.Solid record) :
    Text.lines (registrationLines records) = records := by
  induction records with
  | nil => rfl
  | cons record later ih =>
    obtain ⟨here, others⟩ := List.forall_mem_cons.mp solid
    have next : registrationLines (record :: later) = record ++ '\n' :: registrationLines later := by
      simp [registrationLines]
    rw [next, Text.lines_line here.1, here.asRead, ih others]

namespace PreferenceKind

def ofBindingType? (type : Text) : Option PreferenceKind :=
  [str, int, bool].find? (·.bindingType == type)

theorem bindingType_read (kind : PreferenceKind) : ofBindingType? kind.bindingType = some kind := by
  cases kind <;> rfl

end PreferenceKind

namespace Preference

-- What a binding is told of a preference; the line it was read from is not part of it.
def told (preference : Preference) : Text × PreferenceKind := (preference.name, preference.kind)

-- An identifier has no quote, so the first two quotes of a line are those of the name.
def registered? (line : Text) : Option (Text × PreferenceKind) := do
  let (_, quoted) ← Text.cutAt? '"' line
  let (name, typed) ← Text.cutAt? '"' quoted
  let (type, _) ← Text.cutAt? ')' (typed.drop 2)
  let kind ← PreferenceKind.ofBindingType? type
  return (name, kind)

theorem registration_parts (preference : Preference) : preference.registration =
    ("pref!(".toList ++ Text.toPascalCase preference.name ++ ", ".toList) ++
      '"' :: (preference.name ++ '"' :: (", ".toList ++
        (preference.kind.bindingType ++ ')' :: [';']))) := by
  have opening : ", \"".toList = ", ".toList ++ ['"'] := rfl
  have closing : "\", ".toList = '"' :: ", ".toList := rfl
  have ending : ");".toList = [')', ';'] := rfl
  unfold registration
  simp only [opening, closing, ending, List.append_assoc, List.cons_append, List.nil_append]

theorem registration_read {preference : Preference} (bare : '"' ∉ preference.name) :
    registered? preference.registration = some preference.told := by
  have identifier := Text.pascalCase_lacks (by decide : Text.isLow '"' = true) bare
  have front : '"' ∉ "pref!(".toList ++ Text.toPascalCase preference.name ++ ", ".toList := by
    simp [identifier]
  have type : ')' ∉ preference.kind.bindingType := by
    cases preference.kind <;> decide
  have opened := Text.cutAt?_exact.mpr ⟨registration_parts preference, front⟩
  rw [registered?, opened]
  simp only [Option.bind_eq_bind, Option.bind_some]
  rw [Text.cutAt?_exact.mpr ⟨rfl, bare⟩]
  have behind : (", ".toList ++ (preference.kind.bindingType ++ ')' :: [';'])).drop 2 =
      preference.kind.bindingType ++ ')' :: [';'] := rfl
  simp only [Option.bind_some]
  rw [behind, Text.cutAt?_exact.mpr ⟨rfl, type⟩]
  simp only [Option.bind_some, PreferenceKind.bindingType_read]
  rfl

theorem registration_solid {preference : Preference} (unbroken : '\n' ∉ preference.name) :
    Text.Solid preference.registration := by
  have identifier := Text.pascalCase_lacks (by decide : Text.isLow '\n' = true) unbroken
  have type : '\n' ∉ preference.kind.bindingType := by
    cases preference.kind <;> decide
  rw [registration_parts]
  constructor
  · simp [identifier, unbroken, type]
  · simp [List.getLast?_append, List.getLast?_cons]

theorem readAll_names {text : Text} {header : Nat} {preferences : List Preference}
    (read : (readAll text header).result = .ok preferences) :
    ∀ preference ∈ preferences, '"' ∉ preference.name ∧ '\n' ∉ preference.name := by
  intro preference member
  have items := Reading.collect_ok_exact.mp read
  rw [Preference.read, readFrom_items] at items
  have among : .ok preference ∈ (numberedLines text header).filterMap item? := by
    apply Reading.upToFault_subset
    rw [items]
    exact List.mem_map_of_mem member
  obtain ⟨line, inside, given⟩ := List.mem_filterMap.mp among
  obtain ⟨form, symbol, written, named, same⟩ := item?_read given
  rw [← named]
  refine ⟨written.name, fun breaks => numberedLines_unbroken inside ?_⟩
  rw [same]
  simp [RowForm.text, RowForm.front, breaks]

theorem registrations_read {text : Text} {header : Nat} {preferences : List Preference}
    (read : (readAll text header).result = .ok preferences) :
    (Text.lines (registrationLines (preferences.map registration))).map registered? =
      preferences.map (some ∘ told) := by
  have names := readAll_names read
  rw [lines_registrations, List.map_map]
  · apply List.map_congr_left
    intro preference member
    exact registration_read (names preference member).1
  · intro record member
    obtain ⟨preference, among, rfl⟩ := List.mem_map.mp member
    exact registration_solid (names preference among).2

theorem registrations_told {preferences preferences' : List Preference}
    (same : preferences.map told = preferences'.map told) :
    preferences.map registration = preferences'.map registration := by
  have shape : registration = (fun pair => registration ⟨pair.1, 0, pair.2⟩) ∘ told := rfl
  rw [shape, ← List.map_map, ← List.map_map, same]

theorem preferences_result {settings : Settings} {text out : Text}
    (compiled : (Generator.preferences settings text).result = .ok out) :
    ∃ preferences, (readAll text settings.preferenceHeader).result = .ok preferences ∧
      out = registrationLines (preferences.map registration) := by
  unfold Generator.preferences at compiled
  rw [Outcome.result_bind, ok_bind_exact] at compiled
  obtain ⟨preferences, read, written⟩ := compiled
  cases written
  exact ⟨preferences, read, rfl⟩

-- Each line of the text is one preference, and its name and type can be read back from it.
theorem told_by_registrations {settings settings' : Settings} {text text' out out' : Text}
    (compiled : (Generator.preferences settings text).result = .ok out)
    (compiled' : (Generator.preferences settings' text').result = .ok out') :
    ∃ preferences preferences' : List Preference,
      (readAll text settings.preferenceHeader).result = .ok preferences ∧
      (readAll text' settings'.preferenceHeader).result = .ok preferences' ∧
      (Text.lines out).map registered? = preferences.map (some ∘ told) ∧
      (Text.lines out').map registered? = preferences'.map (some ∘ told) ∧
      (out = out' ↔ preferences.map told = preferences'.map told) := by
  obtain ⟨preferences, read, rfl⟩ := preferences_result compiled
  obtain ⟨preferences', read', rfl⟩ := preferences_result compiled'
  have back := registrations_read read
  have back' := registrations_read read'
  refine ⟨preferences, preferences', read, read', back, back', ?_, ?_⟩
  · intro same
    rw [same, back', ← List.map_map, ← List.map_map] at back
    exact (List.map_injective_iff.mpr (fun _ _ => Option.some.inj) back).symm
  · intro same
    rw [registrations_told same]

-- A name that looks like the end of one registration and the start of the next.
theorem mimicked_registration_told :
    let line := "\t\x7b\"a_b, bool);pref!(B\" , 0, TYPE_INT\x7d,\n".toList
    ∃ preferences preferences' : List Preference,
      (readAll line 0).result = .ok preferences ∧
      (readAll ("/* */\n".toList ++ line) 1).result = .ok preferences' ∧
      preferences.map told = preferences'.map told := by
  intro line
  have compiled : (Generator.preferences { preferenceHeader := 0 } line).result =
      .ok "pref!(AB, bool);pref!(b, \"a_b, bool);pref!(B\", i32);\n".toList := by decide +kernel
  have compiled' : (Generator.preferences { preferenceHeader := 1 } ("/* */\n".toList ++ line)).result =
      .ok "pref!(AB, bool);pref!(b, \"a_b, bool);pref!(B\", i32);\n".toList := by decide +kernel
  obtain ⟨preferences, preferences', read, read', -, -, same⟩ :=
    told_by_registrations compiled compiled'
  exact ⟨preferences, preferences', read, read', same.mp rfl⟩

end Preference
end PluginBindings
