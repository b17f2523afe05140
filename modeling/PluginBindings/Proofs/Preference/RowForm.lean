import PluginBindings.Proofs.Preference.Rows
import PluginBindings.Proofs.Text.Scan

namespace PluginBindings

namespace PreferenceKind

def symbol : PreferenceKind → Text
  | str => "TYPE_STR".toList
  | int => "TYPE_INT".toList
  | bool => "TYPE_BOOL".toList

theorem ofSymbol?_exact {symbol : Text} {kind : PreferenceKind} :
    ofSymbol? symbol = some kind ↔ symbol = kind.symbol := by
  constructor
  · intro known
    unfold ofSymbol? at known
    split at known
    · cases known; assumption
    · split at known
      · cases known; assumption
      · split at known
        · cases known; assumption
        · cases known
  · rintro rfl
    cases kind <;> rfl

theorem ofSymbol?_none {symbol : Text} (other : ∀ kind : PreferenceKind, symbol ≠ kind.symbol) :
    ofSymbol? symbol = none := by
  cases known : ofSymbol? symbol with
  | none => rfl
  | some kind => exact absurd (ofSymbol?_exact.mp known) (other kind)

end PreferenceKind

namespace Preference

def IsSymbol (symbol : Text) : Prop := symbol ≠ [] ∧ ∀ c ∈ symbol, isWord c = true

structure RowForm where
  indent : Text
  beforeName : Text
  name : Text
  beforeComma : Text
  middle : Text
  beforeType : Text
  rest : Text

namespace RowForm

def front (form : RowForm) : Text :=
  form.indent ++ '{' :: (form.beforeName ++ '"' :: (form.name ++ '"' :: (form.beforeComma ++
    ',' :: (form.middle ++ ',' :: form.beforeType))))

def text (form : RowForm) (symbol : Text) : Text := form.front ++ symbol ++ form.rest

structure WellFormed (form : RowForm) : Prop where
  nonempty : form.indent ≠ []
  indent : ∀ c ∈ form.indent, isBlank c = true
  beforeName : ∀ c ∈ form.beforeName, isBlank c = true
  name : '"' ∉ form.name
  beforeComma : ∀ c ∈ form.beforeComma, isBlank c = true
  middle : ',' ∉ form.middle
  beforeType : ∀ c ∈ form.beforeType, isBlank c = true
  rest : Stops isWord form.rest

end RowForm

theorem other_all {text : Text} : (∀ d ∈ text, (d != c) = true) ↔ c ∉ text := by
  simp only [bne_iff_ne]
  exact ⟨fun other member => other c member rfl, fun absent d member same => absent (same ▸ member)⟩

theorem rowForm_exact {line name symbol rest : Text} :
    rowForm line = some ((name, symbol), rest) ↔ ∃ form : RowForm,
      form.WellFormed ∧ IsSymbol symbol ∧ form.name = name ∧ form.rest = rest ∧
        line = form.text symbol := by
  simp only [rowForm, Scan.bind_exact, Scan.literal_exact, Scan.span1_exact, Scan.span_exact,
    Scan.blanks_exact, Scan.pure_exact]
  constructor
  · intro read
    obtain ⟨indent, _, ⟨rfl, nonempty, run, -⟩, -, _, rfl, beforeName, _, ⟨rfl, run₁, -⟩, -, _, rfl,
      name, _, ⟨rfl, bare, -⟩, -, _, rfl, beforeComma, _, ⟨rfl, run₂, -⟩, -, _, rfl, middle, _,
      ⟨rfl, bare', -⟩, -, _, rfl, beforeType, _, ⟨rfl, run₃, -⟩, symbol, _,
      ⟨rfl, given, word, stops⟩, same, rfl⟩ := read
    cases same
    exact ⟨⟨indent, beforeName, name, beforeComma, middle, beforeType, _⟩,
      ⟨nonempty, run, run₁, other_all.mp bare, run₂, other_all.mp bare', run₃, stops⟩,
      ⟨given, word⟩, rfl, rfl, by simp [RowForm.text, RowForm.front]⟩
  · intro written
    obtain ⟨form, ⟨nonempty, run, run₁, bare, run₂, bare', run₃, stops⟩, ⟨given, word⟩, rfl, rfl, rfl⟩ :=
      written
    have text : form.text symbol = form.indent ++ (['{'] ++ (form.beforeName ++ (['"'] ++
        (form.name ++ (['"'] ++ (form.beforeComma ++ ([','] ++ (form.middle ++ ([','] ++
          (form.beforeType ++ (symbol ++ form.rest))))))))))) := by
      simp [RowForm.text, RowForm.front]
    have typed : Stops isBlank (symbol ++ form.rest) := by
      obtain ⟨c, symbol, rfl⟩ := List.exists_cons_of_ne_nil given
      exact stops_cons.mpr (word_not_blank (word c List.mem_cons_self))
    have quote : isBlank '"' = false := by decide
    refine ⟨form.indent, _, ⟨text, nonempty, run, stops_cons.mpr brace_sign.1⟩, (), _, rfl,
      form.beforeName, _, ⟨rfl, run₁, stops_cons.mpr quote⟩, (), _, rfl,
      form.name, _, ⟨rfl, other_all.mpr bare, stops_cons.mpr (by decide)⟩, (), _, rfl,
      form.beforeComma, _, ⟨rfl, run₂, stops_cons.mpr comma_sign.1⟩, (), _, rfl,
      form.middle, _, ⟨rfl, other_all.mpr bare', stops_cons.mpr (by decide)⟩, (), _, rfl,
      form.beforeType, _, ⟨rfl, run₃, typed⟩, symbol, _, ⟨rfl, given, word, stops⟩, rfl, rfl⟩

theorem row?_exact {line name symbol : Text} :
    row? line = some (name, symbol) ↔ ∃ form : RowForm,
      form.WellFormed ∧ IsSymbol symbol ∧ form.name = name ∧ line = form.text symbol := by
  rw [row?, Option.map_eq_some_iff]
  constructor
  · intro read
    obtain ⟨⟨parts, rest⟩, read, rfl⟩ := read
    obtain ⟨form, written, typed, named, -, same⟩ := rowForm_exact.mp read
    exact ⟨form, written, typed, named, same⟩
  · intro written
    obtain ⟨form, written, typed, named, same⟩ := written
    exact ⟨((name, symbol), form.rest),
      rowForm_exact.mpr ⟨form, written, typed, named, rfl, same⟩, rfl⟩

theorem sentinel_zero {line : Text} (ends : isSentinel line = true) :
    ∃ gap rest, Text.trim line = '{' :: (gap ++ '0' :: rest) ∧ ∀ c ∈ gap, isBlank c = true := by
  obtain ⟨⟨⟩, read⟩ := Option.isSome_iff_exists.mp ends
  simp only [sentinelForm, Scan.whole_exact, Scan.bind_exact, Scan.literal_exact,
    Scan.blanks_exact] at read
  obtain ⟨-, _, same, gap, _, ⟨rfl, run, -⟩, -, rest, rfl, -⟩ := read
  exact ⟨gap, rest, same, run⟩

-- A name is quoted, and what a sentinel has in its place is no quote.
theorem row_not_sentinel {form : RowForm} (written : form.WellFormed) (symbol : Text) :
    isSentinel (form.text symbol) = false := by
  cases ends : isSentinel (form.text symbol) with
  | false => rfl
  | true =>
    obtain ⟨gap, rest, trimmed, run⟩ := sentinel_zero ends
    obtain ⟨front, back, same, blank, -, -, -⟩ := trim_exact.mp trimmed
    simp only [RowForm.text, RowForm.front, List.append_assoc, List.cons_append] at same
    obtain ⟨-, opened⟩ := run_unique same written.indent (stops_cons.mpr brace_sign.1) blank
      (stops_cons.mpr brace_sign.1)
    have inside := (List.cons.inj opened).2
    obtain ⟨-, quoted⟩ := run_unique inside written.beforeName (stops_cons.mpr (by decide)) run
      (stops_cons.mpr (by decide))
    cases quoted

theorem row_indented {form : RowForm} (written : form.WellFormed) (symbol : Text) :
    (form.text symbol).head?.any isBlank = true := by
  obtain ⟨c, indent, same⟩ := List.exists_cons_of_ne_nil written.nonempty
  have first := written.indent c (by simp [same])
  simp [RowForm.text, RowForm.front, same, first]

theorem item?_row {form : RowForm} {symbol : Text} (written : form.WellFormed)
    (typed : IsSymbol symbol) (number : Nat) : item? ⟨number, form.text symbol⟩ =
      some (match PreferenceKind.ofSymbol? symbol with
        | some kind => .ok ⟨form.name, number, kind⟩
        | none => .error (.unsupportedType symbol form.name number)) := by
  have read : row? (form.text symbol) = some (form.name, symbol) :=
    row?_exact.mpr ⟨form, written, typed, rfl, rfl⟩
  rw [item?, row_indented written, row_not_sentinel written, read]
  rfl

theorem item?_read {line : Line} (given : item? line = some (.ok preference)) :
    ∃ (form : RowForm) (symbol : Text), form.WellFormed ∧ form.name = preference.name ∧
      line.text = form.text symbol := by
  unfold item? at given
  split at given
  · obtain ⟨⟨name, symbol⟩, row, same⟩ := Option.map_eq_some_iff.mp given
    obtain ⟨form, written, -, rfl, whole⟩ := row?_exact.mp row
    refine ⟨form, symbol, written, ?_, whole⟩
    split at same
    · cases same
      rfl
    · cases same
  · cases given

-- A carriage return behind a line, which only the line's end can show, is none of its row.
theorem row?_returned (line : Text) : row? (line ++ ['\r']) = row? line := by
  have apart : isWord '\r' = false := blank_not_word (by decide)
  apply Option.ext
  rintro ⟨name, symbol⟩
  rw [row?_exact, row?_exact]
  constructor
  · intro returned
    obtain ⟨form, written, typed, named, same⟩ := returned
    rcases List.eq_nil_or_concat form.rest with none | ⟨rest, c, last⟩
    · obtain ⟨earlier, c, ended⟩ := (List.eq_nil_or_concat symbol).resolve_left typed.1
      rw [List.concat_eq_append] at ended
      rw [RowForm.text, none, List.append_nil, ended, ← List.append_assoc] at same
      have word := typed.2 c (by simp [ended])
      rw [← List.singleton_inj.mp (List.append_inj_right' same rfl), apart] at word
      cases word
    · rw [List.concat_eq_append] at last
      have stops := written.rest
      rw [last] at stops
      rw [RowForm.text, last, ← List.append_assoc] at same
      refine ⟨{ form with rest := rest }, { written with rest := ?_ }, typed, named,
        List.append_inj_left' same rfl⟩
      cases rest with
      | nil => exact stops_nil
      | cons d rest => exact stops_cons.mpr (stops_cons.mp stops)
  · intro read
    obtain ⟨form, written, typed, named, rfl⟩ := read
    refine ⟨{ form with rest := form.rest ++ ['\r'] }, { written with rest := ?_ }, typed, named,
      List.append_assoc _ _ _⟩
    cases behind : form.rest with
    | nil => exact stops_cons.mpr apart
    | cons d rest =>
      have stops := written.rest
      rw [behind] at stops
      exact stops_cons.mpr (stops_cons.mp stops)

theorem isSentinel_returned (line : Text) : isSentinel (line ++ ['\r']) = isSentinel line := by
  have trimmed : Text.trim ([] ++ line ++ ['\r']) = Text.trim line :=
    trim_around (by simp) (by simp; decide)
  rw [List.nil_append] at trimmed
  rw [isSentinel, trimmed, isSentinel]

theorem item?_empty (number : Nat) : item? ⟨number, []⟩ = none := item?_margin rfl

theorem item?_asRead (number : Nat) (line : Text) :
    item? ⟨number, Text.asRead line⟩ = item? ⟨number, line⟩ := by
  unfold Text.asRead
  split
  · rename_i returned
    have whole : line.dropLast ++ ['\r'] = line :=
      List.dropLast_append_getLast? '\r' returned
    generalize line.dropLast = front at whole
    subst whole
    cases front with
    | nil =>
      rw [item?_empty, item?, row?_returned]
      rfl
    | cons c front =>
      rw [item?, item?, row?_returned, isSentinel_returned]
      rfl
  · rfl

end Preference
end PluginBindings
