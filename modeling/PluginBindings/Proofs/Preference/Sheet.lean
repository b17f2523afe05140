import PluginBindings.Proofs.Preference.RowForm

namespace PluginBindings
namespace Preference

-- What may stand between rows: all that is passed over, except for the sentinel.
inductive Noise : Text → Prop where
  | empty : Noise []
  | margin (starts : isBlank c = false) : Noise (c :: text)
  | indented (starts : isBlank c = true) (goes_on : isSentinel (c :: text) = false)
      (no_row : row? (c :: text) = none) : Noise (c :: text)

inductive Entry where
  | row (form : RowForm) (kind : PreferenceKind)
  | noise (line : Text)

namespace Entry

def text : Entry → Text
  | row form kind => form.text kind.symbol
  | noise line => line

def WellFormed : Entry → Prop
  | row form _ => form.WellFormed
  | noise line => Noise line

def described (number : Nat) : List Entry → List Preference
  | [] => []
  | row form kind :: later => ⟨form.name, number, kind⟩ :: described (number + 1) later
  | noise _ :: later => described (number + 1) later

end Entry

theorem item?_noise {line : Text} (noise : Noise line) (number : Nat) :
    item? ⟨number, line⟩ = none := by
  cases noise with
  | empty => exact item?_empty number
  | margin starts => exact item?_margin starts
  | indented starts goes_on no_row =>
    rw [item?, goes_on, no_row]
    split <;> rfl

theorem symbol_isSymbol (kind : PreferenceKind) : IsSymbol kind.symbol := by
  refine ⟨by cases kind <;> decide, List.all_eq_true.mp ?_⟩
  cases kind <;> decide +kernel

theorem entries_described {entries : List Entry} (written : ∀ entry ∈ entries, entry.WellFormed)
    (number : Nat) :
    (linesFrom number (entries.map Entry.text)).filterMap item? =
      (Entry.described number entries).map .ok := by
  induction entries generalizing number with
  | nil => rfl
  | cons entry later ih =>
    obtain ⟨here, others⟩ := List.forall_mem_cons.mp written
    rw [List.map_cons, linesFrom, List.filterMap_cons, ih others]
    cases entry with
    | row form kind =>
      have known := PreferenceKind.ofSymbol?_exact.mpr (rfl : kind.symbol = kind.symbol)
      rw [Entry.text, item?_row here (symbol_isSymbol kind), known]
      rfl
    | noise line =>
      rw [Entry.text, item?_noise here]
      rfl

theorem joined_items {header lines : List Text}
    (unbroken : ∀ line ∈ header ++ lines, '\n' ∉ line) :
    (read (Text.join ['\n'] (header ++ lines)) header.length).items =
      Reading.upToFault ((linesFrom (header.length + 1) lines).filterMap item?) := by
  obtain ⟨above, below⟩ := List.forall_mem_append.mp unbroken
  rw [read, numberedLines_join above, readFrom_items,
    filterMap_joined item?_asRead item?_empty below]

-- A row of another type anywhere ends the reading with its fault, whatever lines are below.
theorem rows_among_noise_read {header : List Text} {entries : List Entry}
    (unbroken : ∀ line ∈ header ++ entries.map Entry.text, '\n' ∉ line)
    (written : ∀ entry ∈ entries, entry.WellFormed) :
    (readAll (Text.join ['\n'] (header ++ entries.map Entry.text)) header.length).result =
        .ok (Entry.described (header.length + 1) entries) ∧
      ∀ (form : RowForm) (symbol : Text) (below : List Text), form.WellFormed → IsSymbol symbol →
        (∀ kind : PreferenceKind, symbol ≠ kind.symbol) →
        (∀ line ∈ form.text symbol :: below, '\n' ∉ line) →
        (readAll (Text.join ['\n'] (header ++ (entries.map Entry.text ++ form.text symbol :: below)))
            header.length).result =
          .error (.unsupportedType symbol form.name (header.length + entries.length + 1)) := by
  constructor
  · apply Reading.collect_ok_exact.mpr
    rw [joined_items unbroken, entries_described written, Reading.upToFault_values]
  · intro form symbol below formed typed other joined
    have whole : ∀ line ∈ header ++ (entries.map Entry.text ++ form.text symbol :: below),
        '\n' ∉ line := by
      rw [← List.append_assoc]
      exact List.forall_mem_append.mpr ⟨unbroken, joined⟩
    have number : header.length + 1 + (entries.map Entry.text).length =
        header.length + entries.length + 1 := by
      rw [List.length_map]
      omega
    have items := joined_items whole
    rw [linesFrom_append, List.filterMap_append, entries_described written, linesFrom,
      List.filterMap_cons, item?_row formed typed, PreferenceKind.ofSymbol?_none other, number,
      Reading.upToFault_ended] at items
    exact Reading.collect_fault items

theorem tab_blank : ∀ c ∈ ['\t'], isBlank c = true := List.all_eq_true.mp (by decide)

theorem stops_closing (later : Text) : Stops isWord ('}' :: later) :=
  stops_cons.mpr (by decide +kernel)

def mixedEntries : List Entry := [
  .noise [],
  .row ⟨['\t'], [], "away_msg".toList, [' '], " \"x\" ".toList, [' '], "\x7d,\r".toList⟩ .str,
  .noise "\t/* no row */".toList,
  .row ⟨"  ".toList, [' '], "a, 0, TYPE_INT".toList, [], [], [], []⟩ .bool]

theorem mixedEntries_wellFormed : ∀ entry ∈ mixedEntries, entry.WellFormed := by
  have spaces : ∀ c ∈ "  ".toList, isBlank c = true := List.all_eq_true.mp (by decide)
  have comment : Noise "\t/* no row */".toList := .indented (by decide) (by decide) (by decide)
  simp only [mixedEntries, List.forall_mem_cons]
  refine ⟨.empty, ?_, comment, ?_, by simp⟩
  · exact ⟨by simp, tab_blank, by simp, by decide, space_blank, by decide, space_blank,
      stops_closing _⟩
  · exact ⟨by simp, spaces, space_blank, by decide, by simp, by simp, by simp, stops_nil⟩

theorem mixed_rows_read :
    let text := "/*\n\n\t\x7b\"away_msg\" , \"x\" , TYPE_STR\x7d,\r\n\t/* no row */\n".toList ++
      "  \x7b \"a, 0, TYPE_INT\",,TYPE_BOOL".toList
    (readAll text 1).result =
        .ok [⟨"away_msg".toList, 3, .str⟩, ⟨"a, 0, TYPE_INT".toList, 5, .bool⟩] ∧
      (readAll (text ++ "\n\t\x7b\"b\", 0, TYPE_FLOAT\x7d,\n".toList) 1).result =
        .error (.unsupportedType "TYPE_FLOAT".toList "b".toList 6) := by
  have word : ∀ c ∈ "TYPE_FLOAT".toList, isWord c = true := List.all_eq_true.mp (by decide +kernel)
  have unbroken : ∀ line ∈ ["/*".toList] ++ mixedEntries.map Entry.text, '\n' ∉ line := by decide
  obtain ⟨read, refused⟩ := rows_among_noise_read unbroken mixedEntries_wellFormed
  refine ⟨read, ?_⟩
  refine refused ⟨['\t'], [], "b".toList, [], " 0".toList, [' '], "\x7d,".toList⟩ "TYPE_FLOAT".toList
    [[]] ⟨by simp, tab_blank, by simp, by decide, by simp, by decide, space_blank, stops_closing _⟩
    ⟨by decide, word⟩ ?_ (by decide)
  intro kind
  cases kind <;> decide

end Preference
end PluginBindings
