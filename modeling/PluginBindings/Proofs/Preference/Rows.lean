import PluginBindings.Preference.Reader
import PluginBindings.Proofs.Report.Reading
import PluginBindings.Proofs.Text.Lines

namespace PluginBindings
namespace Preference

def item? (line : Line) : Option (Except Fault Preference) :=
  if line.text.head?.any isBlank && !isSentinel line.text then
    (row? line.text).map fun row =>
      match PreferenceKind.ofSymbol? row.2 with
      | some kind => .ok ⟨row.1, line.number, kind⟩
      | none => .error (.unsupportedType row.2 row.1 line.number)
  else none

theorem item?_sentinel {line : Line} (ends : isSentinel line.text = true) : item? line = none := by
  rw [item?, ends, Bool.not_true, Bool.and_false]
  rfl

theorem item?_margin {line : Line} (margin : line.text.head?.any isBlank = false) :
    item? line = none := by
  rw [item?, margin]
  rfl

theorem readFrom_items (lines : List Line) :
    (readFrom lines).items = Reading.upToFault (lines.filterMap item?) := by
  induction lines with
  | nil => rfl
  | cons line lines ih =>
    rw [readFrom, List.filterMap_cons]
    cases indented : line.text.head?.any isBlank with
    | false => rw [item?_margin indented, Bool.not_false, if_pos rfl, ih]
    | true =>
      rw [Bool.not_true, if_neg Bool.false_ne_true]
      cases ends : isSentinel line.text with
      | true =>
        rw [item?_sentinel ends, if_pos rfl, Reading.items, ih]
      | false =>
        rw [if_neg Bool.false_ne_true, item?, indented, ends]
        cases row : row? line.text with
        | none => exact ih
        | some parts =>
          obtain ⟨name, symbol⟩ := parts
          cases kind : PreferenceKind.ofSymbol? symbol with
          | none => simp [kind, Reading.items, Reading.upToFault]
          | some kind' => simp [kind, Reading.items, Reading.upToFault, ih]

def lineOf : Except Fault Preference → Option Nat
  | .ok preference => some preference.line
  | .error (.unsupportedType _ _ line) => some line
  | .error _ => none

theorem item?_line {line : Line} (given : item? line = some entry) :
    lineOf entry = some line.number := by
  unfold item? at given
  split at given
  · obtain ⟨row, -, rfl⟩ := Option.map_eq_some_iff.mp given
    split <;> rfl
  · cases given

theorem entries_line {lines : List Line} (member : entry ∈ lines.filterMap item?) :
    ∃ line ∈ lines, lineOf entry = some line.number := by
  obtain ⟨line, among, given⟩ := List.mem_filterMap.mp member
  exact ⟨line, among, item?_line given⟩

theorem numberedLines_around {text : Text} {header : Nat} {above below : List Line} {middle : Line}
    (split : numberedLines text header = above ++ middle :: below) :
    (∀ line ∈ above, line.number < middle.number) ∧ ∀ line ∈ below, middle.number < line.number := by
  have numbers := numberedLines_numbers text header
  have rising : (List.range' (header + 1) ((Text.lines text).length - header)).Pairwise (· < ·) :=
    List.pairwise_lt_range' _
  rw [← numbers, split, List.pairwise_map, List.pairwise_append, List.pairwise_cons] at rising
  obtain ⟨-, ⟨later, -⟩, across⟩ := rising
  exact ⟨fun line member => across line member middle List.mem_cons_self, later⟩

-- Where the sentinel has the last word: a fault above it ends the table, or no row is below.
def Decided (above below : List Line) : Prop :=
  Reading.Faulty (above.filterMap item?) ∨ ∀ line ∈ below, item? line = none

theorem decided_exact {above below : List Line} :
    Decided above below ↔ Reading.upToFault (above.filterMap item? ++ below.filterMap item?) =
      Reading.upToFault (above.filterMap item?) := by
  rw [Decided, ← List.filterMap_eq_nil_iff]
  by_cases faulty : Reading.Faulty (above.filterMap item?)
  · exact iff_of_true (.inl faulty) (Reading.upToFault_faulty faulty _)
  · have whole := Reading.upToFault_clean faulty []
    rw [List.append_nil] at whole
    rw [Reading.upToFault_clean faulty, whole, Reading.upToFault, List.append_nil,
      List.append_right_eq_self, Reading.upToFault_empty]
    exact ⟨fun decided => decided.resolve_left faulty, .inr⟩

-- The rows below the sentinel are read like those above it. So the text below it has no
-- influence exactly where it has the last word.
theorem sentinel_passed_exact {text : Text} {header : Nat} {above below : List Line}
    {sentinel : Line} (split : numberedLines text header = above ++ sentinel :: below)
    (ends : isSentinel sentinel.text = true) :
    (read text header).items =
        Reading.upToFault (above.filterMap item? ++ below.filterMap item?) ∧
      ((∀ item ∈ (read text header).items,
          ∃ line, lineOf item = some line ∧ line < sentinel.number) ↔ Decided above below) ∧
      ((read text header).items = (readFrom (above ++ [sentinel])).items ↔
        Decided above below) := by
  have items : (read text header).items =
      Reading.upToFault (above.filterMap item? ++ below.filterMap item?) := by
    rw [read, readFrom_items, split, List.filterMap_append, List.filterMap_cons,
      item?_sentinel ends]
  have cut : (readFrom (above ++ [sentinel])).items = Reading.upToFault (above.filterMap item?) := by
    rw [readFrom_items, List.filterMap_append, List.filterMap_cons, item?_sentinel ends,
      List.filterMap_nil, List.append_nil]
  obtain ⟨before, behind⟩ := numberedLines_around split
  rw [items, cut, decided_exact]
  refine ⟨rfl, ⟨fun higher => ?_, fun same item member => ?_⟩, Iff.rfl⟩
  · apply decided_exact.mp
    by_cases faulty : Reading.Faulty (above.filterMap item?)
    · exact .inl faulty
    · right
      apply List.filterMap_eq_nil_iff.mp
      cases rows : below.filterMap item? with
      | nil => rfl
      | cons entry later =>
        -- the first row below is read, and its line is one of those below
        rw [rows, Reading.upToFault_clean faulty] at higher
        obtain ⟨number, stands, higher⟩ := higher entry (List.mem_append_right _ Reading.upToFault_head)
        obtain ⟨line, among, given⟩ := entries_line (rows ▸ List.mem_cons_self)
        have lower := behind line among
        cases given.symm.trans stands
        omega
  · rw [same] at member
    obtain ⟨line, among, given⟩ := entries_line (Reading.upToFault_subset _ member)
    exact ⟨line.number, given, before line among⟩

theorem last_row_decides :
    (read "\t\x7b\"a\", 0, TYPE_INT\x7d,\n\t\x7b0, 0, 0\x7d,\n\x7d;\n".toList 0).items =
      [.ok ⟨"a".toList, 1, .int⟩] := by
  have split : numberedLines "\t\x7b\"a\", 0, TYPE_INT\x7d,\n\t\x7b0, 0, 0\x7d,\n\x7d;\n".toList 0 =
      [⟨1, "\t\x7b\"a\", 0, TYPE_INT\x7d,".toList⟩] ++ ⟨2, "\t\x7b0, 0, 0\x7d,".toList⟩ ::
        [⟨3, "\x7d;".toList⟩] := rfl
  obtain ⟨-, -, cut⟩ := sentinel_passed_exact split (by decide)
  have below : ∀ line ∈ [Line.mk 3 "\x7d;".toList], item? line = none := by
    simp only [List.forall_mem_singleton]
    exact item?_margin (by decide)
  exact cut.mpr (.inr below)

theorem rows_below_sentinel_read :
    let text := "\t\x7b0, 0, 0\x7d,\n\t\x7b\"a\", 0, TYPE_INT\x7d,\n\t\x7b\"b\", 0, TYPE_FLOAT\x7d,\n".toList
    (numberedLines text 0).head? = some ⟨1, "\t\x7b0, 0, 0\x7d,".toList⟩ ∧
      isSentinel "\t\x7b0, 0, 0\x7d,".toList = true ∧
      (read text 0).items = [.ok ⟨"a".toList, 2, .int⟩,
        .error (.unsupportedType "TYPE_FLOAT".toList "b".toList 3)] := by
  refine ⟨rfl, by decide, ?_⟩
  rfl

end Preference
end PluginBindings
