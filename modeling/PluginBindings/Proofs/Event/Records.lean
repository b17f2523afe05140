import PluginBindings.Event.Reader
import PluginBindings.Proofs.Report.Reading

namespace PluginBindings
namespace EventSpec

def ofLines (name signal key format hint : Line) : EventSpec :=
  ⟨name.text, name.number, signal.text, key.text, format.text, hint.text⟩

-- The event table as its groups, each of `stride` lines with five that carry meaning.
inductive Records (stride : Nat) : List Line → List EventSpec → Prop where
  | done : Records stride [] []
  | record {name signal key format hint : Line} {more lines : List Line} {specs : List EventSpec}
      (size : more.length + 5 = stride) (later : Records stride lines specs) :
      Records stride (name :: signal :: key :: format :: hint :: (more ++ lines))
        (ofLines name signal key format hint :: specs)

theorem readGroup_short {first : Line} {rest : List Line} (short : rest.length + 1 < stride) :
    readGroup stride (first :: rest) =
      [.failed (.parse (.incompleteRecord stride (rest.length + 1)) first.number)] := by
  unfold readGroup
  split
  · rename_i nothing; cases nothing
  · rename_i same
    cases same
    split
    · simp only [List.length_cons] at short ⊢
      simp [short]
    · rfl

theorem readGroup_complete {name signal key format hint : Line} {more : List Line}
    (size : more.length + 5 = stride) :
    readGroup stride (name :: signal :: key :: format :: hint :: more) =
      [.noted (.eventRead name.text name.number),
        .read (ofLines name signal key format hint)] := by
  have complete : ¬ (name :: signal :: key :: format :: hint :: more).length < stride := by
    simp only [List.length_cons]
    omega
  simp only [readGroup, complete, if_false]
  rfl

theorem five_lines {rest : List Line} (long : 4 ≤ rest.length) :
    ∃ signal key format hint more, rest = signal :: key :: format :: hint :: more := by
  match rest, long with
  | signal :: key :: format :: hint :: more, _ => exact ⟨signal, key, format, hint, more, rfl⟩

theorem groups_complete {name signal key format hint : Line} {more lines : List Line}
    (size : more.length + 5 = stride) :
    groups (stride - 1) (name :: signal :: key :: format :: hint :: (more ++ lines)) =
      (name :: signal :: key :: format :: hint :: more) :: groups (stride - 1) lines := by
  have width : stride - 1 = (signal :: key :: format :: hint :: more).length := by
    simp only [List.length_cons]
    omega
  have rest : signal :: key :: format :: hint :: (more ++ lines) =
      (signal :: key :: format :: hint :: more) ++ lines := rfl
  rw [groups, rest, width, List.take_left, List.drop_left]

theorem next_group (long : 5 ≤ stride) (lines : List Line) (enough : stride ≤ lines.length) :
    ∃ name signal key format hint more later,
      lines = name :: signal :: key :: format :: hint :: (more ++ later) ∧
        more.length + 5 = stride := by
  cases lines with
  | nil => simp at enough; omega
  | cons name rest =>
    rw [List.length_cons] at enough
    obtain ⟨signal, key, format, hint, more, taken⟩ :=
      five_lines (by rw [List.length_take]; omega : 4 ≤ (rest.take (stride - 1)).length)
    refine ⟨name, signal, key, format, hint, more, rest.drop (stride - 1), ?_, ?_⟩
    · have split := List.take_append_drop (stride - 1) rest
      rw [taken] at split
      exact congrArg (name :: ·) split.symm
    · have size := congrArg List.length taken
      simp only [List.length_take, List.length_cons] at size
      omega

theorem records_length (records : Records stride lines specs) :
    lines.length = stride * specs.length := by
  induction records with
  | done => simp
  | record size _ ih =>
    simp only [List.length_cons, List.length_append, ih, Nat.mul_succ]
    omega

theorem groups_short {first : Line} {rest : List Line} (short : rest.length + 1 < stride) :
    groups (stride - 1) (first :: rest) = [first :: rest] := by
  have none : rest.drop (stride - 1) = [] := List.drop_eq_nil_of_le (by omega)
  rw [groups, none, List.take_of_length_le (by omega), groups]

theorem records_complete (long : 5 ≤ stride) (whole : lines.length = stride * count) :
    ∃ specs, Records stride lines specs ∧ specs.length = count := by
  induction count generalizing lines with
  | zero =>
    have empty : lines = [] := List.length_eq_zero_iff.mp (by simpa using whole)
    exact ⟨[], empty ▸ .done, rfl⟩
  | succ count ih =>
    rw [Nat.mul_succ] at whole
    obtain ⟨name, signal, key, format, hint, more, later, rfl, width⟩ :=
      next_group long lines (by omega)
    simp only [List.length_cons, List.length_append] at whole
    obtain ⟨specs, records, size⟩ := ih (show later.length = stride * count by omega)
    exact ⟨_ :: specs, .record width records, by simp [size]⟩

def leftover (stride : Nat) : List Line → Option Fault
  | [] => none
  | first :: rest => some (.parse (.incompleteRecord stride (rest.length + 1)) first.number)

theorem leftover_none {lines : List Line} : leftover stride lines = none ↔ lines = [] := by
  cases lines <;> simp [leftover]

theorem records_read (records : Records stride front specs) (short : rest.length < stride) :
    Reading.items ((groups (stride - 1) (front ++ rest)).flatMap (readGroup stride)) =
      Reading.ended specs (leftover stride rest) := by
  induction records with
  | done =>
    cases rest with
    | nil => rw [List.append_nil, groups]; rfl
    | cons first rest =>
      rw [List.nil_append, groups_short short, List.flatMap_cons, readGroup_short short]
      rfl
  | @record name signal key format hint more lines specs size later ih =>
    have next : name :: signal :: key :: format :: hint :: (more ++ lines) ++ rest =
        name :: signal :: key :: format :: hint :: (more ++ (lines ++ rest)) := by simp
    rw [next, groups_complete size, List.flatMap_cons, Reading.items_append,
      readGroup_complete size, ih]
    rfl

-- Whole groups first, as many as there are lines for, and then less than one.
theorem records_parted (long : 5 ≤ stride) (lines : List Line) :
    ∃ front rest specs, lines = front ++ rest ∧ Records stride front specs ∧
      specs.length = lines.length / stride ∧ rest.length = lines.length % stride := by
  have room := Nat.div_add_mod lines.length stride
  have whole : (lines.take (stride * (lines.length / stride))).length =
      stride * (lines.length / stride) := by
    rw [List.length_take]
    omega
  obtain ⟨specs, records, count⟩ := records_complete long whole
  refine ⟨_, _, specs, (List.take_append_drop _ lines).symm, records, count, ?_⟩
  rw [List.length_drop]
  omega

theorem groups_exact (long : 5 ≤ stride) :
    Reading.items ((groups (stride - 1) lines).flatMap (readGroup stride)) = specs.map .ok ↔
      Records stride lines specs := by
  constructor
  · intro same
    obtain ⟨front, rest, others, rfl, records, -, left⟩ := records_parted long lines
    have short : rest.length < stride := by
      rw [left]
      exact Nat.mod_lt _ (by omega)
    rw [records_read records short, Reading.ended_exact] at same
    obtain ⟨whole, rfl⟩ := same
    obtain rfl := leftover_none.mp whole
    rwa [List.append_nil]
  · intro records
    have short : ([] : List Line).length < stride := by
      rw [List.length_nil]
      omega
    simpa [leftover, Reading.ended] using records_read records short

theorem records_at (records : Records stride lines specs) (found : specs[i]? = some spec) :
    ∃ name signal key format hint, spec = ofLines name signal key format hint ∧
      lines[stride * i]? = some name ∧ lines[stride * i + 1]? = some signal ∧
      lines[stride * i + 2]? = some key ∧ lines[stride * i + 3]? = some format ∧
      lines[stride * i + 4]? = some hint := by
  induction records generalizing i with
  | done => cases found
  | @record name signal key format hint more lines specs size later ih =>
    cases i with
    | zero => cases found; exact ⟨name, signal, key, format, hint, rfl, rfl, rfl, rfl, rfl, rfl⟩
    | succ i =>
      obtain ⟨name', signal', key', format', hint', same, at0, at1, at2, at3, at4⟩ := ih found
      have width : (name :: signal :: key :: format :: hint :: more).length = stride := by
        simpa using size
      have shift : ∀ offset, (name :: signal :: key :: format :: hint :: (more ++ lines))[
          stride * (i + 1) + offset]? = lines[stride * i + offset]? := by
        intro offset
        have rest : name :: signal :: key :: format :: hint :: (more ++ lines) =
            (name :: signal :: key :: format :: hint :: more) ++ lines := rfl
        rw [rest, List.getElem?_append_right (by rw [width, Nat.mul_succ]; omega), width,
          Nat.mul_succ]
        congr 1
        omega
      refine ⟨name', signal', key', format', hint', same, ?_, ?_, ?_, ?_, ?_⟩
      · exact (shift 0).trans at0
      · exact (shift 1).trans at1
      · exact (shift 2).trans at2
      · exact (shift 3).trans at3
      · exact (shift 4).trans at4

theorem readAll_exact : (readAll text stride).result = .ok specs ↔
    5 ≤ stride ∧ Records stride (numberedLines text 0) specs := by
  unfold readAll EventSpec.read
  rw [Reading.collect_ok_exact]
  split
  · rename_i short
    constructor
    · intro same; cases specs <;> cases same
    · rintro ⟨long, -⟩; omega
  · rename_i long
    rw [groups_exact (by omega)]
    exact ⟨fun records => ⟨by omega, records⟩, fun facts => facts.2⟩

end EventSpec

theorem numberedLines_at (text : Text) (index : Nat) :
    (numberedLines text 0)[index]? = (Text.lines text)[index]?.map (Line.mk (index + 1)) := by
  simp only [numberedLines, List.drop_zero, List.getElem?_map, List.getElem?_zipIdx]
  cases (Text.lines text)[index]? with
  | none => rfl
  | some line => simp [Nat.add_comm]

theorem numberedLines_length (text : Text) :
    (numberedLines text 0).length = (Text.lines text).length := by
  simp [numberedLines]

end PluginBindings
