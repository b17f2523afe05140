import PluginBindings.Proofs.Text.Cut
import PluginBindings.Text.Line

namespace PluginBindings
namespace Text

theorem lines_unbroken (text : Text) : ∀ line ∈ lines text, '\n' ∉ line := by
  fun_induction lines text with
  | case1 => simp
  | case2 rest ih => simpa using ih
  | case3 rest ih => simpa using ih
  | case4 c rest plain _ ih =>
    have unbroken : c ≠ '\n' := plain
    cases found : lines rest with
    | nil => simpa [extendFirst] using Ne.symm unbroken
    | cons first others =>
      rw [found] at ih
      simp only [extendFirst, List.mem_cons, forall_eq_or_imp] at ih ⊢
      exact ⟨by simp [ih.1, Ne.symm unbroken], ih.2⟩

def asRead (line : Text) : Text := if line.getLast? = some '\r' then line.dropLast else line

theorem asRead_cons {line : Text} (nonempty : line ≠ []) :
    asRead (c :: line) = c :: asRead line := by
  unfold asRead
  rw [List.getLast?_cons_of_ne_nil nonempty, List.dropLast_cons_of_ne_nil nonempty]
  split <;> rfl

theorem asRead_subset (line : Text) : asRead line ⊆ line := by
  unfold asRead
  split
  · exact line.dropLast_subset
  · exact List.Subset.refl line

theorem lines_next {c : Char} {rest : Text} (unbroken : c ≠ '\n')
    (plain : c = '\r' → rest.head? ≠ some '\n') : lines (c :: rest) = extendFirst c (lines rest) := by
  rw [lines]
  · exact unbroken
  · rintro later rfl rfl
    exact plain rfl rfl

theorem lines_line {line rest : Text} (unbroken : '\n' ∉ line) :
    lines (line ++ '\n' :: rest) = asRead line :: lines rest := by
  induction line with
  | nil => rfl
  | cons c line ih =>
    simp only [List.mem_cons, not_or] at unbroken
    obtain ⟨here, later⟩ := unbroken
    cases line with
    | nil =>
      by_cases returned : c = '\r'
      · subst returned
        rfl
      · rw [List.singleton_append, lines_next (Ne.symm here) fun same => absurd same returned, lines]
        simp [extendFirst, asRead, returned]
    | cons d line =>
      have other : d ≠ '\n' := fun same => later (by simp [same])
      rw [List.cons_append, lines_next (Ne.symm here) (fun _ => by simpa using other), ih later]
      exact congrArg (· :: lines rest) (asRead_cons (List.cons_ne_nil d line)).symm

theorem lines_last {line : Text} (unbroken : '\n' ∉ line) (nonempty : line ≠ []) :
    lines line = [line] := by
  induction line with
  | nil => exact absurd rfl nonempty
  | cons c line ih =>
    simp only [List.mem_cons, not_or] at unbroken
    obtain ⟨here, later⟩ := unbroken
    have plain : line.head? ≠ some '\n' := fun first => later (List.mem_of_mem_head? first)
    rw [lines_next (Ne.symm here) fun _ => plain]
    cases line with
    | nil => rfl
    | cons d line => rw [ih later (by simp)]; rfl

-- Only the last line may be missing, as one that is empty is no line of its own.
theorem lines_join_cons {line : Text} {later : List Text} (unbroken : '\n' ∉ line)
    (nonempty : later ≠ []) :
    lines (join ['\n'] (line :: later)) = asRead line :: lines (join ['\n'] later) := by
  cases later with
  | nil => exact absurd rfl nonempty
  | cons next later =>
    rw [join, List.intercalate_cons_cons, List.append_assoc]
    exact lines_line unbroken

-- A line that is read as it was written, wherever it stands.
def Solid (line : Text) : Prop := '\n' ∉ line ∧ line.getLast?.any (· != '\r') = true

theorem Solid.asRead {line : Text} (solid : Solid line) : asRead line = line := by
  unfold Text.asRead
  rw [if_neg]
  intro returned
  have ends := solid.2
  rw [returned] at ends
  cases ends

theorem lines_join_solid {front : List Text} (solid : ∀ line ∈ front, Solid line)
    (later : List Text) :
    lines (join ['\n'] (front ++ later)) = front ++ lines (join ['\n'] later) := by
  induction front with
  | nil => rfl
  | cons line front ih =>
    obtain ⟨here, others⟩ := List.forall_mem_cons.mp solid
    have nonempty : line ≠ [] := by
      rintro rfl
      cases here.2
    rw [List.cons_append]
    cases rest : front ++ later with
    | nil =>
      obtain ⟨rfl, rfl⟩ := List.append_eq_nil_iff.mp rest
      rw [join, List.intercalate_singleton, lines_last here.1 nonempty]
      rfl
    | cons next more =>
      rw [lines_join_cons here.1 (by simp), here.asRead, ← rest, ih others]
      rfl

theorem lines_join_drop {front : List Text} (unbroken : ∀ line ∈ front, '\n' ∉ line)
    (later : List Text) :
    (lines (join ['\n'] (front ++ later))).drop front.length = lines (join ['\n'] later) := by
  induction front with
  | nil => rfl
  | cons line front ih =>
    obtain ⟨here, others⟩ := List.forall_mem_cons.mp unbroken
    rw [List.cons_append]
    cases rest : front ++ later with
    | nil =>
      obtain ⟨rfl, rfl⟩ := List.append_eq_nil_iff.mp rest
      by_cases empty : line = []
      · subst empty
        rfl
      · rw [join, List.intercalate_singleton, lines_last here empty]
        rfl
    | cons next more =>
      rw [lines_join_cons here (by simp), List.length_cons, List.drop_succ_cons, ← rest, ih others]

end Text

def linesFrom (number : Nat) : List Text → List Line
  | [] => []
  | text :: texts => ⟨number, text⟩ :: linesFrom (number + 1) texts

theorem linesFrom_append {front back : List Text} :
    linesFrom number (front ++ back) =
      linesFrom number front ++ linesFrom (number + front.length) back := by
  induction front generalizing number with
  | nil => rfl
  | cons text front ih =>
    rw [List.cons_append, linesFrom, ih, linesFrom, List.length_cons]
    simp [Nat.add_assoc, Nat.add_comm 1]

theorem linesFrom_texts (number : Nat) (texts : List Text) :
    (linesFrom number texts).map (·.text) = texts := by
  induction texts generalizing number with
  | nil => rfl
  | cons text texts ih => rw [linesFrom, List.map_cons, ih]

theorem linesFrom_zipIdx (number : Nat) (texts : List Text) :
    (texts.zipIdx number).map (fun row => Line.mk row.2 row.1) = linesFrom number texts := by
  induction texts generalizing number with
  | nil => rfl
  | cons text texts ih => rw [List.zipIdx_cons, List.map_cons, ih, linesFrom]

theorem linesFrom_drop (number count : Nat) (texts : List Text) :
    (linesFrom number texts).drop count = linesFrom (number + count) (texts.drop count) := by
  induction texts generalizing number count with
  | nil => simp [linesFrom]
  | cons text texts ih =>
    cases count with
    | zero => rfl
    | succ count =>
      rw [linesFrom, List.drop_succ_cons, ih, List.drop_succ_cons]
      congr 1
      omega

theorem numberedLines_from (text : Text) (header : Nat) :
    numberedLines text header = linesFrom (header + 1) ((Text.lines text).drop header) := by
  rw [numberedLines, linesFrom_zipIdx, linesFrom_drop, Nat.add_comm]

theorem numberedLines_join {header : List Text} (unbroken : ∀ line ∈ header, '\n' ∉ line)
    (later : List Text) :
    numberedLines (Text.join ['\n'] (header ++ later)) header.length =
      linesFrom (header.length + 1) (Text.lines (Text.join ['\n'] later)) := by
  rw [numberedLines_from, Text.lines_join_drop unbroken]

-- Neither a carriage return nor an empty line counts for such a judge.
theorem filterMap_joined {judge : Line → Option α} {lines : List Text}
    (returned : ∀ number line, judge ⟨number, Text.asRead line⟩ = judge ⟨number, line⟩)
    (empty : ∀ number, judge ⟨number, []⟩ = none) (unbroken : ∀ line ∈ lines, '\n' ∉ line)
    (number : Nat) :
    (linesFrom number (Text.lines (Text.join ['\n'] lines))).filterMap judge =
      (linesFrom number lines).filterMap judge := by
  induction lines generalizing number with
  | nil => rfl
  | cons line later ih =>
    obtain ⟨here, others⟩ := List.forall_mem_cons.mp unbroken
    cases later with
    | nil =>
      rw [Text.join, List.intercalate_singleton]
      cases line with
      | nil => simp [Text.lines, linesFrom, empty]
      | cons c line => rw [Text.lines_last here (List.cons_ne_nil c line)]
    | cons next later =>
      rw [Text.lines_join_cons here (List.cons_ne_nil next later), linesFrom, linesFrom,
        List.filterMap_cons, List.filterMap_cons, returned, ih others]

theorem numberedLines_numbers (text : Text) (header : Nat) :
    (numberedLines text header).map (·.number) =
      List.range' (header + 1) ((Text.lines text).length - header) := by
  rw [numberedLines, List.map_drop, List.map_map]
  have numbers : (Line.number ∘ fun row : Text × Nat => Line.mk row.2 row.1) = Prod.snd := rfl
  rw [numbers, List.zipIdx_map_snd, List.drop_range', Nat.mul_one, Nat.add_comm]

theorem numberedLines_number {front back : List Line}
    (split : numberedLines text header = front ++ line :: back) :
    line.number = header + front.length + 1 := by
  have numbers := numberedLines_numbers text header
  rw [split, List.map_append, List.map_cons] at numbers
  obtain ⟨taken, -, earlier, later⟩ := List.range'_eq_append_iff.mp numbers.symm
  obtain ⟨first, -⟩ := List.range'_eq_cons_iff.mp later.symm
  have length : front.length = taken := by simpa using congrArg List.length earlier
  omega

theorem numberedLines_unbroken (member : line ∈ numberedLines text header) : '\n' ∉ line.text := by
  obtain ⟨row, among, rfl⟩ := List.mem_map.mp (List.mem_of_mem_drop member)
  exact Text.lines_unbroken text row.1 (List.fst_mem_of_mem_zipIdx among)

end PluginBindings
