import Mathlib.Data.List.Induction
import PluginBindings.Proofs.Text.Lines
import PluginBindings.Proofs.Text.Runs

namespace PluginBindings
namespace Text

-- A text as it is written where two characters end a line.
def withReturns (text : Text) : Text := text.flatMap fun c => if c = '\n' then ['\r', '\n'] else [c]

def withoutReturns (text : Text) : Text := text.filter (· != '\r')

@[simp] theorem withReturns_nil : withReturns [] = [] := rfl

@[simp] theorem withReturns_break (text : Text) :
    withReturns ('\n' :: text) = '\r' :: '\n' :: withReturns text := rfl

theorem withReturns_cons {c : Char} (unbroken : c ≠ '\n') (text : Text) :
    withReturns (c :: text) = c :: withReturns text := by
  simp [withReturns, unbroken]

@[simp] theorem withReturns_append (front back : Text) :
    withReturns (front ++ back) = withReturns front ++ withReturns back :=
  List.flatMap_append

theorem withReturns_unbroken {text : Text} (unbroken : '\n' ∉ text) : withReturns text = text := by
  induction text with
  | nil => rfl
  | cons c text ih =>
    simp only [List.mem_cons, not_or] at unbroken
    rw [withReturns_cons (Ne.symm unbroken.1), ih unbroken.2]

theorem withoutReturns_append (front back : Text) :
    withoutReturns (front ++ back) = withoutReturns front ++ withoutReturns back :=
  List.filter_append ..

theorem withoutReturns_withReturns (text : Text) :
    withoutReturns (withReturns text) = withoutReturns text := by
  induction text with
  | nil => rfl
  | cons c text ih =>
    by_cases breaks : c = '\n'
    · subst breaks
      exact congrArg ('\n' :: ·) ih
    · rw [withReturns_cons breaks, ← List.singleton_append, withoutReturns_append, ih,
        ← withoutReturns_append, List.singleton_append]

theorem withReturns_all {accepts : Char → Bool} {text : Text} (alike : accepts '\r' = accepts '\n')
    (run : ∀ c ∈ text, accepts c = true) : ∀ c ∈ withReturns text, accepts c = true := by
  intro c member
  obtain ⟨d, among, written⟩ := List.mem_flatMap.mp member
  split at written
  · rename_i breaks
    subst breaks
    rcases List.mem_cons.mp written with rfl | written
    · exact alike.trans (run _ among)
    · obtain rfl := List.mem_singleton.mp written
      exact run _ among
  · obtain rfl := List.mem_singleton.mp written
    exact run _ among

theorem withReturns_head {accepts : Char → Bool} (alike : accepts '\r' = accepts '\n')
    (text : Text) : (withReturns text).head?.any accepts = text.head?.any accepts := by
  cases text with
  | nil => rfl
  | cons c text =>
    by_cases breaks : c = '\n'
    · subst breaks
      simpa using alike
    · rw [withReturns_cons breaks]
      rfl

theorem withReturns_stops {accepts : Char → Bool} {text : Text}
    (alike : accepts '\r' = accepts '\n')
    (stops : Stops accepts text) : Stops accepts (withReturns text) := by
  cases text with
  | nil => exact stops_nil
  | cons c text =>
    by_cases breaks : c = '\n'
    · subst breaks
      exact stops_cons.mpr (alike.trans (stops_cons.mp stops))
    · rw [withReturns_cons breaks]
      exact stops_cons.mpr (stops_cons.mp stops)

-- The lines of a text do not tell how they end.
theorem lines_withReturns {text : Text} (plain : '\r' ∉ text) :
    lines (withReturns text) = lines text := by
  induction text with
  | nil => rfl
  | cons c text ih =>
    simp only [List.mem_cons, not_or] at plain
    by_cases breaks : c = '\n'
    · subst breaks
      exact congrArg ([] :: ·) (ih plain.2)
    · have unread : c = '\r' → ∀ rest : Text, rest.head? ≠ some '\n' :=
        fun same => absurd same.symm plain.1
      rw [withReturns_cons breaks, lines_next breaks fun same => unread same _, ih plain.2,
        lines_next breaks fun same => unread same _]

theorem cutAt?_withReturns (unbroken : c ≠ '\n') (returned : c ≠ '\r') (text : Text) :
    cutAt? c (withReturns text) = (cutAt? c text).map (Prod.map withReturns withReturns) := by
  induction text with
  | nil => rfl
  | cons d text ih =>
    by_cases breaks : d = '\n'
    · subst breaks
      simp only [withReturns_break, cutAt?, ih, beq_iff_eq, Ne.symm unbroken, Ne.symm returned,
        if_false]
      cases cutAt? c text <;> rfl
    · rw [withReturns_cons breaks, cutAt?, cutAt?, ih]
      split
      · rfl
      · cases cutAt? c text with
        | none => rfl
        | some parts => simp [withReturns_cons breaks]

theorem before_withReturns {text rest : Text} (suffix : rest <:+ text) :
    before (withReturns text) (withReturns rest) = withReturns (before text rest) := by
  obtain ⟨front, rfl⟩ := suffix
  rw [withReturns_append, before_append, before_append]

theorem trimStart_withReturns (text : Text) :
    trimStart (withReturns text) = withReturns (trimStart text) := by
  obtain ⟨gap, same, run, stops⟩ := trimStart_exact.mp (rfl : trimStart text = _)
  refine trimStart_exact.mpr ⟨withReturns gap, ?_, withReturns_all rfl run, withReturns_stops rfl stops⟩
  rw [← withReturns_append, ← same]

theorem trim_withReturns (text : Text) : trim (withReturns text) = withReturns (trim text) := by
  obtain ⟨front, back, same, run, run', stops, stops'⟩ := trim_exact.mp (rfl : trim text = _)
  refine trim_exact.mpr ⟨withReturns front, withReturns back, ?_, withReturns_all rfl run,
    withReturns_all rfl run', withReturns_stops rfl stops, ?_⟩
  · rw [← withReturns_append, ← withReturns_append, ← same]
  · -- a trimmed text ends in a character that is not blank, and so in no break
    rcases List.eq_nil_or_concat (trim text) with empty | ⟨inside, c, ends⟩
    · rw [empty]
      exact stops_nil
    · rw [List.concat_eq_append] at ends
      rw [ends, List.reverse_append, List.reverse_singleton, List.singleton_append,
        stops_cons] at stops'
      have solid : c ≠ '\n' := by
        rintro rfl
        cases stops'
      rw [ends, withReturns_append, withReturns_cons solid, withReturns_nil, List.reverse_append]
      exact stops_cons.mpr stops'

theorem isName_withReturns (text : Text) : isName (withReturns text) = isName text := by
  by_cases unbroken : '\n' ∈ text
  · have broken : ∀ name : Text, '\n' ∈ name → isName name = false := by
      intro name member
      cases named : isName name with
      | false => rfl
      | true => exact absurd member (name_lacks_blank named rfl)
    rw [broken text unbroken, broken]
    exact List.mem_flatMap.mpr ⟨'\n', unbroken, by simp⟩
  · rw [withReturns_unbroken unbroken]

theorem lastLine_concat (text : Text) (c : Char) :
    lastLine (text ++ [c]) = if c = '\n' then [] else lastLine text ++ [c] := by
  rw [lastLine, lastLine, List.reverse_append, List.reverse_singleton, List.singleton_append,
    List.takeWhile_cons]
  by_cases breaks : c = '\n'
  · simp [breaks]
  · simp [breaks]

theorem lastLine_withReturns (text : Text) : lastLine (withReturns text) = lastLine text := by
  induction text using List.reverseRecOn with
  | nil => rfl
  | append_singleton front c ih =>
    by_cases breaks : c = '\n'
    · subst breaks
      have split : withReturns (front ++ ['\n']) = (withReturns front ++ ['\r']) ++ ['\n'] := by simp
      have ended : ∀ earlier : Text, lastLine (earlier ++ ['\n']) = [] := fun earlier => by
        rw [lastLine_concat, if_pos rfl]
      rw [split, ended, ended]
    · rw [withReturns_append, withReturns_cons breaks, withReturns_nil, lastLine_concat,
        lastLine_concat, ih]

end Text

theorem numberedLines_withReturns {text : Text} (plain : '\r' ∉ text) (header : Nat) :
    numberedLines (Text.withReturns text) header = numberedLines text header := by
  rw [numberedLines, numberedLines, Text.lines_withReturns plain]

end PluginBindings
