import PluginBindings.Json.Record
import PluginBindings.Proofs.Json.Reads

namespace PluginBindings
namespace Json

def Ends (rest : Text) : Prop := ∀ c ∈ rest.head?, isGap c = true ∨ c = ',' ∨ c = ']' ∨ c = '}'

theorem Ends.stops (ends : Ends rest) (gaps : ∀ c, isGap c = true → accepts c = false)
    (comma : accepts ',' = false) (bracket : accepts ']' = false) (brace : accepts '}' = false) :
    Stops accepts rest := by
  intro c first
  rcases ends c first with gap | rfl | rfl | rfl
  · exact gaps c gap
  · exact comma
  · exact bracket
  · exact brace

theorem gap_sign (gap : isGap c = true) : c = ' ' ∨ c = '\n' ∨ c = '\t' ∨ c = '\r' := by
  simpa [isGap, or_assoc] using gap

theorem gap_ends (gap : Gap front) (ends : Ends rest) : Ends (front ++ rest) := by
  cases front with
  | nil => exact ends
  | cons c front =>
    intro d first
    cases first
    exact .inl (gap c List.mem_cons_self)

def isNumeric (c : Char) : Bool := c.isDigit || c == '.' || Read.isExponentMark c

theorem ends_numeric (ends : Ends rest) : Stops isNumeric rest := by
  refine ends.stops (fun c gap => ?_) (by decide) (by decide) (by decide)
  rcases gap_sign gap with rfl | rfl | rfl | rfl <;> decide

theorem numeric_stops (stops : Stops isNumeric rest) : Stops Char.isDigit rest ∧
    (rest.head? == some '.') = false ∧ rest.head?.any Read.isExponentMark = false := by
  cases rest with
  | nil => simp
  | cons c rest =>
    have other := stops_cons.mp stops
    simp only [isNumeric, Bool.or_eq_false_iff] at other
    obtain ⟨⟨digit, point⟩, mark⟩ := other
    exact ⟨stops_cons.mpr digit, by simpa using point, by simpa using mark⟩

theorem digits_head (written : Digits digits) (rest : Text) :
    ∃ c, (digits ++ rest).head? = some c ∧ c.isDigit = true := by
  obtain ⟨full, digit⟩ := written
  obtain ⟨c, digits, rfl⟩ := List.exists_cons_of_ne_nil full
  exact ⟨c, rfl, digit c List.mem_cons_self⟩

theorem digit_other {c d : Char} (digit : c.isDigit = true) (other : d.isDigit = false) :
    (c == d) = false := by
  rw [beq_eq_false_iff_ne]
  rintro rfl
  rw [digit] at other
  cases other

theorem digit_solid {c : Char} (digit : c.isDigit = true) : isGap c = false := by
  simp only [isGap, Bool.or_eq_false_iff]
  exact ⟨⟨⟨digit_other digit (by decide), digit_other digit (by decide)⟩,
    digit_other digit (by decide)⟩, digit_other digit (by decide)⟩

theorem mark_facts (marked : mark = 'e' ∨ mark = 'E') : Read.isExponentMark mark = true ∧
    mark.isDigit = false ∧ mark ≠ '.' := by
  rcases marked with rfl | rfl <;> decide

theorem reads_exponentDigits (written : Digits digits) (stops : Stops Char.isDigit rest) :
    Reads (do
      if (← Read.peek).any Char.isDigit then
        let _ ← Read.takeWhile Char.isDigit
      else Read.failAtNext .invalidNumber) (digits ++ rest) () rest := by
  obtain ⟨c, first, digit⟩ := digits_head written rest
  apply reads_looking
  rw [first, Option.any_some, digit, if_pos rfl]
  exact reads_bind (reads_takeWhile written.2 stops) (reads_pure () rest)

theorem reads_ignoreExponent (mark : Char) (signed : sign = [] ∨ sign = ['+'] ∨ sign = ['-'])
    (written : Digits digits) (stops : Stops Char.isDigit rest) :
    Reads Read.ignoreExponent (mark :: (sign ++ (digits ++ rest))) () rest := by
  have number := reads_exponentDigits written stops
  refine reads_skipping (reads_looking ?_)
  rcases signed with rfl | rfl | rfl
  · obtain ⟨c, first, digit⟩ := digits_head written rest
    have plus : (some c == some '+') = false := digit_other digit (by decide)
    have minus : (some c == some '-') = false := digit_other digit (by decide)
    rw [List.nil_append, first, plus, minus]
    exact number
  · exact reads_skipping number
  · exact reads_skipping number

theorem exponent_stops (scaled : Exponent exponent) (stops : Stops isNumeric rest) :
    Stops Char.isDigit (exponent ++ rest) ∧ ((exponent ++ rest).head? == some '.') = false := by
  cases scaled with
  | none => exact ⟨(numeric_stops stops).1, (numeric_stops stops).2.1⟩
  | digits marked signed written =>
    obtain ⟨-, digit, point⟩ := mark_facts marked
    exact ⟨stops_cons.mpr digit, by simpa using point⟩

theorem reads_scaled (scaled : Exponent exponent) (stops : Stops isNumeric rest) :
    Reads (if (exponent ++ rest).head?.any Read.isExponentMark then Read.ignoreExponent
      else pure ()) (exponent ++ rest) () rest := by
  cases scaled with
  | none =>
    rw [List.nil_append, (numeric_stops stops).2.2]
    exact reads_pure () rest
  | digits marked signed written =>
    rename_i mark sign digits
    rw [List.cons_append, List.head?_cons, Option.any_some, (mark_facts marked).1, if_pos rfl,
      List.append_assoc]
    exact reads_ignoreExponent mark signed written (numeric_stops stops).1

theorem reads_parted (parted : Fraction fraction) (scaled : Exponent exponent)
    (stops : Stops isNumeric rest) :
    Reads (do
      let next ← Read.peek
      if next == some '.' then Read.ignoreFraction
      else if next.any Read.isExponentMark then Read.ignoreExponent)
      (fraction ++ (exponent ++ rest)) () rest := by
  obtain ⟨apart, point⟩ := exponent_stops scaled stops
  cases parted with
  | none =>
    apply reads_looking
    rw [List.nil_append, point, if_neg Bool.false_ne_true]
    exact reads_scaled scaled stops
  | digits written =>
    obtain ⟨full, digit⟩ := written
    apply reads_looking
    refine reads_skipping (reads_bind (reads_takeWhile digit apart) ?_)
    rw [List.isEmpty_eq_false_iff.mpr full]
    exact reads_looking (reads_scaled scaled stops)

theorem fraction_stops (parted : Fraction fraction) (scaled : Exponent exponent)
    (stops : Stops isNumeric rest) : Stops Char.isDigit (fraction ++ (exponent ++ rest)) := by
  cases parted with
  | none => exact (exponent_stops scaled stops).1
  | digits written => exact stops_cons.mpr (by decide)

theorem reads_ignoreNumber (whole : Whole digits) (parted : Fraction fraction)
    (scaled : Exponent exponent) (stops : Stops isNumeric rest) :
    Reads Read.ignoreNumber (digits ++ (fraction ++ (exponent ++ rest))) () rest := by
  have number := reads_parted parted scaled stops
  have apart := fraction_stops parted scaled stops
  obtain ⟨⟨full, digit⟩, zero⟩ := whole
  obtain ⟨c, others, rfl⟩ := List.exists_cons_of_ne_nil full
  by_cases first : c = '0'
  · subst first
    cases zero rfl
    rw [List.singleton_append]
    refine reads_looking (reads_skipping (reads_looking ?_))
    rw [apart.head]
    exact number
  · have other : ((c :: others ++ (fraction ++ (exponent ++ rest))).head? == some '0') = false := by
      simpa using first
    have here : (c :: others ++ (fraction ++ (exponent ++ rest))).head?.any Char.isDigit = true :=
      digit c List.mem_cons_self
    apply reads_looking
    dsimp only
    rw [other, here]
    exact reads_bind (reads_takeWhile digit apart) number

theorem ofNat_digits (n : Nat) : Digits (Text.ofNat n) :=
  ⟨Nat.toDigits_ne_nil, fun _ member => Nat.isDigit_of_mem_toDigits (by decide) (by decide) member⟩

theorem ofNat_value (n : Nat) : Nat.ofDigitChars 10 (Text.ofNat n) 0 = n :=
  Nat.ofDigitChars_toDigits (by decide) (by decide)

theorem ofNat_unique (same : Text.ofNat n = Text.ofNat m) : n = m := by
  rw [← ofNat_value n, same, ofNat_value m]

theorem ofNat_last {n : Nat} (large : 10 ≤ n) :
    Text.ofNat n = Text.ofNat (n / 10) ++ [Nat.digitChar (n % 10)] := by
  have parts := Nat.toDigits_append_toDigits (by decide : 1 < 10) (by omega : 0 < n / 10)
    (Nat.mod_lt n (by decide))
  rw [Nat.div_add_mod, Nat.toDigits_of_lt_base (Nat.mod_lt n (by decide))] at parts
  exact parts.symm

theorem ofNat_whole (n : Nat) : Whole (Text.ofNat n) := by
  refine ⟨ofNat_digits n, ?_⟩
  induction n using Nat.strongRecOn with
  | _ n ih =>
    intro zero
    by_cases large : 10 ≤ n
    · obtain ⟨c, digits, given⟩ := List.exists_cons_of_ne_nil (ofNat_digits (n / 10)).1
      rw [ofNat_last large, given] at zero
      have single := ih (n / 10) (by omega) (by rw [given]; exact zero)
      have value := ofNat_value (n / 10)
      rw [single] at value
      have none : n / 10 = 0 := value.symm
      omega
    · have single : Text.ofNat n = [Nat.digitChar n] := Nat.toDigits_of_lt_base (by omega)
      rw [single] at zero ⊢
      exact congrArg (fun c => [c]) (Option.some.inj zero)

theorem ofDigitChars_grows (digits : Text) (value : Nat) :
    value ≤ Nat.ofDigitChars 10 digits value := by
  induction digits generalizing value with
  | nil => exact Nat.le_refl value
  | cons c digits ih =>
    rw [Nat.ofDigitChars_cons]
    exact Nat.le_trans (by omega) (ih _)

-- As long as the whole number fits, so does what its first digits stand for.
theorem accumulate_fits {digits : Text} {value : Nat}
    (fits : Nat.ofDigitChars 10 digits value ≤ Number.greatest) :
    Number.accumulate value digits = (Nat.ofDigitChars 10 digits value, digits.length, 0) := by
  induction digits generalizing value with
  | nil => rfl
  | cons c digits ih =>
    rw [Nat.ofDigitChars_cons] at fits ⊢
    have below : ¬ Number.greatest < 10 * value + (c.toNat - '0'.toNat) :=
      Nat.not_lt.mpr (Nat.le_trans (ofDigitChars_grows digits _) fits)
    rw [Number.accumulate]
    simp only [if_neg below, ih fits, List.length_cons]

theorem reads_afterWhole (value : Nat) (stops : Stops isNumeric rest) :
    Reads (Read.number.afterWhole true value 0) rest (.natural value) rest := by
  obtain ⟨-, point, mark⟩ := numeric_stops stops
  apply reads_looking
  split
  · rename_i here
    rw [here] at point
    cases point
  · rw [mark]
    exact reads_pure _ rest

theorem reads_number (small : n < Decimal.twoTo 64) (stops : Stops isNumeric rest) :
    Reads (Read.number true) (Text.ofNat n ++ rest) (.natural n) rest := by
  have value := ofNat_value n
  have fits : Nat.ofDigitChars 10 (Text.ofNat n) 0 ≤ Number.greatest := by
    rw [value]
    exact Nat.le_sub_one_of_lt small
  have taken := accumulate_fits fits
  rw [value] at taken
  obtain ⟨⟨full, digit⟩, zero⟩ := ofNat_whole n
  obtain ⟨c, others, given⟩ := List.exists_cons_of_ne_nil full
  rw [given] at taken digit zero value ⊢
  have stopped := (numeric_stops stops).1
  by_cases first : c = '0'
  · subst first
    cases zero rfl
    cases value
    rw [List.singleton_append]
    refine reads_looking (reads_skipping (reads_looking ?_))
    rw [stopped.head]
    exact reads_afterWhole 0 stops
  · have other : (c == '0') = false := by simpa using first
    have here : c.isDigit = true := digit c List.mem_cons_self
    apply reads_looking
    rw [List.cons_append, List.head?_cons]
    dsimp only
    rw [other, here]
    refine reads_bind (reads_takeWhile digit stopped) ?_
    rw [taken]
    exact reads_afterWhole n stops

theorem reads_count (small : n < Decimal.twoTo 64) (gap : Gap front) (ends : Ends rest) :
    Reads Read.count (front ++ (Text.ofNat n ++ rest)) n rest := by
  have stops := ends_numeric ends
  obtain ⟨c, first, digit⟩ := digits_head (ofNat_digits n) rest
  have solid : Stops isGap (Text.ofNat n ++ rest) := by
    intro d here
    rw [first] at here
    cases here
    exact digit_solid digit
  refine reads_seeking gap solid ?_
  rw [first]
  dsimp only
  rw [digit_other digit (by decide), digit]
  exact reads_bind (reads_number small stops) (reads_pure n rest)

end Json
end PluginBindings
