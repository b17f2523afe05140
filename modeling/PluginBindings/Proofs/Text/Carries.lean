import Mathlib.Data.List.Infix
import PluginBindings.Proofs.Text.Returns
import PluginBindings.Proofs.Text.Scan

namespace PluginBindings
namespace Text

-- Behind a colon right before a break another character would be read.
structure Plain (text : Text) : Prop where
  returns : '\r' ∉ text
  colons : ¬ [':', '\n'] <:+: text

theorem Plain.part {text piece : Text} (plain : Plain text) (part : piece <:+: text) :
    Plain piece :=
  ⟨fun member => plain.returns (part.subset member), fun colon => plain.colons (colon.trans part)⟩

theorem Plain.tail {text : Text} (plain : Plain (c :: text)) : Plain text :=
  plain.part (List.infix_cons (List.infix_refl text))

end Text

namespace Scan

open Text (withReturns)

-- Where one form fails the other fails, and else it reads the same part.
structure Carries (answer : α → β) (form : Scan α) (form' : Scan β) : Prop where
  carried : ∀ source, Text.Plain source →
    form' (withReturns source) = (form source).map (Prod.map answer withReturns)
  suffix : ∀ source value rest, form source = some (value, rest) → rest <:+ source

theorem Carries.congr {form : Scan α} {form' : Scan β} (carries : Carries answer form form')
    (same : ∀ source value rest, form source = some (value, rest) → answer value = answer' value) :
    Carries answer' form form' := by
  refine ⟨fun source plain => ?_, carries.suffix⟩
  rw [carries.carried source plain]
  cases read : form source with
  | none => rfl
  | some found =>
    have value := same source found.1 found.2 read
    exact congrArg some (Prod.ext value rfl)

theorem carries_pure (answer : α → β) (value : α) :
    Carries answer (pure value) (pure (answer value)) := by
  refine ⟨fun source plain => rfl, fun source found rest read => ?_⟩
  obtain ⟨-, rfl⟩ := pure_exact.mp read
  exact List.suffix_refl source

theorem carries_bind {form : Scan α} {form' : Scan β} {after : α → Scan γ} {after' : β → Scan δ}
    (first : Carries answer form form')
    (next : ∀ value, Carries answer' (after value) (after' (answer value))) :
    Carries answer' (form >>= after) (form' >>= after') := by
  refine ⟨fun source plain => ?_, fun source found rest read => ?_⟩
  · show (form' (withReturns source)).bind _ = ((form source).bind _).map _
    rw [first.carried source plain]
    cases read : form source with
    | none => rfl
    | some found =>
      have part := (first.suffix source found.1 found.2 read).isInfix
      exact (next found.1).carried found.2 (plain.part part)
  · obtain ⟨value, middle, read, later⟩ := bind_exact.mp read
    exact ((next value).suffix middle found rest later).trans (first.suffix source value middle read)

theorem carries_literal {word : Text} (unbroken : '\n' ∉ word) (bare : '\r' ∉ word) :
    Carries id (literal word) (literal word) := by
  refine ⟨fun source _ => ?_, fun _ _ _ read => ⟨word, (literal_exact.mp read).symm⟩⟩
  clear * - unbroken bare
  induction word generalizing source with
  | nil => rfl
  | cons c word ih =>
    simp only [List.mem_cons, not_or] at unbroken bare
    cases source with
    | nil => rfl
    | cons d source =>
      by_cases breaks : d = '\n'
      · subst breaks
        simp [literal, Ne.symm unbroken.1, Ne.symm bare.1]
      · rw [Text.withReturns_cons breaks, literal, literal]
        split
        · exact ih unbroken.2 bare.2 source
        · rfl

theorem span_withReturns (alike : accepts '\r' = accepts '\n') (source : Text) :
    span accepts (withReturns source) =
      (span accepts source).map (Prod.map withReturns withReturns) := by
  obtain ⟨same, run, stops⟩ := span_exact.mp (rfl : span accepts source = some (_, _))
  refine span_exact.mpr ⟨?_, Text.withReturns_all alike run, Text.withReturns_stops alike stops⟩
  rw [← Text.withReturns_append, ← same]

theorem carries_span (alike : accepts '\r' = accepts '\n') :
    Carries withReturns (span accepts) (span accepts) :=
  ⟨fun source _ => span_withReturns alike source,
    fun _ _ _ read => ⟨_, (span_exact.mp read).1.symm⟩⟩

theorem carries_span1 (alike : accepts '\r' = accepts '\n') :
    Carries withReturns (span1 accepts) (span1 accepts) := by
  refine ⟨fun source _ => ?_, fun _ _ _ read => ⟨_, (span1_exact.mp read).1.symm⟩⟩
  rw [span1, span1, Text.withReturns_head alike]
  split
  · exact span_withReturns alike source
  · rfl

theorem carries_blanks : Carries withReturns blanks blanks := carries_span rfl

theorem carries_name : Carries id name name := by
  have carries : Carries withReturns name name := by
    refine ⟨fun source _ => ?_, fun _ _ _ read => ⟨_, (name_exact.mp read).1.symm⟩⟩
    rw [name, name, Text.withReturns_head rfl]
    split
    · exact span_withReturns (by decide +kernel) source
    · rfl
  refine carries.congr fun source found rest read => ?_
  exact Text.withReturns_unbroken (name_lacks_blank (name_exact.mp read).2.1 rfl)

theorem carries_optionally (unbroken : c ≠ '\n') (returned : c ≠ '\r') :
    Carries id (optionally c) (optionally c) := by
  refine ⟨fun source _ => ?_, fun source _ rest read => ?_⟩
  · cases source with
    | nil => rfl
    | cons d source =>
      by_cases breaks : d = '\n'
      · subst breaks
        simp [optionally, Ne.symm unbroken, Ne.symm returned]
      · rw [Text.withReturns_cons breaks, optionally, optionally, List.head?_cons, List.head?_cons]
        split
        · rfl
        · rw [Option.map_some, Prod.map_apply, Text.withReturns_cons breaks]
  · rcases optionally_exact.mp read with rfl | ⟨rfl, -⟩
    · exact List.suffix_cons c rest
    · exact List.suffix_refl source

theorem carries_break :
    Carries id (do optionally '\r'; literal ['\n'] : Scan Unit)
      (do optionally '\r'; literal ['\n'] : Scan Unit) := by
  refine ⟨fun source plain => ?_, fun source _ rest read => ?_⟩
  · cases source with
    | nil => rfl
    | cons c source =>
      have returned : c ≠ '\r' := fun same => plain.returns (by simp [same])
      by_cases breaks : c = '\n'
      · subst breaks
        rfl
      · simp [Text.withReturns_cons breaks, bind, StateT.bind, optionally, literal, returned,
          Ne.symm breaks]
  · obtain ⟨_, middle, taken, ended⟩ := bind_exact.mp read
    have part : rest <:+ middle := ⟨['\n'], (literal_exact.mp ended).symm⟩
    rcases optionally_exact.mp taken with returned | ⟨same, -⟩
    · exact part.trans ⟨['\r'], returned.symm⟩
    · exact same ▸ part

theorem carries_afterBlanks {next : Scan α} {next' : Scan β} (alike : blank '\r' = blank '\n')
    (carries : Carries answer next next')
    (solid : blank '\n' = true → ∀ later, next' ('\n' :: later) = none) :
    Carries answer (afterBlanks blank next) (afterBlanks blank next') := by
  refine ⟨fun source plain => ?_, fun source value rest read => ?_⟩
  · induction source with
    | nil => rfl
    | cons c source ih =>
      have later := ih plain.tail
      have here := carries.carried source plain.tail
      by_cases breaks : c = '\n'
      · subst breaks
        rw [Text.withReturns_break, afterBlanks, afterBlanks, afterBlanks, alike, later, here]
        split
        · rename_i blank
          rw [solid blank]
          cases afterBlanks _ next source <;> cases next source <;> rfl
        · rfl
      · rw [Text.withReturns_cons breaks, afterBlanks, afterBlanks, later, here]
        split
        · cases afterBlanks blank next source <;> rfl
        · rfl
  · obtain ⟨front, middle, rfl, -, -, reached⟩ := afterBlanks_sound read
    exact (carries.suffix middle value rest reached).trans (List.suffix_append front middle)

-- What was found, in the text with its returns; `gap` tells what then stands before it.
def carriedFind (gap : Text → Text) (answer : α → β) (found : Text × α × Text) : Text × β × Text :=
  (gap found.1, answer found.2.1, withReturns found.2.2)

theorem findFirst_carries {form : Scan α} {form' : Scan β} (carries : Carries answer form form')
    (solid : ∀ later, form' ('\n' :: later) = none) {text : Text} (plain : Text.Plain text) :
    findFirst form' (withReturns text) =
      (findFirst form text).map (carriedFind withReturns answer) := by
  induction text with
  | nil =>
    have here := carries.carried [] plain
    rw [Text.withReturns_nil] at here ⊢
    rw [findFirst, findFirst, here]
    cases form [] <;> rfl
  | cons c text ih =>
    have here := carries.carried (c :: text) plain
    have later := ih plain.tail
    by_cases breaks : c = '\n'
    · subst breaks
      rw [Text.withReturns_break] at here ⊢
      rw [findFirst, findFirst, findFirst, solid, here, later]
      cases form ('\n' :: text) with
      | some read => rfl
      | none => cases findFirst form text <;> rfl
    · rw [Text.withReturns_cons breaks] at here ⊢
      rw [findFirst, findFirst, here, later]
      cases form (c :: text) with
      | some read => rfl
      | none =>
        cases findFirst form text with
        | none => rfl
        | some found => simp [carriedFind, Text.withReturns_cons breaks]

-- A form that begins with the break itself is found behind the return.
theorem findFirst_breaks {form next : Scan α} (carries : Carries id next next)
    (begins : ∀ source, form ('\n' :: source) = next source)
    (other : ∀ source, source.head? ≠ some '\n' → form source = none) {text : Text}
    (plain : Text.Plain text) :
    findFirst form (withReturns text) =
      (findFirst form text).map (carriedFind (withReturns · ++ ['\r']) id) := by
  induction text with
  | nil =>
    rw [Text.withReturns_nil, findFirst, other [] (by simp)]
    rfl
  | cons c text ih =>
    have here := carries.carried text plain.tail
    have later := ih plain.tail
    by_cases breaks : c = '\n'
    · subst breaks
      rw [Text.withReturns_break, findFirst, findFirst, findFirst, other _ (by simp), begins, begins,
        here, later]
      cases next text with
      | some read => rfl
      | none => cases findFirst form text <;> rfl
    · rw [Text.withReturns_cons breaks, findFirst, findFirst, other _ (by simpa using breaks),
        other _ (by simpa using breaks), later]
      cases findFirst form text with
      | none => rfl
      | some found => simp [carriedFind, Text.withReturns_cons breaks]

theorem findAtLineStart_next (form : Scan α) (starts : Bool) (c : Char) (text : Text) :
    findAtLineStart form starts (c :: text) =
      ((if starts then form (c :: text) else none).map fun read => ([], read)).or
        ((findAtLineStart form (c == '\n') text).map fun found => (c :: found.1, found.2)) := by
  rw [findAtLineStart]
  cases (if starts then form (c :: text) else none) <;> rfl

-- No line starts between a return and its break.
theorem findAtLineStart_carries {form : Scan α} {form' : Scan β}
    (carries : Carries answer form form') {text : Text} (plain : Text.Plain text) :
    findAtLineStart form' starts (withReturns text) =
      (findAtLineStart form starts text).map (carriedFind withReturns answer) := by
  induction text generalizing starts with
  | nil =>
    have here := carries.carried [] plain
    rw [Text.withReturns_nil] at here ⊢
    rw [findAtLineStart, findAtLineStart, here]
    cases starts with
    | false => rfl
    | true => cases form [] <;> rfl
  | cons c text ih =>
    have here : (if starts then form' (withReturns (c :: text)) else none) =
        (if starts then form (c :: text) else none).map (Prod.map answer withReturns) := by
      cases starts with
      | false => rfl
      | true => exact carries.carried (c :: text) plain
    have later := @ih (c == '\n') plain.tail
    by_cases breaks : c = '\n'
    · subst breaks
      have between : ('\r' == '\n') = false := by decide
      rw [Text.withReturns_break] at here ⊢
      rw [findAtLineStart_next, findAtLineStart_next, findAtLineStart_next, here, later, between]
      cases (if starts then form ('\n' :: text) else none) with
      | some read => rfl
      | none => cases findAtLineStart form ('\n' == '\n') text <;> rfl
    · rw [Text.withReturns_cons breaks] at here ⊢
      rw [findAtLineStart_next, findAtLineStart_next, here, later]
      cases (if starts then form (c :: text) else none) with
      | some read => rfl
      | none =>
        cases findAtLineStart form (c == '\n') text with
        | none => rfl
        | some found => simp [carriedFind, Text.withReturns_cons breaks]

end Scan

theorem sweep_carries {form : Scan α} {form' : Scan β} (advances : Scan.Advances form)
    (advances' : Scan.Advances form')
    (suffix : ∀ source value rest, form source = some (value, rest) → rest <:+ source)
    (carried : ∀ text, Text.Plain text → Scan.findFirst form' (Text.withReturns text) =
      (Scan.findFirst form text).map (Scan.carriedFind gap answer)) {text : Text}
    (plain : Text.Plain text) :
    sweep form' (Text.withReturns text) =
      ⟨(sweep form text).hits.map (Prod.map gap answer),
        Text.withReturns (sweep form text).tail⟩ := by
  revert plain
  refine sweep_induction (motive := fun text hits tail => Text.Plain text →
    sweep form' (Text.withReturns text) = ⟨hits.map (Prod.map gap answer), Text.withReturns tail⟩)
    advances ?_ ?_ text
  · intro text absent plain
    have found := carried text plain
    rw [absent] at found
    exact sweep_last found
  · intro text front value rest hits tail first ih plain
    have found := carried text plain
    rw [first] at found
    obtain ⟨source, rfl, read, -⟩ := Scan.findFirst_some_exact.mp first
    have part : rest <:+ front ++ source :=
      (suffix source value rest read).trans (List.suffix_append front source)
    rw [sweep_next advances' found]
    simp only [ih (plain.part part.isInfix)]
    rfl

end PluginBindings
