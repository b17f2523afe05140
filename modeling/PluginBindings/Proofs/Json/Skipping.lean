import PluginBindings.Json.Ignore
import PluginBindings.Proofs.Json.Numbers
import PluginBindings.Proofs.Json.Strings

namespace PluginBindings
namespace Json

-- Once the brackets around the next value are known, it is that value's turn, or the end.
def goOn (rounds : Nat) (around : List Bracket) : Read Unit :=
  if around.isEmpty then return () else Read.ignoreFrom rounds around

theorem ignoreFrom_next (rounds : Nat) (brackets : List Bracket) :
    Read.ignoreFrom (rounds + 1) brackets = Read.ignoreOne brackets >>= goOn rounds := rfl

-- Neither a gap nor the end of a list stands where a value begins.
def Opens (value : Text) : Prop := ∃ c tail, value = c :: tail ∧ isGap c = false ∧ c ≠ ']'

-- In as many rounds as the value has characters at the most.
structure Skips (value : Text) : Prop where
  opens : Opens value
  passed : ∀ {front rest out : Text} {brackets : List Bracket} {fuel : Nat} (rounds : Nat),
    Gap front → Ends rest →
    (∀ left, rounds ≤ left → Reads (Read.afterValue brackets >>= goOn left) rest () out) →
    value.length + rounds ≤ fuel → Reads (Read.ignoreFrom fuel brackets) (front ++ (value ++ rest)) () out

theorem skips_once {c : Char} {tail : Text} (solid : isGap c = false) (other : c ≠ ']')
    (passes : ∀ {front rest out : Text} {brackets : List Bracket} {next : List Bracket → Read Unit},
      Gap front → Ends rest → Reads (Read.afterValue brackets >>= next) rest () out →
      Reads (Read.ignoreOne brackets >>= next) (front ++ (c :: tail ++ rest)) () out) :
    Skips (c :: tail) := by
  refine ⟨⟨c, tail, rfl, solid, other⟩, fun rounds gap ends later enough => ?_⟩
  rename_i front rest out brackets fuel
  obtain ⟨left, rfl⟩ : ∃ left, fuel = left + 1 := ⟨fuel - 1, by rw [List.length_cons] at enough; omega⟩
  rw [ignoreFrom_next]
  apply passes gap ends
  apply later
  rw [List.length_cons] at enough
  omega

theorem reads_leaf {leaf : Read Unit} {next : List Bracket → Read Unit}
    (read : Reads leaf source () rest)
    (later : Reads (Read.afterValue brackets >>= next) rest () out) :
    Reads ((leaf >>= fun _ => Read.afterValue brackets) >>= next) source () out := by
  rw [bind_assoc]
  exact reads_bind read later

theorem word_skips (known : word = "null".toList ∨ word = "true".toList ∨ word = "false".toList) :
    Skips word := by
  rcases known with rfl | rfl | rfl
  all_goals
    apply skips_once (by decide) (by decide)
    intro front rest out brackets next gap ends later
    rw [Read.ignoreOne, bind_assoc]
    exact reads_seeking gap (stops_cons.mpr (by decide)) (reads_leaf (reads_word _ rest) later)

theorem string_skips (body : Body written) : Skips (quoted written) := by
  apply skips_once (by decide) (by decide)
  intro front rest out brackets next gap ends later
  rw [Read.ignoreOne, bind_assoc]
  refine reads_seeking gap (stops_cons.mpr (by decide)) ?_
  show Reads ((Read.skip >>= fun _ => Read.ignoreString >>= fun _ => Read.afterValue brackets) >>= next)
    ('"' :: (written ++ ['"'] ++ rest)) () out
  rw [bind_assoc, List.append_assoc]
  exact reads_skipping (reads_leaf (reads_ignoreString body rest) later)

theorem negative_skips (whole : Whole digits) (parted : Fraction fraction)
    (scaled : Exponent exponent) : Skips ('-' :: (digits ++ (fraction ++ exponent))) := by
  apply skips_once (by decide) (by decide)
  intro front rest out brackets next gap ends later
  have number := reads_ignoreNumber whole parted scaled (ends_numeric ends)
  rw [Read.ignoreOne, bind_assoc]
  refine reads_seeking gap (stops_cons.mpr (by decide)) ?_
  show Reads ((Read.skip >>= fun _ => Read.ignoreNumber >>= fun _ => Read.afterValue brackets) >>= next)
    ('-' :: (digits ++ (fraction ++ exponent) ++ rest)) () out
  rw [bind_assoc, List.append_assoc, List.append_assoc]
  exact reads_skipping (reads_leaf number later)

theorem natural_skips (whole : Whole digits) (parted : Fraction fraction)
    (scaled : Exponent exponent) : Skips (digits ++ (fraction ++ exponent)) := by
  obtain ⟨c, others, rfl⟩ := List.exists_cons_of_ne_nil whole.1.1
  have digit : c.isDigit = true := whole.1.2 c List.mem_cons_self
  have other {d : Char} (letter : d.isDigit = false) : (c == d) = false := digit_other digit letter
  apply skips_once (digit_solid digit) (beq_eq_false_iff_ne.mp (other (by decide)))
  intro front rest out brackets next gap ends later
  have number := reads_ignoreNumber whole parted scaled (ends_numeric ends)
  rw [Read.ignoreOne, bind_assoc]
  refine reads_seeking gap (stops_cons.mpr (digit_solid digit)) ?_
  rw [List.cons_append, List.head?_cons]
  dsimp only
  rw [other (by decide), other (by decide), other (by decide), other (by decide), digit]
  exact reads_leaf (by simpa using number) later

theorem number_skips (written : NumberText text) : Skips text := by
  cases written with
  | written signed whole parted scaled =>
    rcases signed with rfl | rfl
    · rw [List.nil_append]
      exact natural_skips whole parted scaled
    · rw [List.singleton_append]
      exact negative_skips whole parted scaled

inductive Holds : Bracket → Text → Text → Prop where
  | element : Holds .list value value
  | member (key : Body written) (spelled : MemberText written value item) :
      Holds .object item value

theorem holds_opens (holds : Holds bracket item value) (skips : Skips value) :
    ∃ c tail, item = c :: tail ∧ isGap c = false ∧ c ≠ bracket.closing := by
  cases holds with
  | element => exact skips.opens
  | member key spelled =>
    cases spelled with
    | written before after => exact ⟨_, _, rfl, by decide, by decide⟩

theorem reads_colon (before : Gap front) (rest : Text) :
    Reads Read.colon (front ++ ':' :: rest) () rest :=
  reads_seeking before (stops_cons.mpr (by decide)) (reads_skip ':' rest)

theorem holds_entered (holds : Holds bracket item value) (gap : Gap front) (rest : Text) :
    ∃ back, Gap back ∧
      Reads (Read.enterItem bracket) (front ++ (item ++ rest)) () (back ++ (value ++ rest)) := by
  cases holds with
  | element => exact ⟨front, gap, reads_pure () _⟩
  | member key spelled =>
    cases spelled with
    | @written before back between after =>
      refine ⟨back, after, reads_seeking gap (stops_cons.mpr (by decide)) ?_⟩
      show Reads (Read.skip >>= fun _ => Read.ignoreString >>= fun _ => Read.colon) _ () _
      simp only [quoted, List.cons_append, List.append_assoc, List.nil_append]
      exact reads_skipping (reads_bind (reads_ignoreString key _) (reads_colon between _))

theorem holds_shorter (holds : Holds bracket item value) : value.length ≤ item.length := by
  cases holds with
  | element => exact Nat.le_refl _
  | member key spelled =>
    cases spelled with
    | written before after =>
      simp only [List.length_append, List.length_cons]
      omega

theorem comma_ends (rest : Text) : Ends (',' :: rest) := by
  rintro c ⟨⟩
  exact .inr (.inl rfl)

theorem closing_ends (bracket : Bracket) (rest : Text) : Ends (bracket.closing :: rest) := by
  rintro c ⟨⟩
  cases bracket <;> simp [Bracket.closing]

theorem closing_facts (bracket : Bracket) :
    isGap bracket.closing = false ∧ (bracket.closing == ',') = false := by
  cases bracket <;> decide

theorem reads_close {bracket : Bracket} {next : List Bracket → Read Unit} (gap : Gap back)
    (later : Reads (Read.afterValue brackets >>= next) rest () out) :
    Reads (Read.afterValue (bracket :: brackets) >>= next) (back ++ bracket.closing :: rest) () out := by
  obtain ⟨solid, other⟩ := closing_facts bracket
  rw [Read.afterValue, bind_assoc]
  refine reads_seeking gap (stops_cons.mpr solid) ?_
  rw [List.head?_cons]
  dsimp only
  rw [other, beq_self_eq_true]
  show Reads ((Read.skip >>= fun _ => Read.afterValue brackets) >>= next) _ () out
  rw [bind_assoc]
  exact reads_skipping later

theorem reads_separated {next : List Bracket → Read Unit} (gap : Gap back)
    (later : Reads (Read.enterItem bracket >>= fun _ => next (bracket :: brackets)) rest () out) :
    Reads (Read.afterValue (bracket :: brackets) >>= next) (back ++ ',' :: rest) () out := by
  rw [Read.afterValue, bind_assoc]
  refine reads_seeking gap (stops_cons.mpr (by decide)) ?_
  show Reads ((Read.skip >>= fun _ => Read.enterItem bracket >>= fun _ =>
    pure (bracket :: brackets)) >>= next) _ () out
  rw [bind_assoc]
  refine reads_skipping ?_
  rwa [bind_assoc]

-- By induction on the list, which takes the rounds of each item from those of the whole.
theorem items_skipped (listed : Listed items inside)
    (each : ∀ item ∈ items, ∃ value, Holds bracket item value ∧ Skips value)
    (later : ∀ left, rounds ≤ left → Reads (Read.afterValue brackets >>= goOn left) rest () out)
    (enough : inside.length + rounds ≤ fuel) :
    Reads (Read.enterItem bracket >>= fun _ => Read.ignoreFrom fuel (bracket :: brackets))
      (inside ++ bracket.closing :: rest) () out := by
  induction listed generalizing fuel with
  | last before after =>
    obtain ⟨value, holds, skips⟩ := each _ List.mem_cons_self
    have shorter := holds_shorter holds
    obtain ⟨gap, blank, entered⟩ := holds_entered holds before _
    simp only [List.length_append] at enough
    simp only [List.append_assoc]
    have ends := gap_ends after (closing_ends bracket rest)
    refine reads_bind entered (skips.passed rounds blank ends ?_ ?_)
    · exact fun left many => reads_close after (later left many)
    · omega
  | @next front back other items text item before after following ih =>
    obtain ⟨⟨value, holds, skips⟩, others⟩ := List.forall_mem_cons.mp each
    have shorter := holds_shorter holds
    obtain ⟨gap, blank, entered⟩ := holds_entered holds before _
    simp only [List.length_append, List.length_cons] at enough
    simp only [List.append_assoc, List.cons_append]
    refine reads_bind entered (skips.passed (text.length + rounds) blank (gap_ends after (comma_ends _)) ?_ ?_)
    · exact fun left many => reads_separated after (ih others many)
    · omega

theorem listed_trimmed (listed : Listed items inside) : ∃ front trimmed, Gap front ∧
    inside = front ++ trimmed ∧ Listed items trimmed ∧ ∃ item ∈ items, ∃ tail, trimmed = item ++ tail := by
  have none : Gap [] := List.forall_mem_nil _
  cases listed with
  | last before after =>
    exact ⟨_, _, before, rfl, .last none after, _, List.mem_cons_self, _, rfl⟩
  | next before after later =>
    exact ⟨_, _, before, rfl, .next none after later, _, List.mem_cons_self, _, rfl⟩

theorem reads_firstItem {bracket : Bracket} (gap : Gap front) (solid : isGap c = false)
    (other : c ≠ bracket.closing) (source : Text) {next : List Bracket → Read Unit}
    (later : Reads (Read.enterItem bracket >>= fun _ => next (bracket :: brackets)) (c :: source) () out) :
    Reads (Read.firstItem bracket brackets >>= next) (front ++ c :: source) () out := by
  rw [Read.firstItem, bind_assoc]
  refine reads_seeking gap (stops_cons.mpr solid) ?_
  rw [List.head?_cons]
  dsimp only
  rw [beq_false_of_ne other]
  show Reads ((Read.enterItem bracket >>= fun _ => pure (bracket :: brackets)) >>= next) _ () out
  rwa [bind_assoc]

theorem reads_noItem {bracket : Bracket} (gap : Gap front) {next : List Bracket → Read Unit}
    (later : Reads (Read.afterValue brackets >>= next) rest () out) :
    Reads (Read.firstItem bracket brackets >>= next) (front ++ bracket.closing :: rest) () out := by
  rw [Read.firstItem, bind_assoc]
  refine reads_seeking gap (stops_cons.mpr (closing_facts bracket).1) ?_
  rw [List.head?_cons]
  dsimp only
  rw [beq_self_eq_true]
  show Reads ((Read.skip >>= fun _ => Read.afterValue brackets) >>= next) _ () out
  rw [bind_assoc]
  exact reads_skipping later

theorem opening_facts (bracket : Bracket) :
    isGap bracket.opening = false ∧ bracket.opening ≠ ']' := by
  cases bracket <;> decide

theorem reads_opening {bracket : Bracket} (gap : Gap front) {next : List Bracket → Read Unit}
    (later : Reads (Read.firstItem bracket brackets >>= next) source () out) :
    Reads (Read.ignoreOne brackets >>= next) (front ++ bracket.opening :: source) () out := by
  rw [Read.ignoreOne, bind_assoc]
  refine reads_seeking gap (stops_cons.mpr (opening_facts bracket).1) ?_
  rw [List.head?_cons]
  cases bracket with
  | list =>
    show Reads ((Read.skip >>= fun _ => Read.firstItem .list brackets) >>= next) _ () out
    rw [bind_assoc]
    exact reads_skipping later
  | object =>
    show Reads ((Read.skip >>= fun _ => Read.firstItem .object brackets) >>= next) _ () out
    rw [bind_assoc]
    exact reads_skipping later

theorem bracketed_skips (written : Bracketed bracket items text)
    (each : ∀ item ∈ items, ∃ value, Holds bracket item value ∧ Skips value) : Skips text := by
  obtain ⟨solid, other⟩ := opening_facts bracket
  cases written with
  | @empty inside gap =>
    apply skips_once solid other
    intro front rest out brackets next before ends later
    simp only [List.cons_append, List.append_assoc, List.nil_append]
    exact reads_opening before (reads_noItem gap later)
  | @full _ inside listed =>
    refine ⟨⟨_, _, rfl, solid, other⟩, fun rounds before ends later enough => ?_⟩
    rename_i front rest out brackets fuel
    obtain ⟨gap, trimmed, blank, rfl, listed, item, member, tail, first⟩ := listed_trimmed listed
    obtain ⟨value, holds, skips⟩ := each item member
    obtain ⟨c, begun, rfl, plain, apart⟩ := holds_opens holds skips
    simp only [List.length_cons, List.length_append] at enough
    obtain ⟨left, rfl⟩ : ∃ left, fuel = left + 1 := ⟨fuel - 1, by omega⟩
    have passed := items_skipped listed each later (show trimmed.length + rounds ≤ left by omega)
    rw [first, List.cons_append] at passed
    rw [ignoreFrom_next, first]
    simp only [List.cons_append, List.append_assoc, List.nil_append]
    refine reads_opening before (reads_firstItem blank plain apart _ ?_)
    simpa [goOn] using passed

theorem valueText_skips (value : ValueText text) : Skips text := by
  induction value with
  | word known => exact word_skips known
  | number written => exact number_skips written
  | string body => exact string_skips body
  | list each written ih =>
    exact bracketed_skips written fun item member => ⟨item, .element, ih item member⟩
  | object keys each spelled written ih =>
    refine bracketed_skips written fun item member => ?_
    obtain ⟨i, small, rfl⟩ := List.getElem_of_mem member
    obtain ⟨same, related⟩ := List.forall₂_iff_get.mp spelled
    have earlier : i < _ := same ▸ small
    exact ⟨_, .member (keys _ (List.get_mem _ _)) (related i earlier small), ih _ (List.get_mem _ _)⟩

theorem reads_ignoreValue (value : ValueText text) (gap : Gap front) (ends : Ends rest) :
    Reads Read.ignoreValue (front ++ (text ++ rest)) () rest := by
  refine reads_bind (reads_remaining _) ((valueText_skips value).passed 0 gap ends ?_ ?_)
  · exact fun left many => reads_pure () rest
  · simp only [List.length_append]
    omega

end Json
end PluginBindings
