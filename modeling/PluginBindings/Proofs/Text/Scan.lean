import PluginBindings.Proofs.Text.Runs
import PluginBindings.Text.Scan

namespace PluginBindings
namespace Scan

-- Each reader becomes an equation on the text it reads, so no later proof opens a reader.

@[simp] theorem bind_exact {first : Scan α} {next : α → Scan β} {source : Text} :
    (first >>= next) source = some (value, rest) ↔
      ∃ read middle, first source = some (read, middle) ∧ next read middle = some (value, rest) := by
  simp [bind, StateT.bind, Option.bind_eq_some_iff]

@[simp] theorem pure_exact {answer : α} {source : Text} :
    (pure answer : Scan α) source = some (value, rest) ↔ answer = value ∧ source = rest := by
  show some (answer, source) = some (value, rest) ↔ _
  rw [Option.some.injEq, Prod.mk.injEq]

theorem literal_exact {word source : Text} {read : Unit} :
    literal word source = some (read, rest) ↔ source = word ++ rest := by
  induction word generalizing source with
  | nil => simp [literal]
  | cons c word ih =>
    cases source with
    | nil => simp [literal]
    | cons d source =>
      by_cases same : c = d
      · subst same
        simp [literal, ih]
      · simp [literal, same, Ne.symm same]

theorem span_exact {source front : Text} :
    span accepts source = some (front, rest) ↔
      source = front ++ rest ∧ (∀ c ∈ front, accepts c = true) ∧ Stops accepts rest := by
  simp only [span, Option.some.injEq, Prod.mk.injEq]
  exact run_exact

theorem span1_exact {source front : Text} :
    span1 accepts source = some (front, rest) ↔
      source = front ++ rest ∧ front ≠ [] ∧ (∀ c ∈ front, accepts c = true) ∧
        Stops accepts rest := by
  unfold span1
  split
  · rename_i accepted
    rw [span_exact]
    refine and_congr_right fun same => ⟨?_, fun facts => facts.2⟩
    intro whole
    obtain ⟨run, stops⟩ := whole
    refine ⟨?_, run, stops⟩
    rintro rfl
    rw [same, List.nil_append, stops.head] at accepted
    cases accepted
  · rename_i refused
    constructor
    · intro read; cases read
    · intro read
      obtain ⟨rfl, nonempty, run, -⟩ := read
      cases front with
      | nil => exact absurd rfl nonempty
      | cons c front => exact absurd (run c (by simp)) (by simpa using refused)

theorem blanks_exact {source front : Text} :
    blanks source = some (front, rest) ↔
      source = front ++ rest ∧ (∀ c ∈ front, isBlank c = true) ∧ Stops isBlank rest :=
  span_exact

theorem name_exact {source front : Text} :
    name source = some (front, rest) ↔
      source = front ++ rest ∧ isName front = true ∧ Stops isWord rest := by
  unfold name
  split
  · rename_i start
    rw [span_exact]
    constructor
    · intro parts
      obtain ⟨rfl, run, stops⟩ := parts
      refine ⟨rfl, ?_, stops⟩
      cases front with
      | nil =>
        have continues := stops.head
        cases rest with
        | nil => cases start
        | cons c rest => simp [nameStart_word (by simpa using start)] at continues
      | cons c front =>
        have first : isNameStart c = true := by simpa using start
        simpa [isName, first] using fun x member => run x (by simp [member])
    · intro read
      obtain ⟨rfl, named, stops⟩ := read
      exact ⟨rfl, isName_word named, stops⟩
  · rename_i refused
    constructor
    · intro read; cases read
    · intro read
      obtain ⟨rfl, named, -⟩ := read
      cases front with
      | nil => cases named
      | cons c front => simp [isName] at named; simp [named.1] at refused

theorem optionally_exact {source : Text} {read : Unit} :
    optionally c source = some (read, rest) ↔
      source = c :: rest ∨ (source = rest ∧ source.head? ≠ some c) := by
  unfold optionally
  split
  · rename_i present
    cases source with
    | nil => simp at present
    | cons d source =>
      have same : d = c := by simpa using present
      subst same
      constructor
      · intro taken; simp at taken; simp [taken]
      · intro read
        rcases read with taken | ⟨-, absent⟩
        · simpa using taken
        · simp at absent
  · rename_i absent
    have absent : source.head? ≠ some c := by simpa using absent
    constructor
    · intro kept; simp at kept; exact .inr ⟨kept, absent⟩
    · intro read
      rcases read with rfl | ⟨rfl, -⟩
      · simp at absent
      · rfl

theorem afterBlanks_sound {next : Scan α} {source : Text}
    (read : afterBlanks blank next source = some (value, rest)) :
    ∃ front middle, source = front ++ middle ∧ front ≠ [] ∧ (∀ c ∈ front, blank c = true) ∧
      next middle = some (value, rest) := by
  induction source with
  | nil => cases read
  | cons c source ih =>
    unfold afterBlanks at read
    split at read
    · rename_i first
      cases longer : afterBlanks blank next source with
      | none =>
        rw [longer] at read
        exact ⟨[c], source, rfl, by simp, by simpa using first, by simpa using read⟩
      | some found =>
        rw [longer] at read
        obtain ⟨front, middle, same, -, run, reached⟩ := ih (longer.trans read)
        refine ⟨c :: front, middle, by simp [same], by simp, ?_, reached⟩
        simpa [first] using run
    · cases read

-- With the run complete no shorter one is tried.
theorem afterBlanks_complete {next : Scan α} {front middle : Text} (nonempty : front ≠ [])
    (run : ∀ c ∈ front, blank c = true) (stops : Stops blank middle)
    (reached : next middle = some (value, rest)) :
    afterBlanks blank next (front ++ middle) = some (value, rest) := by
  induction front with
  | nil => exact absurd rfl nonempty
  | cons c front ih =>
    have first : blank c = true := run c (by simp)
    simp only [List.cons_append, afterBlanks, first, if_true]
    cases front with
    | nil =>
      have shorter : afterBlanks blank next middle = none := by
        cases middle with
        | nil => rfl
        | cons d middle => simp [afterBlanks, stops_cons.mp stops]
      simp [shorter, reached]
    | cons d front =>
      rw [ih (by simp) fun x member => run x (by simp [member])]
      rfl

theorem whole_exact {form : Scan α} {text : Text} :
    whole form text = some value ↔ form text = some (value, []) := by
  unfold whole
  cases form text with
  | none => simp
  | some read =>
    obtain ⟨found, left⟩ := read
    cases left <;> simp

-- Leftmost: the form stands nowhere in the gap, not even reaching out of it.
theorem findFirst_some_exact {form : Scan α} {text gap : Text} :
    findFirst form text = some (gap, value, rest) ↔
      ∃ source, text = gap ++ source ∧ form source = some (value, rest) ∧
        ∀ earlier later, gap = earlier ++ later → later ≠ [] → form (later ++ source) = none := by
  induction text generalizing gap with
  | nil =>
    cases gap with
    | nil => simp [findFirst]
    | cons c gap => simp [findFirst]
  | cons c text ih =>
    unfold findFirst
    cases here : form (c :: text) with
    | some read =>
      constructor
      · intro found
        cases found
        exact ⟨c :: text, rfl, here, by simp⟩
      · intro found
        obtain ⟨source, same, reached, earliest⟩ := found
        cases gap with
        | nil => cases same; rw [here] at reached; simp [Option.some.inj reached]
        | cons d gap =>
          have refused := earliest [] (d :: gap) rfl (by simp)
          rw [← same, here] at refused
          cases refused
    | none =>
      constructor
      · intro found
        obtain ⟨⟨front, read⟩, later, same⟩ := Option.map_eq_some_iff.mp found
        cases same
        obtain ⟨source, rfl, reached, earliest⟩ := ih.mp later
        refine ⟨source, rfl, reached, ?_⟩
        intro earlier rest split nonempty
        cases earlier with
        | nil => rw [← List.nil_append rest, ← split]; exact here
        | cons d earlier => cases split; exact earliest earlier rest rfl nonempty
      · intro found
        obtain ⟨source, same, reached, earliest⟩ := found
        cases gap with
        | nil => cases same; rw [here] at reached; cases reached
        | cons d gap =>
          obtain ⟨rfl, rfl⟩ := List.cons.inj same
          have later := ih.mpr ⟨source, rfl, reached, fun earlier rest split nonempty =>
            earliest (c :: earlier) rest (by simp [split]) nonempty⟩
          exact Option.map_eq_some_iff.mpr ⟨_, later, rfl⟩

theorem findFirst_none_exact {form : Scan α} {text : Text} :
    findFirst form text = none ↔ ∀ front source, text = front ++ source → form source = none := by
  induction text with
  | nil => simp [findFirst]
  | cons c text ih =>
    unfold findFirst
    cases here : form (c :: text) with
    | some read =>
      simp only [reduceCtorEq, false_iff]
      intro refused
      rw [refused [] (c :: text) rfl] at here
      cases here
    | none =>
      simp only [Option.map_eq_none_iff, ih]
      constructor
      · intro refused front source same
        cases front with
        | nil => cases same; exact here
        | cons d front => cases same; exact refused front source rfl
      · intro refused front source same
        exact refused (c :: front) source (by simp [same])

theorem findFirst_leftmost {form : Scan α} {text gap front source : Text}
    (found : findFirst form text = some (gap, value, rest)) (same : text = front ++ source)
    (stands : form source = some reading) : ∃ shift, front = gap ++ shift := by
  obtain ⟨here, split, -, earliest⟩ := findFirst_some_exact.mp found
  rw [split] at same
  rcases List.append_eq_append_iff.mp same with ⟨shift, same, -⟩ | ⟨shift, same, later⟩
  · exact ⟨shift, same⟩
  · cases shift with
    | nil => exact ⟨[], by simp [same]⟩
    | cons c shift =>
      have refused := earliest front (c :: shift) same (by simp)
      rw [← later, stands] at refused
      cases refused

def Silent (form : Scan α) (front back : Text) : Prop :=
  ∀ earlier later, front = earlier ++ later → later ≠ [] → form (later ++ back) = none

theorem silent_nil (form : Scan α) (back : Text) : Silent form [] back := by
  intro earlier later same nonempty
  exact absurd (List.append_eq_nil_iff.mp same.symm).2 nonempty

theorem silent_append {form : Scan α} {front middle back : Text}
    (first : Silent form front (middle ++ back)) (second : Silent form middle back) :
    Silent form (front ++ middle) back := by
  intro earlier later same nonempty
  rcases List.append_eq_append_iff.mp same with ⟨shift, rfl, rfl⟩ | ⟨shift, rfl, rfl⟩
  · exact second shift later rfl nonempty
  · cases shift with
    | nil => exact second [] middle rfl nonempty
    | cons c shift =>
      rw [List.append_assoc]
      exact first earlier (c :: shift) rfl (by simp)

theorem findFirst_behind {form : Scan α} {front back : Text} (silent : Silent form front back) :
    findFirst form (front ++ back) =
      (findFirst form back).map fun found => (front ++ found.1, found.2) := by
  induction front with
  | nil => simp
  | cons c front ih =>
    have here := silent [] (c :: front) rfl (by simp)
    have later := ih fun earlier later same => silent (c :: earlier) later (by simp [same])
    rw [List.cons_append, findFirst]
    rw [List.cons_append] at here
    rw [here, later]
    cases findFirst form back <;> rfl

theorem findFirst_next (form : Scan α) (answer : α → β) (c : Char) (text : Text) :
    (findFirst form (c :: text)).map (fun found => answer found.2.1) =
      ((form (c :: text)).map fun read => answer read.1).or
        ((findFirst form text).map fun found => answer found.2.1) := by
  rw [findFirst]
  cases form (c :: text) with
  | some read => rfl
  | none => cases findFirst form text <;> rfl

-- Whether a line starts behind `front`; `starts` tells it of the place before it.
def startsLine (starts : Bool) : Text → Bool
  | [] => starts
  | c :: front => startsLine (c == '\n') front

theorem startsLine_append {front later : Text} :
    startsLine starts (front ++ later) = startsLine (startsLine starts front) later := by
  induction front generalizing starts with
  | nil => rfl
  | cons c front ih => exact ih

theorem startsLine_exact {front : Text} :
    startsLine true front = true ↔ front = [] ∨ ∃ earlier, front = earlier ++ ['\n'] := by
  rcases List.eq_nil_or_concat front with rfl | ⟨earlier, c, rfl⟩
  · simp [startsLine]
  · simp [startsLine_append, startsLine]

theorem findAtLineStart_some_exact {form : Scan α} {text gap : Text} :
    findAtLineStart form starts text = some (gap, value, rest) ↔
      ∃ source, text = gap ++ source ∧ startsLine starts gap = true ∧
        form source = some (value, rest) ∧
        ∀ earlier later, gap = earlier ++ later → later ≠ [] → startsLine starts earlier = true →
          form (later ++ source) = none := by
  induction text generalizing gap starts with
  | nil =>
    cases gap with
    | nil => cases starts <;> simp [findAtLineStart, startsLine]
    | cons c gap => cases starts <;> simp [findAtLineStart]
  | cons c text ih =>
    unfold findAtLineStart
    cases here : (if starts then form (c :: text) else none) with
    | some read =>
      have starting : starts = true := by cases starts <;> simp_all
      subst starting
      simp only [if_true] at here
      constructor
      · intro found
        cases found
        exact ⟨c :: text, rfl, rfl, here, by simp⟩
      · intro found
        obtain ⟨source, same, -, reached, earliest⟩ := found
        cases gap with
        | nil => cases same; rw [here] at reached; simp [Option.some.inj reached]
        | cons d gap =>
          have refused := earliest [] (d :: gap) rfl (by simp) rfl
          rw [← same, here] at refused
          cases refused
    | none =>
      constructor
      · intro found
        obtain ⟨⟨front, read⟩, later, same⟩ := Option.map_eq_some_iff.mp found
        cases same
        obtain ⟨source, rfl, lineStart, reached, earliest⟩ := ih.mp later
        refine ⟨source, rfl, lineStart, reached, ?_⟩
        intro earlier rest split nonempty starting
        cases earlier with
        | nil =>
          rw [startsLine] at starting
          rw [← List.nil_append rest, ← split]
          simpa [starting] using here
        | cons d earlier => cases split; exact earliest earlier rest rfl nonempty starting
      · intro found
        obtain ⟨source, same, lineStart, reached, earliest⟩ := found
        cases gap with
        | nil =>
          rw [startsLine] at lineStart
          cases same
          simp [lineStart, reached] at here
        | cons d gap =>
          obtain ⟨rfl, rfl⟩ := List.cons.inj same
          have later := ih.mpr ⟨source, rfl, lineStart, reached,
            fun earlier rest split nonempty starting =>
              earliest (c :: earlier) rest (by simp [split]) nonempty starting⟩
          exact Option.map_eq_some_iff.mpr ⟨_, later, rfl⟩

theorem findAtLineStart_none_exact {form : Scan α} {text : Text} :
    findAtLineStart form starts text = none ↔
      ∀ front source, text = front ++ source → startsLine starts front = true →
        form source = none := by
  induction text generalizing starts with
  | nil => cases starts <;> simp [findAtLineStart, startsLine]
  | cons c text ih =>
    unfold findAtLineStart
    cases here : (if starts then form (c :: text) else none) with
    | some read =>
      simp only [reduceCtorEq, false_iff]
      intro refused
      cases starts with
      | false => cases here
      | true =>
        have absent := refused [] (c :: text) rfl rfl
        simp [absent] at here
    | none =>
      simp only [Option.map_eq_none_iff, ih]
      constructor
      · intro refused front source same starting
        cases front with
        | nil =>
          rw [startsLine] at starting
          cases same
          simpa [starting] using here
        | cons d front =>
          obtain ⟨rfl, rfl⟩ := List.cons.inj same
          exact refused front source rfl starting
      · intro refused front source same starting
        exact refused (c :: front) source (by simp [same]) starting

theorem findAtLineStart_leftmost {form : Scan α} {text gap front source : Text}
    (found : findAtLineStart form starts text = some (gap, value, rest))
    (same : text = front ++ source) (starting : startsLine starts front = true)
    (stands : form source = some reading) : ∃ shift, front = gap ++ shift := by
  obtain ⟨here, split, -, -, earliest⟩ := findAtLineStart_some_exact.mp found
  rw [split] at same
  rcases List.append_eq_append_iff.mp same with ⟨shift, same, -⟩ | ⟨shift, same, later⟩
  · exact ⟨shift, same⟩
  · cases shift with
    | nil => exact ⟨[], by simp [same]⟩
    | cons c shift =>
      have refused := earliest front (c :: shift) same (by simp) starting
      rw [← later, stands] at refused
      cases refused

-- What a form reads is never empty, so that a sweep goes on to the end.
def Advances (form : Scan α) : Prop :=
  ∀ source value rest, form source = some (value, rest) → rest.length < source.length

end Scan

theorem sweep_last (absent : Scan.findFirst form text = none) : sweep form text = ⟨[], text⟩ := by
  rw [sweep, absent]

theorem sweep_next (advances : Scan.Advances form)
    (found : Scan.findFirst form text = some (gap, value, rest)) :
    sweep form text = ⟨(gap, value) :: (sweep form rest).hits, (sweep form rest).tail⟩ := by
  obtain ⟨source, rfl, reached, -⟩ := Scan.findFirst_some_exact.mp found
  have shorter : rest.length < (gap ++ source).length := by
    have := advances source value rest reached
    simp only [List.length_append]
    omega
  rw [sweep, found]
  simp only [shorter, if_true]

-- A fact about sweeps follows from the text in which nothing is found and from one step.
theorem sweep_induction {form : Scan α} (advances : Scan.Advances form)
    {motive : Text → List (Text × α) → Text → Prop}
    (last : ∀ text, Scan.findFirst form text = none → motive text [] text)
    (next : ∀ text gap value rest hits tail,
      Scan.findFirst form text = some (gap, value, rest) → motive rest hits tail →
      motive text ((gap, value) :: hits) tail)
    (text : Text) : motive text (sweep form text).hits (sweep form text).tail := by
  induction size : text.length using Nat.strongRecOn generalizing text with
  | _ size ih =>
    cases found : Scan.findFirst form text with
    | none => rw [sweep_last found]; exact last text found
    | some read =>
      obtain ⟨gap, value, rest⟩ := read
      obtain ⟨source, rfl, reached, -⟩ := Scan.findFirst_some_exact.mp found
      have shorter := advances source value rest reached
      rw [sweep_next advances found]
      refine next _ _ _ _ _ _ found (ih rest.length ?_ rest rfl)
      rw [← size, List.length_append]
      omega

end PluginBindings
