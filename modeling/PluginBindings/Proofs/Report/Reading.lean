import Mathlib.Data.List.Forall2
import PluginBindings.Report.Outcome

namespace PluginBindings

@[simp] theorem ok_bind_exact {first : Except ε α} {next : α → Except ε β} :
    first >>= next = .ok value ↔ ∃ read, first = .ok read ∧ next read = .ok value := by
  cases first <;> simp [bind, Except.bind]

theorem error_bind_exact {first : Except ε α} {next : α → Except ε β} :
    first >>= next = .error fault ↔
      first = .error fault ∨ ∃ read, first = .ok read ∧ next read = .error fault := by
  cases first <;> simp [bind, Except.bind]

theorem toOption_exact {result : Except ε α} :
    result.toOption = some value ↔ result = .ok value := by
  cases result <;> simp [Except.toOption]

theorem mapM_ok_exact {take : α → Except Fault β} :
    items.mapM take = .ok values ↔
      List.Forall₂ (fun item value => take item = .ok value) items values := by
  induction items generalizing values with
  | nil =>
    simp only [List.mapM_nil, pure, Except.pure, Except.ok.injEq, List.forall₂_nil_left_iff]
    exact eq_comm
  | cons item items ih =>
    simp only [List.mapM_cons, ok_bind_exact, ih, List.forall₂_cons_left_iff, pure, Except.pure,
      Except.ok.injEq]
    constructor
    · intro taken
      obtain ⟨value, taken, rest, later, rfl⟩ := taken
      exact ⟨value, rest, taken, later, rfl⟩
    · intro mapped
      obtain ⟨value, rest, taken, later, rfl⟩ := mapped
      exact ⟨value, taken, rest, later, rfl⟩

theorem mapM_alike {take take' : α → Except Fault β} {items : List α}
    (alike : ∀ item ∈ items, take' item = take item) : items.mapM take' = items.mapM take := by
  induction items with
  | nil => rfl
  | cons item items ih =>
    obtain ⟨first, later⟩ := List.forall_mem_cons.mp alike
    rw [List.mapM_cons, List.mapM_cons, first, ih later]

theorem foldlM_error_exact {take : σ → α → Except ε σ} {items : List α} {state : σ} :
    items.foldlM take state = .error fault ↔ ∃ front item later reached,
      items = front ++ item :: later ∧ front.foldlM take state = .ok reached ∧
        take reached item = .error fault := by
  induction items generalizing state with
  | nil => simp [pure, Except.pure]
  | cons item items ih =>
    simp only [List.foldlM_cons, error_bind_exact, ih]
    constructor
    · intro stopped
      rcases stopped with refused | ⟨next, taken, front, other, later, reached, rfl, before, refused⟩
      · exact ⟨[], item, items, state, rfl, rfl, refused⟩
      · exact ⟨item :: front, other, later, reached, rfl, by simp [taken, before], refused⟩
    · intro stopped
      obtain ⟨front, other, later, reached, split, before, refused⟩ := stopped
      cases front with
      | nil =>
        cases split
        cases before
        exact .inl refused
      | cons first front =>
        cases split
        obtain ⟨next, taken, before⟩ := ok_bind_exact.mp (by simpa using before)
        exact .inr ⟨next, taken, front, other, later, reached, rfl, before, refused⟩

-- Two results alike: two values that are related, or the same fault twice.
inductive Alike (related : α → β → Prop) : Except Fault α → Except Fault β → Prop where
  | ok (same : related value value') : Alike related (.ok value) (.ok value')
  | error (fault : Fault) : Alike related (.error fault) (.error fault)

theorem alike_bind {first : Except Fault α} {first' : Except Fault β} {next : α → Except Fault γ}
    {next' : β → Except Fault δ} (alike : Alike related first first')
    (later : ∀ value value', related value value' → Alike related' (next value) (next' value')) :
    Alike related' (first >>= next) (first' >>= next') := by
  cases alike with
  | ok same => exact later _ _ same
  | error fault => exact .error fault

namespace Reading

@[simp] theorem items_append (earlier later : Reading α) :
    items (earlier ++ later) = items earlier ++ items later := by
  induction earlier with
  | nil => rfl
  | cons step earlier ih => cases step <;> simp [items, ih]

-- What a reader tells on its way has no part in the result: only its items count.
theorem foldInto_result (take : σ → α → Except Fault σ) (state : σ) (reading : Reading α) :
    (foldInto take state reading).result =
      (items reading).foldlM (fun state item => item >>= take state) state := by
  induction reading generalizing state with
  | nil => rfl
  | cons step reading ih =>
    cases step with
    | noted notice =>
      simp only [foldInto, items, Outcome.result_bind, Outcome.note, ih]
      rfl
    | read value =>
      simp only [foldInto, items, Outcome.result_bind, Outcome.ofExcept, ih, List.foldlM_cons]
      rfl
    | failed fault => simp [foldInto, items, Outcome.fail, bind, Except.bind]

theorem taken_ok_exact {take : σ → α → Except Fault σ} {state : σ} {items : List (Except Fault α)} :
    items.foldlM (fun state item => item >>= take state) state = .ok last ↔
      ∃ values : List α, items = values.map .ok ∧ values.foldlM take state = .ok last := by
  induction items generalizing state with
  | nil => simp
  | cons item later ih =>
    simp only [List.foldlM_cons, ok_bind_exact, ih]
    constructor
    · intro reached
      obtain ⟨next, ⟨value, rfl, taken⟩, values, rfl, reached⟩ := reached
      exact ⟨value :: values, rfl, by simp [taken, reached]⟩
    · intro folded
      obtain ⟨values, same, reached⟩ := folded
      cases values with
      | nil => cases same
      | cons value values =>
        cases same
        obtain ⟨next, taken, reached⟩ := ok_bind_exact.mp (by simpa using reached)
        exact ⟨next, ⟨value, rfl, taken⟩, values, rfl, reached⟩

theorem foldInto_ok_exact {take : σ → α → Except Fault σ} {state : σ} {reading : Reading α} :
    (foldInto take state reading).result = .ok last ↔
      ∃ values : List α, items reading = values.map .ok ∧ values.foldlM take state = .ok last := by
  rw [foldInto_result]
  exact taken_ok_exact

-- The fault of a fold is the first one met: every item before it was read and taken.
theorem foldInto_error_exact {take : σ → α → Except Fault σ} {state : σ} {reading : Reading α} :
    (foldInto take state reading).result = .error fault ↔
      ∃ (values : List α) (item : Except Fault α) (later : List (Except Fault α)) (reached : σ),
        items reading = values.map .ok ++ item :: later ∧
          values.foldlM take state = .ok reached ∧ item >>= take reached = .error fault := by
  rw [foldInto_result, foldlM_error_exact]
  constructor
  · intro stopped
    obtain ⟨front, item, later, reached, split, before, refused⟩ := stopped
    obtain ⟨values, rfl, taken⟩ := taken_ok_exact.mp before
    exact ⟨values, item, later, reached, split, taken, refused⟩
  · intro stopped
    obtain ⟨values, item, later, reached, split, taken, refused⟩ := stopped
    exact ⟨values.map .ok, item, later, reached, split, taken_ok_exact.mpr ⟨values, rfl, taken⟩, refused⟩

theorem collect_values (front values : List α) :
    values.foldlM (fun values value => (.ok (values ++ [value]) : Except Fault _)) front =
      .ok (front ++ values) := by
  induction values generalizing front with
  | nil => simp [pure, Except.pure]
  | cons value values ih => simp [bind, Except.bind, ih]

theorem collect_ok_exact {reading : Reading α} :
    (collect reading).result = .ok values ↔ items reading = values.map .ok := by
  unfold collect
  rw [foldInto_ok_exact]
  constructor
  · intro collected
    obtain ⟨read, same, reached⟩ := collected
    rw [collect_values] at reached
    cases reached
    exact same
  · intro same
    exact ⟨values, same, collect_values [] values⟩

def upToFault : List (Except Fault α) → List (Except Fault α)
  | [] => []
  | .ok value :: later => .ok value :: upToFault later
  | .error fault :: _ => [.error fault]

def Faulty (entries : List (Except Fault α)) : Prop := ∃ fault, .error fault ∈ entries

theorem upToFault_faulty {front : List (Except Fault α)} (faulty : Faulty front)
    (back : List (Except Fault α)) : upToFault (front ++ back) = upToFault front := by
  induction front with
  | nil =>
    obtain ⟨fault, member⟩ := faulty
    cases member
  | cons entry front ih =>
    cases entry with
    | error fault => rfl
    | ok value =>
      obtain ⟨fault, member⟩ := faulty
      have later : Faulty front := ⟨fault, by simpa using member⟩
      rw [List.cons_append, upToFault, upToFault, ih later]

theorem upToFault_clean {front : List (Except Fault α)} (clean : ¬ Faulty front)
    (back : List (Except Fault α)) : upToFault (front ++ back) = front ++ upToFault back := by
  induction front with
  | nil => rfl
  | cons entry front ih =>
    cases entry with
    | error fault => exact absurd ⟨fault, by simp⟩ clean
    | ok value =>
      have later : ¬ Faulty front := by
        rintro ⟨fault, member⟩
        exact clean ⟨fault, by simp [member]⟩
      rw [List.cons_append, upToFault, ih later, List.cons_append]

theorem upToFault_subset (entries : List (Except Fault α)) : upToFault entries ⊆ entries := by
  induction entries with
  | nil => exact List.Subset.refl []
  | cons entry later ih =>
    cases entry with
    | ok value => exact List.cons_subset_cons _ ih
    | error fault => exact List.cons_subset_cons _ (List.nil_subset later)

theorem upToFault_head : entry ∈ upToFault (entry :: later) := by
  cases entry with
  | ok value => exact List.mem_cons_self
  | error fault => exact List.mem_cons_self

theorem upToFault_empty {entries : List (Except Fault α)} :
    upToFault entries = [] ↔ entries = [] := by
  cases entries with
  | nil => simp [upToFault]
  | cons entry later => cases entry <;> simp [upToFault]

theorem values_clean (values : List α) : ¬ Faulty (values.map .ok) := by
  rintro ⟨fault, member⟩
  obtain ⟨value, -, impossible⟩ := List.mem_map.mp member
  cases impossible

theorem upToFault_values (values : List α) : upToFault (values.map .ok) = values.map .ok := by
  have whole := upToFault_clean (values_clean values) []
  rwa [List.append_nil, upToFault, List.append_nil] at whole

def ended (values : List α) (ending : Option Fault) : List (Except Fault α) :=
  values.map .ok ++ ending.toList.map .error

theorem upToFault_ended (values : List α) (fault : Fault) (later : List (Except Fault α)) :
    upToFault (values.map .ok ++ .error fault :: later) = ended values (some fault) :=
  upToFault_clean (values_clean values) _

theorem ended_exact {values others : List α} {ending : Option Fault} :
    ended values ending = others.map .ok ↔ ending = none ∧ others = values := by
  unfold ended
  cases ending with
  | none =>
    have injective : Function.Injective (.ok : α → Except Fault α) := fun _ _ same => by
      cases same
      rfl
    simp only [Option.toList_none, List.map_nil, List.append_nil, true_and]
    rw [(List.map_injective_iff.mpr injective).eq_iff, eq_comm]
  | some fault =>
    simp only [reduceCtorEq, false_and, iff_false]
    intro same
    exact values_clean others ⟨fault, by simp [← same]⟩

theorem next_items (reading : Reading α) :
    (next reading).1 = (items reading).head? ∧ items (next reading).2 = (items reading).tail := by
  induction reading with
  | nil => exact ⟨rfl, rfl⟩
  | cons step reading ih =>
    cases step with
    | noted notice => exact ih
    | read value => exact ⟨rfl, rfl⟩
    | failed fault => exact ⟨rfl, rfl⟩

-- A reader gives its items and then nothing, however often it is asked again.
theorem answers_exact {reading : Reading α} (enough : calls ≤ more) :
    answers calls reading = ((items reading).map some ++ List.replicate more none).take calls := by
  induction calls generalizing reading more with
  | zero => rfl
  | succ calls ih =>
    obtain ⟨first, later⟩ := next_items reading
    rw [answers, first]
    cases left : items reading with
    | nil =>
      obtain ⟨fewer, rfl⟩ : ∃ fewer, more = fewer + 1 := ⟨more - 1, by omega⟩
      rw [left] at later
      rw [ih (Nat.le_of_succ_le_succ enough), later]
      rfl
    | cons item rest =>
      rw [left] at later
      rw [ih (Nat.le_of_succ_le enough), later]
      rfl

theorem answers_ended {reading : Reading α} (given : items reading = ended values ending)
    (calls : Nat) : answers calls reading =
      ((ended values ending).map some ++ List.replicate calls none).take calls := by
  rw [answers_exact (Nat.le_refl calls), given]

theorem collect_ended {reading : Reading α} (given : items reading = ended values ending)
    (all : List α) : (collect reading).result = .ok all ↔ ending = none ∧ all = values := by
  rw [collect_ok_exact, given]
  exact ended_exact

theorem collect_fault {reading : Reading α}
    (given : items reading = ended values (some fault)) :
    (collect reading).result = .error fault :=
  foldInto_error_exact.mpr ⟨values, .error fault, [], values, given, collect_values [] values, rfl⟩

end Reading
end PluginBindings
