import Mathlib.Data.List.Dedup
import PluginBindings.Proofs.Descriptor.Sheet

namespace PluginBindings
namespace DescriptorTable

def afterOffers (emptyKey : Text) (history : List FieldDescriptor) : DescriptorTable :=
  history.foldl (fun table descriptor => (table.insert descriptor).1) (empty emptyKey)

theorem find?_some_exact {table : DescriptorTable} {key : Text} :
    table.find? key = some array ↔ array ∈ table.descriptors ∧ array.key = key := by
  constructor
  · intro found
    exact ⟨List.mem_of_find?_eq_some found, by simpa using List.find?_some found⟩
  · intro row
    obtain ⟨member, rfl⟩ := row
    cases found : table.find? array.key with
    | none =>
      exact absurd (List.mem_map.mpr ⟨array, member, rfl⟩) (find?_eq_none_iff.mp found)
    | some other =>
      have among := List.mem_of_find?_eq_some found
      have same : other.key = array.key := by simpa using List.find?_some found
      rw [List.inj_on_of_nodup_map table.distinct among member same]

theorem insert_refused_exact {table : DescriptorTable} {descriptor : FieldDescriptor} :
    (table.insert descriptor).2 = .error fault ↔ ∃ first, table.find? descriptor.key = some first ∧
      fault = .parse (.declaredTwice descriptor.key first.line) descriptor.line := by
  cases present : table.find? descriptor.key with
  | some first => simp [insert_present present, eq_comm (b := fault)]
  | none =>
    obtain ⟨larger, inserted, -⟩ := insert_absent present
    simp [inserted]

theorem insert_refused {table : DescriptorTable} {descriptor : FieldDescriptor}
    (refused : (table.insert descriptor).2 = .error fault) : (table.insert descriptor).1 = table := by
  obtain ⟨first, present, -⟩ := insert_refused_exact.mp refused
  rw [insert_present present]

theorem extend_refused_exact {table : DescriptorTable} {descriptor : FieldDescriptor} :
    table.extend descriptor = .error fault ↔ (table.insert descriptor).2 = .error fault := by
  rw [extend]
  rcases table.insert descriptor with ⟨larger, told | -⟩ <;> simp

theorem insert_emptyKey (table : DescriptorTable) (descriptor : FieldDescriptor) :
    (table.insert descriptor).1.emptyKey = table.emptyKey := by
  cases present : table.find? descriptor.key with
  | some first => rw [insert_present present]
  | none =>
    obtain ⟨larger, inserted, kept, -⟩ := insert_absent present
    rw [inserted, kept]

theorem insert_find? (table : DescriptorTable) (descriptor : FieldDescriptor) (key : Text) :
    (table.insert descriptor).1.find? key =
      (table.find? key).or ([descriptor].find? (·.key == key)) := by
  cases present : table.find? descriptor.key with
  | some first =>
    rw [insert_present present]
    by_cases same : descriptor.key = key
    · subst same
      rw [present, Option.some_or]
    · have other : (descriptor.key == key) = false := by simpa using same
      simp [other]
  | none =>
    obtain ⟨larger, inserted, -, added⟩ := insert_absent present
    rw [inserted, find?, added, List.find?_append]
    rfl

theorem offers_emptyKey (table : DescriptorTable) (history : List FieldDescriptor) :
    (history.foldl (fun table descriptor => (table.insert descriptor).1) table).emptyKey =
      table.emptyKey := by
  induction history generalizing table with
  | nil => rfl
  | cons descriptor history ih => rw [List.foldl_cons, ih, insert_emptyKey]

-- Over a whole history the first descriptor of a key stays.
theorem offers_find? (table : DescriptorTable) (history : List FieldDescriptor) (key : Text) :
    (history.foldl (fun table descriptor => (table.insert descriptor).1) table).find? key =
      (table.find? key).or (history.find? (·.key == key)) := by
  induction history generalizing table with
  | nil => simp
  | cons descriptor history ih =>
    rw [List.foldl_cons, ih, insert_find?, Option.or_assoc, ← List.find?_append,
      List.singleton_append]

theorem afterOffers_find? (emptyKey : Text) (history : List FieldDescriptor) (key : Text) :
    (afterOffers emptyKey history).find? key = history.find? (·.key == key) := by
  rw [afterOffers, offers_find?]
  rfl

-- The empty key is never unresolved. It has no labels unless the first array declared under
-- it has some: then it has these.
theorem emptyKey_resolves_exact (emptyKey : Text) (history : List FieldDescriptor) (event : Text) :
    (afterOffers emptyKey history).resolve emptyKey event =
        .ok (((history.find? (·.key == emptyKey)).map (·.fields)).getD []) ∧
      ((afterOffers emptyKey history).resolve emptyKey event = .ok [] ↔
        ∀ first ∈ history.find? (·.key == emptyKey), first.fields = []) := by
  have kept : (afterOffers emptyKey history).emptyKey = emptyKey := offers_emptyKey _ history
  have resolved : (afterOffers emptyKey history).resolve emptyKey event =
      .ok (((history.find? (·.key == emptyKey)).map (·.fields)).getD []) := by
    rw [resolve, afterOffers_find?, kept]
    cases history.find? (·.key == emptyKey) with
    | none => exact if_pos rfl
    | some first => rfl
  refine ⟨resolved, ?_⟩
  rw [resolved]
  cases history.find? (·.key == emptyKey) <;> simp

theorem declared_emptyKey_labels :
    let table := afterOffers "none".toList [⟨"none".toList, 1, ["label".toList]⟩]
    table.resolve "none".toList "Beep".toList = .ok ["label".toList] ∧
      table.resolve "none".toList "Beep".toList ≠ .ok [] := by
  refine ⟨rfl, fun empty => ?_⟩
  cases empty

theorem find?_history_none {history : List FieldDescriptor} {key : Text} :
    history.find? (·.key == key) = none ↔ key ∉ history.map (·.key) := by
  simp [List.find?_eq_none]

theorem keys_offered (emptyKey : Text) (history : List FieldDescriptor) :
    ((afterOffers emptyKey history).descriptors.map (·.key)).Perm (history.map (·.key)).dedup := by
  apply (List.perm_ext_iff_of_nodup (afterOffers emptyKey history).distinct (List.nodup_dedup _)).mpr
  intro key
  rw [List.mem_dedup, ← not_iff_not, ← find?_eq_none_iff, ← find?_history_none, afterOffers_find?]

structure Recalls (emptyKey : Text) (history : List FieldDescriptor) (table : DescriptorTable) :
    Prop where
  size : table.size = (history.map (·.key)).dedup.length
  found : ∀ key, table.find? key = history.find? (·.key == key)
  resolved : ∀ key event, key ≠ emptyKey →
    table.resolve key event = match history.find? (·.key == key) with
      | some first => .ok first.fields
      | none => .error (.unresolvedReference key event)

theorem afterOffers_recalls (emptyKey : Text) (history : List FieldDescriptor) :
    Recalls emptyKey history (afterOffers emptyKey history) := by
  refine ⟨?_, afterOffers_find? emptyKey history, fun key event other => ?_⟩
  · calc (afterOffers emptyKey history).size
        = ((afterOffers emptyKey history).descriptors.map (·.key)).length :=
          (List.length_map _).symm
      _ = (history.map (·.key)).dedup.length := (keys_offered emptyKey history).length_eq
  · have kept : (afterOffers emptyKey history).emptyKey = emptyKey := offers_emptyKey _ history
    rw [resolve, afterOffers_find?, kept]
    cases history.find? (·.key == key) with
    | none => exact if_neg other
    | some first => rfl

theorem insert_refused_known {emptyKey : Text} {history : List FieldDescriptor}
    {descriptor : FieldDescriptor} :
    (∃ fault, ((afterOffers emptyKey history).insert descriptor).2 = .error fault) ↔
      descriptor.key ∈ history.map (·.key) := by
  rw [← not_iff_not, ← find?_history_none, ← afterOffers_find? emptyKey]
  simp only [insert_refused_exact, not_exists, not_and, Option.eq_none_iff_forall_ne_some, ne_eq]
  constructor
  · intro taken first present
    exact taken _ first present rfl
  · intro absent fault first present
    exact absurd present (absent first)

theorem declaredTwice_message (key : Text) (first line : Nat) :
    (Fault.parse (.declaredTwice key first) line).message =
      "Parse error at line ".toList ++ Text.ofNat line ++ ": The array ".toList ++ Json.quote key ++
        " is declared twice (first at line ".toList ++ Text.ofNat first ++ [')'] := by
  have words : ": The array ".toList = ": ".toList ++ "The array ".toList := by decide
  unfold Fault.message ParseCause.message
  simp only [words, List.append_assoc]

-- Over every history of insertions the first descriptor of a key stays and counts. A further one
-- is refused at its own line, which tells the line of the first, and changes nothing.
theorem history_exact (emptyKey : Text) (history : List FieldDescriptor) :
    Recalls emptyKey history (afterOffers emptyKey history) ∧
    ∀ descriptor : FieldDescriptor,
      ((∃ fault, ((afterOffers emptyKey history).insert descriptor).2 = .error fault) ↔
        descriptor.key ∈ history.map (·.key)) ∧
      ∀ fault, ((afterOffers emptyKey history).insert descriptor).2 = .error fault →
        afterOffers emptyKey (history ++ [descriptor]) = afterOffers emptyKey history ∧
        ∃ first, history.find? (·.key == descriptor.key) = some first ∧
          fault = .parse (.declaredTwice descriptor.key first.line) descriptor.line ∧
          fault.message = "Parse error at line ".toList ++ Text.ofNat descriptor.line ++
            ": The array ".toList ++ Json.quote descriptor.key ++
            " is declared twice (first at line ".toList ++ Text.ofNat first.line ++ [')'] := by
  refine ⟨afterOffers_recalls emptyKey history, fun descriptor => ⟨insert_refused_known, ?_⟩⟩
  intro fault refused
  constructor
  · calc afterOffers emptyKey (history ++ [descriptor])
        = ((afterOffers emptyKey history).insert descriptor).1 := List.foldl_concat ..
      _ = afterOffers emptyKey history := insert_refused refused
  · obtain ⟨first, found, rfl⟩ := insert_refused_exact.mp refused
    rw [afterOffers_find?] at found
    exact ⟨first, found, rfl, declaredTwice_message descriptor.key first.line descriptor.line⟩

theorem second_declaration_refused :
    let history : List FieldDescriptor :=
      [⟨"join".toList, 1, ["nick".toList]⟩, ⟨"part".toList, 4, []⟩]
    ∃ fault, ((afterOffers "none".toList history).insert ⟨"join".toList, 7, []⟩).2 = .error fault ∧
      fault.message =
        "Parse error at line 7: The array \"join\" is declared twice (first at line 1)".toList := by
  intro history
  obtain ⟨-, steps⟩ := history_exact "none".toList history
  obtain ⟨known, told⟩ := steps ⟨"join".toList, 7, []⟩
  obtain ⟨fault, refused⟩ := known.mpr (by decide)
  obtain ⟨-, first, found, -, message⟩ := told fault refused
  cases found
  exact ⟨fault, refused, message.trans (by decide)⟩

end DescriptorTable
end PluginBindings
