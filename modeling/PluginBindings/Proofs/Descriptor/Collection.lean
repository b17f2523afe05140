import PluginBindings.Proofs.Descriptor.Table

namespace PluginBindings
namespace DescriptorTable

inductive EndsAt (arrays : List FieldDescriptor) : Except Fault FieldDescriptor → Fault → Prop where
  | unread (fault : Fault) : EndsAt arrays (.error fault) fault
  | again {array first : FieldDescriptor} (earlier : first ∈ arrays) (same : first.key = array.key) :
      EndsAt arrays (.ok array) (.parse (.declaredTwice array.key first.line) array.line)

theorem extendAll_empty_exact {emptyKey : Text} {arrays : List FieldDescriptor}
    {table : DescriptorTable} :
    arrays.foldlM extend (empty emptyKey) = .ok table ↔
      table.emptyKey = emptyKey ∧ table.descriptors = arrays :=
  extendAll_exact

theorem extendAll_distinct (emptyKey : Text) {arrays : List FieldDescriptor} :
    (∃ table, arrays.foldlM extend (empty emptyKey) = .ok table) ↔ (arrays.map (·.key)).Nodup := by
  constructor
  · intro inserted
    obtain ⟨table, inserted⟩ := inserted
    obtain ⟨-, rows⟩ := extendAll_empty_exact.mp inserted
    rw [← rows]
    exact table.distinct
  · intro distinct
    exact ⟨⟨emptyKey, arrays, distinct⟩, extendAll_empty_exact.mpr ⟨rfl, rfl⟩⟩

theorem endsAt_exact {table : DescriptorTable} {item : Except Fault FieldDescriptor} :
    item >>= table.extend = .error fault ↔ EndsAt table.descriptors item fault := by
  rw [error_bind_exact]
  constructor
  · intro refused
    rcases refused with rfl | ⟨array, rfl, refused⟩
    · exact .unread fault
    · obtain ⟨first, found, rfl⟩ := insert_refused_exact.mp (extend_refused_exact.mp refused)
      obtain ⟨earlier, same⟩ := find?_some_exact.mp found
      exact .again earlier same
  · intro ends
    cases ends with
    | unread fault => exact .inl rfl
    | again earlier same =>
      refine .inr ⟨_, rfl, extend_refused_exact.mpr (insert_refused_exact.mpr ?_)⟩
      exact ⟨_, find?_some_exact.mpr ⟨earlier, same⟩, rfl⟩

-- The collector gives a table exactly where the reader gives arrays alone, under keys of their own,
-- and then it has each of them and nothing else. Else the first item that is fatal decides.
theorem collected_exact (text : Text) (header : Nat) (emptyKey : Text) :
    ((∃ table, (ofText text header emptyKey).result = .ok table) ↔
      ∃ arrays : List FieldDescriptor, (Descriptor.read text header).items = arrays.map .ok ∧
        (arrays.map (·.key)).Nodup) ∧
    (∀ table, (ofText text header emptyKey).result = .ok table →
      table.emptyKey = emptyKey ∧ table.size = (Descriptor.read text header).items.length ∧
      (∀ array, .ok array ∈ (Descriptor.read text header).items →
        table.find? array.key = some array) ∧
      ∀ key, (∀ array, .ok array ∈ (Descriptor.read text header).items → array.key ≠ key) →
        table.find? key = none) ∧
    ∀ fault, (ofText text header emptyKey).result = .error fault ↔
      ∃ (arrays : List FieldDescriptor) (item : Except Fault FieldDescriptor)
        (later : List (Except Fault FieldDescriptor)),
        (Descriptor.read text header).items = arrays.map .ok ++ item :: later ∧
          (arrays.map (·.key)).Nodup ∧ EndsAt arrays item fault := by
  unfold ofText
  refine ⟨⟨?_, ?_⟩, fun table collected => ?_, fun fault => ⟨?_, ?_⟩⟩
  · intro collected
    obtain ⟨table, collected⟩ := collected
    obtain ⟨arrays, read, inserted⟩ := Reading.foldInto_ok_exact.mp collected
    exact ⟨arrays, read, (extendAll_distinct emptyKey).mp ⟨table, inserted⟩⟩
  · intro distinct
    obtain ⟨arrays, read, distinct⟩ := distinct
    obtain ⟨table, inserted⟩ := (extendAll_distinct emptyKey).mpr distinct
    exact ⟨table, Reading.foldInto_ok_exact.mpr ⟨arrays, read, inserted⟩⟩
  · obtain ⟨arrays, read, inserted⟩ := Reading.foldInto_ok_exact.mp collected
    obtain ⟨kept, rfl⟩ := extendAll_empty_exact.mp inserted
    have among : ∀ array, .ok array ∈ (Descriptor.read text header).items ↔
        array ∈ table.descriptors := fun array => by simp [read]
    refine ⟨kept, ?_, fun array member => ?_, fun key other => ?_⟩
    · rw [read, List.length_map]
      rfl
    · exact find?_some_exact.mpr ⟨(among array).mp member, rfl⟩
    · apply find?_eq_none_iff.mpr
      intro member
      obtain ⟨array, member, same⟩ := List.mem_map.mp member
      exact other array ((among array).mpr member) same
  · intro stopped
    obtain ⟨arrays, item, later, table, read, inserted, refused⟩ :=
      Reading.foldInto_error_exact.mp stopped
    have distinct := (extendAll_distinct emptyKey).mp ⟨table, inserted⟩
    obtain ⟨-, rfl⟩ := extendAll_empty_exact.mp inserted
    exact ⟨table.descriptors, item, later, read, distinct, endsAt_exact.mp refused⟩
  · intro ended
    obtain ⟨arrays, item, later, read, distinct, ends⟩ := ended
    obtain ⟨table, inserted⟩ := (extendAll_distinct emptyKey).mpr distinct
    obtain ⟨-, rfl⟩ := extendAll_empty_exact.mp inserted
    exact Reading.foldInto_error_exact.mpr
      ⟨table.descriptors, item, later, table, read, inserted, endsAt_exact.mpr ends⟩

theorem repeated_key_before_fault :
    let text := "char *a[] = \x7b\n\x7d;\nchar *a[] = \x7b\n\x7d;\noops\n".toList
    (ofText text 0 "none".toList).result = .error (.parse (.declaredTwice "a".toList 1) 3) := by
  intro text
  have read : (Descriptor.read text 0).items = [⟨"a".toList, 1, []⟩].map .ok ++
      .ok ⟨"a".toList, 3, []⟩ :: [.error (.parse (.noDeclaration "oops".toList) 5)] := by
    decide +kernel
  obtain ⟨-, -, stops⟩ := collected_exact text 0 "none".toList
  apply (stops _).mpr
  exact ⟨_, _, _, read, List.nodup_singleton _, .again List.mem_cons_self rfl⟩

end DescriptorTable
end PluginBindings
