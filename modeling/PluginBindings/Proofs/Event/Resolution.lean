import PluginBindings.Event.Registration
import PluginBindings.Proofs.Descriptor.Collection

namespace PluginBindings
namespace DescriptorTable

-- A key is found by what is declared under it, wherever in the table that stands.
theorem find?_alike {table other : DescriptorTable} {key : Text}
    (alike : ∀ array, array.key = key → (array ∈ other.descriptors ↔ array ∈ table.descriptors)) :
    other.find? key = table.find? key := by
  apply Option.ext
  intro array
  rw [find?_some_exact, find?_some_exact]
  exact and_congr_left (alike array)

theorem resolve_alike {table other : DescriptorTable} {key : Text}
    (kept : other.emptyKey = table.emptyKey)
    (alike : ∀ array, array.key = key → (array ∈ other.descriptors ↔ array ∈ table.descriptors))
    (event : Text) : other.resolve key event = table.resolve key event := by
  rw [resolve, resolve, find?_alike alike, kept]

end DescriptorTable

theorem registerEvents_alike {specs : List EventSpec} {table other : DescriptorTable}
    (alike : ∀ spec ∈ specs, other.resolve spec.fieldsKey spec.name =
      table.resolve spec.fieldsKey spec.name) :
    registerEvents specs other = registerEvents specs table := by
  have events : ∀ spec ∈ specs, ResolvedEvent.ofSpec other spec = ResolvedEvent.ofSpec table spec := by
    intro spec member
    rw [ResolvedEvent.ofSpec, ResolvedEvent.ofSpec, alike spec member]
  rw [registerEvents, registerEvents, mapM_alike events]

-- The order in which arrays are declared does not matter, nor what is declared besides for no
-- event: the same lines come out, or the same fault.
theorem arrangement_immaterial {specs : List EventSpec}
    {descriptors others arranged : List FieldDescriptor} (emptyKey : Text)
    (distinct : ((descriptors ++ others).map (·.key)).Nodup)
    (unused : ∀ array ∈ others, ∀ spec ∈ specs, spec.fieldsKey ≠ array.key)
    (perm : arranged.Perm (descriptors ++ others)) :
    ∃ table table',
      descriptors.foldlM DescriptorTable.extend (.empty emptyKey) = .ok table ∧
      arranged.foldlM DescriptorTable.extend (.empty emptyKey) = .ok table' ∧
      registerEvents specs table' = registerEvents specs table := by
  have alone : (descriptors.map (·.key)).Nodup := by
    rw [List.map_append] at distinct
    exact distinct.of_append_left
  have together : (arranged.map (·.key)).Nodup := (perm.map _).nodup_iff.mpr distinct
  refine ⟨⟨emptyKey, descriptors, alone⟩, ⟨emptyKey, arranged, together⟩,
    DescriptorTable.extendAll_empty_exact.mpr ⟨rfl, rfl⟩,
    DescriptorTable.extendAll_empty_exact.mpr ⟨rfl, rfl⟩, ?_⟩
  apply registerEvents_alike
  intro spec member
  apply DescriptorTable.resolve_alike
  · rfl
  · intro array same
    rw [perm.mem_iff, List.mem_append]
    constructor
    · intro among
      rcases among with among | stray
      · exact among
      · exact absurd same.symm (unused array stray spec member)
    · exact .inl

theorem later_array_rearranged :
    let join : FieldDescriptor := ⟨"join_help".toList, 1, ["Nick".toList]⟩
    let part : FieldDescriptor := ⟨"part_help".toList, 4, ["Reason".toList]⟩
    let specs : List EventSpec := [⟨"Join".toList, 1, [], "join_help".toList, "%s".toList, []⟩]
    ∃ table table',
      [join].foldlM DescriptorTable.extend (.empty "none".toList) = .ok table ∧
      [part, join].foldlM DescriptorTable.extend (.empty "none".toList) = .ok table' ∧
      registerEvents specs table' = registerEvents specs table := by
  intro join part specs
  have distinct : (([join] ++ [part]).map (·.key)).Nodup := by decide
  have unused : ∀ array ∈ [part], ∀ spec ∈ specs, spec.fieldsKey ≠ array.key := by decide
  exact arrangement_immaterial "none".toList distinct unused (List.Perm.swap join part [])

end PluginBindings
