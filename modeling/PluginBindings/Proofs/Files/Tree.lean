import PluginBindings.Files.Tree
import PluginBindings.Proofs.Report.Reading
import PluginBindings.Proofs.Text.Cut

namespace PluginBindings
namespace FileTree

theorem lookup_filter_other {place other : Location} {entries : List (Location × Entry)}
    (differs : other ≠ place) :
    (entries.filter (·.1 != place)).lookup other = entries.lookup other := by
  induction entries with
  | nil => rfl
  | cons row entries ih =>
    obtain ⟨key, entry⟩ := row
    by_cases same : key = place
    · subst same
      have absent : (other == key) = false := by simpa using differs
      simpa [List.lookup_cons, absent] using ih
    · have kept : (key != place) = true := by simpa using same
      simp only [List.filter_cons, kept, if_true, List.lookup_cons, ih]

theorem find?_put_same {tree : FileTree} {place : Location} (below : place ≠ []) (entry : Entry) :
    (tree.put place entry).find? place = some entry := by
  rw [find?, if_neg below, put, List.lookup_cons_self]

theorem find?_put_other {tree : FileTree} {place other : Location} (differs : other ≠ place)
    (entry : Entry) : (tree.put place entry).find? other = tree.find? other := by
  have absent : (other == place) = false := by simpa using differs
  simp only [find?, put, List.lookup_cons, absent, lookup_filter_other differs]

theorem find?_absent {tree : FileTree} {place : Location} (below : place ≠ [])
    (absent : place ∉ tree.entries.map (·.1)) : tree.find? place = none := by
  rw [find?, if_neg below, List.lookup_eq_none_iff]
  intro row member
  rw [bne_iff_ne]
  rintro rfl
  exact absent (List.mem_map_of_mem member)

-- A file that was prepared at a place of its own leaves no trace when it is moved away.
theorem move_put {tree : FileTree} {prepared : Location} (below : prepared ≠ [])
    (absent : prepared ∉ tree.entries.map (·.1)) (entry : Entry) (place : Location) :
    (tree.put prepared entry).move prepared place = tree.put place entry := by
  rw [move, find?_put_same below]
  dsimp only
  rw [remove_put tree prepared entry absent]

-- A name that a file can have.
def Proper (name : Text) : Prop := name ≠ [] ∧ name ≠ ['.'] ∧ name ≠ ['.', '.']

inductive Leads (tree : FileTree) (place : Location) : Text → Location → Prop where
  | stay (directory : tree.find? place = some .directory) (stays : name = [] ∨ name = ['.']) :
      Leads tree place name place
  | up (directory : tree.find? place = some .directory) :
      Leads tree place ['.', '.'] place.dropLast
  | down (directory : tree.find? place = some .directory) (proper : Proper name)
      (taken : (tree.find? (place ++ [name])).isSome = true) :
      Leads tree place name (place ++ [name])

theorem step_exact {tree : FileTree} {place next : Location} {name : Text} :
    tree.step place name = .ok next ↔ Leads tree place name next := by
  constructor
  · intro stepped
    unfold step at stepped
    split at stepped
    · cases stepped
    · cases stepped
    · rename_i directory
      split at stepped
      · rename_i stays
        cases stepped
        exact .stay directory (by simpa using stays)
      · rename_i moves
        split at stepped
        · rename_i up
          subst up
          cases stepped
          exact .up directory
        · rename_i down
          split at stepped
          · rename_i taken
            cases stepped
            have moves : name ≠ [] ∧ name ≠ ['.'] := by simpa using moves
            exact .down directory ⟨moves.1, moves.2, down⟩ taken
          · cases stepped
  · intro leads
    unfold step
    cases leads with
    | stay directory stays =>
      rw [directory]
      exact if_pos (by simpa using stays)
    | up directory =>
      rw [directory]
      rfl
    | down directory proper taken =>
      obtain ⟨full, dot, dots⟩ := proper
      rw [directory]
      simp [full, dot, dots, taken]

theorem leads_directory {tree : FileTree} {place next : Location} {name : Text}
    (leads : Leads tree place name next) : tree.find? place = some .directory := by
  cases leads <;> assumption

-- Only directories lie on the way to a directory, whatever files a tree holds.
theorem steps_agree {tree other : FileTree} {names : List Text} {place last : Location}
    (directories : ∀ place, tree.find? place = some .directory →
      other.find? place = some .directory)
    (reached : names.foldlM tree.step place = .ok last)
    (directory : tree.find? last = some .directory) : names.foldlM other.step place = .ok last := by
  induction names generalizing place with
  | nil => exact reached
  | cons name names ih =>
    rw [List.foldlM_cons, ok_bind_exact] at reached ⊢
    obtain ⟨next, stepped, later⟩ := reached
    refine ⟨next, step_exact.mpr ?_, ih later⟩
    have onward : tree.find? next = some .directory := by
      cases names with
      | nil =>
        cases later
        exact directory
      | cons name names =>
        rw [List.foldlM_cons, ok_bind_exact] at later
        obtain ⟨_, stepped, -⟩ := later
        exact leads_directory (step_exact.mp stepped)
    cases step_exact.mp stepped with
    | stay directory stays => exact .stay (directories _ directory) stays
    | up directory => exact .up (directories _ directory)
    | down directory proper _ =>
      exact .down (directories _ directory) proper (by rw [directories _ onward]; rfl)

theorem follow_exact {tree : FileTree} {place last : Location} {names : List Text} :
    tree.follow place names = .ok last ↔
      (∀ name ∈ names, '\x00' ∉ name) ∧ names.foldlM tree.step place = .ok last := by
  unfold follow
  split
  · rename_i nulls
    obtain ⟨name, member, null⟩ := List.any_eq_true.mp nulls
    simp only [reduceCtorEq, false_iff, not_and]
    exact fun plain => absurd (by simpa using null) (plain name member)
  · rename_i plain
    have plain : ∀ name ∈ names, '\x00' ∉ name := by simpa using plain
    exact ⟨fun reached => ⟨plain, reached⟩, fun reached => reached.2⟩

theorem followDirectory_exact {tree : FileTree} {place last : Location} {names : List Text} :
    tree.followDirectory place names = .ok last ↔
      tree.follow place names = .ok last ∧ tree.find? last = some .directory := by
  unfold followDirectory
  rw [ok_bind_exact]
  constructor
  · rintro ⟨reached, followed, kept⟩
    split at kept
    · rename_i directory
      cases kept
      exact ⟨followed, directory⟩
    · cases kept
  · rintro ⟨followed, directory⟩
    refine ⟨last, followed, ?_⟩
    rw [directory]
    rfl

theorem followDirectory_agrees {tree other : FileTree} {place last : Location} {names : List Text}
    (directories : ∀ place, tree.find? place = some .directory →
      other.find? place = some .directory)
    (reached : tree.followDirectory place names = .ok last) :
    other.followDirectory place names = .ok last := by
  obtain ⟨followed, directory⟩ := followDirectory_exact.mp reached
  obtain ⟨plain, steps⟩ := follow_exact.mp followed
  exact followDirectory_exact.mpr ⟨follow_exact.mpr ⟨plain, steps_agree directories steps directory⟩,
    directories last directory⟩

end FileTree
end PluginBindings
