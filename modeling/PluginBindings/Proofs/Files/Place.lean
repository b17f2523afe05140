import PluginBindings.Proofs.Files.Output

namespace PluginBindings
namespace FileTree

def beside (directory : Location) (name : Text) : Location :=
  if name = [] ∨ name = ['.'] then directory
  else if name = ['.', '.'] then directory.dropLast
  else directory ++ [name]

-- Whether or not anything is there yet: only the directories on the way have to be.
def locate (tree : FileTree) (path : Text) : Except AccessKind Location := do
  let directory ← tree.followDirectory (tree.start path) (names path).dropLast
  return beside directory ((names path).getLast (names_nonempty path))

theorem names_split (path : Text) : ∃ front name, names path = front ++ [name] :=
  ⟨_, _, (List.dropLast_concat_getLast (names_nonempty path)).symm⟩

theorem locate_exact {tree : FileTree} {path : Text} {place : Location} :
    tree.locate path = .ok place ↔ ∃ front name directory, names path = front ++ [name] ∧
      tree.followDirectory (tree.start path) front = .ok directory ∧
      place = beside directory name := by
  unfold locate
  rw [ok_bind_exact]
  constructor
  · intro located
    obtain ⟨directory, found, last⟩ := located
    cases last
    exact ⟨_, _, directory, (List.dropLast_concat_getLast (names_nonempty path)).symm, found, rfl⟩
  · intro leads
    obtain ⟨front, name, directory, split, found, rfl⟩ := leads
    simp only [split, List.dropLast_concat, List.getLast_concat]
    exact ⟨directory, found, rfl⟩

theorem leads_beside {tree : FileTree} {place next : Location} {name : Text}
    (leads : Leads tree place name next) : next = beside place name := by
  unfold beside
  cases leads with
  | stay _ stays => rw [if_pos stays]
  | up => rfl
  | down _ proper _ =>
    obtain ⟨full, dot, dots⟩ := proper
    rw [if_neg (not_or.mpr ⟨full, dot⟩), if_neg dots]

theorem aims_located (aims : Aims tree path place) : tree.locate path = .ok place := by
  obtain ⟨split, ⟨full, dot, dots⟩, -, found, -⟩ := aims
  refine locate_exact.mpr ⟨_, _, _, split, found, ?_⟩
  rw [beside, if_neg (not_or.mpr ⟨full, dot⟩), if_neg dots]

theorem follow_last {tree : FileTree} {place last : Location} {front : List Text} {name : Text} :
    tree.follow place (front ++ [name]) = .ok last ↔
      ∃ directory, tree.followDirectory place front = .ok directory ∧ '\x00' ∉ name ∧
        Leads tree directory name last := by
  simp only [follow_exact, followDirectory_exact, List.foldlM_append, ok_bind_exact,
    List.foldlM_cons, List.foldlM_nil, step_exact, List.forall_mem_append, List.forall_mem_singleton]
  constructor
  · intro followed
    obtain ⟨⟨plain, last⟩, directory, steps, next, leads, same⟩ := followed
    cases same
    exact ⟨directory, ⟨⟨plain, steps⟩, leads_directory leads⟩, last, leads⟩
  · intro leads
    obtain ⟨directory, ⟨⟨plain, steps⟩, -⟩, last, leads⟩ := leads
    exact ⟨⟨plain, last⟩, directory, steps, _, leads, rfl⟩

theorem read_exact {tree : FileTree} {path : Text} {contents : ByteArray} :
    tree.read path = .ok contents ↔ path ≠ [] ∧ ∃ place,
      tree.follow (tree.start path) (names path) = .ok place ∧
      tree.find? place = some (.file contents) := by
  unfold read
  by_cases empty : path = []
  · rw [if_pos empty]
    refine iff_of_false nofun fun read => ?_
    exact read.1 empty
  · rw [if_neg empty, ok_bind_exact, and_iff_right empty]
    refine exists_congr fun place => and_congr_right fun _ => ?_
    constructor
    · intro read
      split at read
      · rename_i stands
        cases read
        exact stands
      · cases read
    · intro stands
      rw [stands]
      rfl

theorem readText_exact {tree : FileTree} {path text : Text} :
    tree.readText path = .ok text ↔ ∃ contents string, tree.read path = .ok contents ∧
      String.fromUTF8? contents = some string ∧ text = string.toList := by
  unfold readText
  rw [ok_bind_exact]
  refine exists_congr fun contents => ?_
  constructor
  · intro read
    obtain ⟨found, decoded⟩ := read
    split at decoded
    · rename_i string whole
      cases decoded
      exact ⟨string, found, whole, rfl⟩
    · cases decoded
  · intro read
    obtain ⟨string, found, whole, rfl⟩ := read
    refine ⟨found, ?_⟩
    rw [whole]
    rfl

theorem replaced_directories (replaced : Replaced tree place contents after) :
    SameDirectories tree after := by
  refine ⟨replaced.base.symm, fun other => ?_⟩
  by_cases same : other = place
  · subst same
    rw [replaced.stands]
    exact iff_of_false replaced.free nofun
  · rw [replaced.others other same]

theorem SameDirectories.start (same : SameDirectories tree other) (path : Text) :
    other.start path = tree.start path := by
  rw [FileTree.start, FileTree.start, same.1]

theorem SameDirectories.found (same : SameDirectories tree other) {place last : Location}
    {names : List Text} (found : tree.followDirectory place names = .ok last) :
    other.followDirectory place names = .ok last :=
  followDirectory_agrees (fun place => (same.2 place).mp) found

theorem SameDirectories.trans (first : SameDirectories tree middle)
    (second : SameDirectories middle after) : SameDirectories tree after :=
  ⟨first.1.trans second.1, fun place => (first.2 place).trans (second.2 place)⟩

theorem located_agrees (same : SameDirectories tree other)
    (located : tree.locate path = .ok place) :
    other.locate path = .ok place := by
  obtain ⟨front, name, directory, split, found, leads⟩ := locate_exact.mp located
  exact locate_exact.mpr ⟨front, name, directory, split, same.start path ▸ same.found found, leads⟩

-- Whatever is written at `output`, it is not written over what `path` leads to.
def Apart (tree : FileTree) (output path : Text) : Prop :=
  ∀ place, Aims tree output place → tree.locate path ≠ .ok place

theorem apart_located {tree : FileTree} {output path : Text}
    (differs : tree.locate output ≠ tree.locate path) : Apart tree output path :=
  fun _ aims located => differs ((aims_located aims).trans located.symm)

theorem apart_agrees (same : SameDirectories tree other) (apart : Apart tree output path) :
    Apart other output path :=
  fun place aims located =>
    apart place (aims_agree same.symm aims) (located_agrees same.symm located)

-- The way to a file leads through directories, so no other file that is replaced is on it.
theorem followed_kept (replaced : Replaced tree place contents after)
    (followed : tree.follow (tree.start path) (names path) = .ok last) (other : last ≠ place) :
    after.follow (after.start path) (names path) = .ok last := by
  have same := replaced_directories replaced
  obtain ⟨front, name, split⟩ := names_split path
  rw [split, follow_last] at followed ⊢
  obtain ⟨directory, found, plain, leads⟩ := followed
  have onward : after.find? directory = some .directory :=
    (same.2 directory).mp (leads_directory leads)
  refine ⟨directory, same.start path ▸ same.found found, plain, ?_⟩
  cases leads with
  | stay _ stays => exact .stay onward stays
  | up => exact .up onward
  | down _ proper taken => exact .down onward proper (by rw [replaced.others _ other]; exact taken)

theorem followed_located {tree : FileTree} {path : Text} {place : Location}
    (followed : tree.follow (tree.start path) (names path) = .ok place) :
    tree.locate path = .ok place := by
  obtain ⟨front, name, split⟩ := names_split path
  rw [split, follow_last] at followed
  obtain ⟨directory, found, -, leads⟩ := followed
  exact locate_exact.mpr ⟨_, _, directory, split, found, leads_beside leads⟩

theorem read_kept (replaced : Replaced tree place contents after)
    (read : tree.read path = .ok found) (other : tree.locate path ≠ .ok place) :
    after.read path = .ok found := by
  obtain ⟨nonempty, last, followed, stands⟩ := read_exact.mp read
  have differs : last ≠ place := fun same => other (same ▸ followed_located followed)
  refine read_exact.mpr ⟨nonempty, last, followed_kept replaced followed differs, ?_⟩
  rw [replaced.others last differs]
  exact stands

theorem readText_kept (replaced : Replaced tree place contents after)
    (read : tree.readText path = .ok text) (other : tree.locate path ≠ .ok place) :
    after.readText path = .ok text := by
  obtain ⟨found, string, read, decoded, same⟩ := readText_exact.mp read
  exact readText_exact.mpr ⟨found, string, read_kept replaced read other, decoded, same⟩

end FileTree
end PluginBindings
