import PluginBindings.Command.Run
import PluginBindings.Proofs.Files.Place

namespace PluginBindings
namespace FileTree

-- Whatever stands somewhere stands in a directory.
def Nested (tree : FileTree) : Prop :=
  ∀ place entry, tree.find? place = some entry → tree.find? place.dropLast = some .directory

theorem nested_rows {tree : FileTree}
    (within : ∀ row ∈ tree.entries, tree.find? row.1.dropLast = some .directory) : tree.Nested := by
  intro place entry stands
  by_cases top : place = []
  · rw [top]
    rfl
  · rw [find?, if_neg top] at stands
    obtain ⟨front, later, split, -⟩ := List.lookup_eq_some_iff.mp stands
    exact within (place, entry) (by simp [split])

inductive Walk (tree : FileTree) : Location → List Text → Location → Prop where
  | done : Walk tree place [] place
  | next {names : List Text} (leads : Leads tree place name middle)
      (later : Walk tree middle names last) : Walk tree place (name :: names) last

theorem walk_exact {tree : FileTree} {place last : Location} {names : List Text} :
    names.foldlM tree.step place = .ok last ↔ Walk tree place names last := by
  induction names generalizing place with
  | nil =>
    constructor
    · intro reached
      cases reached
      exact .done
    · intro walk
      cases walk
      rfl
  | cons name names ih =>
    simp only [List.foldlM_cons, ok_bind_exact, ih, step_exact]
    constructor
    · intro reached
      obtain ⟨middle, leads, later⟩ := reached
      exact .next leads later
    · intro walk
      cases walk with
      | next leads later => exact ⟨_, leads, later⟩

theorem leads_taken {tree : FileTree} (nested : tree.Nested)
    (leads : Leads tree place name next) : tree.find? next ≠ none := by
  cases leads with
  | stay directory => simp [directory]
  | up directory => simp [nested _ _ directory]
  | down _ _ taken => exact Option.isSome_iff_ne_none.mp taken

theorem walk_taken {tree : FileTree} {names : List Text} (nested : tree.Nested)
    (walk : Walk tree place names last) (taken : tree.find? place ≠ none) : tree.find? last ≠ none := by
  induction walk with
  | done => exact taken
  | next leads _ ih => exact ih (leads_taken nested leads)

-- What a path names, wherever its directories and dots lead on the way.
def Names (tree : FileTree) (path : Text) (entry : Entry) : Prop :=
  path ≠ [] ∧ '\x00' ∉ path ∧
    ∃ place, Walk tree (tree.start path) (names path) place ∧ tree.find? place = some entry

-- An empty path has no name to look for, and no path is followed from a place that is gone.
inductive Missing (tree : FileTree) (path : Text) : Prop where
  | empty (empty : path = [])
  | gone (plain : '\x00' ∉ path) (absent : tree.find? (tree.start path) = none)
  | untaken (plain : '\x00' ∉ path) (split : names path = front ++ name :: later)
      (walk : Walk tree (tree.start path) front directory)
      (stands : tree.find? directory = some .directory) (proper : Proper name)
      (absent : tree.find? (directory ++ [name]) = none)

theorem names_plain {path : Text} : (∀ name ∈ names path, '\x00' ∉ name) ↔ '\x00' ∉ path := by
  constructor
  · intro plain null
    obtain ⟨name, member, inside⟩ : ∃ name ∈ names path, '\x00' ∈ name :=
      Text.pieces_cover null (by decide)
    exact plain name member inside
  · intro plain name member null
    exact plain (Text.pieces_subset member null)

theorem read_names {tree : FileTree} {path : Text} {contents : ByteArray} :
    tree.read path = .ok contents ↔ Names tree path (.file contents) := by
  simp only [read_exact, follow_exact, walk_exact, names_plain, Names, exists_and_left, and_assoc]

theorem step_missing {tree : FileTree} {place : Location} {name : Text} :
    tree.step place name = .error .notFound ↔ tree.find? place = none ∨
      (tree.find? place = some .directory ∧ Proper name ∧ tree.find? (place ++ [name]) = none) := by
  unfold step
  cases stands : tree.find? place with
  | none => simp
  | some entry =>
    cases entry with
    | file contents => simp
    | directory =>
      by_cases stays : name = [] ∨ name = ['.']
      · have checked : (decide (name = []) || decide (name = ['.'])) = true := by simpa using stays
        simp only [checked, if_true, reduceCtorEq, false_or, false_iff, not_and]
        intro _ proper
        exact absurd stays (not_or.mpr ⟨proper.1, proper.2.1⟩)
      · have checked : (decide (name = []) || decide (name = ['.'])) = false := by simpa using stays
        by_cases up : name = ['.', '.']
        · simp [up, Proper]
        · obtain ⟨full, dot⟩ := not_or.mp stays
          cases next : tree.find? (place ++ [name]) <;> simp [full, dot, up, Proper]

theorem follow_missing {tree : FileTree} {place : Location} {names : List Text} :
    tree.follow place names = .error .notFound ↔ (∀ name ∈ names, '\x00' ∉ name) ∧
      ∃ front name later directory, names = front ++ name :: later ∧
        Walk tree place front directory ∧ tree.step directory name = .error .notFound := by
  unfold follow
  split
  · rename_i nulls
    obtain ⟨name, member, null⟩ := List.any_eq_true.mp nulls
    exact iff_of_false nofun fun stopped => stopped.1 name member (by simpa using null)
  · rename_i plain
    rw [and_iff_right (by simpa using plain), foldlM_error_exact]
    simp only [walk_exact]

theorem names_missing {tree : FileTree} {path : Text} (nested : tree.Nested)
    (nonempty : path ≠ []) :
    tree.follow (tree.start path) (names path) = .error .notFound ↔ Missing tree path := by
  rw [follow_missing, names_plain]
  constructor
  · intro stopped
    obtain ⟨plain, front, name, later, directory, split, walk, refused⟩ := stopped
    rcases step_missing.mp refused with absent | ⟨stands, proper, absent⟩
    -- no step leads to a place that is not taken, so the first one was not
    · refine .gone plain (Decidable.byContradiction fun taken => ?_)
      exact walk_taken nested walk taken absent
    · exact .untaken plain split walk stands proper absent
  · intro missing
    cases missing with
    | empty empty => exact absurd empty nonempty
    | gone plain absent =>
      obtain ⟨name, later, split⟩ := List.exists_cons_of_ne_nil (names_nonempty path)
      exact ⟨plain, [], name, later, _, split, .done, step_missing.mpr (.inl absent)⟩
    | untaken plain split walk stands proper absent =>
      exact ⟨plain, _, _, _, _, split, walk, step_missing.mpr (.inr ⟨stands, proper, absent⟩)⟩

theorem read_missing {tree : FileTree} (nested : tree.Nested) (path : Text) :
    tree.read path = .error .notFound ↔ Missing tree path := by
  unfold read
  by_cases empty : path = []
  · rw [if_pos empty]
    exact iff_of_true rfl (.empty empty)
  · rw [if_neg empty, error_bind_exact, names_missing nested empty]
    refine or_iff_left fun found => ?_
    obtain ⟨place, -, refused⟩ := found
    split at refused <;> cases refused

theorem names_aims {tree : FileTree} (nested : tree.Nested)
    (named : Names tree path (.file contents)) :
    ∃ place, Aims tree path place ∧ tree.find? place = some (.file contents) := by
  obtain ⟨nonempty, plain, place, walk, stands⟩ := named
  obtain ⟨front, name, split⟩ := names_split path
  have followed : tree.follow (tree.start path) (front ++ [name]) = .ok place := by
    rw [← split]
    exact follow_exact.mpr ⟨names_plain.mpr plain, walk_exact.mpr walk⟩
  obtain ⟨directory, found, -, leads⟩ := follow_last.mp followed
  cases leads with
  | stay stays =>
    rw [stands] at stays
    cases stays
  | up stays =>
    rw [nested _ _ stays] at stands
    cases stands
  | down _ proper _ =>
    refine ⟨_, .below split proper plain found ?_, stands⟩
    rw [stands]
    nofun

end FileTree

namespace Output

open FileTree

-- An output is out of date when there is none yet, or when its file holds another text.
def OutOfDate (tree : FileTree) (path text : Text) : Prop :=
  Missing tree path ∨ ∃ contents found, Names tree path (.file contents) ∧
    String.fromUTF8? contents = some found ∧ found.toList ≠ text

theorem compare_current {found : Except AccessKind Text} {path text : Text} :
    (compare found path text).result = .ok () ↔ found = .ok text := by
  unfold compare
  split
  · split
    · rename_i same
      exact iff_of_true rfl (by rw [same])
    · rename_i other
      refine iff_of_false nofun fun same => ?_
      cases same
      exact other rfl
  · exact iff_of_false nofun nofun
  · exact iff_of_false nofun nofun

theorem compare_stale {found : Except AccessKind Text} {path text : Text} :
    (compare found path text).result = .error (.staleOutput path) ↔
      found = .error .notFound ∨ ∃ other, found = .ok other ∧ other ≠ text := by
  unfold compare
  split
  · split
    · rename_i same
      refine iff_of_false nofun fun stale => ?_
      rcases stale with missing | ⟨other, found, differs⟩
      · cases missing
      · cases found
        exact differs same
    · rename_i other
      exact iff_of_true rfl (.inr ⟨_, rfl, other⟩)
  · exact iff_of_true rfl (.inl rfl)
  · rename_i missing
    refine iff_of_false nofun fun stale => ?_
    rcases stale with missing' | ⟨other, found, -⟩
    · cases missing'
      exact missing rfl
    · cases found

theorem compare_fault {found : Except AccessKind Text} {path text : Text} {fault : Fault}
    (failed : (compare found path text).result = .error fault) :
    fault = .staleOutput path ∨ ∃ kind, fault = .access kind := by
  unfold compare at failed
  split at failed
  · split at failed
    · cases failed
    · cases failed
      exact .inl rfl
  · cases failed
    exact .inl rfl
  · cases failed
    exact .inr ⟨_, rfl⟩

theorem decoded_exact {contents : ByteArray} {string : String} :
    String.fromUTF8? contents = some string ↔ contents = string.toUTF8 := by
  unfold String.fromUTF8?
  constructor
  · intro decoded
    split at decoded
    · cases decoded
      rfl
    · cases decoded
  · rintro rfl
    exact dif_pos string.isValidUTF8

theorem readText_names {tree : FileTree} {path text : Text} :
    tree.readText path = .ok text ↔ ∃ contents found, Names tree path (.file contents) ∧
      String.fromUTF8? contents = some found ∧ text = found.toList := by
  simp only [readText_exact, read_names]

theorem readText_missing {tree : FileTree} (nested : tree.Nested) (path : Text) :
    tree.readText path = .error .notFound ↔ Missing tree path := by
  unfold readText
  rw [error_bind_exact, read_missing nested]
  refine or_iff_left fun found => ?_
  obtain ⟨contents, -, refused⟩ := found
  split at refused <;> cases refused

theorem check_stale {tree : FileTree} (nested : tree.Nested) (path text : Text) :
    (check tree path text).result = .error (.staleOutput path) ↔ OutOfDate tree path text := by
  rw [check, compare_stale, readText_missing nested, OutOfDate]
  refine or_congr_right ?_
  constructor
  · intro stale
    obtain ⟨other, read, differs⟩ := stale
    obtain ⟨contents, found, named, decoded, rfl⟩ := readText_names.mp read
    exact ⟨contents, found, named, decoded, differs⟩
  · intro stale
    obtain ⟨contents, found, named, decoded, differs⟩ := stale
    exact ⟨_, readText_names.mpr ⟨contents, found, named, decoded, rfl⟩, differs⟩

def SameFiles (tree other : FileTree) : Prop :=
  ∀ place contents, tree.find? place = some (.file contents) ↔
    other.find? place = some (.file contents)

theorem write_done {tree : FileTree} {path text : Text}
    (done : (write tree path text).2.result = .ok ()) : ∃ place, Aims tree path place := by
  by_cases aimed : ∃ place, Aims tree path place
  · exact aimed
  · obtain ⟨kind, kept⟩ := writeUnder_lost (unusedName_fresh tree path) (not_exists.mp aimed) text
    rw [write, FileTree.write, kept] at done
    cases done

theorem write_aimed {tree : FileTree} {path : Text} {place : Location} (aims : Aims tree path place)
    (text : Text) : write tree path text =
      (tree.put place (.file (String.ofList text).toUTF8), Outcome.note (.outputWritten path)) := by
  rw [write, FileTree.write, writeUnder_aims (unusedName_fresh tree path) aims]

theorem current_written {tree : FileTree} (nested : tree.Nested) {path text : Text}
    (current : tree.readText path = .ok text) : (write tree path text).2.result = .ok () ∧
      SameFiles tree (write tree path text).1 := by
  obtain ⟨contents, found, named, decoded, rfl⟩ := readText_names.mp current
  obtain ⟨place, aims, stands⟩ := names_aims nested named
  rw [decoded_exact.mp decoded] at stands
  rw [write_aimed aims, String.ofList_toList]
  have replaced := put_replaced (aims_free aims) found.toUTF8
  refine ⟨rfl, fun other contents => ?_⟩
  by_cases same : other = place
  · subst same
    rw [stands, replaced.stands]
  · rw [replaced.others other same]

theorem written_current {tree : FileTree} {path text : Text}
    (done : (write tree path text).2.result = .ok ())
    (same : SameFiles tree (write tree path text).1) : tree.readText path = .ok text := by
  obtain ⟨place, aims⟩ := write_done done
  rw [write_aimed aims] at same
  have replaced := put_replaced (aims_free aims) (String.ofList text).toUTF8
  exact aims_readText aims ((same place _).mpr replaced.stands)

theorem write_nested {tree : FileTree} (nested : tree.Nested) (path text : Text) :
    (write tree path text).1.Nested := by
  by_cases aimed : ∃ place, Aims tree path place
  · obtain ⟨place, aims⟩ := aimed
    rw [write_aimed aims]
    have replaced := put_replaced (aims_free aims) (String.ofList text).toUTF8
    have same := replaced_directories replaced
    intro other entry stands
    apply (same.2 _).mp
    by_cases here : other = place
    · obtain ⟨_, _, _, found, _⟩ := aims
      rw [here, List.dropLast_concat]
      exact (followDirectory_exact.mp found).2
    · rw [replaced.others other here] at stands
      exact nested other entry stands
  · obtain ⟨kind, kept⟩ := writeUnder_lost (unusedName_fresh tree path) (not_exists.mp aimed) text
    rw [write, FileTree.write, kept]
    exact nested

-- A check passes exactly where writing would change no file, and it changes nothing itself. An
-- output that is out of date is told from one that cannot be read.
theorem check_agrees {tree : FileTree} (nested : tree.Nested) (path text : Text) :
    ((check tree path text).result = .ok () ↔ (write tree path text).2.result = .ok () ∧
      SameFiles tree (write tree path text).1) ∧
    ((Command.Action.check path).run tree text).1 = tree ∧
    ((check tree path text).result = .error (.staleOutput path) ↔ OutOfDate tree path text) ∧
    (∀ fault, (check tree path text).result = .error fault → ¬ OutOfDate tree path text →
      ∃ kind, fault = .access kind) ∧
    (write tree path text).1.Nested := by
  refine ⟨?_, rfl, check_stale nested path text, fun fault failed current => ?_,
    write_nested nested path text⟩
  · rw [check, compare_current]
    exact ⟨current_written nested, fun written => written_current written.1 written.2⟩
  · rcases compare_fault failed with rfl | other
    · exact absurd ((check_stale nested path text).mp failed) current
    · exact other

-- Below a file a path leads nowhere, but not because a name is missing.
theorem stored_compared : stored.Nested ∧
    (check stored "../d/f".toList ['x']).result = .error (.staleOutput "../d/f".toList) ∧
    (check stored "f/g".toList ['x']).result = .error (.access .notADirectory) ∧
    ¬ OutOfDate stored "f/g".toList ['x'] ∧ ∃ kind, Fault.access .notADirectory = .access kind := by
  have nested : stored.Nested := nested_rows (by simp [stored, find?])
  have other : OutOfDate stored "../d/f".toList ['x'] :=
    .inr ⟨_, "old", read_names.mp rfl, decoded_exact.mpr rfl, by decide⟩
  have refused : (check stored "f/g".toList ['x']).result = .error (.access .notADirectory) := rfl
  obtain ⟨-, -, stale, -⟩ := check_agrees nested "../d/f".toList ['x']
  obtain ⟨-, -, stale', unread, -⟩ := check_agrees nested "f/g".toList ['x']
  have current : ¬ OutOfDate stored "f/g".toList ['x'] := by
    rw [← stale', refused]
    intro same
    cases same
  exact ⟨nested, stale.mpr other, refused, current, unread _ refused current⟩

end Output
end PluginBindings
