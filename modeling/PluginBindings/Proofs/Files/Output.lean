import PluginBindings.Files.Output
import PluginBindings.Proofs.Files.Tree

namespace PluginBindings
namespace FileTree

theorem names_nonempty (path : Text) : names path ≠ [] := by
  unfold names
  cases path with
  | nil => exact List.cons_ne_nil _ _
  | cons c path =>
    obtain ⟨first, others, -, parted⟩ := Text.pieces_cons (· == '/') c path
    rw [parted]
    split <;> apply List.cons_ne_nil

theorem names_last {path name : Text} {front : List Text} (split : names path = front ++ [name]) :
    name = [] ↔ path = [] ∨ path.getLast? = some '/' := by
  have last : (names path).getLast? = some name := by rw [split, List.getLast?_concat]
  rcases List.eq_nil_or_concat path with rfl | ⟨text, c, rfl⟩
  · have whole : names [] = [] ++ [[]] := rfl
    rw [whole, List.getLast?_concat] at last
    simp [← Option.some.inj last]
  · rw [List.concat_eq_append] at last ⊢
    by_cases slash : c = '/'
    · subst slash
      have parted : names (text ++ ['/']) = names text ++ [[]] := Text.pieces_apart (by decide)
      rw [parted, List.getLast?_concat] at last
      simp [← Option.some.inj last]
    · have joined : (c == '/') = false := by simpa using slash
      obtain ⟨others, ending, parted⟩ :
          ∃ others ending, names (text ++ [c]) = others ++ [ending ++ [c]] :=
        Text.pieces_concat text joined
      rw [parted, List.getLast?_concat] at last
      simp [← Option.some.inj last, slash]

theorem names_whole {path name : Text} {front : List Text} (split : names path = front ++ [name])
    (full : name ≠ []) :
    ((names path).reverse.dropWhile List.isEmpty).reverse = front ++ [name] := by
  simp [split, full]

theorem parentNames_proper {path name : Text} {front : List Text}
    (split : names path = front ++ [name]) (proper : Proper name) : parentNames path = front := by
  obtain ⟨full, dot, -⟩ := proper
  simp [parentNames, split, full, dot]

-- The last name stands behind the last slash, and no directory has it there.
inductive Aims (tree : FileTree) (path : Text) : Location → Prop where
  | below (split : names path = front ++ [name]) (proper : Proper name) (plain : '\x00' ∉ path)
      (found : tree.followDirectory (tree.start path) front = .ok directory)
      (free : tree.find? (directory ++ [name]) ≠ some .directory) :
      Aims tree path (directory ++ [name])

theorem target_aims (found : target tree path = .ok place) : Aims tree path place := by
  obtain ⟨front, name, split⟩ : ∃ front name, names path = front ++ [name] :=
    ⟨_, _, (List.dropLast_concat_getLast (names_nonempty path)).symm⟩
  unfold target at found
  by_cases empty : path = []
  · simp only [if_pos empty] at found
    cases found
  by_cases null : path.contains '\x00' = true
  · simp only [if_neg empty, if_pos null] at found
    cases found
  simp only [if_neg empty, if_neg null, ok_bind_exact] at found
  obtain ⟨directory, found, aimed⟩ := found
  by_cases slash : (path.getLast? == some '/') = true
  · simp only [if_pos slash] at aimed
    split at aimed
    · cases aimed
    · split at aimed <;> cases aimed
  -- without a slash at the end the last name counts, so nothing was dropped
  have full : name ≠ [] := by
    intro last
    rcases (names_last split).mp last with none | last
    · exact empty none
    · exact slash (by simpa using last)
  have parts := names_whole split full
  simp only [parts, List.dropLast_concat] at found
  simp only [parts, List.getLast?_concat, if_neg slash] at aimed
  split at aimed
  · cases aimed
  · rename_i moves
    have moves : name ≠ ['.'] ∧ name ≠ ['.', '.'] := by simpa using moves
    split at aimed
    · cases aimed
    · rename_i free
      cases aimed
      exact .below split ⟨full, moves⟩ (by simpa using null) found free

theorem aims_target (aims : Aims tree path place) : target tree path = .ok place := by
  obtain ⟨split, proper, plain, found, free⟩ := aims
  rename_i front name directory
  obtain ⟨full, dot, dots⟩ := proper
  obtain ⟨empty, unended⟩ := not_or.mp (mt (names_last split).mpr full)
  have null : path.contains '\x00' = false := by simpa using plain
  have slash : (path.getLast? == some '/') = false := by simpa using unended
  have parts := names_whole split full
  unfold target
  simp only [empty, null, slash, parts, if_false, Bool.false_eq_true, List.dropLast_concat, found,
    List.getLast?_concat, dot, dots, decide_false, Bool.or_false]
  apply ok_bind_exact.mpr
  refine ⟨directory, rfl, ?_⟩
  split
  · rename_i taken
    exact absurd taken free
  · rfl

theorem target_exact : target tree path = .ok place ↔ Aims tree path place :=
  ⟨target_aims, aims_target⟩

theorem aims_free (aims : Aims tree path place) : tree.find? place ≠ some .directory := by
  cases aims
  assumption

-- The top is a directory, so whatever is none has a place below it.
theorem free_below {tree : FileTree} (free : tree.find? place ≠ some .directory) :
    place ≠ [] := by
  rintro rfl
  exact free rfl

def SameDirectories (tree other : FileTree) : Prop :=
  tree.base = other.base ∧
    ∀ place, tree.find? place = some .directory ↔ other.find? place = some .directory

theorem SameDirectories.symm (same : SameDirectories tree other) : SameDirectories other tree :=
  ⟨same.1.symm, fun place => (same.2 place).symm⟩

theorem put_directories {tree : FileTree} (free : tree.find? place ≠ some .directory)
    (contents : ByteArray) : SameDirectories tree (tree.put place (.file contents)) := by
  refine ⟨rfl, fun other => ?_⟩
  by_cases same : other = place
  · subst same
    rw [find?_put_same (free_below free)]
    exact iff_of_false free nofun
  · rw [find?_put_other same]

theorem aims_agree (same : SameDirectories tree other) (aims : Aims tree path place) :
    Aims other path place := by
  obtain ⟨base, directories⟩ := same
  obtain ⟨split, proper, plain, found, free⟩ := aims
  refine .below split proper plain ?_ fun taken => free ((directories _).mpr taken)
  have start : other.start path = tree.start path := by rw [start, start, base]
  rw [start]
  exact followDirectory_agrees (fun place => (directories place).mp) found

theorem aims_followed (aims : Aims tree path place) (taken : (tree.find? place).isSome = true) :
    tree.follow (tree.start path) (names path) = .ok place := by
  obtain ⟨split, proper, plain, found, -⟩ := aims
  obtain ⟨followed, directory⟩ := followDirectory_exact.mp found
  apply follow_exact.mpr
  constructor
  · intro name member null
    exact plain (Text.pieces_subset member null)
  · rw [split, List.foldlM_append, ok_bind_exact]
    refine ⟨_, (follow_exact.mp followed).2, ?_⟩
    rw [List.foldlM_cons, ok_bind_exact]
    exact ⟨_, step_exact.mpr (.down directory proper taken), rfl⟩

theorem aims_read (aims : Aims tree path place)
    (stands : tree.find? place = some (.file contents)) :
    tree.read path = .ok contents := by
  have nonempty : path ≠ [] := by
    obtain ⟨split, ⟨full, -⟩, -⟩ := aims
    exact fun empty => full ((names_last split).mpr (.inl empty))
  have followed := aims_followed aims (by rw [stands]; rfl)
  unfold read
  simp only [if_neg nonempty, ok_bind_exact]
  refine ⟨place, followed, ?_⟩
  rw [stands]
  rfl

theorem aims_readText (aims : Aims tree path place)
    (stands : tree.find? place = some (.file (String.ofList text).toUTF8)) :
    tree.readText path = .ok text := by
  unfold readText
  rw [ok_bind_exact]
  refine ⟨_, aims_read aims stands, ?_⟩
  have decoded : String.fromUTF8? (String.ofList text).toUTF8 = some (String.ofList text) :=
    dif_pos (String.ofList text).isValidUTF8
  rw [decoded]
  exact congrArg _ String.toList_ofList

-- A name that is not taken where the file for the path is prepared.
def Fresh (tree : FileTree) (path name : Text) : Prop :=
  ∀ directory, tree.followDirectory (tree.start path) (parentNames path) = .ok directory →
    directory ++ [name] ∉ tree.entries.map (·.1)

theorem unusedName_fresh (tree : FileTree) (path : Text) :
    Fresh tree path (unusedName (names path ++ tree.entries.flatMap (·.1))) := by
  intro directory _ taken
  obtain ⟨row, member, same⟩ := List.mem_map.mp taken
  apply unusedName_not_mem (names path ++ tree.entries.flatMap (·.1))
  apply List.mem_append_right
  apply List.mem_flatMap.mpr
  refine ⟨row, member, ?_⟩
  rw [same]
  exact List.mem_concat_self

theorem prepared_directories {tree : FileTree} {directory : Location}
    (absent : directory ++ [name] ∉ tree.entries.map (·.1)) (contents : ByteArray) :
    SameDirectories tree (tree.put (directory ++ [name]) (.file contents)) := by
  apply put_directories
  rw [find?_absent (by simp) absent]
  nofun

theorem writeUnder_aims (fresh : Fresh tree path name) (aims : Aims tree path place) (text : Text) :
    tree.writeUnder name path text (.ok ()) =
      (tree.put place (.file (String.ofList text).toUTF8), .ok ()) := by
  obtain ⟨directory, prepared⟩ :
      ∃ directory, tree.followDirectory (tree.start path) (parentNames path) = .ok directory := by
    obtain ⟨split, proper, -, found, -⟩ := aims
    exact ⟨_, parentNames_proper split proper ▸ found⟩
  have absent := fresh directory prepared
  have same := prepared_directories absent (String.ofList text).toUTF8
  have moved := target_exact.mpr (aims_agree same aims)
  unfold writeUnder
  rw [prepared]
  dsimp only
  rw [moved]
  dsimp only
  rw [move_put (by simp) absent]

theorem writeUnder_lost (fresh : Fresh tree path name) (lost : ∀ place, ¬ Aims tree path place)
    (text : Text) : ∃ kind, tree.writeUnder name path text (.ok ()) = (tree, .error kind) := by
  unfold writeUnder
  cases prepared : tree.followDirectory (tree.start path) (parentNames path) with
  | error kind => exact ⟨kind, rfl⟩
  | ok directory =>
    have absent := fresh directory prepared
    have same := prepared_directories absent (String.ofList text).toUTF8
    dsimp only
    split
    · rename_i kind _
      exact ⟨kind, by rw [remove_put tree _ _ absent]⟩
    · rename_i place moved
      exact absurd (aims_agree same.symm (target_exact.mp moved)) (lost place)

theorem writeUnder_unstored (fresh : Fresh tree path name) (text : Text) (full : AccessKind) :
    ∃ kind, tree.writeUnder name path text (.error full) = (tree, .error kind) := by
  unfold writeUnder
  cases prepared : tree.followDirectory (tree.start path) (parentNames path) with
  | error kind => exact ⟨kind, rfl⟩
  | ok directory =>
    have absent := fresh directory prepared
    exact ⟨full, congrArg (·, Except.error full) (remove_put tree _ _ absent)⟩

-- One file is there with these contents, and nothing else has changed.
structure Replaced (tree : FileTree) (place : Location) (contents : ByteArray)
    (after : FileTree) : Prop where
  stands : after.find? place = some (.file contents)
  others : ∀ other, other ≠ place → after.find? other = tree.find? other
  free : tree.find? place ≠ some .directory
  base : after.base = tree.base

theorem put_replaced {tree : FileTree} (free : tree.find? place ≠ some .directory)
    (contents : ByteArray) : Replaced tree place contents (tree.put place (.file contents)) :=
  ⟨find?_put_same (free_below free) _, fun _ differs => find?_put_other differs _, free, rfl⟩

end FileTree

namespace Output

open FileTree

theorem check_current (current : tree.readText path = .ok text) :
    check tree path text = Outcome.note (.outputCurrent path) := by
  rw [check, current, compare, if_pos rfl]

-- The file is replaced as a whole or the tree stays as it is, wherever the new contents
-- were prepared.
theorem write_atomic (tree : FileTree) (path text : Text) :
    ((∃ place after, Aims tree path place ∧
      write tree path text = (after, Outcome.note (.outputWritten path)) ∧
      Replaced tree place (String.ofList text).toUTF8 after ∧
      after.read path = .ok (String.ofList text).toUTF8 ∧
      check after path text = Outcome.note (.outputCurrent path) ∧
      ∀ name, Fresh tree path name → tree.writeUnder name path text (.ok ()) = (after, .ok ())) ∨
    (∃ kind, write tree path text = (tree, Outcome.fail (.access kind)) ∧
      (∀ place, ¬ Aims tree path place) ∧
      ∀ name, Fresh tree path name →
        ∃ kind, tree.writeUnder name path text (.ok ()) = (tree, .error kind))) ∧
    ∀ name full, Fresh tree path name →
      ∃ kind, tree.writeUnder name path text (.error full) = (tree, .error kind) := by
  refine ⟨?_, fun name full fresh => writeUnder_unstored fresh text full⟩
  by_cases aimed : ∃ place, Aims tree path place
  · obtain ⟨place, aims⟩ := aimed
    have written := writeUnder_aims (unusedName_fresh tree path) aims text
    have replaced := put_replaced (aims_free aims) (String.ofList text).toUTF8
    have still := aims_agree (put_directories (aims_free aims) (String.ofList text).toUTF8) aims
    refine .inl ⟨place, _, aims, ?_, replaced, aims_read still replaced.stands,
      check_current (aims_readText still replaced.stands),
      fun name fresh => writeUnder_aims fresh aims text⟩
    rw [write, FileTree.write, written]
  · have lost := not_exists.mp aimed
    obtain ⟨kind, kept⟩ := writeUnder_lost (unusedName_fresh tree path) lost text
    refine .inr ⟨kind, ?_, lost, fun name fresh => writeUnder_lost fresh lost text⟩
    rw [write, FileTree.write, kept]

def stored : FileTree :=
  ⟨[['d']], [([['d']], .directory), ([['d'], ['f']], .file ⟨#[111, 108, 100]⟩)]⟩

theorem stored_replaced :
    Fresh stored "../d/f".toList ['n'] ∧ ∃ after,
      write stored "../d/f".toList ['x'] = (after, Outcome.note (.outputWritten "../d/f".toList)) ∧
      stored.writeUnder ['n'] "../d/f".toList ['x'] (.ok ()) = (after, .ok ()) ∧
      ∃ kind, stored.writeUnder ['n'] "../d/f".toList ['x'] (.error .other) = (stored, .error kind) := by
  have fresh : Fresh stored "../d/f".toList ['n'] := by
    intro directory found
    have same : stored.followDirectory (stored.start "../d/f".toList)
        (parentNames "../d/f".toList) = .ok [['d']] := rfl
    cases same.symm.trans found
    decide
  have aims : Aims stored "../d/f".toList [['d'], ['f']] := target_exact.mp rfl
  obtain ⟨whole, unstored⟩ := write_atomic stored "../d/f".toList ['x']
  rcases whole with replaced | kept
  · obtain ⟨place, after, -, written, -, -, -, anyName⟩ := replaced
    exact ⟨fresh, after, written, anyName _ fresh, unstored _ _ fresh⟩
  · obtain ⟨kind, -, lost, -⟩ := kept
    exact absurd aims (lost _)

end Output
end PluginBindings
