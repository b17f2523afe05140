import PluginBindings.Proofs.Descriptor.LineForm

namespace PluginBindings
namespace Descriptor

-- How a line declares an array, said without a reader.
inductive Declares : Text → Text → Prop where
  | written {lead specifiers key trail inside ahead behind last : Text}
      (blank : ∀ gap ∈ [lead, trail, inside, ahead, behind, last], ∀ c ∈ gap, isBlank c = true)
      (starts : specifiers.head?.any isNameStart = true)
      (specifies : ∀ c ∈ specifiers, isSpecifier c = true)
      (ends : specifiers.getLast?.any (fun c => !isWord c) = true) (named : isName key = true) :
      Declares (lead ++ specifiers ++ key ++ trail ++
        '[' :: (inside ++ ']' :: (ahead ++ '=' :: (behind ++ '{' :: last)))) key

theorem trimEnd_parts (text : Text) :
    ∃ gap, text = Text.trimEnd text ++ gap ∧ ∀ c ∈ gap, isBlank c = true := by
  refine ⟨(text.reverse.takeWhile isBlank).reverse, ?_, ?_⟩
  · rw [Text.trimEnd, ← List.reverse_append, List.takeWhile_append_dropWhile, List.reverse_reverse]
  · intro c member
    exact List.all_eq_true.mp List.all_takeWhile c (List.mem_reverse.mp member)

theorem last_run (text : Text) :
    ∃ front, text = front ++ (text.reverse.takeWhile isWord).reverse ∧ Stops isWord front.reverse := by
  refine ⟨(text.reverse.dropWhile isWord).reverse, ?_, ?_⟩
  · rw [← List.reverse_append, List.takeWhile_append_dropWhile, List.reverse_reverse]
  · rw [List.reverse_reverse]
    exact stops_dropWhile isWord _

theorem ends_stops {text : Text} (starts : text.head?.any isNameStart = true) :
    text.getLast?.any (fun c => !isWord c) = true ↔ Stops isWord text.reverse := by
  have nonempty : text ≠ [] := by
    rintro rfl
    cases starts
  rw [Stops, List.head?_reverse, List.getLast?_eq_some_getLast nonempty]
  simp

theorem declaredKey?_declares (declared : declaredKey? line = some key) : Declares line key := by
  simp only [declaredKey?, Option.bind_eq_bind, Option.bind_eq_some_iff] at declared
  obtain ⟨⟨⟩, opened, kept⟩ := declared
  obtain ⟨inside, ahead, behind, last, signs, blank⟩ := arrayOpening_exact.mp opened
  obtain ⟨trail, trimmed, run⟩ := trimEnd_parts (line.takeWhile (· != '['))
  obtain ⟨before, parted, apart⟩ := last_run (Text.trimEnd (line.takeWhile (· != '[')))
  generalize ((Text.trimEnd (line.takeWhile (· != '['))).reverse.takeWhile isWord).reverse = word
    at parted kept
  rw [parted, Text.before_append] at kept
  generalize typed : Text.trimStart before = specifiers at kept
  obtain ⟨lead, rfl, run', -⟩ := trimStart_exact.mp typed
  split at kept
  · rename_i formed
    cases kept
    simp only [Bool.and_eq_true, List.all_eq_true] at formed
    obtain ⟨⟨named, starts⟩, specifies⟩ := formed
    have whole : line = lead ++ specifiers ++ key ++ trail ++
        '[' :: (inside ++ ']' :: (ahead ++ '=' :: (behind ++ '{' :: last))) := by
      rw [← signs, ← parted, ← trimmed, List.takeWhile_append_dropWhile]
    have ends : Stops isWord specifiers.reverse := by
      intro c first
      apply apart c
      rw [List.reverse_append, List.head?_append, Option.mem_def.mp first, Option.some_or]
      rfl
    rw [whole]
    refine .written ?_ starts specifies ((ends_stops starts).mpr ends) named
    exact List.forall_mem_cons.mpr ⟨run', List.forall_mem_cons.mpr ⟨run, blank⟩⟩
  · cases kept

theorem declares_declaredKey? (declares : Declares line key) : declaredKey? line = some key := by
  obtain ⟨blank, starts, specifies, ends, named⟩ := declares
  obtain ⟨run, blank⟩ := List.forall_mem_cons.mp blank
  obtain ⟨run', signs⟩ := List.forall_mem_cons.mp blank
  have opened := arrayOpening_exact.mpr ⟨_, _, _, _, rfl, signs⟩
  exact declaredKey?_written run starts specifies ((ends_stops starts).mp ends) named run' opened

-- A word is complete when no more of it stands before it or behind it.
def LastWord (text word : Text) : Prop :=
  ∃ front rest, text = front ++ word ++ rest ∧ word ≠ [] ∧ (∀ c ∈ word, isWord c = true) ∧
    Stops isWord front.reverse ∧ ∀ c ∈ rest, isWord c = false

theorem word_halts {word : Text} (full : word ≠ []) (run : ∀ c ∈ word, isWord c = true)
    (front : Text) : Stops (fun c => !isWord c) (word.reverse ++ front) := by
  obtain ⟨d, others, given⟩ := List.exists_cons_of_ne_nil (List.reverse_ne_nil_iff.mpr full)
  rw [given]
  apply stops_cons.mpr
  rw [run d (List.mem_reverse.mp (given ▸ List.mem_cons_self))]
  rfl

theorem LastWord.unique (last : LastWord text word) (last' : LastWord text other) :
    word = other := by
  obtain ⟨front, rest, rfl, full, run, stops, apart⟩ := last
  obtain ⟨front', rest', same, full', run', stops', apart'⟩ := last'
  have reversed : rest.reverse ++ (word.reverse ++ front.reverse) =
      rest'.reverse ++ (other.reverse ++ front'.reverse) := by
    simpa only [List.reverse_append] using congrArg List.reverse same
  have words := (run_unique reversed (by simpa using apart) (word_halts full run _)
    (by simpa using apart') (word_halts full' run' _)).2
  have parted := run_unique words (by simpa using run) stops (by simpa using run') stops'
  exact List.reverse_inj.mp parted.1

theorem declares_lastWord (declares : Declares line key) :
    LastWord (line.takeWhile (· != '[')) key := by
  cases declares with
  | @written lead specifiers _ trail _ _ _ _ blank starts specifies ends named =>
    obtain ⟨run, blank⟩ := List.forall_mem_cons.mp blank
    obtain ⟨run', -⟩ := List.forall_mem_cons.mp blank
    have ahead := front_no_bracket run specifies named run'
    rw [takeWhile_run ahead (stops_cons.mpr (by decide))]
    refine ⟨lead ++ specifiers, trail, rfl, isName_nonempty named, isName_word named, ?_,
      fun c member => blank_not_word (run' c member)⟩
    exact specifiers_apart starts ((ends_stops starts).mp ends) lead

-- A line declares an array exactly when it is written as a declaration; the name in it is the
-- last word before the bracket, whichever way the line is taken apart.
theorem declaredKey?_exact (line key : Text) :
    (declaredKey? line = some key ↔ Declares line key) ∧
      (Declares line key → LastWord (line.takeWhile (· != '[')) key ∧
        ∀ other, Declares line other → other = key) := by
  refine ⟨⟨declaredKey?_declares, declares_declaredKey?⟩, fun declares => ?_⟩
  have last := declares_lastWord declares
  exact ⟨last, fun other declares' => (declares_lastWord declares').unique last⟩

def starredLine : Text := " static char *help_9 [ ]= \x7b\t".toList

theorem starred_declared :
    Declares starredLine "help_9".toList ∧
      LastWord (starredLine.takeWhile (· != '[')) "help_9".toList ∧
        ∀ other, Declares starredLine other → other = "help_9".toList := by
  have declares : Declares starredLine "help_9".toList :=
    (declaredKey?_exact starredLine "help_9".toList).1.mp (by decide +kernel)
  exact ⟨declares, (declaredKey?_exact starredLine "help_9".toList).2 declares⟩

end Descriptor
end PluginBindings
