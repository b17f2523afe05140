import PluginBindings.Proofs.Signature.Declaration
import PluginBindings.Proofs.Signature.Handle

namespace PluginBindings

def bracketPairs (angles : Bool) : List (Char × Char) :=
  [('(', ')'), ('[', ']')] ++ if angles then [('<', '>')] else []

def delimits (angles : Bool) (c : Char) : Bool :=
  (bracketPairs angles).any fun pair => c == pair.1 || c == pair.2

-- Outside brackets a text has commas only where `commas` allows them, within brackets anywhere.
inductive Balanced (angles : Bool) : Bool → Text → Prop where
  | done {commas : Bool} : Balanced angles commas []
  | plain {commas : Bool} {c : Char} {rest : Text} (outside : delimits angles c = false)
      (separates : c = ',' → commas = true) (onwards : Balanced angles commas rest) :
      Balanced angles commas (c :: rest)
  | arrow {commas : Bool} {rest : Text} (counted : angles = true)
      (onwards : Balanced angles commas rest) : Balanced angles commas ('-' :: '>' :: rest)
  | group {commas : Bool} {opener closer : Char} {inner rest : Text}
      (pair : (opener, closer) ∈ bracketPairs angles) (inside : Balanced angles true inner)
      (onwards : Balanced angles commas rest) :
      Balanced angles commas (opener :: inner ++ closer :: rest)

theorem pair_delimits (pair : (opener, closer) ∈ bracketPairs angles) :
    delimits angles opener = true :=
  List.any_eq_true.mpr ⟨_, pair, by simp⟩

theorem delimits_bracket (delimiter : delimits angles c = true) : isBracket c = true := by
  cases angles
  · simp only [delimits, bracketPairs, Bool.false_eq_true, if_false, List.append_nil, List.any_cons,
      List.any_nil, Bool.or_false, Bool.or_eq_true, beq_iff_eq] at delimiter
    rcases delimiter with (rfl | rfl) | (rfl | rfl) <;> rfl
  · simp only [delimits, bracketPairs, if_true, List.cons_append, List.nil_append, List.any_cons,
      List.any_nil, Bool.or_false, Bool.or_eq_true, beq_iff_eq] at delimiter
    rcases delimiter with (rfl | rfl) | (rfl | rfl) | (rfl | rfl) <;> rfl

theorem blank_not_delimits (blank : isBlank c = true) : delimits angles c = false := by
  cases delimiter : delimits angles c with
  | false => rfl
  | true => exact (delimits_bracket delimiter).symm.trans (blank_no_bracket blank)

theorem word_not_delimits (word : isWord c = true) : delimits angles c = false := by
  cases delimiter : delimits angles c with
  | false => rfl
  | true => exact (delimits_bracket delimiter).symm.trans (word_no_bracket word)

theorem balanced_append {front back : Text} (first : Balanced angles commas front)
    (second : Balanced angles commas back) : Balanced angles commas (front ++ back) := by
  induction first with
  | done => exact second
  | plain outside separates _ ih => exact .plain outside separates (ih second)
  | arrow counted _ ih => exact .arrow counted (ih second)
  | group pair inside _ _ ih =>
    simpa using Balanced.group pair inside (ih second)

theorem balanced_plain {text : Text}
    (run : ∀ c ∈ text, delimits angles c = false ∧ (c = ',' → commas = true)) :
    Balanced angles commas text := by
  induction text with
  | nil => exact .done
  | cons c text ih =>
    have here := run c (by simp)
    exact .plain here.1 here.2 (ih fun d member => run d (by simp [member]))

theorem balanced_checked {text : Text}
    (checked : text.all (fun c => !delimits angles c && (c != ',' || commas)) = true) :
    Balanced angles commas text := by
  refine balanced_plain fun c member => ?_
  have here := List.all_eq_true.mp checked c member
  simp only [Bool.and_eq_true, Bool.not_eq_true', Bool.or_eq_true, bne_iff_ne] at here
  exact ⟨here.1, fun comma => here.2.resolve_left (absurd comma)⟩

theorem plain_not_comma (plain : isBlank c = true ∨ isWord c = true) : c ≠ ',' := by
  rintro rfl
  rcases plain with blank | word
  · cases comma_sign.1.symm.trans blank
  · cases comma_sign.2.symm.trans word

theorem balanced_words {text : Text} (run : ∀ c ∈ text, isBlank c = true ∨ isWord c = true) :
    Balanced angles commas text :=
  balanced_plain fun c member =>
    ⟨(run c member).elim blank_not_delimits word_not_delimits,
      fun comma => absurd comma (plain_not_comma (run c member))⟩

theorem balanced_blank {text : Text} (run : ∀ c ∈ text, isBlank c = true) :
    Balanced angles commas text :=
  balanced_words fun c member => .inl (run c member)

theorem balanced_next (balanced : Balanced angles commas (c :: text)) (blank : isBlank c = true) :
    Balanced angles commas text := by
  cases balanced with
  | plain _ _ onwards => exact onwards
  | arrow => exact absurd blank (by decide)
  | group pair =>
    have plain : delimits angles _ = false := blank_not_delimits blank
    cases (pair_delimits pair).symm.trans plain

theorem balanced_behind {run text : Text} (balanced : Balanced angles commas (run ++ text))
    (blanks : ∀ c ∈ run, isBlank c = true) : Balanced angles commas text := by
  induction run with
  | nil => exact balanced
  | cons c run ih =>
    exact ih (balanced_next balanced (blanks c (by simp))) fun d member => blanks d (by simp [member])

-- A comma stands behind a bracket, or the text would be two parameters.
theorem balanced_comma {front back : Text}
    (balanced : Balanced angles false (front ++ ',' :: back)) :
    ∃ c ∈ front, delimits angles c = true := by
  generalize same : front ++ ',' :: back = text at balanced
  generalize none : false = commas at balanced
  induction balanced generalizing front with
  | done => simp at same
  | plain outside separates onwards ih =>
    cases front with
    | nil =>
      obtain ⟨rfl, -⟩ := List.cons.inj same
      rw [separates rfl] at none
      cases none
    | cons d front =>
      obtain ⟨rfl, rest⟩ := List.cons.inj same
      obtain ⟨c, member, delimiter⟩ := ih rest none
      exact ⟨c, by simp [member], delimiter⟩
  | arrow _ _ ih =>
    rcases front with _ | ⟨d, _ | ⟨e, front⟩⟩
    · exact absurd (List.cons.inj same).1 (by decide)
    · exact absurd (List.cons.inj (List.cons.inj same).2).1 (by decide)
    · obtain ⟨rfl, later⟩ := List.cons.inj same
      obtain ⟨rfl, rest⟩ := List.cons.inj later
      obtain ⟨c, member, delimiter⟩ := ih rest none
      exact ⟨c, by simp [member], delimiter⟩
  | group pair =>
    cases front with
    | nil =>
      have comma : ',' = _ := (List.cons.inj same).1
      have bracket := pair_delimits pair
      rw [← comma] at bracket
      exact absurd (delimits_bracket bracket) (by decide)
    | cons d front =>
      obtain ⟨rfl, -⟩ := List.cons.inj same
      exact ⟨d, by simp, pair_delimits pair⟩

theorem balanced_no_comma {front back : Text} (balanced : Balanced angles false (front ++ back))
    (plain : ∀ c ∈ front, isBracket c = false) : ',' ∉ front := by
  intro comma
  obtain ⟨before, after, rfl⟩ := List.append_of_mem comma
  have split : Balanced angles false (before ++ ',' :: (after ++ back)) := by simpa using balanced
  obtain ⟨c, member, delimiter⟩ := balanced_comma split
  cases (plain c (by simp [member])).symm.trans (delimits_bracket delimiter)

theorem join_cons {separator part : Text} {parts : List Text} :
    Text.join separator (part :: parts) = part ++ parts.flatMap (separator ++ ·) := by
  induction parts generalizing part with
  | nil => simp [Text.join]
  | cons next parts ih =>
    rw [Text.join, List.intercalate_cons_cons, ← Text.join, ih]
    simp

theorem join_append {separator part : Text} {front back : List Text} :
    Text.join separator (front ++ part :: back) =
      front.flatMap (· ++ separator) ++ part ++ back.flatMap (separator ++ ·) := by
  induction front with
  | nil => simpa using join_cons
  | cons first front ih =>
    have nonempty : front ++ part :: back ≠ [] := by simp
    rw [List.cons_append, Text.join, List.intercalate_cons_of_ne_nil nonempty, ← Text.join, ih]
    simp

theorem join_mem {separator : Text} {parts : List Text} (member : c ∈ Text.join separator parts) :
    c ∈ separator ∨ ∃ part ∈ parts, c ∈ part := by
  cases parts with
  | nil => simp [Text.join] at member
  | cons part parts =>
    rw [join_cons] at member
    rcases List.mem_append.mp member with member | member
    · exact .inr ⟨part, by simp, member⟩
    · obtain ⟨later, among, inside⟩ := List.mem_flatMap.mp member
      rcases List.mem_append.mp inside with inside | inside
      · exact .inl inside
      · exact .inr ⟨later, by simp [among], inside⟩

structure Formal where
  lead : Text
  name : Text
  gap : Text
  type : Text

namespace Formal

def text (entry : Formal) : Text := entry.lead ++ entry.name ++ entry.gap ++ ':' :: entry.type

structure WellFormed (angles : Bool) (entry : Formal) : Prop where
  lead : ∀ c ∈ entry.lead, isBlank c = true
  named : isName entry.name = true
  gap : ∀ c ∈ entry.gap, isBlank c = true
  typed : Balanced angles false entry.type

theorem front_plain {entry : Formal} (written : entry.WellFormed angles) :
    ∀ c ∈ entry.lead ++ entry.name ++ entry.gap, isBlank c = true ∨ isWord c = true := by
  intro c member
  simp only [List.mem_append] at member
  rcases member with (member | member) | member
  · exact .inl (written.lead c member)
  · exact .inr (isName_word written.named c member)
  · exact .inl (written.gap c member)

theorem text_balanced {entry : Formal} (written : entry.WellFormed angles) :
    Balanced angles false entry.text := by
  have colon : delimits angles ':' = false := by cases angles <;> rfl
  exact balanced_append (balanced_words (front_plain written)) (.plain colon (by decide) written.typed)

end Formal

-- `receiver` has the blanks around `self`, and `trailing` those behind a last comma.
structure Block where
  name : Text
  header : Text
  receiver : Option (Text × Text)
  entries : List Formal
  trailing : Option Text
  returns : Text

namespace Block

def receivers (block : Block) : List Text :=
  block.receiver.toList.map fun blanks => blanks.1 ++ "self".toList ++ blanks.2

def segments (block : Block) : List Text :=
  block.receivers ++ block.entries.map Formal.text ++ block.trailing.toList

def text (block : Block) : Text :=
  block.header ++ Text.join [','] block.segments ++ ')' :: block.returns ++ ['{']

structure WellFormed (angles : Bool) (block : Block) : Prop where
  header : Declaration.Header block.name block.header
  receiver : ∀ blanks ∈ block.receiver,
    (∀ c ∈ blanks.1, isBlank c = true) ∧ ∀ c ∈ blanks.2, isBlank c = true
  entries : ∀ entry ∈ block.entries, entry.WellFormed angles
  trailing : ∀ blanks ∈ block.trailing, ∀ c ∈ blanks, isBlank c = true
  closed : '{' ∉ Text.join [','] block.segments ++ block.returns

structure Listed (angles : Bool) (block : Block) : Prop where
  header : Declaration.Header block.name block.header
  receiver : ∀ blanks ∈ block.receiver,
    (∀ c ∈ blanks.1, isBlank c = true) ∧ ∀ c ∈ blanks.2, isBlank c = true
  entries : ∀ entry ∈ block.entries, entry.WellFormed angles
  trailing : ∀ blanks ∈ block.trailing, ∀ c ∈ blanks, isBlank c = true

theorem WellFormed.listed {block : Block} (written : block.WellFormed angles) :
    block.Listed angles :=
  ⟨written.header, written.receiver, written.entries, written.trailing⟩

theorem plain_header : Declaration.Header "f".toList "unsafe fn f(".toList :=
  Declaration.header_plain (by decide +kernel)

def ownLine : Block where
  name := "f".toList
  header := "unsafe fn f(".toList
  receiver := none
  entries := [⟨"\n    ".toList, "ph".toList, [], " *mut H".toList⟩,
    ⟨"\n    ".toList, "n".toList, [], " c_int".toList⟩]
  trailing := some "\n".toList
  returns := [' ']

theorem ownLine_wellFormed (angles : Bool) : ownLine.WellFormed angles where
  header := plain_header
  receiver := by decide
  entries := by
    intro entry member
    rcases List.mem_cons.mp member with rfl | member
    · exact ⟨List.all_eq_true.mp (by decide), by decide +kernel, by simp,
        balanced_checked (by cases angles <;> decide)⟩
    · cases List.mem_singleton.mp member
      exact ⟨List.all_eq_true.mp (by decide), by decide +kernel, by simp,
        balanced_checked (by cases angles <;> decide)⟩
  trailing := by
    rintro blanks ⟨⟩
    exact List.all_eq_true.mp (by decide)
  closed := by decide

theorem self_word : ∀ c ∈ "self".toList, isWord c = true := List.all_eq_true.mp (by decide +kernel)

theorem receivers_plain {block : Block} (written : block.Listed angles) :
    ∀ part ∈ block.receivers, ∀ c ∈ part, isBlank c = true ∨ isWord c = true := by
  intro part member
  obtain ⟨blanks, given, rfl⟩ := List.mem_map.mp member
  obtain ⟨run, run'⟩ := written.receiver blanks (by simpa using given)
  intro c member
  rcases List.mem_append.mp member with member | member
  · exact (List.mem_append.mp member).elim (fun member => .inl (run c member))
      fun member => .inr (self_word c member)
  · exact .inl (run' c member)

theorem segments_balanced {block : Block} (written : block.Listed angles) :
    ∀ part ∈ block.segments, Balanced angles false part := by
  intro part member
  rcases List.mem_append.mp member with member | member
  · rcases List.mem_append.mp member with member | member
    · exact balanced_words (receivers_plain written part member)
    · obtain ⟨entry, among, rfl⟩ := List.mem_map.mp member
      exact Formal.text_balanced (written.entries entry among)
  · exact balanced_blank (written.trailing part (by simpa using member))

-- Nothing but the entries counts for a reader that finds nothing in a piece without signs.
theorem segments_read {block : Block} {read : Text → List α} (written : block.Listed angles)
    (plain : ∀ text, (∀ c ∈ text, isBlank c = true ∨ isWord c = true) → read text = []) :
    block.segments.flatMap read = block.entries.flatMap fun entry => read entry.text := by
  have receivers : block.receivers.flatMap read = [] :=
    List.flatMap_eq_nil_iff.mpr fun part member => plain part (receivers_plain written part member)
  have trailing : block.trailing.toList.flatMap read = [] :=
    List.flatMap_eq_nil_iff.mpr fun part member =>
      plain part fun c inside => .inl (written.trailing part (by simpa using member) c inside)
  rw [segments, List.flatMap_append, List.flatMap_append, receivers, trailing, List.flatMap_map]
  simp

def opening (block : Block) : Text := block.header ++ block.receivers.flatMap (· ++ [','])

def later (block : Block) (rest : List Formal) : List Text :=
  rest.map Formal.text ++ block.trailing.toList

def behind (block : Block) (rest : List Formal) : Text :=
  (block.later rest).flatMap ([','] ++ ·) ++ ')' :: block.returns ++ ['{']

theorem text_first {block : Block} (entries : block.entries = first :: rest) :
    block.text = block.opening ++ first.text ++ block.behind rest := by
  simp only [text, segments, entries, List.map_cons, List.append_assoc, List.cons_append]
  rw [join_append]
  simp [opening, behind, later]

end Block
end PluginBindings
