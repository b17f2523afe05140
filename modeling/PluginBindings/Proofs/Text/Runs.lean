import PluginBindings.Text.Blank
import PluginBindings.Text.Word

namespace PluginBindings

-- Every reader of runs takes complete ones, so this is all they ask of a text.
def Stops (accepts : Char → Bool) (rest : Text) : Prop := ∀ c ∈ rest.head?, accepts c = false

@[simp] theorem stops_nil : Stops accepts [] := by simp [Stops]

@[simp] theorem stops_cons : Stops accepts (c :: rest) ↔ accepts c = false := by simp [Stops]

theorem Stops.head (stops : Stops accepts rest) : rest.head?.any accepts = false := by
  cases rest with
  | nil => rfl
  | cons c rest => simpa using stops

theorem takeWhile_run (run : ∀ c ∈ front, accepts c = true) (stops : Stops accepts rest) :
    (front ++ rest).takeWhile accepts = front := by
  rw [List.takeWhile_append_of_pos run]
  cases rest with
  | nil => simp
  | cons c rest => simp [stops_cons.mp stops]

theorem dropWhile_run (run : ∀ c ∈ front, accepts c = true) (stops : Stops accepts rest) :
    (front ++ rest).dropWhile accepts = rest := by
  rw [List.dropWhile_append_of_pos run]
  cases rest with
  | nil => rfl
  | cons c rest => simp [stops_cons.mp stops]

theorem stops_dropWhile (accepts : Char → Bool) (text : Text) :
    Stops accepts (text.dropWhile accepts) := by
  intro c first
  have stopped := List.head?_dropWhile_not accepts text
  rw [Option.mem_def.mp first] at stopped
  exact stopped

theorem run_exact {accepts : Char → Bool} {text front rest : Text} :
    (text.takeWhile accepts = front ∧ text.dropWhile accepts = rest) ↔
      text = front ++ rest ∧ (∀ c ∈ front, accepts c = true) ∧ Stops accepts rest := by
  constructor
  · intro parts
    obtain ⟨rfl, rfl⟩ := parts
    exact ⟨List.takeWhile_append_dropWhile.symm, List.all_eq_true.mp List.all_takeWhile,
      stops_dropWhile _ _⟩
  · intro parts
    obtain ⟨rfl, run, stops⟩ := parts
    exact ⟨takeWhile_run run stops, dropWhile_run run stops⟩

theorem dropped_or_run {text : Text} (accepts : Char → Bool) (member : c ∈ text) :
    c ∈ text.dropWhile accepts ∨ accepts c = true := by
  rw [← List.takeWhile_append_dropWhile (p := accepts) (l := text)] at member
  rcases List.mem_append.mp member with run | rest
  · exact .inr (List.all_eq_true.mp List.all_takeWhile c run)
  · exact .inl rest

-- A text is cut in one way only into a complete run and what follows it.
theorem run_unique {accepts : Char → Bool} {front rest front' rest' : Text}
    (same : front ++ rest = front' ++ rest')
    (run : ∀ c ∈ front, accepts c = true) (stops : Stops accepts rest)
    (run' : ∀ c ∈ front', accepts c = true) (stops' : Stops accepts rest') :
    front = front' ∧ rest = rest' := by
  have taken := takeWhile_run run stops
  have dropped := dropWhile_run run stops
  rw [same, takeWhile_run run' stops'] at taken
  rw [same, dropWhile_run run' stops'] at dropped
  exact ⟨taken.symm, dropped.symm⟩

private def blankPoints : List Nat :=
  [9, 10, 11, 12, 13, 0x20, 0x85, 0xA0, 0x1680, 0x2000, 0x2001, 0x2002, 0x2003, 0x2004, 0x2005,
    0x2006, 0x2007, 0x2008, 0x2009, 0x200A, 0x2028, 0x2029, 0x202F, 0x205F, 0x3000]

theorem blank_not_word (blank : isBlank c = true) : isWord c = false := by
  have point : c.toNat ∈ blankPoints := by
    simp only [isBlank, Bool.or_eq_true, Bool.and_eq_true, decide_eq_true_eq, beq_iff_eq] at blank
    simp only [blankPoints, List.mem_cons, List.not_mem_nil, or_false]
    omega
  have outside : ∀ n ∈ blankPoints, Unicode.wordBounds.contains n = false := by decide +kernel
  exact outside _ point

theorem word_not_blank (word : isWord c = true) : isBlank c = false := by
  cases blank : isBlank c with
  | false => rfl
  | true => rw [blank_not_word blank] at word; cases word

theorem nameStart_word (start : isNameStart c = true) : isWord c = true := by
  have letters : ∀ n ∈ List.range 123, (65 ≤ n ∧ n ≤ 90) ∨ (97 ≤ n ∧ n ≤ 122) ∨ n = 95 →
      Unicode.wordBounds.contains n = true := by decide +kernel
  have point : (65 ≤ c.toNat ∧ c.toNat ≤ 90) ∨ (97 ≤ c.toNat ∧ c.toNat ≤ 122) ∨ c.toNat = 95 := by
    unfold isNameStart at start
    rw [Bool.or_eq_true, beq_iff_eq] at start
    rcases start with letter | rfl
    · rcases Bool.or_eq_true_iff.mp letter with upper | lower
      · exact .inl (of_decide_eq_true upper)
      · obtain ⟨low, high⟩ := Bool.and_eq_true_iff.mp lower
        exact .inr (.inl ⟨of_decide_eq_true low, of_decide_eq_true high⟩)
    · exact .inr (.inr rfl)
  exact letters _ (List.mem_range.mpr (by omega)) point

theorem isName_word (named : isName name = true) : ∀ c ∈ name, isWord c = true := by
  cases name with
  | nil => simp [isName] at named
  | cons c rest =>
    simp only [isName, Bool.and_eq_true, List.all_eq_true] at named
    intro d member
    rcases List.mem_cons.mp member with rfl | later
    · exact nameStart_word named.1
    · exact named.2 d later

theorem isName_nonempty (named : isName name = true) : name ≠ [] := by
  rintro rfl
  cases named

theorem name_lacks_blank (named : isName name = true) (blank : isBlank c = true) : c ∉ name := by
  intro member
  have word := isName_word named c member
  rw [blank_not_word blank] at word
  cases word

theorem name_stops_blank (named : isName name = true) : Stops isBlank (name ++ rest) := by
  cases name with
  | nil => cases named
  | cons c name =>
    exact stops_cons.mpr (word_not_blank (isName_word named c (by simp)))

theorem blank_stops_word (run : ∀ c ∈ gap, isBlank c = true) (stops : Stops isWord rest) :
    Stops isWord (gap ++ rest) := by
  cases gap with
  | nil => exact stops
  | cons c gap => exact stops_cons.mpr (blank_not_word (run c (by simp)))

theorem indent_blank (indent : isIndent c = true) : isBlank c = true := by
  simp only [isIndent, Bool.or_eq_true, beq_iff_eq] at indent
  rcases indent with rfl | rfl <;> rfl

theorem space_indent : ∀ c ∈ [' '], isIndent c = true := by simp [isIndent]

theorem space_blank : ∀ c ∈ [' '], isBlank c = true := fun c member =>
  indent_blank (space_indent c member)

theorem stops_indent (stops : Stops isBlank rest) : Stops isIndent rest := by
  intro c first
  cases indent : isIndent c with
  | false => rfl
  | true => rw [← indent_blank indent, stops c first]

theorem name_ends_word (named : isName name = true) : name.getLast?.any isWord = true := by
  rw [List.getLast?_eq_some_getLast (isName_nonempty named)]
  exact isName_word named _ (List.getLast_mem _)

theorem name_ends (named : isName name = true) (front : Text) :
    Stops isBlank (front ++ name).reverse := by
  intro c first
  rw [List.head?_reverse, List.getLast?_append] at first
  have word := name_ends_word named
  cases last : name.getLast? with
  | none => simp [last] at word
  | some d =>
    have same : d = c := by simpa [last] using first
    simp only [last, Option.any_some, same] at word
    exact word_not_blank word

theorem blanks_unique {front name gap front' name' gap' : Text}
    (same : front ++ (name ++ gap) = front' ++ (name' ++ gap')) (named : isName name = true)
    (run : ∀ c ∈ gap, isBlank c = true) (named' : isName name' = true)
    (run' : ∀ c ∈ gap', isBlank c = true) : front ++ name = front' ++ name' ∧ gap = gap' := by
  have reversed : gap.reverse ++ (front ++ name).reverse =
      gap'.reverse ++ (front' ++ name').reverse := by
    rw [← List.reverse_append, ← List.reverse_append, List.append_assoc, same, List.append_assoc]
  have parted := run_unique reversed (by simpa using run) (name_ends named front)
    (by simpa using run') (name_ends named' front')
  exact ⟨List.reverse_inj.mp parted.2, List.reverse_inj.mp parted.1⟩

theorem name_unique {front name front' name' : Text} (same : front ++ name = front' ++ name')
    (named : isName name = true) (stops : Stops isWord front.reverse) (named' : isName name' = true)
    (stops' : Stops isWord front'.reverse) : front = front' ∧ name = name' := by
  have reversed : name.reverse ++ front.reverse = name'.reverse ++ front'.reverse := by
    rw [← List.reverse_append, ← List.reverse_append, same]
  have parted := run_unique reversed (by simpa using isName_word named) stops
    (by simpa using isName_word named') stops'
  exact ⟨List.reverse_inj.mp parted.2, List.reverse_inj.mp parted.1⟩

theorem sign_absent {text : Text} (plain : ∀ c ∈ text, isBlank c = true ∨ isWord c = true)
    (sign : isBlank c = false ∧ isWord c = false) : c ∉ text := by
  intro member
  rcases plain c member with blank | word
  · cases sign.1.symm.trans blank
  · cases sign.2.symm.trans word

theorem colon_sign : isBlank ':' = false ∧ isWord ':' = false := by decide +kernel

theorem colon_stops (later : Text) : Stops isWord (':' :: later) ∧ Stops isBlank (':' :: later) :=
  ⟨stops_cons.mpr colon_sign.2, stops_cons.mpr colon_sign.1⟩

theorem paren_sign : isBlank '(' = false ∧ isWord '(' = false := by decide +kernel

theorem closing_sign : isBlank ')' = false ∧ isWord ')' = false := by decide +kernel

theorem brace_sign : isBlank '{' = false ∧ isWord '{' = false := by decide +kernel

theorem comma_sign : isBlank ',' = false ∧ isWord ',' = false := by decide +kernel

theorem trimStart_exact {source rest : Text} :
    Text.trimStart source = rest ↔
      ∃ gap, source = gap ++ rest ∧ (∀ c ∈ gap, isBlank c = true) ∧ Stops isBlank rest := by
  constructor
  · rintro rfl
    exact ⟨source.takeWhile isBlank, List.takeWhile_append_dropWhile.symm,
      List.all_eq_true.mp List.all_takeWhile, stops_dropWhile _ _⟩
  · intro parts
    obtain ⟨gap, rfl, run, stops⟩ := parts
    exact dropWhile_run run stops

theorem trimEnd_reverse (text : Text) :
    Text.trimEnd text.reverse = (Text.trimStart text).reverse := by
  rw [Text.trimEnd, List.reverse_reverse, Text.trimStart]

theorem trim_exact {text middle : Text} :
    Text.trim text = middle ↔
      ∃ front back, text = front ++ middle ++ back ∧ (∀ c ∈ front, isBlank c = true) ∧
        (∀ c ∈ back, isBlank c = true) ∧ Stops isBlank middle ∧ Stops isBlank middle.reverse := by
  constructor
  · rintro rfl
    obtain ⟨front, same, run, stops⟩ := trimStart_exact.mp (rfl : Text.trimStart text = _)
    obtain ⟨back, same', run', stops'⟩ :=
      trimStart_exact.mp (rfl : Text.trimStart (Text.trimStart text).reverse = _)
    have ends : Text.trim text = (Text.trimStart (Text.trimStart text).reverse).reverse := by
      rw [← trimEnd_reverse, List.reverse_reverse, Text.trim]
    have whole : Text.trimStart text = Text.trim text ++ back.reverse := by
      rw [ends, ← List.reverse_append, ← same', List.reverse_reverse]
    refine ⟨front, back.reverse, ?_, run, by simpa using run', ?_, ?_⟩
    · rw [List.append_assoc, ← whole]
      exact same
    · intro c first
      cases trimmed : Text.trim text with
      | nil => simp [trimmed] at first
      | cons d rest =>
        rw [whole, trimmed] at stops
        exact stops c (by simpa [trimmed] using first)
    · rw [ends, List.reverse_reverse]
      exact stops'
  · intro parts
    obtain ⟨front, back, rfl, run, run', stops, stops'⟩ := parts
    cases middle with
    | nil =>
      have blank : ∀ c ∈ front ++ back, isBlank c = true := fun c member =>
        (List.mem_append.mp member).elim (run c) (run' c)
      have start : Text.trimStart (front ++ back) = [] :=
        trimStart_exact.mpr ⟨front ++ back, by simp, blank, stops_nil⟩
      rw [List.append_nil, Text.trim, start]
      rfl
    | cons c middle =>
      have start : Text.trimStart (front ++ c :: middle ++ back) = c :: middle ++ back :=
        trimStart_exact.mpr ⟨front, by simp, run, stops_cons.mpr (stops_cons.mp stops)⟩
      have ended : Text.trimStart (c :: middle ++ back).reverse = (c :: middle).reverse :=
        trimStart_exact.mpr ⟨back.reverse, by simp, by simpa using run', stops'⟩
      rw [Text.trim, start, ← List.reverse_reverse (c :: middle ++ back), trimEnd_reverse, ended,
        List.reverse_reverse]

theorem trim_around {front text back : Text} (run : ∀ c ∈ front, isBlank c = true)
    (run' : ∀ c ∈ back, isBlank c = true) : Text.trim (front ++ text ++ back) = Text.trim text := by
  obtain ⟨first, last, same, blank, blank', stops, stops'⟩ := trim_exact.mp (rfl : Text.trim text = _)
  refine trim_exact.mpr ⟨front ++ first, last ++ back, ?_, ?_, ?_, stops, stops'⟩
  · calc front ++ text ++ back = front ++ (first ++ Text.trim text ++ last) ++ back := by rw [← same]
      _ = _ := by simp
  · exact fun c member => (List.mem_append.mp member).elim (run c) (blank c)
  · exact fun c member => (List.mem_append.mp member).elim (blank' c) (run' c)

theorem trim_behind {front text : Text} (run : ∀ c ∈ front, isBlank c = true) :
    Text.trim (front ++ text) = Text.trim text := by
  have whole : Text.trim (front ++ text ++ []) = Text.trim text := trim_around run (by simp)
  simpa using whole

theorem trim_blank {text : Text} (run : ∀ c ∈ text, isBlank c = true) : Text.trim text = [] :=
  trim_exact.mpr ⟨text, [], by simp, run, by simp, stops_nil, stops_nil⟩

end PluginBindings
