import PluginBindings.Proofs.Text.Cut
import PluginBindings.Proofs.Text.Scan
import PluginBindings.Signature.Handle

namespace PluginBindings

def isBracket (c : Char) : Bool := "()[]\x7b\x7d<>".toList.contains c

theorem blank_no_bracket (blank : isBlank c = true) : isBracket c = false := by
  cases bracket : isBracket c with
  | false => rfl
  | true =>
    have brackets : "()[]\x7b\x7d<>".toList.all (fun c => !isBlank c) = true := by decide
    have outside := List.all_eq_true.mp brackets c (List.contains_iff_mem.mp bracket)
    simp [blank] at outside

theorem word_no_bracket (word : isWord c = true) : isBracket c = false := by
  cases bracket : isBracket c with
  | false => rfl
  | true =>
    have brackets : "()[]\x7b\x7d<>".toList.all (fun c => !isWord c) = true := by decide +kernel
    have outside := List.all_eq_true.mp brackets c (List.contains_iff_mem.mp bracket)
    simp [word] at outside

namespace Removal

-- Only the blanks before the type may not be left out.
def Handle (blank : Char → Bool) (type name entry : Text) : Prop :=
  ∃ first second third, entry = name ++ first ++ ':' :: second ++ "*mut".toList ++ third ++ type ∧
    isName name = true ∧ (∀ c ∈ first, blank c = true) ∧ (∀ c ∈ second, blank c = true) ∧
    third ≠ [] ∧ ∀ c ∈ third, blank c = true

def LineEnd (trail : Text) : Prop :=
  ∃ first separator second feed, trail = first ++ separator ++ second ++ feed ++ ['\n'] ∧
    (∀ c ∈ first, isIndent c = true) ∧ (separator = [] ∨ separator = [',']) ∧
    (∀ c ∈ second, isIndent c = true) ∧ (feed = [] ∨ feed = ['\r'])

def Alone (type name line : Text) : Prop :=
  ∃ lead entry trail, line = lead ++ entry ++ trail ∧ (∀ c ∈ lead, isIndent c = true) ∧
    Handle isIndent type name entry ∧ LineEnd trail

theorem handle_widens (written : Handle isIndent type name entry) :
    Handle isBlank type name entry := by
  obtain ⟨first, second, third, same, named, run, run', nonempty, run''⟩ := written
  exact ⟨first, second, third, same, named, fun c member => indent_blank (run c member),
    fun c member => indent_blank (run' c member), nonempty,
    fun c member => indent_blank (run'' c member)⟩

theorem handle_unique {name entry rest name' entry' rest' : Text} (typed : isName type = true)
    (written : Handle isBlank type name entry) (written' : Handle isBlank type name' entry')
    (same : entry ++ rest = entry' ++ rest') : name = name' ∧ entry = entry' ∧ rest = rest' := by
  obtain ⟨first, second, third, rfl, named, run, run', nonempty, run''⟩ := written
  obtain ⟨first', second', third', rfl, named', run4, run5, nonempty', run6⟩ := written'
  have star : ∀ later : Text, Stops isBlank ("*mut".toList ++ later) :=
    fun later => stops_cons.mpr (by decide)
  simp only [List.append_assoc, List.cons_append] at same
  obtain ⟨rfl, behindName⟩ := run_unique same (isName_word named)
    (blank_stops_word run (colon_stops _).1) (isName_word named')
    (blank_stops_word run4 (colon_stops _).1)
  obtain ⟨rfl, atColon⟩ := run_unique behindName run (colon_stops _).2 run4 (colon_stops _).2
  obtain ⟨rfl, atStar⟩ := run_unique (List.cons.inj atColon).2 run' (star _) run5 (star _)
  obtain ⟨rfl, atType⟩ := run_unique (List.append_cancel_left atStar) run'' (name_stops_blank typed)
    run6 (name_stops_blank typed)
  exact ⟨rfl, rfl, List.append_cancel_left atType⟩

theorem lineEnd_optional {c : Char} {source rest : Text} {read : Unit}
    (taken : Scan.optionally c source = some (read, rest)) :
    ∃ piece, source = piece ++ rest ∧ (piece = [] ∨ piece = [c]) := by
  rcases Scan.optionally_exact.mp taken with rfl | ⟨rfl, -⟩
  · exact ⟨[c], rfl, .inr rfl⟩
  · exact ⟨[], rfl, .inl rfl⟩

theorem ownLineForm_sound {source name rest : Text}
    (read : ownLineForm type source = some (name, rest)) :
    ∃ line, source = line ++ rest ∧ Alone type name line := by
  simp only [ownLineForm, Scan.bind_exact, Scan.literal_exact, Scan.span_exact, Scan.name_exact,
    Scan.pure_exact] at read
  obtain ⟨lead, _, ⟨rfl, run, -⟩, _, _, ⟨rfl, named, -⟩, first, _, ⟨rfl, run', -⟩, -, _, rfl, second,
    _, ⟨rfl, run'', -⟩, -, _, rfl, _, _, ending, rfl, rfl⟩ := read
  obtain ⟨third, _, rfl, nonempty, run''', ended⟩ := Scan.afterBlanks_sound ending
  simp only [Scan.bind_exact, Scan.literal_exact, Scan.span_exact] at ended
  obtain ⟨-, _, rfl, last, _, ⟨rfl, run4, -⟩, _, _, separated, last', _, ⟨rfl, run5, -⟩, _, _,
    returned, rfl⟩ := ended
  obtain ⟨separator, rfl, chosen⟩ := lineEnd_optional separated
  obtain ⟨feed, rfl, chosen'⟩ := lineEnd_optional returned
  exact ⟨_, by simp, lead, _, _, rfl, run,
    ⟨first, second, third, rfl, named, run', run'', nonempty, run'''⟩,
    last, separator, last', feed, rfl, run4, chosen, run5, chosen'⟩

theorem lineEnd_complete {trail rest : Text} (ends : LineEnd trail) :
    (do
      let _ ← Scan.span isIndent
      Scan.optionally ','
      let _ ← Scan.span isIndent
      Scan.optionally '\r'
      Scan.literal ['\n'] : Scan Unit) (trail ++ rest) = some ((), rest) := by
  obtain ⟨first, separator, second, feed, rfl, run, chosen, run', chosen'⟩ := ends
  have fed : Stops isIndent (feed ++ ['\n'] ++ rest) ∧
      Scan.optionally '\r' (feed ++ ['\n'] ++ rest) = some ((), '\n' :: rest) ∧
      (feed ++ ['\n'] ++ rest).head? ≠ some ',' := by
    rcases chosen' with rfl | rfl <;> simp [Scan.optionally_exact] <;> decide
  simp only [Scan.bind_exact, Scan.literal_exact, Scan.span_exact]
  rcases chosen with rfl | rfl
  · refine ⟨first ++ second, feed ++ ['\n'] ++ rest, ⟨by simp, ?_, fed.1⟩, (),
      feed ++ ['\n'] ++ rest, Scan.optionally_exact.mpr (.inr ⟨rfl, fed.2.2⟩), [],
      feed ++ ['\n'] ++ rest, ⟨by simp, by simp, fed.1⟩, (), '\n' :: rest, fed.2.1, rfl⟩
    intro c member
    exact (List.mem_append.mp member).elim (run c) (run' c)
  · exact ⟨first, [','] ++ second ++ feed ++ ['\n'] ++ rest, ⟨by simp, run, by simp; decide⟩, (),
      second ++ feed ++ ['\n'] ++ rest, Scan.optionally_exact.mpr (.inl (by simp)), second,
      feed ++ ['\n'] ++ rest, ⟨by simp, run', fed.1⟩, (), '\n' :: rest, fed.2.1, rfl⟩

theorem ownLineForm_complete {name rest : Text} (solid : ∀ later, Stops isBlank (type ++ later))
    (alone : Alone type name line) : ownLineForm type (line ++ rest) = some (name, rest) := by
  obtain ⟨lead, _, trail, rfl, run, ⟨first, second, third, rfl, named, run', run'', nonempty,
    run'''⟩, ends⟩ := alone
  have star : Stops isIndent ("*mut".toList ++ (third ++ (type ++ (trail ++ rest)))) := by
    simp; decide
  have shape : lead ++ (name ++ first ++ ':' :: second ++ "*mut".toList ++ third ++ type) ++ trail ++
      rest = lead ++ (name ++ (first ++ ([':'] ++ (second ++ ("*mut".toList ++
        (third ++ (type ++ (trail ++ rest)))))))) := by simp
  rw [shape]
  simp only [ownLineForm, Scan.bind_exact, Scan.literal_exact, Scan.span_exact, Scan.name_exact,
    Scan.pure_exact]
  refine ⟨lead, _, ⟨rfl, run, stops_indent (name_stops_blank named)⟩, name, _, ⟨rfl, named, ?_⟩,
    first, _, ⟨rfl, run', by simp; decide⟩, (), _, rfl, second, _, ⟨rfl, run'', star⟩, (), _, rfl,
    (), rest, ?_, rfl, rfl⟩
  · exact blank_stops_word (fun c member => indent_blank (run' c member)) (by simp; decide)
  · apply Scan.afterBlanks_complete nonempty run''' (stops_indent (solid _))
    exact Scan.bind_exact.mpr ⟨(), trail ++ rest, Scan.literal_exact.mpr rfl, lineEnd_complete ends⟩

theorem lineEnd_breaks (ends : LineEnd trail) : '\n' ∈ trail := by
  obtain ⟨first, separator, second, feed, rfl, -⟩ := ends
  simp

theorem ownLine_unbroken {type block : Text} (unbroken : '\n' ∉ block) :
    Scan.findAtLineStart (ownLineForm type) true block = none := by
  refine Scan.findAtLineStart_none_exact.mpr fun front source same _ => ?_
  cases read : ownLineForm type source with
  | none => rfl
  | some found =>
    obtain ⟨_, rfl, lead, entry, trail, rfl, -, -, ends⟩ := ownLineForm_sound read
    exact absurd (by simp [same, lineEnd_breaks ends]) unbroken

-- The line a handle stands alone on has no break before its colon.
theorem ownLine_behind {front back : Text} (absent : ':' ∉ front) (breaks : '\n' ∈ front) :
    ownLineForm type (front ++ ':' :: back) = none := by
  cases read : ownLineForm type (front ++ ':' :: back) with
  | none => rfl
  | some found =>
    obtain ⟨_, same, lead, entry, trail, rfl, run, written, -⟩ := ownLineForm_sound read
    obtain ⟨first, second, third, rfl, named, run', -⟩ := written
    have plain : ∀ c ∈ lead ++ found.1 ++ first, isIndent c = true ∨ isWord c = true := by
      intro c member
      simp only [List.mem_append] at member
      rcases member with (member | member) | member
      · exact .inl (run c member)
      · exact .inr (isName_word named c member)
      · exact .inl (run' c member)
    have colon : ':' ∉ lead ++ found.1 ++ first :=
      sign_absent (fun c member => (plain c member).imp_left indent_blank) colon_sign
    have shape : front ++ ':' :: back = (lead ++ found.1 ++ first) ++
        ':' :: (second ++ "*mut".toList ++ third ++ type ++ trail ++ found.2) := by simpa using same
    rw [(Text.cut_unique shape absent colon).1] at breaks
    rcases plain '\n' breaks with indent | word
    · exact absurd indent (by decide)
    · rw [blank_not_word (by decide)] at word
      cases word

theorem inlineEntry_sound {source name rest : Text}
    (read : inlineEntry type source = some (name, rest)) :
    ∃ entry, source = entry ++ rest ∧ Handle isBlank type name entry ∧
      isWordBoundary type.getLast? rest.head? = true := by
  simp only [inlineEntry, Scan.bind_exact, Scan.literal_exact, Scan.blanks_exact, Scan.name_exact,
    Scan.pure_exact] at read
  obtain ⟨_, _, ⟨rfl, named, -⟩, first, _, ⟨rfl, run, -⟩, -, _, rfl, second, _, ⟨rfl, run', -⟩, -,
    _, rfl, _, _, ending, rfl, rfl⟩ := read
  obtain ⟨third, _, rfl, nonempty, run'', ended⟩ := Scan.afterBlanks_sound ending
  obtain ⟨_, _, typed, bounded⟩ := Scan.bind_exact.mp ended
  cases Scan.literal_exact.mp typed
  unfold wordBoundaryAfter at bounded
  split at bounded
  · rename_i bound
    cases bounded
    exact ⟨_, by simp, ⟨first, second, third, rfl, named, run, run', nonempty, run''⟩, bound⟩
  · cases bounded

theorem boundary_exact {rest : Text} (typed : isName type = true) :
    isWordBoundary type.getLast? rest.head? = true ↔ Stops isWord rest := by
  rw [isWordBoundary, name_ends_word typed]
  cases rest with
  | nil => simp
  | cons c rest => cases word : isWord c <;> simp [word]

theorem inlineEntry_complete {name entry rest : Text}
    (solid : ∀ later, Stops isBlank (type ++ later))
    (written : Handle isBlank type name entry)
    (bounded : isWordBoundary type.getLast? rest.head? = true) :
    inlineEntry type (entry ++ rest) = some (name, rest) := by
  obtain ⟨first, second, third, rfl, named, run, run', nonempty, run''⟩ := written
  have shape : name ++ first ++ ':' :: second ++ "*mut".toList ++ third ++ type ++ rest =
      name ++ (first ++ ([':'] ++ (second ++ ("*mut".toList ++ (third ++ (type ++ rest)))))) := by
    simp
  have star : Stops isBlank ("*mut".toList ++ (third ++ (type ++ rest))) := by simp; decide
  rw [shape]
  simp only [inlineEntry, Scan.bind_exact, Scan.literal_exact, Scan.blanks_exact, Scan.name_exact,
    Scan.pure_exact]
  refine ⟨name, _, ⟨rfl, named, blank_stops_word run (by simp; decide)⟩, first, _,
    ⟨rfl, run, by simp; decide⟩, (), _, rfl, second, _, ⟨rfl, run', star⟩, (), _, rfl,
    (), rest, ?_, rfl, rfl⟩
  apply Scan.afterBlanks_complete nonempty run'' (solid _)
  refine Scan.bind_exact.mpr ⟨(), rest, Scan.literal_exact.mpr rfl, ?_⟩
  simp [wordBoundaryAfter, bounded]

theorem comma?_exact {source rest : Text} :
    comma? source = some rest ↔
      ∃ gap, source = ',' :: gap ++ rest ∧ (∀ c ∈ gap, isBlank c = true) ∧ Stops isBlank rest := by
  unfold comma?
  split
  · simp only [Option.some.injEq, trimStart_exact, List.cons_append, List.cons.injEq, true_and]
  · rename_i other
    simp only [reduceCtorEq, false_iff]
    intro written
    obtain ⟨gap, rfl, -⟩ := written
    exact other _ rfl

theorem comma?_none_exact {source : Text} : comma? source = none ↔ source.head? ≠ some ',' := by
  unfold comma?
  split
  · simp
  · rename_i other
    cases source with
    | nil => simp
    | cons c source =>
      have differs : c ≠ ',' := fun same => other source (by rw [same])
      simpa using differs

-- Where nothing behind the handle goes, its type ends there.
structure Cut (type : Text) (removal : Removal) (lead entry trail : Text) : Prop where
  deleted : removal.deleted = lead ++ entry ++ trail
  written : Handle isBlank type removal.handle entry
  around : ∀ c ∈ lead ++ trail, isBlank c = true ∨ c = ','
  commas : (lead ++ trail).count ',' ≤ 1
  bounded : trail = [] → isWordBoundary type.getLast? removal.after.head? = true

theorem blanks_no_comma {gap : Text} (run : ∀ c ∈ gap, isBlank c = true) : gap.count ',' = 0 := by
  refine List.count_eq_zero.mpr fun member => ?_
  cases comma_sign.1.symm.trans (run _ member)

theorem lineEnd_around (ends : LineEnd trail) :
    (∀ c ∈ trail, isBlank c = true ∨ c = ',') ∧ trail.count ',' ≤ 1 ∧ trail ≠ [] := by
  obtain ⟨first, separator, second, feed, rfl, run, chosen, run', chosen'⟩ := ends
  have blanks := blanks_no_comma fun c member => indent_blank (run c member)
  have blanks' := blanks_no_comma fun c member => indent_blank (run' c member)
  refine ⟨?_, ?_, by simp⟩
  · intro c member
    simp only [List.mem_append, List.mem_singleton] at member
    rcases member with (((member | member) | member) | member) | rfl
    · exact .inl (indent_blank (run c member))
    · rcases chosen with rfl | rfl
      · cases member
      · exact .inr (List.mem_singleton.mp member)
    · exact .inl (indent_blank (run' c member))
    · rcases chosen' with rfl | rfl
      · cases member
      · exact .inl (List.mem_singleton.mp member ▸ rfl)
    · exact .inl rfl
  · simp only [List.count_append, blanks, blanks']
    rcases chosen with rfl | rfl <;> rcases chosen' with rfl | rfl <;> decide

theorem comma?_opened (source : Text) :
    ∃ front opened, source = front ++ opened ∧ (comma? source).getD source = opened ∧
      (front = [] ∨ ∃ gap, front = ',' :: gap ∧ ∀ c ∈ gap, isBlank c = true) := by
  cases separated : comma? source with
  | none => exact ⟨[], source, rfl, rfl, .inl rfl⟩
  | some opened =>
    obtain ⟨gap, rfl, run, -⟩ := comma?_exact.mp separated
    exact ⟨',' :: gap, opened, rfl, rfl, .inr ⟨gap, rfl, run⟩⟩

theorem opened_around
    (placed : front = [] ∨ ∃ gap, front = ',' :: gap ∧ ∀ c ∈ gap, isBlank c = true) :
    (∀ c ∈ front, isBlank c = true ∨ c = ',') ∧ front.count ',' ≤ 1 := by
  rcases placed with rfl | ⟨gap, rfl, run⟩
  · simp
  · refine ⟨?_, by simp [blanks_no_comma run]⟩
    simpa using fun c member => .inl (run c member)

-- The comma behind it goes with it, or else the one before it.
theorem inlineForm_cut {source rest : Text} {removal : Removal}
    (read : inlineForm type source = some (removal, rest)) :
    ∃ front entry back, source = front ++ entry ++ back ∧
      (front = [] ∨ ∃ gap, front = ',' :: gap ∧ ∀ c ∈ gap, isBlank c = true) ∧
      ∃ lead trail, removal.before ++ lead = front ∧ trail ++ removal.after = back ∧
        Cut type removal lead entry trail := by
  obtain ⟨front, opened, rfl, opening, placed⟩ := comma?_opened source
  obtain ⟨commas, few⟩ := opened_around placed
  simp only [inlineForm, Option.bind_eq_bind, Option.bind_eq_some_iff, Prod.exists, opening] at read
  obtain ⟨handle, back, entered, read⟩ := read
  obtain ⟨entry, rfl, written, bounded⟩ := inlineEntry_sound entered
  refine ⟨front, entry, back, by simp, placed, ?_⟩
  cases separated : comma? (Text.trimStart back) with
  | some after =>
    rw [separated] at read
    cases read
    obtain ⟨gap, trimmed, run, -⟩ := comma?_exact.mp separated
    obtain ⟨gap', rfl, run', -⟩ := trimStart_exact.mp trimmed
    have behind : entry ++ (gap' ++ (',' :: gap ++ rest)) =
        entry ++ (gap' ++ ',' :: gap) ++ rest := by simp
    have cut := Text.before_append (entry ++ (gap' ++ ',' :: gap)) rest
    rw [← behind] at cut
    refine ⟨[], gap' ++ ',' :: gap, ?_, by simp, cut, written, ?_, ?_, by simp⟩
    · rw [Text.before_append]
      simp
    · intro c member
      simp only [List.nil_append, List.mem_append, List.mem_cons] at member
      rcases member with member | rfl | member
      · exact .inl (run' c member)
      · exact .inr rfl
      · exact .inl (run c member)
    · simp [blanks_no_comma run, blanks_no_comma run']
  | none =>
    rw [separated] at read
    cases read
    refine ⟨front, [], rfl, rfl, ?_, written, by simpa using commas, by simpa using few,
      fun _ => bounded⟩
    rw [← List.append_assoc, Text.before_append]
    simp

-- The form is decided by the handle alone: what else goes with it is optional.
theorem inlineForm_handle (type source : Text) :
    (inlineForm type source).map (·.1.handle) =
      (inlineEntry type ((comma? source).getD source)).map (·.1) := by
  simp only [inlineForm, Option.bind_eq_bind]
  cases inlineEntry type ((comma? source).getD source) with
  | none => rfl
  | some read =>
    simp only [Option.bind_some]
    cases comma? (Text.trimStart read.2) <;> rfl

theorem inlineForm_stands {source opened rest : Text}
    (opening : (comma? source).getD source = opened)
    (read : inlineEntry type opened = some (name, rest)) :
    ∃ removal rest', inlineForm type source = some (removal, rest') := by
  have handle := inlineForm_handle type source
  rw [opening, read] at handle
  obtain ⟨⟨removal, rest'⟩, stands, -⟩ := Option.map_eq_some_iff.mp handle
  exact ⟨removal, rest', stands⟩

theorem separated_no_colon {lead name gap : Text} (around : ∀ c ∈ lead, isBlank c = true ∨ c = ',')
    (named : isName name = true) (run : ∀ c ∈ gap, isBlank c = true) :
    ':' ∉ lead ++ name ++ gap := by
  simp only [List.mem_append, not_or]
  refine ⟨⟨fun member => ?_, fun member => ?_⟩, fun member => ?_⟩
  · rcases around _ member with blank | other
    · cases colon_sign.1.symm.trans blank
    · exact absurd other (by decide)
  · cases colon_sign.2.symm.trans (isName_word named _ member)
  · cases colon_sign.1.symm.trans (run _ member)

-- Before the colon of a handle among others no sign stands but one comma, first of all.
theorem inlineForm_colon {front back earlier later : Text} (absent : ':' ∉ front)
    (read : inlineForm type (front ++ ':' :: back) = some found)
    (split : front = earlier ++ c :: later) :
    (isBlank c = true ∨ isWord c = true) ∨ (c = ',' ∧ earlier = []) := by
  obtain ⟨comma, entry, rest, same, placed, lead, trail, -, -, cut⟩ := inlineForm_cut read
  obtain ⟨gap, second, third, rfl, named, run, -⟩ := cut.written
  have shape : front ++ ':' :: back = (comma ++ found.1.handle ++ gap) ++
      ':' :: (second ++ "*mut".toList ++ third ++ type ++ rest) := by simpa using same
  have colon := separated_no_colon (opened_around placed).1 named run
  have whole := split.symm.trans (Text.cut_unique shape absent colon).1
  have plain : ∀ d ∈ found.1.handle ++ gap, isBlank d = true ∨ isWord d = true := by
    intro d member
    rcases List.mem_append.mp member with member | member
    · exact .inr (isName_word named d member)
    · exact .inl (run d member)
  rcases placed with rfl | ⟨blanks, rfl, blank⟩
  · rw [List.nil_append] at whole
    exact .inl (plain c (by rw [← whole]; simp))
  · cases earlier with
    | nil => exact .inr ⟨(List.cons.inj whole).1, rfl⟩
    | cons d earlier =>
      left
      have behind : earlier ++ c :: later = blanks ++ (found.1.handle ++ gap) := by
        simpa using (List.cons.inj whole).2
      have among : c ∈ blanks ++ (found.1.handle ++ gap) := by
        rw [← behind]
        simp
      rcases List.mem_append.mp among with member | member
      · exact .inl (blank c member)
      · exact plain c member

theorem comma?_placed {front opened : Text} (stops : Stops isBlank opened)
    (other : opened.head? ≠ some ',')
    (placed : front = [] ∨ ∃ gap, front = ',' :: gap ∧ ∀ c ∈ gap, isBlank c = true) :
    (comma? (front ++ opened)).getD (front ++ opened) = opened := by
  rcases placed with rfl | ⟨gap, rfl, run⟩
  · rw [List.nil_append, comma?_none_exact.mpr other]
    rfl
  · rw [comma?_exact.mpr ⟨gap, rfl, run, stops⟩]
    rfl

theorem inlineForm_reads {front entry back : Text} (typed : isName type = true)
    (placed : front = [] ∨ ∃ gap, front = ',' :: gap ∧ ∀ c ∈ gap, isBlank c = true)
    (written : Handle isBlank type name entry) (stops : Stops isWord back) :
    ∃ removal, inlineForm type (front ++ (entry ++ back)) = some (removal, removal.after) ∧
      removal.handle = name ∧
      match comma? (Text.trimStart back) with
      | some after => removal.before = front ∧ removal.after = after
      | none => removal.before = [] ∧ removal.after = back := by
  have entered := inlineEntry_complete (fun _ => name_stops_blank typed) written
    ((boundary_exact typed).mpr stops)
  have opening : (comma? (front ++ (entry ++ back))).getD (front ++ (entry ++ back)) =
      entry ++ back := by
    obtain ⟨first, second, third, rfl, named, -⟩ := written
    simp only [List.append_assoc]
    refine comma?_placed (name_stops_blank named) ?_ placed
    cases name with
    | nil => cases named
    | cons c rest =>
      rintro comma
      obtain rfl : c = ',' := by simpa using comma
      cases comma_sign.2.symm.trans (isName_word named ',' (by simp))
  simp only [inlineForm, Option.bind_eq_bind, opening, entered, Option.bind_some]
  cases comma? (Text.trimStart back) with
  | some after => exact ⟨_, rfl, rfl, Text.before_append front _, rfl⟩
  | none => exact ⟨_, rfl, rfl, rfl, rfl⟩

theorem find?_line {block front name back : Text}
    (found : Scan.findAtLineStart (ownLineForm type) true block = some (front, name, back)) :
    ∃ line, block = front ++ line ++ back ∧ Scan.startsLine true front = true ∧
      Alone type name line ∧ find? type block = some ⟨front, name, line, back⟩ := by
  obtain ⟨source, rfl, starts, read, -⟩ := Scan.findAtLineStart_some_exact.mp found
  obtain ⟨line, rfl, alone⟩ := ownLineForm_sound read
  refine ⟨line, by simp, starts, alone, ?_⟩
  rw [find?, found]
  simp [Text.before_append]

theorem alone_cut {name line : Text} (front back : Text) (alone : Alone type name line) :
    ∃ lead entry trail, Cut type ⟨front, name, line, back⟩ lead entry trail ∧
      (∀ c ∈ lead, isIndent c = true) ∧ Handle isIndent type name entry := by
  obtain ⟨lead, entry, trail, rfl, run, written, ends⟩ := alone
  obtain ⟨around, commas, nonempty⟩ := lineEnd_around ends
  refine ⟨lead, entry, trail, ⟨rfl, handle_widens written, ?_, ?_, fun same => absurd same nonempty⟩,
    run, written⟩
  · intro c member
    rcases List.mem_append.mp member with member | member
    · exact .inl (indent_blank (run c member))
    · exact around c member
  · rw [List.count_append, blanks_no_comma fun c member => indent_blank (run c member)]
    omega

theorem find?_among {type block : Text} {removal : Removal}
    (none : Scan.findAtLineStart (ownLineForm type) true block = none)
    (found : find? type block = some removal) :
    ∃ gap inner rest, Scan.findFirst (inlineForm type) block = some (gap, inner, rest) ∧
      removal = { inner with before := gap ++ inner.before } := by
  rw [find?, none] at found
  obtain ⟨⟨gap, inner, rest⟩, place, same⟩ := Option.map_eq_some_iff.mp found
  exact ⟨gap, inner, rest, place, same.symm⟩

theorem find?_cut {type block : Text} {removal : Removal}
    (found : find? type block = some removal) :
    block = removal.before ++ removal.deleted ++ removal.after ∧
      ∃ lead entry trail, Cut type removal lead entry trail := by
  cases line : Scan.findAtLineStart (ownLineForm type) true block with
  | some read =>
    obtain ⟨front, name, back⟩ := read
    obtain ⟨_, rfl, -, alone, removed⟩ := find?_line line
    cases found.symm.trans removed
    obtain ⟨lead, entry, trail, cut, -⟩ := alone_cut front back alone
    exact ⟨rfl, lead, entry, trail, cut⟩
  | none =>
    obtain ⟨gap, inner, rest, place, rfl⟩ := find?_among line found
    obtain ⟨source, rfl, read, -⟩ := Scan.findFirst_some_exact.mp place
    obtain ⟨_, entry, _, rfl, -, lead, trail, rfl, rfl, cut⟩ := inlineForm_cut read
    exact ⟨by simp [cut.deleted], lead, entry, trail, cut.deleted, cut.written, cut.around,
      cut.commas, cut.bounded⟩

theorem handle_characters (written : Handle isBlank type name entry) :
    ∀ c ∈ entry, isBlank c = true ∨ isWord c = true ∨ c = ':' ∨ c = '*' ∨ c ∈ type := by
  obtain ⟨first, second, third, rfl, named, run, run', -, run''⟩ := written
  have letters : ∀ c ∈ "mut".toList, isWord c = true := List.all_eq_true.mp (by decide +kernel)
  intro c member
  simp only [List.mem_append, List.mem_cons] at member
  rcases member with (((((member | member) | rfl | member) | member) | member) | member)
  · exact .inr (.inl (isName_word named c member))
  · exact .inl (run c member)
  · exact .inr (.inr (.inl rfl))
  · exact .inl (run' c member)
  · rcases List.mem_cons.mp (show c ∈ '*' :: "mut".toList from member) with rfl | member
    · exact .inr (.inr (.inr (.inl rfl)))
    · exact .inr (.inl (letters c member))
  · exact .inl (run'' c member)
  · exact .inr (.inr (.inr (.inr member)))

theorem handle_no_bracket (written : Handle isBlank type name entry)
    (plain : ∀ c ∈ type, isBracket c = false) : ∀ c ∈ entry, isBracket c = false := by
  intro c member
  rcases handle_characters written c member with blank | word | rfl | rfl | inside
  · exact blank_no_bracket blank
  · exact word_no_bracket word
  · decide
  · decide
  · exact plain c inside

theorem around_no_bracket (around : isBlank c = true ∨ c = ',') : isBracket c = false := by
  rcases around with blank | rfl
  · exact blank_no_bracket blank
  · decide

theorem cut_no_bracket {removal : Removal} (cut : Cut type removal lead entry trail)
    (plain : ∀ c ∈ type, isBracket c = false) : ∀ c ∈ removal.deleted, isBracket c = false := by
  intro c member
  rw [cut.deleted] at member
  rcases List.mem_append.mp member with member | member
  · rcases List.mem_append.mp member with member | member
    · exact around_no_bracket (cut.around c (List.mem_append_left _ member))
    · exact handle_no_bracket cut.written plain c member
  · exact around_no_bracket (cut.around c (List.mem_append_right _ member))

theorem cut_commas {removal : Removal} (cut : Cut type removal lead entry trail)
    (plain : ',' ∉ type) : removal.deleted.count ',' ≤ 1 := by
  have none : entry.count ',' = 0 := by
    refine List.count_eq_zero.mpr fun member => ?_
    rcases handle_characters cut.written ',' member with blank | word | colon | star | inside
    · cases comma_sign.1.symm.trans blank
    · cases comma_sign.2.symm.trans word
    · exact absurd colon (by decide)
    · exact absurd star (by decide)
    · exact plain inside
  have few := cut.commas
  rw [List.count_append] at few
  simp only [cut.deleted, List.count_append, none]
  omega

-- Nothing of a header goes: the first colon behind it is the handle's, and what stands
-- before that colon in the cut has no parenthesis.
theorem find?_behind {header inside : Text} {removal : Removal}
    (found : find? type (header ++ inside) = some removal) (opens : ∃ words, header = words ++ ['('])
    (absent : ':' ∉ header) : ∃ kept, removal.before = header ++ kept := by
  obtain ⟨same, lead, entry, trail, cut⟩ := find?_cut found
  obtain ⟨first, second, third, shape, named, run, -⟩ := cut.written
  rw [cut.deleted, shape] at same
  have split : header ++ inside = removal.before ++ ((lead ++ removal.handle ++ first) ++
      ':' :: (second ++ "*mut".toList ++ third ++ type ++ trail ++ removal.after)) := by
    rw [same]; simp
  rcases List.append_eq_append_iff.mp split with ⟨kept, same, -⟩ | ⟨cropped, same, rest⟩
  · exact ⟨kept, same⟩
  · obtain ⟨words, rfl⟩ := opens
    rcases List.eq_nil_or_concat cropped with rfl | ⟨front, c, rfl⟩
    · exact ⟨[], by simp [same]⟩
    have last : c = '(' := by
      have ends := congrArg List.getLast? same
      simpa using ends.symm
    subst last
    exfalso
    have bare : '(' ∉ lead ++ removal.handle ++ first := by
      simp only [List.mem_append, not_or]
      refine ⟨⟨fun member => ?_, fun member => ?_⟩, fun member => ?_⟩
      · rcases cut.around '(' (by simp [member]) with blank | comma
        · cases paren_sign.1.symm.trans blank
        · exact absurd comma (by decide)
      · cases paren_sign.2.symm.trans (isName_word named _ member)
      · cases paren_sign.1.symm.trans (run _ member)
    rcases List.append_eq_append_iff.mp rest with ⟨more, shift, shift'⟩ | ⟨more, shift, -⟩
    · cases more with
      | nil => exact bare (by rw [← List.append_nil (lead ++ _ ++ _), ← shift]; simp)
      | cons c more =>
        have colon : ':' = c := (List.cons.inj shift').1
        subst colon
        exact absent (by rw [same, shift]; simp)
    · exact bare (by simp [shift])

-- A cut that reached the brace would end in a blank, a comma or a word.
theorem find?_before {block : Text} {removal : Removal}
    (found : find? type (block ++ ['{']) = some removal) : ∃ kept, removal.after = kept ++ ['{'] := by
  obtain ⟨same, lead, entry, trail, cut⟩ := find?_cut found
  rcases List.eq_nil_or_concat removal.after with empty | ⟨kept, c, ends⟩
  · exfalso
    have last := congrArg List.getLast? same
    rw [empty, cut.deleted] at last
    rcases List.eq_nil_or_concat trail with rfl | ⟨front, c, rfl⟩
    · have bounded := cut.bounded rfl
      obtain ⟨front, rfl⟩ : ∃ front, entry = front ++ type := by
        obtain ⟨first, second, third, shape, -⟩ := cut.written
        exact ⟨_, shape⟩
      rcases List.eq_nil_or_concat type with rfl | ⟨word, c, rfl⟩
      · simp [isWordBoundary, empty] at bounded
      · have brace : '{' = c := by simpa using last
        subst brace
        have outside : isWord '{' = false := by decide +kernel
        simp [isWordBoundary, empty, outside] at bounded
    · have brace : '{' = c := by simpa using last
      subst brace
      rcases cut.around '{' (by simp) with blank | comma
      · revert blank; decide
      · revert comma; decide
  · have brace : '{' = c := by
      have last := congrArg List.getLast? same
      simpa [ends] using last
    subst brace
    exact ⟨kept, by simp [ends]⟩

end Removal
end PluginBindings
