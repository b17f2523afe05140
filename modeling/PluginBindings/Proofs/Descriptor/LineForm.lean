import PluginBindings.Descriptor.LineForm
import PluginBindings.Proofs.Text.Cut
import PluginBindings.Proofs.Text.Scan

namespace PluginBindings
namespace Descriptor

-- No line has two forms, so the reader's order of questions never decides.

theorem declared_bracket (declared : declaredKey? line = some key) : '[' ∈ line := by
  refine Decidable.byContradiction fun absent => ?_
  have nothing : line.dropWhile (· != '[') = [] := by
    have run : ∀ c ∈ line, (c != '[') = true := by
      intro c member
      rw [bne_iff_ne]
      rintro rfl
      exact absent member
    simpa using dropWhile_run run stops_nil
  simp [declaredKey?, nothing, Scan.whole, arrayOpening, bind, StateT.bind, Scan.literal] at declared

theorem sign_not_blank (member : c ∈ line) (sign : isBlank c = false) :
    Text.isBlankText line = false := by
  rw [Text.isBlankText, List.all_eq_false]
  exact ⟨c, member, by rw [sign]; decide⟩

theorem declared_not_blank (declared : declaredKey? line = some key) :
    Text.isBlankText line = false :=
  sign_not_blank (declared_bracket declared) (by decide)

-- A label is all that stands between the first quote of its line and the last one.
def Spans (line label : Text) : Prop :=
  ∃ front back, line = front ++ '"' :: (label ++ '"' :: back) ∧ '"' ∉ front ∧ '"' ∉ back

theorem Spans.unique (spans : Spans line label) (spans' : Spans line other) : label = other := by
  obtain ⟨front, back, rfl, bare, bare'⟩ := spans
  obtain ⟨front', back', same, first, last⟩ := spans'
  have opened := (Text.cut_unique same bare first).2
  have cut : Text.cutAtLast? '"' (label ++ '"' :: back) = some (label, back) :=
    Text.cutAtLast?_exact.mpr ⟨rfl, bare'⟩
  rw [opened, Text.cutAtLast?_exact.mpr ⟨rfl, last⟩] at cut
  cases cut
  rfl

theorem Spans.inside (spans : Spans line label) : label ⊆ line ∧ '"' ∈ line := by
  obtain ⟨front, back, rfl, -⟩ := spans
  exact ⟨fun c member => by simp [member], by simp⟩

theorem betweenQuotes?_exact : betweenQuotes? line = some label ↔ Spans line label := by
  simp only [betweenQuotes?, Option.bind_eq_bind, Option.bind_eq_some_iff]
  constructor
  · intro between
    obtain ⟨⟨front, inside⟩, opened, ⟨found, back⟩, closed, kept⟩ := between
    cases kept
    obtain ⟨rfl, bare⟩ := Text.cutAt?_exact.mp opened
    obtain ⟨rfl, bare'⟩ := Text.cutAtLast?_exact.mp closed
    exact ⟨front, back, rfl, bare, bare'⟩
  · intro spans
    obtain ⟨front, back, rfl, bare, bare'⟩ := spans
    exact ⟨(front, label ++ '"' :: back), Text.cutAt?_exact.mpr ⟨rfl, bare⟩, (label, back),
      Text.cutAtLast?_exact.mpr ⟨rfl, bare'⟩, rfl⟩

-- The quote that opens a label in a call is the line's first: none stands in the marker.
theorem markerOpening_quote (read : markerOpening line = some ((), inside)) :
    ∃ front, line = front ++ '"' :: inside ∧ '"' ∉ front := by
  simp only [markerOpening, Scan.bind_exact, Scan.literal_exact, Scan.blanks_exact,
    Scan.name_exact] at read
  obtain ⟨lead, _, ⟨rfl, blank, -⟩, name, _, ⟨rfl, named, -⟩, -, _, rfl, gap, _, ⟨rfl, blank', -⟩,
    rfl⟩ := read
  refine ⟨lead ++ name ++ '(' :: gap, by simp, fun quote => ?_⟩
  simp only [List.mem_append, List.mem_cons] at quote
  rcases quote with (quote | quote) | quote | quote
  · exact absurd (blank _ quote) (by decide)
  · exact absurd (isName_word named _ quote) (by decide +kernel)
  · cases quote
  · exact absurd (blank' _ quote) (by decide)

theorem wrappedLabel?_spans (read : wrappedLabel? line = some label) : Spans line label := by
  simp only [wrappedLabel?, Option.bind_eq_bind, Option.bind_eq_some_iff] at read
  obtain ⟨⟨⟨⟩, inside⟩, opened, ⟨found, closing⟩, cut, -, -, kept⟩ := read
  obtain ⟨front, rfl, bare⟩ := markerOpening_quote opened
  obtain ⟨rfl, bare'⟩ := Text.cutAtLast?_exact.mp cut
  split at kept
  · cases kept
  · cases kept
    exact ⟨front, closing, rfl, bare, bare'⟩

theorem label_inside (read : label? line = some label) : label ⊆ line ∧ '"' ∈ line := by
  simp only [label?, Option.orElse_eq_orElse, Option.orElse_eq_or, Option.or_eq_some_iff] at read
  rcases read with wrapped | ⟨-, bare⟩
  · exact (wrappedLabel?_spans wrapped).inside
  · obtain ⟨segment, among, between⟩ := List.exists_of_findSome?_eq_some bare
    have inside := Text.pieces_subset among
    obtain ⟨within, quote⟩ := (betweenQuotes?_exact.mp between).inside
    exact ⟨fun c member => inside (within member), inside quote⟩

theorem label?_exact (unbroken : '\n' ∉ line) : label? line = some label ↔ Spans line label := by
  have single : Text.pieces (· == '\n') line = [line] := by
    apply Text.pieces_single
    intro c member
    rw [beq_eq_false_iff_ne]
    rintro rfl
    exact unbroken member
  have bare : bareLabel? line = betweenQuotes? line := by
    rw [bareLabel?, single, List.findSome?_singleton]
  rw [label?, bare]
  cases wrapped : wrappedLabel? line with
  | none => exact betweenQuotes?_exact
  | some found =>
    have spans := wrappedLabel?_spans wrapped
    constructor
    · intro read
      cases read
      exact spans
    · intro spans'
      rw [spans.unique spans']
      rfl

theorem closing_characters (closing : isClosing line = true) :
    ∀ c ∈ line, isBlank c = true ∨ c = '}' ∨ c = ';' := by
  obtain ⟨⟨⟩, read⟩ := Option.isSome_iff_exists.mp closing
  simp only [closingForm, Scan.whole_exact, Scan.bind_exact, Scan.literal_exact, Scan.blanks_exact,
    Scan.optionally_exact, Scan.pure_exact] at read
  obtain ⟨lead, _, ⟨rfl, front, -⟩, -, _, rfl, gap, _, ⟨rfl, middle, -⟩, -, _, ending, trail, _,
    ⟨rfl, back, -⟩, -, rfl⟩ := read
  intro c member
  rcases ending with rfl | ⟨rfl, -⟩
  · simp only [List.mem_append, List.mem_cons, List.not_mem_nil, or_false] at member
    rcases member with member | member | member | member | member
    · exact .inl (front c member)
    · exact .inr (.inl member)
    · exact .inl (middle c member)
    · exact .inr (.inr member)
    · exact .inl (back c member)
  · simp only [List.mem_append, List.mem_cons, List.not_mem_nil, or_false] at member
    rcases member with member | member | member | member
    · exact .inl (front c member)
    · exact .inr (.inl member)
    · exact .inl (middle c member)
    · exact .inl (back c member)

theorem closing_brace (closing : isClosing line = true) : '}' ∈ line := by
  obtain ⟨⟨⟩, read⟩ := Option.isSome_iff_exists.mp closing
  simp only [closingForm, Scan.whole_exact, Scan.bind_exact, Scan.literal_exact,
    Scan.blanks_exact] at read
  obtain ⟨lead, _, ⟨rfl, -⟩, -, _, rfl, -⟩ := read
  simp

theorem arrayOpening_exact {source : Text} :
    Scan.whole arrayOpening source = some () ↔ ∃ inside ahead behind last : Text,
      source = '[' :: (inside ++ ']' :: (ahead ++ '=' :: (behind ++ '{' :: last))) ∧
        ∀ gap ∈ [inside, ahead, behind, last], ∀ c ∈ gap, isBlank c = true := by
  simp only [arrayOpening, Scan.whole_exact, Scan.bind_exact, Scan.literal_exact,
    Scan.blanks_exact, Scan.pure_exact, List.forall_mem_cons]
  constructor
  · intro opened
    obtain ⟨-, _, rfl, inside, _, ⟨rfl, run, -⟩, -, _, rfl, ahead, _, ⟨rfl, run', -⟩, -, _, rfl,
      behind, _, ⟨rfl, run'', -⟩, -, _, rfl, last, _, ⟨rfl, run''', -⟩, -, rfl⟩ := opened
    exact ⟨inside, ahead, behind, last, by simp, run, run', run'', run''', by simp⟩
  · intro written
    obtain ⟨inside, ahead, behind, last, rfl, run, run', run'', run''', -⟩ := written
    exact ⟨(), _, rfl, inside, _, ⟨rfl, run, stops_cons.mpr (by decide)⟩, (), _, rfl, ahead, _,
      ⟨rfl, run', stops_cons.mpr (by decide)⟩, (), _, rfl, behind, _,
      ⟨rfl, run'', stops_cons.mpr (by decide)⟩, (), _, rfl, last, [], ⟨by simp, run''', stops_nil⟩,
      trivial, rfl⟩

theorem arrayOpening_characters (opened : Scan.whole arrayOpening source = some ()) :
    ∀ c ∈ source, isSpecifier c = true ∨ c ∈ "[]=\x7b".toList := by
  obtain ⟨inside, ahead, behind, last, rfl, blank⟩ := arrayOpening_exact.mp opened
  have specifies : ∀ gap ∈ [inside, ahead, behind, last], ∀ c ∈ gap, isSpecifier c = true := by
    intro gap among c member
    simp [isSpecifier, blank gap among c member]
  intro c member
  simp only [List.mem_append, List.mem_cons] at member
  rcases member with rfl | member | rfl | member | rfl | member | rfl | member
  · exact .inr (by decide)
  · exact .inl (specifies inside (by simp) c member)
  · exact .inr (by decide)
  · exact .inl (specifies ahead (by simp) c member)
  · exact .inr (by decide)
  · exact .inl (specifies behind (by simp) c member)
  · exact .inr (by decide)
  · exact .inl (specifies last (by simp) c member)

theorem specified_characters {front : Text}
    (specifiers : ∀ c ∈ Text.trimStart (Text.before front (front.reverse.takeWhile isWord).reverse),
      isSpecifier c = true) : ∀ c ∈ front, isSpecifier c = true := by
  intro c member
  have parts : front = (front.reverse.dropWhile isWord).reverse ++
      (front.reverse.takeWhile isWord).reverse := by
    rw [← List.reverse_append, List.takeWhile_append_dropWhile, List.reverse_reverse]
  have before := Text.before_append (front.reverse.dropWhile isWord).reverse
    (front.reverse.takeWhile isWord).reverse
  rw [← parts] at before
  rw [before] at specifiers
  rcases dropped_or_run isWord (List.mem_reverse.mpr member) with typed | word
  · rcases dropped_or_run isBlank (List.mem_reverse.mpr typed) with typed | blank
    · exact specifiers c typed
    · simp [isSpecifier, blank]
  · simp [isSpecifier, word]

theorem declared_characters (declared : declaredKey? line = some key) :
    ∀ c ∈ line, isSpecifier c = true ∨ c ∈ "[]=\x7b".toList := by
  simp only [declaredKey?, Option.bind_eq_bind, Option.bind_eq_some_iff] at declared
  obtain ⟨⟨⟩, opened, kept⟩ := declared
  split at kept
  · rename_i formed
    simp only [Bool.and_eq_true, List.all_eq_true] at formed
    intro c member
    rw [← List.takeWhile_append_dropWhile (p := (· != '[')) (l := line)] at member
    rcases List.mem_append.mp member with ahead | behind
    · rcases dropped_or_run isBlank (List.mem_reverse.mpr ahead) with inside | blank
      · exact .inl (specified_characters formed.2 c (List.mem_reverse.mpr inside))
      · exact .inl (by simp [isSpecifier, blank])
    · exact arrayOpening_characters opened c behind
  · cases kept

theorem declared_unlabelled (declared : declaredKey? line = some key) : label? line = none := by
  cases read : label? line with
  | none => rfl
  | some label =>
    rcases declared_characters declared '"' (label_inside read).2 with quote | quote
    · exact absurd quote (by decide +kernel)
    · exact absurd quote (by decide)

theorem declared_not_closing (declared : declaredKey? line = some key) :
    isClosing line = false := by
  cases closing : isClosing line with
  | false => rfl
  | true =>
    rcases closing_characters closing '[' (declared_bracket declared) with blank | brace | semicolon
    · exact absurd blank (by decide)
    · cases brace
    · cases semicolon

theorem label_not_closing (read : label? line = some label) : isClosing line = false := by
  cases closing : isClosing line with
  | false => rfl
  | true =>
    rcases closing_characters closing '"' (label_inside read).2 with quote | quote | quote <;>
      cases quote

theorem specifier_no_bracket (specifies : isSpecifier c = true) : (c != '[') = true := by
  rw [bne_iff_ne]
  rintro rfl
  exact absurd specifies (by decide +kernel)

theorem blank_specifies (blank : isBlank c = true) : isSpecifier c = true := by
  simp [isSpecifier, blank]

theorem word_specifies (word : isWord c = true) : isSpecifier c = true := by
  simp [isSpecifier, word]

theorem opening_bracket (opened : Scan.whole arrayOpening opening = some ()) :
    ∃ rest, opening = '[' :: rest := by
  obtain ⟨_, _, _, _, same, -⟩ := arrayOpening_exact.mp opened
  exact ⟨_, same⟩

theorem nameStart_solid (start : text.head?.any isNameStart = true) : Stops isBlank text := by
  intro c first
  rw [Option.mem_def.mp first] at start
  exact word_not_blank (nameStart_word start)

theorem front_no_bracket {lead specifiers key trail : Text} (blank : ∀ c ∈ lead, isBlank c = true)
    (specifies : ∀ c ∈ specifiers, isSpecifier c = true) (named : isName key = true)
    (blank' : ∀ c ∈ trail, isBlank c = true) :
    ∀ c ∈ lead ++ specifiers ++ key ++ trail, (c != '[') = true := by
  intro c member
  simp only [List.mem_append] at member
  apply specifier_no_bracket
  rcases member with ((member | member) | member) | member
  · exact blank_specifies (blank c member)
  · exact specifies c member
  · exact word_specifies (isName_word named c member)
  · exact blank_specifies (blank' c member)

theorem specifiers_apart (start : specifiers.head?.any isNameStart = true)
    (ends : Stops isWord specifiers.reverse) (lead : Text) :
    Stops isWord (lead ++ specifiers).reverse := by
  cases given : specifiers.reverse with
  | nil =>
    rw [List.reverse_eq_nil_iff.mp given] at start
    cases start
  | cons c rest =>
    rw [given] at ends
    rw [List.reverse_append, given]
    exact stops_cons.mpr (stops_cons.mp ends)

-- The name is the last word before the bracket because what stands before it ends in no word.
theorem declaredKey?_written {lead specifiers key trail opening : Text}
    (blank : ∀ c ∈ lead, isBlank c = true) (start : specifiers.head?.any isNameStart = true)
    (specifies : ∀ c ∈ specifiers, isSpecifier c = true) (ends : Stops isWord specifiers.reverse)
    (named : isName key = true) (blank' : ∀ c ∈ trail, isBlank c = true)
    (opened : Scan.whole arrayOpening opening = some ()) :
    declaredKey? (lead ++ specifiers ++ key ++ trail ++ opening) = some key := by
  have ahead := front_no_bracket blank specifies named blank'
  have stops : Stops (· != '[') opening := by
    obtain ⟨rest, rfl⟩ := opening_bracket opened
    exact stops_cons.mpr (by decide)
  have front : Text.trimEnd (lead ++ specifiers ++ key ++ trail) = lead ++ specifiers ++ key := by
    rw [Text.trimEnd, List.reverse_append, dropWhile_run (by simpa using blank') (name_ends named _),
      List.reverse_reverse]
  have word := specifiers_apart start ends lead
  have last : ((lead ++ specifiers ++ key).reverse.takeWhile isWord).reverse = key := by
    rw [List.reverse_append, takeWhile_run (by simpa using isName_word named) word,
      List.reverse_reverse]
  have typed : Text.trimStart (lead ++ specifiers) = specifiers :=
    trimStart_exact.mpr ⟨lead, rfl, blank, nameStart_solid start⟩
  have checked : specifiers.all isSpecifier = true := List.all_eq_true.mpr specifies
  rw [declaredKey?, dropWhile_run ahead stops, takeWhile_run ahead stops, opened, front]
  simp only [Option.bind_eq_bind, Option.bind_some, last, Text.before_append, typed, named, start,
    checked]
  rfl

end Descriptor
end PluginBindings
