import PluginBindings.Proofs.Signature.Handle

namespace PluginBindings
namespace Removal

-- A handle at the start of a text, with the boundary of a word right behind its type.
def Stands (type name source : Text) : Prop :=
  ∃ entry rest, source = entry ++ rest ∧ Handle isBlank type name entry ∧
    isWordBoundary type.getLast? rest.head? = true

-- The name of the first handle that stands in a text.
def FirstStanding (type name text : Text) : Prop :=
  ∃ front source, text = front ++ source ∧ Stands type name source ∧
    ∀ earlier later other, front = earlier ++ later → later ≠ [] →
      ¬ Stands type other (later ++ source)

theorem stands_exact {source : Text} (solid : ∀ later, Stops isBlank (type ++ later)) :
    Stands type name source ↔ ∃ rest, inlineEntry type source = some (name, rest) := by
  constructor
  · rintro ⟨entry, rest, rfl, written, bounded⟩
    exact ⟨rest, inlineEntry_complete solid written bounded⟩
  · rintro ⟨rest, read⟩
    obtain ⟨entry, rfl, written, bounded⟩ := inlineEntry_sound read
    exact ⟨entry, rest, rfl, written, bounded⟩

theorem firstStanding_exact {text : Text} (solid : ∀ later, Stops isBlank (type ++ later)) :
    FirstStanding type name text ↔
      (Scan.findFirst (inlineEntry type) text).map (·.2.1) = some name := by
  constructor
  · intro first
    obtain ⟨front, source, same, stands, earliest⟩ := first
    obtain ⟨rest, read⟩ := (stands_exact solid).mp stands
    have found : Scan.findFirst (inlineEntry type) text = some (front, name, rest) := by
      refine Scan.findFirst_some_exact.mpr ⟨source, same, read, fun earlier later split nonempty => ?_⟩
      cases other : inlineEntry type (later ++ source) with
      | none => rfl
      | some reading =>
        have stands := (stands_exact solid).mpr ⟨reading.2, other⟩
        exact absurd stands (earliest earlier later reading.1 split nonempty)
    rw [found]
    rfl
  · intro found
    obtain ⟨⟨front, found, rest⟩, place, rfl⟩ := Option.map_eq_some_iff.mp found
    obtain ⟨source, same, read, earliest⟩ := Scan.findFirst_some_exact.mp place
    refine ⟨front, source, same, (stands_exact solid).mpr ⟨rest, read⟩, ?_⟩
    intro earlier later other split nonempty stands
    obtain ⟨rest', read'⟩ := (stands_exact solid).mp stands
    cases (earliest earlier later split nonempty).symm.trans read'

theorem inlineEntry_other {rest : Text} (other : isWord c = false) :
    inlineEntry type (c :: rest) = none := by
  cases read : inlineEntry type (c :: rest) with
  | none => rfl
  | some found =>
    obtain ⟨_, same, ⟨first, second, third, rfl, named, -⟩, -⟩ := inlineEntry_sound read
    cases start : found.1 with
    | nil => rw [start] at named; cases named
    | cons d name =>
      rw [start] at same
      obtain ⟨rfl, -⟩ := List.cons.inj same
      cases other.symm.trans (isName_word named c (by simp [start]))

theorem inlineEntry_trimmed {text : Text}
    (read : inlineEntry type (Text.trimStart text) = some (name, rest)) :
    (Scan.findFirst (inlineEntry type) text).map (·.2.1) = some name := by
  obtain ⟨gap, same, run, -⟩ := trimStart_exact.mp (rfl : Text.trimStart text = _)
  have silent : Scan.Silent (inlineEntry type) gap (Text.trimStart text) := by
    intro earlier later split nonempty
    cases later with
    | nil => exact absurd rfl nonempty
    | cons c later => exact inlineEntry_other (blank_not_word (run c (by simp [split])))
  have found : Scan.findFirst (inlineEntry type) (Text.trimStart text) = some ([], name, rest) :=
    Scan.findFirst_some_exact.mpr ⟨_, rfl, read, by simp⟩
  rw [same, Scan.findFirst_behind silent, found]
  rfl

-- The comma that goes before a handle is parted from it by blanks, and no handle begins in
-- those: so the form stands first where a handle does, up to that comma.
theorem findFirst_handle (type text : Text) :
    (Scan.findFirst (inlineForm type) text).map (·.2.1.handle) =
      (Scan.findFirst (inlineEntry type) text).map (·.2.1) := by
  induction text with
  | nil => rfl
  | cons c text ih =>
    have entries : (Scan.findFirst (inlineEntry type) (c :: text)).map (·.2.1) =
        ((inlineEntry type (c :: text)).map (·.1)).or
          ((Scan.findFirst (inlineEntry type) text).map (·.2.1)) :=
      Scan.findFirst_next (inlineEntry type) id c text
    rw [Scan.findFirst_next (inlineForm type) Removal.handle, entries, inlineForm_handle, ih]
    by_cases comma : c = ','
    · subst comma
      have entryless : inlineEntry type (',' :: text) = none := inlineEntry_other comma_sign.2
      cases read : inlineEntry type (Text.trimStart text) with
      | none => simp [comma?, entryless, read]
      | some found => simp [comma?, entryless, read, inlineEntry_trimmed read]
    · have apart : comma? (c :: text) = none := comma?_none_exact.mpr (by simpa using comma)
      rw [apart]
      rfl

theorem find?_handle {type block : Text} (unbroken : '\n' ∉ block) :
    (find? type block).map (·.handle) = (Scan.findFirst (inlineEntry type) block).map (·.2.1) := by
  rw [find?, ownLine_unbroken unbroken, ← findFirst_handle, Option.map_map]
  rfl

-- Up to a handle's colon there is no other place for it: what stands there would be read on
-- through the same colon, with the same boundary behind the type.
theorem stands_colon {front back : Text} (solid : ∀ later, Stops isBlank (type ++ later))
    (absent : ':' ∉ front)
    (stands : Stands type name (front ++ ':' :: (" *mut ".toList ++ type ++ back))) :
    isWordBoundary type.getLast? back.head? = true ∧ isName name = true ∧
      ∃ gap, front = name ++ gap ∧ ∀ c ∈ gap, isBlank c = true := by
  obtain ⟨entry, rest, same, ⟨first, second, third, rfl, named, run, run', -, run''⟩, bounded⟩ := stands
  have star : ∀ later : Text, Stops isBlank ("*mut".toList ++ later) :=
    fun later => stops_cons.mpr (by decide)
  have plain : ':' ∉ name ++ first := by
    refine sign_absent (fun c member => ?_) colon_sign
    exact (List.mem_append.mp member).elim (fun member => .inr (isName_word named c member))
      fun member => .inl (run c member)
  have shape : front ++ ':' :: (" *mut ".toList ++ type ++ back) =
      (name ++ first) ++ ':' :: (second ++ ("*mut".toList ++ (third ++ (type ++ rest)))) := by
    simpa using same
  obtain ⟨rfl, behind⟩ := Text.cut_unique shape absent plain
  have behind : [' '] ++ ("*mut".toList ++ ([' '] ++ (type ++ back))) =
      second ++ ("*mut".toList ++ (third ++ (type ++ rest))) := by
    rw [← behind]
    simp
  obtain ⟨-, atStar⟩ := run_unique behind space_blank (star _) run' (star _)
  obtain ⟨-, atType⟩ :=
    run_unique (List.append_cancel_left atStar) space_blank (solid _) run'' (solid _)
  rw [List.append_cancel_left atType]
  exact ⟨bounded, named, first, rfl, run⟩

variable {type front name back : Text}

theorem firstStanding_declared (solid : ∀ later, Stops isBlank (type ++ later))
    (word : type.getLast?.any isWord = true) (named : isName name = true)
    (stops : Stops isWord front.reverse) (absent : ':' ∉ front) (ends : Stops isWord back) :
    FirstStanding type name (front ++ (name ++ ':' :: (" *mut ".toList ++ type ++ back))) := by
  have bounded : isWordBoundary type.getLast? back.head? = true := by
    rw [isWordBoundary, word, ends.head]
    rfl
  refine ⟨front, _, rfl, ⟨name ++ ':' :: (" *mut ".toList ++ type), back, by simp, ?_, bounded⟩, ?_⟩
  · exact ⟨[], [' '], [' '], by simp, named, by simp, space_blank, by simp, space_blank⟩
  · intro earlier later other split nonempty stands
    have bare : ':' ∉ later ++ name := by
      rw [List.mem_append, not_or]
      refine ⟨fun member => absent (by simp [split, member]), ?_⟩
      exact sign_absent (fun c member => .inr (isName_word named c member)) colon_sign
    rw [← List.append_assoc] at stands
    obtain ⟨-, named', gap, same, run⟩ := stands_colon solid bare stands
    obtain ⟨whole, -⟩ : later ++ name = [] ++ other ∧ [] = gap :=
      blanks_unique (by simpa using same) named (by simp) named' run
    obtain ⟨inside, c, rfl⟩ := List.eq_nil_or_concat later |>.resolve_left nonempty
    have letter := isName_word named' c (by rw [← List.nil_append other, ← whole]; simp)
    rw [split] at stops
    cases letter.symm.trans (by simpa using stops)

-- One whose type ends in no word does not stand, so the search goes on behind its colon.
theorem firstStanding_behind (solid : ∀ later, Stops isBlank (type ++ later))
    (wordless : type.getLast?.any isWord = false) (absent : ':' ∉ front) (ends : Stops isWord back) :
    FirstStanding type name (front ++ ':' :: (" *mut ".toList ++ type ++ back)) ↔
      FirstStanding type name (" *mut ".toList ++ type ++ back) := by
  have unbounded : isWordBoundary type.getLast? back.head? = false := by
    rw [isWordBoundary, wordless, ends.head]
    rfl
  have silent : Scan.Silent (inlineEntry type) (front ++ [':'])
      (" *mut ".toList ++ type ++ back) := by
    intro earlier later split nonempty
    obtain ⟨inside, rfl, before⟩ := Text.append_last split nonempty
    cases read : inlineEntry type (inside ++ [':'] ++ (" *mut ".toList ++ type ++ back)) with
    | none => rfl
    | some found =>
      have stands := (stands_exact solid).mpr ⟨found.2, read⟩
      rw [← List.append_cons] at stands
      have bounded := (stands_colon solid (fun member => absent (by simp [before, member])) stands).1
      cases unbounded.symm.trans bounded
  rw [firstStanding_exact solid, firstStanding_exact solid, List.append_cons,
    Scan.findFirst_behind silent, Option.map_map]
  rfl

theorem lineEnd_plain : LineEnd ['\n'] :=
  ⟨[], [], [], [], rfl, by simp, .inl rfl, by simp, .inl rfl⟩

theorem lineEnd_comma : LineEnd [',', '\n'] :=
  ⟨[], [','], [], [], rfl, by simp, .inr rfl, by simp, .inl rfl⟩

-- A line of its own: behind a front without colons no line before it holds a handle alone.
theorem findLine_first {unit trail : Text} (solid : ∀ later, Stops isBlank (type ++ later))
    (named : isName name = true) (indents : ∀ c ∈ unit, isIndent c = true) (absent : ':' ∉ front)
    (ends : LineEnd trail) (back : Text) :
    Scan.findAtLineStart (ownLineForm type) true (front ++ ['\n'] ++
        ((unit ++ (name ++ ": *mut ".toList ++ type) ++ trail) ++ back)) =
      some (front ++ ['\n'], name, back) := by
  have alone : Alone type name (unit ++ (name ++ ": *mut ".toList ++ type) ++ trail) :=
    ⟨unit, _, trail, rfl, indents,
      ⟨[], [' '], [' '], by simp, named, by simp, space_indent, by simp, space_indent⟩, ends⟩
  refine Scan.findAtLineStart_some_exact.mpr ⟨_, rfl, Scan.startsLine_exact.mpr (.inr ⟨_, rfl⟩),
    ownLineForm_complete solid alone, ?_⟩
  intro earlier later split nonempty _
  obtain ⟨inside, rfl, before⟩ := Text.append_last split nonempty
  have shape : inside ++ ['\n'] ++ ((unit ++ (name ++ ": *mut ".toList ++ type) ++ trail) ++ back) =
      (inside ++ '\n' :: unit ++ name) ++ ':' :: (" *mut ".toList ++ type ++ trail ++ back) := by simp
  have bare : ':' ∉ inside ++ '\n' :: unit ++ name := by
    have plain : ∀ c ∈ '\n' :: unit ++ name, isBlank c = true ∨ isWord c = true := by
      intro c member
      rcases List.mem_append.mp member with member | member
      · rcases List.mem_cons.mp member with rfl | member
        · exact .inl (by decide)
        · exact .inl (indent_blank (indents c member))
      · exact .inr (isName_word named c member)
    rw [List.append_assoc, List.mem_append, not_or]
    exact ⟨fun member => absent (by simp [before, member]), sign_absent plain colon_sign⟩
  rw [shape]
  exact ownLine_behind bare (by simp)

end Removal
end PluginBindings
