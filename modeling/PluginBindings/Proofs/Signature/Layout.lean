import PluginBindings.Proofs.Signature.Deletion
import PluginBindings.Proofs.Signature.Forwarded
import PluginBindings.Proofs.Signature.Standing

namespace PluginBindings

namespace Block

theorem Listed.find?_named {block : Block} (listed : block.Listed angles) :
    ∃ declaration, Declaration.find? block.text = some declaration ∧ declaration.name = block.name := by
  have shape : block.text = block.header ++
      (Text.join [','] block.segments ++ ')' :: (block.returns ++ ['{'])) := by simp [text]
  obtain ⟨rest, back, read⟩ := Declaration.form_opens listed.header
    (show '{' ∈ Text.join [','] block.segments ++ ')' :: (block.returns ++ ['{']) by simp)
  rw [← shape] at read
  have found : Scan.findFirst Declaration.form block.text =
      some ([], ⟨block.name, block.header, rest⟩, back) :=
    Scan.findFirst_some_exact.mpr ⟨block.text, rfl, read, by simp⟩
  refine ⟨⟨block.name, block.header, rest⟩, ?_, rfl⟩
  rw [Declaration.find?, found]
  rfl

-- A list whose first parameter is read is rewritten where the handle found is named like it.
theorem Listed.wrapped_exact [PatternEngine] {block : Block} (listed : block.Listed angles)
    (entries : block.entries = first :: rest) (unit : Parameter.indentationUnit block.text = spaces)
    (found : first.Found spaces) (type indent : Text) :
    ((∃ wrapper, (Wrapper.ofBlock type block.text indent).result = .ok wrapper) ↔
      Removal.Ready type ∧ Parameter.Readable spaces ∧
        (Removal.find? type block.text).map (·.handle) = some first.name) ∧
    ∀ wrapper, (Wrapper.ofBlock type block.text indent).result = .ok wrapper →
      wrapper.signature = ⟨block.name, (block.read spaces).drop 1, spaces⟩ := by
  subst unit
  obtain ⟨declaration, opened, named⟩ := listed.find?_named
  have names := listed.names_exact (Parameter.unit_indents block.text)
  have first : (Parameter.names block.text (Parameter.indentationUnit block.text)).head? =
      some first.name := by
    rw [names, read, entries, List.flatMap_cons, Formal.read, if_pos found]
    rfl
  rw [← names, ← named]
  exact Wrapper.accepted_exact opened first

-- One line is read to all its names, so what else is read comes from types.
theorem inline_clean_exact {block : Block} (entries : block.entries = first :: rest) :
    (block.read []).drop 1 = block.names.drop 1 ↔ block.strays [] = [] := by
  have found : ∀ entry ∈ block.entries, entry.Found [] := fun entry _ => .inl rfl
  constructor
  · intro same
    refine (found_exact ?_).mp found
    have size := congrArg List.length same
    simp only [read, names, entries, List.flatMap_cons, Formal.read, Formal.Found, true_or, if_true,
      List.map_cons, List.length_drop, List.length_append, List.length_cons] at size ⊢
    omega
  · intro clean
    rw [read_clean found clean]

end Block

-- Types are single lines in which every bracket is closed; the handle's may have arguments.
structure Prototype where
  name : Text
  receiver : Bool
  handle : Text
  type : Text
  parameters : List (Text × Text)
  returns : Text

-- The blanks a layout may choose.
structure Spacing where
  receiver : Text
  first : Text
  lead : Text
  ending : Text
  trailing : Option Text

namespace Spacing

structure Blank (spacing : Spacing) : Prop where
  receiver : ∀ c ∈ spacing.receiver, isBlank c = true
  first : ∀ c ∈ spacing.first, isBlank c = true
  lead : ∀ c ∈ spacing.lead, isBlank c = true
  ending : ∀ c ∈ spacing.ending, isBlank c = true
  trailing : ∀ blanks ∈ spacing.trailing, ∀ c ∈ blanks, isBlank c = true

end Spacing

namespace Prototype

def declared (form : Prototype) : List (Text × Text) :=
  (form.handle, "*mut ".toList ++ form.type) :: form.parameters

structure WellFormed (form : Prototype) : Prop where
  named : isName form.name = true
  handle : isName form.handle = true
  typed : form.type.head?.any (!isBlank ·) = true ∧ '\n' ∉ form.type ∧
    Balanced true false form.type
  parameters : ∀ parameter ∈ form.parameters, isName parameter.1 = true ∧ '\n' ∉ parameter.2 ∧
    Balanced true false parameter.2
  returns : '\n' ∉ form.returns

def entry (lead ending : Text) (parameter : Text × Text) : Formal :=
  ⟨lead, parameter.1, [], ' ' :: parameter.2 ++ ending⟩

def entries (first lead ending : Text) : List (Text × Text) → List Formal
  | [] => []
  | parameter :: later =>
    entry first (if later.isEmpty then ending else []) parameter :: entries lead lead ending later

def laid (form : Prototype) (spacing : Spacing) : Block where
  name := form.name
  header := Declaration.plainHeader form.name
  receiver := if form.receiver then some (spacing.receiver, []) else none
  entries := entries spacing.first spacing.lead spacing.ending form.declared
  trailing := spacing.trailing
  returns := form.returns

def inlineSpacing (form : Prototype) : Spacing :=
  ⟨[], if form.receiver then [' '] else [], [' '], [], none⟩

def lineSpacing (unit closing : Text) (comma : Bool) : Spacing :=
  ⟨'\n' :: unit, '\n' :: unit, '\n' :: unit, if comma then [] else '\n' :: closing,
    if comma then some ('\n' :: closing) else none⟩

def inline (form : Prototype) : Block := form.laid form.inlineSpacing

def stacked (form : Prototype) (unit closing : Text) (comma : Bool) : Block :=
  form.laid (lineSpacing unit closing comma)

theorem declared_formed {form : Prototype} (written : form.WellFormed) :
    ∀ parameter ∈ form.declared, isName parameter.1 = true ∧ '\n' ∉ parameter.2 ∧
      Balanced true false parameter.2 := by
  obtain ⟨-, unbroken, typed⟩ := written.typed
  refine List.forall_mem_cons.mpr ⟨⟨written.handle, ?_, ?_⟩, written.parameters⟩
  · rw [List.mem_append, not_or]
    exact ⟨by decide, unbroken⟩
  · exact balanced_append (balanced_checked (by decide)) typed

theorem entries_member {first lead ending : Text} {parameters : List (Text × Text)}
    (member : formal ∈ entries first lead ending parameters) :
    ∃ parameter ∈ parameters, ∃ before ∈ [first, lead], ∃ behind ∈ [[], ending],
      formal = entry before behind parameter := by
  induction parameters generalizing first with
  | nil => cases member
  | cons parameter later ih =>
    rcases List.mem_cons.mp member with rfl | member
    · refine ⟨parameter, by simp, first, by simp, _, ?_, rfl⟩
      split <;> simp
    · obtain ⟨parameter, among, before, ahead, behind, after, rfl⟩ := ih member
      have among' : before ∈ [lead] := by simpa using ahead
      exact ⟨parameter, by simp [among], before, List.mem_cons_of_mem _ among', behind, after, rfl⟩

theorem entries_names (first lead ending : Text) (parameters : List (Text × Text)) :
    (entries first lead ending parameters).map Formal.name = parameters.map (·.1) := by
  induction parameters generalizing first with
  | nil => rfl
  | cons parameter later ih => rw [entries, List.map_cons, List.map_cons, ih]; rfl

theorem laid_listed {form : Prototype} {spacing : Spacing} (written : form.WellFormed)
    (blank : spacing.Blank) : (form.laid spacing).Listed true where
  header := Declaration.header_plain written.named
  receiver := by
    intro blanks given
    cases receiver : form.receiver with
    | false => simp [laid, receiver] at given
    | true =>
      obtain rfl : (spacing.receiver, []) = blanks := by simpa [laid, receiver] using given
      exact ⟨blank.receiver, by simp⟩
  entries := by
    intro formal member
    obtain ⟨parameter, among, before, lead, behind, ends, rfl⟩ := entries_member member
    obtain ⟨named, -, typed⟩ := declared_formed written parameter among
    have ahead : ∀ c ∈ before, isBlank c = true := by
      rcases List.mem_pair.mp lead with rfl | rfl
      · exact blank.first
      · exact blank.lead
    have after : ∀ c ∈ behind, isBlank c = true := by
      rcases List.mem_pair.mp ends with rfl | rfl
      · simp
      · exact blank.ending
    exact ⟨ahead, named, by simp [entry], .plain (by decide) (by decide)
      (balanced_append typed (balanced_blank after))⟩
  trailing := blank.trailing

theorem inline_listed {form : Prototype} (written : form.WellFormed) : form.inline.Listed true := by
  refine laid_listed written ⟨by simp [inlineSpacing], ?_, space_blank, by simp [inlineSpacing],
    by simp [inlineSpacing]⟩
  intro c member
  cases receiver : form.receiver with
  | false => simp [inlineSpacing, receiver] at member
  | true => exact space_blank c (by simpa [inlineSpacing, receiver] using member)

theorem stacked_listed {form : Prototype} {unit closing : Text} (written : form.WellFormed)
    (indents : ∀ c ∈ unit, isIndent c = true) (closes : ∀ c ∈ closing, isIndent c = true)
    (comma : Bool) : (form.stacked unit closing comma).Listed true := by
  have line : ∀ blanks : Text, (∀ c ∈ blanks, isIndent c = true) →
      ∀ c ∈ '\n' :: blanks, isBlank c = true := by
    intro blanks run
    exact List.forall_mem_cons.mpr ⟨by decide, fun c member => indent_blank (run c member)⟩
  refine laid_listed written ⟨line unit indents, line unit indents, line unit indents, ?_, ?_⟩
  · cases comma with
    | false => exact line closing closes
    | true => simp [lineSpacing]
  · intro blanks given
    cases comma with
    | false => cases given
    | true => cases given; exact line closing closes

theorem inline_unbroken {form : Prototype} (written : form.WellFormed) :
    '\n' ∉ form.inline.text := by
  have entries : ∀ entry ∈ form.inline.entries, '\n' ∉ entry.text := by
    intro formal member
    obtain ⟨parameter, among, before, ahead, behind, after, rfl⟩ := entries_member member
    obtain ⟨named, unbroken, -⟩ := declared_formed written parameter among
    have name : '\n' ∉ parameter.1 := name_lacks_blank named (by decide)
    have lead : '\n' ∉ before := by
      rcases List.mem_pair.mp ahead with rfl | rfl
      · cases receiver : form.receiver <;> simp [inlineSpacing, receiver]
      · simp [inlineSpacing]
    have ending : '\n' ∉ behind := by
      obtain rfl : behind = [] := by simpa [inlineSpacing] using after
      simp
    simp [Formal.text, entry, lead, name, unbroken, ending]
  have segments : '\n' ∉ Text.join [','] form.inline.segments := by
    intro member
    rcases join_mem member with separator | ⟨part, among, inside⟩
    · exact absurd separator (by decide)
    · rcases List.mem_append.mp among with among | trailing
      · rcases List.mem_append.mp among with receiver | among
        · cases given : form.receiver with
          | false => simp [Block.receivers, inline, laid, given] at receiver
          | true =>
            obtain rfl : part = "self".toList := by
              simpa [Block.receivers, inline, laid, inlineSpacing, given] using receiver
            exact absurd inside (by decide)
        · obtain ⟨entry, given, rfl⟩ := List.mem_map.mp among
          exact entries entry given inside
      · simp [inline, laid, inlineSpacing] at trailing
  have header : '\n' ∉ form.inline.header := Declaration.plainHeader_unbroken written.named
  have returns : '\n' ∉ form.inline.returns := written.returns
  simp [Block.text, header, segments, returns]

theorem type_solid {form : Prototype} (written : form.WellFormed) (later : Text) :
    Stops isBlank (form.type ++ later) := by
  have solid := written.typed.1
  cases type : form.type with
  | nil => simp [type] at solid
  | cons c rest => simpa [type] using solid

def behind (form : Prototype) : Text :=
  form.inline.behind (entries [' '] [' '] [] form.parameters)

-- On one line the handle is found where its type ends in a word, or else where the first to
-- stand behind its colon happens to have its name.
def FoundInline (form : Prototype) : Prop :=
  form.type.getLast?.any isWord = true ∨
    Removal.FirstStanding form.type form.handle (" *mut ".toList ++ form.type ++ form.behind)

theorem inline_handle_exact {form : Prototype} (written : form.WellFormed) :
    (Removal.find? form.type form.inline.text).map (·.handle) = some form.handle ↔
      form.FoundInline := by
  have listed := inline_listed written
  have solid := type_solid written
  have entries : form.inline.entries =
      entry form.inlineSpacing.first [] (form.handle, "*mut ".toList ++ form.type) ::
        entries [' '] [' '] [] form.parameters := by
    simp [inline, laid, declared, Prototype.entries, inlineSpacing]
  have colon := Block.text_colon entries
  have absent : ':' ∉ form.inline.opening ++ form.inlineSpacing.first ++ form.handle := by
    simpa [entry] using Block.first_no_colon listed entries
  have blanks := (listed.entries _ (by rw [entries]; exact List.mem_cons_self)).lead
  have stops := Block.opening_ends listed blanks
  have ends : Stops isWord form.behind :=
    Block.behind_stops form.inline _ comma_sign.2 closing_sign.2
  have front : form.inline.text = (form.inline.opening ++ form.inlineSpacing.first) ++
      (form.handle ++ ':' :: (" *mut ".toList ++ form.type ++ form.behind)) := by
    rw [colon]
    simp [entry, behind]
  rw [Removal.find?_handle (inline_unbroken written), ← Removal.firstStanding_exact solid, front]
  cases word : form.type.getLast?.any isWord with
  | true =>
    have bare : ':' ∉ form.inline.opening ++ form.inlineSpacing.first := fun member =>
      absent (List.mem_append_left _ member)
    exact iff_of_true
      (Removal.firstStanding_declared solid word written.handle stops bare ends) (.inl word)
  | false =>
    rw [← List.append_assoc, Removal.firstStanding_behind solid word absent ends, FoundInline, word]
    simp

theorem stacked_first (form : Prototype) (unit closing : Text) (comma : Bool) :
    ∃ ending rest, (form.stacked unit closing comma).entries =
        entry ('\n' :: unit) ending (form.handle, "*mut ".toList ++ form.type) :: rest ∧
      (ending = '\n' :: closing ∨ ending = [] ∧
        ∃ next parts, (form.stacked unit closing comma).later rest = ('\n' :: next) :: parts) := by
  refine ⟨_, _, rfl, ?_⟩
  cases parameters : form.parameters with
  | nil => cases comma <;> simp [lineSpacing, Block.later, stacked, laid, entries]
  | cons next later => simp [lineSpacing, Block.later, entries, entry, Formal.text]

theorem stacked_unit {form : Prototype} {unit closing : Text} (written : form.WellFormed)
    (nonempty : unit ≠ []) (indents : ∀ c ∈ unit, isIndent c = true)
    (closes : ∀ c ∈ closing, isIndent c = true) (comma : Bool) :
    Parameter.indentationUnit (form.stacked unit closing comma).text = unit := by
  have listed := stacked_listed written indents closes comma
  obtain ⟨ending, rest, entries, -⟩ := form.stacked_first unit closing comma
  obtain ⟨front, c, opening, sign⟩ := Block.opening_last listed
  have bare : ':' ∉ front ++ [c] := by
    rw [← opening]
    have absent := Block.first_no_colon listed entries
    exact fun member => absent (by simp [member])
  rw [List.mem_append, not_or, List.mem_singleton] at bare
  have shape : (form.stacked unit closing comma).text = front ++ c ::
      ('\n' :: unit ++ form.handle ++ [] ++ ':' :: ' ' :: ("*mut ".toList ++ form.type ++ ending ++
        (form.stacked unit closing comma).behind rest)) := by
    rw [Block.text_colon entries, opening]
    simp [entry]
  rw [shape]
  exact Parameter.indentationUnit_first nonempty indents bare.1 sign (Ne.symm bare.2)
    (Parameter.entryAt_exact.mpr ⟨[], _, rfl, written.handle, by simp, by simp, rfl⟩)

theorem stacked_read {form : Prototype} {unit closing : Text} (written : form.WellFormed)
    (nonempty : unit ≠ []) (closes : ∀ c ∈ closing, isIndent c = true) (comma : Bool) :
    (∀ entry ∈ (form.stacked unit closing comma).entries, entry.Found unit) ∧
      (form.stacked unit closing comma).strays unit = [] := by
  have bare : ':' ∉ closing := fun member => by
    cases colon_sign.1.symm.trans (indent_blank (closes _ member))
  have each : ∀ formal ∈ (form.stacked unit closing comma).entries, formal.Heads unit ∧
      Parameter.lineNames unit (formal.type.drop 1) = [] := by
    intro formal member
    obtain ⟨parameter, among, before, ahead, behind, after, rfl⟩ := entries_member member
    obtain ⟨-, unbroken, -⟩ := declared_formed written parameter among
    obtain rfl : before = '\n' :: unit := by simpa [lineSpacing] using ahead
    have ending : ':' ∉ behind := by
      rcases List.mem_pair.mp after with rfl | rfl
      · simp
      · cases comma <;> simp [lineSpacing, bare]
    exact ⟨⟨List.suffix_refl _, rfl, by simp [entry]⟩, Parameter.lineNames_parted unbroken ending⟩
  refine ⟨fun formal member => .inr (each formal member).1, List.append_eq_nil_iff.mpr ⟨?_, ?_⟩⟩
  · refine List.flatMap_eq_nil_iff.mpr fun formal member => ?_
    obtain ⟨heads, silent⟩ := each formal member
    rw [Formal.strays, if_neg nonempty, if_pos heads, silent]
  · rw [Block.returned, if_neg nonempty]
    exact Parameter.lineNames_unbroken written.returns

theorem stacked_line (form : Prototype) (unit closing : Text) (comma : Bool) :
    ∃ trail back, (form.stacked unit closing comma).text =
        (form.stacked unit closing comma).opening ++ ['\n'] ++
          ((unit ++ (form.handle ++ ": *mut ".toList ++ form.type) ++ trail) ++ back) ∧
      Removal.LineEnd trail := by
  obtain ⟨ending, rest, entries, shape⟩ := form.stacked_first unit closing comma
  have text := Block.text_first entries
  rcases shape with rfl | ⟨rfl, next, parts, later⟩
  · refine ⟨['\n'], closing ++ (form.stacked unit closing comma).behind rest, ?_,
      Removal.lineEnd_plain⟩
    rw [text]
    simp [entry, Formal.text]
  · refine ⟨[',', '\n'], next ++ (parts.flatMap ([','] ++ ·) ++ ')' :: form.returns ++ ['{']), ?_,
      Removal.lineEnd_comma⟩
    rw [text, Block.behind, later]
    simp [entry, Formal.text, stacked, laid]

theorem stacked_handle {form : Prototype} {unit closing : Text} (written : form.WellFormed)
    (indents : ∀ c ∈ unit, isIndent c = true) (closes : ∀ c ∈ closing, isIndent c = true)
    (comma : Bool) :
    (Removal.find? form.type (form.stacked unit closing comma).text).map (·.handle) =
      some form.handle := by
  have listed := stacked_listed written indents closes comma
  obtain ⟨ending, rest, entries, -⟩ := form.stacked_first unit closing comma
  obtain ⟨trail, back, text, ends⟩ := form.stacked_line unit closing comma
  have absent : ':' ∉ (form.stacked unit closing comma).opening := fun member =>
    Block.first_no_colon listed entries (by simp [member])
  have first := Removal.findLine_first (type_solid written) written.handle indents absent ends back
  rw [← text] at first
  obtain ⟨line, -, -, -, removed⟩ := Removal.find?_line first
  rw [removed]
  rfl

end Prototype

namespace Wrapper

def Agree (first second : Except Fault Wrapper) : Prop :=
  ((∃ wrapper, first = .ok wrapper) ↔ ∃ wrapper, second = .ok wrapper) ∧
    ∀ wrapper other, first = .ok wrapper → second = .ok other →
      wrapper.signature.name = other.signature.name ∧
        wrapper.signature.parameters = other.signature.parameters

end Wrapper

namespace Prototype

theorem stacked_wrapped_exact [PatternEngine] {form : Prototype} {unit closing : Text}
    (written : form.WellFormed) (nonempty : unit ≠ []) (indents : ∀ c ∈ unit, isIndent c = true)
    (closes : ∀ c ∈ closing, isIndent c = true) (comma : Bool) (indent : Text) :
    ((∃ wrapper, (Wrapper.ofBlock form.type (form.stacked unit closing comma).text indent).result =
      .ok wrapper) ↔ Removal.Ready form.type ∧ (Pattern.parameterEntry unit).Fits) ∧
    ∀ wrapper, (Wrapper.ofBlock form.type (form.stacked unit closing comma).text indent).result =
      .ok wrapper → wrapper.signature = ⟨form.name, form.parameters.map (·.1), unit⟩ := by
  obtain ⟨ending, rest, entries, -⟩ := form.stacked_first unit closing comma
  obtain ⟨found, clean⟩ := stacked_read written nonempty closes comma
  obtain ⟨rewritten, signature⟩ := (stacked_listed written indents closes comma).wrapped_exact
    entries (stacked_unit written nonempty indents closes comma)
    (found _ (by rw [entries]; exact List.mem_cons_self)) form.type indent
  have names : (form.stacked unit closing comma).names = form.declared.map (·.1) := entries_names ..
  rw [Block.read_clean found clean, names] at signature
  refine ⟨rewritten.trans ?_, signature⟩
  rw [Parameter.readable_exact nonempty, stacked_handle written indents closes comma]
  exact and_congr_right' (and_iff_left rfl)

theorem inline_wrapped_exact [PatternEngine] {form : Prototype} (written : form.WellFormed)
    (indent : Text) :
    ((∃ wrapper, (Wrapper.ofBlock form.type form.inline.text indent).result = .ok wrapper) ↔
      Removal.Ready form.type ∧ form.FoundInline) ∧
    ∀ wrapper, (Wrapper.ofBlock form.type form.inline.text indent).result = .ok wrapper →
      wrapper.signature = ⟨form.name, (form.inline.read []).drop 1, []⟩ := by
  obtain ⟨rewritten, signature⟩ := (inline_listed written).wrapped_exact rfl
    (Parameter.indentationUnit_unbroken (inline_unbroken written)) (.inl rfl) form.type indent
  have readable : Parameter.Readable [] := .inl rfl
  rw [and_iff_right readable] at rewritten
  exact ⟨rewritten.trans (and_congr_right' (inline_handle_exact written)), signature⟩

-- In lines a declaration is rewritten with all its parameters wherever the engine takes the
-- patterns; on one line where its handle is found, with what else its types bring in.
theorem layouts_agree_exact [PatternEngine] {form : Prototype} {unit closing : Text}
    (written : form.WellFormed) (nonempty : unit ≠ []) (indents : ∀ c ∈ unit, isIndent c = true)
    (closes : ∀ c ∈ closing, isIndent c = true) (comma : Bool) (indent indent' : Text) :
    let inline := (Wrapper.ofBlock form.type form.inline.text indent).result
    let stacked := (Wrapper.ofBlock form.type (form.stacked unit closing comma).text indent').result
    ((∃ wrapper, stacked = .ok wrapper) ↔
      Removal.Ready form.type ∧ (Pattern.parameterEntry unit).Fits) ∧
    (∀ wrapper, stacked = .ok wrapper →
      wrapper.signature = ⟨form.name, form.parameters.map (·.1), unit⟩) ∧
    ((∃ wrapper, inline = .ok wrapper) ↔ Removal.Ready form.type ∧ form.FoundInline) ∧
    (∀ wrapper, inline = .ok wrapper →
      wrapper.signature = ⟨form.name, (form.inline.read []).drop 1, []⟩) ∧
    (Removal.Ready form.type → (Pattern.parameterEntry unit).Fits →
      (Wrapper.Agree inline stacked ↔ form.FoundInline ∧ form.inline.strays [] = [])) := by
  intro inline stacked
  obtain ⟨always, lined⟩ := stacked_wrapped_exact written nonempty indents closes comma indent'
  obtain ⟨rewritten, listed⟩ := inline_wrapped_exact written indent
  refine ⟨always, lined, rewritten, listed, fun ready fits => ?_⟩
  have accepted' := always.mpr ⟨ready, fits⟩
  rw [and_iff_right ready] at rewritten
  have names : form.inline.names = form.declared.map (·.1) := entries_names ..
  have clean : (form.inline.read []).drop 1 = form.parameters.map (·.1) ↔
      form.inline.strays [] = [] := by
    have exact := Block.inline_clean_exact (show form.inline.entries = _ :: _ from rfl)
    rwa [names] at exact
  constructor
  · intro agree
    obtain ⟨both, same⟩ := agree
    obtain ⟨wrapper, accepted⟩ := both.mpr accepted'
    obtain ⟨other, accepted'⟩ := accepted'
    have parameters := (same wrapper other accepted accepted').2
    rw [listed wrapper accepted, lined other accepted'] at parameters
    exact ⟨rewritten.mp ⟨wrapper, accepted⟩, clean.mp parameters⟩
  · intro conditions
    obtain ⟨found, bare⟩ := conditions
    refine ⟨iff_of_true (rewritten.mpr found) accepted', fun wrapper other accepted accepted' => ?_⟩
    rw [listed wrapper accepted, lined other accepted']
    exact ⟨rfl, clean.mpr bare⟩

def plugin : Prototype where
  name := "f".toList
  receiver := true
  handle := "ph".toList
  type := "hexchat_plugin".toList
  parameters := [("cb".toList, "Option<fn(c_int, c_int) -> c_int>".toList),
    ("n".toList, "c_int".toList)]
  returns := " -> c_int ".toList

theorem plugin_wellFormed : plugin.WellFormed where
  named := by decide +kernel
  handle := by decide +kernel
  typed := ⟨by decide, by decide, balanced_checked (by decide)⟩
  parameters := by
    have list : Balanced true true "(c_int, c_int)".toList :=
      .group (by decide) (balanced_checked (by decide) : Balanced true true "c_int, c_int".toList) .done
    have arrow : Balanced true true " -> c_int".toList :=
      .plain (by decide) (by decide) (.arrow rfl (balanced_checked (by decide)))
    have inside : Balanced true true "fn(c_int, c_int) -> c_int".toList :=
      balanced_append (balanced_append (balanced_checked (by decide) : Balanced true true "fn".toList)
        list) arrow
    have callback : Balanced true false "Option<fn(c_int, c_int) -> c_int>".toList :=
      balanced_append (balanced_checked (by decide) : Balanced true false "Option".toList)
        (.group (by decide) inside .done)
    simp only [plugin, List.forall_mem_cons]
    exact ⟨⟨by decide +kernel, by decide, callback⟩,
      ⟨by decide +kernel, by decide, balanced_checked (by decide)⟩, by simp⟩
  returns := by decide

attribute [local instance] PatternEngine.standard

theorem plugin_layouts_agree :
    plugin.WellFormed ∧
      plugin.inline.text = "unsafe fn f(self, ph: *mut hexchat_plugin, ".toList ++
        "cb: Option<fn(c_int, c_int) -> c_int>, n: c_int) -> c_int \x7b".toList ∧
      (plugin.stacked "  ".toList [] false).text =
        "unsafe fn f(\n  self,\n  ph: *mut hexchat_plugin,\n".toList ++
          "  cb: Option<fn(c_int, c_int) -> c_int>,\n  n: c_int\n) -> c_int \x7b".toList ∧
      Wrapper.Agree (Wrapper.ofBlock plugin.type plugin.inline.text []).result
        (Wrapper.ofBlock plugin.type (plugin.stacked "  ".toList [] false).text []).result := by
  have indents : ∀ c ∈ "  ".toList, isIndent c = true := List.all_eq_true.mp (by decide)
  obtain ⟨-, -, -, -, agree⟩ := layouts_agree_exact plugin_wellFormed (by decide) indents
    (show ∀ c ∈ [], isIndent c = true by simp) false [] []
  exact ⟨plugin_wellFormed, by decide, by decide,
    (agree (by decide +kernel) (by decide +kernel)).mpr ⟨.inl (by decide +kernel), by decide +kernel⟩⟩

def generic : Prototype where
  name := "f".toList
  receiver := false
  handle := "ph".toList
  type := "ffi::Plugin<Raw>".toList
  parameters := [("n".toList, "c_int".toList)]
  returns := [' ']

theorem generic_wellFormed : generic.WellFormed where
  named := by decide +kernel
  handle := by decide +kernel
  typed := by
    refine ⟨by decide, by decide, ?_⟩
    exact balanced_append (balanced_checked (by decide) : Balanced true false "ffi::Plugin".toList)
      (.group (by decide) (balanced_checked (by decide) : Balanced true true "Raw".toList) .done)
  parameters := by
    simp only [generic, List.forall_mem_cons]
    exact ⟨⟨by decide +kernel, by decide, balanced_checked (by decide)⟩, by simp⟩
  returns := by decide

-- Behind the angle bracket no word ends, so the handle is found in lines only.
theorem generic_layouts_differ :
    generic.WellFormed ∧
      generic.inline.text = "unsafe fn f(ph: *mut ffi::Plugin<Raw>, n: c_int) \x7b".toList ∧
      (Wrapper.ofBlock generic.type generic.inline.text []).result =
        .error (.wrapper (.noHandle "f".toList)) ∧
      (generic.stacked "    ".toList [] true).text =
        "unsafe fn f(\n    ph: *mut ffi::Plugin<Raw>,\n    n: c_int,\n) \x7b".toList ∧
      (Wrapper.ofBlock generic.type (generic.stacked "    ".toList [] true).text
        []).result.toOption.map (·.signature) =
          some ⟨"f".toList, ["n".toList], "    ".toList⟩ :=
  ⟨generic_wellFormed, by decide, by decide +kernel, by decide, by decide +kernel⟩

end Prototype
end PluginBindings
