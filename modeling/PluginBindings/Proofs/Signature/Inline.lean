import PluginBindings.Proofs.Signature.LineNames
import PluginBindings.Proofs.Signature.Segments
import PluginBindings.Proofs.Signature.Wrapper

namespace PluginBindings

structure Inline where
  name : Text
  receiver : Option Text
  handle : Text
  type : Text
  parameters : List (Text × Text)
  returns : Text

namespace Inline

def header (form : Inline) : Text := Declaration.plainHeader form.name

def entry (parameter : Text × Text) : Text := parameter.1 ++ ": ".toList ++ parameter.2

def laidOut (form : Inline) (list : List Text) : Text :=
  form.header ++ Text.join ", ".toList list ++ ')' :: form.returns ++ ['{']

def others (form : Inline) : List Text := form.parameters.map entry

def handleEntry (form : Inline) : Text × Text := (form.handle, "*mut ".toList ++ form.type)

def list (form : Inline) : List Text :=
  form.receiver.toList ++ entry form.handleEntry :: form.others

def text (form : Inline) : Text := form.laidOut form.list

def kept (form : Inline) : Text := form.laidOut (form.receiver.toList ++ form.others)

def signature (form : Inline) : Signature := ⟨form.name, form.parameters.map (·.1), []⟩

structure WellFormed (form : Inline) : Prop where
  named : isName form.name = true
  receiver : ∀ word ∈ form.receiver, word = "self".toList ∨ word = "&self".toList
  handle : isName form.handle = true
  typed : isName form.type = true
  parameters : ∀ parameter ∈ form.parameters, isName parameter.1 = true ∧
    Balanced false false parameter.2 ∧ '\n' ∉ parameter.2 ∧ '{' ∉ parameter.2
  returns : '\n' ∉ form.returns ∧ '{' ∉ form.returns

def declaration (form : Inline) : Declaration :=
  ⟨form.name, form.header, Text.join ", ".toList form.list ++ ')' :: form.returns⟩

theorem text_declaration (form : Inline) : form.declaration.text = form.text := by
  simp [declaration, Declaration.text, text, laidOut]

-- The break and the brace are in the list only if a type brings them in.
theorem list_lacks {form : Inline} (written : form.WellFormed) (foreign : c = '\n' ∨ c = '{')
    (types : ∀ parameter ∈ form.parameters, c ∉ parameter.2) :
    c ∉ Text.join ", ".toList form.list := by
  have letter : ∀ word : Text, (∀ d ∈ word, isWord d = true) → c ∉ word := by
    intro word run member
    have outside : isWord c = false := by
      rcases foreign with rfl | rfl
      · exact blank_not_word (by decide)
      · exact brace_sign.2
    cases outside.symm.trans (run c member)
  have sign : c ∉ ", ".toList ∧ c ∉ ": ".toList ∧ c ∉ "*mut ".toList ∧ c ∉ "&self".toList := by
    rcases foreign with rfl | rfl <;> decide
  obtain ⟨comma, colon, star, receiver⟩ := sign
  have entries : ∀ parameter : Text × Text, isName parameter.1 = true → c ∉ parameter.2 →
      c ∉ entry parameter := by
    intro parameter named typed
    simp only [entry, List.mem_append, not_or]
    exact ⟨⟨letter _ (isName_word named), colon⟩, typed⟩
  intro member
  rcases join_mem member with separator | ⟨part, among, inside⟩
  · exact comma separator
  · rcases List.mem_append.mp among with among | among
    · rcases written.receiver part (by simpa using among) with rfl | rfl
      · exact receiver (List.mem_cons_of_mem '&' inside)
      · exact receiver inside
    · rcases List.mem_cons.mp among with rfl | among
      · refine entries _ written.handle ?_ inside
        rw [handleEntry, List.mem_append, not_or]
        exact ⟨star, letter _ (isName_word written.typed)⟩
      · obtain ⟨parameter, given, rfl⟩ := List.mem_map.mp among
        exact entries parameter (written.parameters parameter given).1 (types parameter given) inside

theorem text_unbroken {form : Inline} (written : form.WellFormed) : '\n' ∉ form.text := by
  have list := list_lacks written (.inl rfl) fun parameter member =>
    (written.parameters parameter member).2.2.1
  have header := Declaration.plainHeader_unbroken written.named
  simp only [text, laidOut, List.mem_append, List.mem_cons, not_or]
  exact ⟨⟨⟨header, list⟩, by decide, written.returns.1⟩, by decide⟩

theorem declaration_wellFormed {form : Inline} (written : form.WellFormed) :
    form.declaration.WellFormed := by
  have list := list_lacks written (.inr rfl) fun parameter member =>
    (written.parameters parameter member).2.2.2
  refine ⟨Declaration.header_plain written.named, ?_⟩
  simp only [declaration, List.mem_append, List.mem_cons, not_or]
  exact ⟨list, by decide, written.returns.2⟩

def formal (lead : Text) (parameter : Text × Text) : Formal :=
  ⟨lead, parameter.1, [], ' ' :: parameter.2⟩

theorem formal_wellFormed {lead : Text} {parameter : Text × Text}
    (blanks : ∀ c ∈ lead, isBlank c = true) (named : isName parameter.1 = true) (typed : Balanced false false parameter.2) :
    (formal lead parameter).WellFormed false :=
  ⟨blanks, named, by simp [formal], .plain (by decide) (by decide) typed⟩

theorem formal_text (lead : Text) (parameter : Text × Text) :
    (formal lead parameter).text = lead ++ entry parameter := by
  simp [formal, Formal.text, entry]

theorem handle_typed {form : Inline} (written : form.WellFormed) :
    Balanced false false form.handleEntry.2 :=
  balanced_append (balanced_checked (by decide)) (balanced_words fun c member =>
    .inr (isName_word written.typed c member))

theorem entry_segment (lead : Text) {parameter : Text × Text}
    (blanks : ∀ c ∈ lead, isBlank c = true)
    (named : isName parameter.1 = true) (typed : Balanced false false parameter.2) :
    Balanced false false (lead ++ entry parameter) ∧
      Parameter.segmentName? (lead ++ entry parameter) = some parameter.1 := by
  have formed := formal_wellFormed blanks named typed
  rw [← formal_text]
  exact ⟨Formal.text_balanced formed, Parameter.segmentName?_entry formed⟩

theorem join_segments {part rest : Text} {parts : List Text}
    (balanced : ∀ text ∈ part :: parts.map (' ' :: ·), Balanced false false text) :
    Parameter.segmentsFrom 0 [] (Text.join ", ".toList (part :: parts) ++ ')' :: rest) =
      part :: parts.map (' ' :: ·) := by
  have shape : Text.join ", ".toList (part :: parts) =
      part ++ (parts.map (' ' :: ·)).flatMap ([','] ++ ·) := by
    rw [join_cons, List.flatMap_map]
    rfl
  rw [shape, Parameter.segmentsFrom_list balanced,
    List.flatMap_congr fun text member => Parameter.cuts_whole (balanced text member)]
  simp

theorem others_segments {form : Inline} (written : form.WellFormed) :
    (∀ text ∈ form.others.map (' ' :: ·), Balanced false false text) ∧
      (form.others.map (' ' :: ·)).filterMap Parameter.segmentName? = form.parameters.map (·.1) := by
  have each : ∀ parameter ∈ form.parameters, Balanced false false (' ' :: entry parameter) ∧
      Parameter.segmentName? (' ' :: entry parameter) = some parameter.1 := by
    intro parameter member
    obtain ⟨named, typed, -⟩ := written.parameters parameter member
    exact entry_segment [' '] space_blank named typed
  rw [others, List.map_map]
  constructor
  · intro text member
    obtain ⟨parameter, among, rfl⟩ := List.mem_map.mp member
    exact (each parameter among).1
  · rw [List.filterMap_map, ← List.filterMap_eq_map]
    exact List.filterMap_congr fun parameter member => (each parameter member).2

theorem receiver_segment {form : Inline} (written : form.WellFormed) :
    ∀ word ∈ form.receiver, Balanced false false word ∧ Parameter.segmentName? word = none := by
  intro word given
  rcases written.receiver word given with rfl | rfl
  · exact ⟨balanced_checked (by decide), by decide⟩
  · exact ⟨balanced_checked (by decide), by decide⟩

theorem names_exact {form : Inline} (written : form.WellFormed) :
    Parameter.listedNames form.text = form.handle :: form.parameters.map (·.1) := by
  obtain ⟨words, header, plain⟩ :=
    Declaration.header_words (Declaration.header_plain written.named)
  have cut : Text.cutAt? '(' form.text =
      some (words, Text.join ", ".toList form.list ++ ')' :: (form.returns ++ ['{'])) := by
    refine Text.cutAt?_exact.mpr ⟨?_, sign_absent plain paren_sign⟩
    rw [text, laidOut, Inline.header, header]
    simp
  obtain ⟨others, names⟩ := others_segments written
  rw [Parameter.listedNames, cut]
  dsimp only
  cases receiver : form.receiver with
  | none =>
    obtain ⟨first, named⟩ := entry_segment [] (by simp) written.handle (handle_typed written)
    rw [List.nil_append] at first named
    have list : form.list = entry form.handleEntry :: form.others := by
      rw [Inline.list, receiver]
      rfl
    rw [list, join_segments (List.forall_mem_cons.mpr ⟨first, others⟩)]
    exact (List.filterMap_cons_some named).trans (by rw [names]; rfl)
  | some word =>
    obtain ⟨first, named⟩ := entry_segment [' '] space_blank written.handle (handle_typed written)
    obtain ⟨self, nameless⟩ := receiver_segment written word receiver
    have list : form.list = word :: entry form.handleEntry :: form.others := by
      rw [Inline.list, receiver]
      rfl
    have behind : ∀ text ∈ (entry form.handleEntry :: form.others).map (' ' :: ·),
        Balanced false false text := List.forall_mem_cons.mpr ⟨first, others⟩
    rw [list, join_segments (List.forall_mem_cons.mpr ⟨self, behind⟩),
      List.filterMap_cons_none nameless]
    exact (List.filterMap_cons_some named).trans (by rw [names]; rfl)

def lead (form : Inline) : Text := if form.receiver.isSome then ", ".toList else []

def tail (form : Inline) : Text :=
  form.others.flatMap (", ".toList ++ ·) ++ ')' :: form.returns ++ ['{']

theorem text_handle (form : Inline) : form.text = form.header ++ form.receiver.getD [] ++
    (form.lead ++ (entry form.handleEntry ++ form.tail)) := by
  rw [text, laidOut, list, join_append, lead, tail]
  cases form.receiver <;> simp

theorem kept_others {form : Inline} {first : Text} {later : List Text}
    (others : form.others = first :: later) :
    form.kept = form.header ++ form.receiver.getD [] ++ (form.lead ++ (first ++
      (later.flatMap (", ".toList ++ ·) ++ ')' :: form.returns ++ ['{']))) := by
  rw [kept, laidOut, others, join_append, lead]
  cases form.receiver <;> simp

theorem kept_alone {form : Inline} (others : form.others = []) :
    form.kept = form.header ++ form.receiver.getD [] ++ form.tail := by
  rw [kept, laidOut, tail, others]
  cases form.receiver <;> simp [Text.join]

theorem opening_no_colon {form : Inline} (written : form.WellFormed) :
    ':' ∉ form.header ++ form.receiver.getD [] := by
  rw [List.mem_append, not_or]
  refine ⟨Declaration.header_lacks (Declaration.header_plain written.named) colon_sign (by decide), ?_⟩
  cases given : form.receiver with
  | none => simp
  | some word =>
    rcases written.receiver word given with rfl | rfl
    · decide
    · decide

-- No handle is found before the declared one: it would have to begin at the comma behind the
-- receiver, or reach back over the parenthesis.
theorem handle_first {form : Inline} (written : form.WellFormed) {earlier later : Text}
    (same : form.header ++ form.receiver.getD [] = earlier ++ later) (nonempty : later ≠ [])
    (back : Text) :
    Removal.inlineForm form.type (later ++ (form.lead ++ (entry form.handleEntry ++ back))) =
      none := by
  have shape : later ++ (form.lead ++ (entry form.handleEntry ++ back)) =
      (later ++ form.lead ++ form.handle) ++ ':' :: (" *mut ".toList ++ form.type ++ back) := by
    simp [entry, handleEntry]
  have inside : ∀ c ∈ later, c ∈ form.header ++ form.receiver.getD [] := fun c member => by
    rw [same]
    exact List.mem_append_right _ member
  have absent : ':' ∉ later ++ form.lead ++ form.handle := by
    have opening := opening_no_colon written
    have handle : ':' ∉ form.handle :=
      sign_absent (fun c member => .inr (isName_word written.handle c member)) colon_sign
    simp only [List.mem_append, not_or] at opening ⊢
    refine ⟨⟨fun member => ?_, ?_⟩, handle⟩
    · exact (List.mem_append.mp (inside _ member)).elim opening.1 opening.2
    · rw [lead]
      split <;> decide
  rw [shape]
  cases read : Removal.inlineForm form.type ((later ++ form.lead ++ form.handle) ++
      ':' :: (" *mut ".toList ++ form.type ++ back)) with
  | none => rfl
  | some found =>
    cases receiver : form.receiver with
    | none =>
      obtain ⟨words, header⟩ := Declaration.header_opens (Declaration.header_plain written.named)
      have opening : words ++ ['('] = earlier ++ later := by
        rw [← same, receiver, Inline.header, header]
        simp
      obtain ⟨before, rfl, -⟩ := Text.append_last opening nonempty
      have split : before ++ ['('] ++ form.lead ++ form.handle =
          before ++ '(' :: (form.lead ++ form.handle) := by simp
      rcases Removal.inlineForm_colon absent read split with (blank | word) | comma
      · cases paren_sign.1.symm.trans blank
      · cases paren_sign.2.symm.trans word
      · exact absurd comma.1 (by decide)
    | some word =>
      have split : later ++ form.lead ++ form.handle = later ++ ',' :: (' ' :: form.handle) := by
        rw [lead, receiver]
        simp
      rcases Removal.inlineForm_colon absent read split with (blank | word) | comma
      · cases comma_sign.1.symm.trans blank
      · cases comma_sign.2.symm.trans word
      · exact absurd comma.2 nonempty

theorem handle_written {form : Inline} (written : form.WellFormed) :
    Removal.Handle isBlank form.type form.handle (entry form.handleEntry) := by
  refine ⟨[], [' '], [' '], ?_, written.handle, by simp, space_blank, by simp, space_blank⟩
  simp [entry, handleEntry]

theorem entry_solid {form : Inline} {entered back : Text} (written : form.WellFormed)
    (member : entered ∈ form.others) : Stops isBlank (entered ++ back) := by
  obtain ⟨parameter, given, rfl⟩ := List.mem_map.mp member
  rw [entry, List.append_assoc, List.append_assoc]
  exact name_stops_blank (written.parameters parameter given).1

theorem removal_exact {form : Inline} (written : form.WellFormed) :
    ∃ removal, Removal.find? form.type form.text = some removal ∧ removal.handle = form.handle ∧
      removal.text = form.kept := by
  have placed : form.lead = [] ∨ ∃ gap, form.lead = ',' :: gap ∧ ∀ c ∈ gap, isBlank c = true := by
    rw [lead]
    split
    · exact .inr ⟨[' '], rfl, space_blank⟩
    · exact .inl rfl
  have stops : Stops isWord form.tail := by
    rw [tail]
    cases form.others with
    | nil => exact stops_cons.mpr closing_sign.2
    | cons first later => exact stops_cons.mpr comma_sign.2
  obtain ⟨inner, read, handle, taken⟩ :=
    Removal.inlineForm_reads written.typed placed (handle_written written) stops
  have found : Scan.findFirst (Removal.inlineForm form.type) form.text =
      some (form.header ++ form.receiver.getD [], inner, inner.after) :=
    Scan.findFirst_some_exact.mpr ⟨_, text_handle form, read, fun earlier later same nonempty =>
      handle_first written same nonempty form.tail⟩
  refine ⟨{ inner with before := form.header ++ form.receiver.getD [] ++ inner.before }, ?_, handle,
    ?_⟩
  · rw [Removal.find?, Removal.ownLine_unbroken (text_unbroken written), found]
    rfl
  · cases others : form.others with
    | nil =>
      have alone : Removal.comma? (Text.trimStart form.tail) = none := by
        have trimmed : Text.trimStart form.tail = form.tail := by
          refine trimStart_exact.mpr ⟨[], rfl, by simp, ?_⟩
          rw [tail, others]
          exact stops_cons.mpr closing_sign.1
        rw [trimmed, tail, others]
        rfl
      rw [alone] at taken
      rw [Removal.text, taken.1, taken.2, kept_alone others]
      simp
    | cons first later =>
      have next : Removal.comma? (Text.trimStart form.tail) = some (first ++
          (later.flatMap (", ".toList ++ ·) ++ ')' :: form.returns ++ ['{'])) := by
        have shape : form.tail = ',' :: [' '] ++ (first ++
            (later.flatMap (", ".toList ++ ·) ++ ')' :: form.returns ++ ['{'])) := by
          rw [tail, others]
          simp
        have trimmed : Text.trimStart form.tail = form.tail := by
          refine trimStart_exact.mpr ⟨[], rfl, by simp, ?_⟩
          rw [shape]
          exact stops_cons.mpr comma_sign.1
        rw [trimmed]
        exact Removal.comma?_exact.mpr ⟨[' '], shape, space_blank,
          entry_solid written (by rw [others]; exact List.mem_cons_self)⟩
      rw [next] at taken
      rw [Removal.text, taken.1, taken.2, kept_others others]
      simp

theorem inline_wrapper_exact [PatternEngine] {form : Inline} (written : form.WellFormed)
    (indent : Text) :
    ((Wrapper.ofBlock form.type form.text indent).result =
      if Removal.Ready form.type then
        .ok ⟨form.kept ++ form.signature.forwardingBody (indent ++ "    ".toList), form.signature⟩
      else .error (.patternTooBig PatternEngine.limit)) ∧
    form.signature.forwardingBody (indent ++ "    ".toList) =
      ['\n'] ++ (indent ++ "    ".toList) ++ "// Safety: forwarded to caller\n".toList ++
        (indent ++ "    ".toList) ++ "unsafe \x7b ((*self.handle.as_ptr()).".toList ++ form.name ++
        ")(".toList ++ Text.join ", ".toList
          ("self.handle.as_ptr()".toList :: form.parameters.map (·.1)) ++ ") \x7d".toList := by
  obtain ⟨removal, removed, handle, kept⟩ := removal_exact written
  have unit := Parameter.indentationUnit_unbroken (text_unbroken written)
  have names : Parameter.names form.text (Parameter.indentationUnit form.text) =
      removal.handle :: form.parameters.map (·.1) := by
    rw [unit, handle]
    exact names_exact written
  refine ⟨?_, Signature.forwardingBody_call _ _⟩
  rw [← kept, ← text_declaration]
  rw [← text_declaration] at names unit removed
  refine (Wrapper.ofBlock_written (declaration_wellFormed written) names removed form.signature
    (by rw [unit]; rfl)).trans (if_congr ?_ rfl rfl)
  exact and_iff_left (.inl rfl)

def borrowed : Inline where
  name := "g".toList
  receiver := some "&self".toList
  handle := "ph".toList
  type := "H".toList
  parameters := [("cb".toList, "fn(a: c_int, b: [c_int; 2])".toList), ("n".toList, "c_int".toList)]
  returns := " -> c_int ".toList

theorem borrowed_wellFormed : borrowed.WellFormed where
  named := by decide +kernel
  receiver := by simp [borrowed]
  handle := by decide +kernel
  typed := by decide +kernel
  parameters := by
    have array : Balanced false true "[c_int; 2]".toList :=
      .group (by decide) (balanced_checked (by decide) : Balanced false true "c_int; 2".toList) .done
    have inside : Balanced false true "a: c_int, b: [c_int; 2]".toList :=
      balanced_append (balanced_checked (by decide) : Balanced false true "a: c_int, b: ".toList) array
    have callback : Balanced false false "fn(a: c_int, b: [c_int; 2])".toList :=
      balanced_append (balanced_checked (by decide) : Balanced false false "fn".toList)
        (.group (by decide) inside .done)
    have plain : Balanced false false "c_int".toList := balanced_checked (by decide)
    simp only [borrowed, List.forall_mem_cons]
    exact ⟨⟨by decide +kernel, callback, by decide, by decide⟩,
      ⟨by decide +kernel, plain, by decide, by decide⟩, by simp⟩
  returns := by decide

attribute [local instance] PatternEngine.standard

-- Neither the commas nor the colons of the callback's own list are read.
theorem borrowed_wrapped :
    (Wrapper.ofBlock "H".toList ("unsafe fn g(&self, ph: *mut H, ".toList ++
      "cb: fn(a: c_int, b: [c_int; 2]), n: c_int) -> c_int \x7b".toList) []).result =
    .ok ⟨"unsafe fn g(&self, cb: fn(a: c_int, b: [c_int; 2]), n: c_int) -> c_int \x7b\n".toList ++
      "    // Safety: forwarded to caller\n".toList ++
      "    unsafe \x7b ((*self.handle.as_ptr()).g)(self.handle.as_ptr(), cb, n) \x7d".toList,
      ⟨"g".toList, ["cb".toList, "n".toList], []⟩⟩ := by
  obtain ⟨wrapped, call⟩ := inline_wrapper_exact borrowed_wellFormed []
  rw [call, if_pos (by decide +kernel)] at wrapped
  refine wrapped.trans (congrArg Except.ok ?_)
  decide +kernel

end Inline
end PluginBindings
