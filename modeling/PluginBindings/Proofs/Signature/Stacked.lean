import PluginBindings.Proofs.Signature.LineNames
import PluginBindings.Proofs.Signature.Standing
import PluginBindings.Proofs.Signature.Wrapper

namespace PluginBindings

-- A type may go on over further lines.
structure Stacked where
  name : Text
  unit : Text
  receiver : Bool
  handle : Text
  type : Text
  parameters : List (Text × Text)
  closing : Text
  returns : Text

namespace Stacked

def header (form : Stacked) : Text := Declaration.plainHeader form.name

def receivers (form : Stacked) : List Text :=
  if form.receiver then [form.unit ++ "self,".toList] else []

def line (form : Stacked) (parameter : Text × Text) : Text :=
  form.unit ++ parameter.1 ++ ": ".toList ++ parameter.2 ++ [',']

def handleLine (form : Stacked) : Text := form.line (form.handle, "*mut ".toList ++ form.type)

def ending (form : Stacked) : Text := form.closing ++ ')' :: form.returns ++ ['{']

def behind (form : Stacked) : Text :=
  (form.parameters.map form.line).flatMap (· ++ ['\n']) ++ form.ending

def text (form : Stacked) : Text :=
  (form.header :: (form.receivers ++ form.handleLine :: form.parameters.map form.line)).flatMap
    (· ++ ['\n']) ++ form.ending

def declaration (form : Stacked) : Declaration where
  name := form.name
  header := form.header
  rest := (form.receivers ++ form.handleLine :: form.parameters.map form.line).flatMap
    ('\n' :: ·) ++ '\n' :: form.closing ++ ')' :: form.returns

def kept (form : Stacked) : Text :=
  (form.header :: (form.receivers ++ form.parameters.map form.line)).flatMap (· ++ ['\n']) ++
    form.ending

def signature (form : Stacked) : Signature :=
  ⟨form.name, form.parameters.map (·.1), form.unit⟩

def continued (type : Text) : List Text := (Text.pieces (· == '\n') type).drop 1

def Headed (unit line : Text) : Prop :=
  unit <+: line ∧ (line.drop unit.length).head?.any isNameStart = true

instance (unit line : Text) : Decidable (Headed unit line) := inferInstanceAs (Decidable (_ ∧ _))

-- No line on which a type goes on begins as one more parameter would.
structure WellFormed (form : Stacked) : Prop where
  named : isName form.name = true
  unit : form.unit ≠ [] ∧ ∀ c ∈ form.unit, isIndent c = true
  handle : isName form.handle = true
  typed : form.type ≠ [] ∧ ∀ c ∈ form.type, isBlank c = false ∧ c ≠ '{'
  parameters : ∀ parameter ∈ form.parameters, isName parameter.1 = true ∧ '{' ∉ parameter.2 ∧
    ∀ line ∈ continued parameter.2, ¬ Headed form.unit line
  closing : ∀ c ∈ form.closing, isBlank c = true
  returns : '\n' ∉ form.returns ∧ '{' ∉ form.returns

end Stacked

theorem lines_behind (first : Text) (lines : List Text) :
    (first :: lines).flatMap (· ++ ['\n']) = first ++ lines.flatMap ('\n' :: ·) ++ ['\n'] := by
  induction lines generalizing first with
  | nil => simp
  | cons next lines ih =>
    rw [List.flatMap_cons, ih]
    simp

namespace Parameter

theorem lineNames_line {unit name type back : Text} (indents : ∀ c ∈ unit, isIndent c = true)
    (named : isName name = true) (clean : lineNames unit type = []) :
    lineNames unit ('\n' :: (unit ++ name ++ ": ".toList ++ type ++ [',']) ++ back) =
      name :: lineNames unit back := by
  have shape : '\n' :: (unit ++ name ++ ": ".toList ++ type ++ [',']) ++ back =
      '\n' :: unit ++ name ++ [] ++ ':' :: ' ' :: (type ++ ',' :: back) := by simp
  have here : entryAt unit ('\n' :: (unit ++ name ++ ": ".toList ++ type ++ [',']) ++ back) =
      some (name, type ++ ',' :: back) :=
    entryAt_exact.mpr ⟨[], _, shape, named, by simp, by simp, rfl⟩
  have found : Scan.findFirst (entryAt unit)
      ('\n' :: (unit ++ name ++ ": ".toList ++ type ++ [',']) ++ back) =
      some ([], name, type ++ ',' :: back) :=
    Scan.findFirst_some_exact.mpr ⟨_, rfl, here, by simp⟩
  rw [lineNames_next found, lineNames_stop indents comma_sign (by decide), clean, List.nil_append]

-- A type without a line that goes on has no names of its own.
theorem lineNames_continued {unit type : Text} (indents : ∀ c ∈ unit, isIndent c = true)
    (unheaded : ∀ line ∈ Stacked.continued type, ¬ Stacked.Headed unit line) :
    lineNames unit type = [] := by
  refine lineNames_last (Scan.findFirst_none_exact.mpr fun front source same => ?_)
  cases read : entryAt unit source with
  | none => rfl
  | some found =>
    obtain ⟨gap, behind, rfl, named, -⟩ := entryAt_exact.mp read
    cases start : found.1 with
    | nil => rw [start] at named; cases named
    | cons c name =>
      rw [start] at named same
      have letter : isNameStart c = true := by
        simp only [isName, Bool.and_eq_true] at named
        exact named.1
      have joined : ∀ d ∈ unit ++ [c], (d == '\n') = false := by
        intro d member
        rw [beq_eq_false_iff_ne]
        rintro rfl
        rcases List.mem_append.mp member with member | member
        · exact absurd (indents _ member) (by decide)
        · rw [← List.mem_singleton.mp member] at letter
          exact absurd letter (by decide)
      have shape : type = front ++ '\n' :: ((unit ++ [c]) ++ (name ++ gap ++ ':' :: behind)) := by
        rw [same]
        simp
      obtain ⟨first, others, pieces, -⟩ :=
        Text.pieces_cons (· == '\n') c (name ++ gap ++ ':' :: behind)
      obtain ⟨first', others', pieces', -⟩ := Text.pieces_cons (· == '\n') c front
      have lines : Text.pieces (· == '\n') type =
          first' :: others' ++ (unit ++ [c] ++ first) :: others := by
        rw [shape, Text.pieces_apart (by rfl), Text.pieces_joined joined, pieces, pieces']
        rfl
      have among : unit ++ [c] ++ first ∈ Stacked.continued type := by
        rw [Stacked.continued, lines]
        simp
      refine absurd ⟨⟨[c] ++ first, by simp⟩, ?_⟩ (unheaded _ among)
      simpa using letter

end Parameter

namespace Stacked

theorem text_rows (form : Stacked) :
    form.text = form.header ++ (form.receivers ++ form.handleLine ::
      form.parameters.map form.line).flatMap ('\n' :: ·) ++ '\n' :: form.ending := by
  rw [text, lines_behind]
  simp

theorem text_declaration (form : Stacked) : form.declaration.text = form.text := by
  rw [text_rows, Declaration.text, ending]
  simp [declaration]

theorem names_rows {form : Stacked} (written : form.WellFormed) (back : Text) :
    Parameter.lineNames form.unit ((form.handleLine :: form.parameters.map form.line).flatMap
        ('\n' :: ·) ++ back) =
      form.handle :: form.parameters.map (·.1) ++ Parameter.lineNames form.unit back := by
  have indents := written.unit.2
  have others : ∀ parameters : List (Text × Text), parameters ⊆ form.parameters →
      Parameter.lineNames form.unit ((parameters.map form.line).flatMap ('\n' :: ·) ++ back) =
        parameters.map (·.1) ++ Parameter.lineNames form.unit back := by
    intro parameters among
    induction parameters with
    | nil => rfl
    | cons parameter parameters ih =>
      obtain ⟨first, later⟩ := List.cons_subset.mp among
      obtain ⟨named, -, unheaded⟩ := written.parameters parameter first
      have clean := Parameter.lineNames_continued indents unheaded
      rw [List.map_cons, List.flatMap_cons, List.append_assoc]
      rw [line, Parameter.lineNames_line indents named clean, ih later]
      rfl
  have clean : Parameter.lineNames form.unit ("*mut ".toList ++ form.type) = [] := by
    refine Parameter.lineNames_unbroken fun member => ?_
    rcases List.mem_append.mp member with member | member
    · exact absurd member (by decide)
    · exact absurd (written.typed.2 _ member).1 (by decide)
  rw [List.flatMap_cons, List.append_assoc, handleLine, line,
    Parameter.lineNames_line indents written.handle clean, others _ (List.Subset.refl _)]
  rfl

-- Up to its handle a declaration has no colon, and it comes to a sign there.
theorem front_plain {form : Stacked} (written : form.WellFormed) :
    ∃ words c, form.header ++ form.receivers.flatMap ('\n' :: ·) = words ++ [c] ∧
      ':' ∉ words ∧ (isBlank c = false ∧ isWord c = false) ∧ c ≠ ':' := by
  have header := Declaration.header_plain written.named
  obtain ⟨words, same, plain⟩ := Declaration.header_words header
  cases receiver : form.receiver with
  | false =>
    refine ⟨words, '(', ?_, sign_absent plain colon_sign, paren_sign, by decide⟩
    simp only [receivers, receiver, Bool.false_eq_true, if_false, List.flatMap_nil, List.append_nil]
    exact same
  | true =>
    refine ⟨form.header ++ '\n' :: form.unit ++ "self".toList, ',', ?_, ?_, comma_sign, by decide⟩
    · simp [receivers, receiver]
    · have bare := Declaration.header_lacks header colon_sign (by decide)
      have inside : ':' ∉ form.unit := fun member => by
        cases (colon_sign.1).symm.trans (indent_blank (written.unit.2 _ member))
      simp only [List.mem_append, List.mem_cons, not_or]
      exact ⟨⟨bare, by decide, inside⟩, by decide⟩

theorem names_exact {form : Stacked} (written : form.WellFormed) :
    Parameter.lineNames form.unit form.text = form.handle :: form.parameters.map (·.1) := by
  obtain ⟨words, c, same, absent, sign, other⟩ := front_plain written
  have indents := written.unit.2
  have closing : ':' ∉ '\n' :: form.closing := by
    intro member
    rcases List.mem_cons.mp member with colon | member
    · exact absurd colon (by decide)
    · cases colon_sign.1.symm.trans (written.closing _ member)
  have returns : '\n' ∉ form.returns ++ ['{'] := by simpa using written.returns.1
  have ending : '\n' :: form.ending = ('\n' :: form.closing) ++ ')' :: (form.returns ++ ['{']) := by
    simp [ending]
  have shape : form.text = words ++ c :: ((form.handleLine :: form.parameters.map form.line).flatMap
      ('\n' :: ·) ++ '\n' :: form.ending) := by
    rw [text_rows, List.flatMap_append, ← List.append_assoc form.header, same]
    simp
  rw [shape, Parameter.lineNames_stop indents sign other, Parameter.lineNames_absent absent,
    names_rows written, ending, Parameter.lineNames_stop indents closing_sign (by decide),
    Parameter.lineNames_absent closing, Parameter.lineNames_unbroken returns]
  simp

theorem unit_exact {form : Stacked} (written : form.WellFormed) :
    Parameter.indentationUnit form.text = form.unit := by
  obtain ⟨words, c, same, absent, sign, other⟩ := front_plain written
  obtain ⟨nonempty, indents⟩ := written.unit
  have shape : form.text = words ++ c :: ('\n' :: form.unit ++ form.handle ++ [] ++
      ':' :: ' ' :: ("*mut ".toList ++ form.type ++ ',' ::
        ((form.parameters.map form.line).flatMap ('\n' :: ·) ++ '\n' :: form.ending))) := by
    rw [text_rows, List.flatMap_append, ← List.append_assoc form.header, same]
    simp [handleLine, line]
  rw [shape]
  exact Parameter.indentationUnit_first nonempty indents absent sign other
    (Parameter.entryAt_exact.mpr ⟨[], _, rfl, written.handle, by simp, by simp, rfl⟩)

theorem type_solid {form : Stacked} (written : form.WellFormed) (later : Text) :
    Stops isBlank (form.type ++ later) := by
  obtain ⟨nonempty, plain⟩ := written.typed
  cases type : form.type with
  | nil => exact absurd type nonempty
  | cons c rest => exact stops_cons.mpr (plain c (by simp [type])).1

-- No line before the handle's holds a handle alone: none of them has a colon.
theorem handleLine_first {form : Stacked} (written : form.WellFormed) :
    ∃ front, form.text = front ++ ((form.handleLine ++ ['\n']) ++ form.behind) ∧
      form.kept = front ++ form.behind ∧
      Scan.findAtLineStart (Removal.ownLineForm form.type) true form.text =
        some (front, form.handle, form.behind) := by
  obtain ⟨words, c, same, absent, -, other⟩ := front_plain written
  have opening : (form.header :: form.receivers).flatMap (· ++ ['\n']) = words ++ [c] ++ ['\n'] := by
    rw [lines_behind, same]
  have text : form.text =
      (words ++ [c] ++ ['\n']) ++ ((form.handleLine ++ ['\n']) ++ form.behind) := by
    rw [← opening, Stacked.text, behind]
    simp
  have kept : form.kept = (words ++ [c] ++ ['\n']) ++ form.behind := by
    rw [← opening, Stacked.kept, behind]
    simp
  have bare : ':' ∉ words ++ [c] := by simp [absent, Ne.symm other]
  have first := Removal.findLine_first (type_solid written) written.handle written.unit.2 bare
    Removal.lineEnd_comma form.behind
  refine ⟨words ++ [c] ++ ['\n'], text, kept, ?_⟩
  rw [text]
  simpa [handleLine, line] using first

theorem line_closed {form : Stacked} {parameter : Text × Text} (written : form.WellFormed)
    (named : isName parameter.1 = true) (closed : '{' ∉ parameter.2) :
    '{' ∉ form.line parameter := by
  have plain : ∀ c ∈ form.unit ++ parameter.1, isBlank c = true ∨ isWord c = true := by
    intro c member
    rcases List.mem_append.mp member with member | member
    · exact .inl (indent_blank (written.unit.2 c member))
    · exact .inr (isName_word named c member)
  have front := sign_absent plain brace_sign
  simp only [line, List.mem_append, not_or] at front ⊢
  exact ⟨⟨⟨front, by decide⟩, closed⟩, by decide⟩

theorem lines_closed {form : Stacked} (written : form.WellFormed) :
    ∀ line ∈ form.receivers ++ form.handleLine :: form.parameters.map form.line, '{' ∉ line := by
  intro line member
  rcases List.mem_append.mp member with member | member
  · have plain : ∀ c ∈ form.unit, isBlank c = true ∨ isWord c = true :=
      fun c inside => .inl (indent_blank (written.unit.2 c inside))
    cases receiver : form.receiver with
    | false => simp [receivers, receiver] at member
    | true =>
      obtain rfl : line = form.unit ++ "self,".toList := by simpa [receivers, receiver] using member
      rw [List.mem_append, not_or]
      exact ⟨sign_absent plain brace_sign, by decide⟩
  · rcases List.mem_cons.mp member with rfl | member
    · apply line_closed written written.handle
      rw [List.mem_append, not_or]
      exact ⟨by decide, fun inside => (written.typed.2 _ inside).2 rfl⟩
    · obtain ⟨parameter, among, rfl⟩ := List.mem_map.mp member
      obtain ⟨named, closed, -⟩ := written.parameters parameter among
      exact line_closed written named closed

theorem declaration_wellFormed {form : Stacked} (written : form.WellFormed) :
    form.declaration.WellFormed := by
  refine ⟨Declaration.header_plain written.named, fun member => ?_⟩
  simp only [declaration, List.mem_append, List.mem_cons, List.mem_flatMap] at member
  rcases member with (⟨line, among, brace | inside⟩ | brace | inside) | brace | inside
  · exact absurd brace (by decide)
  · exact lines_closed written line (by simpa using among) inside
  · exact absurd brace (by decide)
  · cases brace_sign.1.symm.trans (written.closing _ inside)
  · exact absurd brace (by decide)
  · exact written.returns.2 inside

theorem stacked_wrapper_exact [PatternEngine] {form : Stacked} (written : form.WellFormed)
    (indent : Text) :
    ((Wrapper.ofBlock form.type form.text indent).result =
      if Removal.Ready form.type ∧ (Pattern.parameterEntry form.unit).Fits then
        .ok ⟨form.kept ++ form.signature.forwardingBody (indent ++ "    ".toList), form.signature⟩
      else .error (.patternTooBig PatternEngine.limit)) ∧
    form.signature.forwardingBody (indent ++ "    ".toList) =
      ['\n'] ++ (indent ++ "    ".toList) ++ "// Safety: forwarded to caller\n".toList ++
        (indent ++ "    ".toList) ++ "unsafe \x7b ((*self.handle.as_ptr()).".toList ++ form.name ++
        ")(".toList ++ Text.join ", ".toList
          ("self.handle.as_ptr()".toList :: form.parameters.map (·.1)) ++ ") \x7d".toList := by
  obtain ⟨front, -, kept, first⟩ := handleLine_first written
  obtain ⟨line, -, -, -, removed⟩ := Removal.find?_line first
  have unit := unit_exact written
  have names : Parameter.names form.text form.unit = form.handle :: form.parameters.map (·.1) := by
    have nonempty : form.unit.isEmpty = false := by simpa using written.unit.1
    rw [Parameter.names, nonempty]
    exact names_exact written
  rw [← unit] at names
  refine ⟨?_, Signature.forwardingBody_call _ _⟩
  rw [kept, ← text_declaration]
  rw [← text_declaration] at names unit removed
  refine (Wrapper.ofBlock_written (declaration_wellFormed written) names removed form.signature
    (by rw [unit]; rfl)).trans (if_congr ?_ rfl rfl)
  exact and_congr_right' (Parameter.readable_exact written.unit.1)

-- A callback that takes a handle of its own, on a line deeper in.
def callback : Stacked where
  name := "f".toList
  unit := "    ".toList
  receiver := true
  handle := "ph".toList
  type := "H".toList
  parameters := [("cb".toList, "fn(\n        ph: *mut H,\n    ) -> c_int".toList),
    ("n".toList, "c_int".toList)]
  closing := []
  returns := [' ']

theorem callback_wellFormed : callback.WellFormed where
  named := by decide +kernel
  unit := ⟨by decide, List.all_eq_true.mp (by decide)⟩
  handle := by decide +kernel
  typed := ⟨by decide, by simp [callback]; decide⟩
  parameters := by decide +kernel
  closing := by simp [callback]
  returns := by decide

attribute [local instance] PatternEngine.standard

theorem callback_wrapped :
    (Wrapper.ofBlock "H".toList ("unsafe fn f(\n    self,\n    ph: *mut H,\n    cb: fn(\n".toList ++
      "        ph: *mut H,\n    ) -> c_int,\n    n: c_int,\n) \x7b".toList) []).result =
    .ok ⟨"unsafe fn f(\n    self,\n    cb: fn(\n        ph: *mut H,\n".toList ++
      "    ) -> c_int,\n    n: c_int,\n) \x7b\n    // Safety: forwarded to caller\n".toList ++
      "    unsafe \x7b ((*self.handle.as_ptr()).f)(self.handle.as_ptr(), cb, n) \x7d".toList,
      ⟨"f".toList, ["cb".toList, "n".toList], "    ".toList⟩⟩ := by
  obtain ⟨wrapped, call⟩ := stacked_wrapper_exact callback_wellFormed []
  rw [call, if_pos (by decide +kernel)] at wrapped
  refine wrapped.trans (congrArg Except.ok ?_)
  decide +kernel

end Stacked
end PluginBindings
