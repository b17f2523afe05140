import PluginBindings.Proofs.Descriptor.Sheet
import PluginBindings.Proofs.Text.Lines

namespace PluginBindings
namespace Descriptor

structure LabelForm where
  indent : Text
  marker : Option Text
  label : Text
  comma : Bool

namespace LabelForm

def comma? (form : LabelForm) : Text := if form.comma then [','] else []

def text (form : LabelForm) : Text :=
  match form.marker with
  | some marker => form.indent ++ marker ++ ['(', '"'] ++ form.label ++ ['"', ')'] ++ form.comma?
  | none => form.indent ++ ['"'] ++ form.label ++ ['"'] ++ form.comma?

structure WellFormed (form : LabelForm) : Prop where
  indent : ∀ c ∈ form.indent, isBlank c = true
  marker : ∀ marker ∈ form.marker, isName marker = true

theorem comma?_bare (form : LabelForm) : '"' ∉ form.comma? := by
  unfold comma?
  cases form.comma <;> decide

theorem indent_bare {form : LabelForm} (written : form.WellFormed) : '"' ∉ form.indent :=
  fun quote => absurd (written.indent _ quote) (by decide)

theorem text_spans {form : LabelForm} (written : form.WellFormed) : Spans form.text form.label := by
  have indent := indent_bare written
  have comma := form.comma?_bare
  cases given : form.marker with
  | none => exact ⟨form.indent, form.comma?, by simp [text, given], indent, comma⟩
  | some marker =>
    have marked : '"' ∉ marker := fun quote =>
      absurd (isName_word (written.marker marker given) _ quote) (by decide +kernel)
    exact ⟨form.indent ++ marker ++ ['('], ')' :: form.comma?, by simp [text, given],
      by simp [indent, marked], by simp [comma]⟩

-- The label is read back whatever it holds, quotes and closing brackets included.
theorem text_label {form : LabelForm} (written : form.WellFormed) (unbroken : '\n' ∉ form.text) :
    label? form.text = some form.label :=
  (label?_exact unbroken).mpr (text_spans written)

theorem text_ends (form : LabelForm) : form.text.getLast?.any (· != '\r') = true := by
  unfold text comma?
  cases form.marker <;> cases form.comma <;> simp [List.getLast?_cons]

end LabelForm

structure ArrayForm where
  above : List Text
  specifiers : Text
  key : Text
  labels : List LabelForm
  semicolon : Bool

namespace ArrayForm

def declaration (form : ArrayForm) : Text := form.specifiers ++ form.key ++ "[] = \x7b".toList

def closing (form : ArrayForm) : Text := '}' :: if form.semicolon then [';'] else []

def block (form : ArrayForm) : List Text :=
  form.declaration :: (form.labels.map (·.text) ++ [form.closing])

def lines (form : ArrayForm) : List Text := form.above ++ form.block

structure WellFormed (form : ArrayForm) : Prop where
  above : ∀ line ∈ form.above, Text.isBlankText line = true
  starts : form.specifiers.head?.any isNameStart = true
  specifies : ∀ c ∈ form.specifiers, isSpecifier c = true
  ends : form.specifiers.getLast?.any (fun c => isBlank c || c == '*') = true
  named : isName form.key = true
  labels : ∀ label ∈ form.labels, label.WellFormed

theorem declaration_key {form : ArrayForm} (written : form.WellFormed) :
    declaredKey? form.declaration = some form.key := by
  have apart : Stops isWord form.specifiers.reverse := by
    intro c first
    rw [List.head?_reverse] at first
    have last := written.ends
    rw [Option.mem_def.mp first, Option.any_some, Bool.or_eq_true, beq_iff_eq] at last
    rcases last with blank | rfl
    · exact blank_not_word blank
    · decide +kernel
  have opened : Scan.whole arrayOpening "[] = \x7b".toList = some () := by decide
  have read : declaredKey? ([] ++ form.specifiers ++ form.key ++ [] ++ "[] = \x7b".toList) =
      some form.key :=
    declaredKey?_written (by simp) written.starts written.specifies apart written.named (by simp)
      opened
  rwa [List.nil_append, List.append_nil] at read

theorem closing_closes (form : ArrayForm) : isClosing form.closing = true := by
  unfold closing
  cases form.semicolon <;> decide

theorem block_solid {form : ArrayForm} (unbroken : ∀ line ∈ form.block, '\n' ∉ line) :
    ∀ line ∈ form.block, Text.Solid line := by
  intro line member
  refine ⟨unbroken line member, ?_⟩
  rcases List.mem_cons.mp member with rfl | member
  · simp [declaration]
  · rcases List.mem_append.mp member with member | member
    · obtain ⟨label, -, rfl⟩ := List.mem_map.mp member
      exact label.text_ends
    · rw [List.mem_singleton.mp member, closing]
      cases form.semicolon <;> decide

theorem block_labels {form : ArrayForm} (written : form.WellFormed)
    (unbroken : ∀ line ∈ form.block, '\n' ∉ line) :
    (form.labels.map (·.text)).map label? = (form.labels.map (·.label)).map some := by
  rw [List.map_map, List.map_map]
  apply List.map_congr_left
  intro label member
  apply LabelForm.text_label (written.labels label member)
  apply unbroken
  simp only [block, List.mem_cons, List.mem_append, List.mem_map]
  exact .inr (.inl ⟨label, member, rfl⟩)

end ArrayForm

structure SheetForm where
  header : List Text
  arrays : List ArrayForm
  below : List Text

namespace SheetForm

def lines (form : SheetForm) : List Text :=
  form.header ++ (form.arrays.flatMap (·.lines) ++ form.below)

-- A text that ends in a line feed is one whose last line is empty.
def text (form : SheetForm) : Text := Text.join ['\n'] form.lines

structure WellFormed (form : SheetForm) : Prop where
  unbroken : ∀ line ∈ form.lines, '\n' ∉ line
  arrays : ∀ array ∈ form.arrays, array.WellFormed
  below : ∀ line ∈ form.below, Text.isBlankText line = true

def described (above : Nat) : List ArrayForm → List FieldDescriptor
  | [] => []
  | array :: later =>
    ⟨array.key, above + array.above.length + 1, array.labels.map (·.label)⟩ ::
      described (above + array.lines.length) later

def descriptors (form : SheetForm) : List FieldDescriptor :=
  described form.header.length form.arrays

end SheetForm

theorem asRead_blank {line : Text} (blank : Text.isBlankText line = true) :
    Text.isBlankText (Text.asRead line) = true := by
  rw [Text.isBlankText, List.all_eq_true] at blank ⊢
  exact fun c member => blank c (Text.asRead_subset line member)

theorem sheet_blanks {blanks later : List Text}
    (blank : ∀ line ∈ blanks, Text.isBlankText line = true)
    (unbroken : ∀ line ∈ blanks, '\n' ∉ line)
    (sheet : Sheet (linesFrom (number + blanks.length) (Text.lines (Text.join ['\n'] later))) arrays) :
    Sheet (linesFrom number (Text.lines (Text.join ['\n'] (blanks ++ later)))) arrays := by
  induction blanks generalizing number with
  | nil => exact sheet
  | cons line blanks ih =>
    obtain ⟨here, blank⟩ := List.forall_mem_cons.mp blank
    obtain ⟨joined, unbroken⟩ := List.forall_mem_cons.mp unbroken
    rw [List.cons_append]
    cases rest : blanks ++ later with
    | nil =>
      obtain ⟨rfl, rfl⟩ := List.append_eq_nil_iff.mp rest
      by_cases empty : line = []
      · subst empty
        exact sheet
      · rw [Text.join, List.intercalate_singleton, Text.lines_last joined empty]
        exact .blank here sheet
    | cons next more =>
      rw [Text.lines_join_cons joined (by simp), linesFrom, ← rest]
      refine .blank (asRead_blank here) (ih blank unbroken ?_)
      rwa [Nat.add_assoc, Nat.add_comm 1]

theorem sheet_block {form : ArrayForm} {later : List Text} (written : form.WellFormed)
    (unbroken : ∀ line ∈ form.block, '\n' ∉ line)
    (sheet : Sheet (linesFrom (number + form.block.length)
      (Text.lines (Text.join ['\n'] later))) arrays) :
    Sheet (linesFrom number (Text.lines (Text.join ['\n'] (form.block ++ later))))
      (⟨form.key, number, form.labels.map (·.label)⟩ :: arrays) := by
  rw [Text.lines_join_solid (ArrayForm.block_solid unbroken), linesFrom_append]
  have parts : linesFrom number form.block = ⟨number, form.declaration⟩ ::
      (linesFrom (number + 1) (form.labels.map (·.text)) ++
        [⟨number + 1 + form.labels.length, form.closing⟩]) := by
    rw [ArrayForm.block, linesFrom, linesFrom_append, List.length_map]
    rfl
  have labelled : (linesFrom (number + 1) (form.labels.map (·.text))).map (label? ·.text) =
      (form.labels.map (·.label)).map some := by
    have texts := linesFrom_texts (number + 1) (form.labels.map (·.text))
    rw [← ArrayForm.block_labels written unbroken, ← congrArg (List.map label?) texts, List.map_map]
    rfl
  rw [parts, List.cons_append, List.append_assoc]
  exact .array (ArrayForm.declaration_key written) labelled form.closing_closes sheet

theorem sheet_arrays {forms : List ArrayForm} {below : List Text}
    (written : ∀ form ∈ forms, form.WellFormed)
    (unbroken : ∀ line ∈ forms.flatMap (·.lines) ++ below, '\n' ∉ line)
    (blank : ∀ line ∈ below, Text.isBlankText line = true) :
    Sheet (linesFrom (above + 1) (Text.lines (Text.join ['\n'] (forms.flatMap (·.lines) ++ below))))
      (SheetForm.described above forms) := by
  induction forms generalizing above with
  | nil =>
    have whole : Sheet (linesFrom (above + 1) (Text.lines (Text.join ['\n'] (below ++ [])))) [] :=
      sheet_blanks blank unbroken .done
    rwa [List.append_nil] at whole
  | cons form forms ih =>
    obtain ⟨here, others⟩ := List.forall_mem_cons.mp written
    rw [List.flatMap_cons, List.append_assoc] at unbroken ⊢
    obtain ⟨own, later⟩ := List.forall_mem_append.mp unbroken
    obtain ⟨aboves, block⟩ := List.forall_mem_append.mp own
    rw [ArrayForm.lines, List.append_assoc, SheetForm.described]
    apply sheet_blanks here.above aboves
    have number : above + 1 + form.above.length = above + form.above.length + 1 := by omega
    rw [number]
    apply sheet_block here block
    have next : above + form.above.length + 1 + form.block.length = above + form.lines.length + 1 := by
      rw [ArrayForm.lines, List.length_append]
      omega
    rw [next]
    exact ih others later

-- A caller gets the written arrays, each with the line of its declaration, and then nothing.
theorem rendered_read {form : SheetForm} (written : form.WellFormed) (calls : Nat) :
    (read form.text form.header.length).answers calls =
      (form.descriptors.map (some ∘ Except.ok) ++ List.replicate calls none).take calls := by
  obtain ⟨header, body⟩ := List.forall_mem_append.mp written.unbroken
  have sheet : Sheet (numberedLines form.text form.header.length) form.descriptors := by
    rw [numberedLines_from, SheetForm.text, SheetForm.lines, Text.lines_join_drop header]
    exact sheet_arrays written.arrays body written.below
  rw [Reading.answers_exact (Nat.le_refl calls), read_exact.mpr sheet, List.map_map]

def quoted : SheetForm where
  header := ["/* header".toList, "static char * a[] = \x7b".toList]
  arrays := [
    { above := [[], "\t".toList]
      specifiers := "static char *\t".toList
      key := "a".toList
      labels := [⟨['\t'], some "N_".toList, "say \\\"hi\\\"\"), \"x".toList, true⟩,
        ⟨"    ".toList, none, "N_(\"y\")".toList, false⟩]
      semicolon := true },
    { above := [], specifiers := "char*".toList, key := "b".toList, labels := [], semicolon := false }]
  below := ["  ".toList, []]

theorem quoted_wellFormed : quoted.WellFormed where
  unbroken := by decide
  arrays := by
    have static : ∀ c ∈ "static char *\t".toList, isSpecifier c = true :=
      List.all_eq_true.mp (by decide +kernel)
    have pointer : ∀ c ∈ "char*".toList, isSpecifier c = true :=
      List.all_eq_true.mp (by decide +kernel)
    have tab : ∀ c ∈ ['\t'], isBlank c = true := List.all_eq_true.mp (by decide)
    have spaces : ∀ c ∈ "    ".toList, isBlank c = true := List.all_eq_true.mp (by decide)
    simp only [quoted, List.forall_mem_cons]
    refine ⟨⟨by decide, by decide, static, by decide, by decide +kernel, ?_⟩,
      ⟨by decide, by decide, pointer, by decide, by decide +kernel, by simp⟩, by simp⟩
    simp only [List.forall_mem_cons]
    exact ⟨⟨tab, by decide +kernel⟩, ⟨spaces, by simp⟩, by simp⟩
  below := by decide

theorem quoted_read :
    (read ("/* header\nstatic char * a[] = \x7b\n\n\t\nstatic char *\ta[] = \x7b\n".toList ++
      "\tN_(\"say \\\"hi\\\"\"), \"x\"),\n    \"N_(\"y\")\"\n\x7d;\n".toList ++
      "char*b[] = \x7b\n\x7d\n  \n".toList) 2).answers 4 =
    [some (.ok ⟨"a".toList, 5, ["say \\\"hi\\\"\"), \"x".toList, "N_(\"y\")".toList]⟩),
      some (.ok ⟨"b".toList, 9, []⟩), none, none] :=
  rendered_read quoted_wellFormed 4

end Descriptor
end PluginBindings
