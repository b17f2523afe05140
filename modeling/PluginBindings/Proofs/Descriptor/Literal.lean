import PluginBindings.Proofs.Descriptor.Extraction

namespace PluginBindings
namespace Descriptor

-- An escape takes any character; otherwise a quote would end the literal.
def isBodyFrom : (escaped : Bool) → Text → Bool
  | escaped, [] => !escaped
  | true, _ :: text => isBodyFrom false text
  | false, c :: text => c != '"' && isBodyFrom (c == '\\') text

-- What one string literal can hold between its quotes.
def isBody (label : Text) : Bool := isBodyFrom false label

inductive Literals : Text → List Text → Prop where
  | none (bare : '"' ∉ text) : Literals text []
  | literal (bare : '"' ∉ front) (body : isBody label = true) (later : Literals rest labels) :
      Literals (front ++ '"' :: (label ++ '"' :: rest)) (label :: labels)

theorem isBodyFrom_unique {label other rest rest' : Text}
    (same : label ++ '"' :: rest = other ++ '"' :: rest') (body : isBodyFrom escaped label = true)
    (body' : isBodyFrom escaped other = true) : label = other := by
  induction label generalizing escaped other with
  | nil =>
    cases escaped with
    | true => cases body
    | false =>
      cases other with
      | nil => rfl
      | cons c other =>
        obtain ⟨rfl, -⟩ := List.cons.inj same
        cases body'
  | cons c label ih =>
    cases other with
    | nil =>
      obtain ⟨rfl, -⟩ := List.cons.inj same
      cases escaped with
      | true => cases body'
      | false => cases body
    | cons d other =>
      obtain ⟨rfl, later⟩ := List.cons.inj same
      cases escaped with
      | true => rw [ih later body body']
      | false =>
        simp only [isBodyFrom, Bool.and_eq_true] at body body'
        rw [ih later body.2 body'.2]

theorem Literals.unique (found : Literals line labels) (found' : Literals line others) :
    labels = others := by
  induction found generalizing others with
  | none bare =>
    cases found' with
    | none => rfl
    | literal => simp at bare
  | @literal front label rest labels bare body later ih =>
    generalize written : front ++ '"' :: (label ++ '"' :: rest) = line at found'
    cases found' with
    | none bare' => simp [← written] at bare'
    | @literal front' label' rest' others bare' body' later' =>
      have behind := (Text.cut_unique written bare bare').2
      obtain rfl := isBodyFrom_unique behind body body'
      obtain rfl : rest = rest' := by simpa using behind
      rw [ih later']

theorem literals_single : Literals line [label] ↔ Spans line label ∧ isBody label = true := by
  constructor
  · intro found
    cases found with
    | literal bare body later =>
      cases later with
      | none bare' => exact ⟨⟨_, _, rfl, bare, bare'⟩, body⟩
  · rintro ⟨⟨front, back, rfl, bare, bare'⟩, body⟩
    exact .literal bare body (.none bare')

theorem literals_nonempty (spans : Spans line label) (found : Literals line labels) :
    labels ≠ [] := by
  rintro rfl
  cases found with
  | none bare => exact bare spans.inside.2

theorem literals_spanned (spans : Spans line label) (found : Literals line labels) :
    (isBody label = true ↔ labels = [label]) ∧ (labels = [label] ↔ labels.length = 1) := by
  constructor
  · constructor
    · exact fun body => found.unique (literals_single.mpr ⟨spans, body⟩)
    · rintro rfl
      exact (literals_single.mp found).2
  · constructor
    · rintro rfl
      rfl
    · intro single
      obtain ⟨only, rfl⟩ := List.length_eq_one_iff.mp single
      rw [spans.unique (literals_single.mp found).1]

-- Their numbers agree only where no line holds two.
theorem literals_counted {lines : List Text} {labels : List Text} {found : List (List Text)}
    (spans : List.Forall₂ Spans lines labels) (literals : List.Forall₂ Literals lines found) :
    labels.length ≤ found.flatten.length ∧
      ((∀ label ∈ labels, isBody label = true) ↔ found.flatten = labels) ∧
      (found.flatten = labels ↔ found.flatten.length = labels.length) := by
  induction spans generalizing found with
  | nil =>
    cases literals
    simp
  | @cons line label lines labels here _ ih =>
    cases literals with
    | @cons _ first _ found here' later =>
      obtain ⟨least, bodies, counted⟩ := ih later
      obtain ⟨body, single⟩ := literals_spanned here here'
      have nonempty := List.length_pos_iff.mpr (literals_nonempty here here')
      have all : (∀ other ∈ label :: labels, isBody other = true) ↔
          first = [label] ∧ found.flatten = labels := by
        rw [List.forall_mem_cons, body, bodies]
      have counts : (first ++ found.flatten).length = (label :: labels).length ↔
          first = [label] ∧ found.flatten = labels := by
        rw [single, counted, List.length_append, List.length_cons]
        omega
      have whole : first ++ found.flatten = label :: labels ↔
          first = [label] ∧ found.flatten = labels := by
        constructor
        · exact fun same => counts.mp (congrArg List.length same)
        · rintro ⟨rfl, rfl⟩
          rfl
      rw [List.flatten_cons, all, whole, counts, List.length_append, List.length_cons]
      exact ⟨by omega, .rfl, .rfl⟩

theorem labels_span {body : List Line} {labels : List Text}
    (labelled : body.map (label? ·.text) = labels.map some)
    (unbroken : ∀ line ∈ body, '\n' ∉ line.text) :
    List.Forall₂ Spans (body.map (·.text)) labels := by
  induction body generalizing labels with
  | nil =>
    obtain rfl : labels = [] := by simpa using labelled.symm
    exact .nil
  | cons line body ih =>
    obtain ⟨here, others⟩ := List.forall_mem_cons.mp unbroken
    cases labels with
    | nil => cases labelled
    | cons label labels =>
      obtain ⟨read, later⟩ := List.cons.inj labelled
      exact .cons ((label?_exact here).mp read) (ih later others)

-- The labels of an array are its literals where no line holds more than one, and only there: a
-- line with two gives one label that is no literal, and moves all behind it.
theorem labels_literal_exact {array : FieldDescriptor} {text : Text} {header calls : Nat}
    (yielded : some (.ok array) ∈ (read text header).answers calls) :
    ∃ (above body below : List Line) (opening closing : Line),
      numberedLines text header = above ++ opening :: (body ++ closing :: below) ∧
      declaredKey? opening.text = some array.key ∧ opening.number = array.line ∧
      isClosing closing.text = true ∧
      List.Forall₂ (fun line label => Spans line label ∧ (isBody label = true ↔ Literals line [label]))
        (body.map (·.text)) array.fields ∧
      ∀ found : List (List Text), List.Forall₂ Literals (body.map (·.text)) found →
        array.fields.length ≤ found.flatten.length ∧
        ((∀ label ∈ array.fields, isBody label = true) ↔ found.flatten = array.fields) ∧
        (found.flatten = array.fields ↔ found.flatten.length = array.fields.length) := by
  obtain ⟨whole, rest, arrays, ending, split, sheet, -, items⟩ :=
    readFrom_halts (numberedLines text header)
  have among : array ∈ arrays := by
    rw [Reading.answers_exact (Nat.le_refl calls), read, items] at yielded
    have answered := List.mem_of_mem_take yielded
    cases ending <;> simpa [parseError] using answered
  obtain ⟨above, body, below, opening, closing, rfl, declared, number, labelled, closed⟩ :=
    sheet_array sheet among
  have unbroken : ∀ line ∈ body, '\n' ∉ line.text := by
    intro line member
    have inside : line ∈ numberedLines text header := by simp [split, member]
    exact numberedLines_unbroken inside
  have spans := labels_span labelled unbroken
  have single : ∀ line label, Spans line label →
      Spans line label ∧ (isBody label = true ↔ Literals line [label]) := by
    intro line label here
    refine ⟨here, ?_⟩
    rw [literals_single]
    exact ⟨fun body => ⟨here, body⟩, And.right⟩
  exact ⟨above, body, below ++ rest, opening, closing, by simp [split], declared, number, closed,
    spans.imp single, fun found literals => literals_counted spans literals⟩

theorem escaped_quotes_literal :
    let text := "char *a[] = \x7b\n\tN_(\"say \\\"hi\\\"\"),\n\t\"x\",\n\x7d;\n".toList
    let labels := ["say \\\"hi\\\"".toList, "x".toList]
    some (.ok ⟨"a".toList, 1, labels⟩) ∈ (read text 0).answers 1 ∧
      ∃ body : List Line, body ⊆ numberedLines text 0 ∧
        List.Forall₂ Spans (body.map (·.text)) labels ∧
        ∀ found, List.Forall₂ Literals (body.map (·.text)) found → found.flatten = labels := by
  intro text labels
  have yielded : some (.ok ⟨"a".toList, 1, labels⟩) ∈ (read text 0).answers 1 := by decide +kernel
  refine ⟨yielded, ?_⟩
  obtain ⟨above, body, below, opening, closing, split, -, -, -, spans, literal⟩ :=
    labels_literal_exact yielded
  refine ⟨body, ?_, spans.imp fun _ _ => And.left, fun found literals => ?_⟩
  · intro line member
    simp [split, member]
  · obtain ⟨-, bodies, -⟩ := literal found literals
    exact bodies.mp (by decide)

theorem sharedLine_merged :
    (read "char *a[] = \x7b\n\t\"x\", \"y\",\n\x7d;\n".toList 0).answers 2 =
        [some (.ok ⟨"a".toList, 1, ["x\", \"y".toList]⟩), none] ∧
      isBody "x\", \"y".toList = false ∧
      Literals "\t\"x\", \"y\",".toList ["x".toList, "y".toList] := by
  refine ⟨by decide +kernel, rfl, ?_⟩
  have last : Literals ", \"y\",".toList ["y".toList] :=
    literals_single.mpr ⟨⟨", ".toList, [','], rfl, by decide, by decide⟩, rfl⟩
  have parts : "\t\"x\", \"y\",".toList =
      ['\t'] ++ '"' :: ("x".toList ++ '"' :: ", \"y\",".toList) := rfl
  rw [parts]
  exact .literal (by decide) rfl last

end Descriptor
end PluginBindings
