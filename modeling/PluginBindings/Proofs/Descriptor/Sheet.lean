import PluginBindings.Descriptor.Table
import PluginBindings.Proofs.Descriptor.LineForm
import PluginBindings.Proofs.Report.Reading

namespace PluginBindings
namespace Descriptor

-- How the lines of a source are made of arrays, said without a reader.
inductive Sheet : List Line → List FieldDescriptor → Prop where
  | done : Sheet [] []
  | blank (empty : Text.isBlankText line.text = true) (later : Sheet lines arrays) :
      Sheet (line :: lines) arrays
  | array (declared : declaredKey? opening.text = some key)
      (labelled : body.map (label? ·.text) = labels.map some)
      (closed : isClosing closing.text = true) (later : Sheet lines arrays) :
      Sheet (opening :: (body ++ closing :: lines)) (⟨key, opening.number, labels⟩ :: arrays)

theorem sheet_array {lines : List Line} {arrays : List FieldDescriptor}
    (sheet : Sheet lines arrays) (member : array ∈ arrays) :
    ∃ (above body below : List Line) (opening closing : Line),
      lines = above ++ opening :: (body ++ closing :: below) ∧
      declaredKey? opening.text = some array.key ∧ opening.number = array.line ∧
      body.map (label? ·.text) = array.fields.map some ∧ isClosing closing.text = true := by
  induction sheet with
  | done => cases member
  | @blank lines arrays line empty _ ih =>
    obtain ⟨above, body, below, opening, closing, rfl, parts⟩ := ih member
    exact ⟨line :: above, body, below, opening, closing, rfl, parts⟩
  | @array key lines arrays first inside last labels declared labelled closed _ ih =>
    rcases List.mem_cons.mp member with rfl | member
    · exact ⟨[], inside, lines, first, last, rfl, declared, rfl, labelled, closed⟩
    · obtain ⟨above, body, below, opening, closing, rfl, parts⟩ := ih member
      exact ⟨first :: (inside ++ last :: above), body, below, opening, closing, by simp, parts⟩

-- What the lines still hold when the reader stands at a place.
def Remains : Place → List Line → List FieldDescriptor → Prop
  | .between, lines, arrays => Sheet lines arrays
  | .inside key start fields, lines, arrays =>
    ∃ body labels closing later rest, lines = body ++ closing :: later ∧
      body.map (label? ·.text) = labels.map some ∧ isClosing closing.text = true ∧
      Sheet later rest ∧ arrays = ⟨key, start, fields ++ labels⟩ :: rest

theorem remains_blank (empty : Text.isBlankText line.text = true) :
    Remains .between (line :: lines) arrays ↔ Remains .between lines arrays := by
  constructor
  · intro sheet
    cases sheet with
    | blank _ later => exact later
    | array declared => rw [declared_not_blank declared] at empty; cases empty
  · exact .blank empty

theorem remains_declared (declared : declaredKey? line.text = some key) :
    Remains .between (line :: lines) arrays ↔ Remains (.inside key line.number []) lines arrays := by
  constructor
  · intro sheet
    cases sheet with
    | blank empty => rw [declared_not_blank declared] at empty; cases empty
    | array declared' labelled closed later =>
      rw [declared] at declared'
      cases declared'
      exact ⟨_, _, _, _, _, rfl, labelled, closed, later, rfl⟩
  · intro array
    obtain ⟨body, labels, closing, later, rest, rfl, labelled, closed, sheet, rfl⟩ := array
    exact .array declared labelled closed sheet

theorem remains_closed (closed : isClosing line.text = true) :
    Remains (.inside key start fields) (line :: lines) arrays ↔
      ∃ rest, arrays = ⟨key, start, fields⟩ :: rest ∧ Remains .between lines rest := by
  constructor
  · intro array
    obtain ⟨body, labels, closing, later, rest, same, labelled, -, sheet, rfl⟩ := array
    cases body with
    | nil =>
      cases same
      have empty : labels = [] := by simpa using labelled.symm
      exact ⟨rest, by simp [empty], sheet⟩
    | cons first body =>
      -- a label cannot close, so a body that begins here is no body
      cases same
      cases labels with
      | nil => cases labelled
      | cons label labels =>
        have read : label? line.text = some label := (List.cons.inj labelled).1
        rw [label_not_closing read] at closed
        cases closed
  · intro sheet
    obtain ⟨rest, rfl, sheet⟩ := sheet
    exact ⟨[], [], line, lines, rest, rfl, rfl, closed, sheet, by simp⟩

theorem remains_labelled (read : label? line.text = some label) :
    Remains (.inside key start fields) (line :: lines) arrays ↔
      Remains (.inside key start (fields ++ [label])) lines arrays := by
  constructor
  · intro array
    obtain ⟨body, labels, closing, later, rest, same, labelled, closed, sheet, rfl⟩ := array
    cases body with
    | nil =>
      cases same
      rw [label_not_closing read] at closed
      cases closed
    | cons first body =>
      cases same
      cases labels with
      | nil => cases labelled
      | cons found labels =>
        simp only [List.map_cons, List.cons.injEq, read, Option.some.injEq] at labelled
        obtain ⟨rfl, others⟩ := labelled
        exact ⟨body, labels, closing, later, rest, rfl, others, closed, sheet, by simp⟩
  · intro array
    obtain ⟨body, labels, closing, later, rest, rfl, labelled, closed, sheet, rfl⟩ := array
    exact ⟨line :: body, label :: labels, closing, later, rest, rfl, by simp [read, labelled],
      closed, sheet, by simp⟩

theorem remains_refused (full : ¬ Text.isBlankText line.text = true)
    (undeclared : declaredKey? line.text = none) : ¬ Remains .between (line :: lines) arrays := by
  intro sheet
  cases sheet with
  | blank empty => exact full empty
  | array declared => rw [undeclared] at declared; cases declared

theorem remains_unclosed : ¬ Remains (.inside key start fields) [] arrays := by
  intro array
  obtain ⟨body, _, _, _, _, same, -⟩ := array
  cases body <;> cases same

theorem remains_unlabelled (unclosed : ¬ isClosing line.text = true)
    (unlabelled : label? line.text = none) :
    ¬ Remains (.inside key start fields) (line :: lines) arrays := by
  intro array
  obtain ⟨body, labels, closing, _, _, same, labelled, closed, -⟩ := array
  cases body with
  | nil => cases same; exact absurd closed unclosed
  | cons first body =>
    cases same
    cases labels with
    | nil => cases labelled
    | cons label labels => simp [unlabelled] at labelled

theorem readFrom_exact :
    (readFrom place lines).items = arrays.map .ok ↔ Remains place lines arrays := by
  induction lines generalizing place arrays with
  | nil =>
    cases place with
    | between =>
      simp only [readFrom, Reading.items]
      constructor
      · intro same
        have empty : arrays = [] := by simpa using same.symm
        rw [empty]
        exact .done
      · intro sheet; cases sheet; rfl
    | inside key start fields =>
      simp only [readFrom, Reading.items]
      constructor
      · intro same; cases arrays <;> cases same
      · intro array
        exact absurd array remains_unclosed
  | cons line lines ih =>
    cases place with
    | between =>
      unfold readFrom
      split
      · rename_i empty
        rw [ih, remains_blank empty]
      · rename_i full
        split
        · rename_i key declared
          rw [ih, remains_declared declared]
        · rename_i undeclared
          constructor
          · intro same; cases arrays <;> cases same
          · intro sheet
            exact absurd sheet (remains_refused full undeclared)
    | inside key start fields =>
      unfold readFrom
      split
      · rename_i closed
        rw [remains_closed closed]
        simp only [Reading.items]
        cases arrays with
        | nil => simp
        | cons array rest =>
          simp only [List.map_cons, List.cons.injEq, Except.ok.injEq, ih]
          constructor
          · intro sheet
            obtain ⟨rfl, sheet⟩ := sheet
            exact ⟨rest, ⟨rfl, rfl⟩, sheet⟩
          · intro sheet
            obtain ⟨_, ⟨rfl, rfl⟩, sheet⟩ := sheet
            exact ⟨rfl, sheet⟩
      · rename_i unclosed
        split
        · rename_i label read
          rw [ih, remains_labelled read]
        · rename_i unlabelled
          constructor
          · intro same; cases arrays <;> cases same
          · intro array
            exact absurd array (remains_unlabelled unclosed unlabelled)

theorem read_exact : (read text header).items = arrays.map .ok ↔
    Sheet (numberedLines text header) arrays :=
  readFrom_exact

end Descriptor

namespace DescriptorTable

theorem table_ext {table other : DescriptorTable} (keys : table.emptyKey = other.emptyKey)
    (rows : table.descriptors = other.descriptors) : table = other := by
  cases table; cases other; cases keys; cases rows; rfl

theorem insert_present {table : DescriptorTable} {descriptor first : FieldDescriptor}
    (present : table.find? descriptor.key = some first) : table.insert descriptor =
      (table, .error (.parse (.declaredTwice descriptor.key first.line) descriptor.line)) := by
  unfold insert
  split
  · rename_i other found
    cases found.symm.trans present
    rfl
  · rename_i absent
    cases absent.symm.trans present

theorem insert_absent {table : DescriptorTable} {descriptor : FieldDescriptor}
    (absent : table.find? descriptor.key = none) :
    ∃ larger, table.insert descriptor = (larger, .ok ()) ∧ larger.emptyKey = table.emptyKey ∧
      larger.descriptors = table.descriptors ++ [descriptor] := by
  unfold insert
  split
  · rename_i first present
    cases present.symm.trans absent
  · exact ⟨_, rfl, rfl, rfl⟩

-- An insertion is refused only where the table it would give cannot be.
theorem extend_exact {table next : DescriptorTable} {descriptor : FieldDescriptor} :
    table.extend descriptor = .ok next ↔
      next.emptyKey = table.emptyKey ∧ next.descriptors = table.descriptors ++ [descriptor] := by
  cases present : table.find? descriptor.key with
  | some first =>
    simp only [extend, insert_present present, reduceCtorEq, false_iff]
    intro inserted
    obtain ⟨-, rows⟩ := inserted
    have distinct := next.distinct
    rw [rows, List.map_append, List.nodup_append] at distinct
    have absent : descriptor.key ∉ table.descriptors.map (·.key) := fun member =>
      distinct.2.2 _ member _ (by simp) rfl
    rw [find?_eq_none_iff.mpr absent] at present
    cases present
  | none =>
    obtain ⟨larger, inserted, kept, added⟩ := insert_absent present
    simp only [extend, inserted, Except.ok.injEq]
    constructor
    · rintro rfl
      exact ⟨kept, added⟩
    · intro rows
      obtain ⟨keys, rows⟩ := rows
      exact table_ext (kept.trans keys.symm) (added.trans rows.symm)

theorem extendAll_exact {table last : DescriptorTable} {more : List FieldDescriptor} :
    more.foldlM extend table = .ok last ↔
      last.emptyKey = table.emptyKey ∧ last.descriptors = table.descriptors ++ more := by
  induction more generalizing table with
  | nil =>
    simp only [List.foldlM_nil, pure, Except.pure, Except.ok.injEq, List.append_nil]
    constructor
    · rintro rfl
      exact ⟨rfl, rfl⟩
    · intro rows
      obtain ⟨keys, rows⟩ := rows
      exact table_ext keys.symm rows.symm
  | cons descriptor more ih =>
    simp only [List.foldlM_cons, ok_bind_exact, ih, extend_exact]
    constructor
    · intro inserted
      obtain ⟨next, ⟨keys, rows⟩, keys', rows'⟩ := inserted
      exact ⟨keys'.trans keys, by rw [rows', rows]; simp⟩
    · intro rows
      obtain ⟨keys, rows⟩ := rows
      have distinct := last.distinct
      rw [rows] at distinct
      refine ⟨⟨table.emptyKey, table.descriptors ++ [descriptor], ?_⟩, ⟨rfl, rfl⟩, keys, ?_⟩
      · refine distinct.sublist (List.Sublist.map _ ?_)
        exact List.Sublist.append_left (by simp) _
      · simp [rows]

theorem ofText_exact {table : DescriptorTable} {key : Text} :
    (ofText text header key).result = .ok table ↔
      table.emptyKey = key ∧
        Descriptor.Sheet (numberedLines text header) table.descriptors := by
  unfold ofText
  rw [Reading.foldInto_ok_exact]
  simp only [Descriptor.read_exact, extendAll_exact]
  constructor
  · intro read
    obtain ⟨arrays, sheet, keys, rows⟩ := read
    rw [rows]
    exact ⟨keys, sheet⟩
  · intro declared
    obtain ⟨keys, sheet⟩ := declared
    exact ⟨table.descriptors, sheet, keys, rfl⟩

end DescriptorTable
end PluginBindings
