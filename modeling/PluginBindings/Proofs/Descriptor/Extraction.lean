import PluginBindings.Proofs.Descriptor.Grammar

namespace PluginBindings
namespace Descriptor

-- Where whole arrays end: at the end of the input, at a line that does not fit, or in an array.
inductive Halt : List Line → Option (ParseCause × Nat) → Prop where
  | done : Halt [] none
  | undeclared (full : Text.isBlankText line.text = false)
      (undeclared : declaredKey? line.text = none) :
      Halt (line :: unread) (some (.noDeclaration line.text, line.number))
  | unlabelled (declared : declaredKey? opening.text = some key)
      (labelled : body.map (label? ·.text) = List.map some labels)
      (unclosed : isClosing line.text = false) (unlabelled : label? line.text = none) :
      Halt (opening :: (body ++ line :: unread)) (some (.noLiteral line.text, line.number))
  | unclosed (declared : declaredKey? opening.text = some key)
      (labelled : body.map (label? ·.text) = List.map some labels) :
      Halt (opening :: body) (some (.neverClosed key, opening.number))

def parseError (ending : ParseCause × Nat) : Except Fault FieldDescriptor :=
  .error (.parse ending.1 ending.2)

theorem labels_first (lines : List Line) :
    ∃ (body : List Line) (labels : List Text) (later : List Line), lines = body ++ later ∧
      body.map (label? ·.text) = labels.map some ∧ ∀ line ∈ later.head?, label? line.text = none := by
  induction lines with
  | nil => exact ⟨[], [], [], rfl, rfl, by simp⟩
  | cons line lines ih =>
    cases read : label? line.text with
    | none => exact ⟨[], [], line :: lines, rfl, rfl, by simpa using read⟩
    | some label =>
      obtain ⟨body, labels, later, rfl, labelled, first⟩ := ih
      exact ⟨line :: body, label :: labels, later, rfl, by simp [read, labelled], first⟩

-- No label closes, so labels are read to the last of them.
theorem readFrom_labels {body later : List Line} {labels : List Text}
    (labelled : body.map (label? ·.text) = labels.map some) :
    readFrom (.inside key start fields) (body ++ later) =
      readFrom (.inside key start (fields ++ labels)) later := by
  induction body generalizing fields labels with
  | nil =>
    obtain rfl : labels = [] := by simpa using labelled.symm
    simp
  | cons line body ih =>
    cases labels with
    | nil => cases labelled
    | cons label labels =>
      simp only [List.map_cons, List.cons.injEq] at labelled
      obtain ⟨read, others⟩ := labelled
      have unclosed := label_not_closing read
      rw [List.cons_append, readFrom, unclosed, read]
      simpa using @ih (fields ++ [label]) labels others

theorem readFrom_array {opening : Line} (declared : declaredKey? opening.text = some key)
    (lines : List Line) :
    (∃ (body : List Line) (labels : List Text) (closing : Line) (later : List Line),
      lines = body ++ closing :: later ∧ body.map (label? ·.text) = labels.map some ∧
      isClosing closing.text = true ∧ (readFrom .between (opening :: lines)).items =
        .ok ⟨key, opening.number, labels⟩ :: (readFrom .between later).items) ∨
    ∃ ending, Halt (opening :: lines) (some ending) ∧
      (readFrom .between (opening :: lines)).items = [parseError ending] := by
  obtain ⟨body, labels, later, rfl, labelled, first⟩ := labels_first lines
  have opened : readFrom .between (opening :: (body ++ later)) =
      readFrom (.inside key opening.number labels) later := by
    rw [readFrom, declared_not_blank declared, declared]
    exact readFrom_labels labelled
  rw [opened]
  cases later with
  | nil =>
    right
    refine ⟨(.neverClosed key, opening.number), ?_, rfl⟩
    rw [List.append_nil]
    exact .unclosed declared labelled
  | cons line later =>
    cases closed : isClosing line.text with
    | true =>
      left
      refine ⟨body, labels, line, later, rfl, labelled, closed, ?_⟩
      rw [readFrom, if_pos closed]
      rfl
    | false =>
      right
      have unlabelled : label? line.text = none := first line rfl
      refine ⟨_, .unlabelled declared labelled closed unlabelled, ?_⟩
      rw [readFrom, closed, unlabelled]
      rfl

theorem readFrom_halts (lines : List Line) :
    ∃ whole rest arrays ending, lines = whole ++ rest ∧ Sheet whole arrays ∧ Halt rest ending ∧
      (readFrom .between lines).items = arrays.map .ok ++ ending.toList.map parseError := by
  induction size : lines.length using Nat.strongRecOn generalizing lines with
  | _ size ih =>
    cases lines with
    | nil => exact ⟨[], [], [], none, rfl, .done, .done, rfl⟩
    | cons line lines =>
      rw [List.length_cons] at size
      cases empty : Text.isBlankText line.text with
      | true =>
        obtain ⟨whole, rest, arrays, ending, rfl, sheet, halt, items⟩ :=
          ih lines.length (by omega) lines rfl
        refine ⟨line :: whole, rest, arrays, ending, rfl, .blank empty sheet, halt, ?_⟩
        rw [readFrom, if_pos empty, items]
      | false =>
        cases declared : declaredKey? line.text with
        | none =>
          refine ⟨[], line :: lines, [], _, rfl, .done, .undeclared empty declared, ?_⟩
          rw [readFrom, empty, declared]
          rfl
        | some key =>
          rcases readFrom_array declared lines with array | halted
          · obtain ⟨body, labels, closing, later, rfl, labelled, closed, array⟩ := array
            rw [List.length_append, List.length_cons] at size
            obtain ⟨whole, rest, arrays, ending, rfl, sheet, halt, items⟩ :=
              ih later.length (by omega) later rfl
            refine ⟨line :: (body ++ closing :: whole), rest, ⟨key, line.number, labels⟩ :: arrays,
              ending, by simp, .array declared labelled closed sheet, halt, ?_⟩
            rw [array, items]
            rfl
          · obtain ⟨ending, halt, items⟩ := halted
            exact ⟨[], line :: lines, [], some ending, rfl, .done, halt, items⟩

def Viable (kinds : List LineKind) : Prop := ∃ more, kinds ++ more ∈ grammar.matches'

-- The lines of an array that is not closed yet.
def Begun (lines : List Line) : Prop :=
  ∃ opening body, lines = opening :: body ∧ LineKind.declaration.Fits opening.text ∧
    ∀ line ∈ body, LineKind.literal.Fits line.text

theorem kinds_labels {body : List Line}
    (labelled : ∀ line ∈ body, LineKind.literal.Fits line.text) :
    ∀ kind ∈ lineKinds body, kind = .literal := by
  intro kind member
  obtain ⟨line, among, rfl⟩ := List.mem_map.mp member
  exact LineKind.ofText_exact.mpr (labelled line among)

theorem labels_fit {body : List Line} {labels : List Text}
    (labelled : body.map (label? ·.text) = labels.map some) :
    ∀ line ∈ body, LineKind.literal.Fits line.text := by
  intro line member
  have read : label? line.text ∈ body.map (label? ·.text) := List.mem_map_of_mem member
  rw [labelled] at read
  obtain ⟨label, -, same⟩ := List.mem_map.mp read
  exact Option.isSome_iff_exists.mpr ⟨label, same.symm⟩

theorem declaration_fits {opening : Line} (declared : declaredKey? opening.text = some key) :
    LineKind.declaration.Fits opening.text := Option.isSome_iff_exists.mpr ⟨key, declared⟩

theorem sentence_sheet {whole : List Line} {arrays : List FieldDescriptor} {kinds : List LineKind}
    (sheet : Sheet whole arrays) :
    Sentence false (lineKinds whole ++ kinds) ↔ Sentence false kinds := by
  induction sheet with
  | done => rfl
  | @blank lines arrays line empty _ ih =>
    have kind : LineKind.ofText line.text = .blank := LineKind.ofText_exact.mpr empty
    rw [← ih, lineKinds, List.map_cons, kind]
    constructor
    · intro sentence
      cases sentence with
      | blank later => exact later
    · exact .blank
  | @array key lines arrays opening body closing labels declared labelled closed _ ih =>
    have first : LineKind.ofText opening.text = .declaration :=
      LineKind.ofText_exact.mpr (declaration_fits declared)
    have last : LineKind.ofText closing.text = .closing := LineKind.ofText_exact.mpr closed
    have split : lineKinds (opening :: (body ++ closing :: lines)) ++ kinds =
        .declaration :: (lineKinds body ++ .closing :: (lineKinds lines ++ kinds)) := by
      simp [lineKinds, first, last]
    rw [split, sentence_array (kinds_labels (labels_fit labelled)), ih]

theorem sentence_begun {begun : List Line} {kinds : List LineKind} (begins : Begun begun) :
    Sentence false (lineKinds begun ++ kinds) ↔ Sentence true kinds := by
  obtain ⟨opening, body, rfl, declared, labelled⟩ := begins
  have first : LineKind.ofText opening.text = .declaration := LineKind.ofText_exact.mpr declared
  rw [← sentence_labels (kinds_labels labelled), lineKinds, List.map_cons, first]
  constructor
  · intro sentence
    cases sentence with
    | declared later => exact later
  · exact .declared

theorem viable_exact {kinds : List LineKind} :
    Viable kinds ↔ ∃ more, Sentence false (kinds ++ more) :=
  exists_congr fun _ => sentence_exact

theorem viable_sheet {whole : List Line} {arrays : List FieldDescriptor}
    (sheet : Sheet whole arrays) : Viable (lineKinds whole) :=
  viable_exact.mpr ⟨[], (sentence_sheet sheet).mpr .done⟩

-- A closing line is always enough for an array that was begun.
theorem viable_begun {whole begun : List Line} {arrays : List FieldDescriptor}
    (sheet : Sheet whole arrays) (begins : Begun begun) : Viable (lineKinds (whole ++ begun)) := by
  refine viable_exact.mpr ⟨[.closing], ?_⟩
  rw [lineKinds, List.map_append, List.append_assoc]
  exact (sentence_sheet sheet).mpr ((sentence_begun begins).mpr (.closed .done))

theorem refused_between {line : Line} (full : Text.isBlankText line.text = false)
    (undeclared : declaredKey? line.text = none) :
    ¬ Sentence false (LineKind.ofText line.text :: kinds) := by
  intro sentence
  generalize same : LineKind.ofText line.text = kind at sentence
  have fits := LineKind.ofText_exact.mp same
  cases sentence with
  | blank => cases full.symm.trans fits
  | declared => rw [LineKind.Fits, undeclared] at fits; cases fits

theorem refused_inside {line : Line} (unclosed : isClosing line.text = false)
    (unlabelled : label? line.text = none) :
    ¬ Sentence true (LineKind.ofText line.text :: kinds) := by
  intro sentence
  generalize same : LineKind.ofText line.text = kind at sentence
  have fits := LineKind.ofText_exact.mp same
  cases sentence with
  | labelled => rw [LineKind.Fits, unlabelled] at fits; cases fits
  | closed => cases unclosed.symm.trans fits

-- The number is that of the first line no sentence goes on with, or of the array left open.
def Ends (header : Nat) (whole begun unread : List Line) : Option (ParseCause × Nat) → Prop
  | none => lineKinds (whole ++ begun ++ unread) ∈ grammar.matches' ∧ begun = [] ∧ unread = []
  | some (_, number) =>
    lineKinds (whole ++ begun ++ unread) ∉ grammar.matches' ∧ Viable (lineKinds (whole ++ begun)) ∧
      match unread with
      | [] => begun ≠ [] ∧ number = header + whole.length + 1
      | line :: _ => ¬ Viable (lineKinds (whole ++ begun ++ [line])) ∧
          number = header + (whole ++ begun).length + 1

theorem ends_refused {text : Text} {header : Nat} {whole begun unread : List Line} {line : Line}
    (split : numberedLines text header = whole ++ (begun ++ line :: unread))
    (viable : Viable (lineKinds (whole ++ begun)))
    (refused : ∀ kinds, ¬ Sentence false
      (lineKinds (whole ++ begun) ++ LineKind.ofText line.text :: kinds)) :
    Ends header whole begun (line :: unread) (some (cause, line.number)) := by
  refine ⟨fun written => ?_, viable, fun onwards => ?_, ?_⟩
  · apply refused (lineKinds unread)
    simpa [lineKinds] using sentence_exact.mp written
  · obtain ⟨more, sentence⟩ := viable_exact.mp onwards
    apply refused more
    simpa [lineKinds] using sentence
  · rw [← List.append_assoc] at split
    exact numberedLines_number split

theorem halt_ends {text : Text} {header : Nat} {whole rest : List Line}
    {arrays : List FieldDescriptor} {ending : Option (ParseCause × Nat)}
    (split : numberedLines text header = whole ++ rest) (sheet : Sheet whole arrays)
    (halt : Halt rest ending) :
    ∃ begun unread, rest = begun ++ unread ∧ (begun = [] ∨ Begun begun) ∧
      Ends header whole begun unread ending := by
  cases halt with
  | done =>
    refine ⟨[], [], rfl, .inl rfl, sentence_exact.mpr ?_, rfl, rfl⟩
    have sentence := (sentence_sheet sheet).mpr .done
    simpa using sentence
  | @undeclared line unread full undeclared =>
    refine ⟨[], line :: unread, rfl, .inl rfl, ends_refused split ?_ fun kinds sentence => ?_⟩
    · rw [List.append_nil]
      exact viable_sheet sheet
    · rw [List.append_nil] at sentence
      exact refused_between full undeclared ((sentence_sheet sheet).mp sentence)
  | @unlabelled key labels opening body line unread declared labelled unclosed unlabelled =>
    have begins : Begun (opening :: body) :=
      ⟨opening, body, rfl, declaration_fits declared, labels_fit labelled⟩
    refine ⟨opening :: body, line :: unread, rfl, .inr begins, ends_refused split
      (viable_begun sheet begins) fun kinds sentence => ?_⟩
    rw [lineKinds, List.map_append, List.append_assoc] at sentence
    exact refused_inside unclosed unlabelled
      ((sentence_begun begins).mp ((sentence_sheet sheet).mp sentence))
  | @unclosed key labels opening body declared labelled =>
    have begins : Begun (opening :: body) :=
      ⟨opening, body, rfl, declaration_fits declared, labels_fit labelled⟩
    refine ⟨opening :: body, [], by simp, .inr begins, fun written => ?_, viable_begun sheet begins,
      by simp, numberedLines_number split⟩
    have sentence := sentence_exact.mp written
    rw [List.append_nil, lineKinds, List.map_append] at sentence
    have inside := (sentence_sheet sheet).mp sentence
    rw [← List.append_nil (List.map _ (opening :: body))] at inside
    cases (sentence_begun begins).mp inside

theorem sheet_lines {lines : List Line} {arrays : List FieldDescriptor}
    (sheet : Sheet lines arrays) :
    (arrays.map (·.line)).Sublist (lines.map (·.number)) := by
  induction sheet with
  | done => exact .slnil
  | blank _ _ ih => exact ih.cons _
  | array _ _ _ _ ih =>
    rw [List.map_cons, List.map_cons, List.map_append, List.map_cons]
    exact (List.Sublist.trans (ih.cons _) (List.sublist_append_right _ _)).cons_cons _

-- A caller is given the arrays of the lines before the place where the reader ends, then at most
-- one error and then nothing.
theorem extraction_exact (text : Text) (header : Nat) :
    (∀ line : Text, ∃! kind : LineKind, kind.Fits line) ∧
    ∃ (arrays : List FieldDescriptor) (ending : Option (ParseCause × Nat))
      (whole begun unread : List Line),
      (∀ calls, (read text header).answers calls =
        ((arrays.map Except.ok ++ ending.toList.map parseError).map some ++
          List.replicate calls none).take calls) ∧
      numberedLines text header = whole ++ begun ++ unread ∧ Sheet whole arrays ∧
      (begun = [] ∨ Begun begun) ∧ Ends header whole begun unread ending ∧
      (arrays.map (·.line)).Pairwise (· < ·) ∧ ∀ array ∈ arrays, header < array.line := by
  refine ⟨LineKind.fits_unique, ?_⟩
  obtain ⟨whole, rest, arrays, ending, split, sheet, halt, items⟩ :=
    readFrom_halts (numberedLines text header)
  obtain ⟨begun, unread, rfl, opened, ends⟩ := halt_ends split sheet halt
  refine ⟨arrays, ending, whole, begun, unread, fun calls => ?_, ?_, sheet, opened, ends, ?_⟩
  · rw [Reading.answers_exact (Nat.le_refl calls), read, items]
  · rw [split, List.append_assoc]
  · have lines := sheet_lines sheet
    have numbers := numberedLines_numbers text header
    rw [split, List.map_append] at numbers
    have within := lines.trans
      (List.sublist_append_left _ ((begun ++ unread).map (·.number)))
    rw [numbers] at within
    refine ⟨(List.pairwise_lt_range' _).sublist within, fun array member => ?_⟩
    have among := List.mem_range'_1.mp (within.subset (List.mem_map_of_mem member))
    omega

end Descriptor
end PluginBindings
