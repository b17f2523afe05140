import Mathlib.Computability.RegularExpressions
import PluginBindings.Proofs.Descriptor.Sheet
import PluginBindings.Proofs.Text.Lines

namespace PluginBindings
namespace Descriptor

inductive LineKind where
  | blank
  | declaration
  | literal
  | closing
  | other
deriving DecidableEq, Repr

namespace LineKind

-- Each kind by its own question, whatever the answers to the others.
def Fits : LineKind → Text → Prop
  | blank, line => Text.isBlankText line = true
  | declaration, line => (declaredKey? line).isSome = true
  | literal, line => (label? line).isSome = true
  | closing, line => isClosing line = true
  | other, line => Text.isBlankText line = false ∧ declaredKey? line = none ∧
      label? line = none ∧ isClosing line = false

def ofText (line : Text) : LineKind :=
  if Text.isBlankText line then blank
  else if (declaredKey? line).isSome then declaration
  else if (label? line).isSome then literal
  else if isClosing line then closing
  else other

theorem ofText_exact {kind : LineKind} {line : Text} : ofText line = kind ↔ kind.Fits line := by
  constructor
  · rintro rfl
    unfold ofText
    split
    · assumption
    split
    · assumption
    split
    · assumption
    split
    · assumption
    · simp_all [Fits]
  · intro fits
    cases kind with
    | blank => exact if_pos fits
    | declaration =>
      obtain ⟨key, declared⟩ := Option.isSome_iff_exists.mp fits
      simp [ofText, declared, declared_not_blank declared]
    | literal =>
      obtain ⟨label, read⟩ := Option.isSome_iff_exists.mp fits
      have undeclared : declaredKey? line = none := by
        cases declared : declaredKey? line with
        | none => rfl
        | some key => rw [declared_unlabelled declared] at read; cases read
      simp [ofText, read, undeclared, sign_not_blank (label_inside read).2 (by decide)]
    | closing =>
      have closed : isClosing line = true := fits
      have undeclared : declaredKey? line = none := by
        cases declared : declaredKey? line with
        | none => rfl
        | some key => rw [declared_not_closing declared] at closed; cases closed
      have unlabelled : label? line = none := by
        cases read : label? line with
        | none => rfl
        | some label => rw [label_not_closing read] at closed; cases closed
      simp [ofText, closed, undeclared, unlabelled, sign_not_blank (closing_brace closed) (by decide)]
    | other =>
      obtain ⟨full, undeclared, unlabelled, unclosed⟩ := fits
      simp [ofText, full, undeclared, unlabelled, unclosed]

theorem fits_unique (line : Text) : ∃! kind : LineKind, kind.Fits line :=
  ⟨ofText line, ofText_exact.mp rfl, fun _ fits => (ofText_exact.mpr fits).symm⟩

end LineKind

def lineKinds (lines : List Line) : List LineKind := lines.map (LineKind.ofText ·.text)

-- blank* (declaration literal* closing blank*)*
def arrayGrammar : RegularExpression LineKind :=
  .char .declaration * .star (.char .literal) * .char .closing * .star (.char .blank)

def grammar : RegularExpression LineKind := .star (.char .blank) * .star arrayGrammar

inductive Sentence : Bool → List LineKind → Prop where
  | done : Sentence false []
  | blank (later : Sentence false kinds) : Sentence false (.blank :: kinds)
  | declared (later : Sentence true kinds) : Sentence false (.declaration :: kinds)
  | labelled (later : Sentence true kinds) : Sentence true (.literal :: kinds)
  | closed (later : Sentence false kinds) : Sentence true (.closing :: kinds)

theorem star_char_exact {kind : LineKind} {kinds : List LineKind} :
    kinds ∈ (RegularExpression.char kind).star.matches' ↔ ∀ each ∈ kinds, each = kind := by
  rw [RegularExpression.matches'_star, RegularExpression.matches'_char, Language.mem_kstar]
  constructor
  · intro repeated each member
    obtain ⟨parts, rfl, among⟩ := repeated
    obtain ⟨part, given, inside⟩ := List.mem_flatten.mp member
    rw [Set.mem_singleton_iff.mp (among part given)] at inside
    exact List.mem_singleton.mp inside
  · intro same
    have parts : kinds = (kinds.map fun each => [each]).flatten := by
      rw [← List.flatMap_def, List.flatMap_singleton']
    refine ⟨_, parts, fun part member => ?_⟩
    obtain ⟨each, given, rfl⟩ := List.mem_map.mp member
    rw [same each given]
    rfl

theorem arrayGrammar_exact {kinds : List LineKind} :
    kinds ∈ arrayGrammar.matches' ↔ ∃ labels blanks,
      kinds = .declaration :: (labels ++ .closing :: blanks) ∧
      (∀ kind ∈ labels, kind = .literal) ∧ ∀ kind ∈ blanks, kind = .blank := by
  simp only [arrayGrammar, RegularExpression.matches'_mul, Language.mem_mul, star_char_exact,
    RegularExpression.matches'_char]
  constructor
  · rintro ⟨_, ⟨_, ⟨_, rfl, labels, same, rfl⟩, _, rfl, rfl⟩, blanks, same', rfl⟩
    exact ⟨labels, blanks, by simp, same, same'⟩
  · rintro ⟨labels, blanks, rfl, same, same'⟩
    exact ⟨_, ⟨_, ⟨_, rfl, labels, same, rfl⟩, _, rfl, rfl⟩, blanks, same', by simp⟩

theorem grammar_exact {kinds : List LineKind} :
    kinds ∈ grammar.matches' ↔ ∃ (blanks : List LineKind) (blocks : List (List LineKind)),
      kinds = blanks ++ blocks.flatten ∧
      (∀ kind ∈ blanks, kind = .blank) ∧ ∀ part ∈ blocks, part ∈ arrayGrammar.matches' := by
  rw [grammar, RegularExpression.matches'_mul, RegularExpression.matches'_star arrayGrammar]
  simp only [Language.mem_mul, star_char_exact, Language.mem_kstar]
  constructor
  · rintro ⟨blanks, same, _, ⟨blocks, rfl, among⟩, rfl⟩
    exact ⟨blanks, blocks, rfl, same, among⟩
  · rintro ⟨blanks, blocks, rfl, same, among⟩
    exact ⟨blanks, same, _, ⟨blocks, rfl, among⟩, rfl⟩

theorem sentence_blanks {blanks kinds : List LineKind} (same : ∀ kind ∈ blanks, kind = .blank)
    (later : Sentence false kinds) : Sentence false (blanks ++ kinds) := by
  induction blanks with
  | nil => exact later
  | cons kind blanks ih =>
    obtain ⟨rfl, others⟩ := List.forall_mem_cons.mp same
    exact .blank (ih others)

theorem sentence_labels {labels kinds : List LineKind} (same : ∀ kind ∈ labels, kind = .literal) :
    Sentence true (labels ++ kinds) ↔ Sentence true kinds := by
  induction labels with
  | nil => rfl
  | cons kind labels ih =>
    obtain ⟨rfl, others⟩ := List.forall_mem_cons.mp same
    rw [← ih others]
    constructor
    · intro sentence
      cases sentence with
      | labelled later => exact later
    · exact .labelled

theorem sentence_array {labels kinds : List LineKind} (same : ∀ kind ∈ labels, kind = .literal) :
    Sentence false (.declaration :: (labels ++ .closing :: kinds)) ↔ Sentence false kinds := by
  constructor
  · intro sentence
    cases sentence with
    | declared later =>
      cases (sentence_labels same).mp later with
      | closed later => exact later
  · intro later
    exact .declared ((sentence_labels same).mpr (.closed later))

theorem grammar_blank (later : kinds ∈ grammar.matches') : .blank :: kinds ∈ grammar.matches' := by
  obtain ⟨blanks, blocks, rfl, same, among⟩ := grammar_exact.mp later
  exact grammar_exact.mpr
    ⟨.blank :: blanks, blocks, rfl, List.forall_mem_cons.mpr ⟨rfl, same⟩, among⟩

theorem grammar_array {labels : List LineKind} (same : ∀ kind ∈ labels, kind = .literal)
    (later : kinds ∈ grammar.matches') :
    .declaration :: (labels ++ .closing :: kinds) ∈ grammar.matches' := by
  obtain ⟨blanks, blocks, rfl, same', among⟩ := grammar_exact.mp later
  have first : .declaration :: (labels ++ .closing :: blanks) ∈ arrayGrammar.matches' :=
    arrayGrammar_exact.mpr ⟨labels, blanks, rfl, same, same'⟩
  exact grammar_exact.mpr
    ⟨[], _ :: blocks, by simp, by simp, List.forall_mem_cons.mpr ⟨first, among⟩⟩

theorem sentence_rest (sentence : Sentence inside kinds) :
    if inside then ∃ labels rest, kinds = labels ++ .closing :: rest ∧
        (∀ kind ∈ labels, kind = .literal) ∧ rest ∈ grammar.matches'
      else kinds ∈ grammar.matches' := by
  induction sentence with
  | done => exact grammar_exact.mpr ⟨[], [], rfl, by simp, by simp⟩
  | blank _ ih => exact grammar_blank ih
  | declared _ ih =>
    obtain ⟨labels, rest, rfl, same, later⟩ := ih
    exact grammar_array same later
  | labelled _ ih =>
    obtain ⟨labels, rest, rfl, same, later⟩ := ih
    exact ⟨.literal :: labels, rest, rfl, List.forall_mem_cons.mpr ⟨rfl, same⟩, later⟩
  | closed _ ih => exact ⟨[], _, rfl, by simp, ih⟩

theorem sentence_exact {kinds : List LineKind} :
    kinds ∈ grammar.matches' ↔ Sentence false kinds := by
  constructor
  · intro written
    obtain ⟨blanks, blocks, rfl, same, among⟩ := grammar_exact.mp written
    apply sentence_blanks same
    clear written
    induction blocks with
    | nil => exact .done
    | cons part blocks ih =>
      obtain ⟨first, others⟩ := List.forall_mem_cons.mp among
      obtain ⟨labels, blanks', rfl, same', same''⟩ := arrayGrammar_exact.mp first
      have later := (sentence_array same').mpr (sentence_blanks same'' (ih others))
      simpa using later
  · exact sentence_rest

end Descriptor
end PluginBindings
