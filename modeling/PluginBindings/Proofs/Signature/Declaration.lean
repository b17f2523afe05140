import PluginBindings.Proofs.Text.Cut
import PluginBindings.Proofs.Text.Scan
import PluginBindings.Signature.Declaration

namespace PluginBindings
namespace Declaration

-- Two words, a name and the parenthesis that opens the list, with blanks of any kind between.
def Header (name header : Text) : Prop :=
  ∃ first second third, header = "unsafe".toList ++ first ++ "fn".toList ++ second ++ name ++
      third ++ ['('] ∧
    first ≠ [] ∧ (∀ c ∈ first, isBlank c = true) ∧ second ≠ [] ∧ (∀ c ∈ second, isBlank c = true) ∧
    isName name = true ∧ ∀ c ∈ third, isBlank c = true

structure WellFormed (declaration : Declaration) : Prop where
  header : Header declaration.name declaration.header
  closed : '{' ∉ declaration.rest

theorem headerForm_exact {source name inside : Text} :
    headerForm source = some (name, inside) ↔
      ∃ header, source = header ++ inside ∧ Header name header := by
  simp only [headerForm, Scan.bind_exact, Scan.literal_exact, Scan.span1_exact, Scan.name_exact,
    Scan.blanks_exact, Scan.pure_exact]
  constructor
  · intro read
    obtain ⟨-, _, rfl, first, _, ⟨rfl, nonempty, run, -⟩, -, _, rfl, second, _,
      ⟨rfl, nonempty', run', -⟩, found, _, ⟨rfl, named, -⟩, third, _, ⟨rfl, run'', -⟩, -, _, rfl,
      rfl, rfl⟩ := read
    exact ⟨_, by simp, first, second, third, rfl, nonempty, run, nonempty', run', named, run''⟩
  · intro written
    obtain ⟨_, rfl, first, second, third, rfl, nonempty, run, nonempty', run', named, run''⟩ := written
    refine ⟨(), first ++ "fn".toList ++ second ++ name ++ third ++ ['('] ++ inside, by simp, first,
      "fn".toList ++ second ++ name ++ third ++ ['('] ++ inside,
      ⟨by simp, nonempty, run, by simp; decide⟩, (), second ++ name ++ third ++ ['('] ++ inside,
      by simp, second, name ++ third ++ ['('] ++ inside,
      ⟨by simp, nonempty', run', by simpa using name_stops_blank named⟩, name,
      third ++ ['('] ++ inside, ⟨by simp, named, ?_⟩, third, ['('] ++ inside,
      ⟨by simp, run'', by simp; decide⟩, (), inside, by simp, rfl, rfl⟩
    rw [List.append_assoc]
    exact blank_stops_word run'' (by simp; decide)

theorem form_exact {source back : Text} {declaration : Declaration} :
    form source = some (declaration, back) ↔
      source = declaration.text ++ back ∧ declaration.WellFormed := by
  simp only [form, Option.bind_eq_bind, Option.bind_eq_some_iff, Prod.exists]
  constructor
  · intro read
    obtain ⟨name, inside, opened, front, after, cut, same⟩ := read
    obtain ⟨header, rfl, written⟩ := headerForm_exact.mp opened
    obtain ⟨rfl, absent⟩ := Text.cutAt?_exact.mp cut
    cases same
    rw [Text.before_append]
    exact ⟨by simp [text], written, absent⟩
  · intro written
    obtain ⟨rfl, written, absent⟩ := written
    refine ⟨declaration.name, declaration.rest ++ '{' :: back,
      headerForm_exact.mpr ⟨declaration.header, by simp [text], written⟩, declaration.rest, back,
      Text.cutAt?_exact.mpr ⟨rfl, absent⟩, ?_⟩
    have front : declaration.text ++ back =
        declaration.header ++ (declaration.rest ++ '{' :: back) := by simp [text]
    rw [front, Text.before_append]
    rfl

theorem form_opens {name header inside : Text} (written : Header name header)
    (brace : '{' ∈ inside) :
    ∃ rest back, form (header ++ inside) = some (⟨name, header, rest⟩, back) := by
  obtain ⟨rest, back, rfl, closed⟩ := List.eq_append_cons_of_mem brace
  exact ⟨rest, back, form_exact.mpr ⟨by simp [text], written, closed⟩⟩

theorem header_words {name header : Text} (written : Header name header) :
    ∃ words, header = words ++ ['('] ∧ ∀ c ∈ words, isBlank c = true ∨ isWord c = true := by
  obtain ⟨first, second, third, rfl, -, run, -, run', named, run''⟩ := written
  have letters : ∀ c ∈ "unsafe".toList ++ "fn".toList, isWord c = true :=
    List.all_eq_true.mp (by decide +kernel)
  refine ⟨_, rfl, fun c member => ?_⟩
  simp only [List.mem_append] at member letters
  rcases member with ((((member | member) | member) | member) | member) | member
  · exact .inr (letters c (.inl member))
  · exact .inl (run c member)
  · exact .inr (letters c (.inr member))
  · exact .inl (run' c member)
  · exact .inr (isName_word named c member)
  · exact .inl (run'' c member)

theorem header_opens {name header : Text} (written : Header name header) :
    ∃ words, header = words ++ ['('] := by
  obtain ⟨words, same, -⟩ := header_words written
  exact ⟨words, same⟩

def plainHeader (name : Text) : Text := "unsafe fn ".toList ++ name ++ ['(']

theorem header_plain {name : Text} (named : isName name = true) :
    Header name (plainHeader name) := by
  refine ⟨[' '], [' '], [], ?_, by simp, space_blank, by simp, space_blank, named, by simp⟩
  change "unsafe fn ".toList ++ name ++ ['('] = _
  simp

theorem plainHeader_unbroken {name : Text} (named : isName name = true) :
    '\n' ∉ plainHeader name := by
  intro member
  rcases List.mem_append.mp member with member | member
  · rcases List.mem_append.mp member with member | member
    · exact absurd member (by decide)
    · exact name_lacks_blank named (by decide) member
  · exact absurd member (by decide)

theorem header_lacks {name header : Text} (written : Header name header)
    (sign : isBlank c = false ∧ isWord c = false) (other : c ≠ '(') : c ∉ header := by
  obtain ⟨words, rfl, plain⟩ := header_words written
  simpa [other] using sign_absent plain sign

theorem form_advances : Scan.Advances form := by
  intro source declaration back read
  obtain ⟨rfl, -⟩ := form_exact.mp read
  simp only [text, List.length_append, List.length_cons]
  omega

theorem find?_text {declaration : Declaration} (written : declaration.WellFormed) :
    find? declaration.text = some declaration := by
  have read : form declaration.text = some (declaration, []) :=
    form_exact.mpr ⟨by simp, written⟩
  have first : Scan.findFirst form declaration.text = some ([], declaration, []) :=
    Scan.findFirst_some_exact.mpr ⟨declaration.text, rfl, read, by simp⟩
  rw [find?, first]
  rfl

-- The declarations of a text one after the other: each is the first to begin behind the
-- one before, there is no other at its place, and none begins in the gaps.
inductive Successive : Text → List (Text × Declaration) → Text → Prop where
  | last {source : Text}
      (absent : ∀ front (other : Declaration) back, other.WellFormed →
        source ≠ front ++ other.text ++ back) :
      Successive source [] source
  | next {gap later tail : Text} {declaration : Declaration} {blocks : List (Text × Declaration)}
      (written : declaration.WellFormed)
      (leftmost : ∀ front (other : Declaration) back, other.WellFormed →
        gap ++ declaration.text ++ later = front ++ other.text ++ back →
        (front = gap ∧ other = declaration) ∨ gap.length < front.length)
      (onwards : Successive later blocks tail) :
      Successive (gap ++ declaration.text ++ later) ((gap, declaration) :: blocks) tail

theorem sweep_successive (source : Text) :
    Successive source (sweep form source).hits (sweep form source).tail := by
  refine sweep_induction form_advances ?_ ?_ source
  · intro source absent
    refine .last fun front other back written same => ?_
    rw [List.append_assoc] at same
    have refused := Scan.findFirst_none_exact.mp absent front (other.text ++ back) same
    rw [form_exact.mpr ⟨rfl, written⟩] at refused
    cases refused
  · intro source gap declaration back hits tail found later
    obtain ⟨rest, rfl, read, earliest⟩ := Scan.findFirst_some_exact.mp found
    obtain ⟨rfl, written⟩ := form_exact.mp read
    rw [← List.append_assoc]
    refine .next written ?_ later
    intro front other back' written' same
    rw [List.append_assoc, List.append_assoc] at same
    rcases List.append_eq_append_iff.mp same with ⟨shift, rfl, rest⟩ | ⟨shift, rfl, rest⟩
    · cases shift with
      | nil =>
        refine .inl ⟨by simp, ?_⟩
        rw [List.nil_append] at rest
        have again := form_exact.mpr ⟨rest, written'⟩
        rw [read] at again
        cases again
        rfl
      | cons c shift => right; simp
    · cases shift with
      | nil =>
        refine .inl ⟨by simp, ?_⟩
        rw [List.nil_append] at rest
        have again := form_exact.mpr ⟨rest.symm, written'⟩
        rw [read] at again
        cases again
        rfl
      | cons c shift =>
        have refused := earliest front (c :: shift) rfl (by simp)
        rw [← rest, form_exact.mpr ⟨rfl, written'⟩] at refused
        cases refused

theorem successive_whole {source tail : Text} {hits : List (Text × Declaration)}
    (blocks : Successive source hits tail) :
    source = (hits.flatMap fun hit => hit.1 ++ hit.2.text) ++ tail := by
  induction blocks with
  | last => rfl
  | next _ _ _ ih => rw [ih]; simp

theorem successive_written {source tail : Text} {hits : List (Text × Declaration)}
    (blocks : Successive source hits tail) :
    ∀ hit ∈ hits, hit.2.WellFormed := by
  induction blocks with
  | last => simp
  | next written _ _ ih => simpa [written] using ih

end Declaration
end PluginBindings
