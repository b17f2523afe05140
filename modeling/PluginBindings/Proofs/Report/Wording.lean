import PluginBindings.Proofs.Json.Quoting
import PluginBindings.Proofs.Json.Numbers
import PluginBindings.Proofs.Text.Cut
import PluginBindings.Report.Fault

namespace PluginBindings

-- A message as it is put together: words, then each text it quotes with the words behind it.
@[ext] structure Wording where
  lead : Text
  quotations : List (Text × Text)

namespace Wording

def quotedIn (quotations : List (Text × Text)) : Text :=
  quotations.flatMap fun quotation => Json.quote quotation.1 ++ quotation.2

def render (wording : Wording) : Text := wording.lead ++ quotedIn wording.quotations

-- Words are plain characters: the first quote of a message opens a quoted text.
def Plain (words : Text) : Prop := words.all Json.Read.isPlain = true

theorem plain_append (plain : Plain words) (plain' : Plain words') : Plain (words ++ words') := by
  rw [Plain, List.all_append, plain, plain', Bool.and_self]

theorem plain_unquoted (plain : Plain words) : '"' ∉ words := by
  intro member
  cases List.all_eq_true.mp plain '"' member

theorem plain_singleLine (plain : Plain words) : Text.SingleLine words := by
  intro c member
  have here := List.all_eq_true.mp plain c member
  simp only [Json.Read.isPlain, Bool.and_eq_true, decide_eq_true_eq] at here
  exact here.2

def Clear (wording : Wording) : Prop :=
  Plain wording.lead ∧ ∀ quotation ∈ wording.quotations, Plain quotation.2

theorem quotedIn_nil : quotedIn [] = [] := rfl

theorem quotedIn_cons (text words : Text) (quotations : List (Text × Text)) :
    quotedIn ((text, words) :: quotations) =
      '"' :: (text.flatMap Json.escape ++ '"' :: (words ++ quotedIn quotations)) := by
  simp [quotedIn, Json.quote]

theorem plain_apart (plain : Plain words) (quotation : Text × Text) (later : List (Text × Text)) :
    words ≠ front ++ quotedIn (quotation :: later) := by
  rintro rfl
  obtain ⟨text, behind⟩ := quotation
  apply plain_unquoted plain
  simp [quotedIn_cons]

-- By induction on what is quoted: the words in front end at the first quote, the quoted text at
-- its own, and from there on the messages are alike again.
theorem parts_unique {lead lead' : Text} {quotations quotations' : List (Text × Text)}
    (plain : Plain lead) (plain' : Plain lead')
    (clear : ∀ quotation ∈ quotations, Plain quotation.2)
    (clear' : ∀ quotation ∈ quotations', Plain quotation.2)
    (same : lead ++ quotedIn quotations = lead' ++ quotedIn quotations') :
    lead = lead' ∧ quotations = quotations' := by
  induction quotations generalizing lead lead' quotations' with
  | nil =>
    cases quotations' with
    | nil => exact ⟨List.append_cancel_right same, rfl⟩
    | cons quotation quotations' =>
      rw [quotedIn_nil, List.append_nil] at same
      exact absurd same (plain_apart plain quotation quotations')
  | cons quotation quotations ih =>
    obtain ⟨text, words⟩ := quotation
    cases quotations' with
    | nil =>
      rw [quotedIn_nil, List.append_nil] at same
      exact absurd same.symm (plain_apart plain' _ quotations)
    | cons quotation quotations' =>
      obtain ⟨text', words'⟩ := quotation
      rw [quotedIn_cons, quotedIn_cons] at same
      obtain ⟨rfl, -⟩ := Text.cut_unique same (plain_unquoted plain) (plain_unquoted plain')
      have quoted := List.append_cancel_left same
      rw [← Json.quote_behind, ← Json.quote_behind] at quoted
      obtain ⟨rfl, behind⟩ := Json.quote_unique quoted
      obtain ⟨here, later⟩ := List.forall_mem_cons.mp clear
      obtain ⟨here', later'⟩ := List.forall_mem_cons.mp clear'
      obtain ⟨rfl, rfl⟩ := ih here here' later later' behind
      exact ⟨rfl, rfl⟩

theorem render_unique {wording wording' : Wording} (clear : wording.Clear) (clear' : wording'.Clear)
    (same : wording.render = wording'.render) : wording = wording' := by
  obtain ⟨lead, quotations⟩ := wording
  obtain ⟨lead', quotations'⟩ := wording'
  obtain ⟨rfl, rfl⟩ := parts_unique clear.1 clear'.1 clear.2 clear'.2 same
  rfl

theorem render_singleLine {wording : Wording} (clear : wording.Clear) :
    Text.SingleLine wording.render := by
  refine List.forall_mem_append.mpr ⟨plain_singleLine clear.1, fun c member => ?_⟩
  obtain ⟨quotation, among, within⟩ := List.mem_flatMap.mp member
  rcases List.mem_append.mp within with quoted | worded
  · exact Json.quote_singleLine quotation.1 c quoted
  · exact plain_singleLine (clear.2 quotation among) c worded

theorem quote_infix {wording : Wording} (member : text ∈ wording.quotations.map Prod.fst) :
    Json.quote text <:+: wording.render := by
  obtain ⟨⟨text, words⟩, among, rfl⟩ := List.mem_map.mp member
  obtain ⟨front, back, split⟩ := List.append_of_mem among
  refine ⟨wording.lead ++ quotedIn front, words ++ quotedIn back, ?_⟩
  simp [render, split, quotedIn]

theorem render_words (words : Text) : (Wording.mk words []).render = words := List.append_nil words

theorem render_single (lead text words : Text) :
    (Wording.mk lead [(text, words)]).render = lead ++ Json.quote text ++ words := by
  simp [render, quotedIn]

def behind (words : Text) (wording : Wording) : Wording :=
  { wording with lead := words ++ wording.lead }

theorem render_behind (words : Text) (wording : Wording) :
    (wording.behind words).render = words ++ wording.render := List.append_assoc ..

theorem behind_unique {wording wording' : Wording}
    (same : wording.behind words = wording'.behind words) :
    wording = wording' := by
  obtain ⟨leads, quoted⟩ := Wording.mk.inj same
  exact Wording.ext (List.append_cancel_left leads) quoted

theorem clear_behind {wording : Wording} (plain : Plain words) (clear : wording.Clear) :
    (wording.behind words).Clear := ⟨plain_append plain clear.1, clear.2⟩

theorem ofNat_plain (n : Nat) : Plain (Text.ofNat n) := by
  apply List.all_eq_true.mpr
  intro c member
  have digit := (Json.ofNat_digits n).2 c member
  have quote := Json.digit_other (d := '"') digit (by decide)
  have escape := Json.digit_other (d := '\\') digit (by decide)
  have above : 0x20 ≤ c.toNat := by
    simp only [Char.isDigit, Bool.and_eq_true, decide_eq_true_eq] at digit
    exact Nat.le_trans (by decide) (UInt32.le_iff_toNat_le.mp digit.1)
  simp [Json.Read.isPlain, bne, quote, escape, above]

end Wording

def ParseCause.wording : ParseCause → Wording
  | noDeclaration found => ⟨"Expected an array declaration but found ".toList, [(found, [])]⟩
  | neverClosed key => ⟨"Array ".toList, [(key, " is never closed".toList)]⟩
  | noLiteral found => ⟨"Expected a quoted string but found ".toList, [(found, [])]⟩
  | declaredTwice key first =>
    ⟨"The array ".toList,
      [(key, " is declared twice (first at line ".toList ++ Text.ofNat first ++ [')'])]⟩
  | cause => ⟨cause.message, []⟩

def WrapperCause.wording : WrapperCause → Wording
  | notADeclaration block => ⟨"Not an unsafe fn block: ".toList, [(block, [])]⟩
  | noHandle name => ⟨"No handle parameter found in ".toList, [(name, [])]⟩
  | handleNotFirst handle name =>
    ⟨"Handle parameter ".toList,
      [(handle, " of ".toList), (name, " is not its first parameter".toList)]⟩

theorem ParseCause.message_wording (cause : ParseCause) : cause.message = cause.wording.render := by
  cases cause with
  | noDeclaration found => exact ((Wording.render_single _ found []).trans (List.append_nil _)).symm
  | neverClosed key => exact (Wording.render_single _ key _).symm
  | noLiteral found => exact ((Wording.render_single _ found []).trans (List.append_nil _)).symm
  | declaredTwice key first =>
    refine Eq.trans ?_ (Wording.render_single _ key _).symm
    unfold message
    simp only [List.append_assoc]
  | strideTooShort | incompleteRecord | other => exact (Wording.render_words _).symm

theorem WrapperCause.message_wording (cause : WrapperCause) :
    cause.message = cause.wording.render := by
  cases cause with
  | notADeclaration block => exact ((Wording.render_single _ block []).trans (List.append_nil _)).symm
  | noHandle name => exact ((Wording.render_single _ name []).trans (List.append_nil _)).symm
  | handleNotFirst handle name =>
    unfold message wording Wording.render Wording.quotedIn
    simp only [List.flatMap_cons, List.flatMap_nil, List.append_nil, List.append_assoc]

def Fault.place (line : Nat) : Text := "Parse error at line ".toList ++ Text.ofNat line

def Fault.wording : Fault → Wording
  | parse cause line => cause.wording.behind (place line ++ ": ".toList)
  | wrapper cause => cause.wording.behind "Rewrite error: ".toList
  | fault => ⟨fault.message, []⟩

def Fault.quoted (fault : Fault) : List Text := fault.wording.quotations.map Prod.fst

theorem Fault.message_wording (fault : Fault) : fault.message = fault.wording.render := by
  cases fault with
  | parse cause line =>
    refine Eq.trans ?_ (Wording.render_behind _ _).symm
    rw [← cause.message_wording]
    rfl
  | wrapper cause =>
    refine Eq.trans ?_ (Wording.render_behind _ _).symm
    rw [← cause.message_wording]
    rfl
  | _ => exact (Wording.render_words _).symm

theorem ParseCause.wording_clear {cause : ParseCause} (quotes : cause.wording.quotations ≠ []) :
    cause.wording.Clear := by
  cases cause with
  | noDeclaration found => exact ⟨rfl, List.forall_mem_singleton.mpr rfl⟩
  | neverClosed key => exact ⟨rfl, List.forall_mem_singleton.mpr rfl⟩
  | noLiteral found => exact ⟨rfl, List.forall_mem_singleton.mpr rfl⟩
  | declaredTwice key first =>
    have words : Wording.Plain (" is declared twice (first at line ".toList ++ Text.ofNat first) :=
      Wording.plain_append rfl (Wording.ofNat_plain first)
    exact ⟨rfl, List.forall_mem_singleton.mpr (Wording.plain_append words rfl)⟩
  | strideTooShort | incompleteRecord | other => exact absurd rfl quotes

theorem WrapperCause.wording_clear (cause : WrapperCause) : cause.wording.Clear := by
  cases cause with
  | notADeclaration block => exact ⟨rfl, List.forall_mem_singleton.mpr rfl⟩
  | noHandle name => exact ⟨rfl, List.forall_mem_singleton.mpr rfl⟩
  | handleNotFirst handle name =>
    exact ⟨rfl, List.forall_mem_cons.mpr ⟨rfl, List.forall_mem_singleton.mpr rfl⟩⟩

-- The first words tell which cause it is, as long as it quotes: a message given from outside may
-- begin like any other.
theorem ParseCause.wording_unique {cause cause' : ParseCause}
    (quotes : cause.wording.quotations ≠ [])
    (same : cause.wording = cause'.wording) : cause = cause' := by
  have quotes' := quotes
  rw [same] at quotes'
  have leads := congrArg Wording.lead same
  have quoted := congrArg Wording.quotations same
  cases cause with
  | noDeclaration found =>
    cases cause' with
    | noDeclaration found' =>
      cases quoted
      rfl
    | strideTooShort | incompleteRecord | other => exact absurd rfl quotes'
    | _ => exact absurd (String.toList_inj.mp leads) (by decide)
  | neverClosed key =>
    cases cause' with
    | neverClosed key' =>
      obtain ⟨rfl, -⟩ := Prod.mk.inj (List.cons.inj quoted).1
      rfl
    | strideTooShort | incompleteRecord | other => exact absurd rfl quotes'
    | _ => exact absurd (String.toList_inj.mp leads) (by decide)
  | noLiteral found =>
    cases cause' with
    | noLiteral found' =>
      cases quoted
      rfl
    | strideTooShort | incompleteRecord | other => exact absurd rfl quotes'
    | _ => exact absurd (String.toList_inj.mp leads) (by decide)
  | declaredTwice key first =>
    cases cause' with
    | declaredTwice key' first' =>
      obtain ⟨rfl, words⟩ := Prod.mk.inj (List.cons.inj quoted).1
      have numbers := List.append_cancel_left (List.append_cancel_right words)
      rw [Json.ofNat_unique numbers]
    | strideTooShort | incompleteRecord | other => exact absurd rfl quotes'
    | _ => exact absurd (String.toList_inj.mp leads) (by decide)
  | _ => exact absurd rfl quotes

theorem WrapperCause.wording_unique {cause cause' : WrapperCause}
    (same : cause.wording = cause'.wording) :
    cause = cause' := by
  have leads := congrArg Wording.lead same
  have quoted := congrArg Wording.quotations same
  cases cause with
  | notADeclaration block =>
    cases cause' with
    | notADeclaration block' =>
      cases quoted
      rfl
    | _ => exact absurd (String.toList_inj.mp leads) (by decide)
  | noHandle name =>
    cases cause' with
    | noHandle name' =>
      cases quoted
      rfl
    | _ => exact absurd (String.toList_inj.mp leads) (by decide)
  | handleNotFirst handle name =>
    cases cause' with
    | handleNotFirst handle' name' =>
      obtain ⟨first, second⟩ := List.cons.inj quoted
      obtain ⟨rfl, -⟩ := Prod.mk.inj first
      obtain ⟨rfl, -⟩ := Prod.mk.inj (List.cons.inj second).1
      rfl
    | _ => exact absurd (String.toList_inj.mp leads) (by decide)

namespace Fault

-- It has the line or the name that it is about in quotes, or it is about a pattern alone.
def Definite (fault : Fault) : Prop := fault.quoted ≠ [] ∨ ∃ limit, fault = .patternTooBig limit

theorem quoted_nil_exact {fault : Fault} : fault.quoted = [] ↔ fault.wording.quotations = [] :=
  List.map_eq_nil_iff

theorem wording_clear {fault : Fault} (definite : fault.Definite) : fault.wording.Clear := by
  cases definite with
  | inl quotes =>
    rw [ne_eq, quoted_nil_exact] at quotes
    cases fault with
    | parse cause line =>
      have words : Wording.Plain (place line) := Wording.plain_append rfl (Wording.ofNat_plain line)
      exact Wording.clear_behind (Wording.plain_append words rfl) (cause.wording_clear quotes)
    | wrapper cause => exact Wording.clear_behind rfl cause.wording_clear
    | _ => exact absurd rfl quotes
  | inr engine =>
    obtain ⟨limit, rfl⟩ := engine
    have words := Wording.plain_append (rfl : Wording.Plain
      "Invalid pattern: Compiled regex exceeds size limit of ".toList) (Wording.ofNat_plain limit)
    exact ⟨Wording.plain_append words rfl, List.forall_mem_nil _⟩

theorem parse_lead (cause : ParseCause) (line : Nat) :
    (parse cause line).wording.lead = place line ++ ':' :: (' ' :: cause.wording.lead) :=
  List.append_assoc ..

theorem place_no_colon (line : Nat) : ':' ∉ place line := by
  intro member
  rcases List.mem_append.mp member with word | number
  · exact absurd word (by decide)
  · have digit := (Json.ofNat_digits line).2 ':' number
    cases digit

theorem wording_unique_quoted {fault fault' : Fault} (quotes : fault.wording.quotations ≠ [])
    (same : fault.wording = fault'.wording) : fault = fault' := by
  have quotes' := quotes
  rw [same] at quotes'
  have leads := congrArg Wording.lead same
  cases fault with
  | parse cause line =>
    cases fault' with
    | parse cause' line' =>
      rw [parse_lead, parse_lead] at leads
      obtain ⟨numbers, -⟩ := Text.cut_unique leads (place_no_colon line) (place_no_colon line')
      obtain rfl := Json.ofNat_unique (List.append_cancel_left numbers)
      rw [ParseCause.wording_unique quotes (Wording.behind_unique same)]
    | wrapper cause' => cases leads
    | _ => exact absurd rfl quotes'
  | wrapper cause =>
    cases fault' with
    | parse cause' line => cases leads
    | wrapper cause' =>
      rw [WrapperCause.wording_unique (Wording.behind_unique same)]
    | _ => exact absurd rfl quotes'
  | _ => exact absurd rfl quotes

theorem wording_unique {fault fault' : Fault} (definite : fault.Definite)
    (definite' : fault'.Definite) (same : fault.wording = fault'.wording) : fault = fault' := by
  simp only [Definite, ne_eq, quoted_nil_exact] at definite definite'
  rcases definite with quotes | ⟨limit, rfl⟩
  · exact wording_unique_quoted quotes same
  · rcases definite' with quotes | ⟨limit', rfl⟩
    · exact absurd (congrArg Wording.quotations same).symm quotes
    · have numbers := List.append_cancel_left (List.append_cancel_right (congrArg Wording.lead same))
      rw [Json.ofNat_unique numbers]

theorem message_unique {fault fault' : Fault} (definite : fault.Definite)
    (definite' : fault'.Definite) (same : fault.message = fault'.message) : fault = fault' := by
  rw [message_wording, message_wording] at same
  exact wording_unique definite definite'
    (Wording.render_unique (wording_clear definite) (wording_clear definite') same)

end Fault

end PluginBindings
