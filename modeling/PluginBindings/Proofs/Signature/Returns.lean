import PluginBindings.Descriptor.Reader
import PluginBindings.Event.Reader
import PluginBindings.Preference.Reader
import PluginBindings.Proofs.Signature.Rescan
import PluginBindings.Proofs.Signature.Segments
import PluginBindings.Proofs.Text.Carries

namespace PluginBindings

open Text (withReturns withoutReturns)

namespace Declaration

def withReturns (declaration : Declaration) : Declaration :=
  ⟨declaration.name, Text.withReturns declaration.header, Text.withReturns declaration.rest⟩

theorem text_withReturns (declaration : Declaration) :
    declaration.withReturns.text = Text.withReturns declaration.text := by
  simp only [text, withReturns, Text.withReturns_append]
  rfl

theorem carries_headerForm : Scan.Carries id headerForm headerForm := by
  unfold headerForm
  refine Scan.carries_bind (Scan.carries_literal (by decide) (by decide)) fun _ => ?_
  refine Scan.carries_bind (Scan.carries_span1 rfl) fun _ => ?_
  refine Scan.carries_bind (Scan.carries_literal (by decide) (by decide)) fun _ => ?_
  refine Scan.carries_bind (Scan.carries_span1 rfl) fun _ => ?_
  refine Scan.carries_bind Scan.carries_name fun name => ?_
  refine Scan.carries_bind Scan.carries_blanks fun _ => ?_
  refine Scan.carries_bind (Scan.carries_literal (by decide) (by decide)) fun _ => ?_
  exact Scan.carries_pure id name

theorem carries_form : Scan.Carries withReturns form form := by
  refine ⟨fun source plain => ?_, fun source declaration back read =>
    ⟨declaration.text, (form_exact.mp read).1.symm⟩⟩
  have opened := carries_headerForm.carried source plain
  simp only [form, Option.bind_eq_bind, opened]
  cases read : headerForm source with
  | none => rfl
  | some found =>
    have part := carries_headerForm.suffix source found.1 found.2 read
    simp only [Option.map_some, Option.bind_some, Prod.map_fst, Prod.map_snd]
    rw [Text.cutAt?_withReturns (by decide) (by decide), Text.before_withReturns part]
    cases Text.cutAt? '{' found.2 <;> rfl

theorem sweep_withReturns {text : Text} (plain : Text.Plain text) :
    sweep form (Text.withReturns text) =
      ⟨(sweep form text).hits.map (Prod.map Text.withReturns withReturns),
        Text.withReturns (sweep form text).tail⟩ :=
  sweep_carries form_advances form_advances carries_form.suffix
    (fun _ => Scan.findFirst_carries carries_form fun _ => rfl) plain

theorem successive_part {source tail : Text} {hits : List (Text × Declaration)}
    (blocks : Successive source hits tail) : ∀ hit ∈ hits, hit.2.text <:+: source := by
  induction blocks with
  | last => simp
  | @next gap later tail declaration hits _ _ _ ih =>
    intro hit member
    rcases List.mem_cons.mp member with rfl | member
    · exact ⟨gap, later, rfl⟩
    · exact (ih hit member).trans (List.suffix_append _ later).isInfix

theorem withReturns_wellFormed {declaration : Declaration} (written : declaration.WellFormed)
    (plain : Text.Plain declaration.text) : declaration.withReturns.WellFormed := by
  have read : form declaration.text = some (declaration, []) :=
    form_exact.mpr ⟨by simp, written⟩
  have carried := carries_form.carried declaration.text plain
  rw [read] at carried
  exact (form_exact.mp carried).2

end Declaration

namespace Parameter

theorem indents_unbroken {unit : Text} (indents : ∀ c ∈ unit, isIndent c = true) :
    '\n' ∉ unit ∧ '\r' ∉ unit := by
  refine ⟨fun member => ?_, fun member => ?_⟩
  · cases indents _ member
  · cases indents _ member

-- Behind a colon no break comes, so the character that is taken along is the same.
theorem carries_entryForm : Scan.Carries id entryForm entryForm := by
  unfold entryForm
  refine Scan.carries_bind Scan.carries_name fun name => ?_
  refine Scan.carries_bind (Scan.carries_span rfl) fun _ => ?_
  refine ⟨fun source plain => ?_, fun source value rest read => ?_⟩
  · cases source with
    | nil => rfl
    | cons c source =>
      by_cases colon : c = ':'
      · subst colon
        rw [Text.withReturns_cons (by decide)]
        cases source with
        | nil => rfl
        | cons d source =>
          have unbroken : d ≠ '\n' := by
            rintro rfl
            exact plain.colons ⟨[], source, rfl⟩
          rw [Text.withReturns_cons unbroken]
          show (if d == ':' then none else some (id name, Text.withReturns source)) =
            (if d == ':' then none else some (name, source)).map _
          split <;> rfl
      · have none : ∀ next : Unit → Scan Text, ∀ later : Text,
            (Scan.literal [':'] >>= next) (c :: later) = none := fun next later => by
          simp [bind, StateT.bind, Scan.literal, Ne.symm colon]
        by_cases breaks : c = '\n'
        · subst breaks
          rfl
        · rw [Text.withReturns_cons breaks, none, none]
          rfl
  · obtain ⟨_, middle, opened, behind⟩ := Scan.bind_exact.mp read
    have part : middle <:+ source := ⟨[':'], (Scan.literal_exact.mp opened).symm⟩
    cases middle with
    | nil =>
      cases behind
      exact part
    | cons c middle =>
      by_cases colon : c = ':'
      · simp [colon] at behind
      · have same : name = value ∧ middle = rest := by simpa [colon] using behind
        exact same.2 ▸ (List.suffix_cons c middle).trans part

theorem carries_unit : Scan.Carries id (Scan.span1 isIndent) (Scan.span1 isIndent) := by
  refine (Scan.carries_span1 rfl).congr fun source unit rest read => ?_
  exact Text.withReturns_unbroken (indents_unbroken (Scan.span1_exact.mp read).2.2.1).1

theorem indentationUnit_withReturns {block : Text} (plain : Text.Plain block) :
    indentationUnit (Text.withReturns block) = indentationUnit block := by
  have carries : Scan.Carries id
      (do let unit ← Scan.span1 isIndent; let _ ← entryForm; return unit : Scan Text)
      (do let unit ← Scan.span1 isIndent; let _ ← entryForm; return unit : Scan Text) := by
    refine Scan.carries_bind carries_unit fun unit => ?_
    refine Scan.carries_bind carries_entryForm fun _ => ?_
    exact Scan.carries_pure id unit
  have other : ∀ source : Text, source.head? ≠ some '\n' → indentedEntry source = none := by
    intro source head
    cases source with
    | nil => rfl
    | cons c source =>
      have broken : '\n' ≠ c := by simpa [eq_comm] using head
      simp [indentedEntry, bind, StateT.bind, Scan.literal, broken]
  rw [indentationUnit, indentationUnit, Scan.findFirst_breaks carries (fun _ => rfl) other plain]
  cases Scan.findFirst indentedEntry block <;> rfl

theorem lineNames_withReturns {unit block : Text} (indents : ∀ c ∈ unit, isIndent c = true)
    (plain : Text.Plain block) : lineNames unit (Text.withReturns block) = lineNames unit block := by
  obtain ⟨unbroken, bare⟩ := indents_unbroken indents
  have carries : Scan.Carries id (do Scan.literal unit; entryForm : Scan Text)
      (do Scan.literal unit; entryForm : Scan Text) :=
    Scan.carries_bind (Scan.carries_literal unbroken bare) fun _ => carries_entryForm
  have other : ∀ source : Text, source.head? ≠ some '\n' → entryAt unit source = none := by
    intro source head
    cases read : entryAt unit source with
    | none => rfl
    | some found =>
      obtain ⟨gap, behind, rfl, -⟩ := entryAt_exact.mp read
      exact absurd rfl head
  have suffix : ∀ source value rest, entryAt unit source = some (value, rest) → rest <:+ source := by
    intro source name rest read
    obtain ⟨gap, behind, rfl, -, -, -, rfl⟩ := entryAt_exact.mp read
    exact (List.drop_suffix 1 behind).trans ⟨'\n' :: unit ++ name ++ gap ++ [':'], by simp⟩
  rw [lineNames, lineNames, sweep_carries (entryAt_advances unit) (entryAt_advances unit) suffix
    (fun _ => Scan.findFirst_breaks carries (fun _ => rfl) other) plain]
  simp

theorem segmentsFrom_withReturns (nesting : Nat) (current text : Text) :
    segmentsFrom nesting (Text.withReturns current).reverse (Text.withReturns text) =
      (segmentsFrom nesting current.reverse text).map Text.withReturns := by
  induction text generalizing nesting current with
  | nil => rfl
  | cons c text ih =>
    have next : ∀ nesting, segmentsFrom nesting (Text.withReturns (current ++ [c])).reverse
        (Text.withReturns text) =
          (segmentsFrom nesting (c :: current.reverse) text).map Text.withReturns := by
      intro nesting
      rw [ih nesting (current ++ [c]), List.reverse_append]
      rfl
    by_cases breaks : c = '\n'
    · subst breaks
      have pair : (Text.withReturns (current ++ ['\n'])).reverse =
          '\n' :: '\r' :: (Text.withReturns current).reverse := by simp
      rw [Text.withReturns_break]
      rw [pair] at next
      exact next nesting
    · have single : (Text.withReturns (current ++ [c])).reverse =
          c :: (Text.withReturns current).reverse := by
        simp [Text.withReturns_cons breaks]
      rw [single] at next
      rw [Text.withReturns_cons breaks]
      by_cases opens : c = '(' ∨ c = '['
      · rw [segmentsFrom_opens opens, segmentsFrom_opens opens, next]
      by_cases closes : c = ')' ∨ c = ']'
      · cases nesting with
        | zero => rcases closes with rfl | rfl <;> simp [segmentsFrom]
        | succ outer => rw [segmentsFrom_closes closes, segmentsFrom_closes closes, next]
      by_cases parts : c = ',' ∧ nesting = 0
      · obtain ⟨rfl, rfl⟩ := parts
        have later := ih 0 []
        rw [Text.withReturns_nil, List.reverse_nil] at later
        simp [segmentsFrom, later]
      · have outside : delimits false c = false := by
          simp only [not_or] at opens closes
          simp [delimits, bracketPairs, opens, closes]
        have joins : c = ',' → nesting ≠ 0 := fun comma top => parts ⟨comma, top⟩
        rw [segmentsFrom_joins outside joins, segmentsFrom_joins outside joins, next]

theorem segmentName?_withReturns (segment : Text) :
    segmentName? (Text.withReturns segment) = segmentName? segment := by
  unfold segmentName?
  rw [Text.cutAt?_withReturns (by decide) (by decide)]
  cases Text.cutAt? ':' segment with
  | none => rfl
  | some parts =>
    simp only [Option.map_some, Prod.map_fst, Option.bind_eq_bind, Option.bind_some,
      Text.trim_withReturns, Text.isName_withReturns]
    split
    · rename_i named
      rw [Text.withReturns_unbroken (name_lacks_blank named rfl)]
    · rfl

theorem listedNames_withReturns (block : Text) :
    listedNames (Text.withReturns block) = listedNames block := by
  unfold listedNames
  rw [Text.cutAt?_withReturns (by decide) (by decide)]
  cases Text.cutAt? '(' block with
  | none => rfl
  | some parts =>
    have segments := segmentsFrom_withReturns 0 [] parts.2
    rw [Text.withReturns_nil, List.reverse_nil] at segments
    simp only [Option.map_some, Prod.map_snd, segments, List.filterMap_map]
    exact List.filterMap_congr fun segment _ => segmentName?_withReturns segment

theorem names_withReturns {unit block : Text} (indents : ∀ c ∈ unit, isIndent c = true)
    (plain : Text.Plain block) : names (Text.withReturns block) unit = names block unit := by
  unfold names
  split
  · exact listedNames_withReturns block
  · exact lineNames_withReturns indents plain

end Parameter

namespace Removal

def withReturns (removal : Removal) : Removal :=
  ⟨Text.withReturns removal.before, removal.handle, Text.withReturns removal.deleted,
    Text.withReturns removal.after⟩

theorem carries_ownLineForm {type : Text} (unbroken : '\n' ∉ type) (bare : '\r' ∉ type) :
    Scan.Carries id (ownLineForm type) (ownLineForm type) := by
  unfold ownLineForm
  refine Scan.carries_bind (Scan.carries_span rfl) fun _ => ?_
  refine Scan.carries_bind Scan.carries_name fun name => ?_
  refine Scan.carries_bind (Scan.carries_span rfl) fun _ => ?_
  refine Scan.carries_bind (Scan.carries_literal (by decide) (by decide)) fun _ => ?_
  refine Scan.carries_bind (Scan.carries_span rfl) fun _ => ?_
  refine Scan.carries_bind (Scan.carries_literal (by decide) (by decide)) fun _ => ?_
  refine Scan.carries_bind (Scan.carries_afterBlanks rfl ?_ ?_ : Scan.Carries id _ _) fun _ =>
    Scan.carries_pure id name
  · refine Scan.carries_bind (Scan.carries_literal unbroken bare) fun _ => ?_
    refine Scan.carries_bind (Scan.carries_span rfl) fun _ => ?_
    refine Scan.carries_bind (Scan.carries_optionally (by decide) (by decide)) fun _ => ?_
    exact Scan.carries_bind (Scan.carries_span rfl) fun _ => Scan.carries_break
  · intro indents
    cases indents

theorem boundary_withReturns (type text : Text) :
    isWordBoundary type.getLast? (Text.withReturns text).head? =
      isWordBoundary type.getLast? text.head? := by
  rw [isWordBoundary, isWordBoundary, Text.withReturns_head (by decide +kernel)]

theorem carries_boundary (type : Text) :
    Scan.Carries id (wordBoundaryAfter type) (wordBoundaryAfter type) := by
  refine ⟨fun source _ => ?_, fun source _ rest read => ?_⟩
  · rw [wordBoundaryAfter, wordBoundaryAfter, boundary_withReturns]
    split <;> rfl
  · unfold wordBoundaryAfter at read
    split at read
    · cases read
      exact List.suffix_refl source
    · cases read

theorem carries_inlineEntry {type : Text} (unbroken : '\n' ∉ type) (bare : '\r' ∉ type) :
    Scan.Carries id (inlineEntry type) (inlineEntry type) := by
  unfold inlineEntry
  refine Scan.carries_bind Scan.carries_name fun name => ?_
  refine Scan.carries_bind Scan.carries_blanks fun _ => ?_
  refine Scan.carries_bind (Scan.carries_literal (by decide) (by decide)) fun _ => ?_
  refine Scan.carries_bind Scan.carries_blanks fun _ => ?_
  refine Scan.carries_bind (Scan.carries_literal (by decide) (by decide)) fun _ => ?_
  refine Scan.carries_bind (Scan.carries_afterBlanks rfl ?_ ?_ : Scan.Carries id _ _) fun _ =>
    Scan.carries_pure id name
  · exact Scan.carries_bind (Scan.carries_literal unbroken bare) fun _ => carries_boundary type
  · intro _ later
    cases type with
    | nil =>
      have outside : isWord '\n' = false := blank_not_word rfl
      simp [bind, StateT.bind, Scan.literal, wordBoundaryAfter, isWordBoundary, outside]
    | cons c type =>
      have other : c ≠ '\n' := fun same => unbroken (by simp [same])
      simp [bind, StateT.bind, Scan.literal, other]

theorem comma?_withReturns (text : Text) :
    comma? (Text.withReturns text) = (comma? text).map Text.withReturns := by
  cases text with
  | nil => rfl
  | cons c text =>
    by_cases breaks : c = '\n'
    · subst breaks
      rfl
    · rw [Text.withReturns_cons breaks]
      by_cases comma : c = ','
      · subst comma
        exact congrArg some (Text.trimStart_withReturns text)
      · rw [comma?_none_exact.mpr (by simpa using comma), comma?_none_exact.mpr (by simpa using comma)]
        rfl

theorem opened_withReturns (source : Text) :
    (comma? (Text.withReturns source)).getD (Text.withReturns source) =
      Text.withReturns ((comma? source).getD source) := by
  rw [comma?_withReturns]
  cases comma? source <;> rfl

theorem opened_suffix (source : Text) : (comma? source).getD source <:+ source := by
  obtain ⟨front, opened, same, opening, -⟩ := comma?_opened source
  exact ⟨front, by rw [opening, same]⟩

theorem comma?_suffix {text after : Text} (separated : comma? text = some after) :
    after <:+ text := by
  obtain ⟨gap, rfl, -⟩ := comma?_exact.mp separated
  exact ⟨',' :: gap, rfl⟩

theorem trimStart_suffix (text : Text) : Text.trimStart text <:+ text := List.dropWhile_suffix _

theorem carries_inlineForm {type : Text} (unbroken : '\n' ∉ type) (bare : '\r' ∉ type) :
    Scan.Carries withReturns (inlineForm type) (inlineForm type) := by
  have entries := carries_inlineEntry unbroken bare
  refine ⟨fun source plain => ?_, fun source removal rest read => ?_⟩
  · have opened := opened_suffix source
    have carried := entries.carried _ (plain.part opened.isInfix)
    simp only [inlineForm, Option.bind_eq_bind, opened_withReturns, carried]
    cases read : inlineEntry type ((comma? source).getD source) with
    | none => rfl
    | some found =>
      have part := entries.suffix _ found.1 found.2 read
      simp only [Option.map_some, Option.bind_some, Prod.map_fst, Prod.map_snd,
        Text.trimStart_withReturns, comma?_withReturns]
      cases separated : comma? (Text.trimStart found.2) with
      | none =>
        simp only [Option.map_none, Text.before_withReturns (part.trans opened)]
        rfl
      | some after =>
        have behind := ((comma?_suffix separated).trans (trimStart_suffix found.2)).trans part
        simp only [Option.map_some, Text.before_withReturns opened, Text.before_withReturns behind]
        rfl
  · simp only [inlineForm, Option.bind_eq_bind, Option.bind_eq_some_iff, Prod.exists] at read
    obtain ⟨handle, back, entered, read⟩ := read
    have part := (entries.suffix _ handle back entered).trans (opened_suffix source)
    cases separated : comma? (Text.trimStart back) with
    | none =>
      rw [separated] at read
      cases read
      exact part
    | some after =>
      rw [separated] at read
      cases read
      exact ((comma?_suffix separated).trans (trimStart_suffix back)).trans part

theorem find?_withReturns {type block : Text} (unbroken : '\n' ∉ type) (bare : '\r' ∉ type)
    (plain : Text.Plain block) :
    find? type (Text.withReturns block) = (find? type block).map withReturns := by
  have lines : Scan.findAtLineStart (ownLineForm type) true (Text.withReturns block) = _ :=
    Scan.findAtLineStart_carries (carries_ownLineForm unbroken bare) plain
  cases found : Scan.findAtLineStart (ownLineForm type) true block with
  | some read =>
    obtain ⟨front, handle, after⟩ := read
    obtain ⟨line, rfl, -, -, removed⟩ := find?_line found
    rw [found] at lines
    rw [removed, find?, lines]
    simp [Scan.carriedFind, withReturns, Text.before_append]
  | none =>
    have among := Scan.findFirst_carries (carries_inlineForm unbroken bare) (fun _ => rfl) plain
    rw [found] at lines
    rw [find?, find?, lines, found, Option.map_none, among]
    cases Scan.findFirst (inlineForm type) block with
    | none => rfl
    | some found => simp [Scan.carriedFind, withReturns]

end Removal

theorem Declaration.signature_withReturns {declaration : Declaration}
    (plain : Text.Plain declaration.text) : declaration.withReturns.signature = declaration.signature := by
  rw [signature, signature, text_withReturns, Parameter.indentationUnit_withReturns plain,
    Parameter.names_withReturns (Parameter.unit_indents _) plain]
  rfl

theorem Declaration.readable_withReturns [PatternEngine] {declaration : Declaration}
    (plain : Text.Plain declaration.text) : declaration.withReturns.Readable ↔ declaration.Readable := by
  rw [Readable, Readable, text_withReturns, Parameter.indentationUnit_withReturns plain]

theorem Removal.text_withReturns (removal : Removal) :
    removal.withReturns.text = Text.withReturns removal.text :=
  (Text.withReturns_append removal.before removal.after).symm

namespace Wrapper

-- The body of a wrapper ends its lines as ever: only what is left of the block keeps its returns.
theorem assemble_alike [PatternEngine] {type : Text} {declaration : Declaration}
    (unbroken : '\n' ∉ type) (bare : '\r' ∉ type) (written : declaration.WellFormed)
    (plain : Text.Plain declaration.text) (indent : Text) :
    Alike (fun wrapper wrapper' => wrapper'.signature = wrapper.signature ∧
        withoutReturns wrapper'.text = withoutReturns wrapper.text)
      (assemble type declaration.text indent).result
      (assemble type (withReturns declaration.text) indent).result := by
  have formed := Declaration.withReturns_wellFormed written plain
  have parsed := Signature.ofBlock_text written
  have parsed' := Signature.ofBlock_text formed
  simp only [Declaration.signature_withReturns plain, Declaration.readable_withReturns plain,
    Declaration.text_withReturns] at parsed'
  by_cases readable : declaration.Readable
  · rw [if_pos readable] at parsed parsed'
    have unit : ∀ c ∈ declaration.signature.indentationUnit, isIndent c = true :=
      Parameter.unit_indents declaration.text
    rw [assemble_result parsed, assemble_result parsed', Parameter.names_withReturns unit plain,
      Removal.find?_withReturns unbroken bare plain]
    cases Removal.find? type declaration.text with
    | none => exact .error _
    | some removal =>
      by_cases first : (Parameter.names declaration.text
          declaration.signature.indentationUnit).head? = some removal.handle
      · simp only [Option.map_some, Removal.withReturns, first, if_true]
        refine .ok ⟨rfl, ?_⟩
        rw [Text.withoutReturns_append, Text.withoutReturns_append]
        exact congrArg (· ++ _) ((congrArg withoutReturns (Removal.text_withReturns removal)).trans
          (Text.withoutReturns_withReturns removal.text))
      · simp only [Option.map_some, Removal.withReturns, first, if_false]
        exact .error _
  · rw [if_neg readable] at parsed parsed'
    rw [assemble, assemble, Outcome.result_bind, Outcome.result_bind, parsed, parsed']
    exact .error _

end Wrapper

namespace WrappedSource

theorem lineIndent_withReturns (before : Text) :
    lineIndent (withReturns before) = lineIndent before := by
  rw [lineIndent, lineIndent, Text.lastLine_withReturns]

theorem wrap_alike [PatternEngine] {type tail : Text} {hits : List (Text × Declaration)}
    (unbroken : '\n' ∉ type)
    (bare : '\r' ∉ type) (written : ∀ hit ∈ hits, hit.2.WellFormed)
    (plain : ∀ hit ∈ hits, Text.Plain hit.2.text) (before : Text) :
    Alike (fun wrapped wrapped' => wrapped'.signatures = wrapped.signatures ∧
        withoutReturns wrapped'.text = withoutReturns wrapped.text)
      (wrap type before tail hits).result
      (wrap type (withReturns before) (withReturns tail)
        (hits.map (Prod.map withReturns Declaration.withReturns))).result := by
  induction hits generalizing before with
  | nil => exact .ok ⟨rfl, Text.withoutReturns_withReturns tail⟩
  | cons hit hits ih =>
    obtain ⟨gap, declaration⟩ := hit
    obtain ⟨first, others⟩ := List.forall_mem_cons.mp written
    obtain ⟨here, there⟩ := List.forall_mem_cons.mp plain
    have later := ih others there (before ++ gap ++ declaration.text)
    simp only [Text.withReturns_append] at later
    simp only [wrap, List.map_cons, Prod.map_apply, Outcome.result_bind, Declaration.text_withReturns]
    rw [← Text.withReturns_append before gap, lineIndent_withReturns]
    refine alike_bind (Wrapper.assemble_alike unbroken bare first here _) fun wrapper wrapper' same => ?_
    rw [Text.withReturns_append before gap]
    refine alike_bind later fun rest rest' follows => ?_
    refine .ok ⟨by rw [same.1, follows.1], ?_⟩
    simp only [Text.withoutReturns_append, Text.withoutReturns_withReturns, same.2, follows.2]

theorem ofText_withReturns [PatternEngine] {type text : Text} (unbroken : '\n' ∉ type)
    (bare : '\r' ∉ type)
    (plain : Text.Plain text) :
    Alike (fun wrapped wrapped' => wrapped'.signatures = wrapped.signatures ∧
        withoutReturns wrapped'.text = withoutReturns wrapped.text)
      (ofText type text).result (ofText type (withReturns text)).result := by
  have blocks := Declaration.sweep_successive text
  have parts : ∀ hit ∈ (sweep Declaration.form text).hits, Text.Plain hit.2.text :=
    fun hit member => plain.part (Declaration.successive_part blocks hit member)
  rw [ofText_result, ofText_result, Declaration.sweep_withReturns plain]
  split
  · exact wrap_alike unbroken bare (Declaration.successive_written blocks) parts []
  · exact .error _

end WrappedSource

-- How the lines of a text end is not told by any reader. The rewriter alone looks across lines:
-- it takes a character along behind a colon, and so none may be followed by a break.
theorem returns_immaterial [PatternEngine] {text : Text} (plain : '\r' ∉ text) :
    (∀ header, Descriptor.read (withReturns text) header = Descriptor.read text header) ∧
    (∀ stride, EventSpec.read (withReturns text) stride = EventSpec.read text stride) ∧
    (∀ header, Preference.read (withReturns text) header = Preference.read text header) ∧
    ∀ type : Text, '\n' ∉ type → '\r' ∉ type → ¬ [':', '\n'] <:+: text →
      Alike (fun wrapped wrapped' => wrapped'.signatures = wrapped.signatures ∧
          withoutReturns wrapped'.text = withoutReturns wrapped.text)
        (WrappedSource.ofText type text).result
        (WrappedSource.ofText type (withReturns text)).result := by
  have lines := numberedLines_withReturns plain
  refine ⟨fun header => ?_, fun stride => ?_, fun header => ?_, fun type unbroken bare colons => ?_⟩
  · rw [Descriptor.read, Descriptor.read, lines]
  · rw [EventSpec.read, EventSpec.read, lines]
  · rw [Preference.read, Preference.read, lines]
  · exact WrappedSource.ofText_withReturns unbroken bare ⟨plain, colons⟩

attribute [local instance] PatternEngine.standard

theorem declaration_with_returns :
    let text := "unsafe fn f(\n    ph: *mut H,\n    n: c_int,\n) \x7b\n\x7d\n".toList
    ∃ wrapped wrapped', (WrappedSource.ofText "H".toList text).result = .ok wrapped ∧
      (WrappedSource.ofText "H".toList (withReturns text)).result = .ok wrapped' ∧
      wrapped'.signatures = wrapped.signatures ∧
      withoutReturns wrapped'.text = withoutReturns wrapped.text := by
  intro text
  have given : (WrappedSource.ofText "H".toList text).result.toOption.isSome = true := by
    decide +kernel
  obtain ⟨wrapped, read⟩ := Option.isSome_iff_exists.mp given
  have accepted := toOption_exact.mp read
  have plain : '\r' ∉ text := by decide
  obtain ⟨-, -, -, rewritten⟩ := returns_immaterial plain
  have alike := rewritten "H".toList (by decide) (by decide) (by decide)
  rw [accepted] at alike
  generalize (WrappedSource.ofText "H".toList (withReturns text)).result = result' at alike
  cases alike with
  | @ok _ wrapped' same => exact ⟨wrapped, wrapped', accepted, rfl, same⟩

end PluginBindings
