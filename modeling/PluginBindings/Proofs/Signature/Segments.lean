import Mathlib.Data.List.Basic
import PluginBindings.Proofs.Signature.ParameterList
import PluginBindings.Signature.Parameter

namespace PluginBindings
namespace Parameter

-- So does a comma where brackets are open.
theorem segmentsFrom_joins (outside : delimits false c = false)
    (joins : c = ',' → nesting ≠ 0) :
    segmentsFrom nesting current (c :: rest) = segmentsFrom nesting (c :: current) rest := by
  have signs : c ≠ '(' ∧ c ≠ ')' ∧ c ≠ '[' ∧ c ≠ ']' := by
    simpa [delimits, bracketPairs, and_assoc] using outside
  have comma : (c == ',' && nesting == 0) = false := by
    by_cases same : c = ','
    · simp [joins same]
    · simp [same]
  simp [segmentsFrom, signs, comma]

theorem delimits_narrows (outside : delimits angles c = false) : delimits false c = false := by
  cases angles with
  | false => exact outside
  | true =>
    simp only [delimits, bracketPairs, if_true, List.any_append, Bool.or_eq_false_iff] at outside
    simpa [delimits, bracketPairs] using outside.1

theorem group_kinds (pair : (opener, closer) ∈ bracketPairs angles) :
    ((opener = '(' ∨ opener = '[') ∧ (closer = ')' ∨ closer = ']')) ∨
      (opener = '<' ∧ closer = '>') := by
  cases angles with
  | false => simp [bracketPairs] at pair; rcases pair with ⟨rfl, rfl⟩ | ⟨rfl, rfl⟩ <;> simp
  | true =>
    simp [bracketPairs] at pair
    rcases pair with ⟨rfl, rfl⟩ | ⟨rfl, rfl⟩ | ⟨rfl, rfl⟩ <;> simp

theorem segmentsFrom_opens (opens : c = '(' ∨ c = '[') :
    segmentsFrom nesting current (c :: rest) = segmentsFrom (nesting + 1) (c :: current) rest := by
  rcases opens with rfl | rfl <;> simp [segmentsFrom]

theorem segmentsFrom_closes (closes : c = ')' ∨ c = ']') :
    segmentsFrom (nesting + 1) current (c :: rest) = segmentsFrom nesting (c :: current) rest := by
  rcases closes with rfl | rfl <;> simp [segmentsFrom]

theorem segmentsFrom_nested {text rest : Text} (balanced : Balanced angles commas text) :
    segmentsFrom (nesting + 1) current (text ++ rest) =
      segmentsFrom (nesting + 1) (text.reverse ++ current) rest := by
  induction balanced generalizing nesting current rest with
  | done => rfl
  | plain outside _ _ ih =>
    rw [List.cons_append, segmentsFrom_joins (delimits_narrows outside) (by simp), ih]
    simp
  | arrow _ _ ih =>
    rw [List.cons_append, List.cons_append, segmentsFrom_joins (by decide) (by simp),
      segmentsFrom_joins (by decide) (by simp), ih]
    simp
  | group pair _ _ inside ih =>
    rw [List.append_assoc, List.cons_append, List.cons_append]
    rcases group_kinds pair with ⟨opens, closes⟩ | ⟨rfl, rfl⟩
    · rw [segmentsFrom_opens opens, inside, segmentsFrom_closes closes, ih]
      simp
    · rw [segmentsFrom_joins (by decide) (by simp), inside,
        segmentsFrom_joins (by decide) (by simp), ih]
      simp

theorem segmentsFrom_top {text : Text} (balanced : Balanced angles commas text) (current : Text) :
    ∃ whole last, ∀ rest,
      segmentsFrom 0 current (text ++ rest) = whole ++ segmentsFrom 0 last rest := by
  induction balanced generalizing current with
  | done => exact ⟨[], current, fun rest => rfl⟩
  | @plain commas c text outside _ _ ih =>
    by_cases comma : c = ','
    · obtain ⟨whole, last, read⟩ := ih []
      refine ⟨current.reverse :: whole, last, fun rest => ?_⟩
      subst comma
      rw [List.cons_append, List.cons_append, ← read rest]
      simp [segmentsFrom]
    · obtain ⟨whole, last, read⟩ := ih (c :: current)
      refine ⟨whole, last, fun rest => ?_⟩
      rw [List.cons_append, segmentsFrom_joins (delimits_narrows outside) (absurd · comma), read]
  | arrow _ _ ih =>
    obtain ⟨whole, last, read⟩ := ih ('>' :: '-' :: current)
    refine ⟨whole, last, fun rest => ?_⟩
    rw [List.cons_append, List.cons_append, segmentsFrom_joins (by decide) (by decide),
      segmentsFrom_joins (by decide) (by decide), read]
  | @group commas opener closer inner text pair nested _ inside ih =>
    rcases group_kinds pair with ⟨opens, closes⟩ | ⟨rfl, rfl⟩
    · obtain ⟨whole, last, read⟩ := ih (closer :: (inner.reverse ++ opener :: current))
      refine ⟨whole, last, fun rest => ?_⟩
      rw [List.append_assoc, List.cons_append, List.cons_append, segmentsFrom_opens opens,
        segmentsFrom_nested nested, segmentsFrom_closes closes, read]
    · -- not counted by the reader, so the commas between these cut as well
      obtain ⟨first, start, opened⟩ := inside ('<' :: current)
      obtain ⟨whole, last, read⟩ := ih ('>' :: start)
      refine ⟨first ++ whole, last, fun rest => ?_⟩
      rw [List.append_assoc, List.cons_append, List.cons_append,
        segmentsFrom_joins (by decide) (by decide), opened,
        segmentsFrom_joins (by decide) (by decide), read, List.append_assoc]

def cuts (text : Text) : List Text := segmentsFrom 0 [] (text ++ [')'])

theorem segmentsFrom_last {text rest : Text} (balanced : Balanced angles commas text) :
    segmentsFrom 0 [] (text ++ ')' :: rest) = cuts text := by
  obtain ⟨whole, last, read⟩ := segmentsFrom_top balanced []
  rw [cuts, read, read]
  simp [segmentsFrom]

theorem segmentsFrom_next {text rest : Text} (balanced : Balanced angles commas text) :
    segmentsFrom 0 [] (text ++ ',' :: rest) = cuts text ++ segmentsFrom 0 [] rest := by
  obtain ⟨whole, last, read⟩ := segmentsFrom_top balanced []
  rw [cuts, read, read]
  simp [segmentsFrom]

theorem segmentsFrom_whole {text rest : Text} (balanced : Balanced false commas text)
    (lone : commas = false) :
    segmentsFrom 0 current (text ++ rest) = segmentsFrom 0 (text.reverse ++ current) rest := by
  induction balanced generalizing current with
  | done => rfl
  | @plain _ c _ outside separates _ ih =>
    have joins : c ≠ ',' := by
      intro comma
      rw [separates comma] at lone
      cases lone
    rw [List.cons_append, segmentsFrom_joins outside (absurd · joins), ih lone]
    simp
  | arrow counted => cases counted
  | group pair inside _ _ ih =>
    rcases group_kinds pair with ⟨opens, closes⟩ | ⟨rfl, -⟩
    · rw [List.append_assoc, List.cons_append, List.cons_append, segmentsFrom_opens opens,
        segmentsFrom_nested inside, segmentsFrom_closes closes, ih lone]
      simp
    · exact absurd (pair_delimits pair) (by decide)

theorem cuts_whole {text : Text} (balanced : Balanced false false text) : cuts text = [text] := by
  rw [cuts, segmentsFrom_whole balanced rfl]
  simp [segmentsFrom]

theorem segmentsFrom_list {part rest : Text} {parts : List Text}
    (balanced : ∀ text ∈ part :: parts, Balanced angles false text) :
    segmentsFrom 0 [] (part ++ parts.flatMap ([','] ++ ·) ++ ')' :: rest) =
      (part :: parts).flatMap cuts := by
  induction parts generalizing part with
  | nil =>
    rw [List.flatMap_nil, List.append_nil, segmentsFrom_last (balanced part (by simp))]
    simp
  | cons next parts ih =>
    have onwards : segmentsFrom 0 [] (next ++ parts.flatMap ([','] ++ ·) ++ ')' :: rest) =
        (next :: parts).flatMap cuts := ih fun text member => balanced text (by simp [member])
    have shape : part ++ (next :: parts).flatMap ([','] ++ ·) ++ ')' :: rest =
        part ++ ',' :: (next ++ parts.flatMap ([','] ++ ·) ++ ')' :: rest) := by simp
    rw [shape, segmentsFrom_next (balanced part (by simp)), onwards]
    simp

theorem segmentsFrom_current (front current text : Text) :
    segmentsFrom nesting (current ++ front) text =
      (segmentsFrom nesting current text).modifyHead (front.reverse ++ ·) := by
  induction text generalizing nesting current with
  | nil => rfl
  | cons c text ih =>
    unfold segmentsFrom
    split
    · exact ih (c :: current)
    · split
      · cases nesting with
        | zero => simp
        | succ outer => exact ih (c :: current)
      · split
        · simp
        · exact ih (c :: current)

theorem segmentsFrom_plain {run rest : Text}
    (plain : ∀ c ∈ run, delimits false c = false ∧ c ≠ ',') :
    segmentsFrom 0 current (run ++ rest) = segmentsFrom 0 (run.reverse ++ current) rest := by
  induction run generalizing current with
  | nil => rfl
  | cons c run ih =>
    have here := plain c (by simp)
    rw [List.cons_append, segmentsFrom_joins here.1 (absurd · here.2),
      ih fun d member => plain d (by simp [member])]
    simp

theorem cuts_plain {run text : Text} (plain : ∀ c ∈ run, delimits false c = false ∧ c ≠ ',') :
    cuts (run ++ text) = (cuts text).modifyHead (run ++ ·) := by
  have joined : segmentsFrom 0 ([] ++ run.reverse) (text ++ [')']) =
      (cuts text).modifyHead (run.reverse.reverse ++ ·) := segmentsFrom_current run.reverse [] _
  rw [cuts, List.append_assoc, segmentsFrom_plain plain, List.append_nil]
  simpa using joined

theorem cuts_nonempty {text : Text} (balanced : Balanced angles commas text) : cuts text ≠ [] := by
  obtain ⟨whole, last, read⟩ := segmentsFrom_top balanced []
  rw [cuts, read]
  simp [segmentsFrom]

theorem segmentName?_none {segment : Text} (absent : ':' ∉ segment) :
    segmentName? segment = none := by
  simp [segmentName?, Text.cutAt?_none_exact.mpr absent]

theorem segmentName?_entry {entry : Formal} {rest : Text} (written : entry.WellFormed angles) :
    segmentName? (entry.lead ++ entry.name ++ entry.gap ++ ':' :: rest) = some entry.name := by
  have ends : Stops isBlank entry.name.reverse := name_ends written.named []
  have starts : Stops isBlank (entry.name ++ []) := name_stops_blank written.named
  rw [List.append_nil] at starts
  have trimmed : Text.trim (entry.lead ++ entry.name ++ entry.gap) = entry.name :=
    trim_exact.mpr ⟨entry.lead, entry.gap, rfl, written.lead, written.gap, starts, ends⟩
  have cut : Text.cutAt? ':' (entry.lead ++ entry.name ++ entry.gap ++ ':' :: rest) =
      some (entry.lead ++ entry.name ++ entry.gap, rest) :=
    Text.cutAt?_exact.mpr ⟨rfl, sign_absent (Formal.front_plain written) colon_sign⟩
  simp only [segmentName?, cut, Option.bind_eq_bind, Option.bind_some, trimmed, written.named, if_true]
  rfl

-- Its own name, and any that a comma between type arguments brings to the start of a segment.
theorem cuts_names {entry : Formal} (written : entry.WellFormed angles) :
    (cuts entry.text).filterMap segmentName? =
      entry.name :: ((cuts entry.type).drop 1).filterMap segmentName? := by
  have plain : ∀ c ∈ entry.lead ++ entry.name ++ entry.gap ++ [':'],
      delimits false c = false ∧ c ≠ ',' := by
    intro c member
    rcases List.mem_append.mp member with member | member
    · have plain := Formal.front_plain written c member
      exact ⟨plain.elim blank_not_delimits word_not_delimits, plain_not_comma plain⟩
    · cases List.mem_singleton.mp member
      decide
  have shape : entry.text = entry.lead ++ entry.name ++ entry.gap ++ [':'] ++ entry.type := by
    simp [Formal.text]
  rw [shape, cuts_plain plain]
  cases cut : cuts entry.type with
  | nil => exact absurd cut (cuts_nonempty written.typed)
  | cons first later =>
    have named : segmentName? (entry.lead ++ entry.name ++ entry.gap ++ ':' :: first) =
        some entry.name := segmentName?_entry written
    simp only [List.modifyHead_cons, List.drop_one, List.tail_cons]
    rw [List.append_assoc _ [':'] first]
    exact List.filterMap_cons_some named

theorem cuts_words {text : Text} (plain : ∀ c ∈ text, isBlank c = true ∨ isWord c = true) :
    (cuts text).filterMap segmentName? = [] := by
  have whole : cuts (text ++ []) = (cuts []).modifyHead (text ++ ·) :=
    cuts_plain fun c member =>
      ⟨(plain c member).elim blank_not_delimits word_not_delimits, plain_not_comma (plain c member)⟩
  have alone : cuts text = [text] := by simpa [cuts, segmentsFrom] using whole
  simp [alone, segmentName?_none (sign_absent plain colon_sign)]

end Parameter

namespace Block

theorem listedNames_exact {block : Block} (written : block.Listed angles) :
    Parameter.listedNames block.text = block.entries.flatMap fun entry =>
      entry.name :: ((Parameter.cuts entry.type).drop 1).filterMap Parameter.segmentName? := by
  obtain ⟨words, header, plain⟩ := Declaration.header_words written.header
  have cut : Text.cutAt? '(' block.text =
      some (words, Text.join [','] block.segments ++ ')' :: block.returns ++ ['{']) :=
    Text.cutAt?_exact.mpr ⟨by simp [text, header], sign_absent plain (by decide +kernel)⟩
  have balanced := segments_balanced written
  have read : (Parameter.segmentsFrom 0 [] (Text.join [','] block.segments ++
        ')' :: (block.returns ++ ['{']))).filterMap Parameter.segmentName? =
      block.segments.flatMap fun part => (Parameter.cuts part).filterMap Parameter.segmentName? := by
    cases segments : block.segments with
    | nil => simp [Text.join, Parameter.segmentsFrom, Parameter.segmentName?, Text.cutAt?]
    | cons part parts =>
      rw [segments] at balanced
      rw [join_cons, Parameter.segmentsFrom_list balanced, List.filterMap_flatMap]
  rw [Parameter.listedNames, cut]
  simp only [List.append_assoc, List.cons_append]
  rw [read, segments_read written fun text => Parameter.cuts_words]
  exact List.flatMap_congr fun entry member => Parameter.cuts_names (written.entries entry member)

end Block
end PluginBindings
