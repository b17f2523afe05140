import PluginBindings.Proofs.Signature.Headers

namespace PluginBindings

def Sweep.join (first second : Sweep α) : Sweep α :=
  match second.hits with
  | [] => ⟨first.hits, first.tail ++ second.tail⟩
  | (gap, value) :: later => ⟨first.hits ++ (first.tail ++ gap, value) :: later, second.tail⟩

namespace Declaration

-- It ends with a closed line, and behind each of its headers it has a brace.
structure Complete (text : Text) : Prop where
  ends : text = [] ∨ ∃ inside, text = inside ++ "\x7d\n".toList
  braced : ∀ front name header inside, Header name header → text = front ++ (header ++ inside) →
    '{' ∈ inside

theorem complete_bare {text : Text} (complete : Complete text)
    (absent : ∀ front (other : Declaration) back, other.WellFormed →
      text ≠ front ++ other.text ++ back) : headers text = [] := by
  refine headers_nil_exact.mpr fun earlier later same nonempty => ?_
  cases read : headerForm (later ++ []) with
  | none => rfl
  | some found =>
    obtain ⟨header, split, written⟩ := headerForm_exact.mp read
    rw [List.append_nil] at split
    have brace := complete.braced earlier _ header found.2 written (by rw [same, split])
    obtain ⟨rest, back, opened⟩ := form_opens written brace
    obtain ⟨whole, formed⟩ := form_exact.mp opened
    exact absurd (by rw [same, split, whole, List.append_assoc]) (absent earlier _ back formed)

-- Its last line has a brace in it, and no header reaches over one.
theorem complete_silent {text : Text} (complete : Complete text) (bare : headers text = [])
    (back : Text) : Scan.Silent headerForm text back := by
  rcases complete.ends with rfl | ⟨inside, rfl⟩
  · exact Scan.silent_nil _ _
  · have split : inside ++ "\x7d\n".toList = (inside ++ ['\x7d']) ++ ['\n'] := by simp
    have inner : headers inside = [] := by
      have parts := headers_sign (c := '\x7d') (by decide +kernel) (by decide) inside ['\n']
      rw [split, List.append_assoc] at bare
      exact (List.append_eq_nil_iff.mp (parts.symm.trans bare)).1
    rw [split]
    exact Scan.silent_append (silent_bare (by decide +kernel) (by decide) inner _)
      (silent_letter (by decide) _)

theorem complete_later {gap later : Text} {block : Declaration}
    (complete : Complete (gap ++ block.text ++ later)) : Complete later := by
  refine ⟨?_, fun front name header inside written same =>
    complete.braced (gap ++ block.text ++ front) name header inside written (by simp [same])⟩
  rcases complete.ends with empty | ⟨inside, same⟩
  · exact .inl (List.append_eq_nil_iff.mp empty).2
  · rcases List.append_eq_append_iff.mp same with ⟨shift, -, ends⟩ | ⟨shift, front, ends⟩
    · exact .inr ⟨shift, ends⟩
    · cases shift with
      | nil => exact .inr ⟨[], ends.symm⟩
      | cons c shift =>
        -- the declaration ends with the brace that opens its body
        have brace : (gap ++ block.header ++ block.rest) ++ ['{'] = inside ++ c :: shift := by
          rw [← front]
          simp [text]
        obtain ⟨_, last, -⟩ := Text.append_last brace (by simp)
        have among : '{' ∈ "\x7d\n".toList := by
          rw [ends, last]
          simp
        exact absurd among (by decide)

theorem sweep_join {front tail : Text} {hits : List (Text × Declaration)}
    (placed : Successive front hits tail) (complete : Complete front) (back : Text) :
    sweep form (front ++ back) = Sweep.join ⟨hits, tail⟩ (sweep form back) := by
  induction placed with
  | @last source absent =>
    have silent := silent_form (complete_silent complete (complete_bare complete absent) back)
    have behind := Scan.findFirst_behind silent
    cases found : Scan.findFirst form back with
    | none =>
      rw [found] at behind
      rw [sweep_last behind, sweep_last found]
      rfl
    | some read =>
      rw [found] at behind
      rw [sweep_next form_advances behind, sweep_next form_advances found]
      rfl
  | @next gap later tail block hits written leftmost _ ih =>
    have here : Scan.findFirst form (gap ++ block.text ++ later ++ back) =
        some (gap, block, later ++ back) := by
      refine Scan.findFirst_some_exact.mpr ⟨block.text ++ (later ++ back), by simp,
        form_exact.mpr ⟨rfl, written⟩, silent_form ?_⟩
      have quiet := gap_silent leftmost written (block.rest ++ '{' :: (later ++ back))
      have shape : block.text ++ (later ++ back) =
          block.header ++ (block.rest ++ '{' :: (later ++ back)) := by simp [text]
      rwa [shape]
    rw [sweep_next form_advances here, ih (complete_later complete)]
    unfold Sweep.join
    cases (sweep form back).hits <;> rfl

end Declaration

namespace Signature

theorem readAll_blocks [PatternEngine] {text : Text} {signatures : List Signature} :
    readAll text = .ok signatures ↔
      List.Forall₂ (fun (block : Declaration) signature => ofBlock block.text = .ok signature)
        (Declaration.blocks text) signatures := by
  rw [readAll, mapM_ok_exact, Declaration.blocks, List.forall₂_map_left_iff]

end Signature

namespace WrappedSource

-- Whole lines that are written before tell nothing of a later line's indentation.
theorem lineIndent_lines {before : Text} (lines : Scan.startsLine true before = true)
    (front : Text) :
    lineIndent (before ++ front) = lineIndent front := by
  rcases Scan.startsLine_exact.mp lines with rfl | ⟨earlier, rfl⟩
  · rfl
  · have last : Text.lastLine (earlier ++ ['\n'] ++ front) = Text.lastLine front := by
      simp only [Text.lastLine, List.reverse_append, List.takeWhile_append]
      split
      · rename_i whole
        have same := (List.takeWhile_prefix (· != '\n')).eq_of_length whole
        simp [same]
      · rfl
    rw [lineIndent, lineIndent, last]

theorem wrap_lines [PatternEngine] {before : Text} (lines : Scan.startsLine true before = true)
    (type front tail : Text) (hits : List (Text × Declaration)) :
    wrap type (before ++ front) tail hits = wrap type front tail hits := by
  induction hits generalizing front with
  | nil => rfl
  | cons hit hits ih =>
    have indent : lineIndent (before ++ front ++ hit.1) = lineIndent (front ++ hit.1) := by
      rw [List.append_assoc, lineIndent_lines lines]
    have onwards : wrap type (before ++ front ++ hit.1 ++ hit.2.text) tail hits =
        wrap type (front ++ hit.1 ++ hit.2.text) tail hits := by
      rw [List.append_assoc, List.append_assoc, ← List.append_assoc front, ih]
    rw [wrap, wrap, indent, onwards]

def append (first second : WrappedSource) : WrappedSource :=
  ⟨first.text ++ second.text, first.signatures ++ second.signatures⟩

theorem wrap_append [PatternEngine] (type before tail : Text)
    (hits more : List (Text × Declaration)) :
    (wrap type before tail (hits ++ more)).result = (do
      let first ← (wrap type before [] hits).result
      let second ← (wrap type (before ++ hits.flatMap fun hit => hit.1 ++ hit.2.text) tail more).result
      return first.append second) := by
  induction hits generalizing before with
  | nil =>
    rw [List.nil_append, List.flatMap_nil, List.append_nil]
    cases (wrap type before tail more).result <;> rfl
  | cons hit hits ih =>
    have place : before ++ ((hit :: hits).flatMap fun hit => hit.1 ++ hit.2.text) =
        before ++ hit.1 ++ hit.2.text ++ hits.flatMap fun hit => hit.1 ++ hit.2.text := by simp
    simp only [List.cons_append, wrap, Outcome.result_bind, Outcome.result_pure, ih, place, bind_assoc]
    refine bind_congr fun wrapper => bind_congr fun first => ?_
    cases (wrap type (before ++ hit.1 ++ hit.2.text ++
      hits.flatMap fun hit => hit.1 ++ hit.2.text) tail more).result with
    | error fault => rfl
    | ok second => simp [append, bind, Except.bind, pure, Except.pure]

theorem wrap_gap [PatternEngine] (type before tail extra : Text) (gap : Text)
    (declaration : Declaration)
    (later : List (Text × Declaration)) :
    (wrap type before tail ((extra ++ gap, declaration) :: later)).result = (do
      let rest ← (wrap type (before ++ extra) tail ((gap, declaration) :: later)).result
      return (⟨extra, []⟩ : WrappedSource).append rest) := by
  simp only [wrap, Outcome.result_bind, Outcome.result_pure, bind_assoc, List.append_assoc]
  refine bind_congr fun wrapper => bind_congr fun rest => ?_
  rfl

theorem wrap_join [PatternEngine] {type : Text} {first second : Sweep Declaration}
    (lines : Scan.startsLine true
      ((first.hits.flatMap fun hit => hit.1 ++ hit.2.text) ++ first.tail) = true) :
    (wrap type [] (first.join second).tail (first.join second).hits).result = (do
      let front ← (wrap type [] first.tail first.hits).result
      let back ← (wrap type [] second.tail second.hits).result
      return front.append back) := by
  have tailed : ∀ tail : Text, (wrap type [] tail first.hits).result = (do
      let front ← (wrap type [] [] first.hits).result
      return front.append ⟨tail, []⟩) := by
    intro tail
    have split := wrap_append type [] tail first.hits []
    rw [List.append_nil] at split
    rw [split]
    rfl
  rw [tailed first.tail]
  unfold Sweep.join
  cases hits : second.hits with
  | nil =>
    rw [tailed]
    cases (wrap type [] [] first.hits).result with
    | error fault => rfl
    | ok front =>
      show Except.ok _ = Except.ok _
      simp [append]
  | cons hit later =>
    have moved := wrap_lines lines type [] second.tail (hit :: later)
    rw [List.append_nil] at moved
    dsimp only
    rw [wrap_append, List.nil_append, wrap_gap, moved]
    cases (wrap type [] [] first.hits).result with
    | error fault => rfl
    | ok front =>
      cases (wrap type [] second.tail (hit :: later)).result with
      | error fault => rfl
      | ok back =>
        show Except.ok _ = Except.ok _
        simp [append]

theorem ofText_append [PatternEngine] {type front back : Text}
    (complete : Declaration.Complete front) :
    (ofText type (front ++ back)).result = (do
      let first ← (ofText type front).result
      let second ← (ofText type back).result
      return first.append second) := by
  have placed := Declaration.sweep_successive front
  have whole := Declaration.successive_whole placed
  have lines : Scan.startsLine true front = true :=
    Scan.startsLine_exact.mpr (complete.ends.imp_right fun ⟨inside, same⟩ =>
      ⟨inside ++ ['\x7d'], by rw [same]; simp⟩)
  rw [ofText_result, ofText_result, ofText_result, Declaration.sweep_join placed complete]
  by_cases ready : Removal.Ready type
  · simp only [if_pos ready]
    exact wrap_join (whole ▸ lines)
  · simp only [if_neg ready]
    rfl

section
attribute [local instance] PatternEngine.standard

theorem indented_appended :
    Declaration.Complete "unsafe fn a(ph: *mut H) \x7b\n\x7d\n".toList ∧
      (ofText "H".toList ("unsafe fn a(ph: *mut H) \x7b\n\x7d\n".toList ++
        "  unsafe fn b(ph: *mut H, n: c_int) \x7b".toList)).result =
      .ok ⟨"unsafe fn a() \x7b\n    // Safety: forwarded to caller\n".toList ++
          "    unsafe \x7b ((*self.handle.as_ptr()).a)(self.handle.as_ptr()) \x7d\n\x7d\n".toList ++
          "  unsafe fn b(n: c_int) \x7b\n      // Safety: forwarded to caller\n".toList ++
          "      unsafe \x7b ((*self.handle.as_ptr()).b)(self.handle.as_ptr(), n) \x7d".toList,
        [⟨"a".toList, [], []⟩, ⟨"b".toList, ["n".toList], []⟩]⟩ := by
  have braced : Declaration.Braced "unsafe fn a(ph: *mut H) \x7b\n\x7d\n".toList :=
    (Declaration.braced_exact (Declaration.sweep_successive _)).mpr (by decide +kernel)
  have complete : Declaration.Complete "unsafe fn a(ph: *mut H) \x7b\n\x7d\n".toList := by
    refine ⟨.inr ⟨"unsafe fn a(ph: *mut H) \x7b\n".toList, by decide⟩, ?_⟩
    intro front name header inside written same
    obtain ⟨rest, back, rfl, -⟩ := braced front name header inside written same
    simp
  have first : (ofText "H".toList "unsafe fn a(ph: *mut H) \x7b\n\x7d\n".toList).result.toOption =
      some ⟨"unsafe fn a() \x7b\n    // Safety: forwarded to caller\n".toList ++
        "    unsafe \x7b ((*self.handle.as_ptr()).a)(self.handle.as_ptr()) \x7d\n\x7d\n".toList,
        [⟨"a".toList, [], []⟩]⟩ := by decide +kernel
  have second : (ofText "H".toList "  unsafe fn b(ph: *mut H, n: c_int) \x7b".toList).result.toOption =
      some ⟨"  unsafe fn b(n: c_int) \x7b\n      // Safety: forwarded to caller\n".toList ++
        "      unsafe \x7b ((*self.handle.as_ptr()).b)(self.handle.as_ptr(), n) \x7d".toList,
        [⟨"b".toList, ["n".toList], []⟩]⟩ := by decide +kernel
  refine ⟨complete, ?_⟩
  rw [ofText_append complete, toOption_exact.mp first, toOption_exact.mp second]
  show Except.ok _ = Except.ok _
  simp only [append, List.append_assoc, List.cons_append, List.nil_append]

end

-- Every declaration cut out of a text reads again from its start, as long as the engine takes its
-- unit, and removing handles reads it no differently.
theorem signatures_agree [PatternEngine] (text : Text) :
    ((∀ block ∈ Declaration.blocks text, block.Readable) →
      ∃ signatures, Signature.readAll text = .ok signatures ∧
        List.Forall₂ (fun (block : Declaration) (signature : Signature) =>
          Signature.ofBlock block.text = .ok signature ∧ signature.name = block.name)
          (Declaration.blocks text) signatures) ∧
    ((∃ block ∈ Declaration.blocks text, ¬ block.Readable) →
      Signature.readAll text = .error (.patternTooBig PatternEngine.limit)) ∧
    ∀ type wrapped, (ofText type text).result = .ok wrapped →
      Signature.readAll text = .ok wrapped.signatures := by
  have placed := Declaration.sweep_successive text
  have written := Declaration.successive_written placed
  refine ⟨fun readable => ?_, fun unreadable => ?_, fun type wrapped accepted => ?_⟩
  · have formed : ∀ block ∈ Declaration.blocks text, block.WellFormed := by
      intro block member
      obtain ⟨hit, among, rfl⟩ := List.mem_map.mp member
      exact written hit among
    have read := (Signature.readAll_result text).trans (if_pos readable)
    have parsed := (List.forall₂_and_left _ _).mpr ⟨formed, Signature.readAll_blocks.mp read⟩
    refine ⟨_, read, parsed.imp fun block signature facts => ?_⟩
    exact ⟨facts.2, (Signature.ofBlock_names facts.1 facts.2).1⟩
  · obtain ⟨block, member, refused⟩ := unreadable
    exact (Signature.readAll_result text).trans (if_neg fun all => refused (all block member))
  · obtain ⟨edits, places, -, signatures, sounds⟩ := wrap_exact written (ofText_exact.mp accepted).2
    rw [Signature.readAll_blocks, Declaration.blocks, ← places, signatures, List.map_map,
      List.forall₂_map_left_iff, List.forall₂_map_right_iff, List.forall₂_same]
    intro edit member
    obtain ⟨earlier, later, split⟩ := List.append_of_mem member
    exact (sounds earlier edit later split).parsed

attribute [local instance] PatternEngine.standard

theorem layouts_read_alike :
    ∃ wrapped, (ofText "H".toList ("unsafe fn f(ph: *mut H, n: c_int) \x7b\x7d unsafe ".toList ++
        "fn g(\n    ph: *mut H,\n    m: c_int,\n) \x7b\n\x7d\n".toList)).result = .ok wrapped ∧
      wrapped.signatures = [⟨"f".toList, ["n".toList], []⟩,
        ⟨"g".toList, ["m".toList], "    ".toList⟩] ∧
      Signature.readAll ("unsafe fn f(ph: *mut H, n: c_int) \x7b\x7d unsafe ".toList ++
        "fn g(\n    ph: *mut H,\n    m: c_int,\n) \x7b\n\x7d\n".toList) =
          .ok wrapped.signatures := by
  have given : (ofText "H".toList ("unsafe fn f(ph: *mut H, n: c_int) \x7b\x7d unsafe ".toList ++
      "fn g(\n    ph: *mut H,\n    m: c_int,\n) \x7b\n\x7d\n".toList)).result.toOption.map
        (·.signatures) = some [⟨"f".toList, ["n".toList], []⟩,
          ⟨"g".toList, ["m".toList], "    ".toList⟩] := by decide +kernel
  obtain ⟨wrapped, read, same⟩ := Option.map_eq_some_iff.mp given
  have accepted := toOption_exact.mp read
  exact ⟨wrapped, accepted, same, (signatures_agree _).2.2 _ wrapped accepted⟩

end WrappedSource
end PluginBindings
