import PluginBindings.Proofs.Signature.Rescan

namespace PluginBindings
namespace Declaration

def headers : Text → List Text
  | [] => []
  | c :: text =>
    match headerForm (c :: text) with
    | some (name, _) => name :: headers text
    | none => headers text

def Braced (text : Text) : Prop :=
  ∀ front name header inside, Header name header → text = front ++ (header ++ inside) →
    ∃ rest back, inside = rest ++ '{' :: back ∧ headers rest = []

theorem header_read {name header : Text} (written : Header name header) (inside : Text) :
    headerForm (header ++ inside) = some (name, inside) :=
  headerForm_exact.mpr ⟨header, rfl, written⟩

theorem headers_silent {front back : Text} (silent : Scan.Silent headerForm front back) :
    headers (front ++ back) = headers back := by
  induction front with
  | nil => rfl
  | cons c front ih =>
    have here : headerForm (c :: (front ++ back)) = none := silent [] (c :: front) rfl (by simp)
    rw [List.cons_append, headers, here]
    exact ih fun earlier later same => silent (c :: earlier) later (by simp [same])

theorem headers_nil_exact {text : Text} :
    headers text = [] ↔ Scan.Silent headerForm text [] := by
  constructor
  · intro bare earlier later same nonempty
    induction earlier generalizing text with
    | nil =>
      cases later with
      | nil => exact absurd rfl nonempty
      | cons c later =>
        cases read : headerForm (c :: later) with
        | none => simpa using read
        | some found => simp [same, headers, read] at bare
    | cons c earlier ih =>
      rw [same, List.cons_append, headers] at bare
      split at bare
      · cases bare
      · exact ih bare rfl
  · intro silent
    simpa [headers] using headers_silent silent

-- No header reaches over a sign other than its parenthesis.
theorem headerForm_sign (sign : isBlank c = false ∧ isWord c = false) (other : c ≠ '(')
    (front back : Text) : headerForm (front ++ c :: back) =
      (headerForm front).map fun read => (read.1, read.2 ++ c :: back) := by
  cases read : headerForm (front ++ c :: back) with
  | some found =>
    obtain ⟨name, inside⟩ := found
    obtain ⟨header, split, written⟩ := headerForm_exact.mp read
    have lacks := header_lacks written sign other
    rcases List.append_eq_append_iff.mp split with ⟨shift, rfl, rest⟩ | ⟨shift, rfl, rfl⟩
    · cases shift with
      | nil =>
        have alone := header_read written []
        rw [List.append_nil, List.append_nil] at alone
        simpa [alone] using rest.symm
      | cons d shift =>
        obtain ⟨rfl, -⟩ := List.cons.inj rest
        exact absurd (by simp) lacks
    · rw [header_read written]
      rfl
  | none =>
    cases alone : headerForm front with
    | none => rfl
    | some found =>
      obtain ⟨header, rfl, written⟩ := headerForm_exact.mp alone
      rw [List.append_assoc, header_read written] at read
      cases read

theorem headers_sign (sign : isBlank c = false ∧ isWord c = false) (other : c ≠ '(')
    (front back : Text) : headers (front ++ c :: back) = headers front ++ headers back := by
  induction front with
  | nil =>
    have alone : Scan.Silent headerForm ([] ++ [c]) back := silent_sign (by simp) sign other back
    simpa [headers] using headers_silent alone
  | cons d front ih =>
    have here := headerForm_sign sign other (d :: front) back
    rw [List.cons_append] at here
    rw [List.cons_append, headers, headers, here, ih]
    cases headerForm (d :: front) <;> rfl

-- A name cannot begin a header: the first word would be all that is left of the name, and
-- then the second would open with the sign behind it.
theorem name_silent {name third : Text} (named : isName name = true)
    (run : ∀ c ∈ third, isBlank c = true) (back : Text) :
    Scan.Silent headerForm name (third ++ '(' :: back) := by
  intro earlier later same nonempty
  cases read : headerForm (later ++ (third ++ '(' :: back)) with
  | none => rfl
  | some found =>
    obtain ⟨header, split, first, second, third', rfl, gap, run', -⟩ := headerForm_exact.mp read
    have words : ∀ c ∈ later, isWord c = true := fun c member =>
      isName_word named c (same ▸ List.mem_append_right earlier member)
    have keyword : ∀ c ∈ "unsafe".toList, isWord c = true := List.all_eq_true.mp (by decide +kernel)
    have stops : Stops isWord (third ++ '(' :: back) :=
      blank_stops_word run (stops_cons.mpr paren_sign.2)
    have stops' : ∀ rest : Text, Stops isWord (first ++ rest) := fun rest => by
      obtain ⟨c, blanks, rfl⟩ := List.exists_cons_of_ne_nil gap
      exact stops_cons.mpr (blank_not_word (run' c (by simp)))
    simp only [List.append_assoc] at split
    obtain ⟨-, blanks⟩ := run_unique split words stops keyword (stops' _)
    obtain ⟨-, opens⟩ := run_unique blanks run (stops_cons.mpr paren_sign.1) run'
      (stops_cons.mpr (by decide))
    cases opens

-- So no header begins inside another.
theorem header_silent {name header : Text} (written : Header name header) :
    ∃ inner, header = 'u' :: inner ∧ ∀ back, Scan.Silent headerForm inner back := by
  obtain ⟨first, second, third, rfl, -, run, -, run', named, run''⟩ := written
  have letter : ∀ blanks : Text, (∀ c ∈ blanks, isBlank c = true) → 'u' ∉ blanks :=
    fun blanks run member => by cases (run 'u' member).symm.trans (by decide : isBlank 'u' = false)
  refine ⟨("nsafe".toList ++ first ++ "fn".toList ++ second) ++ (name ++ (third ++ ['('])),
    by simp, fun back => ?_⟩
  apply Scan.silent_append
  · apply silent_letter
    simp only [List.mem_append, not_or]
    exact ⟨⟨⟨by decide, letter first run⟩, by decide⟩, letter second run'⟩
  apply Scan.silent_append
  · simpa using name_silent named run'' back
  · apply silent_letter
    simpa using letter third run''

theorem headers_header {name header : Text} (written : Header name header) (inside : Text) :
    headers (header ++ inside) = name :: headers inside := by
  have read := header_read written inside
  obtain ⟨inner, rfl, silent⟩ := header_silent written
  rw [List.cons_append] at read ⊢
  rw [headers, read, headers_silent (silent inside)]

theorem headers_block {gap : Text} {block : Declaration} (written : block.WellFormed)
    (silent : ∀ back, Scan.Silent headerForm gap (block.header ++ back)) (later : Text) :
    headers (gap ++ block.text ++ later) = block.name :: headers block.rest ++ headers later := by
  have split : gap ++ block.text ++ later =
      gap ++ (block.header ++ (block.rest ++ '{' :: later)) := by simp [text]
  rw [split, headers_silent (silent _), headers_header written.header,
    headers_sign brace_sign (by decide), List.cons_append]

theorem successive_silent {source tail : Text} {hits : List (Text × Declaration)}
    (placed : Successive source hits tail) :
    ∀ hit ∈ hits, ∀ back, Scan.Silent headerForm hit.1 (hit.2.header ++ back) := by
  induction placed with
  | last => simp
  | next written leftmost _ ih =>
    exact List.forall_mem_cons.mpr ⟨gap_silent leftmost written, ih⟩

def headersOf (hit : Text × Declaration) : List Text := hit.2.name :: headers hit.2.rest

theorem headers_hits {hits : List (Text × Declaration)} (written : ∀ hit ∈ hits, hit.2.WellFormed)
    (silent : ∀ hit ∈ hits, ∀ back, Scan.Silent headerForm hit.1 (hit.2.header ++ back))
    (tail : Text) : headers ((hits.flatMap fun hit => hit.1 ++ hit.2.text) ++ tail) =
      hits.flatMap headersOf ++ headers tail := by
  induction hits with
  | nil => rfl
  | cons hit hits ih =>
    obtain ⟨first, others⟩ := List.forall_mem_cons.mp written
    obtain ⟨quiet, rest⟩ := List.forall_mem_cons.mp silent
    rw [List.flatMap_cons, List.flatMap_cons, List.append_assoc, headers_block first quiet,
      ih others rest, List.append_assoc]
    rfl

theorem headers_nil_absent {text : Text} (bare : headers text = [])
    (front name header inside : Text)
    (written : Header name header) : text ≠ front ++ (header ++ inside) := by
  rintro rfl
  have nonempty : header ++ inside ≠ [] := by
    obtain ⟨words, rfl⟩ := header_opens written
    simp
  have refused := headers_nil_exact.mp bare front (header ++ inside) rfl nonempty
  rw [List.append_nil, header_read written] at refused
  cases refused

theorem braced_silent {front back : Text} (silent : Scan.Silent headerForm front back) :
    Braced (front ++ back) ↔ Braced back := by
  constructor
  · intro braced earlier name header inside written same
    exact braced (front ++ earlier) name header inside written (by simp [same])
  · intro braced earlier name header inside written same
    rcases List.append_eq_append_iff.mp same with ⟨shift, rfl, rest⟩ | ⟨shift, rfl, rest⟩
    · exact braced shift name header inside written rest
    · cases shift with
      | nil => exact braced [] name header inside written (by simpa using rest.symm)
      | cons c shift =>
        have refused := silent earlier (c :: shift) rfl (by simp)
        rw [← rest, header_read written] at refused
        cases refused

theorem silent_bare (sign : isBlank c = false ∧ isWord c = false) (other : c ≠ '(') {rest : Text}
    (bare : headers rest = []) (back : Text) : Scan.Silent headerForm (rest ++ [c]) back := by
  intro earlier later same nonempty
  obtain ⟨inside, rfl, rfl⟩ := Text.append_last same nonempty
  have alone : headerForm inside = none := by
    by_cases empty : inside = []
    · rw [empty]
      rfl
    · simpa using headers_nil_exact.mp bare earlier inside rfl empty
  rw [List.append_assoc, List.singleton_append, headerForm_sign sign other, alone]
  rfl

theorem braced_block {gap later : Text} {block : Declaration} (written : block.WellFormed)
    (silent : ∀ back, Scan.Silent headerForm gap (block.header ++ back)) :
    Braced (gap ++ block.text ++ later) ↔ headers block.rest = [] ∧ Braced later := by
  have split : gap ++ block.text ++ later =
      gap ++ (block.header ++ (block.rest ++ '{' :: later)) := by simp [text]
  constructor
  · intro braced
    refine ⟨?_, fun front name header inside written same =>
      braced (gap ++ block.text ++ front) name header inside written (by simp [same])⟩
    obtain ⟨rest, back, same, bare⟩ := braced gap _ _ _ written.header split
    -- The brace found behind the header is the block's own or comes later.
    rcases List.append_eq_append_iff.mp same with ⟨shift, rfl, brace⟩ | ⟨shift, whole, brace⟩
    · cases shift with
      | nil => simpa using bare
      | cons c shift =>
        obtain ⟨rfl, -⟩ := List.cons.inj brace
        rw [headers_sign brace_sign (by decide)] at bare
        exact (List.append_eq_nil_iff.mp bare).1
    · cases shift with
      | nil => simpa [whole] using bare
      | cons c shift =>
        obtain ⟨rfl, -⟩ := List.cons.inj brace
        exact absurd (by simp [whole]) written.closed
  · intro parts
    obtain ⟨bare, braced⟩ := parts
    rw [split, braced_silent (silent _)]
    obtain ⟨inner, opened, quiet⟩ := header_silent written.header
    have behind : Braced ((inner ++ (block.rest ++ ['{'])) ++ later) :=
      (braced_silent (Scan.silent_append (quiet _)
        (silent_bare brace_sign (by decide) bare later))).mpr braced
    intro front name header inside written' same
    cases front with
    | nil =>
      have read := header_read written.header (block.rest ++ '{' :: later)
      rw [same, List.nil_append, header_read written'] at read
      cases read
      exact ⟨block.rest, later, rfl, bare⟩
    | cons c front =>
      rw [opened] at same
      obtain ⟨rfl, same⟩ := List.cons.inj same
      exact behind front name header inside written' (by simpa using same)

theorem braced_exact {source tail : Text} {hits : List (Text × Declaration)}
    (placed : Successive source hits tail) :
    Braced source ↔ (∀ hit ∈ hits, headers hit.2.rest = []) ∧ headers tail = [] := by
  induction placed with
  | @last source absent =>
    constructor
    · intro braced
      refine ⟨by simp, headers_nil_exact.mpr fun earlier later same nonempty => ?_⟩
      cases read : headerForm (later ++ []) with
      | none => rfl
      | some found =>
        obtain ⟨header, split, written⟩ := headerForm_exact.mp read
        rw [List.append_nil] at split
        obtain ⟨_, _, behind, -⟩ := braced earlier _ header found.2 written (by rw [same, split])
        have brace : '{' ∈ found.2 := by simp [behind]
        obtain ⟨rest, back, whole, closed⟩ := List.eq_append_cons_of_mem brace
        refine absurd ?_ (absent earlier ⟨found.1, header, rest⟩ back ⟨written, closed⟩)
        rw [same, split, whole]
        simp [text]
    · intro bare front name header inside written same
      exact absurd same (headers_nil_absent bare.2 front name header inside written)
  | next written leftmost _ ih =>
    rw [braced_block written (gap_silent leftmost written), ih, List.forall_mem_cons, and_assoc]

theorem headersOf_length (hits : List (Text × Declaration)) : (hits.flatMap headersOf).length =
    hits.length + (hits.flatMap fun hit => headers hit.2.rest).length := by
  induction hits with
  | nil => rfl
  | cons hit hits ih =>
    simp only [List.flatMap_cons, List.length_append, List.length_cons, ih, headersOf]
    omega

theorem headersOf_exact {hits : List (Text × Declaration)} {more : List Text} :
    hits.map (·.2.name) = hits.flatMap headersOf ++ more ↔
      (∀ hit ∈ hits, headers hit.2.rest = []) ∧ more = [] := by
  constructor
  · intro same
    have lengths := congrArg List.length same
    rw [List.length_map, List.length_append, headersOf_length] at lengths
    have bare : (hits.flatMap fun hit => headers hit.2.rest) = [] :=
      List.length_eq_zero_iff.mp (by omega)
    exact ⟨List.flatMap_eq_nil_iff.mp bare, List.length_eq_zero_iff.mp (by omega)⟩
  · intro parts
    obtain ⟨bare, rfl⟩ := parts
    have single : ∀ hit ∈ hits, headersOf hit = [hit.2.name] := fun hit member => by
      rw [headersOf, bare hit member]
    rw [List.flatMap_congr single, List.append_nil, List.map_eq_flatMap]

end Declaration

namespace Edit

theorem headers_placed {source tail : Text} {edits : List Edit}
    (placed : Declaration.Successive source (edits.map place) tail) :
    Declaration.headers source =
      (edits.map place).flatMap Declaration.headersOf ++ Declaration.headers tail ∧
    ∀ earlier edit later, edits = earlier ++ edit :: later →
      (Declaration.headers (earlier.flatMap Edit.source ++ edit.source)).getLast? =
        some ((Declaration.headers edit.declaration.rest).getLast?.getD edit.declaration.name) := by
  have written := Declaration.successive_written placed
  have silent := Declaration.successive_silent placed
  refine ⟨?_, ?_⟩
  · rw [Declaration.successive_whole placed, Declaration.headers_hits written silent]
  · intro earlier edit later split
    have among : ∀ hit ∈ (earlier ++ [edit]).map place, hit ∈ edits.map place := by
      intro hit member
      rw [split, List.append_cons, List.map_append]
      exact List.mem_append_left _ member
    have front : earlier.flatMap Edit.source ++ edit.source =
        (((earlier ++ [edit]).map place).flatMap fun hit => hit.1 ++ hit.2.text) ++ [] := by
      rw [List.flatMap_map, List.append_nil, List.flatMap_append, List.flatMap_singleton]
      rfl
    rw [front, Declaration.headers_hits (fun hit member => written hit (among hit member))
      fun hit member => silent hit (among hit member)]
    simp [Declaration.headersOf, Declaration.headers, place, List.getLast?_append,
      List.getLast?_cons]

theorem body_calls (edit : Edit) :
    ∃ arguments, edit.body = ['\n'] ++ edit.indent ++ "    // Safety: forwarded to caller\n".toList ++
      edit.indent ++ "    unsafe \x7b ((*self.handle.as_ptr()).".toList ++ edit.signature.name ++
        ")(".toList ++ arguments := by
  refine ⟨edit.signature.arguments ++ ") \x7d".toList, ?_⟩
  have comment : "    // Safety: forwarded to caller\n".toList =
      "    ".toList ++ "// Safety: forwarded to caller\n".toList := by decide
  have block : "    unsafe \x7b ((*self.handle.as_ptr()).".toList =
      "    ".toList ++ "unsafe \x7b ((*self.handle.as_ptr()).".toList := by decide
  rw [comment, block]
  unfold body Signature.forwardingBody
  simp only [List.append_assoc]

end Edit

namespace WrappedSource

-- A declaration takes the headers up to its brace with it. So there is a signature for each
-- header exactly where a brace opens behind every one before the next begins.
theorem headers_forwarded_exact [PatternEngine] {type text : Text} {wrapped : WrappedSource}
    (accepted : (ofText type text).result = .ok wrapped) :
    ∃ (edits : List Edit) (tail : Text),
      Declaration.Successive text (edits.map Edit.place) tail ∧
      text = edits.flatMap Edit.source ++ tail ∧
      wrapped.text = edits.flatMap Edit.result ++ tail ∧
      wrapped.signatures = edits.map Edit.signature ∧
      (∀ edit ∈ edits, edit.signature.name = edit.declaration.name ∧
        (∃ left, edit.declaration.Shortened left ∧
          edit.result = edit.gap ++ left.text ++ edit.body) ∧
        ∃ arguments, edit.body = ['\n'] ++ edit.indent ++
          "    // Safety: forwarded to caller\n".toList ++ edit.indent ++
          "    unsafe \x7b ((*self.handle.as_ptr()).".toList ++ edit.signature.name ++
          ")(".toList ++ arguments) ∧
      Declaration.headers text =
        edits.flatMap (fun edit =>
          edit.declaration.name :: Declaration.headers edit.declaration.rest) ++
        Declaration.headers tail ∧
      (∀ earlier edit later, edits = earlier ++ edit :: later →
        (Declaration.headers (earlier.flatMap Edit.source ++ edit.source)).getLast? =
          some ((Declaration.headers edit.declaration.rest).getLast?.getD edit.declaration.name)) ∧
      (wrapped.signatures.map (·.name) = Declaration.headers text ↔ Declaration.Braced text) ∧
      (Declaration.Braced text → ∀ earlier edit later, edits = earlier ++ edit :: later →
        (Declaration.headers (earlier.flatMap Edit.source ++ edit.source)).getLast? =
          some edit.signature.name) := by
  have placed := Declaration.sweep_successive text
  have written := Declaration.successive_written placed
  obtain ⟨edits, places, result, signatures, sounds⟩ := wrap_exact written (ofText_exact.mp accepted).2
  rw [← places] at placed written
  have formed : ∀ edit ∈ edits, edit.declaration.WellFormed := fun edit member =>
    written edit.place (List.mem_map_of_mem member)
  have sound : ∀ edit ∈ edits, ∃ front, edit.Sound type front := by
    intro edit member
    obtain ⟨earlier, later, split⟩ := List.append_of_mem member
    exact ⟨_, sounds earlier edit later split⟩
  have named : ∀ edit ∈ edits, edit.signature.name = edit.declaration.name := by
    intro edit member
    obtain ⟨_, sound⟩ := sound edit member
    exact (Signature.ofBlock_names (formed edit member) sound.parsed).1
  have whole := Declaration.successive_whole placed
  rw [List.flatMap_map] at whole
  obtain ⟨headers, last⟩ := Edit.headers_placed placed
  have names : wrapped.signatures.map (·.name) = (edits.map Edit.place).map (·.2.name) := by
    rw [signatures, List.map_map, List.map_map]
    exact List.map_congr_left named
  refine ⟨edits, _, placed, whole, result, signatures, ?_, ?_, last, ?_, ?_⟩
  · intro edit member
    obtain ⟨_, sound⟩ := sound edit member
    obtain ⟨left, shortened, same⟩ := Edit.shortened sound
    exact ⟨named edit member, ⟨left, shortened, by rw [same]; rfl⟩, edit.body_calls⟩
  · rw [headers, List.flatMap_map]
    rfl
  · rw [names, headers, Declaration.headersOf_exact, Declaration.braced_exact placed]
  · intro braced earlier edit later split
    have member : edit ∈ edits := by simp [split]
    have bare : Declaration.headers edit.declaration.rest = [] :=
      ((Declaration.braced_exact placed).mp braced).1 _ (List.mem_map_of_mem member)
    rw [last earlier edit later split, named edit member, bare]
    rfl

attribute [local instance] PatternEngine.standard

theorem declarations_forwarded :
    ∃ wrapped, (ofText "H".toList ("unsafe fn a(ph: *mut H) \x7b\n\x7d\n".toList ++
        "unsafe fn b(ph: *mut H) \x7b\n\x7d\n".toList)).result = .ok wrapped ∧
      wrapped.signatures.map (·.name) = ["a".toList, "b".toList] ∧
      Declaration.Braced ("unsafe fn a(ph: *mut H) \x7b\n\x7d\n".toList ++
        "unsafe fn b(ph: *mut H) \x7b\n\x7d\n".toList) := by
  have given : (ofText "H".toList ("unsafe fn a(ph: *mut H) \x7b\n\x7d\n".toList ++
      "unsafe fn b(ph: *mut H) \x7b\n\x7d\n".toList)).result.toOption.map
        (fun wrapped => wrapped.signatures.map (·.name)) = some ["a".toList, "b".toList] := by
    decide +kernel
  have both : Declaration.headers ("unsafe fn a(ph: *mut H) \x7b\n\x7d\n".toList ++
      "unsafe fn b(ph: *mut H) \x7b\n\x7d\n".toList) = ["a".toList, "b".toList] := by
    decide +kernel
  obtain ⟨wrapped, read, names⟩ := Option.map_eq_some_iff.mp given
  have accepted := toOption_exact.mp read
  obtain ⟨-, -, -, -, -, -, -, -, -, braced, -⟩ := headers_forwarded_exact accepted
  exact ⟨wrapped, accepted, names, braced.mp (names.trans both.symm)⟩

-- A declaration that ends without a body takes the next one's brace.
theorem bodiless_swallows :
    Declaration.headers ("unsafe fn a(ph: *mut H);\n".toList ++
        "unsafe fn b(ph: *mut H) \x7b\n\x7d\n".toList) = ["a".toList, "b".toList] ∧
      ∃ wrapped, (ofText "H".toList ("unsafe fn a(ph: *mut H);\n".toList ++
          "unsafe fn b(ph: *mut H) \x7b\n\x7d\n".toList)).result = .ok wrapped ∧
        wrapped.signatures.map (·.name) = ["a".toList] ∧
        wrapped.text = "unsafe fn a();\nunsafe fn b(ph: *mut H) \x7b\n".toList ++
          "    // Safety: forwarded to caller\n".toList ++
          "    unsafe \x7b ((*self.handle.as_ptr()).a)(self.handle.as_ptr()) \x7d\n\x7d\n".toList := by
  have given : (ofText "H".toList ("unsafe fn a(ph: *mut H);\n".toList ++
      "unsafe fn b(ph: *mut H) \x7b\n\x7d\n".toList)).result.toOption.map
        (fun wrapped => (wrapped.signatures.map (·.name), wrapped.text)) = some (["a".toList],
      "unsafe fn a();\nunsafe fn b(ph: *mut H) \x7b\n".toList ++
        "    // Safety: forwarded to caller\n".toList ++
        "    unsafe \x7b ((*self.handle.as_ptr()).a)(self.handle.as_ptr()) \x7d\n\x7d\n".toList) := by
    decide +kernel
  obtain ⟨wrapped, read, same⟩ := Option.map_eq_some_iff.mp given
  obtain ⟨names, result⟩ := Prod.mk.inj same
  exact ⟨by decide +kernel, wrapped, toOption_exact.mp read, names, result⟩

end WrappedSource
end PluginBindings
