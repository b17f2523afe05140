import PluginBindings.Json.Quoted
import PluginBindings.Json.String
import PluginBindings.Proofs.Json.Reads

namespace PluginBindings
namespace Json

theorem hexDigit_value (written : HexDigit digit value) : Read.hexValue? digit = some value := by
  have values : ∀ n < 16, Read.hexValue? (Nat.digitChar n) = some n ∧
      Read.hexValue? (Nat.digitChar n).toUpper = some n := by decide
  obtain ⟨small, rfl | rfl⟩ := written
  · exact (values value small).1
  · exact (values value small).2

theorem hexDigit_byte (written : HexDigit digit value) : digit ≠ '\n' ∧ digit.utf8Size = 1 := by
  have bytes : ∀ n < 16, (Nat.digitChar n ≠ '\n' ∧ (Nat.digitChar n).utf8Size = 1) ∧
      (Nat.digitChar n).toUpper ≠ '\n' ∧ (Nat.digitChar n).toUpper.utf8Size = 1 := by decide
  obtain ⟨small, rfl | rfl⟩ := written
  · exact (bytes value small).1
  · exact (bytes value small).2

theorem pastBytes_rest {front : Text} (bytes : ∀ c ∈ front, c ≠ '\n' ∧ c.utf8Size = 1)
    (rest : Text) (line column : Nat) :
    (Cursor.pastBytesFrom line column front.length (front ++ rest)).rest = rest := by
  induction front generalizing column with
  | nil => cases rest <;> rfl
  | cons c front ih =>
    obtain ⟨⟨inline, single⟩, later⟩ := List.forall_mem_cons.mp bytes
    simpa [Cursor.pastBytesFrom, inline, single] using ih later (column + 1)

theorem codeUnit_digits (written : CodeUnit digits n) : Read.hexNumber? digits = some n ∧
    digits.length = 4 ∧ ∀ c ∈ digits, c ≠ '\n' ∧ c.utf8Size = 1 := by
  obtain ⟨first, second, third, fourth⟩ := written
  refine ⟨?_, rfl, ?_⟩
  · simp only [Read.hexNumber?, List.foldlM_cons, List.foldlM_nil, hexDigit_value first,
      hexDigit_value second, hexDigit_value third, hexDigit_value fourth, Option.map_some,
      Option.bind_eq_bind, Option.bind_some]
    simp [Nat.mul_comm]
  · simp only [List.forall_mem_cons]
    exact ⟨hexDigit_byte first, hexDigit_byte second, hexDigit_byte third, hexDigit_byte fourth,
      by simp⟩

theorem reads_hexEscape (written : CodeUnit digits n) (rest : Text) :
    Reads Read.hexEscape (digits ++ rest) n rest := by
  obtain ⟨value, four, bytes⟩ := codeUnit_digits written
  intro cursor here
  refine ⟨cursor.pastBytes 4, ?_, ?_⟩
  · rw [Cursor.pastBytes, here, ← four]
    exact pastBytes_rest bytes rest _ _
  · have taken : (digits ++ rest).take 4 = digits := by rw [← four, List.take_left]
    have enough : ¬ (digits ++ rest).length < 4 := by
      rw [List.length_append]
      omega
    rw [Read.hexEscape, here, taken, value]
    dsimp only
    rw [if_neg enough]

theorem reads_pairHalf (c : Char) (rest : Text) : Reads (Read.pairHalf c) (c :: rest) () rest := by
  apply reads_looking
  rw [List.head?_cons]
  dsimp only
  rw [if_pos (beq_self_eq_true c)]
  exact reads_skip c rest

theorem reads_unit (written : CodeUnit digits n) (whole : n < 0xD800 ∨ 0xDFFF < n) (rest : Text) :
    Reads Read.unicodeEscape (digits ++ rest) (Char.ofNat n) rest := by
  have low : Read.isLowSurrogate n = false := by
    simp only [Read.isLowSurrogate, Bool.and_eq_false_iff, decide_eq_false_iff_not]
    omega
  have high : Read.isHighSurrogate n = false := by
    simp only [Read.isHighSurrogate, Bool.and_eq_false_iff, decide_eq_false_iff_not]
    omega
  refine reads_bind (reads_hexEscape written rest) ?_
  simp only [low, high, Bool.false_eq_true, if_false]
  exact reads_pure _ rest

theorem reads_pair (high : CodeUnit digits n) (low : CodeUnit digits' m)
    (first : 0xD800 ≤ n ∧ n ≤ 0xDBFF) (second : 0xDC00 ≤ m ∧ m ≤ 0xDFFF) (rest : Text) :
    Reads Read.unicodeEscape (digits ++ '\\' :: 'u' :: digits' ++ rest)
      (Char.ofNat ((n - 0xD800) * 0x400 + (m - 0xDC00) + 0x10000)) rest := by
  have upper : Read.isHighSurrogate n = true ∧ Read.isLowSurrogate n = false := by
    simp only [Read.isHighSurrogate, Read.isLowSurrogate, Bool.and_eq_true, decide_eq_true_eq,
      Bool.and_eq_false_iff, decide_eq_false_iff_not]
    omega
  have lower : Read.isLowSurrogate m = true := by
    simp only [Read.isLowSurrogate, Bool.and_eq_true, decide_eq_true_eq]
    omega
  rw [List.append_assoc]
  refine reads_bind (reads_hexEscape high _) ?_
  simp only [upper, Bool.false_eq_true, if_false, if_true]
  refine reads_bind (reads_pairHalf '\\' _) (reads_bind (reads_pairHalf 'u' _) ?_)
  refine reads_bind (reads_hexEscape low rest) ?_
  simp only [lower, if_true]
  exact reads_pure _ rest

theorem reads_shortEscape (listed : (sign, c) ∈ shortEscapes) (simple : Char → α)
    (unicode : Read α) (rest : Text) :
    Reads (Read.escape simple unicode) (sign :: rest) (simple c) rest := by
  have signs : ∀ row ∈ shortEscapes, (row.1 == 'u') = false ∧ Read.simpleEscape? row.1 = some row.2 := by
    decide
  obtain ⟨other, plain⟩ := signs _ listed
  apply reads_looking
  rw [List.head?_cons]
  dsimp only at other plain ⊢
  rw [other, plain]
  exact reads_skipping (reads_pure _ rest)

theorem reads_longEscape {unicode : Read α} (simple : Char → α)
    (read : Reads unicode source value rest) :
    Reads (Read.escape simple unicode) ('u' :: source) value rest := by
  apply reads_looking
  exact reads_skipping read

theorem spelling_read (spelling : Spelling part c) : (part = [c] ∧ Read.isPlain c = true) ∨
    ∃ tail, part = '\\' :: tail ∧ ∀ rest, Reads (Read.escape id Read.unicodeEscape) (tail ++ rest) c rest := by
  cases spelling with
  | plain quote escape above => exact .inl ⟨rfl, by simp [Read.isPlain, quote, escape, above]⟩
  | short listed => exact .inr ⟨_, rfl, fun rest => reads_shortEscape listed id _ rest⟩
  | unit written whole =>
    exact .inr ⟨_, rfl, fun rest => reads_longEscape id (reads_unit written whole rest)⟩
  | pair high low first second =>
    exact .inr ⟨_, rfl, fun rest => reads_longEscape id (reads_pair high low first second rest)⟩

theorem piece_read (piece : Piece part) : (∃ c, part = [c] ∧ Read.isPlain c = true) ∨
    ∃ tail, part = '\\' :: tail ∧ ∀ rest,
      Reads (Read.escape (fun _ => ()) (do let _ ← Read.hexEscape)) (tail ++ rest) () rest := by
  cases piece with
  | plain quote escape above => exact .inl ⟨_, rfl, by simp [Read.isPlain, quote, escape, above]⟩
  | short listed => exact .inr ⟨_, rfl, fun rest => reads_shortEscape listed _ _ rest⟩
  | unit written =>
    exact .inr ⟨_, rfl, fun rest =>
      reads_longEscape _ (reads_bind (reads_hexEscape written rest) (reads_pure () rest))⟩

theorem quote_stops (rest : Text) : Stops Read.isPlain ('"' :: rest) := stops_cons.mpr (by decide)

theorem escape_stops (rest : Text) : Stops Read.isPlain ('\\' :: rest) := stops_cons.mpr (by decide)

theorem plain_append (plain : ∀ d ∈ run, Read.isPlain d = true) (here : Read.isPlain c = true) :
    ∀ d ∈ run ++ [c], Read.isPlain d = true :=
  List.forall_mem_append.mpr ⟨plain, List.forall_mem_singleton.mpr here⟩

theorem string_closed (plain : ∀ c ∈ run, Read.isPlain c = true) (rounds : Nat) (rest : Text) :
    Reads (Read.stringFrom (rounds + 1)) (run ++ '"' :: rest) run rest :=
  reads_bind (reads_takeWhile plain (quote_stops rest))
    (reads_looking (reads_skipping (reads_pure run rest)))

theorem string_escaped (plain : ∀ c ∈ run, Read.isPlain c = true)
    (escaped : Reads (Read.escape id Read.unicodeEscape) source c middle)
    (later : Reads (Read.stringFrom rounds) middle text rest) :
    Reads (Read.stringFrom (rounds + 1)) (run ++ '\\' :: source) (run ++ c :: text) rest := by
  refine reads_bind (reads_takeWhile plain (escape_stops source)) (reads_looking (reads_skipping ?_))
  exact reads_bind escaped (reads_bind later (reads_pure _ rest))

theorem ignoreString_closed (plain : ∀ c ∈ run, Read.isPlain c = true) (rounds : Nat)
    (rest : Text) :
    Reads (Read.ignoreStringFrom (rounds + 1)) (run ++ '"' :: rest) () rest :=
  reads_bind (reads_takeWhile plain (quote_stops rest)) (reads_looking (reads_skip '"' rest))

theorem ignoreString_escaped (plain : ∀ c ∈ run, Read.isPlain c = true)
    (escaped : Reads (Read.escape (fun _ => ()) (do let _ ← Read.hexEscape)) source () middle)
    (later : Reads (Read.ignoreStringFrom rounds) middle () rest) :
    Reads (Read.ignoreStringFrom (rounds + 1)) (run ++ '\\' :: source) () rest := by
  refine reads_bind (reads_takeWhile plain (escape_stops source)) (reads_looking (reads_skipping ?_))
  exact reads_bind escaped later

-- By induction on the spelling, with the plain characters already passed in front: the reader
-- takes a whole run of them at once and goes round only for an escape.
theorem reads_stringFrom (spells : Spells written text) {run : Text}
    (plain : ∀ c ∈ run, Read.isPlain c = true) (rest : Text) (enough : written.length < rounds) :
    Reads (Read.stringFrom rounds) (run ++ (written ++ '"' :: rest)) (run ++ text) rest := by
  obtain ⟨left, rfl⟩ : ∃ left, rounds = left + 1 := ⟨rounds - 1, by omega⟩
  induction spells generalizing run left with
  | nil =>
    rw [List.append_nil]
    exact string_closed plain left rest
  | @cons part c written text first later ih =>
    rw [List.length_append] at enough
    rcases spelling_read first with ⟨rfl, here⟩ | ⟨tail, rfl, escaped⟩
    · simpa using ih (plain_append plain here) left (by omega)
    · rw [List.length_cons] at enough
      obtain ⟨fewer, rfl⟩ : ∃ fewer, left = fewer + 1 := ⟨left - 1, by omega⟩
      have following := ih (List.forall_mem_nil _) fewer (by omega)
      rw [List.append_assoc, List.cons_append]
      exact string_escaped plain (escaped _) following

theorem reads_string (spells : Spells written text) (rest : Text) :
    Reads Read.string (written ++ '"' :: rest) text rest := by
  refine reads_bind (reads_remaining _) ?_
  apply reads_stringFrom spells (List.forall_mem_nil _)
  rw [List.length_append]
  omega

theorem reads_ignoreStringFrom (body : Body written) {run : Text}
    (plain : ∀ c ∈ run, Read.isPlain c = true) (rest : Text) (enough : written.length < rounds) :
    Reads (Read.ignoreStringFrom rounds) (run ++ (written ++ '"' :: rest)) () rest := by
  obtain ⟨left, rfl⟩ : ∃ left, rounds = left + 1 := ⟨rounds - 1, by omega⟩
  induction body generalizing run left with
  | nil => exact ignoreString_closed plain left rest
  | @cons part written first later ih =>
    rw [List.length_append] at enough
    rcases piece_read first with ⟨c, rfl, here⟩ | ⟨tail, rfl, escaped⟩
    · simpa using ih (plain_append plain here) left (by omega)
    · rw [List.length_cons] at enough
      obtain ⟨fewer, rfl⟩ : ∃ fewer, left = fewer + 1 := ⟨left - 1, by omega⟩
      have following := ih (List.forall_mem_nil _) fewer (by omega)
      rw [List.append_assoc, List.cons_append]
      exact ignoreString_escaped plain (escaped _) following

theorem reads_ignoreString (body : Body written) (rest : Text) :
    Reads Read.ignoreString (written ++ '"' :: rest) () rest := by
  refine reads_bind (reads_remaining _) ?_
  apply reads_ignoreStringFrom body (List.forall_mem_nil _)
  rw [List.length_append]
  omega

theorem hexDigit_written (n : Nat) : HexDigit (hexDigit n) (n % 16) :=
  ⟨Nat.mod_lt n (by decide), .inl rfl⟩

theorem control_spelling {c : Char} (control : c.toNat < 0x20) :
    Spelling ['\\', 'u', '0', '0', hexDigit (c.toNat / 16), hexDigit c.toNat] c := by
  have zero : HexDigit '0' 0 := ⟨by decide, .inl rfl⟩
  have written := CodeUnit.digits zero zero (hexDigit_written (c.toNat / 16)) (hexDigit_written c.toNat)
  have code : ((0 * 16 + 0) * 16 + c.toNat / 16 % 16) * 16 + c.toNat % 16 = c.toNat := by omega
  rw [code] at written
  have spelling := Spelling.unit written (.inl (by omega))
  rwa [Char.ofNat_toNat] at spelling

theorem escape_spelling (c : Char) : Spelling (escape c) c := by
  unfold escape
  split_ifs with quote backslash backspace feed line carriage tab control
  · rw [eq_of_beq quote]
    exact .short (by decide)
  · rw [eq_of_beq backslash]
    exact .short (by decide)
  · rw [eq_of_beq backspace]
    exact .short (by decide)
  · rw [eq_of_beq feed]
    exact .short (by decide)
  · rw [eq_of_beq line]
    exact .short (by decide)
  · rw [eq_of_beq carriage]
    exact .short (by decide)
  · rw [eq_of_beq tab]
    exact .short (by decide)
  · exact control_spelling control
  · exact .plain (by simpa using quote) (by simpa using backslash) (Nat.le_of_not_lt control)

theorem quote_spells (text : Text) : Spells (text.flatMap escape) text := by
  induction text with
  | nil => exact .nil
  | cons c text ih => exact .cons (escape_spelling c) ih

end Json
end PluginBindings
