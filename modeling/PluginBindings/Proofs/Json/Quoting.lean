import PluginBindings.Proofs.Json.Strings

namespace PluginBindings

def Text.SingleLine (text : Text) : Prop := ∀ c ∈ text, 0x20 ≤ c.toNat

namespace Json

-- Whatever a string stands for and however it is written, its text has no control in it.

theorem hexDigit_above (written : HexDigit digit value) : 0x20 ≤ digit.toNat := by
  have signs : ∀ n < 16, 0x20 ≤ (Nat.digitChar n).toNat ∧
      0x20 ≤ (Nat.digitChar n).toUpper.toNat := by decide
  obtain ⟨small, rfl | rfl⟩ := written
  · exact (signs value small).1
  · exact (signs value small).2

theorem codeUnit_singleLine (written : CodeUnit digits n) : Text.SingleLine digits := by
  obtain ⟨first, second, third, fourth⟩ := written
  simp only [Text.SingleLine, List.forall_mem_cons]
  exact ⟨hexDigit_above first, hexDigit_above second, hexDigit_above third, hexDigit_above fourth,
    List.forall_mem_nil _⟩

theorem unit_singleLine (written : CodeUnit digits n) :
    Text.SingleLine ('\\' :: 'u' :: digits) := by
  refine List.forall_mem_cons.mpr ⟨by decide, List.forall_mem_cons.mpr ⟨by decide, ?_⟩⟩
  exact codeUnit_singleLine written

theorem spelling_singleLine (spelling : Spelling part c) : Text.SingleLine part := by
  cases spelling with
  | plain quote escape above => exact List.forall_mem_singleton.mpr above
  | @short sign c listed =>
    have signs : ∀ row ∈ shortEscapes, 0x20 ≤ row.1.toNat := by decide
    exact List.forall_mem_cons.mpr ⟨by decide, List.forall_mem_singleton.mpr (signs _ listed)⟩
  | unit written whole => exact unit_singleLine written
  | pair high low first second =>
    exact List.forall_mem_append.mpr ⟨unit_singleLine high, unit_singleLine low⟩

theorem spells_singleLine (spells : Spells written text) : Text.SingleLine written := by
  induction spells with
  | nil => exact List.forall_mem_nil _
  | cons first later ih => exact List.forall_mem_append.mpr ⟨spelling_singleLine first, ih⟩

theorem quote_singleLine (text : Text) : Text.SingleLine (quote text) := by
  refine List.forall_mem_append.mpr ⟨?_, List.forall_mem_singleton.mpr (by decide)⟩
  exact List.forall_mem_cons.mpr ⟨by decide, spells_singleLine (quote_spells text)⟩

theorem reads_unique {read : Read α} (taken : Reads read source value rest)
    (taken' : Reads read source value' rest') : value = value' ∧ rest = rest' := by
  obtain ⟨after, there, result⟩ := taken (.start source) rfl
  obtain ⟨after', there', result'⟩ := taken' (.start source) rfl
  cases result.symm.trans result'
  exact ⟨rfl, there.symm.trans there'⟩

theorem quote_behind (text rest : Text) :
    quote text ++ rest = '"' :: (text.flatMap escape ++ '"' :: rest) := by
  simp [quote]

-- A quoted text ends at its own quote, and what is read up to there is the text.
theorem quote_unique (same : quote text ++ rest = quote other ++ rest') :
    text = other ∧ rest = rest' := by
  rw [quote_behind, quote_behind] at same
  have read := reads_string (quote_spells text) rest
  rw [(List.cons.inj same).2] at read
  exact reads_unique read (reads_string (quote_spells other) rest')

end Json
end PluginBindings
