import PluginBindings.Proofs.Text.Cut
import PluginBindings.Text.TitleCase

namespace PluginBindings
namespace Text

-- No letter has one of these signs in its other case.
def isLow (c : Char) : Bool := 0 < c.toNat && c.toNat < 65

theorem high_lacks {text : Text} (low : isLow sign = true) (high : text.any isLow = false) :
    sign ∉ text := by
  intro member
  exact List.any_eq_false.mp high sign member low

theorem low_bounds (low : isLow sign = true) : 0 < sign.toNat ∧ sign.toNat < 65 := by
  simpa [isLow] using low

theorem ofNat_low (low : isLow sign = true) (same : Char.ofNat point = sign) :
    point = sign.toNat := by
  by_cases valid : point.isValidChar
  · rw [Char.ofNat, dif_pos valid] at same
    exact congrArg Char.toNat same
  · rw [Char.ofNat, dif_neg valid] at same
    subst same
    cases low

theorem mapPoint_low {runs : List Unicode.CaseRun} (above : ∀ run ∈ runs, 65 ≤ run.target)
    (below : Unicode.mapPoint runs point < 65) : Unicode.mapPoint runs point = point := by
  unfold Unicode.mapPoint at below ⊢
  split at below
  · rename_i run found
    have target := above run (List.mem_of_find?_eq_some found)
    omega
  · rfl

theorem mapped_lacks {runs : List Unicode.CaseRun} (above : ∀ run ∈ runs, 65 ≤ run.target)
    (low : isLow sign = true) (other : c ≠ sign) :
    sign ∉ [Char.ofNat (Unicode.mapPoint runs c.toNat)] := by
  intro member
  have point := ofNat_low low (List.mem_singleton.mp member).symm
  have below := (low_bounds low).2
  rw [← point] at below
  rw [mapPoint_low above below] at point
  exact other (Char.toNat_inj.mp point)

theorem upperCase_lacks (low : isLow sign = true) (other : c ≠ sign) : sign ∉ upperCase c := by
  have expansions : ∀ row ∈ Unicode.upperExpansions, ∀ point ∈ row.2, 65 ≤ point := by
    decide +kernel
  have runs : ∀ run ∈ Unicode.upperRuns, 65 ≤ run.target := by decide +kernel
  unfold upperCase
  split
  · rename_i points found
    intro member
    obtain ⟨point, among, same⟩ := List.mem_map.mp member
    obtain ⟨_, _, rows, -⟩ := List.lookup_eq_some_iff.mp found
    have high := expansions (c.toNat, points) (by simp [rows]) point among
    rw [ofNat_low low same] at high
    exact absurd (low_bounds low).2 (Nat.not_lt.mpr high)
  · exact mapped_lacks runs low other

theorem lowerCase_lacks (low : isLow sign = true) (other : c ≠ sign) : sign ∉ lowerCase c := by
  have runs : ∀ run ∈ Unicode.lowerRuns, 65 ≤ run.target := by decide +kernel
  unfold lowerCase
  split
  · exact high_lacks low (by decide)
  · exact mapped_lacks runs low other

theorem lowerCaseAfter_lacks (low : isLow sign = true) (absent : sign ∉ text) :
    sign ∉ lowerCaseAfter seen text := by
  induction text generalizing seen with
  | nil => exact List.not_mem_nil
  | cons c rest ih =>
    obtain ⟨here, later⟩ := List.ne_and_not_mem_of_not_mem_cons absent
    simp only [lowerCaseAfter, List.mem_append, not_or]
    refine ⟨?_, ih later⟩
    split
    · apply high_lacks low
      split <;> decide
    · exact lowerCase_lacks low (Ne.symm here)

theorem titleCase_lacks (low : isLow sign = true) (absent : sign ∉ word) :
    sign ∉ titleCase word := by
  cases word with
  | nil => exact List.not_mem_nil
  | cons c rest =>
    obtain ⟨here, later⟩ := List.ne_and_not_mem_of_not_mem_cons absent
    simp only [titleCase, List.mem_append, not_or]
    exact ⟨upperCase_lacks low (Ne.symm here), lowerCaseAfter_lacks low later⟩

theorem joinTitleCase_lacks {words : List Text} (low : isLow sign = true)
    (absent : ∀ word ∈ words, sign ∉ word) : sign ∉ joinTitleCase words := by
  intro member
  obtain ⟨word, among, inside⟩ := List.mem_flatMap.mp member
  exact titleCase_lacks low (absent word among) inside

theorem pascalCase_lacks (low : isLow sign = true) (absent : sign ∉ name) :
    sign ∉ toPascalCase name :=
  joinTitleCase_lacks low fun _ among inside => absent (pieces_subset among inside)

theorem identifier_lacks (low : isLow sign = true) (absent : sign ∉ name) :
    sign ∉ toIdentifier name :=
  joinTitleCase_lacks low fun _ among inside => absent (pieces_subset among inside)

-- What is no part of a word never comes into an identifier, whatever the name is.
theorem identifier_words (low : isLow sign = true) (apart : isWord sign = false) (name : Text) :
    sign ∉ toIdentifier name := by
  apply joinTitleCase_lacks low
  intro piece among inside
  have joined := pieces_whole among sign inside
  rw [apart] at joined
  cases joined

end Text
end PluginBindings
