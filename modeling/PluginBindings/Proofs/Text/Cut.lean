import PluginBindings.Text.Basic

namespace PluginBindings
namespace Text

theorem cutAt?_exact {text front back : Text} :
    cutAt? c text = some (front, back) ↔ text = front ++ c :: back ∧ c ∉ front := by
  induction text generalizing front with
  | nil => simp [cutAt?]
  | cons d text ih =>
    by_cases here : d = c
    · subst here
      simp only [cutAt?, beq_self_eq_true, if_true, Option.some.injEq, Prod.mk.injEq]
      constructor
      · intro parts
        obtain ⟨rfl, rfl⟩ := parts
        simp
      · intro parts
        obtain ⟨same, absent⟩ := parts
        cases front with
        | nil => simpa using same
        | cons e front => cases same; simp at absent
    · have differs : (d == c) = false := by simpa using here
      simp only [cutAt?, differs, Bool.false_eq_true, if_false, Option.map_eq_some_iff]
      constructor
      · intro found
        obtain ⟨⟨front', back'⟩, cut, same⟩ := found
        cases same
        obtain ⟨rfl, absent⟩ := ih.mp cut
        exact ⟨rfl, by simp [absent, Ne.symm here]⟩
      · intro parts
        obtain ⟨same, absent⟩ := parts
        cases front with
        | nil => cases same; exact absurd rfl here
        | cons e front =>
          obtain ⟨rfl, rfl⟩ := List.cons.inj same
          exact ⟨(front, back), ih.mpr ⟨rfl, fun member => absent (by simp [member])⟩, rfl⟩

theorem cutAt?_none_exact {text : Text} : cutAt? c text = none ↔ c ∉ text := by
  induction text with
  | nil => simp [cutAt?]
  | cons d text ih =>
    by_cases here : d = c
    · simp [cutAt?, here]
    · simp [cutAt?, here, ih, Ne.symm here]

theorem cutAtLast?_exact {text front back : Text} :
    cutAtLast? c text = some (front, back) ↔ text = front ++ c :: back ∧ c ∉ back := by
  simp only [cutAtLast?, Option.map_eq_some_iff]
  constructor
  · intro found
    obtain ⟨⟨later, earlier⟩, cut, same⟩ := found
    cases same
    obtain ⟨reversed, absent⟩ := cutAt?_exact.mp cut
    refine ⟨?_, by simpa using absent⟩
    rw [← List.reverse_reverse text, reversed]
    simp
  · intro parts
    obtain ⟨rfl, absent⟩ := parts
    refine ⟨(back.reverse, front.reverse), cutAt?_exact.mpr ⟨by simp, by simpa using absent⟩, ?_⟩
    simp

theorem cut_unique {front back front' back' : Text}
    (same : front ++ c :: back = front' ++ c :: back')
    (absent : c ∉ front) (absent' : c ∉ front') : front = front' ∧ back = back' := by
  have cut : cutAt? c (front ++ c :: back) = some (front, back) := cutAt?_exact.mpr ⟨rfl, absent⟩
  rw [same, cutAt?_exact.mpr ⟨rfl, absent'⟩] at cut
  cases cut
  exact ⟨rfl, rfl⟩

theorem append_last {front earlier later : Text} (same : front ++ [c] = earlier ++ later)
    (nonempty : later ≠ []) : ∃ inside, later = inside ++ [c] ∧ front = earlier ++ inside := by
  rcases List.eq_nil_or_concat later with rfl | ⟨inside, d, rfl⟩
  · exact absurd rfl nonempty
  · have same : front ++ [c] = (earlier ++ inside) ++ [d] := by simpa using same
    have last : c = d := by simpa using List.append_inj_right' same rfl
    exact ⟨inside, by simp [last], List.append_inj_left' same rfl⟩

theorem pieces_cons (separates : Char → Bool) (c : Char) (text : Text) :
    ∃ first others, pieces separates text = first :: others ∧ pieces separates (c :: text) =
      if separates c then [] :: first :: others else (c :: first) :: others := by
  induction text generalizing c with
  | nil => exact ⟨[], [], rfl, rfl⟩
  | cons d text ih =>
    obtain ⟨first, others, -, parted⟩ := ih d
    by_cases apart : separates d = true
    · rw [if_pos apart] at parted
      exact ⟨_, _, parted, by rw [pieces, parted]⟩
    · rw [if_neg apart] at parted
      exact ⟨_, _, parted, by rw [pieces, parted]⟩

theorem pieces_apart {front back : Text} (apart : separates c = true) :
    pieces separates (front ++ c :: back) = pieces separates front ++ pieces separates back := by
  induction front with
  | nil =>
    obtain ⟨first, others, found, parted⟩ := pieces_cons separates c back
    rw [List.nil_append, parted, if_pos apart, found]
    rfl
  | cons d front ih =>
    obtain ⟨first, others, found, parted⟩ := pieces_cons separates d front
    rw [parted, List.cons_append, pieces, ih, found]
    by_cases here : separates d = true
    · simp [here]
    · simp [here]

theorem pieces_joined {run rest : Text} (joined : ∀ c ∈ run, separates c = false) :
    pieces separates (run ++ rest) = (pieces separates rest).modifyHead (run ++ ·) := by
  induction run with
  | nil => cases behind : pieces separates rest <;> simp [behind]
  | cons c run ih =>
    obtain ⟨first, others, found, parted⟩ := pieces_cons separates c (run ++ rest)
    have here : ¬ separates c = true := by simp [joined c (by simp)]
    rw [List.cons_append, parted, if_neg here]
    rw [ih fun d member => joined d (by simp [member])] at found
    cases behind : pieces separates rest with
    | nil => simp [behind] at found
    | cons piece more =>
      rw [behind, List.modifyHead_cons] at found
      obtain ⟨rfl, rfl⟩ := List.cons.inj found
      rfl

theorem pieces_single {text : Text} (joined : ∀ c ∈ text, separates c = false) :
    pieces separates text = [text] := by
  rw [← List.append_nil text, pieces_joined joined, pieces, List.modifyHead_cons]

theorem pieces_concat (text : Text) (joined : separates c = false) :
    ∃ front last, pieces separates (text ++ [c]) = front ++ [last ++ [c]] := by
  induction text with
  | nil =>
    refine ⟨[], [], ?_⟩
    exact pieces_single (by simpa using joined)
  | cons d text ih =>
    obtain ⟨front, last, found⟩ := ih
    obtain ⟨first, others, rest, parted⟩ := pieces_cons separates d (text ++ [c])
    rw [rest] at found
    rw [List.cons_append, parted]
    by_cases apart : separates d = true
    · rw [if_pos apart]
      exact ⟨[] :: front, last, by rw [found]; rfl⟩
    · rw [if_neg apart]
      cases front with
      | nil =>
        obtain ⟨rfl, rfl⟩ := List.cons.inj found
        exact ⟨[], d :: last, rfl⟩
      | cons head front =>
        obtain ⟨rfl, rfl⟩ := List.cons.inj found
        exact ⟨(d :: first) :: front, last, rfl⟩

theorem pieces_subset {text piece : Text} (member : piece ∈ pieces separates text) :
    piece ⊆ text := by
  induction text generalizing piece with
  | nil =>
    have empty : piece = [] := by simpa [pieces] using member
    simp [empty]
  | cons c rest ih =>
    unfold pieces at member
    cases found : pieces separates rest with
    | nil => simp [found] at member
    | cons first others =>
      have inside : ∀ later ∈ first :: others, later ⊆ c :: rest := fun later among =>
        List.subset_cons_of_subset c (ih (found ▸ among))
      rw [found] at member
      dsimp only at member
      split at member
      · rcases List.mem_cons.mp member with rfl | later
        · simp
        · exact inside piece later
      · rcases List.mem_cons.mp member with rfl | later
        · exact List.cons_subset_cons c (ih (by simp [found]))
        · exact inside piece (by simp [later])

theorem pieces_cover {text : Text} (member : c ∈ text) (joined : separates c = false) :
    ∃ piece ∈ pieces separates text, c ∈ piece := by
  induction text with
  | nil => cases member
  | cons d text ih =>
    obtain ⟨first, others, found, parted⟩ := pieces_cons separates d text
    rw [parted]
    split
    · rename_i apart
      rcases List.mem_cons.mp member with rfl | later
      · rw [joined] at apart
        cases apart
      · obtain ⟨piece, among, inside⟩ := ih later
        exact ⟨piece, List.mem_cons_of_mem _ (found ▸ among), inside⟩
    · rcases List.mem_cons.mp member with rfl | later
      · exact ⟨c :: first, List.mem_cons_self, List.mem_cons_self⟩
      · obtain ⟨piece, among, inside⟩ := ih later
        rw [found] at among
        rcases List.mem_cons.mp among with rfl | among
        · exact ⟨d :: piece, List.mem_cons_self, List.mem_cons_of_mem d inside⟩
        · exact ⟨piece, List.mem_cons_of_mem _ among, inside⟩

theorem pieces_whole {text piece : Text} (member : piece ∈ pieces separates text) :
    ∀ c ∈ piece, separates c = false := by
  induction text generalizing piece with
  | nil =>
    have empty : piece = [] := by simpa [pieces] using member
    simp [empty]
  | cons d text ih =>
    obtain ⟨first, others, found, parted⟩ := pieces_cons separates d text
    have whole : ∀ later ∈ first :: others, ∀ c ∈ later, separates c = false :=
      fun later among => ih (found ▸ among)
    rw [parted] at member
    split at member
    · rcases List.mem_cons.mp member with rfl | later
      · simp
      · exact whole piece later
    · rename_i joined
      rcases List.mem_cons.mp member with rfl | later
      · exact List.forall_mem_cons.mpr ⟨by simpa using joined, whole first List.mem_cons_self⟩
      · exact whole piece (List.mem_cons_of_mem first later)

end Text
end PluginBindings
