import PluginBindings.Proofs.Text.Cut
import PluginBindings.Proofs.Text.Scan
import PluginBindings.Text.TitleCase

namespace PluginBindings

def Sweep.gaps (found : Sweep α) : List Text := found.hits.map (·.1) ++ [found.tail]

namespace Text

theorem joinTitleCase_append (words others : List Text) :
    joinTitleCase (words ++ others) = joinTitleCase words ++ joinTitleCase others :=
  List.flatMap_append

theorem joinTitleCase_cons (word : Text) (words : List Text) :
    joinTitleCase (word :: words) = titleCase word ++ joinTitleCase words := rfl

theorem joinTitleCase_single (word : Text) : joinTitleCase [word] = titleCase word := by
  simp [joinTitleCase]

-- A word of no characters has no title case either, so it does not matter who drops it.
theorem joinTitleCase_full (words : List Text) :
    joinTitleCase (words.filter (!·.isEmpty)) = joinTitleCase words := by
  induction words with
  | nil => rfl
  | cons word words ih =>
    cases word with
    | nil => exact ih
    | cons c word => simpa [joinTitleCase] using ih

variable {separates : Char → Bool}

theorem titled_break (here : separates c = true) (front back : Text) :
    joinTitleCase (pieces separates (front ++ c :: back)) =
      joinTitleCase (pieces separates front) ++ joinTitleCase (pieces separates back) := by
  rw [pieces_apart here, joinTitleCase_append]

theorem titled_behind {run : Text} (apart : ∀ c ∈ run, separates c = true) (back : Text) :
    joinTitleCase (pieces separates (run ++ back)) = joinTitleCase (pieces separates back) := by
  induction run with
  | nil => rfl
  | cons c run ih =>
    obtain ⟨here, later⟩ := List.forall_mem_cons.mp apart
    have first := titled_break here [] (run ++ back)
    rw [ih later] at first
    exact first

-- The separators its two sides end or begin with only add pieces of no characters.
theorem titled_apart {run : Text} (full : run ≠ []) (apart : ∀ c ∈ run, separates c = true)
    (front back : Text) :
    joinTitleCase (pieces separates (front ++ run ++ back)) =
      joinTitleCase (pieces separates front) ++ joinTitleCase (pieces separates back) := by
  cases run with
  | nil => exact absurd rfl full
  | cons c run =>
    obtain ⟨here, later⟩ := List.forall_mem_cons.mp apart
    rw [List.append_assoc, List.cons_append, titled_break here, titled_behind later]

theorem titled_whole {word : Text} (joined : ∀ c ∈ word, separates c = false) :
    joinTitleCase (pieces separates word) = titleCase word := by
  rw [pieces_single joined, joinTitleCase_single]

theorem run_advances (accepts : Char → Bool) : Scan.Advances (Scan.span1 accepts) := by
  intro source run rest read
  obtain ⟨rfl, full, -⟩ := Scan.span1_exact.mp read
  have longer := List.length_pos_iff.mpr full
  rw [List.length_append]
  omega

theorem run_stands (text : Text) (here : accepts c = true) :
    Scan.span1 accepts (c :: text) ≠ none := by
  simp [Scan.span1, Scan.span, here]

-- Up to the first run of separators nothing separates, so what stands before it is one word.
theorem gap_whole {text gap run rest : Text}
    (found : Scan.findFirst (Scan.span1 separates) text = some (gap, run, rest)) :
    ∀ c ∈ gap, separates c = false := by
  obtain ⟨source, -, -, silent⟩ := Scan.findFirst_some_exact.mp found
  intro c member
  obtain ⟨earlier, later, rfl⟩ := List.append_of_mem member
  rw [← Bool.not_eq_true]
  intro here
  exact run_stands (later ++ source) here (silent earlier (c :: later) rfl (by simp))

theorem unfound_whole {text : Text} (absent : Scan.findFirst (Scan.span1 separates) text = none) :
    ∀ c ∈ text, separates c = false := by
  intro c member
  obtain ⟨earlier, later, rfl⟩ := List.append_of_mem member
  rw [← Bool.not_eq_true]
  intro here
  exact run_stands later here (Scan.findFirst_none_exact.mp absent earlier (c :: later) rfl)

theorem titled_gaps (separates : Char → Bool) (text : Text) :
    joinTitleCase (sweep (Scan.span1 separates) text).gaps =
      joinTitleCase (pieces separates text) := by
  apply sweep_induction (run_advances separates)
    (motive := fun text hits tail => joinTitleCase (Sweep.mk hits tail).gaps =
      joinTitleCase (pieces separates text))
  · intro text absent
    rw [titled_whole (unfound_whole absent)]
    exact joinTitleCase_single text
  · intro text gap run rest hits tail found later
    obtain ⟨source, rfl, read, -⟩ := Scan.findFirst_some_exact.mp found
    obtain ⟨rfl, full, apart, -⟩ := Scan.span1_exact.mp read
    have parted : (Sweep.mk ((gap, run) :: hits) tail).gaps = gap :: (Sweep.mk hits tail).gaps := rfl
    rw [parted, joinTitleCase_cons, later, ← List.append_assoc, titled_apart full apart,
      titled_whole (gap_whole found)]

inductive Joined (separates : Char → Bool) : List Text → Text → Prop where
  | none : Joined separates [] []
  | last : Joined separates [word] word
  | next (full : gap ≠ []) (apart : ∀ c ∈ gap, separates c = true)
      (later : Joined separates (other :: words) text) :
      Joined separates (word :: other :: words) (word ++ gap ++ text)

theorem join_joined {separates : Char → Bool} (here : separates c = true) (words : List Text) :
    Joined separates words (join [c] words) := by
  induction words with
  | nil => exact .none
  | cons word words ih =>
    cases words with
    | nil =>
      rw [join, List.intercalate_singleton]
      exact .last
    | cons other words =>
      rw [join, List.intercalate_cons_cons]
      exact .next (by simp) (by simpa using here) ih

theorem titled_joined {words : List Text} (joined : Joined separates words text)
    (whole : ∀ word ∈ words, ∀ c ∈ word, separates c = false) :
    joinTitleCase (pieces separates text) = joinTitleCase words := by
  induction joined with
  | none => rfl
  | last => rw [titled_whole (whole _ List.mem_cons_self), joinTitleCase_single]
  | @next gap other words text word full apart later ih =>
    obtain ⟨first, others⟩ := List.forall_mem_cons.mp whole
    rw [titled_apart full apart, titled_whole first, ih others]
    exact (joinTitleCase_cons word (other :: words)).symm

-- Names joined by signs give their identifiers one behind the other, and words give their title
-- cases, whichever of the two joins them.
theorem names_joined :
    (∀ name, toIdentifier name =
      (((sweep (Scan.span1 fun c => !isWord c) name).gaps.filter (!·.isEmpty)).flatMap titleCase)) ∧
    (∀ front signs back : Text, signs ≠ [] → (∀ c ∈ signs, isWord c = false) →
      toIdentifier (front ++ signs ++ back) = toIdentifier front ++ toIdentifier back) ∧
    (∀ front back : Text,
      toPascalCase (front ++ ['_'] ++ back) = toPascalCase front ++ toPascalCase back) ∧
    ∀ (words : List Text) (text : Text), (∀ word ∈ words, ∀ c ∈ word, isWord c = true ∧ c ≠ '_') →
      Joined (fun c => !isWord c) words text →
      toIdentifier text = toPascalCase (join ['_'] words) ∧
        toPascalCase (join ['_'] words) = words.flatMap titleCase := by
  refine ⟨fun name => ?_, fun front signs back full apart => ?_, fun front back => ?_,
    fun words text plain joined => ?_⟩
  · exact ((joinTitleCase_full _).trans (titled_gaps _ name)).symm
  · exact titled_apart full (by simpa using apart) front back
  · exact titled_apart (by simp) (by simp) front back
  · have identifier : toIdentifier text = joinTitleCase words :=
      titled_joined joined fun word member c inside => by simp [plain word member c inside]
    have pascal : toPascalCase (join ['_'] words) = joinTitleCase words :=
      titled_joined (join_joined (by simp) words) fun word member c inside => by
        simp [plain word member c inside]
    exact ⟨identifier.trans pascal.symm, pascal⟩

-- The last letter of the Greek word depends on what is behind it in the same word.
theorem greek_names_joined :
    (": ".toList ≠ [] ∧ ∀ c ∈ ": ".toList, isWord c = false) ∧
      toIdentifier ("Log:".toList ++ ": ".toList ++ "/ΛΟΓΟΣ".toList) =
        toIdentifier "Log:".toList ++ toIdentifier "/ΛΟΓΟΣ".toList ∧
      (∀ word ∈ ["dcc".toList, "ΛΟΓΟΣ".toList], ∀ c ∈ word, isWord c = true ∧ c ≠ '_') ∧
      Joined (fun c => !isWord c) ["dcc".toList, "ΛΟΓΟΣ".toList] "dcc, ΛΟΓΟΣ".toList ∧
      toIdentifier "dcc, ΛΟΓΟΣ".toList = "DccΛογος".toList := by
  have outside (signs : Text) (apart : signs.all (!isWord ·) = true) : ∀ c ∈ signs, isWord c = false := by
    simpa using apart
  have inside (words : List Text) (plain : words.all (·.all fun c => isWord c && c != '_') = true) :
      ∀ word ∈ words, ∀ c ∈ word, isWord c = true ∧ c ≠ '_' := by
    simpa using plain
  have full : ": ".toList ≠ [] := by decide
  have signs := outside ": ".toList (by decide +kernel)
  have plain := inside ["dcc".toList, "ΛΟΓΟΣ".toList] (by decide +kernel)
  have comma := outside ", ".toList (by decide +kernel)
  have joined : Joined (fun c => !isWord c) ["dcc".toList, "ΛΟΓΟΣ".toList]
      ("dcc".toList ++ ", ".toList ++ "ΛΟΓΟΣ".toList) :=
    .next (by decide) (fun c member => by rw [comma c member]; rfl) .last
  have titled := names_joined.2.2.2 _ _ plain joined
  have expected : ["dcc".toList, "ΛΟΓΟΣ".toList].flatMap titleCase = "DccΛογος".toList := by
    decide +kernel
  exact ⟨⟨full, signs⟩, names_joined.2.1 _ _ _ full signs, plain, joined,
    (titled.1.trans titled.2).trans expected⟩

end Text
end PluginBindings
