import PluginBindings.Proofs.Json.Grammar
import PluginBindings.Proofs.Text.Runs

namespace PluginBindings
namespace Json

-- A reader that succeeds does the same wherever it starts: places are told by flaws alone.
def Reads (read : Read α) (source : Text) (value : α) (rest : Text) : Prop :=
  ∀ cursor : Cursor, cursor.rest = source →
    ∃ after : Cursor, after.rest = rest ∧ read cursor = .ok (value, after)

theorem reads_pure (value : α) (source : Text) : Reads (pure value) source value source :=
  fun cursor here => ⟨cursor, here, rfl⟩

theorem reads_bind {first : Read α} {next : α → Read β} (read : Reads first source value middle)
    (later : Reads (next value) middle answer rest) : Reads (first >>= next) source answer rest := by
  intro cursor here
  obtain ⟨between, there, taken⟩ := read cursor here
  obtain ⟨after, reached, taken'⟩ := later between there
  refine ⟨after, reached, ?_⟩
  show (first cursor >>= fun read => next read.1 read.2) = _
  rw [taken]
  exact taken'

theorem reads_peek (source : Text) : Reads Read.peek source source.head? source := by
  intro cursor here
  exact ⟨cursor, here, by rw [Read.peek, here]⟩

theorem reads_remaining (source : Text) : Reads Read.remaining source source.length source := by
  intro cursor here
  exact ⟨cursor, here, by rw [Read.remaining, here]⟩

theorem past_rest (cursor : Cursor) (c : Char) (rest : Text) :
    (cursor.past c rest).rest = rest := by
  unfold Cursor.past
  split <;> rfl

theorem reads_skip (c : Char) (rest : Text) : Reads Read.skip (c :: rest) () rest := by
  intro cursor here
  exact ⟨cursor.past c rest, past_rest cursor c rest, by rw [Read.skip, here]⟩

theorem whileFrom_run {accepts : Char → Bool} {front rest : Text} (stops : Stops accepts rest)
    (run : ∀ c ∈ front, accepts c = true) (taken : Text) (cursor : Cursor)
    (here : cursor.rest = front ++ rest) : ∃ after : Cursor, after.rest = rest ∧
      Read.whileFrom accepts taken (front ++ rest) cursor = (taken.reverse ++ front, after) := by
  induction front generalizing taken cursor with
  | nil =>
    refine ⟨cursor, here, ?_⟩
    cases rest with
    | nil => simp [Read.whileFrom]
    | cons c rest => simp [Read.whileFrom, stops_cons.mp stops]
  | cons c front ih =>
    obtain ⟨accepted, later⟩ := List.forall_mem_cons.mp run
    obtain ⟨after, reached, took⟩ := ih later (c :: taken) _ (past_rest cursor c (front ++ rest))
    refine ⟨after, reached, ?_⟩
    rw [List.cons_append, Read.whileFrom, if_pos accepted, took]
    simp

theorem reads_takeWhile {accepts : Char → Bool} {front rest : Text}
    (run : ∀ c ∈ front, accepts c = true) (stops : Stops accepts rest) :
    Reads (Read.takeWhile accepts) (front ++ rest) front rest := by
  intro cursor here
  obtain ⟨after, reached, took⟩ := whileFrom_run stops run [] cursor here
  refine ⟨after, reached, ?_⟩
  rw [Read.takeWhile, here, took]
  rfl

theorem reads_word (word rest : Text) : Reads (Read.word word) (word ++ rest) () rest := by
  induction word with
  | nil => exact reads_pure () rest
  | cons c word ih =>
    refine reads_bind (reads_peek _) ?_
    rw [List.cons_append, List.head?_cons]
    dsimp only
    rw [if_pos (beq_self_eq_true c)]
    exact reads_bind (reads_skip c _) ih

theorem reads_blanks (gap : Gap front) (stops : Stops isGap rest) :
    Reads Read.blanks (front ++ rest) () rest :=
  reads_bind (reads_takeWhile gap stops) (reads_pure () rest)

-- Readers go on by the character they look at; these take that look.

theorem reads_looking {next : Option Char → Read β}
    (later : Reads (next source.head?) source answer rest) :
    Reads (Read.peek >>= next) source answer rest :=
  reads_bind (reads_peek source) later

theorem reads_seeking {next : Option Char → Read β} (gap : Gap front) (stops : Stops isGap source)
    (later : Reads (next source.head?) source answer rest) :
    Reads (Read.peekAfterBlanks >>= next) (front ++ source) answer rest :=
  reads_bind (reads_bind (reads_blanks gap stops) (reads_peek source)) later

theorem reads_skipping {next : Unit → Read β} (later : Reads (next ()) source answer rest) :
    Reads (Read.skip >>= next) (c :: source) answer rest :=
  reads_bind (reads_skip c source) later

end Json
end PluginBindings
