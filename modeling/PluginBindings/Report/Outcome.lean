import PluginBindings.Report.Fault
import PluginBindings.Report.Notice

namespace PluginBindings

-- A failure keeps the notices given before it.
structure Outcome (α : Type) where
  result : Except Fault α
  notices : List Notice

namespace Outcome

protected def pure (value : α) : Outcome α := ⟨.ok value, []⟩

protected def bind (first : Outcome α) (next : α → Outcome β) : Outcome β :=
  match first.result with
  | .ok value => ⟨(next value).result, first.notices ++ (next value).notices⟩
  | .error fault => ⟨.error fault, first.notices⟩

instance : Monad Outcome where
  pure := Outcome.pure
  bind := Outcome.bind

def fail (fault : Fault) : Outcome α := ⟨.error fault, []⟩

def note (notice : Notice) : Outcome Unit := ⟨.ok (), [notice]⟩

def ofExcept (result : Except Fault α) : Outcome α := ⟨result, []⟩

@[simp] theorem result_pure (value : α) : (pure value : Outcome α).result = .ok value := rfl

@[simp] theorem notices_pure (value : α) : (pure value : Outcome α).notices = [] := rfl

theorem result_bind (first : Outcome α) (next : α → Outcome β) :
    (first >>= next).result = first.result >>= fun value => (next value).result := by
  cases first with
  | mk result notices => cases result <;> rfl

end Outcome

-- What a lazy reader does one step after the other. A failure ends it.
inductive Step (α : Type) where
  | noted (notice : Notice)
  | read (value : α)
  | failed (fault : Fault)

abbrev Reading (α : Type) := List (Step α)

namespace Reading

def items : Reading α → List (Except Fault α)
  | [] => []
  | .noted _ :: steps => items steps
  | .read value :: steps => .ok value :: items steps
  | .failed fault :: steps => .error fault :: items steps

def next : Reading α → Option (Except Fault α) × Reading α
  | [] => (none, [])
  | .noted _ :: steps => next steps
  | .read value :: steps => (some (.ok value), steps)
  | .failed fault :: steps => (some (.error fault), steps)

def answers : Nat → Reading α → List (Option (Except Fault α))
  | 0, _ => []
  | calls + 1, reading => (next reading).1 :: answers calls (next reading).2

def notices : Reading α → List Notice
  | [] => []
  | .noted notice :: steps => notice :: notices steps
  | _ :: steps => notices steps

-- The first failure, the reader's or the consumer's, stops both: no later notice is given.
def foldInto (take : σ → α → Except Fault σ) (state : σ) : Reading α → Outcome σ
  | [] => pure state
  | .noted notice :: steps => do Outcome.note notice; foldInto take state steps
  | .read value :: steps => do foldInto take (← Outcome.ofExcept (take state value)) steps
  | .failed fault :: _ => Outcome.fail fault

def collect (reading : Reading α) : Outcome (List α) :=
  foldInto (fun values value => .ok (values ++ [value])) [] reading

end Reading
end PluginBindings
