import PluginBindings.Proofs.Event.Records
import PluginBindings.Proofs.Text.Lines

namespace PluginBindings
namespace EventSpec

-- Where the event with a given index stands in the table, and under which number.
structure StandsAt (stride : Nat) (lines : List Text) (index : Nat) (spec : EventSpec) : Prop where
  name : lines[stride * index]? = some spec.name
  signal : lines[stride * index + 1]? = some spec.signal
  key : lines[stride * index + 2]? = some spec.fieldsKey
  format : lines[stride * index + 3]? = some spec.format
  hint : lines[stride * index + 4]? = some spec.fieldCountHint
  line : spec.line = stride * index + 1

theorem line_at {text : Text} {rest front : List Line} {index : Nat} {line : Line}
    (split : numberedLines text 0 = front ++ rest) (found : front[index]? = some line) :
    (Text.lines text)[index]? = some line.text ∧ line.number = index + 1 := by
  have below := (List.getElem?_eq_some_iff.mp found).1
  rw [← List.getElem?_append_left below, ← split, numberedLines_at] at found
  obtain ⟨read, given, rfl⟩ := Option.map_eq_some_iff.mp found
  exact ⟨given, rfl⟩

theorem records_stand {text : Text} {front rest : List Line} {specs : List EventSpec} {index : Nat}
    (split : numberedLines text 0 = front ++ rest) (records : Records stride front specs)
    (found : specs[index]? = some spec) : StandsAt stride (Text.lines text) index spec := by
  obtain ⟨name, signal, key, format, hint, rfl, at0, at1, at2, at3, at4⟩ := records_at records found
  exact {
    name := (line_at split at0).1
    signal := (line_at split at1).1
    key := (line_at split at2).1
    format := (line_at split at3).1
    hint := (line_at split at4).1
    line := (line_at split at0).2 }

-- The short group begins where the whole ones end.
theorem leftover_exact {text : Text} {front rest : List Line}
    (split : numberedLines text 0 = front ++ rest) (nonempty : rest ≠ []) :
    leftover stride rest =
      some (.parse (.incompleteRecord stride rest.length) (front.length + 1)) := by
  cases rest with
  | nil => exact absurd rfl nonempty
  | cons first rest =>
    have number := numberedLines_number split
    rw [leftover, number, List.length_cons, Nat.zero_add]

-- A table of n lines holds n / stride events, and what is left over is a fault; a stride without
-- room for an event is a fault before that.
theorem strided_exact (text : Text) (stride : Nat) :
    ∃ (specs : List EventSpec) (ending : Option Fault),
      (∀ calls, (read text stride).answers calls =
        ((Reading.ended specs ending).map some ++ List.replicate calls none).take calls) ∧
      (∀ all, (readAll text stride).result = .ok all ↔ ending = none ∧ all = specs) ∧
      if stride < 5 then specs = [] ∧ ending = some (.parse (.strideTooShort stride) 0)
      else
        specs.length = (Text.lines text).length / stride ∧
        (∀ index spec, specs[index]? = some spec →
          StandsAt stride (Text.lines text) index spec) ∧
        if (Text.lines text).length % stride = 0 then ending = none
        else ∃ cause, ending =
            some (.parse cause (stride * ((Text.lines text).length / stride) + 1)) ∧
          cause.message = "Incomplete event record: expected ".toList ++ Text.ofNat stride ++
            " lines but found ".toList ++ Text.ofNat ((Text.lines text).length % stride) := by
  by_cases short : stride < 5
  · have items : (read text stride).items =
        Reading.ended [] (some (.parse (.strideTooShort stride) 0)) := by
      rw [EventSpec.read, if_pos short]
      rfl
    refine ⟨[], _, Reading.answers_ended items, Reading.collect_ended items, ?_⟩
    rw [if_pos short]
    exact ⟨rfl, rfl⟩
  · obtain ⟨front, rest, specs, split, records, count, left⟩ :=
      records_parted (by omega : 5 ≤ stride) (numberedLines text 0)
    rw [numberedLines_length] at count left
    have less : rest.length < stride := by
      rw [left]
      exact Nat.mod_lt _ (by omega)
    have items : (read text stride).items = Reading.ended specs (leftover stride rest) := by
      rw [EventSpec.read, if_neg short, split]
      exact records_read records less
    refine ⟨specs, _, Reading.answers_ended items, Reading.collect_ended items, ?_⟩
    rw [if_neg short]
    refine ⟨count, fun index spec => records_stand split records, ?_⟩
    by_cases whole : (Text.lines text).length % stride = 0
    · rw [if_pos whole]
      apply leftover_none.mpr
      apply List.length_eq_zero_iff.mp
      rw [left, whole]
    · have nonempty : rest ≠ [] := by
        rintro rfl
        exact whole left.symm
      rw [if_neg whole, leftover_exact split nonempty, left, records_length records, count]
      exact ⟨_, rfl, rfl⟩

end EventSpec
end PluginBindings
