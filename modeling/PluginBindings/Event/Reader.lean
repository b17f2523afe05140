import PluginBindings.Report.Outcome
import PluginBindings.Text.Line

namespace PluginBindings

-- The hint is kept, but nothing is generated from it.
structure EventSpec where
  name : Text
  line : Nat
  signal : Text
  fieldsKey : Text
  format : Text
  fieldCountHint : Text
deriving DecidableEq, Repr

namespace EventSpec

def groups (more : Nat) : List Line → List (List Line)
  | [] => []
  | first :: rest => (first :: rest.take more) :: groups more (rest.drop more)
termination_by lines => lines.length
decreasing_by rw [List.length_drop, List.length_cons]; omega

-- Only the first five lines of a group carry meaning, but a group has to be complete.
def readGroup (stride : Nat) : List Line → Reading EventSpec
  | [] => []
  | group@(first :: rest) =>
    match rest with
    | signal :: key :: format :: hint :: _ =>
      if group.length < stride then
        [.failed (.parse (.incompleteRecord stride group.length) first.number)]
      else
        [.noted (.eventRead first.text first.number),
          .read ⟨first.text, first.number, signal.text, key.text, format.text, hint.text⟩]
    | _ => [.failed (.parse (.incompleteRecord stride group.length) first.number)]

-- A stride below five is a fault of the settings, not of any line.
def read (text : Text) (stride : Nat) : Reading EventSpec :=
  if stride < 5 then [.failed (.parse (.strideTooShort stride) 0)]
  else (groups (stride - 1) (numberedLines text 0)).flatMap (readGroup stride)

def readAll (text : Text) (stride : Nat) : Outcome (List EventSpec) := (read text stride).collect

end EventSpec
end PluginBindings
