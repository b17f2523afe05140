import PluginBindings.Json.Number
import PluginBindings.Json.String

namespace PluginBindings
namespace Json

inductive Bracket where
  | list
  | object
deriving DecidableEq, Repr

namespace Bracket

def closing : Bracket → Char
  | list => ']'
  | object => '}'

def unclosed : Bracket → Problem
  | list => .endInList
  | object => .endInObject

def expected : Bracket → Problem
  | list => .expectedListCommaOrEnd
  | object => .expectedObjectCommaOrEnd

end Bracket

namespace Read

def colon : Read Unit := do
  match ← peekAfterBlanks with
  | none => fail .endInObject
  | some c => if c == ':' then skip else failAtNext .expectedColon

def ignoreKey : Read Unit := do
  match ← peekAfterBlanks with
  | none => fail .endInObject
  | some c =>
    if c == '"' then
      skip
      ignoreString
      colon
    else failAtNext .keyMustBeString

def enterItem : Bracket → Read Unit
  | .list => return ()
  | .object => ignoreKey

def afterValue : List Bracket → Read (List Bracket)
  | [] => return []
  | bracket :: outer => do
    match ← peekAfterBlanks with
    | none => fail bracket.unclosed
    | some c =>
      if c == ',' then
        skip
        enterItem bracket
        return bracket :: outer
      else if c == bracket.closing then
        skip
        afterValue outer
      else failAtNext bracket.expected

def firstItem (bracket : Bracket) (outer : List Bracket) : Read (List Bracket) := do
  match ← peekAfterBlanks with
  | none => fail bracket.unclosed
  | some c =>
    if c == bracket.closing then
      skip
      afterValue outer
    else
      enterItem bracket
      return bracket :: outer

def ignoreOne (brackets : List Bracket) : Read (List Bracket) := do
  match ← peekAfterBlanks with
  | none => fail .endInValue
  | some c =>
    if c == 'n' then
      word "null".toList
      afterValue brackets
    else if c == 't' then
      word "true".toList
      afterValue brackets
    else if c == 'f' then
      word "false".toList
      afterValue brackets
    else if c == '-' then
      skip
      ignoreNumber
      afterValue brackets
    else if c.isDigit then
      ignoreNumber
      afterValue brackets
    else if c == '"' then
      skip
      ignoreString
      afterValue brackets
    else if c == '[' then
      skip
      firstItem .list brackets
    else if c == '{' then
      skip
      firstItem .object brackets
    else failAtNext .expectedValue

-- Nesting is only remembered, never followed: a value may be nested as deeply as it likes.
def ignoreFrom : (rounds : Nat) → List Bracket → Read Unit
  | 0, _ => fail .endInValue
  | rounds + 1, brackets => do
    let around ← ignoreOne brackets
    if around.isEmpty then return () else ignoreFrom rounds around

def ignoreValue : Read Unit := do ignoreFrom ((← remaining) + 1) []

end Read
end Json
end PluginBindings
