import PluginBindings.Json.Quoted

namespace PluginBindings
namespace Json

inductive Value where
  | number (value : Nat)
  | text (value : Text)
  | list (items : List Value)
  | object (members : List (Text × Value))

namespace Value

def newLine (depth : Nat) : Text := '\n' :: List.replicate (2 * depth) ' '

def bracketed (opening closing : Char) (depth : Nat) (items : List Text) : Text :=
  if items.isEmpty then [opening, closing]
  else
    [opening] ++ Text.join [','] (items.map (newLine (depth + 1) ++ ·)) ++ newLine depth ++ [closing]

mutual

def pretty (depth : Nat) : Value → Text
  | number value => Text.ofNat value
  | text value => quote value
  | list items => bracketed '[' ']' depth (prettyItems (depth + 1) items)
  | object members => bracketed '{' '}' depth (prettyMembers (depth + 1) members)

def prettyItems (depth : Nat) : List Value → List Text
  | [] => []
  | item :: items => pretty depth item :: prettyItems depth items

def prettyMembers (depth : Nat) : List (Text × Value) → List Text
  | [] => []
  | (key, value) :: members =>
    (quote key ++ [':', ' '] ++ pretty depth value) :: prettyMembers depth members

end

end Value
end Json
end PluginBindings
