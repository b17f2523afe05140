import PluginBindings.Text.Basic

namespace PluginBindings

-- A table may name other types; a preference of such a type has no binding.
inductive PreferenceKind where
  | str
  | int
  | bool
deriving DecidableEq, Repr

namespace PreferenceKind

def ofSymbol? (symbol : Text) : Option PreferenceKind :=
  if symbol = "TYPE_STR".toList then some str
  else if symbol = "TYPE_INT".toList then some int
  else if symbol = "TYPE_BOOL".toList then some bool
  else none

def name : PreferenceKind → Text
  | str => "Str".toList
  | int => "Int".toList
  | bool => "Bool".toList

def bindingType : PreferenceKind → Text
  | str => "String".toList
  | int => "i32".toList
  | bool => "bool".toList

end PreferenceKind
end PluginBindings
