namespace PluginBindings
namespace Unicode

-- The increasing list of the places where membership changes, the first one entering the set.
abbrev Bounds := List Nat

def Bounds.containsFrom (inside : Bool) (point : Nat) : Bounds → Bool
  | [] => inside
  | bound :: bounds => if point < bound then inside else containsFrom (!inside) point bounds

def Bounds.contains (bounds : Bounds) (point : Nat) : Bool := containsFrom false point bounds

end Unicode
end PluginBindings
