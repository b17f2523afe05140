import PluginBindings.Text.Scan

namespace PluginBindings

-- As written: the header ends with the opening parenthesis, the rest reaches to the brace.
structure Declaration where
  name : Text
  header : Text
  rest : Text
deriving DecidableEq, Repr

namespace Declaration

def text (declaration : Declaration) : Text := declaration.header ++ declaration.rest ++ ['{']

def headerForm : Scan Text := do
  Scan.literal "unsafe".toList
  let _ ← Scan.span1 isBlank
  Scan.literal "fn".toList
  let _ ← Scan.span1 isBlank
  let name ← Scan.name
  let _ ← Scan.blanks
  Scan.literal ['(']
  return name

-- The first brace after a header opens its body, wherever it stands.
def form : Scan Declaration := fun source => do
  let (name, inside) ← headerForm source
  let (rest, after) ← Text.cutAt? '{' inside
  return (⟨name, Text.before source inside, rest⟩, after)

def find? (text : Text) : Option Declaration := (Scan.findFirst form text).map (·.2.1)

end Declaration
end PluginBindings
