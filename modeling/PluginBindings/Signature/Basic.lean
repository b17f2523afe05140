import PluginBindings.Report.Outcome
import PluginBindings.Signature.Declaration
import PluginBindings.Signature.Parameter

namespace PluginBindings

-- `parameters` are the forwarded ones: the first name of a declaration is its handle.
structure Signature where
  name : Text
  parameters : List Text
  indentationUnit : Text
deriving DecidableEq, Repr

namespace Signature

def ofBlock [PatternEngine] (block : Text) : Except Fault Signature :=
  match Declaration.find? block with
  | none => .error (.wrapper (.notADeclaration block))
  | some declaration => do
    let unit := Parameter.indentationUnit block
    let names ← Parameter.read block unit
    return ⟨declaration.name, names.drop 1, unit⟩

def readAll [PatternEngine] (text : Text) : Except Fault (List Signature) :=
  (sweep Declaration.form text).hits.mapM fun hit => ofBlock hit.2.text

def arguments (signature : Signature) : Text :=
  "self.handle.as_ptr()".toList ++ signature.parameters.flatMap (", ".toList ++ ·)

-- Stands right behind the opening brace and leaves the closing one to the source.
def forwardingBody (signature : Signature) (indent : Text) : Text :=
  ['\n'] ++ indent ++ "// Safety: forwarded to caller\n".toList ++ indent ++
    "unsafe \x7b ((*self.handle.as_ptr()).".toList ++ signature.name ++ ")(".toList ++
    signature.arguments ++ ") \x7d".toList

end Signature
end PluginBindings
