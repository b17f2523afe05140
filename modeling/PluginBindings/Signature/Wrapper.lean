import PluginBindings.Signature.Basic
import PluginBindings.Signature.Handle
import PluginBindings.Text.Line

namespace PluginBindings

-- A declaration that no longer takes its handle, with the call that passes it on.
structure Wrapper where
  text : Text
  signature : Signature
deriving DecidableEq, Repr

namespace Wrapper

def bodyIndent : Text := "    ".toList

-- Removing a handle that is not first would leave the first parameter out of the call.
def assemble [PatternEngine] (type block indent : Text) : Outcome Wrapper := do
  let signature ← Outcome.ofExcept (Signature.ofBlock block)
  let names ← Outcome.ofExcept (Parameter.read block signature.indentationUnit)
  match Removal.find? type block with
  | none => Outcome.fail (.wrapper (.noHandle signature.name))
  | some removal =>
    if names.head? = some removal.handle then
      Outcome.note (.parametersForwarded signature.name signature.parameters.length)
      return ⟨removal.text ++ signature.forwardingBody (indent ++ bodyIndent), signature⟩
    else Outcome.fail (.wrapper (.handleNotFirst removal.handle signature.name))

def ofBlock [PatternEngine] (type block indent : Text) : Outcome Wrapper := do
  Outcome.ofExcept (Removal.prepare type)
  assemble type block indent

end Wrapper

structure WrappedSource where
  text : Text
  signatures : List Signature
deriving DecidableEq, Repr

namespace WrappedSource

-- Up to the first character that does not indent; `before` is all that precedes a declaration.
def lineIndent (before : Text) : Text := (Text.lastLine before).takeWhile isIndent

def wrap [PatternEngine] (type before : Text) (tail : Text) :
    List (Text × Declaration) → Outcome WrappedSource
  | [] => return ⟨tail, []⟩
  | (gap, declaration) :: later => do
    let front := before ++ gap
    let wrapper ← Wrapper.assemble type declaration.text (lineIndent front)
    let rest ← wrap type (front ++ declaration.text) tail later
    return ⟨gap ++ wrapper.text ++ rest.text, wrapper.signature :: rest.signatures⟩

def ofText [PatternEngine] (type text : Text) : Outcome WrappedSource := do
  Outcome.ofExcept (Removal.prepare type)
  let declarations := sweep Declaration.form text
  let wrapped ← wrap type [] declarations.tail declarations.hits
  if wrapped.signatures.isEmpty then
    Outcome.note .noDeclarations
  return wrapped

end WrappedSource
end PluginBindings
