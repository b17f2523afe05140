import PluginBindings.Descriptor.LineForm
import PluginBindings.Report.Outcome
import PluginBindings.Text.Line

namespace PluginBindings

-- An array of labels, one for each field an event may carry, and the line it opens on.
structure FieldDescriptor where
  key : Text
  line : Nat
  fields : List Text
deriving DecidableEq, Repr

namespace Descriptor

inductive Place where
  | between
  | inside (key : Text) (line : Nat) (fields : List Text)
deriving DecidableEq, Repr

-- Inside an array a line is a label or its end; an array left open is reported where it began.
def readFrom : Place → List Line → Reading FieldDescriptor
  | .between, [] => []
  | .inside key line _, [] => [.failed (.parse (.neverClosed key) line)]
  | .between, line :: lines =>
    if Text.isBlankText line.text then readFrom .between lines
    else match declaredKey? line.text with
      | some key => readFrom (.inside key line.number []) lines
      | none => [.failed (.parse (.noDeclaration line.text) line.number)]
  | .inside key start fields, line :: lines =>
    if isClosing line.text then
      .noted (.descriptorRead key fields.length) :: .read ⟨key, start, fields⟩ ::
        readFrom .between lines
    else match label? line.text with
      | some label => readFrom (.inside key start (fields ++ [label])) lines
      | none => [.failed (.parse (.noLiteral line.text) line.number)]

def read (text : Text) (header : Nat) : Reading FieldDescriptor :=
  readFrom .between (numberedLines text header)

end Descriptor
end PluginBindings
