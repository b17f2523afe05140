import PluginBindings.Json.Problem
import PluginBindings.Json.Quoted
import PluginBindings.Text.Escaped

namespace PluginBindings

-- A fault keeps what its message is made of.

inductive ParseCause where
  | noDeclaration (found : Text)
  | neverClosed (key : Text)
  | noLiteral (found : Text)
  | declaredTwice (key : Text) (first : Nat)
  | strideTooShort (stride : Nat)
  | incompleteRecord (stride found : Nat)
  | other (message : Text)
deriving DecidableEq, Repr

inductive WrapperCause where
  | notADeclaration (block : Text)
  | noHandle (name : Text)
  | handleNotFirst (handle name : Text)
deriving DecidableEq, Repr

inductive AccessKind where
  | notFound
  | notADirectory
  | isADirectory
  | invalidData
  | invalidInput
  | resourceBusy
  | permissionDenied
  | other
deriving DecidableEq, Repr

inductive Fault where
  | parse (cause : ParseCause) (line : Nat)
  | unresolvedReference (key event : Text)
  | unsupportedType (type name : Text) (line : Nat)
  | wrapper (cause : WrapperCause)
  | json (problem : Json.Problem) (line column : Nat)
  | patternTooBig (limit : Nat)
  | staleOutput (path : Text)
  | access (kind : AccessKind)
deriving DecidableEq, Repr

def ParseCause.message : ParseCause → Text
  | noDeclaration found => "Expected an array declaration but found ".toList ++ Json.quote found
  | neverClosed key => "Array ".toList ++ Json.quote key ++ " is never closed".toList
  | noLiteral found => "Expected a quoted string but found ".toList ++ Json.quote found
  | declaredTwice key first =>
    "The array ".toList ++ Json.quote key ++ " is declared twice (first at line ".toList ++
      Text.ofNat first ++ [')']
  | strideTooShort stride =>
    "An event record needs 5 lines, stride is ".toList ++ Text.ofNat stride
  | incompleteRecord stride found =>
    "Incomplete event record: expected ".toList ++ Text.ofNat stride ++ " lines but found ".toList ++
      Text.ofNat found
  | other message => message

def WrapperCause.message : WrapperCause → Text
  | notADeclaration block => "Not an unsafe fn block: ".toList ++ Json.quote block
  | noHandle name => "No handle parameter found in ".toList ++ Json.quote name
  | handleNotFirst handle name =>
    "Handle parameter ".toList ++ Json.quote handle ++ " of ".toList ++ Json.quote name ++
      " is not its first parameter".toList

def AccessKind.name : AccessKind → Text
  | notFound => "NotFound".toList
  | notADirectory => "NotADirectory".toList
  | isADirectory => "IsADirectory".toList
  | invalidData => "InvalidData".toList
  | invalidInput => "InvalidInput".toList
  | resourceBusy => "ResourceBusy".toList
  | permissionDenied => "PermissionDenied".toList
  | other => "Other".toList

namespace Fault

def kind : Fault → Text
  | parse .. => "ParseError".toList
  | unresolvedReference .. => "UnresolvedReference".toList
  | unsupportedType .. => "UnsupportedType".toList
  | wrapper _ => "RewriteError".toList
  | json .. => "Json".toList
  | patternTooBig _ => "Regex".toList
  | staleOutput _ => "StaleOutput".toList
  | access _ => "Io".toList

-- The system words an access failure in its own way; only its kind is ours to tell.
def message : Fault → Text
  | parse cause line =>
    "Parse error at line ".toList ++ Text.ofNat line ++ ": ".toList ++ cause.message
  | unresolvedReference key event =>
    "Event ".toList ++ event ++ " references unknown descriptor ".toList ++ key
  | unsupportedType type name line =>
    "Unsupported type ".toList ++ type ++ " for preference ".toList ++ name ++ " at line ".toList ++
      Text.ofNat line
  | wrapper cause => "Rewrite error: ".toList ++ cause.message
  | json problem line column =>
    "JSON error: ".toList ++ problem.message ++ " at line ".toList ++ Text.ofNat line ++
      " column ".toList ++ Text.ofNat column
  | patternTooBig limit =>
    "Invalid pattern: Compiled regex exceeds size limit of ".toList ++ Text.ofNat limit ++
      " bytes.".toList
  | staleOutput path => "Generated output is out of date: ".toList ++ path
  | access kind => kind.name

private def record (name : Text) (fields : List (String × Text)) : Text :=
  name ++ " \x7b ".toList ++
    Text.join ", ".toList (fields.map fun field => field.1.toList ++ ": ".toList ++ field.2) ++
    " \x7d".toList

-- The form in which a failed command shows its fault: by kind and by fields.
def shown (fault : Fault) : Text :=
  match fault with
  | parse cause line =>
    record fault.kind [("msg", Text.shown cause.message), ("line", Text.ofNat line)]
  | unresolvedReference key event =>
    record fault.kind [("key", Text.shown key), ("event", Text.shown event)]
  | unsupportedType type name line =>
    record fault.kind
      [("type_", Text.shown type), ("name", Text.shown name), ("line", Text.ofNat line)]
  | wrapper cause => fault.kind ++ ['('] ++ Text.shown cause.message ++ [')']
  | json problem line column =>
    fault.kind ++ "(Error(".toList ++ Text.shown problem.message ++ ", line: ".toList ++
      Text.ofNat line ++ ", column: ".toList ++ Text.ofNat column ++ "))".toList
  | patternTooBig limit =>
    fault.kind ++ "(CompiledTooBig(".toList ++ Text.ofNat limit ++ "))".toList
  | staleOutput path => fault.kind ++ ['('] ++ Text.shown path ++ [')']
  | access kind => fault.kind ++ ['('] ++ kind.name ++ [')']

end Fault
end PluginBindings
