import PluginBindings.Signature.Pattern
import PluginBindings.Text.Scan

namespace PluginBindings

-- A block without its handle parameter: what was deleted lay between the two parts kept.
structure Removal where
  before : Text
  handle : Text
  deleted : Text
  after : Text
deriving DecidableEq, Repr

namespace Removal

def text (removal : Removal) : Text := removal.before ++ removal.after

def ownLineForm (type : Text) : Scan Text := do
  let _ ← Scan.span isIndent
  let name ← Scan.name
  let _ ← Scan.span isIndent
  Scan.literal [':']
  let _ ← Scan.span isIndent
  Scan.literal "*mut".toList
  Scan.afterBlanks isIndent do
    Scan.literal type
    let _ ← Scan.span isIndent
    Scan.optionally ','
    let _ ← Scan.span isIndent
    Scan.optionally '\r'
    Scan.literal ['\n']
  return name

-- A type that ends outside a word asks for a word right behind it instead.
def wordBoundaryAfter (type : Text) : Scan Unit := fun text =>
  if isWordBoundary type.getLast? text.head? then some ((), text) else none

def inlineEntry (type : Text) : Scan Text := do
  let name ← Scan.name
  let _ ← Scan.blanks
  Scan.literal [':']
  let _ ← Scan.blanks
  Scan.literal "*mut".toList
  Scan.afterBlanks isBlank do
    Scan.literal type
    wordBoundaryAfter type
  return name

def comma? (text : Text) : Option Text :=
  match text with
  | ',' :: rest => some (Text.trimStart rest)
  | _ => none

-- The list keeps one comma between neighbours; `before` starts where the match does.
def inlineForm (type : Text) : Scan Removal := fun source => do
  let entry := (comma? source).getD source
  let (handle, rest) ← inlineEntry type entry
  match comma? (Text.trimStart rest) with
  | some after =>
    return (⟨Text.before source entry, handle, Text.before entry after, after⟩, after)
  | none => return (⟨[], handle, Text.before source rest, rest⟩, rest)

-- Both patterns are compiled before the first block is seen.
def prepare [PatternEngine] (type : Text) : Except Fault Unit := do
  (Pattern.handleLine type).compile
  (Pattern.handleEntry type).compile

-- Every line is searched for a handle of its own before any place for one among others.
def find? (type block : Text) : Option Removal :=
  match Scan.findAtLineStart (ownLineForm type) true block with
  | some (front, handle, after) =>
    some ⟨front, handle, Text.before (block.drop front.length) after, after⟩
  | none =>
    (Scan.findFirst (inlineForm type) block).map fun (front, removal, _) =>
      { removal with before := front ++ removal.before }

end Removal
end PluginBindings
