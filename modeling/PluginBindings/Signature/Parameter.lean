import PluginBindings.Signature.Pattern
import PluginBindings.Text.Scan

namespace PluginBindings
namespace Parameter

-- A second colon makes a path of it; what is read here is not read again by the next entry.
def entryForm : Scan Text := do
  let name ← Scan.name
  let _ ← Scan.span isIndent
  Scan.literal [':']
  fun text => match text with
    | [] => some (name, [])
    | c :: rest => if c == ':' then none else some (name, rest)

def indentedEntry : Scan Text := do
  Scan.literal ['\n']
  let unit ← Scan.span1 isIndent
  let _ ← entryForm
  return unit

-- Empty when the parameters share the line of the declaration.
def indentationUnit (block : Text) : Text :=
  match Scan.findFirst indentedEntry block with
  | some (_, unit, _) => unit
  | none => []

def entryAt (unit : Text) : Scan Text := do
  Scan.literal ('\n' :: unit)
  entryForm

-- Commas within brackets belong to their segment. `current` is the segment so far, last
-- character first; a list that is never closed has no last segment.
def segmentsFrom (nesting : Nat) (current : Text) : Text → List Text
  | [] => []
  | c :: rest =>
    if c == '(' || c == '[' then segmentsFrom (nesting + 1) (c :: current) rest
    else if c == ')' || c == ']' then
      match nesting with
      | 0 => [current.reverse]
      | outer + 1 => segmentsFrom outer (c :: current) rest
    else if c == ',' && nesting == 0 then current.reverse :: segmentsFrom 0 [] rest
    else segmentsFrom nesting (c :: current) rest

def segmentName? (segment : Text) : Option Text := do
  let (front, _) ← Text.cutAt? ':' segment
  let name := Text.trim front
  if isName name then return name else failure

-- Any bracket closes any other: the list ends where as many were closed as opened.
def listedNames (block : Text) : List Text :=
  match Text.cutAt? '(' block with
  | none => []
  | some (_, inside) => (segmentsFrom 0 [] inside).filterMap segmentName?

def names (block unit : Text) : List Text :=
  if unit.isEmpty then listedNames block
  else (sweep (entryAt unit) block).hits.map (·.2)

def read [PatternEngine] (block unit : Text) : Except Fault (List Text) := do
  unless unit.isEmpty do (Pattern.parameterEntry unit).compile
  return names block unit

end Parameter
end PluginBindings
