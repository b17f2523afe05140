import PluginBindings.Text.Scan

namespace PluginBindings
namespace Descriptor

-- Runs of blanks never overlap what must follow them, so one pass decides each line.

def isSpecifier (c : Char) : Bool := isWord c || isBlank c || c == '*'

def arrayOpening : Scan Unit := do
  Scan.literal ['[']
  let _ ← Scan.blanks
  Scan.literal [']']
  let _ ← Scan.blanks
  Scan.literal ['=']
  let _ ← Scan.blanks
  Scan.literal ['{']
  let _ ← Scan.blanks

-- No specifier holds a bracket, hence the first one counts; the name is the word before it.
def declaredKey? (line : Text) : Option Text := do
  Scan.whole arrayOpening (line.dropWhile (· != '['))
  let front := Text.trimEnd (line.takeWhile (· != '['))
  let key := (front.reverse.takeWhile isWord).reverse
  let specifiers := Text.trimStart (Text.before front key)
  if isName key && specifiers.head?.any isNameStart && specifiers.all isSpecifier then
    return key
  else failure

def markerOpening : Scan Unit := do
  let _ ← Scan.blanks
  let _ ← Scan.name
  Scan.literal ['(']
  let _ ← Scan.blanks
  Scan.literal ['"']

def markerClosing : Scan Unit := do
  let _ ← Scan.blanks
  Scan.literal [')']
  let _ ← Scan.blanks
  Scan.optionally ','
  let _ ← Scan.blanks

-- Nothing after the label holds a quote, so it reaches to the last one.
def wrappedLabel? (line : Text) : Option Text := do
  let (_, inside) ← markerOpening line
  let (label, closing) ← Text.cutAtLast? '"' inside
  Scan.whole markerClosing closing
  if label.contains '\n' then failure else return label

def betweenQuotes? (segment : Text) : Option Text := do
  let (_, inside) ← Text.cutAt? '"' segment
  let (label, _) ← Text.cutAtLast? '"' inside
  return label

def bareLabel? (line : Text) : Option Text :=
  (Text.pieces (· == '\n') line).findSome? betweenQuotes?

-- Labels are kept as written, escapes included.
def label? (line : Text) : Option Text := wrappedLabel? line <|> bareLabel? line

def closingForm : Scan Unit := do
  let _ ← Scan.blanks
  Scan.literal ['}']
  let _ ← Scan.blanks
  Scan.optionally ';'
  let _ ← Scan.blanks

def isClosing (line : Text) : Bool := (Scan.whole closingForm line).isSome

end Descriptor
end PluginBindings
