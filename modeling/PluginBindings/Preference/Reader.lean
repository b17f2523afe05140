import PluginBindings.Report.Outcome
import PluginBindings.Text.Line
import PluginBindings.Text.Scan
import PluginBindings.Text.TitleCase

namespace PluginBindings

structure Preference where
  name : Text
  line : Nat
  kind : PreferenceKind
deriving DecidableEq, Repr

namespace Preference

-- A row needs its indentation: the same text at the left margin is no row.
def rowForm : Scan (Text × Text) := do
  let _ ← Scan.span1 isBlank
  Scan.literal ['{']
  let _ ← Scan.blanks
  Scan.literal ['"']
  let name ← Scan.span (· != '"')
  Scan.literal ['"']
  let _ ← Scan.blanks
  Scan.literal [',']
  let _ ← Scan.span (· != ',')
  Scan.literal [',']
  let _ ← Scan.blanks
  let symbol ← Scan.span1 isWord
  return (name, symbol)

def row? (line : Text) : Option (Text × Text) := (rowForm line).map (·.1)

def sentinelForm : Scan Unit := do
  Scan.literal ['{']
  let _ ← Scan.blanks
  Scan.literal ['0']
  let _ ← Scan.blanks
  Scan.literal [',']
  let _ ← Scan.blanks
  Scan.literal ['0']
  let _ ← Scan.blanks
  Scan.literal [',']
  let _ ← Scan.blanks
  Scan.literal ['0']
  let _ ← Scan.blanks
  Scan.literal ['}']
  let _ ← Scan.blanks
  Scan.optionally ','

def isSentinel (line : Text) : Bool := (Scan.whole sentinelForm (Text.trim line)).isSome

-- The sentinel is passed over like any line that is no row: rows below it still count.
def readFrom : List Line → Reading Preference
  | [] => []
  | line :: lines =>
    if !line.text.head?.any isBlank then readFrom lines
    else if isSentinel line.text then .noted (.tableEnd line.number) :: readFrom lines
    else match row? line.text with
      | none => .noted (.notARow line.number) :: readFrom lines
      | some (name, symbol) =>
        match PreferenceKind.ofSymbol? symbol with
        | none => [.failed (.unsupportedType symbol name line.number)]
        | some kind =>
          .noted (.preferenceRead name kind) :: .read ⟨name, line.number, kind⟩ :: readFrom lines

def read (text : Text) (header : Nat) : Reading Preference :=
  readFrom (numberedLines text header)

def readAll (text : Text) (header : Nat) : Outcome (List Preference) := (read text header).collect

def registration (preference : Preference) : Text :=
  "pref!(".toList ++ Text.toPascalCase preference.name ++ ", \"".toList ++ preference.name ++
    "\", ".toList ++ preference.kind.bindingType ++ ");".toList

end Preference
end PluginBindings
