import PluginBindings.Json.Cursor

namespace PluginBindings
namespace Json
namespace Read

def hexValue? (c : Char) : Option Nat :=
  if c.isDigit then some (c.toNat - '0'.toNat)
  else if 'a' ≤ c && c ≤ 'f' then some (c.toNat - 'a'.toNat + 10)
  else if 'A' ≤ c && c ≤ 'F' then some (c.toNat - 'A'.toNat + 10)
  else none

def hexNumber? (digits : Text) : Option Nat :=
  digits.foldlM (fun value digit => (hexValue? digit).map (16 * value + ·)) 0

-- The four digits of an escape. Four bytes are taken in any case before they are judged.
def hexEscape : Read Nat := fun cursor =>
  match hexNumber? (cursor.rest.take 4) with
  | some value =>
    if cursor.rest.length < 4 then fail .endInString (cursor.pastBytes 4)
    else .ok (value, cursor.pastBytes 4)
  | none =>
    if Text.byteCount cursor.rest < 4 then fail .endInString (cursor.pastBytes 4)
    else fail .invalidEscape (cursor.pastBytes 4)

def isHighSurrogate (unit : Nat) : Bool := 0xD800 ≤ unit && unit ≤ 0xDBFF

def isLowSurrogate (unit : Nat) : Bool := 0xDC00 ≤ unit && unit ≤ 0xDFFF

def pairHalf (expected : Char) : Read Unit := do
  match ← peek with
  | none => fail .endInString
  | some c => if c == expected then skip else failAtNext .unfinishedSurrogatePair

def unicodeEscape : Read Char := do
  let unit ← hexEscape
  if isLowSurrogate unit then fail .loneSurrogate
  else if isHighSurrogate unit then
    pairHalf '\\'
    pairHalf 'u'
    let low ← hexEscape
    if isLowSurrogate low then
      return Char.ofNat ((unit - 0xD800) * 0x400 + (low - 0xDC00) + 0x10000)
    else fail .loneSurrogate
  else return Char.ofNat unit

def simpleEscape? (c : Char) : Option Char :=
  if c == '"' || c == '\\' || c == '/' then some c
  else if c == 'b' then some '\x08'
  else if c == 'f' then some '\x0c'
  else if c == 'n' then some '\n'
  else if c == 'r' then some '\r'
  else if c == 't' then some '\t'
  else none

def escape (simple : Char → α) (unicode : Read α) : Read α := do
  match ← peek with
  | none => fail .endInString
  | some c =>
    if c == 'u' then
      skip
      unicode
    else match simpleEscape? c with
      | some plain =>
        skip
        return simple plain
      | none => failAtNext .invalidEscape

def isPlain (c : Char) : Bool := c != '"' && c != '\\' && 0x20 ≤ c.toNat

-- Every escape takes characters, so as many rounds as there are characters suffice.
def stringFrom : (rounds : Nat) → Read Text
  | 0 => fail .endInString
  | rounds + 1 => do
    let plain ← takeWhile isPlain
    match ← peek with
    | none => fail .endInString
    | some c =>
      if c == '"' then
        skip
        return plain
      else if c == '\\' then
        skip
        let escaped ← escape id unicodeEscape
        return plain ++ escaped :: (← stringFrom rounds)
      else failAtNext .controlCharacter

def string : Read Text := do stringFrom ((← remaining) + 1)

-- Less is asked of a string that is not kept: halves of pairs need not match.
def ignoreStringFrom : (rounds : Nat) → Read Unit
  | 0 => fail .endInString
  | rounds + 1 => do
    let _ ← takeWhile isPlain
    match ← peek with
    | none => fail .endInString
    | some c =>
      if c == '"' then skip
      else if c == '\\' then
        skip
        escape (fun _ => ()) (do let _ ← hexEscape)
        ignoreStringFrom rounds
      else fail .controlCharacter

def ignoreString : Read Unit := do ignoreStringFrom ((← remaining) + 1)

end Read
end Json
end PluginBindings
