import PluginBindings.Decimal.Shortest
import PluginBindings.Json.Cursor

namespace PluginBindings
namespace Json

inductive Number where
  | natural (value : Nat)
  | negative (size : Nat)
  | floating (negative : Bool) (size : Decimal.Binary64)
deriving DecidableEq, Repr

namespace Number

def greatest : Nat := Decimal.twoTo 64 - 1

-- Digits are taken in as long as the number stays below 2 ^ 64; the rest is only counted.
def accumulate (significand : Nat) : Text → Nat × Nat × Nat
  | [] => (significand, 0, 0)
  | digit :: digits =>
    let longer := 10 * significand + (digit.toNat - '0'.toNat)
    if greatest < longer then (significand, 0, digits.length + 1)
    else
      let (value, taken, left) := accumulate longer digits
      (value, taken + 1, left)

def shown : Number → Text
  | natural value => "integer `".toList ++ Text.ofNat value ++ ['`']
  | negative size => "integer `-".toList ++ Text.ofNat size ++ ['`']
  | floating below size =>
    "floating point `".toList ++ (if below then ['-'] else []) ++ size.text ++ ['`']

end Number

namespace Read

def isExponentMark (c : Char) : Bool := c == 'e' || c == 'E'

def floating (positive : Bool) (significand : Nat) (power : Int) : Read Number :=
  match Decimal.Binary64.ofDecimal? significand power with
  | some size => return .floating (!positive) size
  | none => fail .numberOutOfRange

def greatestPower : Nat := Decimal.twoTo 31 - 1

-- An exponent of more than 31 bits decides by itself: too large, or zero.
def exponentDigits (zero : Bool) (positive : Bool) (exponent : Nat) : (rounds : Nat) →
    Read (Option Nat)
  | 0 => return some exponent
  | rounds + 1 => do
    match ← peek with
    | none => return some exponent
    | some c =>
      if c.isDigit then
        skip
        let longer := 10 * exponent + (c.toNat - '0'.toNat)
        if longer ≤ greatestPower then exponentDigits zero positive longer rounds
        else if !zero && positive then fail .numberOutOfRange
        else
          let _ ← takeWhile Char.isDigit
          return none
      else return some exponent

def exponentPart (positive : Bool) (significand : Nat) (power : Int) : Read Number := do
  skip
  let sign ← peek
  if sign == some '+' || sign == some '-' then skip
  let upward := sign != some '-'
  match ← peek with
  | none => fail .endInValue
  | some c =>
    if c.isDigit then
      match ← exponentDigits (significand == 0) upward 0 ((← remaining) + 1) with
      | some exponent =>
        floating positive significand (if upward then power + exponent else power - exponent)
      | none => return .floating (!positive) Decimal.Binary64.zero
    else failAtNext .invalidNumber

def fractionPart (positive : Bool) (significand : Nat) (power : Int) : Read Number := do
  skip
  let digits ← takeWhile Char.isDigit
  if digits.isEmpty then
    if (← peek).isNone then fail .endInValue else failAtNext .invalidNumber
  else
    let (longer, taken, _) := Number.accumulate significand digits
    let power := power - taken
    if (← peek).any isExponentMark then exponentPart positive longer power
    else floating positive longer power

-- A negative zero and a whole number beyond 64 bits are floating.
def wholeNumber (positive : Bool) (significand : Nat) : Read Number :=
  if positive then return .natural significand
  else if significand == 0 || Decimal.twoTo 63 < significand then floating positive significand 0
  else return .negative significand

def number (positive : Bool) : Read Number := do
  match ← peek with
  | none => fail .endInValue
  | some first =>
    if first == '0' then
      skip
      if (← peek).any Char.isDigit then failAtNext .invalidNumber
      else afterWhole 0 0
    else if first.isDigit then
      let digits ← takeWhile Char.isDigit
      let (significand, _, left) := Number.accumulate 0 digits
      afterWhole significand left
    else failAtNext .invalidNumber
where
  afterWhole (significand : Nat) (left : Nat) : Read Number := do
    match ← peek with
    | some '.' => fractionPart positive significand left
    | next =>
      if next.any isExponentMark then exponentPart positive significand left
      else if left == 0 then wholeNumber positive significand
      else floating positive significand left

def ignoreExponent : Read Unit := do
  skip
  let sign ← peek
  if sign == some '+' || sign == some '-' then skip
  if (← peek).any Char.isDigit then
    let _ ← takeWhile Char.isDigit
  else failAtNext .invalidNumber

def ignoreFraction : Read Unit := do
  skip
  let digits ← takeWhile Char.isDigit
  if digits.isEmpty then failAtNext .invalidNumber
  else if (← peek).any isExponentMark then ignoreExponent

def ignoreNumber : Read Unit := do
  let first ← peek
  if first == some '0' then
    skip
    if (← peek).any Char.isDigit then failAtNext .invalidNumber
  else if first.any Char.isDigit then
    let _ ← takeWhile Char.isDigit
  else failAtNext .invalidNumber
  let next ← peek
  if next == some '.' then ignoreFraction
  else if next.any isExponentMark then ignoreExponent

end Read
end Json
end PluginBindings
