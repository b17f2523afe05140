import PluginBindings.Decimal.Binary64
import PluginBindings.Text.Basic

namespace PluginBindings
namespace Decimal

structure Numeral where
  digits : Nat
  power : Int
deriving DecidableEq, Repr

def compareScaled (left : Nat) (power : Int) (right : Nat) (exponent : Int) : Ordering :=
  compare (left * tenTo power.toNat * twoTo (-exponent).toNat)
    (right * twoTo exponent.toNat * tenTo (-power).toNat)

namespace Binary64

-- Below a power of two the neighbours lie half as far apart.
def narrowBelow (value : Binary64) : Bool :=
  value.mantissa == twoTo 52 && leastExponent < value.exponent

-- Numbers with an even mantissa own the points halfway to their neighbours.
def owns (value : Binary64) (numeral : Numeral) : Bool :=
  let low := 4 * value.mantissa - if value.narrowBelow then 1 else 2
  let high := 4 * value.mantissa + 2
  let aboveLow := compareScaled numeral.digits numeral.power low (value.exponent - 2)
  let belowHigh := compareScaled numeral.digits numeral.power high (value.exponent - 2)
  let ends := value.mantissa % 2 == 0
  (aboveLow == .gt || (ends && aboveLow == .eq)) && (belowHigh == .lt || (ends && belowHigh == .eq))

def magnitude (value : Binary64) : Int :=
  if value.denominator ≤ value.numerator then
    (Nat.toDigits 10 (value.numerator / value.denominator)).length
  else
    match (List.range 400).find? fun k => value.denominator ≤ value.numerator * tenTo k with
    | some k => 1 - (k : Int)
    | none => 0

-- In the middle between the two neighbours the even one is the nearer.
def withDigits? (value : Binary64) (count : Nat) : Option Numeral :=
  let power := value.magnitude - count
  let below := value.numerator * tenTo (-power).toNat / (value.denominator * tenTo power.toNat)
  let nearBelow :=
    match compareScaled (2 * below + 1) power (2 * value.mantissa) value.exponent with
    | .gt => true
    | .eq => below % 2 == 0
    | .lt => false
  let nearer : Numeral := ⟨if nearBelow then below else below + 1, power⟩
  let other : Numeral := ⟨if nearBelow then below + 1 else below, power⟩
  if value.owns nearer then some nearer
  else if value.owns other then some other
  else none

-- The fewest digits that read back; seventeen always do.
def shortest (value : Binary64) : Numeral :=
  ((List.range' 1 17).findSome? value.withDigits?).getD ⟨value.mantissa, 0⟩

end Binary64

-- A point always, unless an exponent is written: below -5 and above 15.
def Numeral.text (numeral : Numeral) : Text :=
  let written := Nat.toDigits 10 numeral.digits
  let digits := (written.reverse.dropWhile (· == '0')).reverse
  let exponent : Int := (written.length : Int) - 1 + numeral.power
  if exponent < -5 || 15 < exponent then
    let fraction := digits.drop 1
    let mark := if exponent < 0 then ['e', '-'] else ['e', '+']
    digits.take 1 ++ (if fraction.isEmpty then [] else '.' :: fraction) ++ mark ++
      Text.ofNat exponent.natAbs
  else if exponent < 0 then
    ['0', '.'] ++ List.replicate (exponent.natAbs - 1) '0' ++ digits
  else
    let places := exponent.toNat + 1
    let whole := digits.take places ++ List.replicate (places - digits.length) '0'
    let fraction := digits.drop places
    whole ++ ['.'] ++ if fraction.isEmpty then ['0'] else fraction

def Binary64.text (value : Binary64) : Text :=
  if value.mantissa = 0 then ['0', '.', '0'] else value.shortest.text

end Decimal
end PluginBindings
