namespace PluginBindings
namespace Decimal

-- `mantissa * 2 ^ exponent`, with 53 bits unless the exponent is the least one.
structure Binary64 where
  mantissa : Nat
  exponent : Int
deriving DecidableEq, Repr

def leastExponent : Int := -1074

def greatestExponent : Int := 971

def twoTo (power : Nat) : Nat := Nat.pow 2 power

def tenTo (power : Nat) : Nat := Nat.pow 10 power

def roundQuotient (numerator denominator : Nat) : Nat :=
  let quotient := numerator / denominator
  let twice := 2 * (numerator % denominator)
  if twice < denominator || (twice == denominator && quotient % 2 == 0) then quotient
  else quotient + 1

namespace Binary64

def zero : Binary64 := ⟨0, leastExponent⟩

def numerator (value : Binary64) : Nat := value.mantissa * twoTo value.exponent.toNat

def denominator (value : Binary64) : Nat := twoTo (-value.exponent).toNat

def ofQuotient? (numerator denominator : Nat) : Option Binary64 :=
  if numerator = 0 then some zero
  else
    let estimate : Int := (numerator.log2 : Int) - denominator.log2
    let reached := denominator * twoTo estimate.toNat ≤ numerator * twoTo (-estimate).toNat
    let leading := if reached then estimate else estimate - 1
    let exponent := max (leading - 52) leastExponent
    let mantissa :=
      roundQuotient (numerator * twoTo (-exponent).toNat) (denominator * twoTo exponent.toNat)
    let value : Binary64 :=
      if mantissa = twoTo 53 then ⟨twoTo 52, exponent + 1⟩ else ⟨mantissa, exponent⟩
    if greatestExponent < value.exponent then none else some value

def mul? (left right : Binary64) : Option Binary64 :=
  ofQuotient? (left.numerator * right.numerator) (left.denominator * right.denominator)

def div? (left right : Binary64) : Option Binary64 :=
  ofQuotient? (left.numerator * right.denominator) (left.denominator * right.numerator)

def powerOfTen? (power : Nat) : Option Binary64 := ofQuotient? (tenTo power) 1

-- Powers of ten up to 308 are numbers themselves, and smaller scales divide by the greatest of
-- them first. So the result is near the decimal written, not always the nearest.
def scaled? : (steps : Nat) → Binary64 → Int → Option Binary64
  | steps, value, power =>
    if power.natAbs ≤ 308 then do
      let factor ← powerOfTen? power.natAbs
      if 0 ≤ power then value.mul? factor else value.div? factor
    else if value.mantissa = 0 then some value
    else if 0 ≤ power then none
    else match steps with
      | 0 => none
      | steps + 1 => do scaled? steps (← value.div? (← powerOfTen? 308)) (power + 308)

def ofDecimal? (significand : Nat) (power : Int) : Option Binary64 := do
  scaled? (power.natAbs / 308) (← ofQuotient? significand 1) power

end Binary64
end Decimal
end PluginBindings
