import PluginBindings.Report.Fault

namespace PluginBindings

inductive Pattern where
  | parameterEntry (unit : Text)
  | handleLine (type : Text)
  | handleEntry (type : Text)
deriving DecidableEq, Repr

-- A pattern that comes out larger than the limit is refused.
class PatternEngine where
  size : Pattern → Nat
  limit : Nat

namespace Pattern

def literal : Pattern → Text
  | parameterEntry text | handleLine text | handleEntry text => text

def Fits [PatternEngine] (pattern : Pattern) : Prop :=
  PatternEngine.size pattern ≤ PatternEngine.limit

instance [PatternEngine] (pattern : Pattern) : Decidable pattern.Fits :=
  inferInstanceAs (Decidable (_ ≤ _))

def compile [PatternEngine] (pattern : Pattern) : Except Fault Unit :=
  if pattern.Fits then .ok () else .error (.patternTooBig PatternEngine.limit)

end Pattern

-- A state of 32 bytes for each byte of the text, and 10 MiB for all of them.
@[reducible] def PatternEngine.standard : PatternEngine where
  size pattern := 32 * Text.byteCount pattern.literal
  limit := 10 * 1024 * 1024

theorem Pattern.fits_standard (pattern : Pattern) :
    @Pattern.Fits .standard pattern ↔ Text.byteCount pattern.literal ≤ 327680 := by
  change 32 * Text.byteCount pattern.literal ≤ 10 * 1024 * 1024 ↔ _
  omega

end PluginBindings
