/-!
# Binary floating-point words

A word of a binary interchange format is read as a number: `± significand · 2 ^ exponent`, an
infinity, or no number at all. The reading is exact and uses natural numbers only, and each finite
word has a reading of its own, so two words stand for the same number exactly when their readings
agree or both are zero.
-/

namespace BridgeNames.Decimal

/-- A binary interchange format, by the widths of its two fields below the sign bit. -/
structure Format where
  /-- The bits of the fraction, the lowest field. -/
  fractionBits : Nat
  /-- The bits of the biased exponent, between fraction and sign. -/
  exponentBits : Nat

/-- The 32-bit format. -/
def Format.single : Format := ⟨23, 8⟩

/-- The 64-bit format. -/
def Format.double : Format := ⟨52, 11⟩

/-- A positive or zero value `significand · 2 ^ exponent` of a format. -/
structure Magnitude where
  significand : Nat
  exponent : Int
  /-- The value is the least with its exponent, so its lower neighbour is half as far away as its
  upper one. -/
  isLowest : Bool
  deriving DecidableEq

/-- What a word of a format stands for. -/
inductive Reading where
  | notANumber
  | infinite (negative : Bool)
  | finite (negative : Bool) (magnitude : Magnitude)
  deriving DecidableEq

namespace Format

/-- The lowest exponent of the format, that of its subnormal values. -/
def lowestExponent (format : Format) : Int :=
  2 - Nat.pow 2 (format.exponentBits - 1) - format.fractionBits

/-- Reads a word of the format: the sign bit, the biased exponent, and the fraction. An exponent
of all ones stands for no finite value; an exponent of zero has no leading one. -/
def read (format : Format) (word : Nat) : Reading :=
  let fraction := word % Nat.pow 2 format.fractionBits
  let biased := word / Nat.pow 2 format.fractionBits % Nat.pow 2 format.exponentBits
  let negative := word / Nat.pow 2 (format.fractionBits + format.exponentBits) % 2 == 1
  if biased = Nat.pow 2 format.exponentBits - 1 then
    if fraction = 0 then .infinite negative else .notANumber
  else if biased = 0 then
    .finite negative ⟨fraction, format.lowestExponent, false⟩
  else
    .finite negative ⟨Nat.pow 2 format.fractionBits + fraction,
      format.lowestExponent + (biased - 1), fraction == 0 && biased != 1⟩

end Format

/-- The two words stand for the same number. Nothing equals what is not a number, and the two
zeros are one number. -/
def Reading.sameNumber : Reading → Reading → Bool
  | .infinite s, .infinite t => s == t
  | .finite s m, .finite t n => m == n && (s == t || m.significand == 0)
  | _, _ => false

end BridgeNames.Decimal
