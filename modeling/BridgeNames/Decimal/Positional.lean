import BridgeNames.Decimal.Shortest

/-!
# Numbers in positional notation

A floating-point word is written with the fewest digits that read back, all of them in positional
notation: no exponent however large or small the number, and no point after a whole number. A sign
is written whenever the sign bit is set, also before zero, but never before `NaN`.
-/

namespace BridgeNames.Decimal

/-- `digits · 10 ^ power` written out. A negative power puts the point that many places from the
right, with zeros in front where the digits do not reach. -/
def Scaled.positional (n : Scaled) : String :=
  let digits := Nat.toDigits 10 n.digits
  match n.power with
  | .ofNat zeros => String.ofList (digits ++ List.replicate zeros '0')
  | .negSucc k =>
    let places := k + 1
    let padded := List.replicate (places + 1 - digits.length) '0' ++ digits
    let whole := padded.length - places
    String.ofList (padded.take whole ++ '.' :: padded.drop whole)

/-- The text of a finite value without its sign. -/
def Magnitude.text (m : Magnitude) : String :=
  if m.significand = 0 then "0" else (shortest m).positional

/-- The text of a number, or of what is no number. -/
def Reading.text : Reading → String
  | .notANumber => "NaN"
  | .infinite negative => (if negative then "-" else "") ++ "inf"
  | .finite negative m => (if negative then "-" else "") ++ m.text

end BridgeNames.Decimal
