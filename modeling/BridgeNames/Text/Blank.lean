/-!
# Blank text

A name is usable only if it shows something. `isBlank` holds of a text made of white space alone,
where white space is the Unicode property `White_Space`: twenty-five characters in ten ranges. A
text is judged whole, so white space around a visible character does no harm.
-/

namespace BridgeNames.Text

/-- The ranges of code points with the property `White_Space`, both ends included. -/
def whiteSpaceRanges : List (Nat × Nat) :=
  [(0x09, 0x0D), (0x20, 0x20), (0x85, 0x85), (0xA0, 0xA0), (0x1680, 0x1680), (0x2000, 0x200A),
    (0x2028, 0x2029), (0x202F, 0x202F), (0x205F, 0x205F), (0x3000, 0x3000)]

/-- The character has the property `White_Space`. -/
def isWhiteSpace (c : Char) : Bool :=
  whiteSpaceRanges.any fun (first, last) => first ≤ c.toNat && c.toNat ≤ last

/-- The text shows nothing: it is empty or holds white space only. -/
def isBlank (text : String) : Bool :=
  text.toList.all isWhiteSpace

end BridgeNames.Text
