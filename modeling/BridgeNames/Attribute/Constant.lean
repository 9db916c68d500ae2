import BridgeNames.Decimal.Positional

/-!
# Attribute values

The values that an attribute's arguments carry, as decoded from metadata. Integers keep the width
they were stored in, floating-point values are the stored words, and arrays and enumeration values
hold further values.

A value has a text, in which messages show it, and an equality of its own, `sameValue`: it compares
contents, but floating-point words as the numbers they stand for. So it is neither finer nor
coarser than `=`: the two zeros are the same value, and what is not a number differs from itself.
-/

namespace BridgeNames

/-- The widths of integers in metadata. -/
inductive IntegerWidth where
  | int8
  | uint8
  | int16
  | uint16
  | int32
  | uint32
  | int64
  | uint64
  deriving DecidableEq

/-- A value in an attribute. -/
inductive Constant where
  | boolean (value : Bool)
  | character (value : Char)
  | integer (width : IntegerWidth) (value : Int)
  /-- A 32-bit floating-point word. -/
  | single (word : UInt32)
  /-- A 64-bit floating-point word. -/
  | double (word : UInt64)
  | string (value : String)
  | null
  /-- A type, by its name. -/
  | typeName (name : String)
  | array (values : List Constant)
  /-- A value of the named enumeration. -/
  | enumeration (type : String) (value : Constant)

namespace Constant

/-- The string that the value is, if it is one. -/
def string? : Constant → Option String
  | .string value => some value
  | _ => none

mutual

/-- The text of a value. Quotes are put around characters and strings, and nothing in them is
escaped. -/
def text : Constant → String
  | .boolean value => if value then "true" else "false"
  | .character value => "'" ++ value.toString ++ "'"
  | .integer _ value => toString value
  | .single word => (Decimal.Format.single.read word.toNat).text
  | .double word => (Decimal.Format.double.read word.toNat).text
  | .string value => "\"" ++ value ++ "\""
  | .null => "null"
  | .typeName name => "typeof(" ++ name ++ ")"
  | .array values => "[" ++ ", ".intercalate (texts values) ++ "]"
  | .enumeration type value => "(" ++ type ++ ")" ++ value.text

/-- The texts of the values of a list. -/
def texts : List Constant → List String
  | [] => []
  | value :: rest => value.text :: texts rest

end

mutual

/-- The two values are the same, floating-point words compared as numbers. -/
def sameValue : Constant → Constant → Bool
  | .boolean a, .boolean b => a == b
  | .character a, .character b => a == b
  | .integer v a, .integer w b => v == w && a == b
  | .single a, .single b =>
    (Decimal.Format.single.read a.toNat).sameNumber (Decimal.Format.single.read b.toNat)
  | .double a, .double b =>
    (Decimal.Format.double.read a.toNat).sameNumber (Decimal.Format.double.read b.toNat)
  | .string a, .string b => a == b
  | .null, .null => true
  | .typeName a, .typeName b => a == b
  | .array a, .array b => sameValues a b
  | .enumeration s a, .enumeration t b => s == t && a.sameValue b
  | _, _ => false

/-- The two lists have the same values in the same order. -/
def sameValues : List Constant → List Constant → Bool
  | [], [] => true
  | a :: as, b :: bs => a.sameValue b && sameValues as bs
  | _, _ => false

end

end Constant

end BridgeNames
