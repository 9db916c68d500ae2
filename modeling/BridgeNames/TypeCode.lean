/-!
# Type codes

The runtime classifies every type by a code. Twelve codes stand for the scalars, fixed-size values
that a number object can box; decimal and text have codes of their own; every other type, classes
and structures alike, has the code of the root object.
-/

namespace BridgeNames

/-- The scalars of the runtime. -/
inductive ScalarKind where
  | boolean
  | character
  | int8
  | uint8
  | int16
  | uint16
  | int32
  | uint32
  | int64
  | uint64
  | single
  | double
  deriving DecidableEq

namespace ScalarKind

/-- The scalars in the order of their codes. -/
def all : List ScalarKind :=
  [.boolean, .character, .int8, .uint8, .int16, .uint16, .int32, .uint32, .int64, .uint64, .single,
    .double]

/-- The simple name of the scalar's type in the namespace `System`. -/
def runtimeName : ScalarKind → String
  | .boolean => "Boolean"
  | .character => "Char"
  | .int8 => "SByte"
  | .uint8 => "Byte"
  | .int16 => "Int16"
  | .uint16 => "UInt16"
  | .int32 => "Int32"
  | .uint32 => "UInt32"
  | .int64 => "Int64"
  | .uint64 => "UInt64"
  | .single => "Single"
  | .double => "Double"

/-- The scalar is an integer, so that an enumeration can be based on it. -/
def isInteger : ScalarKind → Bool
  | .boolean | .character | .single | .double => false
  | _ => true

end ScalarKind

/-- The runtime's classification of a type. -/
inductive TypeCode where
  | scalar (kind : ScalarKind)
  | decimal
  | string
  | object
  deriving DecidableEq

namespace TypeCode

/-- The codes in their order. -/
def all : List TypeCode :=
  ScalarKind.all.map .scalar ++ [.decimal, .string, .object]

/-- The simple name of the type in the namespace `System` that has the code. -/
def runtimeName : TypeCode → String
  | .scalar kind => kind.runtimeName
  | .decimal => "Decimal"
  | .string => "String"
  | .object => "Object"

/-- The scalar that the code stands for. -/
def scalar? : TypeCode → Option ScalarKind
  | .scalar kind => some kind
  | _ => none

end TypeCode

end BridgeNames
