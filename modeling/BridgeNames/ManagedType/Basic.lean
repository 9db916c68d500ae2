import BridgeNames.Attribute.Basic
import BridgeNames.TypeCode

/-!
# Managed types

A managed type is either declared under a name or wraps another type, as an array of it or as a
reference to it. A declared type keeps the namespace and simple name it is declared with, the full
name of the type around it if it is nested, and its form; a wrapper keeps its element. All names of
a type follow from these: the full name of a nested type starts with the full name of the type
around it, and the names of a wrapper are those of its element with the wrapper's mark behind them.

The structural flags and the code that the runtime reports for a type are computed from its form,
so they cannot contradict it.
-/

namespace BridgeNames

/-- What a declared type is. -/
inductive Form where
  /-- A class. -/
  | reference
  /-- An interface. -/
  | interface
  /-- A structure. -/
  | value
  /-- An enumeration with its underlying scalar. -/
  | enumeration (underlying : ScalarKind)
  /-- A scalar of the runtime. -/
  | scalar (kind : ScalarKind)
  /-- The decimal type of the runtime. -/
  | decimal
  /-- The string type of the runtime. -/
  | string
  deriving DecidableEq

/-- A type declared under a name. -/
structure Declared where
  /-- The namespace, which can be empty. -/
  nameSpace : String
  /-- The simple name. -/
  name : String
  /-- The full name of the type around it, if it is nested. -/
  outer : Option String
  form : Form
  /-- The attributes attached to the type, in order. -/
  attributes : List Attribute

/-- A way to make a type from another one. -/
inductive Wrapper where
  /-- A one-dimensional array. -/
  | array
  /-- A managed reference. -/
  | byRef
  deriving DecidableEq

/-- A type of the runtime. -/
inductive ManagedType where
  | declared (type : Declared)
  | wrapped (wrapper : Wrapper) (element : ManagedType) (attributes : List Attribute)

/-- The mark that the wrapper puts behind the names of its element. -/
def Wrapper.mark : Wrapper → String
  | .array => "[]"
  | .byRef => "&"

/-- The name with its namespace, or with the name of the type around it. -/
def Declared.fullName (d : Declared) : String :=
  match d.outer with
  | some outer => outer ++ "+" ++ d.name
  | none => if d.nameSpace = "" then d.name else d.nameSpace ++ "." ++ d.name

/-- The structural flags that the runtime reports. -/
inductive TypeFlag where
  | classType
  | enumType
  | arrayType
  | byRefType
  | interfaceType
  | valueType
  deriving DecidableEq

namespace TypeFlag

/-- The flags in the order of their bits. -/
def all : List TypeFlag :=
  [.classType, .enumType, .arrayType, .byRefType, .interfaceType, .valueType]

/-- The bit of the flag. -/
def bit : TypeFlag → Nat
  | .classType => 1
  | .enumType => 2
  | .arrayType => 4
  | .byRefType => 8
  | .interfaceType => 16
  | .valueType => 32

end TypeFlag

namespace Form

/-- The flags of a type of the form. Strings are classes; scalars and decimal are values. -/
def flags : Form → List TypeFlag
  | .reference | .string => [.classType]
  | .interface => [.interfaceType]
  | .value | .scalar _ | .decimal => [.valueType]
  | .enumeration _ => [.enumType, .valueType]

/-- The code of a type of the form. An enumeration has the code of its underlying scalar. -/
def typeCode : Form → TypeCode
  | .reference | .interface | .value => .object
  | .enumeration underlying => .scalar underlying
  | .scalar kind => .scalar kind
  | .decimal => .decimal
  | .string => .string

end Form

/-- The flags of a wrapper. An array is a class; a reference is nothing else. -/
def Wrapper.flags : Wrapper → List TypeFlag
  | .array => [.classType, .arrayType]
  | .byRef => [.byRefType]

namespace ManagedType

/-- The simple name. -/
def name : ManagedType → String
  | .declared d => d.name
  | .wrapped wrapper element _ => element.name ++ wrapper.mark

/-- The name that identifies the type. -/
def fullName : ManagedType → String
  | .declared d => d.fullName
  | .wrapped wrapper element _ => element.fullName ++ wrapper.mark

/-- The namespace, which for a wrapper is that of its element. -/
def nameSpace : ManagedType → String
  | .declared d => d.nameSpace
  | .wrapped _ element _ => element.nameSpace

/-- The structural flags. -/
def flags : ManagedType → List TypeFlag
  | .declared d => d.form.flags
  | .wrapped wrapper _ _ => wrapper.flags

/-- The type has the flag. -/
def is (t : ManagedType) (flag : TypeFlag) : Bool :=
  t.flags.contains flag

/-- The flags as one number, a bit for each. -/
def flagBits (t : ManagedType) : Nat :=
  (t.flags.map TypeFlag.bit).foldr (· + ·) 0

/-- The runtime's code, which for a wrapper is that of the root object. -/
def typeCode : ManagedType → TypeCode
  | .declared d => d.form.typeCode
  | .wrapped _ _ _ => .object

/-- The type that a wrapper wraps. -/
def element? : ManagedType → Option ManagedType
  | .declared _ => none
  | .wrapped _ element _ => some element

/-- The attributes attached to the type itself, in order. -/
def attributes : ManagedType → List Attribute
  | .declared d => d.attributes
  | .wrapped _ _ attributes => attributes

/-- The attached attributes of one attribute type. -/
def attributesNamed (t : ManagedType) (attributeType : String) : List Attribute :=
  t.attributes.filter (·.type == attributeType)

/-- The declared type inside all wrappers. -/
def base : ManagedType → Declared
  | .declared d => d
  | .wrapped _ element _ => element.base

/-- The wrappers around the declared type, the outermost first. -/
def wrappers : ManagedType → List Wrapper
  | .declared _ => []
  | .wrapped wrapper element _ => wrapper :: element.wrappers

end ManagedType

end BridgeNames
