import BridgeNames.Descriptor.Basic
import BridgeNames.ManagedType.Draft

/-!
# Building descriptors

A builder holds a descriptor in the making. Each way to begin one sets the flags, the code, the
element and the names separately; nesting it replaces the namespace, and attaching adds an
attribute. `Builder.build` looks for the first defect and then computes the full name.

The full name of a wrapper is that of its element with the rest of the wrapper's simple name behind
it: what is left from the byte on at which the element's simple name ends. Cutting a text at a byte
can go wrong, beyond the end or inside of a character, and then building gives nothing at all, not
even a defect.
-/

namespace BridgeNames

/-- The text from the byte on, unless the text ends before it or it is inside of a character. -/
def Text.fromByte? (text : String) (start : Nat) : Option String :=
  if h : String.Pos.Raw.IsValid text ⟨start⟩ then some (text.sliceFrom ⟨⟨start⟩, h⟩).copy else none

/-- From the end of its first part on, a text reads as its second part. -/
theorem Text.fromByte?_append (before rest : String) :
    fromByte? (before ++ rest) before.utf8ByteSize = some rest := by
  have hvalid : String.Pos.Raw.IsValid (before ++ rest) ⟨before.utf8ByteSize⟩ :=
    String.Pos.Raw.isValid_iff_exists_append.mpr ⟨before, rest, rfl, rfl⟩
  have hsplits : String.Pos.Splits (⟨⟨before.utf8ByteSize⟩, hvalid⟩ : (before ++ rest).Pos)
      before rest := ⟨rfl, rfl⟩
  rw [fromByte?, dif_pos hvalid, ((String.Pos.splits _).eq hsplits).2]

/-- A descriptor in the making. -/
structure Builder where
  nameSpace : String
  name : String
  flags : BitVec 8
  typeCode : TypeCode
  element : Option Descriptor
  /-- The full name of the type around it, if it is nested. -/
  declaringType : Option String
  /-- The attributes attached so far, in order. -/
  attributes : List Attribute

namespace Builder

/-- A type under a name. -/
def named (nameSpace name : String) (flags : BitVec 8) (typeCode : TypeCode) : Builder :=
  ⟨nameSpace, name, flags, typeCode, none, none, []⟩

/-- A type made from the element, with a mark behind its simple name. -/
def wrapping (element : Descriptor) (mark : String) (flags : BitVec 8) : Builder :=
  ⟨element.nameSpace, element.name ++ mark, flags, .object, some element, none, []⟩

/-- A class. -/
def classType (nameSpace name : String) : Builder :=
  named nameSpace name TypeFlag.classType.mask .object

/-- An interface. -/
def interfaceType (nameSpace name : String) : Builder :=
  named nameSpace name TypeFlag.interfaceType.mask .object

/-- A structure. -/
def structureType (nameSpace name : String) : Builder :=
  named nameSpace name TypeFlag.valueType.mask .object

/-- An enumeration, which has the code of its underlying type. -/
def enumType (nameSpace name : String) (underlying : TypeCode) : Builder :=
  named nameSpace name (TypeFlag.enumType.mask ||| TypeFlag.valueType.mask) underlying

/-- The root of all types. -/
def rootObject : Builder := named "System" "Object" TypeFlag.classType.mask .object

/-- The root of all structures, which is a class itself. -/
def rootValue : Builder := named "System" "ValueType" TypeFlag.classType.mask .object

/-- The type without values. -/
def void : Builder := named "System" "Void" TypeFlag.valueType.mask .object

/-- The runtime's own type with the code. The string type is a class. -/
def builtIn (code : TypeCode) : Builder :=
  match code with
  | .object => rootObject
  | .string => named "System" "String" TypeFlag.classType.mask code
  | _ => named "System" code.runtimeName TypeFlag.valueType.mask code

/-- An array of the element. -/
def array (element : Descriptor) : Builder :=
  wrapping element "[]" (TypeFlag.arrayType.mask ||| TypeFlag.classType.mask)

/-- A reference to the element. -/
def byRef (element : Descriptor) : Builder :=
  wrapping element "&" TypeFlag.byRefType.mask

/-- The builder nested in another type. The namespace that it had is replaced. -/
def inside (b : Builder) (outer : Descriptor) : Builder :=
  { b with nameSpace := outer.nameSpace, declaringType := some outer.fullName }

/-- The builder with one more attribute behind those it has. -/
def attach (b : Builder) (added : Attribute) : Builder :=
  { b with attributes := b.attributes ++ [added] }

/-- The first defect. -/
def defect? (b : Builder) : Option Defect :=
  if b.name = "" then some .emptyName
  else if b.element.isSome ∧ b.declaringType.isSome then some (.nestedWrapper b.name)
  else if TypeFlag.enumType.isIn b.flags ∧ ¬ b.typeCode.scalar?.any ScalarKind.isInteger then
    some (.nonIntegerEnumeration b.name b.typeCode)
  else none

/-- The full name, unless the simple name of a wrapper cannot be cut where that of its element
ends. -/
def fullName? (b : Builder) : Option String :=
  match b.declaringType, b.element with
  | some outer, _ => some (outer ++ "+" ++ b.name)
  | none, some element =>
    (Text.fromByte? b.name element.name.utf8ByteSize).map fun rest => element.fullName ++ rest
  | none, none => some (if b.nameSpace = "" then b.name else b.nameSpace ++ "." ++ b.name)

/-- The descriptor with this full name. -/
def finish (b : Builder) (fullName : String) : Descriptor :=
  { fullName := fullName
    name := b.name
    nameSpace := b.nameSpace
    flags := b.flags
    element := b.element
    typeCode := b.typeCode
    attributes := b.attributes }

/-- The descriptor that is built, or the first defect. There is neither if the full name cannot be
computed. -/
def build (b : Builder) : Option (Except Defect Descriptor) :=
  match b.defect? with
  | some defect => some (.error defect)
  | none => b.fullName?.map fun fullName => .ok (b.finish fullName)

end Builder

end BridgeNames
