import BridgeNames.ManagedType.Category

/-!
# Type descriptors

A reader of metadata hands types over as descriptors. A descriptor is a flat record: the names, the
structural flags as bits, the element of a wrapper, the code and the attributes each have a field
of their own, and nothing in the record makes the fields agree. `category` therefore asks them in a
fixed order, the mark of a reference first, then that of an enumeration, then that of an array, and
the code last. A wrapper without an element is passed over on the way, and a code that decides
nothing leaves a named object.

`ManagedType` is what a descriptor stands for, with the dependent fields left out.
-/

namespace BridgeNames

namespace TypeFlag

/-- The flags with only this one set. -/
def mask (flag : TypeFlag) : BitVec 8 :=
  BitVec.ofNat 8 flag.bit

/-- The flag is one of those that are set. -/
def isIn (flag : TypeFlag) (flags : BitVec 8) : Bool :=
  flags &&& flag.mask == flag.mask

end TypeFlag

/-- A type as it is handed over. -/
structure Descriptor where
  /-- The name that identifies the type. -/
  fullName : String
  /-- The simple name. -/
  name : String
  /-- The namespace, which can be empty. -/
  nameSpace : String
  /-- The structural flags, a bit for each. -/
  flags : BitVec 8
  /-- The type that an array or a reference is made from. -/
  element : Option Descriptor
  /-- The runtime's code. -/
  typeCode : TypeCode
  /-- The attached attributes, in order. -/
  attributes : List Attribute

namespace Descriptor

/-- What a descriptor says that a type is for a binding. -/
inductive Category where
  | byRef (element : Descriptor)
  | array (element : Descriptor)
  | declared (nature : Nature)

/-- The flag is set. -/
def has (d : Descriptor) (flag : TypeFlag) : Bool :=
  flag.isIn d.flags

/-- The nature by the code. The code of the root object leaves it to the names. -/
def nature (d : Descriptor) : Nature :=
  match d.typeCode with
  | .string => .string
  | .decimal => .decimal
  | .object => .ofName d.nameSpace d.name
  | code =>
    match code.scalar? with
    | some kind => .scalar kind
    | none => .namedObject

/-- The category of the type. -/
def category (d : Descriptor) : Category :=
  match d.has .byRefType, d.element with
  | true, some element => .byRef element
  | _, _ =>
    if d.has .enumType then .declared .enumeration
    else
      match d.has .arrayType, d.element with
      | true, some element => .array element
      | _, _ => .declared d.nature

end Descriptor

end BridgeNames
