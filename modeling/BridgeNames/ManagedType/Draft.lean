import BridgeNames.ManagedType.Basic

/-!
# Drafts of managed types

A reader of metadata describes a type step by step: what it is, where it is nested, which
attributes are attached. The description is a draft, and `Draft.build` turns it into a type unless
it contradicts itself. A draft has one of three defects, and of several the first in this order is
the one that is found: a declared type has no name; a wrapper is nested; an enumeration is based on
something else than an integer.
-/

namespace BridgeNames

/-- Why a draft describes no type. -/
inductive Defect where
  | emptyName
  /-- The wrapper with this simple name is nested in another type. -/
  | nestedWrapper (name : String)
  /-- The enumeration with this simple name is based on the code. -/
  | nonIntegerEnumeration (name : String) (underlying : TypeCode)
  /-- Another defect, in the words of whoever found it. -/
  | stated (text : String)
  deriving DecidableEq

/-- The defect in words. -/
def Defect.message : Defect → String
  | .emptyName => "Type name must not be empty"
  | .nestedWrapper name => s!"Array or by-reference type '{name}' can not be nested"
  | .nonIntegerEnumeration name underlying =>
    s!"Enum '{name}' has non-integer underlying type {underlying.runtimeName}"
  | .stated text => text

/-- What a draft describes. -/
inductive Subject where
  | named (nameSpace name : String) (form : Form)
  | enumeration (nameSpace name : String) (underlying : TypeCode)
  | wrapper (wrapper : Wrapper) (element : ManagedType)

/-- The type around a nested type: its namespace, which the nested type takes over, and its full
name. -/
structure Surroundings where
  nameSpace : String
  fullName : String

/-- A type being described. -/
structure Draft where
  subject : Subject
  /-- The type around it, if it is nested. -/
  surroundings : Option Surroundings
  /-- The attributes attached so far, in order. -/
  attributes : List Attribute

namespace Draft

/-- A draft with neither surroundings nor attributes. -/
def of (subject : Subject) : Draft := ⟨subject, none, []⟩

/-- A class. -/
def classType (nameSpace name : String) : Draft := of (.named nameSpace name .reference)

/-- An interface. -/
def interfaceType (nameSpace name : String) : Draft := of (.named nameSpace name .interface)

/-- A structure. -/
def structureType (nameSpace name : String) : Draft := of (.named nameSpace name .value)

/-- An enumeration with its underlying type. -/
def enumType (nameSpace name : String) (underlying : TypeCode) : Draft :=
  of (.enumeration nameSpace name underlying)

/-- The root of all types. -/
def rootObject : Draft := classType "System" "Object"

/-- The root of all structures, which is a class itself. -/
def rootValue : Draft := classType "System" "ValueType"

/-- The type without values. -/
def void : Draft := structureType "System" "Void"

/-- The runtime's own type with the code. -/
def builtIn (code : TypeCode) : Draft :=
  match code with
  | .object => rootObject
  | .string => of (.named "System" code.runtimeName .string)
  | .decimal => of (.named "System" code.runtimeName .decimal)
  | .scalar kind => of (.named "System" code.runtimeName (.scalar kind))

/-- An array of the element. -/
def array (element : ManagedType) : Draft := of (.wrapper .array element)

/-- A reference to the element. -/
def byRef (element : ManagedType) : Draft := of (.wrapper .byRef element)

/-- The draft nested in another type. Only the last nesting counts. -/
def inside (d : Draft) (outer : ManagedType) : Draft :=
  { d with surroundings := some ⟨outer.nameSpace, outer.fullName⟩ }

/-- The draft with one more attribute behind those it has. -/
def attach (d : Draft) (added : Attribute) : Draft :=
  { d with attributes := d.attributes ++ [added] }

/-- The declared type of the draft under a name and with a form. -/
def declare (d : Draft) (nameSpace name : String) (form : Form) : ManagedType :=
  .declared
    { nameSpace := (d.surroundings.map Surroundings.nameSpace).getD nameSpace
      name := name
      outer := d.surroundings.map Surroundings.fullName
      form := form
      attributes := d.attributes }

/-- The type that the draft describes, or the first defect of the draft. -/
def build (d : Draft) : Except Defect ManagedType :=
  match d.subject with
  | .named nameSpace name form =>
    if name = "" then .error .emptyName else .ok (d.declare nameSpace name form)
  | .enumeration nameSpace name underlying =>
    if name = "" then .error .emptyName
    else
      match underlying with
      | .scalar kind =>
        if kind.isInteger then .ok (d.declare nameSpace name (.enumeration kind))
        else .error (.nonIntegerEnumeration name underlying)
      | _ => .error (.nonIntegerEnumeration name underlying)
  | .wrapper wrapper element =>
    if d.surroundings.isSome then .error (.nestedWrapper (element.name ++ wrapper.mark))
    else .ok (.wrapped wrapper element d.attributes)

end Draft

end BridgeNames
