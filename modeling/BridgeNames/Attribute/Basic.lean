import BridgeNames.Attribute.Constant

/-!
# Attributes

An attribute attached to a type: the attribute's own type, the arguments of its constructor with
their declared types, and the fields and properties it sets by name. Attributes are the same if
all their parts are, values compared by `Constant.sameValue`.
-/

namespace BridgeNames

/-- A constructor argument and the type its parameter is declared with. -/
structure Argument where
  declaredType : String
  value : Constant

/-- A field or property that an attribute sets. -/
structure NamedArgument where
  name : String
  value : Constant
  /-- A field is set, not a property. -/
  isField : Bool

/-- An attribute with its arguments in the order of its declaration. -/
structure Attribute where
  /-- The full name of the attribute's type. -/
  type : String
  arguments : List Argument
  named : List NamedArgument

/-- The full name of the runtime's string type. -/
def runtimeString : String := "System.String"

/-- The argument's parameter is declared as a string, whatever its value is. -/
def Argument.isDeclaredString (a : Argument) : Bool :=
  a.declaredType == runtimeString

/-- The two lists have equal length and their members agree in pairs. -/
def sameList {α : Type} (same : α → α → Bool) : List α → List α → Bool
  | [], [] => true
  | a :: as, b :: bs => same a b && sameList same as bs
  | _, _ => false

/-- The two constructor arguments are the same. -/
def Argument.same (a b : Argument) : Bool :=
  a.declaredType == b.declaredType && a.value.sameValue b.value

/-- The two settings are the same. -/
def NamedArgument.same (a b : NamedArgument) : Bool :=
  a.isField == b.isField && a.name == b.name && a.value.sameValue b.value

/-- The two attributes are the same. -/
def Attribute.same (a b : Attribute) : Bool :=
  a.type == b.type && sameList Argument.same a.arguments b.arguments &&
    sameList NamedArgument.same a.named b.named

end BridgeNames
