import BridgeNames.ManagedType.Basic

/-!
# Categories of managed types

How a type is spelled depends on its category. A wrapper's category is the wrapper with its
element. A declared type has a nature: enumerations, scalars, strings and decimals by their form,
and three types of the namespace `System` by their names, the two roots and the type without
values. Every other declared type is a named object.

The roots and the void type are told by namespace and simple name. A nested type has the namespace
of the type around it, so one that is called `Void` and nested in a type of `System` has the nature
of the void type although its full name differs.
-/

namespace BridgeNames

/-- What a declared type is for a binding. -/
inductive Nature where
  | enumeration
  | scalar (kind : ScalarKind)
  | string
  | decimal
  /-- A root of the type hierarchy. -/
  | rootObject
  /-- The type without values. -/
  | void
  /-- Any other class, interface or structure. -/
  | namedObject
  deriving DecidableEq

/-- What a type is for a binding. -/
inductive Category where
  | byRef (element : ManagedType)
  | array (element : ManagedType)
  | declared (nature : Nature)

/-- The nature of a class, interface or structure with the namespace and simple name. -/
def Nature.ofName (nameSpace name : String) : Nature :=
  if nameSpace = "System" then
    if name = "Object" ∨ name = "ValueType" then .rootObject
    else if name = "Void" then .void
    else .namedObject
  else .namedObject

/-- The nature of a declared type. -/
def Declared.nature (d : Declared) : Nature :=
  match d.form with
  | .enumeration _ => .enumeration
  | .scalar kind => .scalar kind
  | .string => .string
  | .decimal => .decimal
  | .reference | .interface | .value => .ofName d.nameSpace d.name

/-- The category of a type. -/
def ManagedType.category : ManagedType → Category
  | .declared d => .declared d.nature
  | .wrapped .byRef element _ => .byRef element
  | .wrapped .array element _ => .array element

/-- The type is a class, interface, structure or enumeration with a name of its own. -/
def ManagedType.hasOwnName (t : ManagedType) : Bool :=
  match t with
  | .declared d => d.nature == .namedObject || d.nature == .enumeration
  | .wrapped _ _ _ => false

/-- Values of the category are boxed as number objects in collections. -/
def Category.isBoxedNumber : Category → Bool
  | .declared .enumeration | .declared (.scalar _) => true
  | _ => false

/-- The text of a nature. -/
def Nature.text : Nature → String
  | .enumeration => "Enum"
  | .scalar kind => s!"Primitive({kind.runtimeName})"
  | .string => "String"
  | .decimal => "Decimal"
  | .rootObject => "RootObject"
  | .void => "Void"
  | .namedObject => "NamedObject"

/-- The text of a type's category, down to the declared type inside all wrappers. -/
def ManagedType.categoryText : ManagedType → String
  | .declared d => d.nature.text
  | .wrapped .byRef element _ => "ByReference(" ++ element.categoryText ++ ")"
  | .wrapped .array element _ => "Array(" ++ element.categoryText ++ ")"

end BridgeNames
