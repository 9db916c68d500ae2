import BridgeNames.ManagedType.Category

/-!
# Equality of managed types

Two types are the same if all their parts are, down to the attributes of the elements they wrap.
Attribute values are compared by `Constant.sameValue`, so a type with an attribute that holds
what is not a number differs from itself. The names, flags and codes of a type follow from its
parts and need no comparison of their own.
-/

namespace BridgeNames

/-- The two attribute lists are the same. -/
def sameAttributes (as bs : List Attribute) : Bool :=
  sameList Attribute.same as bs

/-- The two declared types are the same. -/
def Declared.same (a b : Declared) : Bool :=
  a.nameSpace == b.nameSpace && a.name == b.name && a.outer == b.outer && a.form == b.form &&
    sameAttributes a.attributes b.attributes

/-- The two types are the same. -/
def ManagedType.same : ManagedType → ManagedType → Bool
  | .declared a, .declared b => a.same b
  | .wrapped v a as, .wrapped w b bs => v == w && a.same b && sameAttributes as bs
  | _, _ => false

/-- The two categories are the same. Natures are compared as such: two enumerations have one
category whatever they are. -/
def Category.same : Category → Category → Bool
  | .byRef a, .byRef b => a.same b
  | .array a, .array b => a.same b
  | .declared m, .declared n => m == n
  | _, _ => false

end BridgeNames
