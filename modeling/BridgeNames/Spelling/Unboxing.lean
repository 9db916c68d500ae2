import BridgeNames.Spelling.ObjectiveC

/-!
# Unboxing

Scalars, enumerations and decimals are boxed as number objects in collections. A number object has
a method for each type of value that it can hold; the method for a type is looked up by the
spelling of the type.
-/

namespace BridgeNames

/-- Spellings of types with the methods of number objects that give their values. -/
def unboxingMethods : List (String × String) :=
  [("bool", "boolValue"),
    ("unsigned short", "unsignedShortValue"),
    ("signed char", "charValue"),
    ("unsigned char", "unsignedCharValue"),
    ("short", "shortValue"),
    ("int", "intValue"),
    ("unsigned int", "unsignedIntValue"),
    ("long long", "longLongValue"),
    ("unsigned long long", "unsignedLongLongValue"),
    ("float", "floatValue"),
    ("double", "doubleValue"),
    ("NSDecimalNumber *", "decimalValue")]

/-- The method that gives values of the type with the spelling. -/
def unboxingMethod? (spelling : String) : Option String :=
  unboxingMethods.lookup spelling

/-- The method that takes a value of the type out of a number object, if there is one. An
enumeration has that of its underlying scalar, whatever it is called itself. -/
def unboxing (c : Conventions) (t : ManagedType) : Naming (Option String) :=
  match t with
  | .declared { form := .enumeration underlying, .. } =>
    return unboxingMethod? underlying.objectiveC
  | _ => return unboxingMethod? (← ObjectiveC.spell c t)

end BridgeNames
