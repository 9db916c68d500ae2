/-!
# Suggested identifiers

The identifiers that suit arguments of the common types of Objective-C, looked up by the spelling
of the type.
-/

namespace BridgeNames.Parameter

/-- Spellings of types with the identifiers that suit their arguments. -/
def suggestions : List (String × String) :=
  [("bool", "aBool"),
    ("unsigned short", "aUshort"),
    ("signed char", "aSbyte"),
    ("unsigned char", "aByte"),
    ("short", "aShort"),
    ("int", "anInt"),
    ("unsigned int", "aUint"),
    ("long long", "aLong"),
    ("unsigned long long", "aUlong"),
    ("float", "aFloat"),
    ("double", "aDouble"),
    ("NSString *", "aString"),
    ("NSDecimalNumber *", "aDecimal"),
    ("NSData *", "aData"),
    ("NSObject", "anObject")]

/-- The identifier that suits an argument of the type with the spelling. -/
def suggestion? (spelling : String) : Option String :=
  suggestions.lookup spelling

/-- There is an identifier that suits an argument of the type with the spelling. -/
def hasSuggestion (spelling : String) : Bool :=
  (suggestion? spelling).isSome

end BridgeNames.Parameter
