import BridgeNames.ManagedType.Category
import BridgeNames.Registration.ExportName
import BridgeNames.Spelling.Mono

/-!
# Spelling in Objective-C

A type with a name of its own is spelled by its class name, and every other declared type by a
fixed phrase. An array is spelled as a collection: of bytes as data, of other scalars and of
enumerations as number objects, of strings, decimals and objects as such. A reference adds the
pointers and their nullability to the spelling of what it refers to.

Collections hold objects only, so an array of structures, of nothing, or of wrapped types has no
spelling; nor has a reference to nothing or to another reference. The error names the wrapper that
cannot be spelled, which for a reference to an unspellable array is the array.
-/

namespace BridgeNames

/-- The scalar in Objective-C. -/
def ScalarKind.objectiveC : ScalarKind → String
  | .boolean => "bool"
  | .character => "unsigned short"
  | .int8 => "signed char"
  | .uint8 => "unsigned char"
  | .int16 => "short"
  | .uint16 => "unsigned short"
  | .int32 => "int"
  | .uint32 => "unsigned int"
  | .int64 => "long long"
  | .uint64 => "unsigned long long"
  | .single => "float"
  | .double => "double"

namespace ObjectiveC

/-- The failure to spell a type. -/
def gap {α : Type} (t : ManagedType) : Naming α :=
  throw (.unspellable t.fullName .objectiveC)

/-- The spelling of a declared type. -/
def spellDeclared (c : Conventions) (d : Declared) : Naming String :=
  match d.nature with
  | .enumeration | .namedObject => exportName c (.declared d)
  | .scalar kind => return kind.objectiveC
  | .string => return "NSString *"
  | .decimal => return "NSDecimalNumber *"
  | .rootObject => return "NSObject"
  | .void => return "void"

/-- The spelling of the array type `array` of `element`. -/
def spellArray (c : Conventions) (array element : ManagedType) : Naming String :=
  match element with
  | .wrapped _ _ _ => gap array
  | .declared d =>
    match d.nature, d.form with
    | .scalar .uint8, _ => return "NSData *"
    | .scalar _, _ | .enumeration, _ => return "NSArray<NSNumber *> *"
    | .string, _ => return "NSArray<NSString *> *"
    | .decimal, _ => return "NSArray<NSDecimalNumber *> *"
    | .rootObject, _ => return "NSArray<NSObject *> *"
    | .namedObject, .interface => return "NSArray<id<" ++ (← exportName c element) ++ ">> *"
    | .namedObject, .value => gap array
    | .namedObject, _ => return "NSArray<" ++ (← exportName c element) ++ " *> *"
    | .void, _ => gap array

/-- What a reference puts before and after the spelling of the declared type it refers to. Strings
and decimals are pointers already; values are pointed to; objects are pointed to twice. There is no
reference to nothing. -/
def referenceMarks? (d : Declared) : Option (String × String) :=
  match d.nature, d.form with
  | .string, _ | .decimal, _ => some ("", " _Nonnull * _Nullable")
  | .scalar _, _ | .enumeration, _ | .namedObject, .value => some ("", " * _Nullable")
  | .namedObject, .interface => some ("id<", "> _Nonnull * _Nullable")
  | .namedObject, _ | .rootObject, _ => some ("", " * _Nonnull * _Nullable")
  | .void, _ => none

/-- The spelling of a type. -/
def spell (c : Conventions) (t : ManagedType) : Naming String :=
  match t with
  | .declared d => spellDeclared c d
  | .wrapped .array element _ => spellArray c t element
  | .wrapped .byRef (.declared d) _ =>
    match referenceMarks? d with
    | some (before, after) => return before ++ (← spellDeclared c d) ++ after
    | none => gap t
  | .wrapped .byRef (.wrapped .array element attributes) _ => do
    return (← spellArray c (.wrapped .array element attributes) element) ++ " _Nonnull * _Nullable"
  | .wrapped .byRef (.wrapped .byRef _ _) _ => gap t

end ObjectiveC

/-- The spelling of a type in a vocabulary. Only Objective-C looks at registrations, so only its
spellings come with diagnostics. -/
def spell (c : Conventions) (t : ManagedType) : Vocabulary → Naming String
  | .objectiveC => ObjectiveC.spell c t
  | .mono => MonadExcept.ofExcept (Mono.spell t)

end BridgeNames
