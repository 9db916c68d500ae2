import BridgeNames.Error
import BridgeNames.ManagedType.Category

/-!
# Spelling in method signatures

In the signatures by which the runtime looks members up, wrappers keep their marks, classes are all
one, and every other type with a name of its own is spelled by its full name. A wrapper around a
reference or around the void type has no spelling; the error names that wrapper.
-/

namespace BridgeNames

/-- The scalar in a signature. -/
def ScalarKind.mono : ScalarKind → String
  | .boolean => "bool"
  | .character => "char"
  | .int8 => "sbyte"
  | .uint8 => "byte"
  | .int16 => "int16"
  | .uint16 => "uint16"
  | .int32 => "int"
  | .uint32 => "uint"
  | .int64 => "long"
  | .uint64 => "ulong"
  | .single => "single"
  | .double => "double"

namespace Mono

/-- The spelling of a declared type. -/
def spellDeclared (d : Declared) : String :=
  match d.nature, d.form with
  | .enumeration, _ => d.fullName
  | .scalar kind, _ => kind.mono
  | .string, _ => "string"
  | .decimal, _ => "System.Decimal"
  | .rootObject, _ => "object"
  | .void, _ => "void"
  | .namedObject, .reference => "object"
  | .namedObject, _ => d.fullName

/-- A wrapper around the type can be spelled if the type can. -/
def canBeWrapped : ManagedType → Bool
  | .declared d => d.nature != .void
  | .wrapped wrapper _ _ => wrapper != .byRef

/-- The spelling of a type. -/
def spell (t : ManagedType) : Except Error String :=
  match t with
  | .declared d => .ok (spellDeclared d)
  | .wrapped wrapper element _ =>
    if canBeWrapped element then (spell element).map (· ++ wrapper.mark)
    else .error (.unspellable t.fullName .mono)

end Mono

end BridgeNames
