import BridgeNames.Error
import BridgeNames.ManagedType.Category

/-!
# The catalog of types

The types that a run knows, and which of them are bound as classes. Types are kept in the order of
their full names, each full name once: the first type that comes under a full name stays, and a
later one is refused. An index beside them holds the full names of the types by their simple names,
in the order in which they came; a look-up by simple name puts what it finds there in the order of
the full names. Bound classes are kept by full name alone, apart from the types, so a type can be
bound before it is known or without ever being known.

Three containers hold all this, and of each only its laws as a container for one caller at a time
are used:

* the types are a map with ordered keys: a new key gets an entry and keeps all others
  (`Catalog.place_perm`), a look-up finds the entry with the key (`Catalog.find?_place`), and a walk
  meets the entries in ascending order of their keys (`Catalog.place_ascending`);
* the index is a map to lists: a key without an entry has the empty list, and adding to the list of
  one key changes no other list (`Catalog.lookup_file`);
* the bound classes are a set: a member is added once (`Catalog.bound_bind`), and to ask for a
  member and to count them are all the uses it has, so the order of the members does not show
  (`Catalog.SameTypes.indistinguishable`).
-/

namespace BridgeNames

/-- The types of a run and the full names of the bound ones. -/
structure Catalog where
  /-- The known types, ascending by full name. -/
  types : List ManagedType
  /-- The simple names of the known types, each with the full names that came with it. -/
  index : List (String × List String)
  /-- The full names of the bound classes, each once. -/
  bound : List String

namespace Catalog

/-- The catalog of a run that knows nothing. -/
def empty : Catalog := ⟨[], [], []⟩

/-- The list with the type before the first one whose full name is greater. -/
def place (t : ManagedType) : List ManagedType → List ManagedType
  | [] => [t]
  | u :: rest => if t.fullName < u.fullName then t :: u :: rest else u :: place t rest

/-- The index with a full name behind those that came with the simple name before. -/
def file (name fullName : String) : List (String × List String) → List (String × List String)
  | [] => [(name, [fullName])]
  | (key, fullNames) :: rest =>
    if key = name then (key, fullNames ++ [fullName]) :: rest
    else (key, fullNames) :: file name fullName rest

/-- The full names that came with the simple name. -/
def filed (c : Catalog) (name : String) : List String :=
  (c.index.lookup name).getD []

/-- The type with the full name. -/
def find? (c : Catalog) (fullName : String) : Option ManagedType :=
  c.types.find? (·.fullName == fullName)

/-- The type with the full name, or the error that there is none. -/
def get (c : Catalog) (fullName : String) : Except Error ManagedType :=
  match c.find? fullName with
  | some t => .ok t
  | none => .error (.unknownType fullName)

/-- The types with the simple name, in the order of their full names. -/
def named (c : Catalog) (name : String) : List ManagedType :=
  ((c.filed name).filterMap c.find?).mergeSort fun a b => decide (a.fullName ≤ b.fullName)

/-- Adds a type to the types and then to the index, unless its full name is taken. -/
def insert (t : ManagedType) : StateM Catalog (Except Error Unit) := do
  if ((← getThe Catalog).find? t.fullName).isSome then
    return .error (.duplicateType t.fullName)
  modify fun c => { c with types := place t c.types }
  modify fun c => { c with index := file t.name t.fullName c.index }
  return .ok ()

/-- The catalog after an insertion, whether it is refused or not. -/
def insertIfNew (c : Catalog) (t : ManagedType) : Catalog :=
  ((insert t).run c).2

/-- Binds a type as a class. Any type is accepted. -/
def bind (c : Catalog) (t : ManagedType) : Catalog :=
  if c.bound.contains t.fullName then c else { c with bound := t.fullName :: c.bound }

/-- The type is a class and bound. -/
def isBound (c : Catalog) (t : ManagedType) : Bool :=
  t.is .classType && c.bound.contains t.fullName

/-- How many full names are bound. -/
def boundCount (c : Catalog) : Nat :=
  c.bound.length

/-- How many types are known. -/
def size (c : Catalog) : Nat :=
  c.types.length

/-- No type is known. -/
def isEmpty (c : Catalog) : Bool :=
  c.types.isEmpty

end Catalog

end BridgeNames
