import BridgeNames.Parameter.Suggestion
import BridgeNames.Spelling.ObjectiveC
import BridgeNames.Text.UpperCase

/-!
# Identifiers of parameters

A parameter keeps its declared name unless that is short. A short-named parameter is called by a
stem that its type gives: the identifier suggested for the spelling of the type, or the fallback if
none is. Two rules keep the parameters of one signature apart. The declared name, with its first
character in upper case, is put behind the stem if another short-named parameter has a type of the
same spelling. It is also put there if the stem is the fallback and another parameter, whatever its
name, has a type without a suggestion.

Which other parameters a signature has matters only through the spellings of their types and
whether their names are short; `needsSuffix` decides on those alone. Naming a parameter spells all
the types of the signature, but only the problems with its own type are reported.
-/

namespace BridgeNames

/-- A declared parameter of a method. -/
structure Parameter where
  name : String
  type : ManagedType

namespace Parameter

/-- What a signature shows of a parameter when another one is named. -/
structure Outline where
  spelling : String
  isShort : Bool
  deriving DecidableEq

/-- The outline of a parameter. -/
def outline (c : Conventions) (p : Parameter) : Naming Outline := do
  return ⟨← ObjectiveC.spell c p.type, c.isShort p.name⟩

/-- The outlines of the parameters of a list, up to the first whose type has no spelling. -/
def outlines (c : Conventions) : List Parameter → Naming (List Outline)
  | [] => return []
  | p :: rest => do
    let first ← p.outline c
    return first :: (← outlines c rest)

/-- The stem of the identifiers of short-named parameters whose type has the spelling. -/
def stem (c : Conventions) (spelling : String) : String :=
  (suggestion? spelling).getD c.fallback

/-- The stem for the spelling is not enough to tell a short-named parameter from the others of its
signature. The signature includes the parameter itself. -/
def needsSuffix (c : Conventions) (spelling : String) (signature : List Outline) : Bool :=
  let alike := signature.countP fun o => o.spelling == spelling && o.isShort
  let unsuggested := signature.countP fun o => !hasSuggestion o.spelling
  1 < alike || (stem c spelling == c.fallback && 1 < unsuggested)

/-- The identifier of a short-named parameter, given the spelling of its type and the outlines of
its signature. -/
def shortIdentifier (c : Conventions) (name spelling : String) (signature : List Outline) :
    String :=
  if needsSuffix c spelling signature then stem c spelling ++ Text.capitalize name
  else stem c spelling

/-- The identifier of a parameter in a signature. -/
def identifier (c : Conventions) (p : Parameter) (signature : List Parameter) : Naming String := do
  if c.isShort p.name then
    let spelling ← ObjectiveC.spell c p.type
    let others ← quietly (outlines c signature)
    let chosen := shortIdentifier c p.name spelling others
    say [] [⟨.trace, s!"parameter '{p.name}' named '{chosen}'"⟩]
    return chosen
  else
    return p.name

end Parameter

/-- The identifier for an argument of the type when nothing but the type is known. A wrapper is
called after its element, any other type by the suggestion for its spelling or by its own name. -/
def argumentIdentifier (c : Conventions) (t : ManagedType) : Naming String :=
  match t with
  | .wrapped .array element _ => return element.name ++ "Array"
  | .wrapped .byRef element _ => return element.name ++ "Ref"
  | .declared d => return (Parameter.suggestion? (← ObjectiveC.spell c t)).getD d.name

end BridgeNames
