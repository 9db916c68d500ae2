import BridgeNames.Catalog
import BridgeNames.Parameter.Identifier

/-!
# Parameters in declarations

A parameter is declared by its type in parentheses and its identifier. The type of a parameter is
spelled as the type itself, except that an interface is spelled as an object that conforms to it,
and that a bound class gets the mark of a pointer.
-/

namespace BridgeNames

namespace Parameter

/-- The type of the parameter as a declaration spells it. -/
def declaredType (c : Conventions) (catalog : Catalog) (p : Parameter) : Naming String := do
  let spelling ← ObjectiveC.spell c p.type
  let conforming := if p.type.is .interfaceType then "id<" ++ spelling ++ ">" else spelling
  return if catalog.isBound p.type then conforming ++ " *" else conforming

/-- The declaration of the parameter in a signature. The problems with its type are reported with
the type, and not once more with the identifier. -/
def declaration (c : Conventions) (catalog : Catalog) (p : Parameter)
    (signature : List Parameter) : Naming String := do
  let type ← p.declaredType c catalog
  let name ← quietly (p.identifier c signature)
  return "(" ++ type ++ ")" ++ name

end Parameter

/-- A method with its parameters. -/
structure Method where
  name : String
  parameters : List Parameter

/-- A method with the declarations of its parameters. -/
structure RenderedMethod where
  name : String
  declarations : List String
  deriving DecidableEq

namespace Method

/-- The declarations of the parameters of a list in the signature, up to the first that has
none. -/
def declarations (c : Conventions) (catalog : Catalog) (signature : List Parameter) :
    List Parameter → Naming (List String)
  | [] => return []
  | p :: rest => do
    let first ← p.declaration c catalog signature
    return first :: (← declarations c catalog signature rest)

/-- Leaves out a method that cannot be declared, which the log says. -/
def skip (m : Method) (error : Error) : Naming RenderedMethod := do
  say [] [⟨.warn, s!"skipping declaration '{m.name}': {error.message}"⟩]
  throw error

/-- The method with the declarations of all its parameters, if they can be declared. -/
def render (c : Conventions) (catalog : Catalog) (m : Method) : Naming RenderedMethod :=
  tryCatch (return ⟨m.name, ← declarations c catalog m.parameters m.parameters⟩) m.skip

end Method

end BridgeNames
