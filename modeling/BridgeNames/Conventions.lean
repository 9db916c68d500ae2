/-!
# Naming conventions

The choices that a generator of bindings makes once for a run: which attribute registers a class
under a name, which parameter names are too short to keep, and what such a parameter is called if
its type suggests nothing better.
-/

namespace BridgeNames

/-- The choices of a run. -/
structure Conventions where
  /-- The full name of the attribute that registers a class under a name. -/
  registration : String
  /-- Parameter names with fewer characters than this are replaced. -/
  shortBelow : Nat
  /-- The identifier for a short-named parameter whose type has none of its own. -/
  fallback : String
  /-- The members of a batch are worked on together, so their log records have no order. -/
  parallel : Bool
  deriving DecidableEq

namespace Conventions

/-- The usual attribute that registers a class. -/
def usualRegistration : String := "Foundation.RegisterAttribute"

/-- The usual identifier for a parameter whose type has none of its own. -/
def usualArgument : String := "anObject"

/-- The usual conventions. -/
def standard : Conventions := ⟨usualRegistration, 3, usualArgument, true⟩

/-- The conventions of bindings for macOS, which are the usual ones. -/
def forMac : Conventions := standard

/-- The usual conventions with the members of a batch one after the other. -/
def sequential : Conventions := { standard with parallel := false }

/-- The name is too short to keep. -/
def isShort (c : Conventions) (name : String) : Bool :=
  name.length < c.shortBelow

end Conventions

end BridgeNames
