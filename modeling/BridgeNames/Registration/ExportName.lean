import BridgeNames.Conventions
import BridgeNames.Journal
import BridgeNames.Registration.Problem
import BridgeNames.Text.Blank

/-!
# Export names

A type is exported under the name that its registration gives: the string that is the first
constructor argument of the registering attribute, or that its name property is set to. The
property wins over the argument, and a later setting of the property over an earlier one. A type
without a registration, or whose registration gives no name that shows anything, has its fallback
name: the full name with an underscore for each separator.

The registration is read from its start to its end, and a problem goes into the journal where it is
come upon: that there are further registrations, then what is wrong with the constructor's
arguments, then what is wrong with one setting after the other, and that no name is left at last.
-/

namespace BridgeNames

/-- The name of a type without a usable registration. -/
def ManagedType.fallbackName (t : ManagedType) : String :=
  t.fullName.map fun c => if c = '.' ∨ c = '+' then '_' else c

namespace Registration

variable (c : Conventions) (t : ManagedType)

/-- Warns of a problem with the registration of the type. -/
def warn (problem : RegistrationProblem) : StateM Journal Unit :=
  say [problem.diagnostic c.registration t.fullName] []

/-- Reads the name that the constructor's arguments give. There may be a second argument, which is
not looked at. -/
def readArguments (arguments : List Argument) : StateM Journal (Option String) :=
  match arguments with
  | [first] | [first, _] =>
    if first.isDeclaredString then return first.value.string?
    else do
      warn c t (.argumentType first.declaredType)
      return none
  | _ => do
    warn c t (.argumentCount arguments.length)
    return none

/-- Reads one more setting and gives the name after it, given the name before. Fields say nothing
about the registration. -/
def readSetting (name : Option String) (setting : NamedArgument) :
    StateM Journal (Option String) :=
  if setting.isField ∨ setting.name = "IsWrapper" then return name
  else if setting.name = "Name" then
    match setting.value.string?, name with
    | none, _ => do
      warn c t (.nameValue setting.value)
      return name
    | some value, none => return some value
    | some value, some previous =>
      if previous = value then return name
      else do
        warn c t (.conflict previous value)
        return some value
  else if setting.name = "SkipRegistration" then do
    warn c t (.skipped setting.value)
    return name
  else do
    warn c t (.unknownProperty setting.name setting.value)
    return name

/-- Reads the name that the registering attribute gives. -/
def readName (registration : Attribute) : StateM Journal (Option String) := do
  let positional ← readArguments c t registration.arguments
  registration.named.foldlM (readSetting c t) positional

/-- Warns that the registrations behind the first one are not used, if there are any. -/
def warnOfOthers (others : List Attribute) : StateM Journal Unit :=
  if others.isEmpty then return () else warn c t (.repeated (others.length + 1))

/-- Takes the name that has been read, unless it shows nothing. -/
def settleName (candidate : Option String) : StateM Journal String :=
  let fallback := t.fallbackName
  match candidate.filter (!Text.isBlank ·) with
  | some name => do
    say [] [⟨.trace, s!"resolved class name of '{t.fullName}' to '{name}'"⟩]
    return name
  | none => do
    warn c t (.noName fallback)
    say [] [⟨.debug, s!"falling back to default class name '{fallback}' for '{t.fullName}'"⟩]
    return fallback

end Registration

open Registration in
/-- The export name of a type. It is always found; the problems on the way are reported. Only the
first registration of the type counts. -/
def exportName (c : Conventions) (t : ManagedType) : StateM Journal String :=
  match t.attributesNamed c.registration with
  | [] => return t.fallbackName
  | first :: others => do
    warnOfOthers c t others
    settleName c t (← readName c t first)

end BridgeNames
