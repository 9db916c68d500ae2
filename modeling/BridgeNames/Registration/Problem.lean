import BridgeNames.Attribute.Basic
import BridgeNames.Diagnostic.Basic

/-!
# Problems of a registration

What can be wrong with the attribute that registers a class under a name, with the values that a
reader of the message needs. No problem stops naming: each is reported as a warning about the
registered type, and naming goes on with what is left.
-/

namespace BridgeNames

/-- What is wrong with the registration of a type. -/
inductive RegistrationProblem where
  /-- The type is registered this many times. -/
  | repeated (count : Nat)
  /-- The first constructor argument is declared with this type, not as a string. -/
  | argumentType (declaredType : String)
  /-- The constructor has this many arguments, neither one nor two. -/
  | argumentCount (count : Nat)
  /-- The name property is set to this value, which is no string. -/
  | nameValue (value : Constant)
  /-- The name property is set to a name other than the one given before it. -/
  | conflict (discarded name : String)
  /-- The option to skip the registration is set. -/
  | skipped (value : Constant)
  /-- A property without a meaning is set. -/
  | unknownProperty (name : String) (value : Constant)
  /-- No name is left, and the type gets this default. -/
  | noName (fallback : String)

namespace RegistrationProblem

/-- The kind under which the problem is reported. -/
def kind : RegistrationProblem → DiagnosticKind
  | .repeated _ => .repeatedRegistration
  | .argumentType _ => .argumentType
  | .argumentCount _ => .argumentCount
  | .nameValue _ => .argumentType
  | .conflict _ _ => .conflictingNames
  | .skipped _ => .ignoredOption
  | .unknownProperty _ _ => .unknownProperty
  | .noName _ => .noName

/-- The problem in words, for a registering attribute and a type with these full names. -/
def message (registration typeName : String) : RegistrationProblem → String
  | .repeated count =>
    s!"Type '{typeName}' has {count} '{registration}' attributes, only the first one is used"
  | .argumentType declaredType =>
    s!"The first argument of the '{registration}' attribute on type '{typeName}' has type " ++
      s!"'{declaredType}', expected '{runtimeString}'"
  | .argumentCount count =>
    s!"The '{registration}' attribute on type '{typeName}' has {count} constructor argument(s), " ++
      "expected 1 or 2"
  | .nameValue value =>
    s!"The Name property of the '{registration}' attribute on type '{typeName}' has value " ++
      s!"{value.text}, expected a string"
  | .conflict discarded name =>
    s!"The '{registration}' attribute on type '{typeName}' specifies conflicting names: " ++
      s!"'{discarded}' is discarded in favor of the Name property '{name}'"
  | .skipped value =>
    s!"SkipRegistration = {value.text} on the '{registration}' attribute of type '{typeName}' " ++
      "is not supported and is ignored"
  | .unknownProperty name value =>
    s!"Named argument '{name}' = {value.text} on the '{registration}' attribute of type " ++
      s!"'{typeName}' is not supported and is ignored"
  | .noName fallback =>
    s!"The '{registration}' attribute on type '{typeName}' does not provide a usable name, " ++
      s!"using the default name '{fallback}'"

/-- The warning that reports the problem. -/
def diagnostic (registration typeName : String) (p : RegistrationProblem) : Diagnostic :=
  .warningAbout typeName p.kind .customAttribute (p.message registration typeName)

end RegistrationProblem

end BridgeNames
