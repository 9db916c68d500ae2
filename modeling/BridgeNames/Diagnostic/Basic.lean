/-!
# Diagnostics

What a run has to say about its input: a kind, a severity, a topic, and a message that stands on
its own. A diagnostic about a type carries the full name of the type.
-/

namespace BridgeNames

/-- What is wrong with a registration. -/
inductive DiagnosticKind where
  /-- The argument for the name is no string. -/
  | argumentType
  /-- The constructor has an unexpected number of arguments. -/
  | argumentCount
  /-- Two arguments give different names. -/
  | conflictingNames
  /-- An option that is known but has no effect is set. -/
  | ignoredOption
  /-- A property that is not known is set. -/
  | unknownProperty
  /-- No argument gives a usable name. -/
  | noName
  /-- The type is registered more than once. -/
  | repeatedRegistration
  deriving DecidableEq

namespace DiagnosticKind

/-- The kinds in the order of their numbers. -/
def all : List DiagnosticKind :=
  [.argumentType, .argumentCount, .conflictingNames, .ignoredOption, .unknownProperty, .noName,
    .repeatedRegistration]

/-- The number of the kind. -/
def number : DiagnosticKind → Nat
  | .argumentType => 1
  | .argumentCount => 2
  | .conflictingNames => 3
  | .ignoredOption => 4
  | .unknownProperty => 5
  | .noName => 6
  | .repeatedRegistration => 7

/-- The number behind the letter of a warning. -/
def text (kind : DiagnosticKind) : String :=
  s!"W{kind.number}"

end DiagnosticKind

/-- How serious a diagnostic is. -/
inductive Severity where
  | info
  | warning
  | error
  deriving DecidableEq

/-- The word for the severity. -/
def Severity.text : Severity → String
  | .info => "INFO"
  | .warning => "WARN"
  | .error => "ERROR"

/-- The part of the input that a diagnostic is about. -/
inductive Topic where
  | customAttribute
  | type
  | parameter
  | general
  deriving DecidableEq

namespace Topic

/-- The topics in their order. -/
def all : List Topic := [.customAttribute, .type, .parameter, .general]

/-- The word for the topic. -/
def text : Topic → String
  | .customAttribute => "CustomAttribute"
  | .type => "Type"
  | .parameter => "Parameter"
  | .general => "General"

end Topic

/-- One thing that a run has to say. -/
structure Diagnostic where
  kind : DiagnosticKind
  severity : Severity
  topic : Topic
  message : String
  /-- The full name of the type that the diagnostic is about. -/
  typeName : Option String
  deriving DecidableEq

namespace Diagnostic

/-- The diagnostic on one line. -/
def text (d : Diagnostic) : String :=
  s!"[{d.severity.text}] {d.kind.text} {d.topic.text}: {d.message}"

/-- A warning about no type in particular. -/
def warning (kind : DiagnosticKind) (topic : Topic) (message : String) : Diagnostic :=
  ⟨kind, .warning, topic, message, none⟩

/-- A warning about a type. -/
def warningAbout (typeName : String) (kind : DiagnosticKind) (topic : Topic) (message : String) :
    Diagnostic :=
  ⟨kind, .warning, topic, message, some typeName⟩

end Diagnostic

end BridgeNames
