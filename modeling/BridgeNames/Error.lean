import BridgeNames.ManagedType.Draft

/-!
# Errors

The failures that the library reports, by cause. Bad attribute metadata is no failure: it is
reported as a diagnostic, and naming goes on. An error stands for what has no usable answer: a type
that a vocabulary cannot spell, a draft that describes no type, a full name that is taken or
unknown.

A vocabulary is a language in which types are spelled: the one that bindings are written in, or that
of the signatures by which the runtime looks members up.
-/

namespace BridgeNames

/-- A language in which types are spelled. -/
inductive Vocabulary where
  | objectiveC
  | mono
  deriving DecidableEq

/-- The name of the vocabulary. -/
def Vocabulary.name : Vocabulary → String
  | .objectiveC => "Objective-C"
  | .mono => "Mono"

/-- A line of a file, where a defect was found. -/
structure Place where
  file : String
  line : Nat
  deriving DecidableEq

/-- Why an operation has no answer. -/
inductive Error where
  /-- The vocabulary has no spelling for the type with this full name. -/
  | unspellable (typeName : String) (vocabulary : Vocabulary)
  /-- A draft has a defect, found at a place if that is known. -/
  | malformed (defect : Defect) (place : Option Place)
  /-- The catalog already holds a type with this full name. -/
  | duplicateType (typeName : String)
  /-- The catalog holds no type with this full name. -/
  | unknownType (typeName : String)
  /-- Another failure, in the words of whoever reports it. -/
  | other (text : String)
  deriving DecidableEq

namespace Error

/-- The error in words. A place is named before the defect that was found there. -/
def message : Error → String
  | unspellable typeName vocabulary =>
    s!"Type '{typeName}' has no spelling in the {vocabulary.name} vocabulary"
  | malformed defect none => defect.message
  | malformed defect (some place) => s!"Malformed - {place.file}:{place.line}: {defect.message}"
  | duplicateType typeName => s!"Failed to insert new type into TypeRegistry - {typeName}"
  | unknownType typeName => s!"Failed to find type in TypeRegistry - {typeName}"
  | other text => text

/-- The error says that a vocabulary cannot spell a type. -/
def isUnspellable : Error → Bool
  | unspellable _ _ => true
  | _ => false

end Error

end BridgeNames
