import BridgeNames.Proofs.Journal
import BridgeNames.Registration.ExportName

/-!
# The outcome of reading a registration

Reading a registration gives a name and puts warnings into the journal on the way. What comes out of
it is said here as a value, without a journal: for each part of a registration the name after it and
the problems that it has (`positionalName`, `applySetting`, `applySettings`, `givenName`), and from
them the `outcome` for a type. The operation that reads a part adds the problems of that part and
nothing else (`reads_readArguments`, `reads_readSetting`, `reads_readSettings`, `reads_readName`).
So naming a type gives the name of its outcome and adds its warnings and records
(`adds_exportName`).
-/

namespace BridgeNames

namespace Registration

/-- The name that the constructor's arguments give, and the problem they have. -/
def positionalName (arguments : List Argument) : Option String × List RegistrationProblem :=
  match arguments with
  | [first] | [first, _] =>
    if first.isDeclaredString then (first.value.string?, [])
    else (none, [.argumentType first.declaredType])
  | _ => (none, [.argumentCount arguments.length])

/-- The name after one more property has been set, given the name before, and the problem with the
setting. -/
def applySetting (name : Option String) (setting : NamedArgument) :
    Option String × List RegistrationProblem :=
  if setting.isField ∨ setting.name = "IsWrapper" then (name, [])
  else if setting.name = "Name" then
    match setting.value.string?, name with
    | none, _ => (name, [.nameValue setting.value])
    | some value, none => (some value, [])
    | some value, some previous =>
      (some value, if previous = value then [] else [.conflict previous value])
  else if setting.name = "SkipRegistration" then (name, [.skipped setting.value])
  else (name, [.unknownProperty setting.name setting.value])

/-- The name after the settings of a list, and their problems in order. -/
def applySettings (name : Option String) :
    List NamedArgument → Option String × List RegistrationProblem
  | [] => (name, [])
  | setting :: rest =>
    let (next, problems) := applySetting name setting
    let (last, others) := applySettings next rest
    (last, problems ++ others)

/-- The name that the registering attribute gives, and its problems in order. -/
def givenName (registration : Attribute) : Option String × List RegistrationProblem :=
  let (positional, problems) := positionalName registration.arguments
  let (name, others) := applySettings positional registration.named
  (name, problems ++ others)

/-- What comes out for a type: its name, the problems of its registration, and what is logged. -/
structure Outcome where
  name : String
  problems : List RegistrationProblem
  records : Log

/-- The outcome of a name that has been read, which is passed over if it shows nothing. -/
def settled (t : ManagedType) (candidate : Option String) : Outcome :=
  let fallback := t.fallbackName
  match candidate.filter (!Text.isBlank ·) with
  | some name => ⟨name, [], [⟨.trace, s!"resolved class name of '{t.fullName}' to '{name}'"⟩]⟩
  | none =>
    ⟨fallback, [.noName fallback],
      [⟨.debug, s!"falling back to default class name '{fallback}' for '{t.fullName}'"⟩]⟩

/-- The outcome for a type. Only its first registration counts. -/
def outcome (c : Conventions) (t : ManagedType) : Outcome :=
  match t.attributesNamed c.registration with
  | [] => ⟨t.fallbackName, [], []⟩
  | first :: others =>
    let repeated := if others.isEmpty then [] else [.repeated (others.length + 1)]
    let (candidate, problems) := givenName first
    let last := settled t candidate
    ⟨last.name, repeated ++ (problems ++ last.problems), last.records⟩

/-- The warnings that the registration of a type gives rise to, in order. -/
def warnings (c : Conventions) (t : ManagedType) : List Diagnostic :=
  (outcome c t).problems.map (·.diagnostic c.registration t.fullName)

/-! ## Reading one part after the other -/

open Journal

variable {c : Conventions} {t : ManagedType} {α β : Type}

/-- The operation gives the value and warns of the problems, in their order, and does nothing
else. -/
def Reads (c : Conventions) (t : ManagedType) (x : StateM Journal α)
    (result : α × List RegistrationProblem) : Prop :=
  Adds x result.1 (result.2.map (·.diagnostic c.registration t.fullName)) []

/-- A value that is there without reading has no problems. -/
theorem reads_pure (a : α) : Reads c t (pure a) (a, []) :=
  adds_pure a

/-- A problem is warned of before a value is given. -/
theorem reads_warn (problem : RegistrationProblem) (a : α) :
    Reads c t (do warn c t problem; return a) (a, [problem]) :=
  (adds_pure a).after_say [problem.diagnostic c.registration t.fullName] []

/-- One part is read after the other. -/
theorem Reads.bind {x : StateM Journal α} {f : α → StateM Journal β} {a : α} {b : β}
    {problems others : List RegistrationProblem} (hx : Reads c t x (a, problems))
    (hf : Reads c t (f a) (b, others)) : Reads c t (x >>= f) (b, problems ++ others) := by
  unfold Reads at *
  rw [List.map_append]
  exact Adds.bind hx hf

/-- Reading the constructor's arguments gives their name and warns of their problem. -/
theorem reads_readArguments (arguments : List Argument) :
    Reads c t (readArguments c t arguments) (positionalName arguments) := by
  have hfirst (first : Argument) :
      Reads c t (if first.isDeclaredString then return first.value.string?
          else do warn c t (.argumentType first.declaredType); return none)
        (if first.isDeclaredString then (first.value.string?, [])
          else (none, [.argumentType first.declaredType])) := by
    split
    · exact reads_pure _
    · exact reads_warn _ _
  match arguments with
  | [] => exact reads_warn _ _
  | [first] => exact hfirst first
  | [first, _] => exact hfirst first
  | _ :: _ :: _ :: _ => exact reads_warn _ _

/-- Reading a setting gives the name after it and warns of its problem. -/
theorem reads_readSetting (name : Option String) (setting : NamedArgument) :
    Reads c t (readSetting c t name setting) (applySetting name setting) := by
  unfold readSetting applySetting
  split
  · exact reads_pure name
  · split
    · cases setting.value.string? with
      | none => exact reads_warn _ _
      | some value =>
        cases name with
        | none => exact reads_pure _
        | some previous =>
          by_cases h : previous = value
          · subst h
            simp only [if_true]
            exact reads_pure _
          · simp only [h, if_false]
            exact reads_warn _ _
    · split
      · exact reads_warn _ _
      · exact reads_warn _ _

/-- Reading settings gives the name after all of them and warns of the problems of each. -/
theorem reads_readSettings (name : Option String) (settings : List NamedArgument) :
    Reads c t (settings.foldlM (readSetting c t) name) (applySettings name settings) := by
  induction settings generalizing name with
  | nil => exact reads_pure name
  | cons setting rest ih =>
    rw [List.foldlM_cons]
    exact (reads_readSetting name setting).bind (ih _)

/-- Reading a registration gives its name and warns of its problems. -/
theorem reads_readName (c : Conventions) (t : ManagedType) (registration : Attribute) :
    Reads c t (readName c t registration) (givenName registration) :=
  (reads_readArguments registration.arguments).bind (reads_readSettings _ registration.named)

/-- The registrations behind the first one have one problem, if there are any. -/
theorem reads_warnOfOthers (c : Conventions) (t : ManagedType) (others : List Attribute) :
    Reads c t (warnOfOthers c t others)
      ((), if others.isEmpty then [] else [.repeated (others.length + 1)]) := by
  unfold warnOfOthers
  split
  · exact reads_pure ()
  · exact adds_say _ _

/-- A name that has been read is taken or passed over, which is logged. -/
theorem adds_settleName (c : Conventions) (t : ManagedType) (candidate : Option String) :
    Adds (settleName c t candidate) (settled t candidate).name
      ((settled t candidate).problems.map (·.diagnostic c.registration t.fullName))
      (settled t candidate).records := by
  unfold settleName settled
  cases candidate.filter (!Text.isBlank ·) with
  | some name => exact (adds_pure name).after_say [] _
  | none => exact ((adds_pure t.fallbackName).after_say [] _).after_say _ []

/-- Naming a type gives the name of its outcome and adds its warnings and records, whatever has been
said before. -/
theorem adds_exportName (c : Conventions) (t : ManagedType) :
    Adds (exportName c t) (outcome c t).name (warnings c t) (outcome c t).records := by
  unfold exportName warnings outcome
  cases t.attributesNamed c.registration with
  | nil => exact adds_pure _
  | cons first others =>
    have hrest := Adds.bind (reads_readName c t first) (adds_settleName c t (givenName first).1)
    have hall := Adds.bind (f := fun _ => _) (reads_warnOfOthers c t others) hrest
    rw [← List.map_append, ← List.map_append] at hall
    exact hall

end Registration

end BridgeNames
