import BridgeNames.Proofs.Registration.Name

/-!
# The warnings about a registration

Which warnings naming a type adds to the journal, said without a walk over the arguments. Each part
of the registration has its own: repeated registrations, the constructor's arguments, every setting
in order, and the lack of a name at the end. Only a string for the name property looks at what comes
before it, and of that only at the latest name: it is a conflict exactly if the two differ. So the
conflicts of a registration are the places where its names change, each with the name that is
discarded and the one that replaces it (`applySettings_conflicts`).
-/

namespace BridgeNames.Registration

open RegistrationProblem

/-- The pairs of neighbours in the list that differ. -/
def changes (names : List String) : List (String × String) :=
  (names.zip names.tail).filter fun pair => pair.1 ≠ pair.2

/-- The names that the registration gives, in order. -/
def candidates (registration : Attribute) : List String :=
  (nameArgument? registration).toList ++ registration.named.filterMap nameSet?

/-- The names that the first registration of the type gives, in order. -/
def registeredNames (c : Conventions) (t : ManagedType) : List String :=
  match t.attributesNamed c.registration with
  | [] => []
  | registration :: _ => candidates registration

/-- What is wrong with the constructor's arguments. -/
def argumentKinds (arguments : List Argument) : List DiagnosticKind :=
  if arguments.length ≠ 1 ∧ arguments.length ≠ 2 then [.argumentCount]
  else if ∃ first ∈ arguments.head?, first.declaredType ≠ "System.String" then [.argumentType]
  else []

/-- What is wrong with a setting, given the latest name before it. -/
def settingKinds (latest : Option String) (setting : NamedArgument) : List DiagnosticKind :=
  if setting.isField then []
  else if setting.name = "IsWrapper" then []
  else if setting.name = "SkipRegistration" then [.ignoredOption]
  else if setting.name = "Name" then
    match setting.value.string? with
    | none => [.argumentType]
    | some value => if ∃ previous ∈ latest, previous ≠ value then [.conflictingNames] else []
  else [.unknownProperty]

/-- What is wrong with the settings, each with the latest name before it. -/
def settingsKinds (name : Option String) (settings : List NamedArgument) : List DiagnosticKind :=
  (settings.mapIdx fun k setting =>
    settingKinds (latestName name (settings.take k)) setting).flatten

/-- What is wrong with the registration of the type, in order. -/
def warningKinds (c : Conventions) (t : ManagedType) : List DiagnosticKind :=
  match t.attributesNamed c.registration with
  | [] => []
  | registration :: others =>
    (if 2 ≤ (registration :: others).length then [.repeatedRegistration] else []) ++
      argumentKinds registration.arguments ++
      settingsKinds (nameArgument? registration) registration.named ++
      if ∃ name ∈ candidate? registration, Text.Shows name then [] else [.noName]

/-- The problems that are conflicts. -/
def conflicts (problems : List RegistrationProblem) : List RegistrationProblem :=
  problems.filter (·.kind == .conflictingNames)

/-- The conflict between a name and the one that replaces it. -/
def conflictOf (names : String × String) : RegistrationProblem :=
  .conflict names.1 names.2

/-- One name does not change. -/
@[simp]
theorem changes_singleton (a : String) : changes [a] = [] := rfl

/-- The first two names change if they differ, and the rest go on from the second one. -/
theorem changes_cons_cons (a b : String) (names : List String) :
    changes (a :: b :: names) = (if a = b then [] else [(a, b)]) ++ changes (b :: names) := by
  unfold changes
  by_cases h : a = b <;> simp [h]

example : changes ["A", "A", "B", "A"] = [("A", "B"), ("B", "A")] := by decide

/-- The constructor's arguments have the problem that they are said to have. -/
theorem positionalName_kinds (arguments : List Argument) :
    (positionalName arguments).2.map kind = argumentKinds arguments := by
  unfold argumentKinds positionalName
  match arguments with
  | [] => rfl
  | [first] | [first, _] =>
    by_cases h : first.declaredType = "System.String" <;>
      simp [Argument.isDeclaredString, runtimeString, kind, h]
  | _ :: _ :: _ :: _ => simp [kind]

/-- A setting has the problem that it is said to have after the name before it. -/
theorem applySetting_kinds (name : Option String) (setting : NamedArgument) :
    (applySetting name setting).2.map kind = settingKinds name setting := by
  unfold applySetting settingKinds
  cases hfield : setting.isField with
  | true => simp
  | false =>
    by_cases hname : setting.name = "Name"
    · cases hvalue : setting.value.string? with
      | none => simp [hname, kind]
      | some value =>
        cases name with
        | none => simp [hname]
        | some previous => by_cases h : previous = value <;> simp [hname, h, kind]
    · by_cases hwrapper : setting.name = "IsWrapper"
      · simp [hwrapper]
      · by_cases hskip : setting.name = "SkipRegistration" <;> simp [hname, hwrapper, hskip, kind]

/-- Settings have the problems that they are said to have. -/
theorem applySettings_kinds (name : Option String) (settings : List NamedArgument) :
    (applySettings name settings).2.map kind = settingsKinds name settings := by
  induction settings generalizing name with
  | nil => rfl
  | cons setting rest ih =>
    rw [applySettings_cons, List.map_append, ih, applySetting_kinds, applySetting_fst]
    -- Every later setting sees the first one in the name that is the latest before it.
    unfold settingsKinds
    simp only [List.mapIdx_cons, List.take_succ_cons, latestName_cons, List.flatten_cons]
    rfl

/-- The conflicts of two lists of problems come one after the other. -/
theorem conflicts_append (problems others : List RegistrationProblem) :
    conflicts (problems ++ others) = conflicts problems ++ conflicts others :=
  List.filter_append ..

/-- The constructor's arguments are in no conflict. -/
theorem conflicts_positionalName (arguments : List Argument) :
    conflicts (positionalName arguments).2 = [] := by
  unfold positionalName
  split
  · split <;> rfl
  · split <;> rfl
  · rfl

/-- A setting is in conflict exactly if it changes the name before it. -/
theorem applySetting_conflicts (name : Option String) (setting : NamedArgument) :
    conflicts (applySetting name setting).2 =
      (changes (name.toList ++ (nameSet? setting).toList)).map conflictOf := by
  cases h : nameSet? setting with
  | some value =>
    rw [applySetting_of_nameSet h]
    cases name with
    | none => rfl
    | some previous =>
      by_cases hsame : previous = value <;>
        simp [hsame, changes_cons_cons, conflicts, conflictOf, kind]
  | none =>
    obtain ⟨problems, heq, hnone⟩ := applySetting_of_not_nameSet name h
    have hempty : conflicts problems = [] :=
      List.filter_eq_nil_iff.mpr fun problem hp hkind => hnone problem hp (beq_iff_eq.mp hkind)
    rw [heq, hempty]
    cases name <;> rfl

/-- The conflicts of settings are the changes of the names that they give after the name before
them. -/
theorem applySettings_conflicts (name : Option String) (settings : List NamedArgument) :
    conflicts (applySettings name settings).2 =
      (changes (name.toList ++ settings.filterMap nameSet?)).map conflictOf := by
  induction settings generalizing name with
  | nil => cases name <;> rfl
  | cons setting rest ih =>
    rw [applySettings_cons, conflicts_append, ih, applySetting_conflicts, applySetting_fst]
    -- The names of the rest follow the latest one, which is the new name if there is one.
    cases hset : nameSet? setting with
    | none =>
      rw [List.filterMap_cons_none hset, Option.none_or]
      cases name <;> rfl
    | some value =>
      rw [List.filterMap_cons_some hset, Option.some_or]
      cases name with
      | none => rfl
      | some previous =>
        simp only [Option.toList_some, List.cons_append, List.nil_append, changes_cons_cons,
          changes_singleton, List.append_nil, List.map_append]

/-- The problems of a registration without its name are those of its arguments and its settings. -/
theorem givenName_kinds (registration : Attribute) :
    (givenName registration).2.map kind =
      argumentKinds registration.arguments ++
        settingsKinds (nameArgument? registration) registration.named := by
  rw [givenName_eq, List.map_append, positionalName_kinds, applySettings_kinds]

/-- The conflicts of a registration are the changes of the names that it gives. -/
theorem givenName_conflicts (registration : Attribute) :
    conflicts (givenName registration).2 = (changes (candidates registration)).map conflictOf := by
  rw [givenName_eq, conflicts_append, conflicts_positionalName, applySettings_conflicts]
  rfl

/-- The problems of a registered type are those of having several registrations, those of the first
one, and the lack of a name that shows something. -/
theorem outcome_problems {c : Conventions} {t : ManagedType} {registration : Attribute}
    {others : List Attribute} (h : t.attributesNamed c.registration = registration :: others) :
    (outcome c t).problems =
      (if others.isEmpty then [] else [.repeated (others.length + 1)]) ++
        (givenName registration).2 ++
        if ∃ name ∈ candidate? registration, Text.Shows name then []
        else [.noName t.fallbackName] := by
  unfold outcome settled
  simp only [h, givenName_fst, ← List.append_assoc]
  cases hcandidate : candidate? registration with
  | none => simp
  | some name =>
    simp only [Option.mem_def, Option.some.injEq, exists_eq_left', ← Text.isBlank_eq_false_iff]
    cases hblank : Text.isBlank name with
    | false =>
      rw [Option.filter_some_pos (by rw [hblank]; rfl)]
      simp
    | true =>
      rw [Option.filter_some_neg (by rw [hblank]; rfl)]
      simp

/-- The problems of a type have the kinds that they are said to have. -/
theorem outcome_kinds (c : Conventions) (t : ManagedType) :
    (outcome c t).problems.map kind = warningKinds c t := by
  unfold warningKinds
  split
  · rename_i hnone
    rw [outcome_of_unregistered hnone]
    rfl
  · rename_i registration others hfound
    rw [outcome_problems hfound, List.map_append, List.map_append, givenName_kinds]
    have hrepeated : (if others.isEmpty then [] else [.repeated (others.length + 1)]).map kind =
        if 2 ≤ (registration :: others).length then [.repeatedRegistration] else [] := by
      cases others <;> simp [kind]
    rw [hrepeated, apply_ite (List.map kind), List.append_assoc, List.append_assoc]
    simp [kind]

/-- The conflicts of a type are the changes of the names that its registration gives. -/
theorem outcome_conflicts (c : Conventions) (t : ManagedType) :
    conflicts (outcome c t).problems = (changes (registeredNames c t)).map conflictOf := by
  unfold registeredNames
  split
  · rename_i hnone
    rw [outcome_of_unregistered hnone]
    rfl
  · rename_i registration others hfound
    rw [outcome_problems hfound, conflicts_append, conflicts_append, givenName_conflicts]
    have hrepeated : conflicts
        (if others.isEmpty then [] else [.repeated (others.length + 1)]) = [] := by
      split <;> rfl
    rw [hrepeated, List.nil_append]
    split <;> simp [conflicts, kind]

/-- Naming a type adds to the journal, behind everything that has been said before, warnings of
exactly the kinds that its registration gives rise to, in their order. Those about conflicting names
are, in order, the warnings about the changes of the names that the registration gives, so there are
as many of them as changes. -/
theorem exportName_warnings (c : Conventions) (t : ManagedType) (j : Journal) :
    ∃ ds, ((exportName c t).run j).2.queue.entries = j.queue.entries ++ ds ∧
      ds.map (·.kind) = warningKinds c t ∧
      ds.filter (·.kind == .conflictingNames) =
        ((changes (registeredNames c t)).map conflictOf).map
          (·.diagnostic c.registration t.fullName) ∧
      (warningKinds c t).count .conflictingNames = (changes (registeredNames c t)).length := by
  have hkinds : (warnings c t).map (·.kind) = warningKinds c t := by
    rw [← outcome_kinds, warnings, List.map_map]
    rfl
  have hconflicts : (warnings c t).filter (·.kind == .conflictingNames) =
      ((changes (registeredNames c t)).map conflictOf).map
        (·.diagnostic c.registration t.fullName) := by
    rw [← outcome_conflicts, warnings, List.filter_map]
    rfl
  rw [adds_exportName c t j]
  refine ⟨warnings c t, rfl, hkinds, hconflicts, ?_⟩
  -- The count is the length of the list of conflicts.
  rw [← hkinds, List.count, List.countP_map, List.countP_eq_length_filter]
  have hlength := congrArg List.length hconflicts
  rwa [List.length_map, List.length_map] at hlength

end BridgeNames.Registration
