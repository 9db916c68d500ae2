import BridgeNames.Proofs.Registration.Outcome

/-!
# The name that a registration gives

Which name a type is exported under, said without a walk over the arguments. A registration gives
names in order: first the string argument of its constructor, if there is a proper one, then every
string that its name property is set to. The walk keeps the latest of them (`applySettings_fst`),
so what it ends with is the last string of the name property, or else the argument
(`givenName_fst`). That name is the export name if it shows something, and otherwise the fallback
name is, which is the full name with other separators (`ManagedType.fallbackName_eq`).
-/

namespace BridgeNames

namespace Text

/-- The text shows something: one of its characters is not white space. -/
def Shows (text : String) : Prop :=
  ∃ c ∈ text.toList, isWhiteSpace c = false

/-- A text shows something exactly if it is not blank. -/
theorem isBlank_eq_false_iff {text : String} : isBlank text = false ↔ Shows text := by
  simp [isBlank, Shows]

instance (text : String) : Decidable (Shows text) :=
  decidable_of_iff (isBlank text = false) isBlank_eq_false_iff

end Text

/-- The fallback name is the full name, character by character, with an underscore for each point
and each plus sign. -/
theorem ManagedType.fallbackName_eq (t : ManagedType) :
    t.fallbackName = String.ofList (t.fullName.toList.map fun c =>
      if c = '.' ∨ c = '+' then '_' else c) := by
  rw [fallbackName, ← String.toList_map, String.ofList_toList]

/-- The fallback name follows from the full name. -/
theorem ManagedType.fallbackName_congr {t u : ManagedType} (h : t.fullName = u.fullName) :
    t.fallbackName = u.fallbackName := by
  rw [fallbackName, h, fallbackName]

namespace Registration

/-- What becomes of a name that has been read follows from the full name. -/
theorem settled_congr {t u : ManagedType} (h : t.fullName = u.fullName) :
    settled t = settled u := by
  funext candidate
  rw [settled, settled, ManagedType.fallbackName_congr h, h]

/-- The name that the setting gives: the string that it sets the name property to. -/
def nameSet? (setting : NamedArgument) : Option String :=
  if setting.isField = false ∧ setting.name = "Name" then setting.value.string? else none

/-- The name that the constructor's arguments give: the string that is the first of one or two, if
it is declared as one. -/
def nameArgument? (registration : Attribute) : Option String :=
  registration.arguments.head?.bind fun first =>
    if (registration.arguments.length = 1 ∨ registration.arguments.length = 2) ∧
        first.declaredType = "System.String" then
      first.value.string?
    else none

/-- The name after settings: the last one that they give, or else the name before them. -/
def latestName (name : Option String) (settings : List NamedArgument) : Option String :=
  (settings.filterMap nameSet?).getLast?.or name

/-- The name that the registration gives: the last string that the name property is set to, or else
the one that the constructor's arguments give. -/
def candidate? (registration : Attribute) : Option String :=
  latestName (nameArgument? registration) registration.named

/-- The first of some settings can be taken into the name before them. -/
theorem latestName_cons (name : Option String) (setting : NamedArgument)
    (rest : List NamedArgument) :
    latestName name (setting :: rest) = latestName ((nameSet? setting).or name) rest := by
  unfold latestName
  cases hset : nameSet? setting with
  | none => rw [List.filterMap_cons_none hset, Option.none_or]
  | some value =>
    rw [List.filterMap_cons_some hset, List.getLast?_cons, Option.some_or]
    cases (rest.filterMap nameSet?).getLast? <;> rfl

/-- The constructor's arguments give the name that they are said to give. -/
theorem positionalName_fst (registration : Attribute) :
    (positionalName registration.arguments).1 = nameArgument? registration := by
  unfold nameArgument? positionalName
  match registration.arguments with
  | [] => rfl
  | [first] | [first, _] =>
    by_cases h : first.declaredType = "System.String" <;>
      simp [Argument.isDeclaredString, runtimeString, h]
  | _ :: _ :: _ :: _ => simp

/-- A setting that gives a name leaves that name, and is in conflict with another one before it. -/
theorem applySetting_of_nameSet {name : Option String} {setting : NamedArgument} {value : String}
    (h : nameSet? setting = some value) :
    applySetting name setting =
      (some value, name.toList.flatMap fun previous =>
        if previous = value then [] else [.conflict previous value]) := by
  unfold nameSet? at h
  split at h
  · rename_i hset
    unfold applySetting
    cases name <;> simp [hset.1, hset.2, h]
  · exact absurd h (by simp)

/-- A setting that gives no name leaves the name before it, and is in no conflict. -/
theorem applySetting_of_not_nameSet (name : Option String) {setting : NamedArgument}
    (h : nameSet? setting = none) :
    ∃ problems, applySetting name setting = (name, problems) ∧
      ∀ problem ∈ problems, problem.kind ≠ .conflictingNames := by
  unfold nameSet? at h
  unfold applySetting
  split
  · exact ⟨[], rfl, by simp⟩
  · rename_i hskipped
    -- Only properties are left, and the name property is set to something else than a string.
    rw [not_or] at hskipped
    split
    · rename_i hname
      rw [if_pos ⟨Bool.eq_false_iff.mpr hskipped.1, hname⟩] at h
      rw [h]
      exact ⟨[.nameValue setting.value], rfl, by simp [RegistrationProblem.kind]⟩
    · split
      · exact ⟨[.skipped setting.value], rfl, by simp [RegistrationProblem.kind]⟩
      · exact ⟨[.unknownProperty setting.name setting.value], rfl,
          by simp [RegistrationProblem.kind]⟩

/-- A setting that gives a name replaces the name before, and every other one keeps it. -/
theorem applySetting_fst (name : Option String) (setting : NamedArgument) :
    (applySetting name setting).1 = (nameSet? setting).or name := by
  cases h : nameSet? setting with
  | some value => rw [applySetting_of_nameSet h, Option.some_or]
  | none =>
    obtain ⟨problems, heq, -⟩ := applySetting_of_not_nameSet name h
    rw [heq, Option.none_or]

/-- The walk takes the name after the first setting on to the rest, and keeps all problems. -/
theorem applySettings_cons (name : Option String) (setting : NamedArgument)
    (rest : List NamedArgument) :
    applySettings name (setting :: rest) =
      ((applySettings (applySetting name setting).1 rest).1,
        (applySetting name setting).2 ++ (applySettings (applySetting name setting).1 rest).2) :=
  rfl

/-- The walk over settings ends with the name after them. -/
theorem applySettings_fst (name : Option String) (settings : List NamedArgument) :
    (applySettings name settings).1 = latestName name settings := by
  induction settings generalizing name with
  | nil => rfl
  | cons setting rest ih =>
    rw [applySettings_cons, ih, applySetting_fst, latestName_cons]

/-- The walk over a registration starts with the name that the constructor's arguments give. -/
theorem givenName_eq (registration : Attribute) :
    givenName registration =
      ((applySettings (nameArgument? registration) registration.named).1,
        (positionalName registration.arguments).2 ++
          (applySettings (nameArgument? registration) registration.named).2) := by
  rw [← positionalName_fst]
  rfl

/-- The name that the registration is found to give is its candidate. -/
theorem givenName_fst (registration : Attribute) :
    (givenName registration).1 = candidate? registration := by
  rw [givenName_eq, applySettings_fst]
  rfl

/-- The first attribute of a type heads those that are found. -/
theorem attributesNamed_head? (t : ManagedType) (attributeType : String) :
    (t.attributesNamed attributeType).head? = t.attributes.find? (·.type == attributeType) :=
  List.head?_filter

/-- A type without a registration has its fallback name and no problems. -/
theorem outcome_of_unregistered {c : Conventions} {t : ManagedType}
    (h : t.attributesNamed c.registration = []) : outcome c t = ⟨t.fallbackName, [], []⟩ := by
  unfold outcome
  rw [h]

/-- The export name of a registered type is the candidate of its first registration, unless that is
missing or blank. -/
theorem outcome_name_of_registered {c : Conventions} {t : ManagedType} {registration : Attribute}
    (h : t.attributes.find? (·.type == c.registration) = some registration) :
    (outcome c t).name =
      ((candidate? registration).filter (!Text.isBlank ·)).getD t.fallbackName := by
  rw [← attributesNamed_head?, List.head?_eq_some_iff] at h
  obtain ⟨others, hfound⟩ := h
  unfold outcome settled
  simp only [hfound, givenName_fst]
  cases (candidate? registration).filter (!Text.isBlank ·) <;> rfl

/-- Whatever has been said before, the export name of a type is the candidate of its first
registration if that has a character other than white space. In every other case it is the full name
with an underscore for each point and each plus sign. -/
theorem exportName_eq (c : Conventions) (t : ManagedType) (j : Journal) :
    let fallback := String.ofList (t.fullName.toList.map fun character =>
      if character = '.' ∨ character = '+' then '_' else character)
    ((exportName c t).run j).1 =
      match t.attributes.find? (·.type == c.registration) with
      | none => fallback
      | some registration =>
        match candidate? registration with
        | none => fallback
        | some name =>
          if Text.Shows name then name else fallback := by
  intro fallback
  have hfallback : fallback = t.fallbackName := t.fallbackName_eq.symm
  rw [hfallback, adds_exportName c t j]
  split
  · rename_i hfound
    rw [← attributesNamed_head?, List.head?_eq_none_iff] at hfound
    rw [outcome_of_unregistered hfound]
  · rename_i registration hfound
    rw [outcome_name_of_registered hfound]
    split
    · rename_i hcandidate
      rw [hcandidate]
      rfl
    · rename_i name hcandidate
      rw [hcandidate]
      cases hblank : Text.isBlank name with
      | false =>
        rw [if_pos (Text.isBlank_eq_false_iff.mp hblank),
          Option.filter_some_pos (by rw [hblank]; rfl)]
        rfl
      | true =>
        have hnone : ¬ Text.Shows name := by
          rw [← Text.isBlank_eq_false_iff, hblank]
          exact Bool.noConfusion
        rw [if_neg hnone, Option.filter_some_neg (by rw [hblank]; rfl)]
        rfl

end Registration

end BridgeNames
