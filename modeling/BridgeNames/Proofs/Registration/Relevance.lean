import BridgeNames.Proofs.Registration.Name

/-!
# What an export name depends on

Naming a type looks at its full name, at how often it is registered, and at its first registration.
Of that, it does not look at the second constructor argument, at fields, or at the property that
marks a wrapper: the registration without them is what is heeded of it (`heeded`), and the walk
over it gives the same name and the same problems (`givenName_heeded`). So two types that agree in
these points are named alike and with the same warnings, whatever else is attached to them and
whatever kind of types they are (`exportName_eq_of_registeredAlike`).
-/

namespace BridgeNames.Registration

/-- The setting is heeded: it sets a property other than the mark of a wrapper. -/
def isHeeded (setting : NamedArgument) : Bool :=
  !setting.isField && setting.name != "IsWrapper"

/-- The arguments of the constructor that are heeded: of one or two the first. -/
def heededArguments : List Argument → List Argument
  | [first] | [first, _] => [first]
  | arguments => arguments

/-- What is heeded of a registration. -/
def heeded (registration : Attribute) : Attribute :=
  { registration with
    arguments := heededArguments registration.arguments
    named := registration.named.filter isHeeded }

/-- There is nothing to tell the two types apart by when they are named. -/
structure RegisteredAlike (c : Conventions) (t u : ManagedType) : Prop where
  fullName_eq : t.fullName = u.fullName
  /-- They are registered equally often. -/
  length_eq : (t.attributesNamed c.registration).length = (u.attributesNamed c.registration).length
  /-- The same is heeded of their first registrations, if they are registered. -/
  heeded_eq : (t.attributesNamed c.registration).head?.map heeded =
    (u.attributesNamed c.registration).head?.map heeded

/-- The arguments that are not heeded change neither the name nor the problem of the others. -/
theorem positionalName_heededArguments (arguments : List Argument) :
    positionalName (heededArguments arguments) = positionalName arguments := by
  match arguments with
  | [] => rfl
  | [_] => rfl
  | [_, _] => rfl
  | _ :: _ :: _ :: _ => rfl

/-- A setting that is not heeded keeps the name before it, and nothing is wrong with it. -/
theorem applySetting_of_not_heeded (name : Option String) {setting : NamedArgument}
    (h : isHeeded setting = false) : applySetting name setting = (name, []) := by
  have hskipped : setting.isField = true ∨ setting.name = "IsWrapper" := by
    rw [isHeeded, Bool.and_eq_false_iff, Bool.not_eq_false', bne_eq_false_iff_eq] at h
    exact h
  unfold applySetting
  rw [if_pos hskipped]

/-- The walk over settings comes to the same end without those that are not heeded. -/
theorem applySettings_filter (name : Option String) (settings : List NamedArgument) :
    applySettings name (settings.filter isHeeded) = applySettings name settings := by
  induction settings generalizing name with
  | nil => rfl
  | cons setting rest ih =>
    rw [List.filter_cons, applySettings_cons]
    cases hheeded : isHeeded setting with
    | true => rw [if_pos rfl, applySettings_cons, ih]
    | false =>
      rw [if_neg Bool.false_ne_true, ih, applySetting_of_not_heeded name hheeded]
      rfl

/-- A registration gives the name and has the problems of what is heeded of it. -/
theorem givenName_heeded (registration : Attribute) :
    givenName (heeded registration) = givenName registration := by
  simp only [givenName, heeded, positionalName_heededArguments, applySettings_filter]

/-- The same comes out for two types that there is nothing to tell apart by. -/
theorem RegisteredAlike.outcome_eq {c : Conventions} {t u : ManagedType}
    (h : RegisteredAlike c t u) : outcome c t = outcome c u := by
  have hfallback : t.fallbackName = u.fallbackName := ManagedType.fallbackName_congr h.fullName_eq
  have hsettled : settled t = settled u := settled_congr h.fullName_eq
  have hlength := h.length_eq
  have hheeded := h.heeded_eq
  unfold outcome
  rw [hfallback, hsettled]
  -- Either both types are registered or neither is.
  cases ht : t.attributesNamed c.registration with
  | nil =>
    rw [ht, List.length_nil, eq_comm, List.length_eq_zero_iff] at hlength
    rw [hlength]
  | cons first others =>
    cases hu : u.attributesNamed c.registration with
    | nil =>
      rw [ht, hu] at hlength
      cases hlength
    | cons first' others' =>
      rw [ht, hu] at hlength hheeded
      have hgiven : givenName first = givenName first' := by
        rw [← givenName_heeded first, Option.some.inj hheeded, givenName_heeded]
      have hothers : others.length = others'.length := Nat.succ.inj hlength
      have hempty : others.isEmpty = others'.isEmpty := by
        rw [Bool.eq_iff_iff, List.isEmpty_iff_length_eq_zero, List.isEmpty_iff_length_eq_zero,
          hothers]
      simp only [hgiven, hothers, hempty]

/-- Two types with one full name that are registered equally often, and of whose first registrations
the same is heeded, get the same name, and the same diagnostics are put behind what has been said
before. -/
theorem exportName_eq_of_registeredAlike {c : Conventions} {t u : ManagedType}
    (h : RegisteredAlike c t u) (j k : Journal) :
    ((exportName c t).run j).1 = ((exportName c u).run k).1 ∧
      ∃ ds, ((exportName c t).run j).2.queue.entries = j.queue.entries ++ ds ∧
        ((exportName c u).run k).2.queue.entries = k.queue.entries ++ ds := by
  have hwarnings : warnings c t = warnings c u := by
    rw [warnings, h.outcome_eq, h.fullName_eq, warnings]
  rw [adds_exportName c t j, adds_exportName c u k]
  refine ⟨congrArg Outcome.name h.outcome_eq, warnings c t, rfl, ?_⟩
  rw [hwarnings]
  rfl

/-- An array of buttons that is registered twice, first with a second argument and as a wrapper. The
unknown property is set to what is not a number. -/
def registeredArray : ManagedType :=
  .wrapped .array (.declared ⟨"App", "Button", none, .reference, []⟩)
    [⟨"Foundation.RegisterAttribute",
        [⟨"System.String", .string "Push"⟩, ⟨"System.Boolean", .boolean true⟩],
        [⟨"IsWrapper", .boolean true, false⟩, ⟨"Since", .double 0x7FF8000000000000, false⟩]⟩,
      ⟨"Foundation.RegisterAttribute", [], []⟩]

/-- An enumeration with the full name of the array. A field of its first registration has the name
of the name property. -/
def registeredEnumeration : ManagedType :=
  .declared ⟨"App", "Button[]", none, .enumeration .int32,
    [⟨"System.ObsoleteAttribute", [], []⟩,
      ⟨"Foundation.RegisterAttribute", [⟨"System.String", .string "Push"⟩],
        [⟨"Name", .string "Pull", true⟩, ⟨"Since", .double 0x7FF8000000000000, false⟩]⟩,
      ⟨"Foundation.RegisterAttribute", [⟨"System.String", .string "Other"⟩], []⟩]⟩

/-- Different as they are, the two are named alike. -/
theorem registeredArray_exportName_eq :
    RegisteredAlike .standard registeredArray registeredEnumeration ∧
      ((exportName .standard registeredArray).run .empty).1 =
        ((exportName .standard registeredEnumeration).run .empty).1 ∧
      ∃ ds, ((exportName .standard registeredArray).run .empty).2.queue.entries =
          Journal.empty.queue.entries ++ ds ∧
        ((exportName .standard registeredEnumeration).run .empty).2.queue.entries =
          Journal.empty.queue.entries ++ ds := by
  have halike : RegisteredAlike .standard registeredArray registeredEnumeration := ⟨rfl, rfl, rfl⟩
  exact ⟨halike, exportName_eq_of_registeredAlike halike .empty .empty⟩

end BridgeNames.Registration
