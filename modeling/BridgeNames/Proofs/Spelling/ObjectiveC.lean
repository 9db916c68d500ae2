import BridgeNames.Proofs.Registration.Outcome
import BridgeNames.Spelling.ObjectiveC
import Mathlib.Tactic.ByContra

/-!
# Which types Objective-C can spell

Spelling a type reports an answer, diagnostics, and records of its own (`spell_reports`), whatever
has been said before. A declared type always has a spelling; a wrapper has one in the shapes of
`Covered`. An array is covered if a collection can hold its elements, and a reference if it is to a
declared type that has values or to a covered array. Every other type is refused without a word
(`spell_of_not_covered`), and the error names the type itself or the array that a reference is to.

The diagnostics come with the export name, which is asked for at most once: a reference passes on
what it refers to, and an array of enumerations is spelled without the name of its elements
(`spell_reports_of_covered`).

Wrappers can be told from their spellings: an array is spelled as data or with the brackets of a
collection, and a reference with the mark of a nullable pointer at the end
(`spellArray_answer_cases`, `nullable_suffix_spell`).
-/

namespace BridgeNames

open Naming

/-- The type is a structure with a name of its own. -/
def Declared.IsStructure (d : Declared) : Prop :=
  d.nature = .namedObject ∧ (ManagedType.declared d).is .valueType = true

/-- Of the types with a name of their own, the structures are those with the form of a value. -/
theorem Declared.isStructure_iff {d : Declared} :
    d.IsStructure ↔ d.nature = .namedObject ∧ d.form = .value := by
  unfold IsStructure
  refine and_congr_right fun hnature => ?_
  cases hform : d.form with
  | scalar kind => simp [nature, hform] at hnature
  | enumeration underlying => simp [nature, hform] at hnature
  | decimal => simp [nature, hform] at hnature
  | _ => simp [ManagedType.is, ManagedType.flags, Form.flags, hform]

/-- The spelling of the type has the export name of the declared type inside all wrappers in it:
that is a class, an interface or a structure with a name of its own, or an enumeration that no array
is around. -/
def ManagedType.IsSpelledByName (t : ManagedType) : Prop :=
  t.base.nature = .namedObject ∨ t.base.nature = .enumeration ∧ .array ∉ t.wrappers

instance : DecidablePred ManagedType.IsSpelledByName := fun t =>
  inferInstanceAs (Decidable (t.base.nature = .namedObject ∨ _ ∧ _))

/-- An export name is reported with the warnings of the registration. -/
theorem exportName_reports (c : Conventions) (t : ManagedType) :
    Reports (liftM (exportName c t)) (.ok (Registration.outcome c t).name)
      (Registration.warnings c t) (Registration.outcome c t).records :=
  reports_lift (Registration.adds_exportName c t)

namespace ObjectiveC

/-- A collection can hold values of the type. -/
inductive Collectable : ManagedType → Prop
  /-- Values of a declared type, unless it has none or is a structure. -/
  | declared {d : Declared} (hvoid : d.nature ≠ .void) (hstructure : ¬ d.IsStructure) :
    Collectable (.declared d)

/-- The type has one of the shapes that can be spelled. -/
inductive Covered : ManagedType → Prop
  | declared (d : Declared) : Covered (.declared d)
  | array {element : ManagedType} (attributes : List Attribute) (h : Collectable element) :
    Covered (.wrapped .array element attributes)
  | reference {d : Declared} (attributes : List Attribute) (h : d.nature ≠ .void) :
    Covered (.wrapped .byRef (.declared d) attributes)
  | arrayReference {element : ManagedType} (inner outer : List Attribute)
    (h : Collectable element) : Covered (.wrapped .byRef (.wrapped .array element inner) outer)

/-- The type that an error blames: the array that a reference is to, and else the type itself. -/
def culprit : ManagedType → ManagedType
  | .wrapped .byRef (.wrapped .array element attributes) _ => .wrapped .array element attributes
  | t => t

/-- The warnings that come with the spelling of the type. -/
def warnings (c : Conventions) (t : ManagedType) : List Diagnostic :=
  if t.IsSpelledByName then Registration.warnings c (.declared t.base) else []

/-- A declared type is spelled by its export name if it has a name of its own. -/
theorem warnings_declared (c : Conventions) (d : Declared) :
    warnings c (.declared d) =
      if d.nature = .namedObject ∨ d.nature = .enumeration then
        Registration.warnings c (.declared d)
      else [] := by
  simp [warnings, ManagedType.IsSpelledByName, ManagedType.base, ManagedType.wrappers]

/-- An array is spelled by the export name of its elements unless these are enumerations. -/
theorem warnings_array (c : Conventions) (d : Declared) (attributes : List Attribute) :
    warnings c (.wrapped .array (.declared d) attributes) =
      if d.nature = .namedObject then Registration.warnings c (.declared d) else [] := by
  simp [warnings, ManagedType.IsSpelledByName, ManagedType.base, ManagedType.wrappers]

/-- A reference comes with the same warnings as what it refers to. -/
theorem warnings_byRef (c : Conventions) (element : ManagedType) (attributes : List Attribute) :
    warnings c (.wrapped .byRef element attributes) = warnings c element := by
  refine if_congr ?_ rfl rfl
  simp [ManagedType.IsSpelledByName, ManagedType.base, ManagedType.wrappers]

/-- A declared type that has values, but none that a collection can hold, is a structure. -/
theorem isStructure_of_not_collectable {d : Declared} (hvoid : d.nature ≠ .void)
    (h : ¬ Collectable (.declared d)) : d.IsStructure := by
  by_contra hne
  exact h (.declared hvoid hne)

/-- A declared type has a spelling. -/
theorem spellDeclared_reports (c : Conventions) (d : Declared) :
    ∃ s rs, Reports (spellDeclared c d) (.ok s) (warnings c (.declared d)) rs := by
  unfold spellDeclared
  rw [warnings_declared]
  cases d.nature with
  | enumeration => exact ⟨_, _, exportName_reports c _⟩
  | namedObject => exact ⟨_, _, exportName_reports c _⟩
  | _ => exact ⟨_, _, reports_pure _⟩

/-- A declared type with a name of its own is spelled as it is exported. -/
theorem spelling_of_hasOwnName {c : Conventions} {d : Declared} {s : String}
    (h : d.nature = .enumeration ∨ d.nature = .namedObject)
    (hs : (spell c (.declared d)).answer = .ok s) :
    s = (Registration.outcome c (.declared d)).name := by
  have hspell : spell c (.declared d) = liftM (exportName c (.declared d)) := by
    simp only [spell, spellDeclared]
    rcases h with h | h <;> rw [h]
  rw [hspell, (exportName_reports c _).answer_eq] at hs
  exact (Except.ok.inj hs).symm

/-- An array of what a collection can hold has a spelling. -/
theorem spellArray_of_collectable (c : Conventions) (array : ManagedType) {element : ManagedType}
    (attributes : List Attribute) (h : Collectable element) :
    ∃ s rs, Reports (spellArray c array element) (.ok s)
      (warnings c (.wrapped .array element attributes)) rs := by
  obtain @⟨d, hvoid, hstructure⟩ := h
  rw [warnings_array]
  simp only [spellArray]
  cases hnature : d.nature with
  | scalar kind => cases kind <;> exact ⟨_, _, reports_pure _⟩
  | void => exact absurd hnature hvoid
  | namedObject =>
    cases hform : d.form with
    | value => exact absurd (Declared.isStructure_iff.mpr ⟨hnature, hform⟩) hstructure
    | _ => exact ⟨_, _, (exportName_reports c _).bind_pure _⟩
  | _ => exact ⟨_, _, reports_pure _⟩

/-- An array of anything else has none. -/
theorem spellArray_of_not_collectable (c : Conventions) (array : ManagedType)
    {element : ManagedType} (h : ¬ Collectable element) :
    spellArray c array element = gap array := by
  cases element with
  | wrapped wrapper inner attributes => rfl
  | declared d =>
    by_cases hvoid : d.nature = .void
    · simp only [spellArray, hvoid]
    · obtain ⟨hnature, hform⟩ :=
        Declared.isStructure_iff.mp (isStructure_of_not_collectable hvoid h)
      simp only [spellArray, hnature, hform]

/-- There are marks for a reference to every declared type but the void type. -/
theorem referenceMarks?_eq_none_iff {d : Declared} :
    referenceMarks? d = none ↔ d.nature = .void := by
  unfold referenceMarks?
  cases d.nature with
  | namedObject => cases d.form <;> simp
  | _ => simp

/-- A covered type has a spelling, which comes with the warnings of the export name if it has that
in it. -/
theorem spell_reports_of_covered (c : Conventions) {t : ManagedType} (h : Covered t) :
    ∃ s rs, Reports (spell c t) (.ok s) (warnings c t) rs := by
  cases h with
  | declared d => exact spellDeclared_reports c d
  | array attributes h => exact spellArray_of_collectable c _ attributes h
  | @reference d attributes h =>
    obtain ⟨marks, hmarks⟩ := Option.ne_none_iff_exists'.mp (mt referenceMarks?_eq_none_iff.mp h)
    obtain ⟨s, rs, hs⟩ := spellDeclared_reports c d
    simp only [spell, hmarks, warnings_byRef]
    exact ⟨_, rs, hs.bind_pure _⟩
  | @arrayReference element inner outer h =>
    obtain ⟨s, rs, hs⟩ := spellArray_of_collectable c (.wrapped .array element inner) inner h
    rw [warnings_byRef]
    exact ⟨_, rs, hs.bind_pure _⟩

/-- A covered type has a spelling. -/
theorem spell_of_covered (c : Conventions) {t : ManagedType} (h : Covered t) :
    ∃ s ds rs, Reports (spell c t) (.ok s) ds rs := by
  obtain ⟨s, rs, hs⟩ := spell_reports_of_covered c h
  exact ⟨s, _, rs, hs⟩

/-- A type that is not covered has none. Nothing is reported but the error. -/
theorem spell_of_not_covered (c : Conventions) {t : ManagedType} (h : ¬ Covered t) :
    Reports (spell c t) (.error (.unspellable (culprit t).fullName .objectiveC)) [] [] := by
  match t with
  | .declared d => exact absurd (.declared d) h
  | .wrapped .array element attributes =>
    have helement : ¬ Collectable element := fun he => h (.array attributes he)
    rw [spell, spellArray_of_not_collectable c _ helement]
    exact reports_throw _
  | .wrapped .byRef (.declared d) attributes =>
    have hvoid : d.nature = .void := by
      by_contra hne
      exact h (.reference attributes hne)
    simp only [spell, referenceMarks?_eq_none_iff.mpr hvoid]
    exact reports_throw _
  | .wrapped .byRef (.wrapped .array element inner) outer =>
    -- The error of the array ends the spelling of the reference, so it is the array that is named.
    have helement : ¬ Collectable element := fun he => h (.arrayReference inner outer he)
    rw [spell, spellArray_of_not_collectable c _ helement]
    exact (reports_throw _).bind_error
  | .wrapped .byRef (.wrapped .byRef _ _) _ => exact reports_throw _

/-- Spelling a type reports an answer of its own. -/
theorem spell_reports (c : Conventions) (t : ManagedType) :
    ∃ r ds rs, Reports (spell c t) r ds rs := by
  by_cases h : Covered t
  · obtain ⟨s, ds, rs, hs⟩ := spell_of_covered c h
    exact ⟨_, _, _, hs⟩
  · exact ⟨_, _, _, spell_of_not_covered c h⟩

/-! ### What the spelling of a wrapper looks like -/

/-- The spelling of an array is that of data, or that of a collection of something. -/
theorem spellArray_answer_cases {c : Conventions} {array element : ManagedType} {s : String}
    (h : (spellArray c array element).answer = .ok s) :
    s = "NSData *" ∨ ∃ held, s = "NSArray<" ++ held ++ "> *" := by
  cases element with
  | wrapped wrapper inner attributes => cases h
  | declared d =>
    simp only [spellArray] at h
    cases hnature : d.nature with
    | scalar kind =>
      rw [hnature] at h
      cases kind with
      | uint8 =>
        cases h
        exact .inl rfl
      | _ =>
        cases h
        exact .inr ⟨"NSNumber *", rfl⟩
    | enumeration =>
      rw [hnature] at h
      cases h
      exact .inr ⟨"NSNumber *", rfl⟩
    | string =>
      rw [hnature] at h
      cases h
      exact .inr ⟨"NSString *", rfl⟩
    | decimal =>
      rw [hnature] at h
      cases h
      exact .inr ⟨"NSDecimalNumber *", rfl⟩
    | rootObject =>
      rw [hnature] at h
      cases h
      exact .inr ⟨"NSObject *", rfl⟩
    | namedObject =>
      -- The export name stands inside the brackets, with the marks of an object around it.
      have hname := (exportName_reports c (.declared d)).bind_pure (β := String)
      rw [hnature] at h
      cases hform : d.form with
      | value =>
        rw [hform] at h
        cases h
      | interface =>
        rw [hform] at h
        have hanswer := (hname fun name => "NSArray<id<" ++ name ++ ">> *").answer_eq
        cases h.symm.trans hanswer
        exact .inr ⟨"id<" ++ (Registration.outcome c (.declared d)).name ++ ">",
          String.toList_inj.mp (by simp)⟩
      | _ =>
        rw [hform] at h
        have hanswer := (hname fun name => "NSArray<" ++ name ++ " *> *").answer_eq
        cases h.symm.trans hanswer
        exact .inr ⟨(Registration.outcome c (.declared d)).name ++ " *",
          String.toList_inj.mp (by simp)⟩
    | void =>
      rw [hnature] at h
      cases h

/-- What a reference puts behind the spelling of the type that it refers to ends in the mark of a
nullable pointer. -/
theorem nullable_suffix_referenceMarks {d : Declared} {before after : String}
    (h : referenceMarks? d = some (before, after)) :
    " * _Nullable".toList <:+ after.toList := by
  unfold referenceMarks? at h
  split at h
  all_goals
    cases h
    try decide

/-- The spelling of a reference ends in the mark of a nullable pointer. -/
theorem nullable_suffix_spell {c : Conventions} {element : ManagedType}
    {attributes : List Attribute} {s : String}
    (h : (spell c (.wrapped .byRef element attributes)).answer = .ok s) :
    " * _Nullable".toList <:+ s.toList := by
  match element with
  | .declared d =>
    cases hmarks : referenceMarks? d with
    | none =>
      simp only [spell, hmarks] at h
      cases h
    | some marks =>
      simp only [spell, hmarks] at h
      obtain ⟨inner, -, rfl⟩ := exists_of_answer_bind_pure h
      rw [String.toList_append]
      exact (nullable_suffix_referenceMarks hmarks).trans (List.suffix_append ..)
  | .wrapped .array inner innermost =>
    have hnonnull : " * _Nullable".toList <:+ " _Nonnull * _Nullable".toList := by decide
    obtain ⟨inner, -, rfl⟩ := exists_of_answer_bind_pure h
    rw [String.toList_append]
    exact hnonnull.trans (List.suffix_append ..)
  | .wrapped .byRef inner innermost => cases h

end ObjectiveC

end BridgeNames
