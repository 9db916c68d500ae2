import BridgeNames.Proofs.ManagedType.Equality
import BridgeNames.Proofs.Naming
import BridgeNames.Proofs.Registration.Warnings
import BridgeNames.Proofs.Spelling.Mono

/-!
# Types that are the same are named alike

Naming looks at the attributes of a type, but of an attribute value only at the string that it is.
What else there is of a value is passed on to the messages alone: so the registrations of types that
are the same may be reported in different words, as when one property is set to zero and the other
to negative zero, but they give the same name and have problems of the same kinds, each about the
same type (`outcome_congr`). A spelling looks at the form of a type, at its names, and at export
names, so types that are the same are spelled alike or cannot be spelled for the same reason
(`ObjectiveC.spell_answer_congr`, `Mono.spell_congr`).
-/

namespace BridgeNames

open Naming

/-- What a diagnostic says without its words: its kind and the type that it is about. -/
def Diagnostic.heading (d : Diagnostic) : DiagnosticKind × Option String :=
  (d.kind, d.typeName)

namespace Registration

open RegistrationProblem

/-- The names and the problems of two walks agree, but for the words for the problems. -/
structure SameKinds (x y : Option String × List RegistrationProblem) : Prop where
  name_eq : x.1 = y.1
  kinds_eq : x.2.map kind = y.2.map kind

/-- Settings that are the same give the same name. -/
theorem nameSet?_congr {s t : NamedArgument} (h : s.same t = true) : nameSet? s = nameSet? t := by
  obtain ⟨hfield, hname, hvalue⟩ := NamedArgument.eq_of_same h
  rw [nameSet?, hfield, hname, hvalue, nameSet?]

/-- Settings that are the same have problems of the same kinds. -/
theorem settingKinds_congr (latest : Option String) {s t : NamedArgument} (h : s.same t = true) :
    settingKinds latest s = settingKinds latest t := by
  obtain ⟨hfield, hname, hvalue⟩ := NamedArgument.eq_of_same h
  rw [settingKinds, hfield, hname, hvalue, settingKinds]

/-- One step of the walk over settings comes to the same for settings that are the same. -/
theorem applySetting_congr (name : Option String) {s t : NamedArgument} (h : s.same t = true) :
    SameKinds (applySetting name s) (applySetting name t) where
  name_eq := by rw [applySetting_fst, applySetting_fst, nameSet?_congr h]
  kinds_eq := by rw [applySetting_kinds, applySetting_kinds, settingKinds_congr name h]

/-- The whole walk comes to the same for lists of settings that are the same. -/
theorem applySettings_congr (name : Option String) {ss ts : List NamedArgument}
    (h : List.Forall₂ (fun s t => s.same t = true) ss ts) :
    SameKinds (applySettings name ss) (applySettings name ts) := by
  induction h generalizing name with
  | nil => exact ⟨rfl, rfl⟩
  | @cons s t ss ts hfirst hrest ih =>
    -- The rest of either walk starts with the same name, the one after the first setting.
    obtain ⟨hname, hkinds⟩ := applySetting_congr name hfirst
    obtain ⟨hlast, hothers⟩ := ih (applySetting name s).1
    rw [applySettings_cons, applySettings_cons, ← hname]
    exact ⟨hlast, by rw [List.map_append, List.map_append, hkinds, hothers]⟩

/-- Constructor arguments that are the same give the same name. -/
theorem positionalName_congr {as bs : List Argument}
    (h : List.Forall₂ (fun a b => a.same b = true) as bs) :
    SameKinds (positionalName as) (positionalName bs) := by
  have hfirst {a b : Argument} (h : a.same b = true) :
      SameKinds (positionalName [a]) (positionalName [b]) := by
    obtain ⟨htype, hvalue⟩ := Argument.eq_of_same h
    simp only [positionalName, Argument.isDeclaredString, htype, hvalue]
    exact ⟨rfl, rfl⟩
  -- There are none, one, two, or more of them.
  cases h with
  | nil => exact ⟨rfl, rfl⟩
  | cons h hmore =>
    cases hmore with
    | nil => exact hfirst h
    | cons _ hmore =>
      cases hmore with
      | nil => exact hfirst h
      | cons _ _ => exact ⟨rfl, rfl⟩

/-- Registrations that are the same give the same name. -/
theorem givenName_congr {a b : Attribute} (h : a.same b = true) :
    SameKinds (givenName a) (givenName b) := by
  obtain ⟨-, harguments, hnamed⟩ := Attribute.same_iff.mp h
  have hpositional := positionalName_congr harguments
  have hargument : nameArgument? a = nameArgument? b := by
    rw [← positionalName_fst, ← positionalName_fst, hpositional.name_eq]
  have hsettings := applySettings_congr (nameArgument? a) hnamed
  rw [givenName_eq, givenName_eq, ← hargument]
  exact ⟨hsettings.name_eq, by
    rw [List.map_append, List.map_append, hpositional.kinds_eq, hsettings.kinds_eq]⟩

/-- Types that are the same get the same name, with problems of the same kinds. -/
theorem outcome_congr (c : Conventions) {t u : ManagedType} (h : t.same u = true) :
    (outcome c t).name = (outcome c u).name ∧
      (outcome c t).problems.map kind = (outcome c u).problems.map kind := by
  have hfallback : t.fallbackName = u.fallbackName :=
    ManagedType.fallbackName_congr (ManagedType.fullName_eq_of_same h)
  have hsettled : settled t = settled u := settled_congr (ManagedType.fullName_eq_of_same h)
  have hfound := ManagedType.attributesNamed_of_same h c.registration
  unfold outcome
  rw [hfallback, hsettled]
  cases ht : t.attributesNamed c.registration with
  | nil =>
    rw [ht, List.forall₂_nil_left_iff] at hfound
    rw [hfound]
    exact ⟨rfl, rfl⟩
  | cons first others =>
    rw [ht, List.forall₂_cons_left_iff] at hfound
    obtain ⟨first', others', hfirst, hothers, hu⟩ := hfound
    obtain ⟨hname, hkinds⟩ := givenName_congr hfirst
    have hrepeated :
        (if others.isEmpty then [] else [repeated (others.length + 1)]).map kind =
          (if others'.isEmpty then [] else [repeated (others'.length + 1)]).map kind := by
      cases hothers <;> rfl
    rw [hu]
    simp only [hname, List.map_append, hrepeated, hkinds, and_self]

/-- The warnings about a type are headed by the kinds of the problems and by the type. -/
theorem warnings_headings (c : Conventions) (t : ManagedType) :
    (warnings c t).map Diagnostic.heading =
      ((outcome c t).problems.map kind).map fun k => (k, some t.fullName) := by
  rw [warnings, List.map_map, List.map_map]
  rfl

/-- Types that are the same come with warnings of the same kinds about the same type. -/
theorem warnings_congr (c : Conventions) {t u : ManagedType} (h : t.same u = true) :
    (warnings c t).map Diagnostic.heading = (warnings c u).map Diagnostic.heading := by
  rw [warnings_headings, warnings_headings, (outcome_congr c h).2,
    ManagedType.fullName_eq_of_same h]

end Registration

variable (c : Conventions)

/-- Types that are the same have the same export name. -/
theorem exportName_answer_congr {t u : ManagedType} (h : t.same u = true) :
    (liftM (exportName c t) : Naming String).answer =
      (liftM (exportName c u) : Naming String).answer := by
  rw [(exportName_reports c t).answer_eq, (exportName_reports c u).answer_eq,
    (Registration.outcome_congr c h).1]

namespace ObjectiveC

/-- The failure to spell a type names nothing but the type. -/
theorem gap_congr {α : Type} {t u : ManagedType} (h : t.fullName = u.fullName) :
    (gap t : Naming α) = gap u := by
  rw [gap, h, gap]

/-- Declared types that are the same are spelled alike. -/
theorem spellDeclared_answer_congr {d e : Declared} (h : d.same e = true) :
    (spellDeclared c d).answer = (spellDeclared c e).answer := by
  have hexport := exportName_answer_congr c (t := .declared d) (u := .declared e) h
  unfold spellDeclared
  rw [Declared.nature_eq_of_same h]
  cases e.nature with
  | enumeration => exact hexport
  | namedObject => exact hexport
  | _ => rfl

/-- Arrays of one full name are spelled alike if their elements are the same. -/
theorem spellArray_answer_congr {array array' t u : ManagedType}
    (harray : array.fullName = array'.fullName) (h : t.same u = true) :
    (spellArray c array t).answer = (spellArray c array' u).answer := by
  have hexport := exportName_answer_congr c h
  have hgap : (gap array : Naming String) = gap array' := gap_congr harray
  cases t with
  | wrapped wrapper element attributes =>
    obtain ⟨other, others, rfl, -, -⟩ := ManagedType.exists_of_same_wrapped h
    rw [spellArray, hgap, spellArray]
  | declared d =>
    obtain ⟨e, rfl, h⟩ := ManagedType.exists_of_same_declared h
    simp only [spellArray, Declared.nature_eq_of_same h, Declared.form_eq_of_same h, hgap]
    cases e.nature with
    | scalar kind => cases kind <;> rfl
    | namedObject =>
      cases e.form with
      | value => rfl
      | _ => simp only [answer_bind_pure, hexport]
    | _ => rfl

/-- A reference puts the same around the spellings of declared types that are the same. -/
theorem referenceMarks?_congr {d e : Declared} (h : d.same e = true) :
    referenceMarks? d = referenceMarks? e := by
  rw [referenceMarks?, Declared.nature_eq_of_same h, Declared.form_eq_of_same h, referenceMarks?]

/-- References of one full name are spelled alike if they are to types that are the same. -/
theorem spell_byRef_answer_congr {t u : ManagedType} {attributes others : List Attribute}
    (hfull : (ManagedType.wrapped .byRef t attributes).fullName =
      (ManagedType.wrapped .byRef u others).fullName) (h : t.same u = true) :
    (spell c (.wrapped .byRef t attributes)).answer =
      (spell c (.wrapped .byRef u others)).answer := by
  cases t with
  | declared d =>
    obtain ⟨e, rfl, h⟩ := ManagedType.exists_of_same_declared h
    simp only [spell, referenceMarks?_congr h, gap_congr hfull]
    cases referenceMarks? e with
    | none => rfl
    | some marks => simp only [answer_bind_pure, spellDeclared_answer_congr c h]
  | wrapped wrapper element inner =>
    have harray := ManagedType.fullName_eq_of_same h
    obtain ⟨other, others, rfl, helement, -⟩ := ManagedType.exists_of_same_wrapped h
    cases wrapper with
    | byRef => rw [spell, gap_congr hfull, spell]
    | array => simp only [spell, answer_bind_pure, spellArray_answer_congr c harray helement]

/-- Types that are the same are spelled alike, or cannot be spelled for the same reason. -/
theorem spell_answer_congr {t u : ManagedType} (h : t.same u = true) :
    (spell c t).answer = (spell c u).answer := by
  have hfull : t.fullName = u.fullName := ManagedType.fullName_eq_of_same h
  cases t with
  | declared d =>
    obtain ⟨e, rfl, h⟩ := ManagedType.exists_of_same_declared h
    exact spellDeclared_answer_congr c h
  | wrapped wrapper element attributes =>
    obtain ⟨other, others, rfl, helement, -⟩ := ManagedType.exists_of_same_wrapped h
    cases wrapper with
    | array => exact spellArray_answer_congr c hfull helement
    | byRef => exact spell_byRef_answer_congr c hfull helement

end ObjectiveC

namespace Mono

/-- Declared types that are the same are spelled alike. -/
theorem spellDeclared_congr {d e : Declared} (h : d.same e = true) :
    spellDeclared d = spellDeclared e := by
  rw [spellDeclared, Declared.nature_eq_of_same h, Declared.form_eq_of_same h,
    Declared.fullName_eq_of_same h, spellDeclared]

/-- Of types that are the same, wrappers around both can be spelled or around neither. -/
theorem canBeWrapped_congr {t u : ManagedType} (h : t.same u = true) :
    canBeWrapped t = canBeWrapped u := by
  cases t with
  | declared d =>
    obtain ⟨e, rfl, h⟩ := ManagedType.exists_of_same_declared h
    rw [canBeWrapped, Declared.nature_eq_of_same h, canBeWrapped]
  | wrapped wrapper element attributes =>
    obtain ⟨other, others, rfl, -, -⟩ := ManagedType.exists_of_same_wrapped h
    rfl

/-- Types that are the same are spelled alike, or cannot be spelled for the same reason. -/
theorem spell_congr {t u : ManagedType} (h : t.same u = true) : spell t = spell u := by
  induction t generalizing u with
  | declared d =>
    obtain ⟨e, rfl, h⟩ := ManagedType.exists_of_same_declared h
    rw [spell, spellDeclared_congr h, spell]
  | wrapped wrapper element attributes ih =>
    have hfull := ManagedType.fullName_eq_of_same h
    obtain ⟨other, others, rfl, helement, -⟩ := ManagedType.exists_of_same_wrapped h
    rw [spell, canBeWrapped_congr helement, ih helement, hfull, spell]

end Mono

/-- Types that are the same are spelled alike in either vocabulary. -/
theorem spell_answer_congr {t u : ManagedType} (h : t.same u = true) (v : Vocabulary) :
    (spell c t v).answer = (spell c u v).answer := by
  cases v with
  | objectiveC => exact ObjectiveC.spell_answer_congr c h
  | mono => rw [spell, Mono.spell_congr h, spell]

/-- A type is spelled, or an error says that the vocabulary cannot spell some type. -/
theorem spell_answer_cases (t : ManagedType) (v : Vocabulary) :
    (∃ s, (spell c t v).answer = .ok s) ∨
      ∃ typeName, (spell c t v).answer = .error (.unspellable typeName v) := by
  cases v with
  | objectiveC =>
    by_cases hcovered : ObjectiveC.Covered t
    · obtain ⟨s, ds, rs, hs⟩ := ObjectiveC.spell_of_covered c hcovered
      exact .inl ⟨s, hs.answer_eq⟩
    · exact .inr ⟨_, (ObjectiveC.spell_of_not_covered c hcovered).answer_eq⟩
  | mono =>
    rw [spell, Mono.spell_eq]
    cases t.fault? with
    | none => exact .inl ⟨_, rfl⟩
    | some fault => exact .inr ⟨_, rfl⟩

/-- The two types are named and spelled alike, each on a journal of its own. -/
structure NamedAndSpelledAlike (t u : ManagedType) (j k : Journal) : Prop where
  name_eq : ((exportName c t).run j).1 = ((exportName c u).run k).1
  /-- What is put behind the diagnostics that are already there differs at most in its words. -/
  headings_eq : ∃ ds es, ((exportName c t).run j).2.queue.entries = j.queue.entries ++ ds ∧
    ((exportName c u).run k).2.queue.entries = k.queue.entries ++ es ∧
    ds.map Diagnostic.heading = es.map Diagnostic.heading
  /-- Both have the same spelling, or both are refused with the same error. -/
  spell_eq : ∀ v, (∃ s, ((spell c t v).run.run j).1 = .ok s ∧
      ((spell c u v).run.run k).1 = .ok s) ∨
    ∃ typeName, ((spell c t v).run.run j).1 = .error (.unspellable typeName v) ∧
      ((spell c u v).run.run k).1 = .error (.unspellable typeName v)

/-- Types that are the same get the same name, with diagnostics of the same kinds about the same
type, and in either vocabulary they have the same spelling or are refused with the same error,
whatever has been said before. -/
theorem namedAndSpelledAlike_of_same {t u : ManagedType} (h : t.same u = true) (j k : Journal) :
    NamedAndSpelledAlike c t u j k where
  name_eq := by
    rw [Registration.adds_exportName c t j, Registration.adds_exportName c u k]
    exact (Registration.outcome_congr c h).1
  headings_eq := by
    rw [Registration.adds_exportName c t j, Registration.adds_exportName c u k]
    exact ⟨_, _, rfl, rfl, Registration.warnings_congr c h⟩
  spell_eq v := by
    -- Neither journal matters, so the answers are those on the empty one.
    rw [(spell_steady c t v).run_fst j, (spell_steady c u v).run_fst k,
      ← spell_answer_congr c h v]
    rcases spell_answer_cases c t v with ⟨s, hs⟩ | ⟨typeName, he⟩
    · exact .inl ⟨s, hs, hs⟩
    · exact .inr ⟨typeName, he, he⟩

/-- An array of buttons. It is registered like its elements, with an unknown property that is set to
a list of the number. -/
def ratedButtons (rate : UInt64) : ManagedType :=
  let registration : Attribute :=
    ⟨"Foundation.RegisterAttribute", [⟨"System.String", .string "Push"⟩],
      [⟨"Rate", .array [.double rate], false⟩]⟩
  .wrapped .array (.declared ⟨"App", "Button", none, .reference, [registration]⟩) [registration]

/-- With zero and with negative zero the arrays are the same, though not equal. Their messages
differ. -/
theorem ratedButtons_namedAndSpelledAlike :
    (ratedButtons 0).same (ratedButtons 0x8000000000000000) = true ∧
      ((exportName .standard (ratedButtons 0)).run .empty).2.queue.entries.map (·.message) ≠
        ((exportName .standard (ratedButtons 0x8000000000000000)).run .empty).2.queue.entries.map
          (·.message) ∧
      NamedAndSpelledAlike .standard (ratedButtons 0) (ratedButtons 0x8000000000000000)
        .empty .empty := by
  have hsame : (ratedButtons 0).same (ratedButtons 0x8000000000000000) = true := by decide
  refine ⟨hsame, ?_, namedAndSpelledAlike_of_same .standard hsame .empty .empty⟩
  decide

end BridgeNames
