import BridgeNames.Proofs.Naming

/-!
# What naming reports

All diagnostics of naming come from export names, and each of them is a warning about the attributes
of the type whose export name is asked for, in words that have the full name of the type in them
(`Registration.isWarningAbout_of_mem_warnings`). The other operations ask for export names by
spelling types. A spelling asks for that of the declared type inside all wrappers, if for any
(`ObjectiveC.isWarningAbout_of_mem_reported`), and every operation reports what one spelling reports
or nothing at all: unboxing and declaring spell one type, and naming a parameter spells the types of
its signature quietly.
-/

namespace BridgeNames

/-- The text has the part in it. -/
def Text.Mentions (text part : String) : Prop :=
  ∃ before after : String, text = before ++ part ++ after

/-- A text mentions what it starts with. -/
theorem Text.mentions_append (part after : String) : Mentions (part ++ after) part :=
  ⟨"", after, by rw [String.empty_append]⟩

/-- More text in front changes nothing. -/
theorem Text.Mentions.behind {text part : String} (h : Mentions text part) (front : String) :
    Mentions (front ++ text) part := by
  obtain ⟨before, after, rfl⟩ := h
  exact ⟨front ++ before, after, by simp only [String.append_assoc]⟩

/-- The diagnostic is a warning about the attributes of the type with the full name. -/
structure Diagnostic.IsWarningAbout (d : Diagnostic) (typeName : String) : Prop where
  severity_eq : d.severity = .warning
  topic_eq : d.topic = .customAttribute
  typeName_eq : d.typeName = some typeName
  /-- The reader of the message alone learns which type is meant. -/
  mentions : Text.Mentions d.message typeName

/-- Every problem of a registration is put into words that mention the type. -/
theorem RegistrationProblem.message_mentions (registration typeName : String)
    (p : RegistrationProblem) : Text.Mentions (p.message registration typeName) typeName := by
  unfold message
  cases p <;> simp only [String.append_assoc]
  -- The messages differ in how many parts stand in front of the name of the type.
  case repeated =>
    exact (Text.mentions_append typeName _).behind _
  case skipped =>
    iterate 5 refine Text.Mentions.behind ?_ _
    exact Text.mentions_append typeName _
  case unknownProperty =>
    iterate 8 refine Text.Mentions.behind ?_ _
    exact Text.mentions_append typeName _
  all_goals
    iterate 3 refine Text.Mentions.behind ?_ _
    exact Text.mentions_append typeName _

/-- The warnings about the registration of a type are about that type. -/
theorem Registration.isWarningAbout_of_mem_warnings {c : Conventions} {t : ManagedType}
    {d : Diagnostic} (h : d ∈ warnings c t) : d.IsWarningAbout t.fullName := by
  obtain ⟨p, -, rfl⟩ := List.mem_map.mp h
  exact ⟨rfl, rfl, rfl, p.message_mentions c.registration t.fullName⟩

namespace Journal

variable {α : Type}

/-- The operation gives one answer and adds one list of diagnostics, all of them warnings about the
attributes of the type with the full name, whatever its journal holds. -/
structure OnlyWarnsAbout (x : StateM Journal α) (typeName : String) : Prop where
  /-- The answer is the one on the empty journal. -/
  answer_eq : ∀ j : Journal, (x.run j).1 = (x.run .empty).1
  /-- The diagnostics are those on the empty journal, behind what is there. -/
  entries_eq : ∀ j : Journal,
    (x.run j).2.queue.entries = j.queue.entries ++ (x.run .empty).2.queue.entries
  isWarningAbout : ∀ d ∈ (x.run .empty).2.queue.entries, d.IsWarningAbout typeName

/-- An operation that adds only warnings about a type only warns about it. -/
theorem Adds.onlyWarnsAbout {x : StateM Journal α} {a : α} {ds : List Diagnostic} {rs : Log}
    {typeName : String} (hx : Adds x a ds rs) (hds : ∀ d ∈ ds, d.IsWarningAbout typeName) :
    OnlyWarnsAbout x typeName where
  answer_eq j := by rw [hx j, hx .empty]
  entries_eq j := by
    rw [hx j, hx .empty]
    rfl
  isWarningAbout := by
    rw [hx .empty]
    exact hds

end Journal

open Journal Naming

variable (c : Conventions)

/-- The export name of a type comes with warnings about the type. -/
theorem exportName_onlyWarnsAbout (t : ManagedType) :
    OnlyWarnsAbout (exportName c t) t.fullName :=
  Adds.onlyWarnsAbout (Registration.adds_exportName c t) fun _ =>
    Registration.isWarningAbout_of_mem_warnings

/-- The warnings that come with the spelling of a type are about the declared type inside all
wrappers. -/
theorem ObjectiveC.isWarningAbout_of_mem_reported {t : ManagedType} {d : Diagnostic}
    (h : d ∈ (ObjectiveC.spell c t).reported) : d.IsWarningAbout t.base.fullName := by
  by_cases hcovered : Covered t
  · obtain ⟨s, rs, hs⟩ := spell_reports_of_covered c hcovered
    rw [hs.reported_eq, warnings] at h
    split at h
    · exact Registration.isWarningAbout_of_mem_warnings h
    · cases h
  · rw [(spell_of_not_covered c hcovered).reported_eq] at h
    cases h

/-- An operation that reports what the spelling of a type does only warns about the declared type
inside all wrappers. -/
theorem onlyWarnsAbout_of_spell {α : Type} {x : Naming α} {t : ManagedType} (hx : Steady x)
    (hreported : x.reported = (ObjectiveC.spell c t).reported) :
    OnlyWarnsAbout x.run t.base.fullName :=
  Adds.onlyWarnsAbout hx fun _ hd => ObjectiveC.isWarningAbout_of_mem_reported c (hreported ▸ hd)

/-- A silent operation warns about nothing. -/
theorem Naming.Silent.onlyWarnsAbout {α : Type} {x : Naming α} (hx : Silent x)
    (typeName : String) : OnlyWarnsAbout x.run typeName := by
  obtain ⟨r, rs, h⟩ := hx
  exact Adds.onlyWarnsAbout h fun d hd => nomatch hd

/-- Spelling a type in Objective-C only warns about the declared type inside all wrappers. -/
theorem ObjectiveC.spell_onlyWarnsAbout (t : ManagedType) :
    OnlyWarnsAbout (ObjectiveC.spell c t).run t.base.fullName :=
  onlyWarnsAbout_of_spell c (ObjectiveC.spell_steady c t) rfl

/-- The same holds in either vocabulary. -/
theorem spell_onlyWarnsAbout (t : ManagedType) (v : Vocabulary) :
    OnlyWarnsAbout (spell c t v).run t.base.fullName := by
  cases v with
  | objectiveC => exact ObjectiveC.spell_onlyWarnsAbout c t
  | mono => exact (silent_ofExcept (Mono.spell t)).onlyWarnsAbout _

/-- An argument is called after its type, and the warnings are about that. -/
theorem argumentIdentifier_onlyWarnsAbout (t : ManagedType) :
    OnlyWarnsAbout (argumentIdentifier c t).run t.base.fullName := by
  match t with
  | .wrapped .array element _ => exact (silent_pure (element.name ++ "Array")).onlyWarnsAbout _
  | .wrapped .byRef element _ => exact (silent_pure (element.name ++ "Ref")).onlyWarnsAbout _
  | .declared d =>
    refine onlyWarnsAbout_of_spell c (argumentIdentifier_steady c _) ?_
    exact (ObjectiveC.spell_steady c _).reported_bind fun s => silent_pure _

/-- Unboxing a type only warns about the declared type inside all wrappers. -/
theorem unboxing_onlyWarnsAbout (t : ManagedType) :
    OnlyWarnsAbout (unboxing c t).run t.base.fullName := by
  unfold unboxing
  split
  · exact (silent_pure _).onlyWarnsAbout _
  · refine onlyWarnsAbout_of_spell c ?_ ?_
    · exact (ObjectiveC.spell_steady c _).bind fun s => (silent_pure _).steady
    · exact (ObjectiveC.spell_steady c _).reported_bind fun s => silent_pure _

namespace Parameter

/-- Naming a short-named parameter reports what spelling its own type does, and naming a long-named
one reports nothing. The types of the signature are spelled quietly. -/
theorem identifier_reported (p : Parameter) (signature : List Parameter) :
    (p.identifier c signature).reported =
      if c.isShort p.name then (ObjectiveC.spell c p.type).reported else [] := by
  unfold identifier
  split
  · refine (ObjectiveC.spell_steady c p.type).reported_bind fun s => ?_
    refine (outlines_steady c signature).quietly.bind fun others => ?_
    exact (silent_note _).bind fun _ => silent_pure _
  · exact (reports_pure _).reported_eq

/-- Naming a parameter only warns about the declared type inside all wrappers of its own type. -/
theorem identifier_onlyWarnsAbout (p : Parameter) (signature : List Parameter) :
    OnlyWarnsAbout (p.identifier c signature).run p.type.base.fullName := by
  have hreported := p.identifier_reported c signature
  split at hreported
  · exact onlyWarnsAbout_of_spell c (identifier_steady c p signature) hreported
  · refine Adds.onlyWarnsAbout (identifier_steady c p signature) ?_
    rw [hreported]
    exact fun d hd => nomatch hd

variable (catalog : Catalog)

/-- Spelling the type of a parameter in a declaration reports what spelling the type does. -/
theorem declaredType_reported (p : Parameter) :
    (p.declaredType c catalog).reported = (ObjectiveC.spell c p.type).reported :=
  (ObjectiveC.spell_steady c p.type).reported_bind fun _ => silent_pure _

/-- Declaring a parameter reports the same. -/
theorem declaration_reported (p : Parameter) (signature : List Parameter) :
    (p.declaration c catalog signature).reported = (ObjectiveC.spell c p.type).reported := by
  rw [← declaredType_reported c catalog p]
  refine (declaredType_steady c catalog p).reported_bind fun type => ?_
  exact (identifier_steady c p signature).quietly.bind fun name => silent_pure _

end Parameter

/-- Every naming operation gives the answer that it gives on the empty journal, and puts behind what
is in its queue the diagnostics that it gives on the empty journal. Each of these is a warning about
the attributes of one type: of the type itself when its export name is asked for, and otherwise of
the declared type inside all wrappers of the type, or of the type of the parameter, never of another
parameter of its signature. -/
theorem naming_onlyWarnsAbout :
    (∀ t : ManagedType, OnlyWarnsAbout (exportName c t) t.fullName) ∧
      (∀ (t : ManagedType) (v : Vocabulary), OnlyWarnsAbout (spell c t v).run t.base.fullName) ∧
      (∀ t : ManagedType, OnlyWarnsAbout (ObjectiveC.spell c t).run t.base.fullName) ∧
      (∀ t : ManagedType, OnlyWarnsAbout (argumentIdentifier c t).run t.base.fullName) ∧
      (∀ t : ManagedType, OnlyWarnsAbout (unboxing c t).run t.base.fullName) ∧
      (∀ (p : Parameter) (signature : List Parameter),
        OnlyWarnsAbout (p.identifier c signature).run p.type.base.fullName) ∧
      (∀ (p : Parameter) (catalog : Catalog),
        OnlyWarnsAbout (p.declaredType c catalog).run p.type.base.fullName) ∧
      ∀ (p : Parameter) (catalog : Catalog) (signature : List Parameter),
        OnlyWarnsAbout (p.declaration c catalog signature).run p.type.base.fullName :=
  ⟨exportName_onlyWarnsAbout c, spell_onlyWarnsAbout c, ObjectiveC.spell_onlyWarnsAbout c,
    argumentIdentifier_onlyWarnsAbout c, unboxing_onlyWarnsAbout c,
    Parameter.identifier_onlyWarnsAbout c,
    fun p catalog => onlyWarnsAbout_of_spell c (p.declaredType_steady c catalog)
      (p.declaredType_reported c catalog),
    fun p catalog signature => onlyWarnsAbout_of_spell c (p.declaration_steady c catalog signature)
      (p.declaration_reported c catalog signature)⟩

end BridgeNames
