import BridgeNames.Proofs.Registration.Name
import BridgeNames.Proofs.Spelling.Unboxing
import BridgeNames.Proofs.Spelling.Coverage

/-!
# Spellings show something

A name made of white space alone is of no use to a reader of a binding. A type that is declared
under a name that shows something has a full name that does, however it is nested and wrapped, and
the underscores of the fallback name take nothing visible away (`fallbackName_shows`). A blank
registration is passed over, so every export name shows something (`outcome_name_shows`). A spelling
is a fixed phrase, or an export name or full name with marks around it, and marks put around a text
leave visible what is visible in it. So all spellings in either vocabulary show something, and the
only other answer is that a type inside the spelled one is in the way of a spelling.
-/

namespace BridgeNames

open Naming

variable {c : Conventions}

namespace Text

/-- A text shows what stands before more text. -/
theorem Shows.append_right {text : String} (h : Shows text) (more : String) :
    Shows (text ++ more) := by
  obtain ⟨ch, hmem, hvisible⟩ := h
  exact ⟨ch, String.toList_append ▸ List.mem_append_left _ hmem, hvisible⟩

/-- A text shows what stands behind other text. -/
theorem Shows.append_left {text : String} (h : Shows text) (before : String) :
    Shows (before ++ text) := by
  obtain ⟨ch, hmem, hvisible⟩ := h
  exact ⟨ch, String.toList_append ▸ List.mem_append_right _ hmem, hvisible⟩

end Text

namespace ManagedType

variable {t : ManagedType}

/-- The full name shows something if the simple name of the declared type inside does. -/
theorem fullName_shows (h : Text.Shows t.base.name) : Text.Shows t.fullName := by
  obtain ⟨before, heq⟩ := (declared t.base).exists_fullName_eq_append
  have hbase : Text.Shows t.base.fullName := by
    show Text.Shows (declared t.base).fullName
    rw [heq]
    exact h.append_left before
  rw [t.fullName_eq]
  exact hbase.append_right t.marks

/-- An underscore in the place of a separator is as visible as the separator. -/
theorem fallbackName_shows (h : Text.Shows t.base.name) : Text.Shows t.fallbackName := by
  obtain ⟨ch, hmem, hvisible⟩ := fullName_shows h
  have hmap : (if ch = '.' ∨ ch = '+' then '_' else ch) ∈ t.fallbackName.toList := by
    rw [fallbackName, String.toList_map]
    exact List.mem_map_of_mem hmem
  refine ⟨_, hmap, ?_⟩
  split
  · decide
  · exact hvisible

/-- The type has a spelling in the vocabulary, by its shape. -/
def HasSpelling (t : ManagedType) : Vocabulary → Prop
  | .objectiveC => ObjectiveC.Covered t
  | .mono => t.WellWrapped

/-- The type that Objective-C blames is the type itself or one inside it. -/
theorem culprit_mem_layers (t : ManagedType) : ObjectiveC.culprit t ∈ t.layers := by
  match t with
  | .declared _ => exact List.mem_cons_self
  | .wrapped .array _ _ => exact List.mem_cons_self
  | .wrapped .byRef (.declared _) _ => exact List.mem_cons_self
  | .wrapped .byRef (.wrapped .array _ _) _ =>
    exact List.mem_cons_of_mem _ List.mem_cons_self
  | .wrapped .byRef (.wrapped .byRef _ _) _ => exact List.mem_cons_self

end ManagedType

namespace Registration

/-- The export name is the fallback name, unless it is a name that is not blank. -/
theorem outcome_name_cases (c : Conventions) (t : ManagedType) :
    Text.Shows (outcome c t).name ∨ (outcome c t).name = t.fallbackName := by
  cases hfound : t.attributes.find? (·.type == c.registration) with
  | none =>
    rw [← attributesNamed_head?, List.head?_eq_none_iff] at hfound
    rw [outcome_of_unregistered hfound]
    exact .inr rfl
  | some registration =>
    rw [outcome_name_of_registered hfound]
    cases hcandidate : (candidate? registration).filter (!Text.isBlank ·) with
    | none => exact .inr rfl
    | some name =>
      have hblank : Text.isBlank name = false := by
        simpa using (Option.filter_eq_some_iff.mp hcandidate).2
      exact .inl (Text.isBlank_eq_false_iff.mp hblank)

/-- The export name shows something, whatever the registrations give. -/
theorem outcome_name_shows {t : ManagedType} (h : Text.Shows t.base.name) :
    Text.Shows (outcome c t).name := by
  rcases outcome_name_cases c t with hshows | hfallback
  · exact hshows
  · rw [hfallback]
    exact ManagedType.fallbackName_shows h

end Registration

/-- The spelling of a scalar in Objective-C shows something. -/
theorem ScalarKind.objectiveC_shows (kind : ScalarKind) : Text.Shows kind.objectiveC := by
  cases kind <;> decide

/-- So does its spelling in signatures. -/
theorem ScalarKind.mono_shows (kind : ScalarKind) : Text.Shows kind.mono := by
  cases kind <;> decide

namespace ObjectiveC

/-- The spelling of a declared type is a fixed phrase or its export name. -/
theorem spellDeclared_shows {d : Declared} {s : String} (h : Text.Shows d.name)
    (hs : (spell c (.declared d)).answer = .ok s) : Text.Shows s := by
  have hname : Text.Shows (Registration.outcome c (.declared d)).name :=
    Registration.outcome_name_shows h
  cases hnature : d.nature with
  | enumeration =>
    rw [spelling_of_hasOwnName (.inl hnature) hs]
    exact hname
  | namedObject =>
    rw [spelling_of_hasOwnName (.inr hnature) hs]
    exact hname
  | scalar kind =>
    simp only [spell, spellDeclared, hnature] at hs
    cases hs
    exact kind.objectiveC_shows
  | _ =>
    simp only [spell, spellDeclared, hnature] at hs
    cases hs
    decide

/-- A spelling in Objective-C shows something: that of a wrapper has the brackets of a collection or
the underscore of a nullable pointer in it, or is that of data. -/
theorem spell_shows {t : ManagedType} {s : String} (h : Text.Shows t.base.name)
    (hs : (spell c t).answer = .ok s) : Text.Shows s := by
  cases t with
  | declared d => exact spellDeclared_shows h hs
  | wrapped wrapper element attributes =>
    cases wrapper with
    | array =>
      rcases spellArray_answer_cases hs with rfl | ⟨held, rfl⟩
      · decide
      · exact ⟨'<', by simp, by decide⟩
    | byRef => exact ⟨'_', (nullable_suffix_spell hs).subset (by decide), by decide⟩

end ObjectiveC

namespace Mono

/-- The spelling of a declared type in signatures is a fixed phrase or its full name. -/
theorem spellDeclared_shows {d : Declared} (h : Text.Shows d.name) :
    Text.Shows (spellDeclared d) := by
  have hname : Text.Shows d.fullName := ManagedType.fullName_shows (t := .declared d) h
  have hobject : Text.Shows "object" := by decide
  unfold spellDeclared
  cases d.nature with
  | enumeration => exact hname
  | scalar kind => exact kind.mono_shows
  | string => exact (by decide : Text.Shows "string")
  | decimal => exact (by decide : Text.Shows "System.Decimal")
  | rootObject => exact hobject
  | void => exact (by decide : Text.Shows "void")
  | namedObject =>
    -- Classes are all spelled alike; interfaces and structures keep their names.
    cases d.form with
    | reference => exact hobject
    | _ => exact hname

/-- A spelling in signatures shows something: it is that of the declared type with marks behind
it. -/
theorem spell_shows {t : ManagedType} {s : String} (h : Text.Shows t.base.name)
    (hs : spell t = .ok s) : Text.Shows s := by
  have hbase : Text.Shows (spellDeclared t.base) := spellDeclared_shows h
  rw [spell_eq] at hs
  cases hfault : t.fault? with
  | none =>
    rw [hfault] at hs
    cases hs
    exact hbase.append_right t.marks
  | some fault =>
    rw [hfault] at hs
    cases hs

/-- A type without a spelling in signatures is refused because of one of its layers. -/
theorem exists_layer_of_not_wellWrapped {t : ManagedType} (h : ¬ t.WellWrapped) :
    ∃ u ∈ t.layers, spell t = .error (.unspellable u.fullName .mono) := by
  cases hfault : t.fault? with
  | none => exact absurd (t.fault?_eq_none_iff.mp hfault) h
  | some fault =>
    refine ⟨fault, List.mem_of_find?_eq_some hfault, ?_⟩
    rw [spell_eq, hfault]

end Mono

/-- A spelling in either vocabulary is found for the types with a spelling, and it shows
something. -/
theorem exists_spelling_shows {t : ManagedType} {v : Vocabulary} (h : Text.Shows t.base.name)
    (hv : t.HasSpelling v) : ∃ s, (spell c t v).answer = .ok s ∧ Text.Shows s := by
  cases v with
  | objectiveC =>
    obtain ⟨s, ds, rs, hs⟩ := ObjectiveC.spell_of_covered c hv
    exact ⟨s, hs.answer_eq, ObjectiveC.spell_shows h hs.answer_eq⟩
  | mono =>
    obtain ⟨s, hs⟩ := Mono.exists_spell_eq_ok_iff.mpr hv
    refine ⟨s, ?_, Mono.spell_shows h hs⟩
    rw [spell, hs]
    rfl

/-- The types without a spelling are refused because of one of their layers. -/
theorem exists_layer_unspellable {t : ManagedType} {v : Vocabulary} (hv : ¬ t.HasSpelling v) :
    ∃ u ∈ t.layers, (spell c t v).answer = .error (.unspellable u.fullName v) := by
  cases v with
  | objectiveC =>
    exact ⟨_, t.culprit_mem_layers, (ObjectiveC.spell_of_not_covered c hv).answer_eq⟩
  | mono =>
    obtain ⟨u, hu, herror⟩ := Mono.exists_layer_of_not_wellWrapped hv
    refine ⟨u, hu, ?_⟩
    rw [spell, herror]
    rfl

/-- Let the declared type inside all wrappers have a simple name that shows something. Then, under
all conventions, whatever attributes are attached and whatever has been said before, the export name
of the type shows something. In either vocabulary the type has a spelling that does too, or it has
none by its shape, and then the error names it or a type inside it. -/
theorem names_show (c : Conventions) {t : ManagedType} (h : Text.Shows t.base.name) (j : Journal) :
    Text.Shows ((exportName c t).run j).1 ∧
      ∀ v : Vocabulary,
        t.HasSpelling v ∧ (∃ s, ((spell c t v).run.run j).1 = .ok s ∧ Text.Shows s) ∨
        ¬ t.HasSpelling v ∧
          ∃ u ∈ t.layers, ((spell c t v).run.run j).1 = .error (.unspellable u.fullName v) := by
  rw [Registration.adds_exportName c t j]
  refine ⟨Registration.outcome_name_shows h, fun v => ?_⟩
  rw [(spell_steady c t v).run_fst j]
  by_cases hv : t.HasSpelling v
  · exact .inl ⟨hv, exists_spelling_shows h hv⟩
  · exact .inr ⟨hv, exists_layer_unspellable hv⟩

namespace ManagedType

/-- A structure, and an array of it with a blank registration. -/
def points : ManagedType :=
  .wrapped .array (.declared ⟨"App", "Point", none, .value, []⟩)
    [⟨Conventions.usualRegistration, [⟨"System.String", .string "\u3000"⟩], []⟩]

/-- The array is exported under its fallback name. Signatures spell it, Objective-C does not. -/
theorem points_show :
    Text.Shows points.base.name ∧ ((exportName .standard points).run .empty).1 = "App_Point[]" ∧
      (Text.Shows ((exportName .standard points).run .empty).1 ∧
        ∀ v : Vocabulary,
          points.HasSpelling v ∧
              (∃ s, ((spell .standard points v).run.run .empty).1 = .ok s ∧ Text.Shows s) ∨
            ¬ points.HasSpelling v ∧ ∃ u ∈ points.layers,
              ((spell .standard points v).run.run .empty).1 =
                .error (.unspellable u.fullName v)) ∧
      ((spell .standard points .mono).run.run .empty).1 = .ok "App.Point[]" ∧
      ((spell .standard points .objectiveC).run.run .empty).1 =
        .error (.unspellable "App.Point[]" .objectiveC) :=
  have hname : Text.Shows points.base.name := by decide
  ⟨hname, by decide +kernel, names_show .standard hname .empty, rfl, rfl⟩

end ManagedType

end BridgeNames
