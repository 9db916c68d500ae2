import BridgeNames.Proofs.ManagedType.Built
import BridgeNames.Proofs.Naming

/-!
# Which types have a method that unboxes them

The method for a type is looked up by the spelling of the type, whatever the type is. The spelling
of an array has a bracket in it or is that of data, and the spelling of a reference has an
underscore in it, so the table holds neither (`unboxingMethod?_wrapped`). Of the fixed phrases for
declared types it holds those of the scalars and of the decimal type. What is left are the types
that are spelled by their export names, which are up to whoever declares them. Enumerations are kept
away from the table, but classes, interfaces and structures are not: one that is called like a
scalar gets the method of the scalar.
-/

namespace BridgeNames

open Naming

variable {c : Conventions}

/-- No spelling with a bracket or an underscore in it is in the table. -/
theorem unboxingMethod?_eq_none_of_mem {s : String} (h : '<' ∈ s.toList ∨ '_' ∈ s.toList) :
    unboxingMethod? s = none := by
  have hkeys : ∀ entry ∈ unboxingMethods, '<' ∉ entry.1.toList ∧ '_' ∉ entry.1.toList := by decide
  refine List.lookup_eq_none_iff.mpr fun entry hentry => bne_iff_ne.mpr ?_
  rintro rfl
  rcases h with h | h
  · exact (hkeys entry hentry).1 h
  · exact (hkeys entry hentry).2 h

/-- There is a method for exactly the spellings in the table. -/
theorem unboxingMethod?_isSome_iff {s : String} :
    (unboxingMethod? s).isSome = true ↔ s ∈ unboxingMethods.map Prod.fst := by
  rw [unboxingMethod?, List.lookup_isSome_iff, List.mem_map]
  simp only [beq_iff_eq, eq_comm (a := s)]

/-- There is a method for the spelling of every scalar. -/
theorem ScalarKind.unboxingMethod?_isSome (kind : ScalarKind) :
    (unboxingMethod? kind.objectiveC).isSome = true := by
  cases kind <;> decide

namespace ManagedType

/-- Values of the type are boxed as number objects: it is a scalar, an enumeration, or the decimal
type. -/
def IsBoxed (t : ManagedType) : Prop :=
  match t.category with
  | .declared (.scalar _) | .declared .enumeration | .declared .decimal => True
  | _ => False

/-- The type is a class, an interface or a structure with a name of its own, and it is exported
under the spelling of a boxed type. -/
def BorrowsSpelling (c : Conventions) (t : ManagedType) : Prop :=
  t.category = .declared .namedObject ∧
    (Registration.outcome c t).name ∈ unboxingMethods.map Prod.fst

end ManagedType

/-- A name can make a class, an interface or a structure a root or the void type, and no more. -/
theorem Nature.ofName_ne {nameSpace name : String} {nature : Nature}
    (h : nature ∉ [.rootObject, .void, .namedObject]) : ofName nameSpace name ≠ nature := by
  rintro rfl
  refine h ?_
  unfold ofName
  split
  · split
    · decide
    · split <;> decide
  · decide

/-- The declared types with the nature of an enumeration are those with its flag. -/
theorem Declared.nature_eq_enumeration_iff {d : Declared} :
    d.nature = .enumeration ↔ (ManagedType.declared d).is .enumType = true := by
  rw [ManagedType.is_enumType_iff]
  cases hform : d.form <;> simp [nature, hform, Nature.ofName_ne]

/-- An enumeration has the method of its underlying scalar. -/
theorem unboxing_of_enumeration {d : Declared} {underlying : ScalarKind}
    (h : d.form = .enumeration underlying) :
    (unboxing c (.declared d)).answer = .ok (unboxingMethod? underlying.objectiveC) := by
  obtain ⟨nameSpace, name, outer, form, attributes⟩ := d
  cases h
  rfl

/-- Every other type has the method of its spelling. -/
theorem unboxing_of_not_enumeration {t : ManagedType} (h : t.is .enumType = false) :
    (unboxing c t).answer = (ObjectiveC.spell c t).answer.map unboxingMethod? := by
  unfold unboxing
  split
  · simp [ManagedType.is, ManagedType.flags, Form.flags] at h
  · exact answer_bind_pure _ _

/-- A spelled declared type has a method exactly if it is boxed or borrows the spelling of one that
is. -/
theorem unboxingMethod?_declared_iff {d : Declared} {s : String} (h : d.nature ≠ .enumeration)
    (hs : (ObjectiveC.spell c (.declared d)).answer = .ok s) :
    (unboxingMethod? s).isSome = true ↔
      (ManagedType.declared d).IsBoxed ∨ (ManagedType.declared d).BorrowsSpelling c := by
  cases hnature : d.nature with
  | enumeration => exact absurd hnature h
  | scalar kind =>
    simp only [ObjectiveC.spell, ObjectiveC.spellDeclared, hnature] at hs
    cases hs
    exact iff_of_true kind.unboxingMethod?_isSome
      (.inl (by simp [ManagedType.IsBoxed, ManagedType.category, hnature]))
  | decimal =>
    simp only [ObjectiveC.spell, ObjectiveC.spellDeclared, hnature] at hs
    cases hs
    exact iff_of_true (by decide)
      (.inl (by simp [ManagedType.IsBoxed, ManagedType.category, hnature]))
  | namedObject =>
    rw [ObjectiveC.spelling_of_hasOwnName (.inr hnature) hs, unboxingMethod?_isSome_iff]
    simp [ManagedType.IsBoxed, ManagedType.BorrowsSpelling, ManagedType.category, hnature]
  | _ =>
    -- The fixed phrase is not in the table.
    simp only [ObjectiveC.spell, ObjectiveC.spellDeclared, hnature] at hs
    cases hs
    refine iff_of_false (by decide) ?_
    simp [ManagedType.IsBoxed, ManagedType.BorrowsSpelling, ManagedType.category, hnature]

/-- There is no method for the spelling of a wrapper. -/
theorem unboxingMethod?_wrapped {wrapper : Wrapper} {element : ManagedType}
    {attributes : List Attribute} {s : String}
    (h : (ObjectiveC.spell c (.wrapped wrapper element attributes)).answer = .ok s) :
    unboxingMethod? s = none := by
  cases wrapper with
  | array =>
    rcases ObjectiveC.spellArray_answer_cases h with rfl | ⟨held, rfl⟩
    · decide
    · exact unboxingMethod?_eq_none_of_mem (.inl (by simp))
  | byRef =>
    have hsuffix := ObjectiveC.nullable_suffix_spell h
    exact unboxingMethod?_eq_none_of_mem (.inr (hsuffix.subset (by decide)))

/-- For a type that has a spelling it is found out whether a method unboxes it, and there is one
exactly if the type is boxed or borrows the spelling of one that is. -/
theorem exists_unboxing {t : ManagedType} {s : String}
    (h : (ObjectiveC.spell c t).answer = .ok s) :
    ∃ found, (unboxing c t).answer = .ok found ∧
      (found.isSome = true ↔ t.IsBoxed ∨ t.BorrowsSpelling c) := by
  cases t with
  | wrapped wrapper element attributes =>
    have hnot : (ManagedType.wrapped wrapper element attributes).is .enumType = false := by
      cases wrapper <;> rfl
    refine ⟨none, ?_, iff_of_false Bool.false_ne_true ?_⟩
    · rw [unboxing_of_not_enumeration hnot, h]
      exact congrArg _ (unboxingMethod?_wrapped h)
    · cases wrapper <;>
        simp [ManagedType.IsBoxed, ManagedType.BorrowsSpelling, ManagedType.category]
  | declared d =>
    cases henum : (ManagedType.declared d).is .enumType with
    | true =>
      obtain ⟨underlying, hform⟩ := ManagedType.is_enumType_iff.mp henum
      have hnature : d.nature = .enumeration := Declared.nature_eq_enumeration_iff.mpr henum
      refine ⟨_, unboxing_of_enumeration hform, iff_of_true underlying.unboxingMethod?_isSome ?_⟩
      exact .inl (by simp [ManagedType.IsBoxed, ManagedType.category, hnature])
    | false =>
      have hnature : d.nature ≠ .enumeration := fun heq =>
        Bool.false_ne_true (henum.symm.trans (Declared.nature_eq_enumeration_iff.mp heq))
      refine ⟨unboxingMethod? s, ?_, unboxingMethod?_declared_iff hnature h⟩
      rw [unboxing_of_not_enumeration henum, h]
      rfl

/-- The runtime's own type with the code of an enumeration is unboxed like the enumeration, also if
it is nested. -/
theorem unboxing_builtIn {known : ManagedType → Prop} {t u : ManagedType} {draft : Draft}
    (henum : t.is .enumType = true) (hgrown : draft.GrownFrom known (.builtIn t.typeCode))
    (hbuild : draft.build = .ok u) : (unboxing c t).answer = (unboxing c u).answer := by
  cases t with
  | wrapped wrapper element attributes => cases wrapper <;> cases henum
  | declared d =>
    obtain ⟨underlying, hform⟩ := ManagedType.is_enumType_iff.mp henum
    have hcode : (ManagedType.declared d).typeCode = .scalar underlying := by
      rw [ManagedType.typeCode, hform, Form.typeCode]
    rw [hcode] at hgrown
    obtain ⟨-, rfl⟩ := Draft.eq_of_build_named hgrown.subject_eq hbuild
    rw [unboxing_of_enumeration hform, unboxing_of_not_enumeration rfl]
    rfl

/-- For a type that has a spelling in Objective-C, the search for a method that unboxes it succeeds,
and it finds one exactly if the type is a scalar, an enumeration or the decimal type, or if it is a
class, an interface or a structure that is exported under the spelling of one of these. An
enumeration, whatever it is called, is unboxed by the method for the runtime's own type with its
code. -/
theorem unboxing_isSome_iff {t : ManagedType} {j : Journal}
    (hspell : ∃ s, ((ObjectiveC.spell c t).run.run j).1 = .ok s) :
    (∃ found, ((unboxing c t).run.run j).1 = .ok found ∧
      (found.isSome = true ↔ t.IsBoxed ∨ t.BorrowsSpelling c)) ∧
      ∀ (known : ManagedType → Prop) (draft : Draft) (u : ManagedType), t.is .enumType = true →
        draft.GrownFrom known (.builtIn t.typeCode) → draft.build = .ok u →
          ((unboxing c t).run.run j).1 = ((unboxing c u).run.run j).1 := by
  obtain ⟨s, hs⟩ := hspell
  have hanswer : (ObjectiveC.spell c t).answer = .ok s := by
    rw [← hs, (ObjectiveC.spell_steady c t).run_fst j]
  obtain ⟨found, hfound, hiff⟩ := exists_unboxing hanswer
  refine ⟨⟨found, ?_, hiff⟩, fun known draft u henum hgrown hbuild => ?_⟩
  · rw [(unboxing_steady c t).run_fst j, hfound]
  · rw [(unboxing_steady c t).run_fst j, (unboxing_steady c u).run_fst j,
      unboxing_builtIn henum hgrown hbuild]

namespace ManagedType

/-- An enumeration that is registered under the spelling of the decimal type. -/
def decimalMode : ManagedType :=
  .declared ⟨"App", "Mode", none, .enumeration .uint16, [⟨"Foundation.RegisterAttribute",
    [⟨"System.String", .string "NSDecimalNumber *"⟩], []⟩]⟩

/-- A class that is registered under the spelling of a scalar. -/
def intHandle : ManagedType :=
  .declared ⟨"App", "Handle", none, .reference, [⟨"Foundation.RegisterAttribute",
    [⟨"System.String", .string "int"⟩], []⟩]⟩

/-- The enumeration has a method, that of its underlying scalar. -/
theorem decimalMode_unboxing :
    (∃ s, ((ObjectiveC.spell .standard decimalMode).run.run .empty).1 = .ok s) ∧
      (∃ found, ((unboxing .standard decimalMode).run.run .empty).1 = .ok found ∧
        (found.isSome = true ↔
          decimalMode.IsBoxed ∨ decimalMode.BorrowsSpelling .standard)) ∧
      ∃ u, (Draft.builtIn decimalMode.typeCode).build = .ok u ∧
        ((unboxing .standard decimalMode).run.run .empty).1 =
          ((unboxing .standard u).run.run .empty).1 := by
  have hspell : ∃ s, ((ObjectiveC.spell .standard decimalMode).run.run .empty).1 = .ok s :=
    ⟨"NSDecimalNumber *", rfl⟩
  obtain ⟨hfound, hsame⟩ := unboxing_isSome_iff hspell
  exact ⟨hspell, hfound, _, rfl, hsame Built _ _ rfl (.refl _) rfl⟩

/-- The class has one too, that of the scalar, although it is not boxed. -/
theorem intHandle_unboxing :
    intHandle.Built ∧ intHandle.category = .declared .namedObject ∧
      ((ObjectiveC.spell .standard intHandle).run.run .empty).1 = .ok "int" ∧
      ((unboxing .standard intHandle).run.run .empty).1 = .ok (some "intValue") ∧
      ¬ intHandle.IsBoxed :=
  ⟨.build (.classType "App" "Handle") (.attach (.refl _) _) rfl, rfl, rfl, rfl, id⟩

end ManagedType

end BridgeNames
