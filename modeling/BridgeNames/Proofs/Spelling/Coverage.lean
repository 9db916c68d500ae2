import BridgeNames.Proofs.Spelling.Mono
import BridgeNames.Proofs.Spelling.ObjectiveC

/-!
# Which types both vocabularies spell

Signatures spell every type that Objective-C spells. What they spell beyond that is an array that no
collection can stand for, or a reference to such an array: arrays of arrays, and arrays of
structures with a name of their own. `Covered` and `WellWrapped` say which types either vocabulary
spells, so the comparison is one of shapes (`not_covered_iff`).
-/

namespace BridgeNames.ObjectiveC

open ManagedType

/-- The array can be named in signatures, but no collection can stand for it. -/
inductive SignatureOnly : ManagedType → Prop
  | arrays (element : ManagedType) (inner outer : List Attribute) :
    SignatureOnly (.wrapped .array (.wrapped .array element inner) outer)
  | structures {d : Declared} (attributes : List Attribute) (h : d.IsStructure) :
    SignatureOnly (.wrapped .array (.declared d) attributes)

/-- The type that a reference is to, and any other type itself. -/
def referred : ManagedType → ManagedType
  | .wrapped .byRef element _ => element
  | t => t

/-- What is covered can be spelled in signatures. -/
theorem Covered.wellWrapped {t : ManagedType} (h : Covered t) : t.WellWrapped := by
  cases h with
  | declared d => simp [WellWrapped, wrappers]
  | array attributes h =>
    obtain @⟨d, hvoid, -⟩ := h
    simpa [WellWrapped, wrappers, base] using hvoid
  | reference attributes hvoid => simpa [WellWrapped, wrappers, base] using hvoid
  | arrayReference inner outer h =>
    obtain @⟨d, hvoid, -⟩ := h
    simpa [WellWrapped, wrappers, base] using hvoid

/-- An array is covered exactly if a collection can hold its elements. -/
theorem covered_array_iff {element : ManagedType} {attributes : List Attribute} :
    Covered (.wrapped .array element attributes) ↔ Collectable element := by
  refine ⟨fun h => ?_, .array attributes⟩
  cases h with
  | array _ helement => exact helement

/-- A reference to an array is covered under the same condition. -/
theorem covered_arrayReference_iff {element : ManagedType} {inner outer : List Attribute} :
    Covered (.wrapped .byRef (.wrapped .array element inner) outer) ↔ Collectable element := by
  refine ⟨fun h => ?_, .arrayReference inner outer⟩
  cases h with
  | arrayReference _ _ helement => exact helement

/-- Of the arrays that can be spelled in signatures, those that no collection can stand for are
those whose elements no collection can hold. -/
theorem not_collectable_iff {element : ManagedType} {attributes : List Attribute}
    (h : (wrapped .array element attributes).WellWrapped) :
    ¬ Collectable element ↔ SignatureOnly (.wrapped .array element attributes) := by
  cases element with
  | declared d =>
    have hvoid : d.nature ≠ .void := by simpa [WellWrapped, wrappers, base] using h.2
    constructor
    · exact fun hnot => .structures attributes (isStructure_of_not_collectable hvoid hnot)
    · rintro (_ | ⟨-, hstructure⟩) ⟨-, hne⟩
      exact hne hstructure
  | wrapped wrapper element inner =>
    cases wrapper with
    | array => exact iff_of_true (by rintro ⟨⟩) (.arrays _ _ _)
    | byRef => simp [WellWrapped, wrappers] at h

/-- Of the types that can be spelled in signatures, those that are not covered are the arrays that
no collection can stand for and the references to them. -/
theorem not_covered_iff {t : ManagedType} (h : t.WellWrapped) :
    ¬ Covered t ↔ SignatureOnly (referred t) := by
  cases t with
  | declared d => exact iff_of_false (not_not_intro (.declared d)) (by rintro ⟨⟩)
  | wrapped wrapper element attributes =>
    cases wrapper with
    | array =>
      show ¬ Covered _ ↔ SignatureOnly (.wrapped .array element attributes)
      rw [covered_array_iff, not_collectable_iff h]
    | byRef =>
      -- The reference adds nothing of its own, unless it is to what cannot be wrapped.
      have hinner : element.WellWrapped := ((wellWrapped_wrapped_iff _ _ _).mp h).2
      cases element with
      | declared d =>
        have hvoid : d.nature ≠ .void := by simpa [WellWrapped, wrappers, base] using h.2
        exact iff_of_false (not_not_intro (.reference attributes hvoid)) (by rintro ⟨⟩)
      | wrapped wrapper element inner =>
        cases wrapper with
        | array => rw [covered_arrayReference_iff, referred, not_collectable_iff hinner]
        | byRef => simp [WellWrapped, wrappers] at h

/-- Whatever has been said before, a type has a spelling in Objective-C exactly if it has one of the
covered shapes, and otherwise the error names its culprit. A type that has a spelling in
Objective-C has one in signatures. The types that only signatures can spell are the arrays that no
collection can stand for and the references to them. -/
theorem spell_coverage (c : Conventions) (t : ManagedType) (j : Journal) :
    ((∃ s, ((spell c t).run.run j).1 = .ok s) ↔ Covered t) ∧
      (¬ Covered t →
        ((spell c t).run.run j).1 = .error (.unspellable (culprit t).fullName .objectiveC)) ∧
      ((∃ s, ((spell c t).run.run j).1 = .ok s) → ∃ s, Mono.spell t = .ok s) ∧
      ((∃ s, Mono.spell t = .ok s) ∧ (¬ ∃ s, ((spell c t).run.run j).1 = .ok s) ↔
        (∃ s, Mono.spell t = .ok s) ∧ SignatureOnly (referred t)) := by
  have herror (h : ¬ Covered t) :
      ((spell c t).run.run j).1 = .error (.unspellable (culprit t).fullName .objectiveC) :=
    (spell_of_not_covered c h).run_fst j
  have hok : (∃ s, ((spell c t).run.run j).1 = .ok s) ↔ Covered t := by
    constructor
    · rintro ⟨s, hs⟩
      by_contra h
      cases hs.symm.trans (herror h)
    · intro h
      obtain ⟨s, ds, rs, hs⟩ := spell_of_covered c h
      exact ⟨s, hs.run_fst j⟩
  refine ⟨hok, herror, fun h => ?_, ?_⟩
  · exact Mono.exists_spell_eq_ok_iff.mpr (hok.mp h).wellWrapped
  · rw [hok, Mono.exists_spell_eq_ok_iff]
    exact and_congr_right not_covered_iff

end BridgeNames.ObjectiveC
