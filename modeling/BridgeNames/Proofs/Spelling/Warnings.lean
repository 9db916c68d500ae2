import BridgeNames.Proofs.Naming

/-!
# Which warnings come with a spelling

The warnings about a registration belong to the export name. A spelling in Objective-C passes them
on exactly if it has the export name of the declared type inside all wrappers in it, and then once,
whatever the wrappers are (`ObjectiveC.spell_queue`). A type without a spelling is given up before
any export name is asked for. So an operation that spells one type and computes its answer from the
spelling leaves nothing behind when it fails (`QuietOnFailure.bind_pure`), as unboxing a type and
spelling the type of a parameter do.
-/

namespace BridgeNames

namespace Naming

variable {α β : Type} {x : Naming α}

/-- If the operation fails, the queue stays as it was. -/
def QuietOnFailure (x : Naming α) : Prop :=
  ∀ (j : Journal) (e : Error), (x.run.run j).1 = .error e → (x.run.run j).2.queue = j.queue

/-- A silent operation never adds to the queue. -/
theorem Silent.quietOnFailure (hx : Silent x) : QuietOnFailure x := by
  obtain ⟨r, rs, h⟩ := hx
  intro j e _
  rw [h j]
  exact j.queue.append_nil

/-- An operation followed by a function fails only if the operation does. -/
theorem QuietOnFailure.bind_pure (hx : Steady x) (hquiet : QuietOnFailure x) (g : α → β) :
    QuietOnFailure (x >>= fun a => pure (g a)) := by
  have hall := Reports.bind_pure hx g
  intro j e he
  cases hanswer : x.answer with
  | ok a =>
    rw [hall j, hanswer] at he
    cases he
  | error first =>
    have hfails : (x.run.run j).1 = .error first := by rw [hx j, hanswer]
    have hqueue : (x.run.run j).2.queue = j.queue := hquiet j first hfails
    rw [hx j] at hqueue
    rw [hall j]
    exact hqueue

end Naming

open Naming

namespace ObjectiveC

/-- The spelling of a type adds to the queue what the export name of the declared type inside all
wrappers adds to it, if there is a spelling and it has that name in it, and nothing otherwise. -/
theorem spell_queue (c : Conventions) (t : ManagedType) (j : Journal) :
    ((spell c t).run.run j).2.queue =
      match ((spell c t).run.run j).1 with
      | .ok _ =>
        if t.IsSpelledByName then ((exportName c (.declared t.base)).run j).2.queue else j.queue
      | .error _ => j.queue := by
  by_cases h : Covered t
  · obtain ⟨s, rs, hs⟩ := spell_reports_of_covered c h
    rw [hs j]
    show j.queue.append (warnings c t) = _
    unfold warnings
    split
    · show _ = ((exportName c (.declared t.base)).run j).2.queue
      rw [Registration.adds_exportName c (.declared t.base) j]
      rfl
    · exact j.queue.append_nil
  · rw [spell_of_not_covered c h j]
    exact j.queue.append_nil

/-- A type without a spelling is refused without a word. -/
theorem spell_quietOnFailure (c : Conventions) (t : ManagedType) :
    QuietOnFailure (spell c t) := by
  intro j e he
  rw [spell_queue, he]

end ObjectiveC

/-- The same holds in either vocabulary. -/
theorem spell_quietOnFailure (c : Conventions) (t : ManagedType) (v : Vocabulary) :
    QuietOnFailure (spell c t v) := by
  cases v with
  | objectiveC => exact ObjectiveC.spell_quietOnFailure c t
  | mono => exact (silent_ofExcept (Mono.spell t)).quietOnFailure

/-- A type that cannot be unboxed for lack of a spelling is refused without a word. -/
theorem unboxing_quietOnFailure (c : Conventions) (t : ManagedType) :
    QuietOnFailure (unboxing c t) := by
  unfold unboxing
  split
  · exact (silent_pure _).quietOnFailure
  · exact (ObjectiveC.spell_quietOnFailure c t).bind_pure (ObjectiveC.spell_steady c t) _

/-- A parameter whose type has no spelling is refused without a word. -/
theorem Parameter.declaredType_quietOnFailure (c : Conventions) (catalog : Catalog)
    (p : Parameter) : QuietOnFailure (p.declaredType c catalog) :=
  (ObjectiveC.spell_quietOnFailure c p.type).bind_pure (ObjectiveC.spell_steady c p.type) _

/-- If a type has a spelling in Objective-C, then spelling it adds exactly what naming the declared
type inside all wrappers adds, once, provided that this is a class, an interface or a structure with
a name of its own, or an enumeration that no array is around; every other spelling adds nothing, and
neither does the failure to spell a type. Hence nothing is added when a type has no spelling in
either vocabulary, when it cannot be unboxed, or when it cannot be the type of a parameter. -/
theorem ObjectiveC.spell_warns_once (c : Conventions) (t : ManagedType) :
    (∀ j : Journal, ((spell c t).run.run j).2.queue =
      match ((spell c t).run.run j).1 with
      | .ok _ =>
        if t.base.nature = .namedObject ∨ t.base.nature = .enumeration ∧ .array ∉ t.wrappers then
          ((exportName c (.declared t.base)).run j).2.queue
        else j.queue
      | .error _ => j.queue) ∧
      (∀ v : Vocabulary, QuietOnFailure (BridgeNames.spell c t v)) ∧
      QuietOnFailure (unboxing c t) ∧
      ∀ (catalog : Catalog) (name : String),
        QuietOnFailure (Parameter.declaredType c catalog ⟨name, t⟩) :=
  ⟨spell_queue c t, BridgeNames.spell_quietOnFailure c t, unboxing_quietOnFailure c t,
    fun catalog name => Parameter.declaredType_quietOnFailure c catalog ⟨name, t⟩⟩

end BridgeNames
