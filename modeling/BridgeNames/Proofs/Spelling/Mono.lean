import BridgeNames.Proofs.ManagedType.Wrappers
import BridgeNames.Spelling.Mono

/-!
# Which types signatures can spell

A reference and the void type have no place inside a wrapper. The first wrapper from the outside
that is directly around one of them is the fault of a type, and the type is spelled exactly if it
has no fault (`spell_eq`). Then its spelling is that of the declared type inside all wrappers with
the marks of the wrappers behind it, just as its full name is the declared type's with the same
marks behind it. A type without a fault has a reference at most as its outermost wrapper, so its
marks are those of arrays with at most one mark of a reference at the end.
-/

namespace BridgeNames

namespace ManagedType

/-- The type wraps directly what has no place inside a wrapper: a reference or the void type. -/
def isFaulty : ManagedType → Bool
  | .declared _ => false
  | .wrapped _ element _ =>
    match element.category with
    | .byRef _ | .declared .void => true
    | _ => false

/-- The outermost of the layers of the type that is faulty. -/
def fault? (t : ManagedType) : Option ManagedType :=
  t.layers.find? isFaulty

/-- No wrapper but the outermost is a reference, and what all wrappers are around is not the void
type. -/
def WellWrapped (t : ManagedType) : Prop :=
  .byRef ∉ t.wrappers.tail ∧ (t.wrappers = [] ∨ t.base.nature ≠ .void)

/-- A wrapper is faulty exactly if its element cannot be wrapped in a signature. -/
theorem isFaulty_wrapped (wrapper : Wrapper) (element : ManagedType)
    (attributes : List Attribute) :
    (wrapped wrapper element attributes).isFaulty = !Mono.canBeWrapped element := by
  cases element with
  | declared d => cases h : d.nature <;> simp [isFaulty, category, Mono.canBeWrapped, h]
  | wrapped inner _ _ => cases inner <;> rfl

/-- The fault of a wrapper is the wrapper itself if it is faulty, and else that of its element. -/
theorem fault?_wrapped (wrapper : Wrapper) (element : ManagedType) (attributes : List Attribute) :
    (wrapped wrapper element attributes).fault? =
      if Mono.canBeWrapped element then element.fault?
      else some (wrapped wrapper element attributes) := by
  rw [fault?, layers, List.find?_cons, isFaulty_wrapped]
  cases Mono.canBeWrapped element <;> rfl

/-- A well-wrapped wrapper is around a well-wrapped element that can be wrapped. -/
theorem wellWrapped_wrapped_iff (wrapper : Wrapper) (element : ManagedType)
    (attributes : List Attribute) :
    (wrapped wrapper element attributes).WellWrapped ↔
      Mono.canBeWrapped element = true ∧ element.WellWrapped := by
  cases element with
  | declared d => simp [WellWrapped, wrappers, base, Mono.canBeWrapped]
  | wrapped inner innermost _ =>
    simp only [WellWrapped, wrappers, base, Mono.canBeWrapped, List.tail_cons, List.mem_cons,
      bne_iff_ne, ne_eq, reduceCtorEq, false_or, not_or, and_assoc, eq_comm (a := Wrapper.byRef)]

/-- Exactly the well-wrapped types have no fault. -/
theorem fault?_eq_none_iff (t : ManagedType) : t.fault? = none ↔ t.WellWrapped := by
  induction t with
  | declared d => simp [fault?, layers, isFaulty, WellWrapped, wrappers]
  | wrapped wrapper element attributes ih =>
    -- Both sides ask the same of one more wrapper: that its element can be wrapped.
    rw [fault?_wrapped, wellWrapped_wrapped_iff, ← ih]
    cases Mono.canBeWrapped element <;> simp

/-- Arrays alone put one mark for each of them. -/
theorem marks_of_arrays {t : ManagedType} (h : .byRef ∉ t.wrappers) :
    t.marks = String.join (List.replicate (t.wrappers.count .array) "[]") := by
  induction t with
  | declared d => rfl
  | wrapped wrapper element attributes ih =>
    rw [wrappers, List.mem_cons, not_or] at h
    cases wrapper with
    | byRef => exact absurd rfl h.1
    | array =>
      rw [marks_wrapped, ih h.2, wrappers, List.count_cons_self, List.replicate_succ',
        String.join_append]
      simp [Wrapper.mark, String.join]

/-- If no wrapper but the outermost is a reference, the marks are those of the arrays, and behind
them that of the reference if there is one. -/
theorem marks_eq_of_byRef_notMem_tail {t : ManagedType} (h : .byRef ∉ t.wrappers.tail) :
    t.marks = String.join (List.replicate (t.wrappers.count .array) "[]") ++
      if t.wrappers.head? = some .byRef then "&" else "" := by
  cases t with
  | declared d => rfl
  | wrapped wrapper element attributes =>
    cases wrapper with
    | byRef =>
      rw [marks_wrapped, marks_of_arrays h]
      simp [wrappers, Wrapper.mark]
    | array =>
      have harrays : .byRef ∉ (wrapped .array element attributes).wrappers := by
        rw [wrappers, List.mem_cons, not_or]
        exact ⟨Wrapper.noConfusion, h⟩
      rw [marks_of_arrays harrays]
      simp [wrappers]

end ManagedType

namespace Mono

/-- A type without a fault is spelled as the declared type with the marks behind it; otherwise the
error names the fault. -/
theorem spell_eq (t : ManagedType) :
    spell t =
      match t.fault? with
      | none => .ok (spellDeclared t.base ++ t.marks)
      | some fault => .error (.unspellable fault.fullName .mono) := by
  induction t with
  | declared d => simp [spell, ManagedType.fault?, ManagedType.layers, ManagedType.isFaulty,
      ManagedType.base]
  | wrapped wrapper element attributes ih =>
    rw [spell, ManagedType.fault?_wrapped]
    cases canBeWrapped element with
    | false => rfl
    | true =>
      -- The fault is that of the element, and without one the mark goes behind its spelling.
      rw [if_pos rfl, if_pos rfl, ih, ManagedType.marks_wrapped, ManagedType.base]
      cases element.fault? with
      | none => simp [Except.map, String.append_assoc]
      | some fault => rfl

/-- An enumeration, an interface, and a structure with a name of its own are spelled by their full
names. -/
theorem spellDeclared_eq_fullName {d : Declared}
    (h : d.nature = .enumeration ∨
      d.nature = .namedObject ∧ (ManagedType.declared d).is .classType = false) :
    spellDeclared d = d.fullName := by
  unfold spellDeclared
  rcases h with h | ⟨h, hclass⟩
  · rw [h]
  · rw [h]
    cases hform : d.form with
    | reference => simp [ManagedType.is, ManagedType.flags, Form.flags, hform] at hclass
    | _ => rfl

/-- Exactly the well-wrapped types have a spelling. -/
theorem exists_spell_eq_ok_iff {t : ManagedType} : (∃ s, spell t = .ok s) ↔ t.WellWrapped := by
  rw [← t.fault?_eq_none_iff, spell_eq]
  cases t.fault? with
  | none => exact iff_of_true ⟨_, rfl⟩ rfl
  | some fault => exact iff_of_false (fun ⟨_, hs⟩ => nomatch hs) (Option.some_ne_none fault)

/-- A type has a spelling exactly if it is well wrapped. The spelling is that of the declared type
inside all wrappers with the marks of the wrappers behind it, and it is the full name of the type
if the declared type is spelled by its full name. A type without a spelling is refused because of
its outermost faulty layer. -/
theorem spell_chain (t : ManagedType) :
    ((∃ s, spell t = .ok s) ↔ t.WellWrapped) ∧
      (∀ s, spell t = .ok s →
        (∃ b, spell (.declared t.base) = .ok b ∧
          s = b ++ String.join (List.replicate (t.wrappers.count .array) "[]") ++
            if t.wrappers.head? = some .byRef then "&" else "") ∧
        (t.base.nature = .enumeration ∨
            t.base.nature = .namedObject ∧ (ManagedType.declared t.base).is .classType = false →
          s = t.fullName)) ∧
      ∀ e, spell t = .error e →
        ∃ fault, t.fault? = some fault ∧ e = .unspellable fault.fullName .mono := by
  refine ⟨exists_spell_eq_ok_iff, fun s hs => ?_, fun e he => ?_⟩
  · have hwell : t.WellWrapped := exists_spell_eq_ok_iff.mp ⟨s, hs⟩
    have hspell : spell t = .ok (spellDeclared t.base ++ t.marks) := by
      rw [spell_eq, t.fault?_eq_none_iff.mpr hwell]
    have hs' : s = spellDeclared t.base ++ t.marks := Except.ok.inj (hs.symm.trans hspell)
    -- The full name is made in the same way, so only the spelling of the declared type matters.
    refine ⟨⟨spellDeclared t.base, rfl, ?_⟩, fun hname => ?_⟩
    · rw [hs', ManagedType.marks_eq_of_byRef_notMem_tail hwell.1, String.append_assoc]
    · rw [hs', spellDeclared_eq_fullName hname, ← t.fullName_eq]
  · rw [spell_eq] at he
    cases hfault : t.fault? with
    | none => rw [hfault] at he; cases he
    | some fault => rw [hfault] at he; exact ⟨fault, rfl, (Except.error.inj he).symm⟩

end Mono

end BridgeNames
