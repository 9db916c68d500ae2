import BridgeNames.ManagedType.Equality
import Mathlib.Data.List.Forall2

/-!
# What types that are the same have in common

Types are compared by what they are made of. What a type reports of itself follows from that, so
types that are the same report the same (`SameReport`), and it would not matter if their reports
were compared instead (`same_iff`): the full name gives away what a type is nested in, and the flags
and the code give away its form.

A value can be the same as another one without being equal to it, and need not be the same as
itself. It takes a floating-point number in it for that, and a string has none
(`Constant.string?_eq_of_sameValue`).
-/

namespace BridgeNames

/-- Two lists are the same exactly if their members are in pairs. -/
theorem sameList_iff {α : Type} {same : α → α → Bool} {as bs : List α} :
    sameList same as bs = true ↔ List.Forall₂ (fun a b => same a b = true) as bs := by
  induction as generalizing bs with
  | nil => cases bs <;> simp [sameList]
  | cons a as ih =>
    cases bs with
    | nil => simp [sameList]
    | cons b bs => rw [sameList, Bool.and_eq_true, ih, List.forall₂_cons]

/-- Values that are the same are the same string, if they are strings. -/
theorem Constant.string?_eq_of_sameValue {a b : Constant} (h : a.sameValue b = true) :
    a.string? = b.string? := by
  cases a with
  | string s =>
    cases b with
    | string t =>
      rw [sameValue, beq_iff_eq] at h
      rw [h]
    | _ => cases h
  | _ =>
    cases b with
    | string t => cases h
    | _ => rfl

/-- Constructor arguments that are the same are declared alike, and are the same string if they are
strings. -/
theorem Argument.eq_of_same {a b : Argument} (h : a.same b = true) :
    a.declaredType = b.declaredType ∧ a.value.string? = b.value.string? := by
  simp only [same, Bool.and_eq_true, beq_iff_eq] at h
  exact ⟨h.1, Constant.string?_eq_of_sameValue h.2⟩

/-- Settings that are the same set the same, and to the same string if they set it to a string. -/
theorem NamedArgument.eq_of_same {s t : NamedArgument} (h : s.same t = true) :
    s.isField = t.isField ∧ s.name = t.name ∧ s.value.string? = t.value.string? := by
  simp only [same, Bool.and_eq_true, beq_iff_eq] at h
  exact ⟨h.1.1, h.1.2, Constant.string?_eq_of_sameValue h.2⟩

/-- What it takes for attributes to be the same. -/
theorem Attribute.same_iff {a b : Attribute} :
    a.same b = true ↔
      a.type = b.type ∧
        List.Forall₂ (fun x y => x.same y = true) a.arguments b.arguments ∧
        List.Forall₂ (fun x y => x.same y = true) a.named b.named := by
  simp only [same, Bool.and_eq_true, beq_iff_eq, sameList_iff, and_assoc]

/-- The flags and the code of a form give it away. -/
theorem Form.eq_of_flags_of_typeCode {f g : Form} (hflags : f.flags = g.flags)
    (hcode : f.typeCode = g.typeCode) : f = g := by
  cases f <;> cases g <;> simp_all [flags, typeCode]

/-- The flags of a wrapper give it away. -/
theorem Wrapper.eq_of_flags {v w : Wrapper} (h : v.flags = w.flags) : v = w := by
  cases v <;> cases w <;> simp_all [flags]

namespace Declared

/-- What the full name has in front of the simple name: the namespace with a point, or the full name
of the type around it with a plus sign. -/
def qualifier (d : Declared) : String :=
  match d.outer with
  | some outer => outer ++ "+"
  | none => if d.nameSpace = "" then "" else d.nameSpace ++ "."

/-- The full name is the simple name with its qualifier. -/
theorem fullName_eq_qualifier (d : Declared) : d.fullName = d.qualifier ++ d.name := by
  unfold fullName qualifier
  cases d.outer with
  | some outer => rfl
  | none => by_cases h : d.nameSpace = "" <;> simp [h]

/-- The qualifier ends with a plus sign only if the type is nested. -/
theorem qualifier_ne {d : Declared} (h : d.outer = none) (outer : String) :
    d.qualifier ≠ outer ++ "+" := by
  intro heq
  have hlast : d.qualifier.toList.getLast? = some '+' := by simp [heq]
  unfold qualifier at hlast
  by_cases hspace : d.nameSpace = "" <;> simp [h, hspace] at hlast

/-- The qualifier gives away what a type is nested in. -/
theorem outer_eq_of_qualifier_eq {a b : Declared} (h : a.qualifier = b.qualifier) :
    a.outer = b.outer := by
  have hnested {d : Declared} {outer : String} (houter : d.outer = some outer) :
      d.qualifier = outer ++ "+" := by rw [qualifier, houter]
  cases ha : a.outer with
  | none =>
    cases hb : b.outer with
    | none => rfl
    | some outer => exact absurd (h.trans (hnested hb)) (qualifier_ne ha outer)
  | some outer =>
    cases hb : b.outer with
    | none => exact absurd (h.symm.trans (hnested ha)) (qualifier_ne hb outer)
    | some other =>
      rw [hnested ha, hnested hb, String.append_left_inj] at h
      rw [h]

/-- What it takes for declared types to be the same. -/
theorem same_iff {a b : Declared} :
    a.same b = true ↔
      a.nameSpace = b.nameSpace ∧ a.name = b.name ∧ a.outer = b.outer ∧ a.form = b.form ∧
        sameAttributes a.attributes b.attributes = true := by
  simp only [same, Bool.and_eq_true, beq_iff_eq, and_assoc]

/-- Declared types that are the same have the same form. -/
theorem form_eq_of_same {a b : Declared} (h : a.same b = true) : a.form = b.form := by
  obtain ⟨-, -, -, hform, -⟩ := same_iff.mp h
  exact hform

/-- Declared types that are the same have the same full name. -/
theorem fullName_eq_of_same {a b : Declared} (h : a.same b = true) : a.fullName = b.fullName := by
  obtain ⟨hspace, hname, houter, -, -⟩ := same_iff.mp h
  rw [fullName, fullName, hspace, hname, houter]

/-- Declared types that are the same have the same nature. -/
theorem nature_eq_of_same {a b : Declared} (h : a.same b = true) : a.nature = b.nature := by
  obtain ⟨hspace, hname, -, -, -⟩ := same_iff.mp h
  rw [nature, nature, hspace, hname, form_eq_of_same h]

end Declared

namespace ManagedType

/-- The two types report the same of themselves. -/
structure SameReport (t u : ManagedType) : Prop where
  fullName_eq : t.fullName = u.fullName
  name_eq : t.name = u.name
  nameSpace_eq : t.nameSpace = u.nameSpace
  flags_eq : t.flags = u.flags
  /-- Either neither has an element or both have one, and the elements are the same. -/
  element : Option.Rel (fun a b => a.same b = true) t.element? u.element?
  typeCode_eq : t.typeCode = u.typeCode
  attributes : sameAttributes t.attributes u.attributes = true

/-- A declared type is the same as declared types only. -/
theorem exists_of_same_declared {d : Declared} {u : ManagedType} (h : (declared d).same u = true) :
    ∃ e, u = declared e ∧ d.same e = true := by
  cases u with
  | declared e => exact ⟨e, rfl, h⟩
  | wrapped wrapper element attributes => cases h

/-- What it takes for wrappers to be the same. -/
theorem same_wrapped_iff {v w : Wrapper} {a b : ManagedType} {as bs : List Attribute} :
    (wrapped v a as).same (wrapped w b bs) = true ↔
      v = w ∧ a.same b = true ∧ sameAttributes as bs = true := by
  simp only [same, Bool.and_eq_true, beq_iff_eq, and_assoc]

/-- A wrapper is the same as wrappers of its kind only, around elements that are the same. -/
theorem exists_of_same_wrapped {wrapper : Wrapper} {element u : ManagedType}
    {attributes : List Attribute} (h : (wrapped wrapper element attributes).same u = true) :
    ∃ other others, u = wrapped wrapper other others ∧ element.same other = true ∧
      sameAttributes attributes others = true := by
  cases u with
  | declared e => cases h
  | wrapped w other others =>
    obtain ⟨rfl, helement, hattributes⟩ := same_wrapped_iff.mp h
    exact ⟨other, others, rfl, helement, hattributes⟩

/-- Types that are the same report the same of themselves. -/
theorem sameReport_of_same {t u : ManagedType} (h : t.same u = true) : SameReport t u := by
  induction t generalizing u with
  | declared d =>
    obtain ⟨e, rfl, h⟩ := exists_of_same_declared h
    obtain ⟨hspace, hname, -, -, hattributes⟩ := Declared.same_iff.mp h
    exact
      { fullName_eq := Declared.fullName_eq_of_same h
        name_eq := hname
        nameSpace_eq := hspace
        flags_eq := congrArg Form.flags (Declared.form_eq_of_same h)
        element := .none
        typeCode_eq := congrArg Form.typeCode (Declared.form_eq_of_same h)
        attributes := hattributes }
  | wrapped wrapper element attributes ih =>
    obtain ⟨other, others, rfl, helement, hattributes⟩ := exists_of_same_wrapped h
    have hreport : SameReport element other := ih helement
    exact
      { fullName_eq := congrArg (· ++ wrapper.mark) hreport.fullName_eq
        name_eq := congrArg (· ++ wrapper.mark) hreport.name_eq
        nameSpace_eq := hreport.nameSpace_eq
        flags_eq := rfl
        element := .some helement
        typeCode_eq := rfl
        attributes := hattributes }

/-- Declared types that report the same of themselves are the same. -/
theorem SameReport.same_declared {d e : Declared} (h : SameReport (declared d) (declared e)) :
    d.same e = true := by
  have hqualifier : d.qualifier = e.qualifier := by
    have hfull : d.fullName = e.fullName := h.fullName_eq
    have hname : d.name = e.name := h.name_eq
    rwa [d.fullName_eq_qualifier, e.fullName_eq_qualifier, hname, String.append_left_inj] at hfull
  exact Declared.same_iff.mpr ⟨h.nameSpace_eq, h.name_eq,
    Declared.outer_eq_of_qualifier_eq hqualifier,
    Form.eq_of_flags_of_typeCode h.flags_eq h.typeCode_eq, h.attributes⟩

/-- Types are the same exactly if they report the same of themselves. -/
theorem same_iff {t u : ManagedType} : t.same u = true ↔ SameReport t u := by
  refine ⟨sameReport_of_same, fun h => ?_⟩
  have helement := h.element
  cases t with
  | declared d =>
    cases u with
    | declared e => exact h.same_declared
    | wrapped wrapper element attributes => cases helement
  | wrapped wrapper element attributes =>
    cases u with
    | declared e => cases helement
    | wrapped other inner others =>
      cases helement with
      | some hinner =>
        exact same_wrapped_iff.mpr ⟨Wrapper.eq_of_flags h.flags_eq, hinner, h.attributes⟩

/-- Types that are the same have the same full name. -/
theorem fullName_eq_of_same {t u : ManagedType} (h : t.same u = true) : t.fullName = u.fullName :=
  (sameReport_of_same h).fullName_eq

/-- Of types that are the same, the attributes of one attribute type are the same in pairs. -/
theorem attributesNamed_of_same {t u : ManagedType} (h : t.same u = true)
    (attributeType : String) :
    List.Forall₂ (fun a b => a.same b = true) (t.attributesNamed attributeType)
      (u.attributesNamed attributeType) := by
  refine List.rel_filter (fun a b hab => ?_) (sameList_iff.mp (sameReport_of_same h).attributes)
  exact Bool.eq_iff_iff.mp (congrArg (· == attributeType) (Attribute.same_iff.mp hab).1)

end ManagedType

end BridgeNames
