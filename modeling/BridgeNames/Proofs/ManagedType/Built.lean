import BridgeNames.ManagedType.Category
import BridgeNames.ManagedType.Draft
import BridgeNames.Proofs.ManagedType.Wrappers

/-!
# Built types

A reader of metadata begins a draft, possibly around a type that it has built before, nests it in
built types, attaches attributes, and builds it. Types come about in no other way, and `Built` says
so. Nesting and attaching leave alone what a draft is about (`GrownFrom.subject_eq`), so the draft
that was begun decides what is built from it, and a built wrapper is around a built type
(`Built.element`). Hence the declared type inside all wrappers has a name and, if it is an
enumeration, an integer under it (`Built.sound`).
-/

namespace BridgeNames

/-- An enumeration can be based on the code. -/
def TypeCode.IsInteger (code : TypeCode) : Prop :=
  ∃ kind, code = .scalar kind ∧ kind.isInteger = true

namespace Draft

/-- A draft as it is begun. Wrappers are put around known types. -/
inductive Begun (known : ManagedType → Prop) : Draft → Prop
  | classType (nameSpace name : String) : Begun known (.classType nameSpace name)
  | interfaceType (nameSpace name : String) : Begun known (.interfaceType nameSpace name)
  | structureType (nameSpace name : String) : Begun known (.structureType nameSpace name)
  | enumType (nameSpace name : String) (underlying : TypeCode) :
    Begun known (.enumType nameSpace name underlying)
  | rootObject : Begun known .rootObject
  | rootValue : Begun known .rootValue
  | void : Begun known .void
  | builtIn (code : TypeCode) : Begun known (.builtIn code)
  | array {element : ManagedType} (h : known element) : Begun known (.array element)
  | byRef {element : ManagedType} (h : known element) : Begun known (.byRef element)

/-- The first draft is the second one with nestings in known types and attributes added to it. -/
inductive GrownFrom (known : ManagedType → Prop) : Draft → Draft → Prop
  | refl (start : Draft) : GrownFrom known start start
  | inside {d start : Draft} {outer : ManagedType} (h : GrownFrom known d start)
    (houter : known outer) : GrownFrom known (d.inside outer) start
  | attach {d start : Draft} (h : GrownFrom known d start) (added : Attribute) :
    GrownFrom known (d.attach added) start

end Draft

namespace ManagedType

/-- The type can be built, in any number of steps. -/
inductive Built : ManagedType → Prop
  | build {start d : Draft} {t : ManagedType} (hstart : start.Begun Built)
    (hgrown : d.GrownFrom Built start) (hbuild : d.build = .ok t) : Built t

end ManagedType

/-! ## Building -/

namespace Draft

variable {known : ManagedType → Prop} {start d : Draft} {t : ManagedType}

/-- Nestings and attributes leave alone what the draft is about. -/
theorem GrownFrom.subject_eq (h : d.GrownFrom known start) : d.subject = start.subject := by
  induction h with
  | refl => rfl
  | inside _ _ ih => exact ih
  | attach _ _ ih => exact ih

/-- What is named when a draft is begun is no enumeration. -/
theorem Begun.form_ne (h : start.Begun known) {nameSpace name : String} {form : Form}
    (hsubject : start.subject = .named nameSpace name form) (kind : ScalarKind) :
    form ≠ .enumeration kind := by
  rintro rfl
  cases h with
  | builtIn code => cases code <;> cases hsubject
  | _ => cases hsubject

/-- A wrapper is begun around a known type. -/
theorem Begun.known_of_wrapper (h : start.Begun known) {wrapper : Wrapper} {element : ManagedType}
    (hsubject : start.subject = .wrapper wrapper element) : known element := by
  cases h with
  | array h => cases hsubject; exact h
  | byRef h => cases hsubject; exact h
  | builtIn code => cases code <;> cases hsubject
  | _ => cases hsubject

/-- A named draft is built if the name is not empty. -/
theorem eq_of_build_named {nameSpace name : String} {form : Form}
    (hsubject : d.subject = .named nameSpace name form) (h : d.build = .ok t) :
    name ≠ "" ∧ t = d.declare nameSpace name form := by
  simp only [build, hsubject] at h
  split at h
  · cases h
  · rename_i hname
    exact ⟨hname, (Except.ok.inj h).symm⟩

/-- No enumeration is built on a code that is not that of an integer. -/
theorem build_of_not_isInteger {nameSpace name : String} {underlying : TypeCode}
    (hsubject : d.subject = .enumeration nameSpace name underlying) (hname : name ≠ "")
    (hcode : ¬ underlying.IsInteger) :
    d.build = .error (.nonIntegerEnumeration name underlying) := by
  simp only [build, hsubject, if_neg hname]
  cases underlying with
  | scalar kind => exact if_neg fun hkind => hcode ⟨kind, rfl, hkind⟩
  | _ => rfl

/-- An enumeration is built if its name is not empty and its code is that of an integer. -/
theorem eq_of_build_enumeration {nameSpace name : String} {underlying : TypeCode}
    (hsubject : d.subject = .enumeration nameSpace name underlying) (h : d.build = .ok t) :
    name ≠ "" ∧ ∃ kind, underlying = .scalar kind ∧ kind.isInteger = true ∧
      t = d.declare nameSpace name (.enumeration kind) := by
  have hname : name ≠ "" := by
    rintro rfl
    simp [build, hsubject] at h
  by_cases hcode : underlying.IsInteger
  · -- Only with the scalar at hand does the code of the draft reduce to the form that is built.
    obtain ⟨kind, rfl, hkind⟩ := hcode
    simp only [build, hsubject, if_neg hname, if_pos hkind] at h
    exact ⟨hname, kind, rfl, hkind, (Except.ok.inj h).symm⟩
  · rw [build_of_not_isInteger hsubject hname hcode] at h
    cases h

/-- A wrapper is built if it is not nested. -/
theorem eq_of_build_wrapper {wrapper : Wrapper} {element : ManagedType}
    (hsubject : d.subject = .wrapper wrapper element) (h : d.build = .ok t) :
    d.surroundings = none ∧ t = .wrapped wrapper element d.attributes := by
  simp only [build, hsubject] at h
  split at h
  · cases h
  · rename_i hnested
    exact ⟨Option.not_isSome_iff_eq_none.mp hnested, (Except.ok.inj h).symm⟩

end Draft

/-! ## What holds of built types -/

/-- What building makes sure of: the type has a name, and an enumeration is based on an integer. -/
structure Declared.Sound (d : Declared) : Prop where
  name_ne : d.name ≠ ""
  isInteger : ∀ kind, d.form = .enumeration kind → kind.isInteger = true

namespace ManagedType

variable {t : ManagedType}

/-- What holds of a type whenever it holds of all that it is built from holds of every built
type. -/
theorem Built.induct {p : ManagedType → Prop}
    (hstep : ∀ {start d : Draft} {t : ManagedType}, start.Begun p → d.GrownFrom p start →
      d.build = .ok t → p t) (h : t.Built) : p t :=
  -- The three motives speak of a built type, of a beginning, and of what has grown from one.
  @Built.rec (fun t _ => p t) (fun start _ => start.Begun p) (fun d start _ => d.GrownFrom p start)
    (fun _ _ hbuild hstart hgrown => hstep hstart hgrown hbuild) .classType .interfaceType
    .structureType .enumType .rootObject .rootValue .void .builtIn (fun _ => .array)
    (fun _ => .byRef) .refl (fun _ _ => .inside) (fun _ added h => .attach h added) t h

/-- A built wrapper is around a built type. -/
theorem Built.element {wrapper : Wrapper} {element : ManagedType} {attributes : List Attribute}
    (h : (wrapped wrapper element attributes).Built) : element.Built := by
  obtain @⟨start, d, _, hbegun, hgrown, hbuild⟩ := h
  -- Of the three kinds of drafts only that of a wrapper gives one, and it keeps its element.
  cases hsubject : d.subject with
  | named nameSpace name form => cases (Draft.eq_of_build_named hsubject hbuild).2
  | enumeration nameSpace name underlying =>
    obtain ⟨-, kind, -, -, heq⟩ := Draft.eq_of_build_enumeration hsubject hbuild
    cases heq
  | wrapper wrapper element =>
    cases (Draft.eq_of_build_wrapper hsubject hbuild).2
    exact hbegun.known_of_wrapper (hgrown.subject_eq.symm.trans hsubject)

/-- A built type without wrappers is sound. -/
theorem Built.declared_sound {type : Declared} (h : (declared type).Built) : type.Sound := by
  obtain @⟨start, d, _, hbegun, hgrown, hbuild⟩ := h
  cases hsubject : d.subject with
  | named nameSpace name form =>
    obtain ⟨hname, heq⟩ := Draft.eq_of_build_named hsubject hbuild
    cases heq
    have hstart := hgrown.subject_eq.symm.trans hsubject
    exact ⟨hname, fun kind hform => absurd hform (hbegun.form_ne hstart kind)⟩
  | enumeration nameSpace name underlying =>
    obtain ⟨hname, kind, -, hkind, heq⟩ := Draft.eq_of_build_enumeration hsubject hbuild
    cases heq
    exact ⟨hname, fun _ hform => by cases hform; exact hkind⟩
  | wrapper wrapper element => cases (Draft.eq_of_build_wrapper hsubject hbuild).2

/-- The declared type inside all wrappers of a built type is sound. -/
theorem Built.sound (h : t.Built) : t.base.Sound := by
  induction t with
  | declared d => exact h.declared_sound
  | wrapped wrapper element attributes ih => exact ih h.element

/-- The flags are in one of six combinations. -/
theorem flags_mem (t : ManagedType) :
    t.flags ∈ [[.classType], [.interfaceType], [.valueType], [.enumType, .valueType],
      [.classType, .arrayType], [.byRefType]] := by
  cases t with
  | declared d => cases hform : d.form <;> simp [flags, Form.flags, hform]
  | wrapped wrapper element attributes => cases wrapper <;> simp [flags, Wrapper.flags]

/-- No reference, interface, enumeration or value is a class. -/
theorem is_classType_eq_false
    (h : t.is .byRefType = true ∨ t.is .interfaceType = true ∨ t.is .enumType = true ∨
      t.is .valueType = true) : t.is .classType = false := by
  have hflags := t.flags_mem
  simp only [List.mem_cons, List.not_mem_nil, or_false] at hflags
  rcases hflags with hflags | hflags | hflags | hflags | hflags | hflags <;>
    simp [is, hflags] at h ⊢

/-- A declared type has the flag of an enumeration exactly if it has the form of one. -/
theorem is_enumType_iff {d : Declared} :
    (declared d).is .enumType = true ↔ ∃ kind, d.form = .enumeration kind := by
  cases hform : d.form <;> simp [is, flags, Form.flags, hform]

/-- A class with an attribute. -/
def widgets : ManagedType :=
  .declared ⟨"App", "Widgets", none, .reference, [⟨"System.ObsoleteAttribute", [], []⟩]⟩

/-- An enumeration nested in the class. -/
def mode : ManagedType :=
  .declared ⟨"App", "Mode", some "App.Widgets", .enumeration .int32, []⟩

/-- A reference to an array of the enumeration. -/
def modesReference : ManagedType :=
  .wrapped .byRef (.wrapped .array mode []) []

/-- The class can be built. -/
theorem widgets_built : widgets.Built :=
  .build (.classType "App" "Widgets") (.attach (.refl _) ⟨"System.ObsoleteAttribute", [], []⟩) rfl

/-- The enumeration grows from one that is begun in no namespace. -/
theorem mode_grown : ((Draft.enumType "" "Mode" (.scalar .int32)).inside widgets).GrownFrom Built
    (.enumType "" "Mode" (.scalar .int32)) :=
  .inside (.refl _) widgets_built

/-- The reference can be built. -/
theorem modesReference_built : modesReference.Built :=
  have hmode : mode.Built := .build (.enumType "" "Mode" (.scalar .int32)) mode_grown rfl
  have hmodes : (wrapped .array mode []).Built := .build (.array hmode) (.refl _) rfl
  .build (.byRef hmodes) (.refl _) rfl

end ManagedType

end BridgeNames
