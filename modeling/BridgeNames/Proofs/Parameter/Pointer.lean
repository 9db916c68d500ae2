import BridgeNames.Proofs.Catalog.History
import BridgeNames.Proofs.Parameter.Identifier
import BridgeNames.Proofs.Spelling.Unboxing

/-!
# Bound classes that are pointers already

A declaration puts the mark of a pointer behind the spelling of a bound class. Whether a type is a
bound class goes by its flag and its full name, while whether its spelling is that of a pointer goes
by its category, and the two do not exclude each other. References and decimals are pointers without
the flag of a class, so they never get the mark. Strings and arrays are pointers with that flag:
once their full name is bound, they are declared as pointers to pointers. Of the other bound classes
this happens only to those that are exported under a name that ends like a pointer.
-/

namespace BridgeNames

open Naming

variable {c : Conventions} {t : ManagedType} {s : String}

namespace ObjectiveC

/-- The spelling ends in the mark of a pointer, with or without the word that it can be null. -/
def IsPointer (s : String) : Prop :=
  "*".toList <:+ s.toList ∨ "* _Nullable".toList <:+ s.toList

instance : DecidablePred IsPointer := fun s =>
  inferInstanceAs (Decidable ("*".toList <:+ s.toList ∨ "* _Nullable".toList <:+ s.toList))

/-- What stands before the spelling of a pointer leaves it one. -/
theorem IsPointer.append_left (h : IsPointer s) (before : String) : IsPointer (before ++ s) := by
  have hsuffix : s.toList <:+ (before ++ s).toList := by
    rw [String.toList_append]
    exact List.suffix_append ..
  exact h.imp (·.trans hsuffix) (·.trans hsuffix)

/-- The spelling of an array is that of a pointer. -/
theorem spellArray_isPointer {array element : ManagedType}
    (h : (spellArray c array element).answer = .ok s) : IsPointer s := by
  rcases spellArray_answer_cases h with rfl | ⟨held, rfl⟩
  · decide
  · exact IsPointer.append_left (by decide) _

/-- So is the spelling of a reference. -/
theorem spell_byRef_isPointer {element : ManagedType} {attributes : List Attribute}
    (h : (spell c (.wrapped .byRef element attributes)).answer = .ok s) : IsPointer s := by
  have hmark : "* _Nullable".toList <:+ " * _Nullable".toList := by decide
  exact .inr (hmark.trans (nullable_suffix_spell h))

end ObjectiveC

namespace ManagedType

/-- Values of the type are pointers whatever is bound: it is a string, a decimal, an array or a
reference. -/
def IsPointer (t : ManagedType) : Prop :=
  match t.category with
  | .declared .string | .declared .decimal | .array _ | .byRef _ => True
  | _ => False

/-- The type is a pointer with the flag of a class: it is a string or an array. -/
def IsPointerClass (t : ManagedType) : Prop :=
  match t.category with
  | .declared .string | .array _ => True
  | _ => False

/-- The type is a class with a name of its own, and it is exported under the spelling of a
pointer. -/
def IsNamedLikePointer (c : Conventions) (t : ManagedType) : Prop :=
  t.category = .declared .namedObject ∧ t.is .classType = true ∧
    ObjectiveC.IsPointer (Registration.outcome c t).name

end ManagedType

namespace Declared

variable {d : Declared}

/-- The declared types with the nature of a string are those with the form of one. -/
theorem nature_eq_string_iff : d.nature = .string ↔ d.form = .string := by
  cases hform : d.form <;> simp [nature, hform, Nature.ofName_ne]

/-- The same holds of decimals. -/
theorem nature_eq_decimal_iff : d.nature = .decimal ↔ d.form = .decimal := by
  cases hform : d.form <;> simp [nature, hform, Nature.ofName_ne]

end Declared

namespace ManagedType

/-- The declared types that are pointers are strings and decimals. -/
theorem isPointer_declared_iff {d : Declared} :
    (declared d).IsPointer ↔ d.form = .string ∨ d.form = .decimal := by
  rw [← Declared.nature_eq_string_iff, ← Declared.nature_eq_decimal_iff]
  cases hnature : d.nature <;> simp [IsPointer, category, hnature]

/-- Of these, strings have the flag of a class. -/
theorem isPointerClass_declared_iff {d : Declared} :
    (declared d).IsPointerClass ↔ d.form = .string := by
  rw [← Declared.nature_eq_string_iff]
  cases hnature : d.nature <;> simp [IsPointerClass, category, hnature]

/-- Strings and arrays are pointers. -/
theorem IsPointerClass.isPointer (h : t.IsPointerClass) : t.IsPointer := by
  cases t with
  | declared d => exact isPointer_declared_iff.mpr (.inl (isPointerClass_declared_iff.mp h))
  | wrapped wrapper element attributes =>
    cases wrapper with
    | array => exact trivial
    | byRef => exact trivial

/-- No pointer is an interface. -/
theorem IsPointer.is_interfaceType (h : t.IsPointer) : t.is .interfaceType = false := by
  cases t with
  | declared d =>
    rcases isPointer_declared_iff.mp h with hform | hform <;> simp [is, flags, Form.flags, hform]
  | wrapped wrapper element attributes => cases wrapper <;> rfl

/-- The pointers with the flag of a class are the strings and the arrays. -/
theorem IsPointer.is_classType_iff (h : t.IsPointer) :
    t.is .classType = true ↔ t.IsPointerClass := by
  cases t with
  | declared d =>
    rw [isPointerClass_declared_iff]
    rcases isPointer_declared_iff.mp h with hform | hform <;> simp [is, flags, Form.flags, hform]
  | wrapped wrapper element attributes =>
    cases wrapper with
    | array => exact iff_of_true rfl trivial
    | byRef => exact iff_of_false Bool.false_ne_true id

/-- The spelling of a pointer is that of one. -/
theorem IsPointer.spelling_isPointer (h : t.IsPointer)
    (hs : (ObjectiveC.spell c t).answer = .ok s) : ObjectiveC.IsPointer s := by
  cases t with
  | declared d =>
    simp only [ObjectiveC.spell, ObjectiveC.spellDeclared] at hs
    rcases isPointer_declared_iff.mp h with hform | hform
    · rw [Declared.nature_eq_string_iff.mpr hform] at hs
      cases hs
      decide
    · rw [Declared.nature_eq_decimal_iff.mpr hform] at hs
      cases hs
      decide
  | wrapped wrapper element attributes =>
    cases wrapper with
    | array => exact ObjectiveC.spellArray_isPointer hs
    | byRef => exact ObjectiveC.spell_byRef_isPointer hs

/-- A class that is no pointer is spelled as one exactly if it has a name of its own and is exported
under the spelling of a pointer. -/
theorem isPointer_spelling_iff_of_declared {d : Declared} (h : ¬ (declared d).IsPointer)
    (hclass : (declared d).is .classType = true)
    (hs : (ObjectiveC.spell c (.declared d)).answer = .ok s) :
    ObjectiveC.IsPointer s ↔ (declared d).IsNamedLikePointer c := by
  unfold IsNamedLikePointer
  cases hnature : d.nature with
  | string => simp [IsPointer, category, hnature] at h
  | decimal => simp [IsPointer, category, hnature] at h
  | enumeration =>
    have henum := Declared.nature_eq_enumeration_iff.mp hnature
    have hnot := is_classType_eq_false (t := declared d) (.inr (.inr (.inl henum)))
    exact absurd (hnot.symm.trans hclass) Bool.false_ne_true
  | namedObject =>
    -- The spelling is the export name, which whoever declares the class can choose.
    rw [ObjectiveC.spelling_of_hasOwnName (.inr hnature) hs]
    simp [category, hnature, hclass]
  | scalar kind =>
    simp only [ObjectiveC.spell, ObjectiveC.spellDeclared, hnature] at hs
    cases hs
    refine iff_of_false ?_ (by simp [category, hnature])
    cases kind <;> decide
  | _ =>
    simp only [ObjectiveC.spell, ObjectiveC.spellDeclared, hnature] at hs
    cases hs
    exact iff_of_false (by decide) (by simp [category, hnature])

/-- Of the types with the flag of a class, those that are spelled as pointers are the strings, the
arrays, and the classes that are exported under the spelling of a pointer. -/
theorem isPointer_spelling_iff (hclass : t.is .classType = true)
    (hs : (ObjectiveC.spell c t).answer = .ok s) :
    ObjectiveC.IsPointer s ↔ t.IsPointerClass ∨ t.IsNamedLikePointer c := by
  by_cases hpointer : t.IsPointer
  · have hkind : t.IsPointerClass := hpointer.is_classType_iff.mp hclass
    exact iff_of_true (hpointer.spelling_isPointer hs) (.inl hkind)
  · rw [or_iff_right (mt IsPointerClass.isPointer hpointer)]
    cases t with
    | declared d => exact isPointer_spelling_iff_of_declared hpointer hclass hs
    | wrapped wrapper element attributes => cases wrapper <;> exact absurd trivial hpointer

end ManagedType

namespace Parameter

variable {p : Parameter}

/-- The type of a parameter is declared by its spelling, with the marks of an interface or of a
bound class around it. -/
theorem declaredType_of_spelledAs (hs : p.SpelledAs c s) (catalog : Catalog) :
    (p.declaredType c catalog).answer =
      let conforming := if p.type.is .interfaceType then "id<" ++ s ++ ">" else s
      .ok (if catalog.isBound p.type then conforming ++ " *" else conforming) := by
  unfold declaredType
  rw [answer_bind_pure, hs]
  rfl

/-- What conforms to an interface ends in a bracket, and so does not end in the mark of a
pointer. -/
theorem conforming_ne (s : String) : "id<" ++ s ++ ">" ≠ s ++ " *" := by
  intro h
  have hlast : ("id<".toList ++ s.toList ++ ['>']).getLast? =
      (s.toList ++ [' '] ++ ['*']).getLast? := by
    simpa using congrArg (·.toList.getLast?) h
  rw [List.getLast?_concat, List.getLast?_concat] at hlast
  exact absurd hlast (by decide)

/-- A parameter is declared with the mark of a pointer behind the spelling of its type exactly if
its type is a bound class. -/
theorem declaredType_eq_marked_iff (hs : p.SpelledAs c s) (catalog : Catalog) :
    (p.declaredType c catalog).answer = .ok (s ++ " *") ↔ catalog.isBound p.type = true := by
  rw [declaredType_of_spelledAs hs]
  cases hinterface : p.type.is .interfaceType with
  | true =>
    have hnot : catalog.isBound p.type = false := by
      rw [Catalog.isBound, ManagedType.is_classType_eq_false (.inr (.inl hinterface)),
        Bool.false_and]
    simp [hnot, conforming_ne]
  | false =>
    have hne : s ++ " *" ≠ s := by simp
    cases hbound : catalog.isBound p.type with
    | true => simp
    | false => simp [hne.symm]

/-- Unless its type is a bound class, a parameter whose type is a pointer is declared by the
spelling of its type. -/
theorem declaredType_eq_spelling_iff (hs : p.SpelledAs c s) (h : p.type.IsPointer)
    (catalog : Catalog) :
    (p.declaredType c catalog).answer = .ok s ↔ ¬ catalog.isBound p.type = true := by
  rw [declaredType_of_spelledAs hs, h.is_interfaceType]
  cases catalog.isBound p.type with
  | true => simp
  | false => simp

/-- Let the type of a parameter have a spelling, and let any types have been bound before. If the
type is a pointer, the parameter is declared by that spelling unless the type is a string or an
array with a full name that has been bound. The mark of a pointer is put behind the spelling of a
pointer exactly if a type with the full name has been bound and the type is a string or an array, or
a class that is exported under such a spelling. -/
theorem declaredType_pointer_iff {j : Journal}
    (hspell : ((ObjectiveC.spell c p.type).run.run j).1 = .ok s) (history : List CatalogRequest) :
    (p.type.IsPointer →
      (((p.declaredType c (.after history)).run.run j).1 = .ok s ↔
        ¬ (p.type.IsPointerClass ∧ Catalog.Binds history p.type))) ∧
    (((p.declaredType c (.after history)).run.run j).1 = .ok (s ++ " *") ∧
        ObjectiveC.IsPointer s ↔
      Catalog.Binds history p.type ∧
        (p.type.IsPointerClass ∨ p.type.IsNamedLikePointer c)) := by
  have hs : p.SpelledAs c s := by
    rw [SpelledAs, ← hspell, (ObjectiveC.spell_steady c p.type).run_fst j]
  rw [(p.declaredType_steady c (.after history)).run_fst j]
  constructor
  · intro hpointer
    rw [declaredType_eq_spelling_iff hs hpointer, Catalog.isBound_after_iff,
      hpointer.is_classType_iff]
  · rw [declaredType_eq_marked_iff hs, Catalog.isBound_after_iff]
    constructor
    · rintro ⟨⟨hclass, hbinds⟩, hpointer⟩
      exact ⟨hbinds, (ManagedType.isPointer_spelling_iff hclass hs).mp hpointer⟩
    · rintro ⟨hbinds, hkind⟩
      have hclass : p.type.is .classType = true :=
        hkind.elim (fun h => h.isPointer.is_classType_iff.mpr h) (·.2.1)
      exact ⟨⟨hclass, hbinds⟩, (ManagedType.isPointer_spelling_iff hclass hs).mpr hkind⟩

end Parameter

namespace ManagedType

/-- The string type of the runtime. -/
def text : ManagedType :=
  .declared ⟨"System", "String", none, .string, []⟩

/-- An array of integers. -/
def integers : ManagedType :=
  .wrapped .array (.declared ⟨"System", "Int32", none, .scalar .int32, []⟩) []

/-- The array is declared as a pointer to a pointer once it has been bound itself. -/
theorem integers_declaredType :
    ((ObjectiveC.spell .standard integers).run.run .empty).1 = .ok "NSArray<NSNumber *> *" ∧
      ((Parameter.declaredType .standard (.after [.bind text]) ⟨"values", integers⟩).run.run
        .empty).1 = .ok "NSArray<NSNumber *> *" ∧
      ((Parameter.declaredType .standard (.after [.bind text, .bind integers])
        ⟨"values", integers⟩).run.run .empty).1 = .ok "NSArray<NSNumber *> * *" := by
  let values : Parameter := ⟨"values", integers⟩
  have hspell : ((ObjectiveC.spell .standard integers).run.run .empty).1 =
      .ok "NSArray<NSNumber *> *" := rfl
  have hunbound : ¬ Catalog.Binds [.bind text] integers := by
    rintro ⟨u, hu, hname⟩
    cases List.mem_singleton.mp hu
    exact absurd hname (by decide)
  have hbound : Catalog.Binds [.bind text, .bind integers] integers := ⟨integers, by simp, rfl⟩
  have hbefore := Parameter.declaredType_pointer_iff (p := values) hspell [.bind text]
  have hafter :=
    Parameter.declaredType_pointer_iff (p := values) hspell [.bind text, .bind integers]
  exact ⟨hspell, (hbefore.1 trivial).mpr fun h => hunbound h.2,
    (hafter.2.mpr ⟨hbound, .inl trivial⟩).1⟩

/-- The string type of the runtime can be built and is spelled as a pointer. Once it has been bound,
it is declared as a pointer to that pointer. -/
theorem text_declaredType :
    text.Built ∧ text.category = .declared .string ∧
      ((ObjectiveC.spell .standard text).run.run .empty).1 = .ok "NSString *" ∧
      ((Parameter.declaredType .standard (.after [.bind text]) ⟨"s", text⟩).run.run .empty).1 =
        .ok "NSString * *" :=
  ⟨.build (.builtIn .string) (.refl _) rfl, rfl, rfl, rfl⟩

end ManagedType

end BridgeNames
