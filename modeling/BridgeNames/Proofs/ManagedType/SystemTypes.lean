import BridgeNames.Proofs.ManagedType.Built
import BridgeNames.Proofs.Session.Batch

/-!
# Types that are told by their names

A class, interface, or structure is one of the roots or the void type by its namespace and its
simple name, but a type is identified by its full name. Without nesting the two agree. A nested type
takes over the namespace of the type around it, and its full name has a plus sign in it, which that
of no root and that of the void type has. So a nested type is mistaken exactly if the type around it
is in the namespace `System` and its simple name is that of a root or of the void type
(`toldByFullName_iff`).
-/

namespace BridgeNames

/-- The simple name is that of a root or of the void type. -/
def IsSystemName (name : String) : Prop :=
  name = "Object" ∨ name = "ValueType" ∨ name = "Void"

namespace Nature

/-- What a class, interface, or structure is by its names: the void type, a root, or a named
object. -/
theorem ofName_cases (nameSpace name : String) :
    (nameSpace = "System" ∧ name = "Void" ∧ ofName nameSpace name = .void) ∨
      (nameSpace = "System" ∧ (name = "Object" ∨ name = "ValueType") ∧
        ofName nameSpace name = .rootObject) ∨
      (¬ (nameSpace = "System" ∧ IsSystemName name) ∧ ofName nameSpace name = .namedObject) := by
  unfold ofName
  split
  · rename_i hsystem
    split
    · rename_i hroot
      exact .inr (.inl ⟨hsystem, hroot, rfl⟩)
    · rename_i hroot
      split
      · rename_i hvoid
        exact .inl ⟨hsystem, hvoid, rfl⟩
      · rename_i hvoid
        refine .inr (.inr ⟨?_, rfl⟩)
        rintro ⟨-, hobject | hvalue | hname⟩
        · exact hroot (.inl hobject)
        · exact hroot (.inr hvalue)
        · exact hvoid hname
  · rename_i hsystem
    exact .inr (.inr ⟨fun h => hsystem h.1, rfl⟩)

/-- The names of a named object are all but those of the void type and of the roots. -/
theorem ofName_eq_namedObject_iff {nameSpace name : String} :
    ofName nameSpace name = .namedObject ↔ ¬ (nameSpace = "System" ∧ IsSystemName name) := by
  rcases ofName_cases nameSpace name with ⟨hsystem, hvoid, h⟩ | ⟨hsystem, hroot, h⟩ | ⟨hne, h⟩
  · exact iff_of_false (by simp [h]) (not_not_intro ⟨hsystem, .inr (.inr hvoid)⟩)
  · exact iff_of_false (by simp [h]) (not_not_intro ⟨hsystem, hroot.imp_right .inl⟩)
  · exact iff_of_true h hne

end Nature

namespace ManagedType

/-- The type is spelled in Objective-C by its export name, and listed under it among the export
names of any types that it is one of. -/
structure IsExported (t : ManagedType) : Prop where
  spell_eq : ∀ c, ObjectiveC.spell c t = liftM (exportName c t)
  mem_exportNames : ∀ (s : Session) (types : List ManagedType), t ∈ types →
    (t.fullName, (Registration.outcome s.conventions t).name) ∈
      ((Session.exportNames types).run s).1

/-- The type is a root or the void type by its full name: only those with the full name of the void
type or of a root have the category, and every other one is a named object. -/
structure ToldByFullName (t : ManagedType) : Prop where
  of_void : t.category = .declared .void → t.fullName = "System.Void"
  of_rootObject : t.category = .declared .rootObject →
    t.fullName = "System.Object" ∨ t.fullName = "System.ValueType"
  of_other : t.category ≠ .declared .void → t.category ≠ .declared .rootObject →
    t.category = .declared .namedObject ∧ t.IsExported

/-- A named object is exported. -/
theorem isExported_of_namedObject {d : Declared} (h : d.nature = .namedObject) :
    (declared d).IsExported where
  spell_eq c := by simp only [ObjectiveC.spell, ObjectiveC.spellDeclared, h]
  mem_exportNames s types hmem := by
    rw [Session.exportNames_answer, List.mem_map]
    exact ⟨declared d, List.mem_filter.mpr ⟨hmem, by simp [hasOwnName, h]⟩, rfl⟩

/-- A named object is told by its full name, whatever that is. -/
theorem toldByFullName_of_namedObject {d : Declared} (h : d.nature = .namedObject) :
    (declared d).ToldByFullName where
  of_void hvoid := by simp [category, h] at hvoid
  of_rootObject hroot := by simp [category, h] at hroot
  of_other _ _ := ⟨by rw [category, h], isExported_of_namedObject h⟩

/-- A name with a plus sign in it is none without. -/
theorem nested_ne {outer name special : String} (h : '+' ∉ special.toList) :
    outer ++ "+" ++ name ≠ special := by
  rintro rfl
  simp at h

/-- A nested type that is told by its names is told by its full name exactly if it is a named
object. -/
theorem toldByFullName_iff_of_nested {d : Declared} {outer : String} (houter : d.outer = some outer)
    (hnature : d.nature = .ofName d.nameSpace d.name) :
    (declared d).ToldByFullName ↔ d.nature = .namedObject := by
  refine ⟨fun h => ?_, toldByFullName_of_namedObject⟩
  have hfull : (declared d).fullName = outer ++ "+" ++ d.name := by
    simp only [fullName, Declared.fullName, houter]
  -- The category asks for the full name of a root or of the void type, and this is none.
  rcases Nature.ofName_cases d.nameSpace d.name with ⟨-, -, hn⟩ | ⟨-, -, hn⟩ | ⟨-, hn⟩
  · have hname := h.of_void (by rw [category, hnature, hn])
    exact absurd (hfull.symm.trans hname) (nested_ne (by decide))
  · rcases h.of_rootObject (by rw [category, hnature, hn]) with hname | hname
    · exact absurd (hfull.symm.trans hname) (nested_ne (by decide))
    · exact absurd (hfull.symm.trans hname) (nested_ne (by decide))
  · rw [hnature, hn]

/-- A type that is told by its names and is not nested is told by its full name. -/
theorem toldByFullName_of_not_nested {d : Declared} (houter : d.outer = none)
    (hnature : d.nature = .ofName d.nameSpace d.name) : (declared d).ToldByFullName := by
  have hfull (h : d.nameSpace = "System") : (declared d).fullName = "System." ++ d.name := by
    simp [fullName, Declared.fullName, houter, h]
  rcases Nature.ofName_cases d.nameSpace d.name with
    ⟨hsystem, hname, hn⟩ | ⟨hsystem, hname, hn⟩ | ⟨-, hn⟩
  · have hcategory : (declared d).category = .declared .void := by rw [category, hnature, hn]
    exact
      { of_void := fun _ => by rw [hfull hsystem, hname]; rfl
        of_rootObject := fun hroot => by simp [hcategory] at hroot
        of_other := fun hvoid => absurd hcategory hvoid }
  · have hcategory : (declared d).category = .declared .rootObject := by rw [category, hnature, hn]
    exact
      { of_void := fun hvoid => by simp [hcategory] at hvoid
        of_rootObject := fun _ => by
          rw [hfull hsystem]
          exact hname.imp (fun h => by rw [h]; rfl) (fun h => by rw [h]; rfl)
        of_other := fun _ hroot => absurd hcategory hroot }
  · exact toldByFullName_of_namedObject (hnature.trans hn)

/-- A class, interface, or structure that is built is told by its full name, unless the type that it
is nested in last is in the namespace `System` and its own name is that of a root or of the void
type. -/
theorem toldByFullName_iff {known : ManagedType → Prop} {start d : Draft} {nameSpace name : String}
    {t : ManagedType}
    (hstart : start = .classType nameSpace name ∨ start = .interfaceType nameSpace name ∨
      start = .structureType nameSpace name)
    (hgrown : d.GrownFrom known start) (hbuild : d.build = .ok t) :
    t.ToldByFullName ↔
      ¬ ((∃ outer, d.surroundings = some outer ∧ outer.nameSpace = "System") ∧
        IsSystemName name) := by
  obtain ⟨form, hsubject, hform⟩ : ∃ form, start.subject = .named nameSpace name form ∧
      (form = .reference ∨ form = .interface ∨ form = .value) := by
    rcases hstart with rfl | rfl | rfl
    · exact ⟨_, rfl, .inl rfl⟩
    · exact ⟨_, rfl, .inr (.inl rfl)⟩
    · exact ⟨_, rfl, .inr (.inr rfl)⟩
  obtain ⟨-, rfl⟩ := Draft.eq_of_build_named (hgrown.subject_eq.trans hsubject) hbuild
  -- Whatever the form is, the nature is told by the namespace of the draft and its name.
  have hnature (type : Declared) (h : type.form = form) :
      type.nature = .ofName type.nameSpace type.name := by
    rcases hform with rfl | rfl | rfl <;> rw [Declared.nature, h]
  unfold Draft.declare
  cases hsurroundings : d.surroundings with
  | none =>
    refine iff_of_true (toldByFullName_of_not_nested rfl (hnature _ rfl)) ?_
    rintro ⟨⟨outer, houter, -⟩, -⟩
    cases houter
  | some outer =>
    rw [toldByFullName_iff_of_nested rfl (hnature _ rfl), hnature _ rfl,
      Nature.ofName_eq_namedObject_iff]
    simp

/-- A class of the namespace `System`. -/
def buffers : ManagedType :=
  .declared ⟨"System", "Buffers", none, .reference, []⟩

/-- A structure called `Void` that is nested in the class. -/
def nestedVoid : ManagedType :=
  .declared ⟨"System", "Void", some "System.Buffers", .value, []⟩

/-- The draft of the structure, which is begun in another namespace. -/
def nestedVoidDraft : Draft :=
  (Draft.structureType "App" "Void").inside buffers

/-- The draft is grown from its beginning. -/
theorem nestedVoidDraft_grown : nestedVoidDraft.GrownFrom Built (.structureType "App" "Void") :=
  .inside (.refl _) (.build (.classType "System" "Buffers") (.refl _) rfl)

/-- The nested structure is told by its full name unless the class is in the namespace `System`. -/
theorem nestedVoid_toldByFullName_iff :
    nestedVoidDraft.GrownFrom Built (.structureType "App" "Void") ∧
      nestedVoidDraft.build = .ok nestedVoid ∧
      (nestedVoid.ToldByFullName ↔
        ¬ ((∃ outer, nestedVoidDraft.surroundings = some outer ∧ outer.nameSpace = "System") ∧
          IsSystemName "Void")) :=
  ⟨nestedVoidDraft_grown, rfl, toldByFullName_iff (.inr (.inr rfl)) nestedVoidDraft_grown rfl⟩

/-- It is, so the nested structure has the category of the void type without having its full
name. -/
theorem nestedVoid_not_toldByFullName :
    nestedVoid.Built ∧ nestedVoid.category = .declared .void ∧
      nestedVoid.fullName = "System.Buffers+Void" ∧ ¬ nestedVoid.ToldByFullName := by
  refine ⟨.build (.structureType "App" "Void") nestedVoidDraft_grown rfl, rfl, rfl, fun h => ?_⟩
  have hname : "System.Buffers+Void" = "System.Void" := h.of_void rfl
  exact absurd hname (by decide)

end ManagedType

end BridgeNames
