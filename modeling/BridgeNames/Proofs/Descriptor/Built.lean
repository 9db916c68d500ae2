import BridgeNames.Descriptor.Builder
import BridgeNames.Proofs.ManagedType.Built

/-!
# Built descriptors

Descriptors come about by building alone: a builder is begun, possibly around a descriptor that has
been built before, nested in built descriptors, given attributes, and built. Ten ways to begin set
the fields of a builder one by one. `Coherent` says what the fields of every builder on the way have
to do with one another, so it is shown for the ten (`Begun.coherent`) and kept by the two ways to go
on (`GrownFrom.coherent`).

From there a full name is always found: the simple name of a wrapper starts with that of its
element, so it can be cut there, and what is left is the mark (`Coherent.fullName?_of_element`).
What is built has the fields of its builder, and so they agree (`Built.consistent`). In particular
no wrapper is without its element, and no code is left over that decides nothing: the way around
them in `Descriptor.category` is never taken.
-/

namespace BridgeNames

/-- The nature that the code alone decides. The code of the root object leaves it open. -/
def TypeCode.nature? : TypeCode → Option Nature
  | .scalar kind => some (.scalar kind)
  | .decimal => some .decimal
  | .string => some .string
  | .object => none

/-- The code is that of an integer exactly if it stands for a scalar that is one. -/
theorem TypeCode.isInteger_iff {code : TypeCode} :
    code.IsInteger ↔ code.scalar?.any ScalarKind.isInteger = true := by
  cases code <;> simp [IsInteger, scalar?]

namespace Builder

/-- A builder as it is begun. Wrappers are put around known descriptors. -/
inductive Begun (known : Descriptor → Prop) : Builder → Prop
  | classType (nameSpace name : String) : Begun known (.classType nameSpace name)
  | interfaceType (nameSpace name : String) : Begun known (.interfaceType nameSpace name)
  | structureType (nameSpace name : String) : Begun known (.structureType nameSpace name)
  | enumType (nameSpace name : String) (underlying : TypeCode) :
    Begun known (.enumType nameSpace name underlying)
  | rootObject : Begun known .rootObject
  | rootValue : Begun known .rootValue
  | void : Begun known .void
  | builtIn (code : TypeCode) : Begun known (.builtIn code)
  | array {element : Descriptor} (h : known element) : Begun known (.array element)
  | byRef {element : Descriptor} (h : known element) : Begun known (.byRef element)

/-- The first builder is the second one with nestings in known types and attributes added to it. -/
inductive GrownFrom (known : Descriptor → Prop) : Builder → Builder → Prop
  | refl (start : Builder) : GrownFrom known start start
  | inside {b start : Builder} {outer : Descriptor} (h : GrownFrom known b start)
    (houter : known outer) : GrownFrom known (b.inside outer) start
  | attach {b start : Builder} (h : GrownFrom known b start) (added : Attribute) :
    GrownFrom known (b.attach added) start

/-- The builder has the defect. -/
inductive HasDefect (b : Builder) : Defect → Prop
  | emptyName (h : b.name = "") : HasDefect b .emptyName
  | nestedWrapper (helement : b.element.isSome = true) (hnested : b.declaringType.isSome = true) :
    HasDefect b (.nestedWrapper b.name)
  | nonIntegerEnumeration (henum : TypeFlag.enumType.isIn b.flags = true)
    (hcode : ¬ b.typeCode.IsInteger) : HasDefect b (.nonIntegerEnumeration b.name b.typeCode)

end Builder

namespace Descriptor

/-- The descriptor can be built, in any number of steps. -/
inductive Built : Descriptor → Prop
  | build {start b : Builder} {d : Descriptor} (hstart : start.Begun Built)
    (hgrown : b.GrownFrom Built start) (hbuild : b.build = some (.ok d)) : Built d

/-- The category by the fields that decide it. There is none if the flag of a wrapper comes without
an element, or if the code is neither that of the root object nor decides a nature. -/
def decidedCategory? (d : Descriptor) : Option Category :=
  if d.has .byRefType then d.element.map .byRef
  else if d.has .enumType then some (.declared .enumeration)
  else if d.has .arrayType then d.element.map .array
  else if d.typeCode = .object then some (.declared (.ofName d.nameSpace d.name))
  else d.typeCode.nature?.map .declared

/-- The fields of the descriptor agree with one another. -/
structure Consistent (d : Descriptor) : Prop where
  /-- The flags are those of a class, an interface, a value, an enumeration, which is also a value,
  an array, which is also a class, or a reference. -/
  flags_mem : d.flags ∈ [0x01#8, 0x10#8, 0x20#8, 0x02#8 ||| 0x20#8, 0x04#8 ||| 0x01#8, 0x08#8]
  /-- Exactly the wrappers have an element. -/
  element_iff : d.element.isSome = true ↔ d.has .arrayType = true ∨ d.has .byRefType = true
  name_ne : d.name ≠ ""
  /-- The full name ends with the simple name. -/
  fullName_eq : ∃ before, d.fullName = before ++ d.name
  /-- A wrapper has the names of its element with its mark behind them. -/
  of_element : ∀ element, d.element = some element → ∃ mark,
    (d.has .arrayType = true ∧ mark = "[]" ∨ d.has .byRefType = true ∧ mark = "&") ∧
      d.name = element.name ++ mark ∧ d.fullName = element.fullName ++ mark ∧
      d.nameSpace = element.nameSpace ∧ d.typeCode = .object
  /-- An enumeration has the code of an integer. -/
  of_enum : d.has .enumType = true → d.typeCode.IsInteger
  /-- The category is decided by a flag with its element or by the code. -/
  category_eq : d.decidedCategory? = some d.category

/-- What holds of a descriptor whenever it holds of all that it is built from holds of every built
descriptor. -/
theorem Built.induct {p : Descriptor → Prop}
    (hstep : ∀ {start b : Builder} {d : Descriptor}, start.Begun p → b.GrownFrom p start →
      b.build = some (.ok d) → p d) {d : Descriptor} (h : d.Built) : p d :=
  -- The three motives speak of a built descriptor, of a beginning, and of what has grown from one.
  @Built.rec (fun d _ => p d) (fun start _ => start.Begun p) (fun b start _ => b.GrownFrom p start)
    (fun _ _ hbuild hstart hgrown => hstep hstart hgrown hbuild) .classType .interfaceType
    .structureType .enumType .rootObject .rootValue .void .builtIn (fun _ => .array)
    (fun _ => .byRef) .refl (fun _ _ => .inside) (fun _ added h => .attach h added) d h

end Descriptor

/-! ## The fields of a builder -/

namespace Builder

variable {known : Descriptor → Prop} {start b : Builder} {d : Descriptor}

/-- What the fields of a builder have to do with one another. -/
structure Coherent (b : Builder) : Prop where
  flags_mem : b.flags ∈ [0x01#8, 0x10#8, 0x20#8, 0x22#8, 0x05#8, 0x08#8]
  /-- Exactly the wrappers have an element. -/
  element_iff : b.element.isSome = true ↔ b.flags = 0x05#8 ∨ b.flags = 0x08#8
  /-- A wrapper is called by its element with its mark behind it. It stays in the namespace of its
  element unless it is nested. -/
  of_element : ∀ element, b.element = some element → ∃ mark,
    (b.flags = 0x05#8 ∧ mark = "[]" ∨ b.flags = 0x08#8 ∧ mark = "&") ∧
      b.name = element.name ++ mark ∧ b.typeCode = .object ∧
      (b.declaringType = none → b.nameSpace = element.nameSpace)

/-- A type under a name is begun without an element. -/
theorem coherent_named {nameSpace name : String} {flags : BitVec 8} {typeCode : TypeCode}
    (h : flags ∈ [0x01#8, 0x10#8, 0x20#8, 0x22#8]) :
    (named nameSpace name flags typeCode).Coherent where
  flags_mem := List.mem_append_left [0x05#8, 0x08#8] h
  element_iff := by
    constructor
    · intro helement
      cases helement
    · rintro (rfl | rfl) <;> simp at h
  of_element := fun _ helement => by cases helement

/-- A wrapper is begun in the namespace of its element, with the mark that its flags stand for. -/
theorem coherent_wrapping {element : Descriptor} {mark : String} {flags : BitVec 8}
    (h : flags = 0x05#8 ∧ mark = "[]" ∨ flags = 0x08#8 ∧ mark = "&") :
    (wrapping element mark flags).Coherent where
  flags_mem := by rcases h with ⟨rfl, -⟩ | ⟨rfl, -⟩ <;> simp [wrapping]
  element_iff := iff_of_true rfl (h.imp And.left And.left)
  of_element := fun inner helement => by
    cases helement
    exact ⟨mark, h, rfl, rfl, fun _ => rfl⟩

/-- Every builder is coherent when it is begun. -/
theorem Begun.coherent (h : start.Begun known) : start.Coherent := by
  cases h with
  | classType | rootObject | rootValue => exact coherent_named (by decide)
  | interfaceType => exact coherent_named (by decide)
  | structureType | void => exact coherent_named (by decide)
  | enumType => exact coherent_named (by decide)
  | builtIn code => cases code <;> exact coherent_named (by decide)
  | array => exact coherent_wrapping (.inl ⟨by decide, rfl⟩)
  | byRef => exact coherent_wrapping (.inr ⟨by decide, rfl⟩)

/-- A coherent builder stays so. -/
theorem GrownFrom.coherent (h : b.GrownFrom known start) (hstart : start.Coherent) :
    b.Coherent := by
  induction h with
  | refl => exact hstart
  | inside _ _ ih =>
    refine ⟨(ih hstart).flags_mem, (ih hstart).element_iff, fun element helement => ?_⟩
    obtain ⟨mark, hmark, hname, hcode, -⟩ := (ih hstart).of_element element helement
    exact ⟨mark, hmark, hname, hcode, nofun⟩
  | attach _ _ ih => exact ⟨(ih hstart).flags_mem, (ih hstart).element_iff, (ih hstart).of_element⟩

/-- Nestings and attributes leave alone what is set when a builder is begun, except its
namespace. -/
theorem GrownFrom.kept (h : b.GrownFrom known start) : b.name = start.name ∧
    b.flags = start.flags ∧ b.typeCode = start.typeCode ∧ b.element = start.element := by
  induction h with
  | refl => exact ⟨rfl, rfl, rfl, rfl⟩
  | inside _ _ ih => exact ih
  | attach _ _ ih => exact ih

/-- A wrapper is begun around a known descriptor. -/
theorem Begun.known_of_element (h : start.Begun known) {element : Descriptor}
    (helement : start.element = some element) : known element := by
  cases h with
  | array h | byRef h => cases helement; exact h
  | builtIn code => cases code <;> cases helement
  | _ => cases helement

end Builder

/-- Of the flags that occur, one combination each has the flag of an array, that of a reference and
that of an enumeration. -/
theorem TypeFlag.isIn_iff {flags : BitVec 8}
    (h : flags ∈ [0x01#8, 0x10#8, 0x20#8, 0x22#8, 0x05#8, 0x08#8]) :
    (arrayType.isIn flags = true ↔ flags = 0x05#8) ∧
      (byRefType.isIn flags = true ↔ flags = 0x08#8) ∧
      (enumType.isIn flags = true ↔ flags = 0x22#8) := by
  revert flags
  decide

/-! ## Building -/

namespace Builder

variable {known : Descriptor → Prop} {start b : Builder} {d : Descriptor}

/-- What is built has the fields of its builder, which has no defect. -/
theorem eq_of_build (h : b.build = some (.ok d)) :
    b.defect? = none ∧ ∃ fullName, b.fullName? = some fullName ∧ d = b.finish fullName := by
  unfold build at h
  split at h
  · cases h
  · rename_i hdefect
    obtain ⟨fullName, hname, heq⟩ := Option.map_eq_some_iff.mp h
    exact ⟨hdefect, fullName, hname, (Except.ok.inj heq).symm⟩

/-- The simple name of a wrapper can be cut where that of its element ends, and the mark is left. -/
theorem Coherent.fullName?_of_element (h : b.Coherent) {element : Descriptor}
    (helement : b.element = some element) (hnested : b.declaringType = none) : ∃ mark,
      (b.flags = 0x05#8 ∧ mark = "[]" ∨ b.flags = 0x08#8 ∧ mark = "&") ∧
        b.name = element.name ++ mark ∧ b.fullName? = some (element.fullName ++ mark) := by
  obtain ⟨mark, hmark, hname, -, -⟩ := h.of_element element helement
  refine ⟨mark, hmark, hname, ?_⟩
  simp only [fullName?, hnested, helement, hname, Text.fromByte?_append, Option.map_some]

/-- A coherent builder has a full name. -/
theorem Coherent.exists_fullName? (h : b.Coherent) : ∃ fullName, b.fullName? = some fullName := by
  cases hnested : b.declaringType with
  | some outer => exact ⟨outer ++ "+" ++ b.name, by rw [fullName?, hnested]⟩
  | none =>
    cases helement : b.element with
    | some element =>
      obtain ⟨mark, -, -, hfull⟩ := h.fullName?_of_element helement hnested
      exact ⟨_, hfull⟩
    | none => exact ⟨_, by rw [fullName?, hnested, helement]⟩

/-- The full name ends with the simple name if that of the element does. -/
theorem Coherent.exists_fullName_eq_append (h : b.Coherent) {fullName : String}
    (hname : b.fullName? = some fullName)
    (helements : ∀ element, b.element = some element →
      ∃ before, element.fullName = before ++ element.name) :
    ∃ before, fullName = before ++ b.name := by
  cases hnested : b.declaringType with
  | some outer =>
    rw [fullName?, hnested] at hname
    exact ⟨_, (Option.some.inj hname).symm⟩
  | none =>
    cases helement : b.element with
    | some element =>
      obtain ⟨mark, -, hwrapper, hfull⟩ := h.fullName?_of_element helement hnested
      obtain ⟨before, hbefore⟩ := helements element helement
      rw [hfull] at hname
      -- Both names of the element are continued by the same mark.
      exact ⟨before, by rw [← Option.some.inj hname, hbefore, hwrapper, String.append_assoc]⟩
    | none =>
      rw [fullName?, hnested, helement] at hname
      rw [← Option.some.inj hname]
      split
      · exact ⟨"", String.empty_append.symm⟩
      · exact ⟨_, rfl⟩

/-- A defect that is found is there. -/
theorem hasDefect_of_defect? {x : Defect} (h : b.defect? = some x) : b.HasDefect x := by
  unfold defect? at h
  split at h
  · rename_i hname
    cases h
    exact .emptyName hname
  · split at h
    · rename_i hnested
      cases h
      exact .nestedWrapper hnested.1 hnested.2
    · split at h
      · rename_i henum
        cases h
        exact .nonIntegerEnumeration henum.1 fun hcode => henum.2 (TypeCode.isInteger_iff.mp hcode)
      · cases h

/-- If none is found, there is none. -/
theorem not_hasDefect_of_defect? (h : b.defect? = none) (x : Defect) : ¬ b.HasDefect x := by
  unfold defect? at h
  split at h
  · cases h
  · rename_i hname
    split at h
    · cases h
    · rename_i hnested
      split at h
      · cases h
      · rename_i henum
        rintro (hempty | ⟨helement, houter⟩ | ⟨hflag, hcode⟩)
        · exact hname hempty
        · exact hnested ⟨helement, houter⟩
        · exact henum ⟨hflag, fun hkind => hcode (TypeCode.isInteger_iff.mpr hkind)⟩

/-- The lack of a name is found before any other defect. -/
theorem HasDefect.defect?_eq (h : b.HasDefect .emptyName) : b.defect? = some .emptyName := by
  cases h with
  | emptyName hname => rw [defect?, if_pos hname]

/-- Besides the lack of a name, a builder has one defect at most: an enumeration has no element, so
it is no wrapper. -/
theorem Coherent.hasDefect_unique (h : b.Coherent) {x y : Defect} (hx : b.HasDefect x)
    (hy : b.HasDefect y) (hempty : ¬ b.HasDefect .emptyName) : x = y := by
  have hapart (helement : b.element.isSome = true) : ¬ TypeFlag.enumType.isIn b.flags = true := by
    rw [(TypeFlag.isIn_iff h.flags_mem).2.2]
    rcases h.element_iff.mp helement with hflags | hflags <;> rw [hflags] <;> decide
  cases hx with
  | emptyName hname => exact absurd (.emptyName hname) hempty
  | nestedWrapper helement =>
    cases hy with
    | emptyName hname => exact absurd (.emptyName hname) hempty
    | nestedWrapper => rfl
    | nonIntegerEnumeration henum => exact absurd henum (hapart helement)
  | nonIntegerEnumeration henum =>
    cases hy with
    | emptyName hname => exact absurd (.emptyName hname) hempty
    | nestedWrapper helement => exact absurd henum (hapart helement)
    | nonIntegerEnumeration => rfl

/-- The first defect of a builder is one that it has, and the lack of a name comes first. -/
theorem Coherent.defect?_eq_some_iff (h : b.Coherent) {x : Defect} :
    b.defect? = some x ↔ b.HasDefect x ∧ (b.HasDefect .emptyName → x = .emptyName) := by
  constructor
  · intro hfound
    refine ⟨hasDefect_of_defect? hfound, fun hempty => ?_⟩
    exact Option.some.inj (hfound.symm.trans hempty.defect?_eq)
  · rintro ⟨hx, hfirst⟩
    by_cases hempty : b.HasDefect .emptyName
    · rw [hfirst hempty, hempty.defect?_eq]
    · cases hfound : b.defect? with
      | none => exact absurd hx (not_hasDefect_of_defect? hfound x)
      | some y => rw [h.hasDefect_unique (hasDefect_of_defect? hfound) hx hempty]

/-- Building a coherent builder never fails to give a descriptor or a defect. -/
theorem Coherent.build_ne_none (h : b.Coherent) : b.build ≠ none := by
  obtain ⟨fullName, hname⟩ := h.exists_fullName?
  unfold build
  rw [hname]
  cases b.defect? <;> simp

/-- A builder with a defect builds nothing. -/
theorem build_of_defect {x : Defect} (h : b.defect? = some x) : b.build = some (.error x) := by
  rw [build, h]

/-- A builder without a defect builds the descriptor with its full name. -/
theorem build_of_fullName? {fullName : String} (hdefect : b.defect? = none)
    (hname : b.fullName? = some fullName) : b.build = some (.ok (b.finish fullName)) := by
  rw [build, hdefect, hname, Option.map_some]

/-- A coherent builder is refused exactly for the first of its defects. -/
theorem Coherent.build_eq_error_iff (h : b.Coherent) {x : Defect} :
    b.build = some (.error x) ↔ b.HasDefect x ∧ (b.HasDefect .emptyName → x = .emptyName) := by
  rw [← h.defect?_eq_some_iff]
  unfold build
  cases b.defect? with
  | some y => simp
  | none => cases b.fullName? <;> simp

/-- A coherent builder is refused exactly if it has a defect. -/
theorem Coherent.exists_build_eq_error_iff (h : b.Coherent) :
    (∃ x, b.build = some (.error x)) ↔ ∃ x, b.HasDefect x := by
  constructor
  · rintro ⟨x, hx⟩
    exact ⟨x, (h.build_eq_error_iff.mp hx).1⟩
  · rintro ⟨x, hx⟩
    cases hfound : b.defect? with
    | none => exact absurd hx (not_hasDefect_of_defect? hfound x)
    | some y => exact ⟨y, build_of_defect hfound⟩

end Builder

/-! ## Built descriptors -/

namespace Descriptor

variable {d : Descriptor}

/-- The flag of a reference decides before everything else. -/
theorem category_of_byRef {element : Descriptor} (hflags : d.flags = 0x08#8)
    (helement : d.element = some element) : d.category = .byRef element := by
  have hbyRef : d.has .byRefType = true := by rw [has, hflags]; decide
  rw [category, hbyRef, helement]

/-- The flag of an array decides, as it does not come with that of a reference or an enumeration. -/
theorem category_of_array {element : Descriptor} (hflags : d.flags = 0x05#8)
    (helement : d.element = some element) : d.category = .array element := by
  have hbyRef : d.has .byRefType = false := by rw [has, hflags]; decide
  have henum : d.has .enumType = false := by rw [has, hflags]; decide
  have harray : d.has .arrayType = true := by rw [has, hflags]; decide
  rw [category, hbyRef, henum, harray, helement]
  rfl

/-- The flag of an enumeration decides, whatever the code is. -/
theorem category_of_enum (hflags : d.flags = 0x22#8) : d.category = .declared .enumeration := by
  have hbyRef : d.has .byRefType = false := by rw [has, hflags]; decide
  have henum : d.has .enumType = true := by rw [has, hflags]; decide
  rw [category, hbyRef, henum]
  rfl

/-- The code decides about a class, an interface or a value. -/
theorem category_of_plain (h : d.flags = 0x01#8 ∨ d.flags = 0x10#8 ∨ d.flags = 0x20#8) :
    d.category = .declared d.nature := by
  have hplain : d.has .byRefType = false ∧ d.has .enumType = false ∧ d.has .arrayType = false := by
    unfold has
    rcases h with hflags | hflags | hflags <;> rw [hflags] <;> decide
  rw [category, hplain.1, hplain.2.1, hplain.2.2]
  rfl

/-- A code that decides a nature decides that of the descriptor. -/
theorem nature_of_typeCode {nature : Nature} (h : d.typeCode.nature? = some nature) :
    d.nature = nature := by
  unfold Descriptor.nature
  cases hcode : d.typeCode with
  | object => rw [hcode] at h; cases h
  | _ => rw [hcode] at h; cases h; rfl

/-- A descriptor whose flags come with an element where they need one is put into its category by
what decides it. -/
theorem decidedCategory?_eq (hbyRef : d.has .byRefType = true → d.element.isSome = true)
    (harray : d.has .arrayType = true → d.element.isSome = true) :
    d.decidedCategory? = some d.category := by
  -- A code without a nature of its own is that of the root object.
  have hnature : (if d.typeCode = .object then
      some (Category.declared (.ofName d.nameSpace d.name)) else
        d.typeCode.nature?.map .declared) = some (.declared d.nature) := by
    unfold nature
    cases d.typeCode <;> rfl
  unfold decidedCategory? category
  cases hflag : d.has .byRefType with
  | true =>
    obtain ⟨element, helement⟩ := Option.isSome_iff_exists.mp (hbyRef hflag)
    rw [helement]
    rfl
  | false =>
    cases henum : d.has .enumType with
    | true => rfl
    | false =>
      cases hmark : d.has .arrayType with
      | true =>
        obtain ⟨element, helement⟩ := Option.isSome_iff_exists.mp (harray hmark)
        rw [helement]
        rfl
      | false => exact hnature

/-- The full name of a built descriptor ends with its simple name. -/
theorem Built.exists_fullName_eq_append (h : d.Built) :
    ∃ before, d.fullName = before ++ d.name := by
  refine Built.induct (p := fun d => ∃ before, d.fullName = before ++ d.name) ?_ h
  intro start b d hstart hgrown hbuild
  obtain ⟨-, fullName, hname, rfl⟩ := Builder.eq_of_build hbuild
  refine (hgrown.coherent hstart.coherent).exists_fullName_eq_append hname fun element h => ?_
  exact hstart.known_of_element (hgrown.kept.2.2.2 ▸ h)

/-- The fields of a built descriptor agree with one another. -/
theorem Built.consistent (h : d.Built) : d.Consistent := by
  have hsuffix := h.exists_fullName_eq_append
  obtain @⟨start, b, _, hstart, hgrown, hbuild⟩ := h
  have hb := hgrown.coherent hstart.coherent
  obtain ⟨hdefect, fullName, hname, rfl⟩ := Builder.eq_of_build hbuild
  have hnone := Builder.not_hasDefect_of_defect? hdefect
  have harray : (b.finish fullName).has .arrayType = true ↔ b.flags = 0x05#8 :=
    (TypeFlag.isIn_iff hb.flags_mem).1
  have hbyRef : (b.finish fullName).has .byRefType = true ↔ b.flags = 0x08#8 :=
    (TypeFlag.isIn_iff hb.flags_mem).2.1
  have helement : (b.finish fullName).element.isSome = true ↔
      (b.finish fullName).has .arrayType = true ∨ (b.finish fullName).has .byRefType = true := by
    rw [harray, hbyRef]
    exact hb.element_iff
  refine ⟨hb.flags_mem, helement, fun h => hnone _ (.emptyName h), hsuffix, ?_, ?_, ?_⟩
  · intro element h
    have hsome : b.element.isSome = true := Option.isSome_of_eq_some h
    have hnested : b.declaringType = none :=
      Option.not_isSome_iff_eq_none.mp fun houter => hnone _ (.nestedWrapper hsome houter)
    obtain ⟨mark, hmark, hwrapper, hfull⟩ := hb.fullName?_of_element h hnested
    obtain ⟨-, -, -, hcode, hspace⟩ := hb.of_element element h
    rw [harray, hbyRef]
    exact ⟨mark, hmark, hwrapper, Option.some.inj (hname.symm.trans hfull), hspace hnested, hcode⟩
  · intro henum
    exact Classical.not_not.mp fun hcode => hnone _ (.nonIntegerEnumeration henum hcode)
  · exact decidedCategory?_eq (fun h => helement.mpr (.inr h)) fun h => helement.mpr (.inl h)

end Descriptor

namespace Builder

variable {known : Descriptor → Prop} {start b : Builder} {d : Descriptor}

/-- What is built has the flags, the code and the element that its builder was begun with. -/
theorem GrownFrom.built_kept (h : b.GrownFrom known start) (hbuild : b.build = some (.ok d)) :
    d.flags = start.flags ∧ d.typeCode = start.typeCode ∧ d.element = start.element := by
  obtain ⟨-, fullName, -, rfl⟩ := eq_of_build hbuild
  exact h.kept.2

/-- What is built from the runtime's own type with a code has the nature that the code decides, also
if it is nested in a type of another namespace. -/
theorem category_of_builtIn {code : TypeCode} {nature : Nature}
    (hcode : code.nature? = some nature) (h : b.GrownFrom known (.builtIn code))
    (hbuild : b.build = some (.ok d)) : d.category = .declared nature := by
  obtain ⟨hflags, htypeCode, -⟩ := h.built_kept hbuild
  have hplain : (builtIn code).flags = 0x01#8 ∨ (builtIn code).flags = 0x10#8 ∨
      (builtIn code).flags = 0x20#8 := by
    cases code with
    | string | object => exact .inl rfl
    | _ => exact .inr (.inr rfl)
  have hkept : (builtIn code).typeCode = code := by
    cases code <;> rfl
  rw [Descriptor.category_of_plain (hflags ▸ hplain),
    Descriptor.nature_of_typeCode (htypeCode ▸ hkept.symm ▸ hcode)]

end Builder

/-- The fields of every descriptor that is built agree, whatever it was begun as, nested in, given
as attributes, and wrapped in. Building never fails to give a descriptor or a defect, and it gives a
defect exactly if the builder has one, the lack of a name before any other. What the builder was
begun as decides the category, also if it is nested. -/
theorem Descriptor.builds_consistent :
    (∀ d : Descriptor, d.Built → d.Consistent) ∧
      ∀ start b : Builder, start.Begun Built → b.GrownFrom Built start →
        b.build ≠ none ∧
        ((∃ x, b.build = some (.error x)) ↔ ∃ x, b.HasDefect x) ∧
        (∀ x, b.build = some (.error x) ↔
          b.HasDefect x ∧ (b.HasDefect .emptyName → x = .emptyName)) ∧
        ∀ d : Descriptor, b.build = some (.ok d) →
          (∀ element, start = .byRef element → d.category = .byRef element) ∧
          (∀ element, start = .array element → d.category = .array element) ∧
          (∀ nameSpace name underlying, start = .enumType nameSpace name underlying →
            d.category = .declared .enumeration) ∧
          ∀ code, start = .builtIn code → code ≠ .object →
            ∃ nature, code.nature? = some nature ∧ d.category = .declared nature := by
  refine ⟨fun d h => h.consistent, fun start b hstart hgrown => ?_⟩
  have hb := hgrown.coherent hstart.coherent
  refine ⟨hb.build_ne_none, hb.exists_build_eq_error_iff, fun x => hb.build_eq_error_iff,
    fun d hbuild => ?_⟩
  obtain ⟨hflags, -, helement⟩ := hgrown.built_kept hbuild
  refine ⟨?_, ?_, ?_, ?_⟩
  · rintro element rfl
    exact category_of_byRef hflags helement
  · rintro element rfl
    exact category_of_array hflags helement
  · rintro nameSpace name underlying rfl
    exact category_of_enum hflags
  · rintro code rfl hcode
    obtain ⟨nature, hnature⟩ : ∃ nature, code.nature? = some nature := by
      cases code with
      | object => exact absurd rfl hcode
      | _ => exact ⟨_, rfl⟩
    exact ⟨nature, hnature, Builder.category_of_builtIn hnature hgrown hbuild⟩

namespace Descriptor

/-- A class with an attribute. -/
def widgets : Descriptor :=
  ⟨"App.Widgets", "Widgets", "App", 0x01#8, none, .object, [⟨"System.ObsoleteAttribute", [], []⟩]⟩

/-- An enumeration nested in the class. -/
def mode : Descriptor :=
  ⟨"App.Widgets+Mode", "Mode", "App", 0x22#8, none, .scalar .int32, []⟩

/-- An array of the enumeration. -/
def modes : Descriptor :=
  ⟨"App.Widgets+Mode[]", "Mode[]", "App", 0x05#8, some mode, .object, []⟩

/-- A reference to the array. -/
def modesReference : Descriptor :=
  ⟨"App.Widgets+Mode[]&", "Mode[]&", "App", 0x08#8, some modes, .object, []⟩

/-- The class can be built. -/
theorem widgets_built : widgets.Built :=
  .build (.classType "App" "Widgets") (.attach (.refl _) ⟨"System.ObsoleteAttribute", [], []⟩) rfl

/-- The enumeration grows from one that is begun in no namespace. -/
theorem mode_grown : ((Builder.enumType "" "Mode" (.scalar .int32)).inside widgets).GrownFrom Built
    (.enumType "" "Mode" (.scalar .int32)) :=
  .inside (.refl _) widgets_built

/-- The array can be built. -/
theorem modes_built : modes.Built :=
  have hmode : mode.Built := .build (.enumType "" "Mode" (.scalar .int32)) mode_grown rfl
  .build (.array hmode) (.refl _) rfl

/-- The reference can be built. -/
theorem modesReference_built : modesReference.Built :=
  .build (.byRef modes_built) (.refl _) rfl

/-- The fields of the reference agree. It is built as a reference to the array, and the enumeration
is built as one although it is nested. -/
theorem modesReference_consistent :
    modesReference.Built ∧ modesReference.Consistent ∧
      (Builder.byRef modes).build = some (.ok modesReference) ∧
      modesReference.category = .byRef modes ∧
      ((Builder.enumType "" "Mode" (.scalar .int32)).inside widgets).build = some (.ok mode) ∧
      mode.category = .declared .enumeration :=
  have hreference := builds_consistent.2 _ _ (.byRef modes_built) (.refl _)
  have hmode := builds_consistent.2 _ _ (.enumType "" "Mode" (.scalar .int32)) mode_grown
  ⟨modesReference_built, builds_consistent.1 _ modesReference_built, rfl,
    (hreference.2.2.2 modesReference rfl).1 modes rfl, rfl,
    (hmode.2.2.2 mode rfl).2.2.1 _ _ _ rfl⟩

end Descriptor

end BridgeNames
