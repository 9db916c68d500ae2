import BridgeNames.Proofs.Descriptor.Built
import BridgeNames.Proofs.ManagedType.Equality

/-!
# What descriptors stand for

A type has a descriptor, in which everything that follows from the type is written out, and a draft
has a builder in the same way. Nesting a draft and attaching to it do the same to its builder
(`Draft.builder_inside`, `Draft.builder_attach`), and its builder builds the descriptor of what the
draft builds, or finds the same defect (`Draft.GrownFrom.builder_build`). So whatever is done to
builders can be done to drafts and the other way round: the descriptors that can be built are those
of the types that can be built (`Descriptor.built_iff`).

No two types have one descriptor (`ManagedType.descriptor_injective`), and a type and its descriptor
are put into one category (`ManagedType.descriptor_category`). Nothing is lost, then, if types are
looked at instead of descriptors.
-/

namespace BridgeNames

/-- The bits of some flags. -/
def TypeFlag.masks (flags : List TypeFlag) : BitVec 8 :=
  flags.foldr (fun flag rest => flag.mask ||| rest) 0#8

/-- The descriptor of a type. -/
def ManagedType.descriptor : ManagedType → Descriptor
  | .declared d =>
    { fullName := d.fullName
      name := d.name
      nameSpace := d.nameSpace
      flags := TypeFlag.masks d.form.flags
      element := none
      typeCode := d.form.typeCode
      attributes := d.attributes }
  | .wrapped wrapper element attributes =>
    { fullName := element.fullName ++ wrapper.mark
      name := element.name ++ wrapper.mark
      nameSpace := element.nameSpace
      flags := TypeFlag.masks wrapper.flags
      element := some element.descriptor
      typeCode := .object
      attributes := attributes }

/-- The category with descriptors in place of types. -/
def Category.described : Category → Descriptor.Category
  | .byRef element => .byRef element.descriptor
  | .array element => .array element.descriptor
  | .declared nature => .declared nature

/-- The builder of what a draft is about. -/
def Subject.builder : Subject → Builder
  | .named nameSpace name form =>
    .named nameSpace name (TypeFlag.masks form.flags) form.typeCode
  | .enumeration nameSpace name underlying => .enumType nameSpace name underlying
  | .wrapper w element => .wrapping element.descriptor w.mark (TypeFlag.masks w.flags)

/-- The builder of a draft. -/
def Draft.builder (d : Draft) : Builder :=
  { d.subject.builder with
    nameSpace := (d.surroundings.map Surroundings.nameSpace).getD d.subject.builder.nameSpace
    declaringType := d.surroundings.map Surroundings.fullName
    attributes := d.attributes }

/-! ## Types and their descriptors -/

namespace ManagedType

/-- A descriptor has the full name of its type. -/
@[simp]
theorem descriptor_fullName (t : ManagedType) : t.descriptor.fullName = t.fullName := by
  cases t <;> rfl

/-- A descriptor has the simple name of its type. -/
@[simp]
theorem descriptor_name (t : ManagedType) : t.descriptor.name = t.name := by
  cases t <;> rfl

/-- A descriptor is in the namespace of its type. -/
@[simp]
theorem descriptor_nameSpace (t : ManagedType) : t.descriptor.nameSpace = t.nameSpace := by
  cases t <;> rfl

/-- The flags of a descriptor are the bits of those of its type. -/
theorem descriptor_flags (t : ManagedType) : t.descriptor.flags = TypeFlag.masks t.flags := by
  cases t <;> rfl

/-- A descriptor has the flags of its type. -/
theorem descriptor_has (t : ManagedType) (flag : TypeFlag) : t.descriptor.has flag = t.is flag := by
  have hmem := t.flags_mem
  rw [Descriptor.has, descriptor_flags, is]
  generalize t.flags = flags at hmem
  cases flag <;> revert flags <;> decide

/-- A descriptor is put into the category of its type. -/
theorem descriptor_category (t : ManagedType) : t.descriptor.category = t.category.described := by
  cases t with
  | declared d =>
    obtain ⟨nameSpace, name, outer, form, attributes⟩ := d
    cases form with
    | enumeration kind => exact Descriptor.category_of_enum rfl
    | interface => exact Descriptor.category_of_plain (.inr (.inl rfl))
    | reference | string => exact Descriptor.category_of_plain (.inl rfl)
    | value | scalar kind | decimal => exact Descriptor.category_of_plain (.inr (.inr rfl))
  | wrapped wrapper element attributes =>
    cases wrapper with
    | array => exact Descriptor.category_of_array rfl rfl
    | byRef => exact Descriptor.category_of_byRef rfl rfl

/-- Types whose descriptors have the same flags have the same flags. -/
theorem flags_eq_of_descriptor {t u : ManagedType} (h : t.descriptor.flags = u.descriptor.flags) :
    t.flags = u.flags := by
  have ht := t.flags_mem
  have hu := u.flags_mem
  rw [descriptor_flags, descriptor_flags] at h
  generalize t.flags = flags at *
  generalize u.flags = others at *
  revert flags others
  decide

/-- No two types have one descriptor. -/
theorem descriptor_injective : Function.Injective descriptor := by
  intro t u h
  have hflags := flags_eq_of_descriptor (congrArg Descriptor.flags h)
  induction t generalizing u with
  | declared d =>
    cases u with
    | declared e =>
      have hfull : d.fullName = e.fullName := congrArg Descriptor.fullName h
      have hname : d.name = e.name := congrArg Descriptor.name h
      have houter : d.outer = e.outer := by
        rw [d.fullName_eq_qualifier, e.fullName_eq_qualifier, hname,
          String.append_left_inj] at hfull
        exact Declared.outer_eq_of_qualifier_eq hfull
      have hform : d.form = e.form :=
        Form.eq_of_flags_of_typeCode hflags (congrArg Descriptor.typeCode h)
      have hspace : d.nameSpace = e.nameSpace := congrArg Descriptor.nameSpace h
      have hattributes : d.attributes = e.attributes := congrArg Descriptor.attributes h
      cases d
      cases e
      simp_all
    | wrapped wrapper element attributes => cases congrArg Descriptor.element h
  | wrapped wrapper element attributes ih =>
    cases u with
    | declared e => cases congrArg Descriptor.element h
    | wrapped other inner others =>
      have hinner := Option.some.inj (congrArg Descriptor.element h)
      rw [Wrapper.eq_of_flags hflags, ih hinner (flags_eq_of_descriptor (congrArg _ hinner)),
        show attributes = others from congrArg Descriptor.attributes h]

end ManagedType

/-! ## Drafts and their builders -/

namespace Draft

variable {known : ManagedType → Prop} {start d : Draft}

/-- Nesting a draft nests its builder. -/
theorem builder_inside (d : Draft) (outer : ManagedType) :
    (d.inside outer).builder = d.builder.inside outer.descriptor := by
  simp [Draft.builder, inside, Builder.inside]

/-- Attaching to a draft attaches to its builder. -/
theorem builder_attach (d : Draft) (added : Attribute) :
    (d.attach added).builder = d.builder.attach added := rfl

/-- An array is begun alike as a draft and as a builder. -/
theorem builder_array (element : ManagedType) :
    (array element).builder = .array element.descriptor :=
  have hflags : TypeFlag.masks Wrapper.array.flags =
      TypeFlag.arrayType.mask ||| TypeFlag.classType.mask := by decide
  congrArg (Builder.wrapping element.descriptor "[]") hflags

/-- A reference is begun alike as a draft and as a builder. -/
theorem builder_byRef (element : ManagedType) :
    (byRef element).builder = .byRef element.descriptor := rfl

/-- The runtime's own types are begun alike as drafts and as builders. -/
theorem builder_builtIn (code : TypeCode) : (builtIn code).builder = .builtIn code := by
  cases code <;> rfl

/-- The builder of a draft is begun as the draft is, around descriptors of what that is begun
around. -/
theorem Begun.builder {p : Descriptor → Prop} (h : start.Begun known)
    (hknown : ∀ t, known t → p t.descriptor) : start.builder.Begun p := by
  cases h with
  | classType nameSpace name => exact .classType nameSpace name
  | interfaceType nameSpace name => exact .interfaceType nameSpace name
  | structureType nameSpace name => exact .structureType nameSpace name
  | enumType nameSpace name underlying => exact .enumType nameSpace name underlying
  | rootObject => exact .rootObject
  | rootValue => exact .rootValue
  | void => exact .void
  | builtIn code => exact builder_builtIn code ▸ .builtIn code
  | @array element h => exact builder_array element ▸ .array (hknown element h)
  | @byRef element h => exact builder_byRef element ▸ .byRef (hknown element h)

/-- The builder of a draft grows as the draft does. -/
theorem GrownFrom.builder {p : Descriptor → Prop} (h : d.GrownFrom known start)
    (hknown : ∀ t, known t → p t.descriptor) : d.builder.GrownFrom p start.builder := by
  induction h with
  | refl => exact .refl _
  | inside _ houter ih => exact builder_inside _ _ ▸ .inside ih (hknown _ houter)
  | attach _ added ih => exact .attach ih added

/-- A builder that is begun around descriptors is that of a draft that is begun around their
types. -/
theorem exists_begun {b : Builder} (h : b.Begun fun d => ∃ t, known t ∧ t.descriptor = d) :
    ∃ start : Draft, start.Begun known ∧ start.builder = b := by
  cases h with
  | classType nameSpace name => exact ⟨_, .classType nameSpace name, rfl⟩
  | interfaceType nameSpace name => exact ⟨_, .interfaceType nameSpace name, rfl⟩
  | structureType nameSpace name => exact ⟨_, .structureType nameSpace name, rfl⟩
  | enumType nameSpace name underlying => exact ⟨_, .enumType nameSpace name underlying, rfl⟩
  | rootObject => exact ⟨_, .rootObject, rfl⟩
  | rootValue => exact ⟨_, .rootValue, rfl⟩
  | void => exact ⟨_, .void, rfl⟩
  | builtIn code => exact ⟨_, .builtIn code, builder_builtIn code⟩
  | array h =>
    obtain ⟨element, hknown, rfl⟩ := h
    exact ⟨_, .array hknown, builder_array element⟩
  | byRef h =>
    obtain ⟨element, hknown, rfl⟩ := h
    exact ⟨_, .byRef hknown, builder_byRef element⟩

/-- What grows from the builder of a draft is the builder of what grows from the draft. -/
theorem exists_grownFrom {b : Builder}
    (h : b.GrownFrom (fun d => ∃ t, known t ∧ t.descriptor = d) start.builder) :
    ∃ d : Draft, d.GrownFrom known start ∧ d.builder = b := by
  generalize hstart : start.builder = first at h
  induction h with
  | refl => exact ⟨start, .refl start, hstart⟩
  | inside _ houter ih =>
    obtain ⟨d, hd, rfl⟩ := ih hstart
    obtain ⟨outer, hknown, rfl⟩ := houter
    exact ⟨d.inside outer, .inside hd hknown, builder_inside d outer⟩
  | attach _ added ih =>
    obtain ⟨d, hd, rfl⟩ := ih hstart
    exact ⟨d.attach added, .attach hd added, rfl⟩

/-- The builder of a draft of a declared type builds the descriptor of that type unless it has a
defect. -/
theorem builder_build_of_declared (d : Draft) (form : Form)
    (helement : d.subject.builder.element = none)
    (hflags : d.subject.builder.flags = TypeFlag.masks form.flags)
    (hcode : d.subject.builder.typeCode = form.typeCode) (hdefect : d.builder.defect? = none) :
    d.builder.build = some (.ok
      (d.declare d.subject.builder.nameSpace d.subject.builder.name form).descriptor) := by
  have hname : d.builder.fullName? =
      some (d.declare d.subject.builder.nameSpace d.subject.builder.name form).fullName := by
    cases hnested : d.surroundings <;>
      simp [Builder.fullName?, builder, hnested, helement, declare, ManagedType.fullName,
        Declared.fullName]
  rw [Builder.build_of_fullName? hdefect hname, Builder.finish]
  simp only [builder, helement, hflags, hcode]
  rfl

/-- The builder of a draft of an ordinary type builds what the draft builds. -/
theorem builder_build_of_named {nameSpace name : String} {form : Form}
    (hsubject : d.subject = .named nameSpace name form) (hform : ∀ kind, form ≠ .enumeration kind) :
    d.builder.build = some (d.build.map ManagedType.descriptor) := by
  have hplain : TypeFlag.enumType.isIn (TypeFlag.masks form.flags) = false := by
    cases form with
    | enumeration kind => exact absurd rfl (hform kind)
    | scalar kind =>
      show TypeFlag.enumType.isIn (TypeFlag.masks [.valueType]) = false
      decide
    | _ => decide
  have hdefect : d.builder.defect? = if name = "" then some .emptyName else none := by
    simp [Builder.defect?, builder, Subject.builder, hsubject, Builder.named, hplain]
  by_cases hname : name = ""
  · rw [if_pos hname] at hdefect
    simp [Builder.build_of_defect hdefect, build, hsubject, hname, Except.map]
  · rw [if_neg hname] at hdefect
    have hbuild := builder_build_of_declared d form (by rw [hsubject]; rfl)
      (by rw [hsubject]; rfl) (by rw [hsubject]; rfl) hdefect
    rw [hbuild, build, hsubject]
    simp [hname, Except.map, Subject.builder, Builder.named]

/-- The builder of a draft of an enumeration builds what the draft builds. -/
theorem builder_build_of_enumeration {nameSpace name : String} {underlying : TypeCode}
    (hsubject : d.subject = .enumeration nameSpace name underlying) :
    d.builder.build = some (d.build.map ManagedType.descriptor) := by
  have hflags : d.builder.flags = 0x22#8 := by rw [builder, hsubject]; rfl
  have henum : TypeFlag.enumType.isIn d.builder.flags = true := by rw [hflags]; decide
  have hbuilder : d.builder.name = name ∧ d.builder.element = none ∧
      d.builder.typeCode = underlying := by
    rw [builder, hsubject]
    exact ⟨rfl, rfl, rfl⟩
  obtain ⟨hname, helement, hcode⟩ := hbuilder
  by_cases hempty : name = ""
  · have hdefect : d.builder.defect? = some .emptyName := by
      rw [Builder.defect?, hname, if_pos hempty]
    simp [Builder.build_of_defect hdefect, build, hsubject, hempty, Except.map]
  · by_cases hinteger : underlying.IsInteger
    · have hdefect : d.builder.defect? = none := by
        rw [TypeCode.isInteger_iff] at hinteger
        simp [Builder.defect?, hname, hempty, helement, hcode, hinteger]
      obtain ⟨kind, rfl, hkind⟩ := hinteger
      have hbuild := builder_build_of_declared d (.enumeration kind) (by rw [hsubject]; rfl)
        (hflags.trans rfl) (by rw [hsubject]; rfl) hdefect
      rw [hbuild, build, hsubject]
      simp [hempty, hkind, Except.map, Subject.builder, Builder.enumType, Builder.named]
    · have hdefect : d.builder.defect? = some (.nonIntegerEnumeration name underlying) := by
        rw [TypeCode.isInteger_iff] at hinteger
        simp [Builder.defect?, hname, hempty, helement, hcode, henum, hinteger]
      rw [Builder.build_of_defect hdefect, build_of_not_isInteger hsubject hempty hinteger]
      rfl

/-- The builder of a draft of a wrapper builds what the draft builds. -/
theorem builder_build_of_wrapper {w : Wrapper} {element : ManagedType}
    (hsubject : d.subject = .wrapper w element) :
    d.builder.build = some (d.build.map ManagedType.descriptor) := by
  have hname : d.builder.name = element.name ++ w.mark := by
    rw [builder, hsubject, ← ManagedType.descriptor_name]
    rfl
  have hne : d.builder.name ≠ "" := by
    rw [hname]
    cases w <;> simp [Wrapper.mark]
  have helement : d.builder.element = some element.descriptor := by
    rw [builder, hsubject]
    rfl
  have hflags : d.builder.flags = TypeFlag.masks w.flags := by
    rw [builder, hsubject]
    rfl
  have henum : TypeFlag.enumType.isIn d.builder.flags = false := by
    rw [hflags]
    cases w <;> decide
  have houter : d.builder.declaringType = d.surroundings.map Surroundings.fullName := rfl
  rw [build, hsubject]
  cases hnested : d.surroundings with
  | some surroundings =>
    have hdefect : d.builder.defect? = some (.nestedWrapper (element.name ++ w.mark)) := by
      rw [Builder.defect?, if_neg hne, helement, houter, hnested, hname]
      rfl
    rw [Builder.build_of_defect hdefect]
    rfl
  | none =>
    have hdefect : d.builder.defect? = none := by
      simp [Builder.defect?, hne, houter, hnested, henum]
    have hfull : d.builder.fullName? = some (element.fullName ++ w.mark) := by
      simp [Builder.fullName?, houter, hnested, helement, hname, Text.fromByte?_append]
    have hspace : d.builder.nameSpace = element.nameSpace := by
      rw [builder, hsubject, hnested, ← ManagedType.descriptor_nameSpace]
      rfl
    have hcode : d.builder.typeCode = .object := by
      rw [builder, hsubject]
      rfl
    rw [Builder.build_of_fullName? hdefect hfull, Builder.finish, hname, hspace, hflags, helement,
      hcode]
    rfl

/-- The builder of a draft that can come about builds the descriptor of what the draft builds, or
finds the same defect. -/
theorem GrownFrom.builder_build (h : d.GrownFrom known start) (hstart : start.Begun known) :
    d.builder.build = some (d.build.map ManagedType.descriptor) := by
  cases hsubject : d.subject with
  | named nameSpace name form =>
    exact builder_build_of_named hsubject (hstart.form_ne (h.subject_eq.symm.trans hsubject))
  | enumeration nameSpace name underlying => exact builder_build_of_enumeration hsubject
  | wrapper w element => exact builder_build_of_wrapper hsubject

end Draft

/-- The descriptor of a built type can be built. -/
theorem ManagedType.Built.descriptor_built {t : ManagedType} (h : t.Built) :
    t.descriptor.Built := by
  refine Built.induct (p := fun t => t.descriptor.Built) (fun hstart hgrown hbuild => ?_) h
  refine .build (hstart.builder fun _ h => h) (hgrown.builder fun _ h => h) ?_
  rw [hgrown.builder_build hstart, hbuild]
  rfl

/-- A descriptor can be built exactly if it is that of a type that can be built. -/
theorem Descriptor.built_iff {d : Descriptor} :
    d.Built ↔ ∃ t : ManagedType, t.Built ∧ t.descriptor = d := by
  constructor
  · intro h
    refine Built.induct (p := fun d => ∃ t : ManagedType, t.Built ∧ t.descriptor = d) ?_ h
    intro start b d hstart hgrown hbuild
    obtain ⟨first, hfirst, rfl⟩ := Draft.exists_begun hstart
    obtain ⟨draft, hdraft, rfl⟩ := Draft.exists_grownFrom hgrown
    rw [hdraft.builder_build hfirst] at hbuild
    cases ht : draft.build with
    | error x => rw [ht] at hbuild; cases hbuild
    | ok t =>
      rw [ht] at hbuild
      exact ⟨t, .build hfirst hdraft ht, Except.ok.inj (Option.some.inj hbuild)⟩
  · rintro ⟨t, ht, rfl⟩
    exact ht.descriptor_built

end BridgeNames
