import BridgeNames.ManagedType.Basic

/-!
# Chains of wrappers

A type is a declared type with a chain of wrappers around it. Its names are those of the declared
type with the marks of the wrappers behind them, the innermost mark first (`name_eq`,
`fullName_eq`). So the simple name and the full name of a type end alike, however often it is
wrapped (`exists_fullName_eq_append`).
-/

namespace BridgeNames.ManagedType

/-- The marks of all wrappers, the innermost first. -/
def marks (t : ManagedType) : String :=
  String.join (t.wrappers.reverse.map Wrapper.mark)

/-- The type and the types inside it, the outermost first. -/
def layers : ManagedType → List ManagedType
  | .declared d => [.declared d]
  | .wrapped wrapper element attributes => .wrapped wrapper element attributes :: element.layers

/-- A declared type has no marks. -/
@[simp]
theorem marks_declared (d : Declared) : (declared d).marks = "" := rfl

/-- A wrapper puts its mark behind those of its element. -/
@[simp]
theorem marks_wrapped (wrapper : Wrapper) (element : ManagedType) (attributes : List Attribute) :
    (wrapped wrapper element attributes).marks = element.marks ++ wrapper.mark := by
  simp [marks, wrappers, String.join]

/-- The simple name is that of the declared type with all marks behind it. -/
theorem name_eq (t : ManagedType) : t.name = t.base.name ++ t.marks := by
  induction t with
  | declared d => simp [name, base]
  | wrapped wrapper element attributes ih => rw [name, ih, marks_wrapped, base, String.append_assoc]

/-- The full name is that of the declared type with all marks behind it. -/
theorem fullName_eq (t : ManagedType) : t.fullName = t.base.fullName ++ t.marks := by
  induction t with
  | declared d => simp [fullName, base]
  | wrapped wrapper element attributes ih =>
    rw [fullName, ih, marks_wrapped, base, String.append_assoc]

/-- The full name ends with the simple name. -/
theorem exists_fullName_eq_append (t : ManagedType) : ∃ before, t.fullName = before ++ t.name := by
  have hbase : ∃ before, t.base.fullName = before ++ t.base.name := by
    unfold Declared.fullName
    split
    · exact ⟨_, rfl⟩
    · split
      · exact ⟨"", String.empty_append.symm⟩
      · exact ⟨_, rfl⟩
  -- The same marks stand behind both names of the declared type.
  obtain ⟨before, hbefore⟩ := hbase
  exact ⟨before, by rw [t.fullName_eq, hbefore, t.name_eq, String.append_assoc]⟩

end BridgeNames.ManagedType
