import BridgeNames.Parameter.Declaration
import BridgeNames.Proofs.Spelling.ObjectiveC
import BridgeNames.Spelling.Unboxing

/-!
# Every naming operation is steady

No operation looks at what has been said before: spelling a type, unboxing, and naming and declaring
parameters are put together from steady operations, so each of them gives one answer and adds one
list of diagnostics, on whatever journal it runs. A declaration reads the catalog, and of the
catalog only which types are bound (`render_eq_of_isBound`).
-/

namespace BridgeNames

open Naming

variable (c : Conventions)

/-- Spelling a type in Objective-C is steady. -/
theorem ObjectiveC.spell_steady (t : ManagedType) : Steady (ObjectiveC.spell c t) := by
  obtain ⟨r, ds, rs, h⟩ := spell_reports c t
  exact h.steady

/-- Spelling a type in either vocabulary is steady. -/
theorem spell_steady (t : ManagedType) (v : Vocabulary) : Steady (spell c t v) := by
  cases v with
  | objectiveC => exact ObjectiveC.spell_steady c t
  | mono => exact (silent_ofExcept (Mono.spell t)).steady

/-- Finding the identifier for an argument is steady. -/
theorem argumentIdentifier_steady (t : ManagedType) : Steady (argumentIdentifier c t) := by
  match t with
  | .wrapped .array _ _ => exact (reports_pure _).steady
  | .wrapped .byRef _ _ => exact (reports_pure _).steady
  | .declared d =>
    exact (ObjectiveC.spell_steady c _).bind fun s => (reports_pure _).steady

/-- Finding the method that unboxes a type is steady. -/
theorem unboxing_steady (t : ManagedType) : Steady (unboxing c t) := by
  unfold unboxing
  split
  · exact (reports_pure _).steady
  · exact (ObjectiveC.spell_steady c _).bind fun s => (reports_pure _).steady

namespace Parameter

/-- Outlining the parameters of a list is steady. -/
theorem outlines_steady (ps : List Parameter) : Steady (outlines c ps) := by
  induction ps with
  | nil => exact (reports_pure _).steady
  | cons p rest ih =>
    unfold outlines outline
    exact ((ObjectiveC.spell_steady c p.type).bind fun s => (reports_pure _).steady).bind fun o =>
      ih.bind fun os => (reports_pure _).steady

/-- Naming a parameter is steady. -/
theorem identifier_steady (p : Parameter) (signature : List Parameter) :
    Steady (p.identifier c signature) := by
  unfold identifier
  split
  · refine (ObjectiveC.spell_steady c p.type).bind fun s => ?_
    refine (outlines_steady c signature).quietly.steady.bind fun os => ?_
    exact (reports_lift fun _ => rfl).steady.bind fun _ => (reports_pure _).steady
  · exact (reports_pure _).steady

variable (catalog : Catalog)

/-- Spelling the type of a parameter in a declaration is steady. -/
theorem declaredType_steady (p : Parameter) : Steady (p.declaredType c catalog) :=
  (ObjectiveC.spell_steady c p.type).bind fun _ => (reports_pure _).steady

/-- Declaring a parameter is steady. -/
theorem declaration_steady (p : Parameter) (signature : List Parameter) :
    Steady (p.declaration c catalog signature) := by
  refine (declaredType_steady c catalog p).bind fun type => ?_
  exact (identifier_steady c p signature).quietly.steady.bind fun name => (reports_pure _).steady

end Parameter

namespace Method

variable (catalog : Catalog)

/-- Declaring the parameters of a list is steady. -/
theorem declarations_steady (signature ps : List Parameter) :
    Steady (declarations c catalog signature ps) := by
  induction ps with
  | nil => exact (reports_pure _).steady
  | cons p rest ih =>
    exact (Parameter.declaration_steady c catalog p signature).bind fun d =>
      ih.bind fun ds => (reports_pure _).steady

/-- Rendering a method is steady. -/
theorem render_steady (m : Method) : Steady (m.render c catalog) := by
  refine Steady.tryCatch ?_ fun e => ?_
  · exact (declarations_steady c catalog _ _).bind fun ds => (reports_pure _).steady
  · exact (reports_lift fun _ => rfl).steady.bind fun _ => (reports_throw e).steady

end Method

variable {c} {catalog other : Catalog}

/-- Of the catalog, the type of a parameter in a declaration depends only on what is bound. -/
theorem Parameter.declaredType_eq_of_isBound (h : ∀ t, catalog.isBound t = other.isBound t)
    (p : Parameter) : p.declaredType c catalog = p.declaredType c other := by
  unfold declaredType
  rw [h p.type]

/-- The same holds of the declaration of a parameter. -/
theorem Parameter.declaration_eq_of_isBound (h : ∀ t, catalog.isBound t = other.isBound t)
    (p : Parameter) (signature : List Parameter) :
    p.declaration c catalog signature = p.declaration c other signature := by
  unfold declaration
  rw [p.declaredType_eq_of_isBound h]

/-- The same holds of the rendering of a method. -/
theorem Method.render_eq_of_isBound (h : ∀ t, catalog.isBound t = other.isBound t) (m : Method) :
    m.render c catalog = m.render c other := by
  have hlist (signature ps : List Parameter) :
      declarations c catalog signature ps = declarations c other signature ps := by
    induction ps with
    | nil => rfl
    | cons p rest ih =>
      unfold declarations
      rw [p.declaration_eq_of_isBound h, ih]
  unfold render
  rw [hlist]

end BridgeNames
