import BridgeNames.Catalog
import BridgeNames.Proofs.Text.ByteOrder
import Mathlib.Data.List.Induction
import Mathlib.Data.List.Nodup

/-!
# What a catalog answers

A catalog keeps its types in one store and their full names, by simple names, in another one.
`Consistent` says that the two are in step: the types ascend by full name, and what is filed under a
simple name are the full names of the types with that simple name, in whatever order they came. An
insertion keeps this, whether it adds the type or refuses it (`Consistent.insertIfNew`), and it is
all that the queries need: a look-up by full name is a search among the types, and the sort of a
look-up by simple name restores the order of the types (`Consistent.named_eq`).
-/

namespace BridgeNames.Catalog

variable {c : Catalog} {t : ManagedType}

/-! ### Queries of one store -/

/-- A full name is unknown if no type has it. -/
theorem find?_eq_none_iff (c : Catalog) (fullName : String) :
    c.find? fullName = none ↔ ∀ t ∈ c.types, t.fullName ≠ fullName := by
  simp [find?]

/-- A look-up finds a type with the full name it is asked for. -/
theorem fullName_of_find? {fullName : String} (h : c.find? fullName = some t) :
    t.fullName = fullName := by
  simpa using List.find?_some h

/-- The error of a look-up names the unknown full name. -/
theorem get_eq_error_iff (c : Catalog) (fullName : String) (e : Error) :
    c.get fullName = .error e ↔
      e = .unknownType fullName ∧ ∀ t ∈ c.types, t.fullName ≠ fullName := by
  rw [← find?_eq_none_iff, get]
  cases c.find? fullName <;> simp [eq_comm]

/-- A look-up that must not fail gives the type that the other one finds. -/
theorem get_eq_ok_iff (c : Catalog) (fullName : String) (t : ManagedType) :
    c.get fullName = .ok t ↔ c.find? fullName = some t := by
  rw [get]
  cases c.find? fullName <;> simp

/-! ### Insertions -/

/-- An insertion looks for the full name, and unless it finds it adds the type to both stores. -/
theorem insert_run (c : Catalog) (t : ManagedType) :
    (insert t).run c =
      if (c.find? t.fullName).isSome then (.error (.duplicateType t.fullName), c)
      else (.ok (),
        { c with types := place t c.types, index := file t.name t.fullName c.index }) := by
  cases h : (c.find? t.fullName).isSome <;> simp [insert, h] <;> rfl

/-- An insertion is refused and leaves the catalog as it is, or adds a type whose full name is free
to both stores. -/
theorem insert_cases (c : Catalog) (t : ManagedType) :
    (∃ u, c.find? t.fullName = some u) ∧
        (insert t).run c = (.error (.duplicateType t.fullName), c) ∨
      c.find? t.fullName = none ∧
        (insert t).run c = (.ok (),
          { c with types := place t c.types, index := file t.name t.fullName c.index }) := by
  rw [insert_run]
  cases c.find? t.fullName with
  | some u => exact .inl ⟨⟨u, rfl⟩, rfl⟩
  | none => exact .inr ⟨rfl, rfl⟩

/-- An insertion is refused if and only if the full name is taken. -/
theorem insert_eq_error_iff (c : Catalog) (t : ManagedType) (e : Error) :
    ((insert t).run c).1 = .error e ↔
      e = .duplicateType t.fullName ∧ ∃ u ∈ c.types, u.fullName = t.fullName := by
  obtain ⟨⟨u, hu⟩, hrun⟩ | ⟨hnone, hrun⟩ := c.insert_cases t
  · have htaken : ∃ u ∈ c.types, u.fullName = t.fullName :=
      ⟨u, List.mem_of_find?_eq_some hu, fullName_of_find? hu⟩
    rw [hrun, Except.error.injEq, and_iff_left htaken, eq_comm]
  · have hfree := (c.find?_eq_none_iff t.fullName).mp hnone
    rw [hrun]
    exact iff_of_false (fun h => nomatch h) fun ⟨_, u, hu, htaken⟩ => hfree u hu htaken

/-- A refused insertion leaves the catalog as it is. -/
theorem insert_of_error {e : Error} (h : ((insert t).run c).1 = .error e) :
    ((insert t).run c).2 = c := by
  obtain ⟨-, hrun⟩ | ⟨-, hrun⟩ := c.insert_cases t
  · rw [hrun]
  · rw [hrun] at h
    cases h

/-- An insertion leaves the catalog as it is, or adds a type whose full name is free to both
stores. -/
theorem insertIfNew_cases (c : Catalog) (t : ManagedType) :
    c.insertIfNew t = c ∧ (∃ u, c.find? t.fullName = some u) ∨
      c.find? t.fullName = none ∧
        c.insertIfNew t =
          { c with types := place t c.types, index := file t.name t.fullName c.index } := by
  unfold insertIfNew
  obtain ⟨htaken, hrun⟩ | ⟨hfree, hrun⟩ := c.insert_cases t
  · rw [hrun]
    exact .inl ⟨rfl, htaken⟩
  · rw [hrun]
    exact .inr ⟨hfree, rfl⟩

/-- A type takes its place among the others. -/
theorem place_perm (t : ManagedType) (l : List ManagedType) : (place t l).Perm (l ++ [t]) := by
  induction l with
  | nil => exact .refl _
  | cons u rest ih =>
    rw [place]
    split
    · exact (List.perm_append_singleton t (u :: rest)).symm
    · exact ih.cons u

/-- The place of a type whose full name is free keeps the order. -/
theorem place_ascending {l : List ManagedType} (h : l.Pairwise (·.fullName < ·.fullName))
    (hfree : ∀ u ∈ l, u.fullName ≠ t.fullName) :
    (place t l).Pairwise (·.fullName < ·.fullName) := by
  induction l with
  | nil => exact List.pairwise_singleton ..
  | cons u rest ih =>
    obtain ⟨hu, hrest⟩ := List.pairwise_cons.mp h
    obtain ⟨hne, hfree⟩ := List.forall_mem_cons.mp hfree
    rw [place]
    split
    case isTrue hlt =>
      exact h.cons (List.forall_mem_cons.mpr ⟨hlt, fun v hv => hlt.trans (hu v hv)⟩)
    case isFalse hge =>
      refine (ih hrest hfree).cons fun v hv => ?_
      rcases List.mem_append.mp ((place_perm t rest).subset hv) with hv | hv
      · exact hu v hv
      · rw [List.eq_of_mem_singleton hv]
        exact lt_of_le_of_ne (not_lt.mp hge) hne

/-- The search for a full name among the types finds the new one if it is the first with it. -/
theorem find?_place (l : List ManagedType) (hfree : ∀ u ∈ l, u.fullName ≠ t.fullName)
    (fullName : String) :
    (place t l).find? (·.fullName == fullName) =
      (l.find? (·.fullName == fullName)).or ([t].find? (·.fullName == fullName)) := by
  induction l with
  | nil => rfl
  | cons u rest ih =>
    obtain ⟨hne, hfree⟩ := List.forall_mem_cons.mp hfree
    rw [place]
    split
    · -- The new type stands before `u`, and only one of the two can have the full name.
      by_cases ht : t.fullName = fullName
      · have hnone : (u :: rest).find? (·.fullName == fullName) = none := by
          simpa [← ht] using ⟨hne, hfree⟩
        simp [ht, hnone]
      · simp [List.find?_cons, ht]
    · rw [List.find?_cons, List.find?_cons]
      split
      · rfl
      · exact ih hfree

/-- Only what is filed under the simple name gets one more full name, which is the last. -/
theorem lookup_file (name fullName key : String) (index : List (String × List String)) :
    ((file name fullName index).lookup key).getD [] =
      (index.lookup key).getD [] ++ if name = key then [fullName] else [] := by
  induction index with
  | nil => grind [file]
  | cons entry rest ih =>
    obtain ⟨key', fullNames⟩ := entry
    rw [file]
    split <;> grind

/-- An insertion binds nothing. -/
@[simp]
theorem bound_insertIfNew (c : Catalog) (t : ManagedType) : (c.insertIfNew t).bound = c.bound := by
  obtain ⟨hsame, -⟩ | ⟨-, hadded⟩ := c.insertIfNew_cases t
  · rw [hsame]
  · rw [hadded]

/-! ### Bound classes -/

/-- A binding adds one full name to those that are bound. -/
theorem mem_bound_bind (c : Catalog) (t : ManagedType) (fullName : String) :
    fullName ∈ (c.bind t).bound ↔ fullName ∈ c.bound ∨ fullName = t.fullName := by
  unfold bind
  split <;> simp_all [or_comm]

/-- Whether a class is bound depends on the set of the bound full names alone. -/
theorem isBound_congr {other : Catalog} (h : ∀ n, n ∈ c.bound ↔ n ∈ other.bound)
    (t : ManagedType) : c.isBound t = other.isBound t := by
  simp [isBound, h]

/-! ### The two stores in step -/

/-- The types ascend by full name, and the full names of those with a simple name are filed under
it. -/
structure Consistent (c : Catalog) : Prop where
  ascending : c.types.Pairwise (·.fullName < ·.fullName)
  filed_perm (name : String) :
    (c.filed name).Perm ((c.types.filter (·.name == name)).map (·.fullName))

namespace Consistent

/-- Types with one full name are one type. -/
theorem eq_of_fullName_eq (h : c.Consistent) {t u : ManagedType} (ht : t ∈ c.types)
    (hu : u ∈ c.types) (htu : t.fullName = u.fullName) : t = u := by
  have hdistinct : (c.types.map (·.fullName)).Nodup :=
    List.pairwise_map.mpr (h.ascending.imp ne_of_lt)
  exact List.inj_on_of_nodup_map hdistinct ht hu htu

/-- A look-up finds the type with the full name. -/
theorem find?_eq_some_iff (h : c.Consistent) (fullName : String) (t : ManagedType) :
    c.find? fullName = some t ↔ t ∈ c.types ∧ t.fullName = fullName := by
  refine ⟨fun hfind => ⟨List.mem_of_find?_eq_some hfind, fullName_of_find? hfind⟩, ?_⟩
  rintro ⟨ht, rfl⟩
  cases hfind : c.find? t.fullName with
  | none => exact absurd rfl ((c.find?_eq_none_iff _).mp hfind t ht)
  | some u =>
    rw [h.eq_of_fullName_eq ht (List.mem_of_find?_eq_some hfind) (fullName_of_find? hfind).symm]

/-- Looking the full names of known types up gives these types. -/
theorem filterMap_find? (h : c.Consistent) {l : List ManagedType} (hl : ∀ t ∈ l, t ∈ c.types) :
    (l.map (·.fullName)).filterMap c.find? = l := by
  have hfound (t : ManagedType) (ht : t ∈ l) : (c.find? ∘ (·.fullName)) t = some t :=
    (h.find?_eq_some_iff _ t).mpr ⟨hl t ht, rfl⟩
  rw [List.filterMap_map, List.filterMap_congr hfound, List.filterMap_some]

/-- A look-up by simple name gives the types with that simple name, as they stand among the
types. -/
theorem named_eq (h : c.Consistent) (name : String) :
    c.named name = c.types.filter (·.name == name) := by
  have hperm : (c.named name).Perm (c.types.filter (·.name == name)) := by
    have hfound := (h.filed_perm name).filterMap c.find?
    rw [h.filterMap_find? fun t ht => (List.mem_filter.mp ht).1] at hfound
    exact (List.mergeSort_perm ..).trans hfound
  have hnamed : (c.named name).Pairwise fun t u => decide (t.fullName ≤ u.fullName) = true := by
    refine List.pairwise_mergeSort (fun t u v htu huv => ?_) (fun t u => ?_) _
    · simp only [decide_eq_true_eq] at *
      exact htu.trans huv
    · simpa using le_total t.fullName u.fullName
  have hfilter : (c.types.filter (·.name == name)).Pairwise
      fun t u => decide (t.fullName ≤ u.fullName) = true :=
    (h.ascending.imp fun htu => by simpa using htu.le).filter _
  -- Two lists of the same types in the order of their full names are one list.
  refine hperm.eq_of_pairwise (fun t u ht hu htu hut => ?_) hnamed hfilter
  simp only [decide_eq_true_eq] at htu hut
  exact h.eq_of_fullName_eq (List.mem_filter.mp (hperm.subset ht)).1 (List.mem_filter.mp hu).1
    (le_antisymm htu hut)

/-- An insertion keeps the stores in step. -/
theorem insertIfNew (h : c.Consistent) (t : ManagedType) : (c.insertIfNew t).Consistent := by
  obtain ⟨hsame, -⟩ | ⟨hfree, hadded⟩ := c.insertIfNew_cases t
  · rwa [hsame]
  · rw [hadded]
    refine ⟨place_ascending h.ascending ((c.find?_eq_none_iff _).mp hfree), fun name => ?_⟩
    have hplaced := ((place_perm t c.types).filter (·.name == name)).map (·.fullName)
    -- Both stores get the new full name at the end, or neither if the simple name is another one.
    rw [filed, lookup_file]
    refine .trans ((h.filed_perm name).append_right _) (.trans (.of_eq ?_) hplaced.symm)
    by_cases hname : t.name = name <;> simp [hname]

end Consistent

/-! ### The catalog after a sequence of insertions -/

/-- The catalog after the types are inserted one after the other into an empty one. -/
def ofTypes (ts : List ManagedType) : Catalog :=
  ts.foldl insertIfNew empty

/-- The last insertion of a sequence comes after the others. -/
theorem ofTypes_concat (ts : List ManagedType) (t : ManagedType) :
    ofTypes (ts ++ [t]) = (ofTypes ts).insertIfNew t := by
  rw [ofTypes, List.foldl_append]
  rfl

/-- A sequence of insertions keeps the stores in step. -/
theorem consistent_ofTypes (ts : List ManagedType) : (ofTypes ts).Consistent := by
  induction ts using List.reverseRecOn with
  | nil => exact ⟨.nil, fun _ => .nil⟩
  | append_singleton ts t ih => exact ofTypes_concat ts t ▸ ih.insertIfNew t

/-- Of the types with a full name, a catalog has the one that was inserted first. -/
theorem find?_ofTypes (ts : List ManagedType) (fullName : String) :
    (ofTypes ts).find? fullName = ts.find? (·.fullName == fullName) := by
  induction ts using List.reverseRecOn with
  | nil => rfl
  | append_singleton ts t ih =>
    rw [ofTypes_concat, List.find?_append, ← ih]
    obtain ⟨hsame, u, hu⟩ | ⟨hfree, hadded⟩ := (ofTypes ts).insertIfNew_cases t
    · -- The type is refused; were it the one that is looked for, an earlier one would be found.
      rw [hsame]
      by_cases ht : t.fullName = fullName
      · rw [← ht, hu]
        rfl
      · simp [ht]
    · rw [hadded]
      exact find?_place _ ((find?_eq_none_iff _ _).mp hfree) fullName

/-- The queries of the catalog answer what they should after the types of the list have been offered
to it, one after the other. -/
structure Represents (c : Catalog) (offered : List ManagedType) : Prop where
  /-- The types are in the order of the bytes of their full names, and none is there twice. -/
  ascending : c.types.Pairwise fun t u => Text.utf8 t.fullName < Text.utf8 u.fullName
  size_eq : c.size = c.types.length
  /-- Under each full name, it is the first type offered with it that is known. -/
  mem_types_iff (t : ManagedType) :
    t ∈ c.types ↔ offered.find? (·.fullName == t.fullName) = some t
  /-- A look-up by simple name gives the types with that simple name, as they stand among all. -/
  named_eq (name : String) : c.named name = c.types.filter (·.name == name)
  named_distinct (name : String) : (c.named name).Pairwise (·.fullName ≠ ·.fullName)
  find?_eq_some_iff (fullName : String) (t : ManagedType) :
    c.find? fullName = some t ↔ t ∈ c.types ∧ t.fullName = fullName
  find?_eq_none_iff (fullName : String) :
    c.find? fullName = none ↔ ∀ t ∈ c.types, t.fullName ≠ fullName
  get_eq_ok_iff (fullName : String) (t : ManagedType) :
    c.get fullName = .ok t ↔ t ∈ c.types ∧ t.fullName = fullName
  get_eq_error_iff (fullName : String) (e : Error) :
    c.get fullName = .error e ↔
      e = .unknownType fullName ∧ ∀ t ∈ c.types, t.fullName ≠ fullName
  insert_eq_error_iff (t : ManagedType) (e : Error) :
    ((insert t).run c).1 = .error e ↔
      e = .duplicateType t.fullName ∧ ∃ u ∈ c.types, u.fullName = t.fullName
  /-- A refused type leaves the catalog, and with it all answers, as they are. -/
  insert_of_error (t : ManagedType) (e : Error) :
    ((insert t).run c).1 = .error e → ((insert t).run c).2 = c

/-- After any sequence of insertions, refused ones among them, the types of a catalog ascend by the
bytes of their full names and are the first ones that came with these, its look-ups agree with the
types, and a further insertion is refused exactly if its full name is taken. -/
theorem represents_ofTypes (ts : List ManagedType) : (ofTypes ts).Represents ts where
  ascending := (consistent_ofTypes ts).ascending.imp Text.utf8_lt_iff.mpr
  size_eq := rfl
  mem_types_iff t := by
    rw [← find?_ofTypes, (consistent_ofTypes ts).find?_eq_some_iff]
    simp
  named_eq := (consistent_ofTypes ts).named_eq
  named_distinct name := by
    rw [(consistent_ofTypes ts).named_eq]
    exact ((consistent_ofTypes ts).ascending.imp ne_of_lt).filter _
  find?_eq_some_iff := (consistent_ofTypes ts).find?_eq_some_iff
  find?_eq_none_iff := (ofTypes ts).find?_eq_none_iff
  get_eq_ok_iff fullName t := by
    rw [Catalog.get_eq_ok_iff, (consistent_ofTypes ts).find?_eq_some_iff]
  get_eq_error_iff := (ofTypes ts).get_eq_error_iff
  insert_eq_error_iff := (ofTypes ts).insert_eq_error_iff
  insert_of_error _ _ := insert_of_error

/-- A type that is refused for its full name is not found under its simple name either, although no
other type has that. -/
example : (ofTypes [.declared ⟨"App.Widgets", "Button", none, .reference, []⟩,
    .declared ⟨"App", "Widgets.Button", none, .value, []⟩]).named "Widgets.Button" = [] := by
  cbv

end BridgeNames.Catalog
