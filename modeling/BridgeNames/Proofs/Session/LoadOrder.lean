import BridgeNames.Proofs.Catalog
import BridgeNames.Proofs.Session.Batch

/-!
# The order in which types are loaded

A reader of metadata hands types over in whatever order it comes across them. If no two of them have
one full name, then all of them are known in the end (`types_ofTypes_perm`), and as a catalog keeps
its types in the order of their full names, the list of its types no longer shows in which order
they came. The index by simple names does, but no look-up lets that be seen: what a consistent
catalog answers is decided by its types alone (`Consistent.alike`). So is what the export of all
known types gives and reports (`exportKnown_eq`).
-/

namespace BridgeNames

namespace Catalog

variable {c other : Catalog} {ts us : List ManagedType}

/-- The two catalogs answer every question about types alike. -/
structure Alike (c other : Catalog) : Prop where
  types_eq : c.types = other.types
  named_eq (name : String) : c.named name = other.named name
  find?_eq (fullName : String) : c.find? fullName = other.find? fullName
  get_eq (fullName : String) : c.get fullName = other.get fullName
  size_eq : c.size = other.size
  isEmpty_eq : c.isEmpty = other.isEmpty

/-- Consistent catalogs of the same types answer alike, however the full names are filed. -/
theorem Consistent.alike (hc : c.Consistent) (hother : other.Consistent)
    (htypes : c.types = other.types) : c.Alike other := by
  have hfind (fullName : String) : c.find? fullName = other.find? fullName := by
    rw [find?, find?, htypes]
  refine ⟨htypes, fun name => ?_, hfind, fun fullName => ?_, ?_, ?_⟩
  · rw [hc.named_eq, hother.named_eq, htypes]
  · rw [get, get, hfind]
  · rw [size, size, htypes]
  · rw [isEmpty, isEmpty, htypes]

/-- Types of which no two have one full name are all known once they are inserted. -/
theorem types_ofTypes_perm (h : (ts.map (·.fullName)).Nodup) : (ofTypes ts).types.Perm ts := by
  induction ts using List.reverseRecOn with
  | nil => exact .nil
  | append_singleton ts t ih =>
    rw [List.map_append, List.nodup_append] at h
    obtain ⟨hts, -, hnew⟩ := h
    -- Nothing that came before has the full name of the last type, so that is not refused.
    have hfree : (ofTypes ts).find? t.fullName = none := by
      rw [find?_ofTypes, List.find?_eq_none]
      intro u hu
      simpa using hnew u.fullName (List.mem_map_of_mem hu) t.fullName (by simp)
    rw [ofTypes_concat]
    obtain ⟨-, u, hu⟩ | ⟨-, hadded⟩ := (ofTypes ts).insertIfNew_cases t
    · exact absurd (hfree.symm.trans hu) (Option.some_ne_none u).symm
    · rw [hadded]
      exact (place_perm t _).trans ((ih hts).append_right [t])

/-- The same types, inserted in another order, end up in the same order. -/
theorem types_ofTypes_eq (hperm : ts.Perm us) (h : (ts.map (·.fullName)).Nodup) :
    (ofTypes ts).types = (ofTypes us).types := by
  have hus : (us.map (·.fullName)).Nodup := (hperm.map _).nodup_iff.mp h
  have htypes : (ofTypes ts).types.Perm (ofTypes us).types :=
    (types_ofTypes_perm h).trans (hperm.trans (types_ofTypes_perm hus).symm)
  -- Both lists ascend strictly, so of two types only one can come before the other.
  exact htypes.eq_of_pairwise (fun _ _ _ _ htu hut => absurd htu (lt_asymm hut))
    (consistent_ofTypes ts).ascending (consistent_ofTypes us).ascending

/-- A catalog does not show in which order its types were inserted, provided that no two of them
have one full name. -/
theorem alike_ofTypes (hperm : ts.Perm us) (h : (ts.map (·.fullName)).Nodup) :
    (ofTypes ts).Alike (ofTypes us) :=
  (consistent_ofTypes ts).alike (consistent_ofTypes us) (types_ofTypes_eq hperm h)

end Catalog

namespace Session

/-- The export names of all types that the session knows and that have a name of their own. -/
def exportKnown : StateM Session (List (String × String)) := do
  exportNames (← get).catalog.types

/-- The export of all known types is a batch of export names. -/
theorem exportKnown_run (s : Session) :
    exportKnown.run s = (exportNames s.catalog.types).run s := rfl

/-- Sessions with the same conventions and types give the same export names and report the same
about them. -/
theorem exportKnown_eq {s s' : Session} (hconventions : s.conventions = s'.conventions)
    (htypes : s.catalog.types = s'.catalog.types) :
    (exportKnown.run s).1 = (exportKnown.run s').1 ∧
      ∃ ds, (exportKnown.run s).2.sink = s.sink.extend ds ∧
        (exportKnown.run s').2.sink = s'.sink.extend ds := by
  obtain ⟨later, hs⟩ := (answers_exportNames s.catalog.types).run_eq (s := s) hconventions
  obtain ⟨later', hs'⟩ := (answers_exportNames s'.catalog.types).run_eq (s := s') rfl
  rw [exportKnown_run, exportKnown_run, hs, hs', htypes]
  exact ⟨rfl, _, rfl, rfl⟩

/-- Let no two of the types have one full name. Loaded in any two orders, they are all known, and no
look-up tells the two catalogs apart. In sessions with the same conventions that know these types,
whatever else has happened in them, the export of all known types gives the same names in the same
order and adds the same diagnostics in the same order to the sink. -/
theorem exportKnown_of_perm {ts us : List ManagedType} (hperm : ts.Perm us)
    (hdistinct : (ts.map (·.fullName)).Nodup) :
    (Catalog.ofTypes ts).types.Perm ts ∧ (Catalog.ofTypes ts).Alike (Catalog.ofTypes us) ∧
      ∀ s s' : Session, s.conventions = s'.conventions →
        s.catalog.types = (Catalog.ofTypes ts).types →
        s'.catalog.types = (Catalog.ofTypes us).types →
        (exportKnown.run s).1 = (exportKnown.run s').1 ∧
          ∃ ds, (exportKnown.run s).2.sink = s.sink.extend ds ∧
            (exportKnown.run s').2.sink = s'.sink.extend ds := by
  have halike := Catalog.alike_ofTypes hperm hdistinct
  refine ⟨Catalog.types_ofTypes_perm hdistinct, halike, fun s s' hconventions hs hs' => ?_⟩
  exact exportKnown_eq hconventions (hs.trans (halike.types_eq.trans hs'.symm))

/-- Two classes with one simple name, the second of which has a registration that gives no name. -/
def buttons : List ManagedType :=
  [.declared ⟨"App.Widgets", "Button", none, .reference, []⟩,
    .declared
      ⟨"App.Forms", "Button", none, .reference, [⟨Conventions.usualRegistration, [], []⟩]⟩]

/-- The two classes are exported alike, whichever of them is loaded first. -/
theorem buttons_exportKnown :
    buttons.Perm buttons.reverse ∧ (buttons.map (·.fullName)).Nodup ∧
      (Catalog.ofTypes buttons).Alike (Catalog.ofTypes buttons.reverse) ∧
      ((exportKnown.run (.start .standard (.ofTypes buttons))).1 =
          (exportKnown.run (.start .standard (.ofTypes buttons.reverse))).1 ∧
        ∃ ds, (exportKnown.run (.start .standard (.ofTypes buttons))).2.sink =
            (Session.start .standard (.ofTypes buttons)).sink.extend ds ∧
          (exportKnown.run (.start .standard (.ofTypes buttons.reverse))).2.sink =
            (Session.start .standard (.ofTypes buttons.reverse)).sink.extend ds) ∧
      (exportKnown.run (.start .standard (.ofTypes buttons))).1 =
        [("App.Forms.Button", "App_Forms_Button"),
          ("App.Widgets.Button", "App_Widgets_Button")] := by
  have hperm : buttons.Perm buttons.reverse := (List.reverse_perm _).symm
  have hdistinct : (buttons.map (·.fullName)).Nodup := by decide
  have hall := exportKnown_of_perm hperm hdistinct
  have htypes : (start .standard (.ofTypes buttons)).catalog.types = buttons.reverse := rfl
  refine ⟨hperm, hdistinct, hall.2.1, hall.2.2 _ _ rfl rfl rfl, ?_⟩
  rw [exportKnown_run, exportNames_answer, htypes]
  decide +kernel

end Session

end BridgeNames
