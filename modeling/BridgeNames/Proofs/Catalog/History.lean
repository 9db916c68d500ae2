import BridgeNames.Proofs.Catalog
import BridgeNames.Proofs.ManagedType.Built
import Mathlib.Data.Finset.Card
import Mathlib.Data.List.Perm.Basic

/-!
# Histories of catalogs

A catalog is asked for two things: for its types, which insertions add to, and for its bound
classes, which bindings add to. Neither side knows of the other. A request of one side changes
nothing that the other one reads, so what has been asked on the other side can be left out of a
history (`SameTypes.serve_filter`, `SameBound.serve_filter`). What is bound after a history are the
full names of the types that were bound in it, each once (`mem_bound_after`, `nodup_bound_after`).

The order of bindings leaves a trace in the catalog, since the newest full name stands first. No
request shows it: catalogs that know the same types and bind the same full names in any two orders
cannot be told apart (`SameTypes.indistinguishable`).
-/

namespace BridgeNames

/-- A request to a catalog. -/
inductive CatalogRequest where
  /-- Adds a type, which is refused if its full name is taken. -/
  | insert (t : ManagedType)
  /-- Binds a type as a class. -/
  | bind (t : ManagedType)
  | types
  | find (fullName : String)
  | get (fullName : String)
  | named (name : String)
  | size
  | isEmpty
  | isBound (t : ManagedType)
  | boundCount

namespace CatalogRequest

/-- What the request is answered with. -/
abbrev Reply : CatalogRequest → Type
  | insert _ => Except Error Unit
  | bind _ => Unit
  | types | named _ => List ManagedType
  | find _ => Option ManagedType
  | get _ => Except Error ManagedType
  | size | boundCount => Nat
  | isEmpty | isBound _ => Bool

/-- The answer of a catalog to the request. -/
def reply : (r : CatalogRequest) → Catalog → r.Reply
  | insert t, c => ((Catalog.insert t).run c).1
  | bind _, _ => ()
  | types, c => c.types
  | find fullName, c => c.find? fullName
  | get fullName, c => c.get fullName
  | named name, c => c.named name
  | size, c => c.size
  | isEmpty, c => c.isEmpty
  | isBound t, c => c.isBound t
  | boundCount, c => c.boundCount

/-- The catalog after the request. Only insertions and bindings change it. -/
def run : CatalogRequest → Catalog → Catalog
  | insert t, c => c.insertIfNew t
  | bind t, c => c.bind t
  | _, c => c

/-- The request is about the types of a catalog, and not about its bound classes. -/
def isAboutTypes : CatalogRequest → Bool
  | bind _ | isBound _ | boundCount => false
  | _ => true

/-- The full name that the request binds. -/
def boundName? : CatalogRequest → Option String
  | bind t => some t.fullName
  | _ => none

/-- A request binds a full name if it binds some type with it. -/
theorem boundName?_eq_some_iff {r : CatalogRequest} {fullName : String} :
    r.boundName? = some fullName ↔ ∃ t : ManagedType, r = .bind t ∧ t.fullName = fullName := by
  cases r <;> simp [boundName?]

end CatalogRequest

namespace Catalog

/-- The catalog after the requests, one after the other. -/
def serve (c : Catalog) (requests : List CatalogRequest) : Catalog :=
  requests.foldl (fun c r => r.run c) c

/-- The catalog after the history, which starts with nothing. -/
def after (history : List CatalogRequest) : Catalog :=
  empty.serve history

/-- Requests can be served in two parts. -/
theorem serve_append (c : Catalog) (first second : List CatalogRequest) :
    c.serve (first ++ second) = (c.serve first).serve second :=
  List.foldl_append

/-- What comes behind a history is served by the catalog after it. -/
theorem after_append (history later : List CatalogRequest) :
    after (history ++ later) = (after history).serve later :=
  serve_append empty history later

variable {c other : Catalog}

/-! ### The two sides of a catalog -/

/-- Let every request keep a relation, and let those of another kind keep it also if only the first
catalog serves them. Then the other catalog can leave them out. -/
theorem serve_filter {Same : Catalog → Catalog → Prop} {kind : CatalogRequest → Bool}
    (hkeep : ∀ (r : CatalogRequest) {c other : Catalog}, Same c other →
      Same (r.run c) (r.run other))
    (hskip : ∀ (r : CatalogRequest) {c other : Catalog}, kind r = false → Same c other →
      Same (r.run c) other)
    (h : Same c other) (requests : List CatalogRequest) :
    Same (c.serve requests) (other.serve (requests.filter kind)) := by
  -- The first request leads to other catalogs, which are in the relation as well.
  induction requests generalizing c other with
  | nil => exact h
  | cons r rest ih =>
    cases hr : kind r with
    | true =>
      rw [List.filter_cons_of_pos hr]
      exact ih (hkeep r h)
    | false =>
      rw [List.filter_cons_of_neg (by rw [hr]; exact Bool.false_ne_true)]
      exact ih (hskip r hr h)

/-- The two catalogs know the same types and have filed the same full names. -/
structure SameTypes (c other : Catalog) : Prop where
  types_eq : c.types = other.types
  index_eq : c.index = other.index

/-- The two catalogs bind the same full names, in whatever order. -/
def SameBound (c other : Catalog) : Prop :=
  c.bound.Perm other.bound

namespace SameTypes

/-- A catalog knows the same types as it does itself. -/
theorem refl (c : Catalog) : SameTypes c c :=
  ⟨rfl, rfl⟩

/-- The relation holds in both directions. -/
theorem symm (h : SameTypes c other) : SameTypes other c :=
  ⟨h.types_eq.symm, h.index_eq.symm⟩

/-- A third catalog with the same types as the second has the same types as the first. -/
theorem trans {third : Catalog} (h : SameTypes c other) (h' : SameTypes other third) :
    SameTypes c third :=
  ⟨h.types_eq.trans h'.types_eq, h.index_eq.trans h'.index_eq⟩

/-- Look-ups find the same types. -/
theorem find?_eq (h : SameTypes c other) (fullName : String) :
    c.find? fullName = other.find? fullName := by
  rw [find?, find?, h.types_eq]

/-- Requests about types have the same answers. -/
theorem reply_eq (h : SameTypes c other) {r : CatalogRequest} (hr : r.isAboutTypes = true) :
    r.reply c = r.reply other := by
  have hfind : c.find? = other.find? := funext h.find?_eq
  cases r with
  | insert t =>
    show ((insert t).run c).1 = ((insert t).run other).1
    rw [insert_run, insert_run, h.find?_eq]
    split <;> rfl
  | types => exact h.types_eq
  | find fullName => exact h.find?_eq fullName
  | get fullName =>
    show c.get fullName = other.get fullName
    rw [get, get, hfind]
  | named name =>
    show c.named name = other.named name
    rw [named, named, filed, filed, h.index_eq, hfind]
  | size => exact congrArg List.length h.types_eq
  | isEmpty => exact congrArg List.isEmpty h.types_eq
  | bind t => cases hr
  | isBound t => cases hr
  | boundCount => cases hr

/-- An insertion keeps the types the same. -/
theorem insertIfNew (h : SameTypes c other) (t : ManagedType) :
    SameTypes (c.insertIfNew t) (other.insertIfNew t) := by
  have hfind := h.find?_eq t.fullName
  obtain ⟨hc, u, hu⟩ | ⟨hfree, hc⟩ := c.insertIfNew_cases t
  · obtain ⟨hother, -⟩ | ⟨hfree, -⟩ := other.insertIfNew_cases t
    · rwa [hc, hother]
    · cases hu.symm.trans (hfind.trans hfree)
  · obtain ⟨-, u, hu⟩ | ⟨-, hother⟩ := other.insertIfNew_cases t
    · cases hfree.symm.trans (hfind.trans hu)
    · rw [hc, hother]
      exact ⟨congrArg (place t) h.types_eq, congrArg (file t.name t.fullName) h.index_eq⟩

/-- A binding changes nothing about the types. -/
theorem bind (c : Catalog) (t : ManagedType) : SameTypes (c.bind t) c := by
  unfold Catalog.bind
  split
  · exact refl c
  · exact ⟨rfl, rfl⟩

/-- A request keeps the types the same. -/
theorem run (r : CatalogRequest) (h : SameTypes c other) : SameTypes (r.run c) (r.run other) := by
  cases r with
  | insert t => exact h.insertIfNew t
  | bind t =>
    -- Neither binding is of any consequence for the types.
    exact (bind c t).trans (h.trans (bind other t).symm)
  | _ => exact h

/-- A request about bound classes changes nothing about the types. -/
theorem run_of_not (r : CatalogRequest) (hr : r.isAboutTypes = false) (h : SameTypes c other) :
    SameTypes (r.run c) other := by
  cases r with
  | bind t => exact (bind c t).trans h
  | isBound t => exact h
  | boundCount => exact h
  | _ => cases hr

/-- What is known does not depend on requests about bound classes. -/
theorem serve_filter (h : SameTypes c other) (requests : List CatalogRequest) :
    SameTypes (c.serve requests) (other.serve (requests.filter (·.isAboutTypes))) :=
  Catalog.serve_filter (fun r _ _ => run r) (fun r _ _ => run_of_not r) h requests

end SameTypes

/-- A binding puts a full name among those that are bound, unless it is there. -/
theorem bound_bind (c : Catalog) (t : ManagedType) :
    (c.bind t).bound = c.bound.insert t.fullName := by
  unfold bind List.insert List.contains
  split <;> rfl

/-- A type whose full name is bound is not bound once more. -/
theorem bind_of_mem {t : ManagedType} (h : t.fullName ∈ c.bound) : c.bind t = c := by
  unfold bind
  rw [if_pos (List.contains_iff_mem.mpr h)]

namespace SameBound

/-- Requests about bound classes have the same answers. -/
theorem reply_eq (h : SameBound c other) {r : CatalogRequest} (hr : r.isAboutTypes = false) :
    r.reply c = r.reply other := by
  cases r with
  | bind t => rfl
  | isBound t => exact isBound_congr (fun _ => h.mem_iff) t
  | boundCount => exact h.length_eq
  | _ => cases hr

/-- A binding keeps what is bound the same. -/
theorem bind (h : SameBound c other) (t : ManagedType) :
    SameBound (c.bind t) (other.bind t) := by
  unfold SameBound
  rw [bound_bind, bound_bind]
  exact h.insert t.fullName

/-- Two bindings can come in either order. -/
theorem bind_comm (c : Catalog) (t u : ManagedType) :
    SameBound ((c.bind t).bind u) ((c.bind u).bind t) := by
  unfold SameBound
  rw [bound_bind, bound_bind, bound_bind, bound_bind]
  exact List.perm_insert_swap ..

/-- A request keeps what is bound the same. -/
theorem run (r : CatalogRequest) (h : SameBound c other) : SameBound (r.run c) (r.run other) := by
  cases r with
  | insert t =>
    show (c.insertIfNew t).bound.Perm (other.insertIfNew t).bound
    rwa [bound_insertIfNew, bound_insertIfNew]
  | bind t => exact h.bind t
  | _ => exact h

/-- A request about types changes nothing about what is bound. -/
theorem run_of_not (r : CatalogRequest) (hr : r.isAboutTypes = true) (h : SameBound c other) :
    SameBound (r.run c) other := by
  cases r with
  | insert t =>
    show (c.insertIfNew t).bound.Perm other.bound
    rwa [bound_insertIfNew]
  | bind t => cases hr
  | _ => exact h

/-- What is bound does not depend on requests about types. -/
theorem serve_filter (h : SameBound c other) (requests : List CatalogRequest) :
    SameBound (c.serve requests) (other.serve (requests.filter (! ·.isAboutTypes))) :=
  Catalog.serve_filter (fun r _ _ => run r) (fun r _ _ hr => run_of_not r (by simpa using hr)) h
    requests

end SameBound

/-- Whatever the two catalogs are asked from now on, they give the same answers. -/
def Indistinguishable (c other : Catalog) : Prop :=
  ∀ (later : List CatalogRequest) (r : CatalogRequest),
    r.reply (c.serve later) = r.reply (other.serve later)

/-- Catalogs that know the same types and bind the same full names cannot be told apart. -/
theorem SameTypes.indistinguishable (htypes : SameTypes c other) (hbound : SameBound c other) :
    c.Indistinguishable other := by
  intro later r
  cases hr : r.isAboutTypes with
  | true =>
    -- The bindings that are still to come are left out on both sides.
    have hc := htypes.serve_filter later
    have hother := (SameTypes.refl other).serve_filter later
    exact (hc.trans hother.symm).reply_eq hr
  | false =>
    have hc := hbound.serve_filter later
    have hother := SameBound.serve_filter (.refl other.bound) later
    exact SameBound.reply_eq (hc.trans hother.symm) hr

/-! ### What is bound after a history -/

variable {history : List CatalogRequest} {t u : ManagedType}

/-- The last request of a history comes after the others. -/
theorem after_concat (history : List CatalogRequest) (r : CatalogRequest) :
    after (history ++ [r]) = r.run (after history) :=
  after_append history [r]

/-- A request adds to what is bound the full name that it binds. -/
theorem mem_bound_run (r : CatalogRequest) (c : Catalog) (fullName : String) :
    fullName ∈ (r.run c).bound ↔ fullName ∈ c.bound ∨ r.boundName? = some fullName := by
  cases r with
  | insert t =>
    rw [CatalogRequest.run, bound_insertIfNew]
    simp [CatalogRequest.boundName?]
  | bind t =>
    rw [CatalogRequest.run, mem_bound_bind]
    simp [CatalogRequest.boundName?, eq_comm]
  | _ => simp [CatalogRequest.run, CatalogRequest.boundName?]

/-- What is bound after a history are the full names that its requests bind. -/
theorem mem_bound_after (history : List CatalogRequest) (fullName : String) :
    fullName ∈ (after history).bound ↔
      fullName ∈ history.filterMap CatalogRequest.boundName? := by
  induction history using List.reverseRecOn with
  | nil => exact .rfl
  | append_singleton history r ih =>
    rw [after_concat, mem_bound_run, ih, List.filterMap_append, List.mem_append]
    simp

/-- No full name is bound twice after a history. -/
theorem nodup_bound_after (history : List CatalogRequest) : (after history).bound.Nodup := by
  induction history using List.reverseRecOn with
  | nil => exact .nil
  | append_singleton history r ih =>
    rw [after_concat]
    cases r with
    | insert t =>
      rw [CatalogRequest.run, bound_insertIfNew]
      exact ih
    | bind t =>
      rw [CatalogRequest.run, bound_bind]
      exact ih.insert
    | _ => exact ih

/-- The history binds a type with the full name of this one. -/
def Binds (history : List CatalogRequest) (t : ManagedType) : Prop :=
  ∃ u : ManagedType, .bind u ∈ history ∧ u.fullName = t.fullName

/-- A full name is bound after a history that binds some type with it. -/
theorem fullName_mem_bound_after_iff :
    t.fullName ∈ (after history).bound ↔ Binds history t := by
  rw [mem_bound_after, List.mem_filterMap]
  constructor
  · rintro ⟨r, hr, hname⟩
    obtain ⟨u, rfl, hu⟩ := CatalogRequest.boundName?_eq_some_iff.mp hname
    exact ⟨u, hr, hu⟩
  · rintro ⟨u, hu, hname⟩
    exact ⟨.bind u, hu, congrArg some hname⟩

/-- A type counts as a bound class if it has the flag of a class and its full name is bound. -/
theorem isBound_after_iff :
    (after history).isBound t = true ↔ t.is .classType = true ∧ Binds history t := by
  rw [isBound, Bool.and_eq_true, List.contains_iff_mem, fullName_mem_bound_after_iff]

/-- As many classes count as bound as full names have been bound. -/
theorem boundCount_after (history : List CatalogRequest) :
    (after history).boundCount = (history.filterMap CatalogRequest.boundName?).toFinset.card := by
  have hsame : (after history).bound.toFinset =
      (history.filterMap CatalogRequest.boundName?).toFinset := by
    ext fullName
    rw [List.mem_toFinset, List.mem_toFinset, mem_bound_after]
  rw [← hsame, List.toFinset_card_of_nodup (nodup_bound_after history)]
  rfl

/-- A binding and an insertion can come in either order. -/
theorem bind_insertIfNew_comm (c : Catalog) (t u : ManagedType) :
    (c.bind t).insertIfNew u = (c.insertIfNew u).bind t := by
  have hbound : ((c.bind t).insertIfNew u).bound = ((c.insertIfNew u).bind t).bound := by
    rw [bound_insertIfNew, bound_bind, bound_bind, bound_insertIfNew]
  have htypes : SameTypes ((c.bind t).insertIfNew u) ((c.insertIfNew u).bind t) :=
    ((SameTypes.bind c t).insertIfNew u).trans (SameTypes.bind _ t).symm
  -- Catalogs are equal if their three stores are.
  cases hc : (c.bind t).insertIfNew u
  cases hc' : (c.insertIfNew u).bind t
  rw [hc, hc'] at htypes hbound
  obtain ⟨rfl, rfl⟩ := htypes
  cases hbound
  rfl

/-- After the history, the catalog answers about bound classes what the bindings in the history say,
and bindings and insertions leave each other's answers alone. -/
structure TracksBindings (history : List CatalogRequest) : Prop where
  /-- A type is a bound class if it has the flag of one and any type with its full name has been
  bound. -/
  isBound_iff (t : ManagedType) :
    (after history).isBound t = true ↔ t.is .classType = true ∧ Binds history t
  /-- The count is that of the different full names that have been bound. -/
  boundCount_eq :
    (after history).boundCount = (history.filterMap CatalogRequest.boundName?).toFinset.card
  bind_bind (t : ManagedType) : after (history ++ [.bind t, .bind t]) = after (history ++ [.bind t])
  /-- A type is bound once and for all, under whatever description. -/
  bind_of_binds (t : ManagedType) (h : Binds history t) :
    after (history ++ [.bind t]) = after history
  /-- No request shows in which order two types have been bound. -/
  bind_comm (t u : ManagedType) :
    (after (history ++ [.bind t, .bind u])).Indistinguishable
      (after (history ++ [.bind u, .bind t]))
  bind_insert_comm (t u : ManagedType) :
    after (history ++ [.bind t, .insert u]) = after (history ++ [.insert u, .bind t])
  /-- What is asked about types, and whether an insertion is refused, is answered as if nothing had
  been bound. -/
  reply_of_types (r : CatalogRequest) (h : r.isAboutTypes = true) :
    r.reply (after history) = r.reply (after (history.filter (·.isAboutTypes)))
  /-- What is asked about bound classes is answered as if nothing had been inserted. -/
  reply_of_bound (r : CatalogRequest) (h : r.isAboutTypes = false) :
    r.reply (after history) = r.reply (after (history.filter (! ·.isAboutTypes)))
  /-- A reference, an interface, an enumeration or a value is no bound class, also when it has been
  bound. -/
  isBound_eq_false (t : ManagedType)
    (h : t.is .byRefType = true ∨ t.is .interfaceType = true ∨ t.is .enumType = true ∨
      t.is .valueType = true) : (after history).isBound t = false

/-- Every history has its bindings tracked. -/
theorem tracksBindings (history : List CatalogRequest) : TracksBindings history where
  isBound_iff _ := isBound_after_iff
  boundCount_eq := boundCount_after history
  bind_bind t := by
    rw [after_append, after_append]
    exact bind_of_mem ((mem_bound_bind ..).mpr (.inr rfl))
  bind_of_binds t h := by
    rw [after_concat]
    exact bind_of_mem (fullName_mem_bound_after_iff.mpr h)
  bind_comm t u := by
    rw [after_append, after_append]
    have htypes (t u : ManagedType) : SameTypes (((after history).bind t).bind u) (after history) :=
      (SameTypes.bind _ u).trans (SameTypes.bind _ t)
    exact ((htypes t u).trans (htypes u t).symm).indistinguishable (SameBound.bind_comm _ t u)
  bind_insert_comm t u := by
    rw [after_append, after_append]
    exact bind_insertIfNew_comm _ t u
  reply_of_types r h :=
    ((SameTypes.refl empty).serve_filter history).reply_eq h
  reply_of_bound r h :=
    (SameBound.serve_filter (.refl empty.bound) history).reply_eq h
  isBound_eq_false t h := by
    rw [isBound, ManagedType.is_classType_eq_false h, Bool.false_and]

end Catalog

end BridgeNames
