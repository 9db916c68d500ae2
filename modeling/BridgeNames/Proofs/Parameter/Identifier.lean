import BridgeNames.Parameter.Identifier
import BridgeNames.Proofs.Spelling.ObjectiveC
import Mathlib.Data.List.Nodup
import Mathlib.Tactic.Choose

/-!
# Identifiers in a signature

The identifier of a parameter, said without counting. A signature is read as the list of its
parameters, no two of which are the same. A long-named parameter keeps its name
(`identified_of_long`). A short-named one is called by its stem with its suffix
(`identified_of_suffixed`), and the suffix is its capitalized name exactly if it is crowded: another
short-named parameter has a type of the same spelling, or the stem is the fallback and two
parameters have types without a suggestion.
-/

namespace BridgeNames

/-- In a list without repetitions, two members are counted exactly if there are two of them. -/
theorem one_lt_countP_iff {α : Type} {l : List α} (hl : l.Nodup) (P : α → Bool) :
    1 < l.countP P ↔ ∃ a ∈ l, ∃ b ∈ l, a ≠ b ∧ P a = true ∧ P b = true := by
  rw [List.countP_eq_length_filter]
  have hf : (l.filter P).Nodup := hl.filter P
  constructor
  · -- The first two members that are counted differ, since the list has no repetitions.
    intro h
    obtain ⟨a, b, rest, heq⟩ : ∃ a b rest, l.filter P = a :: b :: rest := by
      match hm : l.filter P with
      | [] => simp [hm] at h
      | [_] => simp [hm] at h
      | a :: b :: rest => exact ⟨a, b, rest, rfl⟩
    have ha : a ∈ l.filter P := by simp [heq]
    have hb : b ∈ l.filter P := by simp [heq]
    rw [heq, List.nodup_cons] at hf
    obtain ⟨hal, hPa⟩ := List.mem_filter.mp ha
    obtain ⟨hbl, hPb⟩ := List.mem_filter.mp hb
    refine ⟨a, hal, b, hbl, ?_, hPa, hPb⟩
    rintro rfl
    exact hf.1 List.mem_cons_self
  · rintro ⟨a, ha, b, hb, hab, hPa, hPb⟩
    by_contra hle
    have ha' : a ∈ l.filter P := List.mem_filter.mpr ⟨ha, hPa⟩
    have hb' : b ∈ l.filter P := List.mem_filter.mpr ⟨hb, hPb⟩
    obtain ⟨x, hx⟩ : ∃ x, l.filter P = [x] :=
      List.length_eq_one_iff.mp (by have := List.length_pos_of_mem ha'; omega)
    rw [hx, List.mem_singleton] at ha' hb'
    exact hab (ha'.trans hb'.symm)

namespace Parameter

open Naming

variable {c : Conventions} {ps : List Parameter} {p : Parameter} {s : String}

/-- The type of the parameter is spelled so in Objective-C. -/
def SpelledAs (c : Conventions) (p : Parameter) (s : String) : Prop :=
  (ObjectiveC.spell c p.type).answer = .ok s

/-- No identifier is suggested for the spelling of the parameter's type. -/
def Unsuggested (c : Conventions) (p : Parameter) : Prop :=
  ∃ s, p.SpelledAs c s ∧ suggestion? s = none

/-- The stem does not tell the short-named parameter from the others of the signature: another
short-named one has a type of the same spelling, or the stem is the fallback and two parameters have
types without a suggestion. -/
def Crowded (c : Conventions) (ps : List Parameter) (p : Parameter) : Prop :=
  ∃ s, p.SpelledAs c s ∧
    ((∃ q ∈ ps, q ≠ p ∧ c.isShort q.name = true ∧ q.SpelledAs c s) ∨
      (stem c s = c.fallback ∧ ∃ q ∈ ps, ∃ r ∈ ps, q ≠ r ∧ q.Unsuggested c ∧ r.Unsuggested c))

/-- What stands behind the stem of the short-named parameter: its capitalized name if it is crowded,
and nothing if it is not. -/
def Suffixed (c : Conventions) (ps : List Parameter) (p : Parameter) (x : String) : Prop :=
  Crowded c ps p ∧ x = Text.capitalize p.name ∨ ¬ Crowded c ps p ∧ x = ""

/-- The parameter gets the identifier in the signature, whatever has been said before. -/
def Identified (c : Conventions) (ps : List Parameter) (p : Parameter) (a : String) : Prop :=
  ∀ j : Journal, ((p.identifier c ps).run.run j).1 = .ok a

/-- A type has one spelling. -/
theorem SpelledAs.unique {t : String} (hs : p.SpelledAs c s) (ht : p.SpelledAs c t) : s = t :=
  Except.ok.inj (hs.symm.trans ht)

/-- A type without a suggestion has a spelling without one. -/
theorem SpelledAs.unsuggested_iff (hs : p.SpelledAs c s) :
    p.Unsuggested c ↔ suggestion? s = none := by
  constructor
  · rintro ⟨t, ht, hnone⟩
    rw [hs.unique ht]
    exact hnone
  · exact fun hnone => ⟨s, hs, hnone⟩

/-- The spelling of a type is reported. -/
theorem SpelledAs.reports (hs : p.SpelledAs c s) :
    ∃ ds rs, Reports (ObjectiveC.spell c p.type) (.ok s) ds rs := by
  obtain ⟨r, ds, rs, h⟩ := ObjectiveC.spell_reports c p.type
  have hr : r = .ok s := h.answer_eq.symm.trans hs
  exact ⟨ds, rs, hr ▸ h⟩

/-- The outlines of a spelled signature are those of its parameters in order. -/
theorem outlines_reports {spelling : Parameter → String} (ps : List Parameter)
    (hps : ∀ p ∈ ps, p.SpelledAs c (spelling p)) :
    ∃ ds rs, Reports (outlines c ps)
      (.ok (ps.map fun p => ⟨spelling p, c.isShort p.name⟩)) ds rs := by
  induction ps with
  | nil => exact ⟨_, _, reports_pure _⟩
  | cons p rest ih =>
    obtain ⟨ds, rs, hp⟩ := (hps p List.mem_cons_self).reports
    obtain ⟨es, ss, hrest⟩ := ih fun q hq => hps q (List.mem_cons_of_mem _ hq)
    have hfirst :
        Reports (p.outline c) (.ok ⟨spelling p, c.isShort p.name⟩) (ds ++ []) (rs ++ []) :=
      hp.bind (reports_pure _)
    unfold outlines
    exact ⟨_, _, hfirst.bind (hrest.bind (reports_pure _))⟩

/-- A long-named parameter keeps its name. -/
theorem identified_of_long (h : c.isShort p.name = false) : Identified c ps p p.name := by
  intro j
  unfold identifier
  rw [if_neg (by rw [h]; exact Bool.false_ne_true)]
  rfl

/-- Naming a short-named parameter reports the diagnostics of its own type alone, and the identifier
that the outlines of the signature give. -/
theorem identifier_reports {ds es : List Diagnostic} {rs ss : Log} {signature : List Outline}
    (h : c.isShort p.name = true) (hs : Reports (ObjectiveC.spell c p.type) (.ok s) ds rs)
    (hout : Reports (outlines c ps) (.ok signature) es ss) :
    ∃ log, Reports (p.identifier c ps) (.ok (shortIdentifier c p.name s signature)) ds log := by
  generalize hchosen : shortIdentifier c p.name s signature = chosen
  refine ⟨rs ++ (ss ++ [⟨.trace, s!"parameter '{p.name}' named '{chosen}'"⟩]), fun j => ?_⟩
  unfold identifier
  rw [if_pos h, run_bind, hs j]
  -- The other types are spelled on the journal that the own type leaves, without its queue.
  show (quietly (outlines c ps) >>= _).run.run (j.add ds rs) = _
  rw [run_bind, hout.quietly _]
  subst hchosen
  show (_, ((j.add ds rs).add [] ss).add [] _) = _
  rw [Journal.add_add, Journal.add_add, List.append_nil, List.append_nil]

/-- The identifier of a short-named parameter, by the outlines of a spelled signature. -/
theorem identified_of_short {spelling : Parameter → String}
    (hps : ∀ q ∈ ps, q.SpelledAs c (spelling q)) (hp : p.SpelledAs c s)
    (h : c.isShort p.name = true) :
    Identified c ps p
      (shortIdentifier c p.name s (ps.map fun q => ⟨spelling q, c.isShort q.name⟩)) := by
  obtain ⟨ds, rs, hs⟩ := hp.reports
  obtain ⟨es, ss, hout⟩ := outlines_reports ps hps
  obtain ⟨log, hall⟩ := identifier_reports h hs hout
  exact hall.run_fst

/-- Two short-named outlines of a spelling are counted exactly if another short-named parameter has
it. -/
theorem one_lt_alike_iff {spelling : Parameter → String} (hnodup : ps.Nodup)
    (hps : ∀ q ∈ ps, q.SpelledAs c (spelling q)) (hp : p ∈ ps) (h : c.isShort p.name = true) :
    1 < ps.countP (fun q => spelling q == spelling p && c.isShort q.name) ↔
      ∃ q ∈ ps, q ≠ p ∧ c.isShort q.name = true ∧ q.SpelledAs c (spelling p) := by
  simp only [one_lt_countP_iff hnodup, Bool.and_eq_true, beq_iff_eq]
  constructor
  · -- One of any two parameters is another one than `p`.
    rintro ⟨a, ha, b, hb, hab, ⟨hsa, hla⟩, hsb, hlb⟩
    by_cases hap : a = p
    · exact ⟨b, hb, fun hbp => hab (hap.trans hbp.symm), hlb, hsb ▸ hps b hb⟩
    · exact ⟨a, ha, hap, hla, hsa ▸ hps a ha⟩
  · rintro ⟨q, hq, hqp, hlq, hsq⟩
    exact ⟨q, hq, p, hp, hqp, ⟨(hps q hq).unique hsq, hlq⟩, rfl, h⟩

/-- Two outlines without a suggestion are counted exactly if two parameters have none. -/
theorem one_lt_unsuggested_iff {spelling : Parameter → String} (hnodup : ps.Nodup)
    (hps : ∀ q ∈ ps, q.SpelledAs c (spelling q)) :
    1 < ps.countP (fun q => !hasSuggestion (spelling q)) ↔
      ∃ q ∈ ps, ∃ r ∈ ps, q ≠ r ∧ q.Unsuggested c ∧ r.Unsuggested c := by
  have hiff (q : Parameter) (hq : q ∈ ps) :
      (!hasSuggestion (spelling q)) = true ↔ q.Unsuggested c := by
    rw [(hps q hq).unsuggested_iff]
    simp [hasSuggestion]
  rw [one_lt_countP_iff hnodup]
  constructor
  · rintro ⟨q, hq, r, hr, hne, huq, hur⟩
    exact ⟨q, hq, r, hr, hne, (hiff q hq).mp huq, (hiff r hr).mp hur⟩
  · rintro ⟨q, hq, r, hr, hne, huq, hur⟩
    exact ⟨q, hq, r, hr, hne, (hiff q hq).mpr huq, (hiff r hr).mpr hur⟩

/-- A short-named parameter of a spelled signature needs a suffix exactly if it is crowded. -/
theorem needsSuffix_iff_crowded {spelling : Parameter → String} (hnodup : ps.Nodup)
    (hps : ∀ q ∈ ps, q.SpelledAs c (spelling q)) (hp : p ∈ ps) (h : c.isShort p.name = true) :
    needsSuffix c (spelling p) (ps.map fun q => ⟨spelling q, c.isShort q.name⟩) = true ↔
      Crowded c ps p := by
  unfold needsSuffix
  simp only [List.countP_map, Function.comp_def, Bool.or_eq_true, Bool.and_eq_true,
    decide_eq_true_eq, beq_iff_eq]
  rw [one_lt_alike_iff hnodup hps hp h, one_lt_unsuggested_iff hnodup hps]
  constructor
  · exact fun hor => ⟨spelling p, hps p hp, hor⟩
  · rintro ⟨s, hs, hor⟩
    rwa [(hps p hp).unique hs]

/-- A parameter has a suffix. -/
theorem exists_suffixed (c : Conventions) (ps : List Parameter) (p : Parameter) :
    ∃ x, Suffixed c ps p x := by
  by_cases hc : Crowded c ps p
  · exact ⟨_, .inl ⟨hc, rfl⟩⟩
  · exact ⟨_, .inr ⟨hc, rfl⟩⟩

/-- The suffix of a crowded parameter is its capitalized name. -/
theorem Suffixed.of_crowded {x : String} (hx : Suffixed c ps p x) (hc : Crowded c ps p) :
    x = Text.capitalize p.name :=
  (hx.resolve_right fun h => h.1 hc).2

/-- A parameter that is not crowded has no suffix. -/
theorem Suffixed.of_not_crowded {x : String} (hx : Suffixed c ps p x) (hc : ¬ Crowded c ps p) :
    x = "" :=
  (hx.resolve_left fun h => hc h.1).2

/-- A parameter has one suffix. -/
theorem Suffixed.unique {x y : String} (hx : Suffixed c ps p x) (hy : Suffixed c ps p y) :
    x = y := by
  by_cases hc : Crowded c ps p
  · rw [hx.of_crowded hc, hy.of_crowded hc]
  · rw [hx.of_not_crowded hc, hy.of_not_crowded hc]

/-- A short-named parameter is called by its stem with its suffix. -/
theorem identified_of_suffixed {x : String} (hnodup : ps.Nodup)
    (hps : ∀ q ∈ ps, ∃ t, q.SpelledAs c t) (hp : p ∈ ps) (hs : p.SpelledAs c s)
    (h : c.isShort p.name = true) (hx : Suffixed c ps p x) :
    Identified c ps p (stem c s ++ x) := by
  choose! spelling hspelling using hps
  have hid := identified_of_short hspelling hs h
  have hcrowded := needsSuffix_iff_crowded hnodup hspelling hp h
  rw [hs.unique (hspelling p hp)] at hid ⊢
  -- The program decides between the two by counting, the suffix by being crowded.
  rcases hx with ⟨hc, rfl⟩ | ⟨hc, rfl⟩
  · rwa [shortIdentifier, if_pos (hcrowded.mpr hc)] at hid
  · rw [String.append_empty]
    rwa [shortIdentifier, if_neg fun hn => hc (hcrowded.mp hn)] at hid

end Parameter

end BridgeNames
