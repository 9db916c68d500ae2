import BridgeNames.Proofs.Parameter.Declaration
import Mathlib.Data.List.Perm.Subperm

/-!
# Identifiers in growing signatures

What happens to the identifier of a parameter when its signature gets more parameters. Both rules
that ask for a suffix count parameters, and more parameters can only raise a count
(`needsSuffix_of_countP_le`). The stem depends on the parameter alone. So a growing signature can
make a parameter take its suffix, but it never takes one back (`TakesSuffix.of_subperm`), and it
changes nothing else about the identifier.
-/

namespace BridgeNames.Parameter

open Naming

variable {c : Conventions} {p : Parameter} {signature larger : List Parameter} {s : String}

/-- The short-named parameter gets its capitalized name behind the stem in the signature. -/
def TakesSuffix (c : Conventions) (signature : List Parameter) (p : Parameter) : Prop :=
  c.isShort p.name = true ∧ ∃ s os, p.SpelledAs c s ∧ (outlines c signature).answer = .ok os ∧
    needsSuffix c s os = true

/-- An identifier that is found on the empty journal is found on every other one. -/
theorem identified_of_answer {name : String} (h : (p.identifier c signature).answer = .ok name) :
    Identified c signature p name := by
  intro j
  rw [(identifier_steady c p signature).run_fst j, h]

/-- A suffix that is needed is also needed among outlines of which none is counted less often. -/
theorem needsSuffix_of_countP_le {os others : List Outline}
    (hcount : ∀ P : Outline → Bool, os.countP P ≤ others.countP P)
    (h : needsSuffix c s os = true) : needsSuffix c s others = true := by
  simp only [needsSuffix, Bool.or_eq_true, Bool.and_eq_true, decide_eq_true_eq] at h ⊢
  rcases h with halike | ⟨hstem, hunsuggested⟩
  · exact .inl (Nat.lt_of_lt_of_le halike (hcount _))
  · exact .inr ⟨hstem, Nat.lt_of_lt_of_le hunsuggested (hcount _)⟩

/-- Whether a parameter takes its suffix in a spelled signature is decided by the outlines. -/
theorem takesSuffix_iff {spelling : Parameter → String}
    (hsignature : ∀ q ∈ signature, q.SpelledAs c (spelling q)) (hs : p.SpelledAs c s)
    (hshort : c.isShort p.name = true) :
    TakesSuffix c signature p ↔
      needsSuffix c s (signature.map fun q => ⟨spelling q, c.isShort q.name⟩) = true := by
  obtain ⟨ds, rs, hout⟩ := outlines_reports signature hsignature
  constructor
  · rintro ⟨-, t, os, ht, hos, hneeds⟩
    have hos' : os = signature.map fun q => ⟨spelling q, c.isShort q.name⟩ :=
      Except.ok.inj (hos.symm.trans hout.answer_eq)
    rwa [hs.unique ht, ← hos']
  · exact fun hneeds => ⟨hshort, s, _, hs, hout.answer_eq, hneeds⟩

/-- A parameter keeps its suffix in a larger signature. -/
theorem TakesSuffix.of_subperm (h : TakesSuffix c signature p)
    (hlarger : ∀ q ∈ larger, q.isSpelled c = true) (hsub : signature.Subperm larger) :
    TakesSuffix c larger p := by
  have hspelled (q : Parameter) (hq : q ∈ larger) : ∃ s, q.SpelledAs c s :=
    isSpelled_iff.mp (hlarger q hq)
  choose! spelling hspelling using hspelled
  have hspelling' (q : Parameter) (hq : q ∈ signature) : q.SpelledAs c (spelling q) :=
    hspelling q (hsub.subset hq)
  obtain ⟨hshort, s, -, hs, -⟩ := id h
  have hneeds := (takesSuffix_iff hspelling' hs hshort).mp h
  refine (takesSuffix_iff hspelling hs hshort).mpr (needsSuffix_of_countP_le (fun P => ?_) hneeds)
  -- The outlines with a property are those of the parameters whose outline has it.
  rw [List.countP_map, List.countP_map]
  exact hsub.countP_le _

/-- A short-named parameter is called by its stem, with its capitalized name behind it if it takes
its suffix. -/
theorem exists_identified_of_short (hsignature : ∀ q ∈ signature, q.isSpelled c = true)
    (hs : p.SpelledAs c s) (hshort : c.isShort p.name = true) :
    (TakesSuffix c signature p → Identified c signature p (stem c s ++ Text.capitalize p.name)) ∧
      (¬ TakesSuffix c signature p → Identified c signature p (stem c s)) := by
  have hspelled (q : Parameter) (hq : q ∈ signature) : ∃ s, q.SpelledAs c s :=
    isSpelled_iff.mp (hsignature q hq)
  choose! spelling hspelling using hspelled
  have hid := identified_of_short hspelling hs hshort
  rw [takesSuffix_iff hspelling hs hshort]
  unfold shortIdentifier at hid
  constructor
  · intro hneeds
    rwa [if_pos hneeds] at hid
  · intro hneeds
    rwa [if_neg hneeds] at hid

/-- Let a signature grow, by any parameters at any places, and let the type of a parameter and all
types of the larger signature have spellings. Then the identifier of the parameter stays what it
was, or it gets the capitalized name of the parameter behind it; and it stays what it was if it had
that there before. -/
theorem identifier_of_subperm (c : Conventions) {p : Parameter} {signature larger : List Parameter}
    (hp : p.isSpelled c = true) (hlarger : ∀ q ∈ larger, q.isSpelled c = true)
    (hsub : signature.Subperm larger) :
    ∃ name grown, Identified c signature p name ∧ Identified c larger p grown ∧
      (grown = name ∨ grown = name ++ Text.capitalize p.name) ∧
      (TakesSuffix c signature p → grown = name) := by
  have hsignature (q : Parameter) (hq : q ∈ signature) : q.isSpelled c = true :=
    hlarger q (hsub.subset hq)
  cases hshort : c.isShort p.name with
  | false =>
    exact ⟨p.name, p.name, identified_of_long hshort, identified_of_long hshort, .inl rfl,
      fun _ => rfl⟩
  | true =>
    obtain ⟨s, hs⟩ := isSpelled_iff.mp hp
    obtain ⟨hold, hbare⟩ := exists_identified_of_short hsignature hs hshort
    obtain ⟨hnew, hstill⟩ := exists_identified_of_short hlarger hs hshort
    by_cases htakes : TakesSuffix c signature p
    · have hkeeps : TakesSuffix c larger p := htakes.of_subperm hlarger hsub
      exact ⟨_, _, hold htakes, hnew hkeeps, .inl rfl, fun _ => rfl⟩
    · by_cases htakes' : TakesSuffix c larger p
      · exact ⟨_, _, hbare htakes, hnew htakes', .inr rfl, fun h => absurd h htakes⟩
      · exact ⟨_, _, hbare htakes, hstill htakes', .inl rfl, fun _ => rfl⟩

/-- A class of its own as the type of the only parameter. -/
def shapeSignature : List Parameter :=
  [⟨"x", .declared ⟨"App", "Shape", none, .reference, []⟩⟩]

/-- The same parameter after one of another class and before a number. -/
def brushSignature : List Parameter :=
  ⟨"y", .declared ⟨"App", "Brush", none, .reference, []⟩⟩ ::
    (shapeSignature ++ [⟨"count", .declared ⟨"System", "Int32", none, .scalar .int32, []⟩⟩])

/-- The parameter takes its suffix as soon as the other class is there. -/
theorem shape_identifier_grows :
    shapeSignature[0].isSpelled .standard = true ∧
      (∀ q ∈ brushSignature, q.isSpelled .standard = true) ∧
      shapeSignature.Subperm brushSignature ∧
      (∃ name grown, Identified .standard shapeSignature shapeSignature[0] name ∧
        Identified .standard brushSignature shapeSignature[0] grown ∧
        (grown = name ∨ grown = name ++ Text.capitalize shapeSignature[0].name) ∧
        (TakesSuffix .standard shapeSignature shapeSignature[0] → grown = name)) ∧
      Identified .standard shapeSignature shapeSignature[0] "anObject" ∧
      Identified .standard brushSignature shapeSignature[0] "anObjectX" := by
  have hspelled : ∀ q ∈ brushSignature, q.isSpelled .standard = true := by decide
  have hsub : shapeSignature.Subperm brushSignature :=
    ((List.prefix_append _ _).sublist.trans (List.sublist_cons_self _ _)).subperm
  exact ⟨rfl, hspelled, hsub, identifier_of_subperm .standard rfl hspelled hsub,
    identified_of_answer (by decide +kernel), identified_of_answer (by decide +kernel)⟩

end BridgeNames.Parameter
