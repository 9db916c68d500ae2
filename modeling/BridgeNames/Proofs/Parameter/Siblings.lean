import BridgeNames.Proofs.Parameter.Collision
import BridgeNames.Proofs.Parameter.Declaration
import BridgeNames.Proofs.Reporting
import Mathlib.Data.List.Perm.Basic

/-!
# What a parameter's identifier depends on

Naming a parameter looks at the other parameters of its signature, but it sees little of them: of
each one the spelling of its type and whether its name is short (`profile`), and of all together how
many there are of each kind. So the order of a signature and the very names of the other parameters
do not matter (`identifier_answer_of_perm`). The order does decide which error is given if several
types have no spelling, but not whether one is given. What is reported along with the identifier
does not depend on the others at all (`identifier_queue`).
-/

namespace BridgeNames.Parameter

open Naming

variable {c : Conventions} {p : Parameter} {signature other : List Parameter}

/-- What there is to see of a parameter when another one is named: the spelling of its type, if
there is one, and whether its name is short. -/
def profile (c : Conventions) (p : Parameter) : Except Error String × Bool :=
  ((ObjectiveC.spell c p.type).answer, c.isShort p.name)

/-- The parameter with the profile has the outline. -/
def Outlined (profile : Except Error String × Bool) (o : Outline) : Prop :=
  profile = (.ok o.spelling, o.isShort)

/-- The parameter gets the same answer in both signatures, whatever has been said before. -/
def NamedAlike (c : Conventions) (p : Parameter) (signature other : List Parameter) : Prop :=
  ∀ j k : Journal,
    ((p.identifier c signature).run.run j).1 = ((p.identifier c other).run.run k).1

/-- A parameter without a spelling has no outline, and any other one has that of its profile. -/
theorem outline_answer (q : Parameter) :
    (q.outline c).answer =
      (ObjectiveC.spell c q.type).answer.map fun s => ⟨s, c.isShort q.name⟩ :=
  ((ObjectiveC.spell_steady c q.type).bind_pure _).answer_eq

/-- The outlines of a list are those of its first parameter and of the rest. -/
theorem outlines_answer_cons (q : Parameter) (rest : List Parameter) :
    (outlines c (q :: rest)).answer =
      (q.outline c).answer.bind fun o => (outlines c rest).answer.map (o :: ·) := by
  have hrest (o : Outline) :
      Reports (outlines c rest >>= fun os => pure (o :: os)) _ _ _ :=
    (outlines_steady c rest).bind_pure (o :: ·)
  rw [outlines, answer_bind _ fun o => (hrest o).steady]
  exact congrArg _ (funext fun o => (hrest o).answer_eq)

/-- The outlines of a list are found exactly if every parameter has one. -/
theorem outlines_answer_eq_ok_iff {os : List Outline} :
    (outlines c signature).answer = .ok os ↔
      List.Forall₂ Outlined (signature.map (profile c)) os := by
  induction signature generalizing os with
  | nil =>
    rw [List.map_nil, List.forall₂_nil_left_iff]
    exact ⟨fun h => (Except.ok.inj h).symm, fun h => congrArg _ h.symm⟩
  | cons q rest ih =>
    rw [List.map_cons, List.forall₂_cons_left_iff, outlines_answer_cons, outline_answer]
    unfold profile Outlined
    cases (ObjectiveC.spell c q.type).answer with
    | error e =>
      refine iff_of_false (fun h => nomatch h) ?_
      rintro ⟨o, tail, ho, -, -⟩
      cases ho
    | ok s =>
      constructor
      · intro h
        cases hrest : (outlines c rest).answer with
        | error e =>
          rw [hrest] at h
          cases h
        | ok tail =>
          rw [hrest] at h
          exact ⟨⟨s, c.isShort q.name⟩, tail, rfl, ih.mp hrest, (Except.ok.inj h).symm⟩
      · rintro ⟨⟨_, _⟩, tail, ho, htail, rfl⟩
        rw [ih.mpr htail]
        cases ho
        rfl

/-- If there is the same to see of two lists, up to the order, then their outlines are the same up
to the order. -/
theorem outlines_answer_of_perm (h : (signature.map (profile c)).Perm (other.map (profile c)))
    {os : List Outline} (hos : (outlines c signature).answer = .ok os) :
    ∃ others, (outlines c other).answer = .ok others ∧ others.Perm os := by
  have hall : List.Forall₂ Outlined (signature.map (profile c)) os :=
    outlines_answer_eq_ok_iff.mp hos
  obtain ⟨others, hothers, hperm⟩ := List.perm_comp_forall₂ h.symm hall
  exact ⟨others, outlines_answer_eq_ok_iff.mpr hothers, hperm⟩

/-- Whether a suffix is needed does not depend on the order of the signature. -/
theorem needsSuffix_of_perm {os others : List Outline} (h : os.Perm others) (spelling : String) :
    needsSuffix c spelling os = needsSuffix c spelling others := by
  unfold needsSuffix
  rw [h.countP_eq, h.countP_eq]

/-- The identifier of a short-named parameter does not depend on the order of the signature. -/
theorem shortIdentifier_of_perm {os others : List Outline} (h : os.Perm others)
    (name spelling : String) :
    shortIdentifier c name spelling os = shortIdentifier c name spelling others := by
  unfold shortIdentifier
  rw [needsSuffix_of_perm h]

/-- An identifier does not change if there is the same to see of the signature, up to the order. -/
theorem identifier_answer_of_perm (h : (signature.map (profile c)).Perm (other.map (profile c)))
    {name : String} (hname : (p.identifier c signature).answer = .ok name) :
    (p.identifier c other).answer = .ok name := by
  cases hshort : c.isShort p.name with
  | false =>
    rw [identifier_answer_of_long hshort] at hname ⊢
    exact hname
  | true =>
    rw [identifier_answer_of_short hshort] at hname ⊢
    cases hspell : (ObjectiveC.spell c p.type).answer with
    | error e =>
      rw [hspell] at hname
      cases hname
    | ok s =>
      cases hos : (outlines c signature).answer with
      | error e =>
        rw [hspell, hos] at hname
        cases hname
      | ok os =>
        obtain ⟨others, hothers, hperm⟩ := outlines_answer_of_perm h hos
        rw [hspell, hos] at hname
        rw [hothers, ← hname]
        exact congrArg Except.ok (shortIdentifier_of_perm hperm p.name s)

/-- So neither does the failure to find one, although the error can be another. -/
theorem exists_identifier_error_of_perm
    (h : (signature.map (profile c)).Perm (other.map (profile c)))
    (hother : ∃ e, (p.identifier c other).answer = .error e) :
    ∃ e, (p.identifier c signature).answer = .error e := by
  obtain ⟨e, he⟩ := hother
  cases hanswer : (p.identifier c signature).answer with
  | error e => exact ⟨e, rfl⟩
  | ok name => cases he.symm.trans (identifier_answer_of_perm h hanswer)

/-- If all types of a signature have spellings, then all of the answer depends only on what there is
to see of the signature: a failure is then due to the parameter's own type. -/
theorem namedAlike_of_perm (hsignature : ∀ q ∈ signature, q.isSpelled c = true)
    (h : (signature.map (profile c)).Perm (other.map (profile c))) :
    NamedAlike c p signature other := by
  have hanswer : (p.identifier c signature).answer = (p.identifier c other).answer := by
    cases hshort : c.isShort p.name with
    | false => rw [identifier_answer_of_long hshort, identifier_answer_of_long hshort]
    | true =>
      obtain ⟨os, hos⟩ := exists_outlines hsignature
      obtain ⟨others, hothers, hperm⟩ := outlines_answer_of_perm h hos
      rw [identifier_answer_of_short hshort, identifier_answer_of_short hshort, hos, hothers]
      refine congrArg _ (funext fun s => congrArg Except.ok ?_)
      exact shortIdentifier_of_perm hperm.symm p.name s
  intro j k
  rw [(identifier_steady c p signature).run_fst j, (identifier_steady c p other).run_fst k, hanswer]

/-- Naming a short-named parameter adds to the queue what spelling its own type adds, and naming a
long-named one adds nothing. -/
theorem identifier_queue (c : Conventions) (p : Parameter) (signature : List Parameter)
    (j : Journal) :
    ((p.identifier c signature).run.run j).2.queue =
      if c.isShort p.name then ((ObjectiveC.spell c p.type).run.run j).2.queue else j.queue := by
  rw [(identifier_steady c p signature).run_queue, identifier_reported]
  split
  · exact ((ObjectiveC.spell_steady c p.type).run_queue j).symm
  · exact j.queue.append_nil

/-- The answer for a parameter depends on a signature whose types are all spelled only through how
often each spelling occurs with a short and with a long name. So it does not change if the signature
is put into another order, nor if another parameter gets a name that is short just if the old one
was. Whether naming the parameter fails is independent of the order of any signature, and what it
reports is independent of the signature: it is what spelling the parameter's own type reports if the
name is short, and nothing if it is long. -/
theorem identifier_depends_on_profiles (c : Conventions) (p : Parameter) :
    (∀ signature other : List Parameter, (∀ q ∈ signature, q.isSpelled c = true) →
      (signature.map (profile c)).Perm (other.map (profile c)) →
        NamedAlike c p signature other) ∧
      (∀ signature other : List Parameter, (∀ q ∈ signature, q.isSpelled c = true) →
        signature.Perm other → NamedAlike c p signature other) ∧
      (∀ (before after : List Parameter) (q : Parameter) (name : String),
        (∀ r ∈ before ++ q :: after, r.isSpelled c = true) → c.isShort name = c.isShort q.name →
          NamedAlike c p (before ++ q :: after) (before ++ ⟨name, q.type⟩ :: after)) ∧
      (∀ signature other : List Parameter, signature.Perm other → ∀ j k : Journal,
        (∃ e, ((p.identifier c signature).run.run j).1 = .error e) ↔
          ∃ e, ((p.identifier c other).run.run k).1 = .error e) ∧
      ∀ (signature : List Parameter) (j : Journal),
        ((p.identifier c signature).run.run j).2.queue =
          if c.isShort p.name then ((ObjectiveC.spell c p.type).run.run j).2.queue
          else j.queue := by
  refine ⟨fun signature other => namedAlike_of_perm, ?_, ?_, ?_, identifier_queue c p⟩
  · intro signature other hsignature h
    exact namedAlike_of_perm hsignature (h.map _)
  · intro before after q name hsignature hname
    refine namedAlike_of_perm hsignature ?_
    -- There is the same to see of the parameter under either name.
    have hprofile : profile c ⟨name, q.type⟩ = profile c q := Prod.ext rfl hname
    rw [List.map_append, List.map_append, List.map_cons, List.map_cons, hprofile]
  · intro signature other h j k
    rw [(identifier_steady c p signature).run_fst j, (identifier_steady c p other).run_fst k]
    have hprofiles : (signature.map (profile c)).Perm (other.map (profile c)) := h.map _
    exact ⟨exists_identifier_error_of_perm hprofiles.symm,
      exists_identifier_error_of_perm hprofiles⟩

/-- The root object of the mixed signature is called the same if the signature is turned around. -/
theorem mixedSignature_namedAlike_reverse :
    (∀ q ∈ mixedSignature, q.isSpelled .standard = true) ∧
      (mixedSignature.map (profile .standard)).Perm
        (mixedSignature.reverse.map (profile .standard)) ∧
      NamedAlike .standard mixedSignature[0] mixedSignature mixedSignature.reverse := by
  have hspelled : ∀ q ∈ mixedSignature, q.isSpelled .standard = true := fun q hq =>
    isSpelled_iff.mpr (mixedSignature_spelled .standard q hq)
  have hperm : mixedSignature.Perm mixedSignature.reverse := (List.reverse_perm _).symm
  exact ⟨hspelled, hperm.map _,
    (identifier_depends_on_profiles .standard mixedSignature[0]).1 _ _ hspelled (hperm.map _)⟩

end BridgeNames.Parameter
