import BridgeNames.Parameter.Identifier
import Mathlib.Data.List.Infix

/-!
# Stems

The stem of a short-named parameter is the identifier suggested for the spelling of its type, or
the fallback. No suggested identifier starts another one (`suggestions_prefix_free`), so a stem can
be read off an identifier whatever is put behind it (`append_ne_append_of_ne`), as long as the
fallback keeps to the same rule.
-/

namespace BridgeNames.Parameter

/-- The stems that short-named parameters can have. -/
def stems (c : Conventions) : List String :=
  c.fallback :: suggestions.map Prod.snd

/-- No text of the list starts another one. -/
def PrefixFree (texts : List String) : Prop :=
  ∀ a ∈ texts, ∀ b ∈ texts, a.toList <+: b.toList → a = b

/-- The fallback neither starts a suggested identifier nor is started by one. -/
def FallbackApart (c : Conventions) : Prop :=
  ∀ a ∈ suggestions.map Prod.snd,
    ¬ c.fallback.toList <+: a.toList ∧ ¬ a.toList <+: c.fallback.toList

/-- A suggested identifier that starts another one is suggested for the same spelling. -/
theorem suggestions_prefix_free :
    ∀ e ∈ suggestions, ∀ f ∈ suggestions, e.2.toList <+: f.2.toList → e = f := by
  decide

/-- A suggestion is an entry of the table. -/
theorem mem_suggestions {s a : String} (h : suggestion? s = some a) : (s, a) ∈ suggestions := by
  obtain ⟨before, after, heq, -⟩ := List.lookup_eq_some_iff.mp h
  rw [heq]
  simp

/-- Every stem is one of the stems. -/
theorem stem_mem_stems (c : Conventions) (s : String) : stem c s ∈ stems c := by
  unfold stem stems
  cases h : suggestion? s with
  | none => exact List.mem_cons_self
  | some a => exact List.mem_cons_of_mem _ (List.mem_map_of_mem (mem_suggestions h))

/-- Two spellings with the same suggestion are the same. -/
theorem eq_of_suggestion?_eq {s t a : String} (hs : suggestion? s = some a)
    (ht : suggestion? t = some a) : s = t :=
  congrArg Prod.fst
    (suggestions_prefix_free _ (mem_suggestions hs) _ (mem_suggestions ht) List.prefix_rfl)

/-- The stems of conventions whose fallback is apart from the suggested identifiers. -/
theorem prefixFree_stems_of_fallbackApart {c : Conventions} (h : FallbackApart c) :
    PrefixFree (stems c) := by
  intro a ha b hb hab
  rcases List.mem_cons.mp ha with rfl | ha <;> rcases List.mem_cons.mp hb with rfl | hb
  · rfl
  · exact absurd hab (h b hb).1
  · exact absurd hab (h a ha).2
  · obtain ⟨e, he, rfl⟩ := List.mem_map.mp ha
    obtain ⟨f, hf, rfl⟩ := List.mem_map.mp hb
    rw [suggestions_prefix_free e he f hf hab]

/-- The usual fallback is a suggested identifier itself. -/
theorem prefixFree_stems_standard : PrefixFree (stems .standard) := by
  unfold PrefixFree
  decide

/-- Identifiers with different stems are different, whatever is put behind the stems. -/
theorem append_ne_append_of_ne {texts : List String} (h : PrefixFree texts) {a b : String}
    (ha : a ∈ texts) (hb : b ∈ texts) (hab : a ≠ b) (x y : String) : a ++ x ≠ b ++ y := by
  intro heq
  have hlist : a.toList ++ x.toList = b.toList ++ y.toList := by
    rw [← String.toList_append, ← String.toList_append, heq]
  have hpa : a.toList <+: a.toList ++ x.toList := List.prefix_append _ _
  have hpb : b.toList <+: a.toList ++ x.toList := hlist ▸ List.prefix_append _ _
  -- Two texts that start the same one start one another.
  rcases List.prefix_or_prefix_of_prefix hpa hpb with hp | hp
  · exact hab (h a ha b hb hp)
  · exact hab (h b hb a ha hp).symm

end BridgeNames.Parameter
