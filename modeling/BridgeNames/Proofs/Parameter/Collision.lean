import BridgeNames.Proofs.Parameter.Identifier
import BridgeNames.Proofs.Parameter.Stem

/-!
# Collisions of identifiers

When two parameters of a signature get the same identifier. The stems are prefix-free, so two
short-named parameters can only collide if their stems are the same. Then their types have the same
spelling, or both have no suggestion, and in these cases both are crowded and keep apart by their
names. What is left is that the stem of one is the suggestion for its type and the stem of the
other is the fallback that equals it (`MeetsAtFallback`), which nothing guards against if the other
one's type is the only one without a suggestion. A long-named parameter collides only if its name
happens to be the identifier of a short-named one (`KeepsIdentifierOf`). `identifiers_eq_iff` puts
the cases together; with a fallback apart from the suggestions and long names apart from the stems
nothing is left, and all identifiers of a signature differ.
-/

namespace BridgeNames.Parameter

variable {c : Conventions} {ps : List Parameter} {p q : Parameter} {s t : String}

/-- The identifier suggested for the type of the parameter is the fallback itself. -/
def SuggestsFallback (c : Conventions) (p : Parameter) : Prop :=
  ∃ s, p.SpelledAs c s ∧ suggestion? s = some c.fallback

/-- The long-named parameter keeps a name that is also the identifier of the short-named one. -/
structure KeepsIdentifierOf (c : Conventions) (ps : List Parameter) (p q : Parameter) : Prop where
  isLong : c.isShort p.name = false
  isShort : c.isShort q.name = true
  /-- The name is the stem of the short-named parameter with its suffix. -/
  name_eq : ∃ s x, q.SpelledAs c s ∧ Suffixed c ps q x ∧ p.name = stem c s ++ x

/-- Two short-named parameters are both called by the bare fallback. -/
structure MeetsAtFallback (c : Conventions) (ps : List Parameter) (p q : Parameter) : Prop where
  isShort_first : c.isShort p.name = true
  isShort_second : c.isShort q.name = true
  /-- For the first one, the fallback is the suggestion for its type. -/
  suggestsFallback : p.SuggestsFallback c
  /-- For the second one it is not, since its type is the only one without a suggestion. -/
  unsuggested : q.Unsuggested c
  only_unsuggested : ∀ r ∈ ps, r.Unsuggested c → r = q
  /-- The first one has no name to put behind the fallback, or it is the only short-named parameter
  whose type suggests the fallback. -/
  unsuffixed : p.name = "" ∨ ∀ r ∈ ps, c.isShort r.name = true → r.SuggestsFallback c → r = p

/-- Two parameters of the signature collide. -/
def Collide (c : Conventions) (ps : List Parameter) (p q : Parameter) : Prop :=
  KeepsIdentifierOf c ps p q ∨ KeepsIdentifierOf c ps q p ∨
    MeetsAtFallback c ps p q ∨ MeetsAtFallback c ps q p

/-- Collisions are mutual. -/
theorem collide_comm : Collide c ps p q ↔ Collide c ps q p := by
  unfold Collide
  tauto

/-- Two long-named parameters do not collide. -/
theorem not_collide_of_long (hp : c.isShort p.name = false) (hq : c.isShort q.name = false) :
    ¬ Collide c ps p q := by
  rintro (h | h | h | h)
  · exact Bool.false_ne_true (hq.symm.trans h.isShort)
  · exact Bool.false_ne_true (hp.symm.trans h.isShort)
  · exact Bool.false_ne_true (hp.symm.trans h.isShort_first)
  · exact Bool.false_ne_true (hp.symm.trans h.isShort_second)

/-- A long-named parameter collides with a short-named one only by keeping its identifier. -/
theorem collide_iff_keepsIdentifierOf (hp : c.isShort p.name = false)
    (hq : c.isShort q.name = true) : Collide c ps p q ↔ KeepsIdentifierOf c ps p q := by
  refine ⟨?_, .inl⟩
  rintro (h | h | h | h)
  · exact h
  · exact absurd (h.isLong.symm.trans hq) Bool.false_ne_true
  · exact absurd (hp.symm.trans h.isShort_first) Bool.false_ne_true
  · exact absurd (hp.symm.trans h.isShort_second) Bool.false_ne_true

/-- Two short-named parameters collide only by meeting at the fallback. -/
theorem collide_iff_meetsAtFallback (hp : c.isShort p.name = true) (hq : c.isShort q.name = true) :
    Collide c ps p q ↔ MeetsAtFallback c ps p q ∨ MeetsAtFallback c ps q p := by
  refine ⟨?_, fun h => .inr (.inr h)⟩
  rintro (h | h | h)
  · exact absurd (h.isLong.symm.trans hp) Bool.false_ne_true
  · exact absurd (h.isLong.symm.trans hq) Bool.false_ne_true
  · exact h

/-- The stem for a type without a suggestion is the fallback. -/
theorem Unsuggested.stem_eq (hp : p.Unsuggested c) (hs : p.SpelledAs c s) :
    stem c s = c.fallback := by
  rw [stem, hs.unsuggested_iff.mp hp]
  rfl

/-- The stem for a type whose suggestion is the fallback is the fallback. -/
theorem SuggestsFallback.stem_eq (hp : p.SuggestsFallback c) (hs : p.SpelledAs c s) :
    stem c s = c.fallback := by
  obtain ⟨t, ht, hsome⟩ := hp
  rw [hs.unique ht, stem, hsome]
  rfl

/-- Crowded parameters of the same stem keep apart by their names. -/
theorem stem_append_ne_of_crowded {x y : String}
    (hpq : Text.capitalize p.name ≠ Text.capitalize q.name) (hstem : stem c s = stem c t)
    (hx : Suffixed c ps p x) (hy : Suffixed c ps q y) (hcp : Crowded c ps p)
    (hcq : Crowded c ps q) : stem c s ++ x ≠ stem c t ++ y := by
  rw [hx.of_crowded hcp, hy.of_crowded hcq, hstem]
  exact fun h => hpq ((String.append_right_inj _).mp h)

/-- A parameter whose stem is the fallback is crowded by two types without a suggestion. -/
theorem crowded_of_unsuggested {r : Parameter} (hs : p.SpelledAs c s)
    (hstem : stem c s = c.fallback) (hq : q ∈ ps) (hr : r ∈ ps) (hqr : q ≠ r)
    (huq : q.Unsuggested c) (hur : r.Unsuggested c) : Crowded c ps p :=
  ⟨s, hs, .inr ⟨hstem, q, hq, r, hr, hqr, huq, hur⟩⟩

/-- A parameter with the only type without a suggestion is not crowded. -/
theorem not_crowded_of_only_unsuggested (hq : q.Unsuggested c)
    (honly : ∀ r ∈ ps, r.Unsuggested c → r = q) : ¬ Crowded c ps q := by
  rintro ⟨s, hs, ⟨r, hr, hrq, -, hrs⟩ | ⟨-, r, hr, r', hr', hne, hur, hur'⟩⟩
  · -- A parameter with the same spelling would have no suggestion either.
    exact hrq (honly r hr ⟨s, hrs, hs.unsuggested_iff.mp hq⟩)
  · exact hne ((honly r hr hur).trans (honly r' hr' hur').symm)

/-- In a signature with only one type that has no suggestion, a parameter whose type suggests the
fallback is crowded exactly if another short-named one has a type that does so. -/
theorem crowded_iff_of_suggestsFallback (hp : p.SuggestsFallback c)
    (honly : ∀ r ∈ ps, r.Unsuggested c → r = q) :
    Crowded c ps p ↔ ∃ r ∈ ps, r ≠ p ∧ c.isShort r.name = true ∧ r.SuggestsFallback c := by
  obtain ⟨s, hs, hsome⟩ := hp
  constructor
  · rintro ⟨t, ht, ⟨r, hr, hrp, hshort, hrt⟩ | ⟨-, r, hr, r', hr', hne, hur, hur'⟩⟩
    · rw [← hs.unique ht] at hrt
      exact ⟨r, hr, hrp, hshort, s, hrt, hsome⟩
    · exact absurd ((honly r hr hur).trans (honly r' hr' hur').symm) hne
  · rintro ⟨r, hr, hrp, hshort, t, hrt, hsome'⟩
    rw [eq_of_suggestion?_eq hsome' hsome] at hrt
    exact ⟨s, hs, .inl ⟨r, hr, hrp, hshort, hrt⟩⟩

/-- In such a signature, a parameter whose type suggests the fallback has no suffix exactly if it
has no name to put there, or no other short-named one has a type that suggests the fallback. -/
theorem suffix_eq_empty_iff {x : String} (hx : Suffixed c ps p x) (hp : p.SuggestsFallback c)
    (honly : ∀ r ∈ ps, r.Unsuggested c → r = q) :
    x = "" ↔
      p.name = "" ∨ ∀ r ∈ ps, c.isShort r.name = true → r.SuggestsFallback c → r = p := by
  have hcrowded := crowded_iff_of_suggestsFallback hp honly
  -- A crowded parameter has its name behind the stem, which is nothing only if the name is empty.
  by_cases hc : Crowded c ps p
  · obtain ⟨r, hr, hrp, hshort, hsuggests⟩ := hcrowded.mp hc
    rw [hx.of_crowded hc, Text.capitalize_eq_empty_iff]
    exact (or_iff_left fun halone => hrp (halone r hr hshort hsuggests)).symm
  · refine iff_of_true (hx.of_not_crowded hc) (.inr fun r hr hshort hsuggests => ?_)
    by_contra hrp
    exact hc (hcrowded.mpr ⟨r, hr, hrp, hshort, hsuggests⟩)

/-- Of two short-named parameters, let the type of the first one suggest the fallback and that of
the second one have no suggestion. They get the same identifier exactly if they meet at the
fallback. -/
theorem stem_append_eq_iff_meetsAtFallback {x y : String} (hp : c.isShort p.name = true)
    (hq : c.isShort q.name = true) (hqps : q ∈ ps) (hsp : p.SpelledAs c s)
    (hsq : q.SpelledAs c t) (hfp : p.SuggestsFallback c) (huq : q.Unsuggested c)
    (hpq : Text.capitalize p.name ≠ Text.capitalize q.name) (hx : Suffixed c ps p x)
    (hy : Suffixed c ps q y) :
    stem c s ++ x = stem c t ++ y ↔ MeetsAtFallback c ps p q := by
  have hstem : stem c s = stem c t := (hfp.stem_eq hsp).trans (huq.stem_eq hsq).symm
  by_cases honly : ∀ r ∈ ps, r.Unsuggested c → r = q
  · -- Nothing is put behind the stem of the second one, so the suffix of the first one decides.
    rw [hy.of_not_crowded (not_crowded_of_only_unsuggested huq honly), hstem,
      String.append_right_inj, suffix_eq_empty_iff hx hfp honly]
    exact ⟨fun h => ⟨hp, hq, hfp, huq, honly, h⟩, fun h => h.unsuffixed⟩
  · -- A second type without a suggestion crowds both.
    obtain ⟨r, hr, hur, hrq⟩ : ∃ r ∈ ps, r.Unsuggested c ∧ r ≠ q := by
      push Not at honly
      exact honly
    have hcp : Crowded c ps p := crowded_of_unsuggested hsp (hfp.stem_eq hsp) hr hqps hrq hur huq
    have hcq : Crowded c ps q := crowded_of_unsuggested hsq (huq.stem_eq hsq) hr hqps hrq hur huq
    have hne := stem_append_ne_of_crowded hpq hstem hx hy hcp hcq
    exact iff_of_false hne fun h => honly h.only_unsuggested

/-- A type whose suggestion is the fallback has a suggestion. -/
theorem SuggestsFallback.not_unsuggested (hp : p.SuggestsFallback c) : ¬ p.Unsuggested c := by
  obtain ⟨s, hs, hsome⟩ := hp
  rw [hs.unsuggested_iff, hsome]
  exact Option.some_ne_none _

/-- A short-named parameter that shares its stem with another one is crowded, unless the stem is the
suggestion for the type of one of them and the fallback for the other. -/
theorem crowded_of_stem_eq (hp : p ∈ ps) (hq : q ∈ ps) (hpq : p ≠ q)
    (hshort : c.isShort q.name = true) (hsp : p.SpelledAs c s) (hsq : q.SpelledAs c t)
    (hstem : stem c s = stem c t)
    (hfp : ¬ (p.SuggestsFallback c ∧ q.Unsuggested c))
    (hfq : ¬ (q.SuggestsFallback c ∧ p.Unsuggested c)) : Crowded c ps p := by
  cases hs : suggestion? s with
  | some a =>
    cases ht : suggestion? t with
    | some b =>
      -- No identifier is suggested for two spellings, so the two types are spelled alike.
      have hab : a = b := by simpa [stem, hs, ht] using hstem
      subst hab
      rw [← eq_of_suggestion?_eq hs ht] at hsq
      exact ⟨s, hsp, .inl ⟨q, hq, hpq.symm, hshort, hsq⟩⟩
    | none =>
      have ha : a = c.fallback := by simpa [stem, hs, ht] using hstem
      exact absurd ⟨⟨s, hsp, ha ▸ hs⟩, t, hsq, ht⟩ hfp
  | none =>
    have hup : p.Unsuggested c := ⟨s, hsp, hs⟩
    cases ht : suggestion? t with
    | some b =>
      have hb : c.fallback = b := by simpa [stem, hs, ht] using hstem
      exact absurd ⟨⟨t, hsq, hb ▸ ht⟩, hup⟩ hfq
    | none => exact crowded_of_unsuggested hsp (hup.stem_eq hsp) hp hq hpq hup ⟨t, hsq, ht⟩

/-- Two short-named parameters get the same identifier exactly if they meet at the fallback. -/
theorem stem_append_eq_iff {x y : String} (hfree : PrefixFree (stems c)) (hp : p ∈ ps) (hq : q ∈ ps)
    (hne : p ≠ q) (hlp : c.isShort p.name = true) (hlq : c.isShort q.name = true)
    (hpq : Text.capitalize p.name ≠ Text.capitalize q.name) (hsp : p.SpelledAs c s)
    (hsq : q.SpelledAs c t) (hx : Suffixed c ps p x) (hy : Suffixed c ps q y) :
    stem c s ++ x = stem c t ++ y ↔ MeetsAtFallback c ps p q ∨ MeetsAtFallback c ps q p := by
  by_cases hfp : p.SuggestsFallback c ∧ q.Unsuggested c
  · have hnot : ¬ MeetsAtFallback c ps q p := fun h => hfp.1.not_unsuggested h.unsuggested
    rw [or_iff_left hnot]
    exact stem_append_eq_iff_meetsAtFallback hlp hlq hq hsp hsq hfp.1 hfp.2 hpq hx hy
  by_cases hfq : q.SuggestsFallback c ∧ p.Unsuggested c
  · have hnot : ¬ MeetsAtFallback c ps p q := fun h => hfq.1.not_unsuggested h.unsuggested
    rw [or_iff_right hnot, eq_comm]
    exact stem_append_eq_iff_meetsAtFallback hlq hlp hp hsq hsp hfq.1 hfq.2 hpq.symm hy hx
  · -- In every other case the identifiers differ, by their stems or by the names behind them.
    have hdiffer : stem c s ++ x ≠ stem c t ++ y := by
      by_cases hstem : stem c s = stem c t
      · have hcp := crowded_of_stem_eq hp hq hne hlq hsp hsq hstem hfp hfq
        have hcq := crowded_of_stem_eq hq hp hne.symm hlp hsq hsp hstem.symm hfq hfp
        exact stem_append_ne_of_crowded hpq hstem hx hy hcp hcq
      · exact append_ne_append_of_ne hfree (stem_mem_stems c s) (stem_mem_stems c t) hstem x y
    refine iff_of_false hdiffer ?_
    rintro (h | h)
    · exact hfp ⟨h.suggestsFallback, h.unsuggested⟩
    · exact hfq ⟨h.suggestsFallback, h.unsuggested⟩

/-- A long name is the identifier of a short-named parameter exactly if it is kept so. -/
theorem name_eq_iff_keepsIdentifierOf {y : String} (hlp : c.isShort p.name = false)
    (hlq : c.isShort q.name = true) (hsq : q.SpelledAs c t) (hy : Suffixed c ps q y) :
    p.name = stem c t ++ y ↔ KeepsIdentifierOf c ps p q := by
  constructor
  · exact fun h => ⟨hlp, hlq, t, y, hsq, hy, h⟩
  · intro hkeeps
    obtain ⟨s, x, hs, hx, h⟩ := hkeeps.name_eq
    rw [h, hs.unique hsq, hx.unique hy]

/-! ## Whole signatures -/

/-- If the images of the members with a property do not repeat, then those at different positions
have different images. -/
theorem ne_of_nodup_map_filter {α β : Type} {l : List α} {P : α → Bool} {f : α → β}
    (h : ((l.filter P).map f).Nodup) {i k : ℕ} (hi : i < l.length) (hk : k < l.length)
    (hik : i ≠ k) (hPi : P l[i] = true) (hPk : P l[k] = true) : f l[i] ≠ f l[k] := by
  rw [List.Nodup, List.pairwise_map, List.pairwise_filter, List.pairwise_iff_getElem] at h
  rcases Nat.lt_or_gt_of_ne hik with hlt | hgt
  · exact h i k hi hk hlt hPi hPk
  · exact (h k i hk hi hgt hPk hPi).symm

/-- Short names that differ when capitalized and long names that differ make different
parameters. -/
theorem nodup_of_names (hshort : ((ps.filter fun p => c.isShort p.name).map
      fun p => Text.capitalize p.name).Nodup)
    (hlong : ((ps.filter fun p => !c.isShort p.name).map fun p => p.name).Nodup) : ps.Nodup := by
  rw [List.Nodup, List.pairwise_iff_getElem]
  intro i k hi hk hlt heq
  cases h : c.isShort ps[i].name with
  | true =>
    have hk' : c.isShort ps[k].name = true := heq ▸ h
    exact ne_of_nodup_map_filter hshort hi hk hlt.ne h hk' (by rw [heq])
  | false =>
    have hi' : (!c.isShort ps[i].name) = true := by rw [h]; rfl
    have hk' : (!c.isShort ps[k].name) = true := heq ▸ hi'
    exact ne_of_nodup_map_filter hlong hi hk hlt.ne hi' hk' (by rw [heq])

/-- In a spelled signature whose short names differ when capitalized and whose long names differ,
two parameters get the same identifier exactly if they collide. -/
theorem identifiers_eq_iff (hfree : PrefixFree (stems c)) (hps : ∀ p ∈ ps, ∃ s, p.SpelledAs c s)
    (hshort : ((ps.filter fun p => c.isShort p.name).map fun p => Text.capitalize p.name).Nodup)
    (hlong : ((ps.filter fun p => !c.isShort p.name).map fun p => p.name).Nodup) {i k : ℕ}
    (hi : i < ps.length) (hk : k < ps.length) (hik : i ≠ k) :
    ∃ a b, Identified c ps ps[i] a ∧ Identified c ps ps[k] b ∧
      (a = b ↔ Collide c ps ps[i] ps[k]) := by
  have hnodup : ps.Nodup := nodup_of_names hshort hlong
  have hmi : ps[i] ∈ ps := List.getElem_mem hi
  have hmk : ps[k] ∈ ps := List.getElem_mem hk
  obtain ⟨s, hsi⟩ := hps _ hmi
  obtain ⟨t, hsk⟩ := hps _ hmk
  obtain ⟨x, hx⟩ := exists_suffixed c ps ps[i]
  obtain ⟨y, hy⟩ := exists_suffixed c ps ps[k]
  cases hli : c.isShort ps[i].name <;> cases hlk : c.isShort ps[k].name
  · have hne : ps[i].name ≠ ps[k].name :=
      ne_of_nodup_map_filter hlong hi hk hik (by rw [hli]; rfl) (by rw [hlk]; rfl)
    exact ⟨_, _, identified_of_long hli, identified_of_long hlk,
      iff_of_false hne (not_collide_of_long hli hlk)⟩
  · have hidk := identified_of_suffixed hnodup hps hmk hsk hlk hy
    refine ⟨_, _, identified_of_long hli, hidk, ?_⟩
    rw [name_eq_iff_keepsIdentifierOf hli hlk hsk hy, collide_iff_keepsIdentifierOf hli hlk]
  · have hidi := identified_of_suffixed hnodup hps hmi hsi hli hx
    refine ⟨_, _, hidi, identified_of_long hlk, ?_⟩
    rw [eq_comm, name_eq_iff_keepsIdentifierOf hlk hli hsi hx, collide_comm,
      collide_iff_keepsIdentifierOf hlk hli]
  · have hidi := identified_of_suffixed hnodup hps hmi hsi hli hx
    have hidk := identified_of_suffixed hnodup hps hmk hsk hlk hy
    have hne : ps[i] ≠ ps[k] := fun h => hik ((hnodup.getElem_inj_iff).mp h)
    have hcap : Text.capitalize ps[i].name ≠ Text.capitalize ps[k].name :=
      ne_of_nodup_map_filter hshort hi hk hik hli hlk
    refine ⟨_, _, hidi, hidk, ?_⟩
    rw [stem_append_eq_iff hfree hmi hmk hne hli hlk hcap hsi hsk hx hy,
      collide_iff_meetsAtFallback hli hlk]

/-- Under the usual conventions, two parameters of a spelled signature whose names differ, also when
capitalized, get the same identifier exactly if they collide. -/
theorem identifiers_eq_iff_collide (hps : ∀ p ∈ ps, ∃ s, p.SpelledAs .standard s)
    (hnames : (ps.map fun p => p.name).Nodup)
    (hcapitals : (ps.map fun p => Text.capitalize p.name).Nodup) {i k : ℕ} (hi : i < ps.length)
    (hk : k < ps.length) (hik : i ≠ k) :
    ∃ a b, Identified .standard ps ps[i] a ∧ Identified .standard ps ps[k] b ∧
      (a = b ↔ Collide .standard ps ps[i] ps[k]) := by
  have hshort := hcapitals.sublist
    ((ps.filter_sublist (p := fun p => Conventions.standard.isShort p.name)).map _)
  have hlong := hnames.sublist
    ((ps.filter_sublist (p := fun p => !Conventions.standard.isShort p.name)).map _)
  exact identifiers_eq_iff prefixFree_stems_standard hps hshort hlong hi hk hik

/-- A root object and an array of integers, both with short names. -/
def objectAndIntegers : List Parameter :=
  [⟨"o", .declared ⟨"System", "Object", none, .reference, []⟩⟩,
    ⟨"x", .wrapped .array (.declared ⟨"System", "Int32", none, .scalar .int32, []⟩) []⟩]

/-- The same two parameters and an integer with a long name. -/
def mixedSignature : List Parameter :=
  objectAndIntegers ++ [⟨"count", .declared ⟨"System", "Int32", none, .scalar .int32, []⟩⟩]

/-- The types of the mixed signature have spellings. -/
theorem mixedSignature_spelled (c : Conventions) : ∀ p ∈ mixedSignature, ∃ s, p.SpelledAs c s := by
  simp only [mixedSignature, objectAndIntegers, List.cons_append, List.nil_append,
    List.forall_mem_cons]
  exact ⟨⟨"NSObject", rfl⟩, ⟨"NSArray<NSNumber *> *", rfl⟩, ⟨"int", rfl⟩, by simp⟩

/-- In the mixed signature, the root object and the array of integers get the same identifier
exactly if they collide. -/
theorem mixedSignature_eq_iff_collide :
    (∀ p ∈ mixedSignature, ∃ s, p.SpelledAs .standard s) ∧
      (mixedSignature.map fun p => p.name).Nodup ∧
      (mixedSignature.map fun p => Text.capitalize p.name).Nodup ∧
      ∃ a b, Identified .standard mixedSignature mixedSignature[0] a ∧
        Identified .standard mixedSignature mixedSignature[1] b ∧
        (a = b ↔ Collide .standard mixedSignature mixedSignature[0] mixedSignature[1]) :=
  ⟨mixedSignature_spelled _, by decide, by decide,
    identifiers_eq_iff_collide (mixedSignature_spelled _) (by decide) (by decide) (by decide)
      (by decide) (by decide)⟩

/-- The root object and the array of integers do collide, although their names differ, also when
capitalized: both are called `anObject`. -/
theorem objectAndIntegers_collide :
    (∀ p ∈ objectAndIntegers, ∃ s, p.SpelledAs .standard s) ∧
      (objectAndIntegers.map fun p => p.name).Nodup ∧
      (objectAndIntegers.map fun p => Text.capitalize p.name).Nodup ∧
      Identified .standard objectAndIntegers objectAndIntegers[0] "anObject" ∧
      Identified .standard objectAndIntegers objectAndIntegers[1] "anObject" :=
  ⟨fun p hp => mixedSignature_spelled _ p (List.mem_append_left _ hp), by decide, by decide,
    fun _ => rfl, fun _ => rfl⟩

/-- If the fallback is apart from the suggested identifiers and no long name starts with a stem,
then no two parameters of a spelled signature whose short names differ when capitalized and whose
long names differ get the same identifier. -/
theorem identifiers_ne_of_fallbackApart (hapart : FallbackApart c)
    (hps : ∀ p ∈ ps, ∃ s, p.SpelledAs c s)
    (hshort : ((ps.filter fun p => c.isShort p.name).map fun p => Text.capitalize p.name).Nodup)
    (hlong : ((ps.filter fun p => !c.isShort p.name).map fun p => p.name).Nodup)
    (hkept : ∀ p ∈ ps, c.isShort p.name = false → ∀ a ∈ stems c, ¬ a.toList <+: p.name.toList)
    {i k : ℕ} (hi : i < ps.length) (hk : k < ps.length) (hik : i ≠ k) :
    ∃ a b, Identified c ps ps[i] a ∧ Identified c ps ps[k] b ∧ a ≠ b := by
  have hkeeps (p q : Parameter) (hp : p ∈ ps) : ¬ KeepsIdentifierOf c ps p q := by
    intro h
    obtain ⟨s, x, -, -, hname⟩ := h.name_eq
    apply hkept p hp h.isLong (stem c s) (stem_mem_stems c s)
    rw [hname, String.toList_append]
    exact List.prefix_append _ _
  have hmeets (p q : Parameter) : ¬ MeetsAtFallback c ps p q := by
    intro h
    -- A suggestion that is the fallback starts it.
    obtain ⟨s, -, hsome⟩ := h.suggestsFallback
    exact (hapart _ (List.mem_map_of_mem (mem_suggestions hsome))).1 List.prefix_rfl
  obtain ⟨a, b, ha, hb, hab⟩ :=
    identifiers_eq_iff (prefixFree_stems_of_fallbackApart hapart) hps hshort hlong hi hk hik
  refine ⟨a, b, ha, hb, fun heq => ?_⟩
  rcases hab.mp heq with h | h | h | h
  · exact hkeeps _ _ (List.getElem_mem hi) h
  · exact hkeeps _ _ (List.getElem_mem hk) h
  · exact hmeets _ _ h
  · exact hmeets _ _ h

/-- The usual conventions with a fallback that is no suggested identifier. -/
def itemConventions : Conventions := { Conventions.standard with fallback := "anItem" }

/-- With such a fallback, the root object and the array of integers keep apart. -/
theorem mixedSignature_ne :
    FallbackApart itemConventions ∧ (∀ p ∈ mixedSignature, ∃ s, p.SpelledAs itemConventions s) ∧
      ((mixedSignature.filter fun p => itemConventions.isShort p.name).map
        fun p => Text.capitalize p.name).Nodup ∧
      ((mixedSignature.filter fun p => !itemConventions.isShort p.name).map
        fun p => p.name).Nodup ∧
      (∀ p ∈ mixedSignature, itemConventions.isShort p.name = false →
        ∀ a ∈ stems itemConventions, ¬ a.toList <+: p.name.toList) ∧
      ∃ a b, Identified itemConventions mixedSignature mixedSignature[0] a ∧
        Identified itemConventions mixedSignature mixedSignature[1] b ∧ a ≠ b := by
  have hapart : FallbackApart itemConventions := by
    unfold FallbackApart
    decide
  exact ⟨hapart, mixedSignature_spelled _, by decide, by decide, by decide,
    identifiers_ne_of_fallbackApart hapart (mixedSignature_spelled _) (by decide) (by decide)
      (by decide) (by decide) (by decide) (by decide)⟩

end BridgeNames.Parameter
