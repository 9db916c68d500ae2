import BridgeNames.Proofs.ManagedType.Built
import BridgeNames.Proofs.Naming
import BridgeNames.Proofs.Parameter.Stem

/-!
# Identifiers for arguments

What an argument is called when nothing but its type is known. A wrapper is called after its element
(`argumentIdentifier_wrapped`), and every other type by the suggestion for its spelling or by its
own name (`argumentIdentifier_declared`), so there always is an answer. Suggestions are identifiers,
and a name that is one stays one with the word for a wrapper behind it. But the element of a wrapper
can be a wrapper itself, and then its name has a mark in it that no identifier has
(`isIdentifier_append_marks_iff`). Of the types that Objective-C can spell, those are the references
to arrays.
-/

namespace BridgeNames

namespace Text

/-- The character can stand in an identifier: an ASCII letter, an ASCII digit, or an underscore. -/
def isWordCharacter (c : Char) : Bool :=
  c.isAlphanum || c == '_'

/-- The text is an identifier: it starts with an ASCII letter or an underscore, and all other
characters are ASCII letters, ASCII digits, and underscores. -/
def isIdentifier (text : String) : Bool :=
  match text.toList with
  | [] => false
  | first :: rest => (first.isAlpha || first == '_') && rest.all isWordCharacter

/-- All characters of an identifier can stand in one. -/
theorem isWordCharacter_of_mem {text : String} {c : Char} (h : isIdentifier text = true)
    (hc : c ∈ text.toList) : isWordCharacter c = true := by
  unfold isIdentifier at h
  cases htext : text.toList with
  | nil => simp [htext] at hc
  | cons first rest =>
    rw [htext] at h hc
    simp only [Bool.and_eq_true, List.all_eq_true] at h
    rcases List.mem_cons.mp hc with rfl | hrest
    · simp only [isWordCharacter, Char.isAlphanum]
      have hfirst := h.1
      simp only [Bool.or_eq_true] at hfirst ⊢
      exact hfirst.imp_left .inl
    · exact h.2 c hrest

/-- An identifier with more such characters behind it is an identifier. -/
theorem isIdentifier_append {text more : String} (h : isIdentifier text = true)
    (hmore : more.toList.all isWordCharacter = true) : isIdentifier (text ++ more) = true := by
  unfold isIdentifier at h ⊢
  rw [String.toList_append]
  cases htext : text.toList with
  | nil => simp [htext] at h
  | cons first rest =>
    rw [htext] at h
    simp only [Bool.and_eq_true] at h
    simp only [List.cons_append, List.all_append, Bool.and_eq_true]
    exact ⟨h.1, h.2, hmore⟩

end Text

/-- The word for the wrapper in the identifiers for its arguments. -/
def Wrapper.word : Wrapper → String
  | .array => "Array"
  | .byRef => "Ref"

/-- The mark of a wrapper has a character in it that no identifier has. -/
theorem Wrapper.exists_mem_mark (wrapper : Wrapper) :
    ∃ c ∈ wrapper.mark.toList, Text.isWordCharacter c = false := by
  cases wrapper with
  | array => exact ⟨'[', by decide, by decide⟩
  | byRef => exact ⟨'&', by decide, by decide⟩

/-- The word for a wrapper can be put behind an identifier. -/
theorem Wrapper.word_all (wrapper : Wrapper) :
    wrapper.word.toList.all Text.isWordCharacter = true := by
  cases wrapper <;> decide

namespace ManagedType

/-- A name that is an identifier stays one with the marks of a type and a word for a wrapper behind
it exactly if the type has no marks. -/
theorem isIdentifier_append_marks_iff {name : String} (h : Text.isIdentifier name = true)
    (t : ManagedType) (wrapper : Wrapper) :
    Text.isIdentifier (name ++ t.marks ++ wrapper.word) = true ↔ t.wrappers = [] := by
  cases t with
  | declared d =>
    rw [marks_declared, String.append_empty]
    exact iff_of_true (Text.isIdentifier_append h wrapper.word_all) rfl
  | wrapped inner element attributes =>
    refine iff_of_false (fun hall => ?_) (List.cons_ne_nil _ _)
    -- The mark of the type's own wrapper is in the way.
    obtain ⟨c, hmem, hc⟩ := inner.exists_mem_mark
    have hin : c ∈ (name ++ (wrapped inner element attributes).marks ++ wrapper.word).toList := by
      simp only [marks_wrapped, String.toList_append, List.mem_append]
      exact .inl (.inr (.inr hmem))
    exact absurd (hc.symm.trans (Text.isWordCharacter_of_mem hall hin)) Bool.false_ne_true

end ManagedType

/-- The wrappers around a type that Objective-C can spell are at most a reference to an array. -/
theorem ObjectiveC.Covered.wrappers_eq {t : ManagedType} (h : Covered t) :
    t.wrappers.length ≤ 1 ∨ t.wrappers = [.byRef, .array] := by
  cases h with
  | declared d => exact .inl (Nat.zero_le 1)
  | array attributes h =>
    obtain ⟨_, _⟩ := h
    exact .inl (Nat.le_refl 1)
  | reference attributes h => exact .inl (Nat.le_refl 1)
  | arrayReference inner outer h =>
    obtain ⟨_, _⟩ := h
    exact .inr rfl

/-- A type that has a spelling is covered. -/
theorem ObjectiveC.covered_of_spell {c : Conventions} {t : ManagedType} {j : Journal} {s : String}
    (h : ((spell c t).run.run j).1 = .ok s) : Covered t := by
  by_contra hnot
  cases h.symm.trans ((spell_of_not_covered c hnot).run_fst j)

open Naming

variable (c : Conventions)

/-- An argument of a wrapper is called after the element. -/
theorem argumentIdentifier_wrapped (wrapper : Wrapper) (element : ManagedType)
    (attributes : List Attribute) :
    (argumentIdentifier c (.wrapped wrapper element attributes)).answer =
      .ok (element.base.name ++ element.marks ++ wrapper.word) := by
  rw [← element.name_eq]
  cases wrapper <;> rfl

/-- An argument of a declared type is called by a suggestion or by the name of the type. -/
theorem argumentIdentifier_declared (d : Declared) :
    ∃ name, (argumentIdentifier c (.declared d)).answer = .ok name ∧
      (name = d.name ∨ name ∈ Parameter.suggestions.map Prod.snd) := by
  obtain ⟨s, ds, rs, hs⟩ := ObjectiveC.spell_of_covered c (.declared d)
  refine ⟨(Parameter.suggestion? s).getD d.name, ?_, ?_⟩
  · exact (hs.bind_pure fun s => (Parameter.suggestion? s).getD d.name).answer_eq
  · cases hsuggestion : Parameter.suggestion? s with
    | none => exact .inl rfl
    | some name => exact .inr (List.mem_map_of_mem (Parameter.mem_suggestions hsuggestion))

/-- All suggestions are identifiers. -/
theorem Parameter.suggestions_isIdentifier :
    ∀ name ∈ suggestions.map Prod.snd, Text.isIdentifier name = true := by
  decide

/-- There is an identifier for an argument of any type. If the declared type inside all wrappers is
called by an identifier, then it is one indeed exactly if there is at most one wrapper. -/
theorem exists_argumentIdentifier {t : ManagedType} (h : Text.isIdentifier t.base.name = true) :
    ∃ name, (argumentIdentifier c t).answer = .ok name ∧
      (Text.isIdentifier name = true ↔ t.wrappers.length ≤ 1) := by
  cases t with
  | declared d =>
    obtain ⟨name, hname, hcases⟩ := argumentIdentifier_declared c d
    refine ⟨name, hname, iff_of_true ?_ (Nat.zero_le 1)⟩
    rcases hcases with rfl | hmem
    · exact h
    · exact Parameter.suggestions_isIdentifier name hmem
  | wrapped wrapper element attributes =>
    refine ⟨_, argumentIdentifier_wrapped c wrapper element attributes, ?_⟩
    have hbase : Text.isIdentifier element.base.name = true := h
    rw [element.isIdentifier_append_marks_iff hbase, ← List.length_eq_zero_iff]
    simp only [ManagedType.wrappers, List.length_cons]
    omega

/-- If a type has a spelling in Objective-C and the declared type inside all wrappers is called by
an identifier, then there is a name for an argument of the type, and it is an identifier unless the
type is a reference to an array. -/
theorem argumentIdentifier_isIdentifier_iff {t : ManagedType} {j : Journal}
    (hspell : ∃ s, ((ObjectiveC.spell c t).run.run j).1 = .ok s)
    (hname : Text.isIdentifier t.base.name = true) :
    ∃ name, ((argumentIdentifier c t).run.run j).1 = .ok name ∧
      (Text.isIdentifier name = true ↔ t.wrappers ≠ [.byRef, .array]) := by
  obtain ⟨s, hs⟩ := hspell
  obtain ⟨name, hanswer, hiff⟩ := exists_argumentIdentifier c hname
  refine ⟨name, ?_, hiff.trans ?_⟩
  · rw [(argumentIdentifier_steady c t).run_fst j, hanswer]
  · rcases (ObjectiveC.covered_of_spell hs).wrappers_eq with hone | htwo
    · refine iff_of_true hone fun heq => ?_
      rw [heq] at hone
      exact absurd hone (by decide)
    · exact iff_of_false (by rw [htwo]; decide) (not_not_intro htwo)

namespace ManagedType

/-- An argument that is an array of the nested enumeration is called by an identifier. -/
theorem modes_argumentIdentifier :
    (∃ s, ((ObjectiveC.spell .standard (.wrapped .array mode [])).run.run .empty).1 = .ok s) ∧
      Text.isIdentifier mode.base.name = true ∧
      ∃ name, ((argumentIdentifier .standard (.wrapped .array mode [])).run.run .empty).1 =
          .ok name ∧
        (Text.isIdentifier name = true ↔ (wrapped .array mode []).wrappers ≠ [.byRef, .array]) := by
  have hspell : ∃ s, ((ObjectiveC.spell .standard (.wrapped .array mode [])).run.run
      .empty).1 = .ok s := ⟨"NSArray<NSNumber *> *", rfl⟩
  exact ⟨hspell, by decide, argumentIdentifier_isIdentifier_iff .standard hspell (by decide)⟩

/-- One that is a reference to such an array is not, although it has a spelling: the mark of the
array stays in its name. -/
theorem modesReference_argumentIdentifier :
    modesReference.Built ∧
      ((ObjectiveC.spell .standard modesReference).run.run .empty).1 =
        .ok "NSArray<NSNumber *> * _Nonnull * _Nullable" ∧
      Text.isIdentifier modesReference.base.name = true ∧
      ((argumentIdentifier .standard modesReference).run.run .empty).1 = .ok "Mode[]Ref" ∧
      Text.isIdentifier "Mode[]Ref" = false :=
  ⟨modesReference_built, rfl, by decide, rfl, by decide⟩

end ManagedType

end BridgeNames
