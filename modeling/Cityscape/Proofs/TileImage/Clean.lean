import Cityscape.Proofs.TileImage.Conditions

/-!
# Clean conditions

A condition is clean if it is trivial itself, or if no trivial condition and no double negation occurs
anywhere in it. Conjunction and negation simplify just as much as is needed to keep conditions clean
(`Condition.closed_clean`). They are the only ways in which the normal form and the enumeration of
variants build conditions, so both of them keep the conditions of a tree clean.
-/

namespace Cityscape

namespace Condition

/-- Whether a condition is a negation. -/
def isNegation : Condition → Bool
  | not _ => true
  | _ => false

/-- Nowhere in the condition there is a trivial one, or a negation of a negation. -/
def Proper : Condition → Prop
  | always | never => False
  | tile .. | frame .. => True
  | and a b => a.Proper ∧ b.Proper
  | not a => a.Proper ∧ a.isNegation = false

instance decidableProper : (c : Condition) → Decidable c.Proper
  | always | never => inferInstanceAs (Decidable False)
  | tile .. | frame .. => inferInstanceAs (Decidable True)
  | and a b => @instDecidableAnd _ _ (decidableProper a) (decidableProper b)
  | not a => @instDecidableAnd _ _ (decidableProper a) inferInstance

/-- A condition is trivial, or there is nothing in it that could be simplified. -/
def Clean (c : Condition) : Prop := c = always ∨ c = never ∨ c.Proper

instance (c : Condition) : Decidable c.Clean := inferInstanceAs (Decidable (_ ∨ _ ∨ _))

variable {a b : Condition}

/-- A proper condition is clean. -/
lemma Proper.clean (h : a.Proper) : a.Clean := .inr (.inr h)

/-- Of conditions that are not trivial, nothing is simplified away. -/
lemma Proper.conj_eq (ha : a.Proper) (hb : b.Proper) : a.conj b = .and a b := by
  unfold conj
  split
  · exact ha.elim
  · exact hb.elim
  · exact ha.elim
  · exact hb.elim
  · rfl

/-- Nothing holds together with the condition that never does. -/
lemma conj_never (a : Condition) : a.conj never = never := by
  cases a <;> rfl

/-- The condition that never holds does not hold together with another. -/
lemma never_conj (b : Condition) : never.conj b = never := by
  cases b <;> rfl

/-- The conjunction of clean conditions is clean. -/
lemma Clean.conj (ha : a.Clean) (hb : b.Clean) : (a.conj b).Clean := by
  rcases ha with rfl | rfl | ha
  · exact hb
  · rw [never_conj]
    exact .inr (.inl rfl)
  · rcases hb with rfl | rfl | hb
    · rw [Case.conj_always]
      exact ha.clean
    · rw [conj_never]
      exact .inr (.inl rfl)
    · rw [ha.conj_eq hb]
      exact Proper.clean ⟨ha, hb⟩

/-- The negation of a clean condition is clean. -/
lemma Clean.negate (ha : a.Clean) : a.negate.Clean := by
  rcases ha with rfl | rfl | ha
  · exact .inr (.inl rfl)
  · exact .inl rfl
  · cases a with
    | always => exact ha.elim
    | never => exact ha.elim
    | tile | frame | and => exact Proper.clean ⟨ha, rfl⟩
    | not => exact ha.1.clean

/-- The clean conditions are a closed kind. -/
lemma closed_clean : Closed Clean where
  always := .inl rfl
  conj _ _ := Clean.conj
  negate _ := Clean.negate

end Condition

namespace TileImage

open Condition (Clean)

/-- A tree is clean throughout if all conditions in it are. -/
lemma throughout_clean_iff {t : TileImage} :
    Throughout Clean t ↔ ∀ c ∈ t.conditions, c.Clean :=
  throughout_iff fun _ _ _ => Condition.Proper.clean trivial

/-- Conjunctions and negations of clean conditions are clean, and mean conjunction and negation in
every context. If the conditions of all cases in a tree are clean, whether it is valid or not, then so
are those of all cases in its normal form, and those of all its variants. -/
theorem clean_conditions :
    (∀ a b : Condition, a.Clean → b.Clean → (a.conj b).Clean) ∧
    (∀ a : Condition, a.Clean → a.negate.Clean) ∧
    (∀ (dc : DrawContext) (a b : Condition), (a.conj b).holds dc = (a.holds dc && b.holds dc)) ∧
    (∀ (dc : DrawContext) (a : Condition), a.negate.holds dc = !a.holds dc) ∧
    ∀ t : TileImage, (∀ c ∈ t.conditions, c.Clean) →
      (∀ c ∈ t.normalForm.conditions, c.Clean) ∧
        ∀ i r, t.variants.get? i = some r → r.condition.Clean := by
  refine ⟨fun _ _ => Clean.conj, fun _ => Clean.negate, Condition.holds_conj,
    Condition.holds_negate, fun t clean => ?_⟩
  have throughout : Throughout Clean t := throughout_clean_iff.2 clean
  refine ⟨throughout_clean_iff.1 (throughout.normalForm Condition.closed_clean), fun i r hr => ?_⟩
  rw [LazySeq.get?_eq] at hr
  exact throughout.variants Condition.closed_clean r (List.mem_of_getElem? hr)

/-- The crossing is built of clean conditions, and its normal form and its nine variants have clean
conditions too. -/
theorem clean_conditions_crossing :
    (∀ c ∈ Crossing.image.conditions, c.Clean) ∧ Crossing.image.conditions.length = 4 ∧
      (∀ c ∈ Crossing.image.normalForm.conditions, c.Clean) ∧
      ∀ i r, Crossing.image.variants.get? i = some r → r.condition.Clean := by
  have clean : ∀ c ∈ Crossing.image.conditions, c.Clean := by decide
  obtain ⟨normalForm, variants⟩ := clean_conditions.2.2.2.2 Crossing.image clean
  exact ⟨clean, rfl, normalForm, variants⟩

end TileImage

end Cityscape
