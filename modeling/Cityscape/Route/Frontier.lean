/-!
# The frontier of a search

The cells waiting to be expanded, in ascending order of estimate, then of cost, then of position.
`insert` keeps the order, so the next cell to expand is always the first one.
-/

namespace Cityscape.Route

/-- A cell waiting to be expanded: the estimated cost of a route through it, the cost of the walk
that reached it, and its position on a grid of `n` cells. -/
structure Waiting (n : Nat) where
  estimate : Nat
  cost : Nat
  index : Fin n
deriving Repr, DecidableEq

namespace Waiting

variable {n : Nat}

/-- Whether `a` is expanded before `b`. -/
def Before (a b : Waiting n) : Prop :=
  a.estimate < b.estimate ∨ (a.estimate = b.estimate ∧
    (a.cost < b.cost ∨ (a.cost = b.cost ∧ a.index < b.index)))

instance (a b : Waiting n) : Decidable (a.Before b) := inferInstanceAs (Decidable (_ ∨ _))

/-- Of two waiting cells, at most one is to be expanded before the other. -/
theorem Before.asymm {a b : Waiting n} (h : a.Before b) : ¬b.Before a := by
  simp only [Before, Fin.lt_def] at *
  omega

/-- What is expanded before `b` is expanded before all that `b` is not expanded behind. -/
theorem Before.trans_of_not {a b c : Waiting n} (h : a.Before b) (hc : ¬c.Before b) :
    a.Before c := by
  simp only [Before, Fin.lt_def] at *
  omega

end Waiting

/-- Cells waiting to be expanded, the first to be expanded at the head. -/
abbrev Frontier (n : Nat) := List (Waiting n)

namespace Frontier

variable {n : Nat}

/-- The frontier with one more cell, behind those that are expanded before it. -/
def insert (w : Waiting n) : Frontier n → Frontier n
  | [] => [w]
  | v :: others => if v.Before w then v :: insert w others else w :: v :: others

/-- An insertion adds one waiting cell and keeps the others. -/
theorem mem_insert {w v : Waiting n} {f : Frontier n} : v ∈ insert w f ↔ v = w ∨ v ∈ f := by
  induction f with
  | nil => simp [insert]
  | cons u others ih =>
    simp only [insert]
    split
    · simp only [List.mem_cons, ih]
      exact or_left_comm
    · simp [List.mem_cons]

/-- An insertion makes a frontier longer by one. -/
theorem length_insert (w : Waiting n) (f : Frontier n) : (insert w f).length = f.length + 1 := by
  induction f with
  | nil => rfl
  | cons u others ih =>
    simp only [insert]
    split <;> simp [ih]

/-- The frontier is in order: no cell waits behind one that it is expanded before. -/
def Ordered (f : Frontier n) : Prop := f.Pairwise fun a b => ¬b.Before a

/-- A cell is inserted where the order asks for it. -/
theorem ordered_insert {w : Waiting n} {f : Frontier n} (h : Ordered f) : Ordered (insert w f) := by
  induction f with
  | nil => exact List.pairwise_singleton _ _
  | cons v others ih =>
    obtain ⟨first, rest⟩ := List.pairwise_cons.1 h
    simp only [insert]
    split
    · rename_i before
      refine List.pairwise_cons.2 ⟨fun u hu => ?_, ih rest⟩
      rcases mem_insert.1 hu with rfl | hu
      · exact before.asymm
      · exact first u hu
    · rename_i behind
      refine List.pairwise_cons.2 ⟨fun u hu => ?_, h⟩
      rcases List.mem_cons.1 hu with rfl | hu
      · exact behind
      · exact fun hw => first u hu (hw.trans_of_not behind)

end Frontier

end Cityscape.Route
