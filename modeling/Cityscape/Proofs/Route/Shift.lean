import Cityscape.Proofs.Route.Shortest

/-!
# Guesses that differ by a constant

A search is ordered by guesses for the remaining cost. If they are all raised by the same amount,
and every estimate still fits its bounds (`Raised`), the waiting cells are the same and wait in the
same order, with estimates raised by this amount. So every offer, every iteration and the whole
search are the same (`offer_raise`, `Iteration.raise` and `run_raise`). This is how the usual guess
relates to the bare distance, and why the two find the same routes (`find_eq_findBy_distance`).
-/

namespace Cityscape.Route

open Bounds (uint32)

variable {g : Grid} {k : Nat} {lower higher : Cell → Nat}

/-- A waiting cell with a higher estimate. -/
def Waiting.raise {n : Nat} (k : Nat) (w : Waiting n) : Waiting n :=
  { w with estimate := w.estimate + k }

/-- A search with all its estimates higher. -/
def Search.raise {n : Nat} (k : Nat) (s : Search n) : Search n :=
  { s with frontier := s.frontier.map (Waiting.raise k) }

/-- The progress of a search with all its estimates higher; an answer does not show them. -/
def Progress.raise {n : Nat} (k : Nat) : Progress n → Progress n
  | .searching s => .searching (s.raise k)
  | .ended answer => .ended answer

/-- On a grid, the guesses are raised by an amount that leaves room for the cost of a walk. -/
structure Raised (g : Grid) (k : Nat) (lower higher : Cell → Nat) : Prop where
  raised : ∀ {c : Cell}, g.Contains c → higher c = lower c + k
  fits : ∀ {c : Cell}, g.Contains c → uint32.Holds (g.cellCount + higher c : Nat)

section
variable {n : Nat}

/-- Raising both estimates does not change which cell is expanded first. -/
lemma Waiting.before_raise {a b : Waiting n} : (a.raise k).Before (b.raise k) ↔ a.Before b := by
  simp only [Waiting.Before, Waiting.raise]
  omega

/-- Raised cells wait in the same order. -/
lemma Frontier.insert_raise (w : Waiting n) (f : Frontier n) :
    Frontier.insert (w.raise k) (f.map (Waiting.raise k)) =
      (Frontier.insert w f).map (Waiting.raise k) := by
  induction f with
  | nil => rfl
  | cons v others ih =>
    rw [List.map_cons, Frontier.insert, Frontier.insert]
    by_cases before : v.Before w
    · rw [if_pos (Waiting.before_raise.2 before), if_pos before, List.map_cons, ih]
    · rw [if_neg (mt Waiting.before_raise.1 before), if_neg before]
      rfl

end

/-- The sum of a cost and a guess is not cut off. -/
lemma Raised.estimate (h : Raised g k lower higher) {c : Cell} (inside : g.Contains c) {cost : Nat}
    (short : cost ≤ g.cellCount) :
    uint32.clampNat (cost + higher c) = uint32.clampNat (cost + lower c) + k := by
  have raised := h.raised inside
  have fits := h.fits inside
  simp only [Bounds.clampNat, Bounds.Holds, uint32] at *
  omega

/-- Under raised guesses, a cell is offered as it is under the lower ones, with a raised estimate.
-/
lemma offer_raise (h : Raised g k lower higher) (origin : Fin g.cellCount) {cost : Nat}
    (short : cost ≤ g.cellCount) (s : Search g.cellCount) (next : Cell) :
    offer g higher origin cost (s.raise k) next = (offer g lower origin cost s next).raise k := by
  rw [offer, offer]
  cases place : g.index? next with
  | none => rfl
  | some i =>
    have inside := (Grid.index?_eq_some_iff.1 place).1
    dsimp only
    rw [h.estimate inside short]
    show (if _ then _ else _) = Search.raise k (if _ then _ else _)
    rw [apply_ite (Search.raise k)]
    congr 1
    rw [Search.raise, Search.raise, ← Frontier.insert_raise]
    rfl

/-- To expand a cell is to expand the raised one. -/
lemma expand_raise (h : Raised g k lower higher) (s : Search g.cellCount)
    {first : Waiting g.cellCount} (others : Frontier g.cellCount)
    (short : first.cost + 1 ≤ g.cellCount) :
    (s.raise k).expand g higher (first.raise k) (others.map (Waiting.raise k)) =
      (s.expand g lower first others).raise k := by
  let taken : Search g.cellCount :=
    { s.taken first others with expanded := s.expanded + 1 }
  show (g.cellAt first.index).neighbours.foldl _ (taken.raise k) =
    ((g.cellAt first.index).neighbours.foldl _ taken).raise k
  exact List.foldl_hom (Search.raise k) fun s next => offer_raise h first.index short s next

/-- An iteration comes to the same, as long as the walk to a cell that is expanded is short. -/
lemma Iteration.raise (h : Raised g k lower higher) {budget : Nat} {goal : Fin g.cellCount}
    {s : Search g.cellCount} {p : Progress g.cellCount}
    (short : ∀ {first others}, s.frontier = first :: others →
      (s.visits.get first.index).closed = false → first.cost + 1 ≤ g.cellCount)
    (it : Iteration g lower budget goal s p) :
    Iteration g higher budget goal (s.raise k) (p.raise k) := by
  have raised {first : Waiting g.cellCount} {others : Frontier g.cellCount}
      (waiting : s.frontier = first :: others) :
      (s.raise k).frontier = first.raise k :: others.map (Waiting.raise k) :=
    congrArg (List.map (Waiting.raise k)) waiting
  cases it with
  | exhausted nothing => exact .exhausted (congrArg (List.map (Waiting.raise k)) nothing)
  | stale waiting closed => exact .stale (raised waiting) closed
  | arrived waiting opened here =>
    have it : Iteration g higher budget goal (s.raise k) _ := .arrived (raised waiting) opened here
    exact it
  | spent waiting opened onWay spent => exact .spent (raised waiting) opened onWay spent
  | expanded waiting opened onWay more =>
    have it : Iteration g higher budget goal (s.raise k) _ :=
      .expanded (raised waiting) opened onWay more
    rwa [expand_raise h s _ (short waiting opened)] at it

/-- A search comes to the same, for as many iterations as it is run. -/
lemma run_raise (h : Raised g k lower higher) {budget : Nat} {goal : Fin g.cellCount} {start : Cell}
    {s : Search g.cellCount} (sound : s.Sound g start) (fuel : Nat) :
    run g higher budget goal fuel (s.raise k) = run g lower budget goal fuel s := by
  induction fuel generalizing s with
  | zero => rfl
  | succ fuel ih =>
    have it := @iteration g lower budget goal s
    -- An open cell that waits is no further away than the closed ones are many, so sums fit.
    have raised := it.raise h fun waiting opened => by
      have lt := sound.expanded_lt waiting opened
      have cost := sound.cost _ (waiting ▸ List.mem_cons_self)
      omega
    have kept := sound.iteration it
    rw [run, run, raised.step_eq]
    generalize step g lower budget goal s = p at kept
    cases p with
    | ended answer => rfl
    | searching t => exact ih kept

/-- The routes found are the same if the guesses are raised where they are used, on the grid. -/
lemma findBy_raise {lower higher : Cell → Cell → Nat} {goal : Cell}
    (h : g.Contains goal → Raised g k (lower · goal) (higher · goal)) (budget : Nat)
    (start : Cell) : findBy g higher budget start goal = findBy g lower budget start goal := by
  rw [findBy, findBy]
  congr 1
  cases first : g.index? start with
  | none => rfl
  | some i =>
    cases last : g.index? goal with
    | none => rfl
    | some j =>
      have raised := h (Grid.index?_eq_some_iff.1 last).1
      have initial : Search.initial g (higher · goal) start i =
          (Search.initial g (lower · goal) start i).raise k := by
        rw [Search.initial, raised.raised (Grid.index?_eq_some_iff.1 first).1]
        rfl
      show run g _ budget j _ (.initial g (higher · goal) start i) = run g _ budget j _ _
      rw [initial]
      exact run_raise raised (.initial first) _

/-- The usual guess is the distance, raised by one. -/
lemma raised_guess (cells : g.cellCount < 2 ^ 31) {goal : Cell} (inside : g.Contains goal) :
    Raised g 1 (·.distance goal) (guess · goal) where
  raised {c} hc := by
    have near := gap_lt_cellCount hc inside
    rw [guess_eq cells hc inside]
    simp only [Cell.distance, Cell.gap, Bounds.clampNat, uint32] at *
    omega
  fits {c} hc := (consistent_guess cells inside).fits hc

/-- The one that the guess adds to the distance is invisible: guided by the distance alone, a search
gives the same answer, with the same cost and the same path where it finds a route. -/
theorem find_eq_findBy_distance (cells : g.cellCount < 2 ^ 31) (budget : Nat) (start goal : Cell) :
    find g budget start goal = findBy g Cell.distance budget start goal :=
  findBy_raise (raised_guess cells) budget start

/-- Guided by the bare distance, a search takes the same way around the lawn. -/
theorem find_eq_findBy_distance_detour :
    Detour.grid.cellCount < 2 ^ 31 ∧
      findBy Detour.grid Cell.distance 6 Detour.west Detour.east = some Detour.route := by
  have cells : Detour.grid.cellCount < 2 ^ 31 := by decide
  have found : find Detour.grid 6 Detour.west Detour.east = some Detour.route := by decide +kernel
  rw [find_eq_findBy_distance cells] at found
  exact ⟨cells, found⟩

end Cityscape.Route
