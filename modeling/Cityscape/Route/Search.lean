import Cityscape.Grid
import Cityscape.Route.Frontier

/-!
# Route search

A best-first search over orthogonally adjacent routable cells with unit step cost. One iteration
(`step`) takes the first waiting cell, closes it, and offers its neighbours a walk through it; the
search ends when the goal is taken, when nothing waits any more, or when the budget of expansions
is spent. A cell is put on the frontier only when its cost falls, and only by the expansion of
one of its neighbours, so there are at most four entries for each cell and one for the start:
`maxSteps` iterations are always enough.
-/

namespace Cityscape

/-- A walk from one cell to another: the number of its steps and every cell it visits, both ends
included. -/
structure Route where
  cost : Nat
  path : List Cell
deriving Repr, DecidableEq

namespace Route

/-- The guess for the remaining cost that orders the search: the distance plus one. The constant
shifts every estimate alike. -/
def guess (c goal : Cell) : Nat := Bounds.uint32.clampNat (c.distance goal + 1)

/-- What the search knows of a cell: the cost of the best walk to it so far, the cell before it on
that walk, and whether it has been expanded. -/
structure Visit (n : Nat) where
  cost : Option Nat
  parent : Option (Fin n)
  closed : Bool
deriving Repr, DecidableEq

/-- A cell that no walk has reached. -/
def Visit.fresh {n : Nat} : Visit n := ⟨none, none, false⟩

/-- Whether a walk of this cost is better than the one known. Where none is known, it has to be
shorter than the largest length. -/
def Visit.improvedBy {n : Nat} (v : Visit n) (cost : Nat) : Bool :=
  cost < v.cost.getD Bounds.uint32.hi.toNat

/-- The state of a search over `n` cells. -/
structure Search (n : Nat) where
  visits : Vector (Visit n) n
  frontier : Frontier n
  expanded : Nat
deriving DecidableEq

/-- A search that goes on, or one that has ended with an answer. -/
inductive Progress (n : Nat) where
  | searching (state : Search n)
  | ended (answer : Option Route)
deriving DecidableEq

variable (g : Grid)

/-- The search with a walk to `next` offered: one of `cost` steps whose last one starts at
`origin`. The offer counts if the cell is routable, not yet closed, and known by no walk as good. -/
def offer (remaining : Cell → Nat) (origin : Fin g.cellCount) (cost : Nat)
    (s : Search g.cellCount) (next : Cell) : Search g.cellCount :=
  match g.index? next with
  | none => s
  | some i =>
    let visit := s.visits.get i
    if visit.closed || !g.isRoutable next || !visit.improvedBy cost then s
    else
      { s with
        visits := s.visits.set i { visit with cost := some cost, parent := some origin }
        frontier := s.frontier.insert
          ⟨Bounds.uint32.clampNat (cost + remaining next), cost, i⟩ }

/-- The search with a cell closed. -/
def Search.close {n : Nat} (s : Search n) (i : Fin n) : Search n :=
  { s with visits := s.visits.set i { s.visits.get i with closed := true } }

/-- The walk that the parents record, from its first cell to the cell at `i`, followed by `path`.
Parents are followed for at most `fuel` steps. -/
def traceBack (visits : Vector (Visit g.cellCount) g.cellCount) :
    Nat → Fin g.cellCount → List Cell → List Cell
  | 0, i, path => g.cellAt i :: path
  | fuel + 1, i, path =>
    match (visits.get i).parent with
    | none => g.cellAt i :: path
    | some before => traceBack visits fuel before (g.cellAt i :: path)

/-- One iteration of the search. -/
def step (remaining : Cell → Nat) (budget : Nat) (goal : Fin g.cellCount)
    (s : Search g.cellCount) : Progress g.cellCount :=
  match s.frontier with
  | [] => .ended none
  | first :: others =>
    let s := { s with frontier := others }
    if (s.visits.get first.index).closed then .searching s
    else
      let s := s.close first.index
      if first.index = goal then
        .ended (some ⟨first.cost, traceBack g s.visits g.cellCount goal []⟩)
      else if budget ≤ s.expanded then .ended none
      else
        .searching <| (g.cellAt first.index).neighbours.foldl
          (offer g remaining first.index (first.cost + 1))
          { s with expanded := s.expanded + 1 }

/-- The answer of a search after at most `fuel` iterations. -/
def run (remaining : Cell → Nat) (budget : Nat) (goal : Fin g.cellCount) :
    Nat → Search g.cellCount → Option Route
  | 0, _ => none
  | fuel + 1, s =>
    match step g remaining budget goal s with
    | .ended answer => answer
    | .searching s => run remaining budget goal fuel s

/-- A number of iterations after which every search on the grid has ended. -/
def maxSteps : Nat := 4 * g.cellCount + 2

/-- The search before its first iteration, with only the start waiting. -/
def Search.initial (remaining : Cell → Nat) (start : Cell) (i : Fin g.cellCount) :
    Search g.cellCount where
  visits := (Vector.replicate g.cellCount Visit.fresh).set i { Visit.fresh with cost := some 0 }
  frontier := [⟨remaining start, 0, i⟩]
  expanded := 0

/-- A shortest route over routable cells, by a search that expands at most `budget` cells and is
ordered by a guess for the remaining cost. The start itself need not be routable. -/
def findBy (guess : Cell → Cell → Nat) (budget : Nat) (start goal : Cell) : Option Route :=
  if start = goal then some ⟨0, [start]⟩
  else do
    let i ← g.index? start
    let j ← g.index? goal
    run g (guess · goal) budget j (maxSteps g) (.initial g (guess · goal) start i)

/-- `findBy` with the usual guess. -/
def find (budget : Nat) (start goal : Cell) : Option Route := findBy g guess budget start goal

end Route

end Cityscape
