import Cityscape.Proofs.Route.Termination
import Cityscape.Proofs.Route.Walk

/-!
# The walks that a search records

From every cell that has been reached, the parents lead back to the start over closed cells, and the
recorded cost falls by one with each of them (`Search.Traced`). So what they record is a walk with as
many steps as the cost says, which comes to no cell twice (`Search.Traced.walk`).
-/

namespace Cityscape.Route

variable {g : Grid} {remaining : Cell → Nat} {start : Cell}

/-- A cell that is open shares an edge with the closed one that it is offered a walk through. -/
lemma adjacent_of_offered (cells : g.cellCount < 2 ^ 31) {s : Search g.cellCount}
    {origin i : Fin g.cellCount} {next : Cell} (closed : (s.visits.get origin).closed = true)
    (opened : (s.visits.get i).closed = false) (place : g.index? next = some i)
    (near : next ∈ (g.cellAt origin).neighbours) : (g.cellAt origin).Adjacent next := by
  -- A neighbour that is no other cell, for want of coordinates, would be closed itself.
  refine (Cell.eq_or_adjacent_of_mem_neighbours near).resolve_left fun e => ?_
  have same := (Grid.index?_cellAt cells origin).symm.trans (e ▸ place)
  obtain rfl := Option.some.inj same
  exact absurd (opened.symm.trans closed) (by decide)

namespace Search

/-- When a cell is taken, the costs stay the same. -/
lemma cost_taken (s : Search g.cellCount) (first : Waiting g.cellCount)
    (others : Frontier g.cellCount) (i : Fin g.cellCount) :
    ((s.taken first others).visits.get i).cost = (s.visits.get i).cost := by
  rw [visits_taken]
  split
  · rename_i e
    rw [← e]
  · rfl

/-- At its start, a search has a cost of zero on record for the starting cell, and nothing for any
other. -/
lemma visits_initial {i : Fin g.cellCount} (j : Fin g.cellCount) :
    (Search.initial g remaining start i).visits.get j =
      if i = j then { Visit.fresh with cost := some 0 } else Visit.fresh := by
  rw [Search.initial, get_set]
  split
  · rfl
  · exact Vector.getElem_replicate _

/-- A walk of at most `n` steps to a cell is on record. -/
def Knows (g : Grid) (s : Search g.cellCount) (c : Cell) (n : Nat) : Prop :=
  ∃ i, g.index? c = some i ∧ ∃ m ≤ n, (s.visits.get i).cost = some m

/-- What is known for a number of steps is known for a larger one. -/
lemma Knows.mono {s : Search g.cellCount} {c : Cell} {m n : Nat} (h : s.Knows g c m)
    (le : m ≤ n) : s.Knows g c n := by
  obtain ⟨i, place, k, le', known⟩ := h
  exact ⟨i, place, k, Nat.le_trans le' le, known⟩

/-- What is known depends on the recorded costs only. -/
lemma Knows.congr {s t : Search g.cellCount} {c : Cell} {n : Nat} (h : s.Knows g c n)
    (cost : ∀ i, (t.visits.get i).cost = (s.visits.get i).cost) : t.Knows g c n := by
  obtain ⟨i, place, m, le, known⟩ := h
  exact ⟨i, place, m, le, (cost i).trans known⟩

/-- Only cells on the grid are known. -/
lemma Knows.contains {s : Search g.cellCount} {c : Cell} {n : Nat} (h : s.Knows g c n) :
    g.Contains c := by
  obtain ⟨i, place, -⟩ := h
  exact (Grid.index?_eq_some_iff.1 place).1

/-- The parents lead back to the start. Only the start has none, and its cost is zero. The parent of
any other cell is closed, and the walk to the cell is one step longer than the walk to its parent. -/
structure Traced (g : Grid) (start : Cell) (s : Search g.cellCount) : Prop where
  root : ∀ i c, (s.visits.get i).cost = some c → (s.visits.get i).parent = none →
    g.cellAt i = start ∧ c = 0
  parent : ∀ i before, (s.visits.get i).parent = some before →
    (s.visits.get before).closed = true ∧ (g.cellAt before).Adjacent (g.cellAt i) ∧
      g.isRoutable (g.cellAt i) = true ∧
      ∃ a, (s.visits.get before).cost = some a ∧ (s.visits.get i).cost = some (a + 1)

namespace Traced

variable {s : Search g.cellCount}

/-- At its start, a search has nothing on record but the start itself. -/
lemma initial {i : Fin g.cellCount} (place : g.index? start = some i) :
    (Search.initial g remaining start i).Traced g start where
  root j c known _ := by
    rw [visits_initial] at known
    split at known
    · rename_i e
      exact ⟨e ▸ Grid.cellAt_of_index? place, (Option.some.inj known).symm⟩
    · cases known
  parent j before named := by
    rw [visits_initial] at named
    split at named <;> cases named

/-- Closing the first waiting cell does not change where the parents lead. -/
lemma taken (h : s.Traced g start) (first : Waiting g.cellCount) (others : Frontier g.cellCount) :
    (s.taken first others).Traced g start := by
  have cost := s.cost_taken first others
  have parent (i : Fin g.cellCount) :
      ((s.taken first others).visits.get i).parent = (s.visits.get i).parent := by
    rw [visits_taken]
    split
    · rename_i e
      rw [← e]
    · rfl
  have closed (i : Fin g.cellCount) (shut : (s.visits.get i).closed = true) :
      ((s.taken first others).visits.get i).closed = true := by
    rw [visits_taken]
    split
    · rfl
    · exact shut
  refine ⟨fun i c known alone => ?_, fun i before named => ?_⟩
  · exact h.root i c ((cost i).symm.trans known) ((parent i).symm.trans alone)
  · obtain ⟨shut, adjacent, routable, a, known, known'⟩ :=
      h.parent i before ((parent i).symm.trans named)
    exact ⟨closed before shut, adjacent, routable, a, (cost _).trans known, (cost i).trans known'⟩

/-- An offer from a closed cell, one step longer than the walk there, leaves the parents leading
back to the start. -/
lemma offer (h : s.Traced g start) (cells : g.cellCount < 2 ^ 31) {origin : Fin g.cellCount}
    {a : Nat} (closed : (s.visits.get origin).closed = true)
    (known : (s.visits.get origin).cost = some a) {next : Cell}
    (near : next ∈ (g.cellAt origin).neighbours) :
    (Route.offer g remaining origin (a + 1) s next).Traced g start := by
  rcases @offer_cases g remaining origin (a + 1) s next with
    same | ⟨i, place, routable, opened, -, changed⟩
  · rw [same]
    exact h
  have here : g.cellAt i = next := Grid.cellAt_of_index? place
  have adjacent := adjacent_of_offered cells closed opened place near
  have apart {j : Fin g.cellCount} (shut : (s.visits.get j).closed = true) : i ≠ j := by
    rintro rfl
    exact absurd (opened.symm.trans shut) (by decide)
  rw [changed]
  refine ⟨fun j c hj alone => ?_, fun j before named => ?_⟩
  · rw [get_set] at hj alone
    split at alone
    · cases alone
    · rename_i e
      rw [if_neg e] at hj
      exact h.root j c hj alone
  · dsimp only at named ⊢
    rw [get_set] at named
    split at named
    · rename_i e
      obtain rfl := Option.some.inj named
      rw [get_set, get_set, if_pos e, if_neg (apart closed), ← e, here]
      exact ⟨closed, adjacent, routable, a, known, rfl⟩
    · rename_i e
      obtain ⟨shut, rest⟩ := h.parent j before named
      rw [get_set, get_set, if_neg e, if_neg (apart shut)]
      exact ⟨shut, rest⟩

/-- What the parents record is a walk of as many steps as its cost. All the cells on it are known to
be no further away, so it comes to none of them twice. -/
lemma walk (h : s.Traced g start) (cells : g.cellCount < 2 ^ 31) {i : Fin g.cellCount}
    {walk : List Cell} (recorded : Recorded g s.visits i walk) {c : Nat}
    (known : (s.visits.get i).cost = some c) :
    IsWalk g start (g.cellAt i) walk ∧ walk.length = c + 1 ∧ walk.Nodup ∧
      ∀ d ∈ walk, s.Knows g d c := by
  induction recorded generalizing c with
  | @first i alone =>
    obtain ⟨here, rfl⟩ := h.root i c known alone
    refine ⟨?_, rfl, List.nodup_singleton _, fun d hd => ?_⟩
    · rw [here]
      exact .single g start
    · obtain rfl := List.mem_singleton.1 hd
      exact ⟨i, Grid.index?_cellAt cells i, 0, Nat.le_refl _, known⟩
  | @later i before walk named rest ih =>
    obtain ⟨-, adjacent, routable, a, known', longer⟩ := h.parent i before named
    obtain rfl := Option.some.inj (known.symm.trans longer)
    obtain ⟨isWalk, length, nodup, knows⟩ := ih known'
    have new : g.cellAt i ∉ walk := by
      intro mem
      obtain ⟨j, place, m, le, known''⟩ := knows _ mem
      obtain rfl := Option.some.inj ((Grid.index?_cellAt cells i).symm.trans place)
      obtain rfl := Option.some.inj (known.symm.trans known'')
      exact absurd le (Nat.not_succ_le_self a)
    refine ⟨isWalk.concat adjacent routable, ?_, ?_, fun d hd => ?_⟩
    · rw [List.length_append, length]
      rfl
    · exact nodup.append (List.nodup_singleton _) (List.disjoint_singleton.2 new)
    · rcases List.mem_append.1 hd with hd | hd
      · exact (knows d hd).mono (Nat.le_succ a)
      · obtain rfl := List.mem_singleton.1 hd
        exact ⟨i, Grid.index?_cellAt cells i, a + 1, Nat.le_refl _, known⟩

end Traced

end Search

end Cityscape.Route
