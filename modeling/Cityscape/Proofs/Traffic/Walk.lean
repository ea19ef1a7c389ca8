import Cityscape.Proofs.Grid
import Cityscape.Traffic

/-!
# Walks along a road

`Follows` says where the walk along a road leads when nothing limits the number of its steps. Every
step reaches a new cell of the grid (`mem_onward_iff`), so that as many steps as the grid has cells
are enough: the walk stops where the road ends or branches (`roadTrail_follows`).
-/

namespace Cityscape

namespace Traffic

variable {g : Grid} {c next start : Cell} {walked earlier : List Cell}

/-- The ways onward are the routable neighbours that have not been walked. -/
lemma mem_onward_iff :
    next ∈ onward g c walked ↔
      next ∈ c.neighbours ∧ next ∉ walked ∧ g.isRoutable next = true := by
  simp only [onward, List.mem_filter, Bool.and_eq_true, Bool.not_eq_true', List.contains_eq_mem,
    decide_eq_false_iff_not]

/-- The walk that goes on from a cell while there is exactly one way onward, however far: all cells
walked, the last one first. -/
inductive Follows (g : Grid) : Cell → List Cell → List Cell → Prop where
  | stop {c : Cell} {earlier : List Cell} (ended : ∀ next, onward g c (c :: earlier) ≠ [next]) :
      Follows g c earlier (c :: earlier)
  | go {c next : Cell} {earlier trail : List Cell} (one : onward g c (c :: earlier) = [next])
      (rest : Follows g next (c :: earlier) trail) : Follows g c earlier trail

/-- What is walked: different cells, and all but the first one on the grid. -/
structure Walked (g : Grid) (start : Cell) (walked : List Cell) : Prop where
  nodup : walked.Nodup
  inside : ∀ c ∈ walked, c = start ∨ g.Contains c
  begins : start ∈ walked

namespace Walked

/-- A walk begins with its first cell alone. -/
lemma single (g : Grid) (start : Cell) : Walked g start [start] where
  nodup := List.nodup_singleton start
  inside _ hc := .inl (List.mem_singleton.1 hc)
  begins := List.mem_singleton_self start

/-- A step onward reaches a new cell of the grid. -/
lemma step (h : Walked g start walked) (one : onward g c walked = [next]) :
    Walked g start (next :: walked) := by
  have mem : next ∈ onward g c walked := one ▸ List.mem_singleton_self next
  obtain ⟨-, new, routable⟩ := mem_onward_iff.1 mem
  refine ⟨List.nodup_cons.2 ⟨new, h.nodup⟩, fun d hd => ?_, List.mem_cons_of_mem _ h.begins⟩
  rcases List.mem_cons.1 hd with rfl | hd
  · exact .inr (Grid.contains_of_isRoutable routable)
  · exact h.inside d hd

/-- No walk has more than one cell beyond the number of cells of the grid. -/
lemma length_le (h : Walked g start walked) : walked.length ≤ g.cellCount + 1 := by
  have nodup : (walked.erase start).Nodup := h.nodup.erase start
  have inside : ∀ c ∈ walked.erase start, g.Contains c := by
    intro c hc
    obtain ⟨other, mem⟩ := (h.nodup.mem_erase_iff).1 hc
    exact (h.inside c mem).resolve_left other
  have le := Grid.length_le_cellCount nodup inside
  rw [List.length_erase_of_mem h.begins] at le
  omega

end Walked

/-- Where there are as many steps left as cells to reach, the walk goes as far as it can. -/
lemma follow_follows (fuel : Nat) (walked : Walked g start (c :: earlier))
    (enough : g.cellCount ≤ earlier.length + fuel) :
    Follows g c earlier (follow g fuel c earlier) := by
  induction fuel generalizing c earlier with
  | zero =>
    refine .stop fun next one => ?_
    have le := (walked.step one).length_le
    simp only [List.length_cons] at le
    omega
  | succ fuel ih =>
    rw [follow]
    split
    · rename_i next one
      refine .go one (ih (walked.step one) ?_)
      rw [List.length_cons]
      omega
    · rename_i ended
      exact .stop ended

/-- The walk along the road that leads away from a cell goes on until it ends or branches. -/
lemma roadTrail_follows (t : Traffic) (start : Cell) :
    Follows t.grid start [] (t.roadTrail start).reverse := by
  rw [roadTrail, List.reverse_reverse]
  exact follow_follows _ (.single t.grid start) (Nat.le_add_left _ _)

end Traffic

end Cityscape
