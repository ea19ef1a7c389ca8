import Cityscape.Proofs.Route.Walk
import Cityscape.Proofs.Traffic.Walk

/-!
# Where a road ends

The walk along a road goes on while there is exactly one way onward. `WayOn` says what a way onward
is without looking at the order of the neighbours or at the bounds of the coordinates, and `RoadWalk`
what has been walked on the way: a walk without a cell twice, of which every step took the only way
there was. A step onward keeps this (`RoadWalk.concat`), so the whole walk has it
(`Follows.roadWalk`).

The main statement, `roadEnd_ends`, is about every cell of every grid, also where a step would leave
the coordinates: the walk from there is finite, and where it ends there is no way onward, or more than
one.
-/

namespace Cityscape

/-- Different steps to one coordinate are cut off there. -/
lemma clamp_add_eq_self {v d d' : Int} (hv : Bounds.int32.Holds v) (small : d.natAbs ≤ 1)
    (small' : d'.natAbs ≤ 1) (differ : d = d' → d = 0)
    (same : Bounds.int32.clamp (v + d) = Bounds.int32.clamp (v + d')) :
    Bounds.int32.clamp (v + d) = v := by
  simp only [Bounds.clamp, Bounds.Holds, Bounds.int32] at hv same ⊢
  omega

/-- Steps in two directions lead to one cell only where both of them are cut off. -/
lemma Cell.offset_eq_self {c : Cell} {dx dy dx' dy' : Int} (one : dx.natAbs + dy.natAbs = 1)
    (one' : dx'.natAbs + dy'.natAbs = 1) (differ : ¬(dx = dx' ∧ dy = dy'))
    (same : c.offset dx dy = c.offset dx' dy') : c.offset dx dy = c := by
  have x := congrArg (·.x.toInt) same
  have y := congrArg (·.y.toInt) same
  simp only [toInt_x_offset, toInt_y_offset] at x y
  apply ext_toInt
  · rw [toInt_x_offset]
    apply clamp_add_eq_self (holds_toInt c.x) _ _ _ x <;> omega
  · rw [toInt_y_offset]
    apply clamp_add_eq_self (holds_toInt c.y) _ _ _ y <;> omega

/-- The neighbours of a cell are different cells, apart from steps that are cut off there. -/
lemma Cell.pairwise_neighbours (c : Cell) : c.neighbours.Pairwise fun d e => d = e → d = c := by
  rw [neighbours]
  simp only [List.pairwise_cons, List.forall_mem_cons, List.not_mem_nil, false_imp_iff,
    implies_true, List.Pairwise.nil, and_true]
  refine ⟨⟨?_, ?_, ?_⟩, ⟨?_, ?_⟩, ?_⟩ <;> exact offset_eq_self rfl rfl (by decide)

namespace Traffic

open Route (IsWalk)

variable {g : Grid} {start last c next : Cell} {earlier walked trail : List Cell}

/-- A way onward from a cell: a routable cell beside it that has not been walked. -/
structure WayOn (g : Grid) (walked : List Cell) (c next : Cell) : Prop where
  beside : c.Adjacent next
  routable : g.isRoutable next = true
  new : next ∉ walked

/-- The ways onward are found among the neighbours; what has been walked is kept in reverse order. -/
lemma mem_onward_iff_wayOn (here : c ∈ walked) :
    next ∈ onward g c walked ↔ WayOn g walked.reverse c next := by
  rw [mem_onward_iff]
  constructor
  · intro ⟨near, new, routable⟩
    rcases Cell.eq_or_adjacent_of_mem_neighbours near with rfl | beside
    · exact absurd here new
    · exact ⟨beside, routable, fun mem => new (List.mem_reverse.1 mem)⟩
  · intro way
    exact ⟨way.beside.mem_neighbours, fun mem => way.new (List.mem_reverse.2 mem), way.routable⟩

/-- No way onward is listed twice. -/
lemma nodup_onward (here : c ∈ walked) : (onward g c walked).Nodup := by
  have listed : (onward g c walked).Pairwise fun d e => d = e → d = c := by
    rw [onward]
    exact c.pairwise_neighbours.filter _
  refine listed.imp_of_mem fun {d e} mem _ cut same => ?_
  obtain rfl : d = c := cut same
  exact (mem_onward_iff.1 mem).2.1 here

/-- What is walked along a road: no cell twice, and from each cell the only way onward. -/
structure RoadWalk (g : Grid) (start last : Cell) (trail : List Cell) : Prop extends
    IsWalk g start last trail where
  nodup : trail.Nodup
  only : ∀ before c next after, trail = before ++ c :: next :: after →
    ∀ d, WayOn g (before ++ [c]) c d ↔ d = next

/-- A walk along a road begins with its first cell alone. -/
lemma RoadWalk.single (g : Grid) (start : Cell) : RoadWalk g start start [start] where
  toIsWalk := .single g start
  nodup := List.nodup_singleton start
  only before c next after split := by
    have length := congrArg List.length split
    simp only [List.length_append, List.length_cons, List.length_nil] at length
    omega

/-- A step over the only way onward. -/
lemma RoadWalk.concat (h : RoadWalk g start c trail) (one : ∀ d, WayOn g trail c d ↔ d = next) :
    RoadWalk g start next (trail ++ [next]) := by
  have way : WayOn g trail c next := (one next).2 rfl
  refine ⟨h.toIsWalk.concat way.beside way.routable, ?_, ?_⟩
  · exact List.nodup_append'.2 ⟨h.nodup, List.nodup_singleton next, by simpa using way.new⟩
  · intro before b d after split
    rcases List.eq_nil_or_concat' after with rfl | ⟨after, e, rfl⟩
    · -- The step is the new one.
      rw [List.append_cons before] at split
      obtain ⟨rfl, last⟩ := List.append_inj' split rfl
      obtain rfl := List.singleton_inj.1 last
      obtain rfl : b = c := by
        have e := h.last
        rw [List.getLast?_concat] at e
        exact Option.some.inj e
      exact one
    · have split : trail ++ [next] = (before ++ b :: d :: after) ++ [e] := by simpa using split
      exact h.only before b d after (List.append_inj' split rfl).1

/-- No walk along a road has more than one cell beyond the number of cells of the grid. -/
lemma RoadWalk.length_le (h : RoadWalk g start last trail) : trail.length ≤ g.cellCount + 1 := by
  have nodup : trail.tail.Nodup := h.nodup.tail
  have le := Grid.length_le_cellCount nodup fun c hc => (h.onward c hc).1
  rw [List.length_tail] at le
  exact Nat.le_add_of_sub_le le

/-- A road ends at a cell from where there is no way onward, or more than one. -/
def EndsAt (g : Grid) (walked : List Cell) (last : Cell) : Prop :=
  (∀ d, ¬WayOn g walked last d) ∨ ∃ d e, d ≠ e ∧ WayOn g walked last d ∧ WayOn g walked last e

/-- Where the list of ways onward does not hold exactly one, the road ends. -/
lemma endsAt_of_onward (here : c ∈ walked) (ended : ∀ next, onward g c walked ≠ [next]) :
    EndsAt g walked.reverse c := by
  match ways : onward g c walked with
  | [] =>
    refine .inl fun d way => ?_
    have mem := (mem_onward_iff_wayOn here).2 way
    rw [ways] at mem
    exact absurd mem List.not_mem_nil
  | [d] => exact absurd ways (ended d)
  | d :: e :: _ =>
    have nodup : (onward g c walked).Nodup := nodup_onward here
    rw [ways] at nodup
    have differ : d ≠ e := fun same => (List.nodup_cons.1 nodup).1 (same ▸ List.mem_cons_self)
    refine .inr ⟨d, e, differ, ?_, ?_⟩
    · apply (mem_onward_iff_wayOn here).1
      rw [ways]
      exact List.mem_cons_self
    · apply (mem_onward_iff_wayOn here).1
      rw [ways]
      exact List.mem_cons_of_mem _ List.mem_cons_self

/-- What has been walked and what is walked from there on make one walk along the road, up to its
end. -/
lemma Follows.roadWalk (h : Follows g c earlier trail)
    (before : RoadWalk g start c (c :: earlier).reverse) :
    ∃ last, RoadWalk g start last trail.reverse ∧ EndsAt g trail.reverse last := by
  induction h with
  | stop ended => exact ⟨_, before, endsAt_of_onward List.mem_cons_self ended⟩
  | @go c next earlier trail one _ ih =>
    apply ih
    rw [List.reverse_cons]
    apply before.concat
    intro d
    rw [← mem_onward_iff_wayOn List.mem_cons_self, one, List.mem_singleton]

/-- The walk along the road that leads away from a cell comes to an end, though nothing limits its
steps. It is a walk from that cell to the end of the road without a cell twice, every step of it goes
to the only routable neighbour that has not been walked, and at the end there is no such neighbour, or
there are several. -/
theorem roadEnd_ends (t : Traffic) (start : Cell) :
    Follows t.grid start [] (t.roadTrail start).reverse ∧
      RoadWalk t.grid start (t.roadEnd start) (t.roadTrail start) ∧
      EndsAt t.grid (t.roadTrail start) (t.roadEnd start) ∧
      (t.roadTrail start).length ≤ t.grid.cellCount + 1 := by
  have follows := t.roadTrail_follows start
  obtain ⟨last, walk, ends⟩ := follows.roadWalk (.single t.grid start)
  rw [List.reverse_reverse] at walk ends
  have here : t.roadEnd start = last := by
    rw [roadEnd, List.getLastD_eq_getLast?, walk.last]
    rfl
  rw [here]
  exact ⟨follows, walk, ends, walk.length_le⟩

end Traffic

end Cityscape
