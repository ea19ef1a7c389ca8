import Cityscape.Proofs.Route.Termination
import Cityscape.Proofs.Traffic.Access
import Cityscape.Proofs.Traffic.Walk

/-!
# Routing from every cell

Routes, walks and loads are defined for every cell, on the grid or off it, and their searches end
without a sum that leaves its bounds. Roads are looked for, and trips taken, around every centre
that has room for a structure (`Traffic.routing_defined`), but not around those at the very bounds
of the coordinates: there a step from cell to cell stops, while a ring is not cut off
(`Traffic.peripheryRoads?_undefined`).
-/

namespace Cityscape.Traffic

open Bounds (int32 uint64)

variable {t : Traffic}

/-- A walk that goes on as far as it can has a last cell. -/
lemma Follows.eq_cons {g : Grid} {c : Cell} {earlier trail : List Cell}
    (h : Follows g c earlier trail) : ∃ last before, trail = last :: before := by
  induction h with
  | stop => exact ⟨_, _, rfl⟩
  | go _ _ ih => exact ih

/-- The walk along the road that leads away from a cell ends at the end of that road. -/
lemma roadEnd_follows (t : Traffic) (start : Cell) :
    ∃ earlier, Follows t.grid start [] (t.roadEnd start :: earlier) := by
  have follows := t.roadTrail_follows start
  obtain ⟨last, before, e⟩ := follows.eq_cons
  have here : t.roadEnd start = last := by
    rw [roadEnd, List.reverse_eq_iff.1 e, List.getLastD_eq_getLast?, List.getLast?_reverse]
    rfl
  exact ⟨before, here ▸ e ▸ follows⟩

/-- Traffic on a cell off the grid is no traffic. -/
lemma load_of_not_contains {c : Cell} (off : ¬t.grid.Contains c) (delta : Int) :
    t.load c delta = t := by
  rw [load, Grid.addTraffic, Grid.index?_eq_none_iff.2 off]

/-- No route leads from or to a cell off the grid, except from a cell to itself. -/
lemma route?_of_not_contains {start goal : Cell} (apart : start ≠ goal)
    (off : ¬t.grid.Contains start ∨ ¬t.grid.Contains goal) : t.route? start goal = none := by
  unfold route? Route.find Route.findBy
  rw [if_neg apart]
  rcases off with off | off
  · rw [Grid.index?_eq_none_iff.2 off]
    rfl
  · rw [Grid.index?_eq_none_iff.2 off]
    exact Option.bind_eq_none_iff.2 fun _ _ => rfl

/-- Around a centre that does not border the grid there are no roads. -/
lemma peripheryRoads?_of_farAway {centre : Cell} (room : t.HasRoom centre)
    (far : ∀ c, t.Beside centre c → ¬t.grid.Contains c) : t.peripheryRoads? centre = some [] := by
  obtain ⟨roads, found⟩ := peripheryRoads?_isSome_iff.2 room
  rw [found]
  cases roads with
  | nil => rfl
  | cons a others =>
    obtain ⟨-, -, routable, beside⟩ := (mem_peripheryRoads_iff found).1 List.mem_cons_self
    exact absurd (Grid.contains_of_isRoutable routable) (far a.road beside)

/-- All positions of a grid with such sides can be counted. -/
lemma holds_cellCount {g : Grid} (width : g.width < 2 ^ 31) (height : g.height < 2 ^ 31) :
    uint64.Holds g.cellCount := by
  have cells : g.width * g.height ≤ 2 ^ 31 * 2 ^ 31 :=
    Nat.mul_le_mul (Nat.le_of_lt width) (Nat.le_of_lt height)
  simp only [Bounds.Holds, uint64, Grid.cellCount]
  omega

/-- What routing does, cell by cell. A search comes to an answer, and the end of a road is found. A
load changes the density of its own cell, within the limit. Roads are found around a centre if it
has room for a structure, and they are the routable cells beside it, all of them ready; a trip takes
room at both ends.
A cell off the grid is off the map, and around a centre that does not border it there are no
roads. -/
structure Defined (t : Traffic) : Prop where
  positions : uint64.Holds t.grid.cellCount
  route : ∀ start goal, Route.Answers t.grid t.budget start goal (t.route? start goal)
  roadEnd : ∀ start, ∃ earlier, Follows t.grid start [] (t.roadEnd start :: earlier)
  load : ∀ c delta d, (t.load c delta).grid.density? d =
    if d = c then (t.grid.density? d).map (Grid.loaded · delta) else t.grid.density? d
  limit : ∀ density delta, Grid.loaded density delta ≤ Grid.densityLimit
  periphery : ∀ centre, (∃ roads, t.peripheryRoads? centre = some roads) ↔ t.HasRoom centre
  roads : ∀ centre roads, t.peripheryRoads? centre = some roads → ∀ a, a ∈ roads ↔
    a.origin = centre ∧ a.ready = true ∧ t.grid.isRoutable a.road = true ∧ t.Beside centre a.road
  trip : ∀ origin destination delta, (∃ trip, t.trip? origin destination delta = some trip) ↔
    t.HasRoom origin ∧ t.HasRoom destination
  offGrid : ∀ c, ¬t.grid.Contains c → t.grid.density? c = none ∧ t.grid.isRoutable c = false ∧
    (∀ delta, t.load c delta = t) ∧ ∀ d, d ≠ c → t.route? c d = none ∧ t.route? d c = none
  farAway : ∀ centre, t.HasRoom centre → (∀ c, t.Beside centre c → ¬t.grid.Contains c) →
    t.peripheryRoads? centre = some []

/-- On a grid whose sides are lengths between coordinates, routing is defined: for every cell where
it only steps from cell to cell, and for the centres with room where it looks at a structure. -/
theorem routing_defined (width : t.grid.width < 2 ^ 31) (height : t.grid.height < 2 ^ 31) :
    t.Defined where
  positions := holds_cellCount width height
  route start goal := Route.find_answers (holds_cellCount width height) t.budget start goal
  roadEnd := t.roadEnd_follows
  load _ _ _ := Grid.density?_addTraffic
  limit _ _ := Nat.min_le_left _ _
  periphery _ := peripheryRoads?_isSome_iff
  roads _ _ found _ := mem_peripheryRoads_iff found
  trip _ _ _ := trip?_isSome_iff
  offGrid c off := by
    refine ⟨?_, Grid.isRoutable_of_not_contains off, load_of_not_contains off, fun d apart => ?_⟩
    · rw [Grid.density?, Grid.index?_eq_none_iff.2 off]
      rfl
    · exact ⟨route?_of_not_contains apart.symm (.inl off), route?_of_not_contains apart (.inr off)⟩
  farAway _ := peripheryRoads?_of_farAway

/-- The westernmost of all cells, far off every grid. -/
def edge : Cell := ⟨Int32.minValue, 0⟩

/-- At the edge of the coordinates there is no room for a structure. -/
lemma not_hasRoom_edge (t : Traffic) : ¬t.HasRoom edge := by
  intro room
  exact absurd room.west (by decide)

/-- A car drives from the houses to the shops, and none drives to the edge of the coordinates. -/
theorem routing_defined_town :
    Town.grid.width < 2 ^ 31 ∧ Town.grid.height < 2 ^ 31 ∧
      (∃ trip, (on Town.grid).trip? Town.houses Town.shops 5 = some trip) ∧
      (on Town.grid).route? Town.houses edge = none ∧
      ¬∃ trip, (on Town.grid).trip? Town.houses edge 5 = some trip := by
  have width : Town.grid.width < 2 ^ 31 := by decide
  have height : Town.grid.height < 2 ^ 31 := by decide
  have all : (on Town.grid).Defined := routing_defined width height
  refine ⟨width, height, (all.trip _ _ _).2 ⟨?_, ?_⟩, ?_, fun trip => ?_⟩
  · exact hasRoom_of_contains (by decide) (by decide) (by decide)
  · exact hasRoom_of_contains (by decide) (by decide) (by decide)
  · exact ((all.offGrid edge (by decide)).2.2.2 Town.houses (by decide)).2
  · exact not_hasRoom_edge _ ((all.trip _ _ _).1 trip).2

/-- Around the cells at the bounds of the coordinates no roads can be looked for, on no grid. -/
theorem peripheryRoads?_undefined :
    ¬∀ (t : Traffic) (centre : Cell), t.grid.width < 2 ^ 31 → t.grid.height < 2 ^ 31 →
      ∃ roads, t.peripheryRoads? centre = some roads := by
  intro total
  have found := total (on (.empty 3 3)) edge (by decide) (by decide)
  exact not_hasRoom_edge _ (peripheryRoads?_isSome_iff.1 found)

end Cityscape.Traffic
