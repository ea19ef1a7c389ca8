import Cityscape.Proofs.Grid
import Cityscape.Traffic

/-!
# What traffic sees of a grid

Grids of one shape whose tiles have the same codes (`Grid.SameLayout`) look the same to everything
that travels: whatever the status flags and the densities are, a search takes the same steps, a
structure has the same roads beside it, and a trip takes the same route (`Alike.cheapest`).
-/

namespace Cityscape

/-- Two grids of one shape with the same tile codes on all cells. -/
structure Grid.SameLayout (g h : Grid) : Prop where
  width : g.width = h.width
  height : g.height = h.height
  code : ∀ c, (g.tile? c).map Tile.code = (h.tile? c).map Tile.code

namespace Grid

/-- Adding traffic keeps the width. -/
@[simp] lemma width_addTraffic (g : Grid) (c : Cell) (delta : Int) :
    (g.addTraffic c delta).width = g.width := (SameSides.addTraffic g c delta).width

/-- Adding traffic keeps the height. -/
@[simp] lemma height_addTraffic (g : Grid) (c : Cell) (delta : Int) :
    (g.addTraffic c delta).height = g.height := (SameSides.addTraffic g c delta).height

namespace SameLayout

variable {g h : Grid}

/-- What depends on nothing but the code of a tile is the same on both grids. -/
lemma map_tile? {α : Type} (l : SameLayout g h) {f : Tile → α}
    (hf : ∀ {s t : Tile}, s.code = t.code → f s = f t) (c : Cell) :
    (g.tile? c).map f = (h.tile? c).map f := by
  have code := l.code c
  cases hg : g.tile? c with
  | none =>
    rw [hg] at code
    rw [Option.map_eq_none_iff.1 code.symm]
  | some s =>
    rw [hg] at code
    obtain ⟨t, ht, e⟩ := Option.map_eq_some_iff.1 code.symm
    rw [ht, Option.map_some, Option.map_some, hf e]

/-- On grids of one layout, the same cells are routable. -/
lemma isRoutable (l : SameLayout g h) (c : Cell) : g.isRoutable c = h.isRoutable c := by
  have view (g : Grid) : g.isRoutable c = ((g.tile? c).map Tile.isRoutable).getD false := by
    rw [Grid.isRoutable]
    cases g.tile? c <;> rfl
  rw [view, view, l.map_tile? Tile.isRoutable_eq_of_code_eq]

/-- More traffic changes no layout, whatever the amounts on the two grids are. -/
lemma addTraffic (l : SameLayout g h) (c d : Cell) (m n : Int) :
    SameLayout (g.addTraffic c m) (h.addTraffic d n) where
  width := by rw [width_addTraffic, width_addTraffic, l.width]
  height := by rw [height_addTraffic, height_addTraffic, l.height]
  code c' := by rw [tile?_addTraffic, tile?_addTraffic, l.code]

end SameLayout

end Grid

namespace Route

section
variable {w k : Nat} {tiles tiles' : Vector Tile (w * k)} {traffic traffic' : Vector Nat (w * k)}

/-- An offer looks at the shape of the grid and at what is routable, and at nothing else. -/
lemma offer_congr (l : Grid.SameLayout ⟨w, k, tiles, traffic⟩ ⟨w, k, tiles', traffic'⟩) :
    offer ⟨w, k, tiles, traffic⟩ = offer ⟨w, k, tiles', traffic'⟩ := by
  funext remaining origin cost s next
  unfold offer
  rw [l.isRoutable]
  -- A position depends on the shape only, but each `match` has to be given its own grid's.
  cases h : Grid.index? ⟨w, k, tiles, traffic⟩ next with
  | none =>
    have h' : Grid.index? ⟨w, k, tiles', traffic'⟩ next = none := h
    rw [h']
  | some i =>
    have h' : Grid.index? ⟨w, k, tiles', traffic'⟩ next = some i := h
    rw [h']

/-- Tracing back looks at the shape of the grid only. -/
lemma traceBack_congr :
    traceBack ⟨w, k, tiles, traffic⟩ = traceBack ⟨w, k, tiles', traffic'⟩ := by
  funext visits fuel i path
  induction fuel generalizing i path with
  | zero => rfl
  | succ fuel ih =>
    rw [traceBack, traceBack]
    cases (visits.get i).parent with
    | none => rfl
    | some before => exact ih before _

/-- An iteration looks at the shape of the grid and at what is routable, and at nothing else. -/
lemma step_congr (l : Grid.SameLayout ⟨w, k, tiles, traffic⟩ ⟨w, k, tiles', traffic'⟩) :
    step ⟨w, k, tiles, traffic⟩ = step ⟨w, k, tiles', traffic'⟩ := by
  funext remaining budget goal s
  unfold step
  rw [offer_congr l]
  cases s.frontier with
  | nil => rfl
  | cons first others =>
    have trace := @traceBack_congr w k tiles tiles' traffic traffic'
    dsimp only
    rw [trace]
    rfl

/-- A search looks at the shape of the grid and at what is routable, and at nothing else. -/
lemma run_congr (l : Grid.SameLayout ⟨w, k, tiles, traffic⟩ ⟨w, k, tiles', traffic'⟩) :
    run ⟨w, k, tiles, traffic⟩ = run ⟨w, k, tiles', traffic'⟩ := by
  funext remaining budget goal fuel s
  induction fuel generalizing s with
  | zero => rfl
  | succ fuel ih =>
    rw [run, run, step_congr l]
    cases step ⟨w, k, tiles', traffic'⟩ remaining budget goal s with
    | ended answer => rfl
    | searching next => exact ih next

end

/-- Searches over grids of one layout find the same routes. -/
lemma find_congr {g h : Grid} (l : g.SameLayout h) : find g = find h := by
  obtain ⟨w, k, tiles, traffic⟩ := g
  obtain ⟨w', k', tiles', traffic'⟩ := h
  obtain rfl : w = w' := l.width
  obtain rfl : k = k' := l.height
  funext budget start goal
  unfold find findBy
  rw [run_congr l]
  rfl

end Route

namespace Traffic

/-- Traffic with one budget on grids of one layout. -/
structure Alike (t u : Traffic) : Prop where
  layout : t.grid.SameLayout u.grid
  budget : t.budget = u.budget

namespace Alike

variable {t u : Traffic}

/-- Alike traffic has the same routes between any two cells. -/
lemma route? (a : Alike t u) : t.route? = u.route? := by
  funext start goal
  rw [Traffic.route?, Traffic.route?, Route.find_congr a.layout, a.budget]

/-- Alike traffic has the same roads beside any square. -/
lemma adjacentRoads? (a : Alike t u) : t.adjacentRoads? = u.adjacentRoads? := by
  funext f origin
  have routable : t.grid.isRoutable = u.grid.isRoutable := funext a.layout.isRoutable
  rw [Traffic.adjacentRoads?, Traffic.adjacentRoads?, routable]

/-- Alike traffic has structures of the same sizes. -/
lemma structureSide (a : Alike t u) : t.structureSide = u.structureSide := by
  funext centre
  have view (t : Traffic) :
      t.structureSide centre = ((t.grid.tile? centre).map Tile.structureSide).getD 3 := by
    rw [Traffic.structureSide]
    cases t.grid.tile? centre <;> rfl
  rw [view, view, a.layout.map_tile? Tile.structureSide_eq_of_code_eq]

/-- Alike traffic has the same roads around any structure. -/
lemma peripheryRoads? (a : Alike t u) : t.peripheryRoads? = u.peripheryRoads? := by
  funext centre
  rw [Traffic.peripheryRoads?, Traffic.peripheryRoads?, a.structureSide, a.adjacentRoads?]

/-- Alike traffic has the same ways onward. -/
lemma onward (a : Alike t u) : onward t.grid = onward u.grid := by
  funext c walked
  simp only [Traffic.onward, a.layout.isRoutable]

/-- Alike traffic has the same walks along a road. -/
lemma follow (a : Alike t u) : follow t.grid = follow u.grid := by
  funext fuel
  induction fuel with
  | zero =>
    funext c earlier
    rw [Traffic.follow, Traffic.follow]
  | succ fuel ih =>
    funext c earlier
    rw [Traffic.follow, Traffic.follow, a.onward, ih]

/-- Alike traffic has the same road ends. -/
lemma roadEnd (a : Alike t u) : t.roadEnd = u.roadEnd := by
  funext start
  have cells : t.grid.cellCount = u.grid.cellCount := by
    rw [Grid.cellCount, Grid.cellCount, a.layout.width, a.layout.height]
  rw [Traffic.roadEnd, Traffic.roadEnd, roadTrail, roadTrail, a.follow, cells]

/-- Alike traffic has the same cheapest routes. -/
lemma cheapest (a : Alike t u) : t.cheapest = u.cheapest := by
  have consider : t.consider = u.consider := by
    funext best pair
    unfold Traffic.consider
    rw [a.route?]
  funext starts ends
  rw [Traffic.cheapest, Traffic.cheapest, consider]

end Alike

end Traffic

end Cityscape
