import Cityscape.Footprint
import Cityscape.Route.Search

/-!
# Traffic

Vehicles travel between structures over road and rail cells. A trip starts on a routable cell of
the ring around one structure, ends on one around another, and takes the cheapest route over all
pairs of such cells; every cell of that route then carries more traffic.
-/

namespace Cityscape

/-- A grid with the number of cells a single route search may expand before it gives up. -/
structure Traffic where
  grid : Grid
  budget : Nat
deriving DecidableEq

/-- A routable cell beside a structure, the cell the structure was named by, and whether vehicles can
start there. -/
structure Access where
  road : Cell
  origin : Cell
  ready : Bool
deriving Repr, DecidableEq

namespace Traffic

/-- The budget of a search when none is chosen. -/
def defaultBudget : Nat := 100000

/-- Traffic on a grid, with the usual budget. -/
def on (g : Grid) : Traffic := ⟨g, defaultBudget⟩

/-- The routable cells of a footprint's ring, in its order. All of them are ready. -/
def adjacentRoads? (t : Traffic) (f : Footprint) (origin : Cell) : Option (List Access) := do
  return ((← f.ring?).filter t.grid.isRoutable).map (⟨·, origin, true⟩)

/-- The side of the structure around a centre; off the grid, that of a small one. -/
def structureSide (t : Traffic) (centre : Cell) : Nat :=
  match t.grid.tile? centre with
  | some tile => tile.structureSide
  | none => 3

/-- The routable cells beside the structure around a centre. -/
def peripheryRoads? (t : Traffic) (centre : Cell) : Option (List Access) := do
  t.adjacentRoads? (← Footprint.around? centre (t.structureSide centre)) centre

/-- A shortest route between two cells. -/
def route? (t : Traffic) (start goal : Cell) : Option Route :=
  Route.find t.grid t.budget start goal

/-- The traffic with `delta` more on one cell. -/
def load (t : Traffic) (c : Cell) (delta : Int) : Traffic :=
  { t with grid := t.grid.addTraffic c delta }

-- Irreducible because `follow` matches on it: unfolding `follow` is not to evaluate it.
/-- The routable neighbours of a cell that are not among the cells already walked. -/
@[irreducible] def onward (g : Grid) (c : Cell) (walked : List Cell) : List Cell :=
  c.neighbours.filter fun next => !walked.contains next && g.isRoutable next

/-- The walk that goes on from a cell while there is exactly one way onward, for at most `fuel`
steps: all cells walked, the last one first. -/
def follow (g : Grid) : Nat → Cell → List Cell → List Cell
  | 0, c, earlier => c :: earlier
  | fuel + 1, c, earlier =>
    match onward g c (c :: earlier) with
    | [next] => follow g fuel next (c :: earlier)
    | _ => c :: earlier

/-- The walk along the road that leads away from a cell, until it ends or branches. Every step
reaches a new cell of the grid, so the number of cells bounds the walk. -/
def roadTrail (t : Traffic) (start : Cell) : List Cell :=
  (follow t.grid t.grid.cellCount start []).reverse

/-- Where the road that leads away from a cell ends or branches. -/
def roadEnd (t : Traffic) (start : Cell) : Cell := (t.roadTrail start).getLastD start

/-- The better of the best route so far and one between two more cells. A pair that is at least as
far apart as the best route is long cannot give a better one and is not searched. -/
def consider (t : Traffic) (best : Option Route) (pair : Access × Access) : Option Route :=
  match best with
  | none => t.route? pair.1.road pair.2.road
  | some found =>
    if found.cost ≤ pair.1.road.distance pair.2.road then some found
    else match t.route? pair.1.road pair.2.road with
      | some route => if route.cost < found.cost then some route else some found
      | none => some found

/-- The first cheapest route over all pairs of a start and an end, the starts in the outer loop. -/
def cheapest (t : Traffic) (starts ends : List Access) : Option Route :=
  (starts.flatMap fun s => ends.map (s, ·)).foldl t.consider none

/-- The traffic with `delta` more on every cell of a route. -/
def loadRoute (t : Traffic) (route : Route) (delta : Int) : Traffic :=
  route.path.foldl (fun t c => t.load c delta) t

/-- The outcome of a trip: the route taken, if any, and the traffic afterwards. -/
structure Trip where
  route : Option Route
  traffic : Traffic
deriving DecidableEq

/-- A trip between the structures around two centres, which loads its route with `delta` traffic;
without a route nothing changes. -/
def trip? (t : Traffic) (origin destination : Cell) (delta : Int) : Option Trip := do
  let starts ← t.peripheryRoads? origin
  let ends ← t.peripheryRoads? destination
  match t.cheapest starts ends with
  | none => return ⟨none, t⟩
  | some route => return ⟨some route, t.loadRoute route delta⟩

end Traffic

end Cityscape
