import Cityscape.City

/-!
# The generated city

A block grid: roads on every fourth row and column with a rail line on the row nearest the middle
from above, a small structure in each block, and an airport over the last block where there is
room for it. Segments of road are missing at random, crossings never are.
-/

namespace Cityscape.City

/-- The distance between parallel roads. -/
def blockSpacing : Nat := 4

/-- A missing road segment has a probability of 0.08, which is this many out of 2^64. -/
def missingRoadThreshold : Nat := 1475739525896764160

/-- The row of the rail line. -/
def railRow (height : Nat) : Nat := height / 2 / blockSpacing * blockSpacing

/-- What is laid on a cell: a crossing, a segment, or nothing. -/
def laidTile? (railRow : Nat) (x y : Nat) : Option Tile :=
  if x % blockSpacing = 0 then
    some (if y % blockSpacing = 0 then Tile.intersection else Tile.roadColumn)
  else if y % blockSpacing = 0 then
    some (if y = railRow then Tile.rail else Tile.road)
  else none

section
variable {σ : Type} [Random.Source σ]

/-- The grid with one cell laid, unless it is a segment that chance leaves out. -/
def layCell (railRow : Nat) (state : Grid × σ) (c : Cell) : Grid × σ :=
  match laidTile? railRow c.x.toInt.toNat c.y.toInt.toNat with
  | none => state
  | some tile =>
    if tile = Tile.intersection then (state.1.setTile c tile, state.2)
    else
      let (missing, source) := Random.chance missingRoadThreshold state.2
      if missing then (state.1, source) else (state.1.setTile c tile, source)

/-- The grid with its roads and its rail line laid, cell by cell in storage order. -/
def layRoads (g : Grid) (source : σ) : Grid × σ :=
  ((List.range g.cellCount).map g.cellAt).foldl (layCell (railRow g.height)) (g, source)

/-- The first coordinates of the blocks along a side that have room for a small structure and the
road behind it. -/
def blockStarts? (side : Nat) : Option (List Nat) := do
  let last ← Bounds.int32.fit? (Bounds.int32.wrap side - 3)
  return (List.range ((last.toNat + 2) / blockSpacing)).map (blockSpacing * · + 1)

/-- The centres of the structures, row by row. -/
def centres? (width height : Nat) : Option (List Cell) := do
  let tops ← blockStarts? height
  if tops.isEmpty then return []
  let lefts ← blockStarts? width
  return tops.flatMap fun top => lefts.map fun left =>
    ⟨Int32.ofNat (left + 1), Int32.ofNat (top + 1)⟩

/-- The tiles of structures: the centre tile, and the code before it for the other cells. -/
def structureTile (f : Footprint) (centreTile : Tile) (c : Cell) : Tile :=
  if c = Cell.ofInts (f.left.toInt + 1) (f.top.toInt + 1) then centreTile else centreTile - 1

/-- The grid with a structure built over a footprint. -/
def build (g : Grid) (f : Footprint) (centreTile : Tile) : Grid :=
  f.cells.foldl (fun g c => g.setTile c (structureTile f centreTile c)) g

/-- The centre tiles of the small structures. -/
def smallCentres : Vector Tile 3 := #v[Tile.house, Tile.shop, Tile.factory]

/-- The footprint of a structure around a centre well inside the grid. -/
def footprintAround (centre : Cell) (size : Nat) : Footprint :=
  ⟨centre.x - 1, centre.y - 1, size⟩

/-- The grid with a random small structure built around a centre. -/
def buildSmall (state : Grid × σ) (centre : Cell) : Grid × σ :=
  let (choice, source) := Random.below 3 (by decide) state.2
  (build state.1 (footprintAround centre 3) smallCentres[choice], source)

/-- The grid with an airport around a centre, if it would leave a column and a row free. -/
def buildAirport (g : Grid) (centre : Cell) : Grid :=
  let f := footprintAround centre 4
  if f.left.toInt + 4 < g.width ∧ f.top.toInt + 4 < g.height then build g f Tile.airport else g

/-- The generated city: its roads, then its structures, then its airport. -/
def generate? (width height : Nat) (source : σ) : Option (City σ) := do
  let (laid, source) := layRoads (.empty width height) source
  let centres ← centres? width height
  let (built, source) := centres.foldl buildSmall (laid, source)
  let finished := match centres.getLast? with
    | some centre => buildAirport built centre
    | none => built
  return .start finished centres.toArray source

end

end Cityscape.City
