import Cityscape.City

/-!
# Reports on a city

A summary of the counters, and a map with one character for each cell: roads and rails by their
traffic, structures by the letter of their kind.
-/

namespace Cityscape.City

variable {σ : Type}

/-- The summary, line by line. -/
def summary (c : City σ) : List String :=
  ["=== City Traffic Summary ===",
   s!"Tick: {c.time}",
   s!"Grid: {c.grid.width}x{c.grid.height}, Zones: {c.zones.size}",
   s!"Trips routed: {c.routed}, failed: {c.failed}",
   s!"Total traffic density: {c.grid.totalTraffic}"]

/-- The mark for the traffic on a cell. -/
def shade (density : Nat) : Char :=
  if density = 0 then '.' else if density ≤ 60 then ':' else if density ≤ 150 then '+' else '#'

/-- The mark for a cell. -/
def symbol (tile : Tile) (density : Nat) : Char :=
  match tile.classOf with
  | .rail => if density = 0 then '-' else shade density
  | .road => shade density
  | .residential => 'R'
  | .commercial => 'C'
  | .industrial => 'I'
  | .special => 'A'
  | _ => ' '

/-- The number of rows or columns of a map: those of the side that coordinates can name. -/
def drawnCount (side : Nat) : Nat := (Bounds.int32.wrap side).toNat

/-- The map, row by row. -/
def map (c : City σ) : List String :=
  (List.range (drawnCount c.grid.height)).map fun y =>
    String.ofList <| (List.range (drawnCount c.grid.width)).map fun x =>
      let cell : Cell := ⟨Int32.ofNat x, Int32.ofNat y⟩
      symbol ((c.grid.tile? cell).getD Tile.dirt) ((c.grid.density? cell).getD 0)

end Cityscape.City
