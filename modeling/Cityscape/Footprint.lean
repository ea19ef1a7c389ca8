import Cityscape.Cell

/-!
# Footprints

The square of cells a structure covers, and the ring of cells that share an edge with it. A
footprint whose cells or ring would need coordinates out of bounds has none (`none`).
-/

namespace Cityscape

/-- The square of `size` by `size` cells with the given top left cell. -/
structure Footprint where
  left : Int32
  top : Int32
  size : Nat
deriving Repr, DecidableEq

namespace Footprint

/-- The footprint of a structure, given the centre that anchors it: the cell one to the right of
and one below its top left cell, whatever its size. -/
def around? (centre : Cell) (size : Nat) : Option Footprint := do
  let left ← Bounds.int32.fit? (centre.x.toInt - 1)
  let top ← Bounds.int32.fit? (centre.y.toInt - 1)
  return ⟨Int32.ofInt left, Int32.ofInt top, size⟩

/-- The side as a displacement between coordinates. -/
def side (f : Footprint) : Int := Bounds.int32.wrap f.size

/-- Whether a cell is covered. The far edges count only for a cell that is not already excluded
by a nearer one. -/
def contains? (f : Footprint) (c : Cell) : Option Bool := do
  if c.x < f.left then return false
  let right ← Bounds.int32.fit? (f.left.toInt + f.side)
  if right ≤ c.x.toInt then return false
  if c.y < f.top then return false
  let bottom ← Bounds.int32.fit? (f.top.toInt + f.side)
  return c.y.toInt < bottom

/-- The cells that share an edge with the footprint, column by column from west to east, each
column from north to south. Diagonal corners are not among them. -/
def ring? (f : Footprint) : Option (List Cell) := do
  let right ← Bounds.int32.fit? (f.left.toInt + f.side)
  let bottom ← Bounds.int32.fit? (f.top.toInt + f.side)
  if f.side ≤ 0 then return []
  let west ← Bounds.int32.fit? (f.left.toInt - 1)
  let north ← Bounds.int32.fit? (f.top.toInt - 1)
  let steps := (List.range f.side.toNat).map Int.ofNat
  return steps.map (fun i => Cell.ofInts west (f.top.toInt + i))
    ++ steps.flatMap (fun i =>
      [Cell.ofInts (f.left.toInt + i) north, Cell.ofInts (f.left.toInt + i) bottom])
    ++ steps.map (fun i => Cell.ofInts right (f.top.toInt + i))

/-- The covered cells, row by row. -/
def cells (f : Footprint) : List Cell :=
  (List.range f.size).flatMap fun j =>
    (List.range f.size).map fun i =>
      Cell.ofInts (f.left.toInt + Int.ofNat i) (f.top.toInt + Int.ofNat j)

end Footprint

end Cityscape
