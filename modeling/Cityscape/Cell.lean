import Cityscape.Bounds

/-!
# Cells

A cell of the city by its column and row. Coordinates stop at their bounds, which lie outside
every grid, so a step from any cell leads to a cell.
-/

namespace Cityscape

/-- A cell, on a grid or off it. -/
structure Cell where
  x : Int32
  y : Int32
deriving Repr, DecidableEq

namespace Cell

/-- The cell with these coordinates, which are meant to lie within the bounds of a coordinate. -/
def ofInts (x y : Int) : Cell := ⟨Int32.ofInt x, Int32.ofInt y⟩

/-- The cell at a displacement; each coordinate stops at its bounds. -/
def offset (c : Cell) (dx dy : Int) : Cell :=
  ofInts (Bounds.int32.clamp (c.x.toInt + dx)) (Bounds.int32.clamp (c.y.toInt + dy))

/-- The number of orthogonal steps between two cells, at most the largest length. -/
def distance (c d : Cell) : Nat :=
  Bounds.uint32.clampNat
    ((c.x.toInt - d.x.toInt).natAbs + (c.y.toInt - d.y.toInt).natAbs)

/-- The orthogonal neighbours: north, east, south, west. -/
def neighbours (c : Cell) : List Cell :=
  [c.offset 0 (-1), c.offset 1 0, c.offset 0 1, c.offset (-1) 0]

/-- The form `(x, y)`. -/
def render (c : Cell) : String := s!"({c.x.toInt}, {c.y.toInt})"

/-- A cell is known by the values of its coordinates. -/
theorem ext_toInt {c d : Cell} (hx : c.x.toInt = d.x.toInt) (hy : c.y.toInt = d.y.toInt) :
    c = d := by
  cases c
  cases d
  simp_all [Int32.toInt_inj]

/-- A machine integer has the value it is made from, if that is one it can hold. -/
theorem toInt_ofInt_of_holds {v : Int} (h : Bounds.int32.Holds v) :
    (Int32.ofInt v).toInt = v := by
  obtain ⟨lo, hi⟩ := h
  exact Int32.toInt_ofInt_of_le (by simpa [Bounds.int32] using lo)
    (by simp [Bounds.int32] at hi; omega)

/-- The value of a machine integer is one it can hold. -/
theorem holds_toInt (v : Int32) : Bounds.int32.Holds v.toInt := by
  have lo := v.le_toInt
  have hi := v.toInt_lt
  simp only [Bounds.Holds, Bounds.int32]
  omega

/-- The column of a moved cell saturates at the bounds of a coordinate. -/
theorem toInt_x_offset (c : Cell) (dx dy : Int) :
    (c.offset dx dy).x.toInt = Bounds.int32.clamp (c.x.toInt + dx) :=
  toInt_ofInt_of_holds (Bounds.holds_clamp _ (by decide))

/-- The row of a moved cell saturates at the bounds of a coordinate. -/
theorem toInt_y_offset (c : Cell) (dx dy : Int) :
    (c.offset dx dy).y.toInt = Bounds.int32.clamp (c.y.toInt + dy) :=
  toInt_ofInt_of_holds (Bounds.holds_clamp _ (by decide))

end Cell

end Cityscape
