import Cityscape.Cell
import Cityscape.Tile

/-!
# The city grid

A rectangle of cells, each with a tile and a traffic density, stored row by row. Cells off the
grid read as `none` and are never written.
-/

namespace Cityscape

/-- The tiles and traffic densities of a city. -/
structure Grid where
  width : Nat
  height : Nat
  tiles : Vector Tile (width * height)
  traffic : Vector Nat (width * height)
deriving DecidableEq

namespace Grid

/-- No cell carries more traffic than this. -/
def densityLimit : Nat := 240

/-- A grid of bare ground without traffic. -/
def empty (width height : Nat) : Grid :=
  ⟨width, height, Vector.replicate _ Tile.dirt, Vector.replicate _ 0⟩

/-- The number of cells. -/
abbrev cellCount (g : Grid) : Nat := g.width * g.height

/-- Whether a cell lies on the grid. -/
def Contains (g : Grid) (c : Cell) : Prop :=
  0 ≤ c.x.toInt ∧ 0 ≤ c.y.toInt ∧ c.x.toInt < g.width ∧ c.y.toInt < g.height

instance (g : Grid) (c : Cell) : Decidable (g.Contains c) :=
  inferInstanceAs (Decidable (_ ∧ _ ∧ _ ∧ _))

/-- The position of a column and row in the storage. -/
def offsetOf (g : Grid) (c : Cell) : Nat := c.y.toInt.toNat * g.width + c.x.toInt.toNat

/-- The offset of a cell on the grid is a position among its cells. -/
theorem offsetOf_lt {g : Grid} {c : Cell} (h : g.Contains c) :
    g.offsetOf c < g.cellCount := by
  obtain ⟨x0, y0, xw, yh⟩ := h
  have hx : c.x.toInt.toNat < g.width := by omega
  have hy : c.y.toInt.toNat + 1 ≤ g.height := by omega
  calc c.y.toInt.toNat * g.width + c.x.toInt.toNat
      < (c.y.toInt.toNat + 1) * g.width := by rw [Nat.succ_mul]; omega
    _ ≤ g.height * g.width := Nat.mul_le_mul_right _ hy
    _ = g.width * g.height := Nat.mul_comm _ _

/-- The position of a cell in the storage, if it lies on the grid. -/
def index? (g : Grid) (c : Cell) : Option (Fin g.cellCount) :=
  if h : g.Contains c then some ⟨g.offsetOf c, offsetOf_lt h⟩ else none

/-- The cell at a position of the storage. -/
def cellAt (g : Grid) (i : Nat) : Cell := ⟨Int32.ofNat (i % g.width), Int32.ofNat (i / g.width)⟩

/-- The cell at a position; a grid without columns has no positions to divide into rows. -/
def location? (g : Grid) (i : Nat) : Option Cell :=
  if g.width = 0 then none else some (g.cellAt i)

/-- The tile of a cell. -/
def tile? (g : Grid) (c : Cell) : Option Tile := (g.index? c).map (g.tiles[·])

/-- The traffic density of a cell. -/
def density? (g : Grid) (c : Cell) : Option Nat := (g.index? c).map (g.traffic[·])

/-- Whether vehicles can travel over a cell: it is on the grid and its tile is routable. -/
def isRoutable (g : Grid) (c : Cell) : Bool :=
  match g.tile? c with
  | some t => t.isRoutable
  | none => false

/-- The grid with another tile on a cell; a cell off the grid changes nothing. -/
def setTile (g : Grid) (c : Cell) (t : Tile) : Grid :=
  match g.index? c with
  | some i => { g with tiles := g.tiles.set i t }
  | none => g

/-- The density after `delta` more, kept between zero and the limit. -/
def loaded (density : Nat) (delta : Int) : Nat := min densityLimit (density + delta).toNat

/-- The grid with more traffic on a cell; a cell off the grid changes nothing. -/
def addTraffic (g : Grid) (c : Cell) (delta : Int) : Grid :=
  match g.index? c with
  | some i => { g with traffic := g.traffic.set i (loaded g.traffic[i] delta) }
  | none => g

/-- The grid with the density of every cell lowered, down to zero at least. -/
def decay (g : Grid) (amount : Nat) : Grid := { g with traffic := g.traffic.map (· - amount) }

/-- The sum of all densities. -/
def totalTraffic (g : Grid) : Nat := g.traffic.toArray.foldl (· + ·) 0

/-- The cells with traffic and their densities, in storage order. -/
def loadedCells (g : Grid) : List (Cell × Nat) :=
  (g.traffic.toList.zipIdx.filter (0 < ·.1)).map fun (density, i) => (g.cellAt i, density)

/-- The index of a cell is its offset, and only cells on the grid have one. -/
theorem index?_eq_some_iff {g : Grid} {c : Cell} {i : Fin g.cellCount} :
    g.index? c = some i ↔ g.Contains c ∧ g.offsetOf c = i.val := by
  unfold index?
  split <;> simp_all [Fin.ext_iff]

/-- A cell without an index is one off the grid. -/
theorem index?_eq_none_iff {g : Grid} {c : Cell} : g.index? c = none ↔ ¬g.Contains c := by
  unfold index?
  split <;> simp_all

/-- Every cell on the grid has an index, its offset. -/
theorem index?_of_contains {g : Grid} {c : Cell} (h : g.Contains c) :
    g.index? c = some ⟨g.offsetOf c, offsetOf_lt h⟩ := index?_eq_some_iff.2 ⟨h, rfl⟩

/-- Two cells of the grid at one position are one cell. -/
theorem eq_of_offsetOf_eq {g : Grid} {c d : Cell} (hc : g.Contains c) (hd : g.Contains d)
    (h : g.offsetOf c = g.offsetOf d) : c = d := by
  obtain ⟨cx0, cy0, cxw, cyh⟩ := hc
  obtain ⟨dx0, dy0, dxw, dyh⟩ := hd
  have pos : 0 < g.width := by omega
  have column : c.x.toInt.toNat = d.x.toInt.toNat := by
    have := congrArg (· % g.width) h
    simp only [offsetOf, Nat.mul_add_mod_self_right] at this
    rwa [Nat.mod_eq_of_lt (by omega), Nat.mod_eq_of_lt (by omega)] at this
  have row : c.y.toInt.toNat = d.y.toInt.toNat := by
    rw [offsetOf, offsetOf, column] at h
    exact Nat.eq_of_mul_eq_mul_right pos (Nat.add_right_cancel h)
  exact Cell.ext_toInt (by omega) (by omega)

/-- Two cells of the grid have one position only if they are one cell. -/
theorem index?_inj {g : Grid} {c d : Cell} {i : Fin g.cellCount} (hc : g.index? c = some i)
    (hd : g.index? d = some i) : c = d := by
  obtain ⟨hc, ec⟩ := index?_eq_some_iff.1 hc
  obtain ⟨hd, ed⟩ := index?_eq_some_iff.1 hd
  exact eq_of_offsetOf_eq hc hd (ec.trans ed.symm)

/-- With other tiles in place of its own, a grid shows those tiles. -/
theorem tile?_withTiles (g : Grid) (tiles : Vector Tile g.cellCount) (c : Cell) :
    ({ g with tiles := tiles } : Grid).tile? c = (g.index? c).map (tiles[·]) := rfl

/-- With other densities in place of its own, a grid shows those densities. -/
theorem density?_withTraffic (g : Grid) (traffic : Vector Nat g.cellCount) (c : Cell) :
    ({ g with traffic := traffic } : Grid).density? c = (g.index? c).map (traffic[·]) := rfl

/-- Setting a tile shows the new tile at its cell, if the cell is on the grid, and changes no other.
-/
theorem tile?_setTile {g : Grid} {c d : Cell} {t : Tile} :
    (g.setTile c t).tile? d = if g.Contains c ∧ d = c then some t else g.tile? d := by
  unfold setTile
  split
  · rename_i i hi
    have hc := (index?_eq_some_iff.1 hi).1
    rw [tile?_withTiles, tile?]
    by_cases e : d = c
    · subst e
      simp [hi, hc]
    · cases hj : g.index? d with
      | none => simp [e]
      | some j =>
        have : i.val ≠ j.val := fun h => e (index?_inj hj (Fin.ext h ▸ hi))
        simp [e, Vector.getElem_set, this]
  · rename_i hi
    simp [index?_eq_none_iff.1 hi]

/-- Adding traffic loads the cell it is added at, if that is on the grid, and no other. -/
theorem density?_addTraffic {g : Grid} {c d : Cell} {delta : Int} :
    (g.addTraffic c delta).density? d =
      if d = c then (g.density? d).map (loaded · delta) else g.density? d := by
  unfold addTraffic
  split
  · rename_i i hi
    rw [density?_withTraffic, density?]
    by_cases e : d = c
    · subst e
      simp [hi]
    · cases hj : g.index? d with
      | none => simp [e]
      | some j =>
        have : i.val ≠ j.val := fun h => e (index?_inj hj (Fin.ext h ▸ hi))
        simp [e, Vector.getElem_set, this]
  · rename_i hi
    split
    · rename_i e
      subst e
      simp [density?, hi]
    · rfl

/-- Setting a tile changes no density. -/
theorem density?_setTile {g : Grid} {c d : Cell} {t : Tile} :
    (g.setTile c t).density? d = g.density? d := by
  unfold setTile
  split <;> rfl

/-- Adding traffic changes no tile. -/
theorem tile?_addTraffic {g : Grid} {c d : Cell} {delta : Int} :
    (g.addTraffic c delta).tile? d = g.tile? d := by
  unfold addTraffic
  split <;> rfl

/-- A decay takes the same amount from every density, down to zero at most. -/
theorem density?_decay {g : Grid} {c : Cell} {amount : Nat} :
    (g.decay amount).density? c = (g.density? c).map (· - amount) := by
  rw [decay, density?_withTraffic, density?, Option.map_map]
  congr 1
  funext i
  exact Vector.getElem_map _ i.isLt

end Grid

end Cityscape
