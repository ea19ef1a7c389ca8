import Cityscape.Grid
import Mathlib.Algebra.Group.Nat.Defs
import Mathlib.Data.List.Nodup
import Mathlib.Data.List.Perm.Subperm
import Mathlib.Tactic.Lemma

/-!
# Cells of a grid

The positions of a grid and its cells belong together (`cellAt_offsetOf`), so there are no more
different cells than positions (`length_le_cellCount`). Where the sides can be coordinates, no position
is without a cell (`index?_cellAt_of_sides`). Tiles are set one by one and the sides stay the same
(`SameSides`). A load leaves a density within the limits (`loaded_eq_clamp`).
-/

namespace Cityscape.Grid

open Bounds (int32)

variable {g h k : Grid} {c d : Cell} {t : Tile}

/-- A cell of the grid is the cell at its own position. -/
lemma cellAt_offsetOf (h : g.Contains c) : g.cellAt (g.offsetOf c) = c := by
  obtain ⟨x0, y0, xw, yh⟩ := h
  have column : g.offsetOf c % g.width = c.x.toInt.toNat := by
    rw [offsetOf, Nat.mul_add_mod_self_right, Nat.mod_eq_of_lt (by omega)]
  have row : g.offsetOf c / g.width = c.y.toInt.toNat := by
    rw [offsetOf, Nat.add_comm, Nat.add_mul_div_right _ _ (by omega),
      Nat.div_eq_of_lt (by omega), Nat.zero_add]
  have x : c.x.toInt < 2147483648 := c.x.toInt_lt
  have y : c.y.toInt < 2147483648 := c.y.toInt_lt
  refine Cell.ext_toInt ?_ ?_
  · rw [cellAt, column, Int32.toInt_ofNat_of_lt (by omega)]
    omega
  · rw [cellAt, row, Int32.toInt_ofNat_of_lt (by omega)]
    omega

/-- The cell at the index of a cell is that cell. -/
lemma cellAt_of_index? {i : Fin g.cellCount} (h : g.index? c = some i) : g.cellAt i = c := by
  obtain ⟨inside, place⟩ := index?_eq_some_iff.1 h
  rw [← place, cellAt_offsetOf inside]

/-- Where columns and rows can be coordinates, every position belongs to a cell. -/
lemma index?_cellAt_of_sides (columns : g.width ≤ 2 ^ 31) (rows : g.height ≤ 2 ^ 31)
    (i : Fin g.cellCount) : g.index? (g.cellAt i) = some i := by
  have below : i.val < g.width * g.height := i.isLt
  have width : 0 < g.width := Nat.pos_of_mul_pos_right (Nat.zero_lt_of_lt below)
  have column : i.val % g.width < g.width := Nat.mod_lt _ width
  have row : i.val / g.width < g.height := Nat.div_lt_of_lt_mul below
  have back : i.val / g.width * g.width + i.val % g.width = i.val := Nat.div_add_mod' _ _
  have x : (g.cellAt i).x.toInt = (i.val % g.width : Nat) :=
    Int32.toInt_ofNat_of_lt (by omega)
  have y : (g.cellAt i).y.toInt = (i.val / g.width : Nat) :=
    Int32.toInt_ofNat_of_lt (by omega)
  refine index?_eq_some_iff.2 ⟨⟨?_, ?_, ?_, ?_⟩, ?_⟩
  · exact x ▸ Int.natCast_nonneg _
  · exact y ▸ Int.natCast_nonneg _
  · exact x ▸ Int.ofNat_lt.2 column
  · exact y ▸ Int.ofNat_lt.2 row
  · rw [offsetOf, x, y, Int.toNat_natCast, Int.toNat_natCast, back]

/-- On a grid of which the positions can be coordinates, every position belongs to a cell. -/
lemma index?_cellAt (cells : g.cellCount < 2 ^ 31) (i : Fin g.cellCount) :
    g.index? (g.cellAt i) = some i := by
  have some : 0 < g.width * g.height := Nat.zero_lt_of_lt i.isLt
  have columns : g.width ≤ g.cellCount := Nat.le_mul_of_pos_right _ (Nat.pos_of_mul_pos_left some)
  have rows : g.height ≤ g.cellCount := Nat.le_mul_of_pos_left _ (Nat.pos_of_mul_pos_right some)
  exact index?_cellAt_of_sides (by omega) (by omega) i

/-- There are no more different cells on a grid than it has positions for them. -/
lemma length_le_cellCount {cells : List Cell} (nodup : cells.Nodup)
    (inside : ∀ c ∈ cells, g.Contains c) : cells.length ≤ g.cellCount := by
  have places : (cells.map g.offsetOf).Nodup :=
    nodup.map_on fun c hc d hd same => eq_of_offsetOf_eq (inside c hc) (inside d hd) same
  have bound : cells.map g.offsetOf ⊆ List.range g.cellCount := by
    intro place mem
    obtain ⟨c, hc, rfl⟩ := List.mem_map.1 mem
    exact List.mem_range.2 (offsetOf_lt (inside c hc))
  have le := (List.subperm_of_subset places bound).length_le
  rwa [List.length_map, List.length_range] at le

/-- Whether vehicles can travel over a cell is read off its tile. -/
lemma isRoutable_of_tile? (h : g.tile? c = some t) : g.isRoutable c = t.isRoutable := by
  rw [isRoutable, h]

/-- No vehicle can travel over a cell off the grid. -/
lemma isRoutable_of_not_contains (off : ¬g.Contains c) : g.isRoutable c = false := by
  rw [isRoutable, tile?, index?_eq_none_iff.2 off]
  rfl

/-- A routable cell lies on the grid. -/
lemma contains_of_isRoutable (h : g.isRoutable c = true) : g.Contains c := by
  by_contra off
  exact absurd (h.symm.trans (isRoutable_of_not_contains off)) (by decide)

/-- The densities that a load can leave on a cell. -/
def densities : Bounds := ⟨0, densityLimit⟩

/-- What a load adds up is kept within the limits of the densities. To keep it within the limits of
the integers first makes no difference. -/
lemma loaded_eq_clamp (density : Nat) (delta : Int) :
    (loaded density delta : Int) = densities.clamp (density + delta) ∧
      densities.clamp (int32.clamp (density + delta)) = densities.clamp (density + delta) := by
  simp only [loaded, Bounds.clamp, densities, densityLimit, int32]
  omega

/-- Every cell on the grid has a density. -/
lemma exists_density? (inside : g.Contains c) :
    ∃ n, g.density? c = some n := by
  rw [density?, index?_of_contains inside]
  exact ⟨_, rfl⟩

/-- The second grid has the sides of the first one. -/
structure SameSides (g h : Grid) : Prop where
  width : h.width = g.width
  height : h.height = g.height

namespace SameSides

/-- A grid has its own sides. -/
lemma refl (g : Grid) : SameSides g g := ⟨rfl, rfl⟩

/-- Having the same sides carries over from grid to grid. -/
lemma trans (first : SameSides g h) (second : SameSides h k) : SameSides g k :=
  ⟨second.width.trans first.width, second.height.trans first.height⟩

/-- Grids with the same sides contain the same cells. -/
lemma contains_iff (s : SameSides g h) : h.Contains c ↔ g.Contains c := by
  rw [Contains, s.width, s.height, Contains]

/-- Setting a tile keeps the sides. -/
lemma setTile (g : Grid) (c : Cell) (t : Tile) : SameSides g (g.setTile c t) := by
  unfold Grid.setTile
  split <;> exact ⟨rfl, rfl⟩

/-- Adding traffic keeps the sides. -/
lemma addTraffic (g : Grid) (c : Cell) (delta : Int) : SameSides g (g.addTraffic c delta) := by
  unfold Grid.addTraffic
  split <;> exact ⟨rfl, rfl⟩

end SameSides

/-- Where cells are set one after the other, each to its own tile, the others stay the same. -/
lemma tile?_foldl_setTile (tile : Cell → Tile) (cells : List Cell) (g : Grid) :
    (cells.foldl (fun g c => g.setTile c (tile c)) g).tile? d =
      if g.Contains d ∧ d ∈ cells then some (tile d) else g.tile? d := by
  induction cells generalizing g with
  | nil => simp
  | cons c cells ih =>
    simp only [List.foldl_cons, ih, (SameSides.setTile g c (tile c)).contains_iff, tile?_setTile]
    by_cases inside : g.Contains d
    · by_cases here : d = c
      · subst here
        simp [inside]
      · simp [inside, here]
    · have apart : ¬(g.Contains c ∧ d = c) := by
        rintro ⟨hc, rfl⟩
        exact inside hc
      simp [inside, apart]

/-- Setting the tiles of some cells, one after another, keeps the sides. -/
lemma sameSides_foldl_setTile (tile : Cell → Tile) (cells : List Cell) (g : Grid) :
    SameSides g (cells.foldl (fun g c => g.setTile c (tile c)) g) :=
  List.foldlRecOn cells _ (.refl g) fun h same c _ => same.trans (.setTile h c (tile c))

end Cityscape.Grid
