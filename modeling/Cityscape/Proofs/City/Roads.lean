import Cityscape.City.Layout
import Cityscape.Proofs.Grid

/-!
# The roads of a generated city

Whatever chance leaves out, roads and rails lie on every fourth column and row only, and there is a
crossing wherever two of these lines meet (`hasRoads_layRoads`).
-/

namespace Cityscape.City

variable {row : Nat} {g h k : Grid} {c : Cell}

/-- What is laid on a cell, given the row of the rail line. -/
abbrev laid? (row : Nat) (c : Cell) : Option Tile :=
  laidTile? row c.x.toInt.toNat c.y.toInt.toNat

/-- The second grid is the first one with something laid on some of its cells. -/
structure Laid (row : Nat) (g h : Grid) : Prop where
  sides : g.SameSides h
  tile : ∀ c, h.tile? c = g.tile? c ∨
    g.Contains c ∧ ∃ t, laid? row c = some t ∧ h.tile? c = some t

namespace Laid

/-- Nothing has to be laid for a grid to be as it is. -/
lemma refl (row : Nat) (g : Grid) : Laid row g g := ⟨.refl g, fun _ => .inl rfl⟩

/-- What is laid on a grid and then on the grid with it has all been laid on the first one. -/
lemma trans (first : Laid row g h) (second : Laid row h k) : Laid row g k := by
  refine ⟨first.sides.trans second.sides, fun c => ?_⟩
  rcases second.tile c with same | ⟨inside, laid⟩
  · rw [same]
    exact first.tile c
  · exact .inr ⟨first.sides.contains_iff.1 inside, laid⟩

/-- One tile is laid where it belongs. -/
lemma setTile (g : Grid) {t : Tile} (ht : laid? row c = some t) : Laid row g (g.setTile c t) := by
  refine ⟨.setTile g c t, fun d => ?_⟩
  rw [Grid.tile?_setTile]
  split
  · rename_i here
    obtain ⟨inside, rfl⟩ := here
    exact .inr ⟨inside, t, ht, rfl⟩
  · exact .inl rfl

/-- A crossing stays where it is. -/
lemma crossing (laid : Laid row g h) (crossed : laid? row c = some Tile.intersection)
    (there : g.tile? c = some Tile.intersection) : h.tile? c = some Tile.intersection := by
  rcases laid.tile c with same | ⟨-, t, ht, now⟩
  · exact same.trans there
  · exact now.trans (ht.symm.trans crossed)

end Laid

/-- A crossing is laid where a fourth column meets a fourth row. -/
lemma laid?_of_crossing (x : c.x.toInt.toNat % 4 = 0) (y : c.y.toInt.toNat % 4 = 0) :
    laid? row c = some Tile.intersection := by
  rw [laid?, laidTile?, blockSpacing, if_pos x, if_pos y]

/-- Something is laid only in a fourth column or in a fourth row. -/
lemma aligned_of_laid? {t : Tile} (h : laid? row c = some t) :
    c.x.toInt.toNat % 4 = 0 ∨ c.y.toInt.toNat % 4 = 0 := by
  unfold laid? laidTile? at h
  split at h
  · exact .inl ‹_›
  · split at h
    · exact .inr ‹_›
    · cases h

section
variable {σ : Type} [Random.Source σ]

/-- To lay a cell is to leave the grid as it is, or to set the cell's own tile. -/
lemma layCell_cases (row : Nat) (state : Grid × σ) (c : Cell) :
    ((layCell row state c).1 = state.1 ∧ laid? row c ≠ some Tile.intersection) ∨
      ∃ t, laid? row c = some t ∧ (layCell row state c).1 = state.1.setTile c t := by
  unfold layCell
  split
  · rename_i nothing
    exact .inl ⟨rfl, fun crossed => Option.some_ne_none _ (crossed.symm.trans nothing)⟩
  · rename_i t ht
    split
    · exact .inr ⟨t, ht, rfl⟩
    · rename_i segment
      dsimp only
      split
      · refine .inl ⟨rfl, fun crossed => segment ?_⟩
        exact Option.some.inj (ht.symm.trans crossed)
      · exact .inr ⟨t, ht, rfl⟩

/-- Laying the tile of one cell lays something on the grid. -/
lemma laid_layCell (row : Nat) (state : Grid × σ) (c : Cell) :
    Laid row state.1 (layCell row state c).1 := by
  rcases layCell_cases row state c with ⟨same, -⟩ | ⟨t, ht, set⟩
  · rw [same]
    exact .refl row state.1
  · rw [set]
    exact .setTile state.1 ht

/-- Laying the tiles of some cells, one after another, lays something on the grid. -/
lemma laid_layCells (row : Nat) (cells : List Cell) (state : Grid × σ) :
    Laid row state.1 (cells.foldl (layCell row) state).1 :=
  @List.foldlRecOn _ _ (fun s : Grid × σ => Laid row state.1 s.1) cells (layCell row) state
    (.refl row state.1) fun s laid c _ => laid.trans (laid_layCell row s c)

/-- All crossings among the cells are laid, since chance leaves out none of them. -/
lemma crossing_layCells {cells : List Cell} {state : Grid × σ} (mem : c ∈ cells)
    (inside : state.1.Contains c) (crossed : laid? row c = some Tile.intersection) :
    (cells.foldl (layCell row) state).1.tile? c = some Tile.intersection := by
  induction cells generalizing state with
  | nil => exact absurd mem List.not_mem_nil
  | cons d cells ih =>
    rw [List.foldl_cons]
    rcases List.mem_cons.1 mem with rfl | mem
    · apply (laid_layCells row cells _).crossing crossed
      rcases layCell_cases row state c with ⟨-, uncrossed⟩ | ⟨t, ht, set⟩
      · exact absurd crossed uncrossed
      · obtain rfl := Option.some.inj (crossed.symm.trans ht)
        rw [set, Grid.tile?_setTile, if_pos ⟨inside, rfl⟩]
    · exact ih mem ((laid_layCell row state d).sides.contains_iff.2 inside)

end

/-- Roads and rails lie on every fourth column and row, and cross where two of these meet. -/
structure HasRoads (g : Grid) : Prop where
  aligned : ∀ c, g.isRoutable c = true → 4 ∣ c.x.toInt ∨ 4 ∣ c.y.toInt
  crossing : ∀ c, g.Contains c → 4 ∣ c.x.toInt → 4 ∣ c.y.toInt →
    g.tile? c = some Tile.intersection

/-- No vehicle can travel over bare ground. -/
lemma isRoutable_empty (width height : Nat) (c : Cell) :
    (Grid.empty width height).isRoutable c = false := by
  by_cases inside : (Grid.empty width height).Contains c
  · have bare : (Grid.empty width height).tile? c = some Tile.dirt := by
      rw [Grid.tile?, Grid.index?_of_contains inside, Option.map_some]
      exact congrArg some (Vector.getElem_replicate _)
    exact Grid.isRoutable_of_tile? bare
  · exact Grid.isRoutable_of_not_contains inside

/-- The roads of a generated city, whatever is drawn. -/
lemma hasRoads_layRoads {σ : Type} [Random.Source σ] (width height : Nat) (source : σ) :
    (Grid.empty width height).SameSides (layRoads (.empty width height) source).1 ∧
      HasRoads (layRoads (.empty width height) source).1 := by
  have laid : Laid (railRow height) (.empty width height)
      (layRoads (.empty width height) source).1 :=
    laid_layCells (railRow height) _ (Grid.empty width height, source)
  refine ⟨laid.sides, fun c routable => ?_, fun c inside x y => ?_⟩
  · have here := laid.sides.contains_iff.1 (Grid.contains_of_isRoutable routable)
    rcases laid.tile c with same | ⟨-, t, ht, -⟩
    · rw [Grid.isRoutable, same] at routable
      exact absurd routable (Bool.eq_false_iff.1 (isRoutable_empty width height c))
    · have aligned := aligned_of_laid? ht
      obtain ⟨x0, y0, -⟩ := here
      omega
  · have inside := laid.sides.contains_iff.1 inside
    refine crossing_layCells ?_ inside (laid?_of_crossing (by omega) (by omega))
    refine List.mem_map.2 ⟨_, List.mem_range.2 (Grid.offsetOf_lt inside), ?_⟩
    exact Grid.cellAt_offsetOf inside

end Cityscape.City
