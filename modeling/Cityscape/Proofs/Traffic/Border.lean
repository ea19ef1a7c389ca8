import Cityscape.Proofs.Grid
import Cityscape.Proofs.Traffic.Ring
import Cityscape.Proofs.Traffic.Trip
import Mathlib.Data.List.Pairwise

/-!
# The border of a structure

The ring around a footprint is its border: the cells outside of which a neighbour is inside
(`Fits.beside_iff`), each with one such neighbour only (`Fits.countP_neighbours`), column by column
and without repetition (`Fits.pairwise_border`). Inside and outside are told as the footprint itself
tells them, by `contains?` (`contains?_eq`). A neighbour that stops at the bounds of the coordinates
is the cell itself, and so it is never the one inside (`Fits.covers_offset`).

The main statement, `rings_are_borders`, says this of every footprint with a ring, and of the roads
that are found around a structure: they are the routable cells of the grid among its border.
-/

namespace Cityscape

open Bounds (int32)

/-- The order of cells column by column. -/
def Cell.Leads (c d : Cell) : Prop :=
  c.x.toInt < d.x.toInt ∨ c.x.toInt = d.x.toInt ∧ c.y.toInt < d.y.toInt

/-- A cell made from two coordinates has these coordinates. -/
lemma Cell.toInt_ofInts {x y : Int} (hx : int32.Holds x) (hy : int32.Holds y) :
    (ofInts x y).x.toInt = x ∧ (ofInts x y).y.toInt = y := (eq_ofInts_iff hx hy).1 rfl

/-- No cell comes before itself. -/
lemma Cell.Leads.ne {c d : Cell} (h : c.Leads d) : c ≠ d := by
  rintro rfl
  rw [Leads] at h
  omega

namespace Footprint

variable {f : Footprint} {c : Cell}

instance (f : Footprint) (c : Cell) : Decidable (f.Covers c) :=
  inferInstanceAs (Decidable ((_ ∧ _) ∧ _ ∧ _))

/-- What is computed to list the ring has coordinates; without any cells to list, that is nothing but
the corner of the square. -/
def HasRing (f : Footprint) : Prop := f.size = 0 ∨ f.Fits

/-- A cell is contained if the square covers it, where the far edges have coordinates. -/
lemma contains?_eq (size : int32.Holds f.size) (east : int32.Holds (f.left.toInt + f.size))
    (south : int32.Holds (f.top.toInt + f.size)) : f.contains? c = some (decide (f.Covers c)) := by
  simp only [contains?, side_eq size, Bounds.fit?_of_holds east, Bounds.fit?_of_holds south,
    Option.bind_eq_bind, Option.bind_some, Option.pure_def, Int32.lt_iff_toInt_lt]
  split_ifs
  all_goals
    rw [Option.some.injEq, Bool.eq_iff_iff]
    simp only [Bool.false_eq_true, false_iff, decide_eq_true_eq]
    rw [Covers]
    omega

/-- Where there is a ring, a cell is contained if the square covers it. -/
lemma HasRing.contains?_eq (h : f.HasRing) : f.contains? c = some (decide (f.Covers c)) := by
  rcases h with none | fits
  · have left : int32.Holds (f.left.toInt + f.size) := by simpa [none] using Cell.holds_toInt f.left
    have top : int32.Holds (f.top.toInt + f.size) := by simpa [none] using Cell.holds_toInt f.top
    exact Footprint.contains?_eq (none ▸ by decide) left top
  · exact Footprint.contains?_eq fits.size fits.east fits.south

/-- The cells of a column that lie beside the square. -/
def flank (f : Footprint) (x : Int) : List Cell :=
  (List.range f.size).map fun i : Nat => Cell.ofInts x (f.top.toInt + i)

/-- The cells at both ends of a column of the square. -/
def ends (f : Footprint) (i : Nat) : List Cell :=
  [Cell.ofInts (f.left.toInt + i) (f.top.toInt - 1),
    Cell.ofInts (f.left.toInt + i) (f.top.toInt + f.size)]

/-- The border is the flank in the west, then the ends of each column, then the flank in the east.
-/
lemma border_eq : f.border = f.flank (f.left.toInt - 1) ++ (List.range f.size).flatMap f.ends ++
    f.flank (f.left.toInt + f.size) := by
  simp only [border, List.map_map, List.flatMap_map]
  rfl

/-- The border lists four cells for each column. -/
lemma length_border : f.border.length = 4 * f.size := by
  simp only [border_eq, flank, ends, List.length_append, List.length_map, List.length_flatMap,
    List.length_cons, List.length_nil, List.map_const', List.length_range, List.sum_replicate_nat]
  omega

section
variable (fits : f.Fits)
include fits

/-- The square does not reach the bounds at which steps stop. -/
lemma Fits.covers_offset {dx dy : Int} : f.Covers (c.offset dx dy) ↔
    (f.left.toInt ≤ c.x.toInt + dx ∧ c.x.toInt + dx < f.left.toInt + f.size) ∧
      f.top.toInt ≤ c.y.toInt + dy ∧ c.y.toInt + dy < f.top.toInt + f.size := by
  obtain ⟨-, west, north, east, south⟩ := fits
  simp only [Covers, Cell.toInt_x_offset, Cell.toInt_y_offset, Bounds.clamp, Bounds.Holds,
    int32] at *
  omega

/-- Beside the square are the cells that it does not cover and that have a neighbour in it. -/
lemma Fits.beside_iff : f.Beside c ↔ ¬f.Covers c ∧ ∃ n ∈ c.neighbours, f.Covers n := by
  simp only [Cell.neighbours, List.mem_cons, List.not_mem_nil, or_false, exists_eq_or_imp,
    exists_eq_left, fits.covers_offset]
  simp only [Beside, Covers]
  omega

/-- A cell beside the square has exactly one neighbour in it. -/
lemma Fits.countP_neighbours (beside : f.Beside c) :
    c.neighbours.countP (fun n => decide (f.Covers n)) = 1 := by
  simp only [Cell.neighbours, List.countP_cons, List.countP_nil, decide_eq_true_eq,
    fits.covers_offset]
  rw [Beside] at beside
  split_ifs <;> omega

/-- The cells of a flank are in its column. -/
lemma Fits.x_of_mem_flank {x : Int} (hx : int32.Holds x) (h : c ∈ f.flank x) :
    c.x.toInt = x := by
  obtain ⟨i, hi, rfl⟩ := List.mem_map.1 h
  exact (Cell.toInt_ofInts hx (fits.row (List.mem_range.1 hi))).1

/-- The ends of a column of the square are in that column. -/
lemma Fits.x_of_mem_ends {i : Nat} (hi : i < f.size) (h : c ∈ f.ends i) :
    c.x.toInt = f.left.toInt + i := by
  rcases List.mem_pair.1 h with rfl | rfl
  · exact (Cell.toInt_ofInts (fits.column hi) fits.north).1
  · exact (Cell.toInt_ofInts (fits.column hi) fits.south).1

/-- A flank is listed from north to south. -/
lemma Fits.pairwise_flank {x : Int} (hx : int32.Holds x) :
    (f.flank x).Pairwise Cell.Leads := by
  rw [flank, List.pairwise_map]
  refine List.pairwise_lt_range.imp_of_mem fun {i j} hi hj lt => .inr ?_
  have ci := Cell.toInt_ofInts hx (fits.row (List.mem_range.1 hi))
  have cj := Cell.toInt_ofInts hx (fits.row (List.mem_range.1 hj))
  omega

/-- The ends of the columns are listed column by column, and the northern end of each first. -/
lemma Fits.pairwise_ends : ((List.range f.size).flatMap f.ends).Pairwise Cell.Leads := by
  rw [List.pairwise_flatMap]
  constructor
  · intro i hi
    have hi := fits.column (List.mem_range.1 hi)
    have north := Cell.toInt_ofInts hi fits.north
    have south := Cell.toInt_ofInts hi fits.south
    refine List.pairwise_pair.2 (.inr ?_)
    omega
  · refine List.pairwise_lt_range.imp_of_mem fun {i j} hi hj lt c hc d hd => .inl ?_
    rw [fits.x_of_mem_ends (List.mem_range.1 hi) hc, fits.x_of_mem_ends (List.mem_range.1 hj) hd]
    omega

/-- The border goes column by column, and so it comes to no cell again. -/
lemma Fits.pairwise_border : f.border.Pairwise Cell.Leads := by
  have between {c} (h : c ∈ (List.range f.size).flatMap f.ends) :
      f.left.toInt ≤ c.x.toInt ∧ c.x.toInt < f.left.toInt + f.size := by
    obtain ⟨i, hi, h⟩ := List.mem_flatMap.1 h
    have hi := List.mem_range.1 hi
    have x := fits.x_of_mem_ends hi h
    omega
  rw [border_eq, List.pairwise_append, List.pairwise_append]
  refine ⟨⟨fits.pairwise_flank fits.west, fits.pairwise_ends, fun c hc d hd => .inl ?_⟩,
    fits.pairwise_flank fits.east, fun c hc d hd => .inl ?_⟩
  · have x := fits.x_of_mem_flank fits.west hc
    have x' := between hd
    omega
  · have x' := fits.x_of_mem_flank fits.east hd
    rcases List.mem_append.1 hc with hc | hc
    · have x := fits.x_of_mem_flank fits.west hc
      omega
    · have x := between hc
      omega

end

/-- The cells that share an edge with the square, column by column: each once, and each with one
neighbour in the square. -/
structure IsBorder (f : Footprint) (ring : List Cell) : Prop where
  length : ring.length = 4 * f.size
  order : ring.Pairwise Cell.Leads
  nodup : ring.Nodup
  mem : ∀ c, c ∈ ring ↔
    f.contains? c = some false ∧ ∃ n ∈ c.neighbours, f.contains? n = some true
  touches : ∀ c ∈ ring, c.neighbours.countP (fun n => f.contains? n = some true) = 1

/-- Without a cell to its side the square has no border. -/
lemma border_of_empty (none : f.size = 0) : f.border = [] := by
  rw [border_eq, flank, flank, none]
  rfl

/-- Where there is a ring, it is the border. -/
lemma HasRing.ring?_eq (h : f.HasRing) : f.ring? = some f.border := by
  rcases Nat.eq_zero_or_pos f.size with none | pos
  · have side : f.side = 0 := by rw [side, none]; rfl
    simp only [ring?, side, Int.add_zero, Bounds.fit?_of_holds (Cell.holds_toInt _),
      Option.bind_eq_bind, Option.bind_some, Int.le_refl, if_true, border_of_empty none,
      Option.pure_def]
  · exact (h.resolve_left (Nat.ne_of_gt pos)).ring?_eq pos

/-- The ring of a footprint is its border. -/
lemma HasRing.isBorder (h : f.HasRing) : f.IsBorder f.border := by
  have inside (n : Cell) : f.contains? n = some true ↔ f.Covers n := by
    rw [h.contains?_eq, Option.some.injEq, decide_eq_true_eq]
  have outside (c : Cell) : f.contains? c = some false ↔ ¬f.Covers c := by
    rw [h.contains?_eq, Option.some.injEq, decide_eq_false_iff_not]
  rcases h with none | fits
  · have empty (c : Cell) : ¬f.Covers c := by
      rw [Covers, none]
      omega
    rw [border_of_empty none]
    refine ⟨none ▸ rfl, .nil, .nil, fun c => ⟨fun hc => absurd hc List.not_mem_nil, ?_⟩,
      fun c hc => absurd hc List.not_mem_nil⟩
    rintro ⟨-, n, -, covered⟩
    exact absurd ((inside n).1 covered) (empty n)
  · have order := fits.pairwise_border
    refine ⟨length_border, order, order.imp Cell.Leads.ne, fun c => ?_, fun c hc => ?_⟩
    · simp only [fits.mem_border_iff, fits.beside_iff, inside, outside]
    · simp only [inside]
      exact fits.countP_neighbours (fits.mem_border_iff.1 hc)

end Footprint

namespace Traffic

variable {t : Traffic} {centre : Cell}

/-- There is room around a cell of the grid that is not too far in the east and in the south. -/
lemma hasRoom_of_tile? {tile : Tile} (found : t.grid.tile? centre = some tile)
    (east : centre.x.toInt + 4 ≤ int32.hi) (south : centre.y.toInt + 4 ≤ int32.hi) :
    t.HasRoom centre := by
  obtain ⟨i, at_i, -⟩ := Option.map_eq_some_iff.1 found
  obtain ⟨x0, y0, -, -⟩ := (Grid.index?_eq_some_iff.1 at_i).1
  have side := t.structureSide_cases centre
  constructor <;> simp only [Bounds.Holds, int32] at * <;> omega

/-- Every footprint with a ring has its border for a ring, and around a centre on the grid, unless it
is at the far ends of the coordinates, the roads that are found are the routable cells of the grid on
the border of the structure: each of them once, in the order of the ring, ready and found from the
centre. -/
theorem rings_are_borders :
    (∀ f : Footprint, f.HasRing → ∃ ring, f.ring? = some ring ∧ f.IsBorder ring) ∧
    ∀ (t : Traffic) (centre : Cell) (tile : Tile), t.grid.tile? centre = some tile →
      centre.x.toInt + 4 ≤ int32.hi → centre.y.toInt + 4 ≤ int32.hi →
      ∃ f ring found, Footprint.around? centre tile.structureSide = some f ∧
        f.ring? = some ring ∧ f.IsBorder ring ∧
        t.peripheryRoads? centre = some found ∧
        found.map (·.road) = ring.filter t.grid.isRoutable ∧
        (found.map (·.road)).Nodup ∧
        (∀ c, c ∈ found.map (·.road) ↔ (t.grid.Contains c ∧ t.grid.isRoutable c = true) ∧
          f.contains? c = some false ∧ ∃ n ∈ c.neighbours, f.contains? n = some true) ∧
        ∀ a ∈ found, a.origin = centre ∧ a.ready = true := by
  refine ⟨fun f h => ⟨f.border, h.ring?_eq, h.isBorder⟩, fun t centre tile here east south => ?_⟩
  have side : t.structureSide centre = tile.structureSide := by rw [structureSide, here]
  have room := hasRoom_of_tile? here east south
  obtain ⟨roads, looked⟩ := peripheryRoads?_isSome_iff.2 room
  obtain ⟨f, around, -⟩ := Option.bind_eq_some_iff.1 looked
  obtain ⟨-, -, fits, -⟩ := around?_fits around
  have hasRing : f.HasRing := .inr (fits.2 room)
  have border := hasRing.isBorder
  let found : List Access := (f.border.filter t.grid.isRoutable).map (⟨·, centre, true⟩)
  have listed : t.peripheryRoads? centre = some found := by
    simp only [peripheryRoads?, adjacentRoads?, around, hasRing.ring?_eq, Option.bind_eq_bind,
      Option.bind_some, Option.pure_def, found]
  have cells : found.map (·.road) = f.border.filter t.grid.isRoutable := by
    simp only [found, List.map_map]
    exact List.map_id _
  refine ⟨f, f.border, found, side ▸ around, hasRing.ring?_eq, border, listed, cells, ?_, ?_, ?_⟩
  · rw [cells]
    exact border.nodup.filter _
  · intro c
    rw [cells, List.mem_filter, border.mem]
    constructor
    · rintro ⟨near, routable⟩
      exact ⟨⟨Grid.contains_of_isRoutable routable, routable⟩, near⟩
    · rintro ⟨⟨-, routable⟩, near⟩
      exact ⟨near, routable⟩
  · intro a ha
    obtain ⟨c, -, rfl⟩ := List.mem_map.1 ha
    exact ⟨rfl, rfl⟩

/-- The road along the houses is on their border, and the one beyond it is not. -/
theorem rings_are_borders_town :
    (∃ ring, (⟨5, 0, 3⟩ : Footprint).ring? = some ring ∧ ring.length = 12 ∧ ring.Nodup) ∧
    (on Town.grid).grid.tile? Town.houses = some Tile.house ∧
    ∃ found, (on Town.grid).peripheryRoads? Town.houses = some found ∧
      found.map (·.road) = [⟨3, 0⟩, ⟨3, 1⟩, ⟨3, 2⟩] ∧
      ∀ a ∈ found, a.origin = Town.houses ∧ a.ready = true := by
  have here : (on Town.grid).grid.tile? Town.houses = some Tile.house := by decide
  obtain ⟨ring, listed, border⟩ := rings_are_borders.1 ⟨5, 0, 3⟩
    (.inr ⟨by decide, by decide, by decide, by decide, by decide⟩)
  obtain ⟨f, ring', found, -, -, -, looked, -, -, -, marked⟩ :=
    rings_are_borders.2 (on Town.grid) Town.houses Tile.house here (by decide) (by decide)
  refine ⟨⟨ring, listed, border.length, border.nodup⟩, here, found, looked, ?_, marked⟩
  have roads : ((on Town.grid).peripheryRoads? Town.houses).map (·.map (·.road)) =
      some [⟨3, 0⟩, ⟨3, 1⟩, ⟨3, 2⟩] := by decide +kernel
  rw [looked] at roads
  exact Option.some.inj roads

end Traffic

end Cityscape
