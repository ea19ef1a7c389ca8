import Cityscape.Proofs.City.Roads
import Cityscape.Proofs.City.Structures
import Cityscape.Proofs.City.Tick
import Mathlib.Data.List.Pairwise

/-!
# The plan of a generated city

On sides of any length and whatever is drawn, a city is generated, and it is `Planned`: it has its
zones in every block with room for one, structures on them that do not get in each other's way, and
roads between them (`generate?_planned`).
-/

namespace Cityscape

/-- The footprint of the structure around a centre. -/
def Traffic.footprint? (t : Traffic) (centre : Cell) : Option Footprint :=
  Footprint.around? centre (t.structureSide centre)

namespace City

variable {width height : Nat} {z : Cell}

/-- The order of cells row by row. -/
def Precedes (a b : Cell) : Prop :=
  a.y.toInt < b.y.toInt ∨ a.y.toInt = b.y.toInt ∧ a.x.toInt < b.x.toInt

/-- The centre in a block, given the column and the row of the block. -/
def centreOf (i j : Nat) : Cell := ⟨Int32.ofNat (4 * i + 1 + 1), Int32.ofNat (4 * j + 1 + 1)⟩

/-- The number of blocks along a side. -/
def blocks (side : Nat) : Nat := (side - 1) / 4

/-- The centres in all blocks, row by row. -/
def centres (width height : Nat) : List Cell :=
  (List.range (blocks height)).flatMap fun j => (List.range (blocks width)).map (centreOf · j)

/-- The blocks along a side begin behind every fourth line, as long as their lines are on the grid.
-/
lemma blockStarts?_eq {side : Nat} (h : side < 2 ^ 31) :
    blockStarts? side = some ((List.range (blocks side)).map (4 * · + 1)) := by
  have here : Bounds.int32.Holds side := by
    simp only [Bounds.Holds, Bounds.int32]
    omega
  have back : Bounds.int32.Holds ((side : Int) - 3) := by
    simp only [Bounds.Holds, Bounds.int32]
    omega
  have count : (((side : Int) - 3).toNat + 2) / 4 = blocks side := by
    rw [blocks]
    omega
  simp only [blockStarts?, Bounds.wrap_of_holds here, Bounds.fit?_of_holds back, blockSpacing,
    count, Option.bind_eq_bind, Option.bind_some, Option.pure_def]

/-- On a grid that has coordinates, the centres of all blocks are computed. -/
lemma centres?_eq (size : Measures width height) :
    centres? width height = some (centres width height) := by
  simp only [centres?, blockStarts?_eq size.height, blockStarts?_eq size.width,
    Option.bind_eq_bind, Option.bind_some, Option.pure_def]
  split
  · rename_i none
    rw [List.isEmpty_iff, List.map_eq_nil_iff] at none
    rw [centres, none, List.flatMap_nil]
  · rw [List.flatMap_map]
    simp only [List.map_map]
    rfl

/-- The centre of a block lies two cells behind the lines at its start. -/
lemma toInt_centreOf {i j : Nat} (size : Measures width height) (hi : i < blocks width)
    (hj : j < blocks height) :
    (centreOf i j).x.toInt = 2 + 4 * i ∧ (centreOf i j).y.toInt = 2 + 4 * j := by
  obtain ⟨hw, hh⟩ := size
  rw [blocks] at hi hj
  rw [centreOf, Int32.toInt_ofNat_of_lt (by omega), Int32.toInt_ofNat_of_lt (by omega)]
  omega

/-- The centres of the blocks are the cells that can be centres. -/
lemma mem_centres_iff (size : Measures width height) :
    z ∈ centres width height ↔ IsCentre width height z := by
  constructor
  · intro mem
    obtain ⟨j, hj, mem⟩ := List.mem_flatMap.1 mem
    obtain ⟨i, hi, rfl⟩ := List.mem_map.1 mem
    rw [List.mem_range] at hi hj
    obtain ⟨x, y⟩ := toInt_centreOf size hi hj
    rw [blocks] at hi hj
    exact ⟨⟨i, x⟩, ⟨j, y⟩, by omega, by omega⟩
  · rintro ⟨⟨i, x⟩, ⟨j, y⟩, east, south⟩
    have hi : i < blocks width := by
      rw [blocks]
      omega
    have hj : j < blocks height := by
      rw [blocks]
      omega
    obtain ⟨x', y'⟩ := toInt_centreOf size hi hj
    refine List.mem_flatMap.2 ⟨j, List.mem_range.2 hj, List.mem_map.2 ⟨i, List.mem_range.2 hi, ?_⟩⟩
    exact Cell.ext_toInt (x'.trans x.symm) (y'.trans y.symm)

/-- The centres of the blocks are listed row by row. -/
lemma pairwise_centres (size : Measures width height) :
    (centres width height).Pairwise Precedes := by
  rw [centres, List.pairwise_flatMap]
  constructor
  · intro j hj
    rw [List.mem_range] at hj
    rw [List.pairwise_map]
    refine List.pairwise_lt_range.imp_of_mem fun {i i'} hi hi' lt => .inr ?_
    obtain ⟨x, y⟩ := toInt_centreOf size (List.mem_range.1 hi) hj
    obtain ⟨x', y'⟩ := toInt_centreOf size (List.mem_range.1 hi') hj
    omega
  · refine List.pairwise_lt_range.imp_of_mem fun {j j'} hj hj' lt z hz z' hz' => .inl ?_
    obtain ⟨i, hi, rfl⟩ := List.mem_map.1 hz
    obtain ⟨i', hi', rfl⟩ := List.mem_map.1 hz'
    rw [List.mem_range] at hi hi' hj hj'
    have y := (toInt_centreOf size hi hj).2
    have y' := (toInt_centreOf size hi' hj').2
    omega

variable {σ : Type}

/-- The plan of a city. Its zones are the centres, row by row. A structure stands on each of them, with
its own tile in the centre and the tile before it on the other cells: a small one, or an airport on
the last zone where it fits. Each structure and the ring around it lie on the grid, no vehicle travels
over a structure, and no two structures overlap. There is a crossing where a fourth column meets a
fourth row, unless the airport covers it, and vehicles travel along these columns and rows only. -/
structure Planned (width height : Nat) (c : City σ) : Prop where
  columns : c.grid.width = width
  rows : c.grid.height = height
  zones : ∀ z, z ∈ c.zones ↔ IsCentre width height z
  order : c.zones.toList.Pairwise Precedes
  airport : ∀ z ∈ c.zones, c.grid.tile? z = some Tile.airport ↔
    c.zones.back? = some z ∧ AirportFits width height z
  structures : ∀ z ∈ c.zones, ∃ tile ∈ centreTiles, c.grid.tile? z = some tile ∧
    ∀ f, c.traffic.footprint? z = some f → ∀ d ∈ f.cells, d ≠ z → c.grid.tile? d = some (tile - 1)
  sides : ∀ z ∈ c.zones, c.traffic.structureSide z =
    if c.grid.tile? z = some Tile.airport then 4 else 3
  stands : ∀ z ∈ c.zones, ∃ f ring, c.traffic.footprint? z = some f ∧ f.ring? = some ring ∧
    (∀ d ∈ f.cells, c.grid.Contains d ∧ c.grid.isRoutable d = false) ∧
    ∀ d ∈ ring, c.grid.Contains d
  apart : ∀ z ∈ c.zones, ∀ z' ∈ c.zones, ∀ f f', c.traffic.footprint? z = some f →
    c.traffic.footprint? z' = some f' → ∀ d ∈ f.cells, d ∈ f'.cells → z = z'
  crossings : ∀ d, c.grid.Contains d → 4 ∣ d.x.toInt → 4 ∣ d.y.toInt →
    c.grid.tile? d = some Tile.intersection ∨
      ∃ z ∈ c.zones, c.grid.tile? z = some Tile.airport ∧
        ∃ f, c.traffic.footprint? z = some f ∧ d ∈ f.cells
  roads : ∀ d, c.grid.isRoutable d = true → 4 ∣ d.x.toInt ∨ 4 ∣ d.y.toInt

/-- A city that was built with roads first and structures then. -/
structure Built (width height : Nat) (kind : Cell → Tile) (g : Grid) (c : City σ) : Prop where
  size : Measures width height
  zones : c.zones = (centres width height).toArray
  sides : (Grid.empty width height).SameSides g
  roads : HasRoads g
  furnished : Furnished (centres width height) kind g c.grid
  kinds : ∀ z, kind z ∈ centreTiles ∧
    (kind z = Tile.airport ↔ AirportAt width height (centres width height) z)

namespace Built

variable {kind : Cell → Tile} {g : Grid} {c : City σ} {d : Cell}

section
variable (b : Built width height kind g c)
include b

/-- The zones of a city that was built are the centres of its blocks. -/
lemma mem_zones_iff : z ∈ c.zones ↔ IsCentre width height z := by
  rw [b.zones, List.mem_toArray, mem_centres_iff b.size]

/-- A city that was built has the cells of the bare grid that it was built on. -/
lemma contains_iff : c.grid.Contains d ↔ (Grid.empty width height).Contains d :=
  (b.sides.trans b.furnished.sides).contains_iff

/-- The cells of a plot have the tiles of the structure there. -/
lemma tile?_of_mem (hz : IsCentre width height z) (mem : d ∈ (plot z (kind z)).cells) :
    c.grid.tile? d = some (structureTile (plot z (kind z)) (kind z) d) :=
  b.furnished.stands z ((mem_centres_iff b.size).2 hz) d mem

/-- Each centre has the tile of the structure that was built there. -/
lemma tile?_centre (hz : IsCentre width height z) : c.grid.tile? z = some (kind z) := by
  rw [b.tile?_of_mem hz (hz.mem_plot_self b.size _), hz.structureTile_eq, if_pos rfl]

/-- The structure at a centre is as wide as the one that was built there. -/
lemma structureSide_centre (hz : IsCentre width height z) :
    c.traffic.structureSide z = (kind z).structureSide := by
  have tile : c.traffic.grid.tile? z = some (kind z) := b.tile?_centre hz
  rw [Traffic.structureSide, tile]

/-- The footprint of a structure is its plot. -/
lemma footprint?_eq (hz : IsCentre width height z) :
    c.traffic.footprint? z = some (plot z (kind z)) := by
  rw [Traffic.footprint?, b.structureSide_centre hz, hz.around?_eq]

/-- The side of a structure leaves a column and a row behind it free. -/
lemma margin (hz : IsCentre width height z) :
    z.x.toInt - 1 + (kind z).structureSide < width ∧
      z.y.toInt - 1 + (kind z).structureSide < height := by
  obtain ⟨tile, airport⟩ := b.kinds z
  rw [structureSide_of_mem tile]
  split
  · rename_i wide
    obtain ⟨-, east, south⟩ := airport.1 wide
    omega
  · obtain ⟨-, -, east, south⟩ := hz
    omega

/-- The cells of every plot lie on the grid. -/
lemma contains_of_mem (hz : IsCentre width height z) (mem : d ∈ (plot z (kind z)).cells) :
    c.grid.Contains d := by
  obtain ⟨east, south⟩ := b.margin hz
  exact b.contains_iff.2 (hz.contains_of_mem_plot b.size east south mem)

/-- The cells around every plot lie on the grid. -/
lemma contains_of_beside (hz : IsCentre width height z) (beside : (plot z (kind z)).Beside d) :
    c.grid.Contains d := by
  obtain ⟨east, south⟩ := b.margin hz
  obtain ⟨left, top, side⟩ := Footprint.around?_eq_some_iff.1 (hz.around?_eq (kind z))
  rw [Footprint.Beside, left, top, side] at beside
  obtain ⟨⟨i, x⟩, ⟨j, y⟩, -, -⟩ := hz
  rw [b.contains_iff]
  simp only [Grid.Contains, Grid.empty]
  omega

/-- No vehicle can travel over a plot. -/
lemma isRoutable_of_mem (hz : IsCentre width height z) (mem : d ∈ (plot z (kind z)).cells) :
    c.grid.isRoutable d = false := by
  rw [Grid.isRoutable_of_tile? (b.tile?_of_mem hz mem), isRoutable_structureTile (b.kinds z).1]

/-- A cell is part of a structure, or is as it was when there were only roads. -/
lemma covered_or_same (d : Cell) :
    (∃ z, IsCentre width height z ∧ d ∈ (plot z (kind z)).cells) ∨
      c.grid.tile? d = g.tile? d := by
  by_cases covered : ∃ z, IsCentre width height z ∧ d ∈ (plot z (kind z)).cells
  · exact .inl covered
  · refine .inr (b.furnished.elsewhere d fun z hz mem => covered ⟨z, ?_, mem⟩)
    exact (mem_centres_iff b.size).1 hz

/-- An airport stands on the last zone if there is room for one, and nowhere else. -/
lemma airport_iff (hz : IsCentre width height z) : c.grid.tile? z = some Tile.airport ↔
    c.zones.back? = some z ∧ AirportFits width height z := by
  rw [b.tile?_centre hz, Option.some_inj, (b.kinds z).2, AirportAt, b.zones, List.back?_toArray]

/-- There is a crossing where a fourth column meets a fourth row, unless the airport covers it. -/
lemma crossing_or_airport (inside : c.grid.Contains d) (x : 4 ∣ d.x.toInt) (y : 4 ∣ d.y.toInt) :
    c.grid.tile? d = some Tile.intersection ∨
      ∃ z, IsCentre width height z ∧ kind z = Tile.airport ∧ d ∈ (plot z (kind z)).cells := by
  rcases b.covered_or_same d with ⟨z, hz, mem⟩ | same
  · refine .inr ⟨z, hz, ?_, mem⟩
    by_contra small
    -- A small structure lies within its block.
    have side := structureSide_of_mem (b.kinds z).1
    rw [if_neg small] at side
    rw [hz.mem_plot_iff b.size, side] at mem
    obtain ⟨⟨i, hx⟩, ⟨j, hy⟩, -, -⟩ := hz
    omega
  · rw [same]
    exact .inl (b.roads.crossing d (b.furnished.sides.contains_iff.1 inside) x y)

/-- Vehicles travel along every fourth column and every fourth row only. -/
lemma aligned (routable : c.grid.isRoutable d = true) : 4 ∣ d.x.toInt ∨ 4 ∣ d.y.toInt := by
  rcases b.covered_or_same d with ⟨z, hz, mem⟩ | same
  · exact absurd (routable.symm.trans (b.isRoutable_of_mem hz mem)) (by decide)
  · rw [Grid.isRoutable, same] at routable
    exact b.roads.aligned d routable

/-- A city that was built is as planned. -/
lemma planned : Planned width height c where
  columns := b.furnished.sides.width.trans b.sides.width
  rows := b.furnished.sides.height.trans b.sides.height
  zones _ := b.mem_zones_iff
  order := by
    rw [b.zones]
    exact pairwise_centres b.size
  airport z hz := b.airport_iff (b.mem_zones_iff.1 hz)
  structures z hz := by
    have centre := b.mem_zones_iff.1 hz
    refine ⟨kind z, (b.kinds z).1, b.tile?_centre centre, fun f around d mem apart => ?_⟩
    obtain rfl := Option.some.inj (around.symm.trans (b.footprint?_eq centre))
    rw [b.tile?_of_mem centre mem, centre.structureTile_eq, if_neg apart]
  sides z hz := by
    have centre := b.mem_zones_iff.1 hz
    rw [b.structureSide_centre centre, b.tile?_centre centre, structureSide_of_mem (b.kinds z).1]
    simp only [Option.some_inj]
  stands z hz := by
    have centre := b.mem_zones_iff.1 hz
    have fits := centre.fits b.size (kind z)
    have pos : 0 < (plot z (kind z)).size := by
      have side := structureSide_cases (kind z)
      simp only [plot, footprintAround]
      omega
    refine ⟨_, _, b.footprint?_eq centre, fits.ring?_eq pos, fun d mem => ?_, fun d mem => ?_⟩
    · exact ⟨b.contains_of_mem centre mem, b.isRoutable_of_mem centre mem⟩
    · exact b.contains_of_beside centre (fits.mem_border_iff.1 mem)
  apart z hz z' hz' f f' around around' d mem mem' := by
    have centre := b.mem_zones_iff.1 hz
    have centre' := b.mem_zones_iff.1 hz'
    obtain rfl := Option.some.inj (around.symm.trans (b.footprint?_eq centre))
    obtain rfl := Option.some.inj (around'.symm.trans (b.footprint?_eq centre'))
    exact centre.eq_of_mem_plot centre' b.size mem mem'
  crossings d inside x y := by
    rcases b.crossing_or_airport inside x y with crossing | ⟨z, hz, airport, mem⟩
    · exact .inl crossing
    · refine .inr ⟨z, b.mem_zones_iff.2 hz, ?_, _, b.footprint?_eq hz, mem⟩
      rw [b.tile?_centre hz, airport]
  roads _ := b.aligned

end

end Built

variable [Random.Source σ]

/-- A city is generated by furnishing a grid with roads. -/
lemma generate?_eq (size : Measures width height) (source : σ) :
    let built := (centres width height).foldl buildSmall (layRoads (.empty width height) source)
    generate? width height source = some (.start (withAirport (centres width height) built.1)
      (centres width height).toArray built.2) := by
  simp only [generate?, centres?_eq size, Option.bind_eq_bind, Option.bind_some, Option.pure_def]
  rfl

/-- Whatever the sides of the grid are and whatever is drawn, a city is generated, and it follows
its plan. -/
theorem generate?_planned (width height : Nat) (hw : width < 2 ^ 31) (hh : height < 2 ^ 31)
    (source : σ) : ∃ c, generate? width height source = some c ∧ Planned width height c := by
  have size : Measures width height := ⟨hw, hh⟩
  obtain ⟨sides, roads⟩ := hasRoads_layRoads width height source
  have isCentre : ∀ z ∈ centres width height, IsCentre width height z :=
    fun z => (mem_centres_iff size).1
  obtain ⟨kind, furnished, kinds⟩ := furnished size isCentre sides
  exact ⟨_, generate?_eq size source, Built.planned ⟨size, rfl, sides, roads, furnished, kinds⟩⟩

/-- A small city: three structures, with an airport in the last block. -/
theorem generate?_planned_small :
    10 < 2 ^ 31 ∧ 10 < 2 ^ 31 ∧ ∃ c, generate? 10 10 (⟨0x78dde6e4⟩ : Town.Dice) = some c ∧
      c.zones = #[⟨2, 2⟩, ⟨6, 2⟩, ⟨2, 6⟩, ⟨6, 6⟩] ∧ c.grid.tile? ⟨6, 6⟩ = some Tile.airport ∧
      Planned 10 10 c := by
  obtain ⟨c, generated, planned⟩ :=
    generate?_planned 10 10 (by decide) (by decide) (⟨0x78dde6e4⟩ : Town.Dice)
  have zones : (generate? 10 10 (⟨0x78dde6e4⟩ : Town.Dice)).map City.zones =
      some #[⟨2, 2⟩, ⟨6, 2⟩, ⟨2, 6⟩, ⟨6, 6⟩] := by decide +kernel
  rw [generated, Option.map_some, Option.some_inj] at zones
  have last : ⟨6, 6⟩ ∈ c.zones :=
    (planned.zones _).2 ⟨⟨1, by decide⟩, ⟨1, by decide⟩, by decide, by decide⟩
  refine ⟨by decide, by decide, c, generated, zones, (planned.airport _ last).2 ⟨?_, ?_⟩, planned⟩
  · rw [zones]
    rfl
  · exact ⟨by decide, by decide⟩

end City

end Cityscape
