import Cityscape.Proofs.Traffic.Trip
import Cityscape.TileImage.Realize

/-!
# Status flags

Whatever status flags the tiles of a grid carry, traffic moves in the same way over it and tile
images select the same variants on it. The main statement is `status_flags_never_matter`, about two
grids that differ in their flags only: each of its parts reads tiles through their codes, and a
trip leaves grids that differ in their flags only.
-/

namespace Cityscape

/-- Two grids that differ in the status flags of their tiles only. -/
structure Grid.SameButFlags (g h : Grid) : Prop extends SameLayout g h where
  density : ∀ c, g.density? c = h.density? c

/-- Two trips over one route that leave grids which differ in status flags only. -/
structure Traffic.Trip.SameButFlags (p q : Trip) : Prop where
  route : p.route = q.route
  budget : p.traffic.budget = q.traffic.budget
  grid : p.traffic.grid.SameButFlags q.traffic.grid

/-- Equal tiles but for flags in every place of the storage are equal but for flags on every
cell. -/
lemma Grid.SameButFlags.of_tiles {w k : Nat} {tiles tiles' : Vector Tile (w * k)}
    (traffic : Vector Nat (w * k))
    (code : ∀ i : Fin (w * k), (tiles[i] : Tile).code = (tiles'[i] : Tile).code) :
    SameButFlags ⟨w, k, tiles, traffic⟩ ⟨w, k, tiles', traffic⟩ where
  width := rfl
  height := rfl
  code c := by
    rw [tile?, tile?, Option.map_map, Option.map_map]
    exact congrArg (fun f => (index? ⟨w, k, tiles, traffic⟩ c).map f) (funext code)
  density _ := rfl

namespace Grid.SameButFlags

variable {g h : Grid}

/-- The same load on the same cell keeps two grids alike but for flags. -/
lemma addTraffic (s : SameButFlags g h) (c : Cell) (delta : Int) :
    SameButFlags (g.addTraffic c delta) (h.addTraffic c delta) where
  toSameLayout := s.toSameLayout.addTraffic c c delta delta
  density d := by rw [density?_addTraffic, density?_addTraffic, s.density]

/-- Trips over one route leave grids that differ in flags only. -/
lemma travelled {t u : Traffic} (s : SameButFlags t.grid u.grid) (delta : Int)
    (route : Option Route) :
    SameButFlags (t.travelled delta route).grid (u.travelled delta route).grid := by
  cases route with
  | none => exact s
  | some r =>
    refine List.foldl_rel (r := fun (t u : Traffic) => SameButFlags t.grid u.grid) s ?_
    intro c _ t u s
    exact s.addTraffic c delta

/-- On grids that are alike but for flags, a trip is made on both or on neither, over the same
route, and leaves grids that are alike but for flags. -/
lemma trip? (s : SameButFlags g h) (budget : Nat) (origin destination : Cell) (delta : Int) :
    Option.Rel Traffic.Trip.SameButFlags
      (Traffic.trip? ⟨g, budget⟩ origin destination delta)
      (Traffic.trip? ⟨h, budget⟩ origin destination delta) := by
  have alike : Traffic.Alike ⟨g, budget⟩ ⟨h, budget⟩ := ⟨s.toSameLayout, rfl⟩
  rw [Traffic.trip?_eq, Traffic.trip?_eq, alike.itinerary?]
  cases Traffic.itinerary? ⟨h, budget⟩ origin destination with
  | none => exact .none
  | some route => exact .some ⟨rfl, by simp, s.travelled delta route⟩

end Grid.SameButFlags

/-- An expectation is met by the code of a tile. -/
lemma TileSpec.admits_eq_of_code_eq {spec : TileSpec} {s t : Tile} (h : s.code = t.code) :
    spec.admits s = spec.admits t := by
  cases spec with
  | ofClass tileClass => rw [admits, admits, Tile.classOf_eq_of_code_eq h]
  | ofCode code => rw [admits, admits, h]

namespace Condition

variable {g h : Grid}

/-- A condition holds on both of two grids of one layout or on neither. -/
lemma holds_congr (l : g.SameLayout h) (time : Nat) (location : Cell) (c : Condition) :
    c.holds ⟨time, g.tile?, location⟩ = c.holds ⟨time, h.tile?, location⟩ := by
  induction c with
  | always => rfl
  | never => rfl
  | tile side spec =>
    have view (city : Cell → Option Tile) : (tile side spec).holds ⟨time, city, location⟩ =
        ((city (side.of location)).map spec.admits).getD false := by
      simp only [holds]
      cases city (side.of location) <;> rfl
    rw [view, view, l.map_tile? TileSpec.admits_eq_of_code_eq]
  | frame period start stop => rfl
  | and a b iha ihb => rw [holds, holds, iha, ihb]
  | not a ih => rw [holds, holds, ih]

end Condition

/-- What a tree is realized as depends on the clock and on which conditions hold. -/
lemma TileImage.realize_congr {dc dc' : DrawContext}
    (holds : ∀ c : Condition, c.holds dc = c.holds dc') (time : dc.time = dc'.time) :
    realize dc = realize dc' := by
  have selected : @Case.selected? TileImage dc = Case.selected? dc' := by
    funext cases
    simp only [Case.selected?, Case.selectedIndex, holds]
  rw [realize, realize, selected, time]

/-- Over grids that differ in status flags only, all searches, all structures and all roads give
the same answers, every trip takes the same route and leaves the same densities, and every
condition and every tile image comes out the same. -/
theorem status_flags_never_matter {g h : Grid} (s : g.SameButFlags h) (budget : Nat) :
    ((Traffic.mk g budget).route? = (Traffic.mk h budget).route? ∧
      (Traffic.mk g budget).peripheryRoads? = (Traffic.mk h budget).peripheryRoads? ∧
      (Traffic.mk g budget).adjacentRoads? = (Traffic.mk h budget).adjacentRoads? ∧
      (Traffic.mk g budget).roadEnd = (Traffic.mk h budget).roadEnd ∧
      ∀ origin destination delta, Option.Rel Traffic.Trip.SameButFlags
        ((Traffic.mk g budget).trip? origin destination delta)
        ((Traffic.mk h budget).trip? origin destination delta)) ∧
    (∀ time location (c : Condition),
      c.holds ⟨time, g.tile?, location⟩ = c.holds ⟨time, h.tile?, location⟩) ∧
    ∀ time location (image : TileImage),
      image.realize ⟨time, g.tile?, location⟩ = image.realize ⟨time, h.tile?, location⟩ := by
  have alike : Traffic.Alike ⟨g, budget⟩ ⟨h, budget⟩ := ⟨s.toSameLayout, rfl⟩
  have holds := Condition.holds_congr s.toSameLayout
  refine ⟨⟨?_, ?_, ?_, ?_, ?_⟩, holds, ?_⟩
  · exact alike.route?
  · exact alike.peripheryRoads?
  · exact alike.adjacentRoads?
  · exact alike.roadEnd
  · exact s.trip? budget
  · intro time location image
    rw [TileImage.realize_congr (holds time location) rfl]

namespace Town

/-- The town with every status flag of every tile set. -/
def flagged : Grid := ⟨8, 3, tiles.map (· ||| 0xfc00), .replicate _ 0⟩

/-- The town and its flagged copy are alike but for flags. -/
lemma sameButFlags : grid.SameButFlags flagged := .of_tiles _ (by decide +kernel)

end Town

/-- The trip to the shops is the same one when all status flags are set. -/
theorem status_flags_never_matter_town :
    Town.grid.SameButFlags Town.flagged ∧ Town.grid ≠ Town.flagged ∧
      Option.Rel Traffic.Trip.SameButFlags
        ((Traffic.mk Town.grid 100).trip? Town.houses Town.shops 50)
        ((Traffic.mk Town.flagged 100).trip? Town.houses Town.shops 50) ∧
      ((Traffic.mk Town.flagged 100).trip? Town.houses Town.shops 50).map (·.route) =
        some (some ⟨1, [⟨3, 0⟩, ⟨4, 0⟩]⟩) := by
  have ⟨⟨_, _, _, _, trips⟩, _, _⟩ := status_flags_never_matter Town.sameButFlags 100
  exact ⟨Town.sameButFlags, by decide +kernel, trips Town.houses Town.shops 50, by decide +kernel⟩

end Cityscape
