import Cityscape.Proofs.Traffic.Cheapest

/-!
# What a trip leaves behind

A trip loads its route only after the search for it, and a shortest route comes to no cell twice. So
each cell of the route is loaded once, and nothing else changes. `Loaded` says this of any list of
cells. To load them one after the other leads there as long as none of them occurs twice
(`loaded_loadRoute`); the main statement is `trip?_loads_once`.
-/

namespace Cityscape

open Bounds (int32)

namespace Traffic

open Grid (densities)

variable {t u : Traffic} {cells : List Cell} {delta : Int}

/-- The second traffic is the first one with `delta` more on some cells of the grid, within the limits
of the densities, and the same otherwise. -/
structure Loaded (t : Traffic) (cells : List Cell) (delta : Int) (u : Traffic) : Prop where
  budget : u.budget = t.budget
  tiles : t.grid.SameTiles u.grid
  on : ∀ c ∈ cells, ∃ before after,
    t.grid.density? c = some before ∧ u.grid.density? c = some after ∧
      (after : Int) = densities.clamp (before + delta) ∧
      (after : Int) = densities.clamp (int32.clamp (before + delta))
  off : ∀ c, c ∉ cells → u.grid.density? c = t.grid.density? c

/-- Of cells that are loaded one after the other, none of them twice, each is loaded once. -/
lemma density?_foldl_load (nodup : cells.Nodup) (t : Traffic) (delta : Int) (d : Cell) :
    (cells.foldl (fun t c => t.load c delta) t).grid.density? d =
      if d ∈ cells then (t.grid.density? d).map (Grid.loaded · delta) else t.grid.density? d := by
  induction cells generalizing t with
  | nil => rfl
  | cons c cells ih =>
    obtain ⟨apart, nodup⟩ := List.nodup_cons.1 nodup
    rw [List.foldl_cons, ih nodup, load, Grid.density?_addTraffic]
    by_cases here : d = c
    · -- The first cell does not come again, so the rest of the list leaves it alone.
      subst here
      rw [if_neg apart, if_pos rfl, if_pos List.mem_cons_self]
    · simp only [here, if_false, List.mem_cons, false_or]

/-- A route over the grid that comes to no cell twice is loaded. -/
lemma loaded_loadRoute {r : Route} (nodup : r.path.Nodup)
    (inside : ∀ c ∈ r.path, t.grid.Contains c) (delta : Int) :
    Loaded t r.path delta (t.loadRoute r delta) where
  budget := budget_travelled t delta (some r)
  tiles := sameTiles_travelled t delta (some r)
  on c hc := by
    obtain ⟨before, first⟩ := Grid.exists_density? (inside c hc)
    obtain ⟨sum, saturated⟩ := Grid.loaded_eq_clamp before delta
    have last := density?_foldl_load nodup t delta c
    rw [if_pos hc, first] at last
    exact ⟨before, _, first, last, sum, sum.trans saturated.symm⟩
  off c hc := (density?_foldl_load nodup t delta c).trans (if_neg hc)

/-- The route that a trip decides on visits no cell twice. -/
lemma nodup_of_itinerary (small : t.grid.cellCount < 2 ^ 31) {origin destination : Cell} {r : Route}
    (h : t.itinerary? origin destination = some (some r)) : r.path.Nodup := by
  obtain ⟨starts, -, h⟩ := Option.bind_eq_some_iff.1 h
  obtain ⟨ends, -, h⟩ := Option.bind_eq_some_iff.1 h
  obtain ⟨s, -, e, -, found⟩ := exists_of_cheapest (Option.some.inj h)
  exact (shortest_of_route? small found).nodup

/-- A trip between two cells of a grid that is not too large always comes to an end. Without a route it
changes nothing. Along a route it loads each cell once, within the limits of the densities, and changes
no other density, no tile and not the budget. -/
theorem trip?_loads_once (small : t.grid.cellCount < 2 ^ 31) (width : t.grid.width < 2 ^ 30)
    (height : t.grid.height < 2 ^ 30) {origin destination : Cell}
    (from' : t.grid.Contains origin) (to' : t.grid.Contains destination) (delta : Int) :
    ∃ trip, t.trip? origin destination delta = some trip ∧
      (trip.route = none → trip.traffic = t) ∧
      ∀ r, trip.route = some r → r.path.Nodup ∧ t.Loaded r.path delta trip.traffic := by
  obtain ⟨route, found⟩ := itinerary?_isSome_iff.2
    ⟨hasRoom_of_contains from' width height, hasRoom_of_contains to' width height⟩
  refine ⟨⟨route, t.travelled delta route⟩, ?_, ?_, ?_⟩
  · rw [trip?_eq, found]
    rfl
  · rintro rfl
    rfl
  · rintro r rfl
    have nodup := nodup_of_itinerary small found
    have inside (c) (hc : c ∈ r.path) : t.grid.Contains c :=
      Grid.contains_of_isRoutable (isRoutable_of_mem_itinerary found hc)
    exact ⟨nodup, loaded_loadRoute nodup inside delta⟩

/-- The largest load there is fills the two cells on the way to the shops, and no other cell. -/
theorem trip?_loads_once_town :
    Town.grid.cellCount < 2 ^ 31 ∧ Town.grid.width < 2 ^ 30 ∧ Town.grid.height < 2 ^ 30 ∧
      Town.grid.Contains Town.houses ∧ Town.grid.Contains Town.shops ∧
      ∃ trip, (on Town.grid).trip? Town.houses Town.shops 2147483647 = some trip ∧
        trip.route = some ⟨1, [⟨3, 0⟩, ⟨4, 0⟩]⟩ ∧
        (on Town.grid).Loaded [⟨3, 0⟩, ⟨4, 0⟩] 2147483647 trip.traffic ∧
        trip.traffic.grid.density? ⟨3, 0⟩ = some 240 ∧
        trip.traffic.grid.density? ⟨3, 1⟩ = some 0 := by
  have small : Town.grid.cellCount < 2 ^ 31 := by decide
  have width : Town.grid.width < 2 ^ 30 := by decide
  have height : Town.grid.height < 2 ^ 30 := by decide
  have houses : Town.grid.Contains Town.houses := by decide
  have shops : Town.grid.Contains Town.shops := by decide
  have taken : (on Town.grid).itinerary? Town.houses Town.shops =
      some (some ⟨1, [⟨3, 0⟩, ⟨4, 0⟩]⟩) := by decide +kernel
  obtain ⟨trip, ht, -, loads⟩ :=
    @trip?_loads_once (on Town.grid) small width height _ _ houses shops 2147483647
  rw [trip?_eq, taken] at ht
  obtain rfl := Option.some.inj ht
  obtain ⟨-, loaded⟩ := loads _ rfl
  refine ⟨small, width, height, houses, shops, _, ?_, rfl, loaded, by decide +kernel, ?_⟩
  · rw [trip?_eq, taken]
    rfl
  · rw [loaded.off ⟨3, 1⟩ (by decide)]
    decide +kernel

end Traffic

end Cityscape
