import Cityscape.Proofs.Route.Search
import Cityscape.Proofs.Traffic.Ring
import Cityscape.Proofs.Traffic.Trip

/-!
# Access to the roads

A trip has an itinerary exactly when there is room around both of its ends
(`itinerary?_isSome_iff`), as there is around every cell of a grid that is not too large. It starts
on a routable cell, and so all of its cells are routable (`isRoutable_of_mem_itinerary`).
-/

namespace Cityscape

namespace Traffic

variable {t : Traffic}

/-- There is room around every cell of a grid as long as the sides of the grid are below 2^30. -/
lemma hasRoom_of_contains {centre : Cell} (inside : t.grid.Contains centre)
    (width : t.grid.width < 2 ^ 30) (height : t.grid.height < 2 ^ 30) : t.HasRoom centre := by
  obtain ⟨x0, y0, xw, yh⟩ := inside
  have size := t.structureSide_cases centre
  have fits (v : Int) (lo : -2 ≤ v) (hi : v ≤ 2 ^ 30 + 3) : Bounds.int32.Holds v := by
    simp only [Bounds.Holds, Bounds.int32]
    omega
  constructor <;> apply fits <;> omega

/-- A trip can decide whether it has a route just where there is room around both of its ends. -/
lemma itinerary?_isSome_iff {origin destination : Cell} :
    (∃ route, t.itinerary? origin destination = some route) ↔
      t.HasRoom origin ∧ t.HasRoom destination := by
  rw [← peripheryRoads?_isSome_iff, ← peripheryRoads?_isSome_iff]
  constructor
  · rintro ⟨route, h⟩
    obtain ⟨starts, hs, h⟩ := Option.bind_eq_some_iff.1 h
    obtain ⟨ends, he, -⟩ := Option.bind_eq_some_iff.1 h
    exact ⟨⟨starts, hs⟩, ⟨ends, he⟩⟩
  · rintro ⟨⟨starts, hs⟩, ⟨ends, he⟩⟩
    exact ⟨t.cheapest starts ends, by simp only [itinerary?, hs, he, Option.bind_eq_bind,
      Option.bind_some, Option.pure_def]⟩

/-- A trip can be made just where there is room around both of its ends. -/
lemma trip?_isSome_iff {origin destination : Cell} {delta : Int} :
    (∃ trip, t.trip? origin destination delta = some trip) ↔
      t.HasRoom origin ∧ t.HasRoom destination := by
  rw [← itinerary?_isSome_iff, trip?_eq]
  simp only [Option.map_eq_some_iff]
  constructor
  · rintro ⟨trip, route, h, -⟩
    exact ⟨route, h⟩
  · rintro ⟨route, h⟩
    exact ⟨_, route, h, rfl⟩

/-- A pair is considered by keeping the best route or by taking the route between the pair. -/
lemma consider_cases (best : Option Route) (pair : Access × Access) :
    t.consider best pair = best ∨ t.consider best pair = t.route? pair.1.road pair.2.road := by
  unfold consider
  split
  · exact .inr rfl
  · split
    · exact .inl rfl
    · split
      · rename_i searched
        split
        · exact .inr searched.symm
        · exact .inl rfl
      · exact .inl rfl

/-- The cheapest route is a route between a start and an end. -/
lemma exists_of_cheapest {starts ends : List Access} {r : Route}
    (h : t.cheapest starts ends = some r) :
    ∃ s ∈ starts, ∃ e ∈ ends, t.route? s.road e.road = some r := by
  have pairs := @List.foldlRecOn _ _
    (fun best : Option Route => ∀ r ∈ best, ∃ s ∈ starts, ∃ e ∈ ends,
      t.route? s.road e.road = some r)
    (starts.flatMap fun s => ends.map (s, ·)) t.consider none (fun _ hr => nomatch hr)
    fun best ih pair hpair => by
      rcases consider_cases best pair with kept | taken
      · rwa [kept]
      · obtain ⟨s, hs, hpair⟩ := List.mem_flatMap.1 hpair
        obtain ⟨e, he, rfl⟩ := List.mem_map.1 hpair
        rw [taken]
        exact fun r hr => ⟨s, hs, e, he, hr⟩
  exact pairs r h

/-- Every cell of the route that a trip decides on is routable. -/
lemma isRoutable_of_mem_itinerary {origin destination : Cell} {r : Route}
    (h : t.itinerary? origin destination = some (some r)) {c : Cell} (hc : c ∈ r.path) :
    t.grid.isRoutable c = true := by
  obtain ⟨starts, hs, h⟩ := Option.bind_eq_some_iff.1 h
  obtain ⟨ends, -, h⟩ := Option.bind_eq_some_iff.1 h
  obtain ⟨s, mem, e, -, found⟩ := exists_of_cheapest (Option.some.inj h)
  rcases Route.passable_of_mem_path found hc with rfl | routable
  · exact ((mem_peripheryRoads_iff hs).1 mem).2.2.1
  · exact routable

end Traffic

end Cityscape
