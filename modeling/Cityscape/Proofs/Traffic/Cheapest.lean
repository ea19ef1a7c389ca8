import Cityscape.Proofs.Route.Shortest
import Cityscape.Proofs.Traffic.Access
import Mathlib.Order.Bounds.Basic

/-!
# The cheapest route of a trip

A trip skips the pairs of cells that are too far apart to give a better route. No route is cheaper
than the distance between its ends, so nothing is missed: the trip takes the first cheapest of the
routes between all pairs (`cheapest_eq`). Where the budget covers the grid, it is a shortest way from
the roads around the one structure to the roads around the other (`trip?_cheapest`).
-/

namespace Cityscape

namespace Route

/-- The cheaper of two routes; the first one, if they cost the same. -/
def cheaper : Option Route → Option Route → Option Route
  | none, other => other
  | some best, none => some best
  | some best, some other => if other.cost < best.cost then some other else some best

/-- The first of the cheapest routes in a list. -/
def firstCheapest (routes : List (Option Route)) : Option Route := routes.foldl cheaper none

/-- Some walk leads from one cell to another. -/
def Connected (g : Grid) (start goal : Cell) : Prop := ∃ path, IsWalk g start goal path

/-- The number of steps of the shortest walks between two cells. -/
def IsDistance (g : Grid) (start goal : Cell) (n : Nat) : Prop :=
  IsLeast {m | ∃ path, IsWalk g start goal path ∧ path.length = m + 1} n

/-- The cost of a shortest route is the distance between its ends. -/
lemma Shortest.isDistance {g : Grid} {start goal : Cell} {r : Route}
    (h : r.Shortest g start goal) : IsDistance g start goal r.cost := by
  refine ⟨⟨r.path, h.walk, h.cost⟩, ?_⟩
  rintro m ⟨path, walk, length⟩
  have least := h.least path walk
  omega

/-- The cheaper of two routes is one of them. -/
lemma cheaper_cases (best other : Option Route) :
    cheaper best other = best ∨ cheaper best other = other := by
  cases best with
  | none => exact .inr rfl
  | some b =>
    cases other with
    | none => exact .inl rfl
    | some o =>
      rw [cheaper]
      split
      · exact .inr rfl
      · exact .inl rfl

/-- Where there is a second route, there is a first one that costs no more. -/
def AsCheap (best other : Option Route) : Prop := ∀ r ∈ other, ∃ b ∈ best, b.cost ≤ r.cost

/-- A route is as cheap as itself. -/
lemma AsCheap.refl (best : Option Route) : AsCheap best best :=
  fun r hr => ⟨r, hr, Nat.le_refl _⟩

/-- Being as cheap carries over from route to route. -/
lemma AsCheap.trans {a b c : Option Route} (first : AsCheap a b) (second : AsCheap b c) :
    AsCheap a c := by
  intro r hr
  obtain ⟨s, hs, le⟩ := second r hr
  obtain ⟨t, ht, le'⟩ := first s hs
  exact ⟨t, ht, Nat.le_trans le' le⟩

/-- The cheaper of two routes is as cheap as the first. -/
lemma cheaper_left (best other : Option Route) : AsCheap (cheaper best other) best := by
  rintro b rfl
  cases other with
  | none => exact ⟨b, rfl, Nat.le_refl _⟩
  | some o =>
    rw [cheaper]
    split
    · rename_i lt
      exact ⟨o, rfl, Nat.le_of_lt lt⟩
    · exact ⟨b, rfl, Nat.le_refl _⟩

/-- The cheaper of two routes is as cheap as the second. -/
lemma cheaper_right (best other : Option Route) : AsCheap (cheaper best other) other := by
  rintro o rfl
  cases best with
  | none => exact ⟨o, rfl, Nat.le_refl _⟩
  | some b =>
    rw [cheaper]
    split
    · exact ⟨o, rfl, Nat.le_refl _⟩
    · rename_i le
      exact ⟨b, rfl, Nat.le_of_not_lt le⟩

/-- What comes of comparing routes one after another is the first best route or one of those
compared. -/
lemma foldl_cheaper_cases (best : Option Route) (routes : List (Option Route)) :
    routes.foldl cheaper best = best ∨ routes.foldl cheaper best ∈ routes := by
  induction routes generalizing best with
  | nil => exact .inl rfl
  | cons other routes ih =>
    rcases ih (cheaper best other) with e | mem
    · rcases cheaper_cases best other with first | second
      · exact .inl (e.trans first)
      · refine .inr (List.mem_cons.2 (.inl (e.trans second)))
    · exact .inr (List.mem_cons_of_mem _ mem)

/-- What comes of comparing routes is as cheap as the first best route. -/
lemma foldl_cheaper_left (best : Option Route) (routes : List (Option Route)) :
    AsCheap (routes.foldl cheaper best) best := by
  induction routes generalizing best with
  | nil => exact .refl best
  | cons other routes ih => exact (ih (cheaper best other)).trans (cheaper_left best other)

/-- What comes of comparing routes is as cheap as every one of those compared. -/
lemma foldl_cheaper_right (best : Option Route) {routes : List (Option Route)}
    {route : Option Route} (mem : route ∈ routes) :
    AsCheap (routes.foldl cheaper best) route := by
  induction routes generalizing best with
  | nil => exact nomatch mem
  | cons other routes ih =>
    rcases List.mem_cons.1 mem with rfl | mem
    · exact (foldl_cheaper_left _ routes).trans (cheaper_right best route)
    · exact ih (cheaper best other) mem

/-- The first cheapest route is one of the routes. -/
lemma mem_of_firstCheapest {routes : List (Option Route)} {r : Route}
    (h : firstCheapest routes = some r) : some r ∈ routes := by
  rcases foldl_cheaper_cases none routes with none | mem
  · exact nomatch h.symm.trans none
  · exact h ▸ mem

/-- The first cheapest route costs no more than any of the routes. -/
lemma firstCheapest_asCheap {routes : List (Option Route)} {r : Route} (mem : some r ∈ routes) :
    ∃ b ∈ firstCheapest routes, b.cost ≤ r.cost := foldl_cheaper_right none mem r rfl

end Route

namespace Traffic

open Route

variable {t : Traffic} {starts ends : List Access}

/-- The routes between all starts and all ends, the starts in the outer loop. -/
def allRoutes (t : Traffic) (starts ends : List Access) : List (Option Route) :=
  starts.flatMap fun s => ends.map fun e => t.route? s.road e.road

/-- The routes compared are those from every start to every end. -/
lemma mem_allRoutes {route : Option Route} :
    route ∈ t.allRoutes starts ends ↔ ∃ s ∈ starts, ∃ e ∈ ends, t.route? s.road e.road = route := by
  simp only [allRoutes, List.mem_flatMap, List.mem_map]

/-- A route found on the grid is a shortest one. -/
lemma shortest_of_route? (cells : t.grid.cellCount < 2 ^ 31) {start goal : Cell} {r : Route}
    (found : t.route? start goal = some r) : r.Shortest t.grid start goal := by
  have settles := find_settles cells t.budget start goal
  rw [route?] at found
  rwa [found] at settles

/-- No route is cheaper than the distance between its ends. -/
lemma distance_le_of_route? (cells : t.grid.cellCount < 2 ^ 31) {start goal : Cell} {r : Route}
    (found : t.route? start goal = some r) : start.distance goal ≤ r.cost := by
  have shortest := shortest_of_route? cells found
  have le := shortest.walk.reaches.distance_le
  rwa [shortest.cost, Nat.add_sub_cancel] at le

/-- A pair that is skipped would not have given a cheaper route. -/
lemma consider_eq (cells : t.grid.cellCount < 2 ^ 31) (best : Option Route)
    (pair : Access × Access) :
    t.consider best pair = cheaper best (t.route? pair.1.road pair.2.road) := by
  cases best with
  | none => rfl
  | some found =>
    rw [consider]
    cases searched : t.route? pair.1.road pair.2.road with
    | none =>
      dsimp only
      split <;> rfl
    | some route =>
      have far := distance_le_of_route? cells searched
      dsimp only
      rw [cheaper]
      split
      · rw [if_neg (by omega)]
      · rfl

/-- The route of a trip is the first cheapest of all routes. -/
lemma cheapest_eq (cells : t.grid.cellCount < 2 ^ 31) (starts ends : List Access) :
    t.cheapest starts ends = firstCheapest (t.allRoutes starts ends) := by
  have consider : t.consider =
      fun best pair => cheaper best (t.route? pair.1.road pair.2.road) := by
    funext best pair
    exact consider_eq cells best pair
  have routes : t.allRoutes starts ends =
      (starts.flatMap fun s => ends.map (s, ·)).map fun pair =>
        t.route? pair.1.road pair.2.road := by
    simp only [allRoutes, List.map_flatMap, List.map_map, Function.comp_def]
  rw [cheapest, consider, firstCheapest, routes, List.foldl_map]

section
variable (cells : t.grid.cellCount < 2 ^ 31) (enough : t.grid.cellCount ≤ t.budget)
include cells enough

/-- With a budget for all cells, two cells of the grid have a route if some walk connects them. -/
lemma route?_eq_none_iff {start goal : Cell} (inside : t.grid.Contains start) :
    t.route? start goal = none ↔ ¬Connected t.grid start goal := by
  constructor
  · intro none
    have settles := find_settles cells t.budget start goal
    rw [route?] at none
    rw [none] at settles
    exact settles enough inside
  · intro apart
    refine Option.eq_none_iff_forall_ne_some.2 fun r found => apart ?_
    exact ⟨r.path, (shortest_of_route? cells found).walk⟩

/-- There is no cheapest route just where no start is connected to any end. -/
lemma cheapest_eq_none_iff (inside : ∀ s ∈ starts, t.grid.Contains s.road) :
    t.cheapest starts ends = none ↔
      ¬∃ s ∈ starts, ∃ e ∈ ends, Connected t.grid s.road e.road := by
  rw [cheapest_eq cells]
  constructor
  · rintro none ⟨s, hs, e, he, connected⟩
    cases searched : t.route? s.road e.road with
    | none => exact (route?_eq_none_iff cells enough (inside s hs)).1 searched connected
    | some r =>
      obtain ⟨b, found, -⟩ := firstCheapest_asCheap (mem_allRoutes.2 ⟨s, hs, e, he, searched⟩)
      exact nomatch none.symm.trans found
  · intro apart
    refine Option.eq_none_iff_forall_ne_some.2 fun r found => apart ?_
    obtain ⟨s, hs, e, he, searched⟩ := mem_allRoutes.1 (mem_of_firstCheapest found)
    exact ⟨s, hs, e, he, r.path, (shortest_of_route? cells searched).walk⟩

/-- The cost of the cheapest route is the least of the distances between a start and an end. -/
lemma isLeast_cheapest (inside : ∀ s ∈ starts, t.grid.Contains s.road) {r : Route}
    (found : t.cheapest starts ends = some r) :
    IsLeast {n | ∃ s ∈ starts, ∃ e ∈ ends, IsDistance t.grid s.road e.road n} r.cost := by
  rw [cheapest_eq cells] at found
  constructor
  · obtain ⟨s, hs, e, he, searched⟩ := mem_allRoutes.1 (mem_of_firstCheapest found)
    exact ⟨s, hs, e, he, (shortest_of_route? cells searched).isDistance⟩
  · rintro n ⟨s, hs, e, he, ⟨path, walk, length⟩, -⟩
    cases searched : t.route? s.road e.road with
    | none => exact absurd ⟨path, walk⟩ ((route?_eq_none_iff cells enough (inside s hs)).1 searched)
    | some r' =>
      obtain ⟨b, found', le⟩ := firstCheapest_asCheap (mem_allRoutes.2 ⟨s, hs, e, he, searched⟩)
      obtain rfl := Option.some.inj (found.symm.trans found')
      have least := (shortest_of_route? cells searched).least path walk
      omega

end

/-- A trip between two cells of a grid that is not too large takes the first cheapest of the routes
between all roads around the one structure and all roads around the other, as if each pair were
searched. If the budget covers the grid, it takes no route exactly if no walk connects such a pair, and
otherwise one as long as the shortest distance of all pairs. -/
theorem trip?_cheapest (cells : t.grid.cellCount < 2 ^ 31) (width : t.grid.width < 2 ^ 30)
    (height : t.grid.height < 2 ^ 30) {origin destination : Cell}
    (from' : t.grid.Contains origin) (to' : t.grid.Contains destination) (delta : Int) :
    ∃ starts ends trip, t.peripheryRoads? origin = some starts ∧
      t.peripheryRoads? destination = some ends ∧
      t.trip? origin destination delta = some trip ∧
      trip.route = firstCheapest (t.allRoutes starts ends) ∧
      (t.grid.cellCount ≤ t.budget →
        (trip.route = none ↔ ¬∃ s ∈ starts, ∃ e ∈ ends, Connected t.grid s.road e.road) ∧
        ∀ r, trip.route = some r →
          IsLeast {n | ∃ s ∈ starts, ∃ e ∈ ends, IsDistance t.grid s.road e.road n} r.cost) := by
  obtain ⟨starts, hs⟩ := peripheryRoads?_isSome_iff.2 (hasRoom_of_contains from' width height)
  obtain ⟨ends, he⟩ := peripheryRoads?_isSome_iff.2 (hasRoom_of_contains to' width height)
  have inside (s) (mem : s ∈ starts) : t.grid.Contains s.road :=
    Grid.contains_of_isRoutable ((mem_peripheryRoads_iff hs).1 mem).2.2.1
  have itinerary : t.itinerary? origin destination = some (t.cheapest starts ends) := by
    simp only [itinerary?, hs, he, Option.bind_eq_bind, Option.bind_some, Option.pure_def]
  refine ⟨starts, ends, ⟨t.cheapest starts ends, t.travelled delta (t.cheapest starts ends)⟩, hs, he,
    ?_, cheapest_eq cells starts ends, fun enough => ⟨?_, fun r found => ?_⟩⟩
  · rw [trip?_eq, itinerary]
    rfl
  · exact cheapest_eq_none_iff cells enough inside
  · exact isLeast_cheapest cells enough inside found

/-- From the houses to the shops it is one step across the road, as short as the distance of any two
roads beside them. -/
theorem trip?_cheapest_town :
    Town.grid.cellCount < 2 ^ 31 ∧ Town.grid.width < 2 ^ 30 ∧ Town.grid.height < 2 ^ 30 ∧
      Town.grid.Contains Town.houses ∧ Town.grid.Contains Town.shops ∧
      ∃ starts ends, (on Town.grid).peripheryRoads? Town.houses = some starts ∧
        (on Town.grid).peripheryRoads? Town.shops = some ends ∧
        IsLeast {n | ∃ s ∈ starts, ∃ e ∈ ends, IsDistance Town.grid s.road e.road n} 1 := by
  have cells : Town.grid.cellCount < 2 ^ 31 := by decide
  have width : Town.grid.width < 2 ^ 30 := by decide
  have height : Town.grid.height < 2 ^ 30 := by decide
  have houses : Town.grid.Contains Town.houses := by decide
  have shops : Town.grid.Contains Town.shops := by decide
  have taken : (on Town.grid).itinerary? Town.houses Town.shops =
      some (some ⟨1, [⟨3, 0⟩, ⟨4, 0⟩]⟩) := by decide +kernel
  obtain ⟨starts, ends, trip, hs, he, ht, -, best⟩ :=
    @trip?_cheapest (on Town.grid) cells width height _ _ houses shops 5
  rw [trip?_eq, taken] at ht
  obtain rfl := Option.some.inj ht
  exact ⟨cells, width, height, houses, shops, starts, ends, hs, he, (best (by decide)).2 _ rfl⟩

end Traffic

end Cityscape
