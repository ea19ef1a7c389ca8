import Cityscape.Proofs.Traffic.Layout

/-!
# Trips

A trip decides first and loads afterwards (`trip?_eq`): where it goes depends on the layout of the
grid only (`Alike.itinerary?`), and what it leaves behind is a fold over the cells of its route, so
that what every single load keeps is kept by the whole trip.
-/

namespace Cityscape

/-- The second grid is the first one with other densities. -/
def Grid.SameTiles (g h : Grid) : Prop := ∃ traffic, h = { g with traffic }

namespace Grid.SameTiles

variable {g h k : Grid}

/-- A grid has its own tiles. -/
lemma refl (g : Grid) : SameTiles g g := ⟨g.traffic, rfl⟩

/-- Having the same tiles carries over from grid to grid. -/
lemma trans (first : SameTiles g h) (second : SameTiles h k) : SameTiles g k := by
  obtain ⟨traffic, rfl⟩ := first
  obtain ⟨traffic', rfl⟩ := second
  exact ⟨traffic', rfl⟩

/-- Having the same tiles goes both ways. -/
lemma symm (s : SameTiles g h) : SameTiles h g := by
  obtain ⟨traffic, rfl⟩ := s
  exact ⟨g.traffic, rfl⟩

/-- Grids with the same tiles contain the same cells. -/
lemma contains (s : SameTiles g h) {c : Cell} (inside : g.Contains c) : h.Contains c := by
  obtain ⟨traffic, rfl⟩ := s
  exact inside

/-- Grids with the same tiles have one layout. -/
lemma layout (s : SameTiles g h) : SameLayout g h := by
  obtain ⟨traffic, rfl⟩ := s
  exact ⟨rfl, rfl, fun _ => rfl⟩

/-- A decay changes no tile. -/
lemma decay (g : Grid) (amount : Nat) : SameTiles g (g.decay amount) := ⟨_, rfl⟩

/-- Adding traffic changes no tile. -/
lemma addTraffic (g : Grid) (c : Cell) (delta : Int) : SameTiles g (g.addTraffic c delta) := by
  unfold Grid.addTraffic
  split
  · exact ⟨_, rfl⟩
  · exact refl g

end Grid.SameTiles

namespace Traffic

/-- The route of a trip between the structures around two centres, if there is one. -/
def itinerary? (t : Traffic) (origin destination : Cell) : Option (Option Route) := do
  return t.cheapest (← t.peripheryRoads? origin) (← t.peripheryRoads? destination)

/-- The traffic after a trip along a route, or after none. -/
def travelled (t : Traffic) (delta : Int) : Option Route → Traffic
  | none => t
  | some route => t.loadRoute route delta

/-- A trip decides on its route and then loads it. -/
lemma trip?_eq (t : Traffic) (origin destination : Cell) (delta : Int) :
    t.trip? origin destination delta =
      (t.itinerary? origin destination).map fun route => ⟨route, t.travelled delta route⟩ := by
  unfold trip? itinerary?
  cases t.peripheryRoads? origin with
  | none => rfl
  | some starts =>
    cases t.peripheryRoads? destination with
    | none => rfl
    | some ends =>
      simp only [Option.bind_eq_bind, Option.bind_some, Option.pure_def, Option.map_some]
      cases t.cheapest starts ends <;> rfl

/-- What every load of a cell of the route keeps is kept by the trip. -/
lemma travelled_induction {P : Traffic → Prop} {t : Traffic} {delta : Int} {route : Option Route}
    (start : P t) (load : ∀ t, ∀ r ∈ route, ∀ c ∈ r.path, P t → P (t.load c delta)) :
    P (t.travelled delta route) := by
  cases route with
  | none => exact start
  | some r =>
    exact List.foldlRecOn r.path _ start fun t held c hc => load t r rfl c hc held

/-- A trip does not change the budget for route searches. -/
@[simp] lemma budget_travelled (t : Traffic) (delta : Int) (route : Option Route) :
    (t.travelled delta route).budget = t.budget :=
  @travelled_induction (fun u => u.budget = t.budget) t delta route rfl fun _ _ _ _ _ held => held

/-- A trip changes no tile. -/
lemma sameTiles_travelled (t : Traffic) (delta : Int) (route : Option Route) :
    t.grid.SameTiles (t.travelled delta route).grid :=
  @travelled_induction (fun u => t.grid.SameTiles u.grid) t delta route (.refl _)
    fun u _ _ c _ held => held.trans (.addTraffic u.grid c delta)

/-- Where a trip goes depends on the layout only. -/
lemma Alike.itinerary? {t u : Traffic} (a : Alike t u) : t.itinerary? = u.itinerary? := by
  funext origin destination
  unfold Traffic.itinerary?
  rw [a.peripheryRoads?, a.cheapest]

end Traffic

namespace Town

/-- A block of houses and a block of shops, with a road two cells wide between them. -/
def tiles : Vector Tile (8 * 3) :=
  #v[243, 243, 243, 67, 67, 426, 426, 426,
     243, 244, 243, 67, 67, 426, 427, 426,
     243, 243, 243, 67, 67, 426, 426, 426]

def houses : Cell := ⟨1, 1⟩

def shops : Cell := ⟨6, 1⟩

def grid : Grid := ⟨8, 3, tiles, .replicate _ 0⟩

/-- The trip to the shops crosses the road in its northernmost row. -/
example : (Traffic.on grid).itinerary? houses shops = some (some ⟨1, [⟨3, 0⟩, ⟨4, 0⟩]⟩) := by
  decide +kernel

end Town

end Cityscape
