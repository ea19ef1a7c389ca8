import Cityscape.Proofs.City.Counting

/-!
# Congestion

Traffic densities never influence what happens in a city: not which routes are found, and so not
what is counted or drawn. The main statement is `congestion_never_matters`, about two runs of any
length that start from cities which differ in densities and in what a trip adds to them. One tick
keeps such cities apart in nothing else (`SameButTraffic.tick?`), because a trip decides before it
loads, and the decision sees the layout of the grid only.
-/

namespace Cityscape

/-- Related results stay related when what follows keeps them so. -/
lemma rel_bind {α β γ δ : Type} {R : α → β → Prop} {S : γ → δ → Prop} {x : Option α}
    {y : Option β} {f : α → Option γ} {g : β → Option δ} (h : Option.Rel R x y)
    (next : ∀ a b, R a b → Option.Rel S (f a) (g b)) : Option.Rel S (x.bind f) (y.bind g) := by
  cases h with
  | none => exact .none
  | some h => exact next _ _ h

/-- Results that are related by equality are equal. -/
lemma rel_eq {α : Type} {x y : Option α} : Option.Rel Eq x y ↔ x = y := by
  constructor
  · intro h
    cases h with
    | none => rfl
    | some h => rw [h]
  · rintro rfl
    cases x with
    | none => exact .none
    | some a => exact .some rfl

namespace City

variable {σ : Type}

/-- The routes that the first `n` ticks find, one entry a tick. -/
def routes? [Random.Source σ] : Nat → City σ → Option (List (Option Route))
  | 0, _ => some []
  | n + 1, c => do
    let tick ← c.tick?
    return tick.route :: (← routes? n tick.city)

/-- Two cities that differ in traffic densities and in what a trip adds to them only. -/
structure SameButTraffic (c d : City σ) : Prop where
  grid : c.grid.SameTiles d.grid
  budget : c.traffic.budget = d.traffic.budget
  zones : c.zones = d.zones
  time : c.time = d.time
  routed : c.routed = d.routed
  failed : c.failed = d.failed
  source : c.source = d.source

/-- Two ticks that find one route and lead to cities which differ in traffic only. -/
structure Tick.SameButTraffic (p q : Tick σ) : Prop where
  city : p.city.SameButTraffic q.city
  route : p.route = q.route

namespace SameButTraffic

variable {c d : City σ}

/-- Cities that are alike but for traffic decay both or neither, and stay alike. -/
lemma decayed? (s : SameButTraffic c d) : Option.Rel SameButTraffic c.decayed? d.decayed? := by
  unfold City.decayed?
  rw [s.time]
  cases Bounds.uint64.fitNat? (d.time + 1) with
  | none => exact .none
  | some time =>
    have grid := ((Grid.SameTiles.decay c.grid decayPerTick).symm.trans s.grid).trans
      (.decay d.grid decayPerTick)
    exact .some ⟨grid, s.budget, s.zones, rfl, s.routed, s.failed, s.source⟩

/-- Trips over one route keep two cities apart in traffic only. -/
lemma travel? (s : SameButTraffic c d) (route : Option Route) (source : σ) :
    Option.Rel SameButTraffic (c.travel? route source) (d.travel? route source) := by
  have grid := ((Traffic.sameTiles_travelled c.traffic c.tripDelta route).symm.trans s.grid).trans
    (Traffic.sameTiles_travelled d.traffic d.tripDelta route)
  have budget : (c.traffic.travelled c.tripDelta route).budget =
      (d.traffic.travelled d.tripDelta route).budget := by simpa using s.budget
  unfold City.travel? City.afterTrip?
  cases route with
  | none =>
    dsimp only
    rw [s.failed]
    cases Bounds.uint64.fitNat? (d.failed + 1) with
    | none => exact .none
    | some failed => exact .some ⟨grid, budget, s.zones, s.time, s.routed, rfl, rfl⟩
  | some route =>
    dsimp only
    rw [s.routed]
    cases Bounds.uint64.fitNat? (d.routed + 1) with
    | none => exact .none
    | some routed => exact .some ⟨grid, budget, s.zones, s.time, rfl, s.failed, rfl⟩

/-- Counting draws keeps two cities alike but for traffic. -/
lemma counted (s : SameButTraffic c d) : SameButTraffic c.counted d.counted where
  grid := s.grid
  budget := s.budget
  zones := s.zones
  time := s.time
  routed := s.routed
  failed := s.failed
  source := by rw [City.counted, City.counted, s.source]

variable [Random.Source σ]

/-- Cities that are alike but for traffic draw the same zones. -/
lemma drawZones (s : SameButTraffic c d) (two : 2 ≤ c.zones.size) (two' : 2 ≤ d.zones.size) :
    c.drawZones two = d.drawZones two' := by
  obtain ⟨t, zones, time, routed, failed, delta, source⟩ := c
  obtain ⟨u, zones', _, _, _, delta', source'⟩ := d
  obtain rfl : zones = zones' := s.zones
  obtain rfl : source = source' := s.source
  rfl

/-- A journey is decided on by the layout, which both cities have. -/
lemma journey? (s : SameButTraffic c d) (two : 2 ≤ c.zones.size) (two' : 2 ≤ d.zones.size) :
    Option.Rel Tick.SameButTraffic (c.journey? two) (d.journey? two') := by
  have alike : Traffic.Alike c.traffic d.traffic := ⟨s.grid.layout, s.budget⟩
  unfold City.journey?
  rw [s.drawZones two two', alike.itinerary?]
  refine rel_bind (rel_eq.2 rfl) ?_
  rintro route _ rfl
  refine rel_bind (s.travel? route _) fun p q held => ?_
  exact .some ⟨held, rfl⟩

/-- One tick keeps two cities apart in traffic only, and finds the same route in both. -/
lemma tick? (s : SameButTraffic c d) : Option.Rel Tick.SameButTraffic c.tick? d.tick? := by
  rw [tick?_eq, tick?_eq]
  refine rel_bind s.decayed? fun c d s => ?_
  by_cases two : 2 ≤ c.zones.size
  · have two' : 2 ≤ d.zones.size := s.zones ▸ two
    rw [dif_pos two, dif_pos two']
    exact s.journey? two two'
  · have few : ¬2 ≤ d.zones.size := s.zones ▸ two
    rw [dif_neg two, dif_neg few]
    exact .some ⟨s, rfl⟩

/-- Cities that are alike but for traffic run both or neither, and stay alike. -/
lemma run? (s : SameButTraffic c d) (n : Nat) :
    Option.Rel SameButTraffic (c.run? n) (d.run? n) := by
  induction n generalizing c d with
  | zero => exact .some s
  | succ n ih =>
    unfold City.run?
    exact rel_bind s.tick? fun p q ticks => ih ticks.city

/-- Cities that are alike but for traffic travel the same routes. -/
lemma routes? (s : SameButTraffic c d) (n : Nat) : c.routes? n = d.routes? n := by
  induction n generalizing c d with
  | zero => rfl
  | succ n ih =>
    unfold City.routes?
    refine rel_eq.1 (rel_bind s.tick? fun p q ticks => rel_eq.2 ?_)
    rw [ticks.route, ih ticks.city]

/-- Cities that are alike but for traffic draw as many words. -/
lemma drawn? (s : SameButTraffic c d) (n : Nat) : c.drawn? n = d.drawn? n := by
  unfold City.drawn?
  rw [Option.map_eq_bind, Option.map_eq_bind]
  refine rel_eq.1 (rel_bind (s.counted.run? n) fun p q held => rel_eq.2 ?_)
  rw [Function.comp, Function.comp, held.source]

end SameButTraffic

/-- Runs of one length from two cities that differ in densities and in what a trip adds lead to
cities which differ in nothing else, find the same routes, and draw the same number of words. The
words are counted along the run itself: with the count erased, the counted run is the run. -/
theorem congestion_never_matters [Random.Source σ] {c d : City σ} (s : c.SameButTraffic d)
    (n : Nat) :
    Option.Rel SameButTraffic (c.run? n) (d.run? n) ∧ c.routes? n = d.routes? n ∧
      c.drawn? n = d.drawn? n ∧
      ∀ e : City σ, e.run? n = (e.counted.run? n).map uncounted :=
  ⟨s.run? n, s.routes? n, s.drawn? n, fun e => e.counted.run?_uncounted n⟩

end City

namespace Town

/-- The town with traffic everywhere, from which trips take some away. -/
def jammed : City Dice :=
  (city.withGrid { grid with traffic := .replicate _ 200 }).withTripDelta (-30)

/-- The jammed town is the town, but for its traffic. -/
lemma sameButTraffic : city.SameButTraffic jammed := ⟨⟨_, rfl⟩, rfl, rfl, rfl, rfl, rfl, rfl⟩

end Town

/-- The jammed town makes the same trips as the empty one. -/
theorem congestion_never_matters_town :
    Town.city.SameButTraffic Town.jammed ∧
      Option.Rel City.SameButTraffic (Town.city.run? 2) (Town.jammed.run? 2) ∧
      Town.city.routes? 2 = Town.jammed.routes? 2 ∧
      Town.city.drawn? 2 = Town.jammed.drawn? 2 ∧
      Town.jammed.routes? 2 =
        some [some ⟨1, [⟨3, 0⟩, ⟨4, 0⟩]⟩, some ⟨1, [⟨4, 0⟩, ⟨3, 0⟩]⟩] := by
  obtain ⟨cities, routes, draws, -⟩ := City.congestion_never_matters Town.sameButTraffic 2
  exact ⟨Town.sameButTraffic, cities, routes, draws, by decide +kernel⟩

end Cityscape
