import Cityscape.Random.Source
import Cityscape.Traffic

/-!
# The city

A city is traffic on a grid, the centres of its zones, a clock with counters, and a source of
random words. On each tick all traffic decays and then one trip is made between two different
zones, chosen at random.
-/

namespace Cityscape

/-- A city whose choices come from a source of type `σ`. -/
structure City (σ : Type) where
  traffic : Traffic
  zones : Array Cell
  time : Nat
  routed : Nat
  failed : Nat
  tripDelta : Int
  source : σ
deriving DecidableEq

namespace City

/-- The traffic that a trip adds to each cell of its route when nothing else is chosen. -/
def defaultTripDelta : Int := 50

/-- The density that every cell loses on each tick. -/
def decayPerTick : Nat := 1

variable {σ : Type}

/-- A city on a grid before its first tick. -/
def start (g : Grid) (zones : Array Cell) (source : σ) : City σ :=
  ⟨.on g, zones, 0, 0, 0, defaultTripDelta, source⟩

/-- The grid of the city. -/
def grid (c : City σ) : Grid := c.traffic.grid

/-- The city with another grid in place of its own. -/
def withGrid (c : City σ) (g : Grid) : City σ := { c with traffic := { c.traffic with grid := g } }

/-- The city with another budget for each route search. -/
def withBudget (c : City σ) (budget : Nat) : City σ :=
  { c with traffic := { c.traffic with budget } }

/-- The city whose trips add another amount of traffic. -/
def withTripDelta (c : City σ) (tripDelta : Int) : City σ := { c with tripDelta }

/-- The city with a zone moved to another centre; there must be a zone of that number. -/
def moveZone? (c : City σ) (i : Nat) (centre : Cell) : Option (City σ) :=
  if h : i < c.zones.size then some { c with zones := c.zones.set i centre } else none

/-- What a tick leads to: the city afterwards, and the route that was found, if any. -/
structure Tick (σ : Type) where
  city : City σ
  route : Option Route
deriving DecidableEq

/-- The city with the clock moved on and its traffic decayed, if the clock can move on. -/
def decayed? (c : City σ) : Option (City σ) := do
  let time ← Bounds.uint64.fitNat? (c.time + 1)
  return { c.withGrid (c.grid.decay decayPerTick) with time }

/-- The city after a trip with this outcome, drawn from a source that is now `source`, if the
trip can be counted. -/
def afterTrip? (c : City σ) (trip : Traffic.Trip) (source : σ) : Option (City σ) :=
  match trip.route with
  | some _ => do
    let routed ← Bounds.uint64.fitNat? (c.routed + 1)
    return { c with traffic := trip.traffic, routed, source }
  | none => do
    let failed ← Bounds.uint64.fitNat? (c.failed + 1)
    return { c with traffic := trip.traffic, failed, source }

/-- One tick. A city with fewer than two zones makes no trip and draws no words. -/
def tick? [Random.Source σ] (c : City σ) : Option (Tick σ) := do
  let c ← c.decayed?
  if two : 2 ≤ c.zones.size then
    let ((origin, destination), source) := Random.distinctPair c.zones.size two c.source
    let trip ← c.traffic.trip? c.zones[origin] c.zones[destination] c.tripDelta
    return ⟨← c.afterTrip? trip source, trip.route⟩
  else
    return ⟨c, none⟩

/-- The city after `n` ticks. -/
def run? [Random.Source σ] : Nat → City σ → Option (City σ)
  | 0, c => some c
  | n + 1, c => do run? n (← c.tick?).city

end City

end Cityscape
