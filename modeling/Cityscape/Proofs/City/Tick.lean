import Cityscape.City
import Cityscape.Proofs.Traffic.Trip

/-!
# Ticks

A tick lets the traffic decay and then, if there are two zones, makes a journey between two of
them, which is decided on before it is loaded (`City.tick?_eq`).
-/

namespace Cityscape

namespace City

variable {σ : Type}

/-- The city after a trip along a route, or after none, drawn from a source that is now
`source`. -/
def travel? (c : City σ) (route : Option Route) (source : σ) : Option (City σ) :=
  c.afterTrip? ⟨route, c.traffic.travelled c.tripDelta route⟩ source

variable [Random.Source σ]

/-- The centres of the zones that the next trip goes between, and the source afterwards. -/
def drawZones (c : City σ) (two : 2 ≤ c.zones.size) : (Cell × Cell) × σ :=
  let draw := Random.distinctPair c.zones.size two c.source
  have origin := draw.1.1.isLt
  have destination := draw.1.2.isLt
  ((c.zones[draw.1.1.val], c.zones[draw.1.2.val]), draw.2)

/-- A trip between two zones drawn from the source. -/
def journey? (c : City σ) (two : 2 ≤ c.zones.size) : Option (Tick σ) := do
  let ((origin, destination), source) := c.drawZones two
  let route ← c.traffic.itinerary? origin destination
  return ⟨← c.travel? route source, route⟩

/-- A tick is decay and a journey. -/
lemma tick?_eq (c : City σ) :
    c.tick? = c.decayed?.bind fun c =>
      if two : 2 ≤ c.zones.size then c.journey? two else some ⟨c, none⟩ := by
  unfold tick?
  refine congrArg (Option.bind _) (funext fun c => ?_)
  by_cases two : 2 ≤ c.zones.size
  · rw [dif_pos two, dif_pos two]
    dsimp only
    rw [Traffic.trip?_eq]
    unfold journey? drawZones
    dsimp only
    cases c.traffic.itinerary? _ _ <;> rfl
  · rw [dif_neg two, dif_neg two]
    rfl

end City

namespace Town

/-- A source of words in even steps. -/
structure Dice where
  face : UInt32
deriving DecidableEq

/-- A word is drawn from the face, and the next face lies a step further. -/
instance : Random.Source Dice where
  next s := (s.face, ⟨s.face + 0x9e3779b9⟩)

/-- The town with its two zones. -/
def city : City Dice := .start grid #[houses, shops] ⟨0x78dde6e4⟩

/-- The first trip goes from the houses to the shops. -/
example : (city.tick?).map (·.route) = some (some ⟨1, [⟨3, 0⟩, ⟨4, 0⟩]⟩) := by decide +kernel

end Town

end Cityscape
