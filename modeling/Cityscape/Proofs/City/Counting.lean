import Cityscape.Proofs.City.Tick

/-!
# Counting draws

A source can count the words drawn from it (`Random.Counted`). The count is erased again by
`City.uncounted`, and a run of the counted city, with the count erased, is the run of the city
itself (`City.run?_uncounted`), so that `City.drawn?` is the number of words which that run draws.
-/

namespace Cityscape

namespace Random

/-- A source together with the number of words drawn from it. -/
structure Counted (σ : Type) where
  source : σ
  drawn : Nat

variable {σ : Type} [Source σ]

/-- Each word drawn is counted. -/
instance : Source (Counted σ) where
  next s := ((Source.next s.source).1, ⟨(Source.next s.source).2, s.drawn + 1⟩)

/-- Counting the draws changes no number that is drawn. -/
lemma below_counted (n : Nat) (pos : 0 < n) (s : Counted σ) :
    below n pos s.source = ((below n pos s).1, (below n pos s).2.source) := by
  unfold below
  dsimp only [Source.next]
  split <;> rfl

/-- A pair drawn from a counting source is the one drawn from the source that it counts for. -/
lemma distinctPair_counted (n : Nat) (two : 2 ≤ n) (s : Counted σ) :
    distinctPair n two s.source = ((distinctPair n two s).1, (distinctPair n two s).2.source) := by
  unfold distinctPair
  rw [below_counted]
  dsimp only
  rw [below_counted]

end Random

namespace City

variable {σ : Type}

/-- The city with its draws counted from now on. -/
def counted (c : City σ) : City (Random.Counted σ) := { c with source := ⟨c.source, 0⟩ }

/-- The city without the count. -/
def uncounted (c : City (Random.Counted σ)) : City σ := { c with source := c.source.source }

/-- The traffic of a city decays whether its draws are counted or not. -/
lemma decayed?_uncounted (c : City (Random.Counted σ)) :
    c.uncounted.decayed? = c.decayed?.map uncounted := by
  unfold decayed?
  rw [show c.uncounted.time = c.time from rfl]
  cases Bounds.uint64.fitNat? (c.time + 1) <;> rfl

/-- A trip over a route is recorded whether the draws are counted or not. -/
lemma travel?_uncounted (c : City (Random.Counted σ)) (route : Option Route)
    (source : Random.Counted σ) :
    c.uncounted.travel? route source.source = (c.travel? route source).map uncounted := by
  unfold travel? afterTrip?
  cases route with
  | none =>
    rw [show c.uncounted.failed = c.failed from rfl]
    cases Bounds.uint64.fitNat? (c.failed + 1) <;> rfl
  | some route =>
    rw [show c.uncounted.routed = c.routed from rfl]
    cases Bounds.uint64.fitNat? (c.routed + 1) <;> rfl

variable [Random.Source σ]

/-- A city whose draws are counted draws the zones that it draws without counting. -/
lemma drawZones_uncounted (c : City (Random.Counted σ)) (two : 2 ≤ c.zones.size) :
    drawZones c.uncounted two = ((c.drawZones two).1, (c.drawZones two).2.source) := by
  unfold drawZones
  simp only [uncounted, Random.distinctPair_counted]

/-- A city whose draws are counted makes the journey that it makes without counting. -/
lemma journey?_uncounted (c : City (Random.Counted σ)) (two : 2 ≤ c.zones.size) :
    journey? c.uncounted two =
      (c.journey? two).map fun tick => ⟨tick.city.uncounted, tick.route⟩ := by
  unfold journey?
  rw [drawZones_uncounted]
  simp only [Option.bind_eq_bind, Option.map_bind]
  refine congrArg (Option.bind _) (funext fun route => ?_)
  rw [Function.comp, travel?_uncounted]
  cases c.travel? route (c.drawZones two).2 <;> rfl

/-- A city whose draws are counted has the tick that it has without counting. -/
lemma tick?_uncounted (c : City (Random.Counted σ)) :
    c.uncounted.tick? = c.tick?.map fun tick => ⟨tick.city.uncounted, tick.route⟩ := by
  rw [tick?_eq, tick?_eq, decayed?_uncounted]
  cases c.decayed? with
  | none => rfl
  | some c =>
    by_cases two : 2 ≤ c.zones.size
    · have two' : 2 ≤ c.uncounted.zones.size := two
      simp only [Option.map_some, Option.bind_some, dif_pos two, dif_pos two']
      exact c.journey?_uncounted two
    · have few : ¬2 ≤ c.uncounted.zones.size := two
      simp only [Option.map_some, Option.bind_some, dif_neg two, dif_neg few]

/-- A city whose draws are counted runs as it does without counting. -/
lemma run?_uncounted (n : Nat) (c : City (Random.Counted σ)) :
    c.uncounted.run? n = (c.run? n).map uncounted := by
  induction n generalizing c with
  | zero => rfl
  | succ n ih =>
    unfold run?
    rw [tick?_uncounted]
    cases c.tick? with
    | none => rfl
    | some tick => exact ih tick.city

/-- The number of words that the first `n` ticks draw. -/
def drawn? (n : Nat) (c : City σ) : Option Nat := (run? n c.counted).map (·.source.drawn)

end City

/-- Two words a trip. -/
example : Town.city.drawn? 3 = some 6 := by decide +kernel

end Cityscape
