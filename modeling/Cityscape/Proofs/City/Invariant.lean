import Cityscape.Proofs.City.Draws
import Cityscape.Proofs.Traffic.Access

/-!
# The run of a city

Every run of a city that starts without traffic comes to an end, and keeps its books
(`run_keeps_books`): the clock counts the ticks and the two counters the trips, tiles and zones
stay as they are, and traffic is found on roads only, within the limit of the densities. The
invariant is `City.After`; each part of a tick keeps it, as long as the counters have room. What
a tick of the run does with the words that it draws is `City.Ticks`.
-/

namespace Cityscape

/-- A computation that succeeds with a property, followed by ones that succeed from there on. -/
lemma exists_bind_and {α β : Type} {x : Option α} {f : α → Option β} {P : α → Prop} {Q : β → Prop}
    (hx : ∃ a, x = some a ∧ P a) (hf : ∀ a, P a → ∃ b, f a = some b ∧ Q b) :
    ∃ b, x.bind f = some b ∧ Q b := by
  obtain ⟨a, rfl, ha⟩ := hx
  exact hf a ha

namespace Grid

/-- Traffic is on roads only, and within the limit of the densities. -/
def Orderly (g : Grid) : Prop :=
  ∀ c n, g.density? c = some n → n ≤ densityLimit ∧ (n ≠ 0 → g.isRoutable c = true)

namespace Orderly

variable {g : Grid}

/-- A decay keeps a grid orderly. -/
lemma decay (h : Orderly g) (amount : Nat) : Orderly (g.decay amount) := by
  intro c n hn
  rw [density?_decay] at hn
  obtain ⟨m, hm, rfl⟩ := Option.map_eq_some_iff.1 hn
  obtain ⟨limit, routable⟩ := h c m hm
  refine ⟨by omega, fun some => ?_⟩
  rw [← (SameTiles.decay g amount).layout.isRoutable]
  exact routable (by omega)

/-- Traffic added to a road keeps a grid orderly. -/
lemma addTraffic (h : Orderly g) {c : Cell} (routable : g.isRoutable c = true) (delta : Int) :
    Orderly (g.addTraffic c delta) := by
  intro d n hn
  rw [density?_addTraffic] at hn
  rw [← (SameTiles.addTraffic g c delta).layout.isRoutable]
  split at hn
  · rename_i same
    obtain ⟨m, -, rfl⟩ := Option.map_eq_some_iff.1 hn
    exact ⟨Nat.min_le_left _ _, fun _ => same ▸ routable⟩
  · exact h d n hn

/-- A trip over roads keeps a grid orderly. -/
lemma travelled {t : Traffic} (h : Orderly t.grid) (delta : Int) {route : Option Route}
    (routable : ∀ r ∈ route, ∀ c ∈ r.path, t.grid.isRoutable c = true) :
    Orderly (t.travelled delta route).grid := by
  have loads := @Traffic.travelled_induction
    (fun u => t.grid.SameTiles u.grid ∧ u.grid.Orderly) t delta route ⟨.refl _, h⟩
    fun u r hr c hc ⟨same, held⟩ => by
      have routable : u.grid.isRoutable c = true := same.layout.isRoutable c ▸ routable r hr c hc
      exact ⟨same.trans (.addTraffic u.grid c delta), held.addTraffic routable delta⟩
  exact loads.2

end Orderly

end Grid

namespace City

variable {σ : Type}

/-- A city that is not too large, before its first tick and without traffic. -/
structure Fresh (c : City σ) : Prop where
  cells : c.grid.cellCount < 2 ^ 31
  width : c.grid.width < 2 ^ 30
  height : c.grid.height < 2 ^ 30
  zones : ∀ z ∈ c.zones, c.grid.Contains z
  clear : ∀ cell n, c.grid.density? cell = some n → n = 0
  time : c.time = 0
  routed : c.routed = 0
  failed : c.failed = 0

/-- The number of trips in a number of ticks. -/
def tripsIn (c : City σ) (ticks : Nat) : Nat := if 2 ≤ c.zones.size then ticks else 0

/-- What a city has become after a number of ticks, with a number of trips. -/
structure After (start : City σ) (ticks trips : Nat) (c : City σ) : Prop where
  time : c.time = ticks
  trips : c.routed + c.failed = trips
  zones : c.zones = start.zones
  tiles : start.grid.SameTiles c.grid
  orderly : c.grid.Orderly

/-- A fresh city is one after no ticks. -/
lemma Fresh.after {c : City σ} (fresh : Fresh c) : After c 0 (c.tripsIn 0) c where
  time := fresh.time
  trips := by
    rw [fresh.routed, fresh.failed, tripsIn, ite_self]
  zones := rfl
  tiles := .refl _
  orderly cell n hn := by
    obtain rfl := fresh.clear cell n hn
    exact ⟨Nat.zero_le _, fun some => absurd rfl some⟩

namespace After

variable {start c : City σ} {ticks trips : Nat}

/-- Where the clock has room for one more tick, the traffic decays. -/
lemma decayed? (h : After start ticks trips c) (room : ticks + 1 < 2 ^ 64) :
    ∃ b, c.decayed? = some b ∧ After start (ticks + 1) trips b := by
  have fits : Bounds.uint64.Holds (c.time + 1 : Nat) := by
    rw [h.time]
    simp only [Bounds.Holds, Bounds.uint64]
    omega
  unfold City.decayed?
  rw [Bounds.fitNat?_of_holds fits]
  exact ⟨_, rfl, congrArg (· + 1) h.time, h.trips, h.zones,
    h.tiles.trans (.decay c.grid decayPerTick), h.orderly.decay decayPerTick⟩

/-- Where there is room to count one more trip, a trip over roads is recorded. -/
lemma travel? (h : After start ticks trips c) (room : trips + 1 < 2 ^ 64) {route : Option Route}
    (routable : ∀ r ∈ route, ∀ x ∈ r.path, c.grid.isRoutable x = true) (source : σ) :
    ∃ b, c.travel? route source = some b ∧ After start ticks (trips + 1) b := by
  have counted := h.trips
  have fits (n : Nat) (hn : n ≤ trips) : Bounds.uint64.Holds (n + 1 : Nat) := by
    simp only [Bounds.Holds, Bounds.uint64]
    omega
  have tiles := h.tiles.trans (Traffic.sameTiles_travelled c.traffic c.tripDelta route)
  have orderly := h.orderly.travelled c.tripDelta routable
  unfold City.travel? afterTrip?
  cases route with
  | none =>
    dsimp only
    rw [Bounds.fitNat?_of_holds (fits c.failed (by omega))]
    refine ⟨_, rfl, h.time, ?_, h.zones, tiles, orderly⟩
    dsimp only
    omega
  | some r =>
    dsimp only
    rw [Bounds.fitNat?_of_holds (fits c.routed (by omega))]
    refine ⟨_, rfl, h.time, ?_, h.zones, tiles, orderly⟩
    dsimp only
    omega

variable [Random.Source σ]

/-- Where there is room to count one more trip, a city with two zones or more makes a journey. -/
lemma journey? (fresh : Fresh start) (h : After start ticks trips c) (room : trips + 1 < 2 ^ 64)
    (two : 2 ≤ c.zones.size) :
    ∃ tick, c.journey? two = some tick ∧ After start ticks (trips + 1) tick.city := by
  have inside (i : Fin c.zones.size) : c.grid.Contains c.zones[i] := by
    have mem : c.zones[i] ∈ start.zones := h.zones ▸ Array.getElem_mem i.isLt
    exact h.tiles.contains (fresh.zones _ mem)
  have width : c.grid.width < 2 ^ 30 := h.tiles.layout.width ▸ fresh.width
  have height : c.grid.height < 2 ^ 30 := h.tiles.layout.height ▸ fresh.height
  have space (i : Fin c.zones.size) : c.traffic.HasRoom c.zones[i] :=
    Traffic.hasRoom_of_contains (inside i) width height
  obtain ⟨route, found⟩ := Traffic.itinerary?_isSome_iff.2
    ⟨space (c.ends two).1, space (c.ends two).2⟩
  have routable : ∀ r ∈ route, ∀ x ∈ r.path, c.grid.isRoutable x = true := by
    rintro r rfl x hx
    exact Traffic.isRoutable_of_mem_itinerary found hx
  unfold City.journey?
  simp only [c.drawZones_eq two, found, Option.bind_eq_bind, Option.bind_some]
  exact exists_bind_and (h.travel? room routable _) fun b hb => ⟨_, rfl, hb⟩

/-- One tick keeps the books, as long as the clock has room. -/
lemma tick? (fresh : Fresh start) (h : After start ticks (start.tripsIn ticks) c)
    (room : ticks + 1 < 2 ^ 64) :
    ∃ tick, c.tick? = some tick ∧
      After start (ticks + 1) (start.tripsIn (ticks + 1)) tick.city := by
  rw [tick?_eq]
  refine exists_bind_and (h.decayed? room) fun b hb => ?_
  unfold tripsIn at hb ⊢
  rw [← hb.zones] at hb ⊢
  by_cases two : 2 ≤ b.zones.size
  · rw [if_pos two] at hb ⊢
    rw [dif_pos two]
    exact hb.journey? fresh room two
  · rw [if_neg two] at hb ⊢
    rw [dif_neg two]
    exact ⟨_, rfl, hb⟩

/-- Where the clock has room for more ticks, a city runs on for as many. -/
lemma run? (fresh : Fresh start) (n : Nat) (room : ticks + n < 2 ^ 64)
    (h : After start ticks (start.tripsIn ticks) c) :
    ∃ b, c.run? n = some b ∧ After start (ticks + n) (start.tripsIn (ticks + n)) b := by
  induction n generalizing c ticks with
  | zero => exact ⟨c, rfl, h⟩
  | succ n ih =>
    unfold City.run?
    refine exists_bind_and (h.tick? fresh (by omega)) fun tick next => ?_
    rw [← Nat.add_assoc, Nat.add_right_comm]
    exact ih (by omega) next

end After

/-- A run from a fresh city never fails and keeps its books: clock and counters, zones and tiles,
and traffic within its limit and on roads only. All costs of its searches fit their bounds. Each of
its ticks is a decay and, if there are two zones or more, a trip between the two different zones that
the next two draws stand for; and each ordered pair of zones comes from one pair of draws. -/
theorem run_keeps_books [Random.Source σ] {c : City σ} (fresh : Fresh c) {n : Nat}
    (room : n < 2 ^ 64) :
    (∃ b, c.run? n = some b ∧ After c n (c.tripsIn n) b ∧ Route.CostsFit b.grid) ∧
      (∀ m < n, ∃ b tick decayed, c.run? m = some b ∧ After c m (c.tripsIn m) b ∧
        b.tick? = some tick ∧ c.run? (m + 1) = some tick.city ∧ b.Ticks tick decayed) ∧
      ∀ i j : Fin c.zones.size, i ≠ j → ∃! draws, Random.pairOf draws = (i, j) := by
  have books (m : Nat) (le : m ≤ n) : ∃ b, c.run? m = some b ∧ After c m (c.tripsIn m) b := by
    have run := fresh.after.run? fresh m (by omega)
    rwa [Nat.zero_add] at run
  refine ⟨?_, fun m lt => ?_, fun _ _ => Random.existsUnique_pairOf⟩
  · obtain ⟨b, run, after⟩ := books n (Nat.le_refl n)
    have cells : b.grid.cellCount < 2 ^ 31 := by
      rw [Grid.cellCount, ← after.tiles.layout.width, ← after.tiles.layout.height]
      exact fresh.cells
    exact ⟨b, run, after, Route.costsFit cells⟩
  · obtain ⟨b, run, after⟩ := books m (Nat.le_of_lt lt)
    obtain ⟨tick, next, -⟩ := after.tick? fresh (by omega)
    obtain ⟨decayed, ticks⟩ := ticks_of_tick? next
    refine ⟨b, tick, decayed, run, after, next, ?_, ticks⟩
    rw [run?_concat, run, Option.bind_some, next, Option.map_some]

end City

/-- The town is a fresh city. -/
lemma Town.fresh : city.Fresh where
  cells := by decide
  width := by decide
  height := by decide
  zones := by decide +kernel
  clear cell n h := by
    obtain ⟨i, -, rfl⟩ := Option.map_eq_some_iff.1 h
    exact Vector.getElem_replicate _
  time := rfl
  routed := rfl
  failed := rfl

/-- Five ticks of the town bring traffic to its limit. The draws of the first of them are both zero, so
its trip goes from the first zone to the second. -/
theorem run_keeps_books_town :
    Town.city.Fresh ∧
      (∃ b, Town.city.run? 5 = some b ∧ City.After Town.city 5 5 b ∧ Route.CostsFit b.grid) ∧
      (Town.city.run? 5).map (fun b => (b.routed, b.failed, b.grid.density? ⟨3, 0⟩)) =
        some (5, 0, some 240) ∧
      (∃ tick decayed, Town.city.tick? = some tick ∧ Town.city.Ticks tick decayed) ∧
      Town.city.ends (by decide) = (⟨0, by decide⟩, ⟨1, by decide⟩) := by
  obtain ⟨books, ticks, -⟩ := City.run_keeps_books Town.fresh (n := 5) (by decide)
  refine ⟨Town.fresh, books, by decide +kernel, ?_, by decide +kernel⟩
  obtain ⟨b, tick, decayed, run, -, next, -, all⟩ := ticks 0 (by decide)
  rw [City.run?_zero] at run
  obtain rfl := Option.some.inj run
  exact ⟨tick, decayed, next, all⟩

end Cityscape
