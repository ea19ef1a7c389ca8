import Cityscape.Proofs.City.Tick

/-!
# The draws of a tick

A pair of zones is drawn as two numbers, one below the number of zones and one below that number less
one (`Random.twoDraws`). The pairs of draws and the ordered pairs of different zones belong together
one to one (`Random.existsUnique_pairOf`), so no pair of zones is preferred over another by the way in
which it is put together.

What a tick does with its draws is `City.Travels`: the trip that it makes goes between the two zones
at the numbers drawn, and the source goes on behind the draws. Every tick that comes to an end is of
this kind (`City.ticks_of_tick?`).
-/

namespace Cityscape

namespace Random

variable {n : Nat}

/-- The ordered pair that two draws stand for. -/
def pairOf (draws : Fin n × Fin (n - 1)) : Fin n × Fin n :=
  (draws.1, otherThan draws.1 draws.2)

/-- Of two numbers or more, one can be drawn. -/
lemma pos_of_two_le (two : 2 ≤ n) : 0 < n := Nat.zero_lt_of_lt two

/-- Of two numbers or more, another one can be drawn. -/
lemma pred_pos_of_two_le (two : 2 ≤ n) : 0 < n - 1 := Nat.sub_pos_of_lt two

/-- A number below `n` and then one below `n - 1`, and the source behind them. -/
def twoDraws {σ : Type} [Source σ] (n : Nat) (two : 2 ≤ n) (s : σ) :
    (Fin n × Fin (n - 1)) × σ :=
  let first := below n (pos_of_two_le two) s
  let second := below (n - 1) (pred_pos_of_two_le two) first.2
  ((first.1, second.1), second.2)

/-- A pair of different numbers is what two draws stand for. -/
lemma distinctPair_eq {σ : Type} [Source σ] (two : 2 ≤ n) (s : σ) :
    distinctPair n two s = (pairOf (twoDraws n two s).1, (twoDraws n two s).2) := rfl

/-- The two numbers of a pair are different, whatever is drawn. -/
lemma pairOf_ne (draws : Fin n × Fin (n - 1)) : (pairOf draws).1 ≠ (pairOf draws).2 := by
  unfold pairOf otherThan
  split <;> simp only [ne_eq, Fin.ext_iff] <;> omega

/-- Different draws stand for different pairs. -/
lemma pairOf_injective : Function.Injective (@pairOf n) := by
  rintro ⟨a, b⟩ ⟨c, d⟩ e
  obtain rfl : a = c := congrArg Prod.fst e
  have second : (otherThan a b).val = (otherThan a d).val := congrArg (fun p => p.2.val) e
  refine Prod.ext rfl (Fin.ext ?_)
  unfold otherThan at second
  split at second <;> split at second <;> simp only at second ⊢ <;> omega

/-- Every ordered pair of different numbers comes from two draws in one way. -/
lemma existsUnique_pairOf {i j : Fin n} (h : i ≠ j) : ∃! draws, pairOf draws = (i, j) := by
  have drawn : ∃ draws, pairOf draws = (i, j) := by
    rcases Nat.lt_or_gt_of_ne fun e => h (Fin.ext e) with above | below
    · refine ⟨(i, ⟨j - 1, by omega⟩), Prod.ext rfl (Fin.ext ?_)⟩
      have past : i.val ≤ j.val - 1 := by omega
      simp only [pairOf, otherThan, if_pos past]
      omega
    · refine ⟨(i, ⟨j, by omega⟩), Prod.ext rfl (Fin.ext ?_)⟩
      have before : ¬i.val ≤ j.val := by omega
      simp only [pairOf, otherThan, if_neg before]
  obtain ⟨draws, hd⟩ := drawn
  exact ⟨draws, hd, fun other ho => pairOf_injective (ho.trans hd.symm)⟩

end Random

namespace City

variable {σ : Type}

/-- The decay changes neither the zones nor the source, nor what a trip adds. -/
lemma kept_of_decayed? {c d : City σ} (h : c.decayed? = some d) :
    d.zones = c.zones ∧ d.source = c.source ∧ d.tripDelta = c.tripDelta := by
  unfold decayed? at h
  obtain ⟨time, -, same⟩ := Option.bind_eq_some_iff.1 h
  obtain rfl := Option.some.inj same
  exact ⟨rfl, rfl, rfl⟩

variable [Random.Source σ] {c : City σ} {tick : Tick σ}

/-- The numbers of the zones that the next trip goes between, by the next two draws. -/
def ends (c : City σ) (two : 2 ≤ c.zones.size) : Fin c.zones.size × Fin c.zones.size :=
  Random.pairOf (Random.twoDraws c.zones.size two c.source).1

/-- The zones of the next trip are those at the numbers drawn. -/
lemma drawZones_eq (c : City σ) (two : 2 ≤ c.zones.size) :
    (c.drawZones two).1 = (c.zones[(c.ends two).1], c.zones[(c.ends two).2]) := rfl

/-- What a tick does after the decay if there are two zones or more. Two draws stand for the numbers
of two different zones, there is a trip between these zones, and the city afterwards is the one after
this trip, with its source behind the draws. -/
structure Travels (c : City σ) (two : 2 ≤ c.zones.size) (tick : Tick σ) : Prop where
  apart : (c.ends two).1 ≠ (c.ends two).2
  trip : ∃ trip,
    c.traffic.trip? c.zones[(c.ends two).1] c.zones[(c.ends two).2] c.tripDelta = some trip ∧
    c.afterTrip? trip (Random.twoDraws c.zones.size two c.source).2 = some tick.city ∧
    tick.route = trip.route

/-- What a tick does. The traffic of the city decays, while its zones, its source and what a trip adds
stay the same; then it makes a trip if it has two zones or more, and nothing happens otherwise. -/
structure Ticks (c : City σ) (tick : Tick σ) (decayed : City σ) : Prop where
  decay : c.decayed? = some decayed
  zones : decayed.zones = c.zones
  source : decayed.source = c.source
  tripDelta : decayed.tripDelta = c.tripDelta
  travels : ∀ two, decayed.Travels two tick
  idles : decayed.zones.size < 2 → tick = ⟨decayed, none⟩

/-- A tick that comes to an end does just what a tick does. -/
lemma ticks_of_tick? (h : c.tick? = some tick) : ∃ decayed, c.Ticks tick decayed := by
  unfold tick? at h
  obtain ⟨decayed, decay, h⟩ := Option.bind_eq_some_iff.1 h
  obtain ⟨zones, source, tripDelta⟩ := kept_of_decayed? decay
  refine ⟨decayed, decay, zones, source, tripDelta, fun two => ?_, fun few => ?_⟩
  · rw [dif_pos two, Random.distinctPair_eq] at h
    obtain ⟨trip, went, h⟩ := Option.bind_eq_some_iff.1 h
    obtain ⟨after, counted, same⟩ := Option.bind_eq_some_iff.1 h
    obtain rfl := Option.some.inj same
    exact ⟨Random.pairOf_ne _, trip, went, counted, rfl⟩
  · rw [dif_neg (Nat.not_le.2 few)] at h
    exact (Option.some.inj h).symm

/-- A run begins with a tick. -/
lemma run?_succ (n : Nat) (c : City σ) :
    c.run? (n + 1) = c.tick?.bind fun tick => tick.city.run? n := by
  rw [run?, Option.bind_eq_bind]

/-- A run of no ticks leads nowhere. -/
lemma run?_zero (c : City σ) : c.run? 0 = some c := by
  rw [run?]

/-- A run ends with a tick. -/
lemma run?_concat (n : Nat) (c : City σ) :
    c.run? (n + 1) = (c.run? n).bind fun b => b.tick?.map Tick.city := by
  induction n generalizing c with
  | zero =>
    rw [run?_succ, run?_zero, Option.bind_some, Option.map_eq_bind]
    simp only [run?_zero, Function.comp_def]
  | succ n ih =>
    rw [run?_succ (n + 1), run?_succ n, Option.bind_assoc]
    exact congrArg (Option.bind _) (funext fun tick => ih tick.city)

end City

end Cityscape
