/-!
# Integer bounds

Coordinates, sizes and clocks are integers between fixed bounds. A result is computed exactly and
then either refused when it leaves its bounds (`fit?`), moved to the nearest bound (`clamp`), or
reduced modulo the number of values (`wrap`). Each of the three keeps a value that is already
within the bounds.
-/

namespace Cityscape

/-- An interval of integers, both ends included. -/
structure Bounds where
  lo : Int
  hi : Int
deriving Repr, DecidableEq

namespace Bounds

/-- Grid coordinates and distances in standard units. -/
def int32 : Bounds := ⟨-2147483648, 2147483647⟩

/-- Positions on a canvas. -/
def int64 : Bounds := ⟨-9223372036854775808, 9223372036854775807⟩

/-- Tile codes. -/
def uint16 : Bounds := ⟨0, 65535⟩

/-- Lengths, in cells, units or pixels. -/
def uint32 : Bounds := ⟨0, 4294967295⟩

/-- Clock ticks and counts of events. -/
def uint64 : Bounds := ⟨0, 18446744073709551615⟩

/-- Whether `v` lies between the bounds. -/
def Holds (b : Bounds) (v : Int) : Prop := b.lo ≤ v ∧ v ≤ b.hi

instance (b : Bounds) (v : Int) : Decidable (b.Holds v) := inferInstanceAs (Decidable (_ ∧ _))

/-- The value itself when it lies between the bounds. -/
def fit? (b : Bounds) (v : Int) : Option Int := if b.Holds v then some v else none

/-- `fit?` for a quantity that cannot be negative. -/
def fitNat? (b : Bounds) (n : Nat) : Option Nat := if b.Holds n then some n else none

/-- The value of the interval nearest to `v`. -/
def clamp (b : Bounds) (v : Int) : Int := max b.lo (min b.hi v)

/-- `clamp` for a quantity that cannot be negative. -/
def clampNat (b : Bounds) (n : Nat) : Nat := min n b.hi.toNat

/-- The value of the interval that differs from `v` by a multiple of the interval's length. -/
def wrap (b : Bounds) (v : Int) : Int := b.lo + (v - b.lo) % (b.hi - b.lo + 1)

/-- What fits is a value within the bounds, and it stays as it is. -/
theorem fit?_eq_some_iff {b : Bounds} {v w : Int} : b.fit? v = some w ↔ b.Holds v ∧ w = v := by
  unfold fit?
  split <;> simp_all [eq_comm]

/-- What does not fit is a value outside the bounds. -/
theorem fit?_eq_none_iff {b : Bounds} {v : Int} : b.fit? v = none ↔ ¬b.Holds v := by
  unfold fit?
  split <;> simp_all

/-- A natural number that fits is one within the bounds, and it stays as it is. -/
theorem fitNat?_eq_some_iff {b : Bounds} {n m : Nat} :
    b.fitNat? n = some m ↔ b.Holds n ∧ m = n := by
  unfold fitNat?
  split <;> simp_all [eq_comm]

/-- A natural number does not fit if it is outside the bounds. -/
theorem fitNat?_eq_none_iff {b : Bounds} {n : Nat} : b.fitNat? n = none ↔ ¬b.Holds n := by
  unfold fitNat?
  split <;> simp_all

/-- A value within the bounds fits. -/
theorem fit?_of_holds {b : Bounds} {v : Int} (h : b.Holds v) : b.fit? v = some v :=
  fit?_eq_some_iff.2 ⟨h, rfl⟩

/-- A natural number within the bounds fits. -/
theorem fitNat?_of_holds {b : Bounds} {n : Nat} (h : b.Holds n) : b.fitNat? n = some n :=
  fitNat?_eq_some_iff.2 ⟨h, rfl⟩

/-- A value within the bounds is not clamped. -/
theorem clamp_of_holds {b : Bounds} {v : Int} (h : b.Holds v) : b.clamp v = v := by
  obtain ⟨lo, hi⟩ := h
  simp only [clamp]
  omega

/-- A clamped value is within the bounds, if any value is. -/
theorem holds_clamp {b : Bounds} (v : Int) (h : b.lo ≤ b.hi) : b.Holds (b.clamp v) := by
  simp only [Holds, clamp]
  omega

/-- A value within the bounds does not wrap around. -/
theorem wrap_of_holds {b : Bounds} {v : Int} (h : b.Holds v) : b.wrap v = v := by
  obtain ⟨lo, hi⟩ := h
  rw [wrap, Int.emod_eq_of_lt (by omega) (by omega)]
  omega

end Bounds

end Cityscape
