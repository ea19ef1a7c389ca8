/-!
# Sources of random words

A source yields 32-bit words one at a time. Random choices are functions of the words alone, so
two runs over the same words make the same choices.
-/

namespace Cityscape.Random

/-- A state that yields words. -/
class Source (σ : Type) where
  next : σ → UInt32 × σ

variable {σ : Type} [Source σ]

/-- A number below `n`: the high word of `n` times a random word. Where the low word shows that
the choice could be biased, a second word refines the product. -/
def below (n : Nat) (pos : 0 < n) (s : σ) : Fin n × σ :=
  let (word, s) := Source.next s
  let product := word.toNat * n
  have bound : product + n ≤ 4294967296 * n := by
    have : word.toNat + 1 ≤ 4294967296 := word.toNat_lt
    calc product + n = (word.toNat + 1) * n := by rw [Nat.succ_mul]
      _ ≤ 4294967296 * n := Nat.mul_le_mul_right n this
  if 4294967296 - n < product % 4294967296 then
    let (second, s) := Source.next s
    have carry : second.toNat * n / 4294967296 < n := by
      have : second.toNat < 4294967296 := second.toNat_lt
      rw [Nat.div_lt_iff_lt_mul (by decide), Nat.mul_comm n]
      exact (Nat.mul_lt_mul_right pos).2 this
    (⟨(product + second.toNat * n / 4294967296) / 4294967296, by
      rw [Nat.div_lt_iff_lt_mul (by decide)]
      omega⟩, s)
  else
    (⟨product / 4294967296, by rw [Nat.div_lt_iff_lt_mul (by decide)]; omega⟩, s)

/-- A 64-bit word, its low half drawn first. -/
def wide (s : σ) : Nat × σ :=
  let (low, s) := Source.next s
  let (high, s) := Source.next s
  (4294967296 * high.toNat + low.toNat, s)

/-- An event that happens for `threshold` of the 2^64 values of a wide word. -/
def chance (threshold : Nat) (s : σ) : Bool × σ :=
  let (word, s) := wide s
  (decide (word < threshold), s)

/-- The number below `n` other than `first` that one below `n - 1` stands for: those from `first`
on are moved up past it. -/
def otherThan {n : Nat} (first : Fin n) (second : Fin (n - 1)) : Fin n :=
  if first.val ≤ second.val then ⟨second.val + 1, by omega⟩ else ⟨second.val, by omega⟩

/-- An ordered pair of different numbers below `n`, drawn one after the other. -/
def distinctPair (n : Nat) (two : 2 ≤ n) (s : σ) : (Fin n × Fin n) × σ :=
  let (first, s) := below n (by omega) s
  let (second, s) := below (n - 1) (by omega) s
  ((first, otherThan first second), s)

end Cityscape.Random
