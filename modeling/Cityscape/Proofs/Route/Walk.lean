import Cityscape.Proofs.Grid
import Cityscape.Route.Search
import Mathlib.Data.List.Chain
import Mathlib.Data.List.Induction

/-!
# Walks over a grid

A route is compared with all walks between its ends (`IsWalk`). For an induction over the steps of a
walk there is `Reaches`, which counts them and says where they lead (`IsWalk.reaches`). No walk is
shorter than the distance between its ends (`Reaches.distance_le`), and on a grid the usual guess
for the remaining cost changes by one at most from cell to cell (`consistent_guess`).
-/

namespace Cityscape

open Bounds (int32 uint32)

namespace Cell

variable {c d : Cell}

/-- Two cells share an edge. -/
def Adjacent (c d : Cell) : Prop :=
  (c.x.toInt - d.x.toInt).natAbs + (c.y.toInt - d.y.toInt).natAbs = 1

instance (c d : Cell) : Decidable (c.Adjacent d) := inferInstanceAs (Decidable (_ = _))

/-- A step within the bounds of the coordinates is not cut off. -/
lemma eq_offset {dx dy : Int} (x : d.x.toInt = c.x.toInt + dx) (y : d.y.toInt = c.y.toInt + dy) :
    d = c.offset dx dy := by
  refine ext_toInt ?_ ?_
  · rw [toInt_x_offset, ← x, Bounds.clamp_of_holds (holds_toInt d.x)]
  · rw [toInt_y_offset, ← y, Bounds.clamp_of_holds (holds_toInt d.y)]

/-- Cells that share an edge with a cell are among its neighbours. -/
lemma Adjacent.mem_neighbours (h : c.Adjacent d) : d ∈ c.neighbours := by
  simp only [neighbours, List.mem_cons, List.not_mem_nil, or_false]
  have sides : (d.x.toInt = c.x.toInt + 0 ∧ d.y.toInt = c.y.toInt + -1) ∨
      (d.x.toInt = c.x.toInt + 1 ∧ d.y.toInt = c.y.toInt + 0) ∨
      (d.x.toInt = c.x.toInt + 0 ∧ d.y.toInt = c.y.toInt + 1) ∨
      (d.x.toInt = c.x.toInt + -1 ∧ d.y.toInt = c.y.toInt + 0) := by
    simp only [Adjacent] at h
    omega
  rcases sides with ⟨x, y⟩ | ⟨x, y⟩ | ⟨x, y⟩ | ⟨x, y⟩
  · exact .inl (eq_offset x y)
  · exact .inr (.inl (eq_offset x y))
  · exact .inr (.inr (.inl (eq_offset x y)))
  · exact .inr (.inr (.inr (eq_offset x y)))

/-- A step that is cut off at the bounds of the coordinates leads nowhere. -/
lemma offset_cases {dx dy : Int} (one : dx.natAbs + dy.natAbs = 1) :
    c.offset dx dy = c ∨ c.Adjacent (c.offset dx dy) := by
  have x := holds_toInt c.x
  have y := holds_toInt c.y
  by_cases cut : int32.Holds (c.x.toInt + dx) ∧ int32.Holds (c.y.toInt + dy)
  · refine .inr ?_
    rw [Adjacent, toInt_x_offset, toInt_y_offset, Bounds.clamp_of_holds cut.1,
      Bounds.clamp_of_holds cut.2]
    omega
  · refine .inl (ext_toInt ?_ ?_)
    · rw [toInt_x_offset]
      simp only [Bounds.clamp, Bounds.Holds, int32] at *
      omega
    · rw [toInt_y_offset]
      simp only [Bounds.clamp, Bounds.Holds, int32] at *
      omega

/-- A neighbour shares an edge with the cell, or is the cell itself at the bounds of the
coordinates. -/
lemma eq_or_adjacent_of_mem_neighbours (h : d ∈ c.neighbours) : d = c ∨ c.Adjacent d := by
  simp only [neighbours, List.mem_cons, List.not_mem_nil, or_false] at h
  rcases h with rfl | rfl | rfl | rfl <;> exact offset_cases rfl

/-- The number of orthogonal steps between two cells, whatever its bounds. -/
def gap (c d : Cell) : Nat := (c.x.toInt - d.x.toInt).natAbs + (c.y.toInt - d.y.toInt).natAbs

/-- The distance of two cells is at most the gap between them, since it is cut off at the largest
length. -/
lemma distance_le_gap : c.distance d ≤ c.gap d := Nat.min_le_left _ _

/-- A cell has no gap to itself. -/
lemma gap_self (c : Cell) : c.gap c = 0 := by simp [gap]

/-- One step makes the gap from a fixed cell larger by one at most. -/
lemma Adjacent.gap_le (h : c.Adjacent d) (e : Cell) : e.gap d ≤ e.gap c + 1 := by
  simp only [Adjacent] at h
  simp only [gap]
  omega

/-- One step makes the gap to a fixed cell smaller by one at most. -/
lemma Adjacent.gap_le_left (h : c.Adjacent d) (e : Cell) : c.gap e ≤ d.gap e + 1 := by
  simp only [Adjacent] at h
  simp only [gap]
  omega

end Cell

namespace Route

variable {g : Grid} {start goal c d : Cell} {n : Nat} {path : List Cell}

/-- A walk between two cells: from each cell to one that shares an edge with it, and after the first
one over routable cells of the grid. -/
structure IsWalk (g : Grid) (start goal : Cell) (path : List Cell) : Prop where
  first : path.head? = some start
  last : path.getLast? = some goal
  steps : path.IsChain Cell.Adjacent
  onward : ∀ c ∈ path.tail, g.Contains c ∧ g.isRoutable c = true

/-- Some walk of `n` steps leads from `start` to a cell. -/
inductive Reaches (g : Grid) (start : Cell) : Cell → Nat → Prop where
  | here : Reaches g start start 0
  | step {c d : Cell} {n : Nat} (before : Reaches g start c n) (next : c.Adjacent d)
      (routable : g.isRoutable d = true) : Reaches g start d (n + 1)

/-- A single cell is a walk from it to itself. -/
lemma IsWalk.single (g : Grid) (start : Cell) : IsWalk g start start [start] where
  first := rfl
  last := rfl
  steps := .singleton start
  onward _ hc := nomatch hc

/-- A walk can go on to a routable cell beside its last one. -/
lemma IsWalk.concat (h : IsWalk g start c path) (next : c.Adjacent d)
    (routable : g.isRoutable d = true) : IsWalk g start d (path ++ [d]) where
  first := by rw [List.head?_append, h.first]; rfl
  last := List.getLast?_concat
  steps := by
    refine List.isChain_append.2 ⟨h.steps, .singleton d, fun b hb e he => ?_⟩
    obtain rfl := Option.some.inj (h.last.symm.trans hb)
    obtain rfl := Option.some.inj he
    exact next
  onward e he := by
    have some : path ≠ [] := by
      rintro rfl
      exact nomatch h.first
    rw [List.tail_append_of_ne_nil some] at he
    rcases List.mem_append.1 he with he | he
    · exact h.onward e he
    · obtain rfl := List.mem_singleton.1 he
      exact ⟨Grid.contains_of_isRoutable routable, routable⟩

/-- A walk reaches its last cell in one step less than it has cells. -/
lemma IsWalk.reaches (h : IsWalk g start goal path) : Reaches g start goal (path.length - 1) := by
  -- A walk is taken apart where `Reaches` ends, at its last step.
  induction path using List.reverseRecOn generalizing goal with
  | nil => exact nomatch h.first
  | append_singleton before d ih =>
    obtain rfl := Option.some.inj (List.getLast?_concat.symm.trans h.last)
    rw [List.length_append, List.length_singleton, Nat.add_sub_cancel]
    cases last : before.getLast? with
    | none =>
      obtain rfl := List.getLast?_eq_none_iff.1 last
      obtain rfl := Option.some.inj h.first
      exact .here
    | some c =>
      have some : before ≠ [] := by
        rintro rfl
        exact nomatch last
      obtain ⟨steps, -, next⟩ := List.isChain_append.1 h.steps
      have onward := h.onward
      rw [List.tail_append_of_ne_nil some] at onward
      have walk : IsWalk g start c before := by
        refine ⟨?_, last, steps, fun e he => onward e (List.mem_append_left _ he)⟩
        rw [← h.first, List.head?_append_of_ne_nil _ some]
      have routable := (onward d (List.mem_append_right _ (List.mem_singleton_self d))).2
      have rest := Reaches.step (ih walk) (next c last d rfl) routable
      rwa [Nat.sub_add_cancel (List.length_pos_of_ne_nil some)] at rest

namespace Reaches

/-- From a cell on the grid, only cells on the grid are reached. -/
lemma contains (h : Reaches g start c n) (inside : g.Contains start) : g.Contains c := by
  cases h with
  | here => exact inside
  | step _ _ routable => exact Grid.contains_of_isRoutable routable

/-- No cell is reached in fewer steps than its distance. -/
lemma distance_le (h : Reaches g start c n) : start.distance c ≤ n := by
  refine Nat.le_trans Cell.distance_le_gap ?_
  induction h with
  | here => exact Nat.le_of_eq (Cell.gap_self start)
  | step _ next _ ih => exact Nat.le_trans (next.gap_le start) (Nat.succ_le_succ ih)

end Reaches

/-- Guesses for the remaining cost that fall by one at most with every step over the grid, and leave
room for the cost of a walk. -/
structure Consistent (g : Grid) (remaining : Cell → Nat) : Prop where
  step : ∀ {c d : Cell}, g.Contains c → g.Contains d → c.Adjacent d → remaining c ≤ remaining d + 1
  fits : ∀ {c : Cell}, g.Contains c → uint32.Holds (g.cellCount + remaining c : Nat)

/-- Two cells of a grid are closer than the grid has cells. -/
lemma gap_lt_cellCount (hc : g.Contains c) (hd : g.Contains d) : c.gap d < g.cellCount := by
  obtain ⟨cx0, cy0, cxw, cyh⟩ := hc
  obtain ⟨dx0, dy0, dxw, dyh⟩ := hd
  obtain ⟨w, width⟩ : ∃ w, g.width = w + 1 := ⟨g.width - 1, by omega⟩
  obtain ⟨k, height⟩ : ∃ k, g.height = k + 1 := ⟨g.height - 1, by omega⟩
  have cells : g.cellCount = w * k + w + k + 1 := by
    rw [Grid.cellCount, width, height, Nat.succ_mul, Nat.mul_succ]
    omega
  simp only [Cell.gap]
  omega

/-- On a grid, nothing is cut off from a guess: it is the gap and one more. -/
lemma guess_eq (cells : g.cellCount < 2 ^ 31) (hc : g.Contains c) (hd : g.Contains d) :
    guess c d = c.gap d + 1 := by
  have near := gap_lt_cellCount hc hd
  simp only [guess, Cell.distance, Bounds.clampNat, uint32, Cell.gap] at *
  omega

/-- On a grid, the usual guess falls by one at most with every step, and leaves room for the cost of
a walk. -/
lemma consistent_guess (cells : g.cellCount < 2 ^ 31) (inside : g.Contains goal) :
    Consistent g (guess · goal) where
  step {c d} hc hd next := by
    have step := next.gap_le_left goal
    rw [guess_eq cells hc inside, guess_eq cells hd inside]
    omega
  fits {c} hc := by
    have near := gap_lt_cellCount hc inside
    rw [guess_eq cells hc inside]
    simp only [Bounds.Holds, uint32]
    omega

end Route

end Cityscape
