import Cityscape.Proofs.Route.Course
import Cityscape.Proofs.Route.Optimality

/-!
# Shortest routes

What a search answers is right: a route is one of the shortest walks between its ends
(`find_shortest`), and where the budget covers the grid, there is none only if there is no walk
(`find_complete`). Both are read off what every answer of a search settles (`find_settles`), by
induction on the iterations that lead to it.
-/

namespace Cityscape.Route

open Bounds (uint64)

variable {g : Grid} {remaining : Cell → Nat} {budget : Nat} {goal : Fin g.cellCount}

/-- A route is a walk between two cells that comes to no cell twice, and no walk between them has
fewer steps. -/
structure Shortest (g : Grid) (start goal : Cell) (r : Route) : Prop where
  walk : IsWalk g start goal r.path
  nodup : r.path.Nodup
  cost : r.path.length = r.cost + 1
  least : ∀ path, IsWalk g start goal path → r.cost + 1 ≤ path.length

/-- What an answer tells about the walks between two cells. That there is no route means something
only on the grid, and only if the budget covers all cells. -/
def Settles (g : Grid) (budget : Nat) (start goal : Cell) : Option Route → Prop
  | some r => r.Shortest g start goal
  | none => g.cellCount ≤ budget → g.Contains start → ¬∃ path, IsWalk g start goal path

/-- A walk has a first cell, so it is not empty. -/
lemma IsWalk.length_pos {start goal : Cell} {path : List Cell} (h : IsWalk g start goal path) :
    0 < path.length := by
  refine List.length_pos_of_ne_nil ?_
  rintro rfl
  exact nomatch h.first

/-- The shortest route from a cell to itself is to stay there. -/
lemma Shortest.single (g : Grid) (start : Cell) : (⟨0, [start]⟩ : Route).Shortest g start start where
  walk := .single g start
  nodup := List.nodup_singleton start
  cost := rfl
  least _ h := h.length_pos

/-- The invariant of a search makes its answer right, whatever the number of iterations. -/
lemma Ends.settles {start : Cell} (guided : Consistent g remaining) (cells : g.cellCount < 2 ^ 31)
    {s : Search g.cellCount} {answer : Option Route}
    (ends : Ends g remaining budget goal s answer) (sound : s.Sound g start)
    (optimal : s.Optimal g remaining start goal) :
    Settles g budget start (g.cellAt goal) answer := by
  induction ends with
  | exhausted nothing =>
    rintro _ _ ⟨path, walk⟩
    obtain ⟨w, hw, -⟩ := optimal.exists_waiting guided walk.reaches
      (Grid.index?_cellAt cells goal) optimal.onWay
    rw [nothing] at hw
    cases hw
  | stale waiting closed _ ih =>
    exact ih (sound.drop waiting) (optimal.drop waiting closed)
  | @arrived s first others walk waiting opened here recorded =>
    obtain ⟨known, least⟩ := optimal.first_least guided cells waiting opened
    have traced := optimal.toTraced.taken first others
    rw [here] at known least
    obtain ⟨isWalk, length, nodup, -⟩ :=
      traced.walk cells recorded ((s.cost_taken first others goal).trans known)
    refine ⟨isWalk, nodup, length, fun path other => ?_⟩
    have le := least _ other.reaches
    have pos := other.length_pos
    dsimp only
    omega
  | spent waiting opened _ _ spent =>
    intro enough _ _
    have lt := sound.expanded_lt waiting opened
    omega
  | @expanded s first others _ waiting opened onWay _ _ _ _ ih =>
    have lt := sound.expanded_lt waiting opened
    have cost := sound.cost first (waiting ▸ List.mem_cons_self)
    exact ih (sound.expand waiting opened)
      (optimal.expand guided cells waiting opened onWay (by omega))

/-- The number of cells of a grid fits the bounds of a size. -/
lemma holds_cellCount (cells : g.cellCount < 2 ^ 31) : uint64.Holds g.cellCount := by
  simp only [Bounds.Holds, uint64]
  omega

/-- Every answer of a search is right. -/
lemma find_settles (cells : g.cellCount < 2 ^ 31) (budget : Nat) (start goal : Cell) :
    Settles g budget start goal (find g budget start goal) := by
  have answers := find_answers (holds_cellCount cells) budget start goal
  generalize find g budget start goal = answer at answers ⊢
  cases answers with
  | here same => exact same ▸ .single g start
  | offGrid apart off =>
    rintro _ inside ⟨path, walk⟩
    exact off.elim (absurd inside) (absurd (walk.reaches.contains inside))
  | searched _ first last ends =>
    have settles := ends.settles (consistent_guess cells (Grid.index?_eq_some_iff.1 last).1) cells
      (.initial first) (.initial first)
    rwa [Grid.cellAt_of_index? last] at settles

/-- A route between different cells is only looked for on the grid. -/
lemma contains_of_find (cells : g.cellCount < 2 ^ 31) {start goal : Cell} (apart : start ≠ goal)
    {r : Route} (found : find g budget start goal = some r) :
    g.Contains start ∧ g.Contains goal := by
  have answers := find_answers (holds_cellCount cells) budget start goal
  rw [found] at answers
  cases answers with
  | here same => exact absurd same apart
  | searched _ first last =>
    exact ⟨(Grid.index?_eq_some_iff.1 first).1, (Grid.index?_eq_some_iff.1 last).1⟩

/-- If a search finds a route, its path leads from the start to the goal, from each cell to an
orthogonal neighbour and after the start over routable cells of the grid, comes to no cell twice, and
has as many steps as its cost says; no such walk has fewer steps. -/
theorem find_shortest (cells : g.cellCount < 2 ^ 31) (budget : Nat) {start goal : Cell} {r : Route}
    (found : find g budget start goal = some r) : r.Shortest g start goal := by
  have settles := find_settles cells budget start goal
  rwa [found] at settles

namespace Detour

/-- A road that leads around a lawn. -/
def grid : Grid := ⟨3, 2, #v[67, 0, 67, 67, 67, 67], .replicate _ 0⟩

def west : Cell := ⟨0, 0⟩

def lawn : Cell := ⟨1, 0⟩

def east : Cell := ⟨2, 0⟩

/-- The way around the lawn. -/
def route : Route := ⟨4, [⟨0, 0⟩, ⟨0, 1⟩, ⟨1, 1⟩, ⟨2, 1⟩, ⟨2, 0⟩]⟩

end Detour

/-- There is no shorter way than the one around the lawn. -/
theorem find_shortest_detour :
    Detour.grid.cellCount < 2 ^ 31 ∧
      find Detour.grid 6 Detour.west Detour.east = some Detour.route ∧
      Detour.route.Shortest Detour.grid Detour.west Detour.east := by
  have cells : Detour.grid.cellCount < 2 ^ 31 := by decide
  have found : find Detour.grid 6 Detour.west Detour.east = some Detour.route := by decide +kernel
  exact ⟨cells, found, find_shortest cells 6 found⟩

/-- Every search ends, and so does tracing back its route. On its course it expands no cell twice. If
its budget covers the grid, it finds no route exactly if one of the cells is off the grid or no walk
leads from the one to the other. -/
theorem find_complete (cells : g.cellCount < 2 ^ 31) (budget : Nat) {start goal : Cell}
    (apart : start ≠ goal) :
    Answers g budget start goal (find g budget start goal) ∧
    (∀ i j, g.index? start = some i → g.index? goal = some j →
      ∃ log, Course g (guess · goal) budget j (.initial g (guess · goal) start i) log
        (find g budget start goal) ∧ log.Nodup) ∧
    (g.cellCount ≤ budget → (find g budget start goal = none ↔
      ¬g.Contains start ∨ ¬g.Contains goal ∨ ¬∃ path, IsWalk g start goal path)) := by
  have settles := find_settles cells budget start goal
  refine ⟨find_answers (holds_cellCount cells) budget start goal, fun i j first last => ?_,
    fun enough => ⟨fun none => ?_, fun no => ?_⟩⟩
  · obtain ⟨log, course⟩ := @run_course g (guess · goal) budget j start _ (.initial first) _
      work_initial_lt
    refine ⟨log, ?_, course.nodup.1⟩
    rw [find, findBy, if_neg apart, first, last]
    exact course
  · rw [none] at settles
    by_cases inside : g.Contains start
    · exact .inr (.inr (settles enough inside))
    · exact .inl inside
  · refine Option.eq_none_iff_forall_ne_some.2 fun r found => ?_
    obtain ⟨hs, hg⟩ := contains_of_find cells apart found
    rw [found] at settles
    exact no.elim (absurd hs) fun no => no.elim (absurd hg) (absurd ⟨r.path, settles.walk⟩)

/-- Onto the lawn there is no walk, since none is found with a budget for all cells. -/
theorem find_complete_detour :
    Detour.grid.cellCount < 2 ^ 31 ∧ Detour.west ≠ Detour.lawn ∧
      ¬∃ path, IsWalk Detour.grid Detour.west Detour.lawn path := by
  have cells : Detour.grid.cellCount < 2 ^ 31 := by decide
  have apart : Detour.west ≠ Detour.lawn := by decide
  have none : find Detour.grid 6 Detour.west Detour.lawn = none := by decide +kernel
  refine ⟨cells, apart, ?_⟩
  rcases ((find_complete cells 6 apart).2.2 (by decide)).1 none with off | off | no
  · exact absurd (by decide) off
  · exact absurd (by decide) off
  · exact no

end Cityscape.Route
