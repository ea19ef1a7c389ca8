import Cityscape.Proofs.Route.Shortest

/-!
# The budget of a search

A budget can cut a search short, and does nothing else. `Unbounded` says what a search comes to that
may expand as many cells as it likes, and how many it expands. The same search with a budget comes
to the same answer if the budget allows for this number of expansions, and to none if it does not
(`Unbounded.cut`). So the number is a threshold for budgets (`find_threshold`), and no search
expands more cells than the grid has (`Ends.unbounded`).
-/

namespace Cityscape.Route

variable {g : Grid} {remaining : Cell → Nat} {budget : Nat} {goal : Fin g.cellCount}

/-- What a search without a budget comes to, and the number of cells that it expands. -/
inductive Unbounded (g : Grid) (remaining : Cell → Nat) (goal : Fin g.cellCount) :
    Search g.cellCount → Nat → Option Route → Prop where
  | exhausted {s} (nothing : s.frontier = []) : Unbounded g remaining goal s 0 none
  | stale {s first others n answer} (waiting : s.frontier = first :: others)
      (closed : (s.visits.get first.index).closed = true)
      (rest : Unbounded g remaining goal { s with frontier := others } n answer) :
      Unbounded g remaining goal s n answer
  | arrived {s first others walk} (waiting : s.frontier = first :: others)
      (opened : (s.visits.get first.index).closed = false) (here : first.index = goal)
      (recorded : Recorded g (s.taken first others).visits goal walk) :
      Unbounded g remaining goal s 0 (some ⟨first.cost, walk⟩)
  | expanded {s first others n answer} (waiting : s.frontier = first :: others)
      (opened : (s.visits.get first.index).closed = false) (onWay : first.index ≠ goal)
      (rest : Unbounded g remaining goal (s.expand g remaining first others) n answer) :
      Unbounded g remaining goal s (n + 1) answer

/-- What the search for a route between two cells comes to without a budget, and the number of cells
that it expands. -/
inductive UnboundedAnswers (g : Grid) (start goal : Cell) : Nat → Option Route → Prop where
  | here (same : start = goal) : UnboundedAnswers g start goal 0 (some ⟨0, [start]⟩)
  | offGrid (apart : start ≠ goal) (off : ¬g.Contains start ∨ ¬g.Contains goal) :
      UnboundedAnswers g start goal 0 none
  | searched {i j n answer} (apart : start ≠ goal) (first : g.index? start = some i)
      (last : g.index? goal = some j)
      (search : Unbounded g (guess · goal) j (.initial g (guess · goal) start i) n answer) :
      UnboundedAnswers g start goal n answer

/-- The parents record one walk. -/
lemma Recorded.unique {visits : Vector (Visit g.cellCount) g.cellCount} {i : Fin g.cellCount}
    {walk other : List Cell} (h : Recorded g visits i walk) (h' : Recorded g visits i other) :
    walk = other := by
  induction h generalizing other with
  | first alone =>
    cases h' with
    | first => rfl
    | later named => exact nomatch alone.symm.trans named
  | later named _ ih =>
    cases h' with
    | first alone => exact nomatch alone.symm.trans named
    | later named' rest' =>
      obtain rfl := Option.some.inj (named.symm.trans named')
      rw [ih rest']

section
variable {s : Search g.cellCount} {first : Waiting g.cellCount} {others : Frontier g.cellCount}
  {answer : Option Route}

/-- Inversion for a search in which a closed cell waits first. -/
lemma Ends.stale_inv (ends : Ends g remaining budget goal s answer)
    (waiting : s.frontier = first :: others) (closed : (s.visits.get first.index).closed = true) :
    Ends g remaining budget goal { s with frontier := others } answer := by
  cases ends with
  | exhausted nothing => exact nomatch nothing.symm.trans waiting
  | stale waiting' _ rest =>
    obtain ⟨-, rfl⟩ := List.cons.inj (waiting.symm.trans waiting')
    exact rest
  | arrived waiting' opened | spent waiting' opened | expanded waiting' opened =>
    obtain ⟨rfl, rfl⟩ := List.cons.inj (waiting.symm.trans waiting')
    exact nomatch closed.symm.trans opened

/-- Inversion for a search that arrives. -/
lemma Ends.arrived_inv (ends : Ends g remaining budget goal s answer)
    (waiting : s.frontier = first :: others) (opened : (s.visits.get first.index).closed = false)
    (here : first.index = goal) :
    ∃ walk, Recorded g (s.taken first others).visits goal walk ∧
      answer = some ⟨first.cost, walk⟩ := by
  cases ends with
  | exhausted nothing => exact nomatch nothing.symm.trans waiting
  | stale waiting' closed =>
    obtain ⟨rfl, rfl⟩ := List.cons.inj (waiting.symm.trans waiting')
    exact nomatch closed.symm.trans opened
  | arrived waiting' _ _ recorded =>
    obtain ⟨rfl, rfl⟩ := List.cons.inj (waiting.symm.trans waiting')
    exact ⟨_, recorded, rfl⟩
  | spent waiting' _ onWay | expanded waiting' _ onWay =>
    obtain ⟨rfl, rfl⟩ := List.cons.inj (waiting.symm.trans waiting')
    exact absurd here onWay

/-- Inversion for a search that has a cell to expand. -/
lemma Ends.onWay_inv (ends : Ends g remaining budget goal s answer)
    (waiting : s.frontier = first :: others) (opened : (s.visits.get first.index).closed = false)
    (onWay : first.index ≠ goal) :
    (budget ≤ s.expanded ∧ answer = none) ∨
      (s.expanded < budget ∧
        Ends g remaining budget goal (s.expand g remaining first others) answer) := by
  cases ends with
  | exhausted nothing => exact nomatch nothing.symm.trans waiting
  | stale waiting' closed =>
    obtain ⟨rfl, rfl⟩ := List.cons.inj (waiting.symm.trans waiting')
    exact nomatch closed.symm.trans opened
  | arrived waiting' _ here =>
    obtain ⟨rfl, rfl⟩ := List.cons.inj (waiting.symm.trans waiting')
    exact absurd here onWay
  | spent _ _ _ _ spent => exact .inl ⟨spent, rfl⟩
  | expanded waiting' _ _ _ more _ rest =>
    obtain ⟨rfl, rfl⟩ := List.cons.inj (waiting.symm.trans waiting')
    exact .inr ⟨more, rest⟩

/-- A budget leaves the answer of a search as it is if it allows for all its expansions, and takes
it away if it does not. -/
lemma Unbounded.cut {n : Nat} {all : Option Route} (h : Unbounded g remaining goal s n all)
    (ends : Ends g remaining budget goal s answer) (within : s.expanded ≤ budget) :
    answer = if s.expanded + n ≤ budget then all else none := by
  induction h generalizing answer with
  | exhausted nothing =>
    cases ends with
    | exhausted => exact (ite_self none).symm
    | stale waiting | arrived waiting | spent waiting | expanded waiting =>
      exact nomatch nothing.symm.trans waiting
  -- A closed cell is dropped by both searches and counted by neither.
  | stale waiting closed _ ih => exact ih (ends.stale_inv waiting closed) within
  | arrived waiting opened here recorded =>
    obtain ⟨walk, recorded', rfl⟩ := ends.arrived_inv waiting opened here
    rw [Nat.add_zero, if_pos within, recorded.unique recorded']
  | @expanded s first others n all waiting opened onWay _ ih =>
    rcases ends.onWay_inv waiting opened onWay with ⟨spent, rfl⟩ | ⟨more, ends⟩
    · have cut : ¬s.expanded + (n + 1) ≤ budget := by omega
      exact (if_neg cut).symm
    · have count : (s.expand g remaining first others).expanded = s.expanded + 1 :=
        expanded_expand s first others
      have rest := ih ends (count ▸ more)
      rwa [count, Nat.add_right_comm] at rest

end

/-- A budget for all cells of the grid is never spent, so the search comes to what it would come to
without one. -/
lemma Ends.unbounded {start : Cell} {s : Search g.cellCount} {answer : Option Route}
    (ends : Ends g remaining g.cellCount goal s answer) (sound : s.Sound g start) :
    ∃ n, Unbounded g remaining goal s n answer ∧ s.expanded + n ≤ g.cellCount := by
  induction ends with
  | exhausted nothing => exact ⟨0, .exhausted nothing, sound.expanded_le⟩
  | stale waiting closed _ ih =>
    obtain ⟨n, rest, few⟩ := ih (sound.drop waiting)
    exact ⟨n, .stale waiting closed rest, few⟩
  | arrived waiting opened here recorded =>
    exact ⟨0, .arrived waiting opened here recorded, sound.expanded_le⟩
  | spent waiting opened _ _ spent =>
    exact absurd spent (Nat.not_le_of_lt (sound.expanded_lt waiting opened))
  | @expanded s first others _ waiting opened onWay _ _ _ _ ih =>
    obtain ⟨n, rest, few⟩ := ih (sound.expand waiting opened)
    rw [expanded_expand] at few
    exact ⟨n + 1, .expanded waiting opened onWay rest, by omega⟩

/-- A search begins with no cell expanded. -/
lemma expanded_initial {start : Cell} {i : Fin g.cellCount} :
    (Search.initial g remaining start i).expanded = 0 := rfl

/-- What the search for a route comes to with any budget, by what it comes to without one. -/
lemma UnboundedAnswers.cut {start goal : Cell} {n : Nat} {answer : Option Route}
    (size : Bounds.uint64.Holds g.cellCount) (h : UnboundedAnswers g start goal n answer)
    (budget : Nat) :
    find g budget start goal = if n ≤ budget then answer else none := by
  have onGrid {i j : Fin g.cellCount} (first : g.index? start = some i)
      (last : g.index? goal = some j) : ¬(¬g.Contains start ∨ ¬g.Contains goal) :=
    not_or_intro (not_not_intro (Grid.index?_eq_some_iff.1 first).1)
      (not_not_intro (Grid.index?_eq_some_iff.1 last).1)
  have answers := find_answers size budget start goal
  generalize find g budget start goal = found at answers ⊢
  cases h with
  | here same =>
    cases answers with
    | here => exact (if_pos (Nat.zero_le budget)).symm
    | offGrid apart | searched apart => exact absurd same apart
  | offGrid apart off =>
    cases answers with
    | here same => exact absurd same apart
    | offGrid => exact (ite_self none).symm
    | searched _ first last => exact absurd off (onGrid first last)
  | searched apart first last search =>
    cases answers with
    | here same => exact absurd same apart
    | offGrid _ off => exact absurd off (onGrid first last)
    | searched _ first' last' ends =>
      obtain rfl := Option.some.inj (first.symm.trans first')
      obtain rfl := Option.some.inj (last.symm.trans last')
      have cut := search.cut ends (Nat.zero_le budget)
      rwa [expanded_initial, Nat.zero_add] at cut

/-- Without a budget a search comes to an answer too, and expands no more cells than the grid has.
-/
lemma exists_unboundedAnswers (size : Bounds.uint64.Holds g.cellCount) (start goal : Cell) :
    ∃ n ≤ g.cellCount, ∃ answer, UnboundedAnswers g start goal n answer := by
  have answers := find_answers size g.cellCount start goal
  generalize find g g.cellCount start goal = found at answers
  cases answers with
  | here same => exact ⟨0, Nat.zero_le _, _, .here same⟩
  | offGrid apart off => exact ⟨0, Nat.zero_le _, _, .offGrid apart off⟩
  | searched apart first last ends =>
    obtain ⟨n, search, few⟩ := ends.unbounded (.initial first)
    rw [expanded_initial, Nat.zero_add] at few
    exact ⟨n, few, _, .searched apart first last search⟩

/-- With a larger budget, a route that is found stays the same, in its cost and in its path. For any
two cells there is a threshold, the number of cells that a search without a budget expands and at
most the number of all cells: with a budget below it nothing is found, and from it on the answer is
that of the search without a budget. -/
theorem find_threshold (cells : g.cellCount < 2 ^ 31) (start goal : Cell) :
    (∀ {budget more : Nat} {r : Route}, budget ≤ more → find g budget start goal = some r →
      find g more start goal = some r) ∧
    ∃ threshold ≤ g.cellCount, ∃ answer, UnboundedAnswers g start goal threshold answer ∧
      (∀ budget < threshold, find g budget start goal = none) ∧
      ∀ budget, threshold ≤ budget → find g budget start goal = answer := by
  have size := holds_cellCount cells
  obtain ⟨n, few, answer, unbounded⟩ := exists_unboundedAnswers size start goal
  have cut (budget : Nat) : find g budget start goal = if n ≤ budget then answer else none :=
    unbounded.cut size budget
  refine ⟨fun {budget more r} le found => ?_, n, few, answer, unbounded, fun budget lt => ?_,
    fun budget le => ?_⟩
  · have enough : n ≤ budget := by
      by_contra short
      rw [cut, if_neg short] at found
      cases found
    rw [cut, if_pos enough] at found
    rw [cut, if_pos (Nat.le_trans enough le), found]
  · rw [cut, if_neg (Nat.not_le_of_lt lt)]
  · rw [cut, if_pos le]

/-- The way around the lawn takes four expansions. -/
theorem find_threshold_detour :
    Detour.grid.cellCount < 2 ^ 31 ∧ find Detour.grid 3 Detour.west Detour.east = none ∧
      UnboundedAnswers Detour.grid Detour.west Detour.east 4 (some Detour.route) ∧
      ∀ budget, 4 ≤ budget →
        find Detour.grid budget Detour.west Detour.east = some Detour.route := by
  have cells : Detour.grid.cellCount < 2 ^ 31 := by decide
  have short : find Detour.grid 3 Detour.west Detour.east = none := by decide +kernel
  have found : find Detour.grid 4 Detour.west Detour.east = some Detour.route := by decide +kernel
  obtain ⟨kept, n, -, answer, unbounded, below, above⟩ :=
    find_threshold cells Detour.west Detour.east
  have few : n ≤ 4 := Nat.le_of_not_lt fun lt => nomatch (below 4 lt).symm.trans found
  obtain rfl : answer = some Detour.route := (above 4 few).symm.trans found
  have many : 3 < n := Nat.lt_of_not_le fun le => nomatch short.symm.trans (above 3 le)
  obtain rfl : n = 4 := Nat.le_antisymm few many
  exact ⟨cells, short, unbounded, fun budget le => kept le found⟩

end Cityscape.Route
