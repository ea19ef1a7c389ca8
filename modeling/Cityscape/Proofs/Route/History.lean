import Cityscape.Proofs.Route.Shortest

/-!
# The history of a search

`History` logs all that a search does to its record, write by write, down to the last cell that it
closes: the cells that it takes from the frontier, and the states that it passes through. While cells
are offered better walks and cells out of date still wait, what is closed is certain. At every moment
a closed cell has been reached by a shortest walk, and the parents lead from any cell that has been
reached back to the start over closed cells (`Search.Certain`, from the invariant of the search by
`Search.Exact.certain`). From each moment to the next, the record of a closed cell is kept
(`History.isChain_keeps`). The cells are taken in the order of their estimates, since no offer waits
with a lower estimate than the cell that makes it (`Search.Optimal.le_estimate`).

The main statement, `closed_cells_certain`, says this of the search between any two cells of the grid.
-/

namespace Cityscape.Route

variable {g : Grid} {remaining : Cell → Nat} {budget : Nat} {goal : Fin g.cellCount} {start : Cell}

/-- The states that a search passes through after the first waiting cell is closed, while its
neighbours are offered a walk through it, one after the other. -/
def Search.offering (g : Grid) (remaining : Cell → Nat) (s : Search g.cellCount)
    (first : Waiting g.cellCount) (others : Frontier g.cellCount) : List (Search g.cellCount) :=
  (g.cellAt first.index).neighbours.scanl (offer g remaining first.index (first.cost + 1))
    { s.taken first others with expanded := s.expanded + 1 }

/-- What a search takes from the frontier and the states that it passes through from a state on, in
order, and the answer that it comes to. -/
inductive History (g : Grid) (remaining : Cell → Nat) (budget : Nat) (goal : Fin g.cellCount) :
    Search g.cellCount → List (Waiting g.cellCount) → List (Search g.cellCount) → Option Route →
      Prop where
  | exhausted {s} (nothing : s.frontier = []) : History g remaining budget goal s [] [] none
  | stale {s first others pops states answer} (waiting : s.frontier = first :: others)
      (closed : (s.visits.get first.index).closed = true)
      (rest : History g remaining budget goal { s with frontier := others } pops states answer) :
      History g remaining budget goal s (first :: pops) ({ s with frontier := others } :: states)
        answer
  | ended {s first others answer} (waiting : s.frontier = first :: others)
      (opened : (s.visits.get first.index).closed = false)
      (last : step g remaining budget goal s = .ended answer) :
      History g remaining budget goal s [first] [s.taken first others] answer
  | expanded {s first others pops states answer} (waiting : s.frontier = first :: others)
      (opened : (s.visits.get first.index).closed = false) (onWay : first.index ≠ goal)
      (more : s.expanded < budget)
      (rest : History g remaining budget goal (s.expand g remaining first others) pops states
        answer) :
      History g remaining budget goal s (first :: pops)
        (s.taken first others :: (s.offering g remaining first others ++ states)) answer

/-- A search that has enough iterations left has a history. -/
lemma run_history {s : Search g.cellCount} (sound : s.Sound g start) (fuel : Nat)
    (enough : s.work < fuel) :
    ∃ pops states, History g remaining budget goal s pops states
      (run g remaining budget goal fuel s) := by
  refine @run_induction g remaining budget goal
    (fun s answer => ∃ pops states, History g remaining budget goal s pops states answer) start
    ?_ ?_ s sound fuel enough
  · intro s answer _ last
    have it := @iteration g remaining budget goal s
    rw [last] at it
    cases it with
    | exhausted nothing => exact ⟨_, _, .exhausted nothing⟩
    | arrived waiting opened | spent waiting opened => exact ⟨_, _, .ended waiting opened last⟩
  · intro s t answer _ next ⟨pops, states, rest⟩
    have it := @iteration g remaining budget goal s
    rw [next] at it
    cases it with
    | stale waiting closed => exact ⟨_, _, .stale waiting closed rest⟩
    | expanded waiting opened onWay more => exact ⟨_, _, .expanded waiting opened onWay more rest⟩

/-! ## What is closed is kept -/

/-- What the first search has on record for closed cells, the second one has too. -/
def Search.Keeps {n : Nat} (s t : Search n) : Prop :=
  ∀ i, (s.visits.get i).closed = true → t.visits.get i = s.visits.get i

/-- What is kept from one search to the next, and from there to a third, is kept from the first to
the third. -/
lemma Search.Keeps.trans {n : Nat} {s t u : Search n} (first : s.Keeps t) (second : t.Keeps u) :
    s.Keeps u := by
  intro i closed
  have same := first i closed
  exact (second i (same ▸ closed)).trans same

/-- Closing a cell that was open keeps what is on record for the closed ones. -/
lemma Search.keeps_taken {s : Search g.cellCount} {first : Waiting g.cellCount}
    (opened : (s.visits.get first.index).closed = false) (others : Frontier g.cellCount) :
    s.Keeps (s.taken first others) := by
  intro i closed
  have apart : first.index ≠ i := by
    rintro rfl
    exact absurd (opened.symm.trans closed) (by decide)
  rw [visits_taken, if_neg apart]

/-- What every step of a fold keeps, is kept all along it and by what comes after it. -/
lemma isChain_scanl_append {α β : Type} {R : β → β → Prop} {f : β → α → β}
    (step : ∀ b a, R b (f b a)) {l : List α} {b : β} {after : List β}
    (rest : (l.foldl f b :: after).IsChain R) : (l.scanl f b ++ after).IsChain R := by
  induction l generalizing b with
  | nil => exact rest
  | cons a l ih =>
    have tail := ih rest
    rw [List.scanl_cons, List.cons_append]
    cases l with
    | nil => exact List.isChain_cons_cons.2 ⟨step b a, tail⟩
    | cons a' l =>
      rw [List.scanl_cons] at tail ⊢
      exact List.isChain_cons_cons.2 ⟨step b a, tail⟩

/-- From each state to the next, the record of a closed cell stays the same. -/
lemma History.isChain_keeps {s : Search g.cellCount} {pops states answer}
    (h : History g remaining budget goal s pops states answer) :
    (s :: states).IsChain Search.Keeps := by
  induction h with
  | exhausted => exact .singleton _
  | stale _ _ _ ih => exact List.isChain_cons_cons.2 ⟨fun _ _ => rfl, ih⟩
  | @ended s first others _ _ opened =>
    exact List.isChain_cons_cons.2 ⟨Search.keeps_taken opened others, .singleton _⟩
  | @expanded s first others _ states _ _ opened _ _ _ ih =>
    have offers := isChain_scanl_append
      (fun t d => (@Search.Improves.offer g remaining first.index (first.cost + 1) t d).kept) ih
    refine List.isChain_cons_cons.2 ⟨Search.keeps_taken opened others, ?_⟩
    exact List.isChain_cons_cons.2 ⟨fun _ _ => rfl, offers⟩

/-! ## What is known at every moment -/

/-- The parents lead from a cell back to the start over closed cells. The recorded cost of the cell is
their number, and falls by one with each of them. -/
inductive LeadsBack (g : Grid) (start : Cell) (visits : Vector (Visit g.cellCount) g.cellCount) :
    Fin g.cellCount → Nat → Prop where
  | start {i : Fin g.cellCount} (here : g.cellAt i = start) (known : (visits.get i).cost = some 0)
      (alone : (visits.get i).parent = none) : LeadsBack g start visits i 0
  | later {i before c} (known : (visits.get i).cost = some (c + 1))
      (named : (visits.get i).parent = some before)
      (closed : (visits.get before).closed = true) (rest : LeadsBack g start visits before c) :
      LeadsBack g start visits i (c + 1)

/-- What a search has on record is right. A closed cell has been reached by a shortest walk. From every
cell that has been reached, the parents lead back to the start, so the walk to it can be traced back. -/
structure Search.Certain (g : Grid) (start : Cell) (s : Search g.cellCount) : Prop where
  closed : ∀ i, (s.visits.get i).closed = true →
    ∃ r : Route, (s.visits.get i).cost = some r.cost ∧ r.Shortest g start (g.cellAt i)
  back : ∀ i c, (s.visits.get i).cost = some c → LeadsBack g start s.visits i c
  traced : ∀ i c, (s.visits.get i).cost = some c →
    ∃ walk, Recorded g s.visits i walk ∧ walk.length = c + 1 ∧
      traceBack g s.visits g.cellCount i [] = walk

/-- Whoever follows parents that lead back to the start comes there, and has followed as many of them
as the cost says. -/
lemma LeadsBack.recorded {visits : Vector (Visit g.cellCount) g.cellCount} {i : Fin g.cellCount}
    {c : Nat} (h : LeadsBack g start visits i c) :
    ∃ walk, Recorded g visits i walk ∧ walk.length = c + 1 ∧
      ∀ fuel, c ≤ fuel → ∀ path, traceBack g visits fuel i path = walk ++ path := by
  induction h with
  | start _ _ alone =>
    refine ⟨_, .first alone, rfl, fun fuel _ path => ?_⟩
    cases fuel with
    | zero => rfl
    | succ fuel =>
      rw [traceBack, alone]
      rfl
  | later _ named _ _ ih =>
    obtain ⟨walk, recorded, length, traced⟩ := ih
    refine ⟨_, .later named recorded, by rw [List.length_append, length]; rfl, fun fuel le path => ?_⟩
    cases fuel with
    | zero => exact absurd le (Nat.not_succ_le_zero _)
    | succ fuel =>
      simp only [traceBack, named, traced fuel (Nat.le_of_succ_le_succ le), List.append_assoc,
        List.singleton_append]

namespace Search

variable {s : Search g.cellCount} {first : Waiting g.cellCount} {others : Frontier g.cellCount}

/-- From every cell with a recorded cost, the parents lead back to the start in as many steps. -/
lemma Traced.leadsBack (h : s.Traced g start) {i : Fin g.cellCount} {c : Nat}
    (known : (s.visits.get i).cost = some c) : LeadsBack g start s.visits i c := by
  induction c generalizing i with
  | zero =>
    cases named : (s.visits.get i).parent with
    | none => exact .start (h.root i 0 known named).1 known named
    | some before =>
      obtain ⟨-, -, -, a, -, longer⟩ := h.parent i before named
      exact absurd (Option.some.inj (known.symm.trans longer)) (Nat.succ_ne_zero a).symm
  | succ c ih =>
    cases named : (s.visits.get i).parent with
    | none => exact absurd (h.root i (c + 1) known named).2 (Nat.succ_ne_zero c)
    | some before =>
      obtain ⟨closed, -, -, a, known', longer⟩ := h.parent i before named
      obtain rfl : c = a := Nat.succ.inj (Option.some.inj (known.symm.trans longer))
      exact .later known named closed (ih known')

/-- A walk that is on record comes to no cell twice, so it has no more cells than the grid. -/
lemma Traced.cost_lt (h : s.Traced g start) (cells : g.cellCount < 2 ^ 31) {i : Fin g.cellCount}
    {c : Nat} (known : (s.visits.get i).cost = some c) : c < g.cellCount := by
  obtain ⟨walk, recorded, -⟩ := (h.leadsBack known).recorded
  obtain ⟨-, length, nodup, knows⟩ := h.walk cells recorded known
  have le := Grid.length_le_cellCount nodup fun d hd => (knows d hd).contains
  omega

/-- Where the record is exact, it is certain. -/
lemma Exact.certain (h : s.Exact g remaining start) (cells : g.cellCount < 2 ^ 31) :
    s.Certain g start where
  closed i shut := by
    obtain ⟨c, known, least⟩ := h.closed i shut
    obtain ⟨walk, recorded, -⟩ := (h.leadsBack known).recorded
    obtain ⟨isWalk, length, nodup, -⟩ := h.walk cells recorded known
    refine ⟨⟨c, walk⟩, known, isWalk, nodup, length, fun path other => ?_⟩
    have le := least _ other.reaches
    have pos := other.length_pos
    dsimp only
    omega
  back i c known := h.leadsBack known
  traced i c known := by
    obtain ⟨walk, recorded, length, traced⟩ := (h.leadsBack known).recorded
    have lt := h.toTraced.cost_lt cells known
    refine ⟨walk, recorded, length, ?_⟩
    rw [traced g.cellCount (Nat.le_of_lt lt), List.append_nil]

/-- While a closed cell offers its walk, the record stays exact. -/
lemma Exact.scanl {origin : Fin g.cellCount} {a : Nat} (h : s.Exact g remaining start)
    (guided : Consistent g remaining) (cells : g.cellCount < 2 ^ 31)
    (closed : (s.visits.get origin).closed = true)
    (known : (s.visits.get origin).cost = some a) (short : a + 1 ≤ g.cellCount) (next : List Cell)
    (near : ∀ d ∈ next, d ∈ (g.cellAt origin).neighbours) :
    ∀ t ∈ next.scanl (Route.offer g remaining origin (a + 1)) s, t.Exact g remaining start := by
  induction next generalizing s with
  | nil => exact List.forall_mem_singleton.2 h
  | cons d next ih =>
    have same := (@Improves.offer g remaining origin (a + 1) s d).kept origin closed
    have offered := h.offer guided cells closed known short (near d List.mem_cons_self)
    rw [List.scanl_cons]
    exact List.forall_mem_cons.2 ⟨h, ih offered (same ▸ closed) (same ▸ known)
      fun e he => near e (List.mem_cons_of_mem _ he)⟩

/-- When a cell is expanded, its cost leaves room for one more step over the grid. -/
lemma Optimal.short (h : s.Optimal g remaining start goal) (cells : g.cellCount < 2 ^ 31)
    (guided : Consistent g remaining) (waiting : s.frontier = first :: others)
    (opened : (s.visits.get first.index).closed = false) : first.cost + 1 ≤ g.cellCount :=
  h.toTraced.cost_lt cells (h.first_least guided cells waiting opened).1

end Search

section
variable {s : Search g.cellCount} {pops : List (Waiting g.cellCount)}
  {states : List (Search g.cellCount)} {answer : Option Route}

/-- The record of a search is exact in each of its states. -/
lemma History.exact (h : History g remaining budget goal s pops states answer)
    (guided : Consistent g remaining) (cells : g.cellCount < 2 ^ 31)
    (optimal : s.Optimal g remaining start goal) :
    ∀ t ∈ s :: states, t.Exact g remaining start := by
  refine List.forall_mem_cons.2 ⟨optimal.toExact, ?_⟩
  induction h with
  | exhausted => exact List.forall_mem_nil _
  | stale waiting closed _ ih =>
    have dropped := optimal.drop waiting closed
    exact List.forall_mem_cons.2 ⟨dropped.toExact, ih dropped⟩
  | @ended s first others _ waiting opened =>
    exact List.forall_mem_singleton.2 (optimal.taken guided cells waiting opened)
  | @expanded s first others _ _ _ waiting opened onWay _ _ ih =>
    obtain ⟨known, -⟩ := optimal.first_least guided cells waiting opened
    have short := optimal.short cells guided waiting opened
    have taken := fun expanded => @Search.Optimal.taken _ _ _ _ _ _ _ optimal guided cells waiting
      opened expanded
    have closed : ((s.taken first others).visits.get first.index).closed = true := by
      rw [Search.visits_taken, if_pos rfl]
    have offers := (taken (s.expanded + 1)).scanl guided cells closed
      ((s.cost_taken first others _).trans known) short _ fun _ hd => hd
    have rest := ih (optimal.expand guided cells waiting opened onWay short)
    refine List.forall_mem_cons.2 ⟨taken s.expanded, fun t ht => ?_⟩
    rcases List.mem_append.1 ht with ht | ht
    · exact offers t ht
    · exact rest t ht

/-! ## The order of estimates -/

/-- What waits after an expansion has waited before, or is a neighbour of the cell expanded and one
step further away. -/
lemma mem_frontier_expand {first : Waiting g.cellCount} {others : Frontier g.cellCount}
    {w : Waiting g.cellCount} (hw : w ∈ (s.expand g remaining first others).frontier) :
    w ∈ others ∨
      w.cost = first.cost + 1 ∧ g.cellAt w.index ∈ (g.cellAt first.index).neighbours := by
  have offers := @List.foldlRecOn _ _
    (fun t : Search g.cellCount => ∀ w ∈ t.frontier, w ∈ others ∨
      w.cost = first.cost + 1 ∧ g.cellAt w.index ∈ (g.cellAt first.index).neighbours)
    (g.cellAt first.index).neighbours (offer g remaining first.index (first.cost + 1))
    { s.taken first others with expanded := s.expanded + 1 } (fun _ hw => .inl hw)
    fun t kept next near w hw => by
      rcases @offer_cases g remaining first.index (first.cost + 1) t next with
        same | ⟨i, place, -, -, -, changed⟩
      · exact kept w (same ▸ hw)
      · rw [changed] at hw
        rcases Frontier.mem_insert.1 hw with rfl | hw
        · exact .inr ⟨rfl, Grid.cellAt_of_index? place ▸ near⟩
        · exact kept w hw
  exact offers w hw

/-- After an expansion nothing waits with a lower estimate than the cell that was expanded. -/
lemma Search.Optimal.le_estimate {first : Waiting g.cellCount} {others : Frontier g.cellCount}
    (h : s.Optimal g remaining start goal) (guided : Consistent g remaining)
    (cells : g.cellCount < 2 ^ 31) (waiting : s.frontier = first :: others)
    (opened : (s.visits.get first.index).closed = false) (onWay : first.index ≠ goal) :
    ∀ w ∈ (s.expand g remaining first others).frontier, first.estimate ≤ w.estimate := by
  intro w hw
  have short := h.short cells guided waiting opened
  have before := (h.listed first (waiting ▸ List.mem_cons_self)).1
  have after := ((h.expand guided cells waiting opened onWay short).listed w hw).1
  rcases mem_frontier_expand hw with old | ⟨longer, near⟩
  · exact h.toExact.lowest waiting w (waiting ▸ List.mem_cons_of_mem _ old)
  · have inside (i : Fin g.cellCount) : g.Contains (g.cellAt i) :=
      (Grid.index?_eq_some_iff.1 (Grid.index?_cellAt cells i)).1
    -- The guess falls by one at most where the cost rises by one.
    have one : remaining (g.cellAt first.index) ≤ remaining (g.cellAt w.index) + 1 := by
      rcases Cell.eq_or_adjacent_of_mem_neighbours near with same | adjacent
      · rw [same]
        exact Nat.le_succ _
      · exact guided.step (inside _) (inside _) adjacent
    omega

/-- The first cell that a search takes is the first one that waits. -/
lemma History.head?_pops (h : History g remaining budget goal s pops states answer) :
    pops.head? = s.frontier.head? := by
  cases h with
  | exhausted nothing => rw [nothing]
  | stale waiting | ended waiting | expanded waiting => rw [waiting, List.head?_cons, List.head?_cons]

/-- The estimates with which cells are taken do not fall. -/
lemma History.isChain_estimate (h : History g remaining budget goal s pops states answer)
    (guided : Consistent g remaining) (cells : g.cellCount < 2 ^ 31)
    (optimal : s.Optimal g remaining start goal) :
    pops.IsChain fun w v => w.estimate ≤ v.estimate := by
  induction h with
  | exhausted => exact .nil
  | stale waiting closed rest ih =>
    refine List.isChain_cons.2 ⟨fun w hw => ?_, ih (optimal.drop waiting closed)⟩
    rw [rest.head?_pops] at hw
    have mem := List.mem_of_head? hw
    exact optimal.toExact.lowest waiting w (waiting ▸ List.mem_cons_of_mem _ mem)
  | ended => exact .singleton _
  | expanded waiting opened onWay _ rest ih =>
    have short := optimal.short cells guided waiting opened
    refine List.isChain_cons.2
      ⟨fun w hw => ?_, ih (optimal.expand guided cells waiting opened onWay short)⟩
    rw [rest.head?_pops] at hw
    exact optimal.le_estimate guided cells waiting opened onWay w (List.mem_of_head? hw)

end

/-- The search between two cells of the grid has a history, up to its answer. The estimates with which
it takes cells never fall. At every moment, each closed cell has been reached by a shortest walk, with
its recorded cost, and the parents lead from every cell that has been reached back to the start over
closed cells, while the cost falls by one with each of them. What is recorded for a closed cell is
never changed again. -/
theorem closed_cells_certain (cells : g.cellCount < 2 ^ 31) (budget : Nat) {start goal : Cell}
    {i j : Fin g.cellCount} (first : g.index? start = some i) (last : g.index? goal = some j) :
    (∃ pops states answer,
      History g (guess · goal) budget j (.initial g (guess · goal) start i) pops states answer ∧
        (start ≠ goal → find g budget start goal = answer)) ∧
    ∀ pops states answer,
      History g (guess · goal) budget j (.initial g (guess · goal) start i) pops states answer →
        (pops.map (·.estimate)).Pairwise (· ≤ ·) ∧
        (∀ s ∈ Search.initial g (guess · goal) start i :: states, s.Certain g start) ∧
        (Search.initial g (guess · goal) start i :: states).Pairwise Search.Keeps := by
  have guided := consistent_guess cells (Grid.index?_eq_some_iff.1 last).1
  constructor
  · obtain ⟨pops, states, history⟩ :=
      @run_history g (guess · goal) budget j start _ (.initial first) (maxSteps g) work_initial_lt
    refine ⟨pops, states, _, history, fun apart => ?_⟩
    rw [find, findBy, if_neg apart, first, last]
    rfl
  · intro pops states answer history
    have optimal : (Search.initial g (guess · goal) start i).Optimal g (guess · goal) start j :=
      .initial first
    have : IsTrans (Search g.cellCount) Search.Keeps := ⟨fun _ _ _ => Search.Keeps.trans⟩
    refine ⟨?_, fun s hs => (history.exact guided cells optimal s hs).certain cells, ?_⟩
    · exact ((List.isChain_map _).2 (history.isChain_estimate guided cells optimal)).pairwise
    · exact history.isChain_keeps.pairwise

/-- The search around the lawn comes to its route, and all that it has on record on the way is right.
-/
theorem closed_cells_certain_detour :
    Detour.grid.cellCount < 2 ^ 31 ∧
      ∃ i j, Detour.grid.index? Detour.west = some i ∧ Detour.grid.index? Detour.east = some j ∧
      ∃ pops states,
        History Detour.grid (guess · Detour.east) 6 j
          (.initial Detour.grid (guess · Detour.east) Detour.west i) pops states
          (some Detour.route) ∧
        (pops.map (·.estimate)).Pairwise (· ≤ ·) ∧
        (∀ s ∈ states, s.Certain Detour.grid Detour.west) ∧ states.Pairwise Search.Keeps := by
  have cells : Detour.grid.cellCount < 2 ^ 31 := by decide
  have first : Detour.grid.index? Detour.west = some ⟨0, by decide⟩ := by decide
  have last : Detour.grid.index? Detour.east = some ⟨2, by decide⟩ := by decide
  have found : find Detour.grid 6 Detour.west Detour.east = some Detour.route := by decide +kernel
  obtain ⟨⟨pops, states, answer, history, same⟩, all⟩ := closed_cells_certain cells 6 first last
  obtain rfl := found.symm.trans (same (by decide))
  obtain ⟨estimates, certain, kept⟩ := all pops states _ history
  exact ⟨cells, _, _, first, last, pops, states, history, estimates,
    (List.forall_mem_cons.1 certain).2, (List.pairwise_cons.1 kept).2⟩

end Cityscape.Route
