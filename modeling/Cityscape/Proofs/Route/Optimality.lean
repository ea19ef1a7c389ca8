import Cityscape.Proofs.Route.Trace

/-!
# What a search knows of shortest walks

A search that is guided by consistent guesses never closes a cell too early. `Search.Exact` says what
its record is worth at every moment, also between two offers: a recorded cost is the length of a walk,
and for a closed cell of a shortest one. `Search.Optimal` is the invariant of the iterations: in
addition every closed cell has offered its walk to all its neighbours. From it follows that some cell
of each walk to an open cell waits with an estimate no greater than the length of the walk allows
(`Optimal.exists_waiting`), so that the first waiting cell has been reached by a shortest walk
(`Optimal.first_least`) and may be closed. One iteration keeps the invariant (`Optimal.drop` and
`Optimal.expand`).
-/

namespace Cityscape.Route

open Bounds (uint32)

variable {g : Grid} {remaining : Cell → Nat} {start : Cell} {goal : Fin g.cellCount}

namespace Search

/-- The second search has better walks on record for open cells, and the same for closed ones. -/
structure Improves (g : Grid) (s t : Search g.cellCount) : Prop where
  closed : ∀ i, (t.visits.get i).closed = (s.visits.get i).closed
  kept : ∀ i, (s.visits.get i).closed = true → t.visits.get i = s.visits.get i
  knows : ∀ c n, s.Knows g c n → t.Knows g c n

/-- What the record of a search is worth. The walk to a cell is as long as its recorded cost says, and
for a closed cell there is no shorter one. An open cell waits with the cost that is recorded for it;
what else waits is out of date. -/
structure Exact (g : Grid) (remaining : Cell → Nat) (start : Cell) (s : Search g.cellCount) :
    Prop extends Traced g start s where
  begun : s.Knows g start 0
  reached : ∀ i c, (s.visits.get i).cost = some c → Reaches g start (g.cellAt i) c
  listed : ∀ w ∈ s.frontier, w.estimate = w.cost + remaining (g.cellAt w.index) ∧
    ∃ c ≤ w.cost, (s.visits.get w.index).cost = some c
  waiting : ∀ i c, (s.visits.get i).cost = some c → (s.visits.get i).closed = false →
    ∃ w ∈ s.frontier, w.index = i ∧ w.cost = c
  ordered : s.frontier.Ordered
  closed : ∀ i, (s.visits.get i).closed = true → ∃ c, (s.visits.get i).cost = some c ∧
    ∀ n, Reaches g start (g.cellAt i) n → c ≤ n

/-- The record between two iterations: every closed cell has offered its walk to its neighbours, and
the goal is still open. -/
structure Optimal (g : Grid) (remaining : Cell → Nat) (start : Cell) (goal : Fin g.cellCount)
    (s : Search g.cellCount) : Prop extends Exact g remaining start s where
  offered : ∀ i c, (s.visits.get i).closed = true → (s.visits.get i).cost = some c →
    ∀ d, (g.cellAt i).Adjacent d → g.isRoutable d = true → s.Knows g d (c + 1)
  onWay : (s.visits.get goal).closed = false

namespace Improves

variable {s t u : Search g.cellCount}

/-- A search is as good as itself. -/
lemma refl (s : Search g.cellCount) : Improves g s s :=
  ⟨fun _ => rfl, fun _ _ => rfl, fun _ _ known => known⟩

/-- Improving twice is an improvement. -/
lemma trans (first : Improves g s t) (second : Improves g t u) : Improves g s u where
  closed i := (second.closed i).trans (first.closed i)
  kept i closed := (second.kept i ((first.closed i).trans closed)).trans (first.kept i closed)
  knows c n known := second.knows c n (first.knows c n known)

/-- Offering a way to a cell can only improve the record. -/
lemma offer (origin : Fin g.cellCount) (cost : Nat) (s : Search g.cellCount) (next : Cell) :
    Improves g s (Route.offer g remaining origin cost s next) := by
  rcases @offer_cases g remaining origin cost s next with
    same | ⟨i, -, -, opened, improved, changed⟩
  · rw [same]
    exact refl s
  rw [changed]
  refine ⟨fun j => ?_, fun j closed => ?_, fun c n ⟨j, place, m, le, known⟩ => ?_⟩
  · rw [← changed, closed_offer]
  · have apart : i ≠ j := by
      rintro rfl
      exact absurd (opened.symm.trans closed) (by decide)
    rw [get_set, if_neg apart]
  · refine ⟨j, place, ?_⟩
    rw [get_set]
    split
    · rename_i e
      have better := of_decide_eq_true improved
      rw [e, known] at better
      exact ⟨cost, Nat.le_trans (Nat.le_of_lt better) le, rfl⟩
    · exact ⟨m, le, known⟩

end Improves

namespace Exact

variable {s : Search g.cellCount} {origin : Fin g.cellCount} {a : Nat}

/-- An offer of a walk through a closed cell keeps the record exact. -/
lemma offer (h : s.Exact g remaining start) (guided : Consistent g remaining)
    (cells : g.cellCount < 2 ^ 31) (closed : (s.visits.get origin).closed = true)
    (known : (s.visits.get origin).cost = some a) (short : a + 1 ≤ g.cellCount) {next : Cell}
    (near : next ∈ (g.cellAt origin).neighbours) :
    (Route.offer g remaining origin (a + 1) s next).Exact g remaining start := by
  have traced := @Traced.offer g remaining start s h.toTraced cells origin a closed known next near
  have better := @Improves.offer g remaining origin (a + 1) s next
  rcases @offer_cases g remaining origin (a + 1) s next with
    same | ⟨i, place, routable, opened, improved, changed⟩
  · rw [same]
    exact h
  have here : g.cellAt i = next := Grid.cellAt_of_index? place
  have adjacent := adjacent_of_offered cells closed opened place near
  have fits := guided.fits (Grid.contains_of_isRoutable routable)
  have estimate : Bounds.uint32.clampNat (a + 1 + remaining next) = a + 1 + remaining next := by
    simp only [Bounds.clampNat, Bounds.Holds, uint32] at *
    omega
  rw [changed] at traced better ⊢
  refine ⟨traced, better.knows _ _ h.begun, fun j c hj => ?_, fun w hw => ?_, fun j c hj open' => ?_,
    Frontier.ordered_insert h.ordered, fun j closed' => ?_⟩
  · rw [get_set] at hj
    split at hj
    · rename_i e
      obtain rfl := Option.some.inj hj
      rw [← e, here]
      exact .step (h.reached origin a known) adjacent routable
    · exact h.reached j c hj
  · dsimp only
    rcases Frontier.mem_insert.1 hw with rfl | hw
    · dsimp only
      refine ⟨by rw [here, estimate], a + 1, Nat.le_refl _, ?_⟩
      rw [get_set, if_pos rfl]
    · obtain ⟨guess, c, le, recorded⟩ := h.listed w hw
      refine ⟨guess, ?_⟩
      rw [get_set]
      split
      · rename_i e
        have lower := of_decide_eq_true improved
        rw [e, recorded] at lower
        exact ⟨a + 1, Nat.le_trans (Nat.le_of_lt lower) le, rfl⟩
      · exact ⟨c, le, recorded⟩
  · rw [get_set] at hj open'
    split at hj
    · rename_i e
      obtain rfl := Option.some.inj hj
      exact ⟨_, Frontier.mem_insert.2 (.inl rfl), e, rfl⟩
    · rename_i e
      rw [if_neg e] at open'
      obtain ⟨w, hw, index, cost⟩ := h.waiting j c hj open'
      exact ⟨w, Frontier.mem_insert.2 (.inr hw), index, cost⟩
  · have shut : (s.visits.get j).closed = true := (better.closed j).symm.trans closed'
    obtain ⟨c, recorded, least⟩ := h.closed j shut
    exact ⟨c, by rw [better.kept j shut]; exact recorded, least⟩

/-- An open cell to which a walk is on record waits with an estimate that takes account of it. -/
lemma waits (h : s.Exact g remaining start) {c : Cell} {n : Nat} {i : Fin g.cellCount}
    (place : g.index? c = some i) (opened : (s.visits.get i).closed = false)
    (knows : s.Knows g c n) : ∃ w ∈ s.frontier, w.estimate ≤ n + remaining c := by
  obtain ⟨j, place', m, le, known⟩ := knows
  obtain rfl := Option.some.inj (place'.symm.trans place)
  obtain ⟨w, hw, rfl, rfl⟩ := h.waiting j m known opened
  obtain ⟨guess, -⟩ := h.listed w hw
  rw [Grid.cellAt_of_index? place] at guess
  exact ⟨w, hw, by omega⟩

/-- The first waiting cell has the lowest estimate. -/
lemma lowest (h : s.Exact g remaining start) {first : Waiting g.cellCount}
    {others : Frontier g.cellCount} (waiting : s.frontier = first :: others) :
    ∀ w ∈ s.frontier, first.estimate ≤ w.estimate := by
  have ordered := h.ordered
  rw [waiting] at ordered ⊢
  intro w hw
  rcases List.mem_cons.1 hw with rfl | hw
  · exact Nat.le_refl _
  · exact Nat.le_of_not_lt fun lt => List.rel_of_pairwise_cons ordered hw (.inl lt)

/-- Whether it is taken or not, an offer is no better than what is on record afterwards. -/
lemma knows_offer (h : s.Exact g remaining start) (cells : g.cellCount < 2 ^ 31)
    (known : (s.visits.get origin).cost = some a) (short : a + 1 ≤ g.cellCount) {next : Cell}
    (adjacent : (g.cellAt origin).Adjacent next) (routable : g.isRoutable next = true) :
    (Route.offer g remaining origin (a + 1) s next).Knows g next (a + 1) := by
  have better := @Improves.offer g remaining origin (a + 1) s next
  have inside := Grid.contains_of_isRoutable routable
  obtain ⟨i, place⟩ : ∃ i, g.index? next = some i := ⟨_, Grid.index?_of_contains inside⟩
  have here : g.cellAt i = next := Grid.cellAt_of_index? place
  cases closed : (s.visits.get i).closed with
  | true =>
    obtain ⟨c, recorded, least⟩ := h.closed i closed
    have le : c ≤ a + 1 := by
      refine least _ ?_
      rw [here]
      exact .step (h.reached origin a known) adjacent routable
    exact better.knows _ _ ⟨i, place, c, le, recorded⟩
  | false =>
    cases improved : (s.visits.get i).improvedBy (a + 1) with
    | true =>
      refine ⟨i, place, a + 1, Nat.le_refl _, ?_⟩
      simp only [Route.offer, place, closed, routable, improved, Bool.not_true, Bool.or_self,
        Bool.false_eq_true, if_false]
      rw [get_set, if_pos rfl]
    | false =>
      have worse := of_decide_eq_false improved
      cases recorded : (s.visits.get i).cost with
      | none =>
        rw [recorded] at worse
        simp only [Option.getD_none, uint32] at worse
        omega
      | some c =>
        rw [recorded] at worse
        exact better.knows _ _ ⟨i, place, c, Nat.le_of_not_lt worse, recorded⟩

/-- After a closed cell has offered its walk to some neighbours, the record is exact and no worse
than these offers. -/
lemma offers (h : s.Exact g remaining start) (guided : Consistent g remaining)
    (cells : g.cellCount < 2 ^ 31) (closed : (s.visits.get origin).closed = true)
    (known : (s.visits.get origin).cost = some a) (short : a + 1 ≤ g.cellCount) (next : List Cell)
    (near : ∀ d ∈ next, d ∈ (g.cellAt origin).neighbours) :
    (next.foldl (Route.offer g remaining origin (a + 1)) s).Exact g remaining start ∧
      Improves g s (next.foldl (Route.offer g remaining origin (a + 1)) s) ∧
      ∀ d ∈ next, (g.cellAt origin).Adjacent d → g.isRoutable d = true →
        (next.foldl (Route.offer g remaining origin (a + 1)) s).Knows g d (a + 1) := by
  induction next generalizing s with
  | nil => exact ⟨h, .refl s, fun _ hd => nomatch hd⟩
  | cons d next ih =>
    have one := @Improves.offer g remaining origin (a + 1) s d
    have same := one.kept origin closed
    have offered := h.offer guided cells closed known short (near d List.mem_cons_self)
    obtain ⟨exact', rest, knows⟩ := ih offered (same ▸ closed) (same ▸ known)
      fun e he => near e (List.mem_cons_of_mem _ he)
    refine ⟨exact', one.trans rest, fun e he adjacent routable => ?_⟩
    rcases List.mem_cons.1 he with rfl | he
    · exact rest.knows _ _ (h.knows_offer cells known short adjacent routable)
    · exact knows e he adjacent routable

end Exact

namespace Optimal

variable {s : Search g.cellCount} {first : Waiting g.cellCount} {others : Frontier g.cellCount}

/-- At its start, a search has the best walks for all that it knows of. -/
lemma initial {i : Fin g.cellCount} (place : g.index? start = some i) :
    (Search.initial g remaining start i).Optimal g remaining start goal := by
  have here := Grid.cellAt_of_index? place
  have opened (j : Fin g.cellCount) :
      ((Search.initial g remaining start i).visits.get j).closed = false := by
    rw [visits_initial]
    split <;> rfl
  have begun (j : Fin g.cellCount) (c : Nat)
      (known : ((Search.initial g remaining start i).visits.get j).cost = some c) :
      i = j ∧ c = 0 := by
    rw [visits_initial] at known
    split at known
    · rename_i e
      exact ⟨e, (Option.some.inj known).symm⟩
    · exact nomatch known
  refine ⟨⟨.initial place, ⟨i, place, 0, Nat.le_refl _, ?_⟩, fun j c known => ?_, fun w hw => ?_,
    fun j c known _ => ?_, List.pairwise_singleton _ _, fun j closed => ?_⟩,
    fun j c closed => ?_, opened goal⟩
  · rw [visits_initial, if_pos rfl]
  · obtain ⟨rfl, rfl⟩ := begun j c known
    rw [here]
    exact .here
  · obtain rfl := List.mem_singleton.1 hw
    dsimp only
    refine ⟨by rw [here, Nat.zero_add], 0, Nat.le_refl _, ?_⟩
    rw [visits_initial, if_pos rfl]
  · obtain ⟨rfl, rfl⟩ := begun j c known
    exact ⟨_, List.mem_singleton_self _, rfl, rfl⟩
  · exact absurd ((opened j).symm.trans closed) (by decide)
  · exact absurd ((opened j).symm.trans closed) (by decide)

/-- Where a walk leads to an open cell, some cell waits with an estimate that a walk of this length
cannot beat: the first open cell of the walk, if not the last one. -/
lemma exists_waiting (h : s.Optimal g remaining start goal) (guided : Consistent g remaining)
    {c : Cell} {n : Nat} (reaches : Reaches g start c n) {i : Fin g.cellCount}
    (place : g.index? c = some i) (opened : (s.visits.get i).closed = false) :
    ∃ w ∈ s.frontier, w.estimate ≤ n + remaining c := by
  induction reaches generalizing i with
  | here => exact h.toExact.waits place opened h.begun
  | @step b c n before next routable ih =>
    have inside : g.Contains b := before.contains h.begun.contains
    obtain ⟨k, before'⟩ : ∃ k, g.index? b = some k := ⟨_, Grid.index?_of_contains inside⟩
    have here : g.cellAt k = b := Grid.cellAt_of_index? before'
    cases closed : (s.visits.get k).closed with
    | false =>
      obtain ⟨w, hw, low⟩ := ih before' closed
      have one := guided.step inside (Grid.contains_of_isRoutable routable) next
      exact ⟨w, hw, by omega⟩
    | true =>
      obtain ⟨a, known, least⟩ := h.closed k closed
      have le : a ≤ n := least n (here ▸ before)
      have offered := h.offered k a closed known c (here ▸ next) routable
      exact h.toExact.waits place opened (offered.mono (Nat.succ_le_succ le))

/-- The first waiting cell, if it is open, has been reached by a shortest walk. -/
lemma first_least (h : s.Optimal g remaining start goal) (guided : Consistent g remaining)
    (cells : g.cellCount < 2 ^ 31) (waiting : s.frontier = first :: others)
    (opened : (s.visits.get first.index).closed = false) :
    (s.visits.get first.index).cost = some first.cost ∧
      ∀ n, Reaches g start (g.cellAt first.index) n → first.cost ≤ n := by
  have lowest := h.toExact.lowest waiting
  obtain ⟨guess, c, le, known⟩ := h.listed first (waiting ▸ List.mem_cons_self)
  refine ⟨?_, fun n reaches => ?_⟩
  · obtain ⟨w, hw, index, rfl⟩ := h.waiting first.index c known opened
    have guess' := (h.listed w hw).1
    have low := lowest w hw
    rw [index] at guess'
    rw [known]
    congr 1
    omega
  · obtain ⟨w, hw, low⟩ := h.exists_waiting guided reaches
      (Grid.index?_cellAt cells first.index) opened
    have low' := lowest w hw
    omega

/-- A cell that waits although it is closed is out of date. -/
lemma drop (h : s.Optimal g remaining start goal) (waiting : s.frontier = first :: others)
    (closed : (s.visits.get first.index).closed = true) :
    ({ s with frontier := others } : Search g.cellCount).Optimal g remaining start goal where
  root := h.root
  parent := h.parent
  begun := h.begun
  reached := h.reached
  listed w hw := h.listed w (waiting ▸ List.mem_cons_of_mem _ hw)
  waiting i c known opened := by
    obtain ⟨w, hw, rfl, cost⟩ := h.waiting i c known opened
    rw [waiting] at hw
    refine ⟨w, (List.mem_cons.1 hw).resolve_left ?_, rfl, cost⟩
    rintro rfl
    exact absurd (opened.symm.trans closed) (by decide)
  ordered := (List.pairwise_cons.1 (waiting ▸ h.ordered)).2
  closed := h.closed
  offered := h.offered
  onWay := h.onWay

/-- The first waiting cell is closed: what is recorded stays, and is exact. -/
lemma taken (h : s.Optimal g remaining start goal) (guided : Consistent g remaining)
    (cells : g.cellCount < 2 ^ 31) (waiting : s.frontier = first :: others)
    (opened : (s.visits.get first.index).closed = false) {expanded : Nat} :
    ({ s.taken first others with expanded := expanded } : Search g.cellCount).Exact g remaining
      start := by
  obtain ⟨known, least⟩ := h.first_least guided cells waiting opened
  have cost := s.cost_taken first others
  have traced := h.toTraced.taken first others
  refine ⟨⟨traced.root, traced.parent⟩, h.begun.congr cost,
    fun i c hi => h.reached i c ((cost i).symm.trans hi), fun w hw => ?_,
    fun i c hi open' => ?_, (List.pairwise_cons.1 (waiting ▸ h.ordered)).2, fun i closed => ?_⟩
  · obtain ⟨guess, c, le, known'⟩ := h.listed w (waiting ▸ List.mem_cons_of_mem _ hw)
    exact ⟨guess, c, le, (cost _).trans known'⟩
  · dsimp only at open'
    rw [visits_taken] at open'
    split at open'
    · cases open'
    · rename_i apart
      obtain ⟨w, hw, rfl, cost'⟩ := h.waiting i c ((cost i).symm.trans hi) open'
      rw [waiting] at hw
      refine ⟨w, (List.mem_cons.1 hw).resolve_left ?_, rfl, cost'⟩
      rintro rfl
      exact apart rfl
  · dsimp only at closed ⊢
    rw [cost]
    rw [visits_taken] at closed
    split at closed
    · rename_i e
      rw [← e]
      exact ⟨first.cost, known, least⟩
    · exact h.closed i closed

/-- The expansion of a cell that is not the goal keeps the record optimal: the cell is closed with
the cost of a shortest walk, and every neighbour is offered the way over it. -/
lemma expand (h : s.Optimal g remaining start goal) (guided : Consistent g remaining)
    (cells : g.cellCount < 2 ^ 31) (waiting : s.frontier = first :: others)
    (opened : (s.visits.get first.index).closed = false) (onWay : first.index ≠ goal)
    (short : first.cost + 1 ≤ g.cellCount) :
    (s.expand g remaining first others).Optimal g remaining start goal := by
  obtain ⟨known, -⟩ := h.first_least guided cells waiting opened
  have taken := @taken _ _ _ _ _ _ _ h guided cells waiting opened (s.expanded + 1)
  have closed : ((s.taken first others).visits.get first.index).closed = true := by
    rw [visits_taken, if_pos rfl]
  obtain ⟨exact', better, knows⟩ := taken.offers guided cells closed
    ((s.cost_taken first others _).trans known) short _ fun _ hd => hd
  refine ⟨exact', fun i c shut hi d adjacent routable => ?_, ?_⟩
  · have shut' := (better.closed i).symm.trans shut
    have hi' : (s.visits.get i).cost = some c := by
      rw [← hi, ← s.cost_taken first others i]
      exact congrArg Visit.cost (better.kept i shut').symm
    dsimp only at shut'
    rw [visits_taken] at shut'
    split at shut'
    -- The cell taken has just offered its walk, the others have done so before.
    · rename_i e
      subst e
      obtain rfl := Option.some.inj (known.symm.trans hi')
      exact knows d adjacent.mem_neighbours adjacent routable
    · have offered := h.offered i c shut' hi' d adjacent routable
      exact better.knows _ _ (offered.congr (s.cost_taken first others))
  · refine (better.closed goal).trans ?_
    dsimp only
    rw [visits_taken, if_neg onWay]
    exact h.onWay

end Optimal

end Search

end Cityscape.Route
