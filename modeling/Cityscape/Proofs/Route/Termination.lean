import Cityscape.Proofs.Route.Search

/-!
# Every search ends

`Ends` and `Answers` say what a search comes to when nothing limits the number of its iterations or
the length of the walk that it traces back, and when each of its sums has to fit its bounds. The
search as it runs comes to the same (`find_answers`): each expansion uses up a cell and lets at most
four more wait, and along the parents the recorded costs fall (`Search.Ranked`).
-/

namespace Cityscape.Route

open Bounds (uint32 uint64)

variable {g : Grid} {remaining : Cell → Nat} {budget : Nat} {goal : Fin g.cellCount}

/-- The walk that the parents record, from its first cell to the one at a position. -/
inductive Recorded (g : Grid) (visits : Vector (Visit g.cellCount) g.cellCount) :
    Fin g.cellCount → List Cell → Prop where
  | first {i} (alone : (visits.get i).parent = none) : Recorded g visits i [g.cellAt i]
  | later {i before walk} (named : (visits.get i).parent = some before)
      (rest : Recorded g visits before walk) : Recorded g visits i (walk ++ [g.cellAt i])

/-- The search with its first waiting cell taken and closed. -/
abbrev Search.taken {n : Nat} (s : Search n) (first : Waiting n) (others : Frontier n) : Search n :=
  ({ s with frontier := others } : Search n).close first.index

/-- Taking a waiting cell closes it and changes nothing else on record. -/
lemma Search.visits_taken {n : Nat} (s : Search n) (first : Waiting n) (others : Frontier n)
    (i : Fin n) :
    (s.taken first others).visits.get i =
      if first.index = i then { s.visits.get first.index with closed := true }
      else s.visits.get i := by
  rw [taken, close, get_set]

/-- What a search comes to, however many iterations it takes. Expansions are counted and costs
summed up within the bounds of a count and of a length. -/
inductive Ends (g : Grid) (remaining : Cell → Nat) (budget : Nat) (goal : Fin g.cellCount) :
    Search g.cellCount → Option Route → Prop where
  | exhausted {s} (nothing : s.frontier = []) : Ends g remaining budget goal s none
  | stale {s first others answer} (waiting : s.frontier = first :: others)
      (closed : (s.visits.get first.index).closed = true)
      (rest : Ends g remaining budget goal { s with frontier := others } answer) :
      Ends g remaining budget goal s answer
  | arrived {s first others walk} (waiting : s.frontier = first :: others)
      (opened : (s.visits.get first.index).closed = false) (here : first.index = goal)
      (recorded : Recorded g (s.taken first others).visits goal walk) :
      Ends g remaining budget goal s (some ⟨first.cost, walk⟩)
  | spent {s first others} (waiting : s.frontier = first :: others)
      (opened : (s.visits.get first.index).closed = false) (onWay : first.index ≠ goal)
      (count : uint64.Holds (s.expanded + 1 : Nat)) (spent : budget ≤ s.expanded) :
      Ends g remaining budget goal s none
  | expanded {s first others answer} (waiting : s.frontier = first :: others)
      (opened : (s.visits.get first.index).closed = false) (onWay : first.index ≠ goal)
      (count : uint64.Holds (s.expanded + 1 : Nat)) (more : s.expanded < budget)
      (length : uint32.Holds (first.cost + 1 : Nat))
      (rest : Ends g remaining budget goal (s.expand g remaining first others) answer) :
      Ends g remaining budget goal s answer

/-- What the search for a route between two cells comes to. -/
inductive Answers (g : Grid) (budget : Nat) (start goal : Cell) : Option Route → Prop where
  | here (same : start = goal) : Answers g budget start goal (some ⟨0, [start]⟩)
  | offGrid (apart : start ≠ goal) (off : ¬g.Contains start ∨ ¬g.Contains goal) :
      Answers g budget start goal none
  | searched {i j answer} (apart : start ≠ goal) (first : g.index? start = some i)
      (last : g.index? goal = some j)
      (ends : Ends g (guess · goal) budget j (.initial g (guess · goal) start i) answer) :
      Answers g budget start goal answer

/-- The costs of a search. A recorded cost is at most the number of expansions and below the largest
length. A cell waits with a cost that is recorded for it or has been improved since. Whoever is
named as a parent is closed, so that its cost is final, and the cost is lower than its child's. -/
structure Search.Ranked {n : Nat} (s : Search n) : Prop where
  known : ∀ i c, (s.visits.get i).cost = some c → c ≤ s.expanded ∧ c < uint32.hi.toNat
  waiting : ∀ w ∈ s.frontier, w.cost < uint32.hi.toNat ∧
    ∃ c, (s.visits.get w.index).cost = some c ∧ c ≤ w.cost
  parent : ∀ i before, (s.visits.get i).parent = some before →
    (s.visits.get before).closed = true ∧ ∃ a b, (s.visits.get before).cost = some a ∧
      (s.visits.get i).cost = some b ∧ a < b

namespace Search.Ranked

/-- At its start, a search has its costs in order. -/
lemma initial {start : Cell} {i : Fin g.cellCount} :
    (Search.initial g remaining start i).Ranked := by
  have fresh (j : Fin g.cellCount) :
      (Vector.replicate g.cellCount (@Visit.fresh g.cellCount)).get j = Visit.fresh :=
    Vector.getElem_replicate _
  refine ⟨fun j c h => ?_, fun w hw => ?_, fun j before h => ?_⟩
  · rw [Search.initial, get_set, fresh] at h
    split at h
    · obtain rfl := Option.some.inj h
      exact ⟨Nat.zero_le _, by decide⟩
    · cases h
  · obtain rfl := List.mem_singleton.1 hw
    have zero : 0 < uint32.hi.toNat := by decide
    refine ⟨zero, 0, ?_, Nat.le_refl _⟩
    rw [Search.initial, get_set, if_pos rfl]
  · rw [Search.initial, get_set, fresh] at h
    split at h <;> cases h

/-- A cost that improves on the record is below the largest length. -/
lemma lt_of_improvedBy {n : Nat} {s : Search n} (h : s.Ranked) {i : Fin n} {cost : Nat}
    (improved : (s.visits.get i).improvedBy cost = true) : cost < uint32.hi.toNat := by
  have below := of_decide_eq_true improved
  cases recorded : (s.visits.get i).cost with
  | none => rwa [recorded] at below
  | some c =>
    rw [recorded] at below
    exact Nat.lt_trans below (h.known i c recorded).2

/-- An offer keeps the ranks if it comes from a closed cell and is longer than the walk there. -/
lemma offer {s : Search g.cellCount} (h : s.Ranked) {origin : Fin g.cellCount} {a cost : Nat}
    (closed : (s.visits.get origin).closed = true) (known : (s.visits.get origin).cost = some a)
    (longer : a < cost) (short : cost ≤ s.expanded) (next : Cell) :
    (Route.offer g remaining origin cost s next).Ranked ∧
      (Route.offer g remaining origin cost s next).expanded = s.expanded ∧
      (Route.offer g remaining origin cost s next).visits.get origin = s.visits.get origin := by
  rcases @offer_cases g remaining origin cost s next with
    same | ⟨i, -, -, opened, improved, changed⟩
  · rw [same]
    exact ⟨h, rfl, rfl⟩
  -- The cell is open, so it is nobody's parent.
  have apart {j : Fin g.cellCount} (shut : (s.visits.get j).closed = true) : i ≠ j := by
    rintro rfl
    exact absurd (opened.symm.trans shut) (by decide)
  rw [changed]
  refine ⟨⟨fun j c hj => ?_, fun w hw => ?_, fun j before hj => ?_⟩, rfl, ?_⟩
  · rw [get_set] at hj
    split at hj
    · obtain rfl := Option.some.inj hj
      exact ⟨short, h.lt_of_improvedBy improved⟩
    · exact h.known j c hj
  · dsimp only
    rcases Frontier.mem_insert.1 hw with rfl | hw
    · exact ⟨h.lt_of_improvedBy improved, cost, by rw [get_set, if_pos rfl], Nat.le_refl _⟩
    · obtain ⟨below, c, recorded, le⟩ := h.waiting w hw
      refine ⟨below, ?_⟩
      rw [get_set]
      split
      · rename_i e
        have better := of_decide_eq_true improved
        rw [e, recorded] at better
        exact ⟨cost, rfl, Nat.le_trans (Nat.le_of_lt better) le⟩
      · exact ⟨c, recorded, le⟩
  · dsimp only at hj ⊢
    rw [get_set] at hj
    split at hj
    · rename_i e
      obtain rfl := Option.some.inj hj
      rw [get_set, get_set, if_pos e, if_neg (apart closed)]
      exact ⟨closed, a, cost, known, rfl, longer⟩
    · rename_i e
      obtain ⟨shut, a, b, ha, hb, lt⟩ := h.parent j before hj
      rw [get_set, get_set, if_neg e, if_neg (apart shut)]
      exact ⟨shut, a, b, ha, hb, lt⟩
  · dsimp only
    rw [get_set, if_neg (apart closed)]

section
variable {n : Nat} {s : Search n} {first : Waiting n} {others : Frontier n}

/-- Dropping the first waiting cell keeps the costs in order. -/
lemma drop (h : s.Ranked) (waiting : s.frontier = first :: others) :
    ({ s with frontier := others } : Search n).Ranked :=
  ⟨h.known, fun w hw => h.waiting w (waiting ▸ List.mem_cons_of_mem _ hw), h.parent⟩

/-- Closing a cell keeps the costs in order, and so does a larger count of expansions. -/
lemma close (h : s.Ranked) (i : Fin n) {expanded : Nat} (le : s.expanded ≤ expanded) :
    ({ s.close i with expanded := expanded } : Search n).Ranked := by
  have same (j : Fin n) : ((s.close i).visits.get j).cost = (s.visits.get j).cost ∧
      ((s.close i).visits.get j).parent = (s.visits.get j).parent ∧
      ((s.visits.get j).closed = true → ((s.close i).visits.get j).closed = true) := by
    rw [Search.close, get_set]
    split
    · rename_i e
      subst e
      exact ⟨rfl, rfl, fun _ => rfl⟩
    · exact ⟨rfl, rfl, id⟩
  refine ⟨fun j c hj => ?_, fun w hw => ?_, fun j before hj => ?_⟩
  · obtain ⟨short, below⟩ := h.known j c ((same j).1.symm.trans hj)
    exact ⟨Nat.le_trans short le, below⟩
  · obtain ⟨below, c, recorded, short⟩ := h.waiting w hw
    exact ⟨below, c, (same _).1.trans recorded, short⟩
  · obtain ⟨shut, a, b, ha, hb, lt⟩ := h.parent j before ((same j).2.1.symm.trans hj)
    exact ⟨(same _).2.2 shut, a, b, (same _).1.trans ha, (same _).1.trans hb, lt⟩

end

/-- Expanding a cell keeps the costs in order, if its own cost is at most the number of expansions.
-/
lemma expand {s : Search g.cellCount} (h : s.Ranked) {first others}
    (waiting : s.frontier = first :: others) (short : first.cost ≤ s.expanded) :
    (s.expand g remaining first others).Ranked := by
  obtain ⟨-, a, known, le⟩ := h.waiting first (waiting ▸ List.mem_cons_self)
  -- The cell that is expanded is closed, and stays as it is over the offers.
  have offers := @List.foldlRecOn _ _
    (fun t : Search g.cellCount => t.Ranked ∧ t.expanded = s.expanded + 1 ∧
      (t.visits.get first.index).closed = true ∧ (t.visits.get first.index).cost = some a)
    (g.cellAt first.index).neighbours
    (Route.offer g remaining first.index (first.cost + 1)) _
    ⟨(h.drop waiting).close first.index (Nat.le_succ _), rfl,
      by simp only [Search.close, get_set, if_pos], by
        simpa only [Search.close, get_set, if_pos] using known⟩
    fun t ⟨ranked, count, closed, cost⟩ next _ => by
      have short' : first.cost + 1 ≤ t.expanded := by
        rw [count]
        exact Nat.succ_le_succ short
      obtain ⟨ranked', count', same⟩ := @offer g remaining t ranked _ _ _ closed cost
        (Nat.lt_succ_of_le le) short' next
      exact ⟨ranked', count'.trans count, same ▸ closed, same ▸ cost⟩
  exact offers.1

/-- The walk to a cell is traced back in as many steps as its cost allows. -/
lemma recorded {s : Search g.cellCount} (h : s.Ranked) (fuel : Nat) {i : Fin g.cellCount} {c : Nat}
    (known : (s.visits.get i).cost = some c) (enough : c ≤ fuel) :
    ∃ walk, Recorded g s.visits i walk ∧
      ∀ path, traceBack g s.visits fuel i path = walk ++ path := by
  induction fuel generalizing i c with
  | zero =>
    cases named : (s.visits.get i).parent with
    | none => exact ⟨_, .first named, fun _ => rfl⟩
    | some before =>
      obtain ⟨-, a, b, -, hb, lt⟩ := h.parent i before named
      obtain rfl := Option.some.inj (known.symm.trans hb)
      omega
  | succ fuel ih =>
    cases named : (s.visits.get i).parent with
    | none => exact ⟨_, .first named, fun _ => by rw [traceBack, named]; rfl⟩
    | some before =>
      obtain ⟨-, a, b, ha, hb, lt⟩ := h.parent i before named
      obtain rfl := Option.some.inj (known.symm.trans hb)
      obtain ⟨walk, rest, traced⟩ := ih ha (by omega)
      refine ⟨_, .later named rest, fun path => ?_⟩
      simp only [traceBack, named, traced, List.append_assoc, List.singleton_append]

end Search.Ranked

/-- An offer opens no cell and closes none. -/
lemma closed_offer (origin : Fin g.cellCount) (cost : Nat) (s : Search g.cellCount) (next : Cell)
    (i : Fin g.cellCount) :
    ((offer g remaining origin cost s next).visits.get i).closed = (s.visits.get i).closed := by
  rcases @offer_cases g remaining origin cost s next with same | ⟨j, -, -, -, -, changed⟩
  · rw [same]
  · rw [changed, get_set]
    split
    · rename_i e
      rw [← e]
    · rfl

/-- An offer lets at most one more cell wait. -/
lemma length_offer_le (origin : Fin g.cellCount) (cost : Nat) (s : Search g.cellCount)
    (next : Cell) :
    (offer g remaining origin cost s next).frontier.length ≤ s.frontier.length + 1 := by
  rcases @offer_cases g remaining origin cost s next with same | ⟨i, -, -, -, -, changed⟩
  · rw [same]
    exact Nat.le_succ _
  · rw [changed]
    exact Nat.le_of_eq (Frontier.length_insert _ _)

/-- Offers to some cells let at most as many more wait. -/
lemma length_offers_le (origin : Fin g.cellCount) (cost : Nat) (cells : List Cell)
    (s : Search g.cellCount) :
    (cells.foldl (offer g remaining origin cost) s).frontier.length ≤
      s.frontier.length + cells.length := by
  induction cells generalizing s with
  | nil => exact Nat.le_refl _
  | cons next cells ih =>
    have one := @length_offer_le g remaining origin cost s next
    have rest := ih (offer g remaining origin cost s next)
    rw [List.foldl_cons, List.length_cons]
    omega

/-- An expansion lets at most four more cells wait. -/
lemma length_expand_le (s : Search g.cellCount) (first : Waiting g.cellCount)
    (others : Frontier g.cellCount) :
    (s.expand g remaining first others).frontier.length ≤ others.length + 4 :=
  length_offers_le _ _ _ _

/-- An expansion counts as one. -/
lemma expanded_expand (s : Search g.cellCount) (first : Waiting g.cellCount)
    (others : Frontier g.cellCount) :
    (s.expand g remaining first others).expanded = s.expanded + 1 := by
  have offers := @List.foldlRecOn _ _
    (fun t : Search g.cellCount => t.expanded = s.expanded + 1) (g.cellAt first.index).neighbours
    (offer g remaining first.index (first.cost + 1))
    { s.taken first others with expanded := s.expanded + 1 } rfl fun t count next _ => by
      rcases @offer_cases g remaining first.index (first.cost + 1) t next with
        same | ⟨i, -, -, -, -, changed⟩
      · rw [same]
        exact count
      · rw [changed]
        exact count
  exact offers

/-- When an open cell is taken, there is one cell that is not counted yet. -/
lemma Search.Sound.expanded_lt {start : Cell} {s : Search g.cellCount} (h : s.Sound g start)
    {first others} (waiting : s.frontier = first :: others)
    (opened : (s.visits.get first.index).closed = false) : s.expanded < g.cellCount :=
  (h.close waiting opened).expanded_le

/-- How many iterations a search can still take: there are cells waiting, and cells that can be
expanded and let four more wait. -/
def Search.work {n : Nat} (s : Search n) : Nat := s.frontier.length + 4 * (n - s.expanded)

/-- Every iteration that goes on leaves less work. -/
lemma work_lt {start : Cell} {s t : Search g.cellCount} (sound : s.Sound g start)
    (next : step g remaining budget goal s = .searching t) : t.work < s.work := by
  have it := @iteration g remaining budget goal s
  rw [next] at it
  cases it with
  | stale waiting closed =>
    simp only [Search.work, waiting, List.length_cons]
    omega
  | @expanded first others waiting opened onWay more =>
    have lt := sound.expanded_lt waiting opened
    have wait := @length_expand_le g remaining s first others
    simp only [Search.work, expanded_expand, waiting, List.length_cons]
    omega

/-- What holds where a search ends, and is handed back from each state to the one before, holds of
the answer of a search that has enough iterations left. -/
lemma run_induction {motive : Search g.cellCount → Option Route → Prop} {start : Cell}
    (ended : ∀ {s answer}, s.Sound g start → step g remaining budget goal s = .ended answer →
      motive s answer)
    (searching : ∀ {s t answer}, s.Sound g start → step g remaining budget goal s = .searching t →
      motive t answer → motive s answer)
    {s : Search g.cellCount} (sound : s.Sound g start) (fuel : Nat) (enough : s.work < fuel) :
    motive s (run g remaining budget goal fuel s) := by
  induction fuel generalizing s with
  | zero => exact absurd enough (Nat.not_lt_zero _)
  | succ fuel ih =>
    have kept := sound.iteration (@iteration g remaining budget goal s)
    rw [run]
    cases next : step g remaining budget goal s with
    | ended answer => exact ended sound next
    | searching t =>
      rw [next] at kept
      have less := work_lt sound next
      exact searching sound next (ih kept (by omega))

/-- A search ends in fewer iterations than there are cells waiting and cells to wait. -/
lemma run_ends {start : Cell} {s : Search g.cellCount} (sound : s.Sound g start)
    (ranked : s.Ranked) (size : uint64.Holds g.cellCount) (fuel : Nat) (enough : s.work < fuel) :
    Ends g remaining budget goal s (run g remaining budget goal fuel s) := by
  have count {s : Search g.cellCount} (sound : s.Sound g start) {first others}
      (waiting : s.frontier = first :: others)
      (opened : (s.visits.get first.index).closed = false) :
      uint64.Holds (s.expanded + 1 : Nat) := by
    have lt := sound.expanded_lt waiting opened
    simp only [Bounds.Holds, uint64] at size ⊢
    omega
  refine @run_induction g remaining budget goal
    (fun s answer => s.Ranked → Ends g remaining budget goal s answer) start ?_ ?_ s sound fuel
    enough ranked
  · intro s answer sound next ranked
    have it := @iteration g remaining budget goal s
    rw [next] at it
    cases it with
    | exhausted nothing => exact .exhausted nothing
    | @arrived first others waiting opened here =>
      obtain ⟨-, c, known, le⟩ := ranked.waiting first (waiting ▸ List.mem_cons_self)
      obtain ⟨short, -⟩ := ranked.known _ c known
      have closed : (s.taken first others).Ranked :=
        (ranked.drop waiting).close first.index (Nat.le_refl _)
      obtain ⟨walk, recorded, traced⟩ := @closed.recorded g _ g.cellCount goal c
        (by rw [Search.taken, Search.close, get_set, if_pos here]; exact known)
        (Nat.le_trans short sound.expanded_le)
      rw [traced, List.append_nil]
      exact .arrived waiting opened here recorded
    | spent waiting opened onWay spent =>
      exact .spent waiting opened onWay (count sound waiting opened) spent
  · intro s t answer sound next ih ranked
    have it := @iteration g remaining budget goal s
    rw [next] at it
    cases it with
    | stale waiting closed => exact .stale waiting closed (ih (ranked.drop waiting))
    | @expanded first others waiting opened onWay more =>
      have mem : first ∈ s.frontier := waiting ▸ List.mem_cons_self
      have length : uint32.Holds (first.cost + 1 : Nat) := by
        have below := (ranked.waiting first mem).1
        simp only [Bounds.Holds, uint32] at below ⊢
        omega
      exact .expanded waiting opened onWay (count sound waiting opened) more length
        (ih (ranked.expand waiting (sound.cost first mem)))

/-- The fuel of a search is enough for its iterations. -/
lemma work_initial_lt {start : Cell} {i : Fin g.cellCount} :
    (Search.initial g remaining start i).work < maxSteps g := by
  simp only [Search.work, Search.initial, List.length_singleton, maxSteps]
  omega

/-- A route is searched for until it is found, or is known not to exist, or the budget is spent. -/
lemma find_answers (size : uint64.Holds g.cellCount) (budget : Nat) (start goal : Cell) :
    Answers g budget start goal (find g budget start goal) := by
  unfold find findBy
  split
  · rename_i same
    exact .here same
  · rename_i apart
    cases first : g.index? start with
    | none => exact .offGrid apart (.inl (Grid.index?_eq_none_iff.1 first))
    | some i =>
      cases last : g.index? goal with
      | none => exact .offGrid apart (.inr (Grid.index?_eq_none_iff.1 last))
      | some j =>
        exact .searched apart first last
          (run_ends (.initial first) .initial size _ work_initial_lt)

end Cityscape.Route
