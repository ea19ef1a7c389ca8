import Cityscape.Proofs.Grid
import Cityscape.Route.Search
import Mathlib.Algebra.Group.Nat.Defs

/-!
# What a search visits

The cells that wait in a search and those that its parents name are routable, or are the start
(`Search.Sound`), and no walk that waits is longer than the number of cells expanded so far, which
are the closed ones. One iteration keeps this (`Search.Sound.iteration`), so a route stays on
routable cells behind its start (`passable_of_mem_path`), and no search counts further than the
grid has cells (`Reached.cost_le`).
-/

namespace Cityscape

namespace Route

variable {g : Grid} {remaining : Cell → Nat} {budget : Nat} {goal : Fin g.cellCount}

/-- An offer changes nothing, or it puts an open routable cell on the frontier. -/
lemma offer_cases (origin : Fin g.cellCount) (cost : Nat) (s : Search g.cellCount) (next : Cell) :
    offer g remaining origin cost s next = s ∨
      ∃ i, g.index? next = some i ∧ g.isRoutable next = true ∧ (s.visits.get i).closed = false ∧
        (s.visits.get i).improvedBy cost = true ∧
        offer g remaining origin cost s next =
          { s with
            visits := s.visits.set i.val
              { s.visits.get i with cost := some cost, parent := some origin } i.isLt
            frontier := s.frontier.insert
              ⟨Bounds.uint32.clampNat (cost + remaining next), cost, i⟩ } := by
  unfold offer
  cases place : g.index? next with
  | none => exact .inl rfl
  | some i =>
    dsimp only
    split
    · exact .inl rfl
    · rename_i accepted
      simp only [Bool.or_eq_true, Bool.not_eq_true', not_or, Bool.not_eq_true,
        Bool.not_eq_false] at accepted
      obtain ⟨⟨opened, routable⟩, improved⟩ := accepted
      exact .inr ⟨i, rfl, routable, opened, improved, rfl⟩

/-- The search with the first waiting cell expanded. -/
def Search.expand (g : Grid) (remaining : Cell → Nat) (s : Search g.cellCount)
    (first : Waiting g.cellCount) (others : Frontier g.cellCount) : Search g.cellCount :=
  (g.cellAt first.index).neighbours.foldl (offer g remaining first.index (first.cost + 1))
    { ({ s with frontier := others } : Search g.cellCount).close first.index with
      expanded := s.expanded + 1 }

/-- What one iteration can lead to: nothing waits, or the first waiting cell has been expanded
before, is the goal, is one too many for the budget, or is expanded. -/
inductive Iteration (g : Grid) (remaining : Cell → Nat) (budget : Nat) (goal : Fin g.cellCount)
    (s : Search g.cellCount) : Progress g.cellCount → Prop where
  | exhausted (nothing : s.frontier = []) : Iteration g remaining budget goal s (.ended none)
  | stale {first others} (waiting : s.frontier = first :: others)
      (closed : (s.visits.get first.index).closed = true) :
      Iteration g remaining budget goal s (.searching { s with frontier := others })
  | arrived {first others} (waiting : s.frontier = first :: others)
      (opened : (s.visits.get first.index).closed = false) (here : first.index = goal) :
      Iteration g remaining budget goal s (.ended (some ⟨first.cost, traceBack g
        (({ s with frontier := others } : Search g.cellCount).close first.index).visits
        g.cellCount goal []⟩))
  | spent {first others} (waiting : s.frontier = first :: others)
      (opened : (s.visits.get first.index).closed = false) (onWay : first.index ≠ goal)
      (spent : budget ≤ s.expanded) : Iteration g remaining budget goal s (.ended none)
  | expanded {first others} (waiting : s.frontier = first :: others)
      (opened : (s.visits.get first.index).closed = false) (onWay : first.index ≠ goal)
      (more : s.expanded < budget) :
      Iteration g remaining budget goal s (.searching (s.expand g remaining first others))

/-- An iteration leads to one of the outcomes listed. -/
lemma iteration (s : Search g.cellCount) :
    Iteration g remaining budget goal s (step g remaining budget goal s) := by
  unfold step
  split
  · rename_i nothing
    exact .exhausted nothing
  · rename_i first others waiting
    dsimp only
    split
    · rename_i closed
      exact .stale waiting closed
    · rename_i opened
      have opened := Bool.not_eq_true _ ▸ opened
      split
      · rename_i here
        exact .arrived waiting opened here
      · rename_i onWay
        split
        · rename_i spent
          exact .spent waiting opened onWay spent
        · rename_i more
          exact .expanded waiting opened onWay (Nat.lt_of_not_le more)

/-- What an iteration can lead to, it does lead to. -/
lemma Iteration.step_eq {s : Search g.cellCount} {p : Progress g.cellCount}
    (it : Iteration g remaining budget goal s p) : step g remaining budget goal s = p := by
  cases it with
  | exhausted nothing => simp only [step, nothing]
  | stale waiting closed =>
    simp only [step, waiting]
    exact if_pos closed
  | arrived waiting opened here =>
    simp only [step, waiting]
    rw [if_neg (ne_true_of_eq_false opened), if_pos here]
  | spent waiting opened onWay spent =>
    simp only [step, waiting]
    rw [if_neg (ne_true_of_eq_false opened), if_neg onWay]
    exact if_pos spent
  | expanded waiting opened onWay more =>
    simp only [step, waiting]
    rw [if_neg (ne_true_of_eq_false opened), if_neg onWay]
    exact if_neg (Nat.not_le_of_lt more)

/-- A vector with one entry set has the new value there, and its own values elsewhere. -/
lemma get_set {α : Type} {n : Nat} (v : Vector α n) (i j : Fin n) (a : α) :
    (v.set i.val a i.isLt).get j = if i = j then a else v.get j := by
  simp only [Fin.ext_iff]
  exact Vector.getElem_set i.isLt j.isLt

/-- A cell that a search may visit: where it starts, or a routable cell. -/
def Passable (g : Grid) (start c : Cell) : Prop := c = start ∨ g.isRoutable c = true

/-- What every state of a search from `start` is like. -/
structure Search.Sound (g : Grid) (start : Cell) (s : Search g.cellCount) : Prop where
  waiting : ∀ w ∈ s.frontier, Passable g start (g.cellAt w.index)
  cost : ∀ w ∈ s.frontier, w.cost ≤ s.expanded
  parent : ∀ i before, (s.visits.get i).parent = some before →
    Passable g start (g.cellAt before)
  closed : s.expanded = s.visits.countP Visit.closed

variable {start : Cell}

namespace Search.Sound

/-- A search is sound at its start. -/
lemma initial {i : Fin g.cellCount} (place : g.index? start = some i) :
    Sound g start (.initial g remaining start i) where
  waiting w hw := by
    obtain rfl := List.mem_singleton.1 hw
    exact .inl (Grid.cellAt_of_index? place)
  cost w hw := by
    obtain rfl := List.mem_singleton.1 hw
    exact Nat.zero_le _
  parent j before h := by
    rw [Search.initial, get_set] at h
    split at h
    · exact absurd h (by simp [Visit.fresh])
    · rw [show (Vector.replicate g.cellCount Visit.fresh).get j = Visit.fresh from
        Vector.getElem_replicate _] at h
      exact absurd h (by simp [Visit.fresh])
  closed := by
    simp [Search.initial, Vector.countP_set, Visit.fresh, Vector.countP_replicate]

/-- No search expands more cells than the grid has. -/
lemma expanded_le {s : Search g.cellCount} (h : Sound g start s) : s.expanded ≤ g.cellCount :=
  h.closed ▸ Vector.countP_le_size

/-- An offer keeps a search sound if its walk comes from a passable cell and is no longer than
what has been expanded. -/
lemma offer {s : Search g.cellCount} (h : Sound g start s) {origin : Fin g.cellCount} {cost : Nat}
    (passable : Passable g start (g.cellAt origin)) (short : cost ≤ s.expanded) (next : Cell) :
    Sound g start (Route.offer g remaining origin cost s next) ∧
      (Route.offer g remaining origin cost s next).expanded = s.expanded := by
  rcases @offer_cases g remaining origin cost s next with
    same | ⟨i, place, routable, opened, -, changed⟩
  · rw [same]
    exact ⟨h, rfl⟩
  · rw [changed]
    refine ⟨⟨fun w hw => ?_, fun w hw => ?_, fun j before hj => ?_, ?_⟩, rfl⟩
    · rcases Frontier.mem_insert.1 hw with rfl | hw
      · exact .inr (Grid.cellAt_of_index? place ▸ routable)
      · exact h.waiting w hw
    · rcases Frontier.mem_insert.1 hw with rfl | hw
      · exact short
      · exact h.cost w hw
    · rw [get_set] at hj
      split at hj
      · obtain rfl := Option.some.inj hj
        exact passable
      · exact h.parent j before hj
    -- The offer leaves the cell as open as it was.
    · have opened' : s.visits[i.val].closed = false := opened
      simp [Vector.countP_set, opened', opened, h.closed]

/-- Dropping the first waiting cell keeps a search sound. -/
lemma drop {s : Search g.cellCount} (h : Sound g start s) {first others}
    (waiting : s.frontier = first :: others) :
    Sound g start ({ s with frontier := others } : Search g.cellCount) := by
  have rest (w) (hw : w ∈ others) : w ∈ s.frontier := waiting ▸ List.mem_cons_of_mem _ hw
  exact ⟨fun w hw => h.waiting w (rest w hw), fun w hw => h.cost w (rest w hw), h.parent, h.closed⟩

/-- The first waiting cell is taken and closed, and counts as expanded. -/
lemma close {s : Search g.cellCount} (h : Sound g start s) {first others}
    (waiting : s.frontier = first :: others) (opened : (s.visits.get first.index).closed = false) :
    Sound g start
      { ({ s with frontier := others } : Search g.cellCount).close first.index with
        expanded := s.expanded + 1 } := by
  have rest (w) (hw : w ∈ others) : w ∈ s.frontier := waiting ▸ List.mem_cons_of_mem _ hw
  refine ⟨fun w hw => h.waiting w (rest w hw), fun w hw => ?_, fun i before hi => ?_, ?_⟩
  · exact Nat.le_succ_of_le (h.cost w (rest w hw))
  · rw [Search.close, get_set] at hi
    split at hi
    · exact h.parent first.index before hi
    · exact h.parent i before hi
  -- The cell was open, so there is one closed cell more.
  · have opened' : s.visits[first.index.val].closed = false := opened
    simp [Search.close, Vector.countP_set, opened', h.closed]

/-- Expanding an open cell keeps a search sound. -/
lemma expand {s : Search g.cellCount} (h : Sound g start s) {first others}
    (waiting : s.frontier = first :: others) (opened : (s.visits.get first.index).closed = false) :
    Sound g start (s.expand g remaining first others) := by
  have mem : first ∈ s.frontier := waiting ▸ List.mem_cons_self
  have cost : first.cost + 1 ≤ s.expanded + 1 := Nat.succ_le_succ (h.cost first mem)
  -- The walk through the cell is as long as what is expanded now, and stays so over the offers.
  have offers := @List.foldlRecOn _ _
    (fun t : Search g.cellCount => Sound g start t ∧ t.expanded = s.expanded + 1)
    (g.cellAt first.index).neighbours
    (Route.offer g remaining first.index (first.cost + 1)) _ ⟨h.close waiting opened, rfl⟩
    fun t ⟨sound, same⟩ next _ => by
      obtain ⟨sound', same'⟩ := sound.offer (h.waiting first mem) (same ▸ cost) next
      exact ⟨sound', same'.trans same⟩
  exact offers.1

/-- Tracing back along the parents gives passable cells only. -/
lemma traceBack {s : Search g.cellCount} (h : Sound g start s) (fuel : Nat) {i : Fin g.cellCount}
    {path : List Cell} (last : Passable g start (g.cellAt i))
    (rest : ∀ c ∈ path, Passable g start c) :
    ∀ c ∈ Route.traceBack g s.visits fuel i path, Passable g start c := by
  have here : ∀ c ∈ g.cellAt i :: path, Passable g start c := List.forall_mem_cons.2 ⟨last, rest⟩
  induction fuel generalizing i path with
  | zero => exact here
  | succ fuel ih =>
    rw [Route.traceBack]
    cases named : (s.visits.get i).parent with
    | none => exact here
    | some before =>
      have passable := h.parent i before named
      exact ih passable here (List.forall_mem_cons.2 ⟨passable, here⟩)

end Search.Sound

/-- A search that goes on soundly, or has ended without a route or with a passable one. -/
def Progress.Sound (g : Grid) (start : Cell) : Progress g.cellCount → Prop
  | .searching s => s.Sound g start
  | .ended answer => ∀ r ∈ answer, ∀ c ∈ r.path, Passable g start c

/-- One iteration leads from a sound search to sound progress. -/
lemma Search.Sound.iteration {s : Search g.cellCount} (h : Sound g start s)
    {p : Progress g.cellCount} (next : Iteration g remaining budget goal s p) :
    p.Sound g start := by
  cases next with
  | exhausted => exact fun _ hr => nomatch hr
  | stale waiting => exact h.drop waiting
  | @arrived first others waiting opened here =>
    have last := h.waiting first (waiting ▸ List.mem_cons_self)
    rintro r ⟨⟩
    exact (h.close waiting opened).traceBack _ (here ▸ last) (List.forall_mem_nil _)
  | spent => exact fun _ hr => nomatch hr
  | expanded waiting opened => exact h.expand waiting opened

/-- A sound search finds no route but through passable cells. -/
lemma Search.Sound.run {s : Search g.cellCount} (h : Sound g start s) (fuel : Nat) :
    ∀ r ∈ run g remaining budget goal fuel s, ∀ c ∈ r.path, Passable g start c := by
  induction fuel generalizing s with
  | zero => exact fun _ hr => nomatch hr
  | succ fuel ih =>
    have progress : (step g remaining budget goal s).Sound g start :=
      h.iteration (Route.iteration s)
    rw [Route.run]
    cases ended : step g remaining budget goal s with
    | searching t =>
      rw [ended] at progress
      exact ih progress
    | ended answer =>
      rw [ended] at progress
      exact progress

/-- Every cell of a route is routable, or is the start. -/
lemma passable_of_mem_path {goal : Cell} {r : Route} (found : find g budget start goal = some r)
    {c : Cell} (hc : c ∈ r.path) : Passable g start c := by
  unfold find findBy at found
  split at found
  · obtain rfl := Option.some.inj found
    exact .inl (List.mem_singleton.1 hc)
  · obtain ⟨i, place, found⟩ := Option.bind_eq_some_iff.1 found
    obtain ⟨j, -, found⟩ := Option.bind_eq_some_iff.1 found
    exact (Search.Sound.initial place).run _ r found c hc

/-- The states that a search from `start` goes through. -/
inductive Reached (g : Grid) (remaining : Cell → Nat) (budget : Nat) (goal : Fin g.cellCount)
    (start : Cell) (i : Fin g.cellCount) : Search g.cellCount → Prop where
  | initial : Reached g remaining budget goal start i (.initial g remaining start i)
  | step {s t} (before : Reached g remaining budget goal start i s)
      (next : step g remaining budget goal s = .searching t) :
      Reached g remaining budget goal start i t

/-- Every state that a search goes through is sound. -/
lemma Reached.sound {i : Fin g.cellCount} (place : g.index? start = some i)
    {s : Search g.cellCount} (h : Reached g remaining budget goal start i s) :
    s.Sound g start := by
  induction h with
  | initial => exact .initial place
  | @step s t _ next ih => exact ih.iteration (next ▸ iteration s)

/-- No search counts further than the grid has cells. -/
lemma Reached.cost_le {i : Fin g.cellCount} (place : g.index? start = some i)
    {s : Search g.cellCount} (h : Reached g remaining budget goal start i s)
    {w : Waiting g.cellCount} (hw : w ∈ s.frontier) : w.cost ≤ g.cellCount :=
  Nat.le_trans ((h.sound place).cost w hw) (h.sound place).expanded_le

/-- The cost of every step that a search over the grid can take fits the bounds of a length. -/
def CostsFit (g : Grid) : Prop :=
  ∀ {remaining budget goal start i s}, g.index? start = some i →
    Reached g remaining budget goal start i s → ∀ w ∈ s.frontier,
      Bounds.uint32.Holds (w.cost + 1 : Nat)

/-- On a grid of fewer than `2 ^ 31` cells, every cost fits. -/
lemma costsFit (cells : g.cellCount < 2 ^ 31) : CostsFit g := by
  intro remaining budget goal start i s place reached w hw
  have cost := reached.cost_le place hw
  simp only [Bounds.Holds, Bounds.uint32]
  omega

end Route

end Cityscape
