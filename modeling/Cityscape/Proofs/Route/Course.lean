import Cityscape.Proofs.Route.Termination

/-!
# The course of a search

`Course` follows a search iteration by iteration, for as long as it takes, and logs the cells that it
expands. A search that has enough iterations has such a course (`run_course`), and no cell is
expanded twice on it, because what has been expanded is closed from then on (`Course.nodup`).
-/

namespace Cityscape.Route

variable {g : Grid} {remaining : Cell → Nat} {budget : Nat} {goal : Fin g.cellCount}

/-- The cells that a search expands from a state on, in order, and the answer that it comes to. An
iteration that counts as an expansion expands the first waiting cell. -/
inductive Course (g : Grid) (remaining : Cell → Nat) (budget : Nat) (goal : Fin g.cellCount) :
    Search g.cellCount → List (Fin g.cellCount) → Option Route → Prop where
  | ended {s answer} (last : step g remaining budget goal s = .ended answer) :
      Course g remaining budget goal s [] answer
  | skipped {s t log answer} (next : step g remaining budget goal s = .searching t)
      (count : t.expanded = s.expanded) (rest : Course g remaining budget goal t log answer) :
      Course g remaining budget goal s log answer
  | expanded {s t first others log answer} (waiting : s.frontier = first :: others)
      (next : step g remaining budget goal s = .searching t)
      (count : t.expanded = s.expanded + 1) (rest : Course g remaining budget goal t log answer) :
      Course g remaining budget goal s (first.index :: log) answer

/-- A search that has enough iterations left runs its course. -/
lemma run_course {start : Cell} {s : Search g.cellCount} (sound : s.Sound g start) (fuel : Nat)
    (enough : s.work < fuel) :
    ∃ log, Course g remaining budget goal s log (run g remaining budget goal fuel s) := by
  refine @run_induction g remaining budget goal
    (fun s answer => ∃ log, Course g remaining budget goal s log answer) start ?_ ?_ s sound fuel
    enough
  · intro s answer _ last
    exact ⟨[], .ended last⟩
  · intro s t answer _ next ⟨log, rest⟩
    have it := @iteration g remaining budget goal s
    rw [next] at it
    cases it with
    | stale => exact ⟨log, .skipped next rfl rest⟩
    | expanded waiting =>
      exact ⟨_, .expanded waiting next (expanded_expand s _ _) rest⟩

/-- To expand a cell closes this cell and no other one. -/
lemma closed_expand (s : Search g.cellCount) (first : Waiting g.cellCount)
    (others : Frontier g.cellCount) (i : Fin g.cellCount) :
    ((s.expand g remaining first others).visits.get i).closed =
      (decide (first.index = i) || (s.visits.get i).closed) := by
  have offers := @List.foldlRecOn _ _
    (fun t : Search g.cellCount => (t.visits.get i).closed =
      ((s.taken first others).visits.get i).closed)
    (g.cellAt first.index).neighbours (offer g remaining first.index (first.cost + 1))
    { s.taken first others with expanded := s.expanded + 1 } rfl fun t same next _ =>
      (closed_offer first.index (first.cost + 1) t next i).trans same
  refine offers.trans ?_
  rw [Search.visits_taken]
  split
  · rename_i e
    rw [decide_eq_true e, Bool.true_or]
  · rename_i e
    rw [decide_eq_false e, Bool.false_or]

/-- A search expands no cell twice, and none that is closed when it starts. -/
lemma Course.nodup {s : Search g.cellCount} {log answer}
    (h : Course g remaining budget goal s log answer) :
    log.Nodup ∧ ∀ i ∈ log, (s.visits.get i).closed = false := by
  induction h with
  | ended => exact ⟨List.nodup_nil, fun _ hi => nomatch hi⟩
  | @skipped s t _ _ next count _ ih =>
    obtain ⟨nodup, opened⟩ := ih
    have it := @iteration g remaining budget goal s
    rw [next] at it
    cases it with
    | stale => exact ⟨nodup, opened⟩
    | expanded =>
      rw [expanded_expand] at count
      omega
  | @expanded s t first others log _ waiting next count _ ih =>
    obtain ⟨nodup, opened⟩ := ih
    have it := @iteration g remaining budget goal s
    rw [next] at it
    cases it with
    | stale => exact absurd count (Nat.ne_of_lt (Nat.lt_succ_self _))
    | @expanded first' others' waiting' opened' =>
      obtain ⟨rfl, rfl⟩ := List.cons.inj (waiting.symm.trans waiting')
      have apart (i) (hi : i ∈ log) : first.index ≠ i ∧ (s.visits.get i).closed = false := by
        have open' := opened i hi
        rw [closed_expand, Bool.or_eq_false_iff] at open'
        exact ⟨of_decide_eq_false open'.1, open'.2⟩
      refine ⟨List.nodup_cons.2 ⟨fun hi => (apart _ hi).1 rfl, nodup⟩, fun i hi => ?_⟩
      rcases List.mem_cons.1 hi with rfl | hi
      · exact opened'
      · exact (apart i hi).2

end Cityscape.Route
