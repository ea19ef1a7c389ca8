import Cityscape.Proofs.Case.Selection
import Mathlib.Data.List.Forall2

/-!
# Cases that exclude one another

`exclusive` turns cases that are tried in order into cases that exclude one another: each condition
is joined with the negations of all earlier ones. The conditions that are built on the way depend on
the order of the simplifications, so two such lists are not compared as terms. `Agree` relates lists
with equal images at every position and conditions that hold in the same contexts.

The main statements are `active_exclusive` (of exclusive cases only the first match is active) and
`Agree.exclusive_nest`: nesting cases and then making them exclusive agrees with making both levels
exclusive and then nesting. The latter needs a default in every inner list, since only then does an
outer case that holds leave nothing to the outer cases behind it.
-/

namespace Cityscape.Case

variable {α β : Type}

/-- Two cases with one image, whose conditions hold in the same contexts. -/
structure Equiv (c d : Case α) : Prop where
  image : c.image = d.image
  holds : ∀ dc, c.condition.holds dc = d.condition.holds dc

/-- Two lists of cases that are equivalent position by position. -/
abbrev Agree (cs ds : List (Case α)) : Prop := List.Forall₂ Equiv cs ds

/-- A case is equivalent to itself. -/
lemma Equiv.refl (c : Case α) : Equiv c c := ⟨rfl, fun _ => rfl⟩

/-- Equivalence of cases goes both ways. -/
lemma Equiv.symm {c d : Case α} (h : Equiv c d) : Equiv d c :=
  ⟨h.image.symm, fun dc => (h.holds dc).symm⟩

/-- Equivalence carries over from case to case. -/
lemma Equiv.trans {c d e : Case α} (h : Equiv c d) (h' : Equiv d e) : Equiv c e :=
  ⟨h.image.trans h'.image, fun dc => (h.holds dc).trans (h'.holds dc)⟩

/-- A list of cases agrees with itself. -/
lemma Agree.refl (cs : List (Case α)) : Agree cs cs :=
  List.forall₂_same.2 fun c _ => .refl c

/-- Agreement goes both ways. -/
lemma Agree.symm {cs ds : List (Case α)} (h : Agree cs ds) : Agree ds cs := by
  induction h with
  | nil => exact .nil
  | cons h _ ih => exact .cons h.symm ih

/-- Agreement carries over from list to list. -/
lemma Agree.trans {cs ds es : List (Case α)} (h : Agree cs ds) (h' : Agree ds es) :
    Agree cs es := by
  induction h generalizing es with
  | nil => exact h'
  | cons h _ ih =>
    cases h' with
    | cons h' hs' => exact .cons (h.trans h') (ih hs')

/-- Cases that agree still do when their images are changed in one way. -/
lemma Agree.map {cs ds : List (Case α)} (f : α → β) (h : Agree cs ds) :
    Agree (cs.map (Case.map f)) (ds.map (Case.map f)) := by
  induction h with
  | nil => exact .nil
  | cons h _ ih => exact .cons ⟨congrArg f h.image, h.holds⟩ ih

/-- Cases that agree still do under guards that hold in the same contexts. -/
lemma Agree.under {cs ds : List (Case α)} {g g' : Condition}
    (hg : ∀ dc, g.holds dc = g'.holds dc) (h : Agree cs ds) :
    Agree (cs.map (Case.under g)) (ds.map (Case.under g')) := by
  induction h with
  | nil => exact .nil
  | @cons c d _ _ h _ ih =>
    refine .cons ⟨h.image, fun dc => ?_⟩ ih
    simp only [Case.under, Condition.holds_conj, hg dc, h.holds dc]

/-- Cases that agree still do when others that agree are nested in them. -/
lemma Agree.nest {cs ds : List (Case α)} {inner inner' : α → List (Case β)} (h : Agree cs ds)
    (hi : ∀ c ∈ cs, Agree (inner c.image) (inner' c.image)) :
    Agree (nest cs inner) (nest ds inner') := by
  induction h with
  | nil => exact .nil
  | @cons c d cs ds h _ ih =>
    have head : Agree ((inner c.image).map (Case.under c.condition))
        ((inner' d.image).map (Case.under d.condition)) := by
      rw [← h.image]
      exact (hi c List.mem_cons_self).under h.holds
    have tail := ih fun e he => hi e (List.mem_cons_of_mem _ he)
    exact List.rel_append head tail

/-- In lists that agree, the cases at one position are equivalent. -/
lemma Agree.getElem? {cs ds : List (Case α)} (h : Agree cs ds) {i : Nat} {c d}
    (hc : cs[i]? = some c) (hd : ds[i]? = some d) : Equiv c d := by
  induction h generalizing i with
  | nil => cases hc
  | cons h _ ih =>
    cases i with
    | zero =>
      obtain rfl := Option.some.inj hc
      obtain rfl := Option.some.inj hd
      exact h
    | succ i => exact ih hc hd

/-- Where a condition holds and none of the given cases does. -/
def remaining (excluded : Condition) (cs : List (Case α)) : Condition :=
  cs.foldl (fun rest c => rest.conj c.condition.negate) excluded

/-- What cases leave of a condition holds where the condition does and none of the cases. -/
lemma holds_remaining {dc : DrawContext} {excluded : Condition} {cs : List (Case α)} :
    (remaining excluded cs).holds dc = (excluded.holds dc && (active dc cs).isEmpty) := by
  induction cs generalizing excluded with
  | nil => simp [remaining]
  | cons c cs ih =>
    have e : remaining excluded (c :: cs) = remaining (excluded.conj c.condition.negate) cs := rfl
    rw [e, ih, Condition.holds_conj, Condition.holds_negate, active_cons]
    cases c.condition.holds dc <;> simp

/-- The later cases of a list exclude the earlier ones. -/
lemma exclusive_append {excluded : Condition} {cs ds : List (Case α)} :
    exclusive excluded (cs ++ ds) =
      exclusive excluded cs ++ exclusive (remaining excluded cs) ds := by
  induction cs generalizing excluded with
  | nil => rfl
  | cons c cs ih =>
    show _ :: exclusive (excluded.conj c.condition.negate) (cs ++ ds) = _
    rw [ih]
    rfl

/-- Cases are made exclusive by their conditions, so their images can be changed before or after. -/
lemma exclusive_map {f : α → β} {excluded : Condition} {cs : List (Case α)} :
    exclusive excluded (cs.map (Case.map f)) = (exclusive excluded cs).map (Case.map f) := by
  induction cs generalizing excluded with
  | nil => rfl
  | cons c cs ih =>
    show _ :: exclusive (excluded.conj c.condition.negate) (cs.map (Case.map f)) = _
    rw [ih]
    rfl

/-- Making cases exclusive keeps the images. -/
lemma images_exclusive {excluded : Condition} {cs : List (Case α)} :
    (exclusive excluded cs).map (·.image) = cs.map (·.image) := by
  induction cs generalizing excluded with
  | nil => rfl
  | cons c cs ih => exact congrArg (c.image :: ·) ih

/-- The image of an exclusive case is that of one of the cases. -/
lemma mem_exclusive {excluded : Condition} {cs : List (Case α)} {c}
    (h : c ∈ exclusive excluded cs) : ∃ d ∈ cs, d.image = c.image := by
  apply List.mem_map.1
  rw [← images_exclusive]
  exact List.mem_map_of_mem h

/-- Of exclusive cases, only the first that holds is active. -/
lemma active_exclusive {dc : DrawContext} {excluded : Condition} {cs : List (Case α)} :
    active dc (exclusive excluded cs) =
      if excluded.holds dc then (active dc cs).take 1 else [] := by
  induction cs generalizing excluded with
  | nil => simp [exclusive]
  | cons c cs ih =>
    obtain ⟨condition, image⟩ := c
    rw [exclusive, active_cons, active_cons, ih, Condition.holds_conj, Condition.holds_conj,
      Condition.holds_negate]
    cases excluded.holds dc <;> cases condition.holds dc <;> simp

/-- With a default, exactly the selected image is active in exclusive cases. -/
lemma Selects.active_exclusive {dc : DrawContext} {cs : List (Case α)} {a}
    (h : Selects dc cs a) : active dc (exclusive .always cs) = [a] := by
  rw [Case.active_exclusive, h.active_eq]
  rfl

/-- Cases that agree still do when they are made exclusive. -/
lemma Agree.exclusive {cs ds : List (Case α)} {e e' : Condition}
    (he : ∀ dc, e.holds dc = e'.holds dc) (h : Agree cs ds) :
    Agree (exclusive e cs) (exclusive e' ds) := by
  induction h generalizing e e' with
  | nil => exact .nil
  | @cons c d _ _ h _ ih =>
    refine .cons ⟨h.image, fun dc => ?_⟩ (ih fun dc => ?_)
    · simp only [Condition.holds_conj, he dc, h.holds dc]
    · simp only [Condition.holds_conj, Condition.holds_negate, he dc, h.holds dc]

/-- A condition over all cases can be moved out of the exclusions: in `guard ∧ cᵢ` with each earlier
`¬(guard ∧ cⱼ)`, the guard is needed only once. -/
lemma Agree.exclusive_under {cs : List (Case α)} {e guard e' guard' : Condition}
    (h : ∀ dc, (e.holds dc && guard.holds dc) = (guard'.holds dc && e'.holds dc)) :
    Agree (Case.exclusive e (cs.map (Case.under guard)))
      ((Case.exclusive e' cs).map (Case.under guard')) := by
  induction cs generalizing e e' with
  | nil => exact .nil
  | cons c cs ih =>
    refine .cons ⟨rfl, fun dc => ?_⟩ (ih fun dc => ?_)
    · simp only [Case.under, Condition.holds_conj, ← Bool.and_assoc, h dc]
    · -- The two exclusions may differ where the guard fails, but only there.
      have hc := h dc
      simp only [Condition.holds_conj, Condition.holds_negate]
      revert hc
      cases e.holds dc <;> cases guard.holds dc <;> cases guard'.holds dc <;>
        cases e'.holds dc <;> simp

/-- Making nested cases exclusive agrees with making both levels exclusive. -/
lemma Agree.exclusive_nest {cs : List (Case α)} {inner : α → List (Case β)} {e : Condition}
    (total : ∀ c ∈ cs, HasDefault (inner c.image)) :
    Agree (Case.exclusive e (Case.nest cs inner))
      (Case.nest (Case.exclusive e cs) fun a => Case.exclusive .always (inner a)) := by
  induction cs generalizing e with
  | nil => exact .nil
  | cons c cs ih =>
    rw [nest_cons, exclusive_append]
    -- The first inner list keeps the condition of its case in front of its own exclusions.
    have head : Agree (Case.exclusive e ((inner c.image).map (Case.under c.condition)))
        ((Case.exclusive .always (inner c.image)).map (Case.under (e.conj c.condition))) :=
      exclusive_under fun dc => by simp [Condition.holds]
    -- Its default leaves to the others exactly the contexts in which the case does not hold.
    have rest : ∀ dc, (remaining e ((inner c.image).map (Case.under c.condition))).holds dc =
        (e.conj c.condition.negate).holds dc := by
      intro dc
      obtain ⟨a, ha⟩ := (total c List.mem_cons_self).selects dc
      rw [holds_remaining, active_under, ha.active_eq, Condition.holds_conj,
        Condition.holds_negate]
      cases c.condition.holds dc <;> rfl
    have tail := ih (e := e.conj c.condition.negate) fun d hd => total d (List.mem_cons_of_mem _ hd)
    exact List.rel_append head (((Agree.refl _).exclusive rest).trans tail)

end Cityscape.Case
