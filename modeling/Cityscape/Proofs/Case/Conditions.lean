import Cityscape.Proofs.Frame.Windows

/-!
# Conditions of one kind

`Case.Every P` says that all conditions in a list of cases are of the kind `P`. Lists of cases are
made from others by changing images, by nesting, by excluding earlier cases, and from frames; the
conditions of the result are joined, negated, certain or windows. So a list that is made from cases of
one kind is of that kind again, if the kind admits what has been done to the conditions.
-/

namespace Cityscape

variable {α β : Type} {P : Condition → Prop}

/-- A kind of conditions that the certain condition belongs to, and with each two conditions their
conjunction and their negations. -/
structure Condition.Closed (P : Condition → Prop) : Prop where
  always : P .always
  conj : ∀ a b, P a → P b → P (a.conj b)
  negate : ∀ a, P a → P a.negate

namespace Case

/-- All conditions of the cases are of one kind. -/
def Every (P : Condition → Prop) (cs : List (Case α)) : Prop := ∀ c ∈ cs, P c.condition

/-- Changing the images does not change the kind of the conditions. -/
lemma Every.map {cs : List (Case α)} (f : α → β) (h : Every P cs) :
    Every P (cs.map (Case.map f)) := by
  intro _ hm
  obtain ⟨c, hc, rfl⟩ := List.mem_map.1 hm
  exact h c hc

/-- Nested cases have conditions of one kind if the outer and the inner cases have, and if
conjunctions stay in it. -/
lemma Every.nest {cs : List (Case α)} {inner : α → List (Case β)}
    (conj : ∀ a b, P a → P b → P (a.conj b)) (h : Every P cs)
    (hi : ∀ c ∈ cs, Every P (inner c.image)) : Every P (Case.nest cs inner) := by
  intro _ hm
  obtain ⟨c, hc, hm⟩ := List.mem_flatMap.1 hm
  obtain ⟨d, hd, rfl⟩ := List.mem_map.1 hm
  have outer := h c hc
  have inner := hi c hc d hd
  exact conj _ _ outer inner

/-- Making cases exclusive keeps their conditions in a closed kind. -/
lemma Every.exclusive {cs : List (Case α)} {excluded : Condition} (closed : Condition.Closed P)
    (he : P excluded) (h : Every P cs) : Every P (Case.exclusive excluded cs) := by
  induction cs generalizing excluded with
  | nil => exact List.forall_mem_nil _
  | cons c cs ih =>
    obtain ⟨hc, hs⟩ := List.forall_mem_cons.1 h
    have here := closed.conj _ _ he hc
    have behind := closed.conj _ _ he (closed.negate _ hc)
    exact List.forall_mem_cons.2 ⟨here, ih behind hs⟩

end Case

namespace Frame

open Case (Every)

/-- Making the last case the default keeps the conditions in a kind that the certain condition
belongs to. -/
lemma every_withDefault (always : P .always) {cs : List (Case α)} (h : Every P cs) :
    Every P (withDefault cs) := by
  induction cs with
  | nil => exact h
  | cons c cs ih =>
    obtain ⟨hc, hs⟩ := List.forall_mem_cons.1 h
    cases cs with
    | nil => exact List.forall_mem_singleton.2 always
    | cons d cs => exact List.forall_mem_cons.2 ⟨hc, ih hs⟩

section
variable (window : ∀ period start stop, P (.frame period start stop))
include window

/-- The conditions of the windows of frames are of one kind if windows are. -/
lemma every_windowsFrom {p start : Nat} {fs : List (Frame α)} :
    Every P (windowsFrom p start fs) := by
  induction fs generalizing start with
  | nil => exact List.forall_mem_nil _
  | cons f fs ih => exact List.forall_mem_cons.2 ⟨window _ _ _, ih⟩

/-- Frames have windows, or there is one that is always shown. -/
lemma every_windows (always : P .always) (fs : List (Frame α)) : Every P (windows fs) := by
  match fs with
  | [] => exact List.forall_mem_nil _
  | [f] => exact List.forall_mem_singleton.2 always
  | f :: g :: fs => exact every_windowsFrom window

/-- The conditions of the cases of frames are of one kind if windows and the certain condition are. -/
lemma every_asCases (always : P .always) (fs : List (Frame α)) : Every P (asCases fs) :=
  every_withDefault always (every_windows window always fs)

end

end Frame

end Cityscape
