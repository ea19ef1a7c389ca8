import Cityscape.TileImage.Selection
import Mathlib.Tactic.Lemma

/-!
# Selection from lists of cases

A list of cases is read in a context in two ways. `active` collects the images of all cases that
hold there, in order, and `Selects` is the judgment that the first of them is a given image. Lists
of cases compose by `nest`, which replaces the image of each case by further cases and puts these
under the condition of the case; splicing, crossing and guarding are all instances of it.

The main statements are `active_nest` (nesting cases nests what is active) and its corollary
`Selects.nest` (the first match of nested cases is found by two first matches, one after the
other). `HasDefault` says that the last case always holds; such a list selects something in every
context (`HasDefault.selects`), and nesting keeps it (`HasDefault.nest`).
-/

namespace Cityscape.Case

variable {α β : Type}

/-- The case with a condition that has to hold as well. -/
def under (guard : Condition) (c : Case α) : Case α := ⟨guard.conj c.condition, c.image⟩

/-- The cases that the images of other cases lead to, under the conditions of those. -/
def nest (cs : List (Case α)) (inner : α → List (Case β)) : List (Case β) :=
  cs.flatMap fun c => (inner c.image).map (under c.condition)

/-- The images of the cases that hold in a context, in order. -/
def active (dc : DrawContext) (cs : List (Case α)) : List α :=
  (cs.filter fun c => c.condition.holds dc).map (·.image)

/-- The first case that holds in a context has a given image. -/
def Selects (dc : DrawContext) (cs : List (Case α)) (a : α) : Prop :=
  (active dc cs).head? = some a

/-- The last of the cases always holds. -/
inductive HasDefault : List (Case α) → Prop where
  | last {a} :
    HasDefault [⟨.always, a⟩]
  | cons {c cs} :
    HasDefault cs →
    HasDefault (c :: cs)

/-- Cases changed in two ways that agree on their images come out the same. -/
lemma map_congr {f g : α → β} {cs : List (Case α)} (h : ∀ c ∈ cs, f c.image = g c.image) :
    cs.map (Case.map f) = cs.map (Case.map g) :=
  List.map_congr_left fun c hc => congrArg (Case.mk c.condition) (h c hc)

/-- Cases whose images are not changed stay the same. -/
lemma map_eq_self {f : α → α} {cs : List (Case α)} (h : ∀ c ∈ cs, f c.image = c.image) :
    cs.map (Case.map f) = cs := by
  have same : cs.map (Case.map f) = cs.map (Case.map id) := map_congr h
  exact same.trans (List.map_id cs)

/-- Changing cases twice is changing them once by both changes. -/
lemma map_map {γ : Type} {f : α → β} {g : β → γ} {cs : List (Case α)} :
    (cs.map (Case.map f)).map (Case.map g) = cs.map (Case.map fun a => g (f a)) := List.map_map

/-- Of changed cases the selected image is the selected one, changed. -/
lemma selected?_map {dc : DrawContext} {f : α → β} {cs : List (Case α)} :
    selected? dc (cs.map (Case.map f)) = (selected? dc cs).map f := by
  have index : selectedIndex dc (cs.map (Case.map f)) = selectedIndex dc cs := by
    rw [selectedIndex, List.findIdx?_map, List.length_map]
    rfl
  rw [selected?, selected?, index, List.getElem?_map, Option.map_map, Option.map_map]
  rfl

/-- Nesting puts the cases inside the first case before those inside the others. -/
lemma nest_cons {c : Case α} {cs} {inner : α → List (Case β)} :
    nest (c :: cs) inner = (inner c.image).map (under c.condition) ++ nest cs inner := rfl

/-- The certain condition adds nothing to a conjunction. -/
lemma conj_always (c : Condition) : c.conj .always = c := by
  cases c <;> rfl

/-- Cases with one certain case inside each are the cases themselves, with other images. -/
lemma nest_always {cs : List (Case α)} {f : α → β} :
    nest cs (fun a => [⟨.always, f a⟩]) = cs.map (Case.map f) := by
  induction cs with
  | nil => rfl
  | cons c cs ih =>
    rw [nest_cons, ih, List.map_singleton, under, conj_always]
    rfl

/-- A certain case leads to the cases inside it. -/
lemma always_nest {a : α} {inner : α → List (Case β)} : nest [⟨.always, a⟩] inner = inner a := by
  rw [nest, List.flatMap_singleton]
  exact List.map_id (inner a)

/-- Cases can be changed first, or in looking for the cases inside them. -/
lemma nest_map {γ : Type} {cs : List (Case α)} {f : α → β} {inner : β → List (Case γ)} :
    nest (cs.map (Case.map f)) inner = nest cs fun a => inner (f a) := by
  rw [nest, List.flatMap_map]
  rfl

/-- Nested cases depend only on what is inside the images of the cases. -/
lemma nest_congr {cs : List (Case α)} {inner inner' : α → List (Case β)}
    (h : ∀ c ∈ cs, inner c.image = inner' c.image) : nest cs inner = nest cs inner' := by
  induction cs with
  | nil => rfl
  | cons c cs ih =>
    have head := h c List.mem_cons_self
    have tail := ih fun d hd => h d (List.mem_cons_of_mem _ hd)
    rw [nest_cons, nest_cons, head, tail]

/-- Nesting changes nothing where every image leads to itself. -/
lemma nest_eq_self {cs : List (Case α)} {inner : α → List (Case α)}
    (h : ∀ c ∈ cs, inner c.image = [⟨.always, c.image⟩]) : nest cs inner = cs := by
  have certain : nest cs inner = nest cs fun a => [⟨.always, id a⟩] := nest_congr h
  exact certain.trans (nest_always.trans (List.map_id cs))

/-- A nested case has its image from a case inside one of the cases. -/
lemma mem_nest {cs : List (Case α)} {inner : α → List (Case β)} {d} (h : d ∈ nest cs inner) :
    ∃ c ∈ cs, ∃ e ∈ inner c.image, e.image = d.image := by
  obtain ⟨c, hc, hd⟩ := List.mem_flatMap.1 h
  obtain ⟨e, he, rfl⟩ := List.mem_map.1 hd
  exact ⟨c, hc, e, he, rfl⟩

section
variable {dc : DrawContext}

/-- Where there are no cases, none is active. -/
@[simp] lemma active_nil : active dc ([] : List (Case α)) = [] := rfl

/-- A case is active before those behind it, if it holds. -/
@[simp] lemma active_cons {c : Case α} {cs} :
    active dc (c :: cs) =
      if c.condition.holds dc then c.image :: active dc cs else active dc cs := by
  rw [active, List.filter_cons]
  split <;> rfl

/-- What is active in one list comes before what is active in the list behind it. -/
@[simp] lemma active_append {cs ds : List (Case α)} :
    active dc (cs ++ ds) = active dc cs ++ active dc ds := by
  simp only [active, List.filter_append, List.map_append]

/-- Of changed cases the active images are the active ones, changed. -/
@[simp] lemma active_map {f : α → β} {cs : List (Case α)} :
    active dc (cs.map (Case.map f)) = (active dc cs).map f := by
  induction cs with
  | nil => rfl
  | cons c cs ih =>
    rw [List.map_cons, active_cons, active_cons, ih]
    show (if c.condition.holds dc then _ else _) = _
    split <;> rfl

/-- Under a guard cases are active as before where it holds, and not at all where it does not. -/
@[simp] lemma active_under {guard : Condition} {cs : List (Case α)} :
    active dc (cs.map (under guard)) = if guard.holds dc then active dc cs else [] := by
  induction cs with
  | nil => simp
  | cons c cs ih =>
    rw [List.map_cons, active_cons, active_cons, ih, under, Condition.holds_conj]
    cases guard.holds dc <;> simp

/-- What is active in nested cases is what is active in the images of the active cases. -/
lemma active_nest {cs : List (Case α)} {inner : α → List (Case β)} :
    active dc (nest cs inner) = (active dc cs).flatMap fun a => active dc (inner a) := by
  induction cs with
  | nil => rfl
  | cons c cs ih =>
    rw [nest_cons, active_append, active_under, active_cons, ih]
    split <;> simp

/-- An active image is that of a case. -/
lemma mem_of_mem_active {cs : List (Case α)} {a} (h : a ∈ active dc cs) :
    ∃ c ∈ cs, c.image = a := by
  obtain ⟨c, hc, e⟩ := List.mem_map.1 h
  exact ⟨c, (List.mem_filter.1 hc).1, e⟩

/-- If only one image is active, then only one case holds. -/
lemma exists_unique_of_active {cs : List (Case α)} {a} (h : active dc cs = [a]) :
    ∃ (i : Nat) (c : Case α), cs[i]? = some c ∧ c.condition.holds dc = true ∧ c.image = a ∧
      ∀ (j : Nat) (d : Case α), cs[j]? = some d → d.condition.holds dc = true → j = i := by
  induction cs with
  | nil => cases h
  | cons c cs ih =>
    rw [active_cons] at h
    split at h
    case isTrue hc =>
      obtain ⟨rfl, none⟩ := List.cons.inj h
      refine ⟨0, c, rfl, hc, rfl, fun j d hd holds => ?_⟩
      cases j with
      | zero => rfl
      | succ j =>
        -- Nothing behind the first case is active, so a case that holds there is a contradiction.
        have hm : d ∈ cs.filter fun e => e.condition.holds dc :=
          List.mem_filter.2 ⟨List.mem_of_getElem? hd, holds⟩
        rw [List.map_eq_nil_iff.1 none] at hm
        cases hm
    case isFalse hc =>
      obtain ⟨i, d, hd, holds, image, unique⟩ := ih h
      refine ⟨i + 1, d, hd, holds, image, fun j e he holds' => ?_⟩
      cases j with
      | zero =>
        obtain rfl := Option.some.inj he
        exact absurd holds' hc
      | succ j => rw [unique j e he holds']

/-- A selected image is that of a case. -/
lemma Selects.mem {cs : List (Case α)} {a} (h : Selects dc cs a) : ∃ c ∈ cs, c.image = a :=
  mem_of_mem_active (List.mem_of_mem_head? h)

/-- A selected image is the first that is active. -/
lemma Selects.active_eq {cs : List (Case α)} {a} (h : Selects dc cs a) :
    active dc cs = a :: (active dc cs).tail := by
  obtain ⟨as, e⟩ := List.head?_eq_some_iff.1 h
  rw [e, List.tail_cons]

/-- At most one image is selected. -/
lemma Selects.unique {cs : List (Case α)} {a b} (h : Selects dc cs a) (h' : Selects dc cs b) :
    a = b :=
  Option.some.inj (h.symm.trans h')

/-- Of changed cases the selected image is changed too. -/
lemma Selects.map {cs : List (Case α)} {a} (f : α → β) (h : Selects dc cs a) :
    Selects dc (cs.map (Case.map f)) (f a) := by
  show (active dc (cs.map (Case.map f))).head? = some (f a)
  rw [active_map, List.head?_map, h]
  rfl

/-- Nested cases are selected from in two steps: a case, and then a case of its image. -/
lemma Selects.nest {cs : List (Case α)} {inner : α → List (Case β)} {a b}
    (h : Selects dc cs a) (h' : Selects dc (inner a) b) : Selects dc (nest cs inner) b := by
  show (active dc (Case.nest cs inner)).head? = some b
  rw [active_nest, h.active_eq, List.flatMap_cons, h'.active_eq]
  rfl

/-- The first case is selected if it holds, and if not, one behind it is. -/
lemma Selects.cons {c : Case α} {cs a} :
    Selects dc (c :: cs) a ↔ if c.condition.holds dc then c.image = a else Selects dc cs a := by
  rw [Selects, active_cons]
  split
  · rw [List.head?_cons, Option.some.injEq]
  · rfl

/-- A selected image is found at the position of the first case that holds. -/
lemma Selects.findIdx? {cs : List (Case α)} {a} (h : Selects dc cs a) :
    ∃ i, (cs.findIdx? fun c => c.condition.holds dc) = some i ∧ cs[i]?.map (·.image) = some a := by
  induction cs with
  | nil => cases h
  | cons c cs ih =>
    rw [Selects.cons] at h
    rw [List.findIdx?_cons]
    split at h
    case isTrue hc => exact ⟨0, if_pos hc, congrArg some h⟩
    case isFalse hc =>
      obtain ⟨i, hi, e⟩ := ih h
      exact ⟨i + 1, by rw [if_neg hc, hi]; rfl, e⟩

/-- A selected image is found by the lookup. -/
lemma Selects.selected? {cs : List (Case α)} {a} (h : Selects dc cs a) :
    selected? dc cs = some a := by
  obtain ⟨i, hi, e⟩ := h.findIdx?
  have index : selectedIndex dc cs = i := by rw [selectedIndex, hi]; rfl
  rw [Case.selected?, index]
  exact e

/-- Where there is a default, something is selected in every context. -/
lemma HasDefault.selects {cs : List (Case α)} (h : HasDefault cs) (dc : DrawContext) :
    ∃ a, Selects dc cs a := by
  induction h with
  | @last a => exact ⟨a, rfl⟩
  | @cons c cs _ ih =>
    obtain ⟨a, ha⟩ := ih
    cases hc : c.condition.holds dc with
    | true => exact ⟨c.image, Selects.cons.2 (by rw [if_pos hc])⟩
    | false => exact ⟨a, Selects.cons.2 (by rwa [if_neg (by simp [hc])])⟩

end

/-- A default at the end of a second list is one for both lists together. -/
lemma HasDefault.append {cs ds : List (Case α)} (h : HasDefault ds) : HasDefault (cs ++ ds) := by
  induction cs with
  | nil => exact h
  | cons c cs ih => exact .cons ih

/-- Changing the images keeps the default. -/
lemma HasDefault.map {cs : List (Case α)} (f : α → β) (h : HasDefault cs) :
    HasDefault (cs.map (Case.map f)) := by
  induction h with
  | last => exact .last
  | cons _ ih => exact .cons ih

/-- Under the certain condition a default stays one. -/
lemma HasDefault.under_always {cs : List (Case α)} (h : HasDefault cs) :
    HasDefault (cs.map (under .always)) := by
  induction h with
  | last => exact .last
  | cons _ ih => exact .cons ih

/-- Nested cases end in the default of the default. -/
lemma HasDefault.nest {cs : List (Case α)} {inner : α → List (Case β)} (h : HasDefault cs)
    (total : ∀ c ∈ cs, HasDefault (inner c.image)) : HasDefault (nest cs inner) := by
  induction h with
  | @last a =>
    have hi := (total _ List.mem_cons_self).under_always
    rwa [Case.nest, List.flatMap_singleton]
  | @cons c cs _ ih =>
    have ih' := ih fun d hd => total d (List.mem_cons_of_mem _ hd)
    exact ih'.append

/-- To have a default is to end in a case whose condition is the trivially true one. -/
lemma hasDefault_iff {cs : List (Case α)} :
    HasDefault cs ↔ ∃ last, cs.getLast? = some last ∧ last.condition.isAlways = true := by
  constructor
  · intro h
    induction h with
    | @last a => exact ⟨⟨.always, a⟩, rfl, rfl⟩
    | @cons c cs _ ih =>
      obtain ⟨last, e, hl⟩ := ih
      exact ⟨last, by rw [List.getLast?_cons, e]; rfl, hl⟩
  · rintro ⟨⟨condition, image⟩, e, hl⟩
    obtain rfl : condition = .always := by simpa [Condition.isAlways] using hl
    obtain ⟨front, rfl⟩ := List.getLast?_eq_some_iff.1 e
    exact HasDefault.append .last

end Cityscape.Case
