import Cityscape.Proofs.TileImage.Preservation
import Cityscape.Proofs.TileImage.Stillness

/-!
# Tile images that move

Normalization takes animations apart and simplifies conditions, and both can lose the last trace of
the clock: a single frame becomes a case without a window, and the conjunction of a window with a
condition that never holds is no window any more. Neither happens in a `Lively` tree. The main
statement, `isAnimated_normalForm`, is that the normal form of a lively tree is animated if and only
if the tree is.

The core is `Lively.moving`, by induction on the tree: if the tree is animated, one of the
alternatives of its normal form looks at the clock. On alternatives every rule of the normal form is
a nesting of cases, and nesting joins conditions. The invariant that carries the induction is that no
alternative is barred (`Lively.possible`), since only a condition that never holds makes a conjunction
forget its other half (`Condition.dependsOnTime_conj`).
-/

namespace Cityscape

namespace Condition

variable {a b : Condition}

/-- Two conditions that are not trivially false are not made so by joining them. -/
lemma conj_ne_never (ha : a ≠ never) (hb : b ≠ never) : a.conj b ≠ never := by
  unfold conj
  split
  · exact hb
  · exact ha
  · exact absurd rfl ha
  · exact absurd rfl hb
  · exact nofun

/-- Two conditions that are not trivially false look at the clock together as much as alone. -/
lemma dependsOnTime_conj (ha : a ≠ never) (hb : b ≠ never) :
    (a.conj b).dependsOnTime = (a.dependsOnTime || b.dependsOnTime) := by
  unfold conj
  split
  · rfl
  · exact (Bool.or_false _).symm
  · exact absurd rfl ha
  · exact absurd rfl hb
  · rfl

end Condition

namespace Case

variable {α β : Type}

/-- None of the cases is barred by a trivially false condition. -/
def Possible (cs : List (Case α)) : Prop := ∀ c ∈ cs, c.condition ≠ .never

/-- One of the cases looks at the clock. -/
def Moving (cs : List (Case α)) : Prop := ∃ c ∈ cs, c.condition.dependsOnTime = true

instance (cs : List (Case α)) : Decidable (Possible cs) := inferInstanceAs (Decidable (∀ c ∈ cs, _))

/-- Changing the images bars no case. -/
lemma Possible.map {cs : List (Case α)} (f : α → β) (h : Possible cs) :
    Possible (cs.map (Case.map f)) := Every.map (P := (· ≠ .never)) f h

/-- Nesting bars no case where none is barred outside or inside. -/
lemma Possible.nest {cs : List (Case α)} {inner : α → List (Case β)} (h : Possible cs)
    (hi : ∀ c ∈ cs, Possible (inner c.image)) : Possible (Case.nest cs inner) :=
  Every.nest (P := (· ≠ .never)) (fun _ _ => Condition.conj_ne_never) h hi

/-- Changing the images keeps a case that looks at the clock. -/
lemma Moving.map {cs : List (Case α)} (f : α → β) (h : Moving cs) :
    Moving (cs.map (Case.map f)) := by
  obtain ⟨c, hc, timed⟩ := h
  exact ⟨c.map f, List.mem_map_of_mem hc, timed⟩

/-- Of possible cases inside one another, two look at the clock together if one of them does. -/
lemma moving_nest {cs : List (Case α)} {inner : α → List (Case β)} {c d} (hcs : Possible cs)
    (hi : ∀ c ∈ cs, Possible (inner c.image)) (hc : c ∈ cs) (hd : d ∈ inner c.image)
    (timed : (c.condition.dependsOnTime || d.condition.dependsOnTime) = true) :
    Moving (nest cs inner) := by
  refine ⟨d.under c.condition, List.mem_flatMap.2 ⟨c, hc, List.mem_map_of_mem hd⟩, ?_⟩
  rw [under, Condition.dependsOnTime_conj (hcs c hc) (hi c hc d hd)]
  exact timed

/-- What moves outside moves together with whatever is inside, if there is something everywhere. -/
lemma Moving.nest {cs : List (Case α)} {inner : α → List (Case β)} (h : Moving cs)
    (hcs : Possible cs) (hi : ∀ c ∈ cs, Possible (inner c.image))
    (total : ∀ c ∈ cs, inner c.image ≠ []) :
    Moving (Case.nest cs inner) := by
  obtain ⟨c, hc, timed⟩ := h
  obtain ⟨d, hd⟩ := List.exists_mem_of_ne_nil _ (total c hc)
  exact moving_nest hcs hi hc hd (Bool.or_eq_true_iff.2 (.inl timed))

/-- What moves inside one of the cases still moves under its condition. -/
lemma Moving.nest_inner {cs : List (Case α)} {inner : α → List (Case β)} {c} (hc : c ∈ cs)
    (h : Moving (inner c.image)) (hcs : Possible cs) (hi : ∀ c ∈ cs, Possible (inner c.image)) :
    Moving (Case.nest cs inner) := by
  obtain ⟨d, hd, timed⟩ := h
  exact moving_nest hcs hi hc hd (Bool.or_eq_true_iff.2 (.inr timed))

/-- Cases with a default are not empty. -/
lemma HasDefault.ne_nil {cs : List (Case α)} (h : HasDefault cs) : cs ≠ [] := by
  cases h <;> exact List.cons_ne_nil _ _

end Case

namespace Frame

open Case (Possible Moving)

variable {α : Type}

/-- Neither a window nor the certain condition is trivially false. -/
lemma possible_asCases (fs : List (Frame α)) : Possible (asCases fs) :=
  every_asCases (P := (· ≠ .never)) (fun _ _ _ => nofun) nofun fs

/-- Only the last of the frames has no window of its own. -/
lemma moving_asCases {fs : List (Frame α)} (several : 2 ≤ fs.length) : Moving (asCases fs) := by
  match fs, several with
  | f :: g :: fs, _ => exact ⟨_, List.mem_cons_self, rfl⟩

end Frame

namespace TileImage

open Case (Possible Moving)

/-- A tree in which every animation has several frames, and no case of a switch is barred by a
trivially false condition. -/
inductive Lively : TileImage → Prop where
  | source {pixels basis} :
    Lively (.source pixels basis)
  | scaled {pixels basis target} :
    Lively (.scaled pixels basis target)
  | sprite {window child} :
    Lively child →
    Lively (.sprite window child)
  | layer {below above} :
    Lively below →
    Lively above →
    Lively (.layer below above)
  | switch {cs} :
    Possible cs →
    (∀ c ∈ cs, Lively c.image) →
    Lively (.switch cs)
  | animation {fs} :
    2 ≤ fs.length →
    (∀ f ∈ fs, Lively f.image) →
    Lively (.animation fs)

/-- An animation is animated. -/
lemma isAnimated_animation {fs} : isAnimated (.animation fs) = true := by
  rw [isAnimated, fold_animation]

/-- No alternative of the normal form of a lively tree is barred. -/
lemma Lively.possible {t} (h : Lively t) : Possible t.normalForm.alternatives := by
  induction h with
  | source => exact List.forall_mem_singleton.2 nofun
  | scaled => exact List.forall_mem_singleton.2 nofun
  | sprite _ ih =>
    rw [alternatives_normalForm_sprite]
    exact ih.map _
  | layer _ _ ihb iha =>
    rw [alternatives_normalForm_layer]
    exact ihb.nest fun _ _ => iha.map _
  | switch free _ ih =>
    rw [alternatives_normalForm_switch]
    exact free.nest ih
  | @animation fs _ _ ih =>
    rw [alternatives_normalForm_animation]
    apply (Frame.possible_asCases fs).nest
    intro c hc
    obtain ⟨f, hf, e⟩ := Frame.mem_asCases hc
    exact e ▸ ih f hf

/-- Some alternative of the normal form of an animated tree looks at the clock. -/
lemma Lively.moving {t s} (h : Lively t) (sized : Sized t s) (animated : t.isAnimated = true) :
    Moving t.normalForm.alternatives := by
  have total {t} (sized : Sized t s) : t.normalForm.alternatives ≠ [] :=
    sized.normalForm.hasDefault_alternatives.ne_nil
  induction h with
  | source => cases animated
  | scaled => cases animated
  | sprite _ ih =>
    cases sized with | sprite sized =>
    rw [alternatives_normalForm_sprite]
    exact (ih sized animated).map _
  | @layer below above hb ha ihb iha =>
    cases sized with | layer sb sa =>
    have inner (b) : Possible (above.normalForm.alternatives.map (Case.map (TileImage.layer b))) :=
      ha.possible.map _
    rw [alternatives_normalForm_layer]
    rcases Bool.or_eq_true_iff.1 animated with animated | animated
    · apply (ihb sb animated).nest hb.possible fun _ _ => inner _
      exact fun _ _ none => total sa (List.map_eq_nil_iff.1 none)
    · obtain ⟨c, hc⟩ := List.exists_mem_of_ne_nil _ (total sb)
      exact .nest_inner hc ((iha sa animated).map _) hb.possible fun _ _ => inner _
  | switch free hs ih =>
    cases sized with | switch _ sized =>
    rw [isAnimated_switch] at animated
    obtain ⟨c, hc, animated⟩ := List.any_eq_true.1 animated
    have inner (d) (hd : d ∈ _) := (hs d hd).possible
    rw [alternatives_normalForm_switch]
    rcases Bool.or_eq_true_iff.1 animated with timed | animated
    · exact .nest ⟨c, hc, timed⟩ free inner fun d hd => total (sized d hd)
    · exact .nest_inner hc (ih c hc (sized c hc) animated) free inner
  | @animation fs several hs _ =>
    cases sized with | animation _ sized =>
    rw [alternatives_normalForm_animation]
    refine (Frame.moving_asCases several).nest (Frame.possible_asCases fs) ?_ ?_
    · intro c hc
      obtain ⟨f, hf, e⟩ := Frame.mem_asCases hc
      exact e ▸ (hs f hf).possible
    · intro c hc
      obtain ⟨f, hf, e⟩ := Frame.mem_asCases hc
      exact e ▸ total (sized f hf)

/-- A tree is animated if it selects between cases of which one looks at the clock. -/
lemma isAnimated_of_moving {t : TileImage} (h : Moving t.alternatives) : t.isAnimated = true := by
  obtain ⟨c, hc, timed⟩ := h
  cases t with
  | switch cs =>
    rw [isAnimated_switch]
    exact List.any_eq_true.2 ⟨c, hc, Bool.or_eq_true_iff.2 (.inl timed)⟩
  | animation fs => exact isAnimated_animation
  | _ =>
    obtain rfl := List.mem_singleton.1 hc
    cases timed

/-- The normal form of a valid and lively tree is animated if and only if the tree is. -/
theorem isAnimated_normalForm {t : TileImage} (h : Valid t) (lively : Lively t) :
    t.normalForm.isAnimated = t.isAnimated := by
  cases e : t.isAnimated with
  | true => exact isAnimated_of_moving (lively.moving h.sized e)
  | false => exact still_iff.1 (still_iff.2 e).normalForm

/-- The crossing of the example is lively. -/
lemma Crossing.lively : Lively Crossing.image := by
  have hTile (n) : Lively (tile n) := .sprite .source
  have hTraffic : Lively (.animation traffic) := by
    refine .animation (Nat.le_refl 2) fun f hf => ?_
    rcases List.mem_pair.1 hf with rfl | rfl <;> exact hTile _
  have hRoad : Lively (.switch road) := by
    refine .switch (by decide) fun c hc => ?_
    rcases List.mem_pair.1 hc with rfl | rfl
    · exact hTraffic
    · exact hTile 3
  have hLamp : Lively (.switch lamp) := by
    refine .switch (by decide) fun c hc => ?_
    rcases List.mem_pair.1 hc with rfl | rfl <;> exact hTile _
  have hLight : Lively (.animation light) := by
    refine .animation (Nat.le_refl 2) fun f hf => ?_
    rcases List.mem_pair.1 hf with rfl | rfl
    · exact hLamp
    · exact hTile 6
  exact .layer hRoad (.sprite hLight)

/-- The crossing, with an animation inside a switch below a switch inside an animation, stays
animated. -/
theorem isAnimated_normalForm_crossing :
    Valid Crossing.image ∧ Lively Crossing.image ∧ Crossing.image.isAnimated = true ∧
      Crossing.image.normalForm.isAnimated = true := by
  have animated : Crossing.image.isAnimated = true := rfl
  refine ⟨Crossing.valid, Crossing.lively, animated, ?_⟩
  rw [isAnimated_normalForm Crossing.valid Crossing.lively, animated]

/-- Of a single frame, and of frames that no city shows, nothing is left that looks at the clock. -/
example :
    let alone := switch [⟨.tile .west (.ofClass .road), .animation [⟨2, Crossing.tile 1⟩]⟩,
      ⟨.always, Crossing.tile 3⟩]
    let barred := switch [⟨.never, .animation Crossing.traffic⟩, ⟨.always, Crossing.tile 3⟩]
    (alone.isAnimated = true ∧ alone.normalForm.isAnimated = false) ∧
      barred.isAnimated = true ∧ barred.normalForm.isAnimated = false := by
  decide

end TileImage

end Cityscape
