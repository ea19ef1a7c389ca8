import Cityscape.Proofs.TileImage.Conditions
import Cityscape.TileImage.Equality

/-!
# Tile images that stand still

A tree that is not animated looks the same at all times. `Alike` contexts show the same city from
the same cell, at any two times; a condition that does not look at the clock holds in both of them
or in neither (`Condition.holds_of_timeless`). The judgment `Still` is about a whole tree: no
animation anywhere, and `Timeless` cases at every switch (`still_iff`).

Conjunctions and negations of timeless conditions are timeless (`Condition.closed_timeless`), and the
windows of frames are not, so a tree is still if its conditions are timeless throughout
(`still_iff_throughout`). Stillness is therefore kept by the normal form (`Still.normalForm`), and every
variant of a still tree has a timeless condition (`Still.timeless_variants`). The main statement,
`not_animated_stands_still`, puts the three together.
-/

namespace Cityscape

/-- Two contexts that differ in the time only. -/
structure DrawContext.Alike (dc dc' : DrawContext) : Prop where
  city : dc.city = dc'.city
  location : dc.location = dc'.location

namespace Condition

variable {a b : Condition}

/-- Two conditions that do not look at the clock do not do so together. -/
lemma timeless_conj (ha : a.dependsOnTime = false) (hb : b.dependsOnTime = false) :
    (a.conj b).dependsOnTime = false := by
  have both : (Condition.and a b).dependsOnTime = false := by
    rw [dependsOnTime, ha, hb]
    rfl
  unfold conj
  -- The conjunction is one of its operands, or a condition that never holds, or both together.
  split
  · exact hb
  · exact ha
  · rfl
  · rfl
  · exact both

/-- A condition that does not look at the clock does not do so when it is negated. -/
lemma timeless_negate (ha : a.dependsOnTime = false) : a.negate.dependsOnTime = false := by
  unfold negate
  split
  · rfl
  · rfl
  · exact ha
  · exact ha

/-- The conditions that do not look at the clock are a closed kind. -/
lemma closed_timeless : Closed (·.dependsOnTime = false) where
  always := rfl
  conj _ _ := timeless_conj
  negate _ := timeless_negate

/-- A condition that does not look at the clock holds at all times or never. -/
lemma holds_of_timeless {dc dc' : DrawContext} (alike : dc.Alike dc') {c : Condition}
    (timeless : c.dependsOnTime = false) : c.holds dc = c.holds dc' := by
  induction c with
  | always => rfl
  | never => rfl
  | tile side spec => rw [holds, holds, alike.city, alike.location]
  | frame period start stop => cases timeless
  | and a b iha ihb =>
    obtain ⟨ha, hb⟩ := Bool.or_eq_false_iff.1 timeless
    rw [holds, holds, iha ha, ihb hb]
  | not a ih => rw [holds, holds, ih timeless]

end Condition

namespace Case

variable {α : Type}

/-- None of the cases looks at the clock. -/
def Timeless (cs : List (Case α)) : Prop := ∀ c ∈ cs, c.condition.dependsOnTime = false

/-- Timeless cases show the same image at all times. -/
lemma Timeless.selected? {dc dc' : DrawContext} (alike : dc.Alike dc') {cs : List (Case α)}
    (h : Timeless cs) : Case.selected? dc cs = Case.selected? dc' cs := by
  have first : (cs.findIdx? fun c => c.condition.holds dc) =
      cs.findIdx? fun c => c.condition.holds dc' := by
    induction cs with
    | nil => rfl
    | cons c cs ih =>
      obtain ⟨hc, hs⟩ := List.forall_mem_cons.1 h
      rw [List.findIdx?_cons, List.findIdx?_cons, Condition.holds_of_timeless alike hc, ih hs]
  rw [Case.selected?, Case.selected?, selectedIndex, selectedIndex, first]

end Case

namespace TileImage

open Case (Timeless)

/-- A tree in which nothing looks at the clock. -/
inductive Still : TileImage → Prop where
  | source {pixels basis} :
    Still (.source pixels basis)
  | scaled {pixels basis target} :
    Still (.scaled pixels basis target)
  | sprite {window child} :
    Still child →
    Still (.sprite window child)
  | layer {below above} :
    Still below →
    Still above →
    Still (.layer below above)
  | switch {cs} :
    Timeless cs →
    (∀ c ∈ cs, Still c.image) →
    Still (.switch cs)

/-- A switch is animated if one of its conditions looks at the clock, or one of its images is
animated. -/
lemma isAnimated_switch {cs} :
    isAnimated (.switch cs) =
      cs.any fun c => c.condition.dependsOnTime || c.image.isAnimated := by
  rw [isAnimated, fold_switch]
  exact List.any_map

/-- The trees that stand still are those that are not animated. -/
lemma still_iff {t} : Still t ↔ t.isAnimated = false := by
  constructor
  · intro h
    induction h with
    | source => rfl
    | scaled => rfl
    | sprite _ ih => exact ih
    | layer _ _ ihb iha => exact (congrArg₂ or ihb iha :)
    | switch timeless _ ih =>
      rw [isAnimated_switch, List.any_eq_false]
      intro c hc
      rw [timeless c hc, ih c hc]
      exact Bool.false_ne_true
  · intro h
    induction t using TileImage.induction with
    | onSource => exact .source
    | onScaled => exact .scaled
    | onSprite _ _ ih => exact .sprite (ih h)
    | onLayer _ _ ihb iha =>
      obtain ⟨hb, ha⟩ := Bool.or_eq_false_iff.1 h
      exact .layer (ihb hb) (iha ha)
    | onSwitch cs ih =>
      rw [isAnimated_switch, List.any_eq_false] at h
      have parts (c) (hc : c ∈ cs) : c.condition.dependsOnTime = false ∧ c.image.isAnimated = false :=
        Bool.or_eq_false_iff.1 (Bool.eq_false_iff.2 (h c hc))
      exact .switch (fun c hc => (parts c hc).1) fun c hc => ih c hc (parts c hc).2
    | onAnimation fs _ =>
      rw [isAnimated, fold_animation] at h
      cases h

/-! ## Realization -/

/-- A tree that stands still looks the same in contexts that differ in time only. -/
lemma Still.realize {t} (h : Still t) {dc dc' : DrawContext} (alike : dc.Alike dc') :
    t.realize dc = t.realize dc' := by
  induction h with
  | source => rfl
  | scaled => rfl
  | sprite _ ih => rw [realize_sprite, realize_sprite, ih]
  | layer _ _ ihb iha => rw [realize_layer, realize_layer, ihb, iha]
  | @switch cs timeless _ ih =>
    have images : cs.map (Case.map (TileImage.realize dc)) =
        cs.map (Case.map (TileImage.realize dc')) := Case.map_congr ih
    have timeless' : Timeless (cs.map (Case.map (TileImage.realize dc'))) :=
      Case.Every.map (P := (·.dependsOnTime = false)) _ timeless
    have shown := timeless'.selected? alike
    rw [TileImage.realize, TileImage.realize, fold_switch, fold_switch]
    show (Case.selected? dc (cs.map (Case.map (TileImage.realize dc)))).getD _ = _
    rw [images, shown]
    rfl

/-! ## Normalization and enumeration -/

/-- A tree with timeless conditions throughout has no animation, since its windows would not be
timeless. -/
lemma still_iff_throughout {t} : Still t ↔ Throughout (·.dependsOnTime = false) t := by
  constructor
  · intro h
    induction h with
    | source => exact .source
    | scaled => exact .scaled
    | sprite _ ih => exact .sprite ih
    | layer _ _ ihb iha => exact .layer ihb iha
    | switch timeless _ ih => exact .switch timeless ih
  · intro h
    induction h with
    | source => exact .source
    | scaled => exact .scaled
    | sprite _ ih => exact .sprite ih
    | layer _ _ ihb iha => exact .layer ihb iha
    | switch timeless _ ih => exact .switch timeless ih
    | animation window => cases window 0 0 0

/-- The normal form of a tree that stands still stands still. -/
lemma Still.normalForm {t} (h : Still t) : Still t.normalForm :=
  still_iff_throughout.2 ((still_iff_throughout.1 h).normalForm Condition.closed_timeless)

/-- The variants of a still tree apply without the clock. -/
lemma Still.timeless_variants {t} (h : Still t) : Timeless t.variants.toList :=
  (still_iff_throughout.1 h).variants Condition.closed_timeless

/-- A tree that is not animated, valid or not, is realized as the same tree at any two times. Its
normal form is not animated either, and each of its variants applies at both times or at neither. -/
theorem not_animated_stands_still {t : TileImage} (h : t.isAnimated = false) {dc dc' : DrawContext}
    (alike : dc.Alike dc') :
    t.realize dc = t.realize dc' ∧ t.normalForm.isAnimated = false ∧
      ∀ i r, t.variants.get? i = some r → r.condition.holds dc = r.condition.holds dc' := by
  have still : Still t := still_iff.2 h
  refine ⟨still.realize alike, still_iff.1 still.normalForm, ?_⟩
  intro i r hr
  rw [LazySeq.get?_eq] at hr
  have timeless := still.timeless_variants r (List.mem_of_getElem? hr)
  exact Condition.holds_of_timeless alike timeless

namespace Crossing

/-- A lamp post on either side of the road, the second one with a lamp of its own. -/
def lamps : TileImage :=
  .layer (.switch lamp)
    (.switch [⟨.tile .west (.ofClass .road), .switch lamp⟩, ⟨.always, tile 6⟩])

/-- The same city, one tick later than the rush hour. -/
def later : DrawContext := { rushHour with time := 4 }

end Crossing

/-- The lamps of the crossing have six variants, and show the same one in the rush hour and after it;
the road with its traffic does not. -/
theorem not_animated_stands_still_lamps :
    Crossing.lamps.isAnimated = false ∧ Crossing.rushHour.Alike Crossing.later ∧
      Crossing.lamps.realize Crossing.rushHour = Crossing.lamps.realize Crossing.later ∧
      Crossing.lamps.normalForm.isAnimated = false ∧
      (∀ i r, Crossing.lamps.variants.get? i = some r →
        r.condition.holds Crossing.rushHour = r.condition.holds Crossing.later) ∧
      Crossing.lamps.variants.length = 6 ∧
      Crossing.image.realize Crossing.rushHour ≠ Crossing.image.realize Crossing.later := by
  have alike : Crossing.rushHour.Alike Crossing.later := ⟨rfl, rfl⟩
  obtain ⟨realize, normalForm, variants⟩ := not_animated_stands_still (t := Crossing.lamps) rfl alike
  exact ⟨rfl, alike, realize, normalForm, variants, rfl, by decide +kernel⟩

end TileImage

end Cityscape
