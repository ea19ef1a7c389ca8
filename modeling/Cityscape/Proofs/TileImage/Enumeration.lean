import Cityscape.Proofs.TileImage.Realization
import Cityscape.TileImage.Enumerate

/-!
# Enumeration of variants

`variants` lists what a tree can be realized as, each variant with its condition. Its rules are
nestings of exclusive cases (`variants_sprite` to `variants_animation`), so what is known of nesting
and of exclusive cases carries over to whole trees by induction.

The main statements hold of every valid tree. `variants_partition`: in each context exactly one
variant applies, its image is what the tree is realized as, and no variant contains a switch or an
animation. `variants_normalForm`: the variants of a tree and those of its normal form correspond
position by position. The conditions of the two sequences are built differently, so they are only
equivalent; both are compared with the alternatives of the normal form, made exclusive
(`Sized.agree_variants`).
-/

namespace Cityscape.TileImage

open Case (nest active Agree exclusive)

/-! ## Rules -/

/-- The variants of some cases are those of their images, nested in the cases. -/
lemma toList_nested {cs : List (Case (LazySeq (Case TileImage)))} :
    (nested cs).toList = nest cs LazySeq.toList := by
  rw [nested, LazySeq.toList_flatten, List.flatMap_map]
  refine congrArg (List.flatMap · cs) (funext fun c => ?_)
  exact LazySeq.toList_map _ _

/-- The variants of a sprite are those of its child, shown through the window. -/
lemma variants_sprite {window child} :
    (variants (.sprite window child)).toList =
      (variants child).toList.map (Case.map (.sprite window)) :=
  LazySeq.toList_map _ _

/-- The variants of a layer are all pairs of a variant below and one above. -/
lemma variants_layer {below above} :
    (variants (.layer below above)).toList =
      nest (variants below).toList fun t => (variants above).toList.map (Case.map (.layer t)) := by
  let both (b a : Case TileImage) : Case TileImage :=
    ⟨b.condition.conj a.condition, .layer b.image a.image⟩
  show (LazySeq.product both (variants below) fun _ => variants above).toList = _
  rw [LazySeq.toList_product]
  refine congrArg (List.flatMap · (variants below).toList) (funext fun c => ?_)
  rw [List.map_map]
  rfl

/-- The variants of a switch are those of its cases, made exclusive. -/
lemma variants_switch {cs} :
    (variants (.switch cs)).toList =
      nest (exclusive .always cs) fun t => (variants t).toList := by
  rw [variants, fold_switch]
  show (nested (exclusive .always (cs.map (Case.map variants)))).toList = _
  rw [toList_nested, Case.exclusive_map]
  exact Case.nest_map

/-- The variants of an animation are those of its frames, within their windows. -/
lemma variants_animation {fs} :
    (variants (.animation fs)).toList =
      nest (Frame.windows fs) fun t => (variants t).toList := by
  rw [variants, fold_animation]
  show (nested (Frame.windows (fs.map (Frame.map variants)))).toList = _
  rw [toList_nested, Frame.windows_map]
  exact Case.nest_map

/-! ## Partition of contexts -/

/-- Every variant resolves the tree. -/
lemma resolves_of_mem_variants {t r} (h : r ∈ (variants t).toList) : Resolves t r.image := by
  induction t using TileImage.induction generalizing r with
  | onSource =>
    obtain rfl := List.mem_singleton.1 h
    exact .source
  | onScaled =>
    obtain rfl := List.mem_singleton.1 h
    exact .scaled
  | onSprite window child ih =>
    rw [variants_sprite] at h
    obtain ⟨r, hr, rfl⟩ := List.mem_map.1 h
    exact .sprite (ih hr)
  | onLayer below above ihb iha =>
    rw [variants_layer] at h
    obtain ⟨b, hb, _, hm, e⟩ := Case.mem_nest h
    obtain ⟨a, ha, rfl⟩ := List.mem_map.1 hm
    exact e ▸ .layer (ihb hb) (iha ha)
  | onSwitch cs ih =>
    rw [variants_switch] at h
    obtain ⟨_, hm, r, hr, e⟩ := Case.mem_nest h
    obtain ⟨c, hc, image⟩ := Case.mem_exclusive hm
    rw [← image] at hr
    exact e ▸ .switch hc (ih c hc hr)
  | onAnimation fs ih =>
    rw [variants_animation] at h
    obtain ⟨_, hm, r, hr, e⟩ := Case.mem_nest h
    obtain ⟨f, hf, image⟩ := Frame.mem_windows hm
    rw [← image] at hr
    exact e ▸ .animation hf (ih f hf hr)

/-- In each context only what the tree is realized as is active among its variants. -/
lemma Sized.active_variants {t s} (h : Sized t s) (dc : DrawContext) :
    active dc (variants t).toList = [t.realize dc] := by
  induction h with
  | source => rfl
  | scaled => rfl
  | sprite _ ih =>
    rw [variants_sprite, Case.active_map, ih, realize_sprite]
    rfl
  | layer _ _ ihb iha =>
    rw [variants_layer, Case.active_nest, ihb, List.flatMap_singleton, Case.active_map, iha,
      realize_layer]
    rfl
  | switch hd _ ih =>
    obtain ⟨t, ht⟩ := hd.selects dc
    obtain ⟨c, hc, rfl⟩ := ht.mem
    rw [variants_switch, Case.active_nest, ht.active_exclusive, List.flatMap_singleton, ih c hc,
      realize_switch ht]
  | animation timed _ ih =>
    obtain ⟨t, shows, window, f, hf, rfl⟩ := Frame.shown timed.pos dc
    rw [variants_animation, Case.active_nest, window, List.flatMap_singleton, ih f hf,
      realize_animation shows]

/-- The variants of a tree divide all contexts among themselves: in each one exactly one variant
applies, and it is what the tree is realized as. -/
theorem variants_partition {t : TileImage} (h : Valid t) (dc : DrawContext) :
    (∃ i r, t.variants.get? i = some r ∧ r.condition.holds dc = true ∧
      r.image = t.realize dc ∧
      ∀ j r', t.variants.get? j = some r' → r'.condition.holds dc = true → j = i) ∧
    ∀ r ∈ t.variants.toList, r.image.containsConditional = false := by
  refine ⟨?_, fun r hr => plain_iff.1 (resolves_of_mem_variants hr).plain⟩
  simp only [LazySeq.get?_eq]
  exact Case.exists_unique_of_active (h.sized.active_variants dc)

/-- Of the nine variants of the crossing, the fourth applies in the rush hour. -/
theorem variants_partition_crossing :
    Valid Crossing.image ∧
      (∃ r, Crossing.image.variants.get? 3 = some r ∧ r.condition.holds Crossing.rushHour = true ∧
        r.image = Crossing.image.realize Crossing.rushHour ∧
        ∀ j r', Crossing.image.variants.get? j = some r' →
          r'.condition.holds Crossing.rushHour = true → j = 3) ∧
      ∀ r ∈ Crossing.image.variants.toList, r.image.containsConditional = false := by
  obtain ⟨⟨i, r, hr, holds, image, unique⟩, plain⟩ :=
    variants_partition Crossing.valid Crossing.rushHour
  obtain rfl : 3 = i := unique 3 _ rfl rfl
  exact ⟨Crossing.valid, ⟨r, hr, holds, image, unique⟩, plain⟩

/-! ## Variants of normal forms -/

/-- The variants of a tree agree with the alternatives of its normal form, made exclusive. -/
lemma Sized.agree_variants {t s} (h : Sized t s) :
    Agree (variants t).toList (exclusive .always t.normalForm.alternatives) := by
  induction h with
  | source => exact .refl _
  | scaled => exact .refl _
  | sprite _ ih =>
    rw [variants_sprite, alternatives_normalForm_sprite, Case.exclusive_map]
    exact ih.map _
  | layer _ ha ihb iha =>
    -- Exclusions inside both levels on the left, over the whole nest on the right.
    rw [variants_layer, alternatives_normalForm_layer]
    refine (ihb.nest fun c _ => ?_).trans (Agree.exclusive_nest fun _ _ => ?_).symm
    · rw [Case.exclusive_map]
      exact iha.map _
    · exact ha.normalForm.hasDefault_alternatives.map _
  | switch _ hs ih =>
    rw [variants_switch, alternatives_normalForm_switch]
    refine ((Agree.refl _).nest fun c hc => ?_).trans (Agree.exclusive_nest fun c hc => ?_).symm
    · obtain ⟨d, hd, e⟩ := Case.mem_exclusive hc
      exact e ▸ ih d hd
    · exact (hs c hc).normalForm.hasDefault_alternatives
  | animation timed hs ih =>
    rw [variants_animation, alternatives_normalForm_animation]
    refine ((Frame.agree_windows timed.pos).nest fun c hc => ?_).trans
      (Agree.exclusive_nest fun c hc => ?_).symm
    · obtain ⟨f, hf, e⟩ := Frame.mem_windows hc
      exact e ▸ ih f hf
    · obtain ⟨f, hf, e⟩ := Frame.mem_asCases hc
      exact e ▸ (hs f hf).normalForm.hasDefault_alternatives

/-- A tree and its normal form have equally many variants, and those at one position have one image
and apply in the same contexts. -/
theorem variants_normalForm {t : TileImage} (h : Valid t) :
    t.normalForm.variants.length = t.variants.length ∧
    ∀ i r r', t.variants.get? i = some r → t.normalForm.variants.get? i = some r' →
      r'.image = r.image ∧ ∀ dc, r'.condition.holds dc = r.condition.holds dc := by
  have tree := h.sized.agree_variants
  have form := h.sized.normalForm.agree_variants
  rw [normalForm_normalForm] at form
  have agree : Agree t.normalForm.variants.toList t.variants.toList := form.trans tree.symm
  refine ⟨?_, fun i r r' hr hr' => ?_⟩
  · rw [LazySeq.length_eq, LazySeq.length_eq]
    exact agree.length_eq
  · rw [LazySeq.get?_eq] at hr hr'
    exact ⟨(agree.getElem? hr' hr).image, (agree.getElem? hr' hr).holds⟩

/-- The crossing and its normal form have nine variants each, which agree. -/
theorem variants_normalForm_crossing :
    Valid Crossing.image ∧
      Crossing.image.normalForm.variants.length = Crossing.image.variants.length ∧
      Crossing.image.variants.length = 9 ∧
      ∀ i r r', Crossing.image.variants.get? i = some r →
        Crossing.image.normalForm.variants.get? i = some r' →
        r'.image = r.image ∧ ∀ dc, r'.condition.holds dc = r.condition.holds dc := by
  obtain ⟨length, agree⟩ := variants_normalForm Crossing.valid
  exact ⟨Crossing.valid, length, rfl, agree⟩

end Cityscape.TileImage
