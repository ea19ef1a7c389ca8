import Cityscape.Proofs.TileImage.Enumeration

/-!
# Operations that check what they build

A `Builder` says how composite nodes are built. Normalization, realization and enumeration are
written here once more, over any builder, with the same rules as before but with a call to the
builder wherever a layer, a switch or an animation is made. The `trusting` builder makes every node,
as the operations do; the `checking` builder makes it through `layer?`, `switch?` or `animation?`,
and fails if that refuses.

The lemmas `Accepting.normalForm`, `Accepting.realize` and `Accepting.variants` say that a builder
which accepts the nodes of sized trees never gets anything else to build from such a tree. Both
builders above are of this kind. Hence the main statement, `Valid.closed_under_operations`: of a
valid tree every operation can be carried out with the checks, its results are the same, and they
are valid and of the size of the tree.
-/

namespace Cityscape

section
variable {m : Type → Type} [Monad m] {α β : Type}

/-- The case with the image that a computation yields. -/
def Case.mapM (f : α → m β) (c : Case α) : m (Case β) := do return ⟨c.condition, ← f c.image⟩

/-- The frame with the image that a computation yields. -/
def Frame.mapM (f : α → m β) (c : Frame α) : m (Frame β) := do return ⟨c.duration, ← f c.image⟩

end

namespace TileImage

open Case (nest exclusive)

/-- How composite nodes are built. -/
structure Builder (m : Type → Type) where
  layer : TileImage → TileImage → m TileImage
  switch : List (Case TileImage) → m TileImage
  animation : List (Frame TileImage) → m TileImage

namespace Builder

/-- Builds every node. -/
def trusting : Builder Id where
  layer below above := pure (.layer below above)
  switch cases := pure (.switch cases)
  animation frames := pure (.animation frames)

/-- Builds only what the checked constructors accept. -/
def checking : Builder (Except ComposeError) where
  layer := layer?
  switch := switch?
  animation := animation?

section
variable {m : Type → Type} [Monad m] (b : Builder m)

/-- A tree in normal form with something wrapped around each of its variants. -/
def hoist (wrap : TileImage → m TileImage) : TileImage → m TileImage
  | .switch cases => do b.switch (← cases.mapM (Case.mapM wrap))
  | .animation frames => do b.animation (← frames.mapM (Frame.mapM wrap))
  | t => wrap t

/-- All combinations of the cases of two images, the first ones in the outer loop. -/
def cross (wrap : TileImage → TileImage → m TileImage) (majors minors : List (Case TileImage)) :
    m (List (Case TileImage)) := do
  let rows ← majors.mapM fun c => minors.mapM fun d => do
    return ⟨c.condition.conj d.condition, ← wrap c.image d.image⟩
  return rows.flatten

/-- Two trees in normal form combined variant by variant. -/
def hoistPair (wrap : TileImage → TileImage → m TileImage) (major minor : TileImage) :
    m TileImage :=
  match major.cases?, minor.cases? with
  | some majors, some minors => do b.switch (← cross wrap majors minors)
  | some _, none => b.hoist (wrap · minor) major
  | none, some _ => b.hoist (wrap major ·) minor
  | none, none => wrap major minor

/-- An animation of images in normal form: it stays one unless a frame is itself conditional. -/
def animate (frames : List (Frame TileImage)) : m TileImage :=
  if frames.any fun f => f.image.isConditional then b.switch (splice (Frame.asCases frames))
  else b.animation frames

/-- The tree with all its switches and animations at the root. -/
def normalForm : TileImage → m TileImage :=
  fold
    { source := fun pixels basis => pure (.source pixels basis)
      scaled := fun pixels basis target => pure (.scaled pixels basis target)
      sprite := fun window _ child => do b.hoist (fun t => pure (.sprite window t)) (← child)
      layer := fun below above => do b.hoistPair b.layer (← below) (← above)
      switch := fun cases => do b.switch (splice (← cases.mapM (Case.mapM id)))
      animation := fun frames => do b.animate (← frames.mapM (Frame.mapM id)) }

/-- The tree without switches and animations that a context selects. -/
def realize (dc : DrawContext) : TileImage → m TileImage :=
  fold
    { source := fun pixels basis => pure (.source pixels basis)
      scaled := fun pixels basis target => pure (.scaled pixels basis target)
      sprite := fun window _ child => do return .sprite window (← child)
      layer := fun below above => do b.layer (← below) (← above)
      switch := fun cases => (Case.selected? dc cases).getD (pure (.switch []))
      animation := fun frames => (Frame.shown? dc.time frames).getD (pure (.animation [])) }

/-- The variants of cases, one case after another. -/
def nested (cases : List (Case (LazySeq (m (Case TileImage))))) : LazySeq (m (Case TileImage)) :=
  .flatten (cases.map fun c _ => c.image.map fun r => do return (← r).under c.condition)

/-- The variants of a tree, each built when it is asked for. -/
def variants : TileImage → LazySeq (m (Case TileImage)) :=
  fold
    { source := fun pixels basis => .once (pure ⟨.always, .source pixels basis⟩)
      scaled := fun pixels basis target => .once (pure ⟨.always, .scaled pixels basis target⟩)
      sprite := fun window _ child => child.map fun r => do return (← r).map (.sprite window)
      layer := fun below above =>
        .product (fun r s => do
            let r ← r
            let s ← s
            return ⟨r.condition.conj s.condition, ← b.layer r.image s.image⟩)
          below (fun _ => above)
      switch := fun cases => nested (exclusive .always cases)
      animation := fun frames => nested (Frame.windows frames) }

end

/-- A builder that refuses no node of a sized tree. -/
structure Accepting {m : Type → Type} [Monad m] (b : Builder m) : Prop where
  layer : ∀ {below above s}, Sized (.layer below above) s →
    b.layer below above = pure (.layer below above)
  switch : ∀ {cs s}, Sized (.switch cs) s → b.switch cs = pure (.switch cs)
  animation : ∀ {fs s}, Sized (.animation fs) s → b.animation fs = pure (.animation fs)

/-- The builder that checks nothing refuses nothing. -/
lemma accepting_trusting : Accepting trusting where
  layer _ := rfl
  switch _ := rfl
  animation _ := rfl

/-- The checked constructors accept the nodes of sized trees. -/
lemma accepting_checking : Accepting checking where
  layer := Sized.layer?_eq
  switch := Sized.switch?_eq
  animation := Sized.animation?_eq

section
variable {m : Type → Type} [Monad m] {b : Builder m} {s : Image.Size}

/-- An accepting builder makes the image of frames that are in normal form. -/
lemma Accepting.animate (hb : Accepting b) {fs} (ht : Frame.Timed fs)
    (hs : ∀ f ∈ fs, Sized f.image s) : b.animate fs = pure (TileImage.animate fs) := by
  have built := (sized_structural s).animate ht hs
  rw [TileImage.animate] at built ⊢
  rw [Builder.animate]
  by_cases e : fs.any fun f => f.image.isConditional
  · simp only [if_pos e] at built ⊢
    exact hb.switch built
  · simp only [if_neg e] at built ⊢
    exact hb.animation built

variable [LawfulMonad m]

/-- A traversal that yields a result everywhere yields all the results. -/
lemma mapM_eq_pure {α β : Type} {f : α → m β} {g : α → β} {l : List α}
    (h : ∀ a ∈ l, f a = pure (g a)) : l.mapM f = pure (l.map g) := by
  induction l with
  | nil => rfl
  | cons a l ih =>
    have tail := ih fun a ha => h a (List.mem_cons_of_mem _ ha)
    rw [List.mapM_cons, h a List.mem_cons_self, pure_bind, tail, pure_bind]
    rfl

/-- Cases whose images are built without fail are built themselves. -/
lemma mapM_cases {α β : Type} {f : α → m β} {g : α → β} {cs : List (Case α)}
    (h : ∀ c ∈ cs, f c.image = pure (g c.image)) :
    cs.mapM (Case.mapM f) = pure (cs.map (Case.map g)) := by
  refine mapM_eq_pure fun c hc => ?_
  rw [Case.mapM, h c hc, pure_bind]
  rfl

/-- Frames whose images are built without fail are built themselves. -/
lemma mapM_frames {α β : Type} {f : α → m β} {g : α → β} {fs : List (Frame α)}
    (h : ∀ c ∈ fs, f c.image = pure (g c.image)) :
    fs.mapM (Frame.mapM f) = pure (fs.map (Frame.map g)) := by
  refine mapM_eq_pure fun c hc => ?_
  rw [Frame.mapM, h c hc, pure_bind]
  rfl

/-- An accepting builder wraps each variant of a tree. -/
lemma Accepting.hoist (hb : Accepting b) {wrap : TileImage → TileImage} {wrapM t}
    (hs : ∀ u, Sized u s → Sized (wrap u) s) (hw : ∀ u, Sized u s → wrapM u = pure (wrap u))
    (h : Sized t s) : b.hoist wrapM t = pure (TileImage.hoist wrap t) := by
  have built := (sized_structural s).hoist hs h
  cases h with
  | switch hd hc =>
    rw [Builder.hoist, mapM_cases fun c hm => hw _ (hc c hm), pure_bind]
    exact hb.switch built
  | animation ht hf =>
    rw [Builder.hoist, mapM_frames fun f hm => hw _ (hf f hm), pure_bind]
    exact hb.animation built
  | source => exact hw _ .source
  | scaled => exact hw _ .scaled
  | sprite h => exact hw _ (.sprite h)
  | layer h h' => exact hw _ (.layer h h')

/-- Where every pair of images is wrapped, so is every pair of cases. -/
lemma Accepting.cross {wrap : TileImage → TileImage → TileImage} {wrapM majors minors}
    (hw : ∀ c ∈ majors, ∀ d ∈ minors, wrapM c.image d.image = pure (wrap c.image d.image)) :
    Builder.cross (m := m) wrapM majors minors = pure (TileImage.cross wrap majors minors) := by
  rw [Builder.cross, mapM_eq_pure (g := fun c => minors.map fun d =>
    ⟨c.condition.conj d.condition, wrap c.image d.image⟩)]
  · rw [pure_bind, ← List.flatMap_def]
    rfl
  · intro c hc
    refine mapM_eq_pure fun d hd => ?_
    rw [hw c hc d hd, pure_bind]

/-- An accepting builder wraps each pair of variants of two trees. -/
lemma Accepting.hoistPair (hb : Accepting b) {wrap : TileImage → TileImage → TileImage}
    {wrapM major minor} (hs : ∀ t u, Sized t s → Sized u s → Sized (wrap t u) s)
    (hw : ∀ t u, Sized t s → Sized u s → wrapM t u = pure (wrap t u))
    (hM : Sized major s) (hm : Sized minor s) :
    b.hoistPair wrapM major minor = pure (TileImage.hoistPair wrap major minor) := by
  have built := (sized_structural s).hoistPair hs hM hm
  rw [TileImage.hoistPair] at built ⊢
  rw [Builder.hoistPair]
  cases eM : major.cases? with
  | some majors =>
    cases em : minor.cases? with
    | some minors =>
      simp only [eM, em] at built ⊢
      obtain rfl := alternatives_of_cases? eM
      obtain rfl := alternatives_of_cases? em
      have combined : Builder.cross (m := m) wrapM major.alternatives minor.alternatives = _ :=
        Accepting.cross fun c hc d hd => hw _ _ (hM.alternatives hc) (hm.alternatives hd)
      rw [combined, pure_bind]
      exact hb.switch built
    | none => exact hb.hoist (fun t ht => hs t minor ht hm) (fun t ht => hw t minor ht hm) hM
  | none =>
    cases em : minor.cases? with
    | some minors => exact hb.hoist (fun u hu => hs major u hM hu) (fun u hu => hw major u hM hu) hm
    | none => exact hw major minor hM hm

/-- Normalizing a sized tree never makes a node that is refused. -/
lemma Accepting.normalForm (hb : Accepting b) {t} (h : Sized t s) :
    b.normalForm t = pure t.normalForm := by
  induction h with
  | source => rfl
  | scaled => rfl
  | sprite hc ih =>
    show (do b.hoist _ (← b.normalForm _)) = _
    rw [ih, pure_bind]
    exact hb.hoist (fun _ => .sprite) (fun _ _ => rfl) hc.normalForm
  | layer hb' ha ihb iha =>
    show (do b.hoistPair b.layer (← b.normalForm _) (← b.normalForm _)) = _
    rw [ihb, pure_bind, iha, pure_bind]
    exact hb.hoistPair (fun _ _ => .layer) (fun _ _ ht hu => hb.layer (.layer ht hu))
      hb'.normalForm ha.normalForm
  | @switch cs s hd hs ih =>
    have built := (Sized.switch hd hs).normalForm
    rw [normalForm_switch] at built ⊢
    rw [Builder.normalForm, fold_switch]
    -- The traversal of the images that are already normalized is one of the images themselves.
    show (do b.switch (TileImage.splice (← (cs.map (Case.map b.normalForm)).mapM _))) = _
    rw [List.mapM_map]
    show (do b.switch (TileImage.splice (← cs.mapM (Case.mapM b.normalForm)))) = _
    rw [mapM_cases ih, pure_bind]
    exact hb.switch built
  | @animation fs s ht hs ih =>
    rw [normalForm_animation, Builder.normalForm, fold_animation]
    show (do b.animate (← (fs.map (Frame.map b.normalForm)).mapM _)) = _
    rw [List.mapM_map]
    show (do b.animate (← fs.mapM (Frame.mapM b.normalForm))) = _
    rw [mapM_frames ih, pure_bind]
    have sized : ∀ g ∈ fs.map (Frame.map TileImage.normalForm), Sized g.image s := by
      intro _ hm
      obtain ⟨f, hf, rfl⟩ := List.mem_map.1 hm
      exact (hs f hf).normalForm
    exact hb.animate (ht.map _) sized

/-- An accepting builder realizes a tree in a context. -/
lemma Accepting.realize (hb : Accepting b) {t} (h : Sized t s) (dc : DrawContext) :
    b.realize dc t = pure (t.realize dc) := by
  induction h with
  | source => rfl
  | scaled => rfl
  | sprite _ ih =>
    show (do return TileImage.sprite _ (← b.realize dc _)) = _
    rw [ih, pure_bind]
    rfl
  | layer hb' ha ihb iha =>
    show (do b.layer (← b.realize dc _) (← b.realize dc _)) = _
    rw [ihb, pure_bind, iha, pure_bind]
    exact hb.layer (((Sized.layer hb' ha).resolves_realize dc).sized (.layer hb' ha))
  | switch hd _ ih =>
    obtain ⟨t, ht⟩ := hd.selects dc
    obtain ⟨c, hc, rfl⟩ := ht.mem
    rw [realize_switch ht, Builder.realize, fold_switch]
    show (Case.selected? dc (List.map (Case.map (b.realize dc)) _)).getD _ = _
    rw [(ht.map (b.realize dc)).selected?]
    exact ih c hc
  | animation timed _ ih =>
    obtain ⟨t, shows, _, f, hf, rfl⟩ := Frame.shown timed.pos dc
    rw [realize_animation shows, Builder.realize, fold_animation]
    show (Frame.shown? dc.time (List.map (Frame.map (b.realize dc)) _)).getD _ = _
    rw [Frame.shown?_map, shows]
    exact ih f hf

/-- Cases whose variants are all built have nested variants that are all built. -/
lemma toList_nested_map {cs : List (Case TileImage)} {f : TileImage → LazySeq (m (Case TileImage))}
    {g : TileImage → List (Case TileImage)}
    (h : ∀ c ∈ cs, (f c.image).toList = (g c.image).map pure) :
    (Builder.nested (cs.map (Case.map f))).toList = (nest cs g).map pure := by
  rw [Builder.nested, LazySeq.toList_flatten, List.map_map, List.flatMap_map, nest,
    List.map_flatMap]
  refine List.flatMap_congr fun c hc => ?_
  show ((f c.image).map _).toList = _
  rw [LazySeq.toList_map, h c hc, List.map_map, List.map_map]
  exact List.map_congr_left fun r _ => pure_bind r _

/-- An accepting builder makes all variants of a tree. -/
lemma Accepting.variants (hb : Accepting b) {t} (h : Sized t s) :
    (b.variants t).toList = t.variants.toList.map pure := by
  induction h with
  | source => rfl
  | scaled => rfl
  | @sprite window child _ _ ih =>
    show ((b.variants child).map _).toList = _
    rw [LazySeq.toList_map, ih, variants_sprite, List.map_map, List.map_map]
    exact List.map_congr_left fun r _ => pure_bind r _
  | @layer below above s hbelow habove ihb iha =>
    show (LazySeq.product _ (b.variants below) fun _ => b.variants above).toList = _
    -- Both sides run over the same pairs, so it is enough to look at what is built of one pair.
    rw [LazySeq.toList_product, ihb, iha, variants_layer, nest, List.flatMap_map, List.map_flatMap]
    refine List.flatMap_congr fun c hc => ?_
    rw [List.map_map, List.map_map, List.map_map]
    refine List.map_congr_left fun d hd => ?_
    have sized : Sized (.layer c.image d.image) s :=
      .layer ((resolves_of_mem_variants hc).sized hbelow) ((resolves_of_mem_variants hd).sized habove)
    show (do
      let c ← pure c
      let d ← pure d
      return Case.mk (c.condition.conj d.condition) (← b.layer c.image d.image)) = _
    rw [pure_bind, pure_bind, hb.layer sized, pure_bind]
    rfl
  | switch _ _ ih =>
    rw [variants_switch, Builder.variants, fold_switch]
    show (Builder.nested (exclusive .always (List.map (Case.map b.variants) _))).toList = _
    rw [Case.exclusive_map]
    refine toList_nested_map fun c hc => ?_
    obtain ⟨d, hd, e⟩ := Case.mem_exclusive hc
    exact e ▸ ih d hd
  | animation _ _ ih =>
    rw [variants_animation, Builder.variants, fold_animation]
    show (Builder.nested (Frame.windows (List.map (Frame.map b.variants) _))).toList = _
    rw [Frame.windows_map]
    refine toList_nested_map fun c hc => ?_
    obtain ⟨f, hf, e⟩ := Frame.mem_windows hc
    exact e ▸ ih f hf

end

end Builder

open Builder (trusting checking)

/-- A valid tree can be normalized, realized and enumerated with all the checks: nothing is refused,
the results are those of the operations without checks, and each is valid and of the size of the
tree. -/
theorem Valid.closed_under_operations {t : TileImage} (h : Valid t) (dc : DrawContext) :
    ((trusting.normalForm t).run = t.normalForm ∧
      checking.normalForm t = .ok t.normalForm ∧
      Valid t.normalForm ∧ t.normalForm.size = t.size) ∧
    ((trusting.realize dc t).run = t.realize dc ∧
      checking.realize dc t = .ok (t.realize dc) ∧
      Valid (t.realize dc) ∧ (t.realize dc).size = t.size) ∧
    (trusting.variants t).toList.map Id.run = t.variants.toList ∧
      (checking.variants t).toList = t.variants.toList.map .ok ∧
      ∀ r ∈ t.variants.toList, Valid r.image ∧ r.image.size = t.size := by
  have normal : Sized t.normalForm t.size := h.sized.normalForm
  have real : Sized (t.realize dc) t.size := (h.sized.resolves_realize dc).sized h.sized
  have listed : ∀ r ∈ t.variants.toList, Sized r.image t.size :=
    fun r hr => (resolves_of_mem_variants hr).sized h.sized
  refine ⟨⟨?_, ?_, normal.valid, normal.size_eq⟩, ⟨?_, ?_, real.valid, real.size_eq⟩, ?_, ?_,
    fun r hr => ⟨(listed r hr).valid, (listed r hr).size_eq⟩⟩
  · exact Builder.accepting_trusting.normalForm h.sized
  · exact Builder.accepting_checking.normalForm h.sized
  · exact Builder.accepting_trusting.realize h.sized dc
  · exact Builder.accepting_checking.realize h.sized dc
  · rw [Builder.accepting_trusting.variants h.sized, List.map_map]
    exact List.map_id t.variants.toList
  · exact Builder.accepting_checking.variants h.sized

/-- Nothing is refused at the crossing, of which all images are sixteen pixels wide. -/
theorem closed_under_operations_crossing :
    Valid Crossing.image ∧
      checking.normalForm Crossing.image = .ok Crossing.image.normalForm ∧
      checking.realize Crossing.rushHour Crossing.image =
        .ok (Crossing.image.realize Crossing.rushHour) ∧
      (checking.variants Crossing.image).toList = Crossing.image.variants.toList.map .ok ∧
      Crossing.image.normalForm.size = .square 16 := by
  obtain ⟨⟨_, normal, _, size⟩, ⟨_, real, _⟩, _, listed, _⟩ :=
    Valid.closed_under_operations Crossing.valid Crossing.rushHour
  exact ⟨Crossing.valid, normal, real, listed, size⟩

end TileImage

end Cityscape
