import Cityscape.Proofs.Frame.Windows
import Cityscape.TileImage.Compose

/-!
# Valid tile images

A tree is `Valid` if it can be built by the checked constructors `layer?`, `switch?` and
`animation?`, with frames made by `Frame.lasting`; sheets and sprites can be added freely. The
judgment `Sized t s` says the same without the checks: all variants of the tree, at every level,
have the standard size `s`, every switch ends in a default, and the frames of every animation last
and have a period that the clock can count. It holds of every part of a tree, if it holds of the tree
(`Sized.subtree`).

`layer?_eq_ok_iff`, `switch?_eq_ok_iff` and `animation?_eq_ok_iff` say what each constructor
accepts. From them it follows that the two descriptions agree (`Sized.valid`, `Valid.sized`), and the
size in the judgment is the one that the tree is measured at.
-/

namespace Cityscape

open Image

variable {α β : Type}

namespace Frame

/-- Frames that an animation can repeat. -/
structure Timed (fs : List (Frame α)) : Prop where
  nonempty : fs ≠ []
  lasting : ∀ f ∈ fs, 1 ≤ f.duration
  fits : Bounds.uint64.Holds (period fs)

/-- The frames as they are after each was made to last at least one tick. -/
def raised (fs : List (Frame α)) : List (Frame α) := fs.map fun f => lasting f.duration f.image

/-- After they were made to last, all frames last at least one tick. -/
lemma lasting_raised {fs : List (Frame α)} {f} (h : f ∈ raised fs) : 1 ≤ f.duration := by
  obtain ⟨g, _, rfl⟩ := List.mem_map.1 h
  exact Nat.le_max_right g.duration 1

/-- Frames that all last are not changed by making them last. -/
lemma raised_eq {fs : List (Frame α)} (h : ∀ f ∈ fs, 1 ≤ f.duration) : raised fs = fs := by
  apply (List.map_congr_left fun f hf => ?_).trans (List.map_id fs)
  show lasting f.duration f.image = f
  rw [Frame.lasting, Nat.max_eq_left (h f hf)]

/-- Frames that an animation can repeat have a period. -/
lemma Timed.pos {fs : List (Frame α)} (h : Timed fs) : 0 < period fs := by
  cases fs with
  | nil => exact absurd rfl h.nonempty
  | cons f fs =>
    have hf := h.lasting f List.mem_cons_self
    exact Nat.lt_of_lt_of_le hf (Nat.le_add_right f.duration (period fs))

/-- Changing the images keeps frames that an animation can repeat. -/
lemma Timed.map {fs : List (Frame α)} (f : α → β) (h : Timed fs) : Timed (fs.map (Frame.map f)) where
  nonempty := fun e => h.nonempty (List.map_eq_nil_iff.1 e)
  lasting := by
    intro _ hm
    obtain ⟨g, hg, rfl⟩ := List.mem_map.1 hm
    exact h.lasting g hg
  fits := by
    rw [period_map]
    exact h.fits

/-- The cases of frames that an animation can repeat have a default. -/
lemma Timed.hasDefault_asCases {fs : List (Frame α)} (h : Timed fs) :
    Case.HasDefault (asCases fs) := by
  apply Case.HasDefault.withDefault
  match fs, h with
  | [], h => exact absurd rfl h.nonempty
  | [f], _ => exact List.cons_ne_nil _ _
  | f :: g :: fs, _ => exact List.cons_ne_nil _ _

end Frame

namespace TileImage

/-- A tree that the checked constructors can build. -/
inductive Valid : TileImage → Prop where
  | source {pixels basis} :
    Valid (.source pixels basis)
  | scaled {pixels basis target} :
    Valid (.scaled pixels basis target)
  | sprite {window child} :
    Valid child →
    Valid (.sprite window child)
  | layer {below above t} :
    Valid below →
    Valid above →
    layer? below above = .ok t →
    Valid t
  | switch {cs t} :
    (∀ c ∈ cs, Valid c.image) →
    switch? cs = .ok t →
    Valid t
  | animation {fs t} :
    (∀ f ∈ fs, Valid f.image) →
    animation? (Frame.raised fs) = .ok t →
    Valid t

/-- A tree of which all variants have one standard size, and can be selected from. -/
inductive Sized : TileImage → Size → Prop where
  | source {pixels basis} :
    Sized (.source pixels basis) (.square basis)
  | scaled {pixels basis target} :
    Sized (.scaled pixels basis target) (.square target)
  | sprite {window child s} :
    Sized child s →
    Sized (.sprite window child) s
  | layer {below above s} :
    Sized below s →
    Sized above s →
    Sized (.layer below above) s
  | switch {cs s} :
    Case.HasDefault cs →
    (∀ c ∈ cs, Sized c.image s) →
    Sized (.switch cs) s
  | animation {fs s} :
    Frame.Timed fs →
    (∀ f ∈ fs, Sized f.image s) →
    Sized (.animation fs) s

/-- A tree that stands somewhere in another one, or is that tree. -/
inductive Subtree : TileImage → TileImage → Prop where
  | refl {t} :
    Subtree t t
  | sprite {u window child} :
    Subtree u child →
    Subtree u (.sprite window child)
  | layerBelow {u below above} :
    Subtree u below →
    Subtree u (.layer below above)
  | layerAbove {u below above} :
    Subtree u above →
    Subtree u (.layer below above)
  | case {u cs c} :
    c ∈ cs →
    Subtree u c.image →
    Subtree u (.switch cs)
  | frame {u fs f} :
    f ∈ fs →
    Subtree u f.image →
    Subtree u (.animation fs)

/-- All parts of a sized tree have its size. -/
lemma Sized.subtree {t u s} (h : Subtree u t) (sized : Sized t s) : Sized u s := by
  induction h with
  | refl => exact sized
  | sprite _ ih =>
    cases sized with | sprite sized => exact ih sized
  | layerBelow _ ih =>
    cases sized with | layer hb _ => exact ih hb
  | layerAbove _ ih =>
    cases sized with | layer _ ha => exact ih ha
  | case hc _ ih =>
    cases sized with | switch _ hs => exact ih (hs _ hc)
  | frame hf _ ih =>
    cases sized with | animation _ hs => exact ih (hs _ hf)

/-- The size of a switch is that of its last image. -/
lemma size_switch {cs last} (h : cs.getLast? = some last) :
    size (.switch cs) = size last.image := by
  rw [size, fold_switch]
  show (Case.default? (cs.map (Case.map size))).getD _ = _
  rw [Case.default?, List.getLast?_map, h]
  rfl

/-- The size of an animation is that of its last image. -/
lemma size_animation {fs last} (h : fs.getLast? = some last) :
    size (.animation fs) = size last.image := by
  rw [size, fold_animation]
  show (Frame.default? (fs.map (Frame.map size))).getD _ = _
  rw [Frame.default?, List.getLast?_map, h]
  rfl

/-- The size in the judgment is the size that is computed. -/
lemma Sized.size_eq {t s} (h : Sized t s) : t.size = s := by
  induction h with
  | source => rfl
  | scaled => rfl
  | sprite _ ih => exact ih
  | layer _ _ ih _ => exact ih
  | switch hd _ ih =>
    obtain ⟨last, e, _⟩ := Case.hasDefault_iff.1 hd
    rw [size_switch e]
    exact ih last (List.mem_of_getLast? e)
  | @animation fs s ht _ ih =>
    have e := List.getLast?_eq_some_getLast ht.nonempty
    rw [size_animation e]
    exact ih _ (List.getLast_mem ht.nonempty)

/-- The sizes of images pass the check if all of them are equal. -/
lemma checkSizes_eq_ok_iff {ts} : checkSizes ts = .ok () ↔ ∃ s, ∀ t ∈ ts, t.size = s := by
  cases ts with
  | nil => exact ⟨fun _ => ⟨.square 0, fun _ h => absurd h List.not_mem_nil⟩, fun _ => rfl⟩
  | cons first others =>
    rw [checkSizes]
    cases e : others.find? fun image => decide (image.size ≠ first.size) with
    | none =>
      refine ⟨fun _ => ⟨first.size, fun t ht => ?_⟩, fun _ => rfl⟩
      rcases List.mem_cons.1 ht with rfl | ht
      · rfl
      · simpa using List.find?_eq_none.1 e t ht
    | some image =>
      refine ⟨nofun, fun ⟨s, hs⟩ => ?_⟩
      have differ : image.size ≠ first.size := by simpa using List.find?_some e
      have hi := hs image (List.mem_cons_of_mem _ (List.mem_of_find?_eq_some e))
      have hf := hs first List.mem_cons_self
      exact absurd (hi.trans hf.symm) differ

/-- A layer is made of two images of one size. -/
lemma layer?_eq_ok_iff {below above t} :
    layer? below above = .ok t ↔ below.size = above.size ∧ t = .layer below above := by
  rw [layer?]
  split
  case isTrue h => exact ⟨fun e => ⟨h, (Except.ok.inj e).symm⟩, fun ⟨_, e⟩ => e ▸ rfl⟩
  case isFalse h => exact ⟨nofun, fun ⟨e, _⟩ => absurd e h⟩

/-- A switch is made of cases with a default and with images of one size. -/
lemma switch?_eq_ok_iff {cs t} :
    switch? cs = .ok t ↔
      Case.HasDefault cs ∧ (∃ s, ∀ c ∈ cs, c.image.size = s) ∧ t = .switch cs := by
  have sizes : checkSizes (cs.map (·.image)) = .ok () ↔ ∃ s, ∀ c ∈ cs, c.image.size = s := by
    simp only [checkSizes_eq_ok_iff, List.forall_mem_map]
  rw [switch?, Case.hasDefault_iff, ← sizes]
  cases cs.getLast? with
  | none => exact ⟨nofun, fun ⟨⟨_, e, _⟩, _⟩ => nomatch e⟩
  | some last =>
    dsimp only
    split
    case isTrue h =>
      cases e : checkSizes (cs.map (·.image)) with
      | error => exact ⟨nofun, fun ⟨_, e', _⟩ => nomatch e'⟩
      | ok =>
        refine ⟨fun e' => ⟨⟨last, rfl, h⟩, rfl, (Except.ok.inj e').symm⟩, fun ⟨_, _, e'⟩ => ?_⟩
        exact e' ▸ rfl
    case isFalse h =>
      refine ⟨nofun, fun ⟨⟨last', e, h'⟩, _⟩ => ?_⟩
      exact absurd (Option.some.inj e ▸ h') h

/-- An animation is made of some frames with images of one size and a period that fits. -/
lemma animation?_eq_ok_iff {fs t} :
    animation? fs = .ok t ↔
      fs ≠ [] ∧ Bounds.uint64.Holds (Frame.period fs) ∧
        (∃ s, ∀ f ∈ fs, f.image.size = s) ∧ t = .animation fs := by
  have sizes : checkSizes (fs.map (·.image)) = .ok () ↔ ∃ s, ∀ f ∈ fs, f.image.size = s := by
    simp only [checkSizes_eq_ok_iff, List.forall_mem_map]
  rw [animation?, ← sizes]
  split
  case isTrue h => exact ⟨nofun, fun ⟨hn, _⟩ => absurd (List.isEmpty_iff.1 h) hn⟩
  case isFalse hn =>
    have hn' : fs ≠ [] := fun e => hn (List.isEmpty_iff.2 e)
    split
    case isTrue h =>
      cases e : checkSizes (fs.map (·.image)) with
      | error => exact ⟨nofun, fun ⟨_, _, e', _⟩ => nomatch e'⟩
      | ok =>
        refine ⟨fun e' => ⟨hn', h, rfl, (Except.ok.inj e').symm⟩, fun ⟨_, _, _, e'⟩ => ?_⟩
        exact e' ▸ rfl
    case isFalse h => exact ⟨nofun, fun ⟨_, h', _⟩ => absurd h' h⟩

/-- The checked constructor accepts the layers that are judged to have a size. -/
lemma Sized.layer?_eq {below above s} (h : Sized (.layer below above) s) :
    layer? below above = .ok (.layer below above) := by
  cases h with
  | layer hb ha => exact layer?_eq_ok_iff.2 ⟨hb.size_eq.trans ha.size_eq.symm, rfl⟩

/-- The checked constructor accepts the switches that are judged to have a size. -/
lemma Sized.switch?_eq {cs s} (h : Sized (.switch cs) s) : switch? cs = .ok (.switch cs) := by
  cases h with
  | switch hd hs => exact switch?_eq_ok_iff.2 ⟨hd, ⟨s, fun c hc => (hs c hc).size_eq⟩, rfl⟩

/-- The checked constructor accepts the animations that are judged to have a size. -/
lemma Sized.animation?_eq {fs s} (h : Sized (.animation fs) s) :
    animation? fs = .ok (.animation fs) := by
  cases h with
  | animation timed hs =>
    have sizes : ∃ s, ∀ f ∈ fs, f.image.size = s := ⟨s, fun f hf => (hs f hf).size_eq⟩
    exact animation?_eq_ok_iff.2 ⟨timed.nonempty, timed.fits, sizes, rfl⟩

/-- A tree that is judged to have a size is valid. -/
lemma Sized.valid {t s} (h : Sized t s) : Valid t := by
  induction h with
  | source => exact .source
  | scaled => exact .scaled
  | sprite _ ih => exact .sprite ih
  | layer hb ha ihb iha => exact .layer ihb iha (Sized.layer hb ha).layer?_eq
  | switch hd hs ih => exact .switch ih (Sized.switch hd hs).switch?_eq
  | animation timed hs ih =>
    have built := (Sized.animation timed hs).animation?_eq
    exact .animation ih ((Frame.raised_eq timed.lasting).symm ▸ built)

/-- A valid tree is judged to have its size. -/
lemma Valid.sized {t} (h : Valid t) : Sized t t.size := by
  suffices ∃ s, Sized t s by
    obtain ⟨s, hs⟩ := this
    rwa [hs.size_eq]
  induction h with
  | source => exact ⟨_, .source⟩
  | scaled => exact ⟨_, .scaled⟩
  | sprite _ ih =>
    obtain ⟨s, hs⟩ := ih
    exact ⟨s, .sprite hs⟩
  | layer _ _ built ihb iha =>
    obtain ⟨s, hb⟩ := ihb
    obtain ⟨s', ha⟩ := iha
    obtain ⟨e, rfl⟩ := layer?_eq_ok_iff.1 built
    obtain rfl : s = s' := hb.size_eq.symm.trans (e.trans ha.size_eq)
    exact ⟨s, .layer hb ha⟩
  | switch _ built ih =>
    -- Each image comes with a size of its own, which is the one that the check compared.
    obtain ⟨hd, ⟨s, sizes⟩, rfl⟩ := switch?_eq_ok_iff.1 built
    refine ⟨s, .switch hd fun c hc => ?_⟩
    obtain ⟨s', hs⟩ := ih c hc
    rwa [← hs.size_eq, sizes c hc] at hs
  | animation _ built ih =>
    obtain ⟨hn, fits, ⟨s, sizes⟩, rfl⟩ := animation?_eq_ok_iff.1 built
    refine ⟨s, .animation ⟨hn, fun _ => Frame.lasting_raised, fits⟩ fun f hf => ?_⟩
    have size := sizes f hf
    obtain ⟨g, hg, rfl⟩ := List.mem_map.1 hf
    obtain ⟨s', hs⟩ := ih g hg
    rwa [← hs.size_eq, show g.image.size = s from size] at hs

namespace Crossing

/-- The image in some column of an empty sheet. -/
def tile (column : Int) : TileImage := .sprite ⟨column, 0, 0, 0⟩ (.source (.clear 0 0) 16)

/-- The frames of a road with traffic. -/
def traffic : List (Frame TileImage) := [⟨2, tile 1⟩, ⟨3, tile 2⟩]

/-- A road that is animated if it goes on in the west. -/
def road : List (Case TileImage) :=
  [⟨.tile .west (.ofClass .road), .animation traffic⟩, ⟨.always, tile 3⟩]

/-- The cases of a lamp, which depends on the tile below it. -/
def lamp : List (Case TileImage) := [⟨.tile .here (.ofCode 66), tile 4⟩, ⟨.always, tile 5⟩]

/-- A light that is switched in its first tick. -/
def light : List (Frame TileImage) := [⟨1, .switch lamp⟩, ⟨2, tile 6⟩]

/-- A road below a light: both kinds of nesting, under a layer and a sprite. -/
def image : TileImage := .layer (.switch road) (.sprite ⟨0, 8, 4, 0⟩ (.animation light))

/-- The fourth tick, in a city that is all road. -/
def rushHour : DrawContext := ⟨3, fun _ => some Tile.road, ⟨1, 1⟩⟩

/-- The crossing of the example is valid. -/
lemma valid : Valid image := by
  have hTile : ∀ n, Valid (tile n) := fun _ => .sprite .source
  have hTraffic : Valid (.animation traffic) := by
    refine @Valid.animation traffic _ (fun f hf => ?_) rfl
    rcases List.mem_pair.1 hf with rfl | rfl <;> exact hTile _
  have hRoad : Valid (.switch road) := by
    refine @Valid.switch road _ (fun c hc => ?_) rfl
    rcases List.mem_pair.1 hc with rfl | rfl
    · exact hTraffic
    · exact hTile 3
  have hLamp : Valid (.switch lamp) := by
    refine @Valid.switch lamp _ (fun c hc => ?_) rfl
    rcases List.mem_pair.1 hc with rfl | rfl <;> exact hTile _
  have hLight : Valid (.animation light) := by
    refine @Valid.animation light _ (fun f hf => ?_) rfl
    rcases List.mem_pair.1 hf with rfl | rfl
    · exact hLamp
    · exact hTile 6
  exact .layer hRoad (.sprite hLight) rfl

end Crossing

end TileImage

end Cityscape
