import Cityscape.TileImage.Basic

/-!
# Equality of tile images

Two trees are compared node by node, sheets by their pixels. The comparison decides equality.
-/

namespace Cityscape.TileImage

mutual

/-- Whether two trees have the same nodes. -/
def same : TileImage → TileImage → Bool
  | source p b, source q c => b == c && decide (p = q)
  | scaled p b t, scaled q c u => b == c && t == u && decide (p = q)
  | sprite v s, sprite w t => decide (v = w) && same s t
  | layer s t, layer u v => same s u && same t v
  | switch cs, switch ds => sameCases cs ds
  | animation fs, animation gs => sameFrames fs gs
  | _, _ => false

/-- Whether two lists of cases have the same conditions and the same images. -/
def sameCases : List (Case TileImage) → List (Case TileImage) → Bool
  | [], [] => true
  | ⟨c, s⟩ :: cs, ⟨d, t⟩ :: ds => decide (c = d) && same s t && sameCases cs ds
  | _, _ => false

/-- Whether two lists of frames have the same durations and the same images. -/
def sameFrames : List (Frame TileImage) → List (Frame TileImage) → Bool
  | [], [] => true
  | ⟨m, s⟩ :: fs, ⟨n, t⟩ :: gs => m == n && same s t && sameFrames fs gs
  | _, _ => false

end

/-- The comparison of cases decides their equality if that of their images does. -/
theorem sameCases_iff {cs : List (Case TileImage)}
    (h : ∀ c ∈ cs, ∀ t, same c.image t = true ↔ c.image = t) (ds : List (Case TileImage)) :
    sameCases cs ds = true ↔ cs = ds := by
  induction cs generalizing ds with
  | nil => cases ds <;> simp [sameCases]
  | cons c cs ih =>
    cases ds with
    | nil => simp [sameCases]
    | cons d ds =>
      obtain ⟨cc, ci⟩ := c
      obtain ⟨dc, di⟩ := d
      have hi := h ⟨cc, ci⟩ (by simp) di
      have hs := ih (fun c hc => h c (by simp [hc])) ds
      simp_all [sameCases]

/-- The comparison of frames decides their equality if that of their images does. -/
theorem sameFrames_iff {fs : List (Frame TileImage)}
    (h : ∀ f ∈ fs, ∀ t, same f.image t = true ↔ f.image = t) (gs : List (Frame TileImage)) :
    sameFrames fs gs = true ↔ fs = gs := by
  induction fs generalizing gs with
  | nil => cases gs <;> simp [sameFrames]
  | cons f fs ih =>
    cases gs with
    | nil => simp [sameFrames]
    | cons g gs =>
      obtain ⟨fd, fi⟩ := f
      obtain ⟨gd, gi⟩ := g
      have hi := h ⟨fd, fi⟩ (by simp) gi
      have hs := ih (fun f hf => h f (by simp [hf])) gs
      simp_all [sameFrames]

/-- The comparison of trees decides their equality. -/
theorem same_iff_eq (s t : TileImage) : same s t = true ↔ s = t := by
  induction s using TileImage.induction generalizing t with
  | onSource p b => cases t <;> simp [same, and_comm]
  | onScaled p b u => cases t <;> simp [same, and_comm, and_assoc]
  | onSprite w s ih => cases t <;> simp [same, ih]
  | onLayer s u ihs ihu => cases t <;> simp [same, ihs, ihu]
  | onSwitch cs ih => cases t <;> simp [same, sameCases_iff ih]
  | onAnimation fs ih => cases t <;> simp [same, sameFrames_iff ih]

/-- Trees are compared node by node. -/
instance : DecidableEq TileImage := fun s t => decidable_of_iff _ (same_iff_eq s t)

end Cityscape.TileImage
