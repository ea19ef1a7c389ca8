import Cityscape.CommandLine.Session
import Cityscape.Proofs.Markup.Validity
import Cityscape.Proofs.TileImage.Bounds
import Cityscape.Proofs.TileImage.Builder

/-!
# Listings of tiles

A listing of a document that can be read computes the normal form, the size, the bounds and all
variants of each tile. All but the bounds can always be computed, with every check that the checked
constructors make and with clock times that fit (`Listable`): whatever is read is valid. The bounds are
those of sprites over the placeholder sheet, so they fit as long as no window that is measured is too
wide for a product in 32 bits. The main statement, `listTiles_ending`, is that a listing is finished or
aborted accordingly. No document is refused for the width of an overlap; `listTiles_aborts` has the
shortest one that aborts a listing.
-/

namespace Cityscape

open Image (unitsPerCell)
open TileImage (Valid Sized Flat)

namespace TileImage

/-- Somewhere in a tree there is an animation with these frames. -/
inductive Animates : TileImage → List (Frame TileImage) → Prop where
  | here {fs} :
    Animates (.animation fs) fs
  | sprite {window child fs} :
    Animates child fs →
    Animates (.sprite window child) fs
  | layerBelow {below above fs} :
    Animates below fs →
    Animates (.layer below above) fs
  | layerAbove {below above fs} :
    Animates above fs →
    Animates (.layer below above) fs
  | case {cs c fs} :
    c ∈ cs →
    Animates c.image fs →
    Animates (.switch cs) fs
  | frame {gs g fs} :
    g ∈ gs →
    Animates g.image fs →
    Animates (.animation gs) fs

/-- An animation somewhere in a tree is a part of the tree. -/
lemma Animates.subtree {t fs} (h : Animates t fs) : Subtree (.animation fs) t := by
  induction h with
  | here => exact .refl
  | sprite _ ih => exact .sprite ih
  | layerBelow _ ih => exact .layerBelow ih
  | layerAbove _ ih => exact .layerAbove ih
  | case hc _ ih => exact .case hc ih
  | frame hg _ ih => exact .frame hg ih

/-- The animations of a valid tree run for some time, and their periods fit the clock. -/
lemma Animates.timed {t fs s} (h : Animates t fs) (sized : Sized t s) : Frame.Timed fs := by
  cases sized.subtree h.subtree with
  | animation timed _ => exact timed

end TileImage

namespace CommandLine

open TileImage (Animates)
open TileImage.Builder (checking)

/-- What a listing asks of a tree, apart from its bounds, can be computed with all the checks, and
with windows of frames that the clock can count. -/
structure Listable (t : TileImage) : Prop where
  valid : Valid t
  normalForm : checking.normalForm t = .ok t.normalForm
  variants : (checking.variants t.normalForm).toList = t.normalForm.variants.toList.map .ok
  clock : ∀ {fs}, Animates t fs ∨ Animates t.normalForm fs →
    Frame.windows? fs = some (Frame.windows fs)

/-- Every valid tree can be listed. -/
lemma Listable.of_valid {t : TileImage} (h : Valid t) : Listable t where
  valid := h
  normalForm := TileImage.Builder.accepting_checking.normalForm h.sized
  variants := TileImage.Builder.accepting_checking.variants h.sized.normalForm
  clock := by
    rintro fs (tree | form)
    · exact Frame.windows?_eq (tree.timed h.sized).fits
    · exact Frame.windows?_eq (form.timed h.sized.normalForm).fits

/-! ## What is read with placeholders -/

section
variable {document : List Markup.Token} {set : TileSet}
  (accepted : Markup.readTileSet placeholderSheets.resolver document = .ok set)
include accepted

/-- Every image that was read is valid. -/
lemma valid_of_accepted {entry} (h : entry ∈ set.entries) : Valid entry.2 :=
  ((Markup.sound_sheets placeholderSheets).inherited.readTileSet document).of_ok accepted entry h

/-- All sprites show the placeholder sheet. -/
lemma flat_of_accepted {entry} (h : entry ∈ set.entries) : Flat unitsPerCell entry.2 := by
  have inherited : Markup.Inherited placeholderSheets.resolver ComposeError.OfContent
      (Flat unitsPerCell) := by
    apply Sheets.inherited (fun _ _ => .sprite)
    case layer =>
      intro below above hb ha
      refine .intro (fun t built => ?_) fun _ => Markup.ofContent_of_layer?
      obtain ⟨_, rfl⟩ := TileImage.layer?_eq_ok_iff.1 built
      exact .layer hb ha
    case switch =>
      intro cs default hc hd
      refine .intro (fun t built => ?_) fun _ => Markup.ofContent_of_switchOr?
      obtain ⟨_, _, rfl⟩ := TileImage.switch?_eq_ok_iff.1 built
      exact .switch (forall_mem_concat hc hd)
    case animation =>
      intro fs nonempty hf
      refine .intro (fun t built => ?_) fun _ => Markup.ofContent_of_animation? nonempty
      obtain ⟨_, _, _, rfl⟩ := TileImage.animation?_eq_ok_iff.1 built
      exact .animation fun f hm => (hf f hm).2
  exact (inherited.readTileSet document).of_ok accepted entry h

/-- A tile has lines to be printed if and only if the windows that it is measured by are narrow. -/
lemma tileLines?_isSome_iff {entry} (h : entry ∈ set.entries) :
    (tileLines? entry.1 entry.2).isSome = true ↔
      ∀ window ∈ entry.2.measuredWindows, window.Narrow := by
  have sized := (valid_of_accepted accepted h).sized
  rw [← (flat_of_accepted accepted h).bounds?_isSome_iff sized, ← sized.bounds?_normalForm, tileLines?]
  cases entry.2.normalForm.bounds? <;> rfl

end

/-! ## Endings -/

/-- A listing is aborted at the first tile without lines. -/
lemma entriesTranscript_ending {entries : List (String × TileImage)} {printed} :
    (entriesTranscript entries printed).ending =
      if ∀ entry ∈ entries, (tileLines? entry.1 entry.2).isSome = true then .finished
      else .aborted := by
  induction entries generalizing printed with
  | nil => exact (if_pos nofun).symm
  | cons entry rest ih =>
    obtain ⟨name, image⟩ := entry
    rw [entriesTranscript]
    cases e : tileLines? name image with
    | none =>
      refine (if_neg fun all => ?_).symm
      have first := all (name, image) List.mem_cons_self
      rw [e] at first
      cases first
    | some lines =>
      simp only [ih, List.forall_mem_cons, e, Option.isSome_some, true_and]

/-- What a listing of an accepted document computes does not fail, but for the bounds: the listing is
finished if the windows that its tiles are measured by are narrow, and else it is aborted. -/
theorem listTiles_ending {readFile : String → Except String Markup.Bytes} {path : String}
    {document : Markup.Bytes} {set : TileSet} (opened : readFile path = .ok document)
    (accepted : Markup.readTileSet placeholderSheets.resolver (Markup.tokens document) = .ok set) :
    (∀ entry ∈ set.entries, Listable entry.2) ∧
      (listTiles readFile path).ending =
        if ∀ entry ∈ set.entries, ∀ window ∈ entry.2.measuredWindows, window.Narrow then .finished
        else .aborted := by
  refine ⟨fun entry h => .of_valid (valid_of_accepted accepted h), ?_⟩
  have lines : (∀ entry ∈ set.entries, (tileLines? entry.1 entry.2).isSome = true) ↔
      ∀ entry ∈ set.entries, ∀ window ∈ entry.2.measuredWindows, window.Narrow :=
    forall₂_congr fun entry h => tileLines?_isSome_iff accepted h
  simp only [listTiles, opened, accepted, entriesTranscript_ending, lines]

namespace Strip

/-- A tile that extends into its eastern neighbours. -/
def document (overlap : String) : Markup.Bytes :=
  Markup.asciiBytes
    ("<tiles><tile name=\"strip\"><image overlap-east=\"" ++ overlap ++ "\"/></tile></tiles>")

def files (overlap : String) : String → Except String Markup.Bytes := fun _ => .ok (document overlap)

def tiles (overlap : String) : Except Markup.LoadError TileSet :=
  Markup.readTileSet placeholderSheets.resolver (Markup.tokens (document overlap))

/-- What is read from the document has a property, if it can be computed that it has. -/
lemma exists_tiles {overlap} {p : TileSet → Prop} [DecidablePred p]
    (h : (tiles overlap).toOption.any (fun set => decide (p set)) = true) :
    ∃ set, tiles overlap = .ok set ∧ p set := by
  cases e : tiles overlap with
  | ok set =>
    rw [e] at h
    exact ⟨set, rfl, of_decide_eq_true h⟩
  | error =>
    rw [e] at h
    cases h

end Strip

/-- The longest strip that can be listed. -/
theorem listTiles_ending_strip :
    ∃ set, Strip.tiles "268435455" = .ok set ∧ set.entries.map (·.1) = ["strip"] ∧
      (∀ entry ∈ set.entries, Listable entry.2) ∧
      (listTiles (Strip.files "268435455") "strip.xml").ending = .finished := by
  have narrow : ∃ set, Strip.tiles "268435455" = .ok set ∧ set.entries.map (·.1) = ["strip"] ∧
      ∀ entry ∈ set.entries, ∀ window ∈ entry.2.measuredWindows, window.Narrow :=
    Strip.exists_tiles (by decide +kernel)
  obtain ⟨set, accepted, names, narrow⟩ := narrow
  have opened : Strip.files "268435455" "strip.xml" = .ok (Strip.document "268435455") := rfl
  obtain ⟨listable, ending⟩ := listTiles_ending opened accepted
  exact ⟨set, accepted, names, listable, ending.trans (if_pos narrow)⟩

/-- A strip that is one unit longer is accepted as well, but has no bounds, and the listing is
aborted. -/
theorem listTiles_aborts :
    (∃ set, Strip.tiles "268435456" = .ok set ∧ set.entries.map (·.1) = ["strip"] ∧
      ∀ entry ∈ set.entries, entry.2.normalForm.bounds? = none) ∧
      listTiles (Strip.files "268435456") "strip.xml" = ⟨[], .aborted⟩ := by
  constructor
  · exact Strip.exists_tiles (by decide +kernel)
  · decide +kernel

end CommandLine

end Cityscape
