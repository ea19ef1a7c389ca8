import Cityscape.Proofs.Markup.Meaning
import Cityscape.Proofs.Markup.Sheets
import Cityscape.Proofs.TileImage.Validity

/-!
# Documents describe valid tile images

If a resolver only gives valid trees (`Resolver.Sound`), then every tree that is read with it is
valid, whatever the document is: `read_valid`. Validity is inherited, since a reader composes with the
checked constructors and with nothing else. Of their errors it never reports that a switch is empty or
has no default, or that an animation is empty: these have errors of their own for documents.

Sheets are a sound resolver (`sound_sheets`), so nothing has to be assumed of documents that are read
with them.
-/

namespace Cityscape

open TileImage (Valid Sized)

namespace Markup

section
variable {resolver : Resolver}

/-- A resolver that gives nothing but valid trees. -/
structure Resolver.Sound (resolver : Resolver) : Prop where
  default : ∀ {image}, resolver.default = .ok image → Valid image
  named : ∀ {name image}, resolver.named name = .ok image → Valid image
  frameSpec : ∀ {spec image}, resolver.frameSpec spec = .ok image → Valid image

/-- A reference resolved by a sound resolver is a valid tree. -/
lemma Resolver.Sound.valid_of_gives (h : resolver.Sound) {image} (hi : resolver.Gives image) :
    Valid image := by
  rcases hi with hd | ⟨name, hn⟩
  · exact h.default hd
  · exact h.named hn

/-- A reader with a sound resolver builds valid trees from valid trees. -/
lemma Resolver.Sound.inherited (h : resolver.Sound) :
    Inherited resolver ComposeError.OfContent Valid := by
  apply Inherited.of_constructors
  case sprite => exact fun hi => .sprite (h.valid_of_gives hi)
  case frameSpec => exact h.frameSpec
  case layer => exact .layer
  case switch => exact fun hc hd built => .switch (forall_mem_concat hc hd) built
  case animation =>
    intro fs t hf built
    apply Valid.animation fun f hm => (hf f hm).2
    rwa [Frame.raised_eq fun f hm => (hf f hm).1]

/-- What may be said of an error of a reader, if it is a composition error. -/
lemma Due.of_compose {tag cause}
    (h : Due resolver ComposeError.OfContent (.compose tag cause)) :
    resolver.Raises (.compose tag cause) ∨
      (cause ≠ .emptySwitch ∧ cause ≠ .missingDefault ∧ cause ≠ .emptyAnimation) :=
  h.imp_right fun content => content tag cause rfl

/-- With a sound resolver, every tree that a document is read as is valid: its layers and variants
have one size at every level, every switch ends in a default, and the frames of every animation last
and have a period that the clock can count. A composition error that does not come from the resolver
never says that a switch or an animation lacks variants. -/
theorem read_valid (h : resolver.Sound) (document : List Token) :
    (∀ image, readImage resolver document = .ok image → Valid image ∧ Sized image image.size) ∧
    (∀ set, readTileSet resolver document = .ok set →
      ∀ entry ∈ set.entries, Valid entry.2 ∧ Sized entry.2 entry.2.size) ∧
    ∀ tag cause,
      readImage resolver document = .error (.compose tag cause) ∨
        readTileSet resolver document = .error (.compose tag cause) →
      resolver.Raises (.compose tag cause) ∨
        (cause ≠ .emptySwitch ∧ cause ≠ .missingDefault ∧ cause ≠ .emptyAnimation) := by
  have image := h.inherited.readImage document
  have tiles := h.inherited.readTileSet document
  refine ⟨fun t e => ?_, fun set e entry he => ?_, fun tag cause e => ?_⟩
  · have valid : Valid t := image.of_ok e
    exact ⟨valid, valid.sized⟩
  · have valid : Valid entry.2 := tiles.of_ok e entry he
    exact ⟨valid, valid.sized⟩
  · rcases e with e | e
    · exact (image.of_error e).of_compose
    · exact (tiles.of_error e).of_compose

end

/-- Every set of sheets resolves to valid trees only. -/
lemma sound_sheets (s : Sheets) : s.resolver.Sound := by
  have image : ∀ pixels, Valid (s.image pixels) := by
    intro pixels
    rw [Sheets.image]
    cases s.target with
    | none => exact .source
    | some target =>
      dsimp only
      split
      · exact .source
      · exact .scaled
  have given {t} (h : s.resolver.Gives t) : Valid t := by
    obtain ⟨pixels, rfl⟩ := Sheets.exists_of_gives h
    exact image pixels
  have layered {below above} (hb : Valid below) (ha : Valid above) :
      Ensures ComposeError.OfContent Valid (TileImage.layer? below above) :=
    .intro (fun _ => .layer hb ha) fun _ => ofContent_of_layer?
  refine ⟨fun e => ?_, fun e => ?_, fun e => ?_⟩
  · exact given (.inl e)
  · exact given (.inr ⟨_, e⟩)
  · exact (Sheets.ensures_frameSpec (fun _ pixels => .sprite (image pixels)) layered).of_ok e

namespace Junction

/-- One empty sheet, for all names. -/
def sheets : Sheets := { Sheets.ofBasis 16 with fallback := some (.clear 0 0) }

/-- A sprite at some column. -/
def sprite (column : String) : Node := .element "image" [("at", column ++ ",0")] none

/-- A road with traffic, if it goes on in the west. The second frame lasts for a number of ticks. -/
def road (ticks : String) : Node :=
  .element "switch" [] (some [
    .element "case" [("tile-west", "road")] (some [
      .element "animation" [] (some [
        .element "frame" [("duration", "0")] (some [sprite "1"]),
        .element "frame" [("duration", ticks)] (some [sprite "2"])])]),
    .element "default" [] (some [sprite "3"])])

/-- The road below a lamp, as the only tile of a set. -/
def document (ticks : String) : Node :=
  .element "tiles" [] (some [
    .element "tile" [("name", "junction")] (some [
      .element "layered-image" [] (some [road ticks, sprite "8"])])])

end Junction

/-- The junction can be read if its frames last for as long as the clock can count, and is valid then.
With one more tick its animation cannot be composed. -/
theorem read_valid_junction :
    Junction.sheets.resolver.Sound ∧
      (∃ set, readTileSet Junction.sheets.resolver
          (Junction.document "18446744073709551614").tokens = .ok set ∧ set.size = 1 ∧
        ∀ entry ∈ set.entries, Valid entry.2 ∧ Sized entry.2 entry.2.size) ∧
      ∃ cause, readTileSet Junction.sheets.resolver
          (Junction.document "18446744073709551615").tokens = .error (.compose "animation" cause) ∧
        cause ≠ .emptySwitch ∧ cause ≠ .missingDefault ∧ cause ≠ .emptyAnimation := by
  have sound := sound_sheets Junction.sheets
  obtain ⟨_, valid, _⟩ := read_valid sound (Junction.document "18446744073709551614").tokens
  obtain ⟨_, _, reported⟩ := read_valid sound (Junction.document "18446744073709551615").tokens
  refine ⟨sound, ⟨_, rfl, rfl, valid _ rfl⟩, .periodOverflow, rfl, ?_⟩
  exact (reported "animation" .periodOverflow (.inr rfl)).resolve_left Sheets.not_raises_compose

end Markup

end Cityscape
