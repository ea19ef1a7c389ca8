import Cityscape.Proofs.Markup.Preservation
import Cityscape.Sheets

/-!
# Sheets as a resolver

A reference to sheets is resolved to one of them, and the short form of a frame to a stack of sprites
that show them. So a property is inherited by all that is read with sheets as soon as sprites over a
sheet have it and the checked constructors keep it (`Sheets.inherited`). What sheets refuse is never
refused with a composition error (`Sheets.not_raises_compose`); where the parts of a short form cannot
be layered, the error says so in its own way.
-/

namespace Cityscape.Sheets

open Markup

variable {s : Sheets} {allowed : ComposeError → Prop}

/-- An error of sheets: no composition error, and one about layers only if they may fail like that. -/
def Refusal (allowed : ComposeError → Prop) (e : LoadError) : Prop :=
  (∀ tag cause, e ≠ .compose tag cause) ∧
    ∀ spec cause, e = .invalidFrameSpec spec (.layers cause) → allowed cause

/-- An error for want of a sheet. -/
def Missing (e : LoadError) : Prop := e = .noDefaultImage ∨ ∃ name, e = .imageNotFound name

/-- The want of a sheet is no composition error. -/
lemma Missing.refusal {e} (h : Missing e) : Refusal allowed e := by
  rcases h with rfl | ⟨name, rfl⟩
  · exact ⟨nofun, nofun⟩
  · exact ⟨nofun, nofun⟩

/-- A name resolves to a sheet, or a sheet is missing. -/
lemma ensures_namedImage {name} :
    Ensures Missing (fun image => ∃ pixels, image = s.image pixels) (s.namedImage name) := by
  rw [namedImage]
  cases ((s.named.find? (·.1 == name)).map (·.2)).or s.fallback with
  | some pixels => exact ⟨pixels, rfl⟩
  | none => exact .inr ⟨name, rfl⟩

/-- The default resolves to a sheet, or a sheet is missing. -/
lemma ensures_defaultImage :
    Ensures Missing (fun image => ∃ pixels, image = s.image pixels) s.defaultImage := by
  rw [defaultImage]
  cases s.default with
  | some name => exact ensures_namedImage
  | none =>
    cases s.fallback with
    | some pixels => exact ⟨pixels, rfl⟩
    | none => exact .inl rfl

/-- A reference in a short form resolves to a sheet, or a sheet is missing. -/
lemma ensures_referredImage {name} :
    Ensures Missing (fun image => ∃ pixels, image = s.image pixels) (s.referredImage name) := by
  rw [referredImage]
  split
  · exact ensures_defaultImage
  · exact ensures_namedImage

/-- What sheets resolve a reference to is one of them. -/
lemma exists_of_gives {image} (h : s.resolver.Gives image) : ∃ pixels, image = s.image pixels := by
  rcases h with e | ⟨name, e⟩
  · exact ensures_defaultImage.of_ok e
  · exact ensures_namedImage.of_ok e

section
variable {P : TileImage → Prop} (sprite : ∀ window pixels, P (.sprite window (s.image pixels)))
include sprite

/-- A part of a short form has the property of sprites over sheets, or is refused. -/
lemma ensures_framePart {spec part} : Ensures (Refusal allowed) P (s.framePart spec part) := by
  have shown {name} (window : Window) : Ensures (Refusal allowed) P
      (do return .sprite window (← s.referredImage name)) := by
    apply (ensures_referredImage.mono fun _ => Missing.refusal).bind
    rintro _ ⟨pixels, rfl⟩
    exact sprite window pixels
  rw [framePart]
  split
  · split
    · exact shown _
    · exact ⟨nofun, nofun⟩
  · exact shown _

variable (layer : ∀ {below above}, P below → P above →
  Ensures allowed P (TileImage.layer? below above))
include layer

/-- One more part of a short form, over those before it, keeps the property, or is refused. -/
lemma ensures_addPart {spec part} {below : Option TileImage} (hb : ∀ t ∈ below, P t) :
    Ensures (Refusal allowed) (fun found => ∀ t ∈ found, P t) (s.addPart spec below part) := by
  refine (ensures_framePart sprite).bind fun above ha => ?_
  cases below with
  | none => exact forall_mem_some ha
  | some below =>
    have layered := layer (hb below rfl) ha
    dsimp only
    cases e : TileImage.layer? below above with
    | ok image =>
      rw [e] at layered
      exact forall_mem_some layered
    | error cause =>
      rw [e] at layered
      refine ⟨nofun, fun _ _ same => ?_⟩
      cases same
      exact layered

/-- The short form of a frame describes layers of sprites. -/
lemma ensures_frameSpec {spec} : Ensures (Refusal allowed) P (s.frameSpec spec) := by
  have start : ∀ t ∈ (none : Option TileImage), P t := nofun
  rw [frameSpec]
  refine (Ensures.foldlM (fun _ _ => ensures_addPart sprite layer) _ start).bind fun found hf => ?_
  cases found with
  | none => exact ⟨nofun, nofun⟩
  | some image => exact hf image rfl

/-- A property of sprites over sheets is inherited if the checked constructors keep it. -/
lemma inherited
    (switch : ∀ {cs default}, (∀ c ∈ cs, P c.image) → P default →
      Ensures allowed P (TileImage.switchOr? cs default))
    (animation : ∀ {fs}, fs ≠ [] → (∀ f ∈ fs, 1 ≤ f.duration ∧ P f.image) →
      Ensures allowed P (TileImage.animation? fs)) : Inherited s.resolver allowed P where
  sprite := by
    intro window image given
    obtain ⟨pixels, rfl⟩ := exists_of_gives given
    exact sprite window pixels
  frameSpec e := (ensures_frameSpec sprite layer).of_ok e
  layer := layer
  switch := switch
  animation := animation

end

/-- Sheets raise no composition errors. -/
lemma not_raises_compose {tag cause} : ¬s.resolver.Raises (.compose tag cause) := by
  have images {x : Except LoadError TileImage}
      (h : Ensures Missing (fun image => ∃ pixels, image = s.image pixels) x) :
      x ≠ .error (.compose tag cause) := by
    intro e
    rcases h.of_error e with missing | ⟨name, missing⟩
    · exact nomatch missing
    · exact nomatch missing
  rintro (e | ⟨name, e⟩ | ⟨spec, e⟩)
  · exact images ensures_defaultImage e
  · exact images ensures_namedImage e
  · have layers {below above} :
        Ensures (fun _ => True) (fun _ => True) (TileImage.layer? below above) :=
      .intro (fun _ _ => trivial) fun _ _ => trivial
    have refused : Ensures (Refusal fun _ => True) (fun _ => True) (s.frameSpec spec) :=
      ensures_frameSpec (fun _ _ => trivial) fun _ _ => layers
    exact (refused.of_error e).1 tag cause rfl

end Cityscape.Sheets
