import Cityscape.Markup.Resolver

/-!
# Sheets

Named sheets of pixels, all with cells of one width. A frame in short form names a sheet and the
place of a cell on it, `sheet@x,y`; several of them, joined by `+`, are laid one over another. A
missing name stands for the default sheet, and a missing offset for the first cell.
-/

namespace Cityscape

open Image Markup

/-- Sheets by name. -/
structure Sheets where
  /-- The sheets, the last one added first. -/
  named : List (String × Raster)
  /-- The name of the default sheet. -/
  default : Option String
  /-- The sheet for unknown names, and for a missing default. -/
  fallback : Option Raster
  /-- The width of a cell on the sheets, in pixels. -/
  basis : Nat
  /-- The width of a cell when it is drawn, if it is another one. -/
  target : Option Nat

namespace Sheets

/-- No sheets yet. -/
def ofBasis (basis : Nat) : Sheets := ⟨[], none, none, basis, none⟩

/-- The sheets with one more, which takes the place of one of the same name. -/
def add (s : Sheets) (name : String) (pixels : Raster) : Sheets :=
  { s with named := (name, pixels) :: s.named }

/-- The sheets with one more, which is the default. -/
def addDefault (s : Sheets) (name : String) (pixels : Raster) : Sheets :=
  { s.add name pixels with default := some name }

/-- A sheet as a tile image, drawn in the width of a cell that is asked for. -/
def image (s : Sheets) (pixels : Raster) : TileImage :=
  match s.target with
  | some target =>
    if target = s.basis then .source pixels s.basis else .scaled pixels s.basis target
  | none => .source pixels s.basis

/-- The image of a name. -/
def namedImage (s : Sheets) (name : String) : Except LoadError TileImage :=
  match ((s.named.find? (·.1 == name)).map (·.2)).or s.fallback with
  | some pixels => .ok (s.image pixels)
  | none => .error (.imageNotFound name)

/-- The image of the default sheet, or of the fallback where there is none. -/
def defaultImage (s : Sheets) : Except LoadError TileImage :=
  match s.default, s.fallback with
  | some name, _ => s.namedImage name
  | none, some pixels => .ok (s.image pixels)
  | none, none => .error .noDefaultImage

/-- The image of a name, or of the default sheet if the name is empty. -/
def referredImage (s : Sheets) (name : List Char) : Except LoadError TileImage :=
  if name.isEmpty then s.defaultImage else s.namedImage (String.ofList name)

/-- The sprite that one part of a short form describes. -/
def framePart (s : Sheets) (spec : String) (part : List Char) : Except LoadError TileImage :=
  match Text.cutFirst '@' part with
  | (name, some coords) =>
    match Text.pair? Bounds.int32 coords with
    | some (x, y) => do return .sprite ⟨x, y, 0, 0⟩ (← s.referredImage (Text.trimChars name))
    | none => .error (.invalidFrameSpec spec (.badOffset (String.ofList coords)))
  | (name, none) => do return .sprite .plain (← s.referredImage (Text.trimChars name))

/-- The image with another part laid over it, if there is one already. -/
def addPart (s : Sheets) (spec : String) (below : Option TileImage) (part : List Char) :
    Except LoadError (Option TileImage) := do
  let above ← s.framePart spec part
  match below with
  | none => return some above
  | some below =>
    match TileImage.layer? below above with
    | .ok image => return some image
    | .error cause => throw (.invalidFrameSpec spec (.layers cause))

/-- The image that the short form of a frame describes: its parts that are not blank, layered. -/
def frameSpec (s : Sheets) (spec : String) : Except LoadError TileImage := do
  let parts := (Text.fields '+' spec.toList).filter fun part => !part.all Text.isBlank
  match ← parts.foldlM (s.addPart spec) none with
  | some image => return image
  | none => throw (.invalidFrameSpec spec .noParts)

/-- The meaning of references to the sheets. -/
def resolver (s : Sheets) : Resolver := ⟨s.defaultImage, s.namedImage, s.frameSpec⟩

end Sheets

end Cityscape
