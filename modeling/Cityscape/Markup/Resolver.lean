import Cityscape.Markup.LoadError

/-!
# Resolvers

What a reader needs to know of the sheets a document refers to.
-/

namespace Cityscape.Markup

/-- The meaning of references to images. -/
structure Resolver where
  /-- The image of a reference without a name. -/
  default : Except LoadError TileImage
  /-- The image of a name. -/
  named : String → Except LoadError TileImage
  /-- The image that the short form of a frame describes. -/
  frameSpec : String → Except LoadError TileImage

/-- A resolver that knows some images by name, of which the first is the default, and for which the
short form of a frame is a name. -/
def Resolver.ofTable (table : List (String × TileImage)) : Resolver :=
  let find (name : String) : Except LoadError TileImage :=
    match table.find? (·.1 == name) with
    | some (_, image) => .ok image
    | none => .error (.imageNotFound name)
  { default := find ((table.head?.map (·.1)).getD "")
    named := find
    frameSpec := find }

end Cityscape.Markup
