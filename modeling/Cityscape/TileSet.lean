import Cityscape.TileImage.Basic

/-!
# Tile sets

Named tile images, kept in the order of their names.
-/

namespace Cityscape

/-- Tile images by name, in ascending order of the names. -/
structure TileSet where
  entries : List (String × TileImage)

namespace TileSet

/-- The set without tiles. -/
def empty : TileSet := ⟨[]⟩

/-- The entries with one more, which takes the place of an entry of the same name. -/
def insertEntry (name : String) (image : TileImage) :
    List (String × TileImage) → List (String × TileImage)
  | [] => [(name, image)]
  | (other, found) :: rest =>
    if name < other then (name, image) :: (other, found) :: rest
    else if name = other then (name, image) :: rest
    else (other, found) :: insertEntry name image rest

/-- The set with a tile of this name. -/
def insert (set : TileSet) (name : String) (image : TileImage) : TileSet :=
  ⟨insertEntry name image set.entries⟩

/-- The tile of a name. -/
def get? (set : TileSet) (name : String) : Option TileImage :=
  (set.entries.find? (·.1 == name)).map (·.2)

/-- The number of tiles. -/
def size (set : TileSet) : Nat := set.entries.length

/-- A lookup behind an insertion finds the new image under its own name, and under any other name
what stood there before. -/
theorem find?_insertEntry (name other : String) (image : TileImage)
    (entries : List (String × TileImage)) :
    (insertEntry name image entries).find? (·.1 == other) =
      if name = other then some (name, image) else entries.find? (·.1 == other) := by
  induction entries with
  | nil => by_cases e : name = other <;> simp [insertEntry, e]
  | cons entry rest ih =>
    obtain ⟨key, found⟩ := entry
    unfold insertEntry
    split
    · by_cases e : name = other <;> simp [e]
    · split
      · rename_i same
        subst same
        by_cases e : name = other <;> simp [e]
      · rename_i differ
        by_cases e : name = other
        · subst e
          have : key ≠ name := fun h => differ h.symm
          simp [ih, this]
        · by_cases k : key = other <;> simp [ih, e, k]

/-- A tile that is put into a set is found there, and every other one as before. -/
theorem get?_insert (set : TileSet) (name other : String) (image : TileImage) :
    (set.insert name image).get? other = if name = other then some image else set.get? other := by
  simp only [get?, insert, find?_insertEntry]
  split <;> rfl

end TileSet

end Cityscape
