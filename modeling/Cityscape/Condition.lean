import Cityscape.Cell
import Cityscape.Tile
import Cityscape.Text.Integer

/-!
# Conditions

What selects one variant of a tile image over another: the tiles around the cell that is drawn,
and the animation clock. `conj` and `negate` simplify what is trivially true or false, and mean
conjunction and negation.
-/

namespace Cityscape

/-- What a tile image is drawn against. -/
structure DrawContext where
  /-- The clock, in ticks. -/
  time : Nat
  /-- The tile on each cell of the city, `none` off the grid. -/
  city : Cell → Option Tile
  /-- The cell that is drawn. -/
  location : Cell

/-- Which cell a condition looks at, seen from the cell that is drawn. -/
inductive Side where
  | here | west | east | north | south
deriving Repr, DecidableEq

namespace Side

/-- Every side, in the order in which conditions are written. -/
def all : List Side := [here, west, east, north, south]

/-- The name of the attribute that carries a condition on this side. -/
def attributeName : Side → String
  | here => "tile"
  | west => "tile-west"
  | east => "tile-east"
  | north => "tile-north"
  | south => "tile-south"

/-- The cell on this side of another. -/
def of (side : Side) (c : Cell) : Cell :=
  match side with
  | here => c.offset 0 0
  | west => c.offset (-1) 0
  | east => c.offset 1 0
  | north => c.offset 0 (-1)
  | south => c.offset 0 1

end Side

/-- What a condition expects of a tile: a class, or one code. Status flags never matter. -/
inductive TileSpec where
  | ofClass (tileClass : TileClass)
  | ofCode (code : Tile)
deriving Repr, DecidableEq

namespace TileSpec

/-- Whether a stored tile is as expected. -/
def admits : TileSpec → Tile → Bool
  | ofClass tileClass, t => t.classOf == tileClass
  | ofCode code, t => t.code == code

/-- The specification that a text names: a code in decimal, or the word for a class. The error
gives the text without its outer blanks. -/
def read (s : String) : Except String TileSpec :=
  let cs := Text.trimChars s.toList
  match Text.integer? Bounds.uint16 cs with
  | some code => .ok (.ofCode (UInt16.ofNat code.toNat))
  | none =>
    match TileClass.ofName? (String.ofList cs) with
    | some tileClass => .ok (.ofClass tileClass)
    | none => .error (String.ofList cs)

/-- The complaint about a text that names no specification. -/
def complaint (word : String) : String := s!"unknown tile class '{word}'"

/-- The text of a specification. -/
def render : TileSpec → String
  | ofClass tileClass => tileClass.name
  | ofCode code => toString code.toNat

end TileSpec

/-- A predicate over draw contexts. -/
inductive Condition where
  | always
  | never
  /-- The tile on a side is as expected. -/
  | tile (side : Side) (spec : TileSpec)
  /-- The clock modulo `period` is at least `start` and below `stop`. -/
  | frame (period start stop : Nat)
  | and (a b : Condition)
  | not (a : Condition)
deriving Repr, DecidableEq

namespace Condition

/-- The conjunction, without operands that are trivially true or false. -/
def conj : Condition → Condition → Condition
  | always, b => b
  | a, always => a
  | never, _ => never
  | _, never => never
  | a, b => and a b

/-- The negation, without a double one. -/
def negate : Condition → Condition
  | always => never
  | never => always
  | not a => a
  | a => not a

/-- Whether a condition is the trivially true one. -/
def isAlways (c : Condition) : Bool := c == always

/-- Whether the outcome can change with the clock. -/
def dependsOnTime : Condition → Bool
  | frame .. => true
  | and a b => a.dependsOnTime || b.dependsOnTime
  | not a => a.dependsOnTime
  | always | never | tile .. => false

/-- Whether a condition holds in a context. A frame without a period counts one tick. -/
def holds (dc : DrawContext) : Condition → Bool
  | always => true
  | never => false
  | tile side spec =>
    match dc.city (side.of dc.location) with
    | some t => spec.admits t
    | none => false
  | frame period start stop =>
    let t := dc.time % max period 1
    decide (start ≤ t) && decide (t < stop)
  | and a b => a.holds dc && b.holds dc
  | not a => !a.holds dc

/-- The text of a condition. -/
def render : Condition → String
  | always => "always"
  | never => "never"
  | tile side spec => side.attributeName ++ "=" ++ spec.render
  | frame period start stop => s!"frame {start}..{stop}/{period}"
  | and a b => "(and " ++ a.render ++ " " ++ b.render ++ ")"
  | not a => "(not " ++ a.render ++ ")"

/-- A conjunction holds where both of its parts hold. -/
@[simp] theorem holds_conj (dc : DrawContext) (a b : Condition) :
    (conj a b).holds dc = (a.holds dc && b.holds dc) := by
  cases a <;> cases b <;> simp [conj, holds]

/-- A negation holds where what it negates does not. -/
@[simp] theorem holds_negate (dc : DrawContext) (a : Condition) :
    (negate a).holds dc = !a.holds dc := by
  cases a <;> simp [negate, holds]

end Condition

end Cityscape
