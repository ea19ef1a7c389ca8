/-!
# Tiles

A cell of the city stores a tile: a tile code in the low ten bits and status flags above them.
Codes of one class lie in consecutive bands. The flags never influence the class, whether
vehicles can travel over the tile, or the size of the structure the tile is the centre of.
-/

namespace Cityscape

/-- What a cell of the grid stores: a code and status flags. -/
abbrev Tile := UInt16

/-- The broad classes that image conditions and routing tell apart. -/
inductive TileClass where
  | dirt | water | trees | rubble | flood | radioactive | fire | road | power | rail
  | residential | commercial | industrial | special
deriving Repr, DecidableEq

namespace TileClass

/-- Every class, in the order of its first code. -/
def all : List TileClass :=
  [dirt, water, trees, rubble, flood, radioactive, fire, road, power, rail,
   residential, commercial, industrial, special]

/-- The word for a class in conditions. -/
def name : TileClass → String
  | dirt => "dirt"
  | water => "water"
  | trees => "trees"
  | rubble => "rubble"
  | flood => "flood"
  | radioactive => "radioactive"
  | fire => "fire"
  | road => "road"
  | power => "power"
  | rail => "rail"
  | residential => "residential"
  | commercial => "commercial"
  | industrial => "industrial"
  | special => "special"

/-- The class a word names. -/
def ofName? (word : String) : Option TileClass := all.find? (·.name == word)

/-- Bands of codes, each given by its last code. Rails that cross a power line sit at the end of
the power codes, and the codes between two bands belong to special structures. -/
def bands : List (Nat × TileClass) :=
  [(1, dirt), (20, water), (43, trees), (47, rubble), (51, flood), (55, radioactive), (63, fire),
   (206, road), (207, special), (220, power), (222, rail), (223, special), (238, rail),
   (239, special), (422, residential), (611, commercial), (692, industrial)]

/-- The class of a code: that of the first band that reaches it. -/
def ofCode (code : Nat) : TileClass :=
  match bands.find? (code ≤ ·.1) with
  | some (_, c) => c
  | none => special

end TileClass

namespace Tile

/-- Bare ground. -/
def dirt : Tile := 0

/-- A road along a row. -/
def road : Tile := 66

/-- A road along a column. -/
def roadColumn : Tile := 67

/-- A crossing of two roads. -/
def intersection : Tile := 76

/-- A rail along a row. -/
def rail : Tile := 226

/-- The centre of an empty residential zone. -/
def house : Tile := 244

/-- The centre of an empty commercial zone. -/
def shop : Tile := 427

/-- The centre of an empty industrial zone. -/
def factory : Tile := 616

/-- The centre of a seaport. -/
def seaport : Tile := 698

/-- The centre of an airport. -/
def airport : Tile := 716

/-- The centre of a coal power plant. -/
def powerPlant : Tile := 750

/-- The centre of a stadium. -/
def stadium : Tile := 784

/-- The centre of a stadium during a game. -/
def fullStadium : Tile := 800

/-- The centre of a nuclear power plant. -/
def nuclearPlant : Tile := 816

/-- The tile without its status flags. -/
def code (t : Tile) : Tile := t &&& 0x3ff

/-- The class of a stored tile. -/
def classOf (t : Tile) : TileClass := TileClass.ofCode t.code.toNat

/-- Whether vehicles can travel over the tile: roads and rails, with their bridges and crossings. -/
def isRoutable (t : Tile) : Bool := t.classOf == .road || t.classOf == .rail

/-- The centre tiles of the structures that are four cells wide. -/
def wideCentres : List Tile :=
  [airport, seaport, powerPlant, stadium, fullStadium, nuclearPlant]

/-- The side, in cells, of the structure whose centre is this tile. -/
def structureSide (t : Tile) : Nat := if wideCentres.contains t.code then 4 else 3

/-- The class of a tile depends on its code only. -/
theorem classOf_eq_of_code_eq {s t : Tile} (h : s.code = t.code) : s.classOf = t.classOf := by
  simp only [classOf, h]

/-- Whether vehicles can travel over a tile depends on its code only. -/
theorem isRoutable_eq_of_code_eq {s t : Tile} (h : s.code = t.code) :
    s.isRoutable = t.isRoutable := by
  simp only [isRoutable, classOf_eq_of_code_eq h]

/-- The side of a structure depends on the code of its centre tile only. -/
theorem structureSide_eq_of_code_eq {s t : Tile} (h : s.code = t.code) :
    s.structureSide = t.structureSide := by
  simp only [structureSide, h]

end Tile

end Cityscape
