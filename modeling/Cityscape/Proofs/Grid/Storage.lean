import Cityscape.Proofs.Grid

/-!
# The storage of a grid

`Storage` is a grid as it lies in memory: two arrays of whatever length, and positions that are
computed with machine integers. Coordinates are cast to lengths and positions, products and sums of
positions have to fit, and nothing is read or written beyond the end of an array; where this fails,
the result is `none`.

The grids that can be made from bare ground by any `Change`s are stored without failing
(`changed?_stored`). What is found in the storage is what the grid says (`Storage.Reads`), so its cells
and its positions belong together: the main statement is `positions_and_cells`.
-/

namespace Cityscape

open Bounds (int32 uint32 uint64)

/-- What can be done to a grid. -/
inductive Change where
  | setTile (c : Cell) (t : Tile)
  | addTraffic (c : Cell) (delta : Int)
  | decay (amount : Nat)
deriving DecidableEq

/-- The cell that a change is made at, if it is made at one cell only. -/
def Change.cell? : Change → Option Cell
  | setTile c _ => some c
  | addTraffic c _ => some c
  | decay _ => none

/-- The grid after a change. -/
def Grid.change (g : Grid) : Change → Grid
  | .setTile c t => g.setTile c t
  | .addTraffic c delta => g.addTraffic c delta
  | .decay amount => g.decay amount

/-- The sides of a grid, with its tiles and densities in arrays of which the length is not known. -/
structure Storage where
  width : Nat
  height : Nat
  tiles : Array Tile
  traffic : Array Nat
deriving DecidableEq

namespace Storage

/-- Bare ground without traffic. -/
def empty? (width height : Nat) : Option Storage := do
  let cells ← uint64.fitNat? (width * height)
  return ⟨width, height, .replicate cells Tile.dirt, .replicate cells 0⟩

/-- The test for cells off the grid. A cast makes negative coordinates large, so they are told
first. -/
def Off (s : Storage) (c : Cell) : Prop :=
  c.x.toInt < 0 ∨ c.y.toInt < 0 ∨ (s.width : Int) ≤ uint32.wrap c.x.toInt ∨
    (s.height : Int) ≤ uint32.wrap c.y.toInt

instance (s : Storage) (c : Cell) : Decidable (s.Off c) :=
  inferInstanceAs (Decidable (_ ∨ _ ∨ _ ∨ _))

/-- The start of a cell's row, and from there the place in the row. -/
def offset? (s : Storage) (c : Cell) : Option Nat := do
  let row ← uint64.fit? (uint64.wrap c.y.toInt * s.width)
  let place ← uint64.fit? (row + uint64.wrap c.x.toInt)
  return place.toNat

/-- The position of a cell, if it lies on the grid. -/
def position? (s : Storage) (c : Cell) : Option (Option Nat) :=
  if s.Off c then some none else (s.offset? c).map some

/-- The cell at a position, which is divided into rows. -/
def location? (s : Storage) (i : Nat) : Option Cell :=
  if s.width = 0 then none
  else some ⟨Int32.ofNat (i % s.width), Int32.ofNat (i / s.width)⟩

/-- The number of positions. -/
def cellCount (s : Storage) : Nat := s.tiles.size

/-- What an array has for a cell, if it lies on the grid. -/
def content? {α : Type} (s : Storage) (contents : Array α) (c : Cell) : Option (Option α) := do
  match ← s.position? c with
  | none => return none
  | some i => return some (← contents[i]?)

/-- The tile of a cell, if it lies on the grid. -/
def tile? (s : Storage) (c : Cell) : Option (Option Tile) := s.content? s.tiles c

/-- The traffic density of a cell, if it lies on the grid. -/
def density? (s : Storage) (c : Cell) : Option (Option Nat) := s.content? s.traffic c

/-- The storage with another tile on a cell, and whether the cell lies on the grid. -/
def setTile? (s : Storage) (c : Cell) (t : Tile) : Option (Storage × Bool) := do
  match ← s.position? c with
  | none => return (s, false)
  | some i =>
    if inside : i < s.tiles.size then return ({ s with tiles := s.tiles.set i t }, true) else none

/-- The storage with more traffic on a cell, and the density there if the cell lies on the grid. -/
def addTraffic? (s : Storage) (c : Cell) (delta : Int) : Option (Storage × Option Nat) := do
  match ← s.position? c with
  | none => return (s, none)
  | some i =>
    if inside : i < s.traffic.size then
      let density := (Grid.densities.clamp (int32.clamp (s.traffic[i] + delta))).toNat
      return ({ s with traffic := s.traffic.set i density }, some density)
    else none

/-- The storage with all densities lowered, down to zero at least. -/
def decay (s : Storage) (amount : Nat) : Storage :=
  { s with traffic := s.traffic.map (· - amount) }

/-- The storage after a change. -/
def change? (s : Storage) : Change → Option Storage
  | .setTile c t => (s.setTile? c t).map (·.1)
  | .addTraffic c delta => (s.addTraffic? c delta).map (·.1)
  | .decay amount => some (s.decay amount)

/-- Bare ground after some changes. -/
def changed? (width height : Nat) (changes : List Change) : Option Storage := do
  changes.foldlM change? (← empty? width height)

/-- What is found in the storage is what the grid says. -/
structure Reads (s : Storage) (g : Grid) : Prop where
  cellCount : s.cellCount = g.cellCount
  location (i : Nat) : s.location? i = g.location? i
  position (c : Cell) : s.position? c = some ((g.index? c).map Fin.val)
  tile (c : Cell) : s.tile? c = some (g.tile? c)
  density (c : Cell) : s.density? c = some (g.density? c)

end Storage

namespace Grid

variable {g : Grid} {c : Cell}

/-- Bare ground after some changes. -/
def changed (width height : Nat) (changes : List Change) : Grid :=
  changes.foldl change (empty width height)

/-- The storage of a grid. -/
def stored (g : Grid) : Storage := ⟨g.width, g.height, g.tiles.toArray, g.traffic.toArray⟩

/-- Columns and rows of the grid can be coordinates. -/
structure Addressable (g : Grid) : Prop where
  width : g.width ≤ 2 ^ 31
  height : g.height ≤ 2 ^ 31

/-- A coordinate that is not negative is kept by the casts. -/
lemma wrap_coordinate {v : Int32} (nonneg : 0 ≤ v.toInt) :
    uint32.wrap v.toInt = v.toInt ∧ uint64.wrap v.toInt = v.toInt := by
  have below : v.toInt < 2147483648 := v.toInt_lt
  constructor
  · exact Bounds.wrap_of_holds ⟨nonneg, by simp only [uint32]; omega⟩
  · exact Bounds.wrap_of_holds ⟨nonneg, by simp only [uint64]; omega⟩

/-- The test for cells off the grid is right, although it casts the coordinates. -/
lemma off_stored (g : Grid) (c : Cell) : g.stored.Off c ↔ ¬g.Contains c := by
  rw [Storage.Off, Contains]
  by_cases x : 0 ≤ c.x.toInt
  · by_cases y : 0 ≤ c.y.toInt
    · rw [(wrap_coordinate x).1, (wrap_coordinate y).1]
      simp only [stored]
      omega
    · exact ⟨fun _ inside => y inside.2.1, fun _ => .inr (.inl (Int.not_le.1 y))⟩
  · exact ⟨fun _ inside => x inside.1, fun _ => .inl (Int.not_le.1 x)⟩

/-- A density with more load on it is clamped twice: the sum, and what is stored of it. -/
lemma loaded_eq (density : Nat) (delta : Int) :
    loaded density delta = (densities.clamp (int32.clamp (density + delta))).toNat := by
  obtain ⟨sum, saturated⟩ := loaded_eq_clamp density delta
  rw [saturated, ← sum, Int.toNat_natCast]

/-- A change keeps the sides of the grid. -/
lemma SameSides.change (g : Grid) (op : Change) : SameSides g (g.change op) := by
  cases op with
  | setTile c t => exact .setTile g c t
  | addTraffic c delta => exact .addTraffic g c delta
  | decay amount => exact ⟨rfl, rfl⟩

namespace Addressable

/-- Bare ground with at most as many columns and rows as there are coordinates is addressable. -/
lemma empty {width height : Nat} (columns : width ≤ 2 ^ 31) (rows : height ≤ 2 ^ 31) :
    (Grid.empty width height).Addressable := ⟨columns, rows⟩

/-- Whether a grid is addressable depends on its sides only. -/
lemma of_sameSides {h : Grid} (a : g.Addressable) (same : SameSides g h) : h.Addressable :=
  ⟨same.width ▸ a.width, same.height ▸ a.height⟩

/-- Positions up to the number of cells do not overflow. -/
lemma fits (a : g.Addressable) {n : Nat} (le : n ≤ g.cellCount) : uint64.Holds n := by
  have cells : g.cellCount ≤ 2 ^ 62 := by
    calc g.width * g.height ≤ 2 ^ 31 * 2 ^ 31 := Nat.mul_le_mul a.width a.height
      _ = 2 ^ 62 := by decide
  simp only [uint64, Bounds.Holds]
  omega

/-- Neither the start of a cell's row nor the place in the row lies beyond the last cell. -/
lemma offset?_stored (a : g.Addressable) (inside : g.Contains c) :
    g.stored.offset? c = some (g.offsetOf c) := by
  obtain ⟨x, y, -, -⟩ := id inside
  have last : g.offsetOf c ≤ g.cellCount := Nat.le_of_lt (offsetOf_lt inside)
  have row : c.y.toInt * g.width = (c.y.toInt.toNat * g.width : Nat) := by
    rw [Int.natCast_mul, Int.toNat_of_nonneg y]
  have place : c.y.toInt * g.width + c.x.toInt = (g.offsetOf c : Nat) := by
    rw [offsetOf, Int.natCast_add, ← row, Int.toNat_of_nonneg x]
  have first : uint64.fit? (c.y.toInt * g.stored.width) = some (c.y.toInt * g.stored.width) :=
    Bounds.fit?_of_holds (row ▸ a.fits (Nat.le_trans (Nat.le_add_right _ _) last))
  have second : uint64.fit? (c.y.toInt * g.stored.width + c.x.toInt) = some (g.offsetOf c : Int) :=
    Bounds.fit?_eq_some_iff.2 ⟨place ▸ a.fits last, place.symm⟩
  rw [Storage.offset?, (wrap_coordinate x).2, (wrap_coordinate y).2]
  simp only [first, second, Option.bind_eq_bind, Option.bind_some, Int.toNat_natCast,
    Option.pure_def]

/-- The position of a cell in the storage is its index on the grid. -/
lemma position?_stored (a : g.Addressable) (c : Cell) :
    g.stored.position? c = some ((g.index? c).map Fin.val) := by
  by_cases inside : g.Contains c
  · rw [Storage.position?, if_neg fun off => (off_stored g c).1 off inside, a.offset?_stored inside,
      index?_of_contains inside, Option.map_some, Option.map_some]
  · rw [Storage.position?, if_pos ((off_stored g c).2 inside), index?_eq_none_iff.2 inside,
      Option.map_none]

/-- What is stored for a cell is what the grid has at its index. -/
lemma content?_stored (a : g.Addressable) {α : Type} (contents : Vector α g.cellCount) (c : Cell) :
    g.stored.content? contents.toArray c = some ((g.index? c).map contents.get) := by
  rw [Storage.content?, a.position?_stored]
  cases g.index? c with
  | none => rfl
  | some i => simp [Vector.get]

/-- Setting a tile in the storage sets it on the grid, and tells whether the cell is there. -/
lemma setTile?_stored (a : g.Addressable) (c : Cell) (t : Tile) :
    g.stored.setTile? c t = some ((g.setTile c t).stored, decide (g.Contains c)) := by
  rw [Storage.setTile?, a.position?_stored, setTile]
  cases place : g.index? c with
  | none => simp [index?_eq_none_iff.1 place]
  | some i => simp [(index?_eq_some_iff.1 place).1, stored]

/-- Adding traffic in the storage adds it on the grid, and gives the density afterwards. -/
lemma addTraffic?_stored (a : g.Addressable) (c : Cell) (delta : Int) :
    g.stored.addTraffic? c delta =
      some ((g.addTraffic c delta).stored, (g.addTraffic c delta).density? c) := by
  rw [Storage.addTraffic?, a.position?_stored, density?_addTraffic, if_pos rfl, addTraffic, density?]
  cases place : g.index? c with
  | none => simp
  | some i => simp [stored, ← loaded_eq]

/-- A change of the storage does not fail, and it is the same change of the grid. -/
lemma change?_stored (a : g.Addressable) (op : Change) :
    g.stored.change? op = some (g.change op).stored := by
  cases op with
  | setTile c t => rw [Storage.change?, a.setTile?_stored, Option.map_some, change]
  | addTraffic c delta => rw [Storage.change?, a.addTraffic?_stored, Option.map_some, change]
  | decay amount => simp [Storage.change?, change, Storage.decay, stored, Grid.decay]

/-- An addressable grid stays so through a change. -/
lemma change (a : g.Addressable) (op : Change) : (g.change op).Addressable :=
  a.of_sameSides (.change g op)

/-- Changes to the storage of an addressable grid are the changes to the grid, stored. -/
lemma foldlM_stored (a : g.Addressable) (changes : List Change) :
    changes.foldlM Storage.change? g.stored = some (changes.foldl Grid.change g).stored := by
  induction changes generalizing g with
  | nil => rfl
  | cons op changes ih =>
    rw [List.foldlM_cons, a.change?_stored, List.foldl_cons]
    exact ih (a.change op)

/-- Bare ground after some changes is stored as the grid after these changes. -/
lemma changed?_stored {width height : Nat} (a : (Grid.empty width height).Addressable)
    (changes : List Change) :
    Storage.changed? width height changes = some (changed width height changes).stored := by
  have made : Storage.empty? width height = some (Grid.empty width height).stored := by
    have fits : uint64.fitNat? (width * height) = some (width * height) :=
      Bounds.fitNat?_of_holds (a.fits (Nat.le_refl _))
    simp [Storage.empty?, fits, stored, Grid.empty]
  rw [Storage.changed?, made]
  exact a.foldlM_stored changes

/-- The storage of an addressable grid reads as the grid. -/
lemma reads_stored (a : g.Addressable) : g.stored.Reads g where
  cellCount := g.tiles.size_toArray
  location _ := rfl
  position := a.position?_stored
  tile := a.content?_stored g.tiles
  density := a.content?_stored g.traffic

end Addressable

/-- A change at one cell leaves the other cells alone. -/
lemma change_elsewhere {op : Change} {d : Cell} (at' : op.cell? = some c) (elsewhere : d ≠ c) :
    (g.change op).tile? d = g.tile? d ∧ (g.change op).density? d = g.density? d := by
  cases op with
  | setTile e t =>
    obtain rfl := Option.some.inj at'
    exact ⟨tile?_setTile.trans (if_neg fun here => elsewhere here.2), density?_setTile⟩
  | addTraffic e delta =>
    obtain rfl := Option.some.inj at'
    exact ⟨tile?_addTraffic, density?_addTraffic.trans (if_neg elsewhere)⟩
  | decay amount => cases at'

/-- The cells with an index are those on the grid. -/
lemma index?_isSome_iff : (g.index? c).isSome ↔ g.Contains c := by
  rw [← Option.ne_none_iff_isSome, ne_eq, index?_eq_none_iff, not_not]

/-- A grid with a position has columns. -/
lemma location?_of_lt (i : Fin g.cellCount) : g.location? i = some (g.cellAt i) :=
  if_neg (Nat.pos_iff_ne_zero.1 (Nat.pos_of_mul_pos_right (Nat.zero_lt_of_lt i.isLt)))

end Grid

namespace Storage.Reads

open Grid

variable {s : Storage} {g : Grid}

/-- Every cell is looked for without failing. It is found if it lies on the grid, at a position that it
can be made from again. -/
lemma position?_eq (r : s.Reads g) (c : Cell) :
    ∃ found, s.position? c = some found ∧ (found.isSome ↔ g.Contains c) ∧
      ∀ i, found = some i → i < s.cellCount ∧ s.location? i = some c := by
  refine ⟨_, r.position c, ?_, ?_⟩
  · rw [Option.isSome_map, index?_isSome_iff]
  · rintro _ found
    obtain ⟨i, place, rfl⟩ := Option.map_eq_some_iff.1 found
    refine ⟨Nat.lt_of_lt_of_eq i.isLt r.cellCount.symm, ?_⟩
    rw [r.location, location?_of_lt, cellAt_of_index? place]

/-- Every position has a cell, which is found there. -/
lemma location?_eq (r : s.Reads g) (a : g.Addressable) {i : Nat} (below : i < s.cellCount) :
    ∃ c, s.location? i = some c ∧ s.position? c = some (some i) := by
  have place := index?_cellAt_of_sides a.width a.height ⟨i, r.cellCount ▸ below⟩
  refine ⟨g.cellAt i, ?_, ?_⟩
  · rw [r.location]
    exact location?_of_lt ⟨i, r.cellCount ▸ below⟩
  · rw [r.position, place, Option.map_some]

end Storage.Reads

namespace Storage

open Grid

/-- Through any changes a grid keeps the sides that it was made with. -/
lemma sides_changed (width height : Nat) (changes : List Change) :
    SameSides (Grid.empty width height) (Grid.changed width height changes) :=
  List.foldlRecOn changes _ (.refl _) fun g same op _ => same.trans (.change g op)

/-- Bare ground with sides that can be coordinates takes all changes without failing, and the storage
then reads as the grid. It has a tile and a density for each of its cells; a cell has a position if its
coordinates lie within the sides; cells and positions are each made from the other; and a change at
one cell is not seen at any other. -/
theorem positions_and_cells {width height : Nat} (columns : width ≤ 2 ^ 31) (rows : height ≤ 2 ^ 31)
    (changes : List Change) :
    ∃ s, changed? width height changes = some s ∧ s.Reads (Grid.changed width height changes) ∧
      s.tiles.size = width * height ∧ s.traffic.size = width * height ∧
      (∀ c, ∃ found, s.position? c = some found ∧
        (found.isSome ↔ (0 ≤ c.x.toInt ∧ c.x.toInt < width) ∧ 0 ≤ c.y.toInt ∧ c.y.toInt < height) ∧
        ∀ i, found = some i → i < s.cellCount ∧ s.location? i = some c) ∧
      (∀ i < s.cellCount, ∃ c, s.location? i = some c ∧ s.position? c = some (some i)) ∧
      ∀ op c, op.cell? = some c → ∃ s', s.change? op = some s' ∧
        ∀ d ≠ c, s'.tile? d = s.tile? d ∧ s'.density? d = s.density? d := by
  have bare := Addressable.empty columns rows
  have same := sides_changed width height changes
  have a := bare.of_sameSides same
  have r := a.reads_stored
  have size : (Grid.changed width height changes).cellCount = width * height := by
    rw [Grid.cellCount, same.width, same.height]
    rfl
  refine ⟨_, bare.changed?_stored changes, r, ?_, ?_, fun c => ?_, fun i => r.location?_eq a,
    fun op c at' => ⟨_, a.change?_stored op, fun d elsewhere => ?_⟩⟩
  · exact (Vector.size_toArray _).trans size
  · exact (Vector.size_toArray _).trans size
  · obtain ⟨found, place, inside, back⟩ := r.position?_eq c
    refine ⟨found, place, inside.trans ?_, back⟩
    rw [same.contains_iff, Grid.Contains]
    simp only [Grid.empty]
    omega
  · have r' := (a.change op).reads_stored
    obtain ⟨tile, density⟩ := change_elsewhere at' elsewhere
    exact ⟨by rw [r'.tile, r.tile, tile], by rw [r'.density, r.density, density]⟩

/-- Three rows of two cells, where the first cell of the last row is built on and has traffic. Its
position is the fifth one, and the position that follows belongs to the cell beside it, where a change
leaves it alone. -/
theorem positions_and_cells_lot :
    2 ≤ 2 ^ 31 ∧ 3 ≤ 2 ^ 31 ∧
      ∃ s, changed? 2 3 [.setTile ⟨0, 2⟩ 64, .addTraffic ⟨0, 2⟩ 90, .addTraffic ⟨2, 0⟩ 90,
          .decay 10] = some s ∧
        s.tiles.size = 6 ∧ s.position? ⟨0, 2⟩ = some (some 4) ∧ s.location? 4 = some ⟨0, 2⟩ ∧
        (∃ c, s.location? 5 = some c ∧ s.position? c = some (some 5)) ∧
        s.position? ⟨2, 0⟩ = some none ∧
        ∃ s', s.change? (.addTraffic ⟨1, 2⟩ 200) = some s' ∧ s'.density? ⟨1, 2⟩ = some (some 200) ∧
          s'.density? ⟨0, 2⟩ = some (some 80) ∧ s'.tile? ⟨0, 2⟩ = some (some 64) := by
  have columns : 2 ≤ 2 ^ 31 := by decide
  have rows : 3 ≤ 2 ^ 31 := by decide
  have built : changed? 2 3 [.setTile ⟨0, 2⟩ 64, .addTraffic ⟨0, 2⟩ 90, .addTraffic ⟨2, 0⟩ 90,
      .decay 10] = some ⟨2, 3, #[0, 0, 0, 0, 64, 0], #[0, 0, 0, 0, 80, 0]⟩ := by decide +kernel
  obtain ⟨s, made, -, size, -, positions, cells, elsewhere⟩ := @positions_and_cells 2 3 columns rows
    [.setTile ⟨0, 2⟩ 64, .addTraffic ⟨0, 2⟩ 90, .addTraffic ⟨2, 0⟩ 90, .decay 10]
  obtain rfl := Option.some.inj (made.symm.trans built)
  obtain ⟨found, place, -, back⟩ := positions ⟨0, 2⟩
  obtain rfl : found = some 4 := Option.some.inj (place.symm.trans (by decide +kernel))
  obtain ⟨s', after, others⟩ := elsewhere (.addTraffic ⟨1, 2⟩ 200) ⟨1, 2⟩ rfl
  obtain ⟨tile, density⟩ := others ⟨0, 2⟩ (by decide)
  refine ⟨columns, rows, _, made, size, place, (back 4 rfl).2, cells 5 (by decide), by decide +kernel,
    s', after, ?_, density.trans (by decide +kernel), tile.trans (by decide +kernel)⟩
  obtain rfl := Option.some.inj (after.symm.trans (show _ = some (Storage.mk 2 3
    #[0, 0, 0, 0, 64, 0] #[0, 0, 0, 0, 80, 200]) by decide +kernel))
  decide +kernel

end Storage

end Cityscape
