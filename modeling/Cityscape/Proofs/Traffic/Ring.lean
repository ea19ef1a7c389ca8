import Cityscape.Traffic
import Mathlib.Logic.Basic
import Mathlib.Tactic.Lemma

/-!
# Structures and the rings around them

Where a footprint `Fits` the coordinates, with a row or a column to spare on every side, its cells
are those that it `Covers` and its ring lists the cells that lie `Beside` it (`Fits.mem_cells_iff`
and `Fits.mem_border_iff`). Where it does not fit, there is no ring at all (`ring?_isSome_iff`):
coordinates are computed exactly here and refused, while a step from cell to cell stops at the
bounds.

A centre `HasRoom` if the structure around it fits. These are the centres around which roads can be
looked for (`Traffic.peripheryRoads?_isSome_iff`), and the only ones.
-/

namespace Cityscape

open Bounds (int32)

/-- A cell made from two coordinates is known by them. -/
lemma Cell.eq_ofInts_iff {c : Cell} {x y : Int} (hx : int32.Holds x) (hy : int32.Holds y) :
    c = ofInts x y ↔ c.x.toInt = x ∧ c.y.toInt = y := by
  have ex := toInt_ofInt_of_holds hx
  have ey := toInt_ofInt_of_holds hy
  constructor
  · rintro rfl
    exact ⟨ex, ey⟩
  · rintro ⟨cx, cy⟩
    exact ext_toInt (cx.trans ex.symm) (cy.trans ey.symm)

/-- What fits is just what lies within the bounds. -/
lemma Bounds.fit?_isSome_iff {b : Bounds} {v : Int} : (∃ w, b.fit? v = some w) ↔ b.Holds v := by
  constructor
  · rintro ⟨w, h⟩
    exact (fit?_eq_some_iff.1 h).1
  · intro h
    exact ⟨v, fit?_of_holds h⟩

/-- What lies between two values within the bounds is within the bounds itself. -/
lemma Bounds.Holds.between {b : Bounds} {u v w : Int} (hu : b.Holds u) (hw : b.Holds w)
    (lo : u ≤ v) (hi : v ≤ w) : b.Holds v :=
  ⟨Int.le_trans hu.1 lo, Int.le_trans hi hw.2⟩

namespace Footprint

variable {f : Footprint} {c : Cell}

/-- A cell lies within the square. -/
def Covers (f : Footprint) (c : Cell) : Prop :=
  (f.left.toInt ≤ c.x.toInt ∧ c.x.toInt < f.left.toInt + f.size) ∧
    f.top.toInt ≤ c.y.toInt ∧ c.y.toInt < f.top.toInt + f.size

/-- A cell shares an edge with a cell of the square, and lies outside of it. -/
def Beside (f : Footprint) (c : Cell) : Prop :=
  ((c.x.toInt = f.left.toInt - 1 ∨ c.x.toInt = f.left.toInt + f.size) ∧
      f.top.toInt ≤ c.y.toInt ∧ c.y.toInt < f.top.toInt + f.size) ∨
    ((c.y.toInt = f.top.toInt - 1 ∨ c.y.toInt = f.top.toInt + f.size) ∧
      f.left.toInt ≤ c.x.toInt ∧ c.x.toInt < f.left.toInt + f.size)

/-- The square around a centre begins one cell up and left of it, and has the size asked for. -/
lemma around?_eq_some_iff {centre : Cell} {size : Nat} :
    around? centre size = some f ↔
      f.left.toInt = centre.x.toInt - 1 ∧ f.top.toInt = centre.y.toInt - 1 ∧ f.size = size := by
  constructor
  · intro h
    obtain ⟨left, west, h⟩ := Option.bind_eq_some_iff.1 h
    obtain ⟨top, north, h⟩ := Option.bind_eq_some_iff.1 h
    obtain ⟨hx, rfl⟩ := Bounds.fit?_eq_some_iff.1 west
    obtain ⟨hy, rfl⟩ := Bounds.fit?_eq_some_iff.1 north
    obtain rfl := Option.some.inj h
    exact ⟨Cell.toInt_ofInt_of_holds hx, Cell.toInt_ofInt_of_holds hy, rfl⟩
  · rintro ⟨left, top, rfl⟩
    have west := Bounds.fit?_of_holds (left ▸ Cell.holds_toInt f.left)
    have north := Bounds.fit?_of_holds (top ▸ Cell.holds_toInt f.top)
    simp only [around?, west, north, Option.bind_eq_bind, Option.bind_some, Option.pure_def]
    rw [← left, ← top, Int32.ofInt_toInt, Int32.ofInt_toInt]

/-- The square and its surroundings have coordinates. -/
structure Fits (f : Footprint) : Prop where
  size : int32.Holds f.size
  west : int32.Holds (f.left.toInt - 1)
  north : int32.Holds (f.top.toInt - 1)
  east : int32.Holds (f.left.toInt + f.size)
  south : int32.Holds (f.top.toInt + f.size)

/-- The side that is computed is the size, if that is a coordinate. -/
lemma side_eq (size : int32.Holds f.size) : f.side = f.size := Bounds.wrap_of_holds size

/-- The cells beside the square, side by side: in the west, then in the north and the south, then in
the east. -/
def border (f : Footprint) : List Cell :=
  let steps := (List.range f.size).map Int.ofNat
  steps.map (fun i => Cell.ofInts (f.left.toInt - 1) (f.top.toInt + i))
    ++ steps.flatMap (fun i =>
      [Cell.ofInts (f.left.toInt + i) (f.top.toInt - 1),
        Cell.ofInts (f.left.toInt + i) (f.top.toInt + f.size)])
    ++ steps.map (fun i => Cell.ofInts (f.left.toInt + f.size) (f.top.toInt + i))

/-- The ring of a square that fits is its border. -/
lemma Fits.ring?_eq (fits : f.Fits) (pos : 0 < f.size) : f.ring? = some f.border := by
  have wide : ¬(f.size : Int) ≤ 0 := by omega
  simp only [ring?, side_eq fits.size, Bounds.fit?_of_holds fits.west,
    Bounds.fit?_of_holds fits.north, Bounds.fit?_of_holds fits.east,
    Bounds.fit?_of_holds fits.south, Option.bind_eq_bind, Option.bind_some, if_neg wide]
  rfl

/-- Only a square that fits has a ring. -/
lemma ring?_isSome_iff (size : int32.Holds f.size) (pos : 0 < f.size) :
    (∃ ring, f.ring? = some ring) ↔ f.Fits := by
  have wide : ¬f.side ≤ 0 := by
    rw [side_eq size]
    omega
  constructor
  · rintro ⟨ring, h⟩
    obtain ⟨right, east, h⟩ := Option.bind_eq_some_iff.1 h
    obtain ⟨bottom, south, h⟩ := Option.bind_eq_some_iff.1 h
    rw [if_neg wide] at h
    obtain ⟨west, hw, h⟩ := Option.bind_eq_some_iff.1 h
    obtain ⟨north, hn, -⟩ := Option.bind_eq_some_iff.1 h
    rw [side_eq size] at east south
    exact ⟨size, Bounds.fit?_isSome_iff.1 ⟨_, hw⟩, Bounds.fit?_isSome_iff.1 ⟨_, hn⟩,
      Bounds.fit?_isSome_iff.1 ⟨_, east⟩, Bounds.fit?_isSome_iff.1 ⟨_, south⟩⟩
  · intro fits
    exact ⟨f.border, fits.ring?_eq pos⟩

section
variable (fits : f.Fits)
include fits

/-- The columns of a square that fits are coordinates. -/
lemma Fits.column {i : Nat} (h : i < f.size) : int32.Holds (f.left.toInt + i) :=
  fits.west.between fits.east (by omega) (by omega)

/-- The rows of a square that fits are coordinates. -/
lemma Fits.row {i : Nat} (h : i < f.size) : int32.Holds (f.top.toInt + i) :=
  fits.north.between fits.south (by omega) (by omega)

/-- The border of a square that fits lists the cells beside it. -/
lemma Fits.mem_border_iff : c ∈ f.border ↔ f.Beside c := by
  have column (x : Int) (hx : int32.Holds x) :
      (∃ i < f.size, Cell.ofInts x (f.top.toInt + i) = c) ↔
        c.x.toInt = x ∧ f.top.toInt ≤ c.y.toInt ∧ c.y.toInt < f.top.toInt + f.size := by
    constructor
    · rintro ⟨i, hi, e⟩
      obtain ⟨ex, ey⟩ := (Cell.eq_ofInts_iff hx (fits.row hi)).1 e.symm
      omega
    · rintro ⟨ex, lo, hi⟩
      have hi' : (c.y.toInt - f.top.toInt).toNat < f.size := by omega
      refine ⟨_, hi', ((Cell.eq_ofInts_iff hx (fits.row hi')).2 ⟨ex, ?_⟩).symm⟩
      omega
  have row (y : Int) (hy : int32.Holds y) :
      (∃ i < f.size, Cell.ofInts (f.left.toInt + i) y = c) ↔
        c.y.toInt = y ∧ f.left.toInt ≤ c.x.toInt ∧ c.x.toInt < f.left.toInt + f.size := by
    constructor
    · rintro ⟨i, hi, e⟩
      obtain ⟨ex, ey⟩ := (Cell.eq_ofInts_iff (fits.column hi) hy).1 e.symm
      omega
    · rintro ⟨ey, lo, hi⟩
      have hi' : (c.x.toInt - f.left.toInt).toNat < f.size := by omega
      refine ⟨_, hi', ((Cell.eq_ofInts_iff (fits.column hi') hy).2 ⟨?_, ey⟩).symm⟩
      omega
  have west := column _ fits.west
  have east := column _ fits.east
  have north := row _ fits.north
  have south := row _ fits.south
  have sides : c ∈ f.border ↔
      (∃ i < f.size, Cell.ofInts (f.left.toInt - 1) (f.top.toInt + i) = c) ∨
      ((∃ i < f.size, Cell.ofInts (f.left.toInt + i) (f.top.toInt - 1) = c) ∨
        ∃ i < f.size, Cell.ofInts (f.left.toInt + i) (f.top.toInt + f.size) = c) ∨
      ∃ i < f.size, Cell.ofInts (f.left.toInt + f.size) (f.top.toInt + i) = c := by
    simp only [border, List.mem_append, List.mem_map, List.mem_flatMap, List.mem_range,
      List.mem_cons, List.not_mem_nil, or_false, exists_exists_and_eq_and, Int.ofNat_eq_natCast,
      and_or_left, exists_or, or_assoc, eq_comm (a := c)]
  rw [sides, west, east, north, south, Beside]
  omega

/-- The cells of a square that fits are those that it covers. -/
lemma Fits.mem_cells_iff : c ∈ f.cells ↔ f.Covers c := by
  constructor
  · intro h
    obtain ⟨j, hj, h⟩ := List.mem_flatMap.1 h
    obtain ⟨i, hi, e⟩ := List.mem_map.1 h
    have hj := List.mem_range.1 hj
    have hi := List.mem_range.1 hi
    obtain ⟨ex, ey⟩ := (Cell.eq_ofInts_iff (fits.column hi) (fits.row hj)).1 e.symm
    simp only [Covers]
    omega
  · rintro ⟨⟨left, right⟩, top, bottom⟩
    have hi : (c.x.toInt - f.left.toInt).toNat < f.size := by omega
    have hj : (c.y.toInt - f.top.toInt).toNat < f.size := by omega
    refine List.mem_flatMap.2 ⟨_, List.mem_range.2 hj, ?_⟩
    refine List.mem_map.2 ⟨_, List.mem_range.2 hi, ?_⟩
    apply ((Cell.eq_ofInts_iff (fits.column hi) (fits.row hj)).2 _).symm
    omega

end

end Footprint

namespace Traffic

variable {t : Traffic} {centre : Cell}

/-- The structure around a centre has coordinates, and so have the cells beside it. -/
structure HasRoom (t : Traffic) (centre : Cell) : Prop where
  west : int32.Holds (centre.x.toInt - 2)
  north : int32.Holds (centre.y.toInt - 2)
  east : int32.Holds (centre.x.toInt - 1 + t.structureSide centre)
  south : int32.Holds (centre.y.toInt - 1 + t.structureSide centre)

/-- A structure is three or four cells wide. -/
lemma structureSide_cases (t : Traffic) (centre : Cell) :
    t.structureSide centre = 3 ∨ t.structureSide centre = 4 := by
  unfold structureSide
  split
  · rw [Tile.structureSide]
    split
    · exact .inr rfl
    · exact .inl rfl
  · exact .inl rfl

/-- The side of a structure is a coordinate. -/
lemma holds_structureSide (t : Traffic) (centre : Cell) :
    int32.Holds (t.structureSide centre) := by
  have size := t.structureSide_cases centre
  simp only [Bounds.Holds, int32]
  omega

/-- A cell shares an edge with the structure around a centre. -/
def Beside (t : Traffic) (centre c : Cell) : Prop :=
  ((c.x.toInt = centre.x.toInt - 2 ∨ c.x.toInt = centre.x.toInt - 1 + t.structureSide centre) ∧
      centre.y.toInt - 1 ≤ c.y.toInt ∧
      c.y.toInt < centre.y.toInt - 1 + t.structureSide centre) ∨
    ((c.y.toInt = centre.y.toInt - 2 ∨ c.y.toInt = centre.y.toInt - 1 + t.structureSide centre) ∧
      centre.x.toInt - 1 ≤ c.x.toInt ∧
      c.x.toInt < centre.x.toInt - 1 + t.structureSide centre)

/-- The footprint of the structure around a centre is where the structure has room. -/
lemma around?_fits {f : Footprint}
    (around : Footprint.around? centre (t.structureSide centre) = some f) :
    0 < f.size ∧ int32.Holds f.size ∧ (f.Fits ↔ t.HasRoom centre) ∧
      ∀ c, f.Beside c ↔ t.Beside centre c := by
  obtain ⟨left, top, size⟩ := Footprint.around?_eq_some_iff.1 around
  have side := t.structureSide_cases centre
  have holds : int32.Holds f.size := size ▸ t.holds_structureSide centre
  refine ⟨by omega, holds, ?_, fun c => ?_⟩
  · constructor
    · rintro ⟨-, west, north, east, south⟩
      simp only [left, top, size, Int.sub_sub] at west north east south
      exact ⟨west, north, east, south⟩
    · rintro ⟨west, north, east, south⟩
      refine ⟨holds, ?_, ?_, ?_, ?_⟩ <;> simpa only [left, top, size, Int.sub_sub]
  · simp only [Footprint.Beside, Beside, left, top, size, Int.sub_sub]
    rfl

/-- The roads beside a structure with room around it: the routable cells of its border. -/
lemma HasRoom.peripheryRoads?_eq (room : t.HasRoom centre) :
    ∃ border : List Cell, (∀ c, c ∈ border ↔ t.Beside centre c) ∧
      t.peripheryRoads? centre = some ((border.filter t.grid.isRoutable).map (⟨·, centre, true⟩)) := by
  have x : int32.Holds (centre.x.toInt - 1) :=
    room.west.between (Cell.holds_toInt centre.x) (by omega) (by omega)
  have y : int32.Holds (centre.y.toInt - 1) :=
    room.north.between (Cell.holds_toInt centre.y) (by omega) (by omega)
  let f : Footprint :=
    ⟨.ofInt (centre.x.toInt - 1), .ofInt (centre.y.toInt - 1), t.structureSide centre⟩
  have around : Footprint.around? centre (t.structureSide centre) = some f :=
    Footprint.around?_eq_some_iff.2
      ⟨Cell.toInt_ofInt_of_holds x, Cell.toInt_ofInt_of_holds y, rfl⟩
  obtain ⟨pos, -, fits, beside⟩ := around?_fits around
  have fits := fits.2 room
  refine ⟨f.border, fun c => fits.mem_border_iff.trans (beside c), ?_⟩
  simp only [peripheryRoads?, adjacentRoads?, around, fits.ring?_eq pos, Option.bind_eq_bind,
    Option.bind_some, Option.pure_def]

/-- Roads can be looked for around the centres that have room around them, and no others. -/
lemma peripheryRoads?_isSome_iff :
    (∃ roads, t.peripheryRoads? centre = some roads) ↔ t.HasRoom centre := by
  constructor
  · rintro ⟨roads, h⟩
    obtain ⟨f, around, h⟩ := Option.bind_eq_some_iff.1 h
    obtain ⟨ring, found, -⟩ := Option.bind_eq_some_iff.1 h
    obtain ⟨pos, holds, fits, -⟩ := around?_fits around
    exact fits.1 ((Footprint.ring?_isSome_iff holds pos).1 ⟨ring, found⟩)
  · intro room
    obtain ⟨border, -, found⟩ := room.peripheryRoads?_eq
    exact ⟨_, found⟩

/-- The roads at the periphery of a structure are the routable cells beside it, each of them ready
and reached from its centre. -/
lemma mem_peripheryRoads_iff {roads : List Access} (h : t.peripheryRoads? centre = some roads)
    {a : Access} :
    a ∈ roads ↔ a.origin = centre ∧ a.ready = true ∧ t.grid.isRoutable a.road = true ∧
      t.Beside centre a.road := by
  obtain ⟨border, beside, found⟩ := (peripheryRoads?_isSome_iff.1 ⟨roads, h⟩).peripheryRoads?_eq
  obtain rfl := Option.some.inj (h.symm.trans found)
  simp only [List.mem_map, List.mem_filter, beside]
  constructor
  · rintro ⟨c, ⟨near, routable⟩, rfl⟩
    exact ⟨rfl, rfl, routable, near⟩
  · obtain ⟨road, origin, ready⟩ := a
    rintro ⟨rfl, rfl, routable, near⟩
    exact ⟨road, ⟨near, routable⟩, rfl⟩

end Traffic

end Cityscape
