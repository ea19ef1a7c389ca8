import Cityscape.City.Layout
import Cityscape.Proofs.Grid
import Cityscape.Proofs.Traffic.Ring
import Mathlib.Algebra.Group.Nat.Defs
import Mathlib.Logic.Function.Basic

/-!
# The structures of a generated city

A grid is `Furnished` with the structures of some zones when each of them stands where its centre
tile says and all other cells are as they were. To build one more structure keeps this
(`Furnished.build`), also where it replaces a smaller one, as the airport does.
-/

namespace Cityscape.City

open Bounds (int32)

variable {width height : Nat} {g h : Grid} {z c : Cell} {t : Tile}

/-- A centre in every fourth column and row, with two cells to spare on each side: one for a small
structure and one for the road around it. -/
structure IsCentre (width height : Nat) (z : Cell) : Prop where
  column : ∃ i : Nat, z.x.toInt = 2 + 4 * i
  row : ∃ j : Nat, z.y.toInt = 2 + 4 * j
  east : z.x.toInt + 2 < width
  south : z.y.toInt + 2 < height

/-- The place of the structure with a given centre tile around a centre. -/
def plot (z : Cell) (t : Tile) : Footprint := footprintAround z t.structureSide

/-- A structure is three or four cells wide. -/
lemma structureSide_cases (t : Tile) : t.structureSide = 3 ∨ t.structureSide = 4 := by
  unfold Tile.structureSide
  split
  · exact .inr rfl
  · exact .inl rfl

/-- The centre tiles of the structures that are built. -/
def centreTiles : List Tile := Tile.airport :: smallCentres.toList

/-- A small structure is a house, a shop or a factory. -/
lemma cases_of_small (small : t ∈ smallCentres.toList) :
    t = Tile.house ∨ t = Tile.shop ∨ t = Tile.factory := by
  simpa [smallCentres] using small

/-- Of the structures built, only the airport is four cells wide. -/
lemma structureSide_of_mem (ht : t ∈ centreTiles) :
    t.structureSide = if t = Tile.airport then 4 else 3 := by
  rcases List.mem_cons.1 ht with rfl | small
  · decide
  · rcases cases_of_small small with rfl | rfl | rfl <;> decide

/-- An airport is no small structure. -/
lemma not_airport_of_small (small : t ∈ smallCentres.toList) : t ≠ Tile.airport := by
  rcases cases_of_small small with rfl | rfl | rfl <;> decide

/-- Small structures are three cells wide. -/
lemma structureSide_of_small (small : t ∈ smallCentres.toList) : t.structureSide = 3 := by
  rw [structureSide_of_mem (List.mem_cons_of_mem _ small), if_neg (not_airport_of_small small)]

/-- An airport is four cells wide. -/
lemma structureSide_airport : Tile.airport.structureSide = 4 :=
  structureSide_of_mem List.mem_cons_self

/-- No vehicle can travel over a tile of a structure. -/
lemma isRoutable_structureTile (ht : t ∈ centreTiles) (f : Footprint) (c : Cell) :
    (structureTile f t c).isRoutable = false := by
  have closed : t.isRoutable = false ∧ (t - 1).isRoutable = false := by
    rcases List.mem_cons.1 ht with rfl | small
    · decide
    · rcases cases_of_small small with rfl | rfl | rfl <;> decide
  unfold structureTile
  split
  · exact closed.1
  · exact closed.2

/-- Building a structure changes the tiles of its cells, as far as they are on the grid, and no
others. -/
lemma tile?_build {f : Footprint} :
    (build g f t).tile? c =
      if g.Contains c ∧ c ∈ f.cells then some (structureTile f t c) else g.tile? c :=
  Grid.tile?_foldl_setTile (structureTile f t) f.cells g

/-- Building a structure keeps the sides. -/
lemma sameSides_build (g : Grid) (f : Footprint) (t : Tile) : g.SameSides (build g f t) :=
  Grid.sameSides_foldl_setTile (structureTile f t) f.cells g

/-- The machine integer before a positive one is less by one. -/
lemma toInt_pred {v : Int32} (h : 0 < v.toInt) : (v - 1).toInt = v.toInt - 1 := by
  have hi := v.toInt_lt
  rw [Int32.toInt_sub, Int32.toInt_one, Int.bmod_eq_of_le (by omega) (by omega)]

/-- The sides of a grid are lengths between coordinates. -/
structure Measures (width height : Nat) : Prop where
  width : width < 2 ^ 31
  height : height < 2 ^ 31

namespace IsCentre

/-- The square around a centre is the plot of the structure there. -/
lemma around?_eq (hz : IsCentre width height z) (t : Tile) :
    Footprint.around? z t.structureSide = some (plot z t) := by
  obtain ⟨⟨i, x⟩, ⟨j, y⟩, -, -⟩ := hz
  exact Footprint.around?_eq_some_iff.2 ⟨toInt_pred (by omega), toInt_pred (by omega), rfl⟩

/-- Every plot around a centre has coordinates, and so has its surroundings. -/
lemma fits (hz : IsCentre width height z) (size : Measures width height) (t : Tile) :
    (plot z t).Fits := by
  obtain ⟨left, top, -⟩ := Footprint.around?_eq_some_iff.1 (hz.around?_eq t)
  obtain ⟨⟨i, x⟩, ⟨j, y⟩, east, south⟩ := hz
  obtain ⟨width, height⟩ := size
  have side : (plot z t).size = 3 ∨ (plot z t).size = 4 := structureSide_cases t
  constructor <;> simp only [left, top, Bounds.Holds, int32] <;> omega

/-- A plot begins one cell up and left of its centre, and is as wide as the structure. -/
lemma mem_plot_iff (hz : IsCentre width height z) (size : Measures width height) (t : Tile) :
    c ∈ (plot z t).cells ↔
      (z.x.toInt - 1 ≤ c.x.toInt ∧ c.x.toInt < z.x.toInt - 1 + t.structureSide) ∧
        z.y.toInt - 1 ≤ c.y.toInt ∧ c.y.toInt < z.y.toInt - 1 + t.structureSide := by
  obtain ⟨left, top, side⟩ := Footprint.around?_eq_some_iff.1 (hz.around?_eq t)
  rw [(hz.fits size t).mem_cells_iff, Footprint.Covers, left, top, side]

/-- A plot lies on the grid if it leaves a column and a row behind it. -/
lemma contains_of_mem_plot (hz : IsCentre width height z) (size : Measures width height)
    (east : z.x.toInt - 1 + t.structureSide < width)
    (south : z.y.toInt - 1 + t.structureSide < height) (mem : c ∈ (plot z t).cells) :
    (Grid.empty width height).Contains c := by
  rw [hz.mem_plot_iff size] at mem
  obtain ⟨⟨i, x⟩, ⟨j, y⟩, -, -⟩ := hz
  simp only [Grid.Contains, Grid.empty]
  omega

/-- The plot around a centre has the centre in it. -/
lemma mem_plot_self (hz : IsCentre width height z) (size : Measures width height) (t : Tile) :
    z ∈ (plot z t).cells := by
  have side := structureSide_cases t
  rw [hz.mem_plot_iff size]
  omega

/-- The centre tile of a structure is on its centre, and the tile before it on all other cells. -/
lemma structureTile_eq (hz : IsCentre width height z) (t : Tile) (c : Cell) :
    structureTile (plot z t) t c = if c = z then t else t - 1 := by
  obtain ⟨left, top, -⟩ := Footprint.around?_eq_some_iff.1 (hz.around?_eq t)
  rw [structureTile, left, top, Int.sub_add_cancel, Int.sub_add_cancel, Cell.ofInts,
    Int32.ofInt_toInt, Int32.ofInt_toInt]

/-- No two plots share a cell. -/
lemma eq_of_mem_plot {z' : Cell} {t' : Tile} (hz : IsCentre width height z)
    (hz' : IsCentre width height z') (size : Measures width height) (mem : c ∈ (plot z t).cells)
    (mem' : c ∈ (plot z' t').cells) : z = z' := by
  rw [hz.mem_plot_iff size] at mem
  rw [hz'.mem_plot_iff size] at mem'
  have side := structureSide_cases t
  have side' := structureSide_cases t'
  obtain ⟨i, x⟩ := hz.column
  obtain ⟨j, y⟩ := hz.row
  obtain ⟨i', x'⟩ := hz'.column
  obtain ⟨j', y'⟩ := hz'.row
  refine Cell.ext_toInt ?_ ?_ <;> omega

end IsCentre

/-- There is room for an airport around a centre, with a column and a row behind it. -/
def AirportFits (width height : Nat) (z : Cell) : Prop :=
  z.x.toInt + 3 < width ∧ z.y.toInt + 3 < height

/-- The second grid is the first one with structures around some zones: each zone has its own kind
of structure, by the centre tile, and what is not built over is as before. -/
structure Furnished (zones : List Cell) (kind : Cell → Tile) (g h : Grid) : Prop where
  sides : g.SameSides h
  stands : ∀ z ∈ zones, ∀ c ∈ (plot z (kind z)).cells,
    h.tile? c = some (structureTile (plot z (kind z)) (kind z) c)
  elsewhere : ∀ c, (∀ z ∈ zones, c ∉ (plot z (kind z)).cells) → h.tile? c = g.tile? c

namespace Furnished

variable {zones zones' : List Cell} {kind : Cell → Tile}

/-- Nothing has to be built for no zones. -/
lemma bare (kind : Cell → Tile) (g : Grid) : Furnished [] kind g g :=
  ⟨.refl g, fun _ hz => absurd hz List.not_mem_nil, fun _ _ => rfl⟩

/-- What matters is which zones there are, and not in which order. -/
lemma congr (f : Furnished zones kind g h) (same : ∀ z, z ∈ zones' ↔ z ∈ zones) :
    Furnished zones' kind g h := by
  refine ⟨f.sides, fun z hz => f.stands z ((same z).1 hz), fun c outside => ?_⟩
  exact f.elsewhere c fun z hz => outside z ((same z).2 hz)

/-- One more structure is built on free ground, or replaces one around the same centre that is no
larger. -/
lemma build (f : Furnished zones kind g h) (size : Measures width height)
    (centres : ∀ z ∈ zones, IsCentre width height z) (hz : IsCentre width height z)
    (grows : (kind z).structureSide ≤ t.structureSide)
    (inside : ∀ c ∈ (plot z t).cells, h.Contains c) :
    Furnished (z :: zones) (Function.update kind z t) g (City.build h (plot z t) t) := by
  refine ⟨f.sides.trans (sameSides_build h _ t), fun y hy c hc => ?_, fun c outside => ?_⟩
  · rw [tile?_build]
    by_cases here : y = z
    · subst here
      rw [Function.update_self] at hc ⊢
      rw [if_pos ⟨inside c hc, hc⟩]
    · rw [Function.update_of_ne here] at hc ⊢
      have old := (List.mem_cons.1 hy).resolve_left here
      rw [if_neg, f.stands y old c hc]
      rintro ⟨-, mem⟩
      exact here ((centres y old).eq_of_mem_plot hz size hc mem)
  · have apart : c ∉ (plot z t).cells := by
      have new := outside z List.mem_cons_self
      rwa [Function.update_self] at new
    rw [tile?_build, if_neg fun built => apart built.2]
    refine f.elsewhere c fun y hy mem => ?_
    by_cases here : y = z
    · subst here
      apply apart
      rw [hz.mem_plot_iff size] at mem ⊢
      omega
    · apply outside y (List.mem_cons_of_mem _ hy)
      rwa [Function.update_of_ne here]

variable {σ : Type} [Random.Source σ]

/-- Building a small structure builds a house, a shop or a factory on the plot around the centre. -/
lemma exists_buildSmall (state : Grid × σ) (z : Cell) :
    ∃ t ∈ smallCentres.toList,
      (City.buildSmall state z).1 = City.build state.1 (plot z t) t := by
  have mem : smallCentres[(Random.below 3 (by decide) state.2).1] ∈ smallCentres.toList :=
    Vector.mem_toList_iff.2 (Vector.getElem_mem _)
  refine ⟨_, mem, ?_⟩
  rw [plot, structureSide_of_small mem]
  rfl

/-- Small structures are built one after the other, whatever is drawn. -/
lemma buildSmall (size : Measures width height) {todo : List Cell}
    (todoCentres : ∀ z ∈ todo, IsCentre width height z) {state : Grid × σ}
    (f : Furnished zones kind g state.1) (centres : ∀ z ∈ zones, IsCentre width height z)
    (small : ∀ z, kind z ∈ smallCentres.toList) (sides : (Grid.empty width height).SameSides g) :
    ∃ kind', (∀ z, kind' z ∈ smallCentres.toList) ∧
      Furnished (todo.reverse ++ zones) kind' g (todo.foldl City.buildSmall state).1 := by
  induction todo generalizing zones kind state with
  | nil => exact ⟨kind, small, f⟩
  | cons z todo ih =>
    obtain ⟨hz, later⟩ := List.forall_mem_cons.1 todoCentres
    obtain ⟨t, ht, built⟩ := exists_buildSmall state z
    have side := structureSide_of_small ht
    have inside : ∀ c ∈ (plot z t).cells, state.1.Contains c := by
      intro c hc
      rw [(sides.trans f.sides).contains_iff]
      have east := hz.east
      have south := hz.south
      exact hz.contains_of_mem_plot size (by omega) (by omega) hc
    have same : (kind z).structureSide ≤ t.structureSide :=
      Nat.le_of_eq ((structureSide_of_small (small z)).trans side.symm)
    rw [List.foldl_cons, List.reverse_cons, List.append_assoc]
    refine ih later (built ▸ f.build size centres hz same inside)
      (List.forall_mem_cons.2 ⟨hz, centres⟩) fun y => ?_
    by_cases here : y = z
    · subst here
      rwa [Function.update_self]
    · rw [Function.update_of_ne here]
      exact small y

/-- An airport replaces the structure around a centre where it fits. -/
lemma buildAirport (f : Furnished zones kind g h) (size : Measures width height)
    (centres : ∀ z ∈ zones, IsCentre width height z) (hz : z ∈ zones)
    (sides : (Grid.empty width height).SameSides g) :
    (AirportFits width height z ∧
        Furnished zones (Function.update kind z Tile.airport) g (City.buildAirport h z)) ∨
      (¬AirportFits width height z ∧ City.buildAirport h z = h) := by
  have centre := centres z hz
  obtain ⟨w, h'⟩ := sides.trans f.sides
  obtain ⟨left, top, -⟩ := Footprint.around?_eq_some_iff.1 (centre.around?_eq Tile.airport)
  have same : plot z Tile.airport = footprintAround z 4 := by rw [plot, structureSide_airport]
  unfold City.buildAirport
  rw [← same]
  dsimp only
  rw [left, top, w, h']
  split
  · rename_i room
    have fits : AirportFits width height z := by
      simp only [Grid.empty] at room
      exact ⟨by omega, by omega⟩
    have grows : (kind z).structureSide ≤ Tile.airport.structureSide := by
      have small := structureSide_cases (kind z)
      rw [structureSide_airport]
      omega
    have side := structureSide_airport
    have inside : ∀ c ∈ (plot z Tile.airport).cells, h.Contains c := by
      intro c hc
      rw [(sides.trans f.sides).contains_iff]
      obtain ⟨east, south⟩ := fits
      exact centre.contains_of_mem_plot size (by omega) (by omega) hc
    have built := f.build size centres centre grows inside
    exact .inl ⟨fits, built.congr fun y => by
      rw [List.mem_cons, or_iff_right_of_imp]
      rintro rfl
      exact hz⟩
  · rename_i full
    refine .inr ⟨fun fits => full ?_, rfl⟩
    obtain ⟨east, south⟩ := fits
    simp only [Grid.empty]
    omega

end Furnished

/-- The grid with an airport around the last of some centres, where it fits. -/
def withAirport (zones : List Cell) (g : Grid) : Grid :=
  match zones.getLast? with
  | some z => buildAirport g z
  | none => g

/-- Where the airport stands. -/
def AirportAt (width height : Nat) (zones : List Cell) (z : Cell) : Prop :=
  zones.getLast? = some z ∧ AirportFits width height z

/-- The structures of a generated city, whatever is drawn: there is one around each centre, and it
is an airport around the last one where that fits. -/
lemma furnished {σ : Type} [Random.Source σ] (size : Measures width height) {zones : List Cell}
    (centres : ∀ z ∈ zones, IsCentre width height z) {state : Grid × σ}
    (sides : (Grid.empty width height).SameSides state.1) :
    ∃ kind, Furnished zones kind state.1 (withAirport zones (zones.foldl buildSmall state).1) ∧
      ∀ z, kind z ∈ centreTiles ∧ (kind z = Tile.airport ↔ AirportAt width height zones z) := by
  obtain ⟨kind, small, built⟩ := @Furnished.buildSmall width height state.1 []
    (fun _ => Tile.house) σ _ size zones centres state (.bare _ _) (List.forall_mem_nil _)
    (fun _ => by decide) sides
  have built : Furnished zones kind state.1 (zones.foldl buildSmall state).1 :=
    built.congr fun z => by rw [List.append_nil, List.mem_reverse]
  have tile (z : Cell) : kind z ∈ centreTiles ∧ kind z ≠ Tile.airport :=
    ⟨List.mem_cons_of_mem _ (small z), not_airport_of_small (small z)⟩
  unfold withAirport
  cases last : zones.getLast? with
  | none =>
    refine ⟨kind, built, fun z => ⟨(tile z).1, iff_of_false (tile z).2 fun airport => ?_⟩⟩
    exact Option.some_ne_none z (airport.1.symm.trans last)
  | some z =>
    rcases built.buildAirport size centres (List.mem_of_getLast? last) sides with
      ⟨fits, airport⟩ | ⟨full, same⟩
    · refine ⟨_, airport, fun y => ?_⟩
      by_cases here : y = z
      · subst here
        rw [Function.update_self]
        exact ⟨List.mem_cons_self, iff_of_true rfl ⟨last, fits⟩⟩
      · rw [Function.update_of_ne here]
        refine ⟨(tile y).1, iff_of_false (tile y).2 fun airport => here ?_⟩
        exact Option.some.inj (airport.1.symm.trans last)
    · dsimp only
      rw [same]
      refine ⟨kind, built, fun y => ⟨(tile y).1, iff_of_false (tile y).2 fun airport => full ?_⟩⟩
      obtain rfl := Option.some.inj (airport.1.symm.trans last)
      exact airport.2

end Cityscape.City
