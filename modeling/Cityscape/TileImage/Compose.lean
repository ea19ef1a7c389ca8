import Cityscape.TileImage.Measure

/-!
# Composing tile images

The checked ways to build a tree from smaller ones. The parts of a layer and the variants of a
switch or an animation must have one size, a switch must end in a case that always holds, and the
durations of an animation must add up to a clock time.
-/

namespace Cityscape

open Image

/-- Why a tree cannot be composed. -/
inductive ComposeError where
  | sizeMismatch (below above : Size)
  | emptySwitch
  | missingDefault
  | emptyAnimation
  | periodOverflow
  | variantSizeMismatch (expected found : Size)
deriving Repr, DecidableEq

/-- The text of a composition error. -/
def ComposeError.message : ComposeError → String
  | sizeMismatch below above =>
    "cannot layer images of differing standard sizes (" ++ below.render ++ " below, "
      ++ above.render ++ " above)"
  | emptySwitch => "switch image has no cases"
  | missingDefault => "the last case of a switch image must be the always-true default"
  | emptyAnimation => "animation has no frames"
  | periodOverflow =>
    s!"animation frame durations add up to more than {Bounds.uint64.hi} ticks"
  | variantSizeMismatch expected found =>
    "all variants of a tile image must share one standard size (expected " ++ expected.render
      ++ ", found " ++ found.render ++ ")"

namespace TileImage

/-- One image over another of the same size. -/
def layer? (below above : TileImage) : Except ComposeError TileImage :=
  if below.size = above.size then .ok (.layer below above)
  else .error (.sizeMismatch below.size above.size)

/-- Refuses images of different sizes; the first one sets the size. -/
def checkSizes : List TileImage → Except ComposeError Unit
  | [] => .ok ()
  | first :: others =>
    match others.find? fun image => image.size ≠ first.size with
    | some image => .error (.variantSizeMismatch first.size image.size)
    | none => .ok ()

/-- A switch over cases of which the last one always holds. -/
def switch? (cases : List (Case TileImage)) : Except ComposeError TileImage :=
  match cases.getLast? with
  | none => .error .emptySwitch
  | some last =>
    if last.condition.isAlways then do
      checkSizes (cases.map (·.image))
      return .switch cases
    else .error .missingDefault

/-- A switch over cases with a default behind them. -/
def switchOr? (cases : List (Case TileImage)) (default : TileImage) :
    Except ComposeError TileImage :=
  switch? (cases ++ [⟨.always, default⟩])

/-- An animation of frames whose durations add up to a clock time. -/
def animation? (frames : List (Frame TileImage)) : Except ComposeError TileImage :=
  if frames.isEmpty then .error .emptyAnimation
  else if Bounds.uint64.Holds (Frame.period frames) then do
    checkSizes (frames.map (·.image))
    return .animation frames
  else .error .periodOverflow

end TileImage

end Cityscape
