import Cityscape.TileImage.Basic

/-!
# Selecting variants

A switch shows the first case whose condition holds, an animation the frame whose window the clock
is in. The frames of an animation can also be written as cases: with the exact window of each
frame, which exclude one another, or to be tried in order, ending in one that always holds.
-/

namespace Cityscape

variable {α : Type}

namespace Case

/-- The position of the case that is shown: the first one that holds, or else the last one. -/
def selectedIndex (dc : DrawContext) (cases : List (Case α)) : Nat :=
  (cases.findIdx? fun c => c.condition.holds dc).getD (cases.length - 1)

/-- The image of the case that is shown; `none` only if there are no cases. -/
def selected? (dc : DrawContext) (cases : List (Case α)) : Option α :=
  cases[selectedIndex dc cases]?.map (·.image)

/-- The image of the last case. -/
def default? (cases : List (Case α)) : Option α := cases.getLast?.map (·.image)

/-- The cases with conditions that exclude one another: each holds only where no earlier one does.
`excluded` says where none of the cases before these holds. -/
def exclusive (excluded : Condition) : List (Case α) → List (Case α)
  | [] => []
  | ⟨condition, image⟩ :: others =>
    ⟨excluded.conj condition, image⟩ :: exclusive (excluded.conj condition.negate) others

end Case

namespace Frame

/-- A frame that is shown for at least one tick. -/
def lasting (duration : Nat) (image : α) : Frame α := ⟨max duration 1, image⟩

/-- The number of ticks before an animation repeats. -/
def period : List (Frame α) → Nat
  | [] => 0
  | f :: others => f.duration + period others

/-- The position of the frame that is shown `t` ticks after the first one appears. -/
def indexAfter : List (Frame α) → Nat → Option Nat
  | [], _ => none
  | f :: others, t =>
    if t < f.duration then some 0 else (indexAfter others (t - f.duration)).map (· + 1)

/-- The position of the frame that is shown at a time, or of the last one if there were none. -/
def shownIndex (frames : List (Frame α)) (time : Nat) : Nat :=
  (indexAfter frames (time % period frames)).getD (frames.length - 1)

/-- The image of the frame that is shown at a time; `none` only if there are no frames. -/
def shown? (time : Nat) (frames : List (Frame α)) : Option α :=
  frames[shownIndex frames time]?.map (·.image)

/-- The image of the last frame. -/
def default? (frames : List (Frame α)) : Option α := frames.getLast?.map (·.image)

/-- The windows of frames that follow one another, from a tick of the period on. -/
def windowsFrom (period : Nat) : Nat → List (Frame α) → List (Case α)
  | _, [] => []
  | start, ⟨duration, image⟩ :: others =>
    ⟨.frame period start (start + duration), image⟩ ::
      windowsFrom period (start + duration) others

/-- The frames as cases with the exact window of each; a single frame is always shown. -/
def windows : List (Frame α) → List (Case α)
  | [f] => [⟨.always, f.image⟩]
  | frames => windowsFrom (period frames) 0 frames

/-- Cases with the last one made the default. -/
def withDefault : List (Case α) → List (Case α)
  | [] => []
  | [c] => [⟨.always, c.image⟩]
  | c :: others => c :: withDefault others

/-- The frames as cases to be tried in order. -/
def asCases (frames : List (Frame α)) : List (Case α) := withDefault (windows frames)

end Frame

end Cityscape
