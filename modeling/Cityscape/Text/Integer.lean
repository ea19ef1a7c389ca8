import Cityscape.Bounds
import Cityscape.Text.Blank
import Cityscape.Text.Fields

/-!
# Integers in decimal

An integer is written as an optional sign and at least one ASCII digit. A minus sign is admitted
only where negative values are, and a value outside its bounds is refused.
-/

namespace Cityscape.Text

/-- The value of an ASCII digit. -/
def digit? (c : Char) : Option Nat :=
  if '0' ≤ c ∧ c ≤ '9' then some (c.toNat - '0'.toNat) else none

/-- The value of a run of ASCII digits that continues the number `value`. -/
def readDigits : Nat → List Char → Option Nat
  | value, [] => some value
  | value, c :: cs => do readDigits (10 * value + (← digit? c)) cs

/-- The value of a non-empty run of ASCII digits. -/
def natural? : List Char → Option Nat
  | [] => none
  | c :: cs => readDigits 0 (c :: cs)

/-- The integer between `bounds` that a text writes. -/
def integer? (bounds : Bounds) : List Char → Option Int
  | '+' :: cs => do bounds.fit? (← natural? cs)
  | '-' :: cs => if bounds.lo < 0 then do bounds.fit? (-(← natural? cs : Nat)) else none
  | cs => do bounds.fit? (← natural? cs)

/-- The pair of integers that a text of the form `x,y` writes, with blanks around each. -/
def pair? (bounds : Bounds) (cs : List Char) : Option (Int × Int) :=
  match fields ',' cs with
  | [x, y] => do
    let x ← integer? bounds (trimChars x)
    let y ← integer? bounds (trimChars y)
    return (x, y)
  | _ => none

end Cityscape.Text
