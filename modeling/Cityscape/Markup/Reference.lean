import Cityscape.Text.Utf8

/-!
# Character references

Text in a document writes some characters as references, from `&` to `;`: five by name, and every
one by its code point in decimal or, behind `x`, in hexadecimal.
-/

namespace Cityscape.Markup

/-- The value of a digit in a base of at most sixteen. -/
def digitIn? (base : Nat) (c : Char) : Option Nat :=
  let value? :=
    if '0' ≤ c ∧ c ≤ '9' then some (c.toNat - '0'.toNat)
    else if 'a' ≤ c ∧ c ≤ 'f' then some (c.toNat - 'a'.toNat + 10)
    else if 'A' ≤ c ∧ c ≤ 'F' then some (c.toNat - 'A'.toNat + 10)
    else none
  value?.filter (· < base)

/-- The number that digits continue. -/
def numberIn? (base : Nat) : Nat → List Char → Option Nat
  | value, [] => some value
  | value, c :: cs => do numberIn? base (base * value + (← digitIn? base c)) cs

/-- The character of a code point; none of code point zero. -/
def character? (code : Nat) : Option Char :=
  if 0 < code ∧ code.isValidChar then some (Char.ofNat code) else none

/-- The character that a reference stands for, given what is between `&` and `;`. -/
def reference? : List Char → Option Char
  | ['a', 'm', 'p'] => some '&'
  | ['l', 't'] => some '<'
  | ['g', 't'] => some '>'
  | ['q', 'u', 'o', 't'] => some '\x22'
  | ['a', 'p', 'o', 's'] => some '\x27'
  | '#' :: 'x' :: c :: cs => do character? (← numberIn? 16 0 (c :: cs))
  | '#' :: c :: cs => do character? (← numberIn? 10 0 (c :: cs))
  | _ => none

/-- Text with its references replaced; `pending` is what has been read of one, in reverse order. -/
def resolve (pending : Option (List Char)) : List Char → Option (List Char)
  | [] => if pending.isNone then some [] else none
  | c :: cs =>
    match pending with
    | none => if c = '&' then resolve (some []) cs else (resolve none cs).map (c :: ·)
    | some name =>
      if c = ';' then do
        let d ← reference? name.reverse
        return d :: (← resolve none cs)
      else if c = '&' then none
      else resolve (some (c :: name)) cs

/-- The text that bytes of a document spell, with its references replaced. -/
def text? (bytes : List UInt8) : Option String := do
  let raw ← Text.utf8? bytes
  return String.ofList (← resolve none raw.toList)

end Cityscape.Markup
