import Cityscape.Markup.Reference
import Cityscape.Markup.Segment

/-!
# Attributes

What follows the name in a tag: keys and quoted values with `=` between them. They are read from
left to right, and the first fault is the one that is reported.
-/

namespace Cityscape.Markup

/-- What is wrong with a document before its meaning is looked at. -/
inductive Malformed where
  /-- Markup without an end, of no known kind, or badly nested; text that cannot be read. -/
  | markup
  /-- An attribute without a quoted value, or with a key that has been seen before. -/
  | attributes
deriving Repr, DecidableEq

/-- A local name and a value. -/
abbrev Attribute := String × String

/-- The name without what stands before its first colon. -/
def localName (name : Bytes) : Bytes :=
  match name.dropWhile (· ≠ ascii ':') with
  | [] => name
  | _ :: after => after

/-- What the attribute reader is inside of. -/
inductive AttributeMode where
  | between
  /-- In a key, of which this has been read, in reverse order. -/
  | key (seen : Bytes)
  /-- Behind a key, before `=`. -/
  | afterKey (key : Bytes)
  /-- Behind `=`, before the quote. -/
  | afterEquals (key : Bytes)
  /-- In a value, of which this has been read, in reverse order. -/
  | value (key : Bytes) (quote : UInt8) (seen : Bytes)
deriving Repr, DecidableEq

/-- The keys and values of the attributes from inside one of them on; `found` are those before it,
in reverse order. -/
def readAttributes : AttributeMode → List (Bytes × String) → Bytes →
    Except Malformed (List (Bytes × String))
  | .between, found, [] => .ok found.reverse
  | _, _, [] => .error .attributes
  | .between, found, b :: rest =>
    if isSpace b then readAttributes .between found rest else readAttributes (.key [b]) found rest
  | .key seen, found, b :: rest =>
    if b = ascii '=' then
      if found.any (·.1 == seen.reverse) then .error .attributes
      else readAttributes (.afterEquals seen.reverse) found rest
    else if isSpace b then readAttributes (.afterKey seen.reverse) found rest
    else readAttributes (.key (b :: seen)) found rest
  | .afterKey key, found, b :: rest =>
    if isSpace b then readAttributes (.afterKey key) found rest
    else if b = ascii '=' && !found.any (·.1 == key) then
      readAttributes (.afterEquals key) found rest
    else .error .attributes
  | .afterEquals key, found, b :: rest =>
    if isSpace b then readAttributes (.afterEquals key) found rest
    else if b = ascii '\x22' || b = ascii '\x27' then readAttributes (.value key b []) found rest
    else .error .attributes
  | .value key quote seen, found, b :: rest =>
    if b = quote then
      match text? seen.reverse with
      | some value => readAttributes .between ((key, value) :: found) rest
      | none => .error .markup
    else readAttributes (.value key quote (b :: seen)) found rest

/-- The attributes that the bytes behind a tag's name write. -/
def attributes (bytes : Bytes) : Except Malformed (List Attribute) := do
  let found ← readAttributes .between [] bytes
  return found.map fun (key, value) => (Text.utf8Lossy (localName key), value)

end Cityscape.Markup
