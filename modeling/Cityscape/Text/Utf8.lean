/-!
# UTF-8

Reading bytes as UTF-8. A maximal ill-formed subsequence (a lead byte with as many following bytes
as could still begin a character, or a byte that cannot lead) is one reading error: strict reading
refuses the text, lossy reading puts one replacement character in its place.
-/

namespace Cityscape.Text

/-- A continuation byte. -/
def isTrail (b : UInt8) : Bool := 0x80 ≤ b && b ≤ 0xBF

/-- Whether `b` can follow the lead byte `a` of a character of three bytes. -/
def isThreeByteStart (a b : UInt8) : Bool :=
  if a = 0xE0 then 0xA0 ≤ b && b ≤ 0xBF
  else if a = 0xED then 0x80 ≤ b && b ≤ 0x9F
  else 0xE1 ≤ a && a ≤ 0xEF && isTrail b

/-- Whether `b` can follow the lead byte `a` of a character of four bytes. -/
def isFourByteStart (a b : UInt8) : Bool :=
  if a = 0xF0 then 0x90 ≤ b && b ≤ 0xBF
  else if a = 0xF4 then 0x80 ≤ b && b ≤ 0x8F
  else 0xF1 ≤ a && a ≤ 0xF3 && isTrail b

/-- The character whose code point has these digits in base 64, after the marks of the lead byte
and of the continuation bytes are taken off. -/
def joinBytes (lead : Nat) (trail : List UInt8) : Char :=
  Char.ofNat (trail.foldl (fun code b => 64 * code + b.toNat % 64) lead)

/-- The characters that bytes spell, with `none` for each maximal ill-formed subsequence. -/
def decodeUtf8 : List UInt8 → List (Option Char)
  | [] => []
  | a :: r =>
    if a < 0x80 then some (Char.ofNat a.toNat) :: decodeUtf8 r
    else match r with
      | [] => [none]
      | b :: r =>
        if 0xC2 ≤ a && a ≤ 0xDF && isTrail b then
          some (joinBytes (a.toNat % 32) [b]) :: decodeUtf8 r
        else if isThreeByteStart a b then
          match r with
          | [] => [none]
          | c :: r =>
            if isTrail c then some (joinBytes (a.toNat % 16) [b, c]) :: decodeUtf8 r
            else none :: decodeUtf8 (c :: r)
        else if isFourByteStart a b then
          match r with
          | [] => [none]
          | c :: r =>
            if isTrail c then
              match r with
              | [] => [none]
              | d :: r =>
                if isTrail d then some (joinBytes (a.toNat % 8) [b, c, d]) :: decodeUtf8 r
                else none :: decodeUtf8 (d :: r)
            else none :: decodeUtf8 (c :: r)
        else none :: decodeUtf8 (b :: r)

/-- The text that bytes spell, if they are well formed. -/
def utf8? (bytes : List UInt8) : Option String :=
  ((decodeUtf8 bytes).mapM id).map String.ofList

/-- The text that bytes spell, with U+FFFD for each maximal ill-formed subsequence. -/
def utf8Lossy (bytes : List UInt8) : String :=
  String.ofList ((decodeUtf8 bytes).map (·.getD '\uFFFD'))

end Cityscape.Text
