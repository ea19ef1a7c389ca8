import Cityscape.Markup.Attributes

/-!
# Tokens of a document

A document as a sequence of start tags, end tags and texts. Every end tag closes the element that
was opened last; a document where one does not is malformed. The sequence ends with the first fault
or with the document.
-/

namespace Cityscape.Markup

/-- A start tag: its local name, its attributes in order, and whether the element ends with it. -/
structure Element where
  name : String
  attributes : List Attribute
  empty : Bool
deriving Repr, DecidableEq

/-- The value of the first attribute with a name. -/
def Element.value? (el : Element) (key : String) : Option String :=
  (el.attributes.find? (·.1 == key)).map (·.2)

/-- What a reader of documents meets. -/
inductive Token where
  | start (el : Element)
  | text (content : String)
  | close
  | malformed (fault : Malformed)
deriving Repr, DecidableEq

namespace Token

/-- Whether bytes begin with an ASCII text. -/
def beginsWith (s : String) (bytes : Bytes) : Bool := (asciiBytes s).isPrefixOf bytes

/-- A byte with an ASCII capital letter made small. -/
def lower (b : UInt8) : UInt8 := if ascii 'A' ≤ b && b ≤ ascii 'Z' then b + 32 else b

/-- Whether the bytes of a document type begin with its keyword, in letters of either case, and
name a type behind it. -/
def namesDocumentType (content : Bytes) : Bool :=
  beginsWith "doctype" (content.map lower) && (content.drop 7).any (!isSpace ·)

/-- The text of character data, given what stands between `[` and `]]`, both included. -/
def characterData? (content : Bytes) : Option String :=
  if beginsWith "[CDATA[" content then
    some (Text.utf8Lossy ((content.drop 7).dropLast.dropLast))
  else none

/-- The name in an end tag, given what stands behind its slash: without space behind it, unless
there is nothing but space. -/
def closedName (content : Bytes) : Bytes :=
  match (content.reverse.dropWhile isSpace).reverse with
  | [] => content
  | name => name

/-- The bytes without a slash at their end, and whether there was one. -/
def withoutSlash (content : Bytes) : Bytes × Bool :=
  if content.getLast? = some (ascii '/') then (content.dropLast, true) else (content, false)

/-- The name a start tag opens, byte for byte. -/
def openedName (content : Bytes) : Bytes := content.takeWhile (!isSpace ·)

/-- A start tag, given what stands in it without a slash at its end. -/
def element (content : Bytes) (empty : Bool) : Except Malformed Element := do
  let found ← attributes (content.dropWhile (!isSpace ·))
  return ⟨Text.utf8Lossy (localName (openedName content)), found, empty⟩

/-- The tokens of segments inside the elements `opened`, the innermost one first. -/
def ofSegments (opened : List Bytes) : List Segment → List Token
  | [] => []
  | .text content :: rest =>
    match text? content with
    | some s => .text s :: ofSegments opened rest
    | none => [.malformed .markup]
  | .characterData content :: rest =>
    match characterData? content with
    | some s => .text s :: ofSegments opened rest
    | none => [.malformed .markup]
  | .comment content :: rest =>
    if beginsWith "--" content then ofSegments opened rest else [.malformed .markup]
  | .documentType content :: rest =>
    if namesDocumentType content then ofSegments opened rest else [.malformed .markup]
  | .instruction content :: rest =>
    if 2 ≤ content.length then ofSegments opened rest else [.malformed .markup]
  | .tag content :: rest =>
    if content.head? = some (ascii '/') then
      match opened with
      | name :: outer =>
        if closedName content.tail = name then .close :: ofSegments outer rest
        else [.malformed .markup]
      | [] => [.malformed .markup]
    else
      let (content, empty) := withoutSlash content
      match element content empty with
      | .ok el =>
        .start el :: ofSegments (if empty then opened else openedName content :: opened) rest
      | .error fault => [.malformed fault]
  | .broken :: _ => [.malformed .markup]

end Token

/-- The tokens of a document. -/
def tokens (document : Bytes) : List Token := Token.ofSegments [] (segments document)

end Cityscape.Markup
