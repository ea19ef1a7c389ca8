/-!
# Segments of a document

A document is cut into markup, which stands between `<` and `>`, and the text between markup. The
scanner reads one byte at a time; what it is inside of is its `Mode`. In a tag, quotes protect `>`;
comments, character data and document types have their own ends.
-/

namespace Cityscape.Markup

/-- Bytes of a document. -/
abbrev Bytes := List UInt8

/-- The four bytes that separate what stands in a document: space, tab, line feed, return. -/
def isSpace (b : UInt8) : Bool := b == 32 || b == 9 || b == 10 || b == 13

/-- The byte of an ASCII character. -/
def ascii (c : Char) : UInt8 := c.toUInt8

/-- The bytes of an ASCII text. -/
def asciiBytes (s : String) : Bytes := s.toList.map ascii

/-- A piece of a document, without the `<` and `>` of markup. -/
inductive Segment where
  /-- Text between markup, without the space at its ends. -/
  | text (content : Bytes)
  /-- A start tag, an end tag, or a tag that is both. -/
  | tag (content : Bytes)
  /-- A processing instruction or the declaration of the document, from `?` to `?`. -/
  | instruction (content : Bytes)
  /-- A comment, from the first `-` to the last. -/
  | comment (content : Bytes)
  /-- Character data, from `[` to `]]`. -/
  | characterData (content : Bytes)
  /-- A document type, from its keyword on. -/
  | documentType (content : Bytes)
  /-- Markup that the document ends inside of, or that has no known kind. -/
  | broken
deriving Repr, DecidableEq

/-- What the scanner is inside of. -/
inductive Mode where
  | text
  /-- Behind `<`. -/
  | opened
  /-- In a tag, and in a quote there if one is open. -/
  | tag (quote : Option UInt8)
  | instruction
  /-- Behind `<!`. -/
  | declared
  | comment
  | characterData
  /-- In a document type, with this many `<` open inside it. -/
  | documentType (depth : Nat)
deriving Repr, DecidableEq

/-- The quote that is open behind a byte of a tag. -/
def quoteAfter (quote : Option UInt8) (b : UInt8) : Option UInt8 :=
  match quote with
  | some q => if b = q then none else some q
  | none => if b = ascii '\x22' || b = ascii '\x27' then some b else none

/-- The text segment for bytes in reverse order; none if there is only space. -/
def textSegment (reversed : Bytes) : List Segment :=
  match (reversed.dropWhile isSpace).reverse.dropWhile isSpace with
  | [] => []
  | content => [.text content]

/-- Whether a comment can end behind these bytes, in reverse order: it ends in `--` and these two
are not the ones it begins with. -/
def endsComment : Bytes → Bool
  | a :: b :: _ :: _ :: _ => a == ascii '-' && b == ascii '-'
  | _ => false

/-- Whether character data can end behind these bytes, in reverse order. -/
def endsCharacterData : Bytes → Bool
  | a :: b :: _ => a == ascii ']' && b == ascii ']'
  | _ => false

/-- Whether an instruction can end behind these bytes, in reverse order. -/
def endsInstruction : Bytes → Bool
  | a :: _ => a == ascii '?'
  | [] => false

/-- The segments of a document from inside one of them on, of which the bytes `seen` have been read,
in reverse order. Nothing is read behind a broken segment. -/
def scan : Mode → Bytes → Bytes → List Segment
  | .text, seen, [] => textSegment seen
  | _, _, [] => [.broken]
  | .text, seen, b :: rest =>
    if b = ascii '<' then textSegment seen ++ scan .opened [] rest else scan .text (b :: seen) rest
  | .opened, _, b :: rest =>
    if b = ascii '!' then scan .declared [] rest
    else if b = ascii '?' then scan .instruction [b] rest
    else if b = ascii '>' then .tag [] :: scan .text [] rest
    else scan (.tag (quoteAfter none b)) [b] rest
  | .tag quote, seen, b :: rest =>
    if quote = none && b = ascii '>' then .tag seen.reverse :: scan .text [] rest
    else scan (.tag (quoteAfter quote b)) (b :: seen) rest
  | .instruction, seen, b :: rest =>
    if b = ascii '>' && endsInstruction seen then
      .instruction seen.reverse :: scan .text [] rest
    else scan .instruction (b :: seen) rest
  | .declared, _, b :: rest =>
    if b = ascii '-' then scan .comment [b] rest
    else if b = ascii '[' then scan .characterData [b] rest
    else if b = ascii 'D' || b = ascii 'd' then scan (.documentType 0) [b] rest
    else [.broken]
  | .comment, seen, b :: rest =>
    if b = ascii '>' && endsComment seen then .comment seen.reverse :: scan .text [] rest
    else scan .comment (b :: seen) rest
  | .characterData, seen, b :: rest =>
    if b = ascii '>' && endsCharacterData seen then
      .characterData seen.reverse :: scan .text [] rest
    else scan .characterData (b :: seen) rest
  | .documentType depth, seen, b :: rest =>
    if b = ascii '>' then
      match depth with
      | 0 => .documentType seen.reverse :: scan .text [] rest
      | outer + 1 => scan (.documentType outer) (b :: seen) rest
    else if b = ascii '<' then scan (.documentType (depth + 1)) (b :: seen) rest
    else scan (.documentType depth) (b :: seen) rest

/-- The document without the byte order mark that it may begin with. -/
def withoutMark : Bytes → Bytes
  | 0xEF :: 0xBB :: 0xBF :: rest => rest
  | document => document

/-- The segments of a document. -/
def segments (document : Bytes) : List Segment := scan .text [] (withoutMark document)

end Cityscape.Markup
