import Cityscape.Markup.Reader
import Mathlib.Tactic.Lemma

/-!
# The meaning of documents

A document is a tree of nodes, and `Node.tokens` writes a tree as tokens, every element closed
behind what it holds. What a node means is defined by recursion on the tree, without a reader: the
meaning of an element is a function of its start tag and of the meanings of the nodes inside it
(`Sense.of`).

An element has a meaning for each place that it can stand in, and none for the others. Where
something can fail, the meanings inside an element are taken in reading order, and the first failure
is the failure of the element (`collect`).
-/

namespace Cityscape.Markup

/-- What stands in a document: a text, or an element with all that it holds. An element without
content (`none`) is one self-closing tag. -/
inductive Node where
  | text (content : String)
  | element (name : String) (attributes : List Attribute) (content : Option (List Node))

namespace Node

mutual

/-- The tokens that write a node. -/
def tokens : Node → List Token
  | text content => [.text content]
  | element name attributes content =>
    .start ⟨name, attributes, content.isNone⟩ :: tokensBehind content

/-- The tokens of an element behind its start tag. -/
def tokensBehind : Option (List Node) → List Token
  | none => []
  | some content => tokensOf content ++ [.close]

/-- The tokens that write nodes one after another. -/
def tokensOf : List Node → List Token
  | [] => []
  | n :: others => tokens n ++ tokensOf others

end

/-- A property that every element takes over from the nodes it holds is true of all nodes. -/
theorem induction {P : Node → Prop} (onText : ∀ content, P (text content))
    (onElement : ∀ name attributes content, (∀ n ∈ content.getD [], P n) →
      P (element name attributes content))
    (n : Node) : P n := by
  refine @Node.rec P (fun content => ∀ n ∈ content.getD [], P n)
    (fun content => ∀ n ∈ content, P n) onText onElement ?_ ?_ ?_ ?_ n
  · exact fun _ h => absurd h List.not_mem_nil
  · exact fun _ h => h
  · exact fun _ h => absurd h List.not_mem_nil
  · intro n others hn hothers m hm
    rcases List.mem_cons.1 hm with rfl | hm
    · exact hn
    · exact hothers m hm

end Node

/-- What a switch is made of. -/
inductive Arm where
  | case (c : Case TileImage)
  | default (image : TileImage)

namespace Arm

/-- The case that an arm is. -/
def case? : Arm → Option (Case TileImage)
  | case c => some c
  | default _ => none

/-- The default image that an arm holds. -/
def default? : Arm → Option TileImage
  | case _ => none
  | default image => some image

end Arm

/-- What an element means in each of the places that it may stand in. -/
structure Sense where
  tag : String
  /-- Where an image is described. -/
  image : Option (Except LoadError TileImage)
  /-- In a switch. -/
  arm : Option (Except LoadError Arm)
  /-- In an animation. -/
  frame : Option (Except LoadError (Frame TileImage))
  /-- In a tile set. -/
  tile : Option (Except LoadError (String × TileImage))
  /-- As the root of a tile set. -/
  tiles : Except LoadError TileSet

/-- What a node means. -/
inductive Meaning where
  | text (content : String)
  | element (sense : Sense)

namespace Meaning

/-- The text, of a text. -/
def text? : Meaning → Option String
  | text content => some content
  | element _ => none

/-- What a sense is taken to say, of an element. -/
def sense? {α : Type} (part : Sense → Option α) : Meaning → Option α
  | text _ => none
  | element sense => part sense

end Meaning

section
variable {α : Type}

/-- What nodes say in one respect, in reading order, or else the first failure among them. -/
def collect (part : Sense → Option (Except LoadError α)) (content : List Meaning) :
    Except LoadError (List α) :=
  (content.filterMap (Meaning.sense? part)).mapM id

end

/-- The last image that nodes describe. -/
def lastImage (content : List Meaning) : Except LoadError (Option TileImage) := do
  return (← collect Sense.image content).getLast?

/-- The image of an element that holds one: the last one described in it. -/
def heldImage (tag : String) (content : List Meaning) : Except LoadError TileImage := do
  match ← lastImage content with
  | some image => return image
  | none => throw (.missingImage tag)

/-- An image over those before it, if there are any. -/
def stack (below : Option TileImage) (above : TileImage) : Except LoadError (Option TileImage) :=
  match below with
  | none => .ok (some above)
  | some below => ((TileImage.layer? below above).mapError (.compose "layered-image")).map some

/-- The images that nodes describe, each layered over those before it. -/
def layered (content : List Meaning) : Except LoadError TileImage := do
  let images := content.filterMap (Meaning.sense? Sense.image)
  match ← images.foldlM (fun below image => do stack below (← image)) none with
  | some image => return image
  | none => throw .emptyLayer

/-- The switch over the cases among nodes, in order, and the last default. -/
def switched (content : List Meaning) : Except LoadError TileImage := do
  let arms ← collect Sense.arm content
  match (arms.filterMap Arm.default?).getLast? with
  | some default =>
    (TileImage.switchOr? (arms.filterMap Arm.case?) default).mapError (.compose "switch")
  | none => throw .missingDefault

/-- The animation of the frames among nodes, in order. -/
def animated (tag : String) (content : List Meaning) : Except LoadError TileImage := do
  let frames ← collect Sense.frame content
  if frames.isEmpty then throw .emptyAnimation
  else (TileImage.animation? frames).mapError (.compose tag)

/-- The image of a frame: the last one described in it, or else the one that its own text
describes. -/
def frameContent (resolver : Resolver) (content : List Meaning) : Except LoadError TileImage := do
  frameImage resolver (← lastImage content) (String.join (content.filterMap Meaning.text?))

/-- The tiles among nodes by name; of two with one name, the last. -/
def tileSet (content : List Meaning) : Except LoadError TileSet := do
  return (← collect Sense.tile content).foldl (fun set tile => set.insert tile.1 tile.2) .empty

/-- The image that an element describes. -/
def describe (resolver : Resolver) (el : Element) (content : List Meaning) :
    Descriptor → Except LoadError TileImage
  | .image => el.sprite resolver
  | .animation => animated el.name content
  | .switch => switched content
  | .layers => layered content

/-- The sense of an element with a start tag, given the meanings of what it holds. -/
def Sense.of (resolver : Resolver) (el : Element) (content : List Meaning) : Sense where
  tag := el.name
  image := (Descriptor.ofTag? el.name).map (describe resolver el content)
  arm :=
    if el.name = "case" then some do
      let condition ← el.condition
      return .case ⟨condition, ← heldImage "case" content⟩
    else if el.name = "default" then some do return .default (← heldImage "default" content)
    else none
  frame :=
    if el.name = "frame" then some do
      let duration ← el.natural Bounds.uint64 "duration" defaultDuration
      return .lasting duration (← frameContent resolver content)
    else none
  tile :=
    if el.name = "tile" then some <|
      match el.value? "name" with
      | some name => do return (name, ← heldImage "tile" content)
      | none => throw (.missingAttribute "tile" "name")
    else none
  tiles := tileSet content

section
variable (resolver : Resolver)

mutual

/-- What a node means. -/
def Node.meaning : Node → Meaning
  | .text content => .text content
  | .element name attributes content =>
    .element (.of resolver ⟨name, attributes, content.isNone⟩ (meaningsIn content))

/-- What the nodes in an element mean. -/
def meaningsIn : Option (List Node) → List Meaning
  | none => []
  | some content => meaningsOf content

/-- What nodes mean, one by one. -/
def meaningsOf : List Node → List Meaning
  | [] => []
  | n :: others => n.meaning :: meaningsOf others

end

end

end Cityscape.Markup
