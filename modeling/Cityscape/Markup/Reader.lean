import Cityscape.Markup.Resolver
import Cityscape.Markup.Token
import Cityscape.TileSet

/-!
# Reading tile images

A reader takes the tokens of a document one by one and builds tile images from the inside out. It
keeps the innermost open element (`Focus`) and, around it, the places that wait for an image
(`Place`), so a finished image goes straight where it belongs. Elements that have no meaning where
they stand are skipped with all they hold. Reading stops behind the root element; what follows it is
left over.
-/

namespace Cityscape.Markup

/-- What a document is read for: one tile image, or a set of named ones. -/
inductive Goal where
  | image
  | tileSet
deriving Repr, DecidableEq

/-- What reading a document yields. -/
abbrev Goal.Result : Goal → Type
  | image => TileImage
  | tileSet => TileSet

/-- The elements that describe tile images. -/
inductive Descriptor where
  | image | animation | switch | layers
deriving Repr, DecidableEq

/-- The descriptor with a tag. -/
def Descriptor.ofTag? (tag : String) : Option Descriptor :=
  if tag = "image" then some .image
  else if tag = "animation" ∨ tag = "micropolis-animation" then some .animation
  else if tag = "switch" then some .switch
  else if tag = "layered-image" then some .layers
  else none

/-- What has been read of a switch: its cases in order, and its last default. -/
structure SwitchDraft where
  cases : List (Case TileImage)
  default : Option TileImage

/-- What has been read of an animation: its tag, and its frames in order. -/
structure AnimationDraft where
  tag : String
  frames : List (Frame TileImage)

/-- An open element that takes images, with everything open around it. Where only one image can
stand, `found` is the last one read. -/
inductive Place : Goal → Type where
  /-- The document itself, before its root element. -/
  | document : Place .image
  | layers {g : Goal} (below : Option TileImage) (around : Place g) : Place g
  | case {g : Goal} (condition : Condition) (found : Option TileImage) (draft : SwitchDraft)
      (around : Place g) : Place g
  | default {g : Goal} (found : Option TileImage) (draft : SwitchDraft) (around : Place g) :
      Place g
  | frame {g : Goal} (duration : Nat) (found : Option TileImage) (text : String)
      (draft : AnimationDraft) (around : Place g) : Place g
  | tile (name : String) (found : Option TileImage) (set : TileSet) : Place .tileSet

/-- The innermost open element that is not skipped. -/
inductive Focus : Goal → Type where
  | holding {g : Goal} (place : Place g) : Focus g
  /-- An image element, whose content is skipped, with the image it describes. -/
  | sprite {g : Goal} (image : TileImage) (around : Place g) : Focus g
  | switch {g : Goal} (draft : SwitchDraft) (around : Place g) : Focus g
  | animation {g : Goal} (draft : AnimationDraft) (around : Place g) : Focus g
  /-- A document of tiles, before its root element. -/
  | prologue : Focus .tileSet
  | tileSet (set : TileSet) : Focus .tileSet

/-- Where reading stands behind a token: in an element, or at the end of the root element. -/
inductive Outcome (g : Goal) where
  | inside (focus : Focus g)
  | done (result : g.Result)

/-- The number of ticks of a frame that does not say how long it is shown. -/
def defaultDuration : Nat := 1

/-- The value of an attribute that is an integer within bounds, or a default without it. -/
def Element.natural (el : Element) (bounds : Bounds) (key : String) (default : Nat) :
    Except LoadError Nat :=
  match el.value? key with
  | none => .ok default
  | some value =>
    match Text.integer? bounds (Text.trimChars value.toList) with
    | some n => .ok n.toNat
    | none => .error (.invalidInteger el.name key value)

/-- The shift of the crop window that an image element asks for. -/
def Element.shift (el : Element) : Except LoadError (Int × Int) :=
  match el.value? "at" with
  | none => .ok (0, 0)
  | some value =>
    match Text.pair? Bounds.int32 value.toList with
    | some shift => .ok shift
    | none => .error (.invalidAt el.name value)

/-- The sprite that an image element describes. -/
def Element.sprite (resolver : Resolver) (el : Element) : Except LoadError TileImage := do
  let sheet ← match el.value? "src" with
    | some name => resolver.named name
    | none => resolver.default
  let (x, y) ← el.shift
  let north ← el.natural Bounds.uint32 "overlap-north" 0
  let east ← el.natural Bounds.uint32 "overlap-east" 0
  return .sprite ⟨x, y, north, east⟩ sheet

/-- A condition on one more side, if the element has one, joined to those before it. -/
def Element.addCondition (el : Element) (before : Option Condition) (side : Side) :
    Except LoadError (Option Condition) :=
  match el.value? side.attributeName with
  | none => .ok before
  | some value =>
    match TileSpec.read value with
    | .error word => .error (.invalidCondition side.attributeName value word)
    | .ok spec =>
      match before with
      | none => .ok (some (.tile side spec))
      | some before => .ok (some (before.conj (.tile side spec)))

/-- The conjunction of all conditions of a case element. -/
def Element.condition (el : Element) : Except LoadError Condition := do
  match ← Side.all.foldlM el.addCondition none with
  | some condition => return condition
  | none => throw .missingCondition

variable {g : Goal}

/-- Puts a finished image in its place. -/
def Place.receive : {g : Goal} → Place g → TileImage → Except LoadError (Outcome g)
  | _, .document, image => .ok (.done image)
  | _, .layers none around, image => .ok (.inside (.holding (.layers (some image) around)))
  | _, .layers (some below) around, image =>
    match TileImage.layer? below image with
    | .ok layered => .ok (.inside (.holding (.layers (some layered) around)))
    | .error cause => .error (.compose "layered-image" cause)
  | _, .case condition _ draft around, image =>
    .ok (.inside (.holding (.case condition (some image) draft around)))
  | _, .default _ draft around, image =>
    .ok (.inside (.holding (.default (some image) draft around)))
  | _, .frame duration _ text draft around, image =>
    .ok (.inside (.holding (.frame duration (some image) text draft around)))
  | _, .tile name _ set, image => .ok (.inside (.holding (.tile name (some image) set)))

/-- The image of a frame: one that it holds, or else the one that its text describes. -/
def frameImage (resolver : Resolver) (found : Option TileImage) (text : String) :
    Except LoadError TileImage :=
  match found with
  | some image => .ok image
  | none =>
    if Text.isBlankText text then .error (.missingImage "frame")
    else resolver.frameSpec (Text.trim text)

/-- Ends an element that takes images. -/
def Place.close (resolver : Resolver) : {g : Goal} → Place g → Except LoadError (Outcome g)
  | _, .document => .error .unexpectedEnd
  | _, .layers (some image) around => around.receive image
  | _, .layers none _ => .error .emptyLayer
  | _, .case condition (some image) draft around =>
    .ok (.inside (.switch { draft with cases := draft.cases ++ [⟨condition, image⟩] } around))
  | _, .case _ none _ _ => .error (.missingImage "case")
  | _, .default (some image) draft around =>
    .ok (.inside (.switch { draft with default := some image } around))
  | _, .default none _ _ => .error (.missingImage "default")
  | _, .frame duration found text draft around => do
    let image ← frameImage resolver found text
    return .inside (.animation
      { draft with frames := draft.frames ++ [Frame.lasting duration image] } around)
  | _, .tile name (some image) set => .ok (.inside (.tileSet (set.insert name image)))
  | _, .tile _ none _ => .error (.missingImage "tile")

/-- The switch that has been read, once it has a default. -/
def SwitchDraft.finish (draft : SwitchDraft) : Except LoadError TileImage :=
  match draft.default with
  | none => .error .missingDefault
  | some default => (TileImage.switchOr? draft.cases default).mapError (.compose "switch")

/-- The animation that has been read, once it has a frame. -/
def AnimationDraft.finish (draft : AnimationDraft) : Except LoadError TileImage :=
  if draft.frames.isEmpty then .error .emptyAnimation
  else (TileImage.animation? draft.frames).mapError (.compose draft.tag)

/-- Ends the innermost open element. -/
def Focus.close (resolver : Resolver) : {g : Goal} → Focus g → Except LoadError (Outcome g)
  | _, .holding place => place.close resolver
  | _, .sprite image around => around.receive image
  | _, .switch draft around => do around.receive (← draft.finish)
  | _, .animation draft around => do around.receive (← draft.finish)
  | _, .prologue => .error .unexpectedEnd
  | _, .tileSet set => .ok (.done set)

/-- Begins an element that describes an image. -/
def Descriptor.begin (resolver : Resolver) (el : Element) (around : Place g) :
    Descriptor → Except LoadError (Focus g)
  | .image => do return .sprite (← el.sprite resolver) around
  | .animation => .ok (.animation ⟨el.name, []⟩ around)
  | .switch => .ok (.switch ⟨[], none⟩ around)
  | .layers => .ok (.holding (.layers none around))

/-- Begins an element in a place for images; `none` if it has no meaning there. The root element of
a document has to describe an image. -/
def Place.enter (resolver : Resolver) (place : Place g) (el : Element) :
    Except LoadError (Option (Focus g)) :=
  match Descriptor.ofTag? el.name with
  | some descriptor => do return some (← descriptor.begin resolver el place)
  | none =>
    match place with
    | .document => .error (.unknownTag el.name)
    | _ => .ok none

/-- Begins an element inside another one; `none` if it has no meaning there. -/
def Focus.enter (resolver : Resolver) : {g : Goal} → Focus g → Element →
    Except LoadError (Option (Focus g))
  | _, .holding place, el => place.enter resolver el
  | _, .sprite _ _, _ => .ok none
  | _, .switch draft around, el =>
    if el.name = "case" then do return some (.holding (.case (← el.condition) none draft around))
    else if el.name = "default" then .ok (some (.holding (.default none draft around)))
    else .ok none
  | _, .animation draft around, el =>
    if el.name = "frame" then do
      let duration ← el.natural Bounds.uint64 "duration" defaultDuration
      return some (.holding (.frame duration none "" draft around))
    else .ok none
  | _, .prologue, _ => .ok (some (.tileSet .empty))
  | _, .tileSet set, el =>
    if el.name = "tile" then
      match el.value? "name" with
      | some name => .ok (some (.holding (.tile name none set)))
      | none => .error (.missingAttribute "tile" "name")
    else .ok none

/-- Text counts in a frame only. -/
def Focus.addText : {g : Goal} → Focus g → String → Focus g
  | _, .holding (.frame duration found text draft around), more =>
    .holding (.frame duration found (text ++ more) draft around)
  | _, focus, _ => focus

/-- Where a reader stands: in an element, and in this many skipped elements inside it. -/
structure Position (g : Goal) where
  focus : Focus g
  skipped : Nat

/-- What a token leads to: another position, or the result. -/
inductive Progress (g : Goal) where
  | reading (position : Position g)
  | done (result : g.Result)

/-- The progress behind an outcome, with nothing skipped. -/
def Outcome.progress : Outcome g → Progress g
  | .inside focus => .reading ⟨focus, 0⟩
  | .done result => .done result

/-- Begins an element where nothing is skipped. -/
def Focus.start (resolver : Resolver) (focus : Focus g) (el : Element) :
    Except LoadError (Progress g) := do
  match ← focus.enter resolver el with
  | some inner =>
    if el.empty then return (← inner.close resolver).progress else return .reading ⟨inner, 0⟩
  | none => return .reading ⟨focus, if el.empty then 0 else 1⟩

/-- Reads one token. -/
def Position.step (resolver : Resolver) (p : Position g) : Token → Except LoadError (Progress g)
  | .malformed fault => .error (.malformed fault)
  | .text content =>
    if p.skipped = 0 then .ok (.reading { p with focus := p.focus.addText content })
    else .ok (.reading p)
  | .start el =>
    if p.skipped = 0 then p.focus.start resolver el
    else .ok (.reading { p with skipped := if el.empty then p.skipped else p.skipped + 1 })
  | .close =>
    match p.skipped with
    | 0 => do return (← p.focus.close resolver).progress
    | outer + 1 => .ok (.reading { p with skipped := outer })

/-- Reads up to the end of the root element: the result, and the tokens behind it. -/
def Position.read (resolver : Resolver) (p : Position g) :
    List Token → Except LoadError (g.Result × List Token)
  | [] => .error .unexpectedEnd
  | token :: rest =>
    match p.step resolver token with
    | .error e => .error e
    | .ok (.done result) => .ok (result, rest)
    | .ok (.reading next) => next.read resolver rest

/-- The tile image that the root element of a document describes. -/
def readImage (resolver : Resolver) (document : List Token) : Except LoadError TileImage :=
  (Position.read resolver ⟨.holding .document, 0⟩ document).map (·.1)

/-- The tiles that the root element of a document holds. -/
def readTileSet (resolver : Resolver) (document : List Token) : Except LoadError TileSet :=
  (Position.read resolver ⟨.prologue, 0⟩ document).map (·.1)

end Cityscape.Markup
