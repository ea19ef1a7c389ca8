import Cityscape.Condition
import Cityscape.Markup.Attributes
import Cityscape.TileImage.Compose

/-!
# Errors of reading

Why a document does not describe a tile image or a tile set, with the text of each error.
-/

namespace Cityscape.Markup

/-- Why the short form of a frame does not describe an image. -/
inductive FrameSpecFault where
  /-- The offset behind `@` is not a pair of coordinates. -/
  | badOffset (coords : String)
  /-- The parts cannot be layered. -/
  | layers (cause : ComposeError)
  | noParts
deriving Repr, DecidableEq

/-- The text of a fault in a short form. -/
def FrameSpecFault.message : FrameSpecFault → String
  | badOffset coords => s!"bad offset \"{coords}\""
  | layers cause => cause.message
  | noParts => "no image parts"

/-- Why a document cannot be read. -/
inductive LoadError where
  | malformed (fault : Malformed)
  | invalidAt (tag value : String)
  | invalidInteger (tag key value : String)
  /-- The value of a condition names no tile; `word` is the value without its outer blanks. -/
  | invalidCondition (key value word : String)
  | missingCondition
  | missingAttribute (tag key : String)
  | missingDefault
  | emptyLayer
  | emptyAnimation
  | missingImage (tag : String)
  | unknownTag (tag : String)
  | imageNotFound (name : String)
  | noDefaultImage
  | invalidFrameSpec (spec : String) (fault : FrameSpecFault)
  | unexpectedEnd
  | compose (tag : String) (cause : ComposeError)
deriving Repr, DecidableEq

namespace LoadError

/-- The text of an error. -/
def message : LoadError → String
  | malformed .markup => "XML error"
  | malformed .attributes => "malformed attribute"
  | invalidAt tag value => s!"invalid 'at' syntax in <{tag}>: \"{value}\" (expected \"x,y\")"
  | invalidInteger tag key value => s!"invalid integer for '{key}' in <{tag}>: \"{value}\""
  | invalidCondition key value word =>
    s!"invalid condition {key}=\"{value}\": {TileSpec.complaint word}"
  | missingCondition => "<case> has no condition attribute"
  | missingAttribute tag key => s!"missing attribute '{key}' in <{tag}>"
  | missingDefault => "default case is required in switch image"
  | emptyLayer => "layer must have at least one image"
  | emptyAnimation => "animation must have at least one frame"
  | missingImage tag => s!"missing image descriptor in <{tag}>"
  | unknownTag tag => s!"unrecognized tag: <{tag}>"
  | imageNotFound name => s!"image source not found: {name}"
  | noDefaultImage => "no default image configured"
  | invalidFrameSpec spec fault => s!"invalid frame spec \"{spec}\": {fault.message}"
  | unexpectedEnd => "unexpected end of document"
  | compose tag cause => s!"in <{tag}>: {cause.message}"

/-- The text of the error that lies behind an error, if there is one. -/
def cause? : LoadError → Option String
  | compose _ cause => some cause.message
  | _ => none

end LoadError

end Cityscape.Markup
