import Cityscape.City
import Cityscape.Text.Integer

/-!
# Command line options

The words of a command line as options. Each option stands once at most, as `--name value` or as
`--name=value`; a value that begins with a dash has to be attached in the second way. There are no
arguments besides options, and `--` may only end the line.
-/

namespace Cityscape.CommandLine

/-- What a run is asked to do. -/
structure Options where
  /-- The number of ticks to run. -/
  ticks : Nat
  /-- The seed for a run that can be repeated. -/
  seed : Option Nat
  width : Nat
  height : Nat
  /-- The cells that one route search may expand. -/
  budget : Nat
  tripDelta : Int
  /-- Whether the map is printed after every tick. -/
  verbose : Bool
  /-- The document of tiles to list instead of running a city. -/
  tiles : Option String
deriving Repr, DecidableEq

/-- The options when the command line says nothing. -/
def Options.default : Options where
  ticks := 200
  seed := none
  width := 32
  height := 24
  budget := Traffic.defaultBudget
  tripDelta := City.defaultTripDelta
  verbose := false
  tiles := none

/-- What is wrong with a command line. -/
inductive UsageError where
  | unexpected (word : String)
  | missingValue (name : String)
  | badValue (name value : String)
  | repeated (name : String)
deriving Repr, DecidableEq

/-- The text of a usage error. -/
def UsageError.message : UsageError → String
  | unexpected word => s!"unexpected argument '{word}'"
  | missingValue name => s!"option '--{name}' needs a value"
  | badValue name value => s!"invalid value '{value}' for option '--{name}'"
  | repeated name => s!"option '--{name}' is given more than once"

/-- The options that take a value. -/
def valueNames : List String :=
  ["ticks", "seed", "width", "height", "max-expansions", "trip-delta", "tiles"]

/-- An option and the value it is given. -/
abbrev Setting := String × Option String

/-- The name behind two dashes, and the value behind `=` if there is one. -/
def optionName? (word : String) : Option Setting :=
  match word.toList with
  | '-' :: '-' :: rest =>
    let (name, value) := Text.cutFirst '=' rest
    some (String.ofList name, value.map String.ofList)
  | _ => none

/-- Whether a word can be the value of the option before it: a dash may not begin it, but may be
all of it. -/
def isValue (word : String) : Bool :=
  match word.toList with
  | '-' :: _ :: _ => false
  | _ => true

/-- The options that words set, in order. -/
def settings : List String → Except UsageError (List Setting)
  | [] => .ok []
  | word :: rest =>
    if word = "--" then
      match rest with
      | [] => .ok []
      | next :: _ => .error (.unexpected next)
    else match optionName? word with
      | none => .error (.unexpected word)
      | some (name, attached) =>
        if name = "verbose" then
          match attached with
          | none => do return (name, none) :: (← settings rest)
          | some value => .error (.badValue name value)
        else if valueNames.contains name then
          match attached, rest with
          | some value, rest => do return (name, some value) :: (← settings rest)
          | none, value :: rest =>
            if isValue value then do return (name, some value) :: (← settings rest)
            else .error (.missingValue name)
          | none, [] => .error (.missingValue name)
        else .error (.unexpected word)

/-- The integer a value writes, between bounds. Lengths may also be written with a minus sign, as
long as they are zero. -/
def integer (bounds : Bounds) (name value : String) : Except UsageError Int :=
  match Text.integer? (if bounds = Bounds.uint32 then Bounds.int64 else bounds) value.toList with
  | some n => if bounds.Holds n then .ok n else .error (.badValue name value)
  | none => .error (.badValue name value)

/-- The options with one more setting. -/
def Options.apply (o : Options) (setting : Setting) : Except UsageError Options :=
  let value := setting.2.getD ""
  match setting.1 with
  | "verbose" => .ok { o with verbose := true }
  | "ticks" => do return { o with ticks := (← integer Bounds.uint32 "ticks" value).toNat }
  | "seed" => do return { o with seed := some (← integer Bounds.uint64 "seed" value).toNat }
  | "width" => do return { o with width := (← integer Bounds.uint32 "width" value).toNat }
  | "height" => do return { o with height := (← integer Bounds.uint32 "height" value).toNat }
  | "max-expansions" => do
    return { o with budget := (← integer Bounds.uint64 "max-expansions" value).toNat }
  | "trip-delta" => do return { o with tripDelta := ← integer Bounds.int32 "trip-delta" value }
  | "tiles" =>
    if value.isEmpty then .error (.badValue "tiles" value) else .ok { o with tiles := some value }
  | name => .error (.unexpected name)

/-- Refuses settings of which two have one name. -/
def checkRepeated : List Setting → Except UsageError Unit
  | [] => .ok ()
  | (name, _) :: rest =>
    if rest.any (·.1 == name) then .error (.repeated name) else checkRepeated rest

/-- The options that a command line asks for. -/
def Options.ofWords (words : List String) : Except UsageError Options := do
  let found ← settings words
  checkRepeated found
  found.foldlM Options.apply .default

end Cityscape.CommandLine
