import Cityscape.City.Layout
import Cityscape.City.Report
import Cityscape.CommandLine.Options
import Cityscape.Markup.Reader
import Cityscape.Sheets
import Cityscape.TileImage.Enumerate
import Cityscape.TileImage.NormalForm

/-!
# Sessions

What the program prints: the course of a generated city, or the variants of every tile in a
document. A session is a pure function of the options, of the words of a random source, and of the
documents it can read.
-/

namespace Cityscape.CommandLine

/-- How a session ends. -/
inductive Ending where
  | finished
  /-- An error was reported. -/
  | failed (message : String)
  /-- A result left its bounds. -/
  | aborted
deriving Repr, DecidableEq

/-- The exit code of the program. -/
def Ending.exitCode : Ending → Nat
  | finished => 0
  | failed _ => 1
  | aborted => 101

/-- The exit code for a command line that is not understood. -/
def usageExitCode : Nat := 2

/-- What a session prints, and how it ends. -/
structure Transcript where
  lines : List String
  ending : Ending
deriving Repr, DecidableEq

/-- The printed text. -/
def Transcript.text (t : Transcript) : String := String.join (t.lines.map (· ++ "\n"))

/-- The transcript with lines printed before it. -/
def Transcript.after (before : List String) (t : Transcript) : Transcript :=
  { t with lines := before ++ t.lines }

section
variable {σ : Type}

/-- The summary and the map of a city. -/
def stateLines (c : City σ) : List String := c.summary ++ c.map

/-- What is printed about one tick. -/
def tickLines (verbose : Bool) (c : City σ) : List String :=
  if verbose then s!"--- After tick {c.time} ---" :: c.map else []

/-- What is printed from a number of ticks before the end on. -/
def ticksTranscript [Random.Source σ] (verbose : Bool) : Nat → City σ → List (List String) →
    Transcript
  | 0, c, printed => ⟨printed.reverse.flatten ++ "=== Final State ===" :: stateLines c, .finished⟩
  | n + 1, c, printed =>
    match c.tick? with
    | none => ⟨printed.reverse.flatten, .aborted⟩
    | some tick => ticksTranscript verbose n tick.city (tickLines verbose tick.city :: printed)

/-- The session that runs a generated city. -/
def simulate [Random.Source σ] (o : Options) (source : σ) : Transcript :=
  let opening :=
    ["Running traffic routing in headless mode...",
     s!"Ticks: {o.ticks}, Grid: {o.width}x{o.height}", ""]
  match City.generate? o.width o.height source with
  | none => ⟨opening, .aborted⟩
  | some city =>
    let city := (city.withBudget o.budget).withTripDelta o.tripDelta
    (ticksTranscript o.verbose o.ticks city []).after
      (opening ++ "Initial state:" :: stateLines city ++ [""])

end

/-- The number of cells along the sheet that stands in for all others. -/
def placeholderCells : Nat := 64

/-- A sheet of cells in two shades, in place of sheets that are not at hand. -/
def placeholderSheet : Image.Raster :=
  let side := placeholderCells * Image.unitsPerCell
  .generate side side fun x y =>
    if (x / Image.unitsPerCell + y / Image.unitsPerCell) % 2 = 0 then ⟨200, 200, 200, 255⟩
    else ⟨60, 60, 60, 255⟩

/-- Sheets that know every name. -/
def placeholderSheets : Sheets :=
  { Sheets.ofBasis Image.unitsPerCell with fallback := some placeholderSheet }

/-- What is printed about a tile: its measures, and the condition of each of its variants. -/
def tileLines? (name : String) (image : TileImage) : Option (List String) := do
  let normal := image.normalForm
  let variants := normal.variants.toArray.toList
  let bounds ← normal.bounds?
  let note := if normal.isAnimated then ", animated" else ""
  return (name ++ ": size " ++ normal.size.render ++ ", bounds " ++ bounds.render ++ ", "
      ++ toString variants.length ++ " variant(s)" ++ note)
    :: variants.map fun v => "    when " ++ v.condition.render

/-- What is printed about the tiles of a set. -/
def entriesTranscript : List (String × TileImage) → List (List String) → Transcript
  | [], printed => ⟨printed.reverse.flatten, .finished⟩
  | (name, image) :: rest, printed =>
    match tileLines? name image with
    | none => ⟨printed.reverse.flatten, .aborted⟩
    | some lines => entriesTranscript rest (lines :: printed)

/-- The report of an error, with the error that lies behind it. -/
def loadFailure (path : String) (e : Markup.LoadError) : String :=
  let report := "Error: reading tile images from " ++ path ++ ": " ++ e.message
  match e.cause? with
  | some cause => report ++ ": " ++ cause
  | none => report

/-- Why a file that does not exist cannot be opened. -/
def missingFile : String := "No such file or directory (os error 2)"

/-- The session that lists the tiles of a document, given how files are read. -/
def listTiles (readFile : String → Except String Markup.Bytes) (path : String) : Transcript :=
  match readFile path with
  | .error reason => ⟨[], .failed ("Error: opening " ++ path ++ ": " ++ reason)⟩
  | .ok document =>
    match Markup.readTileSet placeholderSheets.resolver (Markup.tokens document) with
    | .error e => ⟨[], .failed (loadFailure path e)⟩
    | .ok set => entriesTranscript set.entries []

/-- The session that options ask for. -/
def session {σ : Type} [Random.Source σ] (o : Options) (source : σ)
    (readFile : String → Except String Markup.Bytes) : Transcript :=
  match o.tiles with
  | some path => listTiles readFile path
  | none => simulate o source

end Cityscape.CommandLine
