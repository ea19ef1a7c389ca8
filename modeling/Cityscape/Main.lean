import Cityscape.CommandLine.Session
import Cityscape.Random.ChaCha

/-!
# The program

Reads the command line, runs the session it asks for, prints what the session printed, and exits
with its code. A run without a seed takes one from the system.
-/

namespace Cityscape

open CommandLine

/-- A seed from the system's random bytes. -/
def systemSeed : IO UInt64 := do
  let bytes ← IO.getRandomBytes 8
  return bytes.toList.foldl (fun seed b => seed * 256 + b.toUInt64) 0

/-- The bytes of a file, or why it cannot be opened. -/
def fileBytes (path : String) : IO (Except String Markup.Bytes) := do
  match ← (IO.FS.readBinFile path).toBaseIO with
  | .ok bytes => return .ok bytes.toList
  | .error (.noFileOrDirectory ..) => return .error missingFile
  | .error e => return .error (toString e)

/-- Runs the program on the words of its command line. -/
def runProgram (words : List String) : IO UInt32 := do
  match Options.ofWords words with
  | .error e =>
    IO.eprintln s!"error: {e.message}"
    return usageExitCode.toUInt32
  | .ok o =>
    let seed ← match o.seed with
      | some seed => pure seed.toUInt64
      | none => systemSeed
    let document ← match o.tiles with
      | some path => fileBytes path
      | none => pure (.ok [])
    let transcript := session o (Random.KeyStream.ofSeed seed) fun _ => document
    IO.print transcript.text
    if let .failed message := transcript.ending then IO.eprintln message
    return transcript.ending.exitCode.toUInt32

end Cityscape

/-- The program's entry point. -/
def main (words : List String) : IO UInt32 := Cityscape.runProgram words
