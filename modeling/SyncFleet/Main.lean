/-
  SyncFleet/Main.lean
  ===================
  **The program.**

  Reads the configuration file that the command line names and shows what the
  invocation comes to.  There is no network here, so that a fleet cannot be
  served.
-/
import SyncFleet.CommandLine.Outcome
import SyncFleet.Shell.Machine

namespace SyncFleet.CommandLine

/-- What comes of reading a file. -/
def readFile (path : String) : IO (Except Storage.FileFault ByteArray) := do
  try
    return .ok (← IO.FS.readBinFile path)
  catch
    | .inappropriateType .. => return .error .isADirectory
    | _ => return .error .notFound

end SyncFleet.CommandLine

open SyncFleet SyncFleet.CommandLine

/-- Show what a command line comes to. -/
def main (words : List String) : IO UInt32 := do
  let file ← match Invocation.ofWords words with
    | .ok i => readFile i.config
    | .error _ => pure (.error .notFound)
  match outcomeOf (Shell.machine []) (fun _ => Config.ofFile file) words with
  | .exited code output =>
    IO.print output
    if code = 2 then IO.eprint Topic.program.usage
    return code.toUInt32
  | .serving _ address =>
    IO.eprintln ("cannot listen on " ++ address)
    return 1
