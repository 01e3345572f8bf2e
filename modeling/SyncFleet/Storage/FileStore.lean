/-
  SyncFleet/Storage/FileStore.lean
  ================================
  **Keeping the checkpoint in a file.**

  A save writes a temporary file beside the checkpoint, flushes it and renames
  it over the checkpoint, so a reader meets either the old checkpoint or the
  whole new one.  The save is a list of file steps; `states` are the file
  systems that a crash could leave behind.
-/
import SyncFleet.Checkpoint.Codec
import SyncFleet.Storage.FileSystem

namespace SyncFleet.Storage

/-- Why a checkpoint could not be loaded or saved. -/
inductive StoreFault where
  /-- no checkpoint has been saved yet -/
  | notFound (location : String)
  /-- a file operation failed -/
  | io (fault : FileFault)
  /-- the text is no checkpoint -/
  | malformed (reason : String)
deriving DecidableEq, Repr

/-- The wording of a fault. -/
def StoreFault.message : StoreFault → String
  | .notFound location => "checkpoint not found: " ++ location
  | .io fault => "checkpoint I/O error: " ++ fault.message
  | .malformed reason => "serialization error: " ++ reason

/-- The name of a checkpoint's temporary file (`temp_path`). -/
def temporaryName (name : String) : String := name ++ ".tmp"

/-- The path of a checkpoint's temporary file, in the same directory; inside of it if the path
    asks for a directory. -/
def temporary (p : Path) : Path :=
  match p.endsInSlash, p.names.getLast? with
  | false, some name => ⟨p.names.dropLast ++ [temporaryName name], false⟩
  | _, _ => ⟨p.names ++ [temporaryName ""], false⟩

/-- One step of a save. -/
inductive SaveStep where
  /-- make the temporary file, or empty it -/
  | create
  /-- append to the temporary file, which is open -/
  | write (bytes : ByteArray)
  /-- wait until the temporary file is on disk -/
  | flush
  /-- put the temporary file in the checkpoint's place -/
  | rename

/-- The effect of a step of saving the checkpoint at a path (`save`). -/
def SaveStep.run (p : Path) (fs : FileSystem) : SaveStep → Except FileFault FileSystem
  | .create => fs.create (temporary p)
  | .write bytes => fs.extend (temporary p).place bytes
  | .flush => .ok fs
  | .rename => fs.rename (temporary p) p

/-- The steps of saving a text that is written in pieces. -/
def saveSteps (pieces : List ByteArray) : List SaveStep :=
  .create :: pieces.map .write ++ [.flush, .rename]

/-- Run steps until one fails: the fault if there was one, and the file system that is left. -/
def runSteps (p : Path) (fs : FileSystem) : List SaveStep → Except FileFault Unit × FileSystem
  | [] => (.ok (), fs)
  | s :: rest =>
    match s.run p fs with
    | .error fault => (.error fault, fs)
    | .ok fs => runSteps p fs rest

/-- The file systems that running steps passes through, the first and the last included. -/
def states (p : Path) (fs : FileSystem) : List SaveStep → List FileSystem
  | [] => [fs]
  | s :: rest =>
    match s.run p fs with
    | .error _ => [fs]
    | .ok after => fs :: states p after rest

/-- Save a checkpoint at a path. -/
def save (p : Path) (fs : FileSystem) (c : Checkpoint) : Except StoreFault Unit × FileSystem :=
  let (outcome, fs) := runSteps p fs (saveSteps [c.encode.toUTF8])
  (outcome.mapError .io, fs)

/-- Load the checkpoint at a path. -/
def load (p : Path) (fs : FileSystem) : Except StoreFault Checkpoint :=
  match fs.read p with
  | .error .notFound => .error (.notFound p.text)
  | .error fault => .error (.io fault)
  | .ok bytes =>
    match Checkpoint.decodeBytes? bytes with
    | some c => .ok c
    | none => .error (.malformed "the text is no checkpoint")

end SyncFleet.Storage
