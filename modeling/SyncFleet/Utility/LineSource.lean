/-
  SyncFleet/Utility/LineSource.lean
  =================================
  **Files that are read line by line, side by side.**
-/
import SyncFleet.Utility.Tool

namespace SyncFleet.Utility

open Unix Tool

/-- An open file of which one line after the other is read. -/
structure LineSource where
  name : Bytes
  descriptor : Nat
  /-- lines that have been read, and the bytes of the next one in reverse -/
  lines : List Bytes
  left : Bytes
  isOver : Bool

namespace LineSource

/-- Open a file. -/
def ofFile (name : Bytes) : Tool LineSource := do
  if name = ['-'] then return ⟨name, 0, [], [], false⟩
  match ← sys (Sys.openFile name .toRead 0) with
  | .ok n => return ⟨name, n, [], [], false⟩
  | .error e => dieOf (shown name) e

/-- Read on until there is a line, in at most `fuel` pieces. -/
def fill (stop : Char) : Nat → LineSource → Tool LineSource
  | 0, s => return s
  | fuel + 1, s => do
    if !s.lines.isEmpty || s.isOver then return s
    let piece ← readPiece s.name s.descriptor
    if piece.isEmpty then
      return { s with
        isOver := true, left := [], lines := if s.left.isEmpty then [] else [s.left.reverse] }
    let (lines, left) := cutPiece stop s.left piece
    fill stop fuel { s with lines, left }

/-- The next line. -/
def next (stop : Char) (s : LineSource) : Tool (Option Bytes × LineSource) := do
  let s ← fill stop mostPieces s
  match s.lines with
  | line :: lines => return (some line, { s with lines })
  | [] => return (none, s)

end LineSource

/-- The next lines of some files, of which those with the same name share one. -/
def nextLines (stop : Char) : List LineSource → List LineSource →
    Tool (List (Option Bytes) × List LineSource)
  | [], done => return ([], done.reverse)
  | s :: rest, done => do
    let shared := done.find? fun d => d.descriptor = s.descriptor
    let (line, s) ← LineSource.next stop (shared.getD s)
    let done := done.map fun d => if d.descriptor = s.descriptor then s else d
    let (lines, all) ← nextLines stop rest (s :: done)
    return (line :: lines, all)

end SyncFleet.Utility
