/-
  SyncFleet/Utility/Text/Version.lean
  ===================================
  **The order of names with numbers in them.**

  Runs of digits count as numbers, and what stands behind the last points, such
  as a kind of file, only counts if all else is equal.
-/
import SyncFleet.Unix.Bytes

namespace SyncFleet.Utility.Text

open Unix

/-- Where a byte stands among others that are no digits; a tilde stands even before the end. -/
def versionRank : Bytes → Int
  | [] => -1
  | c :: _ =>
    if c.isDigit then 0
    else if c.isAlpha then c.toNat
    else if c = '~' then -2
    else c.toNat + 256

/-- The order of integers. -/
def compareInt (a b : Int) : Ordering := if a < b then .lt else if b < a then .gt else .eq

/-- The order of two texts of which runs of digits count as numbers, in at most `fuel` steps. -/
def compareRuns : Nat → Bytes → Bytes → Ordering
  | 0, _, _ => .eq
  | _, [], [] => .eq
  | fuel + 1, a, b =>
    let stands := fun (text : Bytes) => text.head?.any (!·.isDigit)
    if stands a || stands b then
      match compareInt (versionRank a) (versionRank b) with
      | .eq => compareRuns fuel (a.drop 1) (b.drop 1)
      | o => o
    else
      let (m, _, a) := digitsAt 10 a
      let (n, _, b) := digitsAt 10 b
      if m < n then .lt else if n < m then .gt else compareRuns fuel a b

/-- Whether a text is a row of points, each with a letter and letters and digits behind it. -/
def isEnding : Nat → Bytes → Bool
  | 0, _ => false
  | _, [] => true
  | fuel + 1, '.' :: c :: rest =>
    (c.isAlpha || c == '~') && isEnding fuel (rest.dropWhile fun c => c.isAlphanum || c == '~')
  | _, _ => false

/-- How much of a name stands before its ending. -/
def stemLength (name : Bytes) : Nat :=
  ((List.range name.length).find? fun i =>
    0 < i && isEnding (name.length + 1) (name.drop i)).getD name.length

/-- The order of two names with numbers in them.  Names that begin with a point come first. -/
def compareVersions (a b : Bytes) : Ordering :=
  let rank := fun (text : Bytes) =>
    match text with
    | [] => 0
    | ['.'] => 1
    | ['.', '.'] => 2
    | '.' :: _ => 3
    | _ => 4
  if rank a < rank b then .lt
  else if rank b < rank a then .gt
  else
    let fuel := a.length + b.length + 1
    match compareRuns fuel (a.take (stemLength a)) (b.take (stemLength b)) with
    | .eq => compareRuns fuel a b
    | o => o

end SyncFleet.Utility.Text
