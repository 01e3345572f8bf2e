/-
  SyncFleet/Text/Blank.lean
  =========================
  **Where a text is cut: at the blanks around it, and at its slashes.**

  Sizes, addresses and configuration values are trimmed before they are read.
  The class used there is the whole Unicode property `White_Space`, not the
  six ASCII blanks alone, so `"\u00a03 GB"` is a size as well.  The paths of
  requests and of files fall into parts between slashes.
-/

namespace SyncFleet.Text

/-- Whether a character has the Unicode property `White_Space`. -/
def isBlank (c : Char) : Bool :=
  let n := c.toNat
  (9 ≤ n && n ≤ 13) || n == 0x20 || n == 0x85 || n == 0xA0 || n == 0x1680
    || (0x2000 ≤ n && n ≤ 0x200A) || n == 0x2028 || n == 0x2029 || n == 0x202F
    || n == 0x205F || n == 0x3000

/-- A text without the blanks at its two ends. -/
def trim (cs : List Char) : List Char :=
  ((cs.dropWhile isBlank).reverse.dropWhile isBlank).reverse

/-- The lower-case form of an ASCII capital; any other character stays. -/
def lowerAscii (cs : List Char) : List Char := cs.map Char.toLower

/-- The parts of a text between its slashes. -/
def partsOf : List Char → List (List Char)
  | [] => [[]]
  | '/' :: rest => [] :: partsOf rest
  | c :: rest =>
    match partsOf rest with
    | [] => [[c]]
    | part :: more => (c :: part) :: more

end SyncFleet.Text
