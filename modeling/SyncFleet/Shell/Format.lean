/-
  SyncFleet/Shell/Format.lean
  ===========================
  **Escapes and formats: what `echo` and `printf` make of their arguments.**

  A format is used again as long as it takes arguments and some are left.
  Arguments that are missing count as empty or zero.  An argument that is no
  number is reported, and the number that it begins with is used.
-/
import SyncFleet.Unix.Conversion

namespace SyncFleet.Shell

open Unix

/-! ### Escapes -/

/-- The byte that is escaped at the start of a text, behind the backslash, and what is behind it;
    what is no escape leaves the backslash. -/
def escapeAt (text : Bytes) : Char × Bytes :=
  match text with
  | [] => ('\\', [])
  | c :: rest =>
    match letterEscape? c with
    | some x => (x, rest)
    | none =>
      match octalEscape? 3 text with
      | some r => r
      | none => ('\\', text)

/-- Undo the escapes of an argument of at most `fuel` bytes, onto what is done, in reverse; the
    second component tells whether it was cut off.  An octal escape may have a zero in front, and
    one escape cuts the text off. -/
def unescapeFrom : Nat → Bytes → Bytes → Bytes × Bool
  | 0, done, _ => (done, false)
  | _, done, [] => (done, false)
  | fuel + 1, done, '\\' :: rest =>
    match rest with
    | 'c' :: _ => (done, true)
    | '0' :: d :: more =>
      let (x, rest) := escapeAt (if (digitOf? 8 d).isSome then d :: more else '0' :: d :: more)
      unescapeFrom fuel (x :: done) rest
    | _ =>
      let (x, rest) := escapeAt rest
      unescapeFrom fuel (x :: done) rest
  | fuel + 1, done, c :: rest => unescapeFrom fuel (c :: done) rest

/-- An argument with its escapes undone, and whether it was cut off. -/
def unescape (text : Bytes) : Bytes × Bool :=
  let (done, cut) := unescapeFrom (text.length + 1) [] text
  (done.reverse, cut)

/-- What `echo` writes. -/
def echoed (arguments : List Bytes) : Bytes :=
  let (newline, arguments) := match arguments with
    | ['-', 'n'] :: rest => (false, rest)
    | rest => (true, rest)
  let (text, cut) := unescape (List.intercalate [' '] arguments)
  if newline && !cut then text ++ ['\n'] else text

/-! ### Numbers -/

/-- What is wrong with an argument that should be a number, of which something is left. -/
def remainderReport (argument left : Bytes) : Option Bytes :=
  if left.isEmpty then none
  else if left = argument then some (argument ++ ": expected numeric value".toList)
  else some (argument ++ ": not completely converted".toList)

/-- What is said of a number that is out of range. -/
def rangeReport (argument : Bytes) : Bytes :=
  argument ++ ": Numerical result out of range".toList

/-! ### Formats -/

/-- What a format has written so far. -/
structure Written where
  /-- in reverse -/
  text : List Bytes
  /-- the arguments that are left -/
  arguments : List Bytes
  /-- whether an argument has been taken -/
  took : Bool
  /-- whether the output has been cut off -/
  cut : Bool
  /-- what is reported, in reverse -/
  reports : List Bytes
deriving Repr

/-- Whether a format can go on, or what is wrong with it. -/
abbrev Formatting := StateT Written (Except (Bytes × Written))

namespace Formatting

/-- Add to the text. -/
def put (text : Bytes) : Formatting Unit := modify fun w => { w with text := text :: w.text }

/-- Report something. -/
def report (r : Bytes) : Formatting Unit := modify fun w => { w with reports := r :: w.reports }

/-- Take an argument, if there is one. -/
def take? : Formatting (Option Bytes) := do
  match (← get).arguments with
  | [] => return none
  | a :: rest =>
    modify fun w => { w with arguments := rest, took := true }
    return some a

/-- Take a number between two bounds. -/
def takeNumber (least greatest : Int) : Formatting Int := do
  match ← take? with
  | none => return 0
  | some a =>
    match a with
    | '\x27' :: rest | '\x22' :: rest => return (rest.headD '\x00').toNat
    | _ =>
      let (n, left) := integerAt a
      match remainderReport a left with
      | some r => report r
      | none => if n < least ∨ greatest < n then report (rangeReport a)
      return max least (min n greatest)

/-- Take a number with a sign. -/
def takeSigned : Formatting Int := takeNumber (-0x8000000000000000) 0x7FFFFFFFFFFFFFFF

/-- Take a number without a sign; one below zero wraps around. -/
def takeUnsigned : Formatting Nat := do
  let most : Int := UInt64.size - 1
  let n ← takeNumber (-most) most
  return (n % UInt64.size).toNat

/-- Take a floating-point number. -/
def takeFloating : Formatting Floating := do
  match ← take? with
  | none => return default
  | some a =>
    match a with
    | '\x27' :: rest | '\x22' :: rest =>
      return Floating.ofInt doubleFormat (rest.headD '\x00').toNat
    | _ =>
      let (x, left, isOut) := Floating.read doubleFormat a
      match remainderReport a left with
      | some r => report r
      | none => if isOut then report (rangeReport a)
      return x

/-- End the format because of a fault. -/
def fail {α : Type} (message : Bytes) : Formatting α := do throw (message, ← get)

/-- Convert an argument; `directive` is the text of the conversion. -/
def convert (c : Conversion) (directive : Bytes) : Formatting Unit := do
  match c.letter with
  | 's' => put (c.text ((← take?).getD []))
  | 'b' =>
    let (text, cut) := unescape ((← take?).getD [])
    put (c.text text)
    modify fun w => { w with cut }
  | 'c' => put (c.filled [((← take?).getD []).headD '\x00'])
  | 'd' | 'i' => put (c.integer (← takeSigned))
  | 'u' | 'o' | 'x' | 'X' => put (c.natural (← takeUnsigned))
  | 'a' | 'A' | 'e' | 'E' | 'f' | 'F' | 'g' | 'G' =>
    put (c.floating doubleFormat (← takeFloating))
  | _ => fail (directive ++ ": invalid directive".toList)

/-- A width or precision at the start of a text: digits, or a star that takes an argument. -/
def size (b : Bytes) : Formatting (Option Int × Bytes) := do
  match b with
  | '*' :: rest => return (some (← takeSigned), rest)
  | _ =>
    let (n, k, rest) := digitsAt 10 b
    return (if k = 0 then none else some (n : Int), rest)

/-- Go through a format of at most `fuel` bytes once. -/
def once : Nat → Bytes → Formatting Unit
  | 0, _ => return ()
  | _, [] => return ()
  | fuel + 1, '\\' :: rest => do
    let (x, rest) := escapeAt rest
    put [x]
    once fuel rest
  | fuel + 1, '%' :: '%' :: rest => do
    put ['%']
    once fuel rest
  | fuel + 1, '%' :: start => do
    let flags := start.takeWhile fun c => "-+ #0".toList.contains c
    let (width, rest) ← size (start.drop flags.length)
    let (precision, rest) ← match rest with
      | '.' :: rest => do
        let (p, rest) ← size rest
        pure (some (p.getD 0), rest)
      | rest => pure (none, rest)
    let width := width.getD 0
    let flags := if width < 0 then '-' :: flags else flags
    match rest with
    | [] => fail "missing format character".toList
    | letter :: behind =>
      let precision := (precision.filter (0 ≤ ·)).map Int.toNat
      convert ⟨flags, width.natAbs, precision, letter⟩
        ('%' :: start.take (start.length - behind.length))
      if (← get).cut then return ()
      once fuel behind
  | fuel + 1, c :: rest => do
    let plain := rest.takeWhile fun c => c != '\\' && c != '%'
    put (c :: plain)
    once fuel (rest.drop plain.length)

/-- Use a format as long as it takes arguments and some are left, at most `fuel` times. -/
def again (format : Bytes) : Nat → Formatting Unit
  | 0 => return ()
  | fuel + 1 => do
    modify fun w => { w with took := false }
    once (format.length + 1) format
    let w ← get
    if w.cut || !w.took || w.arguments.isEmpty then return ()
    again format fuel

end Formatting

/-- What a format makes of arguments, and what is wrong with it. -/
def formatted (format : Bytes) (arguments : List Bytes) : Written × Option Bytes :=
  match (Formatting.again format (arguments.length + 1)).run ⟨[], arguments, false, false, []⟩ with
  | .ok (_, w) => (w, none)
  | .error (message, w) => (w, some message)

end SyncFleet.Shell
