/-
  SyncFleet/Text/Utf8.lean
  ========================
  **Reading bytes as UTF-8, ill-formed ones included.**

  The reader turns bytes into characters one byte at a time.  Where the bytes
  are ill-formed it answers `none`, once for each longest run of bytes that
  begins some character's encoding and cannot be continued.  A byte that ends
  such a run is read anew, so an ASCII character is never swallowed.
-/

namespace SyncFleet.Text.Utf8

/-- A character whose encoding has begun: its bits so far, how many bytes are still missing,
    and the range that the next byte must lie in. -/
structure Begun where
  bits : Nat
  missing : Nat
  least : Nat
  greatest : Nat
deriving DecidableEq, Repr

/-- What a byte means at the start of a character: a whole character or ill-formed input, or
    the beginning of a longer encoding.  The range of the second byte keeps out encodings that
    are longer than needed, surrogates and values above U+10FFFF. -/
def start (b : Nat) : Option Char ⊕ Begun :=
  if b < 0x80 then .inl (some (Char.ofNat b))
  else if b < 0xC2 then .inl none
  else if b < 0xE0 then .inr ⟨b - 0xC0, 1, 0x80, 0xBF⟩
  else if b < 0xF0 then
    .inr ⟨b - 0xE0, 2, if b = 0xE0 then 0xA0 else 0x80, if b = 0xED then 0x9F else 0xBF⟩
  else if b < 0xF5 then
    .inr ⟨b - 0xF0, 3, if b = 0xF0 then 0x90 else 0x80, if b = 0xF4 then 0x8F else 0xBF⟩
  else .inl none

/-- Read one byte: the characters that it completes, and the encoding left open after it. -/
def step (open_ : Option Begun) (b : Nat) : List (Option Char) × Option Begun :=
  let fresh : List (Option Char) × Option Begun :=
    match start b with
    | .inl c => ([c], none)
    | .inr g => ([], some g)
  match open_ with
  | none => fresh
  | some g =>
    if g.least ≤ b ∧ b ≤ g.greatest then
      let bits := g.bits * 64 + (b - 0x80)
      if g.missing = 1 then ([some (Char.ofNat bits)], none)
      else ([], some ⟨bits, g.missing - 1, 0x80, 0xBF⟩)
    else (none :: fresh.1, fresh.2)

/-- Read bytes behind an encoding that may be open. -/
def decodeFrom : Option Begun → List UInt8 → List (Option Char)
  | none, [] => []
  | some _, [] => [none]
  | open_, b :: bytes =>
    let (chars, open_) := step open_ b.toNat
    chars ++ decodeFrom open_ bytes

/-- The characters of a run of bytes, `none` for every ill-formed stretch. -/
def decode (bytes : ByteArray) : List (Option Char) :=
  match String.fromUTF8? bytes with
  | some s => s.toList.map some
  | none => decodeFrom none bytes.toList

/-- The bytes as text if they are well-formed. -/
def decode? (bytes : ByteArray) : Option String := String.fromUTF8? bytes

/-- The bytes as text, with the replacement character for every ill-formed stretch. -/
def decodeLossy (bytes : ByteArray) : String :=
  String.ofList ((decode bytes).map (·.getD '\uFFFD'))

end SyncFleet.Text.Utf8
