/-
  SyncFleet/Utility/Digest/Hash.lean
  ==================================
  **Hashes of messages.**

  A message is taken block by block.  Each block is mixed into a state of some
  words, which is the hash in the end.
-/
import SyncFleet.Unix.Bytes

namespace SyncFleet.Utility.Digest

/-! ### Messages in blocks of words -/

/-- A message with a bit behind it, zeros, and its length in bits, up to a whole number of
    blocks. -/
def padded (block lengthBytes : Nat) (isLittle : Bool) (message : ByteArray) : ByteArray :=
  let start := message.push 0x80
  let zeros := (2 * block - (start.size + lengthBytes) % block) % block
  let filled := (List.range zeros).foldl (fun (b : ByteArray) _ => b.push 0) start
  (List.range lengthBytes).foldl (fun (b : ByteArray) i =>
    let place := if isLittle then i else lengthBytes - 1 - i
    b.push (UInt8.ofNat (8 * message.size / Nat.pow 256 place))) filled

/-- The number of some bytes. -/
def numberAt (isLittle : Bool) (size : Nat) (bytes : ByteArray) (start : Nat) : Nat :=
  (List.range size).foldl (fun n i =>
    let place := if isLittle then size - 1 - i else i
    256 * n + ((bytes[start + place]?).getD 0).toNat) 0

/-- The bytes of a number. -/
def bytesOf (isLittle : Bool) (size : Nat) (n : Nat) : List UInt8 :=
  let little := (List.range size).map fun i => UInt8.ofNat (n / Nat.pow 256 i)
  if isLittle then little else little.reverse

/-- Turn a word of 32 bits to the left. -/
def turn32 (x : UInt32) (n : UInt32) : UInt32 := (x <<< n) ||| (x >>> (32 - n))

/-- Turn a word of 64 bits to the right. -/
def turn64 (x : UInt64) (n : UInt64) : UInt64 := (x >>> n) ||| (x <<< (64 - n))

/-! ### Constants -/

/-- The first prime numbers. -/
def primes (count : Nat) : List Nat :=
  ((List.range 420).filter fun n =>
    2 ≤ n && (List.range n).all fun d => d < 2 || n % d ≠ 0).take count

/-- The greatest number below a bound whose power does not exceed another number, in `fuel`
    halvings. -/
def rootWithin (power n : Nat) : Nat → Nat → Nat → Nat
  | 0, low, _ => low
  | fuel + 1, low, high =>
    let middle := (low + high) / 2
    if Nat.pow middle power ≤ n then rootWithin power n fuel middle high
    else rootWithin power n fuel low middle

/-- The first 64 bits behind the point of a root of a number. -/
def rootBits (power n : Nat) : Nat :=
  let scaled := n * Nat.pow 2 (64 * power)
  rootWithin power scaled 90 0 (Nat.pow 2 80) % UInt64.size

/-! ### Messages, block by block -/

/-- Mix the blocks of a message into a state. -/
def overBlocks {σ : Type} (size : Nat) (message : ByteArray) (mix : σ → Nat → σ) (s : σ) : σ :=
  (List.range (message.size / size)).foldl (fun s i => mix s (i * size)) s

/-! ### Words of 32 bits, the least byte first -/

/-- What is added in each step. -/
def md5Terms : Array UInt32 :=
  #[0xd76aa478, 0xe8c7b756, 0x242070db, 0xc1bdceee, 0xf57c0faf, 0x4787c62a, 0xa8304613,
    0xfd469501, 0x698098d8, 0x8b44f7af, 0xffff5bb1, 0x895cd7be, 0x6b901122, 0xfd987193,
    0xa679438e, 0x49b40821, 0xf61e2562, 0xc040b340, 0x265e5a51, 0xe9b6c7aa, 0xd62f105d,
    0x02441453, 0xd8a1e681, 0xe7d3fbc8, 0x21e1cde6, 0xc33707d6, 0xf4d50d87, 0x455a14ed,
    0xa9e3e905, 0xfcefa3f8, 0x676f02d9, 0x8d2a4c8a, 0xfffa3942, 0x8771f681, 0x6d9d6122,
    0xfde5380c, 0xa4beea44, 0x4bdecfa9, 0xf6bb4b60, 0xbebfbc70, 0x289b7ec6, 0xeaa127fa,
    0xd4ef3085, 0x04881d05, 0xd9d4d039, 0xe6db99e5, 0x1fa27cf8, 0xc4ac5665, 0xf4292244,
    0x432aff97, 0xab9423a7, 0xfc93a039, 0x655b59c3, 0x8f0ccc92, 0xffeff47d, 0x85845dd1,
    0x6fa87e4f, 0xfe2ce6e0, 0xa3014314, 0x4e0811a1, 0xf7537e82, 0xbd3af235, 0x2ad7d2bb,
    0xeb86d391]

/-- How far words are turned in each step. -/
def md5Turns : Array UInt32 := #[7, 12, 17, 22, 5, 9, 14, 20, 4, 11, 16, 23, 6, 10, 15, 21]

/-- Four words. -/
structure Four where
  a : UInt32
  b : UInt32
  c : UInt32
  d : UInt32

/-- One step. -/
def md5Step (words : Array UInt32) (s : Four) (i : Nat) : Four :=
  let (f, k) := match i / 16 with
    | 0 => ((s.b &&& s.c) ||| (~~~s.b &&& s.d), i)
    | 1 => ((s.d &&& s.b) ||| (~~~s.d &&& s.c), (5 * i + 1) % 16)
    | 2 => (s.b ^^^ s.c ^^^ s.d, (3 * i + 5) % 16)
    | _ => (s.c ^^^ (s.b ||| ~~~s.d), 7 * i % 16)
  let sum := s.a + f + md5Terms.getD i 0 + words.getD k 0
  ⟨s.d, s.b + turn32 sum (md5Turns.getD (i / 16 * 4 + i % 4) 0), s.b, s.c⟩

/-- A hash of 128 bits. -/
def md5 (message : ByteArray) : List UInt8 :=
  let bytes := padded 64 8 true message
  let s := overBlocks 64 bytes (fun (s : Four) start =>
    let words := ((List.range 16).map fun i =>
      UInt32.ofNat (numberAt true 4 bytes (start + 4 * i))).toArray
    let t := (List.range 64).foldl (md5Step words) s
    ⟨s.a + t.a, s.b + t.b, s.c + t.c, s.d + t.d⟩)
    ⟨0x67452301, 0xefcdab89, 0x98badcfe, 0x10325476⟩
  [s.a, s.b, s.c, s.d].flatMap fun w => bytesOf true 4 w.toNat

/-! ### Words of 32 bits, the greatest byte first -/

/-- Words of a block of 64 bytes, with others made from those before them. -/
def spread32 (bytes : ByteArray) (start count : Nat) (next : Array UInt32 → Nat → UInt32) :
    Array UInt32 :=
  let words := ((List.range 16).map fun i =>
    UInt32.ofNat (numberAt false 4 bytes (start + 4 * i))).toArray
  (List.range (count - 16)).foldl (fun ws i => ws.push (next ws (i + 16))) words

/-- Five words. -/
structure Five where
  a : UInt32
  b : UInt32
  c : UInt32
  d : UInt32
  e : UInt32

/-- One step. -/
def sha1Step (words : Array UInt32) (s : Five) (i : Nat) : Five :=
  let (f, k) : UInt32 × UInt32 := match i / 20 with
    | 0 => ((s.b &&& s.c) ||| (~~~s.b &&& s.d), 0x5a827999)
    | 1 => (s.b ^^^ s.c ^^^ s.d, 0x6ed9eba1)
    | 2 => ((s.b &&& s.c) ||| (s.b &&& s.d) ||| (s.c &&& s.d), 0x8f1bbcdc)
    | _ => (s.b ^^^ s.c ^^^ s.d, 0xca62c1d6)
  ⟨turn32 s.a 5 + f + s.e + k + words.getD i 0, s.a, turn32 s.b 30, s.c, s.d⟩

/-- A hash of 160 bits. -/
def sha1 (message : ByteArray) : List UInt8 :=
  let bytes := padded 64 8 false message
  let s := overBlocks 64 bytes (fun (s : Five) start =>
    let words := spread32 bytes start 80 fun ws i =>
      turn32 (ws.getD (i - 3) 0 ^^^ ws.getD (i - 8) 0 ^^^ ws.getD (i - 14) 0
        ^^^ ws.getD (i - 16) 0) 1
    let t := (List.range 80).foldl (sha1Step words) s
    ⟨s.a + t.a, s.b + t.b, s.c + t.c, s.d + t.d, s.e + t.e⟩)
    ⟨0x67452301, 0xefcdab89, 0x98badcfe, 0x10325476, 0xc3d2e1f0⟩
  [s.a, s.b, s.c, s.d, s.e].flatMap fun w => bytesOf false 4 w.toNat

/-- Eight words. -/
structure Eight (α : Type) where
  a : α
  b : α
  c : α
  d : α
  e : α
  f : α
  g : α
  h : α

namespace Eight

/-- Eight words from a list. -/
def ofList {α : Type} [Inhabited α] (xs : List α) : Eight α :=
  let at_ := fun i => xs.getD i default
  ⟨at_ 0, at_ 1, at_ 2, at_ 3, at_ 4, at_ 5, at_ 6, at_ 7⟩

/-- The words in order. -/
def toList {α : Type} (x : Eight α) : List α := [x.a, x.b, x.c, x.d, x.e, x.f, x.g, x.h]

/-- Words joined one by one. -/
def zipWith {α : Type} (f : α → α → α) (x y : Eight α) : Eight α :=
  ⟨f x.a y.a, f x.b y.b, f x.c y.c, f x.d y.d, f x.e y.e, f x.f y.f, f x.g y.g, f x.h y.h⟩

end Eight

/-- The bits of cube roots that are added in each step. -/
def cubeBits : Array Nat := ((primes 80).map (rootBits 3)).toArray

/-- The bits of square roots from which hashes start. -/
def squareBits : List Nat := (primes 16).map (rootBits 2)

/-- Turn a word of 32 bits to the right. -/
def back32 (x : UInt32) (n : UInt32) : UInt32 := turn32 x (32 - n)

/-- What is added in each step of words of 32 bits. -/
def terms32 : Array UInt32 := cubeBits.map fun n => UInt32.ofNat (n / 0x100000000)

/-- What is added in each step of words of 64 bits. -/
def terms64 : Array UInt64 := cubeBits.map UInt64.ofNat

/-- One step with words of 32 bits. -/
def sha256Step (words : Array UInt32) (s : Eight UInt32) (i : Nat) : Eight UInt32 :=
  let s1 := back32 s.e 6 ^^^ back32 s.e 11 ^^^ back32 s.e 25
  let ch := (s.e &&& s.f) ^^^ (~~~s.e &&& s.g)
  let t1 := s.h + s1 + ch + terms32.getD i 0 + words.getD i 0
  let s0 := back32 s.a 2 ^^^ back32 s.a 13 ^^^ back32 s.a 22
  let maj := (s.a &&& s.b) ^^^ (s.a &&& s.c) ^^^ (s.b &&& s.c)
  ⟨t1 + s0 + maj, s.a, s.b, s.c, s.d + t1, s.e, s.f, s.g⟩

/-- A hash with words of 32 bits. -/
def sha2Short (start : List Nat) (count : Nat) (message : ByteArray) : List UInt8 :=
  let bytes := padded 64 8 false message
  let s := overBlocks 64 bytes (fun (s : Eight UInt32) place =>
    let words := spread32 bytes place 64 fun ws i =>
      let x := ws.getD (i - 15) 0
      let y := ws.getD (i - 2) 0
      ws.getD (i - 16) 0 + (back32 x 7 ^^^ back32 x 18 ^^^ (x >>> 3)) + ws.getD (i - 7) 0
        + (back32 y 17 ^^^ back32 y 19 ^^^ (y >>> 10))
    s.zipWith (· + ·) ((List.range 64).foldl (sha256Step words) s))
    (Eight.ofList (start.map UInt32.ofNat))
  (s.toList.flatMap fun w => bytesOf false 4 w.toNat).take count

/-- One step with words of 64 bits. -/
def sha512Step (words : Array UInt64) (s : Eight UInt64) (i : Nat) : Eight UInt64 :=
  let s1 := turn64 s.e 14 ^^^ turn64 s.e 18 ^^^ turn64 s.e 41
  let ch := (s.e &&& s.f) ^^^ (~~~s.e &&& s.g)
  let t1 := s.h + s1 + ch + terms64.getD i 0 + words.getD i 0
  let s0 := turn64 s.a 28 ^^^ turn64 s.a 34 ^^^ turn64 s.a 39
  let maj := (s.a &&& s.b) ^^^ (s.a &&& s.c) ^^^ (s.b &&& s.c)
  ⟨t1 + s0 + maj, s.a, s.b, s.c, s.d + t1, s.e, s.f, s.g⟩

/-- A hash with words of 64 bits. -/
def sha2Long (start : List Nat) (count : Nat) (message : ByteArray) : List UInt8 :=
  let bytes := padded 128 16 false message
  let s := overBlocks 128 bytes (fun (s : Eight UInt64) place =>
    let first := ((List.range 16).map fun i =>
      UInt64.ofNat (numberAt false 8 bytes (place + 8 * i))).toArray
    let words := (List.range 64).foldl (fun ws j =>
      let i := j + 16
      let x := ws.getD (i - 15) 0
      let y := ws.getD (i - 2) 0
      ws.push (ws.getD (i - 16) 0 + (turn64 x 1 ^^^ turn64 x 8 ^^^ (x >>> 7)) + ws.getD (i - 7) 0
        + (turn64 y 19 ^^^ turn64 y 61 ^^^ (y >>> 6)))) first
    s.zipWith (· + ·) ((List.range 80).foldl (sha512Step words) s))
    (Eight.ofList (start.map UInt64.ofNat))
  (s.toList.flatMap fun w => bytesOf false 8 w.toNat).take count

/-- A hash of 256 bits. -/
def sha256 : ByteArray → List UInt8 :=
  sha2Short ((squareBits.take 8).map (· / 0x100000000)) 32

/-- A hash of 224 bits. -/
def sha224 : ByteArray → List UInt8 :=
  sha2Short ((squareBits.drop 8).map (· % 0x100000000)) 28

/-- A hash of 512 bits. -/
def sha512 : ByteArray → List UInt8 := sha2Long (squareBits.take 8) 64

/-- A hash of 384 bits. -/
def sha384 : ByteArray → List UInt8 := sha2Long (squareBits.drop 8) 48

/-- One step. -/
def sm3Step (words : Array UInt32) (s : Eight UInt32) (i : Nat) : Eight UInt32 :=
  let t : UInt32 := if i < 16 then 0x79cc4519 else 0x7a879d8a
  let ss1 := turn32 (turn32 s.a 12 + s.e + turn32 t (UInt32.ofNat (i % 32))) 7
  let ss2 := ss1 ^^^ turn32 s.a 12
  let ff := if i < 16 then s.a ^^^ s.b ^^^ s.c
    else (s.a &&& s.b) ||| (s.a &&& s.c) ||| (s.b &&& s.c)
  let gg := if i < 16 then s.e ^^^ s.f ^^^ s.g else (s.e &&& s.f) ||| (~~~s.e &&& s.g)
  let w := words.getD i 0
  let tt1 := ff + s.d + ss2 + (w ^^^ words.getD (i + 4) 0)
  let tt2 := gg + s.h + ss1 + w
  ⟨tt1, s.a, turn32 s.b 9, s.c, tt2 ^^^ turn32 tt2 9 ^^^ turn32 tt2 17, s.e, turn32 s.f 19, s.g⟩

/-- Another hash of 256 bits. -/
def sm3 (message : ByteArray) : List UInt8 :=
  let bytes := padded 64 8 false message
  let s := overBlocks 64 bytes (fun (s : Eight UInt32) start =>
    let words := spread32 bytes start 68 fun ws i =>
      let x := ws.getD (i - 16) 0 ^^^ ws.getD (i - 9) 0 ^^^ turn32 (ws.getD (i - 3) 0) 15
      x ^^^ turn32 x 15 ^^^ turn32 x 23 ^^^ turn32 (ws.getD (i - 13) 0) 7 ^^^ ws.getD (i - 6) 0
    s.zipWith (· ^^^ ·) ((List.range 64).foldl (sm3Step words) s))
    ⟨0x7380166f, 0x4914b2b9, 0x172442d7, 0xda8a0600, 0xa96f30bc, 0x163138aa, 0xe38dee4d,
      0xb0fb0e4e⟩
  s.toList.flatMap fun w => bytesOf false 4 w.toNat

/-! ### A hash of any length up to 512 bits -/

/-- The order in which the words of a block are used in each round. -/
def blakeOrders : Array (List Nat) :=
  #[[0, 1, 2, 3, 4, 5, 6, 7, 8, 9, 10, 11, 12, 13, 14, 15],
    [14, 10, 4, 8, 9, 15, 13, 6, 1, 12, 0, 2, 11, 7, 5, 3],
    [11, 8, 12, 0, 5, 2, 15, 13, 10, 14, 3, 6, 7, 1, 9, 4],
    [7, 9, 3, 1, 13, 12, 11, 14, 2, 6, 5, 10, 4, 0, 15, 8],
    [9, 0, 5, 7, 2, 4, 10, 15, 14, 1, 11, 12, 6, 8, 3, 13],
    [2, 12, 6, 10, 0, 11, 8, 3, 4, 13, 7, 5, 15, 14, 1, 9],
    [12, 5, 1, 15, 14, 13, 4, 10, 0, 7, 6, 3, 9, 2, 8, 11],
    [13, 11, 7, 14, 12, 1, 3, 9, 5, 0, 15, 4, 8, 6, 2, 10],
    [6, 15, 14, 9, 11, 3, 0, 8, 12, 2, 13, 7, 1, 4, 10, 5],
    [10, 2, 8, 4, 7, 6, 1, 5, 15, 11, 9, 14, 3, 12, 13, 0]]

/-- The places of the words that are mixed with each other. -/
def blakePlaces : List (Nat × Nat × Nat × Nat) :=
  [(0, 4, 8, 12), (1, 5, 9, 13), (2, 6, 10, 14), (3, 7, 11, 15), (0, 5, 10, 15), (1, 6, 11, 12),
    (2, 7, 8, 13), (3, 4, 9, 14)]

/-- Mix four words with two of the message. -/
def blakeMix (v : Array UInt64) (p : Nat × Nat × Nat × Nat) (x y : UInt64) : Array UInt64 :=
  let (i, j, k, l) := p
  let a := v.getD i 0
  let b := v.getD j 0
  let c := v.getD k 0
  let d := v.getD l 0
  let a := a + b + x
  let d := turn64 (d ^^^ a) 32
  let c := c + d
  let b := turn64 (b ^^^ c) 24
  let a := a + b + y
  let d := turn64 (d ^^^ a) 16
  let c := c + d
  let b := turn64 (b ^^^ c) 63
  (((v.setIfInBounds i a).setIfInBounds j b).setIfInBounds k c).setIfInBounds l d

/-- One round. -/
def blakeRound (words : Array UInt64) (v : Array UInt64) (round : Nat) : Array UInt64 :=
  let order := (blakeOrders.getD (round % 10) []).toArray
  blakePlaces.zipIdx.foldl (fun v (p, i) =>
    blakeMix v p (words.getD (order.getD (2 * i) 0) 0) (words.getD (order.getD (2 * i + 1) 0) 0)) v

/-- A hash of some bytes, at most 64. -/
def blake2b (count : Nat) (message : ByteArray) : List UInt8 :=
  let start := ((squareBits.take 8).map UInt64.ofNat)
  let h := (start.toArray).modify 0 (· ^^^ UInt64.ofNat (0x01010000 + count))
  let blocks := max 1 ((message.size + 127) / 128)
  let filled := (List.range (blocks * 128 - message.size)).foldl
    (fun (b : ByteArray) _ => b.push 0) message
  let h := (List.range blocks).foldl (fun (h : Array UInt64) i =>
    let isLast := i + 1 = blocks
    let read := if isLast then message.size else (i + 1) * 128
    let words := ((List.range 16).map fun j =>
      UInt64.ofNat (numberAt true 8 filled (i * 128 + 8 * j))).toArray
    let v := h ++ start.toArray
    let v := v.modify 12 (· ^^^ UInt64.ofNat read)
    let v := if isLast then v.modify 14 (~~~ ·) else v
    let v := (List.range 12).foldl (blakeRound words) v
    ((List.range 8).map fun j => h.getD j 0 ^^^ v.getD j 0 ^^^ v.getD (j + 8) 0).toArray) h
  (h.toList.flatMap fun w => bytesOf true 8 w.toNat).take count

/-! ### Sums -/

/-- One bit of a cyclic sum. -/
def cyclicBit (n : UInt32) : UInt32 :=
  if n &&& 0x80000000 ≠ 0 then (n <<< 1) ^^^ 0x04c11db7 else n <<< 1

/-- What the eight bits of a byte do to a cyclic sum. -/
def cyclicTable : Array UInt32 :=
  ((List.range 256).map fun i =>
    (List.range 8).foldl (fun n _ => cyclicBit n) (UInt32.ofNat i <<< 24)).toArray

/-- Add a byte to a cyclic sum. -/
def cyclicAdd (n : UInt32) (x : UInt8) : UInt32 :=
  (n <<< 8) ^^^ cyclicTable.getD ((n >>> 24) ^^^ x.toUInt32).toNat 0

/-- The cyclic sum of a message with its length behind it. -/
def cyclicSum (message : ByteArray) : Nat :=
  let n := message.foldl cyclicAdd 0
  let length := (Nat.toDigits 256 message.size).length
  let n := if message.size = 0 then n
    else (List.range length).foldl (fun n i =>
      cyclicAdd n (UInt8.ofNat (message.size / Nat.pow 256 i))) n
  (~~~n).toNat

/-- The sum of bytes that is turned by a bit in each step, of 16 bits. -/
def turnedSum (message : ByteArray) : Nat :=
  message.foldl (fun n x => (n / 2 + n % 2 * 0x8000 + x.toNat) % 0x10000) 0

/-- The sum of bytes, folded to 16 bits. -/
def plainSum (message : ByteArray) : Nat :=
  let n := message.foldl (fun n x => (n + x.toNat) % 0x100000000) 0
  let r := n % 0x10000 + n / 0x10000
  r % 0x10000 + r / 0x10000

end SyncFleet.Utility.Digest
