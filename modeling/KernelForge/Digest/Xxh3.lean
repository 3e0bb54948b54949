import KernelForge.Text.Numeral

/-!
The 128-bit XXH3 hash with seed zero and the default secret.

Short inputs are mixed as a whole, by length class: none, up to 3, 8, 16, 128 and 240 bytes. Longer
inputs run through eight accumulators, sixty-four bytes (a stripe) at a time, and the accumulators
are scrambled after each block of sixteen stripes. `hash` picks the class; the result is the low and
the high word.
-/
namespace KernelForge.Digest.Xxh3

def secret : ByteArray := ⟨#[
  0xb8, 0xfe, 0x6c, 0x39, 0x23, 0xa4, 0x4b, 0xbe, 0x7c, 0x01, 0x81, 0x2c, 0xf7, 0x21, 0xad, 0x1c,
  0xde, 0xd4, 0x6d, 0xe9, 0x83, 0x90, 0x97, 0xdb, 0x72, 0x40, 0xa4, 0xa4, 0xb7, 0xb3, 0x67, 0x1f,
  0xcb, 0x79, 0xe6, 0x4e, 0xcc, 0xc0, 0xe5, 0x78, 0x82, 0x5a, 0xd0, 0x7d, 0xcc, 0xff, 0x72, 0x21,
  0xb8, 0x08, 0x46, 0x74, 0xf7, 0x43, 0x24, 0x8e, 0xe0, 0x35, 0x90, 0xe6, 0x81, 0x3a, 0x26, 0x4c,
  0x3c, 0x28, 0x52, 0xbb, 0x91, 0xc3, 0x00, 0xcb, 0x88, 0xd0, 0x65, 0x8b, 0x1b, 0x53, 0x2e, 0xa3,
  0x71, 0x64, 0x48, 0x97, 0xa2, 0x0d, 0xf9, 0x4e, 0x38, 0x19, 0xef, 0x46, 0xa9, 0xde, 0xac, 0xd8,
  0xa8, 0xfa, 0x76, 0x3f, 0xe3, 0x9c, 0x34, 0x3f, 0xf9, 0xdc, 0xbb, 0xc7, 0xc7, 0x0b, 0x4f, 0x1d,
  0x8a, 0x51, 0xe0, 0x4b, 0xcd, 0xb4, 0x59, 0x31, 0xc8, 0x9f, 0x7e, 0xc9, 0xd9, 0x78, 0x73, 0x64,
  0xea, 0xc5, 0xac, 0x83, 0x34, 0xd3, 0xeb, 0xc3, 0xc5, 0x81, 0xa0, 0xff, 0xfa, 0x13, 0x63, 0xeb,
  0x17, 0x0d, 0xdd, 0x51, 0xb7, 0xf0, 0xda, 0x49, 0xd3, 0x16, 0x55, 0x26, 0x29, 0xd4, 0x68, 0x9e,
  0x2b, 0x16, 0xbe, 0x58, 0x7d, 0x47, 0xa1, 0xfc, 0x8f, 0xf8, 0xb8, 0xd1, 0x7a, 0xd0, 0x31, 0xce,
  0x45, 0xcb, 0x3a, 0x8f, 0x95, 0x16, 0x04, 0x28, 0xaf, 0xd7, 0xfb, 0xca, 0xbb, 0x4b, 0x40, 0x7e]⟩

def prime32a : UInt64 := 0x9E3779B1
def prime32b : UInt64 := 0x85EBCA77
def prime32c : UInt64 := 0xC2B2AE3D
def prime64a : UInt64 := 0x9E3779B185EBCA87
def prime64b : UInt64 := 0xC2B2AE3D27D4EB4F
def prime64c : UInt64 := 0x165667B19E3779F9
def prime64d : UInt64 := 0x85EBCA77C2B2AE63
def prime64e : UInt64 := 0x27D4EB2F165667C5
def mixer : UInt64 := 0x165667919E3779F9
def shortMixer : UInt64 := 0x9FB21C651E98DF25

/-! ### Words -/

/-- The byte at a position, zero past the end. -/
def byteAt (b : ByteArray) (i : Nat) : UInt8 :=
  if h : i < b.size then b[i] else 0

/-- The four bytes from a position on, least significant first. -/
def word32 (b : ByteArray) (i : Nat) : UInt64 :=
  (byteAt b i).toUInt64 ||| (byteAt b (i + 1)).toUInt64 <<< 8 |||
    (byteAt b (i + 2)).toUInt64 <<< 16 ||| (byteAt b (i + 3)).toUInt64 <<< 24

/-- The eight bytes from a position on, least significant first. -/
def word64 (b : ByteArray) (i : Nat) : UInt64 :=
  word32 b i ||| word32 b (i + 4) <<< 32

def swap32 (x : UInt32) : UInt32 :=
  x <<< 24 ||| (x <<< 8 &&& (0x00FF0000 : UInt32)) ||| (x >>> 8 &&& (0x0000FF00 : UInt32)) ||| x >>> 24

def swap64 (x : UInt64) : UInt64 :=
  (swap32 x.toUInt32).toUInt64 <<< 32 ||| (swap32 (x >>> 32).toUInt32).toUInt64

def rotate32 (x : UInt32) (n : UInt32) : UInt32 :=
  x <<< n ||| x >>> (32 - n)

def product (a b : UInt64) : UInt64 × UInt64 :=
  let p := a.toNat * b.toNat
  (UInt64.ofNat p, UInt64.ofNat (p / 2 ^ 64))

def foldProduct (a b : UInt64) : UInt64 :=
  let (low, high) := product a b
  low ^^^ high

def avalanche64 (h : UInt64) : UInt64 :=
  let h := (h ^^^ h >>> 33) * prime64b
  let h := (h ^^^ h >>> 29) * prime64c
  h ^^^ h >>> 32

def avalanche (h : UInt64) : UInt64 :=
  let h := (h ^^^ h >>> 37) * mixer
  h ^^^ h >>> 32

/-! ### Short inputs -/

def hashEmpty : UInt64 × UInt64 :=
  (avalanche64 (word64 secret 64 ^^^ word64 secret 72),
   avalanche64 (word64 secret 80 ^^^ word64 secret 88))

def hash3 (b : ByteArray) : UInt64 × UInt64 :=
  let n := b.size
  let low : UInt32 := (byteAt b 0).toUInt32 <<< 16 ||| (byteAt b (n / 2)).toUInt32 <<< 24 |||
    (byteAt b (n - 1)).toUInt32 ||| n.toUInt32 <<< 8
  let high := rotate32 (swap32 low) 13
  (avalanche64 (low.toUInt64 ^^^ (word32 secret 0 ^^^ word32 secret 4)),
   avalanche64 (high.toUInt64 ^^^ (word32 secret 8 ^^^ word32 secret 12)))

def hash8 (b : ByteArray) : UInt64 × UInt64 :=
  let n := b.size
  let word := word32 b 0 + word32 b (n - 4) <<< 32
  let keyed := word ^^^ (word64 secret 16 ^^^ word64 secret 24)
  let (low, high) := product keyed (prime64a + n.toUInt64 <<< 2)
  let high := high + low <<< 1
  let low := low ^^^ high >>> 3
  let low := (low ^^^ low >>> 35) * shortMixer
  (low ^^^ low >>> 28, avalanche high)

def hash16 (b : ByteArray) : UInt64 × UInt64 :=
  let n := b.size
  let flipLow := word64 secret 32 ^^^ word64 secret 40
  let flipHigh := word64 secret 48 ^^^ word64 secret 56
  let (low, high) := product (word64 b 0 ^^^ word64 b (n - 8) ^^^ flipLow) prime64a
  let low := low + (n - 1).toUInt64 <<< 54
  let last := word64 b (n - 8) ^^^ flipHigh
  let high := high + last + (last &&& (0xFFFFFFFF : UInt64)) * (prime32b - 1)
  let low := low ^^^ swap64 high
  let (outLow, outHigh) := product low prime64b
  (avalanche outLow, avalanche (outHigh + high * prime64b))

/-- Sixteen bytes of input under sixteen bytes of the secret. -/
def mix16 (b : ByteArray) (i key : Nat) : UInt64 :=
  foldProduct (word64 b i ^^^ word64 secret key) (word64 b (i + 8) ^^^ word64 secret (key + 8))

/-- Two rows of sixteen bytes mixed into a pair of words. -/
def mix32 (b : ByteArray) (acc : UInt64 × UInt64) (i j key : Nat) : UInt64 × UInt64 :=
  ((acc.1 + mix16 b i key) ^^^ (word64 b j + word64 b (j + 8)),
   (acc.2 + mix16 b j (key + 16)) ^^^ (word64 b i + word64 b (i + 8)))

def finishShort (n : Nat) (acc : UInt64 × UInt64) : UInt64 × UInt64 :=
  (avalanche (acc.1 + acc.2),
   0 - avalanche (acc.1 * prime64a + acc.2 * prime64d + n.toUInt64 * prime64b))

/-- Seventeen to 128 bytes: rows from both ends towards the middle, innermost first. -/
def hash128 (b : ByteArray) : UInt64 × UInt64 :=
  let n := b.size
  let rows := (List.range ((n - 1) / 32 + 1)).reverse
  finishShort n (rows.foldl (fun acc i => mix32 b acc (16 * i) (n - 16 * (i + 1)) (32 * i))
    (n.toUInt64 * prime64a, 0))

/-- 129 to 240 bytes: rows in order, with an avalanche after the fourth, and the last 32 bytes. -/
def hash240 (b : ByteArray) : UInt64 × UInt64 :=
  let n := b.size
  let row (acc : UInt64 × UInt64) (i key : Nat) := mix32 b acc (32 * i) (32 * i + 16) key
  let acc := (List.range 4).foldl (fun acc i => row acc i (32 * i)) (n.toUInt64 * prime64a, 0)
  let acc := (avalanche acc.1, avalanche acc.2)
  let acc := (List.range (n / 32 - 4)).foldl (fun acc i => row acc (i + 4) (3 + 32 * i)) acc
  finishShort n (mix32 b acc (n - 16) (n - 32) 103)

/-! ### Long inputs -/

abbrev Lanes := Vector UInt64 8

def startLanes : Lanes :=
  ⟨#[prime32c, prime64a, prime64b, prime64c, prime64d, prime32b, prime64e, prime32a], rfl⟩

/-- Adds one stripe: each lane takes its neighbour's word and the product of its keyed halves. -/
def addStripe (b : ByteArray) (lanes : Lanes) (i key : Nat) : Lanes :=
  Vector.ofFn fun (k : Fin 8) =>
    let keyed := word64 b (i + 8 * k.val) ^^^ word64 secret (key + 8 * k.val)
    lanes[k] + word64 b (i + 8 * (k.val ^^^ 1)) + (keyed &&& (0xFFFFFFFF : UInt64)) * (keyed >>> 32)

/-- Adds consecutive stripes, moving the secret by eight bytes for each. -/
def addStripes (b : ByteArray) (lanes : Lanes) (i count : Nat) : Lanes :=
  (List.range count).foldl (fun acc t => addStripe b acc (i + 64 * t) (8 * t)) lanes

def scramble (lanes : Lanes) : Lanes :=
  Vector.ofFn fun (k : Fin 8) =>
    let a := lanes[k]
    (a ^^^ a >>> 47 ^^^ word64 secret (128 + 8 * k.val)) * prime32a

/-- Folds the lanes into one word under the secret from a position on. -/
def merge (lanes : Lanes) (key : Nat) (start : UInt64) : UInt64 :=
  let pair (k : Fin 4) : UInt64 :=
    foldProduct (lanes[2 * k.val] ^^^ word64 secret (key + 16 * k.val))
      (lanes[2 * k.val + 1] ^^^ word64 secret (key + 16 * k.val + 8))
  avalanche (start + pair 0 + pair 1 + pair 2 + pair 3)

def hashLong (b : ByteArray) : UInt64 × UInt64 :=
  let n := b.size
  let blocks := (n - 1) / 1024
  let lanes := (List.range blocks).foldl
    (fun acc i => scramble (addStripes b acc (1024 * i) 16)) startLanes
  let lanes := addStripes b lanes (1024 * blocks) ((n - 1 - 1024 * blocks) / 64)
  let lanes := addStripe b lanes (n - 64) 121
  (merge lanes 11 (n.toUInt64 * prime64a), merge lanes 117 (~~~(n.toUInt64 * prime64b)))

/-- The low and the high word of the hash of a byte string. -/
def hash (b : ByteArray) : UInt64 × UInt64 :=
  let n := b.size
  if n = 0 then hashEmpty
  else if n ≤ 3 then hash3 b
  else if n ≤ 8 then hash8 b
  else if n ≤ 16 then hash16 b
  else if n ≤ 128 then hash128 b
  else if n ≤ 240 then hash240 b
  else hashLong b

end KernelForge.Digest.Xxh3
