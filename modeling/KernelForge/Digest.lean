import KernelForge.Digest.Xxh3

/-!
Content digests: sixteen bytes that stand for a byte string.

`Digest.ofBytes` digests a whole byte string and `Digest.ofReads` one that arrives in pieces. A digest
is written as thirty-two hexadecimal digits, and read back pair by pair.
-/
namespace KernelForge

structure Digest where
  bytes : Vector UInt8 16
deriving DecidableEq

namespace Digest

/-- The eight bytes of a word, least significant first. -/
def wordBytes (w : UInt64) : List UInt8 :=
  (List.range 8).map fun i => (w >>> (8 * i).toUInt64).toUInt8

/-- The digest whose 128-bit value has the given low and high words. -/
def ofWords (low high : UInt64) : Digest :=
  ⟨⟨(wordBytes low ++ wordBytes high).toArray, by simp [wordBytes]⟩⟩

def ofBytes (data : ByteArray) : Digest :=
  let words := Xxh3.hash data
  ofWords words.1 words.2

/-- What a reader has delivered so far. -/
structure Intake where
  received : ByteArray := ByteArray.empty

namespace Intake

def add (intake : Intake) (chunk : ByteArray) : Intake :=
  ⟨intake.received ++ chunk⟩

def finish (intake : Intake) : Digest :=
  ofBytes intake.received

/-- Takes reads until the first empty one, or until one fails. -/
def drain {ε : Type} (intake : Intake) : List (Except ε ByteArray) → Except ε Digest
  | [] => .ok intake.finish
  | .error e :: _ => .error e
  | .ok chunk :: rest =>
    if chunk.size = 0 then .ok intake.finish else (intake.add chunk).drain rest

end Intake

/-- The digest of what a reader delivers: each read gives a chunk or fails, and an empty chunk or the
last read ends the data. -/
def ofReads {ε : Type} (reads : List (Except ε ByteArray)) : Except ε Digest :=
  ({} : Intake).drain reads

/-! ### Text -/

def byteHex (b : UInt8) : List Char :=
  Text.Numeral.hex 2 b.toNat

/-- The thirty-two digits of a digest, in small letters. -/
def toHexChars (d : Digest) : List Char :=
  d.bytes.toList.flatMap byteHex

def toHex (d : Digest) : String :=
  String.ofList d.toHexChars

/-- The first two bytes, for messages meant to be skimmed. -/
def abbreviation (d : Digest) : String :=
  "ContentHash(" ++ String.ofList (byteHex d.bytes[0] ++ byteHex d.bytes[1]) ++ "..)"

/-- Reads pairs of characters, each a numeral in base sixteen. -/
def readPairs : List Char → Option (List UInt8)
  | a :: b :: rest =>
    match Text.Numeral.read? 16 256 [a, b] with
    | some n => (readPairs rest).map (n.toUInt8 :: ·)
    | none => none
  | _ => some []

def ofList? (bytes : List UInt8) : Option Digest :=
  if h : bytes.length = 16 then some ⟨⟨bytes.toArray, by simpa using h⟩⟩ else none

/-- Reads a digest from thirty-two characters, a pair for each byte. -/
def ofHex? (s : String) : Option Digest :=
  let cs := s.toList
  if cs.length = 32 then (readPairs cs).bind ofList? else none

end Digest

end KernelForge
