/-!
Reading bytes as text where they may not be text.

A byte string is cut into characters and into maximal pieces that no character starts with. `lossy` puts a
replacement character for each such piece.
-/
namespace KernelForge.Text.Utf8

/-- How many bytes follow a leading byte, and the bounds of the first of them. -/
def leading? (b : UInt8) : Option (Nat × UInt8 × UInt8) :=
  if b < 0x80 then some (0, 0, 0)
  else if 0xC2 ≤ b && b ≤ 0xDF then some (1, 0x80, 0xBF)
  else if b = 0xE0 then some (2, 0xA0, 0xBF)
  else if b = 0xED then some (2, 0x80, 0x9F)
  else if 0xE1 ≤ b && b ≤ 0xEF then some (2, 0x80, 0xBF)
  else if b = 0xF0 then some (3, 0x90, 0xBF)
  else if 0xF1 ≤ b && b ≤ 0xF3 then some (3, 0x80, 0xBF)
  else if b = 0xF4 then some (3, 0x80, 0x8F)
  else none

def leadingBits (b : UInt8) (following : Nat) : Nat :=
  match following with
  | 0 => b.toNat
  | 1 => b.toNat % 0x20
  | 2 => b.toNat % 0x10
  | _ => b.toNat % 0x08

def replacement : Char := Char.ofNat 0xFFFD

/-- Where decoding stands: between characters, or inside one with its bits so far, the number of bytes to
come and the bounds of the next. -/
inductive Cursor where
  | between
  | inside (bits missing : Nat) (low high : UInt8)

/-- Starts a character with a byte; decoded characters are held in reverse. -/
def start (acc : List Char) (b : UInt8) : Cursor × List Char :=
  match leading? b with
  | none => (.between, replacement :: acc)
  | some (0, _, _) => (.between, Char.ofNat b.toNat :: acc)
  | some (n + 1, low, high) => (.inside (leadingBits b (n + 1)) (n + 1) low high, acc)

def next (acc : List Char) (cursor : Cursor) (b : UInt8) : Cursor × List Char :=
  match cursor with
  | .between => start acc b
  | .inside bits missing low high =>
    if low ≤ b && b ≤ high then
      let bits := bits * 0x40 + b.toNat % 0x40
      if missing ≤ 1 then (.between, Char.ofNat bits :: acc)
      else (.inside bits (missing - 1) 0x80 0xBF, acc)
    else start (replacement :: acc) b

def decodeFrom (acc : List Char) (cursor : Cursor) : List UInt8 → List Char
  | [] =>
    match cursor with
    | .between => acc.reverse
    | .inside .. => (replacement :: acc).reverse
  | b :: rest =>
    let (cursor, acc) := next acc cursor b
    decodeFrom acc cursor rest

def lossy (bytes : ByteArray) : String :=
  String.ofList (decodeFrom [] .between bytes.data.toList)

end KernelForge.Text.Utf8
