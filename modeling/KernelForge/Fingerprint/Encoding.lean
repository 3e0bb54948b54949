import KernelForge.Fingerprint.Target
import KernelForge.Formula.KernelSpec

/-!
The byte string that identifies a kernel: every part of its specification and its target, each text
behind its length and each list behind its count.
-/
namespace KernelForge.Encoding

/-- The lowest `width` bytes of a number, least significant first. -/
def littleEndian : (width : Nat) → Nat → List UInt8
  | 0, _ => []
  | width + 1, n => n.toUInt8 :: littleEndian width (n / 256)

def word32 (n : UInt32) : List UInt8 := littleEndian 4 n.toNat

def word64 (n : UInt64) : List UInt8 := littleEndian 8 n.toNat

def count (n : Nat) : List UInt8 := littleEndian 8 n

/-- The bytes of a text behind their number. -/
def text (s : String) : List UInt8 :=
  count s.utf8ByteSize ++ s.toUTF8.data.toList

def category : Category → UInt32
  | .outer => 0
  | .inner => 1
  | .parameter => 2

def binding (a : Alias) : List UInt8 :=
  text a.name ++ word32 (category a.category) ++ word64 a.position ++ word64 a.dim

def version : UInt32 := 1

/-- All that identifies a kernel. -/
def kernel (spec : KernelSpec) (target : Target) : List UInt8 :=
  word32 version ++ text spec.wrapped ++ count spec.aliases.length ++ spec.aliases.flatMap binding ++
    text spec.precision.name ++ text target.name ++ count spec.flags.toList.length ++
    spec.flags.toList.flatMap text

end KernelForge.Encoding
