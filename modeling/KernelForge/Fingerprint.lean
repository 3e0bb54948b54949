import KernelForge.Digest
import KernelForge.Fingerprint.Encoding

/-!
Fingerprints: the names of kernels in the artifact cache.

A fingerprint is `genred_<target>_<precision>_<digest>`, where the digest covers all that identifies the
kernel. `Fingerprint.ofDirectory?` recognizes such names among the entries of a directory.
-/
namespace KernelForge

structure Fingerprint where
  name : String
deriving DecidableEq, Repr

namespace Fingerprint

def digest (spec : KernelSpec) (target : Target) : Digest :=
  .ofBytes ⟨(Encoding.kernel spec target).toArray⟩

def chars (spec : KernelSpec) (target : Target) : List Char :=
  "genred_".toList ++ target.name.toList ++ '_' :: spec.precision.name.toList ++ '_' ::
    (digest spec target).toHexChars

def of (spec : KernelSpec) (target : Target) : Fingerprint :=
  ⟨String.ofList (chars spec target)⟩

/-- The text before the last occurrence of a separator and the text after it. -/
def cutLast (sep : Char) (cs : List Char) : Option (List Char × List Char) :=
  (Text.cutAt sep cs.reverse).map fun p => (p.2.reverse, p.1.reverse)

def afterBrand? : List Char → Option (List Char)
  | 'g' :: 'e' :: 'n' :: 'r' :: 'e' :: 'd' :: '_' :: rest => some rest
  | _ => none

/-- Whether a name has the form of a fingerprint: the digest stands after the last underscore, and what
is before it names a target and a precision. -/
def isRecognized (cs : List Char) : Bool :=
  match (afterBrand? cs).bind (cutLast '_') with
  | some (head, digest) =>
    (Digest.ofHex? (String.ofList digest)).isSome && head.contains '_' && head.all Target.isNameChar
  | none => false

def ofDirectory? (name : String) : Option Fingerprint :=
  if isRecognized name.toList then some ⟨name⟩ else none

/-- The file name under which a generator leaves the library of a kernel. -/
def libraryName (fp : Fingerprint) : String :=
  "lib" ++ fp.name ++ ".so"

/-- The file name of a published library: it carries the first half of the digest of its content. -/
def publishedName (fp : Fingerprint) (content : Digest) : String :=
  "lib" ++ fp.name ++ "-" ++ String.ofList (content.toHexChars.take 16) ++ ".so"

end Fingerprint

end KernelForge
