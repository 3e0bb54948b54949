import KernelForge.Fingerprint
import KernelForge.Formula.Record
import KernelForge.Host.FileSystem

/-!
Manifests: the record that publishes the library of a kernel.

A location holds a published kernel when its manifest can be read, is of this version and for the
expected fingerprint, and names a library that is there (`Published.read?`).
-/
namespace KernelForge

structure Manifest where
  formatVersion : UInt32
  toolVersion : String
  fingerprint : Fingerprint
  target : Target
  library : String
  checksum : Digest
  formula : String
  aliases : String
  precision : Precision
deriving DecidableEq

namespace Manifest

/-- The version of the record that is written and understood. -/
def currentFormat : UInt32 := 1

/-- The version of this tool. -/
def currentTool : String := "0.1.0"

def fileName : String := "artifact.json"

/-- The name under which a manifest is written before it takes its place. -/
def draftName : String := "artifact.json.tmp"

def fieldNames : List String :=
  ["format_version", "genred_version", "fingerprint", "backend", "library", "checksum", "formula",
   "aliases", "precision"]

def checksumJson (d : Digest) : Json :=
  .array (d.bytes.toList.map fun b => .nat b.toNat)

def checksumOfJson? (v : Json) : Option Digest := do
  let items ← v.items?
  let bytes ← items.mapM fun b => b.natBelow? 256
  Digest.ofList? (bytes.map Nat.toUInt8)

def fields (m : Manifest) : List (String × Json) :=
  [("format_version", .nat m.formatVersion.toNat), ("genred_version", .str m.toolVersion),
   ("fingerprint", .str m.fingerprint.name), ("backend", .str m.target.name),
   ("library", .str m.library), ("checksum", checksumJson m.checksum), ("formula", .str m.formula),
   ("aliases", .str m.aliases), ("precision", m.precision.toJson)]

def toJson (m : Manifest) : Json :=
  .ofFields m.fields

def ofJson? (v : Json) : Option Manifest :=
  match v.record? fieldNames with
  | some [formatVersion, toolVersion, fingerprint, target, library, checksum, formula, aliases,
      precision] => do
    let formatVersion ← formatVersion.natBelow? UInt32.size
    let toolVersion ← toolVersion.text?
    let fingerprint ← fingerprint.text?
    let target ← target.text?
    let library ← library.text?
    let checksum ← checksumOfJson? checksum
    let formula ← formula.text?
    let aliases ← aliases.text?
    let precision ← Precision.ofJson? precision
    return ⟨formatVersion.toUInt32, toolVersion, ⟨fingerprint⟩, ⟨target⟩, library, checksum, formula,
      aliases, precision⟩
  | _ => none

def text (m : Manifest) : String :=
  m.toJson.pretty

/-- Reads the text of a manifest file. -/
def ofText? (s : String) : Option Manifest :=
  (Json.parse? s).bind ofJson?

def ofBytes? (content : ByteArray) : Option Manifest :=
  (String.fromUTF8? content).bind ofText?

/-- Whether a manifest is of this version and for a fingerprint. -/
def isCompatible (m : Manifest) (fp : Fingerprint) : Bool :=
  m.formatVersion = currentFormat && m.fingerprint = fp

def libraryPlace (m : Manifest) (folder : Place) : Place :=
  folder.join m.library

/-- The manifest in a folder. -/
def load? (folder : Place) (disk : Disk) : Option Manifest :=
  match disk.read (folder.join fileName).route with
  | .ok content => ofBytes? content
  | .error _ => none

end Manifest

/-- A published kernel: where it is, and its manifest. -/
structure Published where
  location : Place
  manifest : Manifest
deriving DecidableEq

namespace Published

def fingerprint (p : Published) : Fingerprint := p.manifest.fingerprint

def library (p : Published) : Place := p.manifest.libraryPlace p.location

def read? (folder : Place) (fp : Fingerprint) (disk : Disk) : Option Published :=
  match Manifest.load? folder disk with
  | none => none
  | some m =>
    if m.isCompatible fp && disk.isFile (m.libraryPlace folder).route then some ⟨folder, m⟩ else none

end Published

end KernelForge
