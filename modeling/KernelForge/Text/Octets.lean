import KernelForge.Text.Utf8

/-!
Texts whose characters are bytes.

A program that knows nothing of encodings handles texts byte by byte. Such a text is a `String` here whose
characters are all below 256, one for each byte. Only where it meets a text in the proper sense, as a path or a
message, it is read as UTF-8.
-/
namespace KernelForge.Text.Octets

def ofBytes (bytes : ByteArray) : String :=
  String.ofList (bytes.data.toList.map fun b => Char.ofNat b.toNat)

def toBytes (s : String) : ByteArray :=
  ⟨(s.toList.map fun c => c.toNat.toUInt8).toArray⟩

def ofText (s : String) : String := ofBytes s.toUTF8

/-- The text of bytes, with replacement characters for what is no text. -/
def toText (s : String) : String := Utf8.lossy (toBytes s)

end KernelForge.Text.Octets
