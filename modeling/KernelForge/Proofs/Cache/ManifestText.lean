import KernelForge.Cache.Manifest
import KernelForge.Proofs.Formula.Record

/-!
Manifests and their files: what was written for a manifest is read as that manifest (`ofBytes?_text`).
-/
namespace KernelForge

namespace Digest

theorem ofList?_bytes (d : Digest) : ofList? d.bytes.toList = some d := by
  obtain ⟨⟨bytes, hsize⟩⟩ := d
  have hlength : bytes.toList.length = 16 := by simpa using hsize
  simp [ofList?, hlength]

end Digest

namespace Manifest

theorem checksumOfJson?_checksumJson (d : Digest) : checksumOfJson? (checksumJson d) = some d := by
  have hbytes : (d.bytes.toList.map UInt8.toNat).map Nat.toUInt8 = d.bytes.toList := by
    rw [List.map_map]
    exact (List.map_congr_left fun b _ => UInt8.ofNat_toNat).trans (List.map_id _)
  have hnumbers : (d.bytes.toList.map fun b => Json.nat b.toNat).mapM (fun v => v.natBelow? 256) =
      some (d.bytes.toList.map UInt8.toNat) :=
    Json.mapM_map (fun b : UInt8 => Json.natBelow?_nat b.toNat_lt) _
  simp only [checksumOfJson?, checksumJson, Json.items?, bind, Option.bind, hnumbers, hbytes,
    Digest.ofList?_bytes]

theorem ofJson?_toJson (m : Manifest) : ofJson? m.toJson = some m := by
  have hnames : (m.fields.map Prod.fst).Nodup := show fieldNames.Nodup by decide
  have hrecord : m.toJson.record? fieldNames = some (m.fields.map Prod.snd) := Json.record?_ofFields hnames
  have hversion : m.formatVersion.toNat < UInt32.size := m.formatVersion.toNat_lt
  rw [ofJson?, hrecord]
  simp [fields, Json.natBelow?_nat hversion, Json.str, Json.text?, checksumOfJson?_checksumJson,
    Precision.ofJson?_toJson]

theorem spelled_tokens (m : Manifest) : Json.Spelled m.toJson.tokens := by
  apply Json.spelled_ofFields
  intro f hf
  simp only [fields, List.mem_cons, List.not_mem_nil, or_false] at hf
  rcases hf with rfl | rfl | rfl | rfl | rfl | rfl | rfl | rfl | rfl
  · exact Json.spelled_nat _
  · exact Json.spelled_str _
  · exact Json.spelled_str _
  · exact Json.spelled_str _
  · exact Json.spelled_str _
  · apply Json.spelled_array
    intro v hv
    obtain ⟨b, _, rfl⟩ := List.mem_map.mp hv
    exact Json.spelled_nat _
  · exact Json.spelled_str _
  · exact Json.spelled_str _
  · exact Json.spelled_str _

theorem fromUTF8?_toUTF8 (s : String) : String.fromUTF8? s.toUTF8 = some s := by
  unfold String.fromUTF8?
  exact dif_pos s.isValidUTF8

/-- **What is written for a manifest is read as that manifest.** -/
theorem ofBytes?_text (m : Manifest) : ofBytes? m.text.toUTF8 = some m := by
  rw [ofBytes?, fromUTF8?_toUTF8, Option.bind_some, ofText?, text, Json.parse?_pretty (spelled_tokens m)]
  exact ofJson?_toJson m

end Manifest

end KernelForge
