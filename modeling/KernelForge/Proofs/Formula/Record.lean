import KernelForge.Fingerprint
import KernelForge.Formula.Record
import KernelForge.Proofs.Formula.FlagSet
import KernelForge.Proofs.Json.Compact
import KernelForge.Proofs.Json.Fields

/-!
Records of kernel specifications: the text that is written for a specification is read as that specification
(`record_lossless`), canonical or not. There is one lemma for each part of a record, which says that the
part is read as it was, and one which says that its tokens are.
-/
namespace KernelForge

theorem Precision.ofJson?_toJson (p : Precision) : ofJson? p.toJson = some p := by
  cases p <;> rfl

theorem Category.ofJson?_toJson (c : Category) : ofJson? c.toJson = some c := by
  cases c <;> rfl

theorem Axis.ofJson?_toJson (a : Axis) : ofJson? a.toJson = some a := by
  cases a <;> rfl

namespace Reduction

theorem ofJson?_toJson (r : Reduction) : ofJson? r.toJson = some r := by
  cases r with
  | plain op => cases op <;> rfl
  | ranked op k =>
    have hargument : (Json.nat k.toNat).natBelow? UInt32.size = some k.toNat := Json.natBelow?_nat k.toNat_lt
    have hname : Ranked.ofName? op.name = some op := by cases op <;> rfl
    simp only [ofJson?, toJson, Json.ofFields, List.map_cons, List.map_nil, Json.case?, hname, hargument,
      Option.map_some]
    rw [show k.toNat.toUInt32 = k from UInt32.ofNat_toNat]

theorem spelled_toJson (r : Reduction) : Json.Spelled r.toJson.tokens := by
  cases r with
  | plain op => exact Json.spelled_str _
  | ranked op k =>
    apply Json.spelled_ofFields
    intro f hf
    obtain rfl := List.mem_singleton.mp hf
    exact Json.spelled_nat _

end Reduction

namespace Alias

theorem ofJson?_toJson (a : Alias) : ofJson? a.toJson = some a := by
  have hrecord : a.toJson.record? fieldNames =
      some [.str a.name, a.category.toJson, .nat a.position.toNat, .nat a.dim.toNat] :=
    Json.record?_ofFields (show fieldNames.Nodup by decide)
  have hposition : (Json.nat a.position.toNat).natBelow? UInt64.size = some a.position.toNat :=
    Json.natBelow?_nat a.position.toNat_lt
  have hdim : (Json.nat a.dim.toNat).natBelow? UInt64.size = some a.dim.toNat := Json.natBelow?_nat a.dim.toNat_lt
  rw [ofJson?, hrecord]
  simp [Json.str, Json.text?, Category.ofJson?_toJson, hposition, hdim]

theorem spelled_toJson (a : Alias) : Json.Spelled a.toJson.tokens := by
  apply Json.spelled_ofFields
  intro f hf
  simp only [List.mem_cons, List.not_mem_nil, or_false] at hf
  rcases hf with rfl | rfl | rfl | rfl
  · exact Json.spelled_str _
  · exact Json.spelled_str _
  · exact Json.spelled_nat _
  · exact Json.spelled_nat _

end Alias

namespace FlagSet

theorem ofJson?_toJson (flags : FlagSet) : ofJson? flags.toJson = some flags := by
  have htexts : (flags.toList.map Json.str).mapM Json.text? = some flags.toList := by
    simpa using Json.mapM_map (fun s : String => show (Json.str s).text? = some (id s) from rfl) flags.toList
  simp only [ofJson?, toJson, Json.items?, Option.bind_eq_bind, Option.bind_some, htexts, ofList_toList]
  rfl

theorem spelled_toJson (flags : FlagSet) : Json.Spelled flags.toJson.tokens := by
  apply Json.spelled_array
  intro v hv
  obtain ⟨s, _, rfl⟩ := List.mem_map.mp hv
  exact Json.spelled_str s

end FlagSet

namespace KernelSpec

theorem ofJson?_toJson (spec : KernelSpec) : ofJson? spec.toJson = some spec := by
  have hrecord : spec.toJson.record? fieldNames =
      some [.str spec.formula, spec.reduction.toJson, spec.axis.toJson, .array (spec.aliases.map Alias.toJson),
        spec.precision.toJson, spec.flags.toJson] :=
    Json.record?_ofFields (show fieldNames.Nodup by decide)
  have haliases : (spec.aliases.map Alias.toJson).mapM Alias.ofJson? = some spec.aliases := by
    simpa using Json.mapM_map (fun a : Alias => a.ofJson?_toJson) spec.aliases
  rw [ofJson?, hrecord]
  simp [Json.str, Json.text?, Json.items?, Reduction.ofJson?_toJson, Axis.ofJson?_toJson, haliases,
    Precision.ofJson?_toJson, FlagSet.ofJson?_toJson]

theorem spelled_toJson (spec : KernelSpec) : Json.Spelled spec.toJson.tokens := by
  apply Json.spelled_ofFields
  intro f hf
  simp only [List.mem_cons, List.not_mem_nil, or_false] at hf
  rcases hf with rfl | rfl | rfl | rfl | rfl | rfl
  · exact Json.spelled_str _
  · exact spec.reduction.spelled_toJson
  · exact Json.spelled_str _
  · apply Json.spelled_array
    intro v hv
    obtain ⟨a, _, rfl⟩ := List.mem_map.mp hv
    exact a.spelled_toJson
  · exact Json.spelled_str _
  · exact spec.flags.spelled_toJson

/-- **What is written for a specification is read as that specification**, so it names the same kernel on every
target. -/
theorem record_lossless (spec : KernelSpec) :
    ofText? spec.toJson.compact = some spec ∧
      ∀ target, (ofText? spec.toJson.compact).map (fun read => Fingerprint.of read target) =
        some (Fingerprint.of spec target) := by
  have hread : ofText? spec.toJson.compact = some spec := by
    rw [ofText?, Json.parse?_compact spec.spelled_toJson]
    exact ofJson?_toJson spec
  exact ⟨hread, fun target => by rw [hread]; rfl⟩

end KernelSpec

end KernelForge
