import KernelForge.Proofs.Cache.Depot

/-!
Room for the names in a build location.

The longest name in a location is the one that a library is published by. Where it fits (`Site.Roomy`), all
other names fit, too (`Roomy.ample`, `Ample.fits`). How long it is depends on the fingerprint alone
(`Fingerprint.size_publishedName`), and the fingerprints of kernels have single names of a known length
(`Fingerprint.single_of`, `Fingerprint.size_of`).
-/
namespace KernelForge

open Disk FileTree

theorem utf8ByteSize_ascii {cs : List Char} (h : ∀ c ∈ cs, c.utf8Size = 1) :
    (String.ofList cs).utf8ByteSize = cs.length := by
  induction cs with
  | nil => rfl
  | cons c cs ih =>
    rw [String.ofList_cons, String.utf8ByteSize_append, String.utf8ByteSize_singleton, List.length_cons,
      h c List.mem_cons_self, ih fun c hc => h c (List.mem_cons_of_mem _ hc), Nat.add_comm]

/-- Characters that take one byte and mean nothing in a path. -/
def PlainChar (c : Char) : Prop := c.utf8Size = 1 ∧ c ≠ Char.ofNat 0 ∧ c ≠ '/'

theorem plain_toHexChars {digest : Digest} {c : Char} (h : c ∈ digest.toHexChars) : PlainChar c := by
  have hdigit : ∀ m, m < 16 → (Text.Numeral.hexDigit m).utf8Size = 1 ∧
      Text.Numeral.hexDigit m ≠ Char.ofNat 0 ∧ Text.Numeral.hexDigit m ≠ '/' := by decide
  obtain ⟨m, hm, rfl⟩ := Digest.mem_toHexChars h
  exact hdigit m hm

theorem plain_isNameChar {c : Char} (h : Target.isNameChar c = true) : PlainChar c := by
  refine ⟨?_, ?_, ?_⟩
  · unfold Target.isNameChar Char.isLower Char.isDigit at h
    simp only [Bool.or_eq_true, Bool.and_eq_true, decide_eq_true_eq] at h
    have hsmall : c.val ≤ 127 := by
      rcases h with (h | h) | rfl
      · exact UInt32.le_trans h.2 (by decide)
      · exact UInt32.le_trans h.2 (by decide)
      · decide
    unfold Char.utf8Size
    exact if_pos hsmall
  · rintro rfl
    exact absurd h (by decide)
  · rintro rfl
    exact absurd h (by decide)

namespace Fingerprint

/-- The name that a library is published by is longer than the other names in a location. -/
theorem size_publishedName (fp : Fingerprint) (checksum : Digest) :
    (fp.publishedName checksum).utf8ByteSize = fp.name.utf8ByteSize + 23 := by
  have hhex : (String.ofList (checksum.toHexChars.take 16)).utf8ByteSize = _ :=
    utf8ByteSize_ascii fun c hc => (plain_toHexChars (List.mem_of_mem_take hc)).1
  rw [List.length_take, checksum.length_toHexChars] at hhex
  have hlib : "lib".utf8ByteSize = 3 := by decide
  have hdash : "-".utf8ByteSize = 1 := by decide
  have hso : ".so".utf8ByteSize = 3 := by decide
  simp only [publishedName, String.utf8ByteSize_append, hlib, hdash, hso, hhex]
  omega

theorem nul_not_mem_publishedName {fp : Fingerprint} (h : Char.ofNat 0 ∉ fp.name.toList) (checksum : Digest) :
    Char.ofNat 0 ∉ (fp.publishedName checksum).toList := by
  have hhex : Char.ofNat 0 ∉ checksum.toHexChars.take 16 := fun hmem =>
    (plain_toHexChars (List.mem_of_mem_take hmem)).2.1 rfl
  rw [publishedName_chars]
  simp only [List.mem_cons, List.mem_append, List.not_mem_nil, or_false, not_or]
  exact ⟨by decide, by decide, by decide, h, by decide, hhex, by decide, by decide, by decide⟩

theorem toList_of (spec : KernelSpec) (target : Target) : (of spec target).name.toList =
    "genred_".toList ++ target.name.toList ++ '_' :: spec.precision.name.toList ++ '_' ::
      (digest spec target).toHexChars :=
  String.toList_ofList

theorem plain_of (spec : KernelSpec) {target : Target}
    (htarget : ∀ c ∈ target.name.toList, Target.isNameChar c = true)
    {c : Char} (h : c ∈ (of spec target).name.toList) : PlainChar c := by
  have hprecision : ∀ c ∈ spec.precision.name.toList, Target.isNameChar c = true :=
    List.all_eq_true.mp (by cases spec.precision <;> decide)
  rw [toList_of] at h
  simp only [List.mem_append, List.mem_cons, or_assoc] at h
  have hbrand : ∀ c ∈ "genred_".toList, Target.isNameChar c = true := List.all_eq_true.mp (by decide)
  rcases h with h | h | rfl | h | rfl | h
  · exact plain_isNameChar (hbrand c h)
  · exact plain_isNameChar (htarget c h)
  · exact plain_isNameChar (by decide)
  · exact plain_isNameChar (hprecision c h)
  · exact plain_isNameChar (by decide)
  · exact plain_toHexChars h

theorem size_of (spec : KernelSpec) {target : Target}
    (htarget : ∀ c ∈ target.name.toList, Target.isNameChar c = true) :
    (of spec target).name.utf8ByteSize = target.name.toList.length + 48 := by
  have hprecision : spec.precision.name.toList.length = 7 := by cases spec.precision <;> decide
  have hbrand : "genred_".toList.length = 7 := by decide
  have hsize := utf8ByteSize_ascii fun c hc => (plain_of spec htarget hc).1
  rw [String.ofList_toList] at hsize
  rw [hsize, toList_of]
  simp only [List.length_append, List.length_cons, hprecision, hbrand, Digest.length_toHexChars]
  omega

theorem single_of (spec : KernelSpec) {target : Target}
    (htarget : ∀ c ∈ target.name.toList, Target.isNameChar c = true) :
    Path.Single (of spec target).name := by
  have hlong := size_of spec htarget
  have hne : ∀ name : String, name.utf8ByteSize < 48 → (of spec target).name ≠ name := by
    rintro name hshort rfl
    omega
  exact ⟨⟨hne _ (by decide), hne _ (by decide), hne _ (by decide)⟩, fun h => (plain_of spec htarget h).2.2 rfl⟩

end Fingerprint

namespace Site

variable {s : Site}

theorem fault?_eq_none_iff {name : String} :
    s.fault? name = none ↔ flaw? (s.route name) = none ∧ tooLong name = false := by
  rw [← passable_single, Passable, route]
  simp

theorem fault?_none_of_le {name other : String} (h : s.fault? name = none)
    (hnul : Char.ofNat 0 ∉ other.toList) (hle : other.utf8ByteSize ≤ name.utf8ByteSize) :
    s.fault? other = none := by
  rw [fault?_eq_none_iff] at h ⊢
  refine ⟨flaw?_none_of_le h.1 hnul hle, ?_⟩
  have hshort := h.2
  simp only [tooLong, decide_eq_false_iff_not] at hshort ⊢
  omega

theorem fault?_none_of_short {name : String} (hnul : ∀ part ∈ s.route name, Char.ofNat 0 ∉ part.toList)
    (hshort : name.utf8ByteSize ≤ nameLimit)
    (htotal : (s.location.folder.route.map fun part => part.utf8ByteSize + 1).sum + name.utf8ByteSize < pathLimit) :
    s.fault? name = none := by
  rw [fault?_eq_none_iff, flaw?_eq_none_iff, tooLong, decide_eq_false_iff_not]
  refine ⟨⟨hnul, ?_⟩, Nat.not_lt_of_le hshort⟩
  rw [route, List.map_append, List.map_singleton, List.sum_append, List.sum_singleton]
  omega

/-- There is room for the lock file, the manifest and its draft. -/
def Ample (s : Site) : Prop := s.fault? Manifest.draftName = none

namespace Ample

theorem fits (h : s.Ample) {name : String} (hnul : Char.ofNat 0 ∉ name.toList)
    (hle : name.utf8ByteSize ≤ Manifest.draftName.utf8ByteSize) : s.fault? name = none :=
  fault?_none_of_le h hnul hle

theorem lockName (h : s.Ample) : s.fault? Location.lockName = none := h.fits (by decide) (by decide)

theorem fileName (h : s.Ample) : s.fault? Manifest.fileName = none := h.fits (by decide) (by decide)

theorem folder (h : s.Ample) : flaw? s.location.folder.route = none :=
  flaw?_none_init (fault?_eq_none_iff.mp h).1

end Ample

/-- There is room for the names that libraries are published by. -/
def Roomy (s : Site) : Prop := ∀ checksum, s.fault? (s.location.fingerprint.publishedName checksum) = none

/-- There is room for none of them. -/
def Cramped (s : Site) : Prop := ∀ checksum, s.fault? (s.location.fingerprint.publishedName checksum) ≠ none

/-- Where libraries can be published, the other names fit, too. -/
theorem Roomy.ample (h : s.Roomy) : s.Ample := by
  refine fault?_none_of_le (h (.ofBytes .empty)) (by decide) ?_
  rw [Fingerprint.size_publishedName]
  exact Nat.le_trans (by decide) (Nat.le_add_left 23 _)

end Site

end KernelForge
