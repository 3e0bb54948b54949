import KernelForge.Proofs.Cache.Room

/-!
Names of locations.

A name that is recognized is a single name (`Fingerprint.ofDirectory?_eq_some`), and continues the path of a
root by one component (`Path.components_child`). Every kernel has a name that is recognized, whatever
underscores the name of its target has (`Fingerprint.ofDirectory?_of`): the last underscore is the one
before the digest, because a digest has none.
-/
namespace KernelForge

theorem Target.isNameChar_of_create? {name : String} {target : Target} (h : create? name = some target) :
    ∀ c ∈ target.name.toList, isNameChar c = true := by
  unfold create? at h
  split at h
  · next hname =>
    cases h
    exact List.all_eq_true.mp (Bool.and_eq_true_iff.mp hname).2
  · cases h

namespace Fingerprint

theorem cutLast_append {sep : Char} {b : List Char} (h : sep ∉ b) (a : List Char) :
    cutLast sep (a ++ sep :: b) = some (a, b) := by
  rw [cutLast, List.reverse_append, List.reverse_cons, List.append_assoc, List.singleton_append,
    Text.cutAt_append (by simpa using h)]
  simp

theorem ofDirectory?_eq_some {name : String} {fp : Fingerprint} (h : ofDirectory? name = some fp) :
    fp.name = name ∧ Path.Single name := by
  unfold ofDirectory? at h
  split at h
  · next hname =>
    cases h
    exact ⟨rfl, single_of_isRecognized hname⟩
  · cases h

theorem ofDirectory?_of (spec : KernelSpec) {name : String} {target : Target}
    (h : Target.create? name = some target) :
    ofDirectory? (of spec target).name = some (of spec target) := by
  have hname : target.name.toList.all Target.isNameChar = true :=
    List.all_eq_true.mpr (Target.isNameChar_of_create? h)
  have hprecision : spec.precision.name.toList.all Target.isNameChar = true := by cases spec.precision <;> decide
  have hbrand : afterBrand? (of spec target).name.toList =
      some ((target.name.toList ++ '_' :: spec.precision.name.toList) ++ '_' ::
        (digest spec target).toHexChars) := by
    rw [toList_of]
    simp [afterBrand?]
  have hrecognized : isRecognized (of spec target).name.toList = true := by
    rw [isRecognized, hbrand, Option.bind_some, cutLast_append (Digest.not_mem_toHexChars (by decide) _)]
    simp [Digest.ofHex?_toHexChars, hname, hprecision, show Target.isNameChar '_' = true by decide]
  rw [ofDirectory?, if_pos hrecognized]

end Fingerprint

/-! ### Children -/

theorem Path.components_child (path : String) {name : String} (h : Single name) :
    components (join path name) = components path ++ [name] ∧ isAbsolute (join path name) = isAbsolute path := by
  by_cases hp : path = ""
  · subst hp
    have hjoin : join "" name = name := by rw [join, if_neg (by simp [h.isAbsolute]), if_pos rfl]
    have hname : components name = [name] := by
      rw [components, h.pieces]
      simp [h.1.2.1, h.names]
    rw [hjoin, hname, h.isAbsolute]
    exact ⟨rfl, rfl⟩
  · exact ⟨components_join hp h, isAbsolute_join hp h⟩

end KernelForge
