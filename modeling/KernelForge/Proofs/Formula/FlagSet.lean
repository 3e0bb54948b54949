import KernelForge.Formula.FlagSet

/-!
Sets of texts: what is in them after insertions, and that nothing else counts (`ext_mem`). The order of the
insertions is forgotten, so a set is the set of its own elements (`ofList_toList`).
-/
namespace KernelForge.FlagSet

theorem mem_insertAll {flags : FlagSet} {texts : List String} {s : String} :
    s ∈ (flags.insertAll texts).toList ↔ s ∈ flags.toList ∨ s ∈ texts := by
  induction texts generalizing flags with
  | nil => simp [insertAll]
  | cons t texts ih =>
    rw [show flags.insertAll (t :: texts) = (flags.insert t).insertAll texts from rfl, ih, List.mem_cons]
    rw [show (flags.insert t).toList = insertFlag t flags.toList from rfl, mem_insertFlag]
    constructor
    · rintro ((hs | hs) | hs) <;> simp [hs]
    · rintro (hs | hs | hs) <;> simp [hs]

theorem mem_ofList {texts : List String} {s : String} : s ∈ (ofList texts).toList ↔ s ∈ texts := by
  rw [ofList, mem_insertAll]
  simp [empty]

theorem nodup_toList (flags : FlagSet) : flags.toList.Nodup := by
  refine flags.ascending.imp ?_
  rintro s _ hlt rfl
  exact String.lt_irrefl s hlt

/-- Sets with the same elements are equal. -/
theorem ext_mem {f g : FlagSet} (h : ∀ s, s ∈ f.toList ↔ s ∈ g.toList) : f = g := by
  have hperm : f.toList.Perm g.toList := (List.perm_ext_iff_of_nodup f.nodup_toList g.nodup_toList).mpr h
  have hlist : f.toList = g.toList :=
    hperm.eq_of_pairwise (fun _ _ _ _ hab hba => absurd hba (String.lt_asymm hab)) f.ascending g.ascending
  cases f
  cases g
  congr

theorem ofList_toList (flags : FlagSet) : ofList flags.toList = flags :=
  ext_mem fun _ => mem_ofList

end KernelForge.FlagSet
