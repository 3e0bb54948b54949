import KernelForge.Host.FileTree

/-!
What stands at the paths of a tree.

A change of a tree is described by what it does to `look`: the kind of thing at each path, without what is below
it. Putting and erasing change the paths from the changed one on and no other (`look_put`, `look_erase`), and
`bare` is the least that has to be at and above a path for it to be an empty folder (`look_bare`).
-/
namespace KernelForge

/-- What stands at a path, without what is below it. -/
inductive Spot where
  | file (id : Nat)
  | link (target : String)
  | folder
deriving DecidableEq, Repr

namespace FileTree

def spot : FileTree → Spot
  | .file id => .file id
  | .link target => .link target
  | .folder .. => .folder

/-- What stands at a path of a tree. -/
def look (t : FileTree) (key : List String) : Option Spot :=
  (t.get? key).map spot

/-- Everything in a tree stands in another one, too. -/
def Extends (t t' : FileTree) : Prop :=
  ∀ key x, t.look key = some x → t'.look key = some x

/-! ### Entries -/

theorem find?_setEntry (m n : String) (t : FileTree) (entries : List (String × FileTree)) :
    find? m (setEntry n t entries) = if m = n then some t else find? m entries := by
  induction entries with
  | nil =>
    by_cases h : m = n
    · simp [setEntry, find?, h]
    · simp [setEntry, find?, h, Ne.symm h]
  | cons e rest ih =>
    obtain ⟨name, tree⟩ := e
    by_cases hn : name = n
    · subst hn
      by_cases hm : m = name
      · simp [setEntry, find?, hm]
      · simp [setEntry, find?, hm, Ne.symm hm]
    · by_cases hm : name = m
      · subst hm
        simp [setEntry, find?, hn]
      · simp [setEntry, find?, hn, hm, ih]

theorem eraseEntry_cons (n name : String) (t : FileTree) (rest : List (String × FileTree)) :
    eraseEntry n ((name, t) :: rest) =
      if name = n then eraseEntry n rest else (name, t) :: eraseEntry n rest := by
  by_cases h : name = n <;> simp [eraseEntry, h]

theorem find?_eraseEntry (m n : String) (entries : List (String × FileTree)) :
    find? m (eraseEntry n entries) = if m = n then none else find? m entries := by
  induction entries with
  | nil => simp [eraseEntry, find?]
  | cons e rest ih =>
    obtain ⟨name, tree⟩ := e
    rw [eraseEntry_cons]
    by_cases hn : name = n
    · subst hn
      rw [if_pos rfl, ih]
      by_cases hm : m = name
      · rw [if_pos hm, if_pos hm]
      · simp [find?, hm, Ne.symm hm]
    · rw [if_neg hn]
      by_cases hm : name = m
      · subst hm
        simp [find?, hn]
      · simp [find?, hm, ih]

theorem find?_isSome_iff (n : String) (entries : List (String × FileTree)) :
    (find? n entries).isSome ↔ n ∈ entries.map Prod.fst := by
  induction entries with
  | nil => simp [find?]
  | cons e rest ih =>
    obtain ⟨name, tree⟩ := e
    by_cases hn : name = n
    · simp [find?, hn]
    · simp [find?, hn, Ne.symm hn, ih]

/-! ### Looking -/

@[simp] theorem look_nil (t : FileTree) : t.look [] = some t.spot := rfl

@[simp] theorem look_file_cons (id : Nat) (n : String) (rest : List String) :
    (FileTree.file id).look (n :: rest) = none := rfl

@[simp] theorem look_link_cons (target n : String) (rest : List String) :
    (FileTree.link target).look (n :: rest) = none := rfl

theorem look_folder_cons (id : Nat) (entries : List (String × FileTree)) (n : String)
    (rest : List String) :
    (FileTree.folder id entries).look (n :: rest) = (find? n entries).bind fun t => t.look rest := by
  cases h : find? n entries <;> simp [look, get?, h]

theorem look_entries_cons (id : Nat) (name : String) (t : FileTree) (entries : List (String × FileTree))
    (n : String) (rest : List String) :
    (FileTree.folder id ((name, t) :: entries)).look (n :: rest) =
      if name = n then t.look rest else (FileTree.folder id entries).look (n :: rest) := by
  rw [look_folder_cons, look_folder_cons, find?]
  split <;> rfl

@[simp] theorem look_empty_cons (id : Nat) (n : String) (rest : List String) :
    (FileTree.folder id []).look (n :: rest) = none := rfl

variable {id : Nat} {t : FileTree} {entries : List (String × FileTree)} {k key rest below base : List String}
  {x : Spot} {n : String}

/-- What is found in a folder with a first entry: the folder itself, or something in that entry, or
something in the others. -/
theorem look_entries_cases {name : String} (h : (FileTree.folder id ((name, t) :: entries)).look k = some x) :
    x = .folder ∨ (∃ rest, k = name :: rest ∧ t.look rest = some x) ∨ (FileTree.folder id entries).look
      k = some x := by
  cases k with
  | nil => exact .inl (Option.some.inj h).symm
  | cons n rest =>
    rw [look_entries_cons] at h
    split at h
    · next he => exact .inr (.inl ⟨rest, he ▸ rfl, h⟩)
    · exact .inr (.inr h)

theorem look_empty_eq (h : (FileTree.folder id []).look k = some x) : x = .folder := by
  cases k with
  | nil => exact (Option.some.inj h).symm
  | cons n rest => cases h

theorem look_file_eq (h : (FileTree.file id).look k = some x) : k = [] ∧ x = .file id := by
  cases k with
  | nil => exact ⟨rfl, (Option.some.inj h).symm⟩
  | cons n rest => cases h

theorem get?_append (a b : List String) (t : FileTree) :
    t.get? (a ++ b) = (t.get? a).bind fun found => found.get? b := by
  induction a generalizing t with
  | nil => rfl
  | cons n rest ih =>
    cases t with
    | file id => rfl
    | link target => rfl
    | folder id entries =>
      cases h : find? n entries with
      | none => simp [get?, h]
      | some child => simp [get?, h, ih]

theorem look_append (a b : List String) (t : FileTree) :
    t.look (a ++ b) = (t.get? a).bind fun found => found.look b := by
  simp only [look, get?_append, Option.map_bind]
  rfl

theorem look_eq_folder_iff : t.look key = some .folder ↔ ∃ id entries, t.get? key = some (.folder id entries) := by
  cases h : t.get? key with
  | none => simp [look, h]
  | some found => cases found <;> simp [look, h, spot]

theorem look_eq_file_iff : t.look key = some (.file id) ↔ t.get? key = some (.file id) := by
  cases h : t.get? key with
  | none => simp [look, h]
  | some found => cases found <;> simp [look, h, spot]

theorem look_eq_link_iff {target : String} : t.look key = some (.link target) ↔
    t.get? key = some (.link target) := by
  cases h : t.get? key with
  | none => simp [look, h]
  | some found => cases found <;> simp [look, h, spot]

theorem look_eq_none_iff : t.look key = none ↔ t.get? key = none := by
  simp [look]

/-- The entries of a folder are what stands one step below it. -/
theorem find?_of_get? (h : t.get? key = some (.folder id entries)) (n : String) :
    find? n entries = t.get? (key ++ [n]) := by
  rw [get?_append, h]
  cases hf : find? n entries <;> simp [get?, hf]

/-- Only a folder has something below it. -/
theorem look_folder_of_below (h : t.look (key ++ n :: rest) = some x) : t.look key = some .folder := by
  rw [look_append] at h
  cases hk : t.get? key with
  | none => simp [hk] at h
  | some found =>
    cases found with
    | file id => simp [hk] at h
    | link target => simp [hk] at h
    | folder id entries => exact look_eq_folder_iff.mpr ⟨id, entries, hk⟩

theorem look_folder_above (h : key <+: below) (hne : key ≠ below) (hx : t.look below = some x) :
    t.look key = some .folder := by
  obtain ⟨rest, rfl⟩ := h
  cases rest with
  | nil => simp at hne
  | cons n rest => exact look_folder_of_below hx

theorem look_none_below (h : key <+: below) (hn : t.look key = none) : t.look below = none := by
  cases hb : t.look below with
  | none => rfl
  | some x =>
    by_cases he : key = below
    · rw [he, hb] at hn
      cases hn
    · rw [look_folder_above h he hb] at hn
      cases hn

/-! ### Putting and erasing -/

theorem put_cons_folder (hk : key ≠ []) (n : String) (id : Nat) (entries : List (String × FileTree))
    (new : FileTree) :
    put (n :: key) (.folder id entries) new =
      match find? n entries with
      | some t => .folder id (setEntry n (put key t new) entries)
      | none => .folder id entries := by
  cases key with
  | nil => exact absurd rfl hk
  | cons m rest => rfl

theorem erase_cons_folder (hk : key ≠ []) (n : String) (id : Nat) (entries : List (String × FileTree)) :
    erase (n :: key) (.folder id entries) =
      match find? n entries with
      | some t => .folder id (setEntry n (erase key t) entries)
      | none => .folder id entries := by
  cases key with
  | nil => exact absurd rfl hk
  | cons m rest => rfl

section View

variable {α : Type} {f : FileTree → α}
  (hf : ∀ id entries entries', f (.folder id entries) = f (.folder id entries'))
include hf

/-- Putting a tree into a folder changes what stands at its path and below it, whatever one sees of that, as
long as it is not what is in a folder. -/
theorem get?_put_map (hb : t.look base = some .folder) (n : String) (new : FileTree) (k : List String) :
    ((put (base ++ [n]) t new).get? k).map f =
      if base ++ [n] <+: k then (new.get? (k.drop (base.length + 1))).map f else (t.get? k).map f := by
  induction base generalizing t k with
  | nil =>
    cases t with
    | file id => simp [spot] at hb
    | link target => simp [spot] at hb
    | folder id entries =>
      cases k with
      | nil => simpa [put, get?] using hf id _ _
      | cons c ks =>
        by_cases hc : c = n
        · subst hc
          simp [put, get?, find?_setEntry]
        · simp [put, get?, find?_setEntry, hc, Ne.symm hc]
  | cons b bs ih =>
    cases t with
    | file id => simp at hb
    | link target => simp at hb
    | folder id entries =>
      rw [look_folder_cons] at hb
      obtain ⟨child, hfind, hchild⟩ := Option.bind_eq_some_iff.mp hb
      have hput : put (b :: bs ++ [n]) (.folder id entries) new =
          .folder id (setEntry b (put (bs ++ [n]) child new) entries) := by
        rw [List.cons_append, put_cons_folder (by simp), hfind]
      rw [hput]
      cases k with
      | nil => simpa [get?] using hf id _ _
      | cons c ks =>
        by_cases hc : c = b
        · subst hc
          simp [get?, find?_setEntry, hfind, ih hchild]
        · simp [get?, find?_setEntry, hc, Ne.symm hc]

/-- Erasing leaves nothing at a path and below it, and all else as one saw it. -/
theorem get?_erase_map (hk : key ≠ []) (t : FileTree) (k : List String) :
    ((erase key t).get? k).map f = if key <+: k then none else (t.get? k).map f := by
  induction key generalizing t k with
  | nil => exact absurd rfl hk
  | cons n rest ih =>
    cases t with
    | file id => cases k <;> cases rest <;> simp [erase, get?]
    | link target => cases k <;> cases rest <;> simp [erase, get?]
    | folder id entries =>
      by_cases hrest : rest = []
      · subst hrest
        cases k with
        | nil => simpa [erase, get?] using hf id _ _
        | cons c ks =>
          by_cases hc : c = n
          · simp [erase, get?, find?_eraseEntry, hc]
          · simp [erase, get?, find?_eraseEntry, hc, Ne.symm hc]
      · rw [erase_cons_folder hrest]
        cases hfind : find? n entries with
        | none =>
          cases k with
          | nil => simp
          | cons c ks =>
            by_cases hc : c = n
            · simp [get?, hfind, hc]
            · simp [Ne.symm hc]
        | some child =>
          cases k with
          | nil => simpa [get?] using hf id _ _
          | cons c ks =>
            by_cases hc : c = n
            · simp [get?, find?_setEntry, hfind, hc, ih hrest]
            · simp [get?, find?_setEntry, hc, Ne.symm hc]

end View

theorem look_put (hb : t.look base = some .folder) (n : String) (new : FileTree) (k : List String) :
    (put (base ++ [n]) t new).look k =
      if base ++ [n] <+: k then new.look (k.drop (base.length + 1)) else t.look k :=
  get?_put_map (fun _ _ _ => rfl) hb n new k

/-- The case of a tree with nothing below it. -/
theorem look_put_bare (hb : t.look base = some .folder) (n : String) {new : FileTree}
    (hnew : ∀ m rest, new.look (m :: rest) = none) (k : List String) :
    (put (base ++ [n]) t new).look k =
      if k = base ++ [n] then some new.spot else if base ++ [n] <+: k then none else t.look k := by
  rw [look_put hb]
  by_cases hp : base ++ [n] <+: k
  · obtain ⟨rest, rfl⟩ := hp
    have hdrop : (base ++ [n] ++ rest).drop (base.length + 1) = rest := by
      have hlength : base.length + 1 = (base ++ [n]).length := by simp
      rw [hlength, List.drop_left]
    rw [if_pos (List.prefix_append _ _), hdrop]
    cases rest with
    | nil => simp
    | cons m rest => simp [hnew]
  · have hne : k ≠ base ++ [n] := fun h => hp (h ▸ List.prefix_refl _)
    rw [if_neg hp, if_neg hne, if_neg hp]

theorem look_erase (hk : key ≠ []) (t : FileTree) (k : List String) :
    (erase key t).look k = if key <+: k then none else t.look k :=
  get?_erase_map (fun _ _ _ => rfl) hk t k

/-! ### The numbers of folders -/

theorem number?_eq_bind (t : FileTree) (k : List String) : t.number? k = ((t.get? k).map fun found =>
    found.number? []).join := by
  unfold number?
  cases t.get? k with
  | none => rfl
  | some found => rfl

/-- A folder that nothing is put in the place of keeps its number. -/
theorem number?_put (hb : t.look base = some .folder) (hk : ¬base ++ [n] <+: k) (new : FileTree) :
    (put (base ++ [n]) t new).number? k = t.number? k := by
  rw [number?_eq_bind, get?_put_map (fun _ _ _ => rfl) hb, if_neg hk, ← number?_eq_bind]

theorem number?_put_self (hb : t.look base = some .folder) (n : String) (id : Nat)
    (entries : List (String × FileTree)) :
    (put (base ++ [n]) t (.folder id entries)).number? (base ++ [n]) = some id := by
  rw [number?_eq_bind, get?_put_map (fun _ _ _ => rfl) hb, if_pos (List.prefix_refl _),
    List.drop_eq_nil_of_le (by simp)]
  rfl

theorem number?_erase (hroot : key ≠ []) (hk : ¬key <+: k) (t : FileTree) :
    (erase key t).number? k = t.number? k := by
  rw [number?_eq_bind, get?_erase_map (fun _ _ _ => rfl) hroot, if_neg hk, ← number?_eq_bind]

theorem look_of_number? {m : Nat} (h : t.number? k = some m) : t.look k = some .folder := by
  unfold number? at h
  split at h
  · next id entries hget => exact look_eq_folder_iff.mpr ⟨id, entries, hget⟩
  · cases h

/-! ### Empty folders -/

/-- A tree with an empty folder at a path, and folders above it. -/
def bare : List String → FileTree → FileTree
  | [], _ => .folder 0 []
  | n :: rest, .folder id entries =>
    .folder id (setEntry n (bare rest ((find? n entries).getD (.folder 0 []))) entries)
  | n :: rest, _ => .folder 0 [(n, bare rest (.folder 0 []))]

/-- Nothing but folders stands on the way to a path, as far as something is there. -/
def Clear (t : FileTree) (key : List String) : Prop :=
  ∀ k, k <+: key → t.look k = none ∨ t.look k = some .folder

theorem Clear.child (h : Clear (.folder id entries) (n :: rest)) :
    Clear ((find? n entries).getD (.folder 0 [])) rest := by
  intro k hk
  have hn := h (n :: k) (by simpa using hk)
  rw [look_folder_cons] at hn
  cases hf : find? n entries with
  | some child => simpa [hf] using hn
  | none => cases k <;> simp [spot]

theorem look_bare (h : Clear t key) (k : List String) :
    (bare key t).look k =
      if k <+: key then some .folder else if key <+: k then none else t.look k := by
  induction key generalizing t k with
  | nil => cases k <;> simp [bare, spot]
  | cons n rest ih =>
    cases t with
    | file id => simpa [spot] using h [] List.nil_prefix
    | link target => simpa [spot] using h [] List.nil_prefix
    | folder id entries =>
      cases k with
      | nil => simp [bare, spot]
      | cons c ks =>
        by_cases hc : c = n
        · subst hc
          simp only [bare, look_folder_cons, find?_setEntry, if_pos, Option.bind_some, ih h.child,
            List.cons_prefix_cons, true_and]
          cases hf : find? c entries with
          | some child => simp
          | none => cases ks <;> simp
        · simp [bare, look_folder_cons, find?_setEntry, hc, Ne.symm hc]

/-- Where a folder is missing, its bare form adds to the tree and changes nothing. -/
theorem extends_bare (h : Clear t key) (hn : t.look key = none) : Extends t (bare key t) := by
  intro k x hx
  rw [look_bare h]
  by_cases hk : k <+: key
  · rw [if_pos hk]
    rcases h k hk with hnone | hfolder
    · rw [hnone] at hx
      cases hx
    · rw [← hfolder, hx]
  · by_cases hb : key <+: k
    · rw [look_none_below hb hn] at hx
      cases hx
    · rw [if_neg hk, if_neg hb, hx]

end FileTree

end KernelForge
