import KernelForge.Text.Blank

/-!
Sets of texts, kept as strictly ascending lists, so that equal sets are equal values.
-/
namespace KernelForge

/-- Puts a text into an ascending list, unless it is there. -/
def insertFlag (s : String) : List String → List String
  | [] => [s]
  | t :: rest =>
    if s < t then s :: t :: rest
    else if s = t then t :: rest
    else t :: insertFlag s rest

theorem mem_insertFlag {s x : String} {l : List String} : x ∈ insertFlag s l ↔ x = s ∨ x ∈ l := by
  induction l with
  | nil => simp [insertFlag]
  | cons t rest ih =>
    unfold insertFlag
    split
    · simp
    · split
      · next h => simp [h]
      · simp only [List.mem_cons, ih]
        constructor
        · rintro (h | h | h) <;> simp [h]
        · rintro (h | h | h) <;> simp [h]

theorem pairwise_insertFlag {s : String} {l : List String} (h : l.Pairwise (· < ·)) :
    (insertFlag s l).Pairwise (· < ·) := by
  induction l with
  | nil => simp [insertFlag]
  | cons t rest ih =>
    obtain ⟨ht, hrest⟩ := List.pairwise_cons.1 h
    unfold insertFlag
    split
    · next hs =>
      refine List.pairwise_cons.2 ⟨fun x hx => ?_, h⟩
      rcases List.mem_cons.1 hx with rfl | hx
      · exact hs
      · exact String.lt_trans hs (ht x hx)
    · split
      · exact h
      · next hlt hne =>
        refine List.pairwise_cons.2 ⟨fun x hx => ?_, ih hrest⟩
        rcases mem_insertFlag.1 hx with rfl | hx
        · exact Decidable.byContradiction fun h =>
            hne (String.le_antisymm (String.not_lt.1 h) (String.not_lt.1 hlt))
        · exact ht x hx

/-- A set of texts. -/
structure FlagSet where
  toList : List String
  ascending : toList.Pairwise (· < ·)
deriving DecidableEq

namespace FlagSet

def empty : FlagSet := ⟨[], .nil⟩

def insert (s : String) (flags : FlagSet) : FlagSet :=
  ⟨insertFlag s flags.toList, pairwise_insertFlag flags.ascending⟩

def insertAll (flags : FlagSet) (texts : List String) : FlagSet :=
  texts.foldl (fun set s => set.insert s) flags

def ofList (texts : List String) : FlagSet :=
  empty.insertAll texts

end FlagSet

end KernelForge
