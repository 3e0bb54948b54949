import KernelForge.Formula.KernelSpec

/-!
Balanced parentheses, as a grammar.

A text is balanced if it is empty, or a character that is no parenthesis and a balanced text, or a balanced
text in parentheses and a balanced text after it. Counting what is open decides this (`balancedFrom_iff`). A
text that closes what is open when it starts is cut at the parentheses that close it (`Closes`).
-/
namespace KernelForge

/-- The texts with matching parentheses. -/
inductive Balanced : List Char → Prop
  | nil : Balanced []
  | char {c : Char} {rest : List Char} (hopen : c ≠ '(') (hclose : c ≠ ')') (hrest : Balanced rest) :
      Balanced (c :: rest)
  | group {inner rest : List Char} (hinner : Balanced inner) (hrest : Balanced rest) :
      Balanced ('(' :: (inner ++ ')' :: rest))

theorem balancedFrom_open (depth : Nat) (cs : List Char) :
    balancedFrom depth ('(' :: cs) = balancedFrom (depth + 1) cs := by
  simp [balancedFrom]

theorem balancedFrom_close (depth : Nat) (cs : List Char) :
    balancedFrom (depth + 1) (')' :: cs) = balancedFrom depth cs := by
  simp [balancedFrom]

variable {c : Char} {cs : List Char} {depth : Nat}

theorem balancedFrom_char (hopen : c ≠ '(') (hclose : c ≠ ')') (depth : Nat) (cs : List Char) :
    balancedFrom depth (c :: cs) = balancedFrom depth cs := by
  simp [balancedFrom, hopen, hclose]

/-- A balanced text leaves the count as it is. -/
theorem Balanced.balancedFrom_append (h : Balanced cs) (depth : Nat) (rest : List Char) :
    balancedFrom depth (cs ++ rest) = balancedFrom depth rest := by
  induction h generalizing depth rest with
  | nil => rfl
  | char hopen hclose _ ih => rw [List.cons_append, balancedFrom_char hopen hclose, ih]
  | group _ _ hinner hrest =>
    rw [List.cons_append, balancedFrom_open, List.append_assoc, hinner, List.cons_append, balancedFrom_close, hrest]

/-- Texts that close what is open: so many balanced texts with a closing parenthesis after each, and one
more. -/
def Closes : (depth : Nat) → List Char → Prop
  | 0, cs => Balanced cs
  | depth + 1, cs => ∃ a b, cs = a ++ ')' :: b ∧ Balanced a ∧ Closes depth b

theorem Closes.char (hopen : c ≠ '(') (hclose : c ≠ ')') (h : Closes depth cs) : Closes depth (c :: cs) := by
  cases depth with
  | zero => exact Balanced.char hopen hclose h
  | succ depth =>
    obtain ⟨a, b, rfl, ha, hb⟩ := h
    exact ⟨c :: a, b, rfl, .char hopen hclose ha, hb⟩

theorem Closes.group {inner : List Char} (hinner : Balanced inner) (h : Closes depth cs) :
    Closes depth ('(' :: (inner ++ ')' :: cs)) := by
  cases depth with
  | zero => exact Balanced.group hinner h
  | succ depth =>
    obtain ⟨a, b, rfl, ha, hb⟩ := h
    exact ⟨'(' :: (inner ++ ')' :: a), b, by simp, .group hinner ha, hb⟩

theorem closes_of_balancedFrom (h : balancedFrom depth cs = true) : Closes depth cs := by
  induction cs generalizing depth with
  | nil =>
    obtain rfl : depth = 0 := by simpa [balancedFrom] using h
    exact .nil
  | cons c cs ih =>
    by_cases hopen : c = '('
    · subst hopen
      rw [balancedFrom_open] at h
      obtain ⟨inner, rest, rfl, hinner, hrest⟩ := ih h
      exact .group hinner hrest
    · by_cases hclose : c = ')'
      · subst hclose
        cases depth with
        | zero => simp [balancedFrom] at h
        | succ depth =>
          rw [balancedFrom_close] at h
          exact ⟨[], cs, rfl, .nil, ih h⟩
      · rw [balancedFrom_char hopen hclose] at h
        exact (ih h).char hopen hclose

theorem balancedFrom_iff : balancedFrom 0 cs = true ↔ Balanced cs := by
  constructor
  · exact closes_of_balancedFrom
  · intro h
    simpa [balancedFrom] using h.balancedFrom_append 0 []

end KernelForge
