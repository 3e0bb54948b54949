import KernelForge.Text.Numeral

/-!
Numerals and what they say.

A row of digits is read as its value, and nothing else is read (`digits?_eq_some_iff`). `IsNumeral` are the
numerals of a number, with or without a plus sign and with any leading zeros; a word is read exactly from
those of numbers that it can hold (`word64?_eq_some_iff`). A number is written in digits that are one of its
numerals (`isNumeral_decimal`).
-/
namespace KernelForge.Text.Numeral

/-! ### Digits -/

variable {c : Char} {cs : List Char} {n : Nat}

theorem digit?_of_isDigit (h : c.isDigit = true) : digit? 10 c = some (c.toNat - '0'.toNat) := by
  have hrange : '0' ≤ c ∧ c ≤ '9' := by simpa [Char.isDigit, Char.le_def] using h
  have hsmall : c.toNat - '0'.toNat < 10 := by
    have hle : c.toNat ≤ '9'.toNat := hrange.2
    simp only [show '9'.toNat = 57 from rfl, show '0'.toNat = 48 from rfl] at hle ⊢
    omega
  simp only [digit?, if_pos hrange, Option.filter, decide_eq_true hsmall, if_true]

theorem isDigit_of_digit? {d : Nat} (h : digit? 10 c = some d) : c.isDigit = true := by
  by_cases hrange : '0' ≤ c ∧ c ≤ '9'
  · simpa [Char.isDigit, Char.le_def] using hrange
  · -- A letter counts ten or more.
    obtain ⟨hvalue, hsmall⟩ := Option.filter_eq_some_iff.mp h
    rw [if_neg hrange] at hvalue
    have hten : d < 10 := of_decide_eq_true hsmall
    split at hvalue
    · have := Option.some.inj hvalue
      omega
    · split at hvalue
      · have := Option.some.inj hvalue
        omega
      · cases hvalue

theorem readFrom_digits (h : ∀ c ∈ cs, c.isDigit = true) (acc : Nat) :
    readFrom 10 acc cs = some (Nat.ofDigitChars 10 cs acc) := by
  induction cs generalizing acc with
  | nil => rfl
  | cons c cs ih =>
    rw [readFrom, digit?_of_isDigit (h c List.mem_cons_self)]
    simp only
    rw [ih fun x hx => h x (List.mem_cons_of_mem _ hx), Nat.mul_comm]
    rfl

theorem isDigit_of_readFrom {acc : Nat} (h : readFrom 10 acc cs = some n) : ∀ c ∈ cs, c.isDigit = true := by
  induction cs generalizing acc with
  | nil => simp
  | cons c cs ih =>
    rw [readFrom] at h
    split at h
    · next hd => exact List.forall_mem_cons.mpr ⟨isDigit_of_digit? hd, ih h⟩
    · cases h

theorem digits?_eq_some_iff : digits? 10 cs = some n ↔
    cs ≠ [] ∧ (∀ c ∈ cs, c.isDigit = true) ∧ Nat.ofDigitChars 10 cs 0 = n := by
  cases cs with
  | nil => simp [digits?]
  | cons c cs =>
    refine ⟨fun h => ?_, fun ⟨_, hdigits, hvalue⟩ => ?_⟩
    · have hdigits := isDigit_of_readFrom h
      exact ⟨by simp, hdigits, Option.some.inj ((readFrom_digits hdigits 0).symm.trans h)⟩
    · rw [digits?, readFrom_digits hdigits, hvalue]
      simp

/-! ### Decimal texts -/

theorem isDigit_decimal (h : c ∈ decimal n) : c.isDigit = true :=
  Nat.isDigit_of_mem_toDigits (by decide) (by decide) h

theorem digits?_decimal (n : Nat) : digits? 10 (decimal n) = some n :=
  digits?_eq_some_iff.mpr ⟨Nat.toDigits_ne_nil, fun _ hc => isDigit_decimal hc, Nat.ofDigitChars_ten_toDigits⟩

theorem decimal_inj {m : Nat} (h : decimal n = decimal m) : n = m := by
  rw [← Nat.ofDigitChars_ten_toDigits (n := n), ← Nat.ofDigitChars_ten_toDigits (n := m)]
  exact congrArg (Nat.ofDigitChars 10 · 0) h

/-- The decimal digits of a number other than zero do not start with a zero. -/
theorem decimal_start (h : n ≠ 0) : ∃ c cs, decimal n = c :: cs ∧ c ≠ '0' := by
  induction n using Nat.strongRecOn with
  | ind n ih =>
    unfold decimal at ih ⊢
    rw [Nat.toDigits_eq_if (by decide)]
    split
    · next hlt =>
      refine ⟨n.digitChar, [], rfl, ?_⟩
      have hall : ∀ m, m < 10 → m ≠ 0 → m.digitChar ≠ '0' := by decide
      exact hall n hlt h
    · next hge =>
      obtain ⟨c, cs, hcs, hc⟩ := ih (n / 10) (by omega) (by omega)
      exact ⟨c, cs ++ [(n % 10).digitChar], by rw [hcs]; rfl, hc⟩

/-- A hexadecimal text is made of hexadecimal digits. -/
theorem mem_hex {width : Nat} (h : c ∈ hex width n) : ∃ m, m < 16 ∧ c = hexDigit m := by
  induction width generalizing n with
  | zero => cases h
  | succ width ih =>
    rw [hex, List.mem_append, List.mem_singleton] at h
    rcases h with h | h
    · exact ih h
    · exact ⟨n % 16, Nat.mod_lt n (by decide), h⟩

/-! ### Numerals of a number -/

/-- The numerals of a number: digits with its value, and a plus sign before them or none. -/
def IsNumeral (cs : List Char) (n : Nat) : Prop :=
  ∃ digits, (cs = digits ∨ cs = '+' :: digits) ∧ digits ≠ [] ∧ (∀ c ∈ digits, c.isDigit = true) ∧
    Nat.ofDigitChars 10 digits 0 = n

theorem IsNumeral.not_mem (h : IsNumeral cs n) (hdigit : c.isDigit = false) (hplus : c ≠ '+') : c ∉ cs := by
  obtain ⟨digits, hcs, _, hdigits, _⟩ := h
  have hnot : c ∉ digits := fun hc => by simp [hdigits c hc] at hdigit
  rcases hcs with rfl | rfl
  · exact hnot
  · simp [hplus, hnot]

theorem isNumeral_decimal (n : Nat) : IsNumeral (decimal n) n :=
  ⟨decimal n, .inl rfl, digits?_eq_some_iff.mp (digits?_decimal n)⟩

theorem read?_eq_some_iff {limit : Nat} : read? 10 limit cs = some n ↔ IsNumeral cs n ∧ n < limit := by
  unfold read? IsNumeral
  split
  · next rest =>
    rw [Option.filter_eq_some_iff, digits?_eq_some_iff, decide_eq_true_eq]
    refine and_congr_left fun _ => ⟨fun h => ⟨rest, .inr rfl, h⟩, ?_⟩
    rintro ⟨digits, rfl | hplus, h⟩
    · exact absurd (h.2.1 '+' List.mem_cons_self) (by decide)
    · cases hplus
      exact h
  · next hplain =>
    rw [Option.filter_eq_some_iff, digits?_eq_some_iff, decide_eq_true_eq]
    refine and_congr_left fun _ => ⟨fun h => ⟨cs, .inl rfl, h⟩, ?_⟩
    rintro ⟨digits, rfl | rfl, h⟩
    · exact h
    · exact absurd rfl (hplain digits)

theorem word64?_eq_some_iff {n : UInt64} : word64? cs = some n ↔ IsNumeral cs n.toNat := by
  rw [word64?, Option.map_eq_some_iff]
  constructor
  · rintro ⟨m, hread, rfl⟩
    obtain ⟨hnumeral, hlimit⟩ := read?_eq_some_iff.mp hread
    rwa [UInt64.toNat_ofNat_of_lt' hlimit]
  · intro h
    exact ⟨n.toNat, read?_eq_some_iff.mpr ⟨h, n.toNat_lt_size⟩, UInt64.ofNat_toNat⟩

end KernelForge.Text.Numeral
