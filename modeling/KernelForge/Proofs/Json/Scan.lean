import KernelForge.Json.Token

/-!
Scanning what was written.

The characters of a token are scanned to that token again (`scan_chars`). A number or a word ends where
something else begins, so the text after a token has to break it off (`Breaks`); everything a JSON text puts
after a value does. Numbers are the only tokens whose characters may be wrong (`Spelled`).
-/
namespace KernelForge.Json.Token

/-- A token that is written as it is read. -/
def Spelled : Token → Prop
  | .number lexeme => isNumber lexeme = true
  | _ => True

/-- A text that ends a word or a number before it. -/
def Breaks : List Char → Prop
  | [] => True
  | c :: _ => isNumberChar c = false ∧ c.isLower = false

/-! ### Numbers -/

variable {cs rest lexeme : List Char} {c : Char} {t : Token}

theorem digitRow_eq_some (h : digitRow cs = some rest) :
    ∃ ds, cs = ds ++ rest ∧ ds ≠ [] ∧ ∀ c ∈ ds, c.isDigit = true := by
  unfold digitRow at h
  split at h
  · cases h
  · next hne =>
    cases h
    refine ⟨cs.takeWhile Char.isDigit, List.takeWhile_append_dropWhile.symm, by simpa using hne, ?_⟩
    intro c hc
    exact List.all_eq_true.mp List.all_takeWhile c hc

/-- Every character before the rest belongs to numbers. -/
def NumberBefore (cs rest : List Char) : Prop :=
  ∃ ds, cs = ds ++ rest ∧ ∀ c ∈ ds, isNumberChar c = true

theorem NumberBefore.refl (cs : List Char) : NumberBefore cs cs :=
  ⟨[], rfl, by simp⟩

theorem NumberBefore.trans {a b c : List Char} (h : NumberBefore a b) (h' : NumberBefore b c) :
    NumberBefore a c := by
  obtain ⟨ds, rfl, hds⟩ := h
  obtain ⟨es, rfl, hes⟩ := h'
  refine ⟨ds ++ es, (List.append_assoc ..).symm, fun x hx => ?_⟩
  rcases List.mem_append.mp hx with hx | hx
  · exact hds x hx
  · exact hes x hx

theorem NumberBefore.cons (hc : isNumberChar c = true) (h : NumberBefore cs rest) :
    NumberBefore (c :: cs) rest := by
  obtain ⟨ds, rfl, hds⟩ := h
  refine ⟨c :: ds, rfl, fun x hx => ?_⟩
  rcases List.mem_cons.mp hx with rfl | hx
  · exact hc
  · exact hds x hx

theorem isNumberChar_of_isDigit (h : c.isDigit = true) : isNumberChar c = true := by
  simp [isNumberChar, h]

theorem numberBefore_digitRow (h : digitRow cs = some rest) : NumberBefore cs rest := by
  obtain ⟨ds, hcs, _, hds⟩ := digitRow_eq_some h
  exact ⟨ds, hcs, fun c hc => isNumberChar_of_isDigit (hds c hc)⟩

theorem numberBefore_dropFraction (h : dropFraction cs = some rest) : NumberBefore cs rest := by
  unfold dropFraction at h
  split at h
  · exact (numberBefore_digitRow h).cons (by decide)
  · cases h
    exact .refl cs

theorem numberBefore_dropExponent (h : dropExponent cs = some rest) : NumberBefore cs rest := by
  unfold dropExponent at h
  split at h
  · cases h
    exact .refl []
  · next c more =>
    split at h
    · next hc =>
      have hnumber : isNumberChar c = true := by rcases hc with rfl | rfl <;> decide
      refine .cons hnumber ?_
      split at h
      · exact (numberBefore_digitRow h).cons (by decide)
      · exact (numberBefore_digitRow h).cons (by decide)
      · exact numberBefore_digitRow h
    · cases h
      exact .refl _

theorem dropInteger_eq_some (h : dropInteger cs = some rest) :
    ∃ d ds, cs = d :: (ds ++ rest) ∧ d.isDigit = true ∧ ∀ c ∈ ds, c.isDigit = true := by
  unfold dropInteger at h
  split at h
  · cases h
    exact ⟨'0', [], rfl, by decide, by simp⟩
  · obtain ⟨ds, rfl, hne, hds⟩ := digitRow_eq_some h
    cases ds with
    | nil => exact absurd rfl hne
    | cons d ds =>
      exact ⟨d, ds, rfl, hds d List.mem_cons_self, fun c hc => hds c (List.mem_cons_of_mem _ hc)⟩

/-- A number starts with a digit or a minus sign, and the rest of it are characters of numbers. -/
theorem isNumber_chars (h : isNumber lexeme = true) :
    ∃ c rest, lexeme = c :: rest ∧ (c.isDigit || c = '-') = true ∧
      ∀ x ∈ rest, isNumberChar x = true := by
  have hunsigned : ∀ cs, ((dropInteger cs).bind dropFraction).bind dropExponent = some [] →
      ∃ d ds, cs = d :: ds ∧ d.isDigit = true ∧ ∀ x ∈ ds, isNumberChar x = true := by
    intro cs hcs
    obtain ⟨fraction, hfraction, hexponent⟩ := Option.bind_eq_some_iff.mp hcs
    obtain ⟨integer, hinteger, hdrop⟩ := Option.bind_eq_some_iff.mp hfraction
    obtain ⟨d, ds, rfl, hd, hds⟩ := dropInteger_eq_some hinteger
    obtain ⟨es, hes, hnumber⟩ := (numberBefore_dropFraction hdrop).trans (numberBefore_dropExponent hexponent)
    refine ⟨d, ds ++ integer, rfl, hd, fun x hx => ?_⟩
    rcases List.mem_append.mp hx with hx | hx
    · exact isNumberChar_of_isDigit (hds x hx)
    · exact hnumber x (by simpa [hes] using hx)
  unfold isNumber at h
  simp only [beq_iff_eq] at h
  split at h
  · next rest =>
    obtain ⟨d, ds, rfl, hd, hds⟩ := hunsigned rest h
    refine ⟨'-', d :: ds, rfl, by decide, fun x hx => ?_⟩
    rcases List.mem_cons.mp hx with rfl | hx
    · exact isNumberChar_of_isDigit hd
    · exact hds x hx
  · obtain ⟨d, ds, rfl, hd, hds⟩ := hunsigned lexeme h
    exact ⟨d, ds, rfl, by simp [hd], hds⟩

theorem scan_inNumber (ts : List Token) (acc cs rest : List Char) (h : ∀ c ∈ cs, isNumberChar c = true) :
    scanFrom ts (.inNumber acc) (cs ++ rest) = scanFrom ts (.inNumber (cs.reverse ++ acc)) rest := by
  induction cs generalizing acc with
  | nil => rfl
  | cons c cs ih =>
    have hc := h c List.mem_cons_self
    simp only [List.cons_append, scanFrom, advance, hc, if_true]
    rw [ih (c :: acc) fun x hx => h x (List.mem_cons_of_mem _ hx)]
    simp

theorem scan_number_end (ts : List Token) {acc : List Char} (hn : isNumber acc.reverse = true) (hr : Breaks rest) :
    scanFrom ts (.inNumber acc) rest = scanFrom (.number acc.reverse :: ts) .between rest := by
  cases rest with
  | nil => simp [scanFrom, finish, hn]
  | cons c rest => simp [scanFrom, advance, hn, hr.1]

theorem start_number (ts : List Token) (h : (c.isDigit || c = '-') = true) :
    start ts c = some (.inNumber [c], ts) := by
  have hc : c.isDigit = true ∨ c = '-' := by simpa using h
  rcases hc with hdigit | rfl
  · -- A digit is none of the characters that start something else.
    have hne : ∀ x : Char, x.isDigit = false → c ≠ x := by
      rintro x hx rfl
      rw [hdigit] at hx
      cases hx
    simp [start, isSpace, hdigit, hne ' ' rfl, hne '\t' rfl, hne '\n' rfl, hne '\r' rfl, hne '\x7b' rfl,
      hne '\x7d' rfl, hne '[' rfl, hne ']' rfl, hne ':' rfl, hne ',' rfl, hne '"' rfl]
  · rfl

theorem scan_number (ts : List Token) (hn : isNumber lexeme = true) (hr : Breaks rest) :
    scanFrom ts .between (lexeme ++ rest) = scanFrom (.number lexeme :: ts) .between rest := by
  obtain ⟨c, cs, rfl, hc, hcs⟩ := isNumber_chars hn
  rw [List.cons_append]
  simp only [scanFrom, advance, start_number ts hc]
  have hback : (cs.reverse ++ [c]).reverse = c :: cs := by simp
  rw [scan_inNumber ts [c] cs rest hcs, scan_number_end ts (hback ▸ hn) hr, hback]

/-! ### Words -/

theorem scan_word_end (ts : List Token) {letters : List Char} (ht : ofWord? letters.reverse = some t)
    (hr : Breaks rest) :
    scanFrom ts (.inWord letters) rest = scanFrom (t :: ts) .between rest := by
  cases rest with
  | nil => simp [scanFrom, finish, ht]
  | cons c rest => simp [scanFrom, advance, ht, hr.2]

/-! ### Strings -/

/-- The four digits of a small code, read back. -/
theorem digits_of_small (n : Nat) (h : n < 32) :
    ∃ a b, Text.Numeral.hex 4 n = ['0', '0', a, b] ∧ Text.Numeral.digit? 16 a = some (n / 16) ∧
      Text.Numeral.digit? 16 b = some (n % 16) := by
  refine ⟨Text.Numeral.hexDigit (n / 16 % 16), Text.Numeral.hexDigit (n % 16), ?_, ?_⟩
  · revert n
    decide
  · revert n
    decide

theorem ofNat_eq {n : Nat} (h : c.toNat = n) : Char.ofNat n = c := by
  rw [← h, Char.ofNat_toNat]

/-- A character inside a string is scanned back to itself, escaped or not. -/
theorem scan_quoteChar (ts : List Token) (acc : List Char) (c : Char) (rest : List Char) :
    scanFrom ts (.inText (some acc) none) (quoteChar c ++ rest) =
      scanFrom ts (.inText (some (c :: acc)) none) rest := by
  fun_cases quoteChar c with
  | case3 _ _ h | case4 _ _ _ h => rw [← ofNat_eq h]; rfl
  | case8 _ _ _ _ _ _ _ hsmall =>
    obtain ⟨a, b, hhex, ha, hb⟩ := digits_of_small c.toNat hsmall
    have hzero : Text.Numeral.digit? 16 '0' = some 0 := by decide
    have hvalue : c.toNat / 16 * 16 + c.toNat % 16 = c.toNat := by omega
    have hlow : ¬(55296 ≤ c.toNat ∧ c.toNat < 56320) := by omega
    have hhigh : ¬(56320 ≤ c.toNat ∧ c.toNat < 57344) := by omega
    rw [hhex]
    simp [scanFrom, advance, hzero, ha, hb, hvalue, takeUnit, hlow, hhigh, extend, Char.ofNat_toNat]
  | case9 hquote hslash _ _ _ _ _ hplain => simp [scanFrom, advance, hquote, hslash, hplain, extend]
  | _ => subst_vars; rfl

theorem scan_quoteChars (ts : List Token) (acc cs rest : List Char) :
    scanFrom ts (.inText (some acc) none) (cs.flatMap quoteChar ++ rest) =
      scanFrom ts (.inText (some (cs.reverse ++ acc)) none) rest := by
  induction cs generalizing acc with
  | nil => rfl
  | cons c cs ih =>
    rw [List.flatMap_cons, List.append_assoc, scan_quoteChar, ih]
    simp

theorem scan_quote (ts : List Token) (content : Option String) (rest : List Char) :
    scanFrom ts .between (quote content ++ rest) = scanFrom (.text content :: ts) .between rest := by
  cases content with
  | none => rfl
  | some s =>
    have hstart : scanFrom ts .between (quote (some s) ++ rest) =
        scanFrom ts (.inText (some []) none) (s.toList.flatMap quoteChar ++ ('"' :: rest)) := by
      simp [quote, scanFrom, advance, start, isSpace]
    rw [hstart, scan_quoteChars]
    simp [scanFrom, advance, close]

/-! ### Tokens -/

/-- **The characters of a token are scanned to that token.** -/
theorem scan_chars (ts : List Token) (ht : t.Spelled) (hr : Breaks rest) :
    scanFrom ts .between (t.chars ++ rest) = scanFrom (t :: ts) .between rest := by
  cases t with
  | openBrace => rfl
  | closeBrace => rfl
  | openBracket => rfl
  | closeBracket => rfl
  | colon => rfl
  | comma => rfl
  | null =>
    show scanFrom ts (.inWord ['l', 'l', 'u', 'n']) rest = _
    exact scan_word_end ts rfl hr
  | bool value =>
    cases value with
    | true =>
      show scanFrom ts (.inWord ['e', 'u', 'r', 't']) rest = _
      exact scan_word_end ts rfl hr
    | false =>
      show scanFrom ts (.inWord ['e', 's', 'l', 'a', 'f']) rest = _
      exact scan_word_end ts rfl hr
  | number lexeme => exact scan_number ts ht hr
  | text content => exact scan_quote ts content rest

theorem scan_spaces (ts : List Token) (n : Nat) (rest : List Char) :
    scanFrom ts .between (List.replicate n ' ' ++ rest) = scanFrom ts .between rest := by
  induction n with
  | zero => rfl
  | succ n ih =>
    rw [List.replicate_succ, List.cons_append]
    exact ih

end KernelForge.Json.Token
