import KernelForge.Proofs.Digest.Hexadecimal
import KernelForge.Text.Blank

/-!
Digests from texts and from readers.

Each byte of a digest is read from two characters as a numeral, and a numeral may have a plus sign, which
stands where a digit is meant (`read_pair`). So more texts are read than are written, and what is read from
them is written with small letters, and with zeros for signs (`hex_exact`).

A reader delivers bytes in chunks of any sizes up to the first empty one, and only their concatenation matters
(`reads_exact`).
-/
namespace KernelForge.Digest

open Text.Numeral

variable {a b c : Char} {cs : List Char} {n : Nat} {s : String} {d : Digest} {bytes : List UInt8}

/-! ### Digits -/

/-- The digits in base sixteen, in small and in capital letters. -/
def IsHexDigit (c : Char) : Prop := '0' ≤ c ∧ c ≤ '9' ∨ 'a' ≤ c ∧ c ≤ 'f' ∨ 'A' ≤ c ∧ c ≤ 'F'

instance (c : Char) : Decidable (IsHexDigit c) := inferInstanceAs (Decidable (_ ∨ _))

theorem digit_ascii : ∀ n : Fin 128, ((digit? 16 (Char.ofNat n.val)).isSome ↔ IsHexDigit (Char.ofNat n.val)) ∧
    (digit? 16 (Char.ofNat n.val)).all fun x => x < 16 && hexDigit x = (Char.ofNat n.val).toLower := by
  decide +kernel

/-- A digit is read as the value that is written by it in small letters. -/
theorem digit_spec (c : Char) : ((digit? 16 c).isSome ↔ IsHexDigit c) ∧
    ∀ x, digit? 16 c = some x → x < 16 ∧ hexDigit x = c.toLower := by
  by_cases h : c.toNat < 128
  · have hall := digit_ascii ⟨c.toNat, h⟩
    simp only [Char.ofNat_toNat] at hall
    exact ⟨hall.1, fun x hx => by simpa [hx] using hall.2⟩
  · have hbeyond (m : Char) (hm : m.toNat < 128) : ¬c ≤ m := fun hle => h (Nat.lt_of_le_of_lt hle hm)
    simp [digit?, IsHexDigit, hbeyond '9' (by decide), hbeyond 'f' (by decide), hbeyond 'F' (by decide)]

/-! ### Pairs -/

/-- Two digits, or a digit with a sign before it. -/
def IsPair (a b : Char) : Prop := (a = '+' ∨ IsHexDigit a) ∧ IsHexDigit b

/-- The characters of a text are pairs. -/
def IsPaired : List Char → Prop
  | a :: b :: rest => IsPair a b ∧ IsPaired rest
  | _ => True

/-- How a character that was read is written: small, and a zero for a sign. -/
def shown (c : Char) : Char := if c = '+' then '0' else c.toLower

theorem read_pair : read? 16 256 [a, b] = some n ↔
    ∃ x y, (if a = '+' then some 0 else digit? 16 a) = some x ∧ digit? 16 b = some y ∧ x * 16 + y = n := by
  have hfits {x y : Nat} (hx : x < 16) (hb : digit? 16 b = some y) : x * 16 + y < 256 := by
    have := ((digit_spec b).2 y hb).1
    omega
  by_cases ha : a = '+'
  · subst ha
    cases hb : digit? 16 b with
    | none => simp [read?, digits?, readFrom, hb]
    | some y =>
      have hy : y < 256 := by simpa using hfits (by decide : 0 < 16) hb
      simp [read?, digits?, readFrom, hb, Option.filter, hy]
  · cases hb : digit? 16 b with
    | none => cases hx : digit? 16 a <;> simp [read?, digits?, readFrom, ha, hb, hx]
    | some y =>
      cases hx : digit? 16 a with
      | none => simp [read?, digits?, readFrom, ha, hx]
      | some x =>
        simp [read?, digits?, readFrom, ha, hb, hx, Option.filter, hfits ((digit_spec a).2 x hx).1 hb]

theorem isSome_read_pair : (read? 16 256 [a, b]).isSome ↔ IsPair a b := by
  simp only [Option.isSome_iff_exists, read_pair, IsPair, ← (digit_spec _).1]
  by_cases ha : a = '+'
  · simp [ha]
  · simp only [ha, if_false, false_or]
    exact ⟨fun ⟨_, x, y, hx, hy, _⟩ => ⟨⟨x, hx⟩, y, hy⟩, fun ⟨⟨x, hx⟩, y, hy⟩ => ⟨_, x, y, hx, hy, rfl⟩⟩

theorem byteHex_read (h : read? 16 256 [a, b] = some n) : byteHex n.toUInt8 = [shown a, shown b] := by
  obtain ⟨x, y, hx, hy, rfl⟩ := read_pair.mp h
  have hb := (digit_spec b).2 y hy
  have hplus : b ≠ '+' := by
    rintro rfl
    cases hy
  have ha : x < 16 ∧ hexDigit x = shown a := by
    unfold shown
    split at hx
    · next hsign =>
      cases hx
      rw [if_pos hsign]
      decide
    · next hsign =>
      rw [if_neg hsign]
      exact (digit_spec a).2 x hx
  have hvalue : (x * 16 + y).toUInt8.toNat = x * 16 + y := UInt8.toNat_ofNat_of_lt' (by simp [UInt8.size]; omega)
  rw [byteHex, hvalue, ← ha.2, shown, if_neg hplus, ← hb.2]
  simp only [hex, List.nil_append, List.singleton_append]
  rw [show (x * 16 + y) / 16 % 16 = x by omega, show (x * 16 + y) % 16 = y by omega]

theorem isSome_readPairs : (readPairs cs).isSome ↔ IsPaired cs := by
  fun_induction readPairs cs with
  | case1 a b rest n hread ih => simp [IsPaired, ← ih, ← isSome_read_pair, hread]
  | case2 a b rest hread => simp [IsPaired, ← isSome_read_pair, hread]
  | case3 cs hshort => simp [IsPaired]

/-- Only the empty text has an even length and no pair. -/
theorem eq_nil_of_no_pair (hshort : ∀ a b rest, cs = a :: b :: rest → False) (heven : cs.length % 2 = 0) :
    cs = [] := by
  match cs with
  | [] => rfl
  | [_] => simp at heven
  | a :: b :: rest => exact absurd rfl (hshort a b rest)

theorem readPairs_shown (h : readPairs cs = some bytes) (heven : cs.length % 2 = 0) :
    bytes.flatMap byteHex = cs.map shown := by
  fun_induction readPairs cs generalizing bytes with
  | case1 a b rest n hread ih =>
    obtain ⟨more, hmore, rfl⟩ := Option.map_eq_some_iff.mp h
    rw [List.flatMap_cons, byteHex_read hread, ih hmore (by simpa [Nat.add_assoc] using heven)]
    rfl
  | case2 => cases h
  | case3 cs hshort =>
    cases h
    rw [eq_nil_of_no_pair hshort heven]
    rfl

/-- Without signs, pairs are digits. -/
theorem isPaired_of_no_sign (h : '+' ∉ cs) (heven : cs.length % 2 = 0) : IsPaired cs ↔ ∀ c ∈ cs, IsHexDigit c := by
  fun_induction IsPaired cs with
  | case1 a b rest ih =>
    simp only [List.mem_cons, not_or] at h
    rw [ih h.2.2 (by simpa [Nat.add_assoc] using heven), List.forall_mem_cons, List.forall_mem_cons, IsPair,
      or_iff_right (Ne.symm h.1), and_assoc]
  | case2 cs hshort => simp [eq_nil_of_no_pair hshort heven]

theorem ofHex?_eq_some (h : ofHex? s = some d) :
    s.toList.length = 32 ∧ IsPaired s.toList ∧ d.toHexChars = s.toList.map shown := by
  simp only [ofHex?] at h
  split at h
  · next hlength =>
    obtain ⟨bytes, hread, hlist⟩ := Option.bind_eq_some_iff.mp h
    refine ⟨hlength, isSome_readPairs.mp (by simp [hread]), ?_⟩
    unfold ofList? at hlist
    split at hlist
    · cases hlist
      exact readPairs_shown hread (by rw [hlength])
    · cases hlist
  · cases h

theorem exists_ofHex? (hlength : s.toList.length = 32) (hpaired : IsPaired s.toList) : ∃ d, ofHex? s = some d := by
  obtain ⟨bytes, hread⟩ := Option.isSome_iff_exists.mp (isSome_readPairs.mpr hpaired)
  have hcount := length_flatMap_byteHex bytes
  rw [readPairs_shown hread (by rw [hlength]), List.length_map, hlength] at hcount
  simp only [ofHex?, if_pos hlength, hread, Option.bind_some, ofList?]
  rw [dif_pos (by omega)]
  exact ⟨_, rfl⟩

/-- **Digests are read from thirty-two characters, a pair for each byte**: two digits, or a sign and a
digit. What is read is written with small letters and with zeros for signs. So the texts without signs that
are read are exactly those of thirty-two digits, and they are written as they are but for the case. A digest
is read back from its own text. -/
theorem hex_exact (s : String) :
    ((∃ d, ofHex? s = some d) ↔ s.toList.length = 32 ∧ IsPaired s.toList) ∧
    (∀ d, ofHex? s = some d → d.toHex = String.ofList (s.toList.map shown)) ∧
    ('+' ∉ s.toList → ((∃ d, ofHex? s = some d) ↔ s.toList.length = 32 ∧ ∀ c ∈ s.toList, IsHexDigit c) ∧
      ∀ d, ofHex? s = some d → d.toHex = Text.lower s) ∧
    ∀ d : Digest, ofHex? d.toHex = some d := by
  have hread : (∃ d, ofHex? s = some d) ↔ s.toList.length = 32 ∧ IsPaired s.toList := by
    constructor
    · rintro ⟨d, h⟩
      obtain ⟨hlength, hpaired, _⟩ := ofHex?_eq_some h
      exact ⟨hlength, hpaired⟩
    · rintro ⟨hlength, hpaired⟩
      exact exists_ofHex? hlength hpaired
  have hwritten : ∀ d, ofHex? s = some d → d.toHex = String.ofList (s.toList.map shown) :=
    fun d h => congrArg String.ofList (ofHex?_eq_some h).2.2
  refine ⟨hread, hwritten, fun hsign => ⟨hread.trans (and_congr_right fun hlength => ?_), fun d h => ?_⟩,
    ofHex?_toHexChars⟩
  · exact isPaired_of_no_sign hsign (by rw [hlength])
  · have hsmall : s.toList.map shown = s.toList.map Char.toLower :=
      List.map_congr_left fun c hc => if_neg (by grind)
    rw [hwritten d h, hsmall, Text.lower]

/-- Capital letters are read as small ones. -/
theorem hex_exact_capitals : ∃ d, ofHex? "00FFaAbBcCdDeEfF0123456789ABCDEF" = some d ∧
    d.toHex = "00ffaabbccddeeff0123456789abcdef" ∧ ofHex? d.toHex = some d := by
  obtain ⟨_, _, hplain, hback⟩ := hex_exact "00FFaAbBcCdDeEfF0123456789ABCDEF"
  obtain ⟨hdigits, hlower⟩ := hplain (by decide)
  have hall : ("00FFaAbBcCdDeEfF0123456789ABCDEF".toList.all fun c => decide (IsHexDigit c)) = true :=
    by decide +kernel
  obtain ⟨d, hd⟩ := hdigits.mpr ⟨rfl, fun c hc => of_decide_eq_true (List.all_eq_true.mp hall c hc)⟩
  exact ⟨d, hd, hlower d hd, hback d⟩

/-- A sign is no digit, but is read where one is meant. -/
theorem signs_read :
    (ofHex? "+f+f+f+f+f+f+f+f+f+f+f+f+f+f+f+f").map toHex = some "0f0f0f0f0f0f0f0f0f0f0f0f0f0f0f0f" ∧
    ¬∀ c ∈ "+f+f+f+f+f+f+f+f+f+f+f+f+f+f+f+f".toList, IsHexDigit c :=
  ⟨by decide +kernel, fun h => absurd (h '+' (by simp)) (by decide)⟩

/-! ### Readers -/

variable {ε : Type} {reads : List (Except ε ByteArray)} {data : ByteArray} {e : ε}

/-- What reads deliver: their chunks up to the first empty one, or to the last. -/
inductive Delivers : List (Except ε ByteArray) → ByteArray → Prop
  | done : Delivers [] .empty
  | stop {chunk : ByteArray} {rest : List (Except ε ByteArray)} (h : chunk.size = 0) :
    Delivers (.ok chunk :: rest) .empty
  | chunk {chunk data : ByteArray} {rest : List (Except ε ByteArray)} (h : chunk.size ≠ 0)
    (hrest : Delivers rest data) :
      Delivers (.ok chunk :: rest) (chunk ++ data)

/-- A read fails before an empty one. -/
inductive Fails : List (Except ε ByteArray) → ε → Prop
  | here {e : ε} {rest : List (Except ε ByteArray)} : Fails (.error e :: rest) e
  | later {chunk : ByteArray} {e : ε} {rest : List (Except ε ByteArray)} (h : chunk.size ≠ 0)
    (hrest : Fails rest e) :
      Fails (.ok chunk :: rest) e

theorem drain_delivers (h : Delivers reads data) (intake : Intake) :
    intake.drain reads = .ok (ofBytes (intake.received ++ data)) := by
  induction h generalizing intake with
  | done => simp [Intake.drain, Intake.finish]
  | stop h => simp [Intake.drain, Intake.finish, h]
  | chunk h _ ih => rw [Intake.drain, if_neg h, ih, Intake.add, ByteArray.append_assoc]

theorem drain_fails (h : Fails reads e) (intake : Intake) : intake.drain reads = .error e := by
  induction h generalizing intake with
  | here => rfl
  | later h _ ih => rw [Intake.drain, if_neg h, ih]

theorem delivers_or_fails (reads : List (Except ε ByteArray)) : (∃ data, Delivers reads data) ∨
    ∃ e, Fails reads e := by
  induction reads with
  | nil => exact .inl ⟨_, .done⟩
  | cons read rest ih =>
    cases read with
    | error e => exact .inr ⟨e, .here⟩
    | ok chunk =>
      by_cases h : chunk.size = 0
      · exact .inl ⟨_, .stop h⟩
      · rcases ih with ⟨data, hdata⟩ | ⟨e, he⟩
        · exact .inl ⟨_, .chunk h hdata⟩
        · exact .inr ⟨e, .later h he⟩

/-- **A digest that is read in chunks is that of the bytes**, however a reader delivers them, and a read
that fails before the end is what comes of it, whatever was delivered before. -/
theorem reads_exact (reads : List (Except ε ByteArray)) :
    (∀ digest, ofReads reads = .ok digest ↔ ∃ data, Delivers reads data ∧ ofBytes data = digest) ∧
      ∀ e, ofReads reads = .error e ↔ Fails reads e := by
  have hok {data : ByteArray} (h : Delivers reads data) : ofReads reads = .ok (ofBytes data) := by
    rw [ofReads, drain_delivers h, ByteArray.empty_append]
  have herror {e : ε} (h : Fails reads e) : ofReads reads = .error e := drain_fails h _
  refine ⟨fun digest => ⟨fun h => ?_, fun ⟨_, hdata, hdigest⟩ => hdigest ▸ hok hdata⟩, fun e =>
    ⟨fun h => ?_, herror⟩⟩
  · rcases delivers_or_fails reads with ⟨data, hdata⟩ | ⟨e, he⟩
    · exact ⟨data, hdata, Except.ok.inj ((hok hdata).symm.trans h)⟩
    · cases (herror he).symm.trans h
  · rcases delivers_or_fails reads with ⟨data, hdata⟩ | ⟨e, he⟩
    · cases (hok hdata).symm.trans h
    · cases (herror he).symm.trans h
      exact he

end KernelForge.Digest
