import KernelForge.Fingerprint.Encoding

/-!
Codes that can be told apart from what follows them.

A code is separable on some values (`Separable`) if two byte strings that begin with codes of such values are
equal only when the values are and the rests are. Numbers of a fixed width are separable, so are texts and lists
behind their lengths as long as these fit into eight bytes, and separable codes can be put one after another.
-/
namespace KernelForge.Encoding

/-- Whoever reads a code knows the value and where the rest begins. -/
def Separable {α : Type} (P : α → Prop) (code : α → List UInt8) : Prop :=
  ∀ x y rest rest', P x → P y → code x ++ rest = code y ++ rest' → x = y ∧ rest = rest'

/-! ### Numbers -/

theorem length_littleEndian (width n : Nat) : (littleEndian width n).length = width := by
  induction width generalizing n with
  | zero => rfl
  | succ width ih => rw [littleEndian, List.length_cons, ih]

theorem littleEndian_inj (width n m : Nat) (hn : n < 256 ^ width) (hm : m < 256 ^ width)
    (h : littleEndian width n = littleEndian width m) : n = m := by
  induction width generalizing n m with
  | zero =>
    rw [Nat.pow_zero] at hn hm
    omega
  | succ width ih =>
    rw [littleEndian, littleEndian, List.cons.injEq] at h
    obtain ⟨hlow, hhigh⟩ := h
    have hmod : n % 256 = m % 256 := by
      have := congrArg UInt8.toNat hlow
      simpa using this
    have hdiv : n / 256 = m / 256 := by
      apply ih _ _ _ _ hhigh
      · rw [Nat.div_lt_iff_lt_mul (by decide)]
        rwa [Nat.pow_succ] at hn
      · rw [Nat.div_lt_iff_lt_mul (by decide)]
        rwa [Nat.pow_succ] at hm
    omega

theorem separable_littleEndian (width : Nat) :
    Separable (fun n => n < 256 ^ width) (littleEndian width) := by
  intro n m rest rest' hn hm h
  have hlength : (littleEndian width n).length = (littleEndian width m).length := by
    rw [length_littleEndian, length_littleEndian]
  obtain ⟨hcode, hrest⟩ := List.append_inj h hlength
  exact ⟨littleEndian_inj width n m hn hm hcode, hrest⟩

theorem separable_word32 : Separable (fun _ => True) word32 := by
  intro x y rest rest' _ _ h
  obtain ⟨hnat, hrest⟩ := separable_littleEndian 4 _ _ _ _ x.toNat_lt y.toNat_lt h
  exact ⟨UInt32.toNat_inj.mp hnat, hrest⟩

theorem separable_word64 : Separable (fun _ => True) word64 := by
  intro x y rest rest' _ _ h
  obtain ⟨hnat, hrest⟩ := separable_littleEndian 8 _ _ _ _ x.toNat_lt y.toNat_lt h
  exact ⟨UInt64.toNat_inj.mp hnat, hrest⟩

theorem separable_count : Separable (fun n => n < 2 ^ 64) count := by
  intro n m rest rest' hn hm h
  exact separable_littleEndian 8 n m rest rest' hn hm h

/-! ### Texts and lists -/

theorem length_text_bytes (s : String) : s.toUTF8.data.toList.length = s.utf8ByteSize := by
  rw [Array.length_toList]
  exact String.size_toByteArray

theorem separable_text : Separable (fun s => s.utf8ByteSize < 2 ^ 64) text := by
  intro s t rest rest' hs ht h
  rw [text, text, List.append_assoc, List.append_assoc] at h
  obtain ⟨hsize, h⟩ := separable_count _ _ _ _ hs ht h
  have hlength : s.toUTF8.data.toList.length = t.toUTF8.data.toList.length := by
    rw [length_text_bytes, length_text_bytes, hsize]
  obtain ⟨hbytes, hrest⟩ := List.append_inj h hlength
  refine ⟨String.toByteArray_inj.mp ?_, hrest⟩
  exact ByteArray.ext (Array.toList_inj.mp hbytes)

/-- As many codes as there are on the other side can be taken off one by one. -/
theorem Separable.flatMap {α : Type} {P : α → Prop} {code : α → List UInt8} (hcode : Separable P code)
    (xs ys : List α) (rest rest' : List UInt8) (hx : ∀ x ∈ xs, P x) (hy : ∀ y ∈ ys, P y)
    (hlength : xs.length = ys.length) (h : xs.flatMap code ++ rest = ys.flatMap code ++ rest') :
    xs = ys ∧ rest = rest' := by
  induction xs generalizing ys with
  | nil =>
    cases ys with
    | nil => exact ⟨rfl, h⟩
    | cons y ys => cases hlength
  | cons x xs ih =>
    cases ys with
    | nil => cases hlength
    | cons y ys =>
      rw [List.flatMap_cons, List.flatMap_cons, List.append_assoc, List.append_assoc] at h
      obtain ⟨hhead, htail⟩ :=
        hcode x y _ _ (hx x (List.mem_cons_self ..)) (hy y (List.mem_cons_self ..)) h
      obtain ⟨hxs, hrest⟩ := ih ys (fun z hz => hx z (List.mem_cons_of_mem _ hz))
        (fun z hz => hy z (List.mem_cons_of_mem _ hz)) (Nat.succ.inj hlength) htail
      exact ⟨by rw [hhead, hxs], hrest⟩

/-- A list behind its length is told apart from what follows if its items are. -/
theorem Separable.counted {α : Type} {P : α → Prop} {code : α → List UInt8} (hcode : Separable P code)
    {xs ys : List α} {rest rest' : List UInt8} (hx : xs.length < 2 ^ 64 ∧ ∀ x ∈ xs, P x)
    (hy : ys.length < 2 ^ 64 ∧ ∀ y ∈ ys, P y)
    (h : count xs.length ++ (xs.flatMap code ++ rest) = count ys.length ++ (ys.flatMap code ++ rest')) :
    xs = ys ∧ rest = rest' := by
  obtain ⟨hlength, h⟩ := separable_count _ _ _ _ hx.1 hy.1 h
  exact hcode.flatMap xs ys rest rest' hx.2 hy.2 hlength h

/-! ### Variables -/

theorem category_inj {c d : Category} (h : category c = category d) : c = d := by
  cases c <;> cases d <;> first | rfl | exact absurd h (by decide)

theorem separable_binding : Separable (fun a => a.name.utf8ByteSize < 2 ^ 64) binding := by
  intro a b rest rest' ha hb h
  simp only [binding, List.append_assoc] at h
  obtain ⟨hname, h⟩ := separable_text _ _ _ _ ha hb h
  obtain ⟨hcategory, h⟩ := separable_word32 _ _ _ _ trivial trivial h
  obtain ⟨hposition, h⟩ := separable_word64 _ _ _ _ trivial trivial h
  obtain ⟨hdim, hrest⟩ := separable_word64 _ _ _ _ trivial trivial h
  have hcategory := category_inj hcategory
  refine ⟨?_, hrest⟩
  cases a
  cases b
  simp only at hname hcategory hposition hdim
  rw [hname, hcategory, hposition, hdim]

end KernelForge.Encoding
