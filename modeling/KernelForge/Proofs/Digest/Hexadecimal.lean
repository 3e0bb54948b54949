import KernelForge.Digest
import KernelForge.Proofs.Text.Numeral

/-!
The hexadecimal form of a digest determines it.

`readPairs_flatMap` reads the pairs of any byte string back, so two digests that are written alike are equal
(`toHexChars_inj`).
-/
namespace KernelForge.Digest

theorem read_hex_below : ∀ n : Fin 256,
    Text.Numeral.read? 16 256 (Text.Numeral.hex 2 n.val) = some n.val := by
  decide +kernel

theorem read_byteHex (b : UInt8) : Text.Numeral.read? 16 256 (byteHex b) = some b.toNat :=
  read_hex_below ⟨b.toNat, b.toNat_lt⟩

theorem byteHex_pair (b : UInt8) : ∃ x y, byteHex b = [x, y] := by
  simp [byteHex, Text.Numeral.hex]

theorem readPairs_flatMap (bytes : List UInt8) : readPairs (bytes.flatMap byteHex) = some bytes := by
  induction bytes with
  | nil => rfl
  | cons b rest ih =>
    obtain ⟨x, y, hxy⟩ := byteHex_pair b
    have hb := read_byteHex b
    rw [hxy] at hb
    rw [List.flatMap_cons, hxy]
    show readPairs (x :: y :: rest.flatMap byteHex) = _
    rw [readPairs, hb, ih]
    simp

theorem length_flatMap_byteHex (bytes : List UInt8) :
    (bytes.flatMap byteHex).length = 2 * bytes.length := by
  induction bytes with
  | nil => rfl
  | cons b rest ih =>
    obtain ⟨x, y, hxy⟩ := byteHex_pair b
    rw [List.flatMap_cons, List.length_append, ih, hxy, List.length_cons, List.length_cons,
      List.length_cons, List.length_nil]
    omega

theorem length_toHexChars (d : Digest) : d.toHexChars.length = 32 := by
  rw [toHexChars, length_flatMap_byteHex]
  simp

theorem mem_toHexChars {d : Digest} {c : Char} (h : c ∈ d.toHexChars) :
    ∃ m, m < 16 ∧ c = Text.Numeral.hexDigit m := by
  obtain ⟨b, _, hb⟩ := List.mem_flatMap.mp h
  exact Text.Numeral.mem_hex hb

theorem not_mem_toHexChars {c : Char} (h : ∀ m, m < 16 → c ≠ Text.Numeral.hexDigit m) (d : Digest) :
    c ∉ d.toHexChars := by
  intro hc
  obtain ⟨m, hm, heq⟩ := mem_toHexChars hc
  exact h m hm heq

theorem toHexChars_inj {d e : Digest} (h : d.toHexChars = e.toHexChars) : d = e := by
  have hlist : d.bytes.toList = e.bytes.toList := by
    have hread := readPairs_flatMap d.bytes.toList
    rw [show d.bytes.toList.flatMap byteHex = e.bytes.toList.flatMap byteHex from h,
      readPairs_flatMap] at hread
    exact (Option.some.inj hread).symm
  cases d
  cases e
  congr
  exact Vector.toList_inj.mp hlist

theorem ofHex?_toHexChars (digest : Digest) : ofHex? (String.ofList digest.toHexChars) = some digest := by
  have hpairs : readPairs digest.toHexChars = some digest.bytes.toList := readPairs_flatMap digest.bytes.toList
  have hlist : ofList? digest.bytes.toList = some digest := by
    rw [ofList?, dif_pos (by simp)]
    congr 1
  simp [ofHex?, length_toHexChars, hpairs, hlist]

end KernelForge.Digest
