import KernelForge.Formula.Alias
import KernelForge.Proofs.Text.Numeral
import KernelForge.Proofs.Text.Pieces
import Mathlib.Data.List.Nodup

/-!
Declarations of variables are read by their grammar.

`Declares` is that grammar: a name, an equals sign, a keyword and one or two numerals in parentheses. None
of these pieces holds the sign that ends it, so the first sign of a kind is the one that divides, and a text
is read as a variable exactly if the grammar derives it (`parseChars_eq_ok_iff`). Blanks are taken out
first, so they can stand anywhere (`parse_exact`).
-/
namespace KernelForge

theorem Category.ofKeyword?_eq_some_iff {keyword : String} {category : Category} :
    ofKeyword? keyword = some category ↔ keyword = category.keyword := by
  constructor
  · fun_cases ofKeyword? keyword with
    | case4 => simp
    | _ => rintro ⟨⟩; assumption
  · rintro rfl
    cases category <;> rfl

namespace Alias

/-! ### Variables that can be declared -/

/-- A letter or underscore, then letters, digits and underscores. -/
def IsIdentifier (s : String) : Prop :=
  ∃ c rest, s.toList = c :: rest ∧ (c.isAlpha ∨ c = '_') ∧ ∀ d ∈ rest, d.isAlphanum ∨ d = '_'

/-- A variable with a proper name and at least one scalar. -/
structure Valid (a : Alias) : Prop where
  name : IsIdentifier a.name
  dim : 1 ≤ a.dim.toNat

theorem isIdentifier_iff {s : String} : isIdentifier s.toList = true ↔ IsIdentifier s := by
  unfold IsIdentifier
  cases s.toList with
  | nil => simp [isIdentifier]
  | cons c rest => simp [isIdentifier, isNameStart, isNameChar]

variable {name : String} {c : Char} {a : Alias} {index : UInt64} {inside cs : List Char}

theorem IsIdentifier.word (h : IsIdentifier name) (hc : c ∈ name.toList) : c.isAlphanum = true ∨ c = '_' := by
  obtain ⟨first, rest, hname, hfirst, hrest⟩ := h
  rw [hname] at hc
  rcases List.mem_cons.mp hc with rfl | hc
  · exact hfirst.imp_left fun halpha => by simp [Char.isAlphanum, halpha]
  · exact hrest c hc

theorem IsIdentifier.not_mem (h : IsIdentifier name) (hword : c.isAlphanum = false) (hline : c ≠ '_') :
    c ∉ name.toList := by
  intro hc
  rcases h.word hc with hc | hc
  · rw [hword] at hc
    cases hc
  · exact hline hc

theorem defect?_eq_none_iff : a.defect? = none ↔ a.Valid := by
  have hdim : a.dim = 0 ↔ ¬ 1 ≤ a.dim.toNat := by
    rw [← UInt64.toNat_inj]
    simp
  unfold defect?
  by_cases hname : isIdentifier a.name.toList = true
  · by_cases hzero : a.dim = 0
    · simp only [hname, hzero]
      simpa using fun h : a.Valid => hdim.mp hzero h.dim
    · simp only [hname, hzero]
      simpa using (⟨isIdentifier_iff.mp hname, not_not.mp (mt hdim.mpr hzero)⟩ : a.Valid)
  · simp only [hname]
    simpa using fun h : a.Valid => hname (isIdentifier_iff.mpr h.name)

theorem create_eq_ok_iff {category : Category} {position dim : UInt64} :
    create name category position dim = .ok a ↔ a = ⟨name, category, position, dim⟩ ∧ a.Valid := by
  unfold create
  dsimp only
  split
  · next defect hdefect =>
    simp only [reduceCtorEq, false_iff, not_and]
    rintro rfl hvalid
    rw [defect?_eq_none_iff.mpr hvalid] at hdefect
    cases hdefect
  · next hdefect =>
    rw [Except.ok.injEq]
    constructor
    · rintro rfl
      exact ⟨rfl, defect?_eq_none_iff.mp hdefect⟩
    · exact fun h => h.1.symm

/-! ### The grammar -/

/-- What stands in parentheses: the position and the dimension, or the dimension alone, which leaves the
position to the place of the declaration. -/
inductive Binds (index : UInt64) (a : Alias) : List Char → Prop
  | full {p d : List Char} (hposition : Text.Numeral.IsNumeral p a.position.toNat)
      (hdim : Text.Numeral.IsNumeral d a.dim.toNat) : Binds index a (p ++ ',' :: d)
  | short {d : List Char} (hindex : a.position = index) (hdim : Text.Numeral.IsNumeral d a.dim.toNat) :
    Binds index a d

/-- The declarations of a variable at a place, without blanks: `name=Vi(position,dim)` or `name=Vi(dim)`. -/
def Declares (index : UInt64) (a : Alias) (cs : List Char) : Prop :=
  ∃ inside, Binds index a inside ∧
    cs = a.name.toList ++ '=' :: (a.category.keyword.toList ++ '(' :: (inside ++ [')']))

theorem bindNumbers_eq_ok_iff :
    (∃ numbers, (Text.splitAt ',' inside).mapM Text.Numeral.word64? = some numbers ∧
      bindNumbers index numbers = .ok (a.position, a.dim)) ↔ Binds index a inside := by
  constructor
  · rintro ⟨numbers, hnumbers, hbind⟩
    have hinside := Text.intercalate_splitAt ',' inside
    match hpieces : Text.splitAt ',' inside with
    | [] => exact absurd hpieces (Text.splitAt_ne_nil _ _)
    | [d] =>
      obtain ⟨dim, hd, rfl⟩ : ∃ dim, Text.Numeral.word64? d = some dim ∧ [dim] = numbers := by
        simpa [hpieces, Option.bind_eq_some_iff] using hnumbers
      cases hbind
      rw [hpieces, List.intercalate_singleton] at hinside
      exact .short rfl (hinside ▸ Text.Numeral.word64?_eq_some_iff.mp hd)
    | [p, d] =>
      obtain ⟨position, hp, dim, hd, rfl⟩ : ∃ position, Text.Numeral.word64? p = some position ∧
          ∃ dim, Text.Numeral.word64? d = some dim ∧ [position, dim] = numbers := by
        simpa [hpieces, Option.bind_eq_some_iff] using hnumbers
      cases hbind
      rw [hpieces, List.intercalate_cons_cons, List.intercalate_singleton, List.append_assoc] at hinside
      rw [← hinside]
      exact .full (Text.Numeral.word64?_eq_some_iff.mp hp) (Text.Numeral.word64?_eq_some_iff.mp hd)
    | x :: y :: z :: more =>
      have hthree : ∃ i j k rest, numbers = i :: j :: k :: rest := by
        simp only [hpieces, List.mapM_cons, Option.bind_eq_bind, Option.bind_eq_some_iff] at hnumbers
        grind
      obtain ⟨i, j, k, rest, rfl⟩ := hthree
      cases hbind
  · rintro (⟨hposition, hdim⟩ | ⟨hindex, hdim⟩)
    · refine ⟨[a.position, a.dim], ?_, rfl⟩
      rw [Text.splitAt_append, Text.splitAt_of_not_mem (hposition.not_mem (by decide) (by decide)),
        Text.splitAt_of_not_mem (hdim.not_mem (by decide) (by decide))]
      simp [Text.Numeral.word64?_eq_some_iff.mpr hposition, Text.Numeral.word64?_eq_some_iff.mpr hdim]
    · refine ⟨[a.dim], ?_, by rw [← hindex]; rfl⟩
      rw [Text.splitAt_of_not_mem (hdim.not_mem (by decide) (by decide))]
      simp [Text.Numeral.word64?_eq_some_iff.mpr hdim]

/-! ### Reading a declaration -/

theorem dropClosing?_eq_some_iff : dropClosing? cs = some inside ↔ cs = inside ++ [')'] := by
  constructor
  · intro h
    unfold dropClosing? at h
    split at h
    · next hlast =>
      obtain ⟨init, rfl⟩ := List.getLast?_eq_some_iff.mp hlast
      rw [List.dropLast_concat] at h
      rw [Option.some.inj h]
    · cases h
  · rintro rfl
    simp [dropClosing?]

theorem parseChars_eq_ok_iff : parseChars cs index = .ok a ↔ a.Valid ∧ Declares index a cs := by
  constructor
  · fun_cases parseChars cs index with
    | case8 name right hname keyword afterOpening hkeyword inside hclosing category hcategory numbers
      hnumbers position dim hbind found hdefect =>
      intro h
      rw [← Except.ok.inj h]
      refine ⟨defect?_eq_none_iff.mp hdefect, inside, bindNumbers_eq_ok_iff.mp ⟨numbers, hnumbers, hbind⟩, ?_⟩
      simp only [found, String.toList_ofList]
      rw [Text.cutAt_eq hname, Text.cutAt_eq hkeyword, dropClosing?_eq_some_iff.mp hclosing,
        ← Category.ofKeyword?_eq_some_iff.mp hcategory, String.toList_ofList]
    | _ => simp
  · rintro ⟨hvalid, inside, hbinds, rfl⟩
    have hname : '=' ∉ a.name.toList := hvalid.name.not_mem (by decide) (by decide)
    have hkeyword : '(' ∉ a.category.keyword.toList := by
      cases a.category <;> decide
    have hclosing : dropClosing? (inside ++ [')']) = some inside := dropClosing?_eq_some_iff.mpr rfl
    have hcategory : Category.ofKeyword? a.category.keyword = some a.category :=
      Category.ofKeyword?_eq_some_iff.mpr rfl
    obtain ⟨numbers, hnumbers, hbind⟩ := bindNumbers_eq_ok_iff.mpr hbinds
    simp only [parseChars, Text.cutAt_append hname, Text.cutAt_append hkeyword, hclosing,
      String.ofList_toList, hcategory, hnumbers, hbind]
    rw [defect?_eq_none_iff.mpr hvalid]

theorem parse_eq_ok_iff {declaration : String} :
    parse declaration index = .ok a ↔ a.Valid ∧ Declares index a (Text.strip declaration).toList := by
  rw [parse, ← parseChars_eq_ok_iff]
  cases parseChars (Text.strip declaration).toList index <;> simp

/-- A declaration that has a comma gives its position, so its place does not matter. -/
theorem Declares.anywhere {i : UInt64} (h : Declares i a cs) (hvalid : a.Valid) (hcomma : ',' ∈ cs) (j : UInt64) :
    Declares j a cs := by
  obtain ⟨inside, ⟨hposition, hdim⟩ | ⟨hindex, hdim⟩, rfl⟩ := h
  · exact ⟨_, .full hposition hdim, rfl⟩
  · have hname : ',' ∉ a.name.toList := hvalid.name.not_mem (by decide) (by decide)
    have hkeyword : ',' ∉ a.category.keyword.toList := by
      cases a.category <;> decide
    have hnumber : ',' ∉ inside := hdim.not_mem (by decide) (by decide)
    simp [hname, hkeyword, hnumber] at hcomma

/-! ### Writing a declaration -/

/-- The declaration that a variable is written as is one of it at every place. -/
theorem declares_chars (a : Alias) (index : UInt64) : Declares index a a.chars :=
  ⟨_, .full (Text.Numeral.isNumeral_decimal _) (Text.Numeral.isNumeral_decimal _), by simp [chars]⟩

end Alias

namespace Text

/-- The characters of declarations. -/
def IsWritten (c : Char) : Prop :=
  c.isAlphanum = true ∨ c ∈ ['_', '=', '(', ',', ')']

theorem IsWritten.range {c : Char} (h : IsWritten c) : 33 ≤ c.toNat ∧ c.toNat ≤ 122 := by
  rcases h with h | h
  · unfold Char.isAlphanum Char.isAlpha Char.isUpper Char.isLower Char.isDigit at h
    simp only [Bool.or_eq_true, Bool.and_eq_true, decide_eq_true_eq, UInt32.le_iff_toNat_le, ge_iff_le] at h
    change ((65 ≤ c.toNat ∧ c.toNat ≤ 90) ∨ 97 ≤ c.toNat ∧ c.toNat ≤ 122) ∨ 48 ≤ c.toNat ∧ c.toNat ≤ 57 at h
    omega
  · simp only [List.mem_cons, List.not_mem_nil, or_false] at h
    rcases h with rfl | rfl | rfl | rfl | rfl <;> decide

theorem IsWritten.isBlank {c : Char} (h : IsWritten c) : isBlank c = false := by
  obtain ⟨hlow, hhigh⟩ := h.range
  simp only [Text.isBlank, blankRanges, List.any_cons, List.any_nil, Bool.or_false, Bool.or_eq_false_iff,
    Bool.and_eq_false_iff, decide_eq_false_iff_not]
  omega

theorem strip_of_solid {s : String} (h : ∀ c ∈ s.toList, isBlank c = false) : strip s = s := by
  have hall : s.toList.filter (fun c => !isBlank c) = s.toList := List.filter_eq_self.mpr (by simpa using h)
  rw [strip, hall, String.ofList_toList]

/-- The second text is the first one with blanks put in, anywhere. -/
inductive Spaced : List Char → List Char → Prop
  | nil : Spaced [] []
  | blank {c : Char} {cs ds : List Char} (hc : isBlank c = true) (h : Spaced cs ds) : Spaced cs (c :: ds)
  | keep {c : Char} {cs ds : List Char} (h : Spaced cs ds) : Spaced (c :: cs) (c :: ds)

theorem Spaced.refl : ∀ cs : List Char, Spaced cs cs
  | [] => .nil
  | _ :: cs => .keep (refl cs)

theorem Spaced.strip {s t : String} (h : Spaced s.toList t.toList) : strip t = strip s := by
  have hfilter {cs ds : List Char} (h : Spaced cs ds) :
      ds.filter (fun c => !isBlank c) = cs.filter fun c => !isBlank c := by
    induction h with
    | nil => rfl
    | blank hc _ ih => simp [hc, ih]
    | keep _ ih => simp [List.filter_cons, ih]
  rw [Text.strip, hfilter h, Text.strip]

end Text

namespace Alias

theorem isWritten_of_mem_chars {a : Alias} (h : a.Valid) {c : Char} (hc : c ∈ a.chars) : Text.IsWritten c := by
  have hdigit {n : Nat} (hc : c ∈ Text.Numeral.decimal n) : Text.IsWritten c :=
    .inl (by simp [Char.isAlphanum, Text.Numeral.isDigit_decimal hc])
  have hkeyword : ∀ category : Category, ∀ c ∈ category.keyword.toList, c.isAlphanum = true := by
    intro category
    cases category <;> simp [Category.keyword]
  simp only [chars, List.append_assoc, List.cons_append, List.mem_append, List.mem_cons, List.not_mem_nil,
    or_false] at hc
  rcases hc with hc | rfl | hc | rfl | hc | rfl | hc | rfl
  · rcases h.name.word hc with hc | rfl
    · exact .inl hc
    · exact .inr (by decide)
  · exact .inr (by decide)
  · exact .inl (hkeyword _ c hc)
  · exact .inr (by decide)
  · exact hdigit hc
  · exact .inr (by decide)
  · exact hdigit hc
  · exact .inr (by decide)

/-- A variable is read back from its declaration, wherever that stands and whatever blanks are put in. -/
theorem parse_spaced {a : Alias} (h : a.Valid) {declaration : String}
    (hspaced : Text.Spaced a.text.toList declaration.toList) (index : UInt64) :
    parse declaration index = .ok a := by
  have hsolid : Text.strip a.text = a.text := by
    refine Text.strip_of_solid fun c hc => ?_
    rw [text, String.toList_ofList] at hc
    exact (isWritten_of_mem_chars h hc).isBlank
  rw [parse_eq_ok_iff, hspaced.strip, hsolid, text, String.toList_ofList]
  exact ⟨h, declares_chars a index⟩

/-- **Declarations are read exactly by their grammar.** A text is read as a variable if and only if the
variable is a proper one and the text is one of its declarations, once its blanks are gone. Any other text
is refused and reported as it was written. A variable that can be made is read back from its own
declaration, with blanks put in anywhere. -/
theorem parse_exact (declaration : String) (index : UInt64) :
    (∀ a, parse declaration index = .ok a ↔ a.Valid ∧ Declares index a (Text.strip declaration).toList) ∧
    ((¬∃ a, a.Valid ∧ Declares index a (Text.strip declaration).toList) →
      ∃ defect, parse declaration index = .error (.invalidAlias declaration defect)) ∧
    ∀ name category position dim a, create name category position dim = .ok a →
      Text.Spaced a.text.toList declaration.toList → parse declaration index = .ok a := by
  refine ⟨fun a => parse_eq_ok_iff, fun hnone => ?_, fun name category position dim a hcreate hspaced => ?_⟩
  · cases hread : parseChars (Text.strip declaration).toList index with
    | error defect => exact ⟨defect, by rw [parse, hread]⟩
    | ok a => exact absurd ⟨a, parseChars_eq_ok_iff.mp hread⟩ hnone
  · exact parse_spaced (create_eq_ok_iff.mp hcreate).2 hspaced index

/-- A declaration with blanks is read back at any place. A short one with a sign and leading zeros takes its
position from its place, and one without a scalar is refused. -/
theorem parse_exact_spaced :
    parse " x =Vi(5,\t3)" 7 = .ok ⟨"x", .outer, 5, 3⟩ ∧ Declares 7 ⟨"b", .parameter, 7, 3⟩ "b=Pm(+03)".toList ∧
      ∃ defect, parse "x = Vi(1, 0)" 0 = .error (.invalidAlias "x = Vi(1, 0)" defect) := by
  refine ⟨(parse_exact " x =Vi(5,\t3)" 7).2.2 "x" .outer 5 3 _ rfl ?_,
    ((parse_exact "b = Pm(+03)" 7).1 ⟨"b", .parameter, 7, 3⟩).mp rfl |>.2, (parse_exact "x = Vi(1, 0)" 0).2.1 ?_⟩
  · exact .blank rfl <| .keep <| .blank rfl <| .keep <| .keep <| .keep <| .keep <| .keep <| .keep <| .blank rfl <|
      .keep <| .keep .nil
  · rintro ⟨a, ha⟩
    cases ((parse_exact "x = Vi(1, 0)" 0).1 a).mpr ha

end Alias

end KernelForge
