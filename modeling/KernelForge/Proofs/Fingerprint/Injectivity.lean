import KernelForge.Fingerprint
import KernelForge.Proofs.Digest.Hexadecimal
import KernelForge.Proofs.Fingerprint.Codes

/-!
The encoding of a kernel determines it.

Formula, reduction, parameter and axis share one text, `NameReduction(formula,parameter,axis)`, and the formula
may hold commas, digits and parentheses of its own. The text can be taken apart from its ends all the same: no
name of a reduction holds a parenthesis, so the first one ends the name, and neither the parameter nor the axis
holds a comma, so the last ones divide them from the formula (`wrapped_inj`). Everything else is a separable
code, and `encoding_determines_kernel` puts the parts together.
-/
namespace KernelForge

/-! ### Taking texts apart at a character -/

variable {c : Char} {a b x y : List Char}

/-- The first occurrence of a character divides a text in one way. -/
theorem append_cons_inj_first (ha : c ∉ a) (hb : c ∉ b) (h : a ++ c :: x = b ++ c :: y) : a = b ∧ x = y := by
  induction a generalizing b with
  | nil =>
    cases b with
    | nil => exact ⟨rfl, (List.cons.inj h).2⟩
    | cons d b =>
      have hd : c = d := (List.cons.inj h).1
      exact absurd (hd ▸ List.mem_cons_self ..) hb
  | cons e a ih =>
    cases b with
    | nil =>
      have he : e = c := (List.cons.inj h).1
      exact absurd (he ▸ List.mem_cons_self ..) ha
    | cons d b =>
      obtain ⟨hed, htail⟩ := List.cons.inj h
      obtain ⟨hab, hxy⟩ := ih (fun hc => ha (List.mem_cons_of_mem _ hc))
        (fun hc => hb (List.mem_cons_of_mem _ hc)) htail
      exact ⟨by rw [hed, hab], hxy⟩

/-- The last occurrence of a character divides a text in one way. -/
theorem append_cons_inj_last (hx : c ∉ x) (hy : c ∉ y) (h : a ++ c :: x = b ++ c :: y) : a = b ∧ x = y := by
  have hreverse : x.reverse ++ c :: a.reverse = y.reverse ++ c :: b.reverse := by
    simpa using congrArg List.reverse h
  obtain ⟨hxy, hab⟩ := append_cons_inj_first (by simpa using hx) (by simpa using hy) hreverse
  exact ⟨List.reverse_inj.mp hab, List.reverse_inj.mp hxy⟩

/-! ### The wrapped formula -/

namespace Reduction

theorem plain_name_inj (p q : Plain) (h : p.name = q.name) : p = q := by
  cases p <;> cases q <;> first | rfl | exact absurd h (by decide)

theorem ranked_name_inj (p q : Ranked) (h : p.name = q.name) : p = q := by
  cases p <;> cases q <;> first | rfl | exact absurd h (by decide)

theorem plain_name_ne_ranked (p : Plain) (q : Ranked) : p.name ≠ q.name := by
  cases p <;> cases q <;> decide

/-- A reduction without its parameter. -/
def operator : Reduction → Plain ⊕ Ranked
  | plain op => .inl op
  | ranked op _ => .inr op

theorem name_inj {r s : Reduction} (h : r.name = s.name) : r.operator = s.operator := by
  rcases r with p | ⟨q, k⟩ <;> rcases s with p' | ⟨q', k'⟩
  · exact congrArg Sum.inl (plain_name_inj p p' h)
  · exact absurd h (plain_name_ne_ranked p q')
  · exact absurd h.symm (plain_name_ne_ranked p' q)
  · exact congrArg Sum.inr (ranked_name_inj q q' h)

/-- What stands before the first parenthesis of a wrapped formula. -/
def head (r : Reduction) : List Char := r.name.toList ++ "Reduction".toList

theorem paren_not_mem_plain (p : Plain) : '(' ∉ p.name.toList ++ "Reduction".toList := by
  cases p <;> decide

theorem paren_not_mem_ranked (q : Ranked) : '(' ∉ q.name.toList ++ "Reduction".toList := by
  cases q <;> decide

theorem paren_not_mem_head (r : Reduction) : '(' ∉ r.head := by
  rcases r with p | ⟨q, k⟩
  · exact paren_not_mem_plain p
  · exact paren_not_mem_ranked q

theorem head_inj {r s : Reduction} (h : r.head = s.head) : r.operator = s.operator := by
  obtain ⟨hname, _⟩ := List.append_inj' h rfl
  exact name_inj (String.toList_inj.mp hname)

end Reduction

namespace KernelSpec

/-- What stands after the formula and before the axis. -/
def parameterChars (r : Reduction) : List Char :=
  match r.parameter? with
  | some k => ',' :: Text.Numeral.decimal k.toNat
  | none => []

/-- The end of a wrapped formula, from the last comma on. -/
def axisChars (a : Axis) : List Char :=
  ',' :: Text.Numeral.decimal a.tag ++ [')']

theorem wrappedChars_eq (spec : KernelSpec) :
    spec.wrappedChars =
      spec.reduction.head ++ '(' :: ((spec.formula.toList ++ parameterChars spec.reduction) ++
        axisChars spec.axis) := by
  have hopen : "Reduction(".toList = "Reduction".toList ++ ['('] := rfl
  cases hp : spec.reduction.parameter? <;>
    simp [wrappedChars, Reduction.head, parameterChars, axisChars, hopen, hp]

theorem length_axisChars (a : Axis) : (axisChars a).length = 3 := by
  cases a <;> rfl

theorem axisChars_inj {a b : Axis} (h : axisChars a = axisChars b) : a = b := by
  cases a <;> cases b <;> first | rfl | exact absurd h (by decide)

/-- Behind the same operator, formula and parameter can be told apart. -/
theorem formula_parameter_inj {f g : List Char} {r s : Reduction} (hop : r.operator = s.operator)
    (h : f ++ parameterChars r = g ++ parameterChars s) : f = g ∧ r = s := by
  rcases r with p | ⟨q, k⟩ <;> rcases s with p' | ⟨q', k'⟩
  · have hp : p = p' := Sum.inl.inj hop
    exact ⟨by simpa [parameterChars, Reduction.parameter?] using h, by rw [hp]⟩
  · cases hop
  · cases hop
  · have hq : q = q' := Sum.inr.inj hop
    have hcomma (n : Nat) : ',' ∉ Text.Numeral.decimal n :=
      (Text.Numeral.isNumeral_decimal n).not_mem (by decide) (by decide)
    obtain ⟨hfg, hdigits⟩ := append_cons_inj_last (hcomma k.toNat) (hcomma k'.toNat) h
    have hk : k = k' := UInt32.toNat_inj.mp (Text.Numeral.decimal_inj hdigits)
    exact ⟨hfg, by rw [hq, hk]⟩

/-- The wrapped formula determines the formula, the reduction with its parameter, and the axis. -/
theorem wrapped_inj {s t : KernelSpec} (h : s.wrapped = t.wrapped) :
    s.formula = t.formula ∧ s.reduction = t.reduction ∧ s.axis = t.axis := by
  have hchars : s.wrappedChars = t.wrappedChars := String.ofList_injective h
  rw [wrappedChars_eq, wrappedChars_eq] at hchars
  obtain ⟨hhead, hinside⟩ := append_cons_inj_first s.reduction.paren_not_mem_head
    t.reduction.paren_not_mem_head hchars
  obtain ⟨hmiddle, haxis⟩ := List.append_inj' hinside (by rw [length_axisChars, length_axisChars])
  obtain ⟨hformula, hreduction⟩ := formula_parameter_inj (Reduction.head_inj hhead) hmiddle
  exact ⟨String.toList_inj.mp hformula, hreduction, axisChars_inj haxis⟩

end KernelSpec

/-! ### Whole kernels -/

namespace Encoding

/-- All lengths and counts that an encoding holds fit into eight bytes. -/
structure InRange (spec : KernelSpec) (target : Target) : Prop where
  wrapped : spec.wrapped.utf8ByteSize < 2 ^ 64
  aliases : spec.aliases.length < 2 ^ 64
  names : ∀ a ∈ spec.aliases, a.name.utf8ByteSize < 2 ^ 64
  target : target.name.utf8ByteSize < 2 ^ 64
  flags : spec.flags.toList.length < 2 ^ 64
  flagTexts : ∀ f ∈ spec.flags.toList, f.utf8ByteSize < 2 ^ 64

theorem precision_name_inj {p q : Precision} (h : p.name = q.name) : p = q := by
  cases p <;> cases q <;> first | rfl | exact absurd h (by decide)

theorem precision_name_size (p : Precision) : p.name.utf8ByteSize < 2 ^ 64 := by
  cases p <;> decide

theorem flagSet_ext {f g : FlagSet} (h : f.toList = g.toList) : f = g := by
  cases f
  cases g
  congr

variable {s t : KernelSpec} {a b : Target}

/-- The parts of equal encodings are equal, one after the other. -/
theorem kernel_parts (hs : InRange s a) (ht : InRange t b) (h : kernel s a = kernel t b) :
    s.wrapped = t.wrapped ∧ s.aliases = t.aliases ∧ s.precision.name = t.precision.name ∧
      a.name = b.name ∧ s.flags.toList = t.flags.toList := by
  have h : kernel s a ++ [] = kernel t b ++ [] := by rw [h]
  simp only [kernel, List.append_assoc] at h
  obtain ⟨_, h⟩ := separable_word32 _ _ _ _ trivial trivial h
  obtain ⟨hwrapped, h⟩ := separable_text _ _ _ _ hs.wrapped ht.wrapped h
  obtain ⟨haliases, h⟩ :=
    separable_binding.counted ⟨hs.aliases, hs.names⟩ ⟨ht.aliases, ht.names⟩ h
  obtain ⟨hprecision, h⟩ := separable_text _ _ _ _ (precision_name_size _) (precision_name_size _) h
  obtain ⟨htarget, h⟩ := separable_text _ _ _ _ hs.target ht.target h
  obtain ⟨hflags, _⟩ := separable_text.counted ⟨hs.flags, hs.flagTexts⟩ ⟨ht.flags, ht.flagTexts⟩ h
  exact ⟨hwrapped, haliases, hprecision, htarget, hflags⟩

theorem kernel_inj (hs : InRange s a) (ht : InRange t b) (h : kernel s a = kernel t b) : s = t ∧ a = b := by
  obtain ⟨hwrapped, haliases, hprecision, htarget, hflags⟩ := kernel_parts hs ht h
  obtain ⟨hformula, hreduction, haxis⟩ := KernelSpec.wrapped_inj hwrapped
  have hprecision := precision_name_inj hprecision
  have hflags := flagSet_ext hflags
  cases s
  cases t
  cases a
  cases b
  simp only at hformula hreduction haxis haliases hprecision hflags htarget
  rw [hformula, hreduction, haxis, haliases, hprecision, hflags, htarget]
  exact ⟨rfl, rfl⟩

end Encoding

namespace Fingerprint

theorem digest_eq_of_eq {s t : KernelSpec} {a b : Target} (h : of s a = of t b) :
    digest s a = digest t b := by
  have hchars : chars s a = chars t b := String.ofList_injective (congrArg Fingerprint.name h)
  have hlength : ('_' :: (digest s a).toHexChars).length = ('_' :: (digest t b).toHexChars).length := by
    rw [List.length_cons, List.length_cons, Digest.length_toHexChars, Digest.length_toHexChars]
  obtain ⟨_, htail⟩ := List.append_inj' hchars hlength
  exact Digest.toHexChars_inj (List.cons.inj htail).2

/-- **The encoding of a kernel determines it**, whatever its formula, names and flags hold. So two different
kernels have one fingerprint only if two different byte strings have one digest. -/
theorem encoding_determines_kernel (s t : KernelSpec) (a b : Target) (hs : Encoding.InRange s a)
    (ht : Encoding.InRange t b) :
    (Encoding.kernel s a = Encoding.kernel t b → s = t ∧ a = b) ∧
      (of s a = of t b → (s, a) ≠ (t, b) →
        Encoding.kernel s a ≠ Encoding.kernel t b ∧
          Digest.ofBytes ⟨(Encoding.kernel s a).toArray⟩ =
            Digest.ofBytes ⟨(Encoding.kernel t b).toArray⟩) := by
  refine ⟨Encoding.kernel_inj hs ht, fun hof hne => ⟨fun hkernel => ?_, digest_eq_of_eq hof⟩⟩
  obtain ⟨hst, hab⟩ := Encoding.kernel_inj hs ht hkernel
  exact hne (by rw [hst, hab])

/-- The ten smallest values of `x`. -/
def tenSmallest : KernelSpec where
  formula := "x"
  reduction := .ranked .kMin 10
  axis := .outer
  aliases := [⟨"x", .outer, 0, 1⟩]
  precision := .float32
  flags := .empty

/-- A formula with a comma in it, as it can be read from a record. -/
def commaFormula : KernelSpec :=
  { tenSmallest with formula := "x,1", reduction := .ranked .kMin 0 }

theorem tenSmallest_inRange : Encoding.InRange tenSmallest .cpu := by
  constructor <;> decide +kernel

theorem commaFormula_inRange : Encoding.InRange commaFormula .cpu := by
  constructor <;> decide +kernel

/-- A comma in a formula is not taken for the one before a parameter. -/
theorem encoding_tells_commas_apart :
    Encoding.InRange tenSmallest .cpu ∧ Encoding.InRange commaFormula .cpu ∧
      Encoding.kernel tenSmallest .cpu ≠ Encoding.kernel commaFormula .cpu := by
  refine ⟨tenSmallest_inRange, commaFormula_inRange, fun h => ?_⟩
  have hspec :=
    ((encoding_determines_kernel _ _ _ _ tenSmallest_inRange commaFormula_inRange).1 h).1
  exact absurd (congrArg KernelSpec.formula hspec) (by decide)

end Fingerprint

end KernelForge
