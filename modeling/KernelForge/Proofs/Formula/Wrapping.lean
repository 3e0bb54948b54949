import KernelForge.Proofs.Fingerprint.Injectivity
import KernelForge.Proofs.Formula.Validity

/-!
Which formulas are accepted, and what becomes of them in a reduction.

A formula is refused if it is blank or its parentheses do not match, and is otherwise kept without its
blanks. Around it there are names, numerals and commas, none of which is a parenthesis or a blank, and one
pair of parentheses, so that a wrapped formula is as good as the formula itself (`formula_exact`).
-/
namespace KernelForge

theorem Balanced.append {a b : List Char} (ha : Balanced a) (hb : Balanced b) : Balanced (a ++ b) := by
  rw [← balancedFrom_iff, ha.balancedFrom_append, balancedFrom_iff]
  exact hb

/-- The characters of names and numerals, and commas. -/
def Text.IsPlain (c : Char) : Prop := c.isAlphanum = true ∨ c = ','

namespace Text.IsPlain

theorem isBlank {c : Char} (h : IsPlain c) : Text.isBlank c = false :=
  IsWritten.isBlank (h.imp_right fun hcomma => by simp [hcomma])

theorem balanced {cs : List Char} (h : ∀ c ∈ cs, IsPlain c) : Balanced cs := by
  induction cs with
  | nil => exact .nil
  | cons c cs ih =>
    obtain ⟨hc, hrest⟩ := List.forall_mem_cons.mp h
    have hparen : ¬IsPlain '(' ∧ ¬IsPlain ')' := by simp [IsPlain]
    exact .char (fun hopen => hparen.1 (hopen ▸ hc)) (fun hclose => hparen.2 (hclose ▸ hc)) (ih hrest)

theorem decimal (n : Nat) : ∀ c ∈ Numeral.decimal n, IsPlain c := by
  intro c hc
  exact .inl (by simp [Char.isAlphanum, Numeral.isDigit_decimal hc])

theorem head (r : Reduction) : ∀ c ∈ r.head, IsPlain c := by
  rcases r with op | ⟨op, k⟩ <;> cases op <;>
    simp [IsPlain, Reduction.head, Reduction.name, Plain.name, Ranked.name]

theorem parameterChars (r : Reduction) : ∀ c ∈ KernelSpec.parameterChars r, IsPlain c := by
  unfold KernelSpec.parameterChars
  split
  · exact List.forall_mem_cons.mpr ⟨.inr rfl, decimal _⟩
  · simp

end Text.IsPlain

namespace KernelSpec

/-- After the formula there are plain characters up to the parenthesis that ends it. -/
theorem wrapped_eq (spec : KernelSpec) : ∃ rest, (∀ c ∈ rest, Text.IsPlain c) ∧
    spec.wrapped.toList = spec.reduction.head ++ '(' :: (spec.formula.toList ++ rest ++ ')' :: []) := by
  refine ⟨parameterChars spec.reduction ++ ',' :: Text.Numeral.decimal spec.axis.tag,
    List.forall_mem_append.mpr ⟨.parameterChars _, List.forall_mem_cons.mpr ⟨.inr rfl, .decimal _⟩⟩, ?_⟩
  rw [wrapped, String.toList_ofList, wrappedChars_eq]
  simp [axisChars]

theorem balanced_wrapped {spec : KernelSpec} (h : Balanced spec.formula.toList) : Balanced spec.wrapped.toList := by
  obtain ⟨rest, hrest, hwrapped⟩ := spec.wrapped_eq
  rw [hwrapped]
  exact (Text.IsPlain.balanced (.head _)).append (.group (h.append (Text.IsPlain.balanced hrest)) .nil)

theorem solid_wrapped {spec : KernelSpec} (h : ∀ c ∈ spec.formula.toList, Text.isBlank c = false) :
    ∀ c ∈ spec.wrapped.toList, Text.isBlank c = false := by
  obtain ⟨rest, hrest, hwrapped⟩ := spec.wrapped_eq
  rw [hwrapped]
  simp only [List.forall_mem_append, List.forall_mem_cons]
  exact ⟨fun c hc => (Text.IsPlain.head _ c hc).isBlank,
    by decide, ⟨h, fun c hc => (hrest c hc).isBlank⟩, by decide,
    nofun⟩

theorem strip_eq_empty_iff {f : String} : Text.strip f = "" ↔ ∀ c ∈ f.toList, Text.isBlank c = true := by
  simp [Text.strip, ← String.toList_inj]

/-- **Formulas are accepted exactly if they are not blank and their parentheses match**, without their
blanks. What is accepted is accepted as it is, and stays balanced and without blanks inside of any reduction
along any axis. -/
theorem formula_exact (f : String) :
    (canonicalFormula f = .error .emptyFormula ↔ ∀ c ∈ f.toList, Text.isBlank c = true) ∧
    (¬(∀ c ∈ f.toList, Text.isBlank c = true) →
      (canonicalFormula f = .ok (Text.strip f) ↔ Balanced (Text.strip f).toList) ∧
      (canonicalFormula f = .error (.unbalancedParentheses (Text.strip f)) ↔ ¬Balanced (Text.strip f).toList)) ∧
    ∀ g, canonicalFormula f = .ok g → canonicalFormula g = .ok g ∧ ∀ spec : KernelSpec, spec.formula = g →
      Balanced spec.wrapped.toList ∧ ∀ c ∈ spec.wrapped.toList, Text.isBlank c = false := by
  have hempty : (Text.strip f).toList.isEmpty = true ↔ Text.strip f = "" := by simp
  rw [← strip_eq_empty_iff, ← balancedFrom_iff]
  refine ⟨?_, fun hblank => ?_, fun g hg => ?_⟩
  · unfold canonicalFormula
    grind
  · unfold canonicalFormula
    grind
  · obtain ⟨rfl, hne, hbalanced⟩ := canonicalFormula_eq_ok_iff.mp hg
    have hsolid : ∀ c ∈ (Text.strip f).toList, Text.isBlank c = false := by simp [Text.strip]
    refine ⟨canonicalFormula_eq_ok_iff.mpr ⟨(Text.strip_of_solid hsolid).symm, hne, hbalanced⟩,
      fun spec hspec => ?_⟩
    rw [← hspec] at hbalanced hsolid
    exact ⟨balanced_wrapped hbalanced, solid_wrapped hsolid⟩

/-- A formula with parentheses of its own is accepted without its blanks, and one that closes too soon is
not. -/
theorem formula_exact_nested :
    canonicalFormula "( x\t) * y" = .ok "(x)*y" ∧ canonicalFormula "(x)*y" = .ok "(x)*y" ∧
      Balanced "KMinReduction((x)*y,3,1)".toList ∧
        canonicalFormula ") (" = .error (.unbalancedParentheses ")(") := by
  have hok : canonicalFormula "( x\t) * y" = .ok "(x)*y" := by decide +kernel
  obtain ⟨hagain, hwrapped⟩ := (formula_exact "( x\t) * y").2.2 _ hok
  have hbalanced := (hwrapped ⟨"(x)*y", .ranked .kMin 3, .inner, [], .float32, .empty⟩ rfl).1
  have hclosed : ¬Balanced (Text.strip ") (").toList := by
    rw [← balancedFrom_iff]
    decide +kernel
  have hrefused := ((formula_exact ") (").2.1 fun h => nomatch h ')' (by simp)).2.mpr hclosed
  exact ⟨hok, hagain, hbalanced, hrefused⟩

end KernelSpec

end KernelForge
