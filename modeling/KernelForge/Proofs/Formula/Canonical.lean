import KernelForge.Fingerprint
import KernelForge.Proofs.Formula.Declaration
import KernelForge.Proofs.Formula.FlagSet

/-!
Canonical specifications.

The variables of a specification are in the order of their positions. A list of variables is accepted if it
can be put in that order, each variable at its position, and the order is all that is lost
(`canonicalize_eq_ok_iff`). A declaration that gives its position is read the same wherever it stands
(`parse_full`). So two specifications are equal when they differ in nothing but blanks, the order of the
variables, and the order, repetition and padding of flags (`cosmetic_differences`).
-/
namespace KernelForge

namespace Alias

/-! ### Sorting -/

/-- A variable that may come before another one. -/
def Before (a b : Alias) : Prop := a.position ≤ b.position

theorem perm_insertByPosition (a : Alias) (as : List Alias) : (insertByPosition a as).Perm (a :: as) := by
  induction as with
  | nil => exact .refl _
  | cons b as ih =>
    unfold insertByPosition
    split
    · exact .refl _
    · exact (ih.cons b).trans (.swap a b as)

theorem perm_sortByPosition (as : List Alias) : (sortByPosition as).Perm as := by
  induction as with
  | nil => exact .refl _
  | cons a as ih => exact (perm_insertByPosition a _).trans (ih.cons a)

variable {as sorted : List Alias} {first : Nat} {declaration : String}

theorem pairwise_insertByPosition (a : Alias) (h : as.Pairwise Before) :
    (insertByPosition a as).Pairwise Before := by
  induction as with
  | nil => exact List.pairwise_singleton _ _
  | cons b as ih =>
    obtain ⟨hb, has⟩ := List.pairwise_cons.mp h
    unfold insertByPosition
    split
    · next hle =>
      refine List.pairwise_cons.mpr ⟨fun c hc => ?_, h⟩
      rcases List.mem_cons.mp hc with rfl | hc
      · exact hle
      · exact UInt64.le_trans hle (hb c hc)
    · next hgt =>
      refine List.pairwise_cons.mpr ⟨fun c hc => ?_, ih has⟩
      rcases List.mem_cons.mp ((perm_insertByPosition a as).mem_iff.mp hc) with rfl | hc
      · exact (UInt64.le_total _ _).resolve_right hgt
      · exact hb c hc

theorem pairwise_sortByPosition (as : List Alias) : (sortByPosition as).Pairwise Before := by
  induction as with
  | nil => exact .nil
  | cons a as ih => exact pairwise_insertByPosition a ih

/-! ### Lists that are accepted -/

theorem repeatedName?_eq_none_iff {seen : List String} :
    repeatedName? seen as = none ↔ (as.map name).Nodup ∧ ∀ a ∈ as, a.name ∉ seen := by
  induction as generalizing seen with
  | nil => simp [repeatedName?]
  | cons a as ih =>
    unfold repeatedName?
    by_cases ha : a.name ∈ seen
    · simp [ha]
    · rw [if_neg ha, ih]
      simp only [List.map_cons, List.nodup_cons, List.mem_map, List.mem_cons]
      grind

/-- Variables that stand at their positions, from a number on. -/
def InPlace (first : Nat) (as : List Alias) : Prop :=
  as.map (fun a => a.position.toNat) = List.range' first as.length

theorem missingPosition?_eq_none_iff : missingPosition? first as = none ↔ InPlace first as := by
  induction as generalizing first with
  | nil => simp [missingPosition?, InPlace]
  | cons a as ih =>
    unfold missingPosition? InPlace
    rw [List.map_cons, List.length_cons, List.range'_succ]
    split
    · next h => rw [ih, InPlace, h, List.cons.injEq, and_iff_right rfl]
    · next h => simp [h]

theorem InPlace.pairwise (h : InPlace first as) : as.Pairwise fun a b => a.position < b.position := by
  have hlt : (as.map fun a => a.position.toNat).Pairwise (· < ·) := by
    rw [h]
    exact List.pairwise_lt_range'
  exact (List.pairwise_map.mp hlt).imp UInt64.lt_iff_toNat_lt.mpr

theorem repeatedPosition?_none (h : as.Pairwise fun a b => a.position < b.position) :
    repeatedPosition? as = none := by
  induction as with
  | nil => rfl
  | cons a as ih =>
    obtain ⟨ha, has⟩ := List.pairwise_cons.mp h
    cases as with
    | nil => rfl
    | cons b as =>
      have hne : a.position ≠ b.position := UInt64.ne_of_lt (ha b List.mem_cons_self)
      rw [repeatedPosition?, if_neg hne]
      exact ih has

/-- There is only one order in which variables stand at their positions. -/
theorem sortByPosition_inPlace (hperm : sorted.Perm as) (h : InPlace 0 sorted) : sortByPosition as = sorted := by
  have hstrict := h.pairwise
  have hsorted : sorted.Pairwise Before := hstrict.imp UInt64.le_of_lt
  have hsame : (sortByPosition as).Perm sorted := (perm_sortByPosition as).trans hperm.symm
  have hpositions : (sorted.map position).Nodup := List.pairwise_map.mpr (hstrict.imp UInt64.ne_of_lt)
  refine hsame.eq_of_pairwise (fun a b ha hb hab hba => ?_) (pairwise_sortByPosition as) hsorted
  exact List.inj_on_of_nodup_map hpositions (hsame.mem_iff.mp ha) hb (UInt64.le_antisymm hab hba)

theorem canonicalize_eq_ok_iff :
    canonicalize as = .ok sorted ↔ (as.map name).Nodup ∧ sorted.Perm as ∧ InPlace 0 sorted := by
  constructor
  · fun_cases canonicalize as with
    | case4 hnames _ _ hplace =>
      intro h
      rw [← Except.ok.inj h]
      exact ⟨(repeatedName?_eq_none_iff.mp hnames).1, perm_sortByPosition as,
        missingPosition?_eq_none_iff.mp hplace⟩
    | _ => simp
  · rintro ⟨hnames, hperm, hplace⟩
    have hname : repeatedName? [] as = none := repeatedName?_eq_none_iff.mpr ⟨hnames, by simp⟩
    simp only [canonicalize, hname, sortByPosition_inPlace hperm hplace, repeatedPosition?_none hplace.pairwise,
      missingPosition?_eq_none_iff.mpr hplace]

/-- Lists are accepted as the same one exactly if they hold the same variables. -/
theorem canonicalize_perm {bs : List Alias} (h : canonicalize as = .ok sorted) :
    canonicalize bs = .ok sorted ↔ as.Perm bs := by
  rw [canonicalize_eq_ok_iff] at h
  obtain ⟨hnames, hperm, hplace⟩ := h
  constructor
  · intro hbs
    exact hperm.symm.trans (canonicalize_eq_ok_iff.mp hbs).2.1
  · intro hsame
    exact canonicalize_eq_ok_iff.mpr ⟨(hsame.map name).nodup_iff.mp hnames, hperm.trans hsame, hplace⟩

/-! ### Declarations -/

/-- A declaration in full: it has a comma, between the position and the dimension. -/
def IsFull (declaration : String) : Prop := ',' ∈ declaration.toList

instance (declaration : String) : Decidable (IsFull declaration) :=
  inferInstanceAs (Decidable (_ ∈ _))

theorem isFull_strip : ',' ∈ (Text.strip declaration).toList ↔ IsFull declaration := by
  rw [Text.strip, String.toList_ofList, List.mem_filter, IsFull, and_iff_left (by decide)]

/-- What a declaration in full declares, after its blanks are gone. -/
def declared? (stripped : String) : Option Alias := (parseChars stripped.toList 0).toOption

theorem parse_full (h : IsFull declaration) (index : UInt64) (a : Alias) :
    parse declaration index = .ok a ↔ declared? (Text.strip declaration) = some a := by
  have hplace : parse declaration index = .ok a ↔ parseChars (Text.strip declaration).toList 0 = .ok a := by
    rw [parse_eq_ok_iff, parseChars_eq_ok_iff]
    refine and_congr_right fun hvalid => ⟨fun hd => ?_, fun hd => ?_⟩
    · exact hd.anywhere hvalid (isFull_strip.mpr h) 0
    · exact hd.anywhere hvalid (isFull_strip.mpr h) index
  rw [hplace, declared?]
  cases parseChars (Text.strip declaration).toList 0 <;> simp [Except.toOption]

theorem parseFrom_full {declarations : List String} (h : ∀ d ∈ declarations, IsFull d) (index : Nat)
    (as : List Alias) :
    parseFrom index declarations = .ok as ↔ (declarations.map Text.strip).map declared? = as.map some := by
  induction declarations generalizing index as with
  | nil =>
    show Except.ok [] = Except.ok as ↔ [] = as.map some
    cases as <;> simp
  | cons d ds ih =>
    have hd := parse_full (h d List.mem_cons_self) index.toUInt64
    have hds := ih (fun e he => h e (List.mem_cons_of_mem _ he)) (index + 1)
    unfold parseFrom
    cases hparse : parse d index.toUInt64 with
    | error e =>
      have hnone : declared? (Text.strip d) = none := by
        rw [Option.eq_none_iff_forall_ne_some]
        intro a ha
        rw [← hd, hparse] at ha
        cases ha
      cases as <;> simp [hnone]
    | ok a =>
      have hsome := (hd a).mp hparse
      cases hrest : parseFrom (index + 1) ds with
      | error e =>
        have hno : ∀ bs : List Alias, (ds.map Text.strip).map declared? ≠ bs.map some := by
          intro bs hbs
          rw [← hds, hrest] at hbs
          cases hbs
        cases as with
        | nil => simp
        | cons b bs => simpa using fun _ => by simpa using hno bs
      | ok bs =>
        have hmap := (hds bs).mp hrest
        rw [List.map_cons, List.map_cons, hsome, hmap, ← List.map_cons, Except.ok.injEq,
          List.map_inj_right fun _ _ => Option.some.inj]

theorem map_some_of_perm {α : Type} {as : List α} {found : List (Option α)} (h : (as.map some).Perm found) :
    ∃ bs, found = bs.map some ∧ as.Perm bs := by
  refine ⟨found.filterMap id, ?_, by simpa [List.filterMap_map] using h.filterMap id⟩
  have hall : ∀ x ∈ found, x.isSome = true := by
    intro x hx
    obtain ⟨a, _, rfl⟩ := List.mem_map.mp (h.mem_iff.mpr hx)
    rfl
  clear h
  induction found with
  | nil => rfl
  | cons x found ih =>
    obtain ⟨b, rfl⟩ := Option.isSome_iff_exists.mp (hall x List.mem_cons_self)
    show some b :: found = (b :: found.filterMap id).map some
    rw [List.map_cons, ← ih fun y hy => hall y (List.mem_cons_of_mem _ hy)]

/-- **Declarations in full can be reordered, and blanks can be put anywhere.** -/
theorem parseList_perm {ds es : List String} (hfull : ∀ d ∈ ds, IsFull d)
    (hperm : (ds.map Text.strip).Perm (es.map Text.strip)) (h : parseList ds = .ok sorted) :
    parseList es = .ok sorted := by
  have hfull' : ∀ e ∈ es, IsFull e := by
    intro e he
    obtain ⟨d, hd, hstrip⟩ := List.mem_map.mp (hperm.mem_iff.mpr (List.mem_map_of_mem he))
    exact isFull_strip.mp (hstrip ▸ isFull_strip.mpr (hfull d hd))
  unfold parseList at h ⊢
  split at h
  · cases h
  · next as has =>
    have hfound := hperm.map declared?
    rw [(parseFrom_full hfull 0 as).mp has] at hfound
    obtain ⟨bs, hbs, hsame⟩ := map_some_of_perm hfound
    rw [(parseFrom_full hfull' 0 bs).mpr hbs]
    exact (canonicalize_perm h).mpr hsame

end Alias

/-! ### Specifications -/

namespace KernelSpec

/-- Lists that ask for the same flags. Blanks around a flag do not count, nor does what is nothing but
blanks. -/
def SameFlags (flags others : List String) : Prop :=
  ∀ flag, flag ≠ "" → (flag ∈ flags.map Text.trim ↔ flag ∈ others.map Text.trim)

theorem flags_eq_iff {flags others : List String} :
    FlagSet.empty.insertAll ((flags.map Text.trim).filter fun f => f ≠ "") =
      FlagSet.empty.insertAll ((others.map Text.trim).filter fun f => f ≠ "") ↔ SameFlags flags others := by
  have hmem : ∀ (texts : List String) (flag : String),
      flag ∈ (FlagSet.empty.insertAll ((texts.map Text.trim).filter fun f => f ≠ "")).toList ↔
        flag ∈ texts.map Text.trim ∧ flag ≠ "" := by
    intro texts flag
    rw [FlagSet.mem_insertAll, List.mem_filter]
    simp [FlagSet.empty]
  constructor
  · intro heq flag hne
    have hflag := hmem flags flag
    rw [heq, hmem others flag] at hflag
    simpa [hne] using hflag.symm
  · intro hsame
    refine FlagSet.ext_mem fun flag => ?_
    rw [hmem, hmem]
    exact and_congr_left (hsame flag)

theorem canonicalFormula_congr {f g : String} (h : Text.strip f = Text.strip g) :
    canonicalFormula f = canonicalFormula g := by
  unfold canonicalFormula
  rw [h]

theorem canonicalFormula_eq {f canonical : String} (h : canonicalFormula f = .ok canonical) :
    canonical = Text.strip f := by
  unfold canonicalFormula at h
  dsimp only at h
  split at h
  · cases h
  · split at h <;> cases h
    rfl

theorem create_eq_ok_iff {formula : String} {aliases : List Alias} {reduction : Reduction} {precision : Precision}
    {spec : KernelSpec} :
    create formula aliases reduction precision = .ok spec ↔
      ∃ canonical sorted, canonicalFormula formula = .ok canonical ∧ Alias.canonicalize aliases = .ok sorted ∧
        spec = ⟨canonical, reduction, .outer, sorted, precision, .empty⟩ := by
  unfold create
  cases canonicalFormula formula with
  | error e => simp
  | ok canonical =>
    cases Alias.canonicalize aliases with
    | error e => simp
    | ok sorted => simp [eq_comm]

/-- **Specifications are equal if and only if they differ in nothing but looks.** Blanks in the formula, the
order of the variables, and the order, repetition and padding of the flags are all that is forgotten.
Declarations in full can be reordered and padded, too, and the kernel keeps its fingerprint. -/
theorem cosmetic_differences (f g : String) (F G : List String) :
    (∀ A B r r' p p' axis axis' s t, create f A r p = .ok s → create g B r' p' = .ok t →
      ((s.withAxis axis).withFlags F = (t.withAxis axis').withFlags G ↔
        Text.strip f = Text.strip g ∧ A.Perm B ∧ r = r' ∧ axis = axis' ∧ p = p' ∧ SameFlags F G)) ∧
    ∀ D E A r p axis s, Text.strip f = Text.strip g → SameFlags F G → (∀ d ∈ D, Alias.IsFull d) →
      (D.map Text.strip).Perm (E.map Text.strip) → Alias.parseList D = .ok A → create f A r p = .ok s →
        Alias.parseList E = .ok A ∧ create g A r p = .ok s ∧
          (s.withAxis axis).withFlags F = (s.withAxis axis).withFlags G ∧
          ∀ target, Fingerprint.of ((s.withAxis axis).withFlags F) target =
            Fingerprint.of ((s.withAxis axis).withFlags G) target := by
  refine ⟨fun A B r r' p p' axis axis' s t hs ht => ?_,
    fun D E A r p axis s hformula hflags hfull hperm hD hs => ?_⟩
  · obtain ⟨c, as, hc, has, rfl⟩ := create_eq_ok_iff.mp hs
    obtain ⟨c', bs, hc', hbs, rfl⟩ := create_eq_ok_iff.mp ht
    have haliases : as = bs ↔ A.Perm B := by
      rw [← Alias.canonicalize_perm has, hbs, Except.ok.injEq, eq_comm]
    rw [← haliases, ← flags_eq_iff, ← canonicalFormula_eq hc, ← canonicalFormula_eq hc']
    simp only [withAxis, withFlags, KernelSpec.mk.injEq]
    grind
  · obtain ⟨c, as, hc, has, rfl⟩ := create_eq_ok_iff.mp hs
    have hequal : (KernelSpec.withFlags (KernelSpec.withAxis ⟨c, r, .outer, as, p, .empty⟩ axis) F) =
        KernelSpec.withFlags (KernelSpec.withAxis ⟨c, r, .outer, as, p, .empty⟩ axis) G := by
      simp only [withAxis, withFlags, flags_eq_iff.mpr hflags]
    refine ⟨Alias.parseList_perm hfull hperm hD, ?_, hequal, fun target => by rw [hequal]⟩
    exact create_eq_ok_iff.mpr ⟨c, as, canonicalFormula_congr hformula ▸ hc, has, rfl⟩

/-- Variables in another order, blanks in many places and a flag given twice make no difference. A precision
does. -/
theorem cosmetic_differences_padded : ∃ A s t,
    Alias.parseList ["x = Vi(0, 1)", "y=Vj(1,1)"] = .ok A ∧ create " x * y" A .sum .float32 = .ok s ∧
    create "x*y" A .sum .float64 = .ok t ∧
    Alias.parseList ["y\t= Vj( 1,1)", "x=Vi(0,1)"] = .ok A ∧ create "x*y" A .sum .float32 = .ok s ∧
    (s.withAxis .inner).withFlags [" -O2", "", "-g"] = (s.withAxis .inner).withFlags ["-g", "-O2 ", "-g"] ∧
    (s.withAxis .inner).withFlags [" -O2", "", "-g"] ≠ (t.withAxis .inner).withFlags ["-g", "-O2 ", "-g"] := by
  let A : List Alias := [⟨"x", .outer, 0, 1⟩, ⟨"y", .inner, 1, 1⟩]
  have hD : Alias.parseList ["x = Vi(0, 1)", "y=Vj(1,1)"] = .ok A := by decide +kernel
  have hs : create " x * y" A .sum .float32 = .ok ⟨"x*y", .sum, .outer, A, .float32, .empty⟩ := by decide +kernel
  have ht : create "x*y" A .sum .float64 = .ok ⟨"x*y", .sum, .outer, A, .float64, .empty⟩ := by decide +kernel
  have hflags : SameFlags [" -O2", "", "-g"] ["-g", "-O2 ", "-g"] := by
    intro flag hne
    rw [show [" -O2", "", "-g"].map Text.trim = ["-O2", "", "-g"] by decide +kernel,
      show ["-g", "-O2 ", "-g"].map Text.trim = ["-g", "-O2", "-g"] by decide +kernel]
    grind
  have hstrip : Text.strip " x * y" = Text.strip "x*y" := by decide +kernel
  obtain ⟨hequal, hsame⟩ := cosmetic_differences " x * y" "x*y" [" -O2", "", "-g"] ["-g", "-O2 ", "-g"]
  obtain ⟨hE, hcreate, hspec, _⟩ :=
    hsame ["x = Vi(0, 1)", "y=Vj(1,1)"] ["y\t= Vj( 1,1)", "x=Vi(0,1)"] A .sum .float32
    .inner _ hstrip hflags (by decide +kernel) (by decide +kernel) hD hs
  refine ⟨A, _, _, hD, hs, ht, hE, hcreate, hspec, fun h => ?_⟩
  have hprecision := ((hequal A A .sum .sum .float32 .float64 .inner .inner _ _ hs ht).mp h).2.2.2.2.1
  cases hprecision

end KernelSpec

end KernelForge
