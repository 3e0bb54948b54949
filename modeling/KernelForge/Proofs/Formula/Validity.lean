import KernelForge.Call.Argument
import KernelForge.Proofs.Formula.Balance
import KernelForge.Proofs.Formula.Canonical
import KernelForge.Proofs.Formula.Record

/-!
Which specifications can be built.

`Built` are the specifications that come out of the constructors: out of a formula and checked variables, or
out of texts, and then through any changes of axis, reduction and flags. `Canonical` says what a
specification looks like that can be relied on. They are the same (`canonical_exactly_built`). A record is
read without a check, so every specification comes out of some text, canonical or not
(`read_without_formula`).
-/
namespace KernelForge

/-! ### Trimmed texts -/

namespace Text

/-- A text that starts and ends with something other than a blank. -/
def IsTrimmed (s : String) : Prop :=
  (∃ c, s.toList.head? = some c ∧ isBlank c = false) ∧ ∃ c, s.toList.getLast? = some c ∧ isBlank c = false

variable {cs : List Char} {s : String}

theorem head?_dropWhile {p : Char → Bool} (h : cs.dropWhile p ≠ []) :
    ∃ c, (cs.dropWhile p).head? = some c ∧ p c = false := by
  have hhead := List.head?_dropWhile_not p cs
  rw [List.head?_eq_some_head h] at hhead ⊢
  exact ⟨_, rfl, by simpa using hhead⟩

theorem dropWhile_of_head? {p : Char → Bool} {c : Char} (h : cs.head? = some c) (hc : p c = false) :
    cs.dropWhile p = cs := by
  obtain ⟨rest, rfl⟩ := List.head?_eq_some_iff.mp h
  exact List.dropWhile_cons_of_neg (by simp [hc])

theorem isTrimmed_trim (h : trim s ≠ "") : IsTrimmed (trim s) := by
  have hends : trimEndChars (trimStartChars s.toList) ≠ [] := by
    intro hnil
    apply h
    rw [trim, hnil]
  rw [IsTrimmed, trim, String.toList_ofList]
  unfold trimEndChars at hends ⊢
  obtain ⟨last, hlast, hsolid⟩ := head?_dropWhile (p := isBlank) (mt List.reverse_eq_nil_iff.mpr hends)
  refine ⟨?_, last, by rw [List.getLast?_reverse, hlast], hsolid⟩
  -- What is left after the end is cut is where the whole starts.
  have hprefix : ((trimStartChars s.toList).reverse.dropWhile isBlank).reverse <+: trimStartChars s.toList := by
    rw [← List.reverse_suffix, List.reverse_reverse]
    exact List.dropWhile_suffix isBlank
  have hstart : (trimStartChars s.toList) ≠ [] := fun hnil => hends (List.prefix_nil.mp (hnil ▸ hprefix))
  obtain ⟨first, hfirst, hsolid⟩ := head?_dropWhile hstart
  refine ⟨first, ?_, hsolid⟩
  obtain ⟨cut, hcut⟩ := hprefix
  rw [← List.head?_append_of_ne_nil _ hends, hcut]
  exact hfirst

theorem IsTrimmed.ne_empty (h : IsTrimmed s) : s ≠ "" := by
  rintro rfl
  obtain ⟨⟨c, hc, _⟩, _⟩ := h
  cases hc

theorem trim_of_isTrimmed (h : IsTrimmed s) : trim s = s := by
  obtain ⟨⟨first, hfirst, hstart⟩, last, hlast, hend⟩ := h
  rw [trim, trimStartChars, dropWhile_of_head? hfirst hstart, trimEndChars,
    dropWhile_of_head? (by rw [List.head?_reverse, hlast]) hend, List.reverse_reverse, String.ofList_toList]

end Text

/-! ### Variables -/

namespace Alias

variable {declarations : List String} {as : List Alias}

theorem valid_of_parseFrom {index : Nat} (h : parseFrom index declarations = .ok as) : ∀ a ∈ as, a.Valid := by
  induction declarations generalizing index as with
  | nil =>
    cases h
    exact fun a ha => absurd ha List.not_mem_nil
  | cons declaration rest ih =>
    unfold parseFrom at h
    split at h
    · cases h
    · next a ha =>
      split at h
      · cases h
      · next bs hbs =>
        cases h
        exact List.forall_mem_cons.mpr ⟨(parse_eq_ok_iff.mp ha).1, ih hbs⟩

theorem valid_of_parseList (h : parseList declarations = .ok as) : ∀ a ∈ as, a.Valid := by
  unfold parseList at h
  split at h
  · cases h
  · next parsed hparsed =>
    intro a ha
    obtain ⟨_, hperm, _⟩ := canonicalize_eq_ok_iff.mp h
    exact valid_of_parseFrom hparsed a (hperm.mem_iff.mp ha)

/-- The variables that come out of the constructors. -/
inductive Built : Alias → Prop
  | created {name : String} {category : Category} {position dim : UInt64} {a : Alias}
      (h : create name category position dim = .ok a) : Built a
  | declared {declarations : List String} {as : List Alias} {a : Alias} (h : parseList declarations = .ok as)
      (hmem : a ∈ as) : Built a

theorem built_iff {a : Alias} : a.Built ↔ a.Valid := by
  constructor
  · rintro (h | ⟨h, hmem⟩)
    · exact (create_eq_ok_iff.mp h).2
    · exact valid_of_parseList h a hmem
  · intro h
    exact .created (create_eq_ok_iff.mpr ⟨rfl, h⟩)

theorem inPlace_iff : InPlace 0 as ↔ ∀ (p : Nat) (a : Alias), as[p]? = some a → a.position.toNat = p := by
  unfold InPlace
  constructor
  · intro h p a ha
    obtain ⟨hlt, rfl⟩ := List.getElem?_eq_some_iff.mp ha
    have hp := congrArg (·[p]?) h
    simpa [hlt] using hp
  · intro h
    refine List.ext_getElem (by simp) fun p hp _ => ?_
    rw [List.length_map] at hp
    simpa using h p as[p] (List.getElem?_eq_getElem hp)

end Alias

/-! ### Specifications -/

namespace KernelSpec

/-- The specifications that come out of the constructors. -/
inductive Built : KernelSpec → Prop
  | created {formula : String} {aliases : List Alias} {reduction : Reduction} {precision : Precision}
      {spec : KernelSpec} (haliases : ∀ a ∈ aliases, a.Built)
      (h : create formula aliases reduction precision = .ok spec) : Built spec
  | parsed {formula : String} {declarations : List String} {reduction precision : String} {spec : KernelSpec}
      (h : parse formula declarations reduction precision = .ok spec) : Built spec
  | withAxis {spec : KernelSpec} (h : Built spec) (axis : Axis) : Built (spec.withAxis axis)
  | withReduction {spec : KernelSpec} (h : Built spec) (reduction : Reduction) :
    Built (spec.withReduction reduction)
  | withFlags {spec : KernelSpec} (h : Built spec) (flags : List String) : Built (spec.withFlags flags)

/-- A formula that is there, without blanks and with matching parentheses; variables with proper and
distinct names, each at its position; flags without blanks around them. -/
structure Canonical (spec : KernelSpec) : Prop where
  nonempty : spec.formula ≠ ""
  solid : ∀ c ∈ spec.formula.toList, Text.isBlank c = false
  balanced : Balanced spec.formula.toList
  distinct : (spec.aliases.map Alias.name).Nodup
  valid : ∀ a ∈ spec.aliases, a.Valid
  inPlace : ∀ (p : Nat) (a : Alias), spec.aliases[p]? = some a → a.position.toNat = p
  trimmed : ∀ f ∈ spec.flags.toList, Text.IsTrimmed f

theorem canonicalFormula_eq_ok_iff {f g : String} :
    canonicalFormula f = .ok g ↔ g = Text.strip f ∧ g ≠ "" ∧ Balanced g.toList := by
  have hempty : (Text.strip f).toList.isEmpty = true ↔ Text.strip f = "" := by simp
  unfold canonicalFormula
  dsimp only
  split
  · next h =>
    simp only [reduceCtorEq, false_iff]
    rintro ⟨rfl, hne, _⟩
    exact hne (hempty.mp h)
  · next hne =>
    rw [hempty] at hne
    split
    · next hbalanced =>
      rw [Except.ok.injEq]
      constructor
      · rintro rfl
        exact ⟨rfl, hne, balancedFrom_iff.mp hbalanced⟩
      · exact fun h => h.1.symm
    · next hbalanced =>
      simp only [reduceCtorEq, false_iff]
      rintro ⟨rfl, _, h⟩
      exact hbalanced (balancedFrom_iff.mpr h)

variable {formula : String} {spec : KernelSpec} {α : Type}

theorem canonical_of_create {aliases : List Alias} {reduction : Reduction} {precision : Precision}
    (haliases : ∀ a ∈ aliases, a.Valid) (h : create formula aliases reduction precision = .ok spec) :
    spec.Canonical := by
  obtain ⟨f, sorted, hf, hsorted, rfl⟩ := create_eq_ok_iff.mp h
  obtain ⟨rfl, hne, hbalanced⟩ := canonicalFormula_eq_ok_iff.mp hf
  obtain ⟨hnames, hperm, hplace⟩ := Alias.canonicalize_eq_ok_iff.mp hsorted
  refine ⟨hne, ?_, hbalanced, (hperm.map Alias.name).nodup_iff.mpr hnames,
    fun a ha => haliases a (hperm.mem_iff.mp ha), Alias.inPlace_iff.mp hplace, by simp [FlagSet.empty]⟩
  simp [Text.strip]

theorem canonical_of_parse {declarations : List String} {reduction precision : String}
    (h : parse formula declarations reduction precision = .ok spec) : spec.Canonical := by
  unfold parse at h
  cases haliases : Alias.parseList declarations with
  | error e => simp [haliases, bind, Except.bind] at h
  | ok aliases =>
    cases hreduction : Reduction.ofName reduction none with
    | error e => simp [haliases, hreduction, bind, Except.bind] at h
    | ok r =>
      cases hprecision : Precision.parse precision with
      | error e => simp [haliases, hreduction, hprecision, bind, Except.bind] at h
      | ok p =>
        rw [haliases, hreduction, hprecision] at h
        exact canonical_of_create (Alias.valid_of_parseList haliases) h

theorem Canonical.withFlags (h : spec.Canonical) (flags : List String) : (spec.withFlags flags).Canonical := by
  refine ⟨h.nonempty, h.solid, h.balanced, h.distinct, h.valid, h.inPlace, fun f hf => ?_⟩
  rcases FlagSet.mem_insertAll.mp hf with hf | hf
  · exact h.trimmed f hf
  · obtain ⟨hmem, hne⟩ := List.mem_filter.mp hf
    obtain ⟨g, _, rfl⟩ := List.mem_map.mp hmem
    exact Text.isTrimmed_trim (by simpa using hne)

theorem Built.canonical (h : spec.Built) : spec.Canonical := by
  induction h with
  | created haliases h => exact canonical_of_create (fun a ha => Alias.built_iff.mp (haliases a ha)) h
  | parsed h => exact canonical_of_parse h
  | withAxis _ axis ih => exact ⟨ih.nonempty, ih.solid, ih.balanced, ih.distinct, ih.valid, ih.inPlace, ih.trimmed⟩
  | withReduction _ r ih =>
    exact ⟨ih.nonempty, ih.solid, ih.balanced, ih.distinct, ih.valid, ih.inPlace, ih.trimmed⟩
  | withFlags _ flags ih => exact ih.withFlags flags

/-- Nothing happens to a canonical specification when it is built once more. -/
theorem Canonical.built (h : spec.Canonical) : spec.Built := by
  have hformula : canonicalFormula spec.formula = .ok spec.formula :=
    canonicalFormula_eq_ok_iff.mpr ⟨(Text.strip_of_solid h.solid).symm, h.nonempty, h.balanced⟩
  have haliases : Alias.canonicalize spec.aliases = .ok spec.aliases :=
    Alias.canonicalize_eq_ok_iff.mpr ⟨h.distinct, .refl _, Alias.inPlace_iff.mpr h.inPlace⟩
  have hcreate : create spec.formula spec.aliases spec.reduction spec.precision =
      .ok ⟨spec.formula, spec.reduction, .outer, spec.aliases, spec.precision, .empty⟩ :=
    create_eq_ok_iff.mpr ⟨_, _, hformula, haliases, rfl⟩
  have htrim : spec.flags.toList.map Text.trim = spec.flags.toList.map id :=
    List.map_congr_left fun f hf => Text.trim_of_isTrimmed (h.trimmed f hf)
  have hkept : (spec.flags.toList.map Text.trim).filter (fun f => f ≠ "") = spec.flags.toList := by
    rw [htrim, List.map_id]
    exact List.filter_eq_self.mpr fun f hf => by simpa using (h.trimmed f hf).ne_empty
  have hspec : spec = (KernelSpec.withAxis
      ⟨spec.formula, spec.reduction, .outer, spec.aliases, spec.precision, .empty⟩ spec.axis).withFlags
        spec.flags.toList := by
    simp only [KernelSpec.withFlags, KernelSpec.withAxis, hkept]
    rw [show FlagSet.empty.insertAll spec.flags.toList = spec.flags from FlagSet.ofList_toList spec.flags]
  rw [hspec]
  exact .withFlags (.withAxis (.created (fun a ha => Alias.built_iff.mpr (h.valid a ha)) hcreate) _) _

/-! ### Arguments -/

/-- Each variable with the argument at its position. -/
def bindings {α : Type} (spec : KernelSpec) (arguments : List (Argument α)) : List (Alias × Argument α) :=
  spec.aliases.filterMap fun a => arguments[a.position.toNat]?.map fun argument => (a, argument)

theorem zip_eq_filterMap {as : List Alias} (before : List (Argument α)) {arguments : List (Argument α)}
    (hlength : as.length = arguments.length) (h : Alias.InPlace before.length as) :
    as.zip arguments =
      as.filterMap fun a => (before ++ arguments)[a.position.toNat]?.map fun argument => (a, argument) := by
  induction as generalizing before arguments with
  | nil => rfl
  | cons a as ih =>
    obtain ⟨ha, has⟩ : a.position.toNat = before.length ∧ Alias.InPlace (before.length + 1) as := by
      simpa [Alias.InPlace, List.range'_succ] using h
    cases arguments with
    | nil => cases hlength
    | cons argument arguments =>
      have hrest := ih (before ++ [argument]) (Nat.succ.inj hlength) (by simpa using has)
      rw [List.append_assoc, List.singleton_append] at hrest
      rw [List.zip_cons_cons, hrest, List.filterMap_cons]
      simp [ha]

theorem Canonical.zip_eq_bindings (h : spec.Canonical) {arguments : List (Argument α)}
    (hlength : spec.aliases.length = arguments.length) : spec.aliases.zip arguments = spec.bindings arguments :=
  zip_eq_filterMap [] hlength (Alias.inPlace_iff.mpr h.inPlace)

/-- **The specifications that can be built are the canonical ones**, and an argument is taken for the
variable at its position. A record is not built: there is a text for every specification. -/
theorem canonical_exactly_built (spec : KernelSpec) :
    (spec.Built ↔ spec.Canonical) ∧
    (spec.Built → ∀ {α : Type} (arguments : List (Argument α)), spec.aliases.length = arguments.length →
      Extents.ofArguments spec arguments =
        (Extents.collect {} (spec.bindings arguments)).map fun found => (found.nx.getD 1, found.ny.getD 1)) ∧
    ∃ text, ofText? text = some spec := by
  refine ⟨⟨Built.canonical, Canonical.built⟩, fun hbuilt α arguments hlength => ?_, spec.toJson.compact, ?_⟩
  · rw [Extents.ofArguments, if_neg (not_not.mpr hlength), hbuilt.canonical.zip_eq_bindings hlength]
    cases Extents.collect {} (spec.bindings arguments) <;> rfl
  · rw [ofText?, Json.parse?_compact spec.spelled_toJson]
    exact ofJson?_toJson spec

/-- A record without a formula is read, and what is read cannot be built. -/
theorem read_without_formula :
    ∃ spec, ofText? ("\x7b\"formula\":\"\",\"reduction\":\"Sum\",\"axis\":\"I\",\"aliases\":[]," ++
        "\"precision\":\"Float32\",\"flags\":[]\x7d") = some spec ∧ ¬ spec.Canonical ∧ ¬ spec.Built := by
  have hcanonical : ¬ Canonical ⟨"", .sum, .outer, [], .float32, .empty⟩ := fun h => h.nonempty rfl
  exact ⟨⟨"", .sum, .outer, [], .float32, .empty⟩, by decide +kernel, hcanonical, fun h => hcanonical h.canonical⟩

end KernelSpec

end KernelForge
