import KernelForge.Proofs.Call.Admission
import KernelForge.Proofs.Call.Refusal

/-!
Launches are safe.

A kernel is code without checks of its own: it reads as many scalars as extents and dimensions say, and
writes as many as it was told to. `Launch.Safe` is what it relies on. Every check comes before the launch
and together they are strong enough (`prepare_safe`), so a call that is refused launches nothing, any other
launches once and safely, and what it returns is what the kernel wrote (`call_safe`).
-/
namespace KernelForge

/-- What a kernel relies on when it is launched: precision and axis are those of the specification, there is an
argument for each variable with exactly as many scalars as rows and dimension make, a restriction stays within
the extents, and the output has a place for each scalar of each row. -/
structure Launch.Safe {α : Type} [Scalar α] (spec : KernelSpec) (info : Metadata) (l : Launch α) : Prop where
  scalars : Scalar.precision α = spec.precision
  precision : info.precision = spec.precision
  axis : info.axis = spec.axis
  count : l.arguments.length = spec.aliases.length
  lengths : ∀ p ∈ spec.aliases.zip l.arguments,
    p.2.length.toNat = Extents.rowsOf l.nx l.ny p.1.category * p.1.dim.toNat
  ranges : ∀ r, l.ranges = some r → r.validate l.nx l.ny = .ok ()
  output : l.outputLength.toNat = (Call.rowsAlong spec.axis l.nx l.ny).toNat * info.dimout.toNat

/-- A result that tells what a kernel replied: all rows are there, a pair is put together where the kernel wrote
pairs, and everything else is as the kernel wrote it. -/
structure Output.Tells {α : Type} [Scalar α] (spec : KernelSpec) (info : Metadata) (l : Launch α)
    (reply : Reply α) (out : Output α) : Prop where
  rows : out.rows = Call.rowsAlong spec.axis l.nx l.ny
  size : out.values.size = out.rows.toNat * out.cols.toNat
  row : ∀ i, i < out.rows → (out.row? i).isSome
  pairs : spec.reduction.isLogSumExp = true → out.cols = 1 ∧ ∀ r, r < out.rows.toNat →
    out.values[r]? = some (reply.written (2 * r) + Scalar.log (reply.written (2 * r + 1)))
  plain : spec.reduction.isLogSumExp = false → out.cols = info.dimout ∧
    out.values.size = l.outputLength.toNat ∧
    ∀ i, i < l.outputLength.toNat → out.values[i]? = some (reply.written i)

/-- What holds of the account of a call, whatever the kernel replies. -/
structure CallReport.Sound {α : Type} [Scalar α] (spec : KernelSpec) (fingerprint : Fingerprint)
    (info : Metadata) (kernel : Launch α → Reply α) (arguments : List (Argument α)) (options : CallOptions)
    (report : CallReport α) : Prop where
  safe : ∀ l ∈ report.launches, l.Safe spec info ∧ l.arguments = arguments ∧ l.ranges = options.ranges
  refused : ∀ e, report.outcome = .error (.refused e) → e.fromKernel = false → report.launches = []
  unallocated : ∀ bytes, report.outcome = .error (.unallocatable bytes) → report.launches = []
  failed : ∀ e, report.outcome = .error (.refused e) → e.fromKernel = true →
    ∃ l, report.launches = [l] ∧ (kernel l).status ≠ 0 ∧ e = .kernel fingerprint (kernel l).status
  returned : ∀ out, report.outcome = .ok out →
    ∃ l, report.launches = [l] ∧ (kernel l).status = 0 ∧ out.Tells spec info l (kernel l)

namespace Call

/-! ### Checks -/

variable {spec : KernelSpec} {info : Metadata} {α : Type} {gpuAvailable : Bool} {options : CallOptions}

theorem checkKernel_agrees {data : Precision} (h : checkKernel spec info data = .ok ()) :
    data = spec.precision ∧ info.precision = spec.precision ∧ info.axis = spec.axis ∧
      (spec.reduction.isLogSumExp = true → info.dimout = 2) := by
  unfold checkKernel at h
  by_cases hd : data = spec.precision
  · rw [if_neg (by simpa using hd)] at h
    by_cases hi : info.precision ≠ data ∨ info.axis ≠ spec.axis
    · rw [if_pos hi] at h
      cases h
    · rw [if_neg hi] at h
      have hinfo : info.precision = data ∧ info.axis = spec.axis := by simpa using hi
      refine ⟨hd, by rw [hinfo.1, hd], hinfo.2, fun hl => ?_⟩
      by_cases hp : info.dimout = 2
      · exact hp
      · rw [if_pos ⟨hl, hp⟩] at h
        cases h
  · rw [if_pos hd] at h
    cases h

theorem checkRanges_valid {ranges : Option Ranges} {nx ny : UInt64}
    (h : checkRanges ranges nx ny = .ok ()) : ∀ r, ranges = some r → r.validate nx ny = .ok () := by
  intro r hr
  subst hr
  unfold checkRanges at h
  simp only at h
  cases hv : r.validate nx ny with
  | error defect => rw [hv] at h; cases h
  | ok _ => rfl

theorem prepare_admits [Scalar α] {arguments : List (Argument α)} {l : Launch α}
    (h : prepare spec info gpuAvailable arguments options = .ok l) :
    checkKernel spec info (Scalar.precision α) = .ok () ∧
      Extents.ofArguments spec arguments = .ok (l.nx, l.ny) ∧
      checkRanges options.ranges l.nx l.ny = .ok () ∧
      Extents.product? (rowsAlong spec.axis l.nx l.ny) info.dimout = some l.outputLength ∧
      l.arguments = arguments ∧ l.ranges = options.ranges := by
  obtain ⟨hpasses, houtput, harguments, hoptions⟩ := passes_of_prepare h
  exact ⟨hpasses.kernel, hpasses.extents, hpasses.ranges, houtput, harguments, hoptions⟩

theorem prepare_safe [Scalar α] {arguments : List (Argument α)} {l : Launch α}
    (h : prepare spec info gpuAvailable arguments options = .ok l) : l.Safe spec info := by
  obtain ⟨hkernel, hextents, hranges, houtput, harguments, hoptions⟩ := prepare_admits h
  obtain ⟨hscalars, hprecision, haxis, _⟩ := checkKernel_agrees hkernel
  obtain ⟨hcount, hlengths⟩ := Extents.ofArguments_lengths hextents
  refine ⟨hscalars, hprecision, haxis, ?_, ?_, ?_, Extents.product?_exact houtput⟩
  · rw [harguments]
    exact hcount
  · rw [harguments]
    exact hlengths
  · rw [hoptions]
    exact checkRanges_valid hranges

/-! ### Results -/

/-- A table with as many scalars as rows and columns make has all of its rows. -/
theorem row_isSome {out : Output α} (hsize : out.values.size = out.rows.toNat * out.cols.toNat) {i : UInt64}
    (hi : i < out.rows) : (out.row? i).isSome := by
  have hlt : i.toNat < out.rows.toNat := UInt64.lt_iff_toNat_lt.mp hi
  have hword : i.toNat + 1 < UInt64.size := Nat.lt_of_le_of_lt hlt out.rows.toNat_lt
  have hstop : (i.toNat + 1) * out.cols.toNat ≤ out.values.size := by
    rw [hsize]
    exact Nat.mul_le_mul_right _ hlt
  simp [Output.row?, hword, hstop]

theorem result_tells [Scalar α] {l : Launch α} (hsafe : l.Safe spec info)
    (hpairs : spec.reduction.isLogSumExp = true → info.dimout = 2) (reply : Reply α) :
    (result spec info l reply).Tells spec info l reply := by
  have houtput := hsafe.output
  cases hl : spec.reduction.isLogSumExp with
  | true =>
    have hhalf : l.outputLength.toNat / 2 = (rowsAlong spec.axis l.nx l.ny).toNat := by
      rw [houtput, hpairs hl]
      exact Nat.mul_div_cancel _ (by decide)
    have hsize : (result spec info l reply).values.size =
        (result spec info l reply).rows.toNat * (result spec info l reply).cols.toNat := by
      simp [result, hl, hhalf]
    refine ⟨by simp [result, hl], hsize, fun i hi => row_isSome hsize hi, fun _ => ?_, fun hf => ?_⟩
    · refine ⟨by simp [result, hl], fun r hr => ?_⟩
      have hrow : r < l.outputLength.toNat / 2 := by
        rw [hhalf]
        simpa [result, hl] using hr
      simp [result, hl, hrow]
    · rw [hl] at hf
      cases hf
  | false =>
    have hsize : (result spec info l reply).values.size =
        (result spec info l reply).rows.toNat * (result spec info l reply).cols.toNat := by
      simp [result, hl, buffer, houtput]
    refine ⟨by simp [result, hl], hsize, fun i hi => row_isSome hsize hi, fun ht => ?_, fun _ => ?_⟩
    · rw [hl] at ht
      cases ht
    · refine ⟨by simp [result, hl], by simp [result, hl, buffer], fun i hi => ?_⟩
      simp [result, hl, buffer, hi]

/-! ### Calls -/

/-- **Every launch of a call is safe, and no refused call launches.** A call that returns an error launched
nothing unless the error is the kernel's own, and one whose output cannot be allocated ends before the launch. A
call that returns a result or the kernel's error launched once, and the result tells what the kernel replied. -/
theorem call_safe {α : Type} [Scalar α] (spec : KernelSpec) (fingerprint : Fingerprint) (info : Metadata)
    (gpuAvailable : Bool) (kernel : Launch α → Reply α) (arguments : List (Argument α))
    (options : CallOptions) :
    (run spec fingerprint info gpuAvailable kernel arguments options).Sound
      spec fingerprint info kernel arguments options := by
  unfold run
  cases hp : prepare spec info gpuAvailable arguments options with
  | error e =>
    have hpre := precheck_prepare spec info gpuAvailable arguments options e hp
    refine ⟨nofun, fun _ _ _ => rfl, fun _ _ => rfl, fun e' he hk => ?_, nofun⟩
    cases he
    rw [hpre] at hk
    cases hk
  | ok l =>
    have hsafe := prepare_safe hp
    obtain ⟨hkernel, _, _, _, harguments, hoptions⟩ := prepare_admits hp
    have hpairs := (checkKernel_agrees hkernel).2.2.2
    have hlaunch : ∀ l' ∈ [l], l'.Safe spec info ∧ l'.arguments = arguments ∧ l'.ranges = options.ranges := by
      intro l' hl'
      rw [List.mem_singleton.mp hl']
      exact ⟨hsafe, harguments, hoptions⟩
    simp only
    split
    · exact ⟨nofun, fun _ _ _ => rfl, fun _ _ => rfl, nofun, nofun⟩
    · by_cases hstatus : (kernel l).status = 0
      · rw [if_pos hstatus]
        refine ⟨hlaunch, nofun, nofun, nofun, fun out ho => ⟨l, rfl, hstatus, ?_⟩⟩
        cases ho
        exact result_tells hsafe hpairs (kernel l)
      · rw [if_neg hstatus]
        refine ⟨hlaunch, fun e he hk => ?_, nofun, fun e he _ => ?_, nofun⟩
        · cases he
          cases hk
        · cases he
          exact ⟨l, rfl, hstatus, rfl⟩

end Call

end KernelForge
