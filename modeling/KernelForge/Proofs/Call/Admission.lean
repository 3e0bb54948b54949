import KernelForge.Call.Launch
import KernelForge.Proofs.Call.Extents

/-!
Calls that pass their checks, and the size of their output.

`Passes` are the checks of a call. One that passes them is launched if its output can be counted in a word
(`Passes.prepare_eq_ok`), and nothing else is launched (`passes_of_prepare`). A count is not yet a size: a
buffer cannot have more than `bufferLimit` bytes, and between the two bounds an output is neither refused
nor allocated (`run_output`).
-/
namespace KernelForge.Call

/-- The checks of a call, with what they find: its extents, and where it runs. -/
structure Passes {α : Type} [Scalar α] (spec : KernelSpec) (info : Metadata) (gpuAvailable : Bool)
    (arguments : List (Argument α)) (options : CallOptions) (nx ny : UInt64) (tag : Tag) (device : Int32) :
    Prop where
  kernel : checkKernel spec info (Scalar.precision α) = .ok ()
  extents : Extents.ofArguments spec arguments = .ok (nx, ny)
  place : Placement.select options.preference (arguments.map Argument.storage) gpuAvailable options.device =
    .ok (tag, device)
  ranges : checkRanges options.ranges nx ny = .ok ()

section
variable {α : Type} [Scalar α] {spec : KernelSpec} {info : Metadata} {gpuAvailable : Bool}
  {arguments : List (Argument α)} {options : CallOptions} {nx ny : UInt64} {tag : Tag} {device : Int32}

theorem Passes.prepare_eq_error (h : Passes spec info gpuAvailable arguments options nx ny tag device)
    (hproduct : Extents.product? (rowsAlong spec.axis nx ny) info.dimout = none) :
    prepare spec info gpuAvailable arguments options =
      .error (.outputOverflow (rowsAlong spec.axis nx ny) info.dimout) := by
  simp only [prepare, h.kernel, h.extents, h.place, h.ranges, hproduct, bind, Except.bind]

theorem Passes.prepare_eq_ok (h : Passes spec info gpuAvailable arguments options nx ny tag device)
    {length : UInt64} (hproduct : Extents.product? (rowsAlong spec.axis nx ny) info.dimout = some length) :
    prepare spec info gpuAvailable arguments options = .ok ⟨nx, ny, tag, device, options.ranges, arguments,
      length⟩ := by
  simp only [prepare, h.kernel, h.extents, h.place, h.ranges, hproduct, bind, Except.bind]

theorem bind_eq_ok {ε β γ : Type} {x : Except ε β} {f : β → Except ε γ} {c : γ} (h : x >>= f = .ok c) :
    ∃ b, x = .ok b ∧ f b = .ok c := by
  cases x with
  | error e => cases h
  | ok b => exact ⟨b, rfl, h⟩

theorem passes_of_prepare {l : Launch α} (h : prepare spec info gpuAvailable arguments options = .ok l) :
    Passes spec info gpuAvailable arguments options l.nx l.ny l.tag l.device ∧
      Extents.product? (rowsAlong spec.axis l.nx l.ny) info.dimout = some l.outputLength ∧
      l.arguments = arguments ∧ l.ranges = options.ranges := by
  obtain ⟨_, hkernel, h⟩ := bind_eq_ok h
  obtain ⟨⟨nx, ny⟩, hextents, h⟩ := bind_eq_ok h
  obtain ⟨⟨tag, device⟩, hplace, h⟩ := bind_eq_ok h
  obtain ⟨_, hranges, h⟩ := bind_eq_ok h
  dsimp only at h
  split at h
  · cases h
  · next hproduct =>
    cases h
    exact ⟨⟨hkernel, hextents, hplace, hranges⟩, hproduct, rfl, rfl⟩

theorem prepare_of_launched {fingerprint : Fingerprint} {kernel : Launch α → Reply α} {l : Launch α}
    (h : l ∈ (run spec fingerprint info gpuAvailable kernel arguments options).launches) :
    prepare spec info gpuAvailable arguments options = .ok l := by
  unfold run at h
  split at h
  · cases h
  · next l' hprepare =>
    dsimp only at h
    split at h
    · cases h
    · split at h <;> rw [List.mem_singleton.mp h, hprepare]

/-! ### The size of the output -/

/-- The scalars of the output of a call, counted without bound. -/
def outputCount (spec : KernelSpec) (info : Metadata) (nx ny : UInt64) : Nat :=
  (rowsAlong spec.axis nx ny).toNat * info.dimout.toNat

theorem product?_of_outputCount (h : outputCount spec info nx ny < 2 ^ 64) : ∃ length,
    Extents.product? (rowsAlong spec.axis nx ny) info.dimout = some length ∧
      length.toNat = outputCount spec info nx ny := by
  have hproduct : Extents.product? (rowsAlong spec.axis nx ny) info.dimout = some _ := if_pos h
  exact ⟨_, hproduct, Extents.product?_exact hproduct⟩

/-- **What becomes of a call depends on the size of its output.** A call that passes its checks is refused
before a launch if the scalars of its output cannot be counted in a word. If they can, but their bytes are
more than a buffer can have, it breaks off without a launch and without an error. Otherwise it is launched
once, with a place for each scalar. -/
theorem run_output (h : Passes spec info gpuAvailable arguments options nx ny tag device)
    (fingerprint : Fingerprint) (kernel : Launch α → Reply α) :
    (2 ^ 64 ≤ outputCount spec info nx ny →
      run spec fingerprint info gpuAvailable kernel arguments options =
        ⟨[], .error (.refused (.outputOverflow (rowsAlong spec.axis nx ny) info.dimout))⟩) ∧
    (outputCount spec info nx ny < 2 ^ 64 →
      bufferLimit < outputCount spec info nx ny * (Scalar.precision α).size →
      run spec fingerprint info gpuAvailable kernel arguments options =
        ⟨[], .error (.unallocatable (outputCount spec info nx ny * (Scalar.precision α).size))⟩) ∧
    (outputCount spec info nx ny * (Scalar.precision α).size ≤ bufferLimit →
      ∃ length : UInt64, length.toNat = outputCount spec info nx ny ∧
        (run spec fingerprint info gpuAvailable kernel arguments options).launches =
          [⟨nx, ny, tag, device, options.ranges, arguments, length⟩]) := by
  have hsize : 1 ≤ (Scalar.precision α).size := by cases Scalar.precision α <;> decide
  refine ⟨fun hmany => ?_, fun hfew hlarge => ?_, fun hsmall => ?_⟩
  · have hproduct : Extents.product? (rowsAlong spec.axis nx ny) info.dimout = none := if_neg (Nat.not_lt.mpr hmany)
    rw [run, h.prepare_eq_error hproduct]
  · obtain ⟨length, hproduct, hlength⟩ := product?_of_outputCount hfew
    simp only [run, h.prepare_eq_ok hproduct]
    rw [hlength, if_pos hlarge]
  · have hfew : outputCount spec info nx ny < 2 ^ 64 := by
      have hle := Nat.le_mul_of_pos_right (outputCount spec info nx ny) hsize
      unfold bufferLimit at hsmall
      omega
    obtain ⟨length, hproduct, hlength⟩ := product?_of_outputCount hfew
    refine ⟨length, hlength, ?_⟩
    simp only [run, h.prepare_eq_ok hproduct]
    rw [hlength, if_neg (Nat.not_lt.mpr hsmall)]
    split <;> rfl

end

/-- The sum of one variable along the outer index. -/
def rowSpec : KernelSpec :=
  { formula := "x", reduction := .sum, axis := .outer, precision := .float64, flags := .empty,
    aliases := [⟨"x", .outer, 0, 1⟩] }

/-- A kernel for it with rows of some scalars. -/
def rowInfo (dimout : UInt64) : Metadata := ⟨Metadata.currentAbi, .float64, dimout, .outer, none⟩

/-- Rows of one scalar, on a device. -/
def deviceRows (n : UInt64) (id : UInt32) : List (Argument Float) := [⟨#[], n, [n], .device id⟩]

/-- A kernel that writes zeros. -/
def zeros (_ : Launch Float) : Reply Float := ⟨fun _ => Scalar.zero, 0⟩

/-- The largest output that is allocated, and one with too many scalars. -/
theorem run_output_rows :
    (∃ length : UInt64, length.toNat = 1152921504606846975 ∧
      (run rowSpec ⟨"x"⟩ (rowInfo 1) false zeros (deviceRows 1152921504606846975 0) {}).launches =
        [⟨1152921504606846975, 1, ⟨.gpu, .oneD, .device⟩, 0, none, deviceRows 1152921504606846975 0, length⟩]) ∧
    run rowSpec ⟨"x"⟩ (rowInfo 2) false zeros (deviceRows 9223372036854775808 0) {} =
      ⟨[], .error (.refused (.outputOverflow 9223372036854775808 2))⟩ := by
  have hlargest : Passes rowSpec (rowInfo 1) false (deviceRows 1152921504606846975 0) {} 1152921504606846975 1
      ⟨.gpu, .oneD, .device⟩ 0 := ⟨rfl, rfl, rfl, rfl⟩
  have hmany : Passes rowSpec (rowInfo 2) false (deviceRows 9223372036854775808 0) {} 9223372036854775808 1
      ⟨.gpu, .oneD, .device⟩ 0 := ⟨rfl, rfl, rfl, rfl⟩
  exact ⟨(run_output hlargest ⟨"x"⟩ zeros).2.2 (by decide), (run_output hmany ⟨"x"⟩ zeros).1 (by decide)⟩

/-- An output of 2 ^ 61 scalars in double precision is too large for a buffer, and the call is not refused. -/
theorem oversized_output_breaks_off :
    Passes rowSpec (rowInfo 1) false (deviceRows 2305843009213693952 0) {} 2305843009213693952 1
      ⟨.gpu, .oneD, .device⟩ 0 ∧
      bufferLimit < outputCount rowSpec (rowInfo 1) 2305843009213693952 1 * Precision.float64.size ∧
      (run rowSpec ⟨"x"⟩ (rowInfo 1) false zeros (deviceRows 2305843009213693952 0) {}).outcome =
        .error (.unallocatable 18446744073709551616) :=
  ⟨⟨rfl, rfl, rfl, rfl⟩, by decide, rfl⟩

end KernelForge.Call
