import KernelForge.Loading.Native
import KernelForge.Proofs.Call.Admission
import KernelForge.Proofs.Call.Selection

/-!
The numbers that a kernel is launched with.

Extents and devices are unsigned. The calling convention has signed numbers for them, and -1 for no device.
A number in the upper half of its range comes out negative, and that of the last device as -1 (`Wraps`). So
a kernel is told the truth exactly in those calls whose numbers are all in the lower halves
(`record_exact`).
-/
namespace KernelForge

/-- The device that a call runs on. On the host processor there is none. -/
def Placement.running (tag : Tag) (place : Storage) (requested : Option UInt32) : Option UInt32 :=
  match tag.processor with
  | .cpu => none
  | .gpu => involved place requested

theorem Placement.deviceNumber_involved (tag : Tag) (place : Storage) (requested : Option UInt32) :
    deviceNumber tag (involved place requested) = (running tag place requested).elim (-1) UInt32.toInt32 := by
  unfold deviceNumber running
  cases tag.processor with
  | cpu => rfl
  | gpu => cases involved place requested <;> rfl

namespace Native

/-- The value of bits as a signed number. -/
theorem toInt_bits {w : Nat} (x : BitVec (w + 1)) :
    x.toInt = if x.toNat < 2 ^ w then (x.toNat : Int) else x.toNat - 2 ^ (w + 1) := by
  have hcast : ((2 ^ w : Nat) : Int) = 2 ^ w := by simp
  rw [BitVec.toInt_eq_toNat_cond, Nat.pow_succ, Int.pow_succ]
  split <;> split <;> omega

namespace RawLaunch

/-- A kernel is told the truth: the extents, and the number of the device, or -1 exactly if there is none. -/
structure Faithful (raw : RawLaunch) (nx ny : UInt64) (device : Option UInt32) : Prop where
  nx : raw.nx.toInt = nx.toNat
  ny : raw.ny.toInt = ny.toNat
  absent : raw.device = -1 ↔ device = none
  present : ∀ id, device = some id → raw.device.toInt = id.toNat

/-- What a kernel is told: numbers in the upper half of their range are too small by the whole range. -/
structure Wraps (raw : RawLaunch) (nx ny : UInt64) (device : Option UInt32) : Prop where
  nx : raw.nx.toInt = if nx.toNat < 2 ^ 63 then (nx.toNat : Int) else nx.toNat - 2 ^ 64
  ny : raw.ny.toInt = if ny.toNat < 2 ^ 63 then (ny.toNat : Int) else ny.toNat - 2 ^ 64
  absent : device = none → raw.device = -1
  present : ∀ id, device = some id →
    raw.device.toInt = if id.toNat < 2 ^ 31 then (id.toNat : Int) else id.toNat - 2 ^ 32

theorem Wraps.faithful_iff {raw : RawLaunch} {nx ny : UInt64} {device : Option UInt32}
    (h : raw.Wraps nx ny device) :
    raw.Faithful nx ny device ↔
      nx.toNat < 2 ^ 63 ∧ ny.toNat < 2 ^ 63 ∧ ∀ id, device = some id → id.toNat < 2 ^ 31 := by
  constructor
  · intro hf
    refine ⟨?_, ?_, fun id hid => ?_⟩
    · have hnx := h.nx.symm.trans hf.nx
      split at hnx <;> omega
    · have hny := h.ny.symm.trans hf.ny
      split at hny <;> omega
    · have hdevice := (h.present id hid).symm.trans (hf.present id hid)
      split at hdevice <;> omega
  · rintro ⟨hnx, hny, hdevice⟩
    refine ⟨h.nx.trans (if_pos hnx), h.ny.trans (if_pos hny), ⟨fun hraw => ?_, h.absent⟩, fun id hid => ?_⟩
    · cases device with
      | none => rfl
      | some id =>
        have hnumber := (h.present id rfl).trans (if_pos (hdevice id rfl))
        rw [hraw, show (-1 : Int32).toInt = -1 from rfl] at hnumber
        omega
    · exact (h.present id hid).trans (if_pos (hdevice id hid))

theorem wraps_ofLaunch {α : Type} {l : Launch α} {device : Option UInt32}
    (h : l.device = device.elim (-1) UInt32.toInt32) : (ofLaunch l).Wraps l.nx l.ny device := by
  refine ⟨toInt_bits l.nx.toBitVec, toInt_bits l.ny.toBitVec, ?_, ?_⟩
  · rintro rfl
    exact h
  · rintro id rfl
    exact (congrArg Int32.toInt h).trans (toInt_bits id.toBitVec)

end RawLaunch

/-- **A kernel is told the truth exactly if all numbers are in the lower half of their range.** In every
launch, the record has the extents of the call and the device that it runs on, each as a signed number of
the same width, and -1 if there is no device. -/
theorem record_exact {α : Type} [Scalar α] (spec : KernelSpec) (fingerprint : Fingerprint) (info : Metadata)
    (gpuAvailable : Bool) (kernel : Launch α → Reply α) (arguments : List (Argument α)) (options : CallOptions) :
    ∀ l ∈ (Call.run spec fingerprint info gpuAvailable kernel arguments options).launches, ∃ nx ny place,
      Extents.ofArguments spec arguments = .ok (nx, ny) ∧
      Placement.Common (arguments.map Argument.storage) place ∧
      (RawLaunch.ofLaunch l).Wraps nx ny (Placement.running l.tag place options.device) ∧
      ((RawLaunch.ofLaunch l).Faithful nx ny (Placement.running l.tag place options.device) ↔
        nx.toNat < 2 ^ 63 ∧ ny.toNat < 2 ^ 63 ∧
          ∀ id, Placement.running l.tag place options.device = some id → id.toNat < 2 ^ 31) := by
  intro l hl
  obtain ⟨hpasses, _⟩ := Call.passes_of_prepare (Call.prepare_of_launched hl)
  obtain ⟨place, hcommon, _, _, hdevice⟩ := Placement.select_eq_ok_iff.mp hpasses.place
  rw [Placement.deviceNumber_involved] at hdevice
  have hwraps := RawLaunch.wraps_ofLaunch hdevice
  exact ⟨l.nx, l.ny, place, hpasses.extents, hcommon, hwraps, hwraps.faithful_iff⟩

/-- Three rows on device 7 are told as they are. -/
theorem record_exact_rows : ∃ l,
    (Call.run Call.rowSpec ⟨"x"⟩ (Call.rowInfo 1) false Call.zeros (Call.deviceRows 3 7) {}).launches = [l] ∧
      (RawLaunch.ofLaunch l).Faithful 3 1 (some 7) := by
  refine ⟨_, rfl, ?_⟩
  obtain ⟨nx, ny, place, hextents, hcommon, -, hfaithful⟩ :=
    record_exact Call.rowSpec ⟨"x"⟩ (Call.rowInfo 1) false Call.zeros (Call.deviceRows 3 7) {} _ List.mem_cons_self
  cases hextents
  cases hcommon.all (.device 7) List.mem_cons_self
  exact hfaithful.mpr ⟨by decide, by decide, by rintro _ ⟨⟩; decide⟩

/-- A call on the last device tells its kernel that there is no device, and one with 2 ^ 63 rows that there
are fewer than none. -/
theorem last_device_untold :
    (∃ l, (Call.run Call.rowSpec ⟨"x"⟩ (Call.rowInfo 1) false Call.zeros (Call.deviceRows 3 4294967295)
      {}).launches = [l] ∧
      Placement.running l.tag (.device 4294967295) none = some 4294967295 ∧ (RawLaunch.ofLaunch l).device = -1) ∧
    ∃ l, (Call.run Call.rowSpec ⟨"x"⟩ (Call.rowInfo 0) false Call.zeros
        (Call.deviceRows 9223372036854775808 0) {}).launches = [l] ∧
      Extents.ofArguments Call.rowSpec (Call.deviceRows 9223372036854775808 0) = .ok (9223372036854775808, 1) ∧
      (RawLaunch.ofLaunch l).nx = -9223372036854775808 :=
  ⟨⟨_, rfl, rfl, rfl⟩, _, rfl, rfl, rfl⟩

end Native

end KernelForge
