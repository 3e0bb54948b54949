import KernelForge.Call.Placement

/-!
A call runs where its arguments are.

`Common` says that all arguments are in one place, without regard to their order, and `Admits` that a
caller's wishes can be met for arguments there. A placement is found exactly if both hold, and then the tag
and the device follow from that place (`select_eq_ok_iff`); so where the arguments stand in their list does
not matter (`select_exact`).
-/
namespace KernelForge

/-- The grid that a preference names. -/
def Preference.grid : Preference → Grid
  | gpu (some grid) _ => grid
  | _ => .oneD

namespace Placement

/-- All arguments are in one place. Without arguments that is host memory. -/
structure Common (storages : List Storage) (place : Storage) : Prop where
  all : ∀ s ∈ storages, s = place
  none : storages = [] → place = .host

/-- What a caller asks for can be had for arguments in a place: the device asked for is theirs, a processor
that cannot read them is not asked for, there is a device to run on, and a memory that was fixed is the one
they are in. -/
structure Admits (preference : Preference) (place : Storage) (gpuAvailable : Bool)
    (requested : Option UInt32) : Prop where
  device : ∀ id wanted, place = .device id → requested = some wanted → wanted = id
  cpu : preference = .cpu → place = .host
  gpu : ∀ grid memory, preference = .gpu grid memory → place = .host → gpuAvailable = true
  memory : ∀ grid memory, preference = .gpu grid (some memory) → memory = place.memory

/-- What a tag says of a call over arguments in a place. -/
structure Describes (preference : Preference) (place : Storage) (gpuAvailable : Bool) (tag : Tag) : Prop where
  processor : tag.processor = .cpu ↔ preference = .cpu ∨ preference = .auto ∧ place = .host ∧ gpuAvailable = false
  grid : tag.grid = preference.grid
  memory : tag.memory = place.memory

/-- The device that a call involves: that of the arguments, or for host memory the one that was asked for. -/
def involved (place : Storage) (requested : Option UInt32) : Option UInt32 :=
  match place with
  | .device id => some id
  | .host => requested

variable {preference : Preference} {storages : List Storage} {place : Storage} {gpuAvailable : Bool}
  {requested : Option UInt32}

/-! ### The place of the arguments -/

theorem agree_eq_ok_iff {first other : Storage} : agree first other = .ok () ↔ other = first := by
  cases first with
  | host => cases other <;> simp [agree]
  | device a =>
    cases other with
    | host => simp [agree]
    | device b => by_cases hab : a = b <;> simp [agree, hab, Ne.symm]

theorem agreeAll_eq_ok_iff {first : Storage} : agreeAll first storages = .ok () ↔ ∀ s ∈ storages, s = first := by
  induction storages with
  | nil => simp [agreeAll]
  | cons s rest ih =>
    rw [List.forall_mem_cons, ← ih, ← agree_eq_ok_iff, agreeAll]
    cases agree first s <;> simp

theorem common_eq_ok_iff : common storages = .ok place ↔ Common storages place := by
  cases storages with
  | nil =>
    refine ⟨fun h => ⟨by simp, fun _ => (Except.ok.inj h).symm⟩, fun h => ?_⟩
    rw [h.none rfl, common]
  | cons first rest =>
    rw [common]
    constructor
    · intro h
      cases ha : agreeAll first rest with
      | error e => rw [ha] at h; cases h
      | ok _ =>
        rw [ha] at h
        cases h
        exact ⟨List.forall_mem_cons.mpr ⟨rfl, agreeAll_eq_ok_iff.mp ha⟩, by simp⟩
    · intro h
      obtain ⟨rfl, hrest⟩ := List.forall_mem_cons.mp h.all
      rw [agreeAll_eq_ok_iff.mpr hrest]

theorem Common.perm {others : List Storage} (h : Common storages place) (hperm : others.Perm storages) :
    Common others place :=
  ⟨fun s hs => h.all s (hperm.mem_iff.mp hs), fun hnil => h.none (List.nil_perm.mp (hnil ▸ hperm))⟩

/-! ### The tag and the device -/

theorem device_eq_ok_iff {id : Option UInt32} : device place requested = .ok id ↔
    (∀ found wanted, place = .device found → requested = some wanted → wanted = found) ∧
      id = involved place requested := by
  cases place with
  | host => simp [device, involved, eq_comm]
  | device found =>
    cases requested with
    | none => simp [device, involved, eq_comm]
    | some wanted => by_cases hw : found = wanted <;> simp [device, involved, hw, eq_comm]

/-- What a tag says of a call leaves no choice. -/
theorem describes_iff {tag : Tag} : Describes preference place gpuAvailable tag ↔
    tag = ⟨if preference = .cpu ∨ preference = .auto ∧ place = .host ∧ gpuAvailable = false then .cpu else .gpu,
      preference.grid, place.memory⟩ := by
  obtain ⟨processor, grid, memory⟩ := tag
  constructor
  · rintro ⟨hprocessor, rfl, rfl⟩
    rw [Tag.mk.injEq]
    refine ⟨?_, rfl, rfl⟩
    split
    · next hcpu => exact hprocessor.mpr hcpu
    · next hgpu =>
      cases processor with
      | cpu => exact absurd (hprocessor.mp rfl) hgpu
      | gpu => rfl
  · rintro ⟨⟩
    exact ⟨by simp only [ite_eq_left_iff, reduceCtorEq, imp_false, Decidable.not_not], rfl, rfl⟩

theorem tag_eq_ok_iff {tag : Tag} : Placement.tag preference place.memory gpuAvailable = .ok tag ↔
    (preference = .cpu → place = .host) ∧
      (∀ grid memory, preference = .gpu grid memory → place = .host → gpuAvailable = true) ∧
      (∀ grid memory, preference = .gpu grid (some memory) → memory = place.memory) ∧
      Describes preference place gpuAvailable tag := by
  rw [describes_iff]
  cases preference with
  | auto => cases place <;> cases gpuAvailable <;>
    simp [Placement.tag, Storage.memory, Preference.grid, Tag.cpu, eq_comm]
  | cpu => cases place <;> simp [Placement.tag, Storage.memory, Preference.grid, Tag.cpu, eq_comm]
  | gpu grid memory =>
    have hgrid : (Preference.gpu grid memory).grid = grid.getD .oneD := by cases grid <;> rfl
    rw [hgrid]
    cases place <;> cases gpuAvailable <;> rcases memory with _ | _ | _ <;>
      simp [Placement.tag, Storage.memory, eq_comm]

theorem select_eq_ok_iff {tag : Tag} {number : Int32} :
    select preference storages gpuAvailable requested = .ok (tag, number) ↔
      ∃ place, Common storages place ∧ Admits preference place gpuAvailable requested ∧
        Describes preference place gpuAvailable tag ∧ number = deviceNumber tag (involved place requested) := by
  constructor
  · fun_cases select preference storages gpuAvailable requested with
    | case4 place hcommon id hfound found htag =>
      rintro ⟨⟩
      obtain ⟨hdevice, rfl⟩ := device_eq_ok_iff.mp hfound
      obtain ⟨hcpu, hgpu, hmemory, htag⟩ := tag_eq_ok_iff.mp htag
      exact ⟨place, common_eq_ok_iff.mp hcommon, ⟨hdevice, hcpu, hgpu, hmemory⟩, htag, rfl⟩
    | _ => simp
  · rintro ⟨place, hcommon, hadmits, htag, rfl⟩
    have hdevice := device_eq_ok_iff.mpr ⟨hadmits.device, rfl⟩
    have htag := tag_eq_ok_iff.mpr ⟨hadmits.cpu, hadmits.gpu, hadmits.memory, htag⟩
    simp only [select, common_eq_ok_iff.mpr hcommon, hdevice, htag]

/-- **A call is placed where its arguments are.** It is placed exactly if all arguments are in one place and
the caller's wishes can be met there. Then its memory is that place, it runs on the host processor exactly
if the caller asks for that, or leaves the choice over host memory without a device, its grid is the one
asked for, and any other order of the arguments gives the same tag and the same device. -/
theorem select_exact (preference : Preference) (storages : List Storage) (gpuAvailable : Bool)
    (requested : Option UInt32) :
    ((∃ r, select preference storages gpuAvailable requested = .ok r) ↔
      ∃ place, Common storages place ∧ Admits preference place gpuAvailable requested) ∧
    ∀ tag number, select preference storages gpuAvailable requested = .ok (tag, number) →
      (∃ place, Common storages place ∧ Describes preference place gpuAvailable tag) ∧
      ∀ others, others.Perm storages → select preference others gpuAvailable requested = .ok (tag, number) := by
  refine ⟨⟨?_, ?_⟩, fun tag number h => ?_⟩
  · rintro ⟨⟨tag, number⟩, h⟩
    obtain ⟨place, hcommon, hadmits, _⟩ := select_eq_ok_iff.mp h
    exact ⟨place, hcommon, hadmits⟩
  · rintro ⟨place, hcommon, hadmits⟩
    exact ⟨_, select_eq_ok_iff.mpr ⟨place, hcommon, hadmits, describes_iff.mpr rfl, rfl⟩⟩
  · obtain ⟨place, hcommon, hadmits, htag, hnumber⟩ := select_eq_ok_iff.mp h
    exact ⟨⟨place, hcommon, htag⟩, fun others hperm =>
      select_eq_ok_iff.mpr ⟨place, hcommon.perm hperm, hadmits, htag, hnumber⟩⟩

/-- Two arguments on one device run there, in the grid asked for, though no other device is available.
Arguments in host memory and on a device have no place in common. -/
theorem select_exact_device :
    (∃ place, Common [.device 7, .device 7] place ∧
      Describes (.gpu (some .twoD) (some .device)) place false ⟨.gpu, .twoD, .device⟩) ∧
      ¬∃ place, Common [.host, .device 7] place ∧ Admits .auto place true none := by
  refine ⟨((select_exact _ [.device 7, .device 7] _ (some 7)).2 _ 7 rfl).1, fun h => ?_⟩
  obtain ⟨r, hr⟩ := (select_exact .auto [.host, .device 7] true none).1.mpr h
  cases hr

end Placement

end KernelForge
