import IronicTemper.GoLibrary
import Mathlib.Algebra.Order.Ring.Rat
import Mathlib.Tactic.NormNum

set_option autoImplicit false

/-! # Inventory from Redfish: disks, and discovery

`setDisks` appends a `Disk` entry per drive and keeps a running root disk, which a drive takes
over when its raw `CapacityBytes` exceeds the root disk's size, stored scaled by `1.074`
(`int64(float64(c) * 1.074)`). A take-over only ever turns the root disk non-rotational. So the
root disk need not be the largest drive nor match its entry (`setDisks_rootDisk_differs`), but
bounds every drive up to `8·10^18` bytes (`setDisks_capacity_le`).

Discovery's `loadRedfishInfo` copies the MAC of the first adapter's first function of each chassis,
reading `f[0]` unchecked, and panics exactly when none comes back (`loadRedfishInfo_panics_iff`). -/

namespace IronicTemper

/-- `redfish.Drive`: the fields `setDisks` reads. `RotationSpeedRPM` is a float32, compared
    with `0` only. -/
structure Drive where
  name : String := ""
  model : String := ""
  manufacturer : String := ""
  capacityBytes : Int := 0
  rotationSpeedRPM : ℚ := 0
  deriving DecidableEq, Repr

/-- The float64 constant `1.074`, in units of `2^-52`. -/
def float1074 : Nat := 4836865999795913

/-- `int64(float64(c) * 1.074)`: `c` rounded to a float64, its product with the float64 `1.074`
    rounded again, then truncated toward zero. Go leaves the conversion of a float64 whose integer
    part int64 cannot hold implementation-dependent; on amd64 it gives `math.MinInt64`. -/
def scaledSize (c : Int) : Int :=
  let y : Nat := toFloat64 (toFloat64 c.natAbs * float1074) / 2 ^ 52
  if y < 2 ^ 63 then (if c < 0 then -(y : Int) else (y : Int)) else -2 ^ 63

/-- The loop variables of `setDisks`: the running root disk and the disk entries so far. -/
structure DiskScan where
  rootDisk : Disk
  disks : List Disk

/-- One iteration of the loop over a storage's drives. -/
def driveStep (st : DiskScan) (s : Drive) : DiskScan :=
  let rotational := s.rotationSpeedRPM != 0
  let disk : Disk :=
    { name := s.name, model := s.model, vendor := s.manufacturer,
      size := scaledSize s.capacityBytes, rotational := rotational }
  let rootDisk :=
    if s.capacityBytes > st.rootDisk.size then
      { size := scaledSize s.capacityBytes, name := s.name, model := s.model,
        vendor := s.manufacturer,
        rotational := if s.rotationSpeedRPM == 0 then rotational else st.rootDisk.rotational }
    else st.rootDisk
  ⟨rootDisk, st.disks ++ [disk]⟩

@[simp] theorem driveStep_rootDisk (st : DiskScan) (s : Drive) :
    (driveStep st s).rootDisk =
      if s.capacityBytes > st.rootDisk.size then
        { size := scaledSize s.capacityBytes, name := s.name, model := s.model,
          vendor := s.manufacturer,
          rotational := if s.rotationSpeedRPM == 0 then s.rotationSpeedRPM != 0
            else st.rootDisk.rotational }
      else st.rootDisk := rfl

/-- One iteration of the loop over the storages: a storage whose `Drives()` fails is skipped. -/
def storageStep (st : DiskScan) : Except GoError (List Drive) → DiskScan
  | .error _ => st
  | .ok ds => ds.foldl driveStep st

/-- `RedfishClient.setDisks`, given what `s.Storage()` returns (the storages, each with what its
    `Drives()` returns, and the error): the inspection data as left, and the returned error, the
    one of `s.Storage()`, which the loop does not look at. -/
def setDisks (storage : List (Except GoError (List Drive)) × Option GoError)
    (data : InspectonData) : InspectonData × Option GoError :=
  let st := storage.1.foldl storageStep ⟨{ rotational := true }, []⟩
  ({ data with disks := st.disks, rootDisk := st.rootDisk }, storage.2)

/-! ## The root disk bounds every drive -/

/-- Up to `8·10^18` bytes the scaled size does not overflow and is at least the capacity. -/
theorem le_scaledSize {c : Int} (h0 : 0 ≤ c) (hc : c ≤ 8 * 10 ^ 18) : c ≤ scaledSize c := by
  obtain ⟨n, rfl⟩ := Int.eq_ofNat_of_zero_le h0
  obtain ⟨hx1, hx2⟩ := toFloat64_bounds n
  obtain ⟨hR1, hR2⟩ := toFloat64_bounds (toFloat64 n * float1074)
  simp only [scaledSize, Int.natAbs_ofNat, float1074] at hR1 hR2 ⊢
  generalize toFloat64 n = x at *
  generalize toFloat64 (x * 4836865999795913) = R at *
  have hy : R / 2 ^ 52 < 2 ^ 63 := by omega
  rw [if_pos hy, if_neg (by omega)]
  omega

theorem driveStep_size (st : DiskScan) (s : Drive) (h : 0 ≤ st.rootDisk.size)
    (hc : s.capacityBytes ≤ 8 * 10 ^ 18) :
    st.rootDisk.size ≤ (driveStep st s).rootDisk.size ∧
      s.capacityBytes ≤ (driveStep st s).rootDisk.size := by
  rw [driveStep_rootDisk]
  split
  · have := le_scaledSize (c := s.capacityBytes) (by omega) hc
    dsimp only
    omega
  · omega

theorem foldl_driveStep_size (ds : List Drive) (st : DiskScan) (h : 0 ≤ st.rootDisk.size)
    (hc : ∀ s ∈ ds, s.capacityBytes ≤ 8 * 10 ^ 18) :
    st.rootDisk.size ≤ (ds.foldl driveStep st).rootDisk.size ∧
      ∀ s ∈ ds, s.capacityBytes ≤ (ds.foldl driveStep st).rootDisk.size := by
  induction ds generalizing st with
  | nil => simp
  | cons d ds ih =>
    obtain ⟨h1, h2⟩ := driveStep_size st d h (hc d (List.mem_cons_self _ _))
    obtain ⟨g1, g2⟩ :=
      ih (driveStep st d) (h.trans h1) fun s hs => hc s (List.mem_cons_of_mem _ hs)
    refine ⟨h1.trans g1, fun s hs => ?_⟩
    rcases List.mem_cons.1 hs with rfl | hs
    · exact h2.trans g1
    · exact g2 s hs

theorem foldl_storageStep_size (storages : List (Except GoError (List Drive))) (st : DiskScan)
    (h : 0 ≤ st.rootDisk.size)
    (hc : ∀ ds, .ok ds ∈ storages → ∀ s ∈ ds, s.capacityBytes ≤ 8 * 10 ^ 18) :
    st.rootDisk.size ≤ (storages.foldl storageStep st).rootDisk.size ∧
      ∀ ds, .ok ds ∈ storages → ∀ s ∈ ds,
        s.capacityBytes ≤ (storages.foldl storageStep st).rootDisk.size := by
  induction storages generalizing st with
  | nil => simp
  | cons r storages ih =>
    have hr : st.rootDisk.size ≤ (storageStep st r).rootDisk.size ∧
        ∀ ds, r = .ok ds → ∀ s ∈ ds,
          s.capacityBytes ≤ (storageStep st r).rootDisk.size := by
      cases r with
      | error e => simp [storageStep]
      | ok ds =>
        simpa [storageStep] using foldl_driveStep_size ds st h (hc ds (List.mem_cons_self _ _))
    obtain ⟨g1, g2⟩ :=
      ih (storageStep st r) (h.trans hr.1) fun ds hds => hc ds (List.mem_cons_of_mem _ hds)
    refine ⟨hr.1.trans g1, fun ds hds s hs => ?_⟩
    rcases List.mem_cons.1 hds with h' | hds
    · exact (hr.2 ds h'.symm s hs).trans g1
    · exact g2 ds hds s hs

/-- After `setDisks`, when no drive has more than `8·10^18` bytes, the root disk's size is at least
    the capacity of every drive of every storage whose drives could be read. -/
theorem setDisks_capacity_le (storage : List (Except GoError (List Drive)) × Option GoError)
    (data : InspectonData)
    (hcap : ∀ ds, .ok ds ∈ storage.1 → ∀ s ∈ ds, s.capacityBytes ≤ 8 * 10 ^ 18) :
    ∀ ds, .ok ds ∈ storage.1 → ∀ s ∈ ds,
      s.capacityBytes ≤ (setDisks storage data).1.rootDisk.size :=
  (foldl_storageStep_size storage.1 _ le_rfl hcap).2

theorem setDisks_capacity_le_third_controller :
    (200 : Int) ≤ (setDisks ([.ok [{ name := "ssd", capacityBytes := 100 }],
      .error (.remote "drives"), .ok [{ name := "hdd", capacityBytes := 200 }]], none)
        {}).1.rootDisk.size :=
  setDisks_capacity_le ([.ok [{ name := "ssd", capacityBytes := 100 }],
    .error (.remote "drives"), .ok [{ name := "hdd", capacityBytes := 200 }]], none) {}
    (by simp only [List.mem_cons, List.mem_singleton, Except.ok.injEq, List.not_mem_nil, or_false]
        rintro ds (rfl | h | rfl) s hs <;> simp_all)
    [{ name := "hdd", capacityBytes := 200 }] (.tail _ (.tail _ (.head _)))
    { name := "hdd", capacityBytes := 200 } (.head _)

/-- A larger rotational drive after a non-rotational one leaves a root disk that matches neither
    entry, and a 1050-byte drive does not take over from a 1000-byte one, scaled to 1074. -/
theorem setDisks_rootDisk_differs :
    setDisks ([.ok [{ name := "ssd", capacityBytes := 100 },
        { name := "hdd", capacityBytes := 200, rotationSpeedRPM := 7200 }]], none) {} =
      ({ disks := [{ name := "ssd", size := 107, rotational := false },
          { name := "hdd", size := 214, rotational := true }],
         rootDisk := { name := "hdd", size := 214, rotational := false } }, none) ∧
    setDisks ([.ok [{ name := "a", capacityBytes := 1000, rotationSpeedRPM := 7200 },
        { name := "b", capacityBytes := 1050, rotationSpeedRPM := 7200 }]], none) {} =
      ({ disks := [{ name := "a", size := 1074, rotational := true },
          { name := "b", size := 1127, rotational := true }],
         rootDisk := { name := "a", size := 1074, rotational := true } }, none) := by
  obtain ⟨h100, h200, h1000, h1050⟩ : scaledSize 100 = 107 ∧ scaledSize 200 = 214 ∧
      scaledSize 1000 = 1074 ∧ scaledSize 1050 = 1127 := by decide
  simp [setDisks, storageStep, driveStep, h100, h200, h1000, h1050]

/-! ## Discovery: `loadRedfishInfo` -/

/-- What one chassis answers during `Redfish.loadRedfishInfo`. -/
structure ChassisAnswers where
  /-- `chass.NetworkAdapters()`: the number of adapters, or the error. -/
  adapters : Except GoError Nat
  /-- `n[0].NetworkDeviceFunctions()`: the MAC address of each function it returns for the first
      adapter; its error is not checked. -/
  functions : List String

/-- `ironic.Interface`: the field `loadRedfishInfo` writes. -/
structure Interface where
  macAddress : String := ""
  deriving DecidableEq, Repr

/-- `ironic.InspectorCallbackData`: the field `loadRedfishInfo` writes. -/
structure InspectorCallbackData where
  interfaces : List Interface := []
  deriving DecidableEq, Repr

/-- One iteration of the loop over the chassis: a chassis whose adapters cannot be read, or that
    has none, is skipped; otherwise `Interfaces` is remade with one entry per adapter, and the
    first entry takes the MAC address of `f[0]`, the first adapter's first function. -/
def chassisStep (i : InspectorCallbackData) (c : ChassisAnswers) :
    Except Panic InspectorCallbackData :=
  match c.adapters with
  | .error _ => .ok i
  | .ok 0 => .ok i
  | .ok (k + 1) =>
    match c.functions with
    | mac :: _ =>
      .ok { i with interfaces := (List.replicate (k + 1) {}).set 0 { macAddress := mac } }
    | [] => .error .indexOutOfRange

/-- `Redfish.loadRedfishInfo`, given the error of `gofish.Connect` and what `service.Chassis()`
    returns: the callback data and the returned error, or the panic of the loop. The loop's own
    errors are scoped to its body, so a loop that ends returns `nil`. -/
def loadRedfishInfo (connect : Option GoError) (chassis : Except GoError (List ChassisAnswers)) :
    Except Panic (InspectorCallbackData × Option GoError) :=
  match connect, chassis with
  | some e, _ => .ok ({}, some e)
  | none, .error e => .ok ({}, some e)
  | none, .ok cs => (fun i => (i, none)) <$> cs.foldlM chassisStep {}

/-- A chassis at which the loop reads `f[0]` of an empty slice: it has adapters, and none of the
    first adapter's functions comes back. -/
def ChassisAnswers.indexesPastEnd (c : ChassisAnswers) : Bool :=
  match c.adapters, c.functions with
  | .ok (_ + 1), [] => true
  | _, _ => false

theorem chassisStep_isOk (i : InspectorCallbackData) (c : ChassisAnswers) :
    (chassisStep i c).isOk = !c.indexesPastEnd := by
  rcases c with ⟨_ | _ | k, _ | ⟨mac, macs⟩⟩ <;> rfl

theorem foldlM_chassisStep_isOk (cs : List ChassisAnswers) (i : InspectorCallbackData) :
    (cs.foldlM chassisStep i).isOk = !cs.any ChassisAnswers.indexesPastEnd := by
  induction cs generalizing i with
  | nil => rfl
  | cons c cs ih =>
    rw [List.foldlM_cons, List.any_cons, Bool.not_or, ← chassisStep_isOk i c]
    cases chassisStep i c with
    | error p => rfl
    | ok i' => exact ih i'

theorem isOk_map_except {ε α β : Type} (f : α → β) (x : Except ε α) :
    (f <$> x).isOk = x.isOk := by
  cases x <;> rfl

/-- `loadRedfishInfo` panics exactly when the chassis could be listed and some chassis has
    adapters but none of the first adapter's functions comes back. -/
theorem loadRedfishInfo_panics_iff (connect : Option GoError)
    (chassis : Except GoError (List ChassisAnswers)) :
    (loadRedfishInfo connect chassis).isOk = false ↔
      connect = none ∧ ∃ cs, chassis = .ok cs ∧ cs.any ChassisAnswers.indexesPastEnd := by
  match connect, chassis with
  | some e, _ => simp [loadRedfishInfo, Except.isOk, Except.toBool]
  | none, .error e => simp [loadRedfishInfo, Except.isOk, Except.toBool]
  | none, .ok cs => simp [loadRedfishInfo, isOk_map_except, foldlM_chassisStep_isOk]

end IronicTemper
