import IronicTemper.Clients.Redfish
import IronicTemper.GoLibrary
import Mathlib.Data.List.Nodup

set_option autoImplicit false

/-! # Inventory from Redfish: `LoadInventory`

`LoadInventory` fills a fresh `InspectonData` through `setInventory`, which runs `setMemory`,
`setDisks`, `setCPUs` and `setNetworkDevicesData` on the first chassis and system and returns at
the first error, and copies it into `n.InspectionData` only on `nil`. The last setter, the only one
that writes the node, does so after its error check, so an error leaves the node as it was
(`loadInventory_node_of_error`). `setCPUs` divides by `ProcessorSummary.Count` unchecked, and
`mapInterfaceToNetbox` indexes fields an interface ID need not have (`loadInventory_panics`); the
port names it makes can coincide, and the map keeps the last MAC
(`setNetworkDevicesData_merges_interfaces`). -/

namespace IronicTemper

/-! ## The data -/

/-- `model.NodeInterface`. -/
structure NodeInterface where
  connection : String := ""
  connectionIP : String := ""
  mac : String := ""
  deriving DecidableEq, Repr

/-- `model.Node`: the fields `LoadInventory` writes. -/
structure Node where
  inspectionData : InspectonData := {}
  /-- `Interfaces`, a map from port name to interface, as its entries. -/
  interfaces : List (String × NodeInterface) := []
  deriving DecidableEq, Repr

/-- `m[k] = v` on a Go map, as its entries: the entry of `k` is replaced in place, or a new one
    appended. -/
def mapInsert (m : List (String × NodeInterface)) (k : String) (v : NodeInterface) :
    List (String × NodeInterface) :=
  if m.any (·.1 == k) then m.map fun e => if e.1 == k then (k, v) else e else m ++ [(k, v)]

/-- `redfish.Chassis`: the fields `setInventory` reads. -/
structure Chassis where
  manufacturer : String := ""
  serialNumber : String := ""
  sku : String := ""
  model : String := ""
  deriving DecidableEq, Repr

/-- `redfish.EthernetInterface`: the fields `setNetworkDevicesData` reads. -/
structure EthernetInterface where
  id : String
  macAddress : String
  deriving DecidableEq, Repr

/-- `ProcessorSummary`: Go `int`s. -/
structure ProcessorSummary where
  count : Int
  logicalProcessorCount : Int
  deriving DecidableEq, Repr

/-- What the first system answers. `calcTotalMemory` is not in the sources, so the memory answer
    is given as its total. -/
structure SystemAnswers where
  /-- `calcTotalMemory(s.Memory())`, or the error of `s.Memory()`. -/
  memory : Except GoError Int
  /-- What `s.Storage()` returns, as `setDisks` reads it. -/
  storage : List (Except GoError (List Drive)) × Option GoError
  processorSummary : ProcessorSummary
  /-- `s.Processors()`: the `InstructionSet` of each processor, or the error. -/
  processors : Except GoError (List String)
  /-- `s.EthernetInterfaces()`. -/
  ethernetInterfaces : Except GoError (List EthernetInterface)

/-- What the BMC answers during one `LoadInventory`. -/
structure RedfishAnswers where
  /-- The error of `gofish.Connect`. -/
  connect : Option GoError
  /-- `r.service.Chassis()`. -/
  chassis : Except GoError (List Chassis)
  /-- `r.service.Systems()`. -/
  systems : Except GoError (List SystemAnswers)

/-! ## The setters -/

/-- The vendor fields `setInventory` copies from the first chassis; a Dell's serial number is its
    SKU. For the letters of `dell`, Go's Unicode `strings.ToLower` and ASCII lowercasing agree. -/
def setSystemVendor (ch : Chassis) (data : InspectonData) : InspectonData :=
  { data with
    manufacturer := ch.manufacturer
    serialNumber :=
      if containsSub "dell".toList (ch.manufacturer.data.map Char.toLower) then ch.sku
      else ch.serialNumber
    productName := ch.model }

/-- `RedfishClient.setMemory`. -/
def setMemory (memory : Except GoError Int) (data : InspectonData) :
    InspectonData × Option GoError :=
  match memory with
  | .error e => (data, some e)
  | .ok total => ({ data with physicalMb := total }, none)

/-- `RedfishClient.setCPUs`: the count is `LogicalProcessorCount / ProcessorSummary.Count`, an
    integer division that panics on a zero count (the quotient is exact, which differs from Go's
    `int` only for `MinInt64 / -1`). -/
def setCPUs (summary : ProcessorSummary) (processors : Except GoError (List String))
    (data : InspectonData) : Except Panic (InspectonData × Option GoError) :=
  match processors with
  | .error e => .ok (data, some e)
  | .ok [] => .ok (data, none)
  | .ok (isa :: _) =>
    if summary.count = 0 then .error .integerDivideByZero
    else .ok ({ data with
                cpuCount := summary.logicalProcessorCount.tdiv summary.count
                cpuArchitecture := ⟨replaceFirst '-' '_' isa.data⟩ }, none)

/-- `mapInterfaceToNetbox`: `NIC.Integrated.1-1-1` becomes `L1`, `NIC.Slot.3-2-1` becomes
    `PCI3-P2`, anything else the empty name, reading `p[1]`, `p[2]` and `nr[1]` unchecked. -/
def mapInterfaceToNetbox (id : String) : Except Panic String := do
  let p := stringsSplit id '.'
  let intf ← if (← goIndex p 1) = "Integrated" then do
      let nr := stringsSplit (← goIndex p 2) '-'
      pure ("L" ++ (← goIndex nr 1))
    else pure ""
  if (← goIndex p 1) = "Slot" then do
    let nr := stringsSplit (← goIndex p 2) '-'
    pure ("PCI" ++ (← goIndex nr 0) ++ "-P" ++ (← goIndex nr 1))
  else pure intf

/-- The loop of `setNetworkDevicesData` that files each interface's MAC under its port name. -/
def interfacesStep (m : List (String × NodeInterface)) (e : EthernetInterface) :
    Except Panic (List (String × NodeInterface)) := do
  let k ← mapInterfaceToNetbox e.id
  pure (mapInsert m k { mac := e.macAddress })

/-- `RedfishClient.setNetworkDevicesData`: after its error check it replaces `n.Interfaces` by a
    fresh map, which the loop then fills. -/
def setNetworkDevicesData (ethInt : Except GoError (List EthernetInterface))
    (data : InspectonData) (node : Node) : Except Panic (InspectonData × Node × Option GoError) :=
  match ethInt with
  | .error e => .ok (data, node, some e)
  | .ok [] => .ok (data, node, none)
  | .ok (e0 :: es) => do
    let data := { data with
      pxeInterface := e0.macAddress
      bootInterface := "01-" ++ ⟨replaceAll ':' '-' e0.macAddress.data⟩
      currentBootMode := "bios" }
    let intfs ← (e0 :: es).foldlM interfacesStep []
    pure (data, { node with interfaces := intfs }, none)

/-- `RedfishClient.setInventory`, from the data and node as `LoadInventory` hands them over. -/
def setInventory (a : RedfishAnswers) (data : InspectonData) (node : Node) :
    Except Panic (InspectonData × Node × Option GoError) :=
  match a.chassis with
  | .error e => .ok (data, node, some e)
  | .ok [] => .ok (data, node, none)
  | .ok (ch :: _) =>
    let data := setSystemVendor ch data
    match a.systems with
    | .error e => .ok (data, node, some e)
    | .ok [] => .ok (data, node, none)
    | .ok (s :: _) =>
      match setMemory s.memory data with
      | (data, some e) => .ok (data, node, some e)
      | (data, none) =>
        match setDisks s.storage data with
        | (data, some e) => .ok (data, node, some e)
        | (data, none) =>
          (setCPUs s.processorSummary s.processors data).bind fun
            | (data, some e) => .ok (data, node, some e)
            | (data, none) => setNetworkDevicesData s.ethernetInterfaces data node

/-- `RedfishClient.LoadInventory`: the node as left and the returned error, or a panic. -/
def loadInventory (a : RedfishAnswers) (n : Node) : Except Panic (Node × Option GoError) :=
  match a.connect with
  | some e => .ok (n, some e)
  | none =>
    (setInventory a {} n).bind fun
      | (_, n', some e) => .ok (n', some e)
      | (data, n', none) => .ok ({ n' with inspectionData := data }, none)

/-! ## An error leaves the node as it was -/

theorem setNetworkDevicesData_node_of_error {ethInt : Except GoError (List EthernetInterface)}
    {data d' : InspectonData} {node n' : Node} {e : GoError}
    (h : setNetworkDevicesData ethInt data node = .ok (d', n', some e)) : n' = node := by
  unfold setNetworkDevicesData at h
  split at h
  · cases h; rfl
  · cases h
  · obtain ⟨_, -, h⟩ := except_bind_eq_ok h
    cases h

theorem setInventory_node_of_error {a : RedfishAnswers} {data d' : InspectonData} {node n' : Node}
    {e : GoError} (h : setInventory a data node = .ok (d', n', some e)) : n' = node := by
  unfold setInventory at h
  split at h
  · cases h; rfl
  · cases h
  · dsimp only at h
    split at h
    · cases h; rfl
    · cases h
    · split at h
      · cases h; rfl
      · split at h
        · cases h; rfl
        · obtain ⟨⟨_, _ | _⟩, -, h⟩ := except_bind_eq_ok h
          · exact setNetworkDevicesData_node_of_error h
          · cases h; rfl

/-- Whatever the BMC answers, when `LoadInventory` returns an error the node is as it was, its
    inspection data and interfaces included. -/
theorem loadInventory_node_of_error (a : RedfishAnswers) (n n' : Node) (e : GoError)
    (h : loadInventory a n = .ok (n', some e)) : n' = n := by
  unfold loadInventory at h
  split at h
  · cases h; rfl
  · obtain ⟨⟨_, _, _ | _⟩, hs, h⟩ := except_bind_eq_ok h
    · cases h
    · cases h; exact setInventory_node_of_error hs

/-- The systems answer with memory and disks, then the processor read fails: the data read so
    far is dropped and the node keeps its interfaces. -/
theorem loadInventory_processor_error_keeps_node :
    loadInventory ⟨none, .ok [{}], .ok [⟨.ok 4096, ([], none), ⟨2, 8⟩, .error (.remote "processors"),
        .ok [⟨"NIC.Integrated.1-1-1", "aa:bb"⟩]⟩]⟩ { interfaces := [("L9", { mac := "cc:dd" })] } =
      .ok ({ interfaces := [("L9", { mac := "cc:dd" })] }, some (.remote "processors")) ∧
    ({ interfaces := [("L9", { mac := "cc:dd" })] } : Node) =
      { interfaces := [("L9", { mac := "cc:dd" })] } :=
  have h : loadInventory ⟨none, .ok [{}], .ok [⟨.ok 4096, ([], none), ⟨2, 8⟩,
      .error (.remote "processors"), .ok [⟨"NIC.Integrated.1-1-1", "aa:bb"⟩]⟩]⟩
      { interfaces := [("L9", { mac := "cc:dd" })] } =
      .ok ({ interfaces := [("L9", { mac := "cc:dd" })] }, some (.remote "processors")) := by rfl
  ⟨h, loadInventory_node_of_error _ _ _ _ h⟩

/-! ## Panics -/

theorem setCPUs_eq_error_iff (summary : ProcessorSummary) (processors : Except GoError (List String))
    (data : InspectonData) :
    setCPUs summary processors data = .error .integerDivideByZero ↔
      (∃ isa rest, processors = .ok (isa :: rest)) ∧ summary.count = 0 := by
  rcases processors with e | _ | ⟨isa, rest⟩
  · simp [setCPUs]
  · simp [setCPUs]
  · by_cases hc : summary.count = 0 <;> simp [setCPUs, hc]

/-- Two BMC answers `LoadInventory` does not return from: a processor list with a zero
    `ProcessorSummary.Count`, and an interface ID without `.`. -/
theorem loadInventory_panics :
    loadInventory ⟨none, .ok [{}], .ok [⟨.ok 4096, ([], none), ⟨0, 8⟩, .ok ["x86-64"], .ok []⟩]⟩ {} =
      .error .integerDivideByZero ∧
    loadInventory ⟨none, .ok [{}], .ok [⟨.ok 4096, ([], none), ⟨1, 8⟩, .ok ["x86-64"],
        .ok [⟨"eth0", "aa:bb"⟩]⟩]⟩ {} =
      .error .indexOutOfRange :=
  ⟨rfl, rfl⟩

/-! ## Port names -/

theorem stringsSplit_three {sep : Char} (a b c : String) (ha : sep ∉ a.data) (hb : sep ∉ b.data)
    (hc : sep ∉ c.data) :
    stringsSplit (a ++ String.singleton sep ++ b ++ String.singleton sep ++ c) sep = [a, b, c] := by
  rw [String.append_assoc, String.append_assoc, stringsSplit_append_sep _ ha,
    ← String.append_assoc, stringsSplit_append_sep _ hb, stringsSplit_of_not_mem hc]

/-- The port name of a Dell interface ID `NIC.<kind>.<a>-<b>-<c>`: `L<b>` for an integrated NIC,
    `PCI<a>-P<b>` for a slot, and the empty name for any other kind. -/
theorem mapInterfaceToNetbox_dell (kind a b c : String) (hkind : '.' ∉ kind.data)
    (ha : '.' ∉ a.data ∧ '-' ∉ a.data) (hb : '.' ∉ b.data ∧ '-' ∉ b.data)
    (hc : '.' ∉ c.data ∧ '-' ∉ c.data) :
    mapInterfaceToNetbox ("NIC." ++ kind ++ "." ++ a ++ "-" ++ b ++ "-" ++ c) =
      .ok (if kind = "Integrated" then "L" ++ b
        else if kind = "Slot" then "PCI" ++ a ++ "-P" ++ b else "") := by
  have hrest : '.' ∉ (a ++ "-" ++ b ++ "-" ++ c).data := by simp [ha.1, hb.1, hc.1]
  have hp : stringsSplit ("NIC." ++ kind ++ "." ++ a ++ "-" ++ b ++ "-" ++ c) '.' =
      ["NIC", kind, a ++ "-" ++ b ++ "-" ++ c] := by
    have := stringsSplit_three "NIC" kind (a ++ "-" ++ b ++ "-" ++ c) (by decide) hkind hrest
    simpa [String.append_assoc] using this
  have hnr : stringsSplit (a ++ "-" ++ b ++ "-" ++ c) '-' = [a, b, c] :=
    stringsSplit_three a b c ha.2 hb.2 hc.2
  simp only [mapInterfaceToNetbox, hp]
  by_cases hi : kind = "Integrated"
  · subst hi; simp [hnr]
  · by_cases hs : kind = "Slot"
    · subst hs; simp [hnr]
    · simp [hi, hs]

theorem mapInterfaceToNetbox_dell_slot :
    ('.' ∉ "Slot".data ∧ ('.' ∉ "3".data ∧ '-' ∉ "3".data) ∧ ('.' ∉ "2".data ∧ '-' ∉ "2".data) ∧
        ('.' ∉ "1".data ∧ '-' ∉ "1".data)) ∧
      mapInterfaceToNetbox ("NIC." ++ "Slot" ++ "." ++ "3" ++ "-" ++ "2" ++ "-" ++ "1") =
        .ok (if "Slot" = "Integrated" then "L" ++ "2"
          else if "Slot" = "Slot" then "PCI" ++ "3" ++ "-P" ++ "2" else "") :=
  ⟨by decide, mapInterfaceToNetbox_dell "Slot" "3" "2" "1" (by decide) (by decide) (by decide)
    (by decide)⟩

/-- Two integrated NICs whose IDs differ only in the first number both become `L2`, so the map
    keeps one entry, with the second MAC; slots that differ only in the last number, and kinds
    other than `Integrated` and `Slot`, share a name too. -/
theorem setNetworkDevicesData_merges_interfaces :
    (fun r => r.2.1.interfaces) <$> setNetworkDevicesData
        (.ok [⟨"NIC.Integrated.1-2-1", "aa:aa"⟩, ⟨"NIC.Integrated.2-2-1", "bb:bb"⟩]) {} {} =
      .ok [("L2", { mac := "bb:bb" })] ∧
    mapInterfaceToNetbox "NIC.Slot.3-2-1" = mapInterfaceToNetbox "NIC.Slot.3-2-2" ∧
    mapInterfaceToNetbox "NIC.Embedded.1-1-1" = mapInterfaceToNetbox "NIC.Mezzanine.2-1-1" :=
  ⟨rfl, rfl, rfl⟩

/-! ## The interfaces map: the last write wins

`n.Interfaces` is a Go map, filled by `intfs[mapInterfaceToNetbox(e.ID)] = ...` in the order of the
interfaces; `mapInsert` is that assignment. -/

/-- The entry the loop of `setNetworkDevicesData` writes for an interface: its port name and the
    interface holding its MAC address; or the panic of `mapInterfaceToNetbox`. -/
def interfaceEntry (e : EthernetInterface) : Except Panic (String × NodeInterface) :=
  (fun k => (k, { mac := e.macAddress })) <$> mapInterfaceToNetbox e.id

theorem lookup_map_replace (m : List (String × NodeInterface)) (k k' : String) (v : NodeInterface) :
    (m.map fun e => if e.1 == k then (k, v) else e).lookup k' =
      if k' = k then (if m.any (·.1 == k) then some v else none) else m.lookup k' := by
  induction m with
  | nil => simp
  | cons e m ih =>
    obtain ⟨a, b⟩ := e
    by_cases hk : k' = k
    · subst hk
      rw [if_pos rfl] at ih ⊢
      by_cases ha : a = k'
      · subst ha; simp [List.lookup_cons]
      · rw [List.map_cons, if_neg (by simpa using ha), List.lookup_cons, beq_false_of_ne (Ne.symm ha),
          ih, List.any_cons, beq_false_of_ne ha, Bool.false_or]
    · rw [if_neg hk] at ih ⊢
      simp only [beq_iff_eq] at ih
      by_cases ha : a = k
      · subst ha
        simp [List.lookup_cons, beq_false_of_ne hk, ih]
      · by_cases hka : k' = a
        · subst hka; simp [List.lookup_cons, ha]
        · simp [List.lookup_cons, ha, beq_false_of_ne hka, ih]

theorem lookup_mapInsert (m : List (String × NodeInterface)) (k k' : String) (v : NodeInterface) :
    (mapInsert m k v).lookup k' = if k' = k then some v else m.lookup k' := by
  unfold mapInsert
  split
  · rename_i hany
    rw [lookup_map_replace, if_pos hany]
  · rename_i hany
    have hnone : m.lookup k = none := by
      refine List.lookup_eq_none_iff.2 fun p hp => ?_
      have hp' : p.1 ≠ k := fun he => hany (List.any_eq_true.2 ⟨p, hp, by simp [he]⟩)
      simpa using hp'.symm
    by_cases hk : k' = k
    · subst hk; simp [List.lookup_append, hnone]
    · simp [List.lookup_append, List.lookup_cons, beq_false_of_ne hk, hk]

theorem nodup_keys_mapInsert {m : List (String × NodeInterface)} (h : (m.map Prod.fst).Nodup)
    (k : String) (v : NodeInterface) : ((mapInsert m k v).map Prod.fst).Nodup := by
  unfold mapInsert
  split
  · have hkeys : (m.map fun e => if e.1 == k then (k, v) else e).map Prod.fst = m.map Prod.fst := by
      rw [List.map_map]
      refine List.map_congr_left fun e _ => ?_
      by_cases he : e.1 = k <;> simp [he]
    rwa [hkeys]
  · rename_i hany
    have hk : k ∉ m.map Prod.fst := by simpa using hany
    simpa [List.nodup_append, hk] using h

theorem foldl_mapInsert (kvs m : List (String × NodeInterface)) (h : (m.map Prod.fst).Nodup) :
    ((kvs.foldl (fun m kv => mapInsert m kv.1 kv.2) m).map Prod.fst).Nodup ∧
      ∀ k, (kvs.foldl (fun m kv => mapInsert m kv.1 kv.2) m).lookup k =
        (kvs.reverse.lookup k).or (m.lookup k) := by
  induction kvs generalizing m with
  | nil => exact ⟨h, fun k => by simp⟩
  | cons kv kvs ih =>
    obtain ⟨k₀, v₀⟩ := kv
    obtain ⟨hn, hl⟩ := ih (mapInsert m k₀ v₀) (nodup_keys_mapInsert h k₀ v₀)
    refine ⟨hn, fun k => ?_⟩
    rw [List.foldl_cons, hl, lookup_mapInsert, List.reverse_cons, List.lookup_append,
      Option.or_assoc]
    by_cases hk : k = k₀
    · subst hk; simp
    · simp [List.lookup_cons, beq_false_of_ne hk, hk]

/-- The loop of `setNetworkDevicesData` is the inserts of the entries it writes, in order, once
    every port name is computed without a panic. -/
theorem foldlM_interfacesStep (es : List EthernetInterface) (m : List (String × NodeInterface)) :
    es.foldlM interfacesStep m =
      (fun kvs => kvs.foldl (fun m kv => mapInsert m kv.1 kv.2) m) <$> es.mapM interfaceEntry := by
  induction es generalizing m with
  | nil => rfl
  | cons e es ih =>
    rw [List.foldlM_cons, List.mapM_cons]
    simp only [interfacesStep, interfaceEntry]
    cases mapInterfaceToNetbox e.id with
    | error p => rfl
    | ok k =>
      simp only [except_ok_bind, ih]
      cases es.mapM interfaceEntry <;> rfl

/-- After the loop, the last write under each port name wins. -/
theorem setNetworkDevicesData_interfaces (e0 : EthernetInterface) (es : List EthernetInterface)
    (data : InspectonData) (node : Node) (d' : InspectonData) (n' : Node) (err : Option GoError)
    (h : setNetworkDevicesData (.ok (e0 :: es)) data node = .ok (d', n', err)) :
    err = none ∧ ∃ kvs, (e0 :: es).mapM interfaceEntry = .ok kvs ∧
      (n'.interfaces.map Prod.fst).Nodup ∧ ∀ k, n'.interfaces.lookup k = kvs.reverse.lookup k := by
  obtain ⟨m, hm, h⟩ := except_bind_eq_ok h
  cases h
  rw [foldlM_interfacesStep] at hm
  cases hk : (e0 :: es).mapM interfaceEntry with
  | error p => rw [hk] at hm; cases hm
  | ok kvs =>
    rw [hk] at hm
    cases hm
    obtain ⟨hn, hl⟩ := foldl_mapInsert kvs [] List.nodup_nil
    exact ⟨rfl, kvs, rfl, hn, fun k => by simpa using hl k⟩

theorem setNetworkDevicesData_interfaces_integrated :
    setNetworkDevicesData (.ok [⟨"NIC.Integrated.1-2-1", "aa:aa"⟩, ⟨"NIC.Integrated.2-2-1", "bb:bb"⟩])
        {} {} =
      .ok ({ pxeInterface := "aa:aa", bootInterface := "01-aa-aa", currentBootMode := "bios" },
        { interfaces := [("L2", { mac := "bb:bb" })] }, none) ∧
    ((none : Option GoError) = none ∧ ∃ kvs, [⟨"NIC.Integrated.1-2-1", "aa:aa"⟩, ⟨"NIC.Integrated.2-2-1", "bb:bb"⟩].mapM
        interfaceEntry = .ok kvs ∧
      ((({ interfaces := [("L2", { mac := "bb:bb" })] } : Node).interfaces.map Prod.fst).Nodup ∧
        ∀ k, ({ interfaces := [("L2", { mac := "bb:bb" })] } : Node).interfaces.lookup k =
          kvs.reverse.lookup k)) :=
  have h : setNetworkDevicesData
      (.ok [⟨"NIC.Integrated.1-2-1", "aa:aa"⟩, ⟨"NIC.Integrated.2-2-1", "bb:bb"⟩]) {} {} =
      .ok ({ pxeInterface := "aa:aa", bootInterface := "01-aa-aa", currentBootMode := "bios" },
        { interfaces := [("L2", { mac := "bb:bb" })] }, none) := by rfl
  ⟨h, setNetworkDevicesData_interfaces _ _ _ _ _ _ _ h⟩

end IronicTemper
