import Mathlib.Data.Rat.Defs
import SwitchOps.Lib.Dict
import SwitchOps.Topology.Models

/-!
# The live overlay

`mergeLiveInterfaces` of the frontend lays the rows of the live state over the topology, the
interface table and the PoE table of the last deep observation. Of a record, `carried` stands for
all the fields that the overlay copies without reading them.

The rows are joined with the interfaces by their port, the links with the interfaces of the
topology by their port, and the devices with the links by their id.
-/

namespace SwitchOps.LiveOverlay

open Topology

/-! ## Records -/

inductive PortState
  | up
  | down
  | unknown
  deriving DecidableEq, Repr

structure LiveInterfaceState where
  port : Text
  description : Text
  status : Text
  adminState : PortState
  operState : PortState
  speed : Text
  duplex : Text
  vlan : Text
  poeState : Text
  poeWatts : Rat
  isProtected : Bool
  policyState : Option PolicyState := none
  deriving DecidableEq

/-- An interface of the topology. -/
structure NetworkInterface (ρ : Type) where
  id : Text
  port : Text
  description : Text
  adminState : PortState
  operState : PortState
  speed : Text
  duplex : Text
  vlan : Text
  poeState : Text
  poeWatts : Rat
  isProtected : Bool
  policyState : Option PolicyState := none
  carried : ρ
  deriving DecidableEq

structure NetworkLink (ρ : Type) where
  id : Text
  fromInterface : Text
  toDeviceId : Text
  status : LinkStatus
  freshness : Option FreshnessState := none
  carried : ρ
  deriving DecidableEq

structure NetworkDevice (ρ : Type) where
  id : Text
  online : Bool
  freshness : Option FreshnessState := none
  carried : ρ
  deriving DecidableEq

structure TopologyModel (ρ : Type) where
  rootDeviceId : Text
  devices : List (NetworkDevice ρ)
  interfaces : List (NetworkInterface ρ)
  links : List (NetworkLink ρ)
  carried : ρ
  deriving DecidableEq

/-- A row of the interface table. -/
structure InterfaceStatus (ρ : Type) where
  port : Text
  name : Text
  status : Text
  vlan : Text
  duplex : Text
  speed : Text
  isProtected : Bool
  policyState : Option PolicyState := none
  carried : ρ
  deriving DecidableEq

structure PoePort (ρ : Type) where
  interface : Text
  oper : Text
  powerWatts : Rat
  carried : ρ
  deriving DecidableEq

structure PoeResponse (ρ : Type) where
  ports : List (PoePort ρ)
  carried : ρ
  deriving DecidableEq

structure LiveMergedData (ρ : Type) where
  topology : TopologyModel ρ
  interfaces : List (InterfaceStatus ρ)
  poe : PoeResponse ρ
  deriving DecidableEq

variable {ρ : Type}

/-! ## The joins -/

/-- `new Map(items.map((item) => [item.port, item]))`, and the like: of several items with one key
the last counts. -/
def mapBy {α : Type} (key : α → Text) (items : List α) : Dict Text α := Dict.ofList (items.map fun item => (key item, item))

/-- `liveByPort.get(port)` -/
def rowOf (live : List LiveInterfaceState) (port : Text) : Option LiveInterfaceState :=
  Dict.get? (mapBy (·.port) live) port

/-- `stateByPort.get(port)` -/
def interfaceOf (interfaces : List (NetworkInterface ρ)) (port : Text) : Option (NetworkInterface ρ) :=
  Dict.get? (mapBy (·.port) interfaces) port

/-- `linkByDevice.get(id)` -/
def linkOf (links : List (NetworkLink ρ)) (id : Text) : Option (NetworkLink ρ) :=
  Dict.get? (mapBy (·.toDeviceId) links) id

/-! ## The overlay -/

/-- `live.poe_state || item.poeState` -/
def orElse (text fallback : Text) : Text := if text.isEmpty then fallback else text

def mergeNetworkInterface (live : List LiveInterfaceState) (item : NetworkInterface ρ) : NetworkInterface ρ :=
  match rowOf live item.port with
  | none => item
  | some row =>
    { item with
      description := row.description
      adminState := row.adminState
      operState := row.operState
      speed := row.speed
      duplex := row.duplex
      vlan := row.vlan
      poeState := orElse row.poeState item.poeState
      poeWatts := row.poeWatts
      isProtected := row.isProtected
      policyState := row.policyState }

def mergeStatus (live : List LiveInterfaceState) (item : InterfaceStatus ρ) : InterfaceStatus ρ :=
  match rowOf live item.port with
  | none => item
  | some row =>
    { item with
      name := row.description
      status := row.status
      vlan := row.vlan
      duplex := row.duplex
      speed := row.speed
      isProtected := row.isProtected
      policyState := row.policyState }

def mergePoePort (live : List LiveInterfaceState) (item : PoePort ρ) : PoePort ρ :=
  match rowOf live item.interface with
  | none => item
  | some row => { item with oper := orElse row.poeState item.oper, powerWatts := row.poeWatts }

/-- The status of a link, by the interface at its end. -/
def linkStatus (item : NetworkInterface ρ) : LinkStatus :=
  if item.operState = .up then .up else if item.adminState = .down then .down else .waiting

/-- The freshness of what is up or not. -/
def freshnessOf (isUp : Bool) : FreshnessState := if isUp then .current else .aging

def mergeLink (interfaces : List (NetworkInterface ρ)) (link : NetworkLink ρ) : NetworkLink ρ :=
  match interfaceOf interfaces link.fromInterface with
  | none => link
  | some item => { link with status := linkStatus item, freshness := some (freshnessOf (item.operState = .up)) }

def mergeDevice (rootDeviceId : Text) (links : List (NetworkLink ρ)) (device : NetworkDevice ρ) : NetworkDevice ρ :=
  if device.id = rootDeviceId then device
  else match linkOf links device.id with
    | none => device
    | some link => { device with online := link.status = .up, freshness := some (freshnessOf (link.status = .up)) }

def mergeTopology (live : List LiveInterfaceState) (topology : TopologyModel ρ) : TopologyModel ρ :=
  let topologyInterfaces := topology.interfaces.map (mergeNetworkInterface live)
  let topologyLinks := topology.links.map (mergeLink topologyInterfaces)
  { topology with
    interfaces := topologyInterfaces
    links := topologyLinks
    devices := topology.devices.map (mergeDevice topology.rootDeviceId topologyLinks) }

def mergeLiveInterfaces (topology : TopologyModel ρ) (interfaces : List (InterfaceStatus ρ)) (poe : PoeResponse ρ)
    (live : List LiveInterfaceState) : LiveMergedData ρ :=
  if live.isEmpty then { topology, interfaces, poe }
  else
    { topology := mergeTopology live topology
      interfaces := interfaces.map (mergeStatus live)
      poe := { poe with ports := poe.ports.map (mergePoePort live) } }

/-! ## What the overlay keeps -/

/-- How far a freshness is from a current observation. A record without one is read as current. -/
def staleness : Option FreshnessState → Nat
  | none => 0
  | some .current => 0
  | some .aging => 1
  | some .stale => 2
  | some .historical => 3

/-- `merged` differs from the deep observation in the fields of the live state only. -/
structure OnlyLiveFields (topology : TopologyModel ρ) (interfaces : List (InterfaceStatus ρ)) (poe : PoeResponse ρ)
    (merged : LiveMergedData ρ) : Prop where
  topologyRest : merged.topology = { topology with
    interfaces := merged.topology.interfaces, links := merged.topology.links, devices := merged.topology.devices }
  topologyInterfaces : List.Forall₂ (fun item item' : NetworkInterface ρ => item' = { item with
      description := item'.description, adminState := item'.adminState, operState := item'.operState,
      speed := item'.speed, duplex := item'.duplex, vlan := item'.vlan, poeState := item'.poeState,
      poeWatts := item'.poeWatts, isProtected := item'.isProtected, policyState := item'.policyState })
    topology.interfaces merged.topology.interfaces
  links : List.Forall₂ (fun link link' : NetworkLink ρ => link' = { link with
      status := link'.status, freshness := link'.freshness })
    topology.links merged.topology.links
  devices : List.Forall₂ (fun device device' : NetworkDevice ρ => device' = { device with
      online := device'.online, freshness := device'.freshness })
    topology.devices merged.topology.devices
  statusRows : List.Forall₂ (fun item item' : InterfaceStatus ρ => item' = { item with
      name := item'.name, status := item'.status, vlan := item'.vlan, duplex := item'.duplex,
      speed := item'.speed, isProtected := item'.isProtected, policyState := item'.policyState })
    interfaces merged.interfaces
  poeRest : merged.poe = { poe with ports := merged.poe.ports }
  poePorts : List.Forall₂ (fun item item' : PoePort ρ => item' = { item with
      oper := item'.oper, powerWatts := item'.powerWatts })
    poe.ports merged.poe.ports

/-- No link and no device has become fresher. -/
structure NeverFresher (topology merged : TopologyModel ρ) : Prop where
  links : List.Forall₂ (fun link link' : NetworkLink ρ => staleness link.freshness ≤ staleness link'.freshness)
    topology.links merged.links
  devices : List.Forall₂ (fun device device' : NetworkDevice ρ => staleness device.freshness ≤ staleness device'.freshness)
    topology.devices merged.devices

/-- The port is absent from the live list. -/
def Absent (live : List LiveInterfaceState) (port : Text) : Prop := ∀ row ∈ live, row.port ≠ port

/-- What has no row in the live list is as it was: an interface, a link, and a device none of whose
links has one. -/
structure LeavesAbsent (live : List LiveInterfaceState) (topology : TopologyModel ρ)
    (interfaces : List (InterfaceStatus ρ)) (poe : PoeResponse ρ) (merged : LiveMergedData ρ) : Prop where
  topologyInterfaces : List.Forall₂ (fun item item' : NetworkInterface ρ => Absent live item.port → item' = item)
    topology.interfaces merged.topology.interfaces
  links : List.Forall₂ (fun link link' : NetworkLink ρ => Absent live link.fromInterface → link' = link)
    topology.links merged.topology.links
  devices : List.Forall₂ (fun device device' : NetworkDevice ρ =>
      (∀ link ∈ topology.links, link.toDeviceId = device.id → Absent live link.fromInterface) → device' = device)
    topology.devices merged.topology.devices
  statusRows : List.Forall₂ (fun item item' : InterfaceStatus ρ => Absent live item.port → item' = item)
    interfaces merged.interfaces
  poePorts : List.Forall₂ (fun item item' : PoePort ρ => Absent live item.interface → item' = item)
    poe.ports merged.poe.ports

/-- The ids of a topology, in their order. -/
def TopologyModel.ids (topology : TopologyModel ρ) : List (List Text) :=
  [[topology.rootDeviceId], topology.interfaces.map (·.id), topology.links.map (·.id), topology.links.map (·.toDeviceId),
    topology.devices.map (·.id)]

/-- The overlay of `live` preserves the evidence of the deep observation. -/
structure PreservesEvidence (topology : TopologyModel ρ) (interfaces : List (InterfaceStatus ρ)) (poe : PoeResponse ρ)
    (live : List LiveInterfaceState) : Prop where
  onlyLiveFields : OnlyLiveFields topology interfaces poe (mergeLiveInterfaces topology interfaces poe live)
  neverFresher : NeverFresher topology (mergeLiveInterfaces topology interfaces poe live).topology
  leavesAbsent : LeavesAbsent live topology interfaces poe (mergeLiveInterfaces topology interfaces poe live)
  keepsIds : (mergeLiveInterfaces topology interfaces poe live).topology.ids = topology.ids
  idempotent : mergeLiveInterfaces (mergeLiveInterfaces topology interfaces poe live).topology
      (mergeLiveInterfaces topology interfaces poe live).interfaces (mergeLiveInterfaces topology interfaces poe live).poe live
    = mergeLiveInterfaces topology interfaces poe live

/-! ## When it does -/

/-- Whether the port of an interface is up: by its live row, or by the topology if it has none. -/
def upNow (live : List LiveInterfaceState) (item : NetworkInterface ρ) : Bool :=
  ((rowOf live item.port).map (·.operState)).getD item.operState = .up

/-- A link whose port has an interface was as fresh as the live row of the port makes it; one
whose port has no row shows what the interface shows. -/
def LinkGrounded (live : List LiveInterfaceState) (topology : TopologyModel ρ) (link : NetworkLink ρ) : Prop :=
  ∀ item, interfaceOf topology.interfaces link.fromInterface = some item →
    staleness link.freshness ≤ staleness (some (freshnessOf (upNow live item))) ∧
    (Absent live link.fromInterface →
      link.status = linkStatus item ∧ link.freshness = some (freshnessOf (item.operState = .up)))

/-- Whether the link of a device is up: by the interface of its port, or by itself if its port has
none. -/
def linkUpNow (live : List LiveInterfaceState) (topology : TopologyModel ρ) (link : NetworkLink ρ) : Bool :=
  ((interfaceOf topology.interfaces link.fromInterface).map (upNow live)).getD (link.status = .up)

/-- A device at the end of a link was as fresh as the link is; one none of whose links has a live row
shows what its link shows. -/
def DeviceGrounded (live : List LiveInterfaceState) (topology : TopologyModel ρ) (device : NetworkDevice ρ) : Prop :=
  device.id ≠ topology.rootDeviceId → ∀ link, linkOf topology.links device.id = some link →
    staleness device.freshness ≤ staleness (some (freshnessOf (linkUpNow live topology link))) ∧
    ((∀ link ∈ topology.links, link.toDeviceId = device.id → Absent live link.fromInterface) →
      device.online = linkUpNow live topology link ∧ device.freshness = some (freshnessOf (linkUpNow live topology link)))

/-! ## The joins of what is merged -/

theorem rowOf_eq_none {live : List LiveInterfaceState} {port : Text} : rowOf live port = none ↔ Absent live port := by
  rw [rowOf, mapBy, Dict.get?_ofList, Option.map_eq_none_iff, List.find?_eq_none]
  constructor
  · intro none row mem
    simpa using none (row.port, row) (List.mem_reverse.mpr (List.mem_map_of_mem mem))
  · intro absent entry mem
    obtain ⟨row, listed, rfl⟩ := List.mem_map.mp (List.mem_reverse.mp mem)
    simpa using absent row listed

theorem get?_mapBy_key {α : Type} {key : α → Text} {items : List α} {k : Text} {item : α}
    (h : Dict.get? (mapBy key items) k = some item) : item ∈ items ∧ key item = k := by
  obtain ⟨item', listed, same⟩ := List.mem_map.mp (Dict.mem_ofList (Dict.mem_of_get? h))
  cases same
  exact ⟨listed, rfl⟩

/-- Items that keep their keys are found where they were. -/
theorem get?_mapBy_map {α : Type} {key : α → Text} {f : α → α} (keeps : ∀ item, key (f item) = key item) (items : List α)
    (k : Text) : Dict.get? (mapBy key (items.map f)) k = (Dict.get? (mapBy key items) k).map f := by
  have entries : (items.map f).map (fun item => (key item, item))
      = (items.map fun item => (key item, item)).map fun p => (p.1, f p.2) := by
    rw [List.map_map, List.map_map]
    exact List.map_congr_left fun item _ => congrArg (·, f item) (keeps item)
  rw [mapBy, entries, Dict.ofList_mapValues, Dict.get?_mapValues]
  rfl

section merged

variable (live : List LiveInterfaceState)

@[simp] theorem mergeNetworkInterface_port (item : NetworkInterface ρ) : (mergeNetworkInterface live item).port = item.port := by
  unfold mergeNetworkInterface
  split <;> rfl

theorem mergeNetworkInterface_operState (item : NetworkInterface ρ) :
    decide ((mergeNetworkInterface live item).operState = .up) = upNow live item := by
  unfold mergeNetworkInterface upNow
  cases rowOf live item.port <;> rfl

theorem mergeNetworkInterface_absent {item : NetworkInterface ρ} (absent : Absent live item.port) :
    mergeNetworkInterface live item = item := by
  rw [mergeNetworkInterface, rowOf_eq_none.mpr absent]

theorem mergeNetworkInterface_idem (item : NetworkInterface ρ) :
    mergeNetworkInterface live (mergeNetworkInterface live item) = mergeNetworkInterface live item := by
  cases row : rowOf live item.port with
  | none => simp only [mergeNetworkInterface, row]
  | some r =>
    by_cases empty : r.poeState.isEmpty <;> simp only [mergeNetworkInterface, row, orElse, empty] <;> rfl

theorem mergeStatus_idem (item : InterfaceStatus ρ) : mergeStatus live (mergeStatus live item) = mergeStatus live item := by
  cases row : rowOf live item.port <;> simp only [mergeStatus, row]

theorem mergePoePort_idem (item : PoePort ρ) : mergePoePort live (mergePoePort live item) = mergePoePort live item := by
  cases row : rowOf live item.interface with
  | none => simp only [mergePoePort, row]
  | some r =>
    by_cases empty : r.poeState.isEmpty <;> simp only [mergePoePort, row, orElse, empty] <;> rfl

/-- The interfaces of the merged topology, by their port. -/
theorem interfaceOf_merged (interfaces : List (NetworkInterface ρ)) (port : Text) :
    interfaceOf (interfaces.map (mergeNetworkInterface live)) port
      = (interfaceOf interfaces port).map (mergeNetworkInterface live) :=
  get?_mapBy_map (mergeNetworkInterface_port live) interfaces port

variable (interfaces : List (NetworkInterface ρ))

@[simp] theorem mergeLink_fromInterface (link : NetworkLink ρ) : (mergeLink interfaces link).fromInterface = link.fromInterface := by
  unfold mergeLink
  split <;> rfl

@[simp] theorem mergeLink_toDeviceId (link : NetworkLink ρ) : (mergeLink interfaces link).toDeviceId = link.toDeviceId := by
  unfold mergeLink
  split <;> rfl

theorem mergeLink_idem (link : NetworkLink ρ) : mergeLink interfaces (mergeLink interfaces link) = mergeLink interfaces link := by
  cases item : interfaceOf interfaces link.fromInterface <;> simp only [mergeLink, item]

/-- The links of the merged topology, by the device at their end. -/
theorem linkOf_merged (links : List (NetworkLink ρ)) (id : Text) :
    linkOf (links.map (mergeLink interfaces)) id = (linkOf links id).map (mergeLink interfaces) :=
  get?_mapBy_map (mergeLink_toDeviceId interfaces) links id

variable (rootDeviceId : Text) (links : List (NetworkLink ρ))

theorem mergeDevice_idem (device : NetworkDevice ρ) :
    mergeDevice rootDeviceId links (mergeDevice rootDeviceId links device) = mergeDevice rootDeviceId links device := by
  by_cases root : device.id = rootDeviceId
  · simp only [mergeDevice, root, if_true]
  · cases link : linkOf links device.id <;> simp only [mergeDevice, root, link, if_false]

end merged

/-! ## A link and a device -/

section grounded

variable {live : List LiveInterfaceState} {topology : TopologyModel ρ}

theorem mergeLink_some {link : NetworkLink ρ} {item : NetworkInterface ρ}
    (found : interfaceOf topology.interfaces link.fromInterface = some item) :
    mergeLink (topology.interfaces.map (mergeNetworkInterface live)) link
      = { link with status := linkStatus (mergeNetworkInterface live item), freshness := some (freshnessOf (upNow live item)) } := by
  rw [mergeLink, interfaceOf_merged, found, Option.map_some]
  simp only [mergeNetworkInterface_operState]

theorem mergeLink_none {link : NetworkLink ρ} (missing : interfaceOf topology.interfaces link.fromInterface = none) :
    mergeLink (topology.interfaces.map (mergeNetworkInterface live)) link = link := by
  rw [mergeLink, interfaceOf_merged, missing, Option.map_none]

theorem linkStatus_eq_up {item : NetworkInterface ρ} : linkStatus item = .up ↔ item.operState = .up := by
  unfold linkStatus
  split
  · next up => simp [up]
  · next other =>
    simp only [other, iff_false]
    split <;> simp

/-- **A link** keeps its freshness and, without a row, itself, if and only if it is grounded. -/
theorem linkGrounded_iff {link : NetworkLink ρ} :
    LinkGrounded live topology link ↔
      staleness link.freshness
        ≤ staleness (mergeLink (topology.interfaces.map (mergeNetworkInterface live)) link).freshness ∧
      (Absent live link.fromInterface →
        mergeLink (topology.interfaces.map (mergeNetworkInterface live)) link = link) := by
  cases found : interfaceOf topology.interfaces link.fromInterface with
  | none => simp [LinkGrounded, found, mergeLink_none found]
  | some item =>
    have port : item.port = link.fromInterface := (get?_mapBy_key found).2
    rw [mergeLink_some found]
    constructor
    · intro grounded
      obtain ⟨fresh, untouched⟩ := grounded item found
      refine ⟨fresh, fun absent => ?_⟩
      obtain ⟨status, freshness⟩ := untouched absent
      rw [← port] at absent
      rw [← mergeNetworkInterface_operState, mergeNetworkInterface_absent live absent, ← status, ← freshness]
    · intro kept item' found'
      cases found.symm.trans found'
      refine ⟨kept.1, fun absent => ?_⟩
      have same := kept.2 absent
      rw [← port] at absent
      rw [← mergeNetworkInterface_operState, mergeNetworkInterface_absent live absent] at same
      exact ⟨(congrArg NetworkLink.status same).symm, (congrArg NetworkLink.freshness same).symm⟩

theorem mergeLink_up (link : NetworkLink ρ) :
    decide ((mergeLink (topology.interfaces.map (mergeNetworkInterface live)) link).status = .up)
      = linkUpNow live topology link := by
  cases found : interfaceOf topology.interfaces link.fromInterface with
  | none => rw [mergeLink_none found, linkUpNow, found, Option.map_none, Option.getD_none]
  | some item =>
    rw [mergeLink_some found, linkUpNow, found, Option.map_some, Option.getD_some, ← mergeNetworkInterface_operState]
    simp only [linkStatus_eq_up]

/-- **A device** keeps its freshness and, if none of its links has a row, itself, if and only if it is
grounded. -/
theorem deviceGrounded_iff {device : NetworkDevice ρ} :
    DeviceGrounded live topology device ↔
      staleness device.freshness
        ≤ staleness (mergeDevice topology.rootDeviceId
            (topology.links.map (mergeLink (topology.interfaces.map (mergeNetworkInterface live)))) device).freshness ∧
      ((∀ link ∈ topology.links, link.toDeviceId = device.id → Absent live link.fromInterface) →
        mergeDevice topology.rootDeviceId
          (topology.links.map (mergeLink (topology.interfaces.map (mergeNetworkInterface live)))) device = device) := by
  by_cases root : device.id = topology.rootDeviceId
  · simp [DeviceGrounded, mergeDevice, root]
  cases found : linkOf topology.links device.id with
  | none => simp [DeviceGrounded, mergeDevice, linkOf_merged, root, found]
  | some link =>
    simp only [mergeDevice, root, linkOf_merged, found, Option.map_some, mergeLink_up, if_false]
    constructor
    · intro grounded
      obtain ⟨fresh, untouched⟩ := grounded root link found
      refine ⟨fresh, fun absent => ?_⟩
      obtain ⟨online, freshness⟩ := untouched absent
      rw [← freshness, ← online]
    · intro kept _ link' found'
      cases found.symm.trans found'
      refine ⟨kept.1, fun absent => ?_⟩
      have same := kept.2 absent
      exact ⟨(congrArg NetworkDevice.online same).symm, (congrArg NetworkDevice.freshness same).symm⟩

end grounded

/-! ## The whole overlay -/

section whole

variable {topology : TopologyModel ρ} {interfaces : List (InterfaceStatus ρ)} {poe : PoeResponse ρ}
  {live : List LiveInterfaceState}

theorem forall₂_map_self {α : Type} {R : α → α → Prop} {f : α → α} {items : List α} :
    List.Forall₂ R items (items.map f) ↔ ∀ item ∈ items, R item (f item) := by
  rw [List.forall₂_map_right_iff, List.forall₂_same]

/-- An empty live list changes nothing. -/
theorem mergeLiveInterfaces_nil : mergeLiveInterfaces topology interfaces poe [] = { topology, interfaces, poe } := rfl

theorem mergeLiveInterfaces_cons (some : live ≠ []) :
    mergeLiveInterfaces topology interfaces poe live
      = { topology := mergeTopology live topology
          interfaces := interfaces.map (mergeStatus live)
          poe := { poe with ports := poe.ports.map (mergePoePort live) } } := by
  rw [mergeLiveInterfaces, if_neg (by simpa using some)]

theorem onlyLiveFields : OnlyLiveFields topology interfaces poe (mergeLiveInterfaces topology interfaces poe live) := by
  rcases eq_or_ne live [] with rfl | some
  · constructor <;> first | rfl | exact List.forall₂_same.mpr fun _ _ => rfl
  rw [mergeLiveInterfaces_cons some]
  refine ⟨rfl, forall₂_map_self.mpr ?_, forall₂_map_self.mpr ?_, forall₂_map_self.mpr ?_, forall₂_map_self.mpr ?_, rfl,
    forall₂_map_self.mpr ?_⟩
  · intro item _
    unfold mergeNetworkInterface
    split <;> rfl
  · intro link _
    unfold mergeLink
    split <;> rfl
  · intro device _
    unfold mergeDevice
    split
    · rfl
    · split <;> rfl
  · intro item _
    unfold mergeStatus
    split <;> rfl
  · intro item _
    unfold mergePoePort
    split <;> rfl

theorem mergeTopology_idem : mergeTopology live (mergeTopology live topology) = mergeTopology live topology := by
  have sameInterfaces : (topology.interfaces.map (mergeNetworkInterface live)).map (mergeNetworkInterface live)
      = topology.interfaces.map (mergeNetworkInterface live) := by
    rw [List.map_map]
    exact List.map_congr_left fun item _ => mergeNetworkInterface_idem live item
  simp only [mergeTopology, sameInterfaces]
  generalize topology.interfaces.map (mergeNetworkInterface live) = merged
  have sameLinks : (topology.links.map (mergeLink merged)).map (mergeLink merged) = topology.links.map (mergeLink merged) := by
    rw [List.map_map]
    exact List.map_congr_left fun link _ => mergeLink_idem merged link
  simp only [sameLinks, List.map_map]
  congr 1
  exact List.map_congr_left fun device _ => mergeDevice_idem topology.rootDeviceId _ device

theorem mergeLiveInterfaces_idem :
    mergeLiveInterfaces (mergeLiveInterfaces topology interfaces poe live).topology
        (mergeLiveInterfaces topology interfaces poe live).interfaces (mergeLiveInterfaces topology interfaces poe live).poe live
      = mergeLiveInterfaces topology interfaces poe live := by
  rcases eq_or_ne live [] with rfl | some
  · rfl
  have sameRows : (interfaces.map (mergeStatus live)).map (mergeStatus live) = interfaces.map (mergeStatus live) := by
    rw [List.map_map]
    exact List.map_congr_left fun item _ => mergeStatus_idem live item
  have samePorts : (poe.ports.map (mergePoePort live)).map (mergePoePort live) = poe.ports.map (mergePoePort live) := by
    rw [List.map_map]
    exact List.map_congr_left fun item _ => mergePoePort_idem live item
  simp only [mergeLiveInterfaces_cons some, mergeTopology_idem, sameRows, samePorts]

/-- What an overlay that changes the live fields only keeps of the ids. -/
theorem OnlyLiveFields.ids_eq {merged : LiveMergedData ρ} (only : OnlyLiveFields topology interfaces poe merged) :
    merged.topology.ids = topology.ids := by
  have same {α : Type} {R : α → α → Prop} {key : α → Text} {items items' : List α} (related : List.Forall₂ R items items')
      (keeps : ∀ item item', R item item' → key item' = key item) : items'.map key = items.map key := by
    induction related with
    | nil => rfl
    | cons head _ ih => rw [List.map_cons, List.map_cons, keeps _ _ head, ih]
  have root : merged.topology.rootDeviceId = topology.rootDeviceId := (congrArg TopologyModel.rootDeviceId only.topologyRest :)
  rw [TopologyModel.ids, TopologyModel.ids, root,
    same only.topologyInterfaces fun _ _ changed => (congrArg NetworkInterface.id changed :),
    same only.links fun _ _ changed => (congrArg NetworkLink.id changed :),
    same only.links fun _ _ changed => (congrArg NetworkLink.toDeviceId changed :),
    same only.devices fun _ _ changed => (congrArg NetworkDevice.id changed :)]

theorem mergeStatus_absent {item : InterfaceStatus ρ} (absent : Absent live item.port) : mergeStatus live item = item := by
  rw [mergeStatus, rowOf_eq_none.mpr absent]

theorem mergePoePort_absent {item : PoePort ρ} (absent : Absent live item.interface) : mergePoePort live item = item := by
  rw [mergePoePort, rowOf_eq_none.mpr absent]

/-- **The live overlay** changes live fields only, keeps the ids and is idempotent; it makes nothing
fresher and leaves what has no row alone if and only if the links and the devices of the topology
are grounded in what the live list and the interfaces show. -/
theorem preservesEvidence_iff :
    PreservesEvidence topology interfaces poe live ↔
      live = [] ∨
        (∀ link ∈ topology.links, LinkGrounded live topology link) ∧
        ∀ device ∈ topology.devices, DeviceGrounded live topology device := by
  rcases eq_or_ne live [] with rfl | some
  · refine ⟨fun _ => .inl rfl, fun _ => ⟨onlyLiveFields, ?_, ?_, rfl, rfl⟩⟩
    · constructor <;> exact List.forall₂_same.mpr fun _ _ => le_refl _
    · constructor <;> exact List.forall₂_same.mpr fun _ _ _ => rfl
  have merged : mergeLiveInterfaces topology interfaces poe live = _ := mergeLiveInterfaces_cons some
  constructor
  · intro preserves
    obtain ⟨-, fresher, absent, -, -⟩ := preserves
    rw [merged] at fresher absent
    refine .inr ⟨fun link mem => linkGrounded_iff.mpr ?_, fun device mem => deviceGrounded_iff.mpr ?_⟩
    · exact ⟨forall₂_map_self.mp fresher.links link mem, forall₂_map_self.mp absent.links link mem⟩
    · exact ⟨forall₂_map_self.mp fresher.devices device mem, forall₂_map_self.mp absent.devices device mem⟩
  · intro grounded
    obtain ⟨links, devices⟩ := grounded.resolve_left some
    refine ⟨onlyLiveFields, ?_, ?_, onlyLiveFields.ids_eq, mergeLiveInterfaces_idem⟩
    · rw [merged]
      constructor
      · exact forall₂_map_self.mpr fun link mem => (linkGrounded_iff.mp (links link mem)).1
      · exact forall₂_map_self.mpr fun device mem => (deviceGrounded_iff.mp (devices device mem)).1
    · rw [merged]
      constructor
      · exact forall₂_map_self.mpr fun item _ absent => mergeNetworkInterface_absent live absent
      · exact forall₂_map_self.mpr fun link mem => (linkGrounded_iff.mp (links link mem)).2
      · exact forall₂_map_self.mpr fun device mem => (deviceGrounded_iff.mp (devices device mem)).2
      · exact forall₂_map_self.mpr fun item _ absent => mergeStatus_absent absent
      · exact forall₂_map_self.mpr fun item _ absent => mergePoePort_absent absent

end whole

/-! ## A link last seen long ago -/

def staleTopology : TopologyModel Unit where
  rootDeviceId := "switch"
  devices := [{ id := "camera", online := false, freshness := some .stale, carried := () }]
  interfaces := [{
    id := "if-6", port := "Gi0/6", description := [], adminState := .up, operState := .down, speed := "auto",
    duplex := "auto", vlan := "1", poeState := "off", poeWatts := 0, isProtected := false, carried := () }]
  links := [{
    id := "link-6", fromInterface := "Gi0/6", toDeviceId := "camera", status := .waiting, freshness := some .stale,
    carried := () }]
  carried := ()

def connectedRow : LiveInterfaceState where
  port := "Gi0/6"
  description := []
  status := "connected"
  adminState := .up
  operState := .up
  speed := "a-1000"
  duplex := "a-full"
  vlan := "1"
  poeState := "off"
  poeWatts := 0
  isProtected := false

/-- A port that comes up makes what was last seen at its end current, whatever it is that comes up. -/
theorem not_preservesEvidence_stale :
    ¬ PreservesEvidence staleTopology [] { ports := [], carried := () } [connectedRow] := by
  intro preserves
  have fresher : staleness (some .stale) ≤ staleness (some .current) :=
    (forall₂_map_self.mp preserves.neverFresher.links : ∀ link ∈ staleTopology.links, _) _ List.mem_cons_self
  exact absurd fresher (by decide)

end SwitchOps.LiveOverlay
