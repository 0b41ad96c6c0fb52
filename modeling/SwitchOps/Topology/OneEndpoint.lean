import SwitchOps.Topology.Builder
import SwitchOps.Topology.Lifecycle

/-!
# One endpoint for each interface

`build_topology` makes at most one endpoint for an interface. An incomplete observation returns the entities it
did not see beside those it saw, and looks at their identities only: an interface whose endpoint has another
identity now has two (`oneEndpoint_throughout_iff`).
-/

namespace SwitchOps.Topology

open Lifecycles Histories

/-! ## What is built is an observation -/

/-- A fact that was seen just now. -/
structure DiscoveryEvidence.Fresh (record : DiscoveryEvidence) : Prop where
  unrevoked : record.revoked = false
  current : record.freshness = .current
  evidenceType : record.evidenceType ≠ .priorObservation

section

variable [Digest]

theorem fresh_evidenceRecord {evidenceType : EvidenceType} (h : evidenceType ≠ .priorObservation)
    (evidenceClass : EvidenceClass) (source : EvidenceSource) (deviceId : Text)
    (interface entityId observedValue : Option Text) (summary : Text) (observedAt : Nat) (strength : Confidence)
    (establishes : EvidenceClaimSupport) (provenance : Text) (relationship : Option RelationshipKind) :
    (evidenceRecord evidenceType evidenceClass source deviceId interface entityId observedValue summary observedAt
      strength establishes provenance relationship).Fresh :=
  ⟨rfl, rfl, h⟩

namespace Port

variable [OuiRegistry] {p : Port} {record : DiscoveryEvidence}

omit [OuiRegistry] in
theorem fresh_expectedFacts (here : record ∈ p.expectedFacts) : record.Fresh := by
  rcases List.mem_append.mp here with here | here
  · obtain ⟨stored, -, rfl⟩ := Option.map_eq_some_iff.mp (Option.mem_toList.mp here)
    apply fresh_evidenceRecord
    split
    · decide
    · decide
  · split at here
    · obtain rfl := List.mem_singleton.mp here
      exact fresh_evidenceRecord (by decide) _ _ _ _ _ _ _ _ _ _ _ _
    · cases here

theorem fresh_learnedFacts (here : record ∈ p.learnedFacts) : record.Fresh := by
  obtain ⟨entry, -, here⟩ := List.mem_flatMap.mp here
  rcases List.mem_cons.mp here with rfl | here
  · exact fresh_evidenceRecord (by decide) _ _ _ _ _ _ _ _ _ _ _ _
  rcases List.mem_append.mp here with here | here
  · obtain ⟨vendor, -, rfl⟩ := Option.map_eq_some_iff.mp (Option.mem_toList.mp here)
    exact fresh_evidenceRecord (by decide) _ _ _ _ _ _ _ _ _ _ _ _
  · obtain ⟨arp, -, rfl⟩ := List.mem_map.mp here
    exact fresh_evidenceRecord (by decide) _ _ _ _ _ _ _ _ _ _ _ _

omit [OuiRegistry] in
theorem fresh_attached {a : Attached} (h : p.attached = some a) (here : record ∈ a.facts) : record.Fresh := by
  rw [attached] at h
  split at h
  · split at h <;> cases h
    · obtain rfl := List.mem_singleton.mp here
      exact fresh_evidenceRecord (by decide) _ _ _ _ _ _ _ _ _ _ _ _
    · obtain rfl := List.mem_singleton.mp here
      exact fresh_evidenceRecord (by decide) _ _ _ _ _ _ _ _ _ _ _ _
    · obtain rfl := List.mem_singleton.mp here
      exact fresh_evidenceRecord (by decide) _ _ _ _ _ _ _ _ _ _ _ _
    · cases here
    · cases here
  · cases h

theorem fresh_interfaceEvidence (here : record ∈ p.interfaceEvidence) : record.Fresh := by
  rcases List.mem_cons.mp here with rfl | here
  · exact fresh_evidenceRecord (by decide) _ _ _ _ _ _ _ _ _ _ _ _
  rcases List.mem_append.mp here with here | here
  · rcases List.mem_append.mp here with here | here
    · exact fresh_expectedFacts here
    · exact fresh_learnedFacts here
  · cases attached : p.attached with
    | none =>
      rw [attached] at here
      cases here
    | some a =>
      rw [attached] at here
      exact fresh_attached attached here

end Port

end

/-! ## The ports of an observation -/

namespace BuildInput

variable (input : BuildInput)

/-- The ports that are up. -/
def upPorts : List Text := (input.ports.filter (·.isUp)).map (·.interface.port)

/-- The identities of what is attached to them. -/
def upIds [Digest] : List Text := (input.ports.filter (·.isUp)).map (·.entityId)

variable [Digest] [OuiRegistry] {input}

/-- The endpoints: one for each port that is up. -/
theorem places_endpoint (ports : List Port) :
    (ports.filterMap Port.endpoint).map (fun endpoint => (endpoint.id, endpoint.connectedInterface)) =
      (ports.filter (·.isUp)).map fun p => (p.entityId, some p.interface.port) := by
  induction ports with
  | nil => rfl
  | cons p ports ih =>
    rw [List.filterMap_cons, List.filter_cons, ← p.endpoint_isSome]
    cases attached : p.endpoint with
    | none => exact ih
    | some endpoint =>
      obtain ⟨id, port, -⟩ := Port.samePlace_of_endpoint attached
      show (endpoint.id, endpoint.connectedInterface) :: _ = (p.entityId, some p.interface.port) :: _
      rw [ih, id, port]

theorem entitiesOf_buildTopology :
    DiscoveryHistoryStore.entitiesOf input.buildTopology = input.ports.filterMap Port.endpoint := by
  have isRoot : input.root.id = input.switchId := rfl
  show (input.root :: _).filter (fun item => item.id ≠ input.switchId) = _
  rw [List.filter_cons, isRoot]
  simpa using fun endpoint p known attached =>
    endpoint_id_ne (List.mem_filterMap.mpr ⟨p, known, attached⟩)

theorem map_id_entitiesOf : (DiscoveryHistoryStore.entitiesOf input.buildTopology).map (·.id) = input.upIds := by
  have places := congrArg (List.map Prod.fst) (places_endpoint input.ports)
  rw [entitiesOf_buildTopology]
  rwa [List.map_map, List.map_map] at places

theorem map_connectedInterface_entitiesOf :
    (DiscoveryHistoryStore.entitiesOf input.buildTopology).map (·.connectedInterface) = input.upPorts.map some := by
  have places := congrArg (List.map Prod.snd) (places_endpoint input.ports)
  rw [entitiesOf_buildTopology, upPorts, List.map_map]
  rwa [List.map_map, List.map_map] at places

omit [OuiRegistry] in
/-- The identity is that of the port. -/
theorem entityId_port {a b : InterfaceStatus} (same : a.port = b.port) :
    (input.port a).entityId = (input.port b).entityId := by
  simp only [Port.entityId, BuildInput.port, same]

/-- Two endpoints on one port have one identity. -/
theorem id_eq_of_connectedInterface {e e' : NetworkDevice} {port : Text}
    (known : e ∈ DiscoveryHistoryStore.entitiesOf input.buildTopology)
    (known' : e' ∈ DiscoveryHistoryStore.entitiesOf input.buildTopology) (here : e.connectedInterface = some port)
    (here' : e'.connectedInterface = some port) : e.id = e'.id := by
  have placed : ∀ e ∈ DiscoveryHistoryStore.entitiesOf input.buildTopology, e.connectedInterface = some port →
      ∃ interface, interface.port = port ∧ e.id = (input.port interface).entityId := by
    intro e known here
    rw [entitiesOf_buildTopology] at known
    obtain ⟨p, isPort, attached⟩ := List.mem_filterMap.mp known
    obtain ⟨interface, -, rfl⟩ := List.mem_map.mp isPort
    obtain ⟨id, connected, -⟩ := Port.samePlace_of_endpoint attached
    exact ⟨interface, Option.some_inj.mp (connected.symm.trans here), id⟩
  obtain ⟨a, rfl, id⟩ := placed e known here
  obtain ⟨b, same, id'⟩ := placed e' known' here'
  rw [id, id', entityId_port same]

end BuildInput

/-! ## Runs -/

/-- An observation of a switch: what was collected, and whether all of it was. -/
structure Poll where
  input : BuildInput
  complete : Bool
  observedAt : Nat

section

variable [Digest] [OuiRegistry]

def Poll.observation (poll : Poll) : Observation where
  topology := poll.input.buildTopology
  complete := poll.complete
  observedAt := poll.observedAt
  entities_live := by
    intro entity known
    rw [BuildInput.entitiesOf_buildTopology] at known
    obtain ⟨p, -, attached⟩ := List.mem_filterMap.mp known
    obtain ⟨-, -, freshness, existence⟩ := Port.samePlace_of_endpoint attached
    rw [freshness, existence]
    exact ⟨by decide, by decide⟩
  evidence_live := by
    intro record known
    obtain ⟨p, -, here⟩ := List.mem_flatMap.mp known
    obtain ⟨unrevoked, current, evidenceType⟩ := Port.fresh_interfaceEvidence here
    exact ⟨unrevoked, by rw [current]; decide, evidenceType⟩

end

/-- No two devices are connected to one interface. -/
def TopologyModel.OneEndpoint (topology : TopologyModel) : Prop :=
  ∀ port, (topology.devices.filter fun device => device.connectedInterface = some port).length ≤ 1

theorem oneEndpoint_iff_nodup {topology : TopologyModel} :
    topology.OneEndpoint ↔ (topology.devices.filterMap (·.connectedInterface)).Nodup := by
  have counts : ∀ (port : Text) (devices : List NetworkDevice), (devices.filterMap (·.connectedInterface)).count port =
      (devices.filter fun device => device.connectedInterface = some port).length := by
    intro port devices
    induction devices with
    | nil => rfl
    | cons device devices ih =>
      rw [List.filterMap_cons, List.filter_cons]
      cases connected : device.connectedInterface with
      | none => simpa using ih
      | some here =>
        by_cases same : here = port
        · simp [same, ih]
        · simp [same, ih]
  rw [List.nodup_iff_count_le_one]
  exact forall_congr' fun port => by rw [counts]

namespace DiscoveryHistoryStore

/-- The active entities of a switch were seen on interfaces of their own. -/
def Apart (store : DiscoveryHistoryStore) : Prop :=
  ∀ deviceId id id' row row', Dict.get? store.entities (deviceId, id) = some row →
    Dict.get? store.entities (deviceId, id') = some row' → row.active = true → row'.active = true →
      ∀ port, row.value.entity.connectedInterface = some port → row'.value.entity.connectedInterface = some port →
        id = id'

theorem apart_empty : Apart {} := fun _ _ _ _ _ here => by cases here

/-- An observation that creates no second endpoint: of the interfaces that are up each is listed once, and, if it is
not complete, the active entities last seen on one of them are seen again. -/
structure Fits [Digest] (store : DiscoveryHistoryStore) (poll : Poll) : Prop where
  listedOnce : poll.input.upPorts.Nodup
  seenAgain : poll.complete = false → ∀ id row, Dict.get? store.entities (poll.input.switchId, id) = some row →
    row.active = true → ∀ port ∈ poll.input.upPorts, row.value.entity.connectedInterface = some port →
      id ∈ poll.input.upIds

section

variable [Digest] [OuiRegistry] {store : DiscoveryHistoryStore} {poll : Poll}

theorem seesEntity_buildTopology_iff {id : Text} :
    seesEntity poll.input.buildTopology (poll.input.switchId, id) = true ↔ id ∈ poll.input.upIds := by
  rw [seesEntity_iff, ← BuildInput.map_id_entitiesOf, List.mem_map]
  constructor
  · rintro ⟨entity, known, same⟩
    exact ⟨entity, known, (Prod.mk.inj same).2.symm⟩
  · rintro ⟨entity, known, rfl⟩
    exact ⟨entity, known, rfl⟩

/-- Where the missing entities were last seen. -/
def missingPorts (store : DiscoveryHistoryStore) (topology : TopologyModel) : List Text :=
  (missingEntities store topology).filterMap fun entry => entry.2.value.entity.connectedInterface

theorem mem_missingPorts_iff (keyed : store.entities.Keyed) {port : Text} :
    port ∈ missingPorts store poll.input.buildTopology ↔
      ∃ id row, Dict.get? store.entities (poll.input.switchId, id) = some row ∧ row.active = true ∧
        id ∉ poll.input.upIds ∧ row.value.entity.connectedInterface = some port := by
  rw [missingPorts, List.mem_filterMap]
  constructor
  · rintro ⟨⟨⟨deviceId, id⟩, row⟩, missing, here⟩
    obtain ⟨known, conditions⟩ := List.mem_filter.mp missing
    obtain ⟨⟨root, active⟩, unseen⟩ : (isOfRoot poll.input.buildTopology (deviceId, id) = true ∧ row.active = true) ∧
        (!seesEntity poll.input.buildTopology (deviceId, id)) = true := by
      simpa only [Bool.and_eq_true] using conditions
    obtain rfl : deviceId = poll.input.switchId := of_decide_eq_true root
    refine ⟨id, row, Dict.get?_of_mem keyed known, active, fun seen => ?_, here⟩
    rw [seesEntity_buildTopology_iff.mpr seen] at unseen
    cases unseen
  · rintro ⟨id, row, known, active, unseen, here⟩
    refine ⟨((poll.input.switchId, id), row), List.mem_filter.mpr ⟨Dict.mem_of_get? known, ?_⟩, here⟩
    have notSeen : seesEntity poll.input.buildTopology (poll.input.switchId, id) = false := by
      rw [← Bool.not_eq_true]
      exact fun seen => unseen (seesEntity_buildTopology_iff.mp seen)
    simp only [notSeen, active, Bool.not_false, Bool.and_true]
    exact decide_eq_true rfl

omit [OuiRegistry] in
theorem devices_applyObservation (topology : TopologyModel) (complete : Bool) (stamp : Nat) (isoformat : Nat → Text) :
    (store.applyObservation topology complete stamp isoformat).2.devices =
      (topology.devices.find? fun item => item.id = topology.rootDeviceId).toList ++
        ((storedEntities store topology complete stamp).2 ++
          (if complete then [] else missingEntities store topology).map fun entry => agedEntity stamp entry.2) := rfl

theorem find?_root (input : BuildInput) :
    input.buildTopology.devices.find? (fun item => item.id = input.buildTopology.rootDeviceId) = some input.root :=
  List.find?_cons_of_pos (decide_eq_true rfl)

omit [Digest] [OuiRegistry] in
theorem connectedInterface_of_enriches {entities stored : List NetworkDevice}
    (enriches : List.Forall₂ Enriches entities stored) :
    stored.map (·.connectedInterface) = entities.map (·.connectedInterface) := by
  induction enriches with
  | nil => rfl
  | cons first _ ih =>
    obtain ⟨_, _, _, rfl⟩ := first
    rw [List.map_cons, List.map_cons, ih]

/-- The interfaces of the devices that are returned. -/
theorem connectedInterfaces_returned (isoformat : Nat → Text) :
    (store.applyObservation poll.input.buildTopology poll.complete poll.observedAt isoformat).2.devices.filterMap
        (·.connectedInterface) =
      poll.input.upPorts ++ if poll.complete then [] else missingPorts store poll.input.buildTopology := by
  have current : (storedEntities store poll.input.buildTopology poll.complete poll.observedAt).2.filterMap
      (·.connectedInterface) = poll.input.upPorts := by
    have places := congrArg (List.filterMap id) ((connectedInterface_of_enriches (forall₂_storedEntities store
      poll.input.buildTopology poll.complete poll.observedAt)).trans BuildInput.map_connectedInterface_entitiesOf)
    rw [List.filterMap_map, List.filterMap_map] at places
    exact places.trans List.filterMap_some
  rw [devices_applyObservation, find?_root, List.filterMap_append, List.filterMap_append, current]
  show [] ++ _ = _
  rw [List.nil_append]
  cases poll.complete with
  | true => rfl
  | false => exact congrArg _ List.filterMap_map

/-! ## One observation -/

omit [Digest] [OuiRegistry] in
theorem nodup_missingPorts (keyed : store.entities.Keyed) (apart : store.Apart) (topology : TopologyModel) :
    (missingPorts store topology).Nodup := by
  have keys : (missingEntities store topology).Pairwise fun a b => a.1 ≠ b.1 :=
    (List.pairwise_map.mp keyed).sublist List.filter_sublist
  rw [missingPorts, List.Nodup, List.pairwise_filterMap]
  refine keys.imp_of_mem ?_
  rintro ⟨⟨deviceId, id⟩, row⟩ ⟨⟨deviceId', id'⟩, row'⟩ missing missing' differ port here _ here' rfl
  obtain ⟨known, conditions⟩ := List.mem_filter.mp missing
  obtain ⟨known', conditions'⟩ := List.mem_filter.mp missing'
  simp only [Bool.and_eq_true] at conditions conditions'
  obtain ⟨⟨root, active⟩, -⟩ := conditions
  obtain ⟨⟨root', active'⟩, -⟩ := conditions'
  obtain rfl : deviceId = topology.rootDeviceId := of_decide_eq_true root
  obtain rfl : deviceId' = topology.rootDeviceId := of_decide_eq_true root'
  apply differ
  rw [apart _ _ _ _ _ (Dict.get?_of_mem keyed known) (Dict.get?_of_mem keyed known') active active' port here here']

/-- From a database whose entities are apart, an observation returns one endpoint for each interface if and only if
it fits. -/
theorem oneEndpoint_iff_fits (keyed : store.entities.Keyed) (apart : store.Apart) (isoformat : Nat → Text) :
    (store.applyObservation poll.input.buildTopology poll.complete poll.observedAt isoformat).2.OneEndpoint ↔
      store.Fits poll := by
  rw [oneEndpoint_iff_nodup, connectedInterfaces_returned, List.nodup_append']
  constructor
  · rintro ⟨listedOnce, -, disjoint⟩
    refine ⟨listedOnce, fun incomplete id row known active port up here => ?_⟩
    by_contra unseen
    apply disjoint up
    rw [incomplete]
    exact (mem_missingPorts_iff keyed).mpr ⟨id, row, known, active, unseen, here⟩
  · intro fits
    refine ⟨fits.listedOnce, ?_, ?_⟩
    · split
      · exact List.nodup_nil
      · exact nodup_missingPorts keyed apart _
    · intro port up missing
      cases complete : poll.complete with
      | true =>
        rw [complete] at missing
        cases missing
      | false =>
        rw [complete] at missing
        obtain ⟨id, row, known, active, unseen, here⟩ := (mem_missingPorts_iff keyed).mp missing
        exact unseen (fits.seenAgain complete id row known active port up here)

/-- An active entity was seen just now, or it was active before and the observation is not complete, or of another
switch. -/
theorem active_cases (keyed : store.entities.Keyed) {deviceId id : Text} {row : Row EntityColumns}
    (here : Dict.get? (store.observed poll.input.buildTopology poll.complete poll.observedAt).entities (deviceId, id) =
      some row) (active : row.active = true) :
    (deviceId = poll.input.switchId ∧ ∃ entity ∈ entitiesOf poll.input.buildTopology, entity.id = id ∧
        row.value.entity.connectedInterface = entity.connectedInterface) ∨
      Dict.get? store.entities (deviceId, id) = some row ∧
        (deviceId = poll.input.switchId → poll.complete = false ∧ id ∉ poll.input.upIds) := by
  have observed := @entities_observed _ poll.input.buildTopology poll.complete poll.observedAt keyed
  by_cases root : deviceId = poll.input.switchId
  · subst root
    have scope : isOfRoot poll.input.buildTopology (poll.input.switchId, id) = true := decide_eq_true rfl
    by_cases seen : seesEntity poll.input.buildTopology (poll.input.switchId, id) = true
    · obtain ⟨columns, ⟨entity, known, key, _, _, _, stored⟩, same⟩ := observed.stores _ scope seen
      obtain rfl := Option.some_inj.mp (same.symm.trans here)
      refine .inl ⟨rfl, entity, known, (Prod.mk.inj key).2.symm, ?_⟩
      show columns.entity.connectedInterface = _
      rw [stored]
    · cases complete : poll.complete with
      | true =>
        rw [observed.retires complete _ scope seen] at here
        obtain ⟨_, -, rfl⟩ := Option.map_eq_some_iff.mp here
        cases active
      | false =>
        rw [observed.keeps complete _ scope seen] at here
        exact .inr ⟨here, fun _ => ⟨rfl, fun isUp => seen (seesEntity_buildTopology_iff.mpr isUp)⟩⟩
  · have outside : ¬ isOfRoot poll.input.buildTopology (deviceId, id) = true :=
      fun scope => root (of_decide_eq_true (p := deviceId = poll.input.switchId) scope)
    rw [observed.frames _ outside] at here
    exact .inr ⟨here, fun same => absurd same root⟩

/-- An observation that fits keeps the entities apart. -/
theorem Apart.observed (apart : store.Apart) (keyed : store.entities.Keyed) (fits : store.Fits poll) :
    (store.observed poll.input.buildTopology poll.complete poll.observedAt).Apart := by
  have isUp : ∀ entity ∈ entitiesOf poll.input.buildTopology, ∀ port, entity.connectedInterface = some port →
      port ∈ poll.input.upPorts ∧ entity.id ∈ poll.input.upIds := by
    intro entity known port here
    have places := List.mem_map_of_mem (f := (·.connectedInterface)) known
    rw [BuildInput.map_connectedInterface_entitiesOf, here] at places
    obtain ⟨_, up, same⟩ := List.mem_map.mp places
    refine ⟨Option.some_inj.mp same ▸ up, ?_⟩
    rw [← BuildInput.map_id_entitiesOf]
    exact List.mem_map_of_mem known
  intro deviceId id id' row row' here here' active active' port connected connected'
  rcases active_cases keyed here active with ⟨root, e, known, rfl, same⟩ | ⟨before, kept⟩
  · rcases active_cases keyed here' active' with ⟨-, e', known', rfl, same'⟩ | ⟨before', kept'⟩
    · exact BuildInput.id_eq_of_connectedInterface known known' (same.symm.trans connected) (same'.symm.trans connected')
    · obtain ⟨incomplete, unseen⟩ := kept' root
      subst root
      exact absurd (fits.seenAgain incomplete id' row' before' active' port
        (isUp e known port (same.symm.trans connected)).1 connected') unseen
  · rcases active_cases keyed here' active' with ⟨root, e', known', rfl, same'⟩ | ⟨before', -⟩
    · obtain ⟨incomplete, unseen⟩ := kept root
      subst root
      exact absurd (fits.seenAgain incomplete id row before active port
        (isUp e' known' port (same'.symm.trans connected')).1 connected) unseen
    · exact apart deviceId id id' row row' before before' active active' port connected connected'

/-! ## Every observation of a run -/

/-- The database after some observations. -/
def afterPolls (polls : List Poll) : DiscoveryHistoryStore := after (polls.map Poll.observation)

theorem afterPolls_concat (polls : List Poll) (poll : Poll) : afterPolls (polls ++ [poll]) =
    (afterPolls polls).observed poll.input.buildTopology poll.complete poll.observedAt := by
  rw [afterPolls, List.map_append]
  exact after_concat _ poll.observation

theorem keyed_afterPolls (polls : List Poll) : (afterPolls polls).entities.Keyed :=
  (consistent_after _).entities_keyed

theorem apart_afterPolls {polls : List Poll} (h : Throughout (fun before poll => (afterPolls before).Fits poll) polls) :
    (afterPolls polls).Apart := by
  apply h.invariant (I := fun polls => (afterPolls polls).Apart) apart_empty
  intro before poll apart fits
  rw [afterPolls_concat]
  exact apart.observed (keyed_afterPolls before) fits

/-- **One endpoint for each interface**: a run keeps it as long as its observations fit, and no longer. -/
theorem oneEndpoint_throughout_iff (isoformat : Nat → Text) (polls : List Poll) :
    Throughout (fun before poll => ((afterPolls before).applyObservation poll.input.buildTopology poll.complete
        poll.observedAt isoformat).2.OneEndpoint) polls ↔
      Throughout (fun before poll => (afterPolls before).Fits poll) polls := by
  induction polls using List.reverseRecOn with
  | nil => exact iff_of_true throughout_nil throughout_nil
  | append_singleton before poll ih =>
    rw [throughout_concat, throughout_concat, ih]
    exact and_congr_right fun fits =>
      oneEndpoint_iff_fits (keyed_afterPolls before) (apart_afterPolls fits) isoformat

end

/-- The digests of an address and of a name. -/
@[reducible] def identityDigest : Digest :=
  .ofTable [
      ("physical|mac|001122334455", "e074b004e66f0aca7c21f772219ea51e" ++ "8f0a433a7178116d271789589000ee2e"),
      ("physical|neighbor|ap-1|", "8fb74c69273393e05f60e5854e9f1f0d" ++ "2d91c6b56bc7f8f1ccf1702761d3e06d")]
    (by decide) fun _ _ => []

/-- An address is learned through the only interface. -/
def addressInput : BuildInput where
  hostname := "sw"
  model := "WS-C2960"
  managementIp := "10.0.0.2"
  interfaces := [⟨"Gi1/0/1", [], "connected", "1", "a-full", "a-1000", "10/100/1000BaseTX", false, .unmanaged⟩]
  macEntries := [⟨"1", "0011.2233.4455", "DYNAMIC", "Gi1/0/1"⟩]
  observedAt := 0

/-- The device at the interface has announced itself, and another section of the observation failed. -/
def announcedPoll : Poll where
  input := { addressInput with
    cdpNeighbors := [{ remoteName := "AP-1", localInterface := "Gi1/0/1" }], observedAt := 10 * second }
  complete := false
  observedAt := 10 * second

/-- The address and the name are two devices on one interface. -/
theorem not_oneEndpoint_announced : ∃ (_ : Digest) (_ : OuiRegistry), ¬ ∀ isoformat polls,
    Throughout (fun before poll => ((afterPolls before).applyObservation poll.input.buildTopology poll.complete
      poll.observedAt isoformat).2.OneEndpoint) polls := by
  refine ⟨identityDigest, ⟨fun _ => none⟩, fun claimed => ?_⟩
  have one := claimed (fun _ => []) [⟨addressInput, true, 0⟩, announcedPoll] [⟨addressInput, true, 0⟩] announcedPoll []
    rfl "Gi1/0/1"
  revert one
  decide +kernel

end DiscoveryHistoryStore

end SwitchOps.Topology
