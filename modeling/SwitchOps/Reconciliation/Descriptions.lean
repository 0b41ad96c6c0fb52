import SwitchOps.Reconciliation.Reconciler
import SwitchOps.Topology.DiscoveryStore

/-!
# A description is intent, not observation

Two observations that differ in interface descriptions only have the same endpoints and the same observed
assertions (`reconcile_descriptions`). What a description reaches of an endpoint is what is expected of it,
and its role: the `facet` leaves that out.
-/

namespace SwitchOps.Topology

/-- The same row, its description aside. -/
def SameButName (a b : InterfaceStatus) : Prop := b = { a with name := b.name }

theorem ports_described {interfaces interfaces' : List InterfaceStatus}
    (same : List.Forall₂ SameButName interfaces interfaces') : interfaces'.map (·.port) = interfaces.map (·.port) := by
  induction same with
  | nil => rfl
  | cons first _ ih => rw [List.map_cons, List.map_cons, ih, first]

/-- What is observed of a device. -/
def NetworkDevice.facet (device : NetworkDevice) : NetworkDevice :=
  { device with expectedName := none, expectedType := none, expectedCategory := none, role := .unknown }

theorem NetworkDevice.eq_of_facet {a b : NetworkDevice} (h : a.facet = b.facet) : a =
    { b with expectedName := a.expectedName, expectedType := a.expectedType, expectedCategory := a.expectedCategory,
             role := a.role } := by
  obtain ⟨⟩ := a
  obtain ⟨⟩ := b
  simp only [facet, NetworkDevice.mk.injEq] at h ⊢
  simp [h]

theorem NetworkDevice.confident_facet {a b : NetworkDevice} (h : a.facet = b.facet) (f : Confidence → Confidence) :
    { a with confidence := f a.identityConfidence : NetworkDevice }.facet =
      { b with confidence := f b.identityConfidence : NetworkDevice }.facet := by
  rw [eq_of_facet h]
  rfl

/-! ## The facts about an endpoint -/

/-- A fact, the relationship it suggests aside. -/
def DiscoveryEvidence.unrelated (record : DiscoveryEvidence) : DiscoveryEvidence := { record with relationship := none }

theorem currentRecords_unrelated (records : List DiscoveryEvidence) :
    currentRecords (records.map (·.unrelated)) = (currentRecords records).map (·.unrelated) := by
  rw [currentRecords, List.filter_map]
  rfl

theorem existenceConfidence_unrelated (records : List DiscoveryEvidence) :
    existenceConfidence (records.map (·.unrelated)) = existenceConfidence records := by
  have types : (currentRecords (records.map (·.unrelated))).map (·.evidenceType) =
      (currentRecords records).map (·.evidenceType) := by
    rw [currentRecords_unrelated, List.map_map]
    rfl
  rw [existenceConfidence, types, currentRecords_unrelated, List.any_map]
  rfl

theorem identityConfidence_unrelated (records : List DiscoveryEvidence) (conflicts : List EvidenceConflict) :
    identityConfidence (records.map (·.unrelated)) conflicts = identityConfidence records conflicts := by
  have types : (currentRecords (records.map (·.unrelated))).map (·.evidenceType) =
      (currentRecords records).map (·.evidenceType) := by
    rw [currentRecords_unrelated, List.map_map]
    rfl
  rw [identityConfidence, types]
  rfl

namespace Port

variable [Digest] [OuiRegistry] (p : Port) (name : Text)

/-- The port with another description. -/
def renamed : Port := { p with interface := { p.interface with name := name } }

theorem learnedFacts_renamed : (p.renamed name).learnedFacts.map (·.unrelated) = p.learnedFacts.map (·.unrelated) := by
  rw [learnedFacts, learnedFacts, List.map_flatMap, List.map_flatMap]
  rfl

variable {p name} {endpoint endpoint' : NetworkDevice} {records records' : List DiscoveryEvidence}

omit [Digest] [OuiRegistry] in
theorem withVendorHint_facet (alike : endpoint'.facet = endpoint.facet)
    (identity : ∀ conflicts, Topology.identityConfidence records' conflicts = Topology.identityConfidence records conflicts)
    (hint : Option Text) : (withVendorHint endpoint' records' hint).facet = (withVendorHint endpoint records hint).facet := by
  have same := NetworkDevice.eq_of_facet alike
  rw [withVendorHint, withVendorHint]
  cases nonempty hint with
  | none => exact alike
  | some vendor =>
    rw [same]
    by_cases known : (nonempty endpoint.vendor).isSome = true
    · show (if _ then _ else _ : NetworkDevice).facet = (if _ then _ else _ : NetworkDevice).facet
      rw [if_pos known, if_pos known]
      dsimp only
      cases vendorConflict endpoint.vendor (some vendor) endpoint.evidenceIds with
      | none => rfl
      | some conflict => simp only [NetworkDevice.facet, identity]
    · show (if _ then _ else _ : NetworkDevice).facet = (if _ then _ else _ : NetworkDevice).facet
      rw [if_neg known, if_neg known]
      simp only [NetworkDevice.facet, identity]

omit [Digest] in
theorem withAddress_facet (alike : endpoint'.facet = endpoint.facet)
    (identity : ∀ conflicts, Topology.identityConfidence records' conflicts = Topology.identityConfidence records conflicts) :
    ((p.renamed name).withAddress endpoint' records').facet = (p.withAddress endpoint records).facet := by
  have same := NetworkDevice.eq_of_facet alike
  rw [withAddress, withAddress, show (p.renamed name).learned = p.learned from rfl]
  cases p.learned with
  | nil => exact alike
  | cons entry rest =>
    cases rest with
    | nil =>
      refine withVendorHint_facet ?_ identity _
      rw [same]
      rfl
    | cons _ _ => exact alike

/-- The finished endpoints are alike, if the endpoints are. -/
theorem finished_renamed {a a' : Attached} (alike : a'.endpoint.facet = a.endpoint.facet) (facts : a'.facts = a.facts)
    (relationship : a'.relationship = a.relationship) : ((p.renamed name).finished a').facet = (p.finished a).facet := by
  have same := NetworkDevice.eq_of_facet alike
  have evidence : ((p.renamed name).entityEvidence a').map (·.unrelated) = (p.entityEvidence a).map (·.unrelated) := by
    rw [entityEvidence, entityEvidence, facts, show (p.renamed name).attributable = p.attributable from rfl]
    simp only [List.map_append, List.map_cons]
    split
    · rw [learnedFacts_renamed]
      rfl
    · rfl
  have ids : ((p.renamed name).entityEvidence a').map (·.id) = (p.entityEvidence a).map (·.id) := by
    have mapped := congrArg (List.map (·.id)) evidence
    rwa [List.map_map, List.map_map] at mapped
  have existence : Topology.existenceConfidence ((p.renamed name).entityEvidence a') =
      Topology.existenceConfidence (p.entityEvidence a) := by
    rw [← existenceConfidence_unrelated, evidence, existenceConfidence_unrelated]
  have identity : ∀ conflicts, Topology.identityConfidence ((p.renamed name).entityEvidence a') conflicts =
      Topology.identityConfidence (p.entityEvidence a) conflicts := fun conflicts => by
    rw [← identityConfidence_unrelated, evidence, identityConfidence_unrelated]
  have stated : ((p.renamed name).stated a').facet = (p.stated a).facet := by
    rw [Port.stated, Port.stated, same, ids, existence, identity, relationship]
    rfl
  exact NetworkDevice.confident_facet (withAddress_facet stated identity) legacyConfidence

theorem endpoint_renamed (p : Port) (name : Text) :
    ((p.renamed name).endpoint).map (·.facet) = p.endpoint.map (·.facet) := by
  have attached : ∀ {a a' : Option Attached}, Option.Rel (fun a a' => a'.endpoint.facet = a.endpoint.facet ∧
      a'.facts = a.facts ∧ a'.relationship = a.relationship) a a' →
      (a'.map (p.renamed name).finished).map (·.facet) = (a.map p.finished).map (·.facet) := by
    rintro a a' (⟨alike, facts, relationship⟩ | _)
    · exact congrArg some (finished_renamed alike facts relationship)
    · rfl
  apply attached
  rw [Port.attached, Port.attached, show (p.renamed name).isUp = p.isUp from rfl]
  by_cases up : p.isUp = true
  · rw [if_pos up, if_pos up]
    obtain ⟨switchId, sourceNamespace, observedAt, interface, learned, neighbors, lldp, arp, localHost, stored⟩ := p
    cases neighbors with
    | cons neighbor _ => exact .some ⟨rfl, rfl, rfl⟩
    | nil =>
      cases lldp with
      | cons neighbor _ => exact .some ⟨rfl, rfl, rfl⟩
      | nil =>
        cases localHost with
        | some endpoint => exact .some ⟨rfl, rfl, rfl⟩
        | none =>
          cases learned with
          | cons _ _ => exact .some ⟨rfl, rfl, rfl⟩
          | nil => exact .some ⟨rfl, rfl, rfl⟩
  · rw [if_neg up, if_neg up]
    exact .none

end Port

/-! ## Two observations -/

/-- The observation with other rows of interfaces. -/
def BuildInput.withInterfaces (input : BuildInput) (interfaces : List InterfaceStatus) : BuildInput :=
  { input with interfaces := interfaces }

section

variable [Digest] [OuiRegistry] {input : BuildInput} {interfaces' : List InterfaceStatus}

theorem endpoints_described {interfaces : List InterfaceStatus} (same : List.Forall₂ SameButName interfaces interfaces') :
    ((interfaces'.map input.port).filterMap Port.endpoint).map (·.facet) =
      ((interfaces.map input.port).filterMap Port.endpoint).map (·.facet) := by
  induction same with
  | nil => rfl
  | @cons a b as bs first _ ih =>
    have renamed : input.port b = (input.port a).renamed b.name := by
      rw [first]
      rfl
    have here := Port.endpoint_renamed (input.port a) b.name
    rw [← renamed] at here
    rw [List.map_cons, List.map_cons, List.filterMap_cons, List.filterMap_cons]
    cases old : (input.port a).endpoint with
    | none =>
      rw [old, Option.map_none, Option.map_eq_none_iff] at here
      rw [here]
      exact ih
    | some endpoint =>
      rw [old, Option.map_some] at here
      obtain ⟨endpoint', new, alike⟩ := Option.map_eq_some_iff.mp here
      rw [new]
      show endpoint'.facet :: _ = endpoint.facet :: _
      rw [alike, ih]

/-- Descriptions reach what is expected of the devices, and nothing else of them. -/
theorem devices_described (same : List.Forall₂ SameButName input.interfaces interfaces') :
    (input.withInterfaces interfaces').buildTopology.devices.map (·.facet) =
      input.buildTopology.devices.map (·.facet) :=
  congrArg (input.root.facet :: ·) (endpoints_described same)

end

/-! ## Observed assertions -/

/-- What the observed assertion is made of. -/
def NetworkDevice.observedAs (device : NetworkDevice) :
    Text × Option Text × ExistenceState × IdentitySource × Text :=
  (device.id, device.connectedInterface, device.existenceState, device.identitySource, device.name)

/-- Topologies from which the same is observed. -/
structure ObservedAlike (a b : TopologyModel) : Prop where
  root : a.rootDeviceId = b.rootDeviceId
  devices : a.devices.map (·.observedAs) = b.devices.map (·.observedAs)

/-- Label, identification and source. -/
def TopologyAssertion.claim (assertion : TopologyAssertion) : Text × Bool × EvidenceSource :=
  (assertion.objectLabel, assertion.objectIdentified, assertion.source)

namespace CiscoIosEvidenceProvider

theorem endpointOn_alike {a b : TopologyModel} (alike : ObservedAlike a b) (port : Text) :
    (endpointOn a port).map (·.observedAs) = (endpointOn b port).map (·.observedAs) := by
  have found : ∀ t : TopologyModel, (endpointOn t port).map (·.observedAs) =
      (t.devices.map (·.observedAs)).find? fun seen =>
        seen.1 ≠ t.rootDeviceId && seen.2.1 = some port && seen.2.2.1 ≠ .historical := by
    intro t
    rw [List.find?_map]
    rfl
  rw [found, found, alike.devices, alike.root]

/-- What is observed through a topology is seen in the device. -/
theorem claim_endpointAssertion {provider provider' : CiscoIosEvidenceProvider} {interface interface' : InterfaceStatus}
    {a b : TopologyModel} {device device' : NetworkDevice} (same : device'.observedAs = device.observedAs) :
    (provider'.endpointAssertion interface' a device').claim = (provider.endpointAssertion interface b device).claim := by
  obtain ⟨-, -, -, identity, name⟩ : device'.id = device.id ∧ device'.connectedInterface = device.connectedInterface ∧
      device'.existenceState = device.existenceState ∧ device'.identitySource = device.identitySource ∧
      device'.name = device.name := by
    simpa only [NetworkDevice.observedAs, Prod.mk.injEq] using same
  simp only [TopologyAssertion.claim, endpointAssertion, identity, name]

/-- The observed claim does not look at the description. -/
theorem claim_observedFor (provider : CiscoIosEvidenceProvider) (interface : InterfaceStatus) (name : Text)
    (interfaces : List InterfaceStatus) {topology : Option TopologyModel}
    (alike : Option.Rel ObservedAlike topology provider.topology) :
    (observedFor { provider with interfaces := interfaces, topology := topology }
      { interface with name := name }).map (·.claim) = (provider.observedFor interface).map (·.claim) := by
  obtain ⟨_, cdp, lldp, localEndpoint, macs, arp, gateway, observedAt, old⟩ := provider
  rw [observedFor, observedFor]
  by_cases down : interfaceOperState interface.status ≠ "up".toList
  · rw [if_pos down, if_pos down]
  · rw [if_neg down, if_neg down]
    cases alike with
    | none => rfl
    | @some a b alike =>
      have found := endpointOn_alike alike interface.port
      dsimp only
      cases old : endpointOn b interface.port with
      | none =>
        rw [old, Option.map_none, Option.map_eq_none_iff] at found
        rw [found]
        rfl
      | some device =>
        rw [old, Option.map_some] at found
        obtain ⟨device', new, same⟩ := Option.map_eq_some_iff.mp found
        rw [new]
        exact congrArg some (claim_endpointAssertion same)

/-- Of several rows with one port the last counts, and so does its claim. -/
theorem claim_ofList {rows rows' : List (Text × TopologyAssertion)}
    (same : rows'.map (fun row => (row.1, row.2.claim)) = rows.map fun row => (row.1, row.2.claim)) (port : Text) :
    (Dict.get? (Dict.ofList rows') port).map (·.claim) = (Dict.get? (Dict.ofList rows) port).map (·.claim) := by
  have found : ∀ rows : List (Text × TopologyAssertion), (Dict.get? (Dict.ofList rows) port).map (·.claim) =
      ((rows.map fun row => (row.1, row.2.claim)).reverse.find? fun row => row.1 = port).map (·.2) := by
    intro rows
    rw [Dict.get?_ofList, ← List.map_reverse, List.find?_map, Option.map_map, Option.map_map]
    rfl
  rw [found, found, same]

theorem claim_observedByInterface (provider : CiscoIosEvidenceProvider) {interfaces' : List InterfaceStatus}
    (same : List.Forall₂ SameButName provider.interfaces interfaces') {topology : Option TopologyModel}
    (alike : Option.Rel ObservedAlike topology provider.topology) (port : Text) :
    (Dict.get? (observedByInterface { provider with interfaces := interfaces', topology := topology }) port).map
        (·.claim) =
      (Dict.get? provider.observedByInterface port).map (·.claim) := by
  rw [observedByInterface, observedByInterface]
  apply claim_ofList
  show (interfaces'.filterMap _).map _ = _
  generalize renamed : { provider with interfaces := interfaces', topology := topology } = provider'
  generalize provider.interfaces = interfaces at same
  have here : ∀ interface name, (provider'.observedFor { interface with name := name }).map (·.claim) =
      (provider.observedFor interface).map (·.claim) := by
    subst renamed
    exact fun interface name => claim_observedFor provider interface name _ alike
  clear renamed
  induction same with
  | nil => rfl
  | @cons a b _ _ first _ ih =>
    have claims := here a b.name
    rw [← first] at claims
    have port : b.port = a.port := by rw [first]
    rw [List.filterMap_cons, List.filterMap_cons, port]
    cases old : provider.observedFor a with
    | none =>
      rw [old, Option.map_none, Option.map_eq_none_iff] at claims
      rw [claims]
      exact ih
    | some assertion =>
      rw [old, Option.map_some] at claims
      obtain ⟨assertion', new, claim⟩ := Option.map_eq_some_iff.mp claims
      rw [new]
      show (a.port, assertion'.claim) :: _ = (a.port, assertion.claim) :: _
      rw [claim, ih]

end CiscoIosEvidenceProvider

/-! ## The topology that is reconciled -/

/-- The topology a provider is given: none, the one that was built, or that with what an empty history adds. -/
inductive TopologyView
  | none
  | built
  | stored (complete : Bool) (observedAt : Nat)

def TopologyView.of [Digest] (view : TopologyView) (isoformat : Nat → Text) (topology : TopologyModel) :
    Option TopologyModel :=
  match view with
  | .none => Option.none
  | .built => some topology
  | .stored complete observedAt =>
    some (DiscoveryHistoryStore.applyObservation {} topology complete observedAt isoformat).2

open DiscoveryHistoryStore in
/-- With an empty history the devices are those of the topology. -/
theorem observedAlike_applyObservation [Digest] {isoformat : Nat → Text} {topology : TopologyModel}
    {complete : Bool} {observedAt : Nat} {root : NetworkDevice} {endpoints : List NetworkDevice}
    (devices : topology.devices = root :: endpoints) (isRoot : root.id = topology.rootDeviceId)
    (others : ∀ endpoint ∈ endpoints, endpoint.id ≠ topology.rootDeviceId) :
    ObservedAlike (applyObservation {} topology complete observedAt isoformat).2 topology := by
  have found : topology.devices.find? (fun item => item.id = topology.rootDeviceId) = some root := by
    rw [devices, List.find?_cons, isRoot]
    simp
  have entities : entitiesOf topology = endpoints := by
    rw [entitiesOf, devices, List.filter_cons, isRoot]
    simpa using others
  have nothing : (if complete then [] else missingEntities {} topology) = [] := by
    cases complete <;> rfl
  have returnedDevices : (applyObservation {} topology complete observedAt isoformat).2.devices =
      root :: (storedEntities {} topology complete observedAt).2 := by
    show (topology.devices.find? _).toList ++ (_ ++ List.map _ (if complete then [] else missingEntities {} topology)) = _
    rw [found, nothing, List.map_nil, List.append_nil]
    rfl
  have enriches := forall₂_storedEntities {} topology complete observedAt
  rw [entities] at enriches
  refine ⟨rfl, ?_⟩
  rw [returnedDevices, devices, List.map_cons, List.map_cons]
  congr 1
  generalize (storedEntities {} topology complete observedAt).2 = stored at enriches
  clear devices others found entities returnedDevices
  induction enriches with
  | nil => rfl
  | @cons entity _ _ _ first _ ih =>
    obtain ⟨_, _, _, rfl⟩ := first
    rw [List.map_cons, List.map_cons, ih]
    rfl

section

variable [Digest] [OuiRegistry]

theorem observedAlike_view {input : BuildInput} {interfaces' : List InterfaceStatus}
    (same : List.Forall₂ SameButName input.interfaces interfaces') (view : TopologyView) (isoformat : Nat → Text) :
    Option.Rel ObservedAlike (view.of isoformat (input.withInterfaces interfaces').buildTopology)
      (view.of isoformat input.buildTopology) := by
  have built : ObservedAlike (input.withInterfaces interfaces').buildTopology input.buildTopology := by
    refine ⟨rfl, ?_⟩
    have facets := congrArg (List.map (·.observedAs)) (devices_described same)
    rwa [List.map_map, List.map_map] at facets
  cases view with
  | none => exact .none
  | built => exact .some built
  | stored complete observedAt =>
    have returned : ∀ input : BuildInput, ObservedAlike (DiscoveryHistoryStore.applyObservation {} input.buildTopology
        complete observedAt isoformat).2 input.buildTopology := fun input =>
      @observedAlike_applyObservation _ _ _ _ _ input.root _ rfl rfl fun _ here => BuildInput.endpoint_id_ne here
    refine .some ⟨?_, ?_⟩
    · rw [(returned _).root, built.root, (returned _).root]
    · rw [(returned _).devices, built.devices, (returned _).devices]

/-- The reconciliation of an observation, through a view of its topology. -/
def BuildInput.reconciliation (input : BuildInput) (view : TopologyView) (isoformat : Nat → Text) (deviceId : Text)
    (defaultGateway : Option Text) (previous : Dict Text PreviousInterfaceState) (sightings : List ExternalSighting) :
    ReconciliationSummary :=
  reconcile deviceId input.interfaces (input.provider defaultGateway (view.of isoformat input.buildTopology))
    (.ofStored input.interfaces input.expectedRelationships) previous sightings input.observedAt

theorem claims_reconciled {input : BuildInput} {interfaces' : List InterfaceStatus}
    (same : List.Forall₂ SameButName input.interfaces interfaces') (view : TopologyView) (isoformat : Nat → Text)
    (deviceId : Text) (defaultGateway : Option Text) (previous : Dict Text PreviousInterfaceState)
    (sightings : List ExternalSighting) :
    ((input.withInterfaces interfaces').reconciliation view isoformat deviceId defaultGateway previous
        sightings).interfaces.map (fun result => (result.interface, result.observed.map (·.claim))) =
      (input.reconciliation view isoformat deviceId defaultGateway previous sightings).interfaces.map
        fun result => (result.interface, result.observed.map (·.claim)) := by
  have claims := CiscoIosEvidenceProvider.claim_observedByInterface
    (input.provider defaultGateway (view.of isoformat input.buildTopology)) same (observedAlike_view same view isoformat)
  have rows : ∀ input : BuildInput, (input.reconciliation view isoformat deviceId defaultGateway previous
      sightings).interfaces.map (fun result => (result.interface, result.observed.map (·.claim))) =
        (input.interfaces.map (·.port)).map fun port => (port, (Dict.get? (input.provider defaultGateway
          (view.of isoformat input.buildTopology)).observedByInterface port).map (·.claim)) := by
    intro input
    show (List.map _ input.interfaces).map _ = _
    rw [List.map_map, List.map_map]
    rfl
  rw [rows, rows]
  show (interfaces'.map (·.port)).map _ = _
  rw [ports_described same]
  exact List.map_congr_left fun port _ => congrArg (Prod.mk port) (claims port)

/-- Descriptions decide neither what endpoints there are nor what is observed of them, and no description makes
up for an identity that conflicts or was not observed. -/
theorem reconcile_descriptions {input : BuildInput} {interfaces' : List InterfaceStatus}
    (same : List.Forall₂ SameButName input.interfaces interfaces') (view : TopologyView) (isoformat : Nat → Text)
    (deviceId : Text) (defaultGateway : Option Text) (previous : Dict Text PreviousInterfaceState)
    (sightings : List ExternalSighting) :
    (input.withInterfaces interfaces').buildTopology.devices.map (·.facet) =
        input.buildTopology.devices.map (·.facet) ∧
      ((input.withInterfaces interfaces').reconciliation view isoformat deviceId defaultGateway previous
          sightings).interfaces.map (fun result => (result.interface, result.observed.map (·.claim))) =
        (input.reconciliation view isoformat deviceId defaultGateway previous sightings).interfaces.map
          (fun result => (result.interface, result.observed.map (·.claim))) ∧
      ∀ result ∈ ((input.withInterfaces interfaces').reconciliation view isoformat deviceId defaultGateway previous
          sightings).interfaces, ∀ observed, result.observed = some observed →
        observed.conflicted = true ∨ observed.objectIdentified = false →
          result.status ≠ .aligned ∧ result.driftKind ≠ .identity := by
  refine ⟨devices_described same, claims_reconciled same view isoformat deviceId defaultGateway previous sightings, ?_⟩
  intro result reported observed seen unsure
  obtain ⟨interface, -, rfl⟩ := List.mem_map.mp reported
  rw [show Dict.get? _ interface.port = some observed from seen]
  obtain ⟨status, drift⟩ := reconcileInterface_of_unsure unsure _ _ _ _ _
  exact ⟨status, by rw [drift]; decide⟩

end

/-- A switch with one active interface, of this description. -/
def oneInterface (name : Text) : BuildInput where
  hostname := "sw"
  model := "WS-C2960"
  managementIp := "10.0.0.2"
  interfaces := [⟨"Gi1/0/1", name, "connected", "1", "a-full", "a-1000", "10/100/1000BaseTX", false, .unmanaged⟩]
  macEntries := []
  observedAt := 0

theorem reconcile_descriptions_uplink : ∃ (_ : Digest) (_ : OuiRegistry),
    (oneInterface "core-uplink").buildTopology.devices.map (·.facet) =
        (oneInterface []).buildTopology.devices.map (·.facet) ∧
      ((oneInterface "core-uplink").reconciliation .built (fun _ => []) "sw" none [] []).interfaces.map
          (fun result => (result.interface, result.observed.map (·.claim))) =
        ((oneInterface []).reconciliation .built (fun _ => []) "sw" none [] []).interfaces.map
          (fun result => (result.interface, result.observed.map (·.claim))) := by
  let digest : Digest := .ofTable [] (by simp) fun _ _ => []
  let registry : OuiRegistry := ⟨fun _ => none⟩
  obtain ⟨devices, claims, -⟩ := @reconcile_descriptions digest registry (oneInterface [])
    (oneInterface "core-uplink").interfaces (.cons rfl .nil) .built (fun _ => []) "sw" none [] []
  exact ⟨digest, registry, devices, claims⟩

end SwitchOps.Topology
