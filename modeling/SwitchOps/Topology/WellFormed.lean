import SwitchOps.Lib.Fresh
import SwitchOps.Topology.Builder

/-!
# The ids of a topology

`build_topology` looks at every port by itself, and the id of an endpoint is a digest of what identifies it there:
the first neighbour, the local host, the only address learned, or else the port. Nothing asks whether another port
has found the same. `wellFormed_iff` says for which observations the ids of the devices and of the links differ:
no two ports whose link is up have found the same presence.
-/

namespace SwitchOps.Topology

/-- Distinct devices, distinct links, and both ends of a link are ids of exactly one device. -/
structure WellFormed (model : TopologyModel) : Prop where
  devices : (model.devices.map (·.id)).Nodup
  links : (model.links.map (·.id)).Nodup
  ends : ∀ link ∈ model.links, (model.devices.map (·.id)).count link.fromDeviceId = 1 ∧
    (model.devices.map (·.id)).count link.toDeviceId = 1

/-! ## What identifies an endpoint -/

namespace Port

variable (p : Port)

/-- What identifies the endpoint of a port: a kind and a text, as it is digested. -/
def presence : Text × Text :=
  match p.neighbors, p.lldpNeighbors, p.localHost, p.learned with
  | neighbor :: _, _, _, _ => ("neighbor", normalizedName (neighborKey neighbor.remoteName neighbor.ip))
  | [], neighbor :: _, _, _ => ("neighbor", normalizedName (neighborKey neighbor.remoteName neighbor.ip))
  | [], [], some _, _ => ("local-host", normalizedName p.switchId)
  | [], [], none, [entry] => ("mac", normalizedName (normalizeMac entry.mac))
  | [], [], none, _ => ("port-presence", normalizedName (p.switchId ++ "|" ++ p.interface.port))

/-- The text that is digested for the id. -/
def presenceText : Text := p.sourceNamespace ++ "|" ++ p.presence.1 ++ "|" ++ p.presence.2

theorem presence_kind_bar : '|' ∉ p.presence.1 := by
  have kinds : p.presence.1 ∈ (["neighbor", "local-host", "mac", "port-presence"] : List Text) := by
    rw [presence]
    split <;> simp only [List.mem_cons, true_or, or_true]
  have bars : ∀ kind ∈ (["neighbor", "local-host", "mac", "port-presence"] : List Text), '|' ∉ kind := by decide
  exact bars _ kinds

/-- Of one namespace, only equal presences are digested from one text. -/
theorem presenceText_inj {p q : Port} (namespaces : p.sourceNamespace = q.sourceNamespace) :
    p.presenceText = q.presenceText ↔ p.presence = q.presence := by
  constructor
  · intro same
    rw [presenceText, presenceText, namespaces, List.append_assoc, List.append_assoc, List.append_assoc,
      List.append_assoc, List.append_assoc, List.append_assoc] at same
    have rest := List.append_cancel_left (List.append_cancel_left same)
    obtain ⟨kinds, identities⟩ := Text.append_cons_inj p.presence_kind_bar q.presence_kind_bar rest
    exact Prod.ext kinds identities
  · intro same
    rw [presenceText, presenceText, namespaces, same]

variable [Digest]

theorem entityId_eq : p.entityId = "entity-".toList ++ (Digest.sha256 p.presenceText).take 16 := by
  rw [presenceText, entityId, presence]
  cases p.neighbors with
  | cons neighbor _ => rfl
  | nil =>
    cases p.lldpNeighbors with
    | cons neighbor _ => rfl
    | nil =>
      cases p.localHost with
      | some endpoint => rfl
      | none =>
        cases p.learned with
        | nil => rfl
        | cons entry others =>
          cases others with
          | nil => dsimp only [stableEntityId]
          | cons second rest => dsimp only [stableEntityId]

theorem length_entityId : p.entityId.length = 23 := by
  have digest := Digest.isHexDigest_sha256 p.presenceText
  rw [isHexDigest, Bool.and_eq_true, beq_iff_eq] at digest
  rw [entityId_eq, List.length_append, List.length_take, digest.1]
  rfl

/-- The id of the link to the endpoint. -/
def linkId : Text := "link-" ++ p.switchId ++ "-" ++ slug p.interface.port ++ "-" ++ p.entityId

theorem entityId_eq_of_linkId {p q : Port} (same : p.linkId = q.linkId) : p.entityId = q.entityId :=
  List.append_inj_right' same (p.length_entityId.trans q.length_entityId.symm)

variable [OuiRegistry]

/-- The endpoint of an active link has the id of the port. -/
theorem endpoint_map_id : p.endpoint.map (·.id) = if p.isUp then some p.entityId else none := by
  have present := p.endpoint_isSome
  cases found : p.endpoint with
  | none =>
    rw [found] at present
    rw [← present]
    rfl
  | some endpoint =>
    rw [found] at present
    rw [← present, Option.map_some, (samePlace_of_endpoint found).1, Option.isSome_some, if_pos rfl]

/-- The link leads from the switch to the endpoint. -/
theorem link_eq_some {link : NetworkLink} (found : p.link = some link) :
    p.isUp = true ∧ link.id = p.linkId ∧ link.fromDeviceId = p.switchId ∧ link.toDeviceId = p.entityId := by
  obtain ⟨a, attached, rfl⟩ := Option.map_eq_some_iff.mp found
  have endpoint : p.endpoint = some (p.finished a) := by rw [Port.endpoint, attached, Option.map_some]
  have id := (samePlace_of_endpoint endpoint).1
  dsimp only
  refine ⟨?_, ?_, rfl, id⟩
  · rw [← endpoint_isSome, endpoint, Option.isSome_some]
  · exact congrArg ("link-".toList ++ p.switchId ++ "-".toList ++ slug p.interface.port ++ "-".toList ++ ·) id

theorem link_map_id : p.link.map (·.id) = if p.isUp then some p.linkId else none := by
  cases found : p.link with
  | some link =>
    obtain ⟨up, id, -⟩ := p.link_eq_some found
    rw [if_pos up, Option.map_some, id]
  | none =>
    have down : p.endpoint = none := by
      rw [Port.endpoint, Option.map_eq_none_iff]
      exact Option.map_eq_none_iff.mp found
    have present := p.endpoint_isSome
    rw [down] at present
    rw [← present]
    rfl

end Port

/-! ## The whole topology -/

namespace BuildInput

variable {input : BuildInput}

/-- The ports whose link is up. -/
def livePorts (input : BuildInput) : List Port := input.ports.filter Port.isUp

theorem sourceNamespace_of_mem {p : Port} (here : p ∈ input.livePorts) : p.sourceNamespace = input.sourceNamespace := by
  obtain ⟨interface, -, rfl⟩ := List.mem_map.mp (List.mem_of_mem_filter here)
  rfl

/-- What the ports give, where it depends on an active link only. -/
theorem filterMap_map_eq {β γ : Type} {f : Port → Option β} {id : β → γ} {g : Port → γ}
    (live : ∀ p : Port, (f p).map id = if p.isUp then some (g p) else none) :
    (input.ports.filterMap f).map id = input.livePorts.map g := by
  rw [livePorts]
  induction input.ports with
  | nil => rfl
  | cons p ports ih =>
    have here := live p
    cases found : f p with
    | none =>
      cases up : p.isUp with
      | false => rw [List.filterMap_cons_none found, ih, List.filter_cons_of_neg (by rw [up]; exact Bool.false_ne_true)]
      | true => rw [found, up] at here; cases here
    | some b =>
      cases up : p.isUp with
      | false => rw [found, up] at here; cases here
      | true =>
        rw [found, up] at here
        rw [List.filterMap_cons_some found, List.map_cons, ih, List.filter_cons_of_pos up, List.map_cons,
          Option.some.inj here]

variable [Digest]

/-- The digests of the presences on active links do not collide. -/
def DigestsApart (input : BuildInput) : Prop :=
  ∀ p ∈ input.livePorts, ∀ q ∈ input.livePorts,
    (Digest.sha256 p.presenceText).take 16 = (Digest.sha256 q.presenceText).take 16 → p.presenceText = q.presenceText

instance (input : BuildInput) : Decidable input.DigestsApart := inferInstanceAs (Decidable (∀ p ∈ _, ∀ q ∈ _, _ → _))

/-- The ids of two active ports are those of one presence. -/
theorem entityId_eq_iff (apart : input.DigestsApart) {p q : Port} (hp : p ∈ input.livePorts) (hq : q ∈ input.livePorts) :
    p.entityId = q.entityId ↔ p.presence = q.presence := by
  rw [← Port.presenceText_inj ((sourceNamespace_of_mem hp).trans (sourceNamespace_of_mem hq).symm),
    Port.entityId_eq, Port.entityId_eq, List.append_cancel_left_eq]
  constructor
  · exact apart p hp q hq
  · intro same
    rw [same]

variable [OuiRegistry]

theorem map_id_devices : input.buildTopology.devices.map (·.id) = input.switchId :: input.livePorts.map (·.entityId) := by
  show input.switchId :: _ = _
  exact congrArg _ (filterMap_map_eq fun p => p.endpoint_map_id)

theorem map_id_links : input.buildTopology.links.map (·.id) = input.livePorts.map (·.linkId) :=
  filterMap_map_eq fun p => p.link_map_id

/-- No endpoint has the id of the switch. -/
theorem switchId_notMem : input.switchId ∉ input.livePorts.map (·.entityId) := by
  intro here
  rw [← filterMap_map_eq (fun p => p.endpoint_map_id)] at here
  obtain ⟨endpoint, there, id⟩ := List.mem_map.mp here
  exact endpoint_id_ne there id

/-- **A topology is well formed exactly if no two active ports have found the same presence.** -/
theorem wellFormed_iff (apart : input.DigestsApart) :
    WellFormed input.buildTopology ↔ (input.livePorts.map Port.presence).Nodup := by
  have ids : (input.livePorts.map (·.entityId)).Nodup ↔ (input.livePorts.map Port.presence).Nodup :=
    List.nodup_map_iff_of_eq_iff fun p hp q hq => entityId_eq_iff apart hp hq
  rw [← ids]
  constructor
  · intro formed
    have devices := formed.devices
    rw [map_id_devices] at devices
    exact (List.nodup_cons.mp devices).2
  · intro nodup
    have devices : (input.buildTopology.devices.map (·.id)).Nodup := by
      rw [map_id_devices]
      exact List.nodup_cons.mpr ⟨switchId_notMem, nodup⟩
    refine ⟨devices, ?_, ?_⟩
    · rw [map_id_links]
      unfold List.Nodup at nodup ⊢
      rw [List.pairwise_map] at nodup ⊢
      exact nodup.imp fun differ same => differ (Port.entityId_eq_of_linkId same)
    · intro link here
      obtain ⟨p, there, found⟩ := List.mem_filterMap.mp here
      obtain ⟨up, -, fromSwitch, toEndpoint⟩ := p.link_eq_some found
      have live : p ∈ input.livePorts := List.mem_filter.mpr ⟨there, up⟩
      obtain ⟨interface, -, rfl⟩ := List.mem_map.mp there
      rw [fromSwitch, toEndpoint]
      constructor
      · apply List.count_eq_one_of_mem devices
        rw [map_id_devices]
        exact List.mem_cons_self
      · apply List.count_eq_one_of_mem devices
        rw [map_id_devices]
        exact List.mem_cons_of_mem _ (List.mem_map_of_mem live)

end BuildInput

/-! ## One neighbour on two ports -/

/-- The digest of the neighbour. -/
@[reducible] def redundantDigest : Digest :=
  .ofTable [("physical|neighbor|core|192.0.2.1", "8033618b36d74de8be8cc6b977280311ed70d050dc3b1f3c81a696d12be2447a")]
    (by decide) fun _ _ => []

@[reducible] def emptyRegistry : OuiRegistry := ⟨fun _ => none⟩

/-- A switch that is connected to the switch `core` by two cables. -/
def redundant : BuildInput where
  hostname := "edge"
  model := "WS-C3560CG-8PC-S"
  managementIp := "192.0.2.10"
  interfaces := ["Gi0/9", "Gi0/10"].map fun port =>
    { port := port.toList, name := "", status := "connected", vlan := "trunk", duplex := "a-full"
      speed := "a-1000", type := "10/100/1000BaseTX" }
  macEntries := []
  cdpNeighbors := ["Gi0/9", "Gi0/10"].map fun port =>
    { remoteName := "core", localInterface := port.toList, ip := some "192.0.2.1" }
  observedAt := 0

theorem wellFormed_iff_redundant :
    WellFormed (@BuildInput.buildTopology redundant redundantDigest emptyRegistry) ↔
      (redundant.livePorts.map Port.presence).Nodup :=
  @BuildInput.wellFormed_iff redundant redundantDigest emptyRegistry (by decide +kernel)

theorem not_wellFormed_redundant : ∃ (digest : Digest) (registry : OuiRegistry), ¬∀ input : BuildInput,
    @BuildInput.DigestsApart digest input → WellFormed (@BuildInput.buildTopology input digest registry) := by
  refine ⟨redundantDigest, emptyRegistry, fun claimed => ?_⟩
  have devices := (claimed redundant (by decide +kernel)).devices
  revert devices
  decide +kernel

end SwitchOps.Topology
