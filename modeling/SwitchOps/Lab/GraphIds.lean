import SwitchOps.Lab.Graph

/-!
# The ids of the lab graph

An id is a digest of a key: a few texts, trimmed, in lower case and joined by bars. Devices are added only if their
id is new, endpoints aside, and cables likewise, but all other edges are added unchecked. The routing adjacencies of a
device with one peer have one key, whatever interfaces they use, so they share an id. `uniqueAndClosed_iff` says
which observations give a graph with unique ids; that every edge ends at devices of the graph holds always.
-/

namespace SwitchOps

/-! ## Keys -/

/-- A part of a key, as it is digested. -/
def readPart (part : Text) : Text := Text.casefold part.strip

/-- A key, as it is digested. -/
def reading (key : List Text) : Text := Text.join "|" (key.map readPart)

theorem labToken_eq [Digest] (key : List Text) : labToken key = (Digest.sha256 (reading key)).take 16 := rfl

theorem reading_singleton (a : Text) : reading [a] = readPart a := by
  simp [reading, Text.join]

theorem reading_cons_cons (a b : Text) (key : List Text) :
    reading (a :: b :: key) = readPart a ++ '|' :: reading (b :: key) := by
  simp [reading, Text.join, List.intercalate_cons_cons]

/-- A character of the ids that are made here: it is read as it is. -/
def IsIdChar (c : Char) : Prop := '0' ≤ c ∧ c ≤ '9' ∨ 'a' ≤ c ∧ c ≤ 'z' ∨ c = '-'

instance (c : Char) : Decidable (IsIdChar c) := inferInstanceAs (Decidable (_ ∨ _))

theorem IsIdChar.toNat {c : Char} (h : IsIdChar c) :
    48 ≤ c.toNat ∧ c.toNat ≤ 57 ∨ 97 ≤ c.toNat ∧ c.toNat ≤ 122 ∨ c.toNat = 45 := by
  rcases h with ⟨low, high⟩ | ⟨low, high⟩ | rfl
  · exact .inl ⟨low, high⟩
  · exact .inr (.inl ⟨low, high⟩)
  · exact .inr (.inr rfl)

theorem IsIdChar.casefoldChar {c : Char} (h : IsIdChar c) : Text.casefoldChar c = [c] := by
  have range := h.toNat
  rw [Text.casefoldChar, if_pos (by omega), Text.lowerChar, if_pos (by omega), if_neg]
  rw [Bool.and_eq_true, decide_eq_true_eq, decide_eq_true_eq]
  omega

theorem IsIdChar.isSpace {c : Char} (h : IsIdChar c) : Text.isSpace c = false := by
  have range := h.toNat
  have blank : c ≠ ' ' := by
    rintro rfl
    revert range
    decide
  rw [Text.isSpace, if_pos (by omega)]
  simp only [beq_eq_false_iff_ne.mpr blank, Bool.false_or, Bool.or_eq_false_iff, Bool.and_eq_false_iff,
    decide_eq_false_iff_not]
  omega

theorem IsIdChar.ne_bar {c : Char} (h : IsIdChar c) : c ≠ '|' := by
  rintro rfl
  exact absurd h (by decide)

theorem readPart_eq_self {part : Text} (h : ∀ c ∈ part, IsIdChar c) : readPart part = part := by
  rw [readPart, Text.strip_eq_self fun c here => (h c here).isSpace, Text.casefold]
  rw [List.flatMap_congr fun c here => (h c here).casefoldChar, List.flatMap_singleton']

theorem bar_not_mem {part : Text} (h : ∀ c ∈ part, IsIdChar c) : '|' ∉ part := fun here => (h _ here).ne_bar rfl

section tokens

variable [Digest]

theorem isIdChar_labToken (key : List Text) : ∀ c ∈ labToken key, IsIdChar c := by
  intro c here
  have hex := Digest.isHexDigest_sha256 (reading key)
  rw [isHexDigest, Bool.and_eq_true, List.all_eq_true] at hex
  have among := hex.2 c (List.mem_of_mem_take here)
  rw [Bool.or_eq_true, Bool.and_eq_true, Bool.and_eq_true, decide_eq_true_eq, decide_eq_true_eq, decide_eq_true_eq,
    decide_eq_true_eq] at among
  rcases among with digit | letter
  · exact .inl digit
  · exact .inr (.inl ⟨letter.1, Char.le_trans letter.2 (by decide : 'f' ≤ 'z')⟩)

theorem isIdChar_append {pre : Text} (plain : ∀ c ∈ pre, IsIdChar c) (key : List Text) :
    ∀ c ∈ pre ++ labToken key, IsIdChar c := by
  intro c here
  rcases List.mem_append.mp here with first | second
  · exact plain c first
  · exact isIdChar_labToken key c second

theorem isIdChar_endpointId (port : LabPort) : ∀ c ∈ port.endpointId, IsIdChar c := isIdChar_append (by decide) _

theorem isIdChar_peerId (neighbor : RoutingNeighbor) : ∀ c ∈ neighbor.peerId, IsIdChar c :=
  isIdChar_append (by decide) _

theorem append_labToken_inj {pre : Text} {key key' : List Text} :
    pre ++ labToken key = pre ++ labToken key' ↔ labToken key = labToken key' := List.append_right_inj pre

/-! ## What is digested -/

variable (observations : List ParsedObservation)

/-- The keys of the edges that are added unchecked, for each kind of them. -/
def keysByKind : List (List (List Text)) := [
  (learningPorts observations).map (·.membershipKey),
  (labGateways observations).map fun entry => entry.1.gatewayKey entry.2,
  (labMembers observations).map fun entry => entry.1.memberKey entry.2,
  (labAdjacencies observations).map fun entry => entry.2.key entry.1.deviceId]

/-- The keys of the edges, and of the endpoints and peers. -/
def digestedKeys : List (List Text) :=
  (pendingEdges observations).map (·.key) ++ (keysByKind observations).flatten
    ++ (learningPorts observations).map (fun port => [port.id])
    ++ (labAdjacencies observations).map (fun entry => [entry.2.protocol.text, entry.2.peer])

/-- Tokens of keys that read differently are different. -/
def TokensApart : Prop :=
  ∀ key ∈ digestedKeys observations, ∀ key' ∈ digestedKeys observations,
    labToken key = labToken key' → reading key = reading key'

instance : Decidable (TokensApart observations) := by
  unfold TokensApart
  infer_instance

/-- The ids of a graph are unique, and edges end at devices. -/
structure UniqueAndClosed (graph : LabGraph) : Prop where
  devices : (graph.devices.map (·.id)).Nodup
  edges : (graph.edges.map (·.id)).Nodup
  closed : ∀ edge ∈ graph.edges, edge.kind ≠ .portChannelMember →
    edge.fromNodeId ∈ graph.devices.map (·.id) ∧ edge.toNodeId ∈ graph.devices.map (·.id)

/-- The observations give every edge and every endpoint a key of its own. -/
structure KeysApart : Prop where
  /-- The ids of the ports that learn addresses differ in more than case. -/
  ports : ((learningPorts observations).map fun port => readPart port.id).Nodup
  /-- No collected device has the id of an endpoint. -/
  endpoints : ∀ port ∈ learningPorts observations, ∀ observation ∈ observations, observation.deviceId ≠ port.endpointId
  /-- No device has two adjacencies of a protocol to one peer. -/
  adjacencies : ((labAdjacencies observations).map fun entry =>
    (readPart entry.1.deviceId, entry.2.protocol, readPart entry.2.peer)).Nodup
  /-- No port channel lists a member twice. -/
  members : ((labMembers observations).map fun entry => reading (entry.1.memberKey entry.2)).Nodup
  gateways : ((labGateways observations).map fun entry => reading (entry.1.gatewayKey entry.2)).Nodup
  /-- Keys of different kinds read differently. -/
  kinds : ((keysByKind observations).map (·.map reading)).Pairwise List.Disjoint
  cables : ∀ cable ∈ pendingEdges observations, ∀ key ∈ (keysByKind observations).flatten,
    reading cable.key ≠ reading key

variable {observations}

theorem labToken_eq_iff (apart : TokensApart observations) {key key' : List Text} (known : key ∈ digestedKeys observations)
    (known' : key' ∈ digestedKeys observations) : labToken key = labToken key' ↔ reading key = reading key' := by
  constructor
  · exact apart key known key' known'
  · intro same
    rw [labToken_eq, labToken_eq, same]

theorem mem_digestedKeys {key : List Text} : key ∈ digestedKeys observations ↔
    ((∃ cable ∈ pendingEdges observations, cable.key = key) ∨ key ∈ (keysByKind observations).flatten) ∨
      (∃ port ∈ learningPorts observations, [port.id] = key) ∨
        ∃ entry ∈ labAdjacencies observations, [entry.2.protocol.text, entry.2.peer] = key := by
  simp only [digestedKeys, List.mem_append, List.mem_map, or_assoc]

end tokens

/-! ## Keys that are read back -/

section keys

variable [Digest]

/-- The key of a membership is the port's. -/
theorem reading_membershipKey_eq_iff {port port' : LabPort} :
    reading port.membershipKey = reading port'.membershipKey ↔ readPart port.id = readPart port'.id := by
  have read (port : LabPort) : reading port.membershipKey = readPart port.id ++ '|' :: port.endpointId := by
    rw [LabPort.membershipKey, reading_cons_cons, reading_singleton, readPart_eq_self (isIdChar_endpointId port)]
  rw [read, read]
  constructor
  · intro same
    exact (Text.append_cons_inj_last (bar_not_mem (isIdChar_endpointId port)) (bar_not_mem (isIdChar_endpointId port'))
      same).1
  · intro same
    have token : port.endpointId = port'.endpointId := by
      refine append_labToken_inj.mpr ?_
      rw [labToken_eq, labToken_eq, reading_singleton, reading_singleton, same]
    rw [same, token]

omit [Digest] in
theorem readPart_protocol (protocol : RoutingProtocol) :
    '|' ∉ readPart protocol.text ∧ ∀ other : RoutingProtocol, readPart protocol.text = readPart other.text →
      protocol = other := by
  constructor
  · cases protocol <;> decide
  · intro other same
    cases protocol <;> cases other <;> first | rfl | (revert same; decide)

/-- What the keys of two adjacencies have in common: the device, the protocol and the peer. -/
theorem reading_key_eq_iff {observations : List ParsedObservation} (apart : TokensApart observations)
    {a b : ParsedObservation × RoutingNeighbor} (ha : a ∈ labAdjacencies observations)
    (hb : b ∈ labAdjacencies observations) : reading (a.2.key a.1.deviceId) = reading (b.2.key b.1.deviceId) ↔
      (readPart a.1.deviceId, a.2.protocol, readPart a.2.peer) = (readPart b.1.deviceId, b.2.protocol, readPart b.2.peer) := by
  have read (entry : ParsedObservation × RoutingNeighbor) : reading (entry.2.key entry.1.deviceId) =
      (readPart entry.1.deviceId ++ '|' :: entry.2.peerId) ++ '|' :: readPart entry.2.protocol.text := by
    rw [RoutingNeighbor.key, reading_cons_cons, reading_cons_cons, reading_singleton,
      readPart_eq_self (isIdChar_peerId entry.2), List.append_assoc, List.cons_append]
  have peer (entry : ParsedObservation × RoutingNeighbor) (here : entry ∈ labAdjacencies observations) :
      [entry.2.protocol.text, entry.2.peer] ∈ digestedKeys observations :=
    mem_digestedKeys.mpr (.inr (.inr ⟨entry, here, rfl⟩))
  have peers : a.2.peerId = b.2.peerId ↔
      reading [a.2.protocol.text, a.2.peer] = reading [b.2.protocol.text, b.2.peer] :=
    append_labToken_inj.trans (labToken_eq_iff apart (peer a ha) (peer b hb))
  rw [read, read, Prod.mk.injEq, Prod.mk.injEq]
  constructor
  · intro same
    obtain ⟨before, protocol⟩ := Text.append_cons_inj_last (readPart_protocol _).1 (readPart_protocol _).1 same
    obtain ⟨device, peerId⟩ := Text.append_cons_inj_last (bar_not_mem (isIdChar_peerId a.2))
      (bar_not_mem (isIdChar_peerId b.2)) before
    have digested := peers.mp peerId
    rw [reading_cons_cons, reading_cons_cons, reading_singleton, reading_singleton] at digested
    exact ⟨device, (readPart_protocol _).2 _ protocol,
      (Text.append_cons_inj (readPart_protocol _).1 (readPart_protocol _).1 digested).2⟩
  · rintro ⟨device, protocol, peer⟩
    have same : a.2.peerId = b.2.peerId := by
      rw [peers, reading_cons_cons, reading_cons_cons, reading_singleton, reading_singleton, protocol, peer]
    rw [device, protocol, same]

end keys

/-! ## Unique ids -/

section graph

variable [Digest] {observations : List ParsedObservation}

/-- The ids of the announced devices: those of the collected ones, and ids that no endpoint has. -/
theorem mem_announced {observations : List ParsedObservation} {deviceId : Text} (here : deviceId ∈ (Fresh.addAll (·.id)
    (observations.map (·.device)) (observations.flatMap fun observation => observation.discovered observations)).map
      (·.id)) : deviceId ∈ observations.map (·.deviceId) ∨ ∃ key, deviceId = "discovered-" ++ labToken key := by
  rcases Fresh.mem_keys_addAll.mp here with collected | discovered
  · rw [List.map_map] at collected
    exact .inl collected
  · obtain ⟨device, known, rfl⟩ := List.mem_map.mp discovered
    obtain ⟨observation, -, announced⟩ := List.mem_flatMap.mp known
    obtain ⟨group, -, rfl⟩ := List.mem_map.mp announced
    exact .inr ⟨_, rfl⟩

theorem nodup_devices_iff (distinct : (observations.map (·.deviceId)).Nodup) (apart : TokensApart observations) :
    ((graphDevices observations).map (·.id)).Nodup ↔
      ((learningPorts observations).map fun port => readPart port.id).Nodup ∧
        ∀ port ∈ learningPorts observations, ∀ observation ∈ observations, observation.deviceId ≠ port.endpointId := by
  have digested (port : LabPort) (here : port ∈ learningPorts observations) : [port.id] ∈ digestedKeys observations :=
    mem_digestedKeys.mpr (.inr (.inl ⟨port, here, rfl⟩))
  have endpoints : ((learningPorts observations).map fun port => port.endpointId).Nodup ↔
      ((learningPorts observations).map fun port => readPart port.id).Nodup := by
    refine List.nodup_map_iff_of_eq_iff fun port here port' there => ?_
    refine append_labToken_inj.trans ((labToken_eq_iff apart (digested port here) (digested port' there)).trans ?_)
    rw [reading_singleton, reading_singleton]
  unfold graphDevices
  dsimp only
  rw [Fresh.nodup_addAll_iff, Fresh.nodup_addAll_iff, List.map_append, List.nodup_append', Fresh.nodup_addAll_iff,
    List.map_map, List.map_map, ← endpoints]
  constructor
  · rintro ⟨-, unique, disjoint⟩
    refine ⟨unique, fun port here observation there same => ?_⟩
    refine disjoint ?_ (List.mem_map_of_mem here)
    refine Fresh.mem_keys_addAll.mpr (.inl ?_)
    rw [List.map_map]
    exact List.mem_map.mpr ⟨observation, there, same⟩
  · rintro ⟨unique, strangers⟩
    refine ⟨distinct, unique, ?_⟩
    intro deviceId announced learned
    obtain ⟨port, here, rfl⟩ := List.mem_map.mp learned
    rcases mem_announced announced with collected | ⟨key, discovered⟩
    · obtain ⟨observation, there, same⟩ := List.mem_map.mp collected
      exact strangers port here observation there same
    · -- the ids begin with different letters
      have first : ("endpoint-".toList ++ labToken [port.id]).take 1 = ("discovered-".toList ++ labToken key).take 1 :=
        congrArg (List.take 1) discovered
      rw [List.take_append_of_le_length (by decide), List.take_append_of_le_length (by decide)] at first
      exact absurd first (by decide)

theorem map_id_uncheckedEdges :
    (uncheckedEdges observations).map (·.id) = (keysByKind observations).flatten.map fun key => "edge-" ++ labToken key := by
  simp only [uncheckedEdges, keysByKind, List.map_append, List.map_map, List.flatten_cons, List.flatten_nil,
    List.append_nil, List.append_assoc]
  rfl

theorem mem_physicalEdges_id {edgeId : Text} : edgeId ∈ (physicalEdges (pendingEdges observations)).map (·.id) ↔
    ∃ cable ∈ pendingEdges observations, "edge-" ++ labToken cable.key = edgeId := by
  rw [physicalEdges, Fresh.mem_keys_addAll, List.map_map]
  constructor
  · rintro (none | some_)
    · cases none
    · exact List.mem_map.mp some_
  · exact fun some_ => .inr (List.mem_map.mpr some_)

theorem nodup_edges_iff (apart : TokensApart observations) :
    ((labGraph observations).edges.map (·.id)).Nodup ↔
      ((keysByKind observations).flatten.map reading).Nodup ∧
        ∀ cable ∈ pendingEdges observations, ∀ key ∈ (keysByKind observations).flatten,
          reading cable.key ≠ reading key := by
  have cable (edge : PendingEdge) (here : edge ∈ pendingEdges observations) : edge.key ∈ digestedKeys observations :=
    mem_digestedKeys.mpr (.inl (.inl ⟨edge, here, rfl⟩))
  have other (key : List Text) (here : key ∈ (keysByKind observations).flatten) : key ∈ digestedKeys observations :=
    mem_digestedKeys.mpr (.inl (.inr here))
  have unchecked : ((keysByKind observations).flatten.map fun key => "edge-" ++ labToken key).Nodup ↔
      ((keysByKind observations).flatten.map reading).Nodup :=
    List.nodup_map_iff_of_eq_iff fun key here key' there =>
      append_labToken_inj.trans (labToken_eq_iff apart (other key here) (other key' there))
  have checked : ((physicalEdges (pendingEdges observations)).map (·.id)).Nodup := by
    rw [physicalEdges, Fresh.nodup_addAll_iff]
    exact List.nodup_nil
  rw [labGraph, List.map_append, List.nodup_append', map_id_uncheckedEdges, unchecked]
  constructor
  · rintro ⟨-, unique, disjoint⟩
    refine ⟨unique, fun edge here key there same => ?_⟩
    refine disjoint (mem_physicalEdges_id.mpr ⟨edge, here, rfl⟩) (List.mem_map.mpr ⟨key, there, ?_⟩)
    exact append_labToken_inj.mpr ((labToken_eq_iff apart (other key there) (cable edge here)).mpr same.symm)
  · rintro ⟨unique, differ⟩
    refine ⟨checked, unique, ?_⟩
    intro edgeId physical known
    obtain ⟨edge, here, rfl⟩ := mem_physicalEdges_id.mp physical
    obtain ⟨key, there, same⟩ := List.mem_map.mp known
    have token := append_labToken_inj.mp same
    exact differ edge here key there ((labToken_eq_iff apart (other key there) (cable edge here)).mp token).symm

theorem nodup_readings_iff (apart : TokensApart observations) :
    ((keysByKind observations).flatten.map reading).Nodup ↔
      ((learningPorts observations).map fun port => readPart port.id).Nodup ∧
      ((labGateways observations).map fun entry => reading (entry.1.gatewayKey entry.2)).Nodup ∧
      ((labMembers observations).map fun entry => reading (entry.1.memberKey entry.2)).Nodup ∧
      ((labAdjacencies observations).map fun entry =>
        (readPart entry.1.deviceId, entry.2.protocol, readPart entry.2.peer)).Nodup ∧
      ((keysByKind observations).map (·.map reading)).Pairwise List.Disjoint := by
  have ports : ((learningPorts observations).map fun port => reading port.membershipKey).Nodup ↔
      ((learningPorts observations).map fun port => readPart port.id).Nodup :=
    List.nodup_map_iff_of_eq_iff fun _ _ _ _ => reading_membershipKey_eq_iff
  have adjacencies : ((labAdjacencies observations).map fun entry => reading (entry.2.key entry.1.deviceId)).Nodup ↔
      ((labAdjacencies observations).map fun entry =>
        (readPart entry.1.deviceId, entry.2.protocol, readPart entry.2.peer)).Nodup :=
    List.nodup_map_iff_of_eq_iff fun _ here _ there => reading_key_eq_iff apart here there
  rw [List.map_flatten, List.nodup_flatten, ← ports, ← adjacencies]
  simp only [keysByKind, List.map_cons, List.map_nil, List.forall_mem_cons, List.map_map, List.not_mem_nil,
    false_imp_iff, implies_true, and_true, and_assoc]
  rfl

/-! ## Ends of edges -/

theorem mem_graphDevices_of_collected {observation : ParsedObservation} (here : observation ∈ observations) :
    observation.deviceId ∈ (graphDevices observations).map (·.id) := by
  refine Fresh.mem_keys_addAll.mpr (.inl (Fresh.mem_keys_addAll.mpr (.inl ?_)))
  rw [List.map_append, List.mem_append]
  refine .inl (Fresh.mem_keys_addAll.mpr (.inl ?_))
  rw [List.map_map]
  exact List.mem_map.mpr ⟨observation, here, rfl⟩

omit [Digest] in
theorem mem_hostnameToDevice {entry : Text × Text} (here : entry ∈ hostnameToDevice observations) :
    entry.2 ∈ observations.map (·.deviceId) := by
  rw [hostnameToDevice_eq] at here
  obtain ⟨observation, known, rfl⟩ := List.mem_map.mp (Dict.mem_ofList here)
  exact List.mem_map_of_mem known

/-- A cable leads to a collected device, or to one that was announced. -/
theorem mem_graphDevices_of_pending {cable : PendingEdge} (here : cable ∈ pendingEdges observations) :
    cable.source ∈ (graphDevices observations).map (·.id) ∧ cable.target ∈ (graphDevices observations).map (·.id) := by
  obtain ⟨observation, known, pending⟩ := List.mem_flatMap.mp here
  obtain ⟨group, among, rfl⟩ := List.mem_map.mp pending
  refine ⟨mem_graphDevices_of_collected known, ?_⟩
  show neighborId observations group.neighbor ∈ (graphDevices observations).map (·.id)
  rw [neighborId]
  cases merged : mergedInto observations group.neighbor.remoteName with
  | some deviceId =>
    obtain ⟨other, there, rfl⟩ := List.mem_map.mp (mem_hostnameToDevice (Dict.mem_of_get? merged))
    exact mem_graphDevices_of_collected there
  | none =>
    refine Fresh.mem_keys_addAll.mpr (.inl (Fresh.mem_keys_addAll.mpr (.inl ?_)))
    rw [List.map_append, List.mem_append]
    refine .inl (Fresh.mem_keys_addAll.mpr (.inr (List.mem_map.mpr ⟨group.device observation.deviceId, ?_, rfl⟩)))
    refine List.mem_flatMap.mpr ⟨observation, known, List.mem_map_of_mem (List.mem_filter.mpr ⟨among, ?_⟩)⟩
    simp [merged]

theorem mem_graphDevices_of_learning {port : LabPort} (here : port ∈ learningPorts observations) :
    port.deviceId ∈ (graphDevices observations).map (·.id) ∧ port.endpointId ∈ (graphDevices observations).map (·.id) := by
  constructor
  · obtain ⟨observation, known, mine⟩ := List.mem_flatMap.mp (List.mem_of_mem_filter here)
    obtain ⟨row, -, rfl⟩ := List.mem_map.mp mine
    exact mem_graphDevices_of_collected known
  · refine Fresh.mem_keys_addAll.mpr (.inl (Fresh.mem_keys_addAll.mpr (.inl ?_)))
    rw [List.map_append, List.mem_append, List.map_map]
    exact .inr (List.mem_map.mpr ⟨port, here, rfl⟩)

theorem mem_graphDevices_of_gateway {entry : ParsedObservation × Text} (here : entry ∈ labGateways observations) :
    entry.1.deviceId ∈ (graphDevices observations).map (·.id) ∧
      entry.1.gatewayId entry.2 ∈ (graphDevices observations).map (·.id) := by
  constructor
  · obtain ⟨observation, known, mine⟩ := List.mem_filterMap.mp here
    obtain ⟨gateway, -, rfl⟩ := Option.map_eq_some_iff.mp mine
    exact mem_graphDevices_of_collected known
  · refine Fresh.mem_keys_addAll.mpr (.inl (Fresh.mem_keys_addAll.mpr (.inr ?_)))
    rw [List.map_map]
    exact List.mem_map.mpr ⟨entry, here, rfl⟩

theorem mem_graphDevices_of_adjacency {entry : ParsedObservation × RoutingNeighbor}
    (here : entry ∈ labAdjacencies observations) : entry.1.deviceId ∈ (graphDevices observations).map (·.id) ∧
      entry.2.peerId ∈ (graphDevices observations).map (·.id) := by
  constructor
  · obtain ⟨observation, known, mine⟩ := List.mem_flatMap.mp here
    obtain ⟨neighbor, -, rfl⟩ := List.mem_map.mp mine
    exact mem_graphDevices_of_collected known
  · refine Fresh.mem_keys_addAll.mpr (.inr ?_)
    rw [List.map_map]
    exact List.mem_map.mpr ⟨entry, here, rfl⟩

/-- Every edge but the memberships in port channels ends at devices of the graph. -/
theorem closed_labGraph {edge : LabEdge} (here : edge ∈ (labGraph observations).edges)
    (kind : edge.kind ≠ .portChannelMember) :
    edge.fromNodeId ∈ (graphDevices observations).map (·.id) ∧ edge.toNodeId ∈ (graphDevices observations).map (·.id) := by
  rcases List.mem_append.mp here with physical | unchecked
  · rcases Fresh.mem_of_mem_addAll physical with none | some_
    · cases none
    · obtain ⟨cable, known, rfl⟩ := List.mem_map.mp some_
      exact mem_graphDevices_of_pending known
  · simp only [uncheckedEdges, List.mem_append, List.mem_map] at unchecked
    rcases unchecked with ((⟨port, known, rfl⟩ | ⟨entry, known, rfl⟩) | ⟨entry, known, rfl⟩) | ⟨entry, known, rfl⟩
    · exact mem_graphDevices_of_learning known
    · exact mem_graphDevices_of_gateway known
    · exact absurd rfl kind
    · exact mem_graphDevices_of_adjacency known

/-- **Unique ids**: they are unique just if no two edges or endpoints have keys that read alike; the graph is closed
always. -/
theorem uniqueAndClosed_iff {observations : List ParsedObservation}
    (distinct : (observations.map (·.deviceId)).Nodup) (apart : TokensApart observations) :
    UniqueAndClosed (labGraph observations) ↔ KeysApart observations := by
  have devices := nodup_devices_iff distinct apart
  have edges := (nodup_edges_iff apart).trans (and_congr_left' (nodup_readings_iff apart))
  constructor
  · intro unique
    obtain ⟨ports, endpoints⟩ := devices.mp unique.devices
    obtain ⟨⟨-, gateways, members, adjacencies, kinds⟩, cables⟩ := edges.mp unique.edges
    exact ⟨ports, endpoints, adjacencies, members, gateways, kinds, cables⟩
  · intro keys
    refine ⟨devices.mpr ⟨keys.ports, keys.endpoints⟩, edges.mpr ⟨⟨keys.ports, keys.gateways, keys.members,
      keys.adjacencies, keys.kinds⟩, keys.cables⟩, fun edge here kind => closed_labGraph here kind⟩

end graph

/-! ## Two adjacencies with one peer -/

/-- The digests of a peer and of the adjacency with it. -/
@[reducible] def adjacencyDigest : Digest :=
  .ofTable [
      ("ospf|192.0.2.7", "18fc5de7d8278acaeec16990532681949e1db578cec681dc0ffc85bf7e8ee82a"),
      ("lab-1|routing-peer-18fc5de7d8278aca|ospf", "d750720ce588c52d2a3b3d776dfd962fe3caf084a80d667a65f75f151312d129")]
    (by decide) fun _ _ => []

/-- A device that is connected to an OSPF neighbour twice. -/
def doublyAdjacent : List ParsedObservation := [{
  deviceId := "lab-1"
  configuredLabel := "core"
  primary := false
  parts := { routingNeighbors := [
    { protocol := .ospf, peer := "192.0.2.7", interface := "GigabitEthernet1/0/1" },
    { protocol := .ospf, peer := "192.0.2.7", interface := "GigabitEthernet1/0/2" }] } }]

theorem uniqueAndClosed_iff_doublyAdjacent : @UniqueAndClosed (@labGraph adjacencyDigest doublyAdjacent) ↔
    @KeysApart adjacencyDigest doublyAdjacent :=
  @uniqueAndClosed_iff adjacencyDigest doublyAdjacent (by decide +kernel) (by decide +kernel)

theorem not_uniqueAndClosed_doublyAdjacent : ∃ digest : Digest, ¬∀ observations : List ParsedObservation,
    (observations.map (·.deviceId)).Nodup →
      (∀ observation ∈ observations, (observation.parts.interfaces.map (·.port)).Nodup) →
        @TokensApart digest observations → @UniqueAndClosed (@labGraph digest observations) := by
  refine ⟨adjacencyDigest, fun claimed => ?_⟩
  have unique := (claimed doublyAdjacent (by decide +kernel) (by decide +kernel) (by decide +kernel)).edges
  revert unique
  decide +kernel

end SwitchOps
