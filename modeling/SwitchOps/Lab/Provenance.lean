import SwitchOps.Lab.Findings

/-!
# Where the statements of Lab Assurance come from

Every port, edge, capability, finding, failure scenario and path names the commands that it rests on. They are commands
that are recorded as evidence, and what claims to be known rests on one, at least, whose output was observed and parsed:
`evidenced_labReport`. For what only announces a gap, and for the loss of a device that no edge joins, that need not be.
-/

namespace SwitchOps

/-! ## Parts and states -/

namespace LabDeviceObservation

variable {parsers : LabParsers} {observation : LabDeviceObservation} {symbol : ReadSymbol}

/-- Parsing changes the states of the commands whose output is not understood. -/
theorem stateOf_foldl_safeParse (raises : ParserFailures) (symbols : List ReadSymbol) :
    (symbols.foldl (safeParse raises) observation).outputs = observation.outputs ∧
      (symbols.foldl (safeParse raises) observation).stateOf symbol =
        if symbol ∈ symbols ∧ observation.stateOf symbol = .observed ∧ raises symbol observation.outputs = true
        then .parserFailed else observation.stateOf symbol := by
  induction symbols generalizing observation with
  | nil => simp
  | cons first symbols ih =>
    obtain ⟨outputs, states⟩ := @ih (observation.safeParse raises first)
    have kept : (observation.safeParse raises first).outputs = observation.outputs := by
      rw [safeParse]
      split <;> rfl
    refine ⟨outputs.trans kept, ?_⟩
    rw [List.foldl_cons, states, kept]
    by_cases same : symbol = first
    · subst same
      by_cases fails : observation.stateOf symbol = .observed ∧ raises symbol observation.outputs = true
      · have state : (observation.safeParse raises symbol).stateOf symbol = .parserFailed := by
          rw [safeParse, if_pos (by simp [fails]), stateOf, Dict.get?_set_self, Option.getD_some]
        simp [state, fails]
      · have state : observation.safeParse raises symbol = observation := by
          rw [safeParse, if_neg (by simpa using fails)]
        simp [state, fails]
    · have state : (observation.safeParse raises first).stateOf symbol = observation.stateOf symbol := by
        rw [safeParse]
        split
        · rw [stateOf, Dict.get?_set_ne _ (Ne.symm same), stateOf]
        · rfl
      simp [state, same]

theorem stateOf_parsed (raises : ParserFailures) : (observation.parsed raises).stateOf symbol =
    if symbol ∈ parsedCommands ∧ observation.stateOf symbol = .observed ∧ raises symbol observation.outputs = true
    then .parserFailed else observation.stateOf symbol :=
  (stateOf_foldl_safeParse raises parsedCommands).2

/-- What is parsed comes from an output that was observed, and that its parser understands. -/
theorem observed_of_parsedOr {α : Type} {parser : Text → Except Exn α} {fallback : α}
    (parses : parsers.raises symbol observation.outputs = !(parser (observation.outputOf symbol)).isOk)
    (value : observation.parsedOr symbol parser fallback ≠ fallback) :
    (observation.parsed parsers.raises).stateOf symbol = .observed := by
  rw [parsedOr] at value
  split at value
  · next observed =>
    cases result : parser (observation.outputOf symbol) with
    | error exn =>
      rw [result] at value
      exact absurd rfl value
    | ok found =>
      rw [result] at parses
      rw [stateOf_parsed, if_neg, observed]
      rintro ⟨-, -, raised⟩
      rw [parses] at raised
      cases raised
  · exact absurd rfl value

end LabDeviceObservation

/-- What a parsed observation has was observed. -/
structure ParsedObservation.Grounded (observation : ParsedObservation) : Prop where
  interfaces : observation.parts.interfaces ≠ [] → observation.stateOf .showInterfacesStatus = .observed
  macs : observation.parts.macs ≠ [] → observation.stateOf .showMacAddressTable = .observed
  neighbors : ∀ neighbor ∈ observation.discoveries, observation.stateOf neighbor.symbol = .observed
  etherchannels : observation.parts.etherchannels ≠ [] → observation.stateOf .showEtherchannelSummary = .observed
  gateway : observation.gatewayAddress.isSome →
    observation.stateOf .showRunningConfig = .observed ∨ observation.stateOf .showIpRoute = .observed
  routing : ∀ neighbor ∈ observation.parts.routingNeighbors, observation.stateOf neighbor.protocol.symbol = .observed

/-- So was what only the findings read. -/
structure SurveyedObservation.Grounded (observation : SurveyedObservation) : Prop where
  parts : observation.toParsedObservation.Grounded
  features : observation.features ≠ [] → observation.stateOf .showRunningConfig = .observed
  configPorts : observation.configPorts ≠ [] → observation.stateOf .showRunningConfig = .observed
  poe : observation.poeBudget ≠ none → observation.stateOf .showPowerInline = .observed
  roots : observation.localRoots ≠ [] → observation.stateOf .showSpanningTree = .observed

namespace LabDeviceObservation

variable (parsers : LabParsers) (observation : LabDeviceObservation)

theorem stateOf_surveyed (symbol : ReadSymbol) :
    (observation.surveyed parsers).stateOf symbol = (observation.parsed parsers.raises).stateOf symbol := by
  rw [surveyed]

theorem isOk_map {α β : Type} (f : α → β) (result : Except Exn α) : (result.map f).isOk = result.isOk := by
  cases result <;> rfl

theorem config_surveyed (some_ : observation.parsedOr .showRunningConfig parsers.config {} ≠ {}) :
    (observation.surveyed parsers).stateOf .showRunningConfig = .observed := by
  rw [stateOf_surveyed]
  exact observed_of_parsedOr rfl some_

/-- A default gateway is that of the configuration, or of the routing table. -/
theorem gateway_surveyed (some_ : (observation.surveyed parsers).gatewayAddress.isSome) :
    (observation.surveyed parsers).stateOf .showRunningConfig = .observed ∨
      (observation.surveyed parsers).stateOf .showIpRoute = .observed := by
  rw [ParsedObservation.gatewayAddress, Option.isSome_or, Bool.or_eq_true] at some_
  rcases some_ with configured | routed
  · refine .inl (config_surveyed parsers observation fun blank => ?_)
    have absent : (observation.surveyed parsers).parts.gateway = none := congrArg LabConfig.gateway blank
    rw [absent] at configured
    cases configured
  · right
    rw [stateOf_surveyed]
    refine @observed_of_parsedOr _ _ _ _ parsers.defaultRoute none rfl fun blank => ?_
    have absent : (observation.surveyed parsers).parts.nextHop = none := blank
    rw [absent] at routed
    cases routed

theorem neighbors_surveyed {neighbor : LabNeighbor} (here : neighbor ∈ (observation.surveyed parsers).discoveries) :
    (observation.surveyed parsers).stateOf neighbor.symbol = .observed := by
  rw [stateOf_surveyed]
  rcases List.mem_append.mp here with here | here
  · obtain ⟨row, some_, rfl⟩ := List.mem_map.mp here
    exact @observed_of_parsedOr _ _ _ _ parsers.cdp [] rfl (List.ne_nil_of_mem some_)
  · obtain ⟨row, some_, rfl⟩ := List.mem_map.mp here
    exact @observed_of_parsedOr _ _ _ _ (fun detail => parsers.lldp detail (observation.outputOf .showLldpNeighbors)) []
      rfl (List.ne_nil_of_mem some_)

theorem routing_surveyed {neighbor : RoutingNeighbor}
    (here : neighbor ∈ (observation.surveyed parsers).parts.routingNeighbors) :
    (observation.surveyed parsers).stateOf neighbor.protocol.symbol = .observed := by
  rw [stateOf_surveyed]
  obtain ⟨protocol, -, mine⟩ := List.mem_flatMap.mp here
  obtain ⟨row, some_, rfl⟩ := List.mem_map.mp mine
  refine @observed_of_parsedOr _ _ _ _ (parsers.routing protocol) [] ?_ (List.ne_nil_of_mem some_)
  cases protocol <;> rfl

theorem grounded_surveyed : (observation.surveyed parsers).Grounded where
  parts := {
    interfaces := by
      intro some_
      rw [stateOf_surveyed]
      exact @observed_of_parsedOr _ _ _ _ parsers.interfaces [] rfl some_
    macs := by
      intro some_
      rw [stateOf_surveyed]
      exact @observed_of_parsedOr _ _ _ _ parsers.macs [] rfl some_
    neighbors := fun _ here => neighbors_surveyed parsers observation here
    etherchannels := by
      intro some_
      rw [stateOf_surveyed]
      exact @observed_of_parsedOr _ _ _ _ parsers.etherchannels [] rfl some_
    gateway := gateway_surveyed parsers observation
    routing := fun _ here => routing_surveyed parsers observation here }
  features some_ := config_surveyed parsers observation fun blank => some_ (congrArg LabConfig.features blank)
  configPorts some_ := config_surveyed parsers observation fun blank => some_ (congrArg LabConfig.interfaces blank)
  poe := by
    intro some_
    rw [stateOf_surveyed]
    refine @observed_of_parsedOr _ _ _ _ (fun text => (parsers.poe text).map some) none ?_ some_
    rw [isOk_map]
    rfl
  roots := by
    intro some_
    rw [stateOf_surveyed]
    exact @observed_of_parsedOr _ _ _ _ parsers.stp [] rfl some_

end LabDeviceObservation

/-! ## Records -/

/-- Every id is that of a record. -/
def Cites (evidence : List LabEvidence) (ids : List Text) : Prop := ∀ id ∈ ids, ∃ record ∈ evidence, record.id = id

/-- The ids are those of records, one of which is of an output that was observed. -/
structure Backed (evidence : List LabEvidence) (ids : List Text) : Prop where
  cites : Cites evidence ids
  observed : ∃ record ∈ evidence, record.id ∈ ids ∧ record.kind = "OBSERVED"

section records

variable {evidence : List LabEvidence} {ids ids' : List Text}

theorem cites_append : Cites evidence (ids ++ ids') ↔ Cites evidence ids ∧ Cites evidence ids' :=
  List.forall_mem_append

theorem cites_flatMap {α : Type} {items : List α} {idsOf : α → List Text}
    (h : ∀ item ∈ items, Cites evidence (idsOf item)) : Cites evidence (items.flatMap idsOf) := by
  intro id here
  obtain ⟨item, among, mine⟩ := List.mem_flatMap.mp here
  exact h item among id mine

theorem Cites.sortedSet (h : Cites evidence ids) : Cites evidence (Text.sortedSet ids) :=
  fun id here => h id (Text.mem_sortedSet.mp here)

/-- More ids are backed as well, if they are of records. -/
theorem Backed.of_subset (h : Backed evidence ids) (cites : Cites evidence ids') (more : ids ⊆ ids') :
    Backed evidence ids' := by
  obtain ⟨record, here, among, kind⟩ := h.observed
  exact ⟨cites, record, here, more among, kind⟩

theorem Backed.sortedSet (h : Backed evidence ids) : Backed evidence (Text.sortedSet ids) :=
  h.of_subset h.cites.sortedSet fun _ here => Text.mem_sortedSet.mpr here

theorem Backed.append (h : Backed evidence ids) (cites : Cites evidence ids') : Backed evidence (ids ++ ids') :=
  h.of_subset (cites_append.mpr ⟨h.cites, cites⟩) (List.subset_append_left ids ids')

/-- Some ids among all are backed. -/
theorem backed_flatMap {α : Type} {items : List α} {idsOf : α → List Text}
    (h : ∀ item ∈ items, Backed evidence (idsOf item)) (some_ : items ≠ []) :
    Backed evidence (items.flatMap idsOf) := by
  obtain ⟨item, here⟩ := List.exists_mem_of_ne_nil items some_
  refine (h item here).of_subset (cites_flatMap fun other there => (h other there).cites) ?_
  intro id mine
  exact List.mem_flatMap.mpr ⟨item, here, mine⟩

variable [Digest] {observation : LabDeviceObservation} {symbols : List ReadSymbol} {symbol : ReadSymbol}

/-- Every command has a record, which says what became of it. -/
theorem exists_commandRecord (covered : observation.evidence ⊆ evidence) (known : symbol ∈ labCommands) :
    ∃ record ∈ evidence, record.id = evidenceId observation.deviceId symbol ∧
      record.kind = (observation.stateOf symbol).kind :=
  ⟨_, covered (List.mem_map_of_mem known), rfl, rfl⟩

theorem cites_evidenceIds (covered : observation.evidence ⊆ evidence) (known : ∀ symbol ∈ symbols, symbol ∈ labCommands) :
    Cites evidence (symbols.map (evidenceId observation.deviceId)) := by
  intro id here
  obtain ⟨symbol, among, rfl⟩ := List.mem_map.mp here
  obtain ⟨record, there, same, -⟩ := exists_commandRecord covered (known symbol among)
  exact ⟨record, there, same⟩

theorem backed_evidenceIds (covered : observation.evidence ⊆ evidence)
    (known : ∀ symbol ∈ symbols, symbol ∈ labCommands) (here : symbol ∈ symbols)
    (observed : observation.stateOf symbol = .observed) :
    Backed evidence (symbols.map (evidenceId observation.deviceId)) := by
  obtain ⟨record, there, same, kind⟩ := exists_commandRecord covered (known symbol here)
  refine ⟨cites_evidenceIds covered known, record, there, ?_, ?_⟩
  · rw [same]
    exact List.mem_map_of_mem here
  · rw [kind, observed]
    rfl

theorem backed_evidenceId (covered : observation.evidence ⊆ evidence) (known : symbol ∈ labCommands)
    (observed : observation.stateOf symbol = .observed) : Backed evidence [evidenceId observation.deviceId symbol] :=
  @backed_evidenceIds _ _ _ [symbol] symbol covered (List.forall_mem_singleton.mpr known) List.mem_cons_self observed

end records

/-! ## The graph -/

theorem LabNeighbor.symbol_mem (neighbor : LabNeighbor) : neighbor.symbol ∈ labCommands := by
  cases neighbor with
  | cdp => exact (by decide : ReadSymbol.showCdpNeighborsDetail ∈ labCommands)
  | lldp => exact (by decide : ReadSymbol.showLldpNeighborsDetail ∈ labCommands)

theorem RoutingProtocol.symbol_mem (protocol : RoutingProtocol) : protocol.symbol ∈ labCommands := by
  cases protocol <;> decide

theorem ParsedObservation.mem_discoveries {observation : ParsedObservation} {group : NeighborGroup}
    (here : group ∈ observation.grouped) {row : LabNeighbor} (among : row ∈ group.rows) :
    row ∈ observation.discoveries := by
  obtain ⟨⟨key, rows⟩, listed, kept⟩ := List.mem_filterMap.mp here
  have all := (Dict.mem_groupBy.mp listed).1
  cases rows with
  | nil => cases kept
  | cons neighbor others =>
    cases kept
    have mine : row ∈ neighbor :: others := among
    rw [all] at mine
    exact List.mem_of_mem_filter mine

section graph

variable [Digest] {evidence : List LabEvidence} {observations : List ParsedObservation}
  (covered : ∀ observation ∈ observations, observation.evidence ⊆ evidence)
  (grounded : ∀ observation ∈ observations, observation.Grounded)

include covered grounded

theorem backed_rows {observation : ParsedObservation} (among : observation ∈ observations) {group : NeighborGroup}
    (here : group ∈ observation.grouped) :
    Backed evidence (group.rows.map fun row => evidenceId observation.deviceId row.symbol) := by
  have symbols : group.rows.map (fun row => evidenceId observation.deviceId row.symbol) =
      (group.rows.map (·.symbol)).map (evidenceId observation.deviceId) := by
    rw [List.map_map]
    rfl
  have first : group.neighbor ∈ group.rows := List.mem_cons_self
  rw [symbols]
  refine backed_evidenceIds (covered observation among) ?_ (List.mem_map_of_mem first)
    ((grounded observation among).neighbors group.neighbor (ParsedObservation.mem_discoveries here first))
  intro symbol there
  obtain ⟨row, -, rfl⟩ := List.mem_map.mp there
  exact row.symbol_mem

theorem backed_learning {port : LabPort} (here : port ∈ learningPorts observations) :
    Backed evidence [evidenceId port.deviceId .showMacAddressTable] := by
  obtain ⟨listed, learns⟩ := List.mem_filter.mp here
  obtain ⟨observation, among, mine⟩ := List.mem_flatMap.mp listed
  obtain ⟨row, -, rfl⟩ := List.mem_map.mp mine
  refine backed_evidenceId (covered observation among) (by decide) ((grounded observation among).macs fun none => ?_)
  have zero : (observation.port row).learnedMacCount = 0 := by
    show observation.parts.macs.countP _ = 0
    rw [none]
    rfl
  rw [LabPort.learns, Bool.and_eq_true, decide_eq_true_eq] at learns
  exact learns.1 zero

theorem backed_gateway {entry : ParsedObservation × Text} (here : entry ∈ labGateways observations) :
    Backed evidence (entry.1.gatewayEdge entry.2).evidenceIds := by
  obtain ⟨observation, among, mine⟩ := List.mem_filterMap.mp here
  obtain ⟨gateway, address, rfl⟩ := Option.map_eq_some_iff.mp mine
  have some_ : observation.gatewayAddress.isSome := by
    rw [address]
    rfl
  unfold ParsedObservation.gatewayEdge
  dsimp only
  have known : ∀ symbol ∈ ReadSymbol.showRunningConfig :: .showIpRoute ::
      (if (observation.gatewayArp gateway).isSome then [.showIpArp, .showMacAddressTable] else []),
      symbol ∈ labCommands := by
    split <;> decide
  apply Backed.sortedSet
  rcases (grounded observation among).gateway some_ with configured | routed
  · exact backed_evidenceIds (covered observation among) known List.mem_cons_self configured
  · exact backed_evidenceIds (covered observation among) known (List.mem_cons_of_mem _ List.mem_cons_self) routed

theorem backed_member {entry : ParsedObservation × Text × ChannelMember} (here : entry ∈ labMembers observations) :
    Backed evidence (entry.1.memberEdge entry.2).evidenceIds := by
  obtain ⟨observation, among, mine⟩ := List.mem_flatMap.mp here
  obtain ⟨member, listed, rfl⟩ := List.mem_map.mp mine
  obtain ⟨group, some_, -⟩ := List.mem_flatMap.mp (List.mem_of_mem_filter listed)
  exact backed_evidenceId (covered observation among) (by decide)
    ((grounded observation among).etherchannels (List.ne_nil_of_mem some_))

theorem backed_adjacency {entry : ParsedObservation × RoutingNeighbor} (here : entry ∈ labAdjacencies observations) :
    Backed evidence (entry.2.adjacency entry.1.deviceId).evidenceIds := by
  obtain ⟨observation, among, mine⟩ := List.mem_flatMap.mp here
  obtain ⟨neighbor, listed, rfl⟩ := List.mem_map.mp mine
  exact backed_evidenceId (covered observation among) neighbor.protocol.symbol_mem
    ((grounded observation among).routing neighbor listed)

/-- Every edge rests on an output that was observed. -/
theorem backed_edge {edge : LabEdge} (here : edge ∈ (labGraph observations).edges) :
    Backed evidence edge.evidenceIds := by
  rcases List.mem_append.mp here with physical | unchecked
  · rcases Fresh.mem_of_mem_addAll physical with none | some_
    · cases none
    · obtain ⟨cable, known, rfl⟩ := List.mem_map.mp some_
      obtain ⟨observation, among, pending⟩ := List.mem_flatMap.mp known
      obtain ⟨group, listed, rfl⟩ := List.mem_map.mp pending
      exact backed_rows covered grounded among listed
  · simp only [uncheckedEdges, List.mem_append, List.mem_map] at unchecked
    rcases unchecked with ((⟨port, known, rfl⟩ | ⟨entry, known, rfl⟩) | ⟨entry, known, rfl⟩) | ⟨entry, known, rfl⟩
    · exact backed_learning covered grounded known
    · exact backed_gateway covered grounded known
    · exact backed_member covered grounded known
    · exact backed_adjacency covered grounded known

omit covered grounded in
/-- Where a device of the graph stems from. -/
theorem mem_graphDevices {device : LabDevice} (here : device ∈ graphDevices observations) :
    (∃ observation ∈ observations, observation.device = device) ∨
      (∃ observation ∈ observations, ∃ group ∈ observation.grouped, group.device observation.deviceId = device) ∨
      (∃ port ∈ learningPorts observations, port.endpoint = device) ∨
      (∃ entry ∈ labGateways observations, entry.1.gatewayDevice entry.2 = device) ∨
      ∃ entry ∈ labAdjacencies observations, entry.2.peerDevice = device := by
  unfold graphDevices at here
  dsimp only at here
  rcases Fresh.mem_of_mem_addAll here with here | peer
  · rcases Fresh.mem_of_mem_addAll here with here | gateway
    · rcases List.mem_append.mp here with here | learned
      · rcases Fresh.mem_of_mem_addAll here with collected | announced
        · exact .inl (List.mem_map.mp collected)
        · obtain ⟨observation, among, mine⟩ := List.mem_flatMap.mp announced
          obtain ⟨group, listed, rfl⟩ := List.mem_map.mp mine
          exact .inr (.inl ⟨observation, among, group, List.mem_of_mem_filter listed, rfl⟩)
      · exact .inr (.inr (.inl (List.mem_map.mp learned)))
    · exact .inr (.inr (.inr (.inl (List.mem_map.mp gateway))))
  · exact .inr (.inr (.inr (.inr (List.mem_map.mp peer))))

/-- A device rests on recorded commands, though its gateway may be told by another one than it names. -/
theorem cites_device {device : LabDevice} (here : device ∈ graphDevices observations) :
    Cites evidence device.evidenceIds := by
  rcases mem_graphDevices here with ⟨observation, among, rfl⟩ | ⟨observation, among, group, listed, rfl⟩ |
    ⟨port, learning, rfl⟩ | ⟨entry, known, rfl⟩ | ⟨entry, -, rfl⟩
  · show Cites evidence ([ReadSymbol.showVersion].map (evidenceId observation.deviceId))
    exact cites_evidenceIds (covered observation among) (by decide)
  · exact (backed_rows covered grounded among listed).cites
  · exact (backed_learning covered grounded learning).cites
  · obtain ⟨observation, among, mine⟩ := List.mem_filterMap.mp known
    obtain ⟨gateway, -, rfl⟩ := Option.map_eq_some_iff.mp mine
    show Cites evidence ([ReadSymbol.showRunningConfig].map (evidenceId observation.deviceId))
    exact cites_evidenceIds (covered observation among) (by decide)
  · intro id none
    cases none

omit covered grounded in
theorem exists_observation {device : LabDevice} (here : device ∈ graphDevices observations)
    (collected : device.collectionState ≠ .notCollected) : ∃ observation ∈ observations, observation.device = device := by
  rcases mem_graphDevices here with known | ⟨_, -, _, -, rfl⟩ | ⟨_, -, rfl⟩ | ⟨_, -, rfl⟩ | ⟨_, -, rfl⟩
  · exact known
  all_goals exact absurd rfl collected

end graph

/-! ## Capabilities -/

/-- A capability is supported because of an output that was observed, and unsupported because IOS said so. -/
structure CapabilityEvidenced (evidence : List LabEvidence) (capability : LabCapability) : Prop where
  cites : Cites evidence capability.evidenceIds
  supported : capability.state = .supported → Backed evidence capability.evidenceIds
  unsupported : capability.state = .unsupported →
    ∃ record ∈ evidence, record.id ∈ capability.evidenceIds ∧ record.kind = "UNSUPPORTED"

/-- A finding that claims to know something rests on an output that was observed. -/
structure FindingEvidenced (evidence : List LabEvidence) (finding : LabFinding) : Prop where
  cites : Cites evidence finding.evidenceIds
  known : finding.confidence ≠ .unknown → Backed evidence finding.evidenceIds

theorem Backed.finding {evidence : List LabEvidence} {finding : LabFinding}
    (h : Backed evidence finding.evidenceIds) : FindingEvidenced evidence finding :=
  ⟨h.cites, fun _ => h⟩

/-- A finding that is made on a condition. -/
theorem evidenced_ite {evidence : List LabEvidence} {P : Prop} [Decidable P] {finding : LabFinding}
    (backed : P → Backed evidence finding.evidenceIds) :
    ∀ other ∈ (if P then [finding] else []), FindingEvidenced evidence other := by
  intro other here
  split at here
  · next made =>
    rw [List.mem_singleton.mp here]
    exact (backed made).finding
  · cases here

namespace SurveyedObservation

variable [Digest] {evidence : List LabEvidence} {observation : SurveyedObservation}
  (covered : observation.evidence ⊆ evidence) (grounded : observation.Grounded)

omit [Digest] in
theorem Grounded.feature (grounded : observation.Grounded) {key : Text} {value : Bool}
    (h : observation.feature key = some value) : observation.stateOf .showRunningConfig = .observed := by
  refine grounded.features fun none => ?_
  rw [SurveyedObservation.feature, none] at h
  cases h

omit [Digest] in
theorem Grounded.configured (grounded : observation.Grounded) {capability : Text} {value : Bool}
    (h : observation.configured capability = some value) : observation.stateOf .showRunningConfig = .observed := by
  rw [SurveyedObservation.configured] at h
  split at h
  · split at h
    · next observed => exact observed
    · cases h
  · obtain ⟨key, -, value⟩ := Option.bind_eq_some_iff.mp h
    exact grounded.feature value

theorem evidenceIds_commandCapability (entry : Text × Text × ReadSymbol) :
    (observation.commandCapability entry).evidenceIds =
      (entry.2.2 :: if (observation.configured entry.1).isSome then [.showRunningConfig] else []).map
        (evidenceId observation.deviceId) := rfl

theorem state_commandCapability (entry : Text × Text × ReadSymbol) :
    (observation.commandCapability entry).state =
      if observation.stateOf entry.2.2 = .unsupported ∧ observation.configured entry.1 ≠ some true then .unsupported
      else if observation.stateOf entry.2.2 = .observed ∨ observation.configured entry.1 = some true then .supported
      else .unknown := by
  unfold commandCapability
  dsimp only
  split
  · rfl
  · split <;> rfl

include covered grounded

theorem evidenced_commandCapability {entry : Text × Text × ReadSymbol} (here : entry ∈ capabilityCommands) :
    CapabilityEvidenced evidence (observation.commandCapability entry) := by
  have listed : ∀ entry ∈ capabilityCommands, entry.2.2 ∈ labCommands := by decide
  have known : ∀ symbol ∈ entry.2.2 :: if (observation.configured entry.1).isSome then [.showRunningConfig] else [],
      symbol ∈ labCommands := by
    refine List.forall_mem_cons.mpr ⟨listed entry here, ?_⟩
    split <;> decide
  have cites := cites_evidenceIds covered known
  constructor
  · exact cites
  · intro supported
    rw [state_commandCapability] at supported
    split at supported
    · cases supported
    · split at supported
      · next reason =>
        rcases reason with observed | configured
        · exact backed_evidenceIds covered known List.mem_cons_self observed
        · refine backed_evidenceIds covered known (List.mem_cons_of_mem _ ?_) (grounded.configured configured)
          rw [configured]
          exact List.mem_cons_self
      · cases supported
  · intro unsupported
    rw [state_commandCapability] at unsupported
    split at unsupported
    · next reason =>
      obtain ⟨record, there, same, kind⟩ := exists_commandRecord covered (listed entry here)
      refine ⟨record, there, ?_, ?_⟩
      · rw [same]
        exact List.mem_cons_self
      · rw [kind, reason.1]
        rfl
    · split at unsupported <;> cases unsupported

theorem evidenced_configCapability (entry : Text × Text) :
    CapabilityEvidenced evidence (observation.configCapability entry) := by
  have known : ∀ symbol ∈ [ReadSymbol.showRunningConfig], symbol ∈ labCommands := by decide
  refine ⟨cites_evidenceIds covered known, fun supported => ?_, fun unsupported => ?_⟩
  · rw [configCapability] at supported
    dsimp only at supported
    split at supported
    · next configured =>
      exact backed_evidenceIds covered known List.mem_cons_self (grounded.feature configured)
    · cases supported
  · rw [configCapability] at unsupported
    dsimp only at unsupported
    split at unsupported <;> cases unsupported

theorem evidenced_capabilities : ∀ capability ∈ observation.capabilities, CapabilityEvidenced evidence capability := by
  rw [capabilities, List.forall_mem_append]
  refine ⟨List.forall_mem_map.mpr fun entry here => ?_, List.forall_mem_map.mpr fun entry _ => ?_⟩
  · exact evidenced_commandCapability covered grounded here
  · exact evidenced_configCapability covered grounded entry

/-! ## Findings -/

variable [NumberFormat]

omit [NumberFormat] in
theorem evidenced_accessFinding (key title : Text) (protects : PortConfig → Bool) :
    ∀ finding ∈ observation.accessFinding key title protects, FindingEvidenced evidence finding := by
  unfold accessFinding
  dsimp only
  refine evidenced_ite fun fewer => ?_
  refine backed_evidenceId covered (by decide) (grounded.configPorts fun none => ?_)
  rw [none] at fewer
  exact absurd fewer (Nat.not_lt_zero _)

theorem evidenced_poeFinding : ∀ finding ∈ observation.poeFinding, FindingEvidenced evidence finding := by
  unfold poeFinding
  cases budget : observation.poeBudget with
  | none => exact List.forall_mem_nil _
  | some poe =>
    have known : observation.poeBudget ≠ none := by
      rw [budget]
      exact Option.some_ne_none poe
    have backed := backed_evidenceId covered (by decide) (grounded.poe known)
    dsimp only
    split
    · exact List.forall_mem_nil _
    · split
      · exact List.forall_mem_singleton.mpr (Backed.finding backed)
      · exact List.forall_mem_singleton.mpr (Backed.finding backed)

omit [NumberFormat] in
theorem evidenced_etherchannelFinding {group : EtherChannel} (here : group ∈ observation.parts.etherchannels) :
    ∀ finding ∈ observation.etherchannelFinding group, FindingEvidenced evidence finding := by
  have backed := backed_evidenceId covered (by decide) (grounded.parts.etherchannels (List.ne_nil_of_mem here))
  unfold etherchannelFinding
  dsimp only
  split
  · exact List.forall_mem_nil _
  · exact List.forall_mem_singleton.mpr (Backed.finding backed)

omit [NumberFormat] in
theorem evidenced_rootFinding : ∀ finding ∈ observation.rootFinding, FindingEvidenced evidence finding := by
  unfold rootFinding
  dsimp only
  split
  · exact List.forall_mem_nil _
  · next some_ =>
    refine List.forall_mem_singleton.mpr (Backed.finding ?_)
    refine backed_evidenceId covered (by decide) (grounded.roots fun none => some_ ?_)
    rw [none]
    rfl

omit grounded [NumberFormat] in
/-- Access ports are listed by an output of their device, which this finding names. -/
theorem evidenced_oversubscriptionFinding {ports : List ReportedPort} (physical : List LabEdge)
    (backed : ∀ port ∈ ports, port.deviceId = observation.deviceId →
      Backed evidence [evidenceId observation.deviceId .showInterfacesStatus]) :
    ∀ finding ∈ observation.oversubscriptionFinding ports physical, FindingEvidenced evidence finding := by
  unfold oversubscriptionFinding
  dsimp only
  refine evidenced_ite fun crowded => ?_
  have cites : Cites evidence ([ReadSymbol.showInterfacesStatus, .showCdpNeighborsDetail, .showLldpNeighborsDetail].map
      (evidenceId observation.deviceId)) := cites_evidenceIds covered (by decide)
  have listed : ports.filter (·.deviceId = observation.deviceId) ≠ [] := by
    intro none
    rw [none] at crowded
    exact absurd crowded.2 (Nat.not_lt_zero _)
  obtain ⟨port, here⟩ := List.exists_mem_of_ne_nil _ listed
  obtain ⟨known, mine⟩ := List.mem_filter.mp here
  refine (backed port known (of_decide_eq_true mine)).of_subset cites ?_
  exact List.cons_subset_cons _ (List.nil_subset _)

theorem evidenced_findings {ports : List ReportedPort} (physical : List LabEdge)
    (backed : ∀ port ∈ ports, port.deviceId = observation.deviceId →
      Backed evidence [evidenceId observation.deviceId .showInterfacesStatus]) :
    ∀ finding ∈ observation.findings ports physical, FindingEvidenced evidence finding := by
  have config : observation.stateOf .showRunningConfig = .observed →
      Backed evidence [evidenceId observation.deviceId .showRunningConfig] :=
    backed_evidenceId covered (by decide)
  simp only [findings, List.forall_mem_append]
  refine ⟨⟨⟨⟨⟨⟨⟨⟨⟨?_, ?_⟩, ?_⟩, ?_⟩, ?_⟩, ?_⟩, ?_⟩, ?_⟩, ?_⟩, ?_⟩
  · exact evidenced_ite fun shown => config shown.1
  · exact evidenced_ite fun shown => config shown.1
  · exact evidenced_ite fun shown => config shown.1
  · exact evidenced_ite fun enabled => config (enabled.elim grounded.feature grounded.feature)
  · exact evidenced_poeFinding covered grounded
  · intro finding here
    obtain ⟨group, among, mine⟩ := List.mem_flatMap.mp here
    exact evidenced_etherchannelFinding covered grounded among finding mine
  · exact evidenced_oversubscriptionFinding covered physical backed
  · exact evidenced_rootFinding covered grounded
  · exact evidenced_accessFinding covered grounded _ _ _
  · exact evidenced_accessFinding covered grounded _ _ _

end SurveyedObservation

section findings

variable {evidence : List LabEvidence} {edges : List LabEdge} {ports : List ReportedPort}
  (edgesBacked : ∀ edge ∈ edges, Backed evidence edge.evidenceIds)
  (portsBacked : ∀ port ∈ ports, Backed evidence port.evidenceIds)

include portsBacked in
theorem evidenced_portFinding {some_ : List ReportedPort} (fewer : some_ ⊆ ports) (finding : LabFinding) :
    ∀ other ∈ portFinding some_ finding, FindingEvidenced evidence other := by
  unfold portFinding
  split
  · exact List.forall_mem_nil _
  · next nonempty =>
    refine List.forall_mem_singleton.mpr (Backed.finding (Backed.sortedSet ?_))
    exact backed_flatMap (fun port here => portsBacked port (fewer here)) (mt List.isEmpty_iff.mpr nonempty)

include portsBacked in
theorem evidenced_portFindings : ∀ finding ∈ portFindings ports, FindingEvidenced evidence finding := by
  unfold portFindings
  dsimp only
  simp only [List.forall_mem_append]
  refine ⟨⟨⟨?_, ?_⟩, ?_⟩, ?_⟩
  all_goals exact evidenced_portFinding portsBacked (List.filter_subset_self _) _

theorem evidenced_evidenceGaps {capabilities : List LabCapability}
    (cited : ∀ capability ∈ capabilities, Cites evidence capability.evidenceIds) :
    ∀ finding ∈ evidenceGaps capabilities, FindingEvidenced evidence finding := by
  unfold evidenceGaps
  dsimp only
  split
  · exact List.forall_mem_nil _
  · refine List.forall_mem_singleton.mpr ⟨?_, fun known => absurd rfl known⟩
    exact cites_flatMap fun capability here => cited capability (List.mem_of_mem_filter here)

include edgesBacked in
theorem evidenced_uplinkFinding [Digest] {device : LabDevice}
    (cites : Cites evidence [evidenceId device.id .showCdpNeighborsDetail, evidenceId device.id .showLldpNeighborsDetail]) :
    ∀ finding ∈ uplinkFinding (edges.filter (·.kind = .physical)) device, FindingEvidenced evidence finding := by
  unfold uplinkFinding
  split
  · exact List.forall_mem_singleton.mpr ⟨cites, fun known => absurd rfl known⟩
  · next attached same =>
    have here : attached ∈ (edges.filter (·.kind = .physical)).filter (·.joins device.id) := by
      rw [same]
      exact List.mem_singleton_self attached
    refine List.forall_mem_singleton.mpr (Backed.finding ?_)
    exact edgesBacked attached (List.mem_of_mem_filter (List.mem_of_mem_filter here))
  · exact List.forall_mem_nil _

include portsBacked in
theorem evidenced_mismatches {edge : LabEdge} (backed : Backed evidence edge.evidenceIds) :
    ∀ finding ∈ mismatches ports edge, FindingEvidenced evidence finding := by
  have listed : ∀ {id : Text} {port : ReportedPort},
      Dict.get? (Dict.ofList (ports.map fun port => (port.id, port))) id = some port → port ∈ ports := by
    intro id port found
    obtain ⟨other, here, same⟩ := List.mem_map.mp (Dict.mem_ofList (Dict.mem_of_get? found))
    cases same
    exact here
  unfold mismatches
  dsimp only
  split
  · next left right near far =>
    have both : Backed evidence (edge.evidenceIds ++ left.evidenceIds ++ right.evidenceIds) :=
      (backed.append (portsBacked left (listed near)).cites).append (portsBacked right (listed far)).cites
    simp only [List.forall_mem_append]
    exact ⟨⟨evidenced_ite fun _ => both, evidenced_ite fun _ => both⟩, evidenced_ite fun _ => both⟩
  · exact List.forall_mem_nil _

end findings

/-! ## Failures and paths -/

/-- A scenario rests on recorded commands; and unless it takes a device away that no edge joins, on an output that was
observed. -/
structure FailureEvidenced (evidence : List LabEvidence) (edges : List LabEdge) (scenario : FailureScenario) : Prop where
  cites : Cites evidence scenario.evidenceIds
  backed : (scenario.targetKind ∉ [TargetKind.switch, .gateway, .accessPoint] ∨
    ∃ edge ∈ edges, edge.joins scenario.targetId = true) → Backed evidence scenario.evidenceIds

/-- A path that is not unknown rests, hop by hop, on outputs that were observed. -/
structure PathEvidenced (evidence : List LabEvidence) (path : LabPath) : Prop where
  cites : Cites evidence path.evidenceIds
  known : path.state ≠ .unknown →
    Backed evidence path.evidenceIds ∧ ∀ hop ∈ path.hops.tail, Backed evidence hop.evidenceIds

theorem HopChain.mem {kinds : EdgeKind → Bool} {edges : List LabEdge} {start a : Text} {chain : List (Text × LabEdge)}
    (h : HopChain kinds edges start chain a) : ∀ hop ∈ chain, hop.2 ∈ edges := by
  induction h with
  | nil => exact List.forall_mem_nil _
  | concat _ here _ _ ih => exact List.forall_mem_append.mpr ⟨ih, List.forall_mem_singleton.mpr here⟩

section failures

variable [Digest] {evidence : List LabEvidence} {devices : List LabDevice} {interfaces : List LabInterface}
  {edges : List LabEdge} (devicesCited : ∀ device ∈ devices, Cites evidence device.evidenceIds)
  (interfacesBacked : ∀ interface ∈ interfaces, Backed evidence interface.evidenceIds)
  (edgesBacked : ∀ edge ∈ edges, Backed evidence edge.evidenceIds)

omit [Digest] in
theorem Backed.failure {scenario : FailureScenario} (h : Backed evidence scenario.evidenceIds) :
    FailureEvidenced evidence edges scenario :=
  ⟨h.cites, fun _ => h⟩

include edgesBacked

theorem evidenced_interfaceFailure {interface : LabInterface} (backed : Backed evidence interface.evidenceIds)
    {scenario : FailureScenario} (made : interfaceFailure edges interface = some scenario) :
    FailureEvidenced evidence edges scenario := by
  unfold interfaceFailure at made
  dsimp only at made
  split at made
  · cases made
  · cases made
    refine Backed.failure (Backed.sortedSet (backed.append ?_))
    exact cites_flatMap fun edge here => (edgesBacked edge (List.mem_of_mem_filter here)).cites

omit [Digest] in
theorem evidenced_deviceFailure (primary : LabDevice) {device : LabDevice} (cited : Cites evidence device.evidenceIds) :
    FailureEvidenced evidence edges (deviceFailure devices edges primary device) := by
  have incident : Cites evidence ((edges.filter (·.joins device.id)).flatMap (·.evidenceIds)) :=
    cites_flatMap fun edge here => (edgesBacked edge (List.mem_of_mem_filter here)).cites
  have all : Cites evidence (device.evidenceIds ++ (edges.filter (·.joins device.id)).flatMap (·.evidenceIds)) :=
    cites_append.mpr ⟨cited, incident⟩
  refine ⟨all.sortedSet, fun reason => ?_⟩
  rcases reason with other | ⟨edge, here, joins⟩
  · -- the target is a device
    refine absurd ?_ other
    unfold deviceFailure
    dsimp only
    generalize device.role = role
    cases role <;> decide
  · refine Backed.sortedSet ((edgesBacked edge here).of_subset all fun id mine => ?_)
    exact List.mem_append_right _ (List.mem_flatMap.mpr ⟨edge, List.mem_filter.mpr ⟨here, joins⟩, mine⟩)

include devicesCited interfacesBacked in
theorem evidenced_failures : ∀ scenario ∈ failures devices interfaces edges, FailureEvidenced evidence edges scenario := by
  unfold failures
  split
  · exact List.forall_mem_nil _
  · next primary _ =>
    simp only [List.forall_mem_append]
    refine ⟨⟨⟨⟨?_, ?_⟩, ?_⟩, ?_⟩, ?_⟩
    · intro scenario here
      obtain ⟨interface, known, made⟩ := List.mem_filterMap.mp here
      exact evidenced_interfaceFailure edgesBacked (interfacesBacked interface known) made
    · exact List.forall_mem_map.mpr fun edge here => Backed.failure (edgesBacked edge (List.mem_of_mem_filter here))
    · exact List.forall_mem_map.mpr fun device here =>
        evidenced_deviceFailure edgesBacked primary (devicesCited device (List.mem_of_mem_filter here))
    · exact List.forall_mem_map.mpr fun edge here => Backed.failure (edgesBacked edge (List.mem_of_mem_filter here))
    · exact List.forall_mem_map.mpr fun interface here =>
        Backed.failure (interfacesBacked interface (List.mem_of_mem_filter here))

theorem evidenced_labPath {primary target : LabDevice} (apart : target.id ≠ primary.id) :
    PathEvidenced evidence (labPath devices edges primary target) := by
  obtain ⟨-, found⟩ := @previousTo_spec edges primary.id target.id
  unfold labPath
  dsimp only
  split
  · exact ⟨fun id none => (by cases none), fun known => absurd rfl known⟩
  · next seen =>
    have some_ : (Dict.get? (previousTo edges primary.id target.id) target.id).isSome := by
      by_contra unseen
      exact seen (Option.isNone_iff_eq_none.mpr (Option.not_isSome_iff_eq_none.mp unseen))
    have hops := (found some_).1
    have backed : ∀ hop ∈ Graph.backtrack (previousTo edges primary.id target.id) primary.id
        (previousTo edges primary.id target.id).length target.id, Backed evidence hop.2.evidenceIds :=
      fun hop here => edgesBacked hop.2 (hops.mem hop here)
    have all := (backed_flatMap backed fun none => apart (hops.eq_start none)).sortedSet
    exact ⟨all.cites, fun _ => ⟨all, List.forall_mem_map.mpr backed⟩⟩

theorem evidenced_labPaths : ∀ path ∈ labPaths devices edges, PathEvidenced evidence path := by
  unfold labPaths
  split
  · exact List.forall_mem_nil _
  · next primary _ =>
    refine List.forall_mem_map.mpr fun target here => evidenced_labPath edgesBacked ?_
    exact of_decide_eq_true (List.mem_filter.mp here).2

end failures

/-! ## The state -/

/-- Everything that a report states rests on the evidence that it lists. -/
structure Evidenced (report : LabReport) : Prop where
  devices : ∀ device ∈ report.devices, Cites report.evidence device.evidenceIds
  interfaces : ∀ port ∈ report.interfaces, Backed report.evidence port.evidenceIds
  edges : ∀ edge ∈ report.edges, Backed report.evidence edge.evidenceIds
  capabilities : ∀ capability ∈ report.capabilities, CapabilityEvidenced report.evidence capability
  findings : ∀ finding ∈ report.findings, FindingEvidenced report.evidence finding
  failures : ∀ scenario ∈ report.failures, FailureEvidenced report.evidence report.edges scenario
  paths : ∀ path ∈ report.paths, PathEvidenced report.evidence path

section report

variable [Digest] {evidence : List LabEvidence} {observations : List SurveyedObservation}
  (covered : ∀ observation ∈ observations, observation.evidence ⊆ evidence)
  (grounded : ∀ observation ∈ observations, observation.Grounded)

include covered grounded

/-- A port is listed by an output of its device. -/
theorem backed_reportedPort {port : ReportedPort} (here : port ∈ reportedPorts observations) :
    Backed evidence [evidenceId port.deviceId .showInterfacesStatus] ∧ Backed evidence port.evidenceIds := by
  obtain ⟨observation, among, mine⟩ := List.mem_flatMap.mp here
  obtain ⟨row, listed, rfl⟩ := List.mem_map.mp mine
  have observed := (grounded observation among).parts.interfaces (List.ne_nil_of_mem listed)
  constructor
  · exact backed_evidenceId (covered observation among) (by decide) observed
  · show Backed evidence ([ReadSymbol.showInterfacesStatus, .showRunningConfig, .showInterfaces,
      .showInterfacesCountersErrors].map (evidenceId observation.deviceId))
    exact backed_evidenceIds (covered observation among) (by decide) List.mem_cons_self observed

theorem evidenced_labFindings [NumberFormat] {edges : List LabEdge} {capabilities : List LabCapability}
    (edgesBacked : ∀ edge ∈ edges, Backed evidence edge.evidenceIds)
    (cited : ∀ capability ∈ capabilities, Cites evidence capability.evidenceIds) :
    ∀ finding ∈ labFindings (graphDevices (observations.map (·.toParsedObservation))) (reportedPorts observations) edges
      capabilities observations, FindingEvidenced evidence finding := by
  have portsBacked : ∀ port ∈ reportedPorts observations, Backed evidence port.evidenceIds :=
    fun port here => (backed_reportedPort covered grounded here).2
  unfold labFindings
  dsimp only
  simp only [List.forall_mem_append]
  refine ⟨⟨⟨⟨evidenced_evidenceGaps cited, ?_⟩, evidenced_portFindings portsBacked⟩, ?_⟩, ?_⟩
  · intro finding here
    obtain ⟨device, collected, mine⟩ := List.mem_flatMap.mp here
    obtain ⟨known, state⟩ := List.mem_filter.mp collected
    have present : device.collectionState ≠ .notCollected := by
      intro absent
      rw [absent] at state
      exact absurd state (by decide)
    obtain ⟨parsed, among, rfl⟩ := exists_observation known present
    obtain ⟨observation, there, rfl⟩ := List.mem_map.mp among
    refine evidenced_uplinkFinding edgesBacked ?_ finding mine
    show Cites evidence ([ReadSymbol.showCdpNeighborsDetail, .showLldpNeighborsDetail].map
      (evidenceId observation.deviceId))
    exact cites_evidenceIds (covered observation there) (by decide)
  · intro finding here
    obtain ⟨observation, among, mine⟩ := List.mem_flatMap.mp here
    refine SurveyedObservation.evidenced_findings (covered observation among) (grounded observation among) _ ?_ finding mine
    intro port known same
    rw [← same]
    exact (backed_reportedPort covered grounded known).1
  · intro finding here
    obtain ⟨edge, among, mine⟩ := List.mem_flatMap.mp here
    have backed := edgesBacked edge (List.mem_of_mem_filter (List.mem_of_mem_filter among))
    exact evidenced_mismatches portsBacked backed finding mine

end report

end SwitchOps
