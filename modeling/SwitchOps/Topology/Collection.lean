import SwitchOps.Parsers.Discovery
import SwitchOps.Topology.OneEndpoint

/-!
# Two ways to collect

`_collect_dashboard` reads every section over one session, and its observation is complete if no section about
discovery has an error. `collect_slow` reads four tables, and what it hands to `_record_slow_discovery` counts as
complete. The two agree unless IOS rejects a command, or the dashboard would not have read what the slow tier does
not read (`pathsAgree_iff`).
-/

namespace SwitchOps.Topology

/-! ## Sections -/

/-- `core_discovery_sections` -/
inductive DiscoverySection
  | interfaces
  | macTable
  | neighbors
  | lldpSummary
  | lldpDetail
  | arp
  deriving DecidableEq, Repr

def coreDiscoverySections : List DiscoverySection :=
  [.interfaces, .macTable, .neighbors, .lldpSummary, .lldpDetail, .arp]

/-- `section.startswith("lldp")` -/
def DiscoverySection.isLldp : DiscoverySection → Bool
  | .lldpSummary | .lldpDetail => true
  | _ => false

inductive SectionError
  | unsupportedByIos
  | commandFailed
  | parserError
  deriving DecidableEq, Repr

/-- What the command of each section returns; `none` where reading it raises. -/
structure Outputs where
  config : Option Text
  read : DiscoverySection → Option Text

/-- The facts that are derived from the outputs. -/
structure Collected where
  macEntries : List MacTableEntry
  arpEntries : List ArpEntry
  cdpNeighbors : List CdpNeighbor
  lldpNeighbors : List LldpNeighbor
  deriving DecidableEq, Repr

/-! ## The dashboard -/

/-- The output of a section, and its error. -/
def Outputs.readSection (outputs : Outputs) (name : DiscoverySection) : Text × Option SectionError :=
  match outputs.read name with
  | none => ([], some .commandFailed)
  | some output =>
    if unsupported output && !name.isLldp then ([], some .unsupportedByIos) else (output, none)

/-- `outputs["config"]` -/
def Outputs.configText (outputs : Outputs) : Text :=
  match outputs.config with
  | none => []
  | some output => if unsupported output then [] else output

/-- `_parse_section` -/
def parseSection {α : Type} (parser : Text → Except Exn α) (output : Text) (fallback : α) : α × Option SectionError :=
  match parser output with
  | .ok value => (value, none)
  | .error _ => (fallback, some .parserError)

/-- What the dashboard makes of the sections. -/
structure DashboardCollection where
  interfaces : List InterfaceStatus
  collected : Collected
  errors : DiscoverySection → Option SectionError

/-- `_collect_dashboard`, as far as its topology goes. -/
def collectDashboard (outputs : Outputs) : DashboardCollection :=
  let output (name : DiscoverySection) : Text := (outputs.readSection name).1
  let interfaces := parseSection parseInterfaceStatus (output .interfaces) []
  let arp := parseSection parseArp (output .arp) []
  { interfaces := interfaces.1
    collected := {
      macEntries := parseMacTable (output .macTable)
      arpEntries := arp.1
      cdpNeighbors := parseCdp (output .neighbors)
      lldpNeighbors := (inspectLldp outputs.configText (output .lldpSummary) (output .lldpDetail)).neighbors }
    errors := fun name =>
      -- an error of the parser replaces one of the command
      (match name with
        | .interfaces => interfaces.2
        | .arp => arp.2
        | _ => none).or (outputs.readSection name).2 }

/-- `not bool(core_discovery_sections & section_errors.keys())` -/
def DashboardCollection.complete (dashboard : DashboardCollection) : Bool :=
  coreDiscoverySections.all fun name => (dashboard.errors name).isNone

/-! ## The slow tier -/

/-- `collect_slow`, up to the payload; `none` where it raises. -/
def collectSlow (outputs : Outputs) : Option Collected := do
  let macOutput ← outputs.read .macTable
  let arpOutput ← outputs.read .arp
  let cdpOutput ← outputs.read .neighbors
  let lldpOutput ← outputs.read .lldpDetail
  let lldp := inspectLldp none [] lldpOutput
  let arpEntries ← (parseArp arpOutput).toOption
  return {
    macEntries := parseMacTable macOutput
    arpEntries := arpEntries
    cdpNeighbors := parseCdp cdpOutput
    lldpNeighbors := lldp.neighbors }

/-- What the live state holds. -/
structure LiveSnapshot where
  topology : Option TopologyModel
  interfaces : List InterfaceStatus

/-- What an observation takes from elsewhere; `localEndpoint` is `correlate_local_endpoint` with the adapters of
this computer. -/
structure Surroundings where
  localEndpoint : Text → List MacTableEntry → List ArpEntry → List InterfaceStatus → LocalEndpointStatus
  expected : List ExpectedRelationship
  sourceNamespace : Text
  observedAt : Nat

/-- How a dashboard names the switch. -/
structure SwitchIdentity where
  hostname : Text
  model : Text
  managementIp : Text

/-- The arguments of `build_topology`. -/
def Surroundings.input (around : Surroundings) (identity : SwitchIdentity) (interfaces : List InterfaceStatus)
    (collected : Collected) : BuildInput where
  hostname := identity.hostname
  model := identity.model
  managementIp := identity.managementIp
  interfaces := interfaces
  macEntries := collected.macEntries
  cdpNeighbors := collected.cdpNeighbors
  lldpNeighbors := collected.lldpNeighbors
  arpEntries := collected.arpEntries
  localEndpoint := around.localEndpoint identity.managementIp collected.macEntries collected.arpEntries interfaces
  expectedRelationships := around.expected
  observedAt := around.observedAt
  sourceNamespace := around.sourceNamespace

/-- The observation that a dashboard stores. -/
def dashboardPoll (around : Surroundings) (identity : SwitchIdentity) (outputs : Outputs) : Poll :=
  let dashboard := collectDashboard outputs
  { input := around.input identity dashboard.interfaces dashboard.collected
    complete := dashboard.complete
    observedAt := around.observedAt }

/-- `_record_slow_discovery`: there is nothing to store without a topology, its root or the interfaces. -/
def recordSlowDiscovery (around : Surroundings) (snapshot : LiveSnapshot) (collected : Collected) : Option Poll :=
  snapshot.topology.bind fun cached =>
    (cached.devices.find? fun item => item.id = cached.rootDeviceId).bind fun root =>
      if snapshot.interfaces.isEmpty then none
      else
        let identity : SwitchIdentity :=
          { hostname := root.name
            model := (nonempty root.model).getD "Unknown Cisco device"
            managementIp := (nonempty root.ip).getD "Unknown" }
        some {
          input := around.input identity snapshot.interfaces collected
          complete := true
          observedAt := around.observedAt }

/-- The observation that the slow tier stores, if any. -/
def slowPoll (around : Surroundings) (snapshot : LiveSnapshot) (outputs : Outputs) : Option Poll :=
  (collectSlow outputs).bind (recordSlowDiscovery around snapshot)

/-! ## Agreement -/

def BuildInput.collected (input : BuildInput) : Collected where
  macEntries := input.macEntries
  arpEntries := input.arpEntries
  cdpNeighbors := input.cdpNeighbors
  lldpNeighbors := input.lldpNeighbors

/-- What the slow tier takes for complete is complete to the dashboard, and says the same. -/
def PathsAgree (around : Surroundings) (snapshot : LiveSnapshot) (identity : SwitchIdentity) (outputs : Outputs) : Prop :=
  ∀ poll, slowPoll around snapshot outputs = some poll → poll.complete = true →
    (dashboardPoll around identity outputs).complete = true ∧
      (dashboardPoll around identity outputs).input.collected = poll.input.collected

/-- There is a topology to rebuild. -/
structure LiveSnapshot.Ready (snapshot : LiveSnapshot) : Prop where
  root : ∃ cached, snapshot.topology = some cached ∧ ∃ item ∈ cached.devices, item.id = cached.rootDeviceId
  interfaces : snapshot.interfaces ≠ []

/-- The four tables can be read, and their ages are numbers that Python reads. -/
structure Outputs.Readable (outputs : Outputs) : Prop where
  read : ∀ name ∈ [DiscoverySection.macTable, .arp, .neighbors, .lldpDetail], (outputs.read name).isSome = true
  ages : ∀ output, outputs.read .arp = some output → (parseArp output).isOk = true

/-- With the table of LLDP neighbours or without it, the neighbours are the same. -/
def LldpAlike (summary detail : Text) : Prop :=
  if unsupported (summary ++ "\n" ++ detail) then unsupported ("\n" ++ detail) = true ∨ parseLldpDetail detail = []
  else parseLldpDetail detail ≠ [] ∨ parseLldpSummary summary = []

/-- What the slow tier does not look at is in order: the interfaces and the table of LLDP neighbours are read, and
IOS rejects no command. -/
structure Outputs.Accepted (outputs : Outputs) : Prop where
  interfaces : ∃ output, outputs.read .interfaces = some output ∧ unsupported output = false ∧
    (parseInterfaceStatus output).isOk = true
  recognized : ∀ name ∈ [DiscoverySection.macTable, .arp, .neighbors], ∀ output, outputs.read name = some output →
    unsupported output = false
  lldp : ∃ summary, outputs.read .lldpSummary = some summary ∧ ∀ detail, outputs.read .lldpDetail = some detail →
    LldpAlike summary detail

/-! ### The sections of the dashboard -/

section

variable {outputs : Outputs} {name : DiscoverySection}

theorem readSection_eq {output : Text} (read : outputs.read name = some output)
    (recognized : unsupported output = false ∨ name.isLldp = true) : outputs.readSection name = (output, none) := by
  rw [Outputs.readSection, read]
  rcases recognized with recognized | lldp
  · simp [recognized]
  · simp [lldp]

theorem exists_of_readSection (h : (outputs.readSection name).2 = none) : ∃ output, outputs.read name = some output ∧
    (unsupported output = false ∨ name.isLldp = true) ∧ outputs.readSection name = (output, none) := by
  cases read : outputs.read name with
  | none =>
    rw [Outputs.readSection, read] at h
    cases h
  | some output =>
    have recognized : unsupported output = false ∨ name.isLldp = true := by
      by_contra rejected
      rw [not_or, Bool.not_eq_false, Bool.not_eq_true] at rejected
      rw [Outputs.readSection, read] at h
      simp [rejected.1, rejected.2] at h
    exact ⟨output, rfl, recognized, readSection_eq read recognized⟩

theorem parseSection_error_iff {α : Type} {parser : Text → Except Exn α} {output : Text} {fallback : α} :
    (parseSection parser output fallback).2 = none ↔ (parser output).isOk = true := by
  rw [parseSection]
  cases parser output with
  | ok value => exact iff_of_true rfl rfl
  | error _ => exact iff_of_false (by simp) (by simp [Except.isOk, Except.toBool])

theorem mem_coreDiscoverySections (name : DiscoverySection) : name ∈ coreDiscoverySections := by
  cases name <;> decide

/-- A dashboard is complete if every section is read and recognized, and the interfaces and the ages can be parsed. -/
theorem complete_collectDashboard_iff : (collectDashboard outputs).complete = true ↔
    (∀ name, (outputs.readSection name).2 = none) ∧
      (parseInterfaceStatus (outputs.readSection .interfaces).1).isOk = true ∧
      (parseArp (outputs.readSection .arp).1).isOk = true := by
  have errors : (collectDashboard outputs).complete = true ↔
      ∀ name, (collectDashboard outputs).errors name = none := by
    rw [DashboardCollection.complete, List.all_eq_true]
    exact ⟨fun all name => Option.isNone_iff_eq_none.mp (all name (mem_coreDiscoverySections name)),
      fun none name _ => Option.isNone_iff_eq_none.mpr (none name)⟩
  rw [errors, ← @parseSection_error_iff _ _ _ [], ← @parseSection_error_iff _ _ _ []]
  constructor
  · intro none
    refine ⟨fun name => ?_, (Option.or_eq_none_iff.mp (none .interfaces)).1, (Option.or_eq_none_iff.mp (none .arp)).1⟩
    exact (Option.or_eq_none_iff.mp (none name)).2
  · rintro ⟨read, interfaces, arp⟩ name
    refine Option.or_eq_none_iff.mpr ⟨?_, read name⟩
    cases name with
    | interfaces => exact interfaces
    | arp => exact arp
    | macTable | neighbors | lldpSummary | lldpDetail => rfl

/-! ### The slow tier -/

/-- The slow tier collects what can be read. -/
theorem collectSlow_eq_some_iff {collected : Collected} : collectSlow outputs = some collected ↔
    ∃ mac arp cdp lldp entries, outputs.read .macTable = some mac ∧ outputs.read .arp = some arp ∧
      outputs.read .neighbors = some cdp ∧ outputs.read .lldpDetail = some lldp ∧ parseArp arp = .ok entries ∧
      collected = ⟨parseMacTable mac, entries, parseCdp cdp, (inspectLldp none [] lldp).neighbors⟩ := by
  rw [collectSlow]
  cases outputs.read .macTable with
  | none => simp
  | some mac =>
    cases outputs.read .arp with
    | none => simp
    | some arp =>
      cases outputs.read .neighbors with
      | none => simp
      | some cdp =>
        cases outputs.read .lldpDetail with
        | none => simp
        | some lldp =>
          cases parsed : parseArp arp with
          | error _ => simp [parsed, Except.toOption]
          | ok entries => simp [parsed, Except.toOption, eq_comm]

theorem exists_collectSlow_iff : (∃ collected, collectSlow outputs = some collected) ↔ outputs.Readable := by
  constructor
  · rintro ⟨collected, h⟩
    obtain ⟨mac, arp, cdp, lldp, entries, readMac, readArp, readCdp, readLldp, parsed, -⟩ :=
      collectSlow_eq_some_iff.mp h
    refine ⟨?_, fun output read => ?_⟩
    · simp [readMac, readArp, readCdp, readLldp]
    · obtain rfl := Option.some_inj.mp (readArp.symm.trans read)
      rw [parsed]
      rfl
  · rintro ⟨read, ages⟩
    obtain ⟨mac, readMac⟩ := Option.isSome_iff_exists.mp (read .macTable (by decide))
    obtain ⟨arp, readArp⟩ := Option.isSome_iff_exists.mp (read .arp (by decide))
    obtain ⟨cdp, readCdp⟩ := Option.isSome_iff_exists.mp (read .neighbors (by decide))
    obtain ⟨lldp, readLldp⟩ := Option.isSome_iff_exists.mp (read .lldpDetail (by decide))
    have isOk := ages arp readArp
    cases parsed : parseArp arp with
    | error _ =>
      rw [parsed] at isOk
      cases isOk
    | ok entries =>
      exact ⟨_, collectSlow_eq_some_iff.mpr
        ⟨mac, arp, cdp, lldp, entries, readMac, readArp, readCdp, readLldp, parsed, rfl⟩⟩

/-- What the slow tier records is complete. -/
theorem of_recordSlowDiscovery {around : Surroundings} {snapshot : LiveSnapshot} {collected : Collected} {poll : Poll}
    (h : recordSlowDiscovery around snapshot collected = some poll) :
    snapshot.Ready ∧ poll.complete = true ∧ poll.input.collected = collected := by
  obtain ⟨cached, topology, h⟩ := Option.bind_eq_some_iff.mp h
  obtain ⟨root, found, h⟩ := Option.bind_eq_some_iff.mp h
  split at h
  · cases h
  · next interfaces =>
    obtain rfl := Option.some_inj.mp h
    refine ⟨⟨⟨cached, topology, root, List.mem_of_find?_eq_some found, ?_⟩, fun none => interfaces (by rw [none]; rfl)⟩,
      rfl, rfl⟩
    simpa using List.find?_some found

theorem exists_recordSlowDiscovery {snapshot : LiveSnapshot} (ready : snapshot.Ready) (around : Surroundings)
    (collected : Collected) : ∃ poll, recordSlowDiscovery around snapshot collected = some poll := by
  obtain ⟨⟨cached, topology, item, known, isRoot⟩, interfaces⟩ := ready
  have found : (cached.devices.find? fun item => item.id = cached.rootDeviceId).isSome = true :=
    List.find?_isSome.mpr ⟨item, known, decide_eq_true isRoot⟩
  obtain ⟨root, found⟩ := Option.isSome_iff_exists.mp found
  rw [recordSlowDiscovery, topology, Option.bind_some, found, Option.bind_some, if_neg (by simpa using interfaces)]
  exact ⟨_, rfl⟩

/-! ### LLDP -/

/-- Where the dashboard finds a rejection in what the slow tier reads, the slow tier finds it too. -/
theorem neighbors_eq_iff (runningConfig : Option Text) (summary detail : Text) :
    (inspectLldp runningConfig summary detail).neighbors = (inspectLldp none [] detail).neighbors ↔
      LldpAlike summary detail := by
  have alone : parseLldp detail [] = parseLldpDetail detail := by
    rw [parseLldp]
    cases parseLldpDetail detail <;> rfl
  rw [neighbors_inspectLldp, neighbors_inspectLldp, alone, LldpAlike]
  show _ = (if unsupported ("\n" ++ detail) then [] else parseLldpDetail detail) ↔ _
  by_cases rejected : unsupported (summary ++ "\n" ++ detail) = true
  · rw [if_pos rejected, if_pos rejected]
    by_cases here : unsupported ("\n" ++ detail) = true
    · rw [if_pos here]
      exact iff_of_true rfl (.inl here)
    · rw [if_neg here]
      exact ⟨fun empty => .inr empty.symm, fun empty => (empty.resolve_left here).symm⟩
  · have notHere : ¬ unsupported ("\n" ++ detail) = true := by
      intro here
      have longer := unsupported_append here summary []
      rw [List.append_nil, ← List.append_assoc] at longer
      exact rejected longer
    rw [if_neg rejected, if_neg rejected, if_neg notHere, parseLldp]
    cases parseLldpDetail detail with
    | nil => simp
    | cons neighbor rest => simp

/-! ### Both -/

/-- **The two ways to collect agree** if and only if what the slow tier can read is also accepted by the dashboard. -/
theorem pathsAgree_iff (around : Surroundings) (snapshot : LiveSnapshot) (identity : SwitchIdentity) (outputs : Outputs) :
    PathsAgree around snapshot identity outputs ↔ (snapshot.Ready → outputs.Readable → outputs.Accepted) := by
  constructor
  · intro agree ready readable
    obtain ⟨collected, slow⟩ := exists_collectSlow_iff.mpr readable
    obtain ⟨poll, recorded⟩ := exists_recordSlowDiscovery ready around collected
    obtain ⟨-, complete, facts⟩ := of_recordSlowDiscovery recorded
    obtain ⟨isComplete, same⟩ := agree poll (Option.bind_eq_some_iff.mpr ⟨collected, slow, recorded⟩) complete
    rw [facts] at same
    obtain ⟨read, interfaces, -⟩ := complete_collectDashboard_iff.mp isComplete
    refine ⟨?_, ?_, ?_⟩
    · obtain ⟨output, here, recognized, section_eq⟩ := exists_of_readSection (read .interfaces)
      rw [section_eq] at interfaces
      exact ⟨output, here, recognized.resolve_right (by decide), interfaces⟩
    · intro name known output here
      obtain ⟨_, here', recognized, -⟩ := exists_of_readSection (read name)
      obtain rfl := Option.some_inj.mp (here.symm.trans here')
      have others : ∀ name ∈ [DiscoverySection.macTable, .arp, .neighbors], ¬ name.isLldp = true := by decide
      exact recognized.resolve_right (others name known)
    · obtain ⟨summary, readSummary, -, summary_eq⟩ := exists_of_readSection (read .lldpSummary)
      refine ⟨summary, readSummary, fun detail readDetail => ?_⟩
      obtain ⟨_, _, _, _, _, _, _, _, readDetail', _, rfl⟩ := collectSlow_eq_some_iff.mp slow
      obtain rfl := Option.some_inj.mp (readDetail.symm.trans readDetail')
      have lldp : (inspectLldp outputs.configText (outputs.readSection .lldpSummary).1
          (outputs.readSection .lldpDetail).1).neighbors = (inspectLldp none [] detail).neighbors :=
        congrArg Collected.lldpNeighbors same
      rw [summary_eq, readSection_eq readDetail (.inr rfl)] at lldp
      exact (neighbors_eq_iff _ _ _).mp lldp
  · intro condition poll slow _
    obtain ⟨collected, collects, recorded⟩ := Option.bind_eq_some_iff.mp slow
    obtain ⟨ready, -, facts⟩ := of_recordSlowDiscovery recorded
    obtain ⟨⟨interfaces, readInterfaces, known, isOk⟩, recognized, summary, readSummary, lldp⟩ :=
      condition ready (exists_collectSlow_iff.mp ⟨collected, collects⟩)
    obtain ⟨mac, arp, cdp, detail, entries, readMac, readArp, readCdp, readDetail, parsed, rfl⟩ :=
      collectSlow_eq_some_iff.mp collects
    have interfaces_eq := readSection_eq readInterfaces (.inl known)
    have mac_eq := readSection_eq readMac (.inl (recognized .macTable (by decide) mac readMac))
    have arp_eq := readSection_eq readArp (.inl (recognized .arp (by decide) arp readArp))
    have cdp_eq := readSection_eq readCdp (.inl (recognized .neighbors (by decide) cdp readCdp))
    have summary_eq := readSection_eq readSummary (.inr rfl)
    have detail_eq := readSection_eq readDetail (.inr rfl)
    refine ⟨complete_collectDashboard_iff.mpr ⟨fun name => ?_, ?_, ?_⟩, ?_⟩
    · cases name with
      | interfaces => rw [interfaces_eq]
      | macTable => rw [mac_eq]
      | neighbors => rw [cdp_eq]
      | lldpSummary => rw [summary_eq]
      | lldpDetail => rw [detail_eq]
      | arp => rw [arp_eq]
    · rw [interfaces_eq]
      exact isOk
    · rw [arp_eq, parsed]
      rfl
    · rw [facts]
      show (⟨parseMacTable (outputs.readSection .macTable).1, (parseSection parseArp (outputs.readSection .arp).1 []).1,
        parseCdp (outputs.readSection .neighbors).1, (inspectLldp outputs.configText
          (outputs.readSection .lldpSummary).1 (outputs.readSection .lldpDetail).1).neighbors⟩ : Collected) = _
      rw [mac_eq, arp_eq, cdp_eq, summary_eq, detail_eq, (neighbors_eq_iff _ _ _).mpr (lldp detail readDetail),
        parseSection, parsed]

end

/-! ### A rejected command -/

/-- IOS rejects the command for the address table; the other tables are empty. -/
def rejectedOutputs : Outputs where
  config := some []
  read
    | .interfaces => some "Port  Name  Status  Vlan  Duplex  Speed  Type\nGi1/0/1  connected  1  a-full  a-1000  copper"
    | .macTable => some "% Invalid input detected at '^' marker."
    | _ => some []

/-- The live state after a dashboard of a switch with one active interface. -/
def liveSnapshot : LiveSnapshot where
  topology := some {
    generatedAt := 0, rootDeviceId := "switch-physical-sw", links := []
    devices := [{ id := "switch-physical-sw", type := .switch, name := "sw", confidence := .high,
                  classificationStage := .category, online := true }] }
  interfaces := [⟨"Gi1/0/1", [], "connected", "1", "a-full", "a-1000", [], false, .unmanaged⟩]

def quietSurroundings : Surroundings where
  localEndpoint _ _ _ _ := { state := .unavailable, detail := [] }
  expected := []
  sourceNamespace := "physical"
  observedAt := 0

/-- The slow tier takes the rejection for an empty table. -/
theorem not_pathsAgree_rejected : ¬ ∀ around snapshot identity outputs, PathsAgree around snapshot identity outputs := by
  intro claimed
  have slow : (slowPoll quietSurroundings liveSnapshot rejectedOutputs).isSome = true := by decide +kernel
  have incomplete : (collectDashboard rejectedOutputs).complete = false := by decide +kernel
  obtain ⟨poll, slow⟩ := Option.isSome_iff_exists.mp slow
  obtain ⟨_, -, recorded⟩ := Option.bind_eq_some_iff.mp slow
  have complete : (collectDashboard rejectedOutputs).complete = true :=
    (claimed quietSurroundings liveSnapshot ⟨"sw", "WS-C2960", "10.0.0.2"⟩ rejectedOutputs poll slow
      (of_recordSlowDiscovery recorded).2.1).1
  rw [incomplete] at complete
  cases complete

end SwitchOps.Topology
