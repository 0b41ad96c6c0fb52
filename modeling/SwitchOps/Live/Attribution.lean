import SwitchOps.Assurance.Preflight
import SwitchOps.Lib.Machine
import SwitchOps.Live.State

/-!
# Which device evidence is stored under

The credential store, the one connection, and the live state with the stores its jobs write to. A
`network` says which switch, by its hostname, answers at an address. Jobs run one after another on
the worker, each over one connection, so a job is one step; between jobs the credentials and the
connection change, and the callback of a failed slow tier reads and writes in two steps, since it
may run in another thread.

`Attributed` says that what is stored under a device was read from that device. It holds in the
runs in which the live cache meets one switch at a time (`attributed_of_reaches`): the cache is
process-wide and keyed by port, and neither new credentials nor a new connection clears it.
-/

namespace SwitchOps

open Machines

/-! ## What is held and stored -/

/-- A value, with a ghost: the addresses of the switches whose command output it was derived
from. -/
structure Sourced (α : Type) where
  value : α
  readFrom : List Text
  deriving DecidableEq, Repr

/-- `LiveState`, as far as evidence goes. -/
structure LiveState where
  interfaces : Interfaces := []
  deviceId : Option Text := none
  topology : Option (Sourced TopologyModel) := none
  health : Option (Sourced HealthAssessment) := none
  reconciliation : Option (Sourced ReconciliationSummary) := none
  deriving DecidableEq, Repr

/-- A row of one of the stores, with the device it is stored under. -/
inductive Evidence
  | event (event : NetworkEvent)
  | observation (topology : TopologyModel)
  | sample (deviceId : Text)
  | configuration (deviceId : Text)
  | reconciliation (deviceId : Text)
  deriving DecidableEq, Repr

def Evidence.deviceId : Evidence → Text
  | .event e => e.deviceId
  | .observation topology => topology.rootDeviceId
  | .sample deviceId | .configuration deviceId | .reconciliation deviceId => deviceId

/-- What a plan is bound to: its device id, and (a ghost) the address that it was made for. -/
structure PlanTarget where
  deviceId : Text
  host : Text
  deriving DecidableEq, Repr

/-- The connection and the stores. The last two fields are ghosts: the pairs of addresses between
whose outputs a transition was derived, and what was supplied for which plan. -/
structure LiveOperations where
  credentials : Option Text := none
  connection : Option Text := none
  live : LiveState := {}
  aging : List (Sourced TopologyModel) := []
  plans : List PlanTarget := []
  stored : List (Sourced Evidence) := []
  published : List (Sourced TopologyModel) := []
  transitions : List (Text × Text) := []
  supplied : List (PlanTarget × List Text) := []
  deriving DecidableEq, Repr

/-- What the outputs of a dashboard come to: whether the hostname was read, the topology, health
and reconciliation made of the outputs, the events, and which stores took their part. -/
structure DashboardReading where
  named : Bool
  topology : TopologyModel
  health : HealthAssessment
  reconciliation : ReconciliationSummary
  events : List NetworkEvent := []
  observed : Bool := true
  sampled : Bool := true
  configured : Bool := true
  reconciled : Bool := true

inductive LiveAction
  /-- `setup_credentials` and `clear_credentials`. -/
  | setup (host : Text)
  | clear
  /-- The worker connects, and the connection is lost. -/
  | connect
  | lose
  | dashboard (reading : DashboardReading)
  /-- The tiers, with what the policy says of each port and which events the store takes. -/
  | fast (timestamp : Nat) (output : Text) (policy : Text → PolicyState)
      (persists : InterfaceChange → Bool)
  | poe (timestamp : Nat) (output : Text) (persists : PoeChange → Bool)
  | slow (contents : TopologyModel) (persists : Bool)
  /-- `_record_slow_failure` reads the cached topology, and publishes it aged or gives it up. -/
  | beginAging
  | publishAged (i : Nat) (contents : TopologyModel)
  | dropAging (i : Nat)
  /-- A plan is made, and a transaction reads the assurance context for it. -/
  | plan
  | context (plan : PlanTarget)

/-- The switch as the first device of its own topology. -/
def TopologyModel.withRoot (topology : TopologyModel) (root : NetworkDevice) : TopologyModel :=
  { topology with rootDeviceId := root.id, devices := root :: topology.devices }

/-- `next(item for item in cached.devices if item.id == cached.root_device_id)` -/
def TopologyModel.root? (topology : TopologyModel) : Option NetworkDevice :=
  topology.devices.find? fun device => device.id = topology.rootDeviceId

/-- The device `build_topology` makes of the switch itself. -/
def rootDevice (hostname : Text) : NetworkDevice :=
  { id := switchDeviceId hostname, name := hostname }

/-- The outputs an interface of the live state was derived from; a PoE state counts where it is
set. -/
def LiveInterface.sources (item : LiveInterface) : List Text :=
  item.readFrom :: if item.poeState.isEmpty then [] else item.poeFrom.toList

/-- `InterfacePolicyStore.annotate` -/
def InterfaceStatus.annotate (policy : Text → PolicyState) (row : InterfaceStatus) :
    InterfaceStatus :=
  { row with policyState := policy row.port, isProtected := policy row.port = .isProtected }

namespace LiveOperations

/-! ## The jobs -/

/-- The outputs that what is stored under a device was derived from. -/
def held (s : LiveOperations) (deviceId : Text) : List Text :=
  (s.stored.filter fun evidence => evidence.value.deviceId = deviceId).flatMap (·.readFrom)

/-- Store evidence of the given outputs. -/
def store (s : LiveOperations) (readFrom : List Text) (evidence : List Evidence) : LiveOperations :=
  { s with stored := evidence.map (⟨·, readFrom⟩) ++ s.stored }

/-- `apply_topology` -/
def publish (s : LiveOperations) (topology : Sourced TopologyModel) : LiveOperations :=
  { s with
    live := { s.live with topology := some topology }
    published := topology :: s.published }

/-- `_collect_dashboard` over the connection to `host`. Whatever it derives, the topology with its
history, the events and the health, may rest on what the stores hold under the same device. -/
def collectDashboard (network : Text → Text) (s : LiveOperations) (host : Text)
    (reading : DashboardReading) : LiveOperations :=
  let root := rootDevice (if reading.named then network host else "Unknown".toList)
  let earlier := s.held root.id
  let readFrom := host :: earlier
  let topology := reading.topology.withRoot root
  let evidence :=
    (if reading.observed then [Evidence.observation topology] else []) ++
    (if reading.sampled then [Evidence.sample root.id] else []) ++
    (if reading.configured then [Evidence.configuration root.id] else []) ++
    (if reading.reconciled then [Evidence.reconciliation root.id] else []) ++
    reading.events.map fun event => Evidence.event { event with deviceId := root.id }
  let s := (s.store readFrom evidence).publish ⟨topology, readFrom⟩
  { s with
    live := { s.live with
      deviceId := some root.id
      health := some ⟨reading.health, readFrom⟩
      reconciliation := some ⟨reading.reconciliation, readFrom⟩ }
    transitions := earlier.map (·, host) ++ s.transitions }

/-- `collect_fast` over the connection to `host`, with `_record_interface_transitions`. -/
def collectFast (s : LiveOperations) (host : Text) (timestamp : Nat) (rows : List InterfaceStatus)
    (persists : InterfaceChange → Bool) : LiveOperations :=
  let (interfaces, changes) := s.live.interfaces.applyInterfaces host rows
  let events := s.live.deviceId.toList.flatMap fun deviceId =>
    (changes.filter persists).filterMap fun change =>
      (change.event deviceId timestamp).map fun event =>
        ⟨Evidence.event event, [change.before.readFrom, change.after.readFrom]⟩
  { s with
    live := { s.live with interfaces := interfaces }
    stored := events ++ s.stored
    transitions := changes.map (fun change => (change.before.readFrom, change.after.readFrom)) ++
      s.transitions }

/-- `collect_medium` for PoE over the connection to `host`, with `_record_poe_transitions`. -/
def collectPoe (s : LiveOperations) (host : Text) (timestamp : Nat) (ports : List PoePort)
    (persists : PoeChange → Bool) : LiveOperations :=
  let (interfaces, changes) := s.live.interfaces.applyPoe host ports
  let events := s.live.deviceId.toList.flatMap fun deviceId =>
    (changes.filter persists).map fun change =>
      ⟨Evidence.event (change.event deviceId timestamp),
        change.beforeFrom.toList ++ [change.afterFrom]⟩
  { s with
    live := { s.live with interfaces := interfaces }
    stored := events ++ s.stored
    transitions := changes.flatMap (fun change =>
      change.beforeFrom.toList.map (·, change.afterFrom)) ++ s.transitions }

/-- `_record_slow_discovery` over the connection to `host`: the cached topology supplies the switch,
the live state its interfaces. -/
def collectSlow (s : LiveOperations) (host : Text) (contents : TopologyModel) : LiveOperations :=
  match s.live.topology with
  | none => s
  | some cached =>
    match cached.value.root? with
    | none => s
    | some root =>
      if s.live.interfaces.isEmpty then s
      else
        let root := rootDevice root.name
        let updated := contents.withRoot root
        let readFrom := host :: cached.readFrom ++
          s.live.interfaces.values.flatMap LiveInterface.sources ++ s.held root.id
        (s.store readFrom [.observation updated]).publish ⟨updated, readFrom⟩

/-- `_record_slow_failure` from its read on, `cached` being what it read. -/
def publishAging (s : LiveOperations) (cached : Sourced TopologyModel) (contents : TopologyModel) :
    LiveOperations :=
  match cached.value.root? with
  | none => s
  | some root =>
    let aged := contents.withRoot root
    let readFrom := cached.readFrom ++ s.held root.id
    (s.store readFrom [.observation aged]).publish ⟨aged, readFrom⟩

/-- What `_assurance_context` supplies rests on. -/
def contextSources (s : LiveOperations) : List Text :=
  (s.live.topology.map (·.readFrom)).getD [] ++ (s.live.reconciliation.map (·.readFrom)).getD [] ++
    (s.live.health.map (·.readFrom)).getD []

/-- One step. -/
def step [Digest] (network : Text → Text) (s : LiveOperations) : LiveAction → Option LiveOperations
  | .setup host => some { s with credentials := some host }
  | .clear => some { s with credentials := none }
  | .connect =>
    if s.connection.isNone then s.credentials.map fun host => { s with connection := some host }
    else none
  | .lose => some { s with connection := none }
  | .dashboard reading => s.connection.map fun host => s.collectDashboard network host reading
  | .fast timestamp output policy persists =>
    s.connection.map fun host =>
      match parseInterfaceStatus output with
      | .error _ => s
      | .ok rows => s.collectFast host timestamp (rows.map (·.annotate policy)) persists
  | .poe timestamp output persists =>
    s.connection.map fun host => s.collectPoe host timestamp (parsePoe output) persists
  | .slow contents persists =>
    s.connection.map fun host => if persists then s.collectSlow host contents else s
  | .beginAging => s.live.topology.map fun cached => { s with aging := s.aging ++ [cached] }
  | .publishAged i contents =>
    s.aging[i]?.map fun cached =>
      { s.publishAging cached contents with aging := s.aging.eraseIdx i }
  | .dropAging i => some { s with aging := s.aging.eraseIdx i }
  | .plan =>
    match s.credentials with
    | some (ch :: rest) =>
      let host := ch :: rest
      some { s with plans := ⟨deviceIdOf host, host⟩ :: s.plans }
    | _ => none
  | .context plan =>
    if plan ∈ s.plans ∧ s.connection.isSome then
      some { s with supplied := (plan, s.contextSources) :: s.supplied }
    else none

/-! ## Attribution -/

/-- What is stored or published under a device was read from that device, no transition was derived
between two switches, and what was supplied for a plan was read from the device of the plan. -/
structure Attributed [Digest] (network : Text → Text) (s : LiveOperations) : Prop where
  stored : ∀ evidence ∈ s.stored, ∀ address ∈ evidence.readFrom,
    switchDeviceId (network address) = evidence.value.deviceId
  published : ∀ topology ∈ s.published, ∀ address ∈ topology.readFrom,
    switchDeviceId (network address) = topology.value.rootDeviceId
  transitions : ∀ transition ∈ s.transitions, network transition.1 = network transition.2
  supplied : ∀ entry ∈ s.supplied, entry.1.deviceId = deviceIdOf entry.1.host ∧
    ∀ address ∈ entry.2, network address = network entry.1.host

/-- The condition on the fast tier, for the rows of a sample: a row differs from what is held of
its port only where that was read from the same switch, and shows nothing worth an event, against
what is held or another row, while the live state bears another device's id. -/
def RowsApart (network : Text → Text) (live : LiveState) (host : Text)
    (rows : List InterfaceStatus) : Prop :=
  ∀ row ∈ rows,
    (∀ before ∈ live.interfaces.get? row.port,
      before.comparable ≠ (LiveInterface.ofRow host row).comparable →
        network before.readFrom = network host) ∧
    ((∃ before ∈ live.interfaces.get? row.port, before.noteworthy (.ofRow host row)) ∨
      (∃ row' ∈ rows, row'.port = row.port ∧
        (LiveInterface.ofRow host row').noteworthy (.ofRow host row)) →
      ∀ deviceId ∈ live.deviceId, deviceId = switchDeviceId (network host))

/-- The condition on the PoE tier: the same for the PoE state. -/
def PortsApart (network : Text → Text) (live : LiveState) (host : Text) (ports : List PoePort) :
    Prop :=
  ∀ port ∈ ports, ∀ before ∈ live.interfaces.get? port.interface,
    (before.poeState ≠ port.oper → ∀ address ∈ before.poeFrom, network address = network host) ∧
    (before.poeState ≠ port.oper ∨
      (∃ port' ∈ ports, port'.interface = port.interface ∧ port'.oper ≠ port.oper) →
      ∀ deviceId ∈ live.deviceId, deviceId = switchDeviceId (network host))

/-- A step of a job is taken while what it combines with its own outputs is of the same switch. -/
def KeepsApart (network : Text → Text) (s : LiveOperations) : LiveAction → Prop
  | .dashboard reading => reading.named ∨ s.connection.map network = some "Unknown".toList
  | .fast _ output policy _ =>
    ∀ host ∈ s.connection, ∀ rows ∈ (parseInterfaceStatus output).toOption,
      RowsApart network s.live host (rows.map (·.annotate policy))
  | .poe _ output _ =>
    ∀ host ∈ s.connection, PortsApart network s.live host (parsePoe output)
  | .slow _ persists =>
    persists → s.live.interfaces ≠ [] → ∀ host ∈ s.connection, ∀ cached ∈ s.live.topology,
      switchDeviceId (network host) = cached.value.rootDeviceId ∧
      ∀ item ∈ s.live.interfaces.values, ∀ address ∈ item.sources,
        network address = network host
  | .context plan =>
    (∀ deviceId ∈ s.live.deviceId, deviceId = switchDeviceId (network plan.host)) ∧
    ∀ cached ∈ s.live.topology, cached.value.rootDeviceId = switchDeviceId (network plan.host)
  | _ => True

/-- No two switches of the network have the same device id. -/
def DistinctIds (network : Text → Text) : Prop :=
  ∀ a b, switchDeviceId (network a) = switchDeviceId (network b) → network a = network b

/-- All of the outputs are of the switch with the given id. -/
def From (network : Text → Text) (deviceId : Text) (readFrom : List Text) : Prop :=
  ∀ address ∈ readFrom, switchDeviceId (network address) = deviceId

/-- A topology of the outputs of one switch, which names that switch. -/
structure Owned (network : Text → Text) (topology : Sourced TopologyModel) : Prop where
  root : ∀ root ∈ topology.value.root?, switchDeviceId root.name = topology.value.rootDeviceId
  readFrom : From network topology.value.rootDeviceId topology.readFrom

/-- The invariant: what is held is of one switch as well. -/
structure Apart [Digest] (network : Text → Text) (s : LiveOperations) : Prop
    extends Attributed network s where
  topology : ∀ cached ∈ s.live.topology, Owned network cached
  aging : ∀ cached ∈ s.aging, Owned network cached
  health : ∀ health ∈ s.live.health, ∃ deviceId ∈ s.live.deviceId,
    From network deviceId health.readFrom
  reconciliation : ∀ summary ∈ s.live.reconciliation, ∃ deviceId ∈ s.live.deviceId,
    From network deviceId summary.readFrom
  plans : ∀ plan ∈ s.plans, plan.deviceId = deviceIdOf plan.host

theorem root?_withRoot (topology : TopologyModel) (root : NetworkDevice) :
    (topology.withRoot root).root? = some root := by
  simp [TopologyModel.withRoot, TopologyModel.root?]

namespace Apart

variable [Digest] {network : Text → Text} {s t : LiveOperations} {host : Text}

theorem initial : Apart network {} := by
  constructor <;> (try constructor) <;> simp

theorem held (h : Apart network s) (deviceId : Text) : From network deviceId (s.held deviceId) := by
  intro address mem
  obtain ⟨evidence, kept, mem⟩ := List.mem_flatMap.mp mem
  obtain ⟨stored, id⟩ := List.mem_filter.mp kept
  rw [h.stored evidence stored address mem]
  simpa using id

/-- New evidence, and a topology made of the same outputs, are stored and published. -/
theorem publish (h : Apart network s) {topology : Sourced TopologyModel}
    (owned : Owned network topology) {evidence : List Evidence}
    (same : ∀ e ∈ evidence, e.deviceId = topology.value.rootDeviceId) :
    Apart network ((s.store topology.readFrom evidence).publish topology) where
  stored := by
    intro e mem address read
    obtain new | old := List.mem_append.mp mem
    · obtain ⟨e', given, rfl⟩ := List.mem_map.mp new
      exact (owned.readFrom address read).trans (same e' given).symm
    · exact h.stored e old address read
  published := by
    intro t mem
    obtain rfl | old := List.mem_cons.mp mem
    · exact owned.readFrom
    · exact h.published t old
  transitions := h.transitions
  supplied := h.supplied
  topology := by
    intro cached mem
    obtain rfl := Option.some.inj mem
    exact owned
  aging := h.aging
  health := h.health
  reconciliation := h.reconciliation
  plans := h.plans

/-- The interfaces change, and events and transitions come of it. -/
theorem sample (h : Apart network s) (interfaces : Interfaces) {events : List (Sourced Evidence)}
    {transitions : List (Text × Text)}
    (from_ : ∀ e ∈ events, From network e.value.deviceId e.readFrom)
    (same : ∀ transition ∈ transitions, network transition.1 = network transition.2) :
    Apart network { s with
      live := { s.live with interfaces := interfaces }
      stored := events ++ s.stored
      transitions := transitions ++ s.transitions } where
  stored e mem := (List.mem_append.mp mem).elim (from_ e) (h.stored e)
  published := h.published
  transitions t mem := (List.mem_append.mp mem).elim (same t) (h.transitions t)
  supplied := h.supplied
  topology := h.topology
  aging := h.aging
  health := h.health
  reconciliation := h.reconciliation
  plans := h.plans

theorem collectDashboard (h : Apart network s) (distinct : DistinctIds network)
    {reading : DashboardReading} (named : reading.named ∨ network host = "Unknown".toList) :
    Apart network (s.collectDashboard network host reading) := by
  have name : (if reading.named then network host else "Unknown".toList) = network host := by
    obtain named | unknown := named
    · exact if_pos named
    · rw [unknown, ite_self]
  unfold LiveOperations.collectDashboard
  rw [name]
  extract_lets root earlier readFrom topology evidence s'
  have from_ : From network root.id readFrom := by
    intro address mem
    obtain rfl | mem := List.mem_cons.mp mem
    · rfl
    · exact h.held root.id address mem
  have owned : Owned network ⟨topology, readFrom⟩ := by
    refine ⟨fun root' found => ?_, from_⟩
    rw [root?_withRoot] at found
    obtain rfl := Option.some.inj found
    rfl
  have published : Apart network s' := by
    refine h.publish owned fun e mem => ?_
    simp only [evidence, List.mem_append, List.mem_map] at mem
    obtain (((mem | mem) | mem) | mem) | ⟨e', -, rfl⟩ := mem
    case inr => rfl
    all_goals
      split at mem
      · obtain rfl := List.mem_singleton.mp mem
        rfl
      · simp at mem
  refine { published with
    transitions := ?transitions, health := ?health, reconciliation := ?reconciliation
    topology := published.topology }
  case transitions =>
    intro transition mem
    obtain new | old := List.mem_append.mp mem
    · obtain ⟨address, earlier, rfl⟩ := List.mem_map.mp new
      exact distinct _ _ (h.held root.id address earlier)
    · exact published.transitions transition old
  case health =>
    intro health mem
    obtain rfl := Option.some.inj mem
    exact ⟨root.id, rfl, from_⟩
  case reconciliation =>
    intro summary mem
    obtain rfl := Option.some.inj mem
    exact ⟨root.id, rfl, from_⟩

theorem collectFast (h : Apart network s) {timestamp : Nat} {rows : List InterfaceStatus}
    {persists : InterfaceChange → Bool} (apart : RowsApart network s.live host rows) :
    Apart network (s.collectFast host timestamp rows persists) := by
  have sampled := s.live.interfaces.sampled_applyInterfaces host rows
  -- a transition starts from what the connected switch showed before
  have same : ∀ change ∈ (s.live.interfaces.applyInterfaces host rows).2,
      change.after.readFrom = host ∧ network change.before.readFrom = network host := by
    intro change mem
    obtain ⟨differ, row, row_mem, ⟨after, shown⟩, held | ⟨row', -, -, before, -⟩⟩ :=
      sampled.revealed change mem
    · refine ⟨after, (apart row row_mem).1 change.before held ?_⟩
      rwa [shown] at differ
    · exact ⟨after, by rw [before]⟩
  have device : ∀ change ∈ (s.live.interfaces.applyInterfaces host rows).2,
      change.before.noteworthy change.after →
        ∀ deviceId ∈ s.live.deviceId, deviceId = switchDeviceId (network host) := by
    intro change mem noteworthy
    obtain ⟨-, row, row_mem, ⟨-, shown⟩, held | ⟨row', row'_mem, port, -, before⟩⟩ :=
      sampled.revealed change mem
    · rw [LiveInterface.noteworthy_congr rfl shown] at noteworthy
      exact (apart row row_mem).2 (.inl ⟨change.before, held, noteworthy⟩)
    · rw [LiveInterface.noteworthy_congr before shown] at noteworthy
      exact (apart row row_mem).2 (.inr ⟨row', row'_mem, port, noteworthy⟩)
  refine h.sample _ ?_ ?_
  · intro e mem
    simp only [List.mem_flatMap, Option.mem_toList, List.mem_filterMap, List.mem_filter,
      Option.map_eq_some_iff] at mem
    obtain ⟨deviceId, id, change, ⟨change_mem, -⟩, event, made, rfl⟩ := mem
    obtain ⟨under, noteworthy⟩ := InterfaceChange.of_event made
    intro address read
    show _ = event.deviceId
    rw [under, device change change_mem noteworthy deviceId id]
    obtain ⟨after, before⟩ := same change change_mem
    simp only [List.mem_cons, List.not_mem_nil, or_false] at read
    obtain rfl | rfl := read
    · rw [before]
    · rw [after]
  · intro transition mem
    obtain ⟨change, change_mem, rfl⟩ := List.mem_map.mp mem
    obtain ⟨after, before⟩ := same change change_mem
    simpa [after] using before

theorem collectPoe (h : Apart network s) {timestamp : Nat} {ports : List PoePort}
    {persists : PoeChange → Bool} (apart : PortsApart network s.live host ports) :
    Apart network (s.collectPoe host timestamp ports persists) := by
  have sampled := s.live.interfaces.poeSampled_applyPoe host ports
  have same : ∀ change ∈ (s.live.interfaces.applyPoe host ports).2, change.afterFrom = host ∧
      (∀ address ∈ change.beforeFrom, network address = network host) ∧
      ∀ deviceId ∈ s.live.deviceId, deviceId = switchDeviceId (network host) := by
    intro change mem
    obtain ⟨differ, after, ⟨row, row_mem, port, oper⟩, item, held, seen⟩ :=
      sampled.revealed change mem
    rw [← port] at held
    obtain ⟨poe, device⟩ := apart row row_mem item held
    refine ⟨after, ?_⟩
    obtain ⟨state, readFrom⟩ | ⟨row', row'_mem, port', oper', readFrom⟩ := seen
    · have differ' : item.poeState ≠ row.oper := by rwa [state, oper]
      exact ⟨by rw [← readFrom]; exact poe differ', device (.inl differ')⟩
    · refine ⟨by simp [readFrom], device (.inr ⟨row', row'_mem, port'.trans port.symm, ?_⟩)⟩
      rwa [oper', oper]
  refine h.sample _ ?_ ?_
  · intro e mem
    simp only [List.mem_flatMap, Option.mem_toList, List.mem_map, List.mem_filter] at mem
    obtain ⟨deviceId, id, change, ⟨change_mem, -⟩, rfl⟩ := mem
    obtain ⟨after, before, device⟩ := same change change_mem
    intro address read
    show _ = deviceId
    rw [device deviceId id]
    obtain earlier | now := List.mem_append.mp read
    · rw [before address (Option.mem_toList.mp earlier)]
    · obtain rfl := List.mem_singleton.mp now
      rw [after]
  · intro transition mem
    simp only [List.mem_flatMap, List.mem_map, Option.mem_toList] at mem
    obtain ⟨change, change_mem, address, earlier, rfl⟩ := mem
    obtain ⟨after, before, -⟩ := same change change_mem
    simpa [after] using before address earlier

theorem collectSlow (h : Apart network s) {contents : TopologyModel}
    (apart : s.live.interfaces ≠ [] → ∀ cached ∈ s.live.topology,
      switchDeviceId (network host) = cached.value.rootDeviceId ∧
      ∀ item ∈ s.live.interfaces.values, ∀ address ∈ item.sources,
        network address = network host) :
    Apart network (s.collectSlow host contents) := by
  unfold LiveOperations.collectSlow
  split
  · exact h
  · next cached held =>
    split
    · exact h
    · next root found =>
      split
      · exact h
      · next some_ =>
        obtain ⟨here, interfaces⟩ := apart (by simpa using some_) cached held
        have owned := h.topology cached held
        have id : switchDeviceId root.name = cached.value.rootDeviceId := owned.root root found
        refine h.publish ⟨fun root' found => ?_, fun address mem => ?_⟩ (by simp [Evidence.deviceId])
        · rw [root?_withRoot] at found
          obtain rfl := Option.some.inj found
          rfl
        · show _ = switchDeviceId root.name
          obtain ((connected | topology) | live) | history :
              ((address = host ∨ address ∈ cached.readFrom) ∨
                address ∈ s.live.interfaces.values.flatMap LiveInterface.sources) ∨
              address ∈ s.held (rootDevice root.name).id := by
            simpa [or_assoc] using mem
          · rw [connected, here, id]
          · rw [id]
            exact owned.readFrom address topology
          · obtain ⟨item, item_mem, source⟩ := List.mem_flatMap.mp live
            rw [interfaces item item_mem address source, here, id]
          · exact h.held _ address history

theorem publishAging (h : Apart network s) {cached : Sourced TopologyModel}
    (owned : Owned network cached) (contents : TopologyModel) :
    Apart network (s.publishAging cached contents) := by
  unfold LiveOperations.publishAging
  split
  · exact h
  · next root found =>
    have id : root.id = cached.value.rootDeviceId := by
      simpa using List.find?_some found
    refine h.publish ⟨fun root' found' => ?_, fun address mem => ?_⟩ (by simp [Evidence.deviceId])
    · rw [root?_withRoot] at found'
      obtain rfl := Option.some.inj found'
      exact (owned.root root found).trans id.symm
    · show _ = root.id
      obtain topology | history := List.mem_append.mp mem
      · rw [id]
        exact owned.readFrom address topology
      · exact h.held _ address history

/-- What a context supplies is of the switch whose id the live state and its topology bear. -/
theorem context (h : Apart network s) (distinct : DistinctIds network)
    (device : ∀ deviceId ∈ s.live.deviceId, deviceId = switchDeviceId (network host))
    (topology : ∀ cached ∈ s.live.topology,
      cached.value.rootDeviceId = switchDeviceId (network host)) :
    ∀ address ∈ s.contextSources, network address = network host := by
  have own : ∀ {α : Type} (held : Option (Sourced α)), (∀ v ∈ held,
      ∃ deviceId ∈ s.live.deviceId, From network deviceId v.readFrom) →
      ∀ address ∈ (held.map (·.readFrom)).getD [], network address = network host := by
    intro α held from_ address mem
    cases held with
    | none => simp at mem
    | some v =>
      obtain ⟨deviceId, id, from_⟩ := from_ v rfl
      exact distinct _ _ ((from_ address mem).trans (device deviceId id))
  intro address mem
  obtain (mem | mem) | mem : ((address ∈ (s.live.topology.map (·.readFrom)).getD [] ∨
      address ∈ (s.live.reconciliation.map (·.readFrom)).getD []) ∨
      address ∈ (s.live.health.map (·.readFrom)).getD []) := by
    simpa [LiveOperations.contextSources, or_assoc] using mem
  · cases held : s.live.topology with
    | none => simp [held] at mem
    | some cached =>
      have read : address ∈ cached.readFrom := by simpa [held] using mem
      exact distinct _ _
        (((h.topology cached held).readFrom address read).trans (topology cached held))
  · exact own _ h.reconciliation address mem
  · exact own _ h.health address mem

/-- Every step that keeps switches apart keeps the invariant. -/
theorem step (h : Apart network s) (distinct : DistinctIds network) {a : LiveAction}
    (apart : s.KeepsApart network a) (taken : s.step network a = some t) : Apart network t := by
  have pass : ∀ t : LiveOperations, t.live = s.live → t.stored = s.stored →
      t.published = s.published → t.transitions = s.transitions → t.supplied = s.supplied →
      (∀ cached ∈ t.aging, Owned network cached) →
      (∀ plan ∈ t.plans, plan.deviceId = deviceIdOf plan.host) → Apart network t := by
    intro t live stored published transitions supplied aging plans
    exact ⟨⟨stored ▸ h.stored, published ▸ h.published, transitions ▸ h.transitions,
      supplied ▸ h.supplied⟩, live ▸ h.topology, aging, live ▸ h.health, live ▸ h.reconciliation,
      plans⟩
  cases a with
  | setup host | clear | lose =>
    cases taken
    exact pass _ rfl rfl rfl rfl rfl h.aging h.plans
  | connect =>
    simp only [LiveOperations.step] at taken
    split at taken
    · obtain ⟨host, -, rfl⟩ := Option.map_eq_some_iff.mp taken
      exact pass _ rfl rfl rfl rfl rfl h.aging h.plans
    · cases taken
  | dashboard reading =>
    obtain ⟨host, connected, rfl⟩ := Option.map_eq_some_iff.mp taken
    refine h.collectDashboard distinct ?_
    simpa [LiveOperations.KeepsApart, connected] using apart
  | fast timestamp output policy persists =>
    obtain ⟨host, connected, rfl⟩ := Option.map_eq_some_iff.mp taken
    cases parsed : parseInterfaceStatus output with
    | error exc => exact h
    | ok rows => exact h.collectFast (apart host connected rows (by simp [parsed, Except.toOption]))
  | poe timestamp output persists =>
    obtain ⟨host, connected, rfl⟩ := Option.map_eq_some_iff.mp taken
    exact h.collectPoe (apart host connected)
  | slow contents persists =>
    obtain ⟨host, connected, rfl⟩ := Option.map_eq_some_iff.mp taken
    split
    · next persists => exact h.collectSlow fun held => apart persists held host connected
    · exact h
  | beginAging =>
    obtain ⟨cached, held, rfl⟩ := Option.map_eq_some_iff.mp taken
    refine pass _ rfl rfl rfl rfl rfl (fun other mem => ?_) h.plans
    obtain old | new := List.mem_append.mp mem
    · exact h.aging other old
    · obtain rfl := List.mem_singleton.mp new
      exact h.topology other held
  | publishAged i contents =>
    obtain ⟨cached, held, rfl⟩ := Option.map_eq_some_iff.mp taken
    have owned := h.aging cached (List.mem_of_getElem? held)
    have after := h.publishAging owned contents
    exact { after with aging := fun other mem => h.aging other (List.mem_of_mem_eraseIdx mem) }
  | dropAging i =>
    cases taken
    exact pass _ rfl rfl rfl rfl rfl (fun other mem => h.aging other (List.mem_of_mem_eraseIdx mem))
      h.plans
  | plan =>
    simp only [LiveOperations.step] at taken
    split at taken
    · cases taken
      refine pass _ rfl rfl rfl rfl rfl h.aging fun plan mem => ?_
      obtain rfl | old := List.mem_cons.mp mem
      · rfl
      · exact h.plans plan old
    · cases taken
  | context plan =>
    simp only [LiveOperations.step] at taken
    split at taken
    · next made =>
      cases taken
      have own := h.context distinct apart.1 apart.2
      refine { h with supplied := fun entry mem => ?_ }
      obtain rfl | old := List.mem_cons.mp mem
      · exact ⟨h.plans plan made.1, own⟩
      · exact h.supplied entry old
    · cases taken

end Apart

instance (network : Text → Text) (live : LiveState) (host : Text) (rows : List InterfaceStatus) :
    Decidable (RowsApart network live host rows) :=
  inferInstanceAs (Decidable (∀ row ∈ rows, _ ∧ _))

instance (network : Text → Text) (live : LiveState) (host : Text) (ports : List PoePort) :
    Decidable (PortsApart network live host ports) :=
  inferInstanceAs (Decidable (∀ port ∈ ports, ∀ before ∈ live.interfaces.get? port.interface, _ ∧ _))

instance (network : Text → Text) (s : LiveOperations) :
    (a : LiveAction) → Decidable (s.KeepsApart network a)
  | .dashboard _ => inferInstanceAs (Decidable (_ ∨ _))
  | .fast _ _ _ _ => inferInstanceAs (Decidable (∀ host ∈ s.connection, ∀ rows ∈ _, RowsApart _ _ _ _))
  | .poe _ _ _ => inferInstanceAs (Decidable (∀ host ∈ s.connection, PortsApart _ _ _ _))
  | .slow _ _ => inferInstanceAs (Decidable (_ → _ → ∀ host ∈ s.connection, ∀ cached ∈ _, _ ∧ _))
  | .context _ => inferInstanceAs (Decidable (_ ∧ _))
  | .setup _ | .clear | .connect | .lose | .beginAging | .publishAged _ _ | .dropAging _ | .plan =>
    inferInstanceAs (Decidable True)

/-! ## Attribution along runs -/

/-- Whatever is configured, connected and collected, in whatever order: as long as no two switches
have the same device id and no job combines what is held of one switch with the outputs of
another, what is stored, published and supplied is of the device it is stored under. -/
theorem attributed_of_reaches [Digest] {network : Text → Text} {s : LiveOperations}
    (distinct : DistinctIds network)
    (run : Reaches (step network) (KeepsApart network) {} s) : Attributed network s := by
  have inv : Apart network s :=
    run.invariant Apart.initial fun _ _ _ h apart taken => h.step distinct apart taken
  exact inv.toAttributed

/-- Two switches. -/
def twoSwitches (host : Text) : Text :=
  if host = sampleHost then "core" else "edge"

def bareReading : DashboardReading where
  named := true
  topology := ⟨0, [], [], [], []⟩
  health := ⟨"HEALTHY", []⟩
  reconciliation := ⟨[]⟩

/-- `show interfaces status` with one row. -/
def statusSample (port status : Text) : Text :=
  "Port      Name               Status       Vlan       Duplex  Speed Type\n".toList ++ port ++
    "   Desk               ".toList ++ status ++ "  10         a-full  a-1000 10/100BaseTX\n".toList

def poeSample (port oper : Text) : Text :=
  port ++ " auto ".toList ++ oper ++ " 15.4 IP Phone 3 30.0\n".toList

def fastSample (port status : Text) : LiveAction :=
  .fast 5 (statusSample port status) (fun _ => .operable) (fun _ => true)

/-- The connection moves to another switch. -/
def moveTo (host : Text) : List LiveAction := [.setup host, .lose, .connect]

theorem twoSwitches_distinct : DistinctIds twoSwitches := by
  intro a b same
  have differ : switchDeviceId "core" ≠ switchDeviceId "edge" := by decide +kernel
  unfold twoSwitches at same ⊢
  split at same <;> split at same <;> simp_all

/-- Two switches in turn, each with its dashboard, its tiers and a plan of its own; they have no
port in common. -/
def inTurn : List LiveAction :=
  moveTo sampleHost ++ [.dashboard bareReading, fastSample "Gi1/0/6" "connected  ",
    fastSample "Gi1/0/6" "notconnect ", .poe 6 (poeSample "Gi1/0/6" "on") fun _ => true,
    .slow bareReading.topology true, .beginAging, .plan,
    .context ⟨@deviceIdOf sampleDigest sampleHost, sampleHost⟩] ++
  moveTo "192.0.2.11" ++ [.dashboard bareReading, fastSample "Gi2/0/1" "connected  ", .plan,
    .context ⟨@deviceIdOf sampleDigest "192.0.2.11", "192.0.2.11"⟩,
    .publishAged 0 bareReading.topology]

theorem attributed_of_reaches_inTurn :
    ∃ s, @Attributed sampleDigest twoSwitches s ∧ s.stored.length = 12 ∧
      s.supplied.length = 2 := by
  obtain ⟨s, run, last⟩ := exists_reaches_of_run_guarded (@LiveOperations.step sampleDigest twoSwitches)
    (KeepsApart twoSwitches) {} inTurn (fun s => s.stored.length = 12 ∧ s.supplied.length = 2)
    (by decide +kernel)
  exact ⟨s, @attributed_of_reaches sampleDigest _ _ twoSwitches_distinct run, of_decide_eq_true last⟩

/-- The connection moves to another switch between two fast samples, and the slow tier follows. -/
def rehomed : List LiveAction :=
  moveTo sampleHost ++ [.dashboard bareReading, fastSample "Gi1/0/6" "connected  "] ++
  moveTo "192.0.2.11" ++ [fastSample "Gi1/0/6" "notconnect ", .slow bareReading.topology true]

/-- New credentials are stored under a connection that stays, and a plan is made. -/
def planElsewhere : List LiveAction :=
  moveTo sampleHost ++ [.dashboard bareReading, .setup "192.0.2.11", .plan,
    .context ⟨@deviceIdOf sampleDigest "192.0.2.11", "192.0.2.11"⟩]

/-- A dashboard reads neither the configuration nor the version. -/
def unnamed : List LiveAction :=
  moveTo sampleHost ++ [.dashboard { bareReading with named := false }]

/-- Two switches whose hostnames have the same slug. -/
def sameSlug (host : Text) : Text := if host = sampleHost then "core-1" else "core_1"

/-- The evidence under the id of another switch, the transition between two switches, the topology
of one switch under the id of the other, and the context of the wrong switch; then the two causes
that lie in the hostnames. -/
theorem not_attributed :
    (∃ s, Reaches (@step sampleDigest twoSwitches) Always {} s ∧
      (∃ evidence ∈ s.stored, ∃ address ∈ evidence.readFrom,
        switchDeviceId (twoSwitches address) ≠ evidence.value.deviceId) ∧
      (∃ topology ∈ s.published, ∃ address ∈ topology.readFrom,
        switchDeviceId (twoSwitches address) ≠ topology.value.rootDeviceId) ∧
      ∃ transition ∈ s.transitions, twoSwitches transition.1 ≠ twoSwitches transition.2) ∧
    (∃ s, Reaches (@step sampleDigest twoSwitches) Always {} s ∧
      ∃ entry ∈ s.supplied, ∃ address ∈ entry.2, twoSwitches address ≠ twoSwitches entry.1.host) ∧
    (∃ s, Reaches (@step sampleDigest twoSwitches) Always {} s ∧
      ∃ topology ∈ s.published, ∃ address ∈ topology.readFrom,
        switchDeviceId (twoSwitches address) ≠ topology.value.rootDeviceId) ∧
    ∃ s, Reaches (@step sampleDigest sameSlug) Always {} s ∧
      ∃ transition ∈ s.transitions, sameSlug transition.1 ≠ sameSlug transition.2 := by
  refine ⟨?_, ?_, ?_, ?_⟩
  · obtain ⟨s, run, last⟩ := exists_reaches_of_run (@step sampleDigest twoSwitches) {} rehomed
      (fun s =>
        (∃ evidence ∈ s.stored, ∃ address ∈ evidence.readFrom,
          switchDeviceId (twoSwitches address) ≠ evidence.value.deviceId) ∧
        (∃ topology ∈ s.published, ∃ address ∈ topology.readFrom,
          switchDeviceId (twoSwitches address) ≠ topology.value.rootDeviceId) ∧
        ∃ transition ∈ s.transitions, twoSwitches transition.1 ≠ twoSwitches transition.2)
      (by decide +kernel)
    exact ⟨s, run, of_decide_eq_true last⟩
  · obtain ⟨s, run, last⟩ := exists_reaches_of_run (@step sampleDigest twoSwitches) {} planElsewhere
      (fun s => ∃ entry ∈ s.supplied, ∃ address ∈ entry.2,
        twoSwitches address ≠ twoSwitches entry.1.host)
      (by decide +kernel)
    exact ⟨s, run, of_decide_eq_true last⟩
  · obtain ⟨s, run, last⟩ := exists_reaches_of_run (@step sampleDigest twoSwitches) {} unnamed
      (fun s => ∃ topology ∈ s.published, ∃ address ∈ topology.readFrom,
        switchDeviceId (twoSwitches address) ≠ topology.value.rootDeviceId)
      (by decide +kernel)
    exact ⟨s, run, of_decide_eq_true last⟩
  · obtain ⟨s, run, last⟩ := exists_reaches_of_run (@step sampleDigest sameSlug) {}
      (moveTo sampleHost ++ [.dashboard bareReading] ++ moveTo "192.0.2.11" ++
        [.dashboard bareReading])
      (fun s => ∃ transition ∈ s.transitions, sameSlug transition.1 ≠ sameSlug transition.2)
      (by decide +kernel)
    exact ⟨s, run, of_decide_eq_true last⟩

end LiveOperations

end SwitchOps
