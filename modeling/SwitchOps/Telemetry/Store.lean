import SwitchOps.Assurance.Snapshot

/-!
# The telemetry store

`telemetry_store.py`: each dashboard observation is stored with a row for each interface, compared
with the latest stored observation of its device, and what changed is returned as deltas and stored
as events. Comparison and storing are one transaction.
-/

namespace SwitchOps

/-! ## Records -/

inductive CounterState
  | first
  | unchanged
  | increased
  | reset
  | wrapped
  deriving DecidableEq, Repr

def CounterState.text : CounterState → Text
  | .first => "first"
  | .unchanged => "unchanged"
  | .increased => "increased"
  | .reset => "reset"
  | .wrapped => "wrapped"

/-- `InterfaceDelta`: what was stored of an interface, if it was, and what is seen of it now. -/
structure InterfaceDelta where
  port : Text
  previousTotalErrors : Option Int
  currentTotalErrors : Int
  errorDelta : Option Int
  counterState : CounterState
  statusBefore : Option Text
  statusAfter : Text
  adminBefore : Option Text
  adminAfter : Text
  speedBefore : Option Text
  speedAfter : Text
  duplexBefore : Option Text
  duplexAfter : Text
  vlanBefore : Option Text
  vlanAfter : Text
  poeBefore : Option Text
  poeAfter : Text
  deriving DecidableEq, Repr

/-- A value in the metadata of an event. -/
inductive MetadataValue
  | text (value : Text)
  | number (value : Int)
  | null
  deriving DecidableEq, Repr

/-- A row of `network_events`. -/
structure EventRow where
  timestamp : Nat
  deviceId : Text
  interface : Option Text
  eventType : Text
  severity : Text
  title : Text
  detail : Text
  metadata : List (Text × MetadataValue)
  deriving DecidableEq, Repr

/-- A row of `interface_observations`. -/
structure InterfaceRow where
  port : Text
  status : Text
  adminState : Text
  speed : Text
  duplex : Text
  vlan : Text
  poeState : Text
  totalErrors : Int
  learnedDevices : List Text
  deriving DecidableEq, Repr

/-- A row of `device_observations`, its measurements aside, with the rows of its interfaces:
`UNIQUE(snapshot_id, port)`. -/
structure TelemetrySnapshot where
  deviceId : Text
  timestamp : Nat
  rows : List InterfaceRow
  nodup : (rows.map (·.port)).Nodup
  deriving DecidableEq, Repr

/-- `previous_rows.get(port)` -/
def TelemetrySnapshot.row? (snapshot : TelemetrySnapshot) (port : Text) : Option InterfaceRow :=
  snapshot.rows.find? fun row => row.port = port

/-- What `record_snapshot` is called with, the measurements of the device aside. -/
structure TelemetryObservation where
  deviceId : Text
  observedAt : Nat
  interfaces : List InterfaceStatus
  errors : List InterfaceErrorCounters
  poePorts : List PoePort
  macEntries : List MacTableEntry
  deriving DecidableEq, Repr

/-! ## What an observation says of a port -/

namespace TelemetryObservation

variable (seen : TelemetryObservation)

/-- `error_by_port.get(port, 0)` -/
def errorTotal (port : Text) : Int :=
  (Dict.get? (Dict.ofList (seen.errors.map fun counter => (counter.port, counter.total)))
    port).getD 0

/-- `poe_by_port[port].oper if port in poe_by_port else "not-supported"` -/
def poeState (port : Text) : Text :=
  match Dict.get? (Dict.ofList (seen.poePorts.map fun item => (item.interface, item))) port with
  | some item => item.oper
  | none => "not-supported"

/-- `devices_by_port.get(port, [])`: the digests of the addresses learned on a port. -/
def learnedDevices [Digest] (port : Text) : List Text :=
  let hex : Text := "0123456789abcdef"
  (seen.macEntries.filter fun entry =>
    !(entry.port.upper = ("CPU" : Text) || entry.vlan.lower = ("all" : Text))
      && entry.port = port).map fun entry => (Digest.sha256 (entry.mac.lower.filter hex.elem)).take 12

/-- The row of an interface that `record_snapshot` stores. -/
def interfaceRow [Digest] (current : InterfaceStatus) : InterfaceRow :=
  { port := current.port
    status := current.status
    adminState := interfaceAdminState current.status
    speed := current.speed
    duplex := current.duplex
    vlan := current.vlan
    poeState := seen.poeState current.port
    totalErrors := seen.errorTotal current.port
    learnedDevices := (seen.learnedDevices current.port).insertionSort (Text.le · ·) }

theorem ports_interfaceRow [Digest] :
    (seen.interfaces.map seen.interfaceRow).map (·.port) = seen.interfaces.map (·.port) := by
  rw [List.map_map]
  rfl

end TelemetryObservation

/-! ## Comparison -/

def counterMax32 : Int := 2 ^ 32 - 1

/-- `calculate_counter_delta`. A drop near the 32-bit boundary is a wraparound, any other a reset:
`int(counter_max * 0.9)` and `int(counter_max * 0.1)` are the two bounds. -/
def calculateCounterDelta (previous : Option Int) (current : Int) : Option Int × CounterState :=
  match previous with
  | none => (none, .first)
  | some previous =>
    if current = previous then (some 0, .unchanged)
    else if current > previous then (some (current - previous), .increased)
    else if previous ≥ 3865470565 ∧ current ≤ 429496729 then
      (some (counterMax32 - previous + 1 + current), .wrapped)
    else (none, .reset)

/-- `_derive_delta` -/
def deriveDelta (current : InterfaceStatus) (previous : Option InterfaceRow) (errorTotal : Int)
    (poeState : Text) : InterfaceDelta :=
  let previousErrors := previous.map (·.totalErrors)
  let (errorDelta, counterState) := calculateCounterDelta previousErrors errorTotal
  { port := current.port
    previousTotalErrors := previousErrors
    currentTotalErrors := errorTotal
    errorDelta := errorDelta
    counterState := counterState
    statusBefore := previous.map (·.status)
    statusAfter := current.status
    adminBefore := previous.map (·.adminState)
    adminAfter := interfaceAdminState current.status
    speedBefore := previous.map (·.speed)
    speedAfter := current.speed
    duplexBefore := previous.map (·.duplex)
    duplexAfter := current.duplex
    vlanBefore := previous.map (·.vlan)
    vlanAfter := current.vlan
    poeBefore := previous.map (·.poeState)
    poeAfter := poeState }

/-- `_normalize_speed` and `_normalize_duplex` -/
def normalizeNegotiated (value : Text) : Text :=
  let value := value.strip.lower
  if value.startsWith "a-" then value.drop 2 else value

/-- `_poe_active` -/
def poeActive (value : Text) : Bool :=
  !([[], "off", "n/a", "not-supported", "unknown"] : List Text).contains value.strip.lower

/-- An f-string's rendering of a value that may be missing. -/
def shownText (value : Option Text) : Text := value.getD "None"

/-- `value or fallback` -/
def textOr (value fallback : Text) : Text := if value.isEmpty then fallback else value

namespace InterfaceDelta

/-- What the events of one interface are made of. -/
structure Seen where
  observedAt : Nat
  deviceId : Text
  current : InterfaceStatus
  delta : InterfaceDelta

variable (seen : Seen)

/-- `_event` -/
def Seen.event (eventType severity title detail : Text)
    (metadata : List (Text × MetadataValue)) : EventRow :=
  { timestamp := seen.observedAt, deviceId := seen.deviceId, interface := some seen.current.port,
    eventType, severity, title, detail, metadata }

/-- An administrative change, or else a change of the link. -/
def Seen.stateEvents : List EventRow :=
  let delta := seen.delta
  let port := seen.current.port
  if delta.adminBefore ≠ some delta.adminAfter then
    [seen.event "administrative_state_changed" "NOTICE"
      (if delta.adminAfter = ("down" : Text)
        then port ++ " was administratively disabled".toList
        else port ++ " was administratively enabled".toList)
      ("Observed administrative state changed from ".toList ++ shownText delta.adminBefore ++
        " to ".toList ++ delta.adminAfter ++ ".".toList)
      [("before", .text (shownText delta.adminBefore)), ("after", .text delta.adminAfter)]]
  else if delta.statusBefore ≠ some delta.statusAfter then
    if delta.statusAfter = ("connected" : Text) then
      [seen.event "interface_link_up" "HEALTHY" (port ++ " link established".toList)
        ("The interface is connected at ".toList ++
          textOr seen.current.speed "an unknown speed" ++ " ".toList ++
          textOr seen.current.duplex "with unknown duplex" ++ ".".toList)
        [("speed", .text seen.current.speed), ("duplex", .text seen.current.duplex)]]
    else if delta.statusBefore = some ("connected" : Text) then
      let description := seen.current.name.lower
      let uplink := (["uplink", "router", "gateway"] : List Text).any (description.contains ·)
      [seen.event "interface_link_down" (if uplink then "CRITICAL" else "NOTICE")
        (port ++ " link lost".toList)
        "The switch no longer detects an Ethernet link on this interface."
        [("previousStatus", .text (shownText delta.statusBefore)),
          ("currentStatus", .text delta.statusAfter)]]
    else []
  else []

/-- What was negotiated on a link that stayed up. -/
def Seen.negotiationEvents : List EventRow :=
  let delta := seen.delta
  let port := seen.current.port
  let stayedUp : Bool := delta.statusBefore = some ("connected" : Text) &&
    delta.statusAfter = ("connected" : Text)
  let speedBefore := delta.speedBefore.getD []
  let duplexBefore := delta.duplexBefore.getD []
  (if stayedUp && !speedBefore.isEmpty &&
      normalizeNegotiated speedBefore ≠ normalizeNegotiated delta.speedAfter then
    [seen.event "speed_changed" "NOTICE" (port ++ " link speed changed".toList)
      ("Negotiated speed changed from ".toList ++ speedBefore ++ " to ".toList ++
        delta.speedAfter ++ ".".toList)
      [("before", .text speedBefore), ("after", .text delta.speedAfter)]]
  else []) ++
  (if stayedUp && !duplexBefore.isEmpty &&
      normalizeNegotiated duplexBefore ≠ normalizeNegotiated delta.duplexAfter then
    [seen.event "duplex_changed"
      (if delta.duplexAfter.lower.contains "half" then "ATTENTION" else "NOTICE")
      (port ++ " duplex changed".toList)
      ("Negotiated duplex changed from ".toList ++ duplexBefore ++ " to ".toList ++
        delta.duplexAfter ++ ".".toList)
      [("before", .text duplexBefore), ("after", .text delta.duplexAfter)]]
  else [])

def Seen.vlanEvents : List EventRow :=
  match seen.delta.vlanBefore with
  | none => []
  | some before =>
    if before = seen.delta.vlanAfter then []
    else
      [seen.event "vlan_changed" "NOTICE"
        (seen.current.port ++ " VLAN observation changed".toList)
        ("Observed access VLAN changed from ".toList ++ textOr before "unknown" ++ " to ".toList ++
          textOr seen.delta.vlanAfter "unknown" ++ ".".toList)
        [("before", .text before), ("after", .text seen.delta.vlanAfter)]]

def Seen.counterEvents : List EventRow :=
  let delta := seen.delta
  let port := seen.current.port
  let amount := delta.errorDelta.getD 0
  if (delta.counterState = .increased ∨ delta.counterState = .wrapped) ∧ amount > 0 then
    let shown := Text.ofNat amount.toNat
    [seen.event "interface_errors_increased"
      (if amount ≥ 100 then "CRITICAL" else if amount ≥ 10 then "ATTENTION" else "NOTICE")
      (port ++ " errors increased by ".toList ++ shown)
      ("The cumulative interface error counter rose by ".toList ++ shown ++
        " since the previous observation.".toList)
      [("delta", .number amount), ("counterState", .text delta.counterState.text)]]
  else if delta.counterState = .reset then
    [seen.event "interface_counter_reset" "NOTICE" (port ++ " error counter reset observed".toList)
      ("The cumulative error counter decreased. This can follow a restart or an ".toList ++
        "external counter clear; SwitchOps cannot determine which.".toList) []]
  else []

def Seen.poeEvents : List EventRow :=
  match seen.delta.poeBefore with
  | none => []
  | some before =>
    let after := seen.delta.poeAfter
    if poeActive before = poeActive after then []
    else
      let active := poeActive after
      [seen.event "poe_state_changed" (if active then "HEALTHY" else "NOTICE")
        ("PoE ".toList ++ (if active then "detected".toList else "stopped".toList) ++ " on ".toList ++
          seen.current.port)
        ("Observed PoE operational state changed from ".toList ++ textOr before "unknown" ++
          " to ".toList ++ textOr after "unknown" ++ ".".toList)
        [("before", .text before), ("after", .text after)]]

/-- What a change of the learned addresses is reported as. -/
def learnedChange : Text := "learned_addresses_changed"

/-- The addresses that came and went, as one event: of how many there are in `appeared`, `departed`
and `total`. -/
def Seen.learnedEvent (appeared departed total : Nat) : EventRow :=
  let port := seen.current.port
  let parts := (if appeared = 0 then [] else [Text.ofNat appeared ++ " appeared".toList]) ++
    (if departed = 0 then [] else [Text.ofNat departed ++ " no longer present".toList])
  seen.event learnedChange
    (if appeared ≠ 0 ∧ departed = 0 then "HEALTHY" else "NOTICE")
    ("Learned addresses changed on ".toList ++ port ++ " (".toList ++ Text.join ", " parts ++
      ")".toList)
    ("The set of MAC-table entries on ".toList ++ port ++ " changed: ".toList ++
      Text.ofNat appeared ++ " appeared and ".toList ++ Text.ofNat departed ++
      " are no longer present. ".toList ++
      "Entries age out on their own schedule, so a departure is not proof ".toList ++
      "that a device disconnected, and an arrival proves only where traffic ".toList ++
      "was learned - not what the device is.".toList)
    [("appeared", .number appeared), ("departed", .number departed), ("total", .number total)]

/-- `set(a) - set(b)`, by its size. -/
def missingFrom (a b : List Text) : Nat := (a.dedup.filter fun device => device ∉ b).length

def Seen.learnedEvents (previousDevices currentDevices : List Text) : List EventRow :=
  let appeared := missingFrom currentDevices previousDevices
  let departed := missingFrom previousDevices currentDevices
  if appeared = 0 ∧ departed = 0 then []
  else [seen.learnedEvent appeared departed currentDevices.dedup.length]

variable {seen} {event : EventRow}

theorem Seen.eventType_of_mem {eventType severity title detail : Text}
    {metadata : List (Text × MetadataValue)} {types : List Text} (h : eventType ∈ types)
    (mem : event ∈ [seen.event eventType severity title detail metadata]) :
    event.eventType ∈ types := by
  rw [List.mem_singleton.mp mem]
  exact h

/-- The events about the state of an interface. -/
def stateEventTypes : List Text :=
  ["administrative_state_changed", "interface_link_up", "interface_link_down"]

/-- The events about what an interface negotiated and supplies. -/
def propertyEventTypes : List Text :=
  ["speed_changed", "duplex_changed", "vlan_changed", "interface_errors_increased",
    "interface_counter_reset", "poe_state_changed"]

theorem Seen.eventType_stateEvents (mem : event ∈ seen.stateEvents) :
    event.eventType ∈ stateEventTypes := by
  unfold Seen.stateEvents at mem
  dsimp only at mem
  split at mem
  · exact Seen.eventType_of_mem (by decide) mem
  · split at mem
    · split at mem
      · exact Seen.eventType_of_mem (by decide) mem
      · split at mem
        · exact Seen.eventType_of_mem (by decide) mem
        · cases mem
    · cases mem

theorem Seen.eventType_negotiationEvents (mem : event ∈ seen.negotiationEvents) :
    event.eventType ∈ propertyEventTypes := by
  unfold Seen.negotiationEvents at mem
  rcases List.mem_append.mp mem with mem | mem
  · split at mem
    · exact Seen.eventType_of_mem (by decide) mem
    · cases mem
  · split at mem
    · exact Seen.eventType_of_mem (by decide) mem
    · cases mem

theorem Seen.eventType_vlanEvents (mem : event ∈ seen.vlanEvents) :
    event.eventType ∈ propertyEventTypes := by
  unfold Seen.vlanEvents at mem
  split at mem
  · cases mem
  · split at mem
    · cases mem
    · exact Seen.eventType_of_mem (by decide) mem

theorem Seen.eventType_counterEvents (mem : event ∈ seen.counterEvents) :
    event.eventType ∈ propertyEventTypes := by
  unfold Seen.counterEvents at mem
  dsimp only at mem
  split at mem
  · exact Seen.eventType_of_mem (by decide) mem
  · split at mem
    · exact Seen.eventType_of_mem (by decide) mem
    · cases mem

theorem Seen.eventType_poeEvents (mem : event ∈ seen.poeEvents) :
    event.eventType ∈ propertyEventTypes := by
  unfold Seen.poeEvents at mem
  split at mem
  · cases mem
  · dsimp only at mem
    split at mem
    · cases mem
    · exact Seen.eventType_of_mem (by decide) mem

/-- The events that are about neither the state nor the learned addresses. -/
def Seen.propertyEvents (seen : Seen) : List EventRow :=
  seen.negotiationEvents ++ seen.vlanEvents ++ seen.counterEvents ++ seen.poeEvents

theorem Seen.eventType_propertyEvents (mem : event ∈ seen.propertyEvents) :
    event.eventType ∈ propertyEventTypes := by
  simp only [Seen.propertyEvents, List.mem_append] at mem
  rcases mem with ((mem | mem) | mem) | mem
  · exact Seen.eventType_negotiationEvents mem
  · exact Seen.eventType_vlanEvents mem
  · exact Seen.eventType_counterEvents mem
  · exact Seen.eventType_poeEvents mem

theorem Seen.ne_learnedChange (mem : event ∈ seen.stateEvents ++ seen.propertyEvents) :
    event.eventType ≠ learnedChange := by
  have ne : ∀ t ∈ stateEventTypes ++ propertyEventTypes, t ≠ learnedChange := by decide
  apply ne
  rcases List.mem_append.mp mem with mem | mem
  · exact List.mem_append_left _ (Seen.eventType_stateEvents mem)
  · exact List.mem_append_right _ (Seen.eventType_propertyEvents mem)

/-- The counts of a change of the learned addresses can be read off its metadata. -/
theorem Seen.learnedEvent_inj {seen' : Seen} {appeared departed total appeared' departed' total' : Nat}
    (h : seen.learnedEvent appeared departed total = seen'.learnedEvent appeared' departed' total') :
    appeared = appeared' ∧ departed = departed' ∧ total = total' := by
  have metadata : (seen.learnedEvent appeared departed total).metadata
      = (seen'.learnedEvent appeared' departed' total').metadata := by rw [h]
  simp only [Seen.learnedEvent, Seen.event, List.cons.injEq, Prod.mk.injEq,
    MetadataValue.number.injEq, true_and, and_true] at metadata
  omega

theorem missingFrom_eq_zero {a b : List Text} : missingFrom a b = 0 ↔ ∀ device ∈ a, device ∈ b := by
  simp [missingFrom, List.filter_eq_nil_iff]

@[simp] theorem missingFrom_nil_left (b : List Text) : missingFrom [] b = 0 := rfl

@[simp] theorem missingFrom_nil_right (a : List Text) : missingFrom a [] = a.dedup.length := by
  simp [missingFrom]

theorem Seen.mem_learnedEvents {before after : List Text} :
    event ∈ seen.learnedEvents before after ↔
      (missingFrom after before ≠ 0 ∨ missingFrom before after ≠ 0) ∧
        event = seen.learnedEvent (missingFrom after before) (missingFrom before after)
          after.dedup.length := by
  unfold Seen.learnedEvents
  dsimp only
  split
  · next none_ => simp [none_]
  · next some_ =>
    rw [List.mem_singleton]
    exact ⟨fun h => ⟨by tauto, h⟩, fun h => h.2⟩

/-- Addresses that are hidden on one side of a comparison only change its event. -/
theorem Seen.learnedEvents_hidden {before after before' after' : List Text}
    (hb : before = before' ∨ before = []) (ha : after = after' ∨ after = [])
    (h : ∀ event ∈ seen.learnedEvents before after,
      ∃ seen' : Seen, event ∈ seen'.learnedEvents before' after') :
    (before = before' ∧ after = after') ∨ (before = [] ∧ after = []) := by
  have dedup_ne {a : List Text} (ne : a ≠ []) : a.dedup.length ≠ 0 := by
    simpa [List.dedup_eq_nil] using ne
  rcases hb with rfl | rfl <;> rcases ha with rfl | rfl
  · exact .inl ⟨rfl, rfl⟩
  · by_cases none_ : before = []
    · exact .inr ⟨none_, rfl⟩
    · -- all of `before` departed, and the total is that of `after'`
      obtain ⟨seen', mem⟩ := h _ (Seen.mem_learnedEvents.mpr ⟨.inr (by simpa using dedup_ne none_), rfl⟩)
      have total := (Seen.learnedEvent_inj (Seen.mem_learnedEvents.mp mem).2).2.2
      left
      refine ⟨rfl, ?_⟩
      by_contra some_
      exact dedup_ne (Ne.symm some_) total.symm
  · by_cases none_ : after = []
    · exact .inr ⟨rfl, none_⟩
    · -- all of `after` appeared and nothing departed, so `before'` is inside and outside of it
      obtain ⟨seen', mem⟩ := h _ (Seen.mem_learnedEvents.mpr ⟨.inl (by simpa using dedup_ne none_), rfl⟩)
      obtain ⟨appeared, departed, -⟩ := Seen.learnedEvent_inj (Seen.mem_learnedEvents.mp mem).2
      left
      refine ⟨?_, rfl⟩
      by_contra some_
      obtain ⟨device, here⟩ := List.exists_mem_of_ne_nil before' (Ne.symm some_)
      have stayed : device ∈ after := missingFrom_eq_zero.mp departed.symm device here
      have all : after.dedup.filter (fun d => d ∉ before') = after.dedup := by
        apply (List.filter_sublist ..).eq_of_length
        simpa [missingFrom] using appeared.symm
      have away := List.filter_eq_self.mp all device (List.mem_dedup.mpr stayed)
      simp [here] at away
  · exact .inr ⟨rfl, rfl⟩

end InterfaceDelta

/-- `_derive_events` -/
def deriveEvents (observedAt : Nat) (deviceId : Text) (current : InterfaceStatus)
    (previous : InterfaceRow) (delta : InterfaceDelta) (learnedDevices : List Text) :
    List EventRow :=
  let seen : InterfaceDelta.Seen := { observedAt, deviceId, current, delta }
  seen.stateEvents ++ seen.propertyEvents ++ seen.learnedEvents previous.learnedDevices learnedDevices

/-! ## Storing -/

/-- What a recorded observation adds: its deltas and its events. -/
structure Recording where
  deltas : List InterfaceDelta := []
  events : List EventRow := []
  deriving DecidableEq, Repr

/-- The tables of the store, each in the order of its ids. -/
structure TelemetryTables where
  snapshots : List TelemetrySnapshot := []
  events : List EventRow := []
  deriving DecidableEq, Repr

namespace TelemetryTables

/-- `_latest_snapshot` -/
def latestSnapshot (tables : TelemetryTables) (deviceId : Text) : Option TelemetrySnapshot :=
  tables.snapshots.reverse.find? fun snapshot => snapshot.deviceId = deviceId

/-- What is stored of a port in the latest snapshot of a device. -/
def previousRow (tables : TelemetryTables) (deviceId port : Text) : Option InterfaceRow :=
  (tables.latestSnapshot deviceId).bind (·.row? port)

end TelemetryTables

variable [Digest]

namespace TelemetryObservation

/-- The delta of an interface against the row stored of it. -/
def delta (seen : TelemetryObservation) (previous : Option InterfaceRow)
    (current : InterfaceStatus) : InterfaceDelta :=
  deriveDelta current previous (seen.errorTotal current.port) (seen.poeState current.port)

/-- The events of an interface: none on its first sight. -/
def events (seen : TelemetryObservation) (previous : Option InterfaceRow)
    (current : InterfaceStatus) : List EventRow :=
  match previous with
  | none => []
  | some row => deriveEvents seen.observedAt seen.deviceId current row (seen.delta previous current)
      (seen.learnedDevices current.port)

/-- The snapshot stored of an observation that lists no port twice. -/
def snapshot (seen : TelemetryObservation) (nodup : (seen.interfaces.map (·.port)).Nodup) :
    TelemetrySnapshot :=
  { deviceId := seen.deviceId
    timestamp := seen.observedAt
    rows := seen.interfaces.map seen.interfaceRow
    nodup := by rwa [ports_interfaceRow] }

end TelemetryObservation

namespace TelemetryTables

/-- The deltas and events of an observation against the tables. -/
def compare (tables : TelemetryTables) (seen : TelemetryObservation) : Recording :=
  { deltas := seen.interfaces.map fun current =>
      seen.delta (tables.previousRow seen.deviceId current.port) current
    events := seen.interfaces.flatMap fun current =>
      seen.events (tables.previousRow seen.deviceId current.port) current }

/-- `record_snapshot`, keeping what was observed within `retention`. A port that is listed twice
violates the uniqueness of its row: the transaction is rolled back. -/
def recordSnapshot (retention : Nat) (tables : TelemetryTables) (seen : TelemetryObservation) :
    Option (TelemetryTables × Recording) :=
  if nodup : (seen.interfaces.map (·.port)).Nodup then
    let recording := tables.compare seen
    let kept (timestamp : Nat) : Bool := seen.observedAt ≤ timestamp + retention
    some ({
      snapshots := (tables.snapshots ++ [seen.snapshot nodup]).filter fun s => kept s.timestamp
      events := (tables.events ++ recording.events).filter fun event => kept event.timestamp },
      recording)
  else none

end TelemetryTables

end SwitchOps
