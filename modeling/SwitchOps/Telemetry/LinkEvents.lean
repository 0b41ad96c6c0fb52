import SwitchOps.Lib.History
import SwitchOps.Live.State
import SwitchOps.Telemetry.Store

/-!
# Link events from two observers

The status table of one switch is read by two observers: the fast tier, which compares a reading
with the interfaces of the live state, and the dashboard, which compares it with the latest stored
observation. Each records the link events that its own comparison reveals, in the same table. A
transition of the interface is a change between one reading of it and the next, whoever made them.
-/

namespace SwitchOps

open Histories

/-- A reading of the status table. -/
inductive StatusReading
  /-- By the fast tier, at a time. -/
  | live (at_ : Nat) (rows : List InterfaceStatus)
  /-- By a dashboard, which records the whole observation. -/
  | dashboard (seen : TelemetryObservation)
  deriving DecidableEq, Repr

def StatusReading.rows : StatusReading → List InterfaceStatus
  | live _ rows => rows
  | dashboard seen => seen.interfaces

/-! ## Transitions -/

/-- The status of a connected interface. -/
def isConnected (status : Text) : Bool := status.strip.lower = ("connected" : Text)

/-- Whether each port was connected when it was last read. -/
abbrev Links := Dict Text Bool

namespace Links

/-- The transition that a row shows: the port and whether it is connected now. -/
def shownBy (links : Links) (row : InterfaceStatus) : List (Text × Bool) :=
  match links.get? row.port with
  | none => []
  | some was => if was = isConnected row.status then [] else [(row.port, isConnected row.status)]

/-- The links after a row. -/
def after (links : Links) (row : InterfaceStatus) : Links :=
  Dict.set links row.port (isConnected row.status)

/-- The transitions that a table shows. -/
def transitions : Links → List InterfaceStatus → List (Text × Bool)
  | _, [] => []
  | links, row :: rows => links.shownBy row ++ (links.after row).transitions rows

/-- The transitions of a table that lists no port twice are those of its rows. -/
theorem transitions_of_nodup {links : Links} {rows : List InterfaceStatus}
    (nodup : (rows.map (·.port)).Nodup) : links.transitions rows = rows.flatMap links.shownBy := by
  induction rows generalizing links with
  | nil => rfl
  | cons row rows ih =>
    obtain ⟨fresh, nodup⟩ := List.nodup_cons.mp nodup
    rw [transitions, ih nodup, List.flatMap_cons]
    congr 1
    apply List.flatMap_congr
    intro other mem
    have apart : row.port ≠ other.port := fun same => fresh (List.mem_map.mpr ⟨other, mem, same.symm⟩)
    unfold shownBy
    rw [after, Dict.get?_set_ne _ apart]

theorem isSome_foldl_after {links : Links} {port : Text} {rows : List InterfaceStatus}
    (h : (links.get? port).isSome ∨ ∃ row ∈ rows, row.port = port) :
    ((rows.foldl after links).get? port).isSome := by
  induction rows generalizing links with
  | nil => simpa using h
  | cons row rows ih =>
    apply ih
    by_cases same : row.port = port
    · left
      rw [after, same, Dict.get?_set_self]
      rfl
    · rcases h with known | ⟨other, mem, here⟩
      · left
        rwa [after, Dict.get?_set_ne _ same]
      · right
        rcases List.mem_cons.mp mem with rfl | mem
        · exact absurd here same
        · exact ⟨other, mem, here⟩

/-- The links after a history of readings. -/
def ofHistory (history : List StatusReading) : Links :=
  history.foldl (fun links reading => reading.rows.foldl after links) []

end Links

/-! ## The observers -/

/-- The row that `record_event` stores of an event. -/
def NetworkEvent.row (event : NetworkEvent) : EventRow :=
  { timestamp := event.timestamp, deviceId := event.deviceId, interface := event.interface,
    eventType := event.eventType, severity := event.severity, title := event.title,
    detail := event.detail, metadata := [("source", .text event.source)] }

/-- What a link event says: the port, and whether the link came up. -/
def EventRow.link? (event : EventRow) : Option (Text × Bool) :=
  if event.eventType = ("interface_link_up" : Text) then event.interface.map (·, true)
  else if event.eventType = ("interface_link_down" : Text) then event.interface.map (·, false)
  else none

/-- What the two observers remember: the live state, with the device it belongs to once a dashboard
has named it, and the tables. -/
structure LinkObservers where
  interfaces : Interfaces := []
  deviceId : Option Text := none
  tables : TelemetryTables := {}
  deriving DecidableEq, Repr

namespace LinkObservers

variable [Digest] (retention : Nat)

/-- `apply_interfaces` and `_record_interface_transitions` on a reading of the fast tier. -/
def readLive (s : LinkObservers) (at_ : Nat) (rows : List InterfaceStatus) :
    LinkObservers × List EventRow :=
  let (interfaces, changes) := s.interfaces.applyInterfaces [] rows
  let events := match s.deviceId with
    | none => []
    | some deviceId => changes.filterMap fun change => (change.event deviceId at_).map (·.row)
  ({ s with interfaces, tables := { s.tables with events := s.tables.events ++ events } }, events)

/-- `record_snapshot` on the observation of a dashboard, which then names the device of the live
state. A failure to record it is logged. -/
def readDashboard (s : LinkObservers) (seen : TelemetryObservation) :
    LinkObservers × List EventRow :=
  match s.tables.recordSnapshot retention seen with
  | none => ({ s with deviceId := some seen.deviceId }, [])
  | some (tables, recording) => ({ s with deviceId := some seen.deviceId, tables }, recording.events)

/-- The observers after a reading, and the events recorded of it. -/
def read (s : LinkObservers) : StatusReading → LinkObservers × List EventRow
  | .live at_ rows => s.readLive at_ rows
  | .dashboard seen => s.readDashboard retention seen

/-- The observers after a history of readings. -/
def afterHistory (history : List StatusReading) : LinkObservers :=
  history.foldl (fun s reading => (s.read retention reading).1) {}

end LinkObservers

/-! ## Observers in step -/

/-- What the live state holds of each port of a table is how the port was last read; where it holds
nothing, that is how the port is read now. -/
def HoldsLast (interfaces : Interfaces) (links : Links) (rows : List InterfaceStatus) : Prop :=
  ∀ row ∈ rows, rows.find? (fun other => other.port = row.port) = some row →
    ∀ was ∈ links.get? row.port,
      ((interfaces.get? row.port).map fun held => isConnected held.status).getD
        (isConnected row.status) = was

section claim

variable [Digest] (retention : Nat)

/-- The link events recorded of a reading are the transitions it shows. -/
def RecordsTransitions (before : List StatusReading) (reading : StatusReading) : Prop :=
  (((LinkObservers.afterHistory retention before).read retention reading).2.filterMap
    EventRow.link?) = (Links.ofHistory before).transitions reading.rows

/-- A reading of the fast tier in step with the readings before it: the live state knows its device
and holds the last reading. Without a device, the table shows no transition. -/
def LiveInStep (s : LinkObservers) (links : Links) (rows : List InterfaceStatus) : Prop :=
  if s.deviceId.isNone then links.transitions rows = [] else HoldsLast s.interfaces links rows

/-- A status that is read as connected is spelled as the dashboard compares it. -/
def PlainStatus (status : Text) : Prop := isConnected status = true → status = ("connected" : Text)

/-- A dashboard in step with the readings before it: what the latest stored observation of its
device holds of each port is how the port was last read, and the administrative state has not
changed, or the link has not. Where the observation cannot be stored, it shows no transition. -/
def DashboardInStep (s : LinkObservers) (links : Links) (seen : TelemetryObservation) : Prop :=
  if (seen.interfaces.map (·.port)).Nodup then
    ∀ row ∈ seen.interfaces, ∀ was ∈ links.get? row.port,
      (s.tables.previousRow seen.deviceId row.port = none → isConnected row.status = was) ∧
      ∀ held ∈ s.tables.previousRow seen.deviceId row.port,
        PlainStatus held.status ∧ PlainStatus row.status ∧
          if held.adminState = interfaceAdminState row.status then isConnected held.status = was
          else isConnected row.status = was
  else links.transitions seen.interfaces = []

/-- The observer that makes the reading remembers what the last reading showed, whoever made it. -/
def InStep (before : List StatusReading) (reading : StatusReading) : Prop :=
  match reading with
  | .live _ rows => LiveInStep (LinkObservers.afterHistory retention before) (Links.ofHistory before) rows
  | .dashboard seen =>
    DashboardInStep (LinkObservers.afterHistory retention before) (Links.ofHistory before) seen

instance (interfaces : Interfaces) (links : Links) (rows : List InterfaceStatus) :
    Decidable (HoldsLast interfaces links rows) :=
  inferInstanceAs (Decidable (∀ row ∈ rows,
    rows.find? (fun other => other.port = row.port) = some row → ∀ was ∈ links.get? row.port,
      ((interfaces.get? row.port).map fun held => isConnected held.status).getD
        (isConnected row.status) = was))

instance (status : Text) : Decidable (PlainStatus status) :=
  inferInstanceAs (Decidable (isConnected status = true → status = ("connected" : Text)))

instance (s : LinkObservers) (links : Links) (rows : List InterfaceStatus) :
    Decidable (LiveInStep s links rows) :=
  inferInstanceAs (Decidable (if s.deviceId.isNone then links.transitions rows = []
    else HoldsLast s.interfaces links rows))

instance (s : LinkObservers) (links : Links) (seen : TelemetryObservation) :
    Decidable (DashboardInStep s links seen) :=
  inferInstanceAs (Decidable (if (seen.interfaces.map (·.port)).Nodup then
    ∀ row ∈ seen.interfaces, ∀ was ∈ links.get? row.port,
      (s.tables.previousRow seen.deviceId row.port = none → isConnected row.status = was) ∧
      ∀ held ∈ s.tables.previousRow seen.deviceId row.port,
        PlainStatus held.status ∧ PlainStatus row.status ∧
          if held.adminState = interfaceAdminState row.status then isConnected held.status = was
          else isConnected row.status = was
    else links.transitions seen.interfaces = []))

instance : DecidableRel (InStep retention) := fun before reading =>
  match reading with
  | .live _ rows =>
    inferInstanceAs (Decidable (LiveInStep (LinkObservers.afterHistory retention before)
      (Links.ofHistory before) rows))
  | .dashboard seen =>
    inferInstanceAs (Decidable (DashboardInStep (LinkObservers.afterHistory retention before)
      (Links.ofHistory before) seen))

end claim

/-! ## What the fast tier records -/

section live

/-- What `oper_state` is made of. -/
def operStateOf (status : Text) : Text := if isConnected status then "up" else "down"

theorem operStateOf_inj {a b : Text} : operStateOf a = operStateOf b ↔ isConnected a = isConnected b := by
  unfold operStateOf
  cases isConnected a <;> cases isConnected b <;> decide

theorem operState_ofRow (w : Text) (row : InterfaceStatus) :
    (LiveInterface.ofRow w row).operState = operStateOf row.status := by
  unfold LiveInterface.ofRow operStateOf isConnected
  by_cases h : row.status.strip.lower = "connected".toList
  · rw [if_pos (decide_eq_true h)]
    exact if_pos h
  · rw [if_neg (by rwa [decide_eq_true_eq])]
    exact if_neg h

/-- The interfaces of the live state were read before, and their operational state is that of their
status. -/
def HeldIn (interfaces : Interfaces) (links : Links) : Prop :=
  ∀ port item, interfaces.get? port = some item →
    item.operState = operStateOf item.status ∧ (links.get? port).isSome

variable {interfaces : Interfaces} {links : Links} {row : InterfaceStatus}

/-- What a row leaves in the live state is the row, whatever was held of its port. -/
theorem get?_applyRow (interfaces : Interfaces) (row : InterfaceStatus) (w : Text)
    (changes : List InterfaceChange) :
    ∃ item, item.status = row.status ∧ item.operState = operStateOf row.status ∧
      (Interfaces.applyRow w (interfaces, changes) row).1 = Dict.set interfaces row.port item := by
  unfold Interfaces.applyRow
  cases interfaces.get? row.port with
  | none => exact ⟨_, rfl, operState_ofRow w row, rfl⟩
  | some existing =>
    exact ⟨(LiveInterface.ofRow w row).keepPoe existing, rfl, operState_ofRow w row, rfl⟩

theorem HeldIn.applyRow (h : HeldIn interfaces links) (row : InterfaceStatus) (w : Text)
    (changes : List InterfaceChange) :
    HeldIn (Interfaces.applyRow w (interfaces, changes) row).1 (links.after row) := by
  obtain ⟨item, status, oper, set⟩ := get?_applyRow interfaces row w changes
  rw [set]
  intro port held here
  by_cases same : row.port = port
  · subst same
    rw [Dict.get?_set_self] at here
    cases here
    refine ⟨by rw [oper, status], ?_⟩
    rw [Links.after, Dict.get?_set_self]
    rfl
  · rw [Dict.get?_set_ne _ same] at here
    obtain ⟨state, known⟩ := h port held here
    refine ⟨state, ?_⟩
    rwa [Links.after, Dict.get?_set_ne _ same]

theorem HeldIn.applyRows (h : HeldIn interfaces links) (w : Text) (changes : List InterfaceChange)
    (rows : List InterfaceStatus) :
    HeldIn (rows.foldl (Interfaces.applyRow w) (interfaces, changes)).1 (rows.foldl Links.after links) := by
  induction rows generalizing interfaces links changes with
  | nil => exact h
  | cons row rows ih => exact ih (h.applyRow row w changes) _

/-- The link event of a change, if its operational state changed. -/
theorem link?_event (change : InterfaceChange) (deviceId : Text) (at_ : Nat) :
    ((change.event deviceId at_).map (·.row)).bind EventRow.link?
      = if change.before.operState = change.after.operState then none
        else some (change.port, decide (change.after.operState = "up".toList)) := by
  unfold InterfaceChange.event
  dsimp only
  by_cases oper : change.before.operState = change.after.operState
  · rw [if_pos oper, if_neg (not_not.mpr oper)]
    split
    · rfl
    · split <;> rfl
  · rw [if_neg oper, if_pos oper]
    by_cases up : change.after.operState = "up".toList
    · simp only [up]
      rfl
    · simp only [up]
      rfl

/-- Once a row is read, the live state holds its port as it was last read. -/
theorem HoldsLast.tail {rows : List InterfaceStatus} (h : HoldsLast interfaces links (row :: rows))
    {item : LiveInterface} (status : item.status = row.status) :
    HoldsLast (Dict.set interfaces row.port item) (links.after row) rows := by
  intro next mem first was shown
  by_cases same : row.port = next.port
  · rw [Links.after, same, Dict.get?_set_self] at shown
    cases shown
    rw [same, Dict.get?_set_self, ← status]
    rfl
  · rw [Links.after, Dict.get?_set_ne _ same] at shown
    rw [Dict.get?_set_ne _ same]
    apply h next (List.mem_cons_of_mem _ mem) _ was shown
    rwa [List.find?_cons_of_neg (by simpa using same)]

/-- The link event of the change that a row reveals is the transition that it shows. -/
theorem filterMap_applyRow (held : HeldIn interfaces links) {rows : List InterfaceStatus}
    (last : HoldsLast interfaces links (row :: rows)) (w deviceId : Text) (at_ : Nat)
    (changes : List InterfaceChange) :
    (Interfaces.applyRow w (interfaces, changes) row).2.filterMap
        (fun change => ((change.event deviceId at_).map (·.row)).bind EventRow.link?)
      = changes.filterMap (fun change => ((change.event deviceId at_).map (·.row)).bind EventRow.link?)
        ++ links.shownBy row := by
  have here := last row List.mem_cons_self (List.find?_cons_of_pos (by simp))
  unfold Interfaces.applyRow Links.shownBy
  dsimp only
  cases found : interfaces.get? row.port with
  | none =>
    rw [found] at here
    cases known : links.get? row.port with
    | none => simp
    | some was =>
      have same : isConnected row.status = was := here was known
      simp [same]
  | some existing =>
    rw [found] at here
    obtain ⟨oper, known⟩ := held row.port existing found
    obtain ⟨was, known⟩ := Option.isSome_iff_exists.mp known
    have now : ((LiveInterface.ofRow w row).keepPoe existing).operState = operStateOf row.status :=
      operState_ofRow w row
    rw [known]
    dsimp only
    rw [show was = isConnected existing.status from (here was known).symm]
    by_cases same : isConnected existing.status = isConnected row.status
    · -- whatever else changed, the operational state did not
      have states : existing.operState = ((LiveInterface.ofRow w row).keepPoe existing).operState := by
        rw [oper, now, operStateOf_inj]
        exact same
      rw [if_pos same]
      split
      · simp
      · rw [List.filterMap_append, List.filterMap_cons, link?_event, if_pos states]
        simp
    · have states : existing.operState ≠ ((LiveInterface.ofRow w row).keepPoe existing).operState := by
        rw [oper, now, Ne, operStateOf_inj]
        exact same
      have differ : existing.comparable ≠ ((LiveInterface.ofRow w row).keepPoe existing).comparable := by
        intro equal
        simp only [LiveInterface.comparable, List.cons.injEq] at equal
        exact states equal.2.2.1
      rw [if_neg same, if_neg differ, List.filterMap_append, List.filterMap_cons, link?_event,
        if_neg states, now]
      unfold operStateOf
      cases isConnected row.status <;> rfl

/-- **The fast tier**: where the live state holds the last reading, the link events of a sample are
the transitions that it shows. -/
theorem filterMap_applyInterfaces (held : HeldIn interfaces links) {rows : List InterfaceStatus}
    (last : HoldsLast interfaces links rows) (w deviceId : Text) (at_ : Nat) :
    (interfaces.applyInterfaces w rows).2.filterMap
        (fun change => ((change.event deviceId at_).map (·.row)).bind EventRow.link?)
      = links.transitions rows := by
  suffices general : ∀ changes : List InterfaceChange,
      (rows.foldl (Interfaces.applyRow w) (interfaces, changes)).2.filterMap
          (fun change => ((change.event deviceId at_).map (·.row)).bind EventRow.link?)
        = changes.filterMap
            (fun change => ((change.event deviceId at_).map (·.row)).bind EventRow.link?)
          ++ links.transitions rows by
    have whole := general []
    rw [List.filterMap_nil, List.nil_append] at whole
    exact whole
  induction rows generalizing interfaces links with
  | nil => simp [Links.transitions]
  | cons row rows ih =>
    intro changes
    obtain ⟨item, status, -, set⟩ := get?_applyRow interfaces row w changes
    have rest := ih (held.applyRow row w changes) (by rw [set]; exact last.tail status)
      (Interfaces.applyRow w (interfaces, changes) row).2
    rw [List.foldl_cons, Links.transitions, ← List.append_assoc,
      ← filterMap_applyRow held last w deviceId at_ changes]
    exact rest

end live

/-! ## What a dashboard records -/

section dashboard

/-- The events that are about something else are no link events. -/
theorem link?_of_eventType {event : EventRow}
    (h : event.eventType ∈ InterfaceDelta.propertyEventTypes ++ [InterfaceDelta.learnedChange]) :
    event.link? = none := by
  have ne : ∀ t ∈ InterfaceDelta.propertyEventTypes ++ [InterfaceDelta.learnedChange],
      t ≠ "interface_link_up".toList ∧ t ≠ "interface_link_down".toList := by decide
  rw [EventRow.link?, if_neg (ne _ h).1, if_neg (ne _ h).2]

theorem PlainStatus.isConnected_iff {status : Text} (plain : PlainStatus status) :
    isConnected status = true ↔ status = "connected".toList := by
  refine ⟨plain, fun same => ?_⟩
  rw [same]
  decide +kernel

theorem PlainStatus.not_isConnected {status : Text} (plain : PlainStatus status)
    (h : status ≠ "connected".toList) : isConnected status = false :=
  Bool.eq_false_iff.mpr fun shown => h (plain shown)

variable [Digest] {retention : Nat} (seen : TelemetryObservation)

/-- The link event of a row against the one stored, whose status it changes alone. -/
theorem filterMap_events {held : InterfaceRow} {row : InterfaceStatus}
    (heldPlain : PlainStatus held.status) (rowPlain : PlainStatus row.status) :
    (seen.events (some held) row).filterMap EventRow.link? =
      if held.adminState = interfaceAdminState row.status then
        if isConnected held.status = isConnected row.status then []
        else [(row.port, isConnected row.status)]
      else [] := by
  let compared : InterfaceDelta.Seen :=
    ⟨seen.observedAt, seen.deviceId, row, seen.delta (some held) row⟩
  have others : (compared.propertyEvents ++ compared.learnedEvents held.learnedDevices
      (seen.learnedDevices row.port)).filterMap EventRow.link? = [] := by
    rw [List.filterMap_eq_nil_iff]
    intro event mem
    apply link?_of_eventType
    rcases List.mem_append.mp mem with mem | mem
    · exact List.mem_append_left _ (InterfaceDelta.Seen.eventType_propertyEvents mem)
    · rw [(InterfaceDelta.Seen.mem_learnedEvents.mp mem).2]
      exact List.mem_append_right _ (List.mem_singleton.mpr rfl)
  have split : seen.events (some held) row = compared.stateEvents ++ (compared.propertyEvents ++
      compared.learnedEvents held.learnedDevices (seen.learnedDevices row.port)) :=
    List.append_assoc _ _ _
  have admin : compared.delta.adminBefore = some compared.delta.adminAfter ↔
      held.adminState = interfaceAdminState row.status := Option.some_inj
  have status : compared.delta.statusBefore = some compared.delta.statusAfter ↔
      held.status = row.status := Option.some_inj
  rw [split, List.filterMap_append, others, List.append_nil]
  unfold InterfaceDelta.Seen.stateEvents
  dsimp only
  by_cases same : held.adminState = interfaceAdminState row.status
  · rw [if_neg (not_not.mpr (admin.mpr same)), if_pos same]
    by_cases unchanged : held.status = row.status
    · rw [if_neg (not_not.mpr (status.mpr unchanged)), unchanged, if_pos rfl]
      rfl
    · rw [if_pos (mt status.mp unchanged)]
      by_cases now : row.status = "connected".toList
      · have was : isConnected held.status = false :=
          heldPlain.not_isConnected fun was => unchanged (was.trans now.symm)
        have shown : compared.delta.statusAfter = "connected".toList := now
        rw [was, rowPlain.isConnected_iff.mpr now, if_neg Bool.false_ne_true, if_pos shown]
        rfl
      · have shown : compared.delta.statusAfter ≠ "connected".toList := now
        rw [rowPlain.not_isConnected now, if_neg shown]
        by_cases was : held.status = "connected".toList
        · have before : compared.delta.statusBefore = some "connected".toList := congrArg some was
          rw [heldPlain.isConnected_iff.mpr was, if_neg Bool.false_ne_true.symm, if_pos before]
          rfl
        · have before : compared.delta.statusBefore ≠ some "connected".toList :=
            fun before => was (Option.some.inj before)
          rw [heldPlain.not_isConnected was, if_pos rfl, if_neg before]
          rfl
  · rw [if_pos (mt admin.mp same), if_neg same]
    rfl

end dashboard

/-! ## Whole histories -/

section histories

variable [Digest] {retention : Nat}

/-- The ports that the observers remember were read before. -/
structure LinkObservers.Remembers (s : LinkObservers) (links : Links) : Prop where
  live : HeldIn s.interfaces links
  stored : ∀ snapshot ∈ s.tables.snapshots, ∀ row ∈ snapshot.rows, (links.get? row.port).isSome

theorem LinkObservers.Remembers.read {s : LinkObservers} {links : Links} (h : s.Remembers links)
    (reading : StatusReading) :
    (s.read retention reading).1.Remembers (reading.rows.foldl Links.after links) := by
  have stored : ∀ snapshot ∈ s.tables.snapshots, ∀ row ∈ snapshot.rows,
      ((reading.rows.foldl Links.after links).get? row.port).isSome :=
    fun snapshot mem row here => Links.isSome_foldl_after (.inl (h.stored snapshot mem row here))
  cases reading with
  | live at_ rows => exact ⟨h.live.applyRows [] [] rows, stored⟩
  | dashboard seen =>
    have live : HeldIn s.interfaces (seen.interfaces.foldl Links.after links) := by
      intro port item here
      obtain ⟨state, known⟩ := h.live port item here
      exact ⟨state, Links.isSome_foldl_after (.inl known)⟩
    unfold LinkObservers.read LinkObservers.readDashboard
    dsimp only
    by_cases nodup : (seen.interfaces.map (·.port)).Nodup
    · rw [TelemetryTables.recordSnapshot, dif_pos nodup]
      refine ⟨live, fun snapshot mem row here => ?_⟩
      rcases List.mem_append.mp (List.mem_of_mem_filter mem) with old | new
      · exact stored snapshot old row here
      · obtain rfl := List.mem_singleton.mp new
        obtain ⟨current, mem, rfl⟩ := List.mem_map.mp here
        exact Links.isSome_foldl_after (.inr ⟨current, mem, rfl⟩)
    · rw [TelemetryTables.recordSnapshot, dif_neg nodup]
      exact ⟨live, stored⟩

theorem remembers_afterHistory (retention : Nat) (history : List StatusReading) :
    (LinkObservers.afterHistory retention history).Remembers (Links.ofHistory history) := by
  induction history using List.reverseRecOn with
  | nil =>
    constructor
    · intro port item here
      cases here
    · intro snapshot mem
      cases mem
  | append_singleton before reading ih =>
    rw [LinkObservers.afterHistory, Links.ofHistory, List.foldl_concat, List.foldl_concat]
    exact ih.read reading

omit [Digest] in
/-- A row that is stored of a port was read of it before. -/
theorem LinkObservers.Remembers.previousRow {s : LinkObservers} {links : Links}
    (h : s.Remembers links) {deviceId port : Text} {held : InterfaceRow}
    (found : s.tables.previousRow deviceId port = some held) : (links.get? port).isSome := by
  obtain ⟨snapshot, latest, row⟩ := Option.bind_eq_some_iff.mp found
  have stored : snapshot ∈ s.tables.snapshots := List.mem_reverse.mp (List.mem_of_find?_eq_some latest)
  have same : held.port = port := by simpa using List.find?_some row
  rw [← same]
  exact h.stored snapshot stored held (List.mem_of_find?_eq_some row)

/-- A dashboard in step records the transitions of its table. -/
theorem filterMap_readDashboard {s : LinkObservers} {links : Links} (h : s.Remembers links)
    {seen : TelemetryObservation} (inStep : DashboardInStep s links seen) :
    (s.readDashboard retention seen).2.filterMap EventRow.link? = links.transitions seen.interfaces := by
  unfold DashboardInStep at inStep
  unfold LinkObservers.readDashboard TelemetryTables.recordSnapshot
  by_cases nodup : (seen.interfaces.map (·.port)).Nodup
  · rw [if_pos nodup] at inStep
    rw [dif_pos nodup, Links.transitions_of_nodup nodup]
    show (seen.interfaces.flatMap _).filterMap EventRow.link? = _
    rw [List.filterMap_flatMap]
    apply List.flatMap_congr
    intro row mem
    have here := inStep row mem
    unfold Links.shownBy
    cases found : s.tables.previousRow seen.deviceId row.port with
    | none =>
      cases known : links.get? row.port with
      | none => rfl
      | some was =>
        dsimp only
        rw [if_pos ((here was known).1 found).symm]
        rfl
    | some held =>
      obtain ⟨was, known⟩ := Option.isSome_iff_exists.mp (h.previousRow found)
      obtain ⟨heldPlain, rowPlain, last⟩ := (here was known).2 held found
      rw [known, filterMap_events seen heldPlain rowPlain]
      split at last
      · next same => rw [if_pos same, last]
      · next differ =>
        dsimp only
        rw [if_neg differ, last, if_pos rfl]
  · rw [if_neg nodup] at inStep
    rw [dif_neg nodup, inStep]
    rfl

/-- **Two observers**: in every history of readings, each made by an observer that remembers the last
one, the link events recorded of each reading are the transitions that it shows. -/
theorem recordsTransitions_of_inStep (retention : Nat) (history : List StatusReading)
    (h : Throughout (InStep retention) history) :
    Throughout (RecordsTransitions retention) history := by
  refine h.mono fun before reading inStep => ?_
  have remembers := remembers_afterHistory retention before
  unfold RecordsTransitions
  cases reading with
  | live at_ rows =>
    change LiveInStep _ _ _ at inStep
    unfold LiveInStep at inStep
    unfold LinkObservers.read LinkObservers.readLive StatusReading.rows
    dsimp only
    cases known : (LinkObservers.afterHistory retention before).deviceId with
    | none =>
      rw [known, if_pos Option.isNone_none] at inStep
      rw [inStep]
      rfl
    | some deviceId =>
      rw [known, if_neg (by simp)] at inStep
      dsimp only
      rw [List.filterMap_filterMap]
      exact filterMap_applyInterfaces remembers.live inStep [] deviceId at_
  | dashboard seen => exact filterMap_readDashboard remembers inStep

end histories

/-! ### One port, read in turns -/

/-- The port with a status. -/
def readPort (status : Text) : InterfaceStatus :=
  { port := "Gi0/3", name := "Printer", status := status, vlan := "1", duplex := "a-full",
    speed := "a-100", type := "10/100/1000BaseTX" }

def liveReading (at_ : Nat) (status : Text) : StatusReading := .live at_ [readPort status]

def dashboardReading (at_ : Nat) (status : Text) : StatusReading :=
  .dashboard {
    deviceId := "switch-physical-lab", observedAt := at_, interfaces := [readPort status]
    errors := [], poePorts := [], macEntries := [] }

instance [Digest] (retention : Nat) : DecidableRel (RecordsTransitions retention) :=
  fun before reading => inferInstanceAs (Decidable
    ((((LinkObservers.afterHistory retention before).read retention reading).2.filterMap
      EventRow.link?) = (Links.ofHistory before).transitions reading.rows))

/-- The link goes down and comes up between two readings of the fast tier, and down between two of
the dashboard. -/
theorem recordsTransitions_of_inStep_inTurns :
    Throughout (@RecordsTransitions sampleDigest 1000)
      [dashboardReading 0 "connected", liveReading 1 "connected", liveReading 2 "notconnect",
        liveReading 3 "connected", dashboardReading 4 "connected", dashboardReading 5 "notconnect"] :=
  @recordsTransitions_of_inStep sampleDigest 1000 _ (by decide +kernel)

/-- A link that goes down is recorded by the fast tier and once more by the dashboard. -/
theorem not_recordsTransitions_twice :
    ¬Throughout (@RecordsTransitions sampleDigest 1000)
      [dashboardReading 0 "connected", liveReading 1 "connected", liveReading 2 "notconnect",
        dashboardReading 3 "notconnect"] := by
  decide +kernel

/-- A link that is down whenever the fast tier reads it, and up whenever a dashboard does, is never
recorded. -/
example : ¬Throughout (@RecordsTransitions sampleDigest 1000)
    [dashboardReading 0 "connected", liveReading 1 "notconnect"] := by
  decide +kernel

end SwitchOps
