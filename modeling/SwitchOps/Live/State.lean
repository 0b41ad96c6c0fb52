import SwitchOps.Lib.Dict
import SwitchOps.Parsers

/-!
# The live state

What `LiveState` holds of the interfaces, how the fast and the PoE tier merge a sample into it, and
the events `main` makes of the transitions that a sample reveals. The interfaces are keyed by their
port alone.

`readFrom` and `poeFrom` are ghosts: the address of the switch whose command output a value was
derived from.
-/

namespace SwitchOps

/-! ## The identity of a switch -/

def isSlugChar (c : Char) : Bool := ('a' ≤ c && c ≤ 'z') || ('0' ≤ c && c ≤ '9')

/-- `re.sub(r"[^a-z0-9]+", "-", value)` -/
def dashed : Text → Text
  | [] => []
  | c :: rest =>
    if isSlugChar c then c :: dashed rest
    else if (rest.head?.map isSlugChar).getD true then '-' :: dashed rest
    else dashed rest

/-- `_slug` -/
def slug (value : Text) : Text :=
  let stripped := ((dashed value.lower).dropWhile (· == '-')).reverse.dropWhile (· == '-')
  if stripped.isEmpty then "unknown" else stripped.reverse

/-- `switch_device_id`, of a physical switch. -/
def switchDeviceId (hostname : Text) : Text := "switch-physical-".toList ++ slug hostname

/-! ## The interfaces -/

/-- `LiveInterface`, its wattage aside. -/
structure LiveInterface where
  port : Text
  description : Text
  status : Text
  adminState : Text
  operState : Text
  speed : Text
  duplex : Text
  vlan : Text
  poeState : Text := []
  isProtected : Bool := false
  policyState : PolicyState := .unmanaged
  readFrom : Text
  poeFrom : Option Text := none
  deriving DecidableEq, Repr

namespace LiveInterface

/-- `comparable`: the fields whose change is worth telling somebody about. -/
def comparable (item : LiveInterface) : List Text :=
  [item.status, item.adminState, item.operState, item.speed, item.duplex, item.vlan,
    item.description]

/-- What `apply_interfaces` makes of a row. -/
def ofRow (readFrom : Text) (row : InterfaceStatus) : LiveInterface :=
  let status := row.status.strip.lower
  { port := row.port
    description := row.name
    status := row.status
    adminState := if status = "disabled".toList then "down" else "up"
    operState := if status = "connected".toList then "up" else "down"
    speed := row.speed
    duplex := row.duplex
    vlan := row.vlan
    isProtected := row.isProtected
    policyState := row.policyState
    readFrom := readFrom }

/-- The PoE data arrives on a different tier, and is not lost to a sample of this one. -/
def keepPoe (incoming existing : LiveInterface) : LiveInterface :=
  { incoming with poeState := existing.poeState, poeFrom := existing.poeFrom }

@[simp] theorem comparable_keepPoe (incoming existing : LiveInterface) :
    (incoming.keepPoe existing).comparable = incoming.comparable := rfl

@[simp] theorem readFrom_keepPoe (incoming existing : LiveInterface) :
    (incoming.keepPoe existing).readFrom = incoming.readFrom := rfl

end LiveInterface

/-- A transition that a fast sample revealed. -/
structure InterfaceChange where
  port : Text
  before : LiveInterface
  after : LiveInterface
  deriving DecidableEq, Repr

/-- A transition that a PoE sample revealed, with where the two states were read. -/
structure PoeChange where
  port : Text
  before : Text
  after : Text
  beforeFrom : Option Text
  afterFrom : Text
  deriving DecidableEq, Repr

abbrev Interfaces := Dict Text LiveInterface

namespace Interfaces

/-- One turn of the loop of `apply_interfaces`. -/
def applyRow (readFrom : Text) (acc : Interfaces × List InterfaceChange) (row : InterfaceStatus) :
    Interfaces × List InterfaceChange :=
  let incoming := LiveInterface.ofRow readFrom row
  match acc.1.get? row.port with
  | none => (acc.1.set row.port incoming, acc.2)
  | some existing =>
    let incoming := incoming.keepPoe existing
    (acc.1.set row.port incoming,
      if existing.comparable = incoming.comparable then acc.2
      else acc.2 ++ [⟨row.port, existing, incoming⟩])

/-- `apply_interfaces`: the interfaces after a sample, and the transitions it revealed. -/
def applyInterfaces (interfaces : Interfaces) (readFrom : Text) (rows : List InterfaceStatus) :
    Interfaces × List InterfaceChange :=
  rows.foldl (applyRow readFrom) (interfaces, [])

/-- One turn of the loop of `apply_poe`. -/
def applyPort (readFrom : Text) (acc : Interfaces × List PoeChange) (port : PoePort) :
    Interfaces × List PoeChange :=
  match acc.1.get? port.interface with
  | none => acc
  | some existing =>
    (acc.1.set port.interface { existing with poeState := port.oper, poeFrom := some readFrom },
      if existing.poeState = port.oper then acc.2
      else acc.2 ++ [⟨port.interface, existing.poeState, port.oper, existing.poeFrom, readFrom⟩])

/-- `apply_poe` -/
def applyPoe (interfaces : Interfaces) (readFrom : Text) (ports : List PoePort) :
    Interfaces × List PoeChange :=
  ports.foldl (applyPort readFrom) (interfaces, [])

/-! ### Where the transitions of a sample come from -/

variable {interfaces : Interfaces} {w : Text}

/-- An interface as the row of a fast sample of `w` shows it. -/
def Shows (w : Text) (row : InterfaceStatus) (item : LiveInterface) : Prop :=
  item.readFrom = w ∧ item.comparable = (LiveInterface.ofRow w row).comparable

/-- The interfaces and transitions in the course of a fast sample: what is held of a port was held
before the sample or is shown by a row of it, and so is what a transition starts from. -/
structure Sampled (interfaces : Interfaces) (w : Text) (rows : List InterfaceStatus)
    (acc : Interfaces × List InterfaceChange) : Prop where
  held : ∀ port item, acc.1.get? port = some item →
    interfaces.get? port = some item ∨ ∃ row ∈ rows, row.port = port ∧ Shows w row item
  revealed : ∀ change ∈ acc.2, change.before.comparable ≠ change.after.comparable ∧
    ∃ row ∈ rows, Shows w row change.after ∧
      (interfaces.get? row.port = some change.before ∨
        ∃ row' ∈ rows, row'.port = row.port ∧ Shows w row' change.before)

theorem Sampled.applyRow {rows : List InterfaceStatus} {acc : Interfaces × List InterfaceChange}
    (h : Sampled interfaces w rows acc) {row : InterfaceStatus} (mem : row ∈ rows) :
    Sampled interfaces w rows (applyRow w acc row) := by
  have held_set : ∀ incoming, Shows w row incoming →
      ∀ port item, (acc.1.set row.port incoming).get? port = some item →
        interfaces.get? port = some item ∨ ∃ row ∈ rows, row.port = port ∧ Shows w row item := by
    intro incoming shows_ port item here
    by_cases same : row.port = port
    · subst same
      rw [Dict.get?_set_self] at here
      cases here
      exact .inr ⟨row, mem, rfl, shows_⟩
    · rw [Dict.get?_set_ne _ same] at here
      exact h.held port item here
  unfold Interfaces.applyRow
  cases found : acc.1.get? row.port with
  | none => exact ⟨held_set _ ⟨rfl, rfl⟩, h.revealed⟩
  | some existing =>
    refine ⟨held_set _ ⟨rfl, rfl⟩, fun change revealed => ?_⟩
    dsimp only at revealed
    split at revealed
    · exact h.revealed change revealed
    · next differ =>
      obtain earlier | new := List.mem_append.mp revealed
      · exact h.revealed change earlier
      · obtain rfl := List.mem_singleton.mp new
        exact ⟨differ, row, mem, ⟨rfl, rfl⟩, h.held row.port existing found⟩

/-- Every transition of a fast sample leads to what a row of the sample shows, and starts from what
was held of its port before the sample, or from what another row of the port shows. -/
theorem sampled_applyInterfaces (interfaces : Interfaces) (w : Text) (rows : List InterfaceStatus) :
    Sampled interfaces w rows (interfaces.applyInterfaces w rows) :=
  List.foldlRecOn rows (Interfaces.applyRow w) (motive := Sampled interfaces w rows)
    ⟨fun _ _ here => .inl here, by simp⟩ fun _ h _ mem => h.applyRow mem

/-- The PoE state of a port, with where it was read, as held before a PoE sample of `w` or as shown
by a row of it. -/
def PoeSeen (interfaces : Interfaces) (w : Text) (ports : List PoePort) (port state : Text)
    (readFrom : Option Text) : Prop :=
  ∃ item, interfaces.get? port = some item ∧
    ((item.poeState = state ∧ item.poeFrom = readFrom) ∨
      ∃ row ∈ ports, row.interface = port ∧ row.oper = state ∧ readFrom = some w)

/-- The interfaces and transitions in the course of a PoE sample. -/
structure PoeSampled (interfaces : Interfaces) (w : Text) (ports : List PoePort)
    (acc : Interfaces × List PoeChange) : Prop where
  held : ∀ port item, acc.1.get? port = some item →
    PoeSeen interfaces w ports port item.poeState item.poeFrom
  revealed : ∀ change ∈ acc.2, change.before ≠ change.after ∧ change.afterFrom = w ∧
    (∃ row ∈ ports, row.interface = change.port ∧ row.oper = change.after) ∧
    PoeSeen interfaces w ports change.port change.before change.beforeFrom

theorem PoeSampled.applyPort {ports : List PoePort} {acc : Interfaces × List PoeChange}
    (h : PoeSampled interfaces w ports acc) {port : PoePort} (mem : port ∈ ports) :
    PoeSampled interfaces w ports (applyPort w acc port) := by
  unfold Interfaces.applyPort
  cases found : acc.1.get? port.interface with
  | none => exact h
  | some existing =>
    have seen := h.held _ _ found
    constructor
    case held =>
      intro p item here
      by_cases same : port.interface = p
      · subst same
        rw [Dict.get?_set_self] at here
        cases here
        obtain ⟨before, held, -⟩ := seen
        exact ⟨before, held, .inr ⟨port, mem, rfl, rfl, rfl⟩⟩
      · rw [Dict.get?_set_ne _ same] at here
        exact h.held p item here
    case revealed =>
      intro change revealed
      dsimp only at revealed
      split at revealed
      · exact h.revealed change revealed
      · next differ =>
        obtain earlier | new := List.mem_append.mp revealed
        · exact h.revealed change earlier
        · obtain rfl := List.mem_singleton.mp new
          exact ⟨differ, rfl, ⟨port, mem, rfl, rfl⟩, seen⟩

theorem poeSampled_applyPoe (interfaces : Interfaces) (w : Text) (ports : List PoePort) :
    PoeSampled interfaces w ports (interfaces.applyPoe w ports) :=
  List.foldlRecOn ports (Interfaces.applyPort w) (motive := PoeSampled interfaces w ports)
    ⟨fun _ item here => ⟨item, here, .inl ⟨rfl, rfl⟩⟩, by simp⟩ fun _ h _ mem => h.applyPort mem

end Interfaces

/-! ## Events -/

/-- `NetworkEvent`; of the metadata only the source. -/
structure NetworkEvent where
  timestamp : Nat
  deviceId : Text
  interface : Option Text
  eventType : Text
  severity : Text
  title : Text
  detail : Text
  source : Text
  deriving DecidableEq, Repr

/-- The three kinds of transition that make an event. -/
def LiveInterface.noteworthy (before after : LiveInterface) : Bool :=
  before.operState ≠ after.operState || before.adminState ≠ after.adminState ||
    before.description ≠ after.description

theorem LiveInterface.comparable_ne_of_noteworthy {before after : LiveInterface}
    (h : before.noteworthy after) : before.comparable ≠ after.comparable := by
  intro same
  simp only [comparable, List.cons.injEq] at same
  simp [noteworthy, same] at h

/-- What a transition is noteworthy for is among what is compared. -/
theorem LiveInterface.noteworthy_congr {before after before' after' : LiveInterface}
    (h : before.comparable = before'.comparable) (h' : after.comparable = after'.comparable) :
    before.noteworthy after = before'.noteworthy after' := by
  simp only [comparable, List.cons.injEq] at h h'
  simp [noteworthy, h, h']

/-- The event that `_record_interface_transitions` makes of a transition, if it makes one. -/
def InterfaceChange.event (change : InterfaceChange) (deviceId : Text) (timestamp : Nat) :
    Option NetworkEvent :=
  let port := change.port
  let after := change.after
  if change.before.operState ≠ after.operState then
    let up : Bool := after.operState = "up".toList
    some {
      timestamp := timestamp, deviceId := deviceId, interface := some port
      eventType := if up then "interface_link_up" else "interface_link_down"
      severity := if up then "HEALTHY" else "NOTICE"
      title := port ++ " link ".toList ++ if up then "established".toList else "lost".toList
      detail :=
        if up then "Observed by live telemetry. Negotiated ".toList ++ after.speed ++ " ".toList ++
          after.duplex ++ ".".toList
        else "The switch no longer detects an Ethernet link on this interface."
      source := "live-fast" }
  else if change.before.adminState ≠ after.adminState then
    let enabled : Bool := after.adminState = "up".toList
    some {
      timestamp := timestamp, deviceId := deviceId, interface := some port
      eventType := "interface_admin_changed", severity := "NOTICE"
      title := port ++ " administratively ".toList ++
        if enabled then "enabled".toList else "disabled".toList
      detail := "The interface's administrative state changed.", source := "live-fast" }
  else if change.before.description ≠ after.description then
    some {
      timestamp := timestamp, deviceId := deviceId, interface := some port
      eventType := "interface_description_changed", severity := "NOTICE"
      title := port ++ " description changed".toList
      detail := "The interface description is now ".toList ++ Text.repr after.description ++
        ".".toList
      source := "live-fast" }
  else none

/-- An event is made of the noteworthy transitions, under the given device. -/
theorem InterfaceChange.of_event {change : InterfaceChange} {deviceId : Text} {timestamp : Nat}
    {event : NetworkEvent} (h : change.event deviceId timestamp = some event) :
    event.deviceId = deviceId ∧ change.before.noteworthy change.after := by
  simp only [InterfaceChange.event] at h
  split at h
  · next oper =>
    cases h
    exact ⟨rfl, by simp [LiveInterface.noteworthy, oper]⟩
  · split at h
    · next admin =>
      cases h
      exact ⟨rfl, by simp [LiveInterface.noteworthy, admin]⟩
    · split at h
      · next description =>
        cases h
        exact ⟨rfl, by simp [LiveInterface.noteworthy, description]⟩
      · cases h

/-- The states in which a port supplies no power. -/
def idlePoeStates : List Text := [[], "off", "n/a", "faulty", "deny"]

/-- The event that `_record_poe_transitions` makes of a transition. -/
def PoeChange.event (change : PoeChange) (deviceId : Text) (timestamp : Nat) : NetworkEvent :=
  let active := !idlePoeStates.contains change.after.lower
  let shown (state : Text) : Text := if state.isEmpty then "unknown" else state
  { timestamp := timestamp, deviceId := deviceId, interface := some change.port
    eventType := "poe_state_changed"
    severity := if active then "HEALTHY" else "NOTICE"
    title := "PoE ".toList ++ (if active then "started".toList else "stopped".toList) ++
      " on ".toList ++ change.port
    detail := "Observed PoE operational state changed from ".toList ++ shown change.before ++
      " to ".toList ++ shown change.after ++ ".".toList
    source := "live-medium" }

end SwitchOps
