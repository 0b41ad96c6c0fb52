import SwitchOps.Lib.Transitions
import SwitchOps.Live.State

/-!
# Merging the samples of two tiers

The fast tier samples the status of the interfaces, the medium tier their PoE data, wattage included;
the samples are merged in any order, one at a time under the lock of `LiveState`. `merged_known` says
what is held of a port afterwards, and what was recorded of it: the transitions it went through, each
of them once.
-/

namespace SwitchOps

open Transitions

variable {W : Type} [Zero W]

/-- `LiveInterface` with its wattage, a number of some type. -/
structure MeteredInterface (W : Type) extends LiveInterface where
  poeWatts : W
  deriving DecidableEq

/-- What `apply_interfaces` reports: the port, and the interface before and after. -/
structure MeteredChange (W : Type) where
  port : Text
  before : MeteredInterface W
  after : MeteredInterface W
  deriving DecidableEq

/-- What `apply_poe` reports. -/
structure MeteredPoeChange (W : Type) where
  port : Text
  before : Text
  after : Text
  watts : W
  deriving DecidableEq

/-- A sample, with where it was read; a row of a PoE sample has its wattage beside it. -/
inductive LiveSample (W : Type)
  | interfaces (readFrom : Text) (parsed : List InterfaceStatus)
  | poe (readFrom : Text) (poePorts : List (PoePort × W))

/-- The interfaces, and all that was reported so far. -/
structure MergedState (W : Type) where
  interfaces : Dict Text (MeteredInterface W) := []
  changes : List (MeteredChange W) := []
  poeChanges : List (MeteredPoeChange W) := []

namespace MeteredInterface

def ofRow (readFrom : Text) (row : InterfaceStatus) : MeteredInterface W :=
  { LiveInterface.ofRow readFrom row with poeWatts := 0 }

def keepPoe (incoming existing : MeteredInterface W) : MeteredInterface W :=
  { incoming with
    poeState := existing.poeState
    poeFrom := existing.poeFrom
    poeWatts := existing.poeWatts }

end MeteredInterface

/-- One turn of the loop of `apply_interfaces`, and the transitions reported so far. -/
def meterRow (readFrom : Text)
    (acc : Dict Text (MeteredInterface W) × List (MeteredChange W)) (row : InterfaceStatus) :
    Dict Text (MeteredInterface W) × List (MeteredChange W) :=
  let incoming : MeteredInterface W := .ofRow readFrom row
  match acc.1.get? row.port with
  | none => (acc.1.set row.port incoming, acc.2)
  | some existing =>
    let incoming := incoming.keepPoe existing
    (acc.1.set row.port incoming,
      if existing.comparable = incoming.comparable then acc.2
      else acc.2 ++ [⟨row.port, existing, incoming⟩])

/-- One turn of the loop of `apply_poe`. -/
def meterPort (readFrom : Text)
    (acc : Dict Text (MeteredInterface W) × List (MeteredPoeChange W)) (port : PoePort × W) :
    Dict Text (MeteredInterface W) × List (MeteredPoeChange W) :=
  match acc.1.get? port.1.interface with
  | none => acc
  | some existing =>
    (acc.1.set port.1.interface { existing with
        poeState := port.1.oper
        poeFrom := some readFrom
        poeWatts := port.2 },
      if existing.poeState = port.1.oper then acc.2
      else acc.2 ++ [⟨port.1.interface, existing.poeState, port.1.oper, port.2⟩])

/-- `apply_interfaces` or `apply_poe`, and its result appended to what was reported before. -/
def MergedState.apply (s : MergedState W) : LiveSample W → MergedState W
  | .interfaces readFrom parsed =>
    let (interfaces, changes) := parsed.foldl (meterRow readFrom) (s.interfaces, [])
    { s with
      interfaces := interfaces
      changes := s.changes ++ changes }
  | .poe readFrom poePorts =>
    let (interfaces, changes) := poePorts.foldl (meterPort readFrom) (s.interfaces, [])
    { s with
      interfaces := interfaces
      poeChanges := s.poeChanges ++ changes }

/-- The live state after the given samples. -/
def merged (history : List (LiveSample W)) : MergedState W := history.foldl MergedState.apply {}

/-! ## What the samples say of a port -/

/-- A row of a sample. -/
inductive LiveEntry (W : Type)
  | status (readFrom : Text) (row : InterfaceStatus)
  | poe (readFrom : Text) (port : PoePort × W)

def LiveSample.entries : LiveSample W → List (LiveEntry W)
  | .interfaces readFrom parsed => parsed.map (.status readFrom)
  | .poe readFrom poePorts => poePorts.map (.poe readFrom)

/-- The PoE fields of an interface. -/
structure PoeReading (W : Type) where
  state : Text := []
  readFrom : Option Text := none
  watts : W
  deriving DecidableEq

def MeteredInterface.withPoe (item : MeteredInterface W) (reading : PoeReading W) : MeteredInterface W :=
  { item with
    poeState := reading.state
    poeFrom := reading.readFrom
    poeWatts := reading.watts }

/-- The interface that a status row of the port shows. -/
def LiveEntry.statusOf (port : Text) : LiveEntry W → Option (MeteredInterface W)
  | .status readFrom row => if row.port = port then some (.ofRow readFrom row) else none
  | .poe _ _ => none

/-- The reading that a PoE row of the port shows. -/
def LiveEntry.readingOf (port : Text) : LiveEntry W → Option (PoeReading W)
  | .status _ _ => none
  | .poe readFrom row => if row.1.interface = port then some ⟨row.1.oper, readFrom, row.2⟩ else none

section Said

variable (port : Text) (entries : List (LiveEntry W))

/-- The status rows of the port. -/
def statuses : List (MeteredInterface W) := entries.filterMap (·.statusOf port)

/-- The PoE rows of the port, from when it is known by a status row. -/
def readings : List (PoeReading W) :=
  (entries.dropWhile fun entry => (entry.statusOf port).isNone).filterMap (·.readingOf port)

/-- The PoE fields of the last reading; at first there is none. -/
def lastReading : PoeReading W := lastSeen { watts := 0 } (readings port entries)

/-- The port as the last status row and the last PoE row show it. -/
def shown : Option (MeteredInterface W) :=
  (statuses port entries).getLast?.map fun item => item.withPoe (lastReading port entries)

/-- The transitions of the comparable fields over the status rows. -/
def statusTransitions : List (List Text × List Text) :=
  match (statuses port entries).map fun item => item.comparable with
  | [] => []
  | first :: rest => transitions first rest

/-- The transitions of the operational PoE state. -/
def poeTransitions : List (Text × Text) := transitions [] ((readings port entries).map (·.state))

end Said

/-- What was reported of a port, on the comparable fields. -/
def MergedState.reported (s : MergedState W) (port : Text) : List (List Text × List Text) :=
  (s.changes.filter (·.port = port)).map fun change => (change.before.comparable, change.after.comparable)

def MergedState.poeReported (s : MergedState W) (port : Text) : List (Text × Text) :=
  (s.poeChanges.filter (·.port = port)).map fun change => (change.before, change.after)

omit [Zero W] in
@[simp] theorem MeteredInterface.comparable_withPoe (item : MeteredInterface W) (reading : PoeReading W) :
    (item.withPoe reading).comparable = item.comparable := rfl

omit [Zero W] in
@[simp] theorem MeteredInterface.comparable_keepPoe (incoming existing : MeteredInterface W) :
    (incoming.keepPoe existing).comparable = incoming.comparable := rfl

/-! ### One more row -/

variable {port : Text} {entries : List (LiveEntry W)} {entry : LiveEntry W}

theorem statuses_concat :
    statuses port (entries ++ [entry]) = statuses port entries ++ (entry.statusOf port).toList := by
  rw [statuses, List.filterMap_append, ← statuses]
  cases here : entry.statusOf port <;> simp [here]

theorem statuses_eq_nil_iff :
    statuses port entries = [] ↔ ∀ entry ∈ entries, (entry.statusOf port).isNone = true := by
  simp [statuses, List.filterMap_eq_nil_iff]

/-- A PoE row counts when the port is known. -/
theorem readings_concat : readings port (entries ++ [entry]) =
    readings port entries ++ if statuses port entries = [] then [] else (entry.readingOf port).toList := by
  rw [readings, List.dropWhile_append]
  by_cases unknown : statuses port entries = []
  · have none_ := List.dropWhile_eq_nil_iff.mpr (statuses_eq_nil_iff.mp unknown)
    rw [if_pos unknown, readings, none_]
    cases entry with
    | status readFrom row =>
      -- the row that makes the port known is no PoE row
      by_cases same : row.port = port <;> simp [LiveEntry.statusOf, LiveEntry.readingOf, same]
    | poe readFrom row => simp [LiveEntry.statusOf]
  · have some_ := List.dropWhile_eq_nil_iff.not.mpr (statuses_eq_nil_iff.not.mp unknown)
    rw [if_neg (by simpa using some_), if_neg unknown, List.filterMap_append, ← readings]
    cases here : entry.readingOf port <;> simp [here]

theorem statusTransitions_concat : statusTransitions port (entries ++ [entry]) =
    statusTransitions port entries ++
      match (statuses port entries).getLast?, entry.statusOf port with
      | some before, some after =>
        if before.comparable = after.comparable then [] else [(before.comparable, after.comparable)]
      | _, _ => [] := by
  rw [statusTransitions, statusTransitions, statuses_concat]
  cases entry.statusOf port with
  | none => simp
  | some after =>
    cases seen : statuses port entries with
    | nil => simp [transitions]
    | cons first rest =>
      simp only [Option.toList_some, List.cons_append, List.map_cons, List.map_append, List.map_nil,
        transitions_concat, List.getLast?_cons]
      rw [lastSeen_map fun item : MeteredInterface W => item.comparable]
      rfl

theorem poeTransitions_concat : poeTransitions port (entries ++ [entry]) =
    poeTransitions port entries ++
      if statuses port entries = [] then []
      else match entry.readingOf port with
        | some after =>
          if (lastReading port entries).state = after.state then []
          else [((lastReading port entries).state, after.state)]
        | none => [] := by
  rw [poeTransitions, poeTransitions, readings_concat]
  split
  · simp
  · cases entry.readingOf port with
    | none => simp
    | some after =>
      rw [Option.toList_some, List.map_append, List.map_singleton, transitions_concat]
      rw [show ([] : Text) = (fun reading : PoeReading W => reading.state) { watts := 0 } from rfl, lastSeen_map]
      rfl

theorem lastReading_status {readFrom : Text} {row : InterfaceStatus} :
    lastReading port (entries ++ [.status readFrom row]) = lastReading port entries := by
  simp [lastReading, readings_concat, LiveEntry.readingOf]

theorem lastReading_of_unknown (unknown : statuses port entries = []) :
    lastReading port entries = { watts := 0 } := by
  rw [lastReading, readings, List.dropWhile_eq_nil_iff.mpr (statuses_eq_nil_iff.mp unknown)]
  rfl

/-! ### One more row is merged -/

/-- What a row does to the interfaces and to what is reported. -/
def MergedState.applyEntry (s : MergedState W) : LiveEntry W → MergedState W
  | .status readFrom row =>
    let (interfaces, changes) := meterRow readFrom (s.interfaces, s.changes) row
    { s with
      interfaces := interfaces
      changes := changes }
  | .poe readFrom port =>
    let (interfaces, changes) := meterPort readFrom (s.interfaces, s.poeChanges) port
    { s with
      interfaces := interfaces
      poeChanges := changes }

/-- The port is held as the rows show it, and its transitions are reported. -/
structure FollowsRows (port : Text) (entries : List (LiveEntry W)) (s : MergedState W) : Prop where
  held : s.interfaces.get? port = shown port entries
  reported : s.reported port = statusTransitions port entries
  poeReported : s.poeReported port = poeTransitions port entries

variable {s : MergedState W}

/-- A row is merged with what was held of its port, and reported against it. -/
theorem meterRow_eq (readFrom : Text) (d : Dict Text (MeteredInterface W)) (changes : List (MeteredChange W))
    (row : InterfaceStatus) : meterRow readFrom (d, changes) row =
      (d.set row.port (((d.get? row.port).map (MeteredInterface.ofRow readFrom row).keepPoe).getD (.ofRow readFrom row)),
        changes ++ ((d.get? row.port).toList.filter fun existing =>
            existing.comparable ≠ (MeteredInterface.ofRow (W := W) readFrom row).comparable).map fun existing =>
          ⟨row.port, existing, (MeteredInterface.ofRow readFrom row).keepPoe existing⟩) := by
  rw [meterRow]
  cases d.get? row.port with
  | none => simp
  | some existing =>
    have same : ((MeteredInterface.ofRow readFrom row).keepPoe existing).comparable =
        (MeteredInterface.ofRow (W := W) readFrom row).comparable := rfl
    by_cases differ : existing.comparable = (MeteredInterface.ofRow (W := W) readFrom row).comparable <;>
      simp [same, differ]

omit [Zero W] in
theorem meterPort_eq (readFrom : Text) (d : Dict Text (MeteredInterface W)) (changes : List (MeteredPoeChange W))
    (row : PoePort × W) : meterPort readFrom (d, changes) row =
      (((d.get? row.1.interface).map fun existing =>
          d.set row.1.interface (existing.withPoe ⟨row.1.oper, readFrom, row.2⟩)).getD d,
        changes ++ ((d.get? row.1.interface).toList.filter fun existing => existing.poeState ≠ row.1.oper).map
          fun existing => ⟨row.1.interface, existing.poeState, row.1.oper, row.2⟩) := by
  rw [meterPort]
  cases d.get? row.1.interface with
  | none => simp
  | some existing => by_cases differ : existing.poeState = row.1.oper <;> simp [differ, MeteredInterface.withPoe]

theorem FollowsRows.status (h : FollowsRows port entries s) (readFrom : Text) (row : InterfaceStatus) :
    FollowsRows port (entries ++ [.status readFrom row]) (s.applyEntry (.status readFrom row)) := by
  have poe : poeTransitions port (entries ++ [.status readFrom row]) = poeTransitions port entries := by
    simp [poeTransitions_concat, LiveEntry.readingOf]
  have held := h.held
  have reported : (s.changes.filter (·.port = port)).map (fun change =>
      (change.before.comparable, change.after.comparable)) = statusTransitions port entries := h.reported
  by_cases same : row.port = port
  swap
  · -- a row of another port
    have here : (LiveEntry.status readFrom row : LiveEntry W).statusOf port = none := if_neg same
    refine ⟨?_, ?_, h.poeReported.trans poe.symm⟩
    · simp only [MergedState.applyEntry, meterRow_eq, shown, statuses_concat, here, Option.toList_none,
        List.append_nil, lastReading_status]
      rw [Dict.get?_set_ne _ same]
      exact held
    · simp only [MergedState.applyEntry, meterRow_eq, statusTransitions_concat, here, MergedState.reported]
      simpa [same, List.filter_append, List.filter_map, Function.comp_def] using reported
  · subst same
    have here : (LiveEntry.status readFrom row : LiveEntry W).statusOf row.port = some (.ofRow readFrom row) :=
      if_pos rfl
    refine ⟨?_, ?_, h.poeReported.trans poe.symm⟩
    · simp only [MergedState.applyEntry, meterRow_eq, Dict.get?_set_self, shown, statuses_concat, here,
        Option.toList_some, List.getLast?_concat, lastReading_status, Option.map_some, held]
      cases seen : (statuses row.port entries).getLast? with
      | none =>
        rw [lastReading_of_unknown (by simpa using seen)]
        rfl
      | some last => rfl
    · simp only [MergedState.applyEntry, meterRow_eq, statusTransitions_concat, here, MergedState.reported, held,
        List.filter_append, List.map_append, shown]
      rw [reported]
      cases seen : (statuses row.port entries).getLast? with
      | none => simp
      | some last =>
        by_cases differ : last.comparable = (MeteredInterface.ofRow (W := W) readFrom row).comparable <;>
          simp [differ]

theorem FollowsRows.poe (h : FollowsRows port entries s) (readFrom : Text) (row : PoePort × W) :
    FollowsRows port (entries ++ [.poe readFrom row]) (s.applyEntry (.poe readFrom row)) := by
  have none_ : (LiveEntry.poe readFrom row).statusOf port = none := rfl
  have status : statuses port (entries ++ [.poe readFrom row]) = statuses port entries := by
    simp [statuses_concat, none_]
  have unchanged : statusTransitions port (entries ++ [.poe readFrom row]) = statusTransitions port entries := by
    simp [statusTransitions, status]
  have held := h.held
  have reported : (s.poeChanges.filter (·.port = port)).map (fun change => (change.before, change.after)) =
      poeTransitions port entries := h.poeReported
  by_cases same : row.1.interface = port
  swap
  · -- a row of another port
    have here : (LiveEntry.poe readFrom row).readingOf port = none := if_neg same
    refine ⟨?_, h.reported.trans unchanged.symm, ?_⟩
    · simp only [MergedState.applyEntry, meterPort_eq, shown, status, lastReading, readings_concat, here,
        Option.toList_none, ite_self, List.append_nil]
      refine Eq.trans ?_ held
      cases s.interfaces.get? row.1.interface with
      | none => rfl
      | some existing => exact Dict.get?_set_ne _ same
    · simp only [MergedState.applyEntry, meterPort_eq, poeTransitions_concat, here, MergedState.poeReported]
      simpa [same, List.filter_append, List.filter_map, Function.comp_def] using reported
  · subst same
    have here : (LiveEntry.poe readFrom row).readingOf row.1.interface = some ⟨row.1.oper, readFrom, row.2⟩ :=
      if_pos rfl
    refine ⟨?_, h.reported.trans unchanged.symm, ?_⟩
    · simp only [MergedState.applyEntry, meterPort_eq, held, shown, status]
      cases seen : (statuses row.1.interface entries).getLast? with
      | none => simpa [shown, seen] using held
      | some last =>
        have known : statuses row.1.interface entries ≠ [] := by
          rintro unknown
          simp [unknown] at seen
        simp only [Option.map_some, Option.getD_some, Dict.get?_set_self, lastReading, readings_concat, here,
          if_neg known, Option.toList_some, lastSeen_concat]
        rfl
    · simp only [MergedState.applyEntry, meterPort_eq, poeTransitions_concat, here, MergedState.poeReported, held,
        List.filter_append, List.map_append, shown]
      rw [reported]
      cases seen : (statuses row.1.interface entries).getLast? with
      | none =>
        have unknown : statuses row.1.interface entries = [] := by simpa using seen
        simp [unknown]
      | some last =>
        have known : statuses row.1.interface entries ≠ [] := by
          rintro unknown
          simp [unknown] at seen
        by_cases differ : (lastReading row.1.interface entries).state = row.1.oper <;>
          simp [differ, known, MeteredInterface.withPoe]

theorem FollowsRows.applyEntry (h : FollowsRows port entries s) (entry : LiveEntry W) :
    FollowsRows port (entries ++ [entry]) (s.applyEntry entry) := by
  cases entry with
  | status readFrom row => exact h.status readFrom row
  | poe readFrom row => exact h.poe readFrom row

/-! ### A sample is merged row by row -/

theorem foldl_meterRow (readFrom : Text) (rows : List InterfaceStatus) (d : Dict Text (MeteredInterface W))
    (earlier changes : List (MeteredChange W)) :
    rows.foldl (meterRow readFrom) (d, earlier ++ changes) =
      ((rows.foldl (meterRow readFrom) (d, changes)).1,
        earlier ++ (rows.foldl (meterRow readFrom) (d, changes)).2) := by
  induction rows generalizing d changes with
  | nil => rfl
  | cons row rows ih => rw [List.foldl_cons, List.foldl_cons, meterRow_eq, meterRow_eq, List.append_assoc, ih]

omit [Zero W] in
theorem foldl_meterPort (readFrom : Text) (rows : List (PoePort × W)) (d : Dict Text (MeteredInterface W))
    (earlier changes : List (MeteredPoeChange W)) :
    rows.foldl (meterPort readFrom) (d, earlier ++ changes) =
      ((rows.foldl (meterPort readFrom) (d, changes)).1,
        earlier ++ (rows.foldl (meterPort readFrom) (d, changes)).2) := by
  induction rows generalizing d changes with
  | nil => rfl
  | cons row rows ih => rw [List.foldl_cons, List.foldl_cons, meterPort_eq, meterPort_eq, List.append_assoc, ih]

theorem MergedState.apply_eq (s : MergedState W) (sample : LiveSample W) :
    s.apply sample = sample.entries.foldl MergedState.applyEntry s := by
  cases sample with
  | interfaces readFrom parsed =>
    have whole := foldl_meterRow readFrom parsed s.interfaces s.changes []
    rw [List.append_nil] at whole
    have inTurn : ∀ (rows : List InterfaceStatus) (t : MergedState W),
        (rows.map (LiveEntry.status readFrom)).foldl MergedState.applyEntry t =
          { t with
            interfaces := (rows.foldl (meterRow readFrom) (t.interfaces, t.changes)).1
            changes := (rows.foldl (meterRow readFrom) (t.interfaces, t.changes)).2 } := by
      intro rows
      induction rows with
      | nil => exact fun t => rfl
      | cons row rows ih => exact fun t => ih _
    rw [LiveSample.entries, inTurn, whole]
    rfl
  | poe readFrom poePorts =>
    have whole := foldl_meterPort readFrom poePorts s.interfaces s.poeChanges []
    rw [List.append_nil] at whole
    have inTurn : ∀ (rows : List (PoePort × W)) (t : MergedState W),
        (rows.map (LiveEntry.poe readFrom)).foldl MergedState.applyEntry t =
          { t with
            interfaces := (rows.foldl (meterPort readFrom) (t.interfaces, t.poeChanges)).1
            poeChanges := (rows.foldl (meterPort readFrom) (t.interfaces, t.poeChanges)).2 } := by
      intro rows
      induction rows with
      | nil => exact fun t => rfl
      | cons row rows ih => exact fun t => ih _
    rw [LiveSample.entries, inTurn, whole]
    rfl

theorem follows_nil : FollowsRows port ([] : List (LiveEntry W)) {} := ⟨rfl, rfl, rfl⟩

/-- After any samples every port is held as their rows show it. -/
theorem follows_merged (history : List (LiveSample W)) (port : Text) :
    FollowsRows port (history.flatMap LiveSample.entries) (merged history) := by
  have further : ∀ (later : List (LiveEntry W)) {entries : List (LiveEntry W)} {s : MergedState W},
      FollowsRows port entries s → FollowsRows port (entries ++ later) (later.foldl MergedState.applyEntry s) := by
    intro later
    induction later with
    | nil => simp
    | cons entry later ih =>
      intro entries s h
      simpa using ih (h.applyEntry entry)
  induction history using List.reverseRecOn with
  | nil => exact follows_nil
  | append_singleton history sample ih =>
    rw [List.flatMap_append, List.flatMap_singleton, merged, List.foldl_concat, ← merged, MergedState.apply_eq]
    exact further sample.entries ih

/-- **What is held and reported of a port.** It was listed by a status row; its PoE fields are those of the
last PoE row since then, all others those of the last status row; and the transitions over these rows were
reported, each once, from the first row to what is held now. -/
theorem merged_known (history : List (LiveSample W)) (port : Text) (item : MeteredInterface W)
    (held : (merged history).interfaces.get? port = some item) :
    ∃ first rest, statuses port (history.flatMap LiveSample.entries) = first :: rest ∧
      item = (lastSeen first rest).withPoe (lastReading port (history.flatMap LiveSample.entries)) ∧
      (merged history).reported port = transitions first.comparable (rest.map (·.comparable)) ∧
      Chained first.comparable ((merged history).reported port) item.comparable ∧
      (merged history).poeReported port =
        transitions [] ((readings port (history.flatMap LiveSample.entries)).map (·.state)) ∧
      Chained [] ((merged history).poeReported port) item.poeState := by
  have follows := follows_merged history port
  have reported := follows.reported
  have poeReported := follows.poeReported
  rw [follows.held, shown] at held
  obtain ⟨last, seen, rfl⟩ := Option.map_eq_some_iff.mp held
  cases listed : statuses port (history.flatMap LiveSample.entries) with
  | nil => simp [listed] at seen
  | cons first rest =>
    obtain rfl : lastSeen first rest = last := by
      simpa [listed, List.getLast?_cons, lastSeen] using seen
    rw [statusTransitions, listed, List.map_cons] at reported
    refine ⟨first, rest, rfl, rfl, reported, ?_, poeReported, ?_⟩
    · rw [reported, MeteredInterface.comparable_withPoe, ← lastSeen_map fun item : MeteredInterface W => item.comparable]
      exact chained_transitions _ _
    · rw [poeReported]
      have chained := chained_transitions ([] : Text)
        ((readings port (history.flatMap LiveSample.entries)).map (·.state))
      rwa [show ([] : Text) = (fun reading : PoeReading W => reading.state) { watts := 0 } from rfl,
        lastSeen_map] at chained

/-- A port comes up, draws power and goes down; its status is sampled again afterwards. -/
def sampledPort : List (LiveSample Nat) :=
  let row (status : Text) : InterfaceStatus :=
    { port := "Gi1/0/1", name := "desk", status := status, vlan := "10", duplex := "a-full", speed := "a-1000",
      type := "10/100/1000BaseTX" }
  let poe (oper : Text) (watts : Nat) : PoePort × Nat :=
    (⟨"Gi1/0/1", "auto", oper, "Ieee PD", "3"⟩, watts)
  [.poe "192.0.2.1" [poe "on" 5], .interfaces "192.0.2.1" [row "connected"], .poe "192.0.2.1" [poe "on" 7],
    .interfaces "192.0.2.1" [row "notconnect"], .poe "192.0.2.1" [poe "off" 0],
    .interfaces "192.0.2.1" [row "notconnect"]]

theorem merged_known_sampled : ∃ item, (merged sampledPort).interfaces.get? "Gi1/0/1" = some item ∧
    item.poeState = "off" ∧ ((merged sampledPort).reported "Gi1/0/1").length = 1 ∧
    (merged sampledPort).poeReported "Gi1/0/1" =
      [([], "on".toList), ("on".toList, "off".toList)] ∧
    Chained [] ((merged sampledPort).poeReported "Gi1/0/1") item.poeState := by
  cases held : (merged sampledPort).interfaces.get? "Gi1/0/1" with
  | none => exact absurd held (by decide +kernel)
  | some item =>
    obtain ⟨first, rest, -, -, -, -, -, chained⟩ := merged_known sampledPort "Gi1/0/1" item held
    refine ⟨item, rfl, ?_, by decide +kernel, by decide +kernel, chained⟩
    have off : ((merged sampledPort).interfaces.get? "Gi1/0/1").map (·.poeState) = some "off".toList := by
      decide +kernel
    rw [held] at off
    exact Option.some.inj off

/-! ### The wattage aside, these are the interfaces of the live state -/

def unmetered (interfaces : Dict Text (MeteredInterface W)) : Interfaces :=
  interfaces.map fun entry => (entry.1, entry.2.toLiveInterface)

omit [Zero W] in
theorem get?_unmetered (d : Dict Text (MeteredInterface W)) (port : Text) :
    (unmetered d).get? port = (d.get? port).map (·.toLiveInterface) :=
  Dict.get?_mapValues (fun item : MeteredInterface W => item.toLiveInterface) d port

omit [Zero W] in
theorem set_unmetered (d : Dict Text (MeteredInterface W)) (port : Text) (item : MeteredInterface W) :
    (unmetered d).set port item.toLiveInterface = unmetered (d.set port item) :=
  Dict.set_mapValues (fun item : MeteredInterface W => item.toLiveInterface) d port item

def MeteredChange.unmetered (change : MeteredChange W) : InterfaceChange :=
  ⟨change.port, change.before.toLiveInterface, change.after.toLiveInterface⟩

theorem applyRow_unmetered (readFrom : Text) (d : Dict Text (MeteredInterface W)) (changes : List (MeteredChange W))
    (row : InterfaceStatus) :
    Interfaces.applyRow readFrom (unmetered d, changes.map MeteredChange.unmetered) row =
      (unmetered (meterRow readFrom (d, changes) row).1,
        (meterRow readFrom (d, changes) row).2.map MeteredChange.unmetered) := by
  rw [Interfaces.applyRow, meterRow]
  dsimp only
  rw [get?_unmetered]
  cases d.get? row.port with
  | none => exact Prod.ext (set_unmetered d row.port (.ofRow readFrom row)) rfl
  | some existing =>
    refine Prod.ext (set_unmetered d row.port ((MeteredInterface.ofRow readFrom row).keepPoe existing)) ?_
    by_cases same : existing.comparable = (LiveInterface.ofRow readFrom row).comparable
    · exact (if_pos same).trans (congrArg _ (if_pos same).symm)
    · exact (if_neg same).trans (((congrArg _ (if_neg same)).trans (by rw [List.map_append]; rfl)).symm)

theorem applyInterfaces_unmetered (readFrom : Text) (d : Dict Text (MeteredInterface W))
    (parsed : List InterfaceStatus) :
    (unmetered d).applyInterfaces readFrom parsed =
      (unmetered (parsed.foldl (meterRow readFrom) (d, [])).1,
        (parsed.foldl (meterRow readFrom) (d, [])).2.map MeteredChange.unmetered) := by
  have further : ∀ (changes : List (MeteredChange W)),
      parsed.foldl (Interfaces.applyRow readFrom) (unmetered d, changes.map MeteredChange.unmetered) =
        (unmetered (parsed.foldl (meterRow readFrom) (d, changes)).1,
          (parsed.foldl (meterRow readFrom) (d, changes)).2.map MeteredChange.unmetered) := by
    induction parsed generalizing d with
    | nil => exact fun changes => rfl
    | cons row parsed ih =>
      intro changes
      rw [List.foldl_cons, List.foldl_cons, applyRow_unmetered]
      exact ih _ _
  exact further []

omit [Zero W] in
theorem applyPort_unmetered (readFrom : Text) (d : Dict Text (MeteredInterface W))
    (acc : List PoeChange) (changes : List (MeteredPoeChange W)) (row : PoePort × W) :
    (Interfaces.applyPort readFrom (unmetered d, acc) row.1).1 = unmetered (meterPort readFrom (d, changes) row).1 := by
  rw [Interfaces.applyPort, meterPort]
  dsimp only
  rw [get?_unmetered]
  cases d.get? row.1.interface with
  | none => rfl
  | some existing =>
    exact set_unmetered d row.1.interface (existing.withPoe ⟨row.1.oper, readFrom, row.2⟩)

end SwitchOps
