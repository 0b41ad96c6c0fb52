import SwitchOps.Lib.History
import SwitchOps.Telemetry.Store

/-!
# Observations with missing sections

A dashboard collects the error counters, the PoE table and the MAC table by commands of their own.
A section that fails is stored as an empty one, which reads as no errors, no PoE and no address; the
next observation that has the section is compared with that. Here two runs of the store over one
history of collections are compared: the run as the backend makes it, and the run in which every
missing section repeats the last one that was collected of the device. What the first records about
counters, PoE and learned addresses is recorded by the second, if and only if no missing section
hides anything.
-/

namespace SwitchOps

open Histories

/-- What a dashboard collected; a section that could not be collected is missing. -/
structure DashboardCollection where
  deviceId : Text
  observedAt : Nat
  interfaces : List InterfaceStatus
  errors : Option (List InterfaceErrorCounters) := none
  poePorts : Option (List PoePort) := none
  macEntries : Option (List MacTableEntry) := none
  deriving DecidableEq, Repr

namespace DashboardCollection

/-- What `_collect_dashboard` records: `_parse_section` falls back to an empty section. -/
def observation (collection : DashboardCollection) : TelemetryObservation :=
  { deviceId := collection.deviceId
    observedAt := collection.observedAt
    interfaces := collection.interfaces
    errors := collection.errors.getD []
    poePorts := collection.poePorts.getD []
    macEntries := collection.macEntries.getD [] }

/-- The section last collected of a device. -/
def lastCollected {β : Type} (section_ : DashboardCollection → Option β)
    (before : List DashboardCollection) (deviceId : Text) : Option β :=
  before.reverse.findSome? fun earlier =>
    if earlier.deviceId = deviceId then section_ earlier else none

/-- The collection, its missing sections repeating the ones last collected. -/
def repeating (before : List DashboardCollection) (collection : DashboardCollection) :
    DashboardCollection :=
  { collection with
    errors := collection.errors.or (lastCollected (·.errors) before collection.deviceId)
    poePorts := collection.poePorts.or (lastCollected (·.poePorts) before collection.deviceId)
    macEntries := collection.macEntries.or (lastCollected (·.macEntries) before collection.deviceId) }

end DashboardCollection

/-- What is recorded of a collection, in the light of those before it. -/
abbrev CollectionView := List DashboardCollection → DashboardCollection → TelemetryObservation

/-- As the backend records a collection. -/
def asCollected : CollectionView := fun _ collection => collection.observation

/-- As it would be recorded had the missing sections repeated the last ones. -/
def asRepeated : CollectionView := fun before collection =>
  (collection.repeating before).observation

/-- A place in a history: a collection and the ones before it. -/
abbrev CollectionPlace := List DashboardCollection × DashboardCollection

/-- What a view makes of the collection at a place. -/
def CollectionPlace.seen (place : CollectionPlace) (view : CollectionView) : TelemetryObservation :=
  view place.1 place.2

/-- A view that changes nothing but the three sections. -/
structure CollectionView.Keeps (view : CollectionView) : Prop where
  deviceId : ∀ before collection, (view before collection).deviceId = collection.deviceId
  observedAt : ∀ before collection, (view before collection).observedAt = collection.observedAt
  interfaces : ∀ before collection, (view before collection).interfaces = collection.interfaces

theorem keeps_asCollected : CollectionView.Keeps asCollected :=
  ⟨fun _ _ => rfl, fun _ _ => rfl, fun _ _ => rfl⟩

theorem keeps_asRepeated : CollectionView.Keeps asRepeated :=
  ⟨fun _ _ => rfl, fun _ _ => rfl, fun _ _ => rfl⟩

variable [Digest] (retention : Nat)

/-! ## The two runs -/

/-- The tables after an observation, which stay as they were where it cannot be stored. -/
def TelemetryTables.record (tables : TelemetryTables) (seen : TelemetryObservation) :
    TelemetryTables :=
  ((tables.recordSnapshot retention seen).map (·.1)).getD tables

/-- What an observation adds: nothing where it cannot be stored. -/
def TelemetryTables.recorded (tables : TelemetryTables) (seen : TelemetryObservation) : Recording :=
  ((tables.recordSnapshot retention seen).map (·.2)).getD {}

/-- The tables after a history of collections. -/
def tablesAfter (view : CollectionView) (history : List DashboardCollection) : TelemetryTables :=
  (inTurn view [] history).foldl (TelemetryTables.record retention) {}

/-- What is recorded of a collection that follows others. -/
def recordedAt (view : CollectionView) (before : List DashboardCollection)
    (collection : DashboardCollection) : Recording :=
  (tablesAfter retention view before).recorded retention (view before collection)

/-- The events about counters, PoE and learned addresses. -/
def sectionEventTypes : List Text :=
  ["interface_errors_increased", "interface_counter_reset", "poe_state_changed",
    "learned_addresses_changed"]

/-- What a delta says about the error counter. -/
def InterfaceDelta.counterPart (delta : InterfaceDelta) :
    Text × Option Int × Int × Option Int × CounterState :=
  (delta.port, delta.previousTotalErrors, delta.currentTotalErrors, delta.errorDelta,
    delta.counterState)

/-- What a delta says about PoE. -/
def InterfaceDelta.poePart (delta : InterfaceDelta) : Text × Option Text × Text :=
  (delta.port, delta.poeBefore, delta.poeAfter)

/-- Every delta and event about counters, PoE and learned addresses that was recorded would have
been recorded had the missing sections repeated the last ones. -/
structure FabricatesNothing (before : List DashboardCollection) (collection : DashboardCollection) :
    Prop where
  counters : ∀ delta ∈ (recordedAt retention asCollected before collection).deltas,
    ∃ delta' ∈ (recordedAt retention asRepeated before collection).deltas,
      delta'.counterPart = delta.counterPart
  poe : ∀ delta ∈ (recordedAt retention asCollected before collection).deltas,
    ∃ delta' ∈ (recordedAt retention asRepeated before collection).deltas,
      delta'.poePart = delta.poePart
  events : ∀ event ∈ (recordedAt retention asCollected before collection).events,
    event.eventType ∈ sectionEventTypes →
      event ∈ (recordedAt retention asRepeated before collection).events

/-! ## Sections that hide nothing -/

/-- No port is listed twice, so that the collection can be stored. -/
def DashboardCollection.Storable (collection : DashboardCollection) : Prop :=
  (collection.interfaces.map (·.port)).Nodup

instance (collection : DashboardCollection) : Decidable collection.Storable :=
  inferInstanceAs (Decidable (collection.interfaces.map (·.port)).Nodup)

/-- The places of a history whose collections are stored after it. -/
def storedPlaces (history : List DashboardCollection) : List CollectionPlace :=
  (inTurn Prod.mk [] history).foldl (fun stored place =>
    if place.2.Storable then
      (stored ++ [place]).filter fun earlier =>
        decide (place.2.observedAt ≤ earlier.2.observedAt + retention)
    else stored) []

/-- The place whose collection the next one of the device is compared with. -/
def previousStored (before : List DashboardCollection) (deviceId : Text) : Option CollectionPlace :=
  (storedPlaces retention before).reverse.find? fun place => place.2.deviceId = deviceId

/-- The MAC table is missing that would have repeated an address on the port. -/
def CollectionPlace.HidesAddresses (place : CollectionPlace) (port : Text) : Prop :=
  place.2.macEntries = none ∧ (place.seen asRepeated).learnedDevices port ≠ []

/-- No missing section of a collection hides anything: the error counters and the PoE table would
have repeated what an empty section reads as; and on a port that the stored collection before it
lists too, neither of the two hides addresses, or neither shows any. -/
structure HidesNothing (before : List DashboardCollection) (collection : DashboardCollection) :
    Prop where
  errors : collection.errors = none →
    ∀ row ∈ collection.interfaces, (asRepeated before collection).errorTotal row.port = 0
  poe : collection.poePorts = none →
    ∀ row ∈ collection.interfaces,
      (asRepeated before collection).poeState row.port = "not-supported".toList
  addresses : ∀ place ∈ previousStored retention before collection.deviceId,
    ∀ row ∈ collection.interfaces, row.port ∈ place.2.interfaces.map (·.port) →
      (¬place.HidesAddresses row.port ∧
        ¬CollectionPlace.HidesAddresses (before, collection) row.port) ∨
      ((place.seen asCollected).learnedDevices row.port = [] ∧
        (asCollected before collection).learnedDevices row.port = [])

/-! ## What is stored in the two runs -/

section stored

variable {retention} {view : CollectionView}

theorem recordedAt_of_not_storable (keeps : view.Keeps) {before : List DashboardCollection}
    {collection : DashboardCollection} (h : ¬collection.Storable) :
    recordedAt retention view before collection = {} := by
  have nodup : ¬((view before collection).interfaces.map (·.port)).Nodup := by
    rwa [keeps.interfaces]
  simp only [recordedAt, TelemetryTables.recorded, TelemetryTables.recordSnapshot, dif_neg nodup]
  rfl

theorem recordedAt_of_storable (keeps : view.Keeps) {before : List DashboardCollection}
    {collection : DashboardCollection} (h : collection.Storable) :
    recordedAt retention view before collection
      = (tablesAfter retention view before).compare (view before collection) := by
  have nodup : ((view before collection).interfaces.map (·.port)).Nodup := by
    rwa [keeps.interfaces]
  simp only [recordedAt, TelemetryTables.recorded, TelemetryTables.recordSnapshot, dif_pos nodup]
  rfl

/-- A snapshot of the collection at a place, as a view makes it. -/
def StoredAs (view : CollectionView) (place : CollectionPlace) (snapshot : TelemetrySnapshot) :
    Prop :=
  snapshot.deviceId = place.2.deviceId ∧ snapshot.timestamp = place.2.observedAt ∧
    snapshot.rows = place.2.interfaces.map (place.seen view).interfaceRow

/-- Both runs store the collections of the same places. -/
theorem storedAs_tablesAfter (retention : Nat) (keeps : view.Keeps) (history : List DashboardCollection) :
    List.Forall₂ (StoredAs view) (storedPlaces retention history)
      (tablesAfter retention view history).snapshots := by
  induction history using List.reverseRecOn with
  | nil => exact .nil
  | append_singleton before collection ih =>
    have places : storedPlaces retention (before ++ [collection]) =
        if collection.Storable then
          (storedPlaces retention before ++ [(before, collection)]).filter fun earlier =>
            decide (collection.observedAt ≤ earlier.2.observedAt + retention)
        else storedPlaces retention before := by
      rw [storedPlaces, inTurn_concat, List.foldl_concat]
      rfl
    have tables : tablesAfter retention view (before ++ [collection]) =
        (tablesAfter retention view before).record retention (view before collection) := by
      rw [tablesAfter, inTurn_concat, List.foldl_concat]
      rfl
    rw [places, tables]
    by_cases storable : collection.Storable
    · have nodup : ((view before collection).interfaces.map (·.port)).Nodup := by
        rwa [keeps.interfaces]
      rw [if_pos storable]
      simp only [TelemetryTables.record, TelemetryTables.recordSnapshot, dif_pos nodup,
        Option.map_some, Option.getD_some]
      apply List.rel_filter
      · rintro place snapshot ⟨-, time, -⟩
        simp only [keeps.observedAt, time, decide_eq_true_eq]
      · refine List.rel_append ih (.cons ⟨keeps.deviceId _ _, keeps.observedAt _ _, ?_⟩ .nil)
        show (view before collection).interfaces.map _ = _
        rw [keeps.interfaces]
        rfl
    · have nodup : ¬((view before collection).interfaces.map (·.port)).Nodup := by
        rwa [keeps.interfaces]
      rw [if_neg storable]
      simp only [TelemetryTables.record, TelemetryTables.recordSnapshot, dif_neg nodup]
      exact ih

/-- The row that a port is compared with is that of the same interface in both runs. -/
theorem previousRow_tablesAfter (keeps : view.Keeps) (before : List DashboardCollection)
    (deviceId port : Text) :
    (tablesAfter retention view before).previousRow deviceId port =
      (previousStored retention before deviceId).bind fun place =>
        (place.2.interfaces.find? fun row => row.port = port).map
          (place.seen view).interfaceRow := by
  have latest := (List.rel_reverse (storedAs_tablesAfter retention keeps before)).find?_rel
    (p := fun place => decide (place.2.deviceId = deviceId))
    (q := fun snapshot => decide (snapshot.deviceId = deviceId)) (by
      rintro place snapshot ⟨device, -, -⟩
      rw [device])
  rw [TelemetryTables.previousRow, TelemetryTables.latestSnapshot, previousStored]
  generalize (storedPlaces retention before).reverse.find? _ = latestPlace at latest ⊢
  generalize (tablesAfter retention view before).snapshots.reverse.find? _ = latestSnapshot
    at latest ⊢
  cases latest with
  | none => rfl
  | @some place snapshot stored =>
    show snapshot.row? port = _
    rw [TelemetrySnapshot.row?, stored.2.2, List.find?_map]
    rfl

end stored

/-! ## What a missing section reads as -/

section readings

variable {retention} {before : List DashboardCollection} {collection : DashboardCollection}
  {port : Text}

omit [Digest] in
theorem errorTotal_of_missing (here : collection.errors = none) :
    (asCollected before collection).errorTotal port = 0 := by
  simp [asCollected, DashboardCollection.observation, TelemetryObservation.errorTotal, here,
    Dict.ofList]

omit [Digest] in
theorem errorTotal_asCollected
    (h : collection.errors = none → (asRepeated before collection).errorTotal port = 0) :
    (asCollected before collection).errorTotal port = (asRepeated before collection).errorTotal port := by
  cases here : collection.errors with
  | none => rw [h here, errorTotal_of_missing here]
  | some counters =>
    simp [asCollected, asRepeated, DashboardCollection.observation, DashboardCollection.repeating,
      TelemetryObservation.errorTotal, here]

omit [Digest] in
theorem poeState_of_missing (here : collection.poePorts = none) :
    (asCollected before collection).poeState port = "not-supported".toList := by
  simp only [asCollected, DashboardCollection.observation, TelemetryObservation.poeState, here]
  rfl

omit [Digest] in
theorem poeState_asCollected
    (h : collection.poePorts = none →
      (asRepeated before collection).poeState port = "not-supported".toList) :
    (asCollected before collection).poeState port = (asRepeated before collection).poeState port := by
  cases here : collection.poePorts with
  | none => rw [h here, poeState_of_missing here]
  | some ports =>
    simp only [asCollected, asRepeated, DashboardCollection.observation,
      DashboardCollection.repeating, TelemetryObservation.poeState, here, Option.some_or,
      Option.getD_some]

theorem learnedDevices_of_hides {place : CollectionPlace} (h : place.HidesAddresses port) :
    (place.seen asCollected).learnedDevices port = [] := by
  simp [CollectionPlace.seen, asCollected, DashboardCollection.observation,
    TelemetryObservation.learnedDevices, h.1]

theorem learnedDevices_of_not_hides {place : CollectionPlace} (h : ¬place.HidesAddresses port) :
    (place.seen asCollected).learnedDevices port = (place.seen asRepeated).learnedDevices port := by
  cases here : place.2.macEntries with
  | none =>
    have nothing : (place.seen asRepeated).learnedDevices port = [] := by
      by_contra some_
      exact h ⟨here, some_⟩
    rw [nothing]
    simp [CollectionPlace.seen, asCollected, DashboardCollection.observation,
      TelemetryObservation.learnedDevices, here]
  | some entries =>
    simp [CollectionPlace.seen, asCollected, asRepeated, DashboardCollection.observation,
      DashboardCollection.repeating, TelemetryObservation.learnedDevices, here]

/-- On a port, a missing MAC table is an empty one, and any other is as it would be repeated. -/
theorem learnedDevices_cases (place : CollectionPlace) (port : Text) :
    (place.seen asCollected).learnedDevices port = (place.seen asRepeated).learnedDevices port ∨
      (place.seen asCollected).learnedDevices port = [] := by
  by_cases hides : place.HidesAddresses port
  · exact .inr (learnedDevices_of_hides hides)
  · exact .inl (learnedDevices_of_not_hides hides)

theorem hides_of_ne {place : CollectionPlace}
    (h : (place.seen asCollected).learnedDevices port = (place.seen asRepeated).learnedDevices port) :
    ¬place.HidesAddresses port := by
  intro hides
  rw [learnedDevices_of_hides hides] at h
  exact hides.2 h.symm

end readings

/-! ## One place of the history -/

section place

variable {retention} {before : List DashboardCollection} {collection : DashboardCollection}

/-- A port has a row to be compared with in both runs or in none, and in both it is the row of the
same interface of the same place. -/
theorem previousRow_cases (retention : Nat) (before : List DashboardCollection) (deviceId port : Text) :
    ((tablesAfter retention asCollected before).previousRow deviceId port = none ∧
      (tablesAfter retention asRepeated before).previousRow deviceId port = none) ∨
    ∃ place ∈ previousStored retention before deviceId, ∃ held ∈ place.2.interfaces,
      held.port = port ∧
      (tablesAfter retention asCollected before).previousRow deviceId port
        = some ((place.seen asCollected).interfaceRow held) ∧
      (tablesAfter retention asRepeated before).previousRow deviceId port
        = some ((place.seen asRepeated).interfaceRow held) := by
  rw [previousRow_tablesAfter keeps_asCollected, previousRow_tablesAfter keeps_asRepeated]
  cases found : previousStored retention before deviceId with
  | none => exact .inl ⟨rfl, rfl⟩
  | some place =>
    cases listed : place.2.interfaces.find? fun row => row.port = port with
    | none =>
      left
      constructor <;> simp [listed]
    | some held =>
      right
      refine ⟨place, rfl, held, List.mem_of_find?_eq_some listed, ?_, ?_, ?_⟩
      · simpa using List.find?_some listed
      · simp [listed]
      · simp [listed]

/-- The learned-address events of a port that both collections list are recorded. -/
theorem mem_events_of_learned {view : CollectionView} (keeps : view.Keeps)
    (storable : collection.Storable) {row : InterfaceStatus} (mem : row ∈ collection.interfaces)
    {previous : InterfaceRow}
    (found : (tablesAfter retention view before).previousRow collection.deviceId row.port
      = some previous) {event : EventRow}
    (h : event ∈ InterfaceDelta.Seen.learnedEvents
      ⟨(view before collection).observedAt, (view before collection).deviceId, row,
        (view before collection).delta (some previous) row⟩
      previous.learnedDevices ((view before collection).learnedDevices row.port)) :
    event ∈ (recordedAt retention view before collection).events := by
  rw [recordedAt_of_storable keeps storable]
  refine List.mem_flatMap.mpr ⟨row, ?_, ?_⟩
  · rwa [keeps.interfaces]
  · rw [keeps.deviceId, found]
    exact List.mem_append_right _ h

/-- A recorded event about learned addresses is one of a port that has a row to be compared with. -/
theorem learned_of_mem_events {view : CollectionView} (keeps : view.Keeps)
    (storable : collection.Storable) {event : EventRow}
    (mem : event ∈ (recordedAt retention view before collection).events)
    (learned : event.eventType = InterfaceDelta.learnedChange) :
    ∃ port previous, event.interface = some port ∧
      (tablesAfter retention view before).previousRow collection.deviceId port = some previous ∧
      ∃ seen, event ∈ InterfaceDelta.Seen.learnedEvents seen previous.learnedDevices
        ((view before collection).learnedDevices port) := by
  rw [recordedAt_of_storable keeps storable] at mem
  obtain ⟨row, -, mem⟩ := List.mem_flatMap.mp mem
  rw [keeps.deviceId] at mem
  cases found : (tablesAfter retention view before).previousRow collection.deviceId row.port with
  | none =>
    rw [found] at mem
    cases mem
  | some previous =>
    rw [found] at mem
    rcases List.mem_append.mp mem with other | mem
    · exact absurd learned (InterfaceDelta.Seen.ne_learnedChange other)
    · refine ⟨row.port, previous, ?_, found, _, mem⟩
      rw [(InterfaceDelta.Seen.mem_learnedEvents.mp mem).2]
      rfl

theorem hidesNothing_of_fabricatesNothing (storable : collection.Storable)
    (h : FabricatesNothing retention before collection) :
    HidesNothing retention before collection := by
  have deltas : ∀ row ∈ collection.interfaces, ∀ previous,
      (tablesAfter retention asCollected before).previousRow collection.deviceId row.port = previous →
      (asCollected before collection).delta previous row
        ∈ (recordedAt retention asCollected before collection).deltas := by
    rintro row mem - rfl
    rw [recordedAt_of_storable keeps_asCollected storable]
    exact List.mem_map_of_mem mem
  constructor
  case errors =>
    intro missing row mem
    obtain ⟨delta', mem', same⟩ := h.counters _ (deltas row mem _ rfl)
    rw [recordedAt_of_storable keeps_asRepeated storable] at mem'
    obtain ⟨row', -, rfl⟩ := List.mem_map.mp mem'
    simp only [InterfaceDelta.counterPart, Prod.mk.injEq] at same
    have port : row'.port = row.port := same.1
    have total : (asRepeated before collection).errorTotal row'.port
        = (asCollected before collection).errorTotal row.port := same.2.2.1
    rw [← port, total, errorTotal_of_missing missing]
  case poe =>
    intro missing row mem
    obtain ⟨delta', mem', same⟩ := h.poe _ (deltas row mem _ rfl)
    rw [recordedAt_of_storable keeps_asRepeated storable] at mem'
    obtain ⟨row', -, rfl⟩ := List.mem_map.mp mem'
    simp only [InterfaceDelta.poePart, Prod.mk.injEq] at same
    have port : row'.port = row.port := same.1
    have state : (asRepeated before collection).poeState row'.port
        = (asCollected before collection).poeState row.port := same.2.2
    rw [← port, state, poeState_of_missing missing]
  case addresses =>
    intro place stored row mem listed
    obtain ⟨held, found⟩ : ∃ held, place.2.interfaces.find? (fun r => r.port = row.port) = some held := by
      apply Option.isSome_iff_exists.mp
      rw [List.find?_isSome]
      obtain ⟨r, here, port⟩ := List.mem_map.mp listed
      exact ⟨r, here, by simpa using port⟩
    have heldPort : held.port = row.port := by simpa using List.find?_some found
    have previous {view : CollectionView} (keeps : view.Keeps) :
        (tablesAfter retention view before).previousRow collection.deviceId row.port
          = some ((place.seen view).interfaceRow held) := by
      rw [previousRow_tablesAfter keeps, Option.mem_def.mp stored, Option.bind_some, found]
      rfl
    have rowDevices (view : CollectionView) : ((place.seen view).interfaceRow held).learnedDevices
        = ((place.seen view).learnedDevices row.port).insertionSort (Text.le · ·) := by
      rw [← heldPort]
      rfl
    -- what was recorded about the addresses of the port is among what would have been
    have recorded : ∀ event ∈ InterfaceDelta.Seen.learnedEvents
        ⟨(asCollected before collection).observedAt, (asCollected before collection).deviceId, row,
          (asCollected before collection).delta
            (some ((place.seen asCollected).interfaceRow held)) row⟩
        ((place.seen asCollected).interfaceRow held).learnedDevices
        ((asCollected before collection).learnedDevices row.port),
        ∃ seen' : InterfaceDelta.Seen, event ∈ seen'.learnedEvents
          ((place.seen asRepeated).interfaceRow held).learnedDevices
          ((asRepeated before collection).learnedDevices row.port) := by
      intro event mem'
      have shape := (InterfaceDelta.Seen.mem_learnedEvents.mp mem').2
      have type : event.eventType = InterfaceDelta.learnedChange := by rw [shape]; rfl
      have here := h.events event
        (mem_events_of_learned keeps_asCollected storable mem (previous keeps_asCollected) mem')
        (by rw [type]; decide)
      obtain ⟨port, row', interface, found', seen', mem''⟩ :=
        learned_of_mem_events keeps_asRepeated storable here type
      have same : port = row.port := by
        rw [shape] at interface
        exact (Option.some.inj interface).symm
      subst same
      rw [previous keeps_asRepeated] at found'
      cases found'
      exact ⟨seen', mem''⟩
    have sorted_nil {l : List Text} : l.insertionSort (Text.le · ·) = [] ↔ l = [] := by
      rw [← List.length_eq_zero_iff, List.length_insertionSort, List.length_eq_zero_iff]
    have hidden := InterfaceDelta.Seen.learnedEvents_hidden
      ((learnedDevices_cases place row.port).imp (fun same => by rw [rowDevices, rowDevices, same])
        (fun none_ => by rw [rowDevices, none_]; rfl))
      (learnedDevices_cases (before, collection) row.port) recorded
    rcases hidden with ⟨earlier, now⟩ | ⟨earlier, now⟩
    · left
      refine ⟨fun hides => ?_, hides_of_ne now⟩
      rw [rowDevices, rowDevices, learnedDevices_of_hides hides] at earlier
      exact hides.2 (sorted_nil.mp earlier.symm)
    · right
      rw [rowDevices] at earlier
      exact ⟨sorted_nil.mp earlier, now⟩

/-- Sections that hide nothing, here and where the rows to be compared with were stored, leave the
comparison as it would have been. -/
theorem fabricatesNothing_of_hidesNothing (storable : collection.Storable)
    (h : HidesNothing retention before collection)
    (earlier : ∀ place ∈ previousStored retention before collection.deviceId,
      HidesNothing retention place.1 place.2) :
    FabricatesNothing retention before collection := by
  have total : ∀ row ∈ collection.interfaces, (asCollected before collection).errorTotal row.port
      = (asRepeated before collection).errorTotal row.port :=
    fun row mem => errorTotal_asCollected fun missing => h.errors missing row mem
  have state : ∀ row ∈ collection.interfaces, (asCollected before collection).poeState row.port
      = (asRepeated before collection).poeState row.port :=
    fun row mem => poeState_asCollected fun missing => h.poe missing row mem
  -- the two rows of a port differ in nothing but the addresses
  have rows : ∀ place ∈ previousStored retention before collection.deviceId,
      ∀ held ∈ place.2.interfaces, ∃ learned, (place.seen asCollected).interfaceRow held
        = { (place.seen asRepeated).interfaceRow held with learnedDevices := learned } := by
    intro place stored held mem
    refine ⟨((place.seen asCollected).interfaceRow held).learnedDevices, ?_⟩
    have heldTotal : (place.seen asCollected).errorTotal held.port
        = (place.seen asRepeated).errorTotal held.port :=
      errorTotal_asCollected fun missing => (earlier place stored).errors missing held mem
    have heldState : (place.seen asCollected).poeState held.port
        = (place.seen asRepeated).poeState held.port :=
      poeState_asCollected fun missing => (earlier place stored).poe missing held mem
    simp only [TelemetryObservation.interfaceRow, heldTotal, heldState]
  have deltas : ∀ row ∈ collection.interfaces,
      (asCollected before collection).delta
          ((tablesAfter retention asCollected before).previousRow collection.deviceId row.port) row
        = (asRepeated before collection).delta
          ((tablesAfter retention asRepeated before).previousRow collection.deviceId row.port) row := by
    intro row mem
    unfold TelemetryObservation.delta
    rw [total row mem, state row mem]
    rcases previousRow_cases retention before collection.deviceId row.port with
      ⟨collected, repeated⟩ | ⟨place, stored, held, heldMem, -, collected, repeated⟩
    · rw [collected, repeated]
    · obtain ⟨learned, same⟩ := rows place stored held heldMem
      rw [collected, repeated, same]
      rfl
  have recorded : (recordedAt retention asCollected before collection).deltas
      = (recordedAt retention asRepeated before collection).deltas := by
    rw [recordedAt_of_storable keeps_asCollected storable,
      recordedAt_of_storable keeps_asRepeated storable]
    exact List.map_congr_left deltas
  refine ⟨fun delta mem => ⟨delta, recorded ▸ mem, rfl⟩, fun delta mem => ⟨delta, recorded ▸ mem, rfl⟩,
    fun event mem _ => ?_⟩
  rw [recordedAt_of_storable keeps_asCollected storable] at mem
  rw [recordedAt_of_storable keeps_asRepeated storable]
  obtain ⟨row, rowMem, mem⟩ := List.mem_flatMap.mp mem
  refine List.mem_flatMap.mpr ⟨row, rowMem, ?_⟩
  change event ∈ (asCollected before collection).events
    ((tablesAfter retention asCollected before).previousRow collection.deviceId row.port) row at mem
  change event ∈ (asRepeated before collection).events
    ((tablesAfter retention asRepeated before).previousRow collection.deviceId row.port) row
  have sameDelta := deltas row rowMem
  rcases previousRow_cases retention before collection.deviceId row.port with
    ⟨collected, -⟩ | ⟨place, stored, held, heldMem, heldPort, collected, repeated⟩
  · rw [collected] at mem
    cases mem
  · rw [collected] at mem sameDelta
    rw [repeated] at sameDelta ⊢
    rcases List.mem_append.mp mem with other | learned
    · apply List.mem_append_left
      rw [← sameDelta]
      exact other
    · apply List.mem_append_right
      have listed : row.port ∈ place.2.interfaces.map (·.port) :=
        List.mem_map.mpr ⟨held, heldMem, heldPort⟩
      rcases h.addresses place stored row rowMem listed with ⟨shown, shownNow⟩ | ⟨none_, noneNow⟩
      · have was : ((place.seen asCollected).interfaceRow held).learnedDevices
            = ((place.seen asRepeated).interfaceRow held).learnedDevices := by
          simp only [TelemetryObservation.interfaceRow, heldPort, learnedDevices_of_not_hides shown]
        have is : (asCollected before collection).learnedDevices row.port
            = (asRepeated before collection).learnedDevices row.port :=
          learnedDevices_of_not_hides shownNow
        rw [← sameDelta, ← was, ← is]
        exact learned
      · have was : ((place.seen asCollected).interfaceRow held).learnedDevices = [] := by
          simp only [TelemetryObservation.interfaceRow, heldPort, none_]
          rfl
        rw [was, noneNow] at learned
        cases learned

end place

/-! ## Whole histories -/

variable {retention}

omit [Digest] in
/-- What is stored was collected at a place of the history. -/
theorem split_of_mem_storedPlaces {history : List DashboardCollection} {place : CollectionPlace}
    (mem : place ∈ storedPlaces retention history) :
    place.2.Storable ∧ ∃ after, history = place.1 ++ place.2 :: after := by
  induction history using List.reverseRecOn with
  | nil => simp [storedPlaces] at mem
  | append_singleton before collection ih =>
    have earlier (h : place ∈ storedPlaces retention before) :
        place.2.Storable ∧ ∃ after, before ++ [collection] = place.1 ++ place.2 :: after := by
      obtain ⟨storable, after, split⟩ := ih h
      exact ⟨storable, after ++ [collection], by rw [split, List.append_assoc, List.cons_append]⟩
    rw [storedPlaces, inTurn_concat, List.foldl_concat] at mem
    dsimp only at mem
    split at mem
    · next storable =>
      rcases List.mem_append.mp (List.mem_of_mem_filter mem) with old | new
      · exact earlier old
      · obtain rfl := List.mem_singleton.mp new
        exact ⟨storable, [], rfl⟩
    · exact earlier mem

/-- **Missing sections**: throughout a history nothing is recorded about error counters, PoE and
learned addresses that would not have been recorded had the missing sections repeated the ones last
collected, if and only if no missing section of a collection that is stored hides anything. -/
theorem fabricatesNothing_iff (retention : Nat) (history : List DashboardCollection) :
    Throughout (FabricatesNothing retention) history ↔
      Throughout (fun before collection =>
        collection.Storable → HidesNothing retention before collection) history := by
  constructor
  · intro h before collection after split storable
    exact hidesNothing_of_fabricatesNothing storable (h before collection after split)
  · intro h before collection after split
    by_cases storable : collection.Storable
    · apply fabricatesNothing_of_hidesNothing storable (h before collection after split storable)
      intro place stored
      have mem := List.mem_reverse.mp (List.mem_of_find?_eq_some (Option.mem_def.mp stored))
      obtain ⟨storable', rest, earlier⟩ := split_of_mem_storedPlaces mem
      apply h place.1 place.2 (rest ++ collection :: after) _ storable'
      rw [split, earlier, List.append_assoc, List.cons_append]
    · have nothing {view : CollectionView} (keeps : view.Keeps) :
          recordedAt retention view before collection = {} :=
        recordedAt_of_not_storable keeps storable
      constructor <;> rw [nothing keeps_asCollected] <;> simp

/-! ### One failure, two transitions -/

def cameraPort : InterfaceStatus :=
  { port := "Gi0/4", name := "Camera", status := "connected", vlan := "1", duplex := "a-full",
    speed := "a-1000", type := "10/100/1000BaseTX" }

/-- A port that supplies power, with five errors and one address. -/
def poweredPort : DashboardCollection where
  deviceId := "switch-physical-lab"
  observedAt := 100
  interfaces := [cameraPort]
  errors := some [{ port := "Gi0/4", fcsErr := 5, total := 5 }]
  poePorts := some [⟨"Gi0/4", "auto", "on", "Camera", "3"⟩]
  macEntries := some [⟨"1", "0011.2233.4455", "DYNAMIC", "Gi0/4"⟩]

/-- The three commands fail once. -/
def failedOnce : List DashboardCollection :=
  [poweredPort,
    { poweredPort with observedAt := 200, errors := none, poePorts := none, macEntries := none },
    { poweredPort with observedAt := 300 }]

/-- The failure is recorded as a reset counter, lost power and a lost address, and its end as new
errors, new power and a new address. -/
example :
    (failedOnce.zipIdx.map fun (collection, i) =>
      (@recordedAt sampleDigest 1000 asCollected (failedOnce.take i) collection).events.map
        (·.eventType)) =
      ([[], ["interface_counter_reset", "poe_state_changed", "learned_addresses_changed"],
        ["interface_errors_increased", "poe_state_changed", "learned_addresses_changed"]] :
          List (List Text)) := by
  decide +kernel

omit [Digest] in
/-- A reset of the counter is recorded that did not happen. -/
theorem not_fabricatesNothing_failedOnce :
    ¬Throughout (@FabricatesNothing sampleDigest 1000) failedOnce := by
  intro h
  let digest := sampleDigest
  have fabricated := (h [poweredPort] _ _ rfl).counters
    (deriveDelta cameraPort (some (poweredPort.observation.interfaceRow cameraPort)) 0
      "not-supported") (by decide +kernel)
  revert fabricated
  decide +kernel

end SwitchOps
