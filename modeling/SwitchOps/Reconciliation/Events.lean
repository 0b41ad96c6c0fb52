import SwitchOps.Lib.History
import SwitchOps.Telemetry.Store
import SwitchOps.Topology.Models

/-!
# Reconciliation events

A refresh makes events of the reconciliations that changed. Whether one changed is decided by the
signature that `TopologyIntentStore.observe_reconciliation` holds of its interface, which it replaces
in the same transaction; the events are recorded in another store, one by one, after all the
reconciliations of the refresh were observed.
-/

namespace SwitchOps.Topology

open Histories

/-! ## What is reported -/

/-- `_EVENTFUL` -/
def isEventful : ReconciliationStatus → Bool
  | .drift | .expectedNotObserved | .unexpected => true
  | .aligned | .uncertain | .notApplicable => false

/-- `_EVENT_TYPE` -/
def reconciliationEventType : ReconciliationStatus → Text
  | .drift => "topology_drift_detected"
  | .expectedNotObserved => "expected_device_missing"
  | .unexpected => "unexpected_device_observed"
  | .aligned | .uncertain | .notApplicable => []

/-- `_EVENT_TITLE`, up to the interface. -/
def reconciliationEventTitle : ReconciliationStatus → Text
  | .drift => "Topology drift on "
  | .expectedNotObserved => "Expected device not observed on "
  | .unexpected => "Unrecorded device observed on "
  | .aligned | .uncertain | .notApplicable => []

/-- What a reconciliation is told apart by: its status, its kind of drift, and who was observed and
expected. -/
structure Situation where
  status : ReconciliationStatus
  driftKind : DriftKind
  observed : Option Text
  expected : Option Text
  deriving DecidableEq, Repr

/-- `reconciliation_signature` -/
def Situation.signature (situation : Situation) : Text :=
  situation.status.text ++ '|' :: (situation.driftKind.text ++ '|' ::
    (situation.observed.getD "-" ++ '|' :: situation.expected.getD "-"))

/-- A change of the announced neighbour, which is reported whatever the reconciliation. -/
def neighborChanged : Text := "direct_neighbor_changed"

namespace InterfaceReconciliation

variable (result : InterfaceReconciliation)

def situation : Situation :=
  { status := result.status
    driftKind := result.driftKind
    observed := result.observed.map (·.objectLabel)
    expected := result.expected.map (·.objectLabel) }

/-- The event about a neighbour that swapped its identity between two observations. -/
def neighborEvent (deviceId : Text) (observedAt : Nat) : List EventRow :=
  match result.changedSincePrevious, result.changeSummary, result.historical, result.observed with
  | true, some (c :: summary), some historical, some observed =>
    if historical.objectIdentified && observed.objectIdentified then
      [{ timestamp := observedAt, deviceId, interface := some result.interface
         eventType := neighborChanged, severity := "NOTICE"
         title := "Announced neighbour changed on ".toList ++ result.interface
         detail := c :: summary
         metadata := [("previous", .text historical.objectLabel),
           ("current", .text observed.objectLabel)] }]
    else []
  | _, _, _, _ => []

/-- The event of a reconciliation that shows or changes a discrepancy. -/
def detectionEvent (deviceId : Text) (observedAt : Nat) : EventRow :=
  let label (assertion : Option TopologyAssertion) : MetadataValue :=
    (assertion.map fun assertion => .text assertion.objectLabel).getD .null
  { timestamp := observedAt, deviceId, interface := some result.interface
    eventType := reconciliationEventType result.status, severity := "NOTICE"
    title := reconciliationEventTitle result.status ++ result.interface
    detail := result.explanation
    metadata := [("status", .text result.status.text), ("observed", label result.observed),
      ("expected", label result.expected)] }

/-- The event of a discrepancy that cleared. -/
def resolutionEvent (deviceId : Text) (observedAt : Nat) : EventRow :=
  { timestamp := observedAt, deviceId, interface := some result.interface
    eventType := "topology_reconciliation_resolved", severity := "HEALTHY"
    title := "Topology reconciled on ".toList ++ result.interface
    detail := result.interface ++ " no longer shows a topology discrepancy. ".toList ++
      result.explanation
    metadata := [("status", .text result.status.text)] }

end InterfaceReconciliation

/-! ## The stores -/

/-- A row of `reconciliation_state`. -/
structure ReconciliationRow where
  signature : Text
  status : ReconciliationStatus
  observedLabel : Option Text
  observedIdentified : Bool
  firstSeen : Nat
  lastSeen : Nat
  deriving DecidableEq, Repr

/-- The rows by device and interface. -/
abbrev ReconciliationRows := Dict (Text × Text) ReconciliationRow

/-- `observe_reconciliation`: the rows with the signature of a reconciliation, whether it changed, and
the signature before. -/
def ReconciliationRows.observe (rows : ReconciliationRows) (deviceId : Text)
    (result : InterfaceReconciliation) (now : Nat) : ReconciliationRows × Bool × Option Text :=
  let key := (deviceId, result.interface)
  let signature := result.situation.signature
  let previous := rows.get? key
  let changed : Bool := previous.map (·.signature) ≠ some signature
  let firstSeen := match previous with
    | some row => if row.signature = signature then row.firstSeen else now
    | none => now
  (Dict.set rows key {
    signature, status := result.status, observedLabel := result.situation.observed
    observedIdentified := (result.observed.map (·.objectIdentified)).getD false
    firstSeen, lastSeen := now }, changed, previous.map (·.signature))

/-- `previous_signature and previous_signature.split("|", 1)[0] in _EVENTFUL` -/
def wasEventful (previous : Option Text) : Bool :=
  match previous with
  | none => false
  | some signature =>
    ([ReconciliationStatus.drift.text, ReconciliationStatus.expectedNotObserved.text,
      ReconciliationStatus.unexpected.text] : List Text).contains (signature.takeWhile (· ≠ '|'))

/-- The events of one reconciliation. -/
def resultEvents (deviceId : Text) (observedAt : Nat) (result : InterfaceReconciliation)
    (changed : Bool) (previous : Option Text) : List EventRow :=
  result.neighborEvent deviceId observedAt ++
    if !changed then []
    else if isEventful result.status then [result.detectionEvent deviceId observedAt]
    else if wasEventful previous then [result.resolutionEvent deviceId observedAt]
    else []

/-- The loop of `reconciliation_events`: the rows after it, and the events of each reconciliation. -/
def observeAll (deviceId : Text) (observedAt : Nat) :
    ReconciliationRows → List InterfaceReconciliation → ReconciliationRows × List (List EventRow)
  | rows, [] => (rows, [])
  | rows, result :: results =>
    let (rows, changed, previous) := rows.observe deviceId result observedAt
    let events := resultEvents deviceId observedAt result changed previous
    let (rows, later) := observeAll deviceId observedAt rows results
    (rows, events :: later)

/-! ## Refreshes -/

/-- How a refresh ends. -/
inductive RefreshEnd
  | completed
  /-- It fails once that many reconciliations were observed: none of their events is recorded. -/
  | observing (count : Nat)
  /-- It fails once the events of that many interfaces were recorded, and perhaps, of the next one,
  the change of its neighbour. -/
  | recording (count : Nat) (neighbor : Bool)
  deriving DecidableEq, Repr

/-- The reconciliations of a device, and how recording their events ended. -/
structure Refresh where
  deviceId : Text
  observedAt : Nat
  results : List InterfaceReconciliation
  ending : RefreshEnd := .completed
  deriving DecidableEq, Repr

namespace Refresh

variable (refresh : Refresh)

/-- The reconciliations that were persisted. -/
def persisted : List InterfaceReconciliation :=
  match refresh.ending with
  | .observing count => refresh.results.take count
  | _ => refresh.results

/-- Of how many interfaces every event was recorded. -/
def finished : Nat :=
  match refresh.ending with
  | .completed => refresh.results.length
  | .observing _ => 0
  | .recording count _ => count

/-- The change of the neighbour that was recorded beyond the finished interfaces. -/
def lastNeighbor : List EventRow :=
  match refresh.ending with
  | .recording count true =>
    (refresh.results.drop count).head?.toList.flatMap fun result =>
      result.neighborEvent refresh.deviceId refresh.observedAt
  | _ => []

end Refresh

/-- The two stores of a refresh. -/
structure ReconciliationStores where
  rows : ReconciliationRows := []
  events : List EventRow := []
  deriving DecidableEq, Repr

/-- The stores after a refresh. -/
def ReconciliationStores.refresh (s : ReconciliationStores) (refresh : Refresh) :
    ReconciliationStores :=
  let (rows, events) := observeAll refresh.deviceId refresh.observedAt s.rows refresh.persisted
  { rows := rows
    events := s.events ++ (events.take refresh.finished).flatten ++ refresh.lastNeighbor }

def storesAfter (history : List Refresh) : ReconciliationStores :=
  history.foldl ReconciliationStores.refresh {}

/-! ## Transitions -/

/-- The situation last persisted of each interface of each device. -/
abbrev Situations := Dict (Text × Text) Situation

/-- The event that a reconciliation is due: a detection where it is eventful and not what was last
persisted, a resolution where that was eventful and it is not. -/
def dueEvents (deviceId : Text) (observedAt : Nat) (last : Option Situation)
    (result : InterfaceReconciliation) : List EventRow :=
  if last = some result.situation then []
  else if isEventful result.status then [result.detectionEvent deviceId observedAt]
  else if (last.map fun situation => isEventful situation.status).getD false then
    [result.resolutionEvent deviceId observedAt]
  else []

/-- Each reconciliation with the situation last persisted of its interface. -/
def turns (deviceId : Text) :
    Situations → List InterfaceReconciliation → List (Option Situation × InterfaceReconciliation)
  | _, [] => []
  | situations, result :: results =>
    (situations.get? (deviceId, result.interface), result) ::
      turns deviceId (Dict.set situations (deviceId, result.interface) result.situation) results

/-- The situations after some reconciliations were persisted. -/
def Situations.after (deviceId : Text) (situations : Situations)
    (results : List InterfaceReconciliation) : Situations :=
  results.foldl (fun situations result =>
    Dict.set situations (deviceId, result.interface) result.situation) situations

/-- The situations, and the events due, after a history of refreshes. -/
structure DueHistory where
  situations : Situations := []
  events : List EventRow := []
  deriving DecidableEq, Repr

def DueHistory.refresh (due : DueHistory) (refresh : Refresh) : DueHistory :=
  { situations := due.situations.after refresh.deviceId refresh.persisted
    events := due.events ++ (turns refresh.deviceId due.situations refresh.persisted).flatMap
      fun turn => dueEvents refresh.deviceId refresh.observedAt turn.1 turn.2 }

def dueAfter (history : List Refresh) : DueHistory := history.foldl DueHistory.refresh {}

/-- A refresh loses no transition: the interfaces whose events it did not record show none, and an
eventful reconciliation that is not what was last persisted has another signature than that. -/
structure LosesNothing (before : List Refresh) (refresh : Refresh) : Prop where
  unfinished : ∀ turn ∈ (turns refresh.deviceId (dueAfter before).situations refresh.persisted).drop
      refresh.finished,
    dueEvents refresh.deviceId refresh.observedAt turn.1 turn.2 = []
  signatures : ∀ turn ∈ turns refresh.deviceId (dueAfter before).situations refresh.persisted,
    isEventful turn.2.status = true → ∀ last ∈ turn.1,
      last.signature = turn.2.situation.signature → last = turn.2.situation

instance : DecidableRel LosesNothing := fun before refresh =>
  decidable_of_iff
    ((∀ turn ∈ (turns refresh.deviceId (dueAfter before).situations refresh.persisted).drop
        refresh.finished, dueEvents refresh.deviceId refresh.observedAt turn.1 turn.2 = []) ∧
      ∀ turn ∈ turns refresh.deviceId (dueAfter before).situations refresh.persisted,
        isEventful turn.2.status = true → ∀ last ∈ turn.1,
          last.signature = turn.2.situation.signature → last = turn.2.situation)
    ⟨fun h => ⟨h.1, h.2⟩, fun h => ⟨h.unfinished, h.signatures⟩⟩

/-! ## Signatures -/

section signatures

theorem ReconciliationStatus.text_inj {a b : ReconciliationStatus} (h : a.text = b.text) : a = b := by
  revert h
  cases a <;> cases b <;> decide

theorem DriftKind.text_inj {a b : DriftKind} (h : a.text = b.text) : a = b := by
  revert h
  cases a <;> cases b <;> decide

theorem ReconciliationStatus.text_plain (status : ReconciliationStatus) : '|' ∉ status.text := by
  cases status <;> decide

theorem DriftKind.text_plain (kind : DriftKind) : '|' ∉ kind.text := by
  cases kind <;> decide

/-- The part of a text before a separator that it does not contain. -/
theorem takeWhile_append_bar {t : Text} (plain : '|' ∉ t) (rest : Text) :
    (t ++ '|' :: rest).takeWhile (· ≠ '|') = t := by
  induction t with
  | nil => simp
  | cons c t ih =>
    have head : c ≠ '|' := fun same => plain (same ▸ List.mem_cons_self)
    rw [List.cons_append, List.takeWhile_cons_of_pos (by simpa using head),
      ih fun mem => plain (List.mem_cons_of_mem _ mem)]

/-- Two texts without the separator can be told apart in front of it. -/
theorem append_bar_inj {t t' rest rest' : Text} (plain : '|' ∉ t) (plain' : '|' ∉ t')
    (h : t ++ '|' :: rest = t' ++ '|' :: rest') : t = t' ∧ rest = rest' := by
  have same : t = t' := by
    rw [← takeWhile_append_bar plain rest, h, takeWhile_append_bar plain' rest']
  subst same
  exact ⟨rfl, (List.cons.inj (List.append_cancel_left h)).2⟩

theorem Situation.takeWhile_signature (situation : Situation) :
    situation.signature.takeWhile (· ≠ '|') = situation.status.text :=
  takeWhile_append_bar situation.status.text_plain _

theorem Situation.status_of_signature {a b : Situation} (h : a.signature = b.signature) :
    a.status = b.status := by
  apply ReconciliationStatus.text_inj
  rw [← a.takeWhile_signature, h, b.takeWhile_signature]

/-- Labels that a signature tells apart: they hold no separator, and none of them looks missing. -/
def Situation.Plain (situation : Situation) : Prop :=
  (∀ label ∈ situation.observed, '|' ∉ label ∧ label ≠ ("-" : Text)) ∧
    ∀ label ∈ situation.expected, label ≠ ("-" : Text)

theorem getD_dash_inj {a b : Option Text} (ha : ∀ label ∈ a, label ≠ ("-" : Text))
    (hb : ∀ label ∈ b, label ≠ ("-" : Text)) (h : a.getD "-" = b.getD "-") : a = b := by
  cases a with
  | none =>
    cases b with
    | none => rfl
    | some label => exact absurd h.symm (hb label rfl)
  | some label =>
    cases b with
    | none => exact absurd h (ha label rfl)
    | some label' => exact congrArg some h

/-- Situations with plain labels are told apart by their signatures. -/
theorem Situation.signature_inj {a b : Situation} (ha : a.Plain) (hb : b.Plain)
    (h : a.signature = b.signature) : a = b := by
  have bar {situation : Situation} (plain : situation.Plain) :
      '|' ∉ situation.observed.getD ("-" : Text) := by
    cases here : situation.observed with
    | none => decide
    | some label => exact (plain.1 label here).1
  obtain ⟨status, h⟩ := append_bar_inj a.status.text_plain b.status.text_plain h
  obtain ⟨kind, h⟩ := append_bar_inj a.driftKind.text_plain b.driftKind.text_plain h
  obtain ⟨observed, expected⟩ := append_bar_inj (bar ha) (bar hb) h
  cases a
  cases b
  simp only [Situation.mk.injEq]
  exact ⟨ReconciliationStatus.text_inj status, DriftKind.text_inj kind,
    getD_dash_inj (fun label mem => (ha.1 label mem).2) (fun label mem => (hb.1 label mem).2) observed,
    getD_dash_inj ha.2 hb.2 expected⟩

theorem wasEventful_signature (situation : Situation) :
    wasEventful (some situation.signature) = isEventful situation.status := by
  unfold wasEventful
  dsimp only
  rw [situation.takeWhile_signature]
  cases situation.status <;> decide

end signatures

/-! ## One refresh -/

section refresh

/-- The rows hold the signatures of the situations last persisted. -/
def Agrees (rows : ReconciliationRows) (situations : Situations) : Prop :=
  ∀ key, (rows.get? key).map (·.signature) = (situations.get? key).map Situation.signature

variable {rows : ReconciliationRows} {situations : Situations} {deviceId : Text} {observedAt : Nat}
  {result : InterfaceReconciliation}

theorem Agrees.observe (h : Agrees rows situations) (deviceId : Text)
    (result : InterfaceReconciliation) (observedAt : Nat) :
    Agrees (rows.observe deviceId result observedAt).1
      (Dict.set situations (deviceId, result.interface) result.situation) := by
  intro key
  unfold ReconciliationRows.observe
  dsimp only
  by_cases same : (deviceId, result.interface) = key
  · subst same
    rw [Dict.get?_set_self, Dict.get?_set_self]
    rfl
  · rw [Dict.get?_set_ne _ same, Dict.get?_set_ne _ same]
    exact h key

/-- The events of a reconciliation, the change of its neighbour aside. -/
def aside (events : List EventRow) : List EventRow :=
  events.filter fun event => event.eventType ≠ neighborChanged

theorem aside_append (a b : List EventRow) : aside (a ++ b) = aside a ++ aside b :=
  List.filter_append _ _

theorem aside_flatten (events : List (List EventRow)) :
    aside events.flatten = (events.map aside).flatten := by
  induction events with
  | nil => rfl
  | cons first events ih => rw [List.flatten_cons, aside_append, ih, List.map_cons, List.flatten_cons]

theorem aside_neighborEvent : aside (result.neighborEvent deviceId observedAt) = [] := by
  unfold InterfaceReconciliation.neighborEvent
  split
  · split
    · rfl
    · rfl
  · rfl

theorem aside_detectionEvent (h : isEventful result.status = true) :
    aside [result.detectionEvent deviceId observedAt] = [result.detectionEvent deviceId observedAt] := by
  have type : reconciliationEventType result.status ≠ neighborChanged := by
    revert h
    cases result.status <;> decide
  exact List.filter_cons_of_pos (decide_eq_true type)

theorem aside_resolutionEvent :
    aside [result.resolutionEvent deviceId observedAt] = [result.resolutionEvent deviceId observedAt] :=
  rfl

/-- The events of an observed reconciliation are those that it is due. -/
theorem aside_resultEvents (observedAt : Nat) (h : Agrees rows situations)
    (signatures : isEventful result.status = true →
      ∀ last ∈ situations.get? (deviceId, result.interface),
        last.signature = result.situation.signature → last = result.situation) :
    aside (resultEvents deviceId observedAt result (rows.observe deviceId result observedAt).2.1
        (rows.observe deviceId result observedAt).2.2)
      = dueEvents deviceId observedAt (situations.get? (deviceId, result.interface)) result := by
  have observed : (rows.observe deviceId result observedAt).2 =
      (decide ((rows.get? (deviceId, result.interface)).map (·.signature)
        ≠ some result.situation.signature),
        (rows.get? (deviceId, result.interface)).map (·.signature)) := rfl
  rw [h (deviceId, result.interface)] at observed
  rw [observed]
  unfold resultEvents dueEvents
  rw [aside_append, aside_neighborEvent, List.nil_append]
  cases last : situations.get? (deviceId, result.interface) with
  | none =>
    by_cases eventful : isEventful result.status = true
    · simpa [eventful] using aside_detectionEvent eventful
    · simp [eventful, wasEventful, aside]
  | some situation =>
    by_cases same : situation = result.situation
    · simp [same, aside]
    · by_cases eventful : isEventful result.status = true
      · -- a discrepancy of another shape has another signature
        have changed : situation.signature ≠ result.situation.signature :=
          fun equal => same (signatures eventful situation last equal)
        simpa [same, changed, eventful] using aside_detectionEvent eventful
      · by_cases was : isEventful situation.status = true
        · have changed : situation.signature ≠ result.situation.signature := by
            intro equal
            have status : situation.status = result.status := Situation.status_of_signature equal
            rw [status] at was
            exact eventful was
          have resolved : aside [result.resolutionEvent deviceId observedAt]
              = [result.resolutionEvent deviceId observedAt] := aside_resolutionEvent
          simpa [same, changed, eventful, was, wasEventful_signature] using resolved
        · simp [same, eventful, was, wasEventful_signature, aside]

/-- The events of the observed reconciliations are, one by one, those that they are due. -/
theorem aside_observeAll (observedAt : Nat) {results : List InterfaceReconciliation} (h : Agrees rows situations)
    (signatures : ∀ turn ∈ turns deviceId situations results, isEventful turn.2.status = true →
      ∀ last ∈ turn.1, last.signature = turn.2.situation.signature → last = turn.2.situation) :
    Agrees (observeAll deviceId observedAt rows results).1 (situations.after deviceId results) ∧
      (observeAll deviceId observedAt rows results).2.map aside
        = (turns deviceId situations results).map fun turn =>
          dueEvents deviceId observedAt turn.1 turn.2 := by
  induction results generalizing rows situations with
  | nil => exact ⟨h, rfl⟩
  | cons result results ih =>
    obtain ⟨agrees, later⟩ := ih (h.observe deviceId result observedAt)
      fun turn mem => signatures turn (List.mem_cons_of_mem _ mem)
    have here := aside_resultEvents observedAt h (signatures _ List.mem_cons_self)
    exact ⟨agrees, congrArg₂ List.cons here later⟩

theorem aside_lastNeighbor (refresh : Refresh) : aside refresh.lastNeighbor = [] := by
  unfold Refresh.lastNeighbor
  split
  · generalize (refresh.results.drop _).head? = next
    cases next with
    | none => rfl
    | some result =>
      rw [Option.toList_some, List.flatMap_singleton]
      exact aside_neighborEvent
  · rfl

end refresh

/-! ## Whole histories -/

/-- The stores hold the situations last persisted and every event that was due. -/
structure Exact (s : ReconciliationStores) (due : DueHistory) : Prop where
  agrees : Agrees s.rows due.situations
  events : aside s.events = due.events

theorem Exact.refresh {s : ReconciliationStores} {due : DueHistory} (h : Exact s due)
    {refresh : Refresh}
    (unfinished : ∀ turn ∈ (turns refresh.deviceId due.situations refresh.persisted).drop
      refresh.finished, dueEvents refresh.deviceId refresh.observedAt turn.1 turn.2 = [])
    (signatures : ∀ turn ∈ turns refresh.deviceId due.situations refresh.persisted,
      isEventful turn.2.status = true → ∀ last ∈ turn.1,
        last.signature = turn.2.situation.signature → last = turn.2.situation) :
    Exact (s.refresh refresh) (due.refresh refresh) := by
  obtain ⟨agrees, events⟩ := aside_observeAll refresh.observedAt h.agrees signatures
  refine ⟨agrees, ?_⟩
  show aside (s.events ++ _ ++ refresh.lastNeighbor) = due.events ++ _
  rw [aside_append, aside_append, h.events, aside_lastNeighbor, List.append_nil, aside_flatten,
    List.map_take, events]
  congr 1
  -- what was not recorded is not due
  generalize turns refresh.deviceId due.situations refresh.persisted = all at unfinished
  have rest : (all.drop refresh.finished).flatMap
      (fun turn => dueEvents refresh.deviceId refresh.observedAt turn.1 turn.2) = [] :=
    List.flatMap_eq_nil_iff.mpr unfinished
  rw [← List.map_take, ← List.flatMap_def]
  conv_rhs => rw [← List.take_append_drop refresh.finished all, List.flatMap_append, rest,
    List.append_nil]

/-- **Reconciliation events**: after every history of refreshes that lose no transition, the events
stored, changes of neighbours aside, are exactly those that the persisted reconciliations are due:
one detection for each transition to another eventful situation and one resolution for each from an
eventful to an uneventful one. -/
theorem aside_events_of_losesNothing (history : List Refresh) (h : Throughout LosesNothing history) :
    aside (storesAfter history).events = (dueAfter history).events := by
  have exact_ : Exact (storesAfter history) (dueAfter history) := by
    apply h.invariant (I := fun history => Exact (storesAfter history) (dueAfter history))
    · exact ⟨fun _ => rfl, rfl⟩
    · intro before refresh exact_ loses
      rw [storesAfter, dueAfter, List.foldl_concat, List.foldl_concat]
      exact exact_.refresh loses.unfinished loses.signatures
  exact exact_.events

/-- Repeating an unchanged reconciliation is due no event. -/
theorem dueEvents_unchanged (deviceId : Text) (observedAt : Nat) (result : InterfaceReconciliation) :
    dueEvents deviceId observedAt (some result.situation) result = [] :=
  if_pos rfl

/-! ### A neighbour that is not recorded -/

/-- A port with a neighbour that no intent records, or with none. -/
def portResult (status : ReconciliationStatus) : InterfaceReconciliation :=
  { interface := "Gi0/1", status := status, headline := "Observed", explanation := "Observed." }

def portRefresh (observedAt : Nat) (status : ReconciliationStatus) (ending : RefreshEnd) : Refresh :=
  { deviceId := "switch-physical-lab", observedAt, results := [portResult status], ending }

/-- A discrepancy that is recorded, repeated by a refresh that fails, and resolved. -/
theorem aside_events_of_losesNothing_resolved :
    aside (storesAfter [portRefresh 0 .unexpected .completed, portRefresh 1 .unexpected (.observing 1),
        portRefresh 2 .aligned .completed]).events
      = (dueAfter [portRefresh 0 .unexpected .completed, portRefresh 1 .unexpected (.observing 1),
        portRefresh 2 .aligned .completed]).events :=
  aside_events_of_losesNothing _ (by decide +kernel)

/-- A refresh that fails once it persisted a discrepancy: it is not reported by the next one either. -/
theorem not_aside_events_lost :
    aside (storesAfter [portRefresh 0 .unexpected (.observing 1),
        portRefresh 1 .unexpected .completed]).events
      ≠ (dueAfter [portRefresh 0 .unexpected (.observing 1),
        portRefresh 1 .unexpected .completed]).events := by
  decide +kernel

end SwitchOps.Topology
