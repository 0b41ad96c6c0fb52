import SwitchOps.Lib.Program
import SwitchOps.Unified.Reconciliation

/-!
# The store of the Unified Lab

`unified_store.py`: one row for each provider, with the entities and claims it reported and the
health of the source, and one row for each link that the operator decided about. A method of the
store is a program over the statements it executes, each of which is one step under the lock of the
store; so is what the service does around them.
-/

namespace SwitchOps

open Effects Effects.Program

inductive SourceHealthState
  | notConfigured
  | healthy
  | partialEvidence
  | rateLimited
  | unavailable
  | stale
  deriving DecidableEq, Repr

/-- The health of a source, when it may next be asked aside. -/
structure SourceHealth where
  provider : ProviderKind
  state : SourceHealthState
  detail : Text
  checkedAt : Nat
  lastSuccessAt : Option Nat := none
  complete : Bool := false
  failedOperations : List Text := []
  deriving DecidableEq, Repr

/-- What a provider reported. -/
structure ProviderEvidence where
  entities : List ProviderEntity := []
  claims : List NormalizedClaim := []
  deriving DecidableEq, Repr

/-! ## The tables -/

/-- A row of `provider_snapshots`. -/
structure SnapshotRow where
  observedAt : Nat
  evidence : ProviderEvidence
  health : SourceHealth
  deriving DecidableEq, Repr

structure UnifiedTables where
  snapshots : Dict ProviderKind SnapshotRow := []
  /-- `identity_decisions`, by link. -/
  decisions : IdentityOverrides := []
  deriving DecidableEq, Repr

namespace UnifiedTables

/-- `SELECT entities_json, claims_json`. -/
def read (tables : UnifiedTables) (provider : ProviderKind) : Option ProviderEvidence :=
  (Dict.get? tables.snapshots provider).map (·.evidence)

/-- The entities and claims that a provider is known by; a provider without a row has none. -/
def evidence (tables : UnifiedTables) (provider : ProviderKind) : ProviderEvidence :=
  (tables.read provider).getD {}

/-- The decision about a link. -/
def decision (tables : UnifiedTables) (linkId : Text) : Option Text :=
  (Dict.get? tables.decisions linkId).map (·.1)

/-- `INSERT INTO provider_snapshots … ON CONFLICT(provider) DO UPDATE`. -/
def upsert (tables : UnifiedTables) (provider : ProviderKind) (row : SnapshotRow) : UnifiedTables :=
  { tables with snapshots := Dict.set tables.snapshots provider row }

def setDecision (tables : UnifiedTables) (linkId decision : Text) (decidedAt : Nat) : UnifiedTables :=
  { tables with decisions := Dict.set tables.decisions linkId (decision, decidedAt) }

def clearDecision (tables : UnifiedTables) (linkId : Text) : UnifiedTables :=
  { tables with decisions := Dict.pop tables.decisions linkId }

/-- `SELECT … FROM provider_snapshots ORDER BY provider`. -/
def rows (tables : UnifiedTables) : List SnapshotRow :=
  (tables.snapshots.insertionSort fun a b => Text.le a.1.text b.1.text).map (·.2)

variable (tables : UnifiedTables) {provider : ProviderKind} {linkId : Text}

@[simp] theorem evidence_upsert (row : SnapshotRow) (p : ProviderKind) :
    (tables.upsert provider row).evidence p
      = if p = provider then row.evidence else tables.evidence p := by
  unfold evidence read upsert
  by_cases same : p = provider
  · subst same
    simp [Dict.get?_set_self]
  · simp [Dict.get?_set_ne row (Ne.symm same), same]

@[simp] theorem decision_upsert (row : SnapshotRow) (link : Text) :
    (tables.upsert provider row).decision link = tables.decision link := rfl

@[simp] theorem evidence_setDecision (decision : Text) (time : Nat) (p : ProviderKind) :
    (tables.setDecision linkId decision time).evidence p = tables.evidence p := rfl

@[simp] theorem evidence_clearDecision (p : ProviderKind) :
    (tables.clearDecision linkId).evidence p = tables.evidence p := rfl

@[simp] theorem decision_setDecision (decision : Text) (time : Nat) (link : Text) :
    (tables.setDecision linkId decision time).decision link
      = if link = linkId then some decision else tables.decision link := by
  unfold UnifiedTables.decision setDecision
  by_cases same : link = linkId
  · subst same
    simp [Dict.get?_set_self]
  · simp [Dict.get?_set_ne (decision, time) (Ne.symm same), same]

@[simp] theorem decision_clearDecision (link : Text) :
    (tables.clearDecision linkId).decision link
      = if link = linkId then none else tables.decision link := by
  unfold UnifiedTables.decision clearDecision
  by_cases same : link = linkId
  · subst same
    simp [Dict.get?_pop_self]
  · simp [Dict.get?_pop_ne (Ne.symm same), same]

end UnifiedTables

/-! ## The operations of the service -/

/-- `MerakiSelection`. -/
structure MerakiSelection where
  organizationId : Text
  organizationName : Text
  networkId : Text
  networkName : Text
  deriving DecidableEq, Repr

/-- What a collection brings back. -/
structure MerakiCollection where
  evidence : ProviderEvidence
  sourceHealth : SourceHealth
  deriving DecidableEq, Repr

/-- The answer to `client.get("organizations")`: how many there are, if it is a list. -/
structure OrganizationsResult where
  count : Option Nat
  complete : Bool
  deriving DecidableEq, Repr

/-- What `client.get` raises: a `MerakiApiError` with its code, or anything else. -/
inductive ClientError
  | merakiApi (code : Text)
  | other
  deriving DecidableEq, Repr

/-- On whose behalf a row is saved: of a provider that was collected, or of its health alone. -/
inductive SaveReason
  | collected
  | health
  deriving DecidableEq, Repr

/-- The operations of the store and of what surrounds the service. -/
inductive UnifiedEffect
  | acquireCollection
  | releaseCollection
  | readEvidence (provider : ProviderKind)
  | saveProviderState (reason : SaveReason) (provider : ProviderKind) (row : SnapshotRow)
  | loadProviderStates
  | loadIdentityDecisions
  | setIdentityDecision (linkId decision : Text) (decidedAt : Nat)
  | clearIdentityDecision (linkId : Text)
  | now
  /-- `UnifiedLabService.stop`, which waits for the background loop for five seconds at most. -/
  | stop
  | keyringAvailable
  | loadKey
  | clearKey
  | loadSelection
  | getOrganizations (key : Text)
  | collect (key : Text) (selection : MerakiSelection)

def UnifiedEffect.Answer : UnifiedEffect → Type
  | .readEvidence _ => Option ProviderEvidence
  | .loadProviderStates => List SnapshotRow
  | .loadIdentityDecisions => IdentityOverrides
  | .now => Nat
  | .keyringAvailable => Bool
  | .loadKey => Option Text
  | .loadSelection => Option MerakiSelection
  | .getOrganizations _ => Except ClientError OrganizationsResult
  | .collect _ _ => Option MerakiCollection
  | _ => Unit

abbrev Unified (α : Type) := Program UnifiedEffect UnifiedEffect.Answer α

def ask (effect : UnifiedEffect) : Unified effect.Answer := perform effect

/-! ## The methods of the store -/

/-- `save_provider_state`: a row is written whole, as of the time its health was checked. -/
def saveProviderState (reason : SaveReason) (provider : ProviderKind) (evidence : ProviderEvidence)
    (health : SourceHealth) : Unified Unit :=
  ask (.saveProviderState reason provider ⟨health.checkedAt, evidence, health⟩)

/-- `save_source_health`: the row is read, and then written back with another health. -/
def saveSourceHealth (health : SourceHealth) : Unified Unit := do
  let row ← ask (.readEvidence health.provider)
  let evidence := (row : Option ProviderEvidence).getD {}
  saveProviderState .health health.provider evidence health

/-- `load_provider_states`. -/
def loadProviderStates : Unified (ProviderEvidence × List SourceHealth) := do
  let rows : List SnapshotRow ← ask .loadProviderStates
  return (⟨rows.flatMap (·.evidence.entities), rows.flatMap (·.evidence.claims)⟩,
    rows.map (·.health))

def loadIdentityDecisions : Unified IdentityOverrides := ask .loadIdentityDecisions

/-- `set_identity_decision`, which raises on any other decision. -/
def setIdentityDecision (linkId decision : Text) : Unified (Except Text Unit) := do
  if decision ≠ "confirm".toList ∧ decision ≠ "reject".toList then
    return .error "Identity decision is invalid."
  let decidedAt ← ask .now
  ask (.setIdentityDecision linkId decision decidedAt)
  return .ok ()

end SwitchOps
