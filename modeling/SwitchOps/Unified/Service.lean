import SwitchOps.Unified.CatalystAdapter
import SwitchOps.Unified.Store

/-!
# The service of the Unified Lab

`unified_service.py`. A refresh holds the collection lock from end to end; nothing else does.
-/

namespace SwitchOps

open Effects Effects.Program

/-! ## The health of a source -/

/-- `_unconfigured_meraki_health`. -/
def unconfiguredMerakiHealth (time : Nat) : SourceHealth where
  provider := .merakiDashboard
  state := .notConfigured
  detail := "Meraki is optional and has not been " ++ "fully configured.".toList
  checkedAt := time

/-- `_failure_health`. -/
def failureHealth (time : Nat) (operation code : Text) : SourceHealth where
  provider := .merakiDashboard
  state := if code = "rate-limited".toList then .rateLimited else .unavailable
  detail := "Meraki evidence is currently unavailable; " ++ "Catalyst operation is unaffected.".toList
  checkedAt := time
  failedOperations := [operation]

/-- The health that `test_connection` finds when Meraki answers. -/
def connectionHealth (time : Nat) (complete : Bool) : SourceHealth where
  provider := .merakiDashboard
  state := if complete then .healthy else .partialEvidence
  detail := "Meraki accepted the read-only " ++ "connection test.".toList
  checkedAt := time
  lastSuccessAt := some time
  complete := complete
  failedOperations := if complete then [] else ["organizations"]

/-- What `normalize_catalyst_dashboard` is given: the dashboard, when its topology was generated and
the sections that could not be read. -/
structure CatalystObservation where
  dashboard : CatalystDashboard
  generatedAt : Option Nat := none
  sectionErrors : List Text := []
  deriving DecidableEq, Repr

/-- The health that `normalize_catalyst_dashboard` returns. -/
def catalystHealth (observation : CatalystObservation) (now : Nat) : SourceHealth :=
  let collectedAt := observation.generatedAt.getD now
  match observation.dashboard.devices.find?
      fun item => item.id = observation.dashboard.rootDeviceId with
  | none => {
      provider := .catalystIos
      state := .unavailable
      detail := "Catalyst topology did not " ++ "contain its root device.".toList
      checkedAt := collectedAt
      failedOperations := ["dashboard-topology"] }
  | some _ =>
    let complete := observation.sectionErrors.isEmpty
    { provider := .catalystIos
      state := if complete then .healthy else .partialEvidence
      detail :=
        if complete then "Catalyst evidence " ++ "collection completed.".toList
        else "Catalyst returned partial evidence; " ++ "its existing views remain available.".toList
      checkedAt := collectedAt
      lastSuccessAt := some collectedAt
      complete := complete
      failedOperations := observation.sectionErrors.insertionSort (Text.le · ·) }

section service

variable [Protector] [Digest]

/-! ## Catalyst and Meraki -/

def updateCatalyst (observation : CatalystObservation) : Unified Unit := do
  let now ← ask .now
  let (entities, claims) := normalizeCatalystDashboard observation.dashboard
  saveProviderState .collected .catalystIos ⟨entities, claims⟩ (catalystHealth observation now)

omit [Protector] [Digest] in
/-- What `refresh_meraki` does with a collection, or with its failure. -/
def refreshOutcome (now : Nat) : Option MerakiCollection → Unified SourceHealth
  | none => do
    let health := failureHealth now "collection" "unavailable"
    saveSourceHealth health
    return health
  | some collection => do
    if !collection.evidence.entities.isEmpty || collection.sourceHealth.state = .healthy then
      saveProviderState .collected .merakiDashboard collection.evidence collection.sourceHealth
    else
      saveSourceHealth collection.sourceHealth
    return collection.sourceHealth

omit [Protector] [Digest] in
/-- What `refresh_meraki` does while it holds the lock. -/
def refreshLocked : Unified SourceHealth := do
  let now ← ask .now
  let key ← ask .loadKey
  let selection ← ask .loadSelection
  match (key : Option Text), (selection : Option MerakiSelection) with
  | some key, some selection =>
    let collection ← ask (.collect key selection)
    refreshOutcome now collection
  | _, _ =>
    let health := unconfiguredMerakiHealth now
    saveSourceHealth health
    return health

omit [Protector] [Digest] in
def refreshMeraki : Unified SourceHealth := do
  ask .acquireCollection
  let health ← refreshLocked
  ask .releaseCollection
  return health

/-! ## The state and the decisions -/

omit [Protector] in
/-- `state`, with the health of every source. -/
def unifiedState : Unified (UnifiedLabState × List SourceHealth) := do
  let (evidence, known) ← loadProviderStates
  let now ← ask .now
  let catalyst : List SourceHealth :=
    if (known.map (·.provider)).contains .catalystIos then []
    else [{
      provider := .catalystIos
      state := .notConfigured
      detail := "No Catalyst dashboard observation " ++ "has been normalized yet.".toList
      checkedAt := now }]
  let meraki :=
    if (known.map (·.provider)).contains .merakiDashboard then []
    else [unconfiguredMerakiHealth now]
  let overrides ← loadIdentityDecisions
  return (reconcileUnifiedState evidence.entities evidence.claims overrides now,
    known ++ catalyst ++ meraki)

omit [Protector] in
def decideIdentity (linkId decision : Text) : Unified (Except Text UnifiedLabState) := do
  let (current, _) ← unifiedState
  let link := current.identityLinks.find? fun item => item.id = linkId
  if decision = "clear".toList then
    ask (.clearIdentityDecision linkId)
    let (state, _) ← unifiedState
    return .ok state
  else match link with
    | none => return .error "Identity candidate was not found."
    | some link =>
      if link.state = .conflicted then
        return .error ("A strong identifier conflict " ++ "cannot be manually merged.".toList)
      else if link.state ≠ .candidate then
        return .error ("Only an ambiguous identity candidate "
          ++ "can be confirmed or rejected.".toList)
      else
        match ← setIdentityDecision linkId decision with
        | .error message => return .error message
        | .ok () =>
          let (state, _) ← unifiedState
          return .ok state

/-! ## The API key -/

/-- `MerakiSetupStatus`. -/
structure MerakiSetupStatus where
  configured : Bool
  keyringAvailable : Bool
  storage : Text
  selection : Option MerakiSelection
  sourceHealth : SourceHealth
  deriving DecidableEq, Repr

omit [Protector] in
def setupStatus : Unified MerakiSetupStatus := do
  let configured ← ask .loadKey
  let available ← ask .keyringAvailable
  let stored ← ask .loadKey
  let selection ← ask .loadSelection
  let (_, known) ← unifiedState
  let now ← ask .now
  return {
    configured := (configured : Option Text).isSome
    keyringAvailable := available
    storage := if (stored : Option Text).isSome then "keyring" else "none"
    selection := selection
    sourceHealth := (known.find? fun item => item.provider = .merakiDashboard).getD
      (unconfiguredMerakiHealth now) }

omit [Protector] in
def clearApiKey : Unified MerakiSetupStatus := do
  ask .stop
  ask .clearKey
  let now ← ask .now
  saveSourceHealth (unconfiguredMerakiHealth now)
  setupStatus

/-- `MerakiConnectionTestResult`. -/
structure MerakiConnectionTestResult where
  ok : Bool
  summary : Text
  checkedAt : Nat
  organizationsVisible : Nat
  sourceHealth : SourceHealth
  deriving DecidableEq, Repr

omit [Protector] [Digest] in
/-- `test_connection`: what the client raises that is no `MerakiApiError` passes through. -/
def testConnection : Unified (Except ClientError MerakiConnectionTestResult) := do
  let checkedAt ← ask .now
  let key ← ask .loadKey
  match (key : Option Text) with
  | none => return .ok {
      ok := false
      summary := "Store a Meraki API key in " ++ "Windows Credential Manager first.".toList
      checkedAt := checkedAt
      organizationsVisible := 0
      sourceHealth := unconfiguredMerakiHealth checkedAt }
  | some key =>
    match (← ask (.getOrganizations key) : Except ClientError OrganizationsResult) with
    | .ok result =>
      let health := connectionHealth checkedAt result.complete
      saveSourceHealth health
      return .ok {
        ok := true
        summary := "Meraki connection succeeded."
        checkedAt := checkedAt
        organizationsVisible := result.count.getD 0
        sourceHealth := health }
    | .error (.merakiApi code) =>
      let health := failureHealth checkedAt "organizations" code
      saveSourceHealth health
      return .ok {
        ok := false
        summary := "Meraki connection failed. " ++ "Check the key and Dashboard API access.".toList
        checkedAt := checkedAt
        organizationsVisible := 0
        sourceHealth := health }
    | .error .other => return .error .other

end service

end SwitchOps
