import SwitchOps.Reconciliation.Providers

/-!
# The reconciler

`reconcile_interface` compares the claims that are held about one interface, and `reconcile` does so for
every interface of a switch.
-/

namespace SwitchOps.Topology

/-- `_matching_sighting` -/
def matchingSighting (expected : TopologyAssertion) (sightings : List ExternalSighting) : Option ExternalSighting :=
  sightings.find? fun sighting => tokensMatch expected.labelTokens (labelTokens sighting.label)

/-- Status, kind of drift, headline and explanation. -/
structure Verdict where
  status : ReconciliationStatus
  driftKind : DriftKind := .none
  headline : Text
  explanation : Text
  deriving DecidableEq, Repr

section

variable (interface : InterfaceStatus)

/-- Expected, and not observed: moved, if another source sees it, or not to be seen here. -/
def absentVerdict (expected : TopologyAssertion) (sightings : List ExternalSighting) : Verdict :=
  match matchingSighting expected sightings with
  | some sighting => {
    status := .drift
    driftKind := .location
    headline := "Location drift"
    explanation := expected.objectLabel ++ " is expected on " ++ interface.port ++ " but is not attached there. " ++
      sighting.source.text ++ " reports it at " ++ sighting.observedLocation ++
      ", so the device is present on the network in a different place." }
  | none => {
    status := .expectedNotObserved
    headline := "Expected device not observed"
    explanation := expected.objectLabel ++ " is expected on " ++ interface.port ++
      ", but this switch currently detects " ++
      (if interface.status.strip.lower = "disabled" then "no link (the port is administratively disabled)"
        else "no link on that port") ++
      ". SwitchOps cannot conclude the device is offline - it is only absent from the place it was expected." }

/-- Observed and expected. -/
def comparedVerdict (observed expected : TopologyAssertion) : Verdict :=
  if observed.conflicted then {
    status := .uncertain
    headline := "Evidence conflicts"
    explanation := "Current evidence on " ++ interface.port ++ " disagrees: " ++ Text.join " " observed.conflictReasons ++
      " SwitchOps has lowered confidence instead of choosing a silent winner." }
  else if !observed.objectIdentified then {
    status := .uncertain
    headline := "Present, identity unconfirmed"
    explanation := interface.port ++ " has a healthy link, so a device is attached, but nothing identifies it. The name " ++
      Text.repr expected.objectLabel ++ " comes from " ++
      (if expected.source = .userIntent then "your recorded intent" else "the interface description") ++
      ", so SwitchOps can neither confirm nor contradict it." }
  else if tokensMatch observed.labelTokens expected.labelTokens then {
    status := .aligned
    headline := "Observed matches intent"
    explanation := observed.objectLabel ++ " announced itself on " ++ interface.port ++ ", which matches the expected " ++
      expected.objectLabel ++ "." }
  else {
    status := .drift
    driftKind := .identity
    headline := "Topology drift"
    explanation := interface.port ++ " has a healthy link, but the device that announced itself (" ++
      observed.objectLabel ++ ") is not the expected " ++ expected.objectLabel ++
      ". The link itself is fine; the documented topology is out of date." }

def verdictOf (observed expected : Option TopologyAssertion) (sightings : List ExternalSighting) (suppressed : Bool) :
    Verdict :=
  if suppressed then {
    status := .notApplicable
    headline := "Muted"
    explanation := "You have muted reconciliation for " ++ interface.port ++
      ". SwitchOps still records what it observes here, but will not raise it for attention." }
  else
    match observed, expected with
    | none, none => {
      status := .notApplicable
      headline := "Nothing expected, nothing observed"
      explanation := interface.port ++ " carries no recorded intent and nothing is attached to it." }
    | none, some expected => absentVerdict interface expected sightings
    | some _, none => {
      status := .unexpected
      headline := "Observed without recorded intent"
      explanation := "Something is attached to " ++ interface.port ++
        ", but no intent records what should be there. Recording an expectation lets SwitchOps tell you when it changes." }
    | some observed, some expected => comparedVerdict interface observed expected

/-- What changed since the previous observation. -/
def changeSummary (observed historical : Option TopologyAssertion) : Option Text :=
  historical.bind fun historical =>
    if decide (historical.objectLabel ≠ "No link") ≠ observed.isSome then
      some (interface.port ++ if observed.isSome then " came up since the previous observation."
        else " lost its link since the previous observation.")
    else
      observed.bind fun observed =>
        if historical.objectIdentified && observed.objectIdentified && historical.objectLabel ≠ observed.objectLabel then
          some ("The announced neighbour on " ++ interface.port ++ " changed from " ++ historical.objectLabel ++ " to " ++
            observed.objectLabel ++ ".")
        else none

/-- The description disagrees with intent from a source of more authority. -/
def documentationStale (expected : Option TopologyAssertion) : Bool :=
  match expected with
  | none => false
  | some expected =>
    (expected.source = .userIntent || expected.source = .acceptedPlan) &&
      meaningfulDescription interface.name.strip &&
      !tokensMatch (labelTokens interface.name.strip) expected.labelTokens

/-- The claim of the source that sees the expected device elsewhere. -/
def sightingAssertion (sighting : ExternalSighting) : TopologyAssertion where
  subject := interface.port
  relationship := .expectedNeighbour
  objectLabel := sighting.label ++ " at " ++ sighting.observedLocation
  objectIdentified := true
  evidenceClass := .observed
  source := sighting.source
  confidence := sighting.confidence
  detail := if sighting.detail.isEmpty then
      sighting.source.text ++ " observed " ++ sighting.label ++ " at " ++ sighting.observedLocation ++ "."
    else sighting.detail
  observedAt := sighting.observedAt

/-- `reconcile_interface` -/
def reconcileInterface (observed expected historical : Option TopologyAssertion) (inferred : List TopologyAssertion)
    (sightings : List ExternalSighting) (suppressed : Bool) : InterfaceReconciliation :=
  let verdict := verdictOf interface observed expected sightings suppressed
  let change := changeSummary interface observed historical
  let sighted := if verdict.driftKind = .location then expected.bind (matchingSighting · sightings) else none
  { interface := interface.port
    status := verdict.status
    driftKind := verdict.driftKind
    headline := verdict.headline
    explanation := verdict.explanation
    observed := observed
    expected := expected
    historical := historical
    inferred := inferred
    changedSincePrevious := change.isSome
    changeSummary := change
    assertions := observed.toList ++ expected.toList ++ historical.toList ++ inferred ++
      (sighted.map (sightingAssertion interface)).toList
    documentationStale := documentationStale interface expected }

end

/-! ## The summary -/

structure ReconciliationSummary where
  evaluatedAt : Nat
  deviceId : Text
  aligned : Nat
  drift : Nat
  expectedNotObserved : Nat
  unexpected : Nat
  uncertain : Nat
  changed : Nat
  attention : Bool
  headline : Text
  interfaces : List InterfaceReconciliation
  deriving DecidableEq, Repr

/-- How many results have a status. -/
def countOf (results : List InterfaceReconciliation) (status : ReconciliationStatus) : Nat :=
  results.countP fun result => result.status = status

/-- The headline of the summary, from what asks for attention to what does not. -/
def summaryHeadline (results : List InterfaceReconciliation) : Text :=
  let part (status : ReconciliationStatus) (text : Text) : List Text :=
    if countOf results status = 0 then [] else [Text.ofNat (countOf results status) ++ text]
  match part .drift " topology drift" ++ part .expectedNotObserved " expected but not observed" ++
    part .unexpected " observed without intent" with
  | [] =>
    if countOf results .uncertain ≠ 0 then
      Text.ofNat (countOf results .uncertain) ++ " interface(s) present but unidentified"
    else if countOf results .aligned ≠ 0 then "Observed topology matches recorded intent"
    else "No topology intent recorded yet"
  | parts => Text.join ", " parts

/-- `reconcile` -/
def reconcile (deviceId : Text) (interfaces : List InterfaceStatus) (ios : CiscoIosEvidenceProvider)
    (intent : IntentProvider) (previous : Dict Text PreviousInterfaceState) (sightings : List ExternalSighting)
    (evaluatedAt : Nat) : ReconciliationSummary :=
  let results := interfaces.map fun interface =>
    reconcileInterface interface (Dict.get? ios.observedByInterface interface.port)
      (Dict.get? intent.expectedByInterface interface.port)
      (Dict.get? (historicalByInterface previous) interface.port)
      ((Dict.get? ios.inferredByInterface interface.port).getD []) sightings
      (intent.suppressedInterfaces.elem interface.port)
  { evaluatedAt := evaluatedAt
    deviceId := deviceId
    aligned := countOf results .aligned
    drift := countOf results .drift
    expectedNotObserved := countOf results .expectedNotObserved
    unexpected := countOf results .unexpected
    uncertain := countOf results .uncertain
    changed := results.countP (·.changedSincePrevious)
    attention := countOf results .drift ≠ 0 || countOf results .expectedNotObserved ≠ 0 ||
      countOf results .unexpected ≠ 0
    headline := summaryHeadline results
    interfaces := results }

/-- Evidence that conflicts, or does not identify, neither confirms nor contradicts. -/
theorem reconcileInterface_of_unsure {interface : InterfaceStatus} {observed : TopologyAssertion}
    (unsure : observed.conflicted = true ∨ observed.objectIdentified = false)
    (expected historical : Option TopologyAssertion) (inferred : List TopologyAssertion)
    (sightings : List ExternalSighting) (suppressed : Bool) :
    (reconcileInterface interface (some observed) expected historical inferred sightings suppressed).status ≠ .aligned ∧
      (reconcileInterface interface (some observed) expected historical inferred sightings suppressed).driftKind =
        .none := by
  show (verdictOf interface (some observed) expected sightings suppressed).status ≠ .aligned ∧
    (verdictOf interface (some observed) expected sightings suppressed).driftKind = .none
  cases suppressed with
  | true => exact ⟨fun same => (by cases same), rfl⟩
  | false =>
    cases expected with
    | none => exact ⟨fun same => (by cases same), rfl⟩
    | some expected =>
      show (comparedVerdict interface observed expected).status ≠ .aligned ∧
        (comparedVerdict interface observed expected).driftKind = .none
      rw [comparedVerdict]
      split
      · exact ⟨fun same => (by cases same), rfl⟩
      · next agrees =>
        rw [if_pos (by simpa [agrees] using unsure)]
        exact ⟨fun same => (by cases same), rfl⟩

end SwitchOps.Topology
