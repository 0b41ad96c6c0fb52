import Mathlib.Data.Char
import SwitchOps.Lib.UnionFind
import SwitchOps.Unified.Identity

/-!
# Cross-provider reconciliation

`unified_reconciliation.py`: the records that confirmed links join become one unified entity, each
of its attributes is resolved over the claims about any of them, and relationships are lifted to
unified entities. No provider takes precedence.
-/

namespace SwitchOps

/-- `_ATTRIBUTE_FIELDS`. -/
def attributeFields : List ClaimField :=
  [.attachment, .relationship, .availability, .name, .model, .vlan, .port]

/-! ## Components -/

/-- The loop that groups the entities by their root. It halves paths on its way. -/
def groupByRoot (fuel : Nat) : List ProviderEntity → (Text → Text) → List (Text × Text)
  | [], _ => []
  | entity :: entities, parents =>
    let (root, parents) := UnionFind.find fuel parents entity.id
    (root, entity.id) :: groupByRoot fuel entities parents

/-- `_components`: the identifiers of the entities that confirmed links join. -/
def components (entities : List ProviderEntity) (links : List IdentityLink) : List (List Text) :=
  let confirmed := links.filter (·.state = .confirmed)
  let fuel := entities.length
  let parents := UnionFind.joinAll fuel id
    (confirmed.map fun link => (link.leftEntityId, link.rightEntityId))
  let grouped := Dict.groupBy (·.1) (groupByRoot fuel entities parents)
  let sorted := grouped.insertionSort (Text.le ·.1 ·.1)
  sorted.map fun group => (group.2.map (·.2)).insertionSort (Text.le · ·)

/-! ## Attributes -/

/-- `_resolve_attribute`. -/
def resolveAttribute (field : ClaimField) (memberIds : List Text) (claims : List NormalizedClaim) :
    AttributeResolution :=
  let relevant := claims.filter fun item =>
    memberIds.elem item.subjectRef && item.field == field && item.value.isSome
  if relevant.isEmpty then {
    field := field, state := .unknown, explanation := "No provider supplied this claim." }
  else if relevant.all fun item => item.freshness.isOld then {
    field := field, state := .stale, claimIds := relevant.map (·.id)
    explanation := "Only stale or historical provider evidence is available." }
  else
    let values := relevant.filterMap fun item => item.value.map fun value => (item.provider, value)
    let providerValues : List (ProviderKind × List Text) :=
      (Dict.groupBy (·.1) values).map fun group =>
        (group.1, Text.sortedSet (group.2.map fun value => value.2.str))
    let rawValues := Dict.ofList (values.map fun value => (value.2.str, value.2))
    let flattened := providerValues.map fun group => (group.1, Text.join ", " group.2)
    let distinct := (providerValues.flatMap (·.2)).dedup
    let only := distinct.head?.bind (Dict.get? rawValues)
    let resolution (state : CrossProviderState) (value : Option ClaimValue) (explanation : Text) :
        AttributeResolution := {
      field := field, state := state, value := value, providerValues := flattened
      claimIds := relevant.map (·.id), explanation := explanation }
    if providerValues.any fun group => 1 < group.2.length then
      resolution .ambiguous none "At least one provider supplied multiple current values."
    else if providerValues.length = 1 then
      resolution .providerOnly only "Only one provider supplied this claim."
    else if distinct.length = 1 then
      resolution .agreed only "The providers report the same current value."
    else
      resolution .conflict none
        ("The providers report different current values; " ++ "neither wins automatically.".toList)

/-! ## Relationships -/

/-- The order of `sorted(grouped.items())`. -/
def relationshipLe (a b : Text × Text × ClaimField) : Bool :=
  if a.1 ≠ b.1 then Text.le a.1 b.1
  else if a.2.1 ≠ b.2.1 then Text.le a.2.1 b.2.1
  else Text.le a.2.2.text b.2.2.text

/-- `_relationships`. -/
def relationships [Digest] (claims : List NormalizedClaim) (providerToUnified : Dict Text Text) :
    List UnifiedRelationship :=
  let lifted := claims.filterMap fun item =>
    if item.field ≠ .attachment ∧ item.field ≠ .relationship then none
    else match item.objectRef with
      | none | some [] => none
      | some objectRef =>
        match Dict.get? providerToUnified item.subjectRef, Dict.get? providerToUnified objectRef with
        | some subject, some object =>
          if subject.isEmpty || object.isEmpty || subject = object then none
          else some ((subject, object, item.field), item)
        | _, _ => none
  let grouped := (Dict.groupBy (·.1) lifted).insertionSort (relationshipLe ·.1 ·.1)
  grouped.map fun group =>
    let (subject, object, field) := group.1
    let items := group.2.map (·.2)
    let providers := (items.map (·.provider)).dedup
    -- `str(None)` is a value like any other
    let values := (items.map fun item => (item.value.map (·.str)).getD "None".toList).dedup
    let state : CrossProviderState :=
      if items.all fun item => item.freshness.isOld then .stale
      else if providers.length = 1 then .providerOnly
      else if values.length = 1 then .agreed
      else .conflict
    { id := stableId "unified-link" [subject, object, field.text]
      subjectId := subject, objectId := object, relationship := field, state := state
      providerClaimIds := items.map (·.id)
      explanation := match state with
        | .agreed => "Providers agree on this relationship."
        | .providerOnly => "This relationship is supported by one provider only."
        | .stale => "Provider relationship evidence is stale."
        | _ => "Providers disagree about this relationship." }

/-! ## The unified state -/

/-- The decisions of the local operator, by link: the decision and its time. -/
abbrev IdentityOverrides := Dict Text (Text × Nat)

/-- The loop over the links: a decision confirms or rejects, but never waives a conflict. -/
def applyOverride (overrides : IdentityOverrides) (link : IdentityLink) : IdentityLink :=
  match Dict.get? overrides link.id with
  | none => link
  | some (decision, decidedAt) =>
    let decided (state : IdentityLinkState) : IdentityLink := { link with
      state := state, automatic := false, decidedAt := some decidedAt
      reasons := link.reasons ++ [{
        kind := .operator, field := .operatorDecision, strength := .supporting
        summary := "The local operator chose to " ++ decision
          ++ " this ambiguous identity relationship."
        provenanceRefs := [] }] }
    if link.state = .conflicted then link
    else if decision = "confirm".toList then decided .confirmed
    else if decision = "reject".toList then decided .rejected
    else link

/-- The ids of the entities at both ends of some links or conflicts. -/
def endpoints (pairs : List (Text × Text)) : List Text := pairs.flatMap fun pair => [pair.1, pair.2]

/-- `explanation` of the attribute `identity`. -/
def identityExplanation : CrossProviderState → Text
  | .agreed => "Strong provider identifiers or a local operator decision join these records."
  | .conflict => "A strong identifier conflict prevents a merge."
  | .ambiguous => "Correlation evidence is ambiguous and the records remain separate."
  | _ => "This identity is currently reported by one provider only."

/-- The body of the loop over components. -/
def unifiedEntity [Digest] (byId : Text → Option ProviderEntity) (claims : List NormalizedClaim)
    (conflictIds candidateIds : List Text) (component : List Text) : UnifiedEntity :=
  let members := component.filterMap byId
  let providers := (members.map (·.provider)).dedup.insertionSort (Text.le ·.text ·.text)
  let names := (members.map (·.label)).dedup
  let categories := (members.map (·.category)).dedup
  let unifiedId := stableId "unified-entity" component
  let identityState : CrossProviderState :=
    if 1 < providers.length then .agreed
    else if component.any conflictIds.elem then .conflict
    else if component.any candidateIds.elem then .ambiguous
    else .providerOnly
  { id := unifiedId
    label := match names with
      | [name] => name
      | _ => "Unified device " ++ unifiedId.drop (unifiedId.length - 6)
    category := match categories with
      | [category] => category
      | _ => "unknown"
    providerEntityIds := component
    providers := providers
    identityState := identityState
    attributes := {
        field := .identity, state := identityState
        explanation := identityExplanation identityState } ::
      attributeFields.map fun field => resolveAttribute field component claims
    evidenceIds := Text.sortedSet (members.flatMap (·.claimIds))
    freshness := if members.all fun item => item.freshness.isOld then .stale else .current }

/-- `reconcile_unified_state`. -/
def reconcileUnifiedState [Digest] (providerEntities : List ProviderEntity)
    (claims : List NormalizedClaim) (overrides : IdentityOverrides) (generatedAt : Nat) :
    UnifiedLabState :=
  let (resolved, conflicts) := resolveCrossProviderIdentities providerEntities generatedAt
  let links := resolved.map (applyOverride overrides)
  -- of two entities with one id the last is found
  let byId (id : Text) := providerEntities.reverse.find? fun entity => entity.id = id
  let conflictIds := endpoints (conflicts.map fun conflict =>
    (conflict.leftEntityId, conflict.rightEntityId))
  let candidateIds := endpoints ((links.filter (·.state = .candidate)).map fun link =>
    (link.leftEntityId, link.rightEntityId))
  let groups := components providerEntities links
  let entities := groups.map (unifiedEntity byId claims conflictIds candidateIds)
  let providerToUnified := Dict.ofList (entities.flatMap fun entity =>
    entity.providerEntityIds.map fun id => (id, entity.id))
  { generatedAt := generatedAt
    entities := entities
    relationships := relationships claims providerToUnified
    providerEntities := providerEntities
    claims := claims
    identityLinks := links
    conflicts := conflicts }

end SwitchOps
