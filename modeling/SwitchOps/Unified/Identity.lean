import Mathlib.Data.List.Lex
import SwitchOps.Lib.Dict
import SwitchOps.Unified.Models

/-!
# Cross-provider identity

`identity_resolution.py`: what two entities of different providers are to each other, judged by
their protected identifiers, and the links and conflicts of all pairs.
-/

namespace SwitchOps

/-- `_stable_id` and its namesake `_id`: the same for any order of the values. -/
def stableId [Digest] (pre : Text) (values : List Text) : Text :=
  pre ++ "-" ++ (Digest.sha256 (Text.join "|" (values.insertionSort (Text.le · ·)))).take 20

/-! ## Identifiers -/

/-- A hardware address that is not globally administered never participates. -/
def ProviderIdentifier.admitted (identifier : ProviderIdentifier) : Bool :=
  !((identifier.kind == .chassisMac || identifier.kind == .deviceMac)
    && identifier.globallyAdministered != some true)

/-- `_by_kind`. -/
def byKind (entity : ProviderEntity) : Dict IdentifierKind (List ProviderIdentifier) :=
  Dict.groupBy (·.kind) (entity.identifiers.filter (·.admitted))

/-- `grouped.get(kind, [])`. -/
def identifiersOf (entity : ProviderEntity) (kind : IdentifierKind) : List ProviderIdentifier :=
  (Dict.get? (byKind entity) kind).getD []

/-- The values that are on both lists. -/
def commonValues (left right : List ProviderIdentifier) : List Text :=
  (left.map (·.protectedValue)).filter fun value => (right.map (·.protectedValue)).elem value

/-! ## Two entities -/

/-- `strong_groups`: chassis and device addresses are one family. -/
def strongGroups : List (IdentifierKind × List IdentifierKind) :=
  [(.serial, [.serial]), (.chassisMac, [.chassisMac, .deviceMac])]

/-- The identifiers of a group. -/
def groupItems (entity : ProviderEntity) (members : List IdentifierKind) : List ProviderIdentifier :=
  members.flatMap (identifiersOf entity)

/-- The agreement on a strong group. -/
def strongAgreement (left right : ProviderEntity) (group : IdentifierKind × List IdentifierKind) :
    Option IdentityReason :=
  let leftItems := groupItems left group.2
  let rightItems := groupItems right group.2
  if leftItems.isEmpty || rightItems.isEmpty then none
  else if (commonValues leftItems rightItems).isEmpty then none
  else some {
    kind := .agreement, field := .identifier group.1, strength := .strong
    summary := "Both providers report the same protected " ++ group.1.text ++ "."
    provenanceRefs := (leftItems ++ rightItems).map (·.provenanceRef) }

/-- The disagreement on a strong group that both report. -/
def strongDisagreement (left right : ProviderEntity)
    (group : IdentifierKind × List IdentifierKind) :
    Option (IdentifierKind × List ProviderIdentifier) :=
  let leftItems := groupItems left group.2
  let rightItems := groupItems right group.2
  if leftItems.isEmpty || rightItems.isEmpty then none
  else if (commonValues leftItems rightItems).isEmpty then some (group.1, leftItems ++ rightItems)
  else none

/-- `sorted(_SUPPORTING_KINDS | _WEAK_KINDS)`. -/
def labelKinds : List IdentifierKind :=
  [.directAdjacency, .managementAddress, .model, .name, .reciprocalAdjacency]

/-- A member of `_SUPPORTING_KINDS`. -/
def isSupporting : IdentifierKind → Bool
  | .managementAddress | .directAdjacency | .reciprocalAdjacency => true
  | _ => false

/-- The agreement on a supporting or weak identifier. -/
def labelAgreement (left right : ProviderEntity) (kind : IdentifierKind) : Option IdentityReason :=
  let leftItems := identifiersOf left kind
  let rightItems := identifiersOf right kind
  if leftItems.isEmpty || rightItems.isEmpty then none
  else if (commonValues leftItems rightItems).isEmpty then none
  else some {
    kind := if isSupporting kind then .support else .hint
    field := .identifier kind
    strength := if isSupporting kind then .supporting else .weak
    summary := "Both providers report the same protected " ++ kind.text ++ "; "
      ++ "this is not sufficient for an automatic merge."
    provenanceRefs := (leftItems ++ rightItems).map (·.provenanceRef) }

section pair

variable [Digest]

/-- The conflict of a strong disagreement. -/
def identityConflict (left right : ProviderEntity)
    (disagreement : IdentifierKind × List ProviderIdentifier) : IdentityConflict where
  id := stableId "identity-conflict" [left.id, right.id, disagreement.1.text]
  leftEntityId := left.id
  rightEntityId := right.id
  field := disagreement.1
  summary := "The providers report different strong " ++ disagreement.1.text ++ " identifiers."
  provenanceRefs := disagreement.2.map (·.provenanceRef)

/-- `resolve_identity_pair`. -/
def resolveIdentityPair (left right : ProviderEntity) (evaluatedAt : Nat) :
    IdentityLink × List IdentityConflict :=
  let link (state : IdentityLinkState) (reasons : List IdentityReason) : IdentityLink := {
    id := stableId "identity-link" [left.id, right.id]
    leftEntityId := left.id, rightEntityId := right.id
    state := state, reasons := reasons, evaluatedAt := evaluatedAt }
  if left.provider = right.provider then (link .rejected [], [])
  else
    let agreements := strongGroups.filterMap (strongAgreement left right)
    let disagreements := strongGroups.filterMap (strongDisagreement left right)
    let labels := labelKinds.filterMap (labelAgreement left right)
    let reasons := agreements ++ labels
    let supported := labels.any fun reason => reason.strength == .supporting
    let named := reasons.any fun reason =>
      reason.field == .identifier .name && reason.kind == .hint
    -- unrelated devices are not in conflict merely because their serials differ
    let likely := !agreements.isEmpty || supported || named
    if !disagreements.isEmpty && likely then
      let conflicts := disagreements.map (identityConflict left right)
      let conflicting := conflicts.map fun conflict => {
        kind := .conflict, field := .identifier conflict.field, strength := .strong
        summary := conflict.summary, provenanceRefs := conflict.provenanceRefs : IdentityReason }
      (link .conflicted (reasons ++ conflicting), conflicts)
    else if !agreements.isEmpty then (link .confirmed reasons, [])
    else if !labels.isEmpty then (link .candidate reasons, [])
    else (link .rejected reasons, [])

end pair

/-! ## All entities -/

/-- The keys of `_strong_tokens`. -/
inductive StrongFamily
  | serial
  | hardwareMac
  deriving DecidableEq, Repr

/-- The kinds of identifiers in a family. -/
def StrongFamily.kinds : StrongFamily → List IdentifierKind
  | .serial => [.serial]
  | .hardwareMac => [.chassisMac, .deviceMac]

/-- The values of `_strong_tokens`: a set for each family. -/
def strongTokens (entity : ProviderEntity) (family : StrongFamily) : List Text :=
  ((groupItems entity family.kinds).map (·.protectedValue)).dedup

/-- `strong_counts`: how many entities of a provider carry a token. -/
def strongCounts (ordered : List ProviderEntity) : Dict (ProviderKind × StrongFamily × Text) Nat :=
  ordered.foldl (fun counts entity =>
    [StrongFamily.serial, .hardwareMac].foldl (fun counts family =>
      (strongTokens entity family).foldl (fun counts value =>
        let key := (entity.provider, family, value)
        Dict.set counts key ((Dict.get? counts key).getD 0 + 1)) counts) counts) []

/-- The tokens of a family that two entities share. -/
def sharedTokens (left right : ProviderEntity) (family : StrongFamily) : List Text :=
  (strongTokens left family).filter fun value => (strongTokens right family).elem value

/-- `unique_agreement`: they share a token that nobody else of their providers carries. -/
def uniqueAgreement (counts : Dict (ProviderKind × StrongFamily × Text) Nat)
    (left right : ProviderEntity) : Bool :=
  [StrongFamily.serial, .hardwareMac].any fun family =>
    (sharedTokens left right family).any fun value =>
      (Dict.get? counts (left.provider, family, value)).getD 0 == 1
        && (Dict.get? counts (right.provider, family, value)).getD 0 == 1

/-- Each item with each of the items after it. -/
def pairsOf {α : Type} : List α → List (α × α)
  | [] => []
  | item :: items => items.map (item, ·) ++ pairsOf items

/-- `key=lambda entity: (entity.provider, entity.id)`. -/
def entityLe (a b : ProviderEntity) : Bool :=
  if a.provider = b.provider then Text.le a.id b.id else Text.le a.provider.text b.provider.text

/-- The body of the loop over pairs: the link that is kept, and the conflicts. -/
def resolveOrdered [Digest] (counts : Dict (ProviderKind × StrongFamily × Text) Nat)
    (left right : ProviderEntity) (evaluatedAt : Nat) :
    Option IdentityLink × List IdentityConflict :=
  if left.provider = right.provider then (none, [])
  else
    let (link, conflicts) := resolveIdentityPair left right evaluatedAt
    let link :=
      if link.state = .confirmed ∧ uniqueAgreement counts left right = false then
        { link with
          state := .candidate
          reasons := link.reasons ++ [{
            kind := .support
            field := .identifier
              (if (sharedTokens left right .hardwareMac).isEmpty then .serial else .chassisMac)
            strength := .strong
            summary := "The protected strong identifier is not unique within a provider, "
              ++ "so SwitchOps will not merge these records automatically."
            provenanceRefs := [] }] }
      else link
    (if link.state = .rejected then none else some link, conflicts)

/-- `resolve_cross_provider_identities`. -/
def resolveCrossProviderIdentities [Digest] (entities : List ProviderEntity) (evaluatedAt : Nat) :
    List IdentityLink × List IdentityConflict :=
  let ordered := entities.insertionSort (entityLe · ·)
  let counts := strongCounts ordered
  let resolved := (pairsOf ordered).map fun pair =>
    resolveOrdered counts pair.1 pair.2 evaluatedAt
  (resolved.filterMap (·.1), resolved.flatMap (·.2))

end SwitchOps
