import SwitchOps.Live.State
import SwitchOps.Topology.Models
import SwitchOps.Unified.Protection

/-!
# The rules of discovery evidence

`discovery_evidence.py`: how old a fact may grow, what its identifier is, and how much a set of facts
says about a device.
-/

namespace SwitchOps.Topology

/-! ## Addresses -/

/-- `normalize_mac` -/
def normalizeMac (value : Text) : Text := normalizeHardwareMac value

/-- The IEEE registry of `netaddr`: the organisation to which the prefix of an address is assigned,
and `none` where there is none. -/
class OuiRegistry where
  organisation : Text → Option Text

/-- `OuiHint`, the status aside. -/
structure OuiHint where
  vendor : Option Text
  detail : Text
  deriving DecidableEq, Repr

/-- `oui_vendor_hint` -/
def ouiVendorHint [OuiRegistry] (value : Text) : OuiHint :=
  let normalized := normalizeMac value
  match normalized with
  | high :: low :: _ =>
    let first := hexValue high * 16 + hexValue low
    if normalized = List.replicate 12 'f' then
      ⟨none, "Broadcast addresses do not have a vendor identity."⟩
    else if first % 2 = 1 then
      ⟨none, "Multicast addresses do not identify one device vendor."⟩
    else if first / 2 % 2 = 1 then
      ⟨none, "The address is locally administered, so its prefix is not a reliable vendor hint."⟩
    else if normalized = List.replicate 12 '0' then
      ⟨none, "The all-zero address is not a vendor identity."⟩
    else
      match ((OuiRegistry.organisation normalized).map Text.strip).getD [] with
      | [] => ⟨none, "No vendor is registered locally for this prefix."⟩
      | vendor => ⟨some vendor, "The bundled IEEE registry maps the address prefix to this organisation; " ++
          "it does not identify a model or role."⟩
  | _ => ⟨none, "The address is not a valid 48-bit MAC address."⟩

/-! ## Age -/

def second : Nat := 1000000

/-- `_CURRENT_SECONDS` -/
def currentSeconds : EvidenceType → Option Nat
  | .interfaceLink => some 20
  | .interfaceDescription | .userIntent | .acceptedPlan => none
  | .priorObservation => some 0
  | _ => some 180

/-- `evidence_expiry` -/
def evidenceExpiry (evidenceType : EvidenceType) (observedAt : Nat) : Option Nat :=
  (currentSeconds evidenceType).bind fun seconds =>
    if 0 < seconds then some (observedAt + seconds * second) else none

/-- `freshness_for`. (The state of the connection is not looked at.) -/
def freshnessFor (evidenceType : EvidenceType) (observedAt referenceAt : Nat) (revoked : Bool := false) :
    FreshnessState :=
  if revoked || evidenceType = .priorObservation then .historical
  else
    match currentSeconds evidenceType with
    | none => .current
    | some seconds =>
      let age := referenceAt - observedAt
      if age ≤ seconds * second then .current
      else if age ≤ seconds * second * 4 then .aging
      else .stale

/-- An outage makes no fact historical. -/
theorem freshnessFor_ne_historical {evidenceType : EvidenceType} (h : evidenceType ≠ .priorObservation)
    (observedAt referenceAt : Nat) : freshnessFor evidenceType observedAt referenceAt ≠ .historical := by
  rw [freshnessFor, Bool.false_or, decide_eq_false h, if_neg Bool.false_ne_true]
  cases currentSeconds evidenceType with
  | none => exact fun same => by cases same
  | some seconds =>
    show (if _ then _ else if _ then _ else _) ≠ _
    split
    · decide
    split
    · decide
    · decide

/-! ## Identifiers -/

variable [Digest]

/-- `stable_entity_id` -/
def stableEntityId (sourceNamespace kind identity : Text) : Text :=
  "entity-" ++ (Digest.sha256 (sourceNamespace ++ "|" ++ kind ++ "|" ++ normalizedName identity)).take 16

/-- `_evidence_id` -/
def evidenceId (evidenceType : EvidenceType) (deviceId : Text) (interface entityId observedValue : Option Text) : Text :=
  "ev-" ++ (Digest.sha256 (Text.join "|" [evidenceType.text, deviceId, interface.getD [], entityId.getD [],
    observedValue.getD []])).take 20

/-- `evidence_record` -/
def evidenceRecord (evidenceType : EvidenceType) (evidenceClass : EvidenceClass) (source : EvidenceSource)
    (deviceId : Text) (interface entityId observedValue : Option Text) (summary : Text) (observedAt : Nat)
    (strength : Confidence) (establishes : EvidenceClaimSupport) (provenance : Text)
    (relationship : Option RelationshipKind := none) : DiscoveryEvidence where
  id := evidenceId evidenceType deviceId interface entityId observedValue
  evidenceType := evidenceType
  evidenceClass := evidenceClass
  source := source
  deviceId := deviceId
  interface := interface
  entityId := entityId
  observedValue := observedValue
  summary := summary
  observedAt := observedAt
  expiresAt := evidenceExpiry evidenceType observedAt
  strength := strength
  establishes := establishes
  relationship := relationship
  provenance := provenance

/-! ## Confidence -/

/-- `_lower` -/
def Confidence.lowered : Confidence → Confidence
  | .confirmed => .high
  | .high => .medium
  | .medium => .low
  | .low | .unknown => .unknown

/-- The current records. -/
def currentRecords (records : List DiscoveryEvidence) : List DiscoveryEvidence :=
  records.filter fun record => record.freshness = .current && !record.revoked

/-- `existence_confidence` -/
def existenceConfidence (records : List DiscoveryEvidence) : Confidence :=
  let types := (currentRecords records).map (·.evidenceType)
  if .localHostMac ∈ types ∨ .cdpNeighbor ∈ types ∨ .lldpNeighbor ∈ types then .confirmed
  else if .interfaceLink ∈ types ∧ .macLearned ∈ types then .high
  else if .interfaceLink ∈ types then .medium
  else if (currentRecords records).any (·.establishes.existence) then .low
  else .unknown

/-- `identity_confidence` -/
def identityConfidence (records : List DiscoveryEvidence) (conflicts : List EvidenceConflict := []) : Confidence :=
  let types := (currentRecords records).map (·.evidenceType)
  let result : Confidence :=
    if .localHostMac ∈ types then .confirmed
    else if .cdpNeighbor ∈ types ∨ .lldpNeighbor ∈ types then .high
    else if .ouiVendor ∈ types ∧ .arpEntry ∈ types ∧ .macLearned ∈ types then .medium
    else if .ouiVendor ∈ types then .low
    else .unknown
  if conflicts.isEmpty then result else result.lowered

/-- `re.findall(r"[a-z0-9]+", text.lower())` -/
def plainTokens (text : Text) : List Text :=
  Text.split (text.lower.map fun c => if isSlugChar c then c else ' ')

/-- `vendor_conflict`: only clearly disjoint names conflict. -/
def vendorConflict (observedVendor ouiVendor : Option Text) (evidenceIds : List Text) : Option EvidenceConflict :=
  match observedVendor, ouiVendor with
  | some (c :: observed), some (d :: oui) =>
    let observedTokens := plainTokens (c :: observed)
    let ouiTokens := plainTokens (d :: oui)
    let aliases : List Text := ["cisco", "meraki"]
    if observedTokens.any (ouiTokens.elem ·) || (observedTokens.any aliases.elem && ouiTokens.any aliases.elem) then none
    else some {
      field := .vendor
      summary := "The neighbour reports " ++ (c :: observed) ++ ", while the learned address prefix maps to " ++
        (d :: oui) ++ ". SwitchOps keeps both facts and lowers identity confidence."
      evidenceIds := evidenceIds }
  | _, _ => none

end SwitchOps.Topology
