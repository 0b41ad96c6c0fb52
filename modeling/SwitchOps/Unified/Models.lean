import SwitchOps.Models

/-!
# The vocabulary of the Unified Lab

The models of `unified_models.py`: what a provider reports of one entity, the links and conflicts
between entities of different providers, and the unified state built from them. A protected value
is a local token for a serial number, a hardware address or a label; only equality of two tokens
means anything.
-/

namespace SwitchOps

inductive ProviderKind
  | catalystIos
  | merakiDashboard
  | switchopsIntent
  | switchopsHistory
  deriving DecidableEq, Repr

def ProviderKind.text : ProviderKind → Text
  | .catalystIos => "catalyst-ios"
  | .merakiDashboard => "meraki-dashboard"
  | .switchopsIntent => "switchops-intent"
  | .switchopsHistory => "switchops-history"

inductive EvidenceStrength
  | strong
  | supporting
  | weak
  deriving DecidableEq, Repr

inductive EvidenceFreshness
  | current
  | aging
  | stale
  | historical
  deriving DecidableEq, Repr

/-- The freshness that `_resolve_attribute` and its siblings count as old. -/
def EvidenceFreshness.isOld : EvidenceFreshness → Bool
  | .stale | .historical => true
  | .current | .aging => false

inductive ClaimField
  | existence
  | identity
  | attachment
  | relationship
  | availability
  | name
  | vendor
  | model
  | category
  | vlan
  | port
  | uplink
  deriving DecidableEq, Repr

def ClaimField.text : ClaimField → Text
  | .existence => "existence"
  | .identity => "identity"
  | .attachment => "attachment"
  | .relationship => "relationship"
  | .availability => "availability"
  | .name => "name"
  | .vendor => "vendor"
  | .model => "model"
  | .category => "category"
  | .vlan => "vlan"
  | .port => "port"
  | .uplink => "uplink"

inductive IdentifierKind
  | serial
  | chassisMac
  | deviceMac
  | managementAddress
  | providerId
  | directAdjacency
  | reciprocalAdjacency
  | name
  | model
  deriving DecidableEq, Repr

def IdentifierKind.text : IdentifierKind → Text
  | .serial => "serial"
  | .chassisMac => "chassis-mac"
  | .deviceMac => "device-mac"
  | .managementAddress => "management-address"
  | .providerId => "provider-id"
  | .directAdjacency => "direct-adjacency"
  | .reciprocalAdjacency => "reciprocal-adjacency"
  | .name => "name"
  | .model => "model"

inductive IdentityLinkState
  | confirmed
  | candidate
  | rejected
  | conflicted
  | stale
  deriving DecidableEq, Repr

/-- `CrossProviderState`. -/
inductive CrossProviderState
  | agreed
  | providerOnly
  | stale
  | ambiguous
  | conflict
  | unknown
  deriving DecidableEq, Repr

/-- One protected identifier. `globallyAdministered` is meaningful for hardware addresses only. -/
structure ProviderIdentifier where
  kind : IdentifierKind
  protectedValue : Text
  strength : EvidenceStrength
  globallyAdministered : Option Bool
  provenanceRef : Text
  deriving DecidableEq, Repr

/-- The value of a claim, other than `None`. A float is given by what `str` makes of it. -/
inductive ClaimValue
  | text (value : Text)
  | bool (value : Bool)
  | int (value : Int)
  | float (repr : Text)
  deriving DecidableEq, Repr

/-- `str(value)`. -/
def ClaimValue.str : ClaimValue → Text
  | .text value => value
  | .bool true => "True"
  | .bool false => "False"
  | .int (.ofNat n) => Text.ofNat n
  | .int (.negSucc n) => '-' :: Text.ofNat (n + 1)
  | .float repr => repr

/-- A claim, its strength, provenance and detail aside. -/
structure NormalizedClaim where
  id : Text
  provider : ProviderKind
  subjectRef : Text
  field : ClaimField
  value : Option ClaimValue
  objectRef : Option Text
  freshness : EvidenceFreshness
  deriving DecidableEq, Repr

/-- One entity as reported by exactly one provider, what is only displayed aside. -/
structure ProviderEntity where
  id : Text
  provider : ProviderKind
  label : Text
  category : Text
  identifiers : List ProviderIdentifier
  claimIds : List Text
  freshness : EvidenceFreshness
  deriving DecidableEq, Repr

inductive IdentityReasonKind
  | agreement
  | conflict
  | support
  | hint
  | operator
  deriving DecidableEq, Repr

/-- What an `IdentityReason` is about. -/
inductive ReasonField
  | identifier (kind : IdentifierKind)
  | operatorDecision
  deriving DecidableEq, Repr

structure IdentityReason where
  kind : IdentityReasonKind
  field : ReasonField
  strength : EvidenceStrength
  summary : Text
  provenanceRefs : List Text
  deriving DecidableEq, Repr

/-- A retained identity decision between two provider-local entities. -/
structure IdentityLink where
  id : Text
  leftEntityId : Text
  rightEntityId : Text
  state : IdentityLinkState
  automatic : Bool := true
  reasons : List IdentityReason
  evaluatedAt : Nat
  decidedAt : Option Nat := none
  deriving DecidableEq, Repr

structure IdentityConflict where
  id : Text
  leftEntityId : Text
  rightEntityId : Text
  field : IdentifierKind
  summary : Text
  provenanceRefs : List Text
  deriving DecidableEq, Repr

structure AttributeResolution where
  field : ClaimField
  state : CrossProviderState
  value : Option ClaimValue := none
  providerValues : List (ProviderKind × Text) := []
  claimIds : List Text := []
  explanation : Text
  deriving DecidableEq, Repr

structure UnifiedEntity where
  id : Text
  label : Text
  category : Text
  providerEntityIds : List Text
  providers : List ProviderKind
  identityState : CrossProviderState
  attributes : List AttributeResolution
  evidenceIds : List Text
  freshness : EvidenceFreshness
  deriving DecidableEq, Repr

structure UnifiedRelationship where
  id : Text
  subjectId : Text
  objectId : Text
  relationship : ClaimField
  state : CrossProviderState
  providerClaimIds : List Text
  explanation : Text
  deriving DecidableEq, Repr

/-- The unified state, the health of the sources aside, which is handed through. -/
structure UnifiedLabState where
  generatedAt : Nat
  entities : List UnifiedEntity
  relationships : List UnifiedRelationship
  providerEntities : List ProviderEntity
  claims : List NormalizedClaim
  identityLinks : List IdentityLink
  conflicts : List IdentityConflict
  deriving DecidableEq, Repr

end SwitchOps
