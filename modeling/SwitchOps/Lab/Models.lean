import SwitchOps.CommandRegistry

/-!
# The vocabulary of Lab Assurance

The models of `lab_models.py` that the graph and the failure scenarios use, and the helpers of
`lab_assurance.py`.
-/

namespace SwitchOps

inductive EvidenceConfidence
  | confirmed
  | high
  | unknown
  deriving DecidableEq, Repr

inductive HopState
  | proven
  | inferred
  | expected
  | ambiguous
  | unknown
  deriving DecidableEq, Repr

inductive LabRole
  | switch
  | router
  | gateway
  | accessPoint
  | endpoint
  | unknown
  deriving DecidableEq, Repr

def LabRole.text : LabRole → Text
  | .switch => "SWITCH"
  | .router => "ROUTER"
  | .gateway => "GATEWAY"
  | .accessPoint => "ACCESS_POINT"
  | .endpoint => "ENDPOINT"
  | .unknown => "UNKNOWN"

inductive CollectionState
  | current
  | incomplete
  | failed
  | notCollected
  deriving DecidableEq, Repr

/-- A device, as far as it is not only displayed. -/
structure LabDevice where
  id : Text
  label : Text
  role : LabRole
  primary : Bool := false
  collectionState : CollectionState := .current
  evidenceIds : List Text := []
  deriving DecidableEq, Repr

/-- A port, as far as a failure scenario reads it. -/
structure LabInterface where
  id : Text
  deviceId : Text
  name : Text
  poeWatts : Option Rat := none
  evidenceIds : List Text := []
  deriving DecidableEq, Repr

inductive EdgeKind
  | physical
  | portChannelMember
  | l2Membership
  | l3Gateway
  | routingAdjacency
  | expected
  deriving DecidableEq, Repr

def EdgeKind.text : EdgeKind → Text
  | .physical => "PHYSICAL"
  | .portChannelMember => "PORT_CHANNEL_MEMBER"
  | .l2Membership => "L2_MEMBERSHIP"
  | .l3Gateway => "L3_GATEWAY"
  | .routingAdjacency => "ROUTING_ADJACENCY"
  | .expected => "EXPECTED"

structure LabEdge where
  id : Text
  fromNodeId : Text
  toNodeId : Text
  fromInterface : Option Text := none
  toInterface : Option Text := none
  kind : EdgeKind
  state : HopState
  confidence : EvidenceConfidence
  reciprocal : Bool := false
  detail : Text
  evidenceIds : List Text := []
  deriving DecidableEq, Repr

inductive TargetKind
  | interface
  | uplink
  | switch
  | gateway
  | portChannelMember
  | accessPoint
  | poe
  | adjacency
  deriving DecidableEq, Repr

structure FailureScenario where
  id : Text
  targetId : Text
  targetKind : TargetKind
  title : Text
  confidence : EvidenceConfidence
  consequences : List Text
  affectedIds : List Text
  controlImpact : Text
  evidenceIds : List Text
  deriving DecidableEq, Repr

/-! ## Helpers -/

/-- `_short`: a name that the grammar does not know is shortened by its prefix. -/
def shortName (name : Text) : Text :=
  match shortInterface name with
  | .ok short => short
  | .error _ =>
    let value := name.strip
    let replacements : List (Text × Text) := [
      ("GigabitEthernet", "Gi"), ("FastEthernet", "Fa"), ("TenGigabitEthernet", "Te"),
      ("TwentyFiveGigE", "Twe"), ("FortyGigabitEthernet", "Fo"), ("HundredGigE", "Hu")]
    match replacements.find? fun entry =>
        Text.startsWith (Text.casefold value) (Text.casefold entry.1) with
    | some (longName, abbreviation) => abbreviation ++ value.drop longName.length
    | none => value

/-- `_token`. -/
def labToken [Digest] (values : List Text) : Text :=
  (Digest.sha256 (Text.join "|" (values.map fun value => Text.casefold value.strip))).take 16

end SwitchOps
