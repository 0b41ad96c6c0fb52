import SwitchOps.Lab.Models
import SwitchOps.Lib.Graph

/-!
# Failure scenarios

`_failures` of `lab_assurance.py`. A scenario for an edge or a device removes it from the graph and
lists the devices that the primary one does not reach any more. It leaves out every edge with the
id of the failed one, and asks of no device whether the primary one reached it before.
-/

namespace SwitchOps

open Relation

/-! ## Reachability -/

/-- The kinds of edges that `_reachable` follows. -/
def EdgeKind.usable : EdgeKind → Bool
  | .portChannelMember | .expected => false
  | _ => true

def LabEdge.joins (edge : LabEdge) (nodeId : Text) : Bool :=
  edge.fromNodeId = nodeId || edge.toNodeId = nodeId

/-- The edges that are left when a node or an edge is omitted. -/
def keptEdges (edges : List LabEdge) (omittedNode omittedEdge : Option Text) : List LabEdge :=
  edges.filter fun edge => some edge.id ≠ omittedEdge && edge.kind.usable &&
    !omittedNode.any edge.joins

/-- `adjacency[node]`. -/
def neighborsOf (edges : List LabEdge) (nodeId : Text) : List Text :=
  edges.flatMap fun edge =>
    (if edge.fromNodeId = nodeId then [edge.toNodeId] else [])
      ++ if edge.toNodeId = nodeId then [edge.fromNodeId] else []

/-- Every node that a list of edges mentions. -/
def nodesOf (start : Text) (edges : List LabEdge) : List Text :=
  start :: edges.flatMap fun edge => [edge.fromNodeId, edge.toNodeId]

/-- `_reachable`. -/
def labReachable (start : Text) (edges : List LabEdge) (omittedNode omittedEdge : Option Text := none) :
    List Text :=
  let kept := keptEdges edges omittedNode omittedEdge
  Graph.reachable (neighborsOf kept) (nodesOf start kept) start

/-- `sorted(all_ids - reachable)`. -/
def unreached (devices : List LabDevice) (reachable : List Text) : List Text :=
  Text.sortedSet ((devices.map (·.id)).filter fun id => id ∉ reachable)

/-! ## The scenarios -/

/-- `text.rsplit(":", 1)[-1]`. -/
def afterColon (text : Text) : Text := (text.reverse.takeWhile (· ≠ ':')).reverse

def interfaceFailure [Digest] (edges : List LabEdge) (interface : LabInterface) :
    Option FailureScenario :=
  let dependentEdges := edges.filter fun edge =>
    edge.fromNodeId = interface.deviceId
      && (edge.fromInterface.any fun name => !name.isEmpty && shortName name = interface.name)
      && (edge.kind = .l2Membership || edge.kind = .l3Gateway)
  if dependentEdges.isEmpty then none
  else
    let inferredGroups := dependentEdges.countP fun edge => edge.kind = .l2Membership
    let gatewayPaths := dependentEdges.countP fun edge => edge.kind = .l3Gateway
    let consequence (count : Nat) (what one many : Text) : List Text :=
      if count = 0 then []
      else [Text.ofNat count ++ what ++ (if count = 1 then one else many)
        ++ " observed forwarding path through this interface."]
    some {
      id := "failure-interface-" ++ labToken [interface.id]
      targetId := interface.id
      targetKind := .interface
      title := "Loss of " ++ interface.name
      confidence := .high
      consequences :=
        consequence inferredGroups " inferred attachment " "group loses its" "groups lose their"
          ++ consequence gatewayPaths " inferred gateway " "relationship loses its"
            "relationships lose their"
      affectedIds := Text.sortedSet (dependentEdges.map (·.toNodeId))
      controlImpact := "Whether SwitchOps itself uses this interface path "
        ++ "is unknown from the current evidence.".toList
      evidenceIds := Text.sortedSet (interface.evidenceIds ++ dependentEdges.flatMap (·.evidenceIds)) }

/-- The scenario for an edge. -/
def edgeFailure (devices : List LabDevice) (edges : List LabEdge) (primary : LabDevice)
    (edge : LabEdge) : FailureScenario :=
  let affected := unreached devices (labReachable primary.id edges none (some edge.id))
  { id := "failure-" ++ edge.id
    targetId := edge.id
    targetKind := if edge.kind = .routingAdjacency then .adjacency else .uplink
    title := "Loss of " ++ match edge.fromInterface with
      | none | some [] => Text.lower edge.kind.text
      | some name => name
    confidence := edge.confidence
    consequences :=
      if affected.isEmpty then
        ["The observed graph retains another path; " ++ "service failover itself is not proven.".toList]
      else [Text.ofNat affected.length ++ " graph nodes lose their observed path "
        ++ "from the primary collected device.".toList]
    affectedIds := affected
    controlImpact :=
      if affected.isEmpty then "No control-path loss is proven by the current graph."
      else "SwitchOps may lose observation/control reachability " ++ "to affected devices.".toList
    evidenceIds := edge.evidenceIds }

/-- `role.lower().replace("_", " ")`. -/
def LabRole.words (role : LabRole) : Text := Text.replace (Text.lower role.text) "_" " "

/-- The roles that a device failure is simulated for. -/
def LabRole.canFail : LabRole → Bool
  | .switch | .router | .gateway | .accessPoint => true
  | .endpoint | .unknown => false

/-- The scenario for a device. -/
def deviceFailure (devices : List LabDevice) (edges : List LabEdge) (primary device : LabDevice) :
    FailureScenario :=
  let affected := (unreached devices (labReachable primary.id edges (some device.id))).filter
    (· ≠ device.id)
  let incident := edges.filter (·.joins device.id)
  let independentlyCollected :=
    device.collectionState = .current ∨ device.collectionState = .incomplete
  let incidentConfidence := incident.map (·.confidence)
  { id := "failure-device-" ++ device.id
    targetId := device.id
    targetKind := match device.role with
      | .accessPoint => .accessPoint
      | .gateway => .gateway
      | _ => .switch
    title := "Loss of " ++
      if independentlyCollected then "a collected " ++ device.role.words
      else "an observed " ++ device.role.words ++ " relationship"
    confidence :=
      if independentlyCollected then .high
      else if incident.isEmpty || incidentConfidence.elem .unknown then .unknown
      else if incidentConfidence.elem .high then .high
      else .confirmed
    consequences :=
      if affected.isEmpty then
        ["No additional graph nodes lose their current observed or inferred path; "
          ++ "service impact beyond this relationship is unknown.".toList]
      else [Text.ofNat affected.length ++ " additional graph nodes lose their current observed "
        ++ "or inferred path from the primary collected device.".toList]
    affectedIds := affected
    controlImpact := "Control-path impact follows only the observed graph; "
      ++ "out-of-band access is unknown.".toList
    evidenceIds := Text.sortedSet (device.evidenceIds ++ incident.flatMap (·.evidenceIds)) }

def memberFailure (edge : LabEdge) : FailureScenario where
  id := "failure-member-" ++ edge.id
  targetId := edge.fromNodeId
  targetKind := .portChannelMember
  title := "Loss of port-channel member " ++ afterColon edge.fromNodeId
  confidence := .confirmed
  consequences := ["Aggregate capacity falls; forwarding continuity depends on "
    ++ "the remaining bundled members.".toList]
  affectedIds := [edge.fromNodeId]
  controlImpact := "No control-path loss is claimed unless the physical graph proves "
    ++ "this is the only member/path.".toList
  evidenceIds := edge.evidenceIds

def poeFailure [Digest] (interface : LabInterface) : FailureScenario where
  id := "failure-poe-" ++ labToken [interface.id]
  targetId := interface.id
  targetKind := .poe
  title := "Loss of PoE on " ++ interface.name
  confidence := .confirmed
  consequences := ["The currently powered attachment on " ++ "this interface loses power.".toList]
  affectedIds := [interface.id]
  controlImpact := "SwitchOps remains available unless its own observed path "
    ++ "depends on the powered attachment.".toList
  evidenceIds := interface.evidenceIds

/-- The edges that an edge failure is simulated for. -/
def failingEdges (edges : List LabEdge) : List LabEdge :=
  edges.filter fun edge => edge.kind = .physical || edge.kind = .routingAdjacency

/-- The devices that a device failure is simulated for. -/
def failingDevices (devices : List LabDevice) (primary : LabDevice) : List LabDevice :=
  devices.filter fun device => device.id ≠ primary.id && device.role.canFail

def primaryDevice (devices : List LabDevice) : Option LabDevice := devices.find? (·.primary)

/-- `_failures`. -/
def failures [Digest] (devices : List LabDevice) (interfaces : List LabInterface)
    (edges : List LabEdge) : List FailureScenario :=
  match primaryDevice devices with
  | none => []
  | some primary =>
    interfaces.filterMap (interfaceFailure edges)
      ++ (failingEdges edges).map (edgeFailure devices edges primary)
      ++ (failingDevices devices primary).map (deviceFailure devices edges primary)
      ++ (edges.filter (·.kind = .portChannelMember)).map memberFailure
      ++ (interfaces.filter fun interface => interface.poeWatts.any (0 < ·)).map poeFailure

end SwitchOps
