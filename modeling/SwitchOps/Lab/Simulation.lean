import SwitchOps.InterfacePolicy
import SwitchOps.Lab.Failures

/-!
# What a failure scenario says

A scenario should list the devices that the primary one reached before the failure and does not
reach after it. It does exactly if the primary one reached every device before, and no device hangs
on another edge that has the id of the failed one.
-/

namespace SwitchOps

open Relation

/-- One usable edge between two nodes. -/
def EdgeBetween (edges : List LabEdge) (a b : Text) : Prop :=
  ∃ edge ∈ edges, edge.kind.usable = true ∧
    (edge.fromNodeId = a ∧ edge.toNodeId = b ∨ edge.toNodeId = a ∧ edge.fromNodeId = b)

/-- A path of usable edges. -/
def Connects (edges : List LabEdge) : Text → Text → Prop := ReflTransGen (EdgeBetween edges)

/-- A device that is cut off when the edges `after` are left of the edges `before`. -/
def CutOff (devices : List LabDevice) (before after : List LabEdge) (start id : Text) : Prop :=
  id ∈ devices.map (·.id) ∧ Connects before start id ∧ ¬Connects after start id

/-- The edges that a failed device leaves. -/
def withoutNode (edges : List LabEdge) (id : Text) : List LabEdge := edges.filter fun edge => !edge.joins id

/-- The edges that do not have a given id. -/
def withoutId (edges : List LabEdge) (id : Text) : List LabEdge := edges.filter (·.id ≠ id)

/-- Every scenario for an edge or a device lists exactly what that failure cuts off. -/
structure SimulationExact [Digest] (devices : List LabDevice) (interfaces : List LabInterface)
    (edges : List LabEdge) (primary : LabDevice) : Prop where
  edge : ∀ edge ∈ failingEdges edges,
    edgeFailure devices edges primary edge ∈ failures devices interfaces edges ∧
      ∀ id, id ∈ (edgeFailure devices edges primary edge).affectedIds ↔
        CutOff devices edges (edges.erase edge) primary.id id
  device : ∀ device ∈ failingDevices devices primary,
    deviceFailure devices edges primary device ∈ failures devices interfaces edges ∧
      ∀ id, id ∈ (deviceFailure devices edges primary device).affectedIds ↔
        id ≠ device.id ∧ CutOff devices edges (withoutNode edges device.id) primary.id id

/-- The primary device reaches every other one that a scenario may list, and whatever it still reaches
without a failed edge it reaches without the other edges of that id too. -/
structure WellConnected (devices : List LabDevice) (edges : List LabEdge) (primary : LabDevice) : Prop where
  reached : failingEdges edges ≠ [] → ∀ device ∈ devices, Connects edges primary.id device.id
  others : ∀ failed ∈ failingDevices devices primary, ∀ device ∈ devices, device.id ≠ failed.id →
    Connects edges primary.id device.id
  twins : ∀ edge ∈ failingEdges edges, ∀ device ∈ devices,
    Connects (edges.erase edge) primary.id device.id → Connects (withoutId edges edge.id) primary.id device.id

section reachability

variable {edges edges' : List LabEdge} {start a b : Text}

theorem Connects.mono (h : Connects edges a b) (sub : ∀ edge ∈ edges, edge.kind.usable → edge ∈ edges') :
    Connects edges' a b := by
  induction h with
  | refl => exact .refl
  | tail _ last ih =>
    obtain ⟨edge, hedge, usable, ends⟩ := last
    exact ih.tail ⟨edge, sub edge hedge usable, usable, ends⟩

theorem mem_neighborsOf : b ∈ neighborsOf edges a ↔ ∃ edge ∈ edges,
    (edge.fromNodeId = a ∧ edge.toNodeId = b ∨ edge.toNodeId = a ∧ edge.fromNodeId = b) := by
  unfold neighborsOf
  rw [List.mem_flatMap]
  apply exists_congr
  intro edge
  apply and_congr_right
  intro _
  rw [List.mem_append]
  apply or_congr
  · by_cases here : edge.fromNodeId = a
    · simp [here, eq_comm]
    · simp [here]
  · by_cases here : edge.toNodeId = a
    · simp [here, eq_comm]
    · simp [here]

/-- `_reachable` finds what the edges that are left lead to. -/
theorem mem_labReachable {omittedNode omittedEdge : Option Text} :
    a ∈ labReachable start edges omittedNode omittedEdge ↔
      Connects (keptEdges edges omittedNode omittedEdge) start a := by
  have stays : ∀ a ∈ nodesOf start (keptEdges edges omittedNode omittedEdge),
      ∀ b ∈ neighborsOf (keptEdges edges omittedNode omittedEdge) a,
        b ∈ nodesOf start (keptEdges edges omittedNode omittedEdge) := by
    intro a _ b hb
    obtain ⟨edge, hedge, ends⟩ := mem_neighborsOf.mp hb
    apply List.mem_cons_of_mem
    apply List.mem_flatMap.mpr
    refine ⟨edge, hedge, ?_⟩
    rcases ends with ⟨-, rfl⟩ | ⟨-, rfl⟩
    · simp
    · simp
  have same : Graph.Adjacent (neighborsOf (keptEdges edges omittedNode omittedEdge))
      = EdgeBetween (keptEdges edges omittedNode omittedEdge) := by
    funext a b
    apply propext
    show b ∈ neighborsOf _ a ↔ _
    rw [mem_neighborsOf]
    apply exists_congr
    intro edge
    apply and_congr_right
    intro hedge
    have usable : edge.kind.usable = true := by
      simp only [keptEdges, List.mem_filter, Bool.and_eq_true] at hedge
      exact hedge.2.1.2
    simp [usable]
  have begins : start ∈ nodesOf start (keptEdges edges omittedNode omittedEdge) :=
    List.mem_cons_self
  show a ∈ Graph.reachable (neighborsOf (keptEdges edges omittedNode omittedEdge))
    (nodesOf start (keptEdges edges omittedNode omittedEdge)) start ↔ _
  rw [Graph.mem_reachable_iff begins stays, same]
  rfl

theorem mem_reached_withoutId {id : Text} :
    a ∈ labReachable start edges none (some id) ↔ Connects (withoutId edges id) start a := by
  rw [mem_labReachable]
  constructor
  · intro path
    refine path.mono fun edge hedge _ => ?_
    simp only [keptEdges, List.mem_filter, Bool.and_eq_true] at hedge
    exact List.mem_filter.mpr ⟨hedge.1, by simpa using hedge.2.1.1⟩
  · intro path
    refine path.mono fun edge hedge usable => ?_
    have ⟨member, other⟩ := List.mem_filter.mp hedge
    exact List.mem_filter.mpr ⟨member, by simpa [usable] using other⟩

theorem mem_reached_withoutNode {id : Text} :
    a ∈ labReachable start edges (some id) ↔ Connects (withoutNode edges id) start a := by
  rw [mem_labReachable]
  constructor
  · intro path
    refine path.mono fun edge hedge _ => ?_
    simp only [keptEdges, List.mem_filter, Bool.and_eq_true] at hedge
    exact List.mem_filter.mpr ⟨hedge.1, by simpa using hedge.2.2⟩
  · intro path
    refine path.mono fun edge hedge usable => ?_
    have ⟨member, apart⟩ := List.mem_filter.mp hedge
    exact List.mem_filter.mpr ⟨member, by simpa [usable] using apart⟩

end reachability

section scenarios

variable {devices : List LabDevice} {interfaces : List LabInterface} {edges : List LabEdge}
  {primary device : LabDevice} {edge : LabEdge} {id : Text}

theorem mem_unreached {reachable : List Text} :
    id ∈ unreached devices reachable ↔ id ∈ devices.map (·.id) ∧ id ∉ reachable := by
  unfold unreached
  rw [Text.mem_sortedSet, List.mem_filter]
  simp

theorem mem_edgeFailure : id ∈ (edgeFailure devices edges primary edge).affectedIds ↔
    id ∈ devices.map (·.id) ∧ ¬Connects (withoutId edges edge.id) primary.id id := by
  show id ∈ unreached devices (labReachable primary.id edges none (some edge.id)) ↔ _
  rw [mem_unreached, mem_reached_withoutId]

theorem mem_deviceFailure : id ∈ (deviceFailure devices edges primary device).affectedIds ↔
    id ≠ device.id ∧ id ∈ devices.map (·.id) ∧ ¬Connects (withoutNode edges device.id) primary.id id := by
  show id ∈ (unreached devices (labReachable primary.id edges (some device.id))).filter _ ↔ _
  rw [List.mem_filter, mem_unreached, mem_reached_withoutNode, and_comm]
  simp

/-- An edge scenario is exact for a device if and only if the device was reached before the failure,
and is not kept from the primary one by the other edges of the id alone. -/
theorem edgeFailure_exact_iff (hdevice : device ∈ devices) :
    (device.id ∈ (edgeFailure devices edges primary edge).affectedIds ↔
      CutOff devices edges (edges.erase edge) primary.id device.id) ↔
    Connects edges primary.id device.id ∧
      (Connects (edges.erase edge) primary.id device.id →
        Connects (withoutId edges edge.id) primary.id device.id) := by
  have named : device.id ∈ devices.map (·.id) := List.mem_map_of_mem hdevice
  have fewer (path : Connects (edges.erase edge) primary.id device.id) : Connects edges primary.id device.id :=
    path.mono fun _ hedge _ => List.mem_of_mem_erase hedge
  have fewest (path : Connects (withoutId edges edge.id) primary.id device.id) :
      Connects (edges.erase edge) primary.id device.id := by
    refine path.mono fun other hother _ => ?_
    obtain ⟨member, differs⟩ := List.mem_filter.mp hother
    refine (List.mem_erase_of_ne fun same => ?_).mpr member
    simp [same] at differs
  rw [mem_edgeFailure]
  unfold CutOff
  tauto

/-- The same for a device scenario. -/
theorem deviceFailure_exact_iff {failed : LabDevice} (hdevice : device ∈ devices) :
    (device.id ∈ (deviceFailure devices edges primary failed).affectedIds ↔
      device.id ≠ failed.id ∧ CutOff devices edges (withoutNode edges failed.id) primary.id device.id) ↔
    (device.id ≠ failed.id → Connects edges primary.id device.id) := by
  have named : device.id ∈ devices.map (·.id) := List.mem_map_of_mem hdevice
  have fewer (path : Connects (withoutNode edges failed.id) primary.id device.id) :
      Connects edges primary.id device.id :=
    path.mono fun _ hedge _ => List.mem_of_mem_filter hedge
  rw [mem_deviceFailure]
  unfold CutOff
  tauto

end scenarios

/-- **When the simulation is exact**: for all devices, ports and edges, and the primary device that
the scenarios start from. -/
theorem simulationExact_iff [Digest] (devices : List LabDevice) (interfaces : List LabInterface)
    (edges : List LabEdge) :
    (∀ primary, primaryDevice devices = some primary →
        SimulationExact devices interfaces edges primary) ↔
      ∀ primary, primaryDevice devices = some primary → WellConnected devices edges primary := by
  apply forall_congr'
  intro primary
  apply imp_congr_right
  intro first
  constructor
  · intro faithful
    refine ⟨fun nonempty device hdevice => ?_, fun failed hfailed device hdevice other => ?_,
      fun edge hedge device hdevice => ?_⟩
    · obtain ⟨edge, hedge⟩ := List.exists_mem_of_ne_nil _ nonempty
      exact ((edgeFailure_exact_iff hdevice).mp ((faithful.edge edge hedge).2 device.id)).1
    · exact (deviceFailure_exact_iff hdevice).mp ((faithful.device failed hfailed).2 device.id) other
    · exact ((edgeFailure_exact_iff hdevice).mp ((faithful.edge edge hedge).2 device.id)).2
  · intro connected
    refine ⟨fun edge hedge => ⟨?_, fun id => ?_⟩, fun failed hfailed => ⟨?_, fun id => ?_⟩⟩
    · simp only [failures, first, List.mem_append]
      exact .inl (.inl (.inl (.inr (List.mem_map_of_mem hedge))))
    · by_cases named : id ∈ devices.map (·.id)
      · obtain ⟨device, hdevice, rfl⟩ := List.mem_map.mp named
        exact (edgeFailure_exact_iff hdevice).mpr
          ⟨connected.reached (List.ne_nil_of_mem hedge) device hdevice,
            connected.twins edge hedge device hdevice⟩
      · rw [mem_edgeFailure]
        exact iff_of_false (fun h => named h.1) fun h => named h.1
    · simp only [failures, first, List.mem_append]
      exact .inl (.inl (.inr (List.mem_map_of_mem hfailed)))
    · by_cases named : id ∈ devices.map (·.id)
      · obtain ⟨device, hdevice, rfl⟩ := List.mem_map.mp named
        exact (deviceFailure_exact_iff hdevice).mpr fun other =>
          connected.others failed hfailed device hdevice other
      · rw [mem_deviceFailure]
        exact iff_of_false (fun h => named h.2.1) fun h => named h.2.1

/-! ### A device that was never reached -/

def corePrimary : LabDevice := { id := "core", label := "core", role := .switch, primary := true }

/-- A switch with a cable to the primary one, and a switch of which no edge is known. -/
def islandDevices : List LabDevice := [corePrimary,
  { id := "edge", label := "edge", role := .switch },
  { id := "island", label := "island", role := .switch }]

def coreCable : LabEdge where
  id := "edge-1"
  fromNodeId := "core"
  toNodeId := "edge"
  kind := .physical
  state := .proven
  confidence := .high
  detail := []

/-- The loss of the cable is said to cut off the island too. -/
theorem not_simulationExact_island :
    primaryDevice islandDevices = some corePrimary ∧ (islandDevices.map (·.id)).Nodup ∧
      "island".toList ∈ (edgeFailure islandDevices [coreCable] corePrimary coreCable).affectedIds ∧
      ¬@SimulationExact sampleDigest islandDevices [] [coreCable] corePrimary := by
  let digest := sampleDigest
  have listed : "island".toList ∈
      (edgeFailure islandDevices [coreCable] corePrimary coreCable).affectedIds := by
    decide +kernel
  refine ⟨by decide +kernel, by decide +kernel, listed, fun faithful => ?_⟩
  have cut := ((faithful.edge coreCable (by decide +kernel)).2 "island".toList).mp listed
  have reached : "island".toList ∈ labReachable corePrimary.id [coreCable] := by
    refine mem_labReachable.mpr (cut.2.1.mono fun edge hedge usable => ?_)
    simp only [List.mem_singleton] at hedge
    subst hedge
    decide +kernel
  exact absurd reached (by decide +kernel)

end SwitchOps
