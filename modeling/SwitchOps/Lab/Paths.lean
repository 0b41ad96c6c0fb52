import SwitchOps.Lab.Simulation
import SwitchOps.Lib.ShortestPaths

/-!
# Paths from the primary device

`_paths` of `lab_assurance.py` looks for a shortest chain of edges to every other device. It follows the edges
that `_reachable` follows, and those that are only expected, whose hops it reports as such.
`labPaths_exact` says what is reported for every graph.
-/

namespace SwitchOps

def HopState.text : HopState → Text
  | .proven => "PROVEN"
  | .inferred => "INFERRED"
  | .expected => "EXPECTED"
  | .ambiguous => "AMBIGUOUS"
  | .unknown => "UNKNOWN"

/-- `STATE_ORDER`. -/
def HopState.order : HopState → Nat
  | .proven => 0
  | .inferred => 1
  | .expected => 2
  | .ambiguous => 3
  | .unknown => 4

structure PathHop where
  nodeId : Text
  label : Text
  viaInterface : Option Text := none
  state : HopState
  evidenceIds : List Text := []
  deriving DecidableEq, Repr

structure LabPath where
  id : Text
  fromNodeId : Text
  toNodeId : Text
  state : HopState
  summary : Text
  hops : List PathHop
  evidenceIds : List Text := []
  deriving DecidableEq, Repr

/-! ## The search -/

/-- The kinds of edges that `_paths` follows. -/
def EdgeKind.followed (kind : EdgeKind) : Bool := kind ≠ .portChannelMember

/-- `adjacency[node]`, with the edges. -/
def pathNeighbors (edges : List LabEdge) (nodeId : Text) : List (Text × LabEdge) :=
  (edges.filter (·.kind.followed)).flatMap fun edge =>
    (if edge.fromNodeId = nodeId then [(edge.toNodeId, edge)] else [])
      ++ if edge.toNodeId = nodeId then [(edge.fromNodeId, edge)] else []

/-- `previous`, for a target. -/
def previousTo (edges : List LabEdge) (start target : Text) : Graph.Found Text LabEdge :=
  Graph.trace (pathNeighbors edges) target ((nodesOf start edges).dedup.length + 1) [start] [(start, none)]

/-- `max(states, key=...)`: of several weakest states the first. -/
def weakest : List HopState → HopState
  | [] => .proven
  | state :: states => states.foldl (fun best state => if best.order < state.order then state else best) state

/-- `device_map.get(node_id)`: of several devices with an id the last. -/
def labelOf (devices : List LabDevice) (nodeId : Text) : Text :=
  match devices.reverse.find? (·.id = nodeId) with
  | some device => device.label
  | none => nodeId

/-- The hop to a node, over an edge. -/
def hopTo (devices : List LabDevice) (nodeId : Text) (edge : LabEdge) : PathHop where
  nodeId := nodeId
  label := labelOf devices nodeId
  viaInterface := if edge.toNodeId = nodeId then edge.toInterface else edge.fromInterface
  state := edge.state
  evidenceIds := edge.evidenceIds

/-- The path to a target. -/
def labPath [Digest] (devices : List LabDevice) (edges : List LabEdge) (primary target : LabDevice) : LabPath :=
  let previous := previousTo edges primary.id target.id
  if (Dict.get? previous target.id).isNone then {
    id := "path-" ++ labToken [primary.id, target.id]
    fromNodeId := primary.id
    toNodeId := target.id
    state := .unknown
    summary := "No evidence-backed path connects these nodes."
    hops := [
      { nodeId := primary.id, label := primary.label, state := .proven },
      { nodeId := target.id, label := target.label, state := .unknown }] }
  else
    let chain := Graph.backtrack previous primary.id previous.length target.id
    let pathState := weakest (chain.map (·.2.state))
    { id := "path-" ++ labToken [primary.id, target.id]
      fromNodeId := primary.id
      toNodeId := target.id
      state := pathState
      summary := Text.ofNat chain.length ++ " evidence-backed hops; weakest hop is " ++ pathState.text ++ "."
      hops := { nodeId := primary.id, label := labelOf devices primary.id, state := .proven } ::
        chain.map fun hop => hopTo devices hop.1 hop.2
      evidenceIds := Text.sortedSet (chain.flatMap (·.2.evidenceIds)) }

/-- The device that the paths begin at: the primary one, or else the first. -/
def pathOrigin (devices : List LabDevice) : Option LabDevice := (primaryDevice devices).or devices.head?

/-- `_paths`. -/
def labPaths [Digest] (devices : List LabDevice) (edges : List LabEdge) : List LabPath :=
  match pathOrigin devices with
  | none => []
  | some primary => (devices.filter (·.id ≠ primary.id)).map (labPath devices edges primary)

/-! ## Chains -/

/-- A chain of hops over edges of the given kinds. -/
inductive HopChain (kinds : EdgeKind → Bool) (edges : List LabEdge) (start : Text) : List (Text × LabEdge) → Text → Prop
  | nil : HopChain kinds edges start [] start
  | concat {chain : List (Text × LabEdge)} {a b : Text} {edge : LabEdge} : HopChain kinds edges start chain a →
      edge ∈ edges → kinds edge.kind = true →
      (edge.fromNodeId = a ∧ edge.toNodeId = b ∨ edge.toNodeId = a ∧ edge.fromNodeId = b) →
      HopChain kinds edges start (chain ++ [(b, edge)]) b

section chains

variable {kinds kinds' : EdgeKind → Bool} {edges : List LabEdge} {start target a b : Text} {edge : LabEdge}
  {chain : List (Text × LabEdge)}

theorem HopChain.mono (h : HopChain kinds edges start chain a)
    (weaker : ∀ edge ∈ edges, kinds edge.kind = true → kinds' edge.kind = true) :
    HopChain kinds' edges start chain a := by
  induction h with
  | nil => exact .nil
  | concat _ here kind ends ih => exact ih.concat here (weaker _ here kind) ends

theorem HopChain.eq_start (h : HopChain kinds edges start chain a) (empty : chain = []) : a = start := by
  cases h with
  | nil => rfl
  | concat => simp at empty

theorem mem_pathNeighbors : (b, edge) ∈ pathNeighbors edges a ↔ edge ∈ edges ∧ edge.kind.followed = true ∧
    (edge.fromNodeId = a ∧ edge.toNodeId = b ∨ edge.toNodeId = a ∧ edge.fromNodeId = b) := by
  have ends (other : LabEdge) : ((b, edge) ∈ (if other.fromNodeId = a then [(other.toNodeId, other)] else [])
      ++ if other.toNodeId = a then [(other.fromNodeId, other)] else []) ↔ edge = other ∧
        (edge.fromNodeId = a ∧ edge.toNodeId = b ∨ edge.toNodeId = a ∧ edge.fromNodeId = b) := by
    rw [List.mem_append]
    constructor
    · rintro (here | here)
      · split at here
        · next first =>
          cases List.mem_singleton.mp here
          exact ⟨rfl, .inl ⟨first, rfl⟩⟩
        · cases here
      · split at here
        · next second =>
          cases List.mem_singleton.mp here
          exact ⟨rfl, .inr ⟨second, rfl⟩⟩
        · cases here
    · rintro ⟨rfl, ⟨first, rfl⟩ | ⟨second, rfl⟩⟩
      · rw [if_pos first]
        exact .inl List.mem_cons_self
      · rw [if_pos second]
        exact .inr List.mem_cons_self
  unfold pathNeighbors
  rw [List.mem_flatMap]
  constructor
  · rintro ⟨other, here, among⟩
    obtain ⟨rfl, ends⟩ := (ends other).mp among
    obtain ⟨here, followed⟩ := List.mem_filter.mp here
    exact ⟨here, followed, ends⟩
  · rintro ⟨here, followed, joins⟩
    exact ⟨edge, List.mem_filter.mpr ⟨here, followed⟩, (ends edge).mpr ⟨rfl, joins⟩⟩

/-- A path of the search is a chain of the edges that are followed. -/
theorem walk_iff : Graph.Walk (pathNeighbors edges) start chain a ↔ HopChain EdgeKind.followed edges start chain a := by
  constructor
  · intro walk
    induction walk with
    | nil => exact .nil
    | concat _ last ih =>
      obtain ⟨here, followed, ends⟩ := mem_pathNeighbors.mp last
      exact ih.concat here followed ends
  · intro chain
    induction chain with
    | nil => exact .nil
    | concat _ here followed ends ih => exact ih.concat (mem_pathNeighbors.mpr ⟨here, followed, ends⟩)

/-- The usable edges connect what a chain of them does. -/
theorem connects_iff_hopChain : Connects edges start a ↔ ∃ chain, HopChain EdgeKind.usable edges start chain a := by
  constructor
  · intro path
    induction path with
    | refl => exact ⟨[], .nil⟩
    | tail _ last ih =>
      obtain ⟨chain, before⟩ := ih
      obtain ⟨edge, here, usable, ends⟩ := last
      exact ⟨chain ++ [(_, edge)], before.concat here usable ends⟩
  · rintro ⟨chain, hops⟩
    induction hops with
    | nil => exact .refl
    | concat _ here usable ends ih => exact ih.tail ⟨_, here, usable, ends⟩

theorem mem_labReachable_iff :
    a ∈ labReachable start edges ↔ ∃ chain, HopChain EdgeKind.usable edges start chain a := by
  rw [mem_labReachable, ← connects_iff_hopChain]
  constructor
  · intro path
    refine path.mono fun edge here _ => ?_
    exact (List.mem_filter.mp here).1
  · intro path
    refine path.mono fun edge here usable => List.mem_filter.mpr ⟨here, ?_⟩
    simp [usable]

/-- The search finds a target just if a chain leads to it, and then a shortest one. -/
theorem previousTo_spec : ((Dict.get? (previousTo edges start target) target).isSome ↔
      ∃ chain, HopChain EdgeKind.followed edges start chain target) ∧
    ((Dict.get? (previousTo edges start target) target).isSome →
      HopChain EdgeKind.followed edges start
        (Graph.backtrack (previousTo edges start target) start (previousTo edges start target).length target) target ∧
      ∀ chain, HopChain EdgeKind.followed edges start chain target →
        (Graph.backtrack (previousTo edges start target) start (previousTo edges start target).length target).length
          ≤ chain.length) := by
  have stays : ∀ a ∈ nodesOf start edges, ∀ b edge, (b, edge) ∈ pathNeighbors edges a → b ∈ nodesOf start edges := by
    intro a _ b edge near
    obtain ⟨here, -, ends⟩ := mem_pathNeighbors.mp near
    refine List.mem_cons_of_mem _ (List.mem_flatMap.mpr ⟨edge, here, ?_⟩)
    rcases ends with ⟨-, rfl⟩ | ⟨-, rfl⟩
    · simp
    · simp
  have searched := @Graph.trace_spec _ _ _ (pathNeighbors edges) start target (nodesOf start edges)
    List.mem_cons_self stays
  simp only [walk_iff] at searched
  exact searched

end chains

/-! ## What is reported -/

/-- A state of some hops that none of them is weaker than. -/
structure WeakestOf (states : List HopState) (state : HopState) : Prop where
  among : state ∈ states
  weakest : ∀ other ∈ states, other.order ≤ state.order

theorem weakestOf_weakest {states : List HopState} (nonempty : states ≠ []) : WeakestOf states (weakest states) := by
  cases states with
  | nil => exact absurd rfl nonempty
  | cons state states =>
    rw [weakest]
    clear nonempty
    induction states generalizing state with
    | nil => exact ⟨List.mem_singleton_self state, by simp⟩
    | cons next states ih =>
      rw [List.foldl_cons]
      split
      · next weaker =>
        obtain ⟨among, most⟩ := ih next
        refine ⟨List.mem_cons_of_mem _ among, fun other here => ?_⟩
        rcases List.mem_cons.mp here with rfl | here
        · have := most next List.mem_cons_self
          omega
        · exact most other here
      · next stronger =>
        obtain ⟨among, most⟩ := ih state
        refine ⟨?_, fun other here => ?_⟩
        · rcases List.mem_cons.mp among with first | among
          · rw [first]
            exact List.mem_cons_self
          · exact List.mem_cons_of_mem _ (List.mem_cons_of_mem _ among)
        · have least := most state List.mem_cons_self
          rcases List.mem_cons.mp here with rfl | here
          · exact least
          · rcases List.mem_cons.mp here with rfl | here
            · omega
            · exact most other (List.mem_cons_of_mem _ here)

/-- Only hops that are all proven have a proven weakest state. -/
theorem WeakestOf.proven {states : List HopState} (h : WeakestOf states .proven) :
    ∀ state ∈ states, state = .proven := by
  intro state here
  have least := h.weakest state here
  cases state with
  | proven => rfl
  | _ => exact absurd least (by decide)

/-- What is reported for a path from a start: a shortest chain with the weakest of its states, if any chain of the
edges that are followed leads there, and an unknown path otherwise. -/
structure PathExact (edges : List LabEdge) (start : Text) (path : LabPath) : Prop where
  origin : path.fromNodeId = start
  chain : (∃ chain, HopChain EdgeKind.followed edges start chain path.toNodeId) →
    ∃ chain, HopChain EdgeKind.followed edges start chain path.toNodeId ∧
      (∀ other, HopChain EdgeKind.followed edges start other path.toNodeId → chain.length ≤ other.length) ∧
      path.hops.map (fun hop => (hop.nodeId, hop.state)) =
        (start, .proven) :: chain.map (fun hop => (hop.1, hop.2.state)) ∧
      WeakestOf (chain.map (·.2.state)) path.state ∧
      (path.state = .proven → ∀ hop ∈ chain, hop.2.state = .proven)
  unknown : (¬∃ chain, HopChain EdgeKind.followed edges start chain path.toNodeId) →
    path.state = .unknown ∧
      path.hops.map (fun hop => (hop.nodeId, hop.state)) = [(start, .proven), (path.toNodeId, .unknown)]
  reachable : path.toNodeId ∈ labReachable start edges ↔
    ∃ chain, HopChain EdgeKind.usable edges start chain path.toNodeId
  unexpected : (∀ edge ∈ edges, edge.kind ≠ .expected) →
    ((∃ chain, HopChain EdgeKind.followed edges start chain path.toNodeId) ↔
      path.toNodeId ∈ labReachable start edges)

theorem followed_iff_usable {edges : List LabEdge} {start a : Text} {chain : List (Text × LabEdge)}
    (unexpected : ∀ edge ∈ edges, edge.kind ≠ .expected) :
    HopChain EdgeKind.followed edges start chain a ↔ HopChain EdgeKind.usable edges start chain a := by
  constructor
  · intro hops
    refine hops.mono fun edge here followed => ?_
    have known := unexpected edge here
    generalize edge.kind = kind at followed known
    cases kind with
    | portChannelMember => cases followed
    | expected => exact absurd rfl known
    | _ => rfl
  · intro hops
    refine hops.mono fun edge _ usable => ?_
    generalize edge.kind = kind at usable
    cases kind with
    | portChannelMember => cases usable
    | _ => rfl

theorem labPath_exact [Digest] (devices : List LabDevice) (edges : List LabEdge) {primary target : LabDevice}
    (apart : target.id ≠ primary.id) : PathExact edges primary.id (labPath devices edges primary target) := by
  obtain ⟨found_iff, found⟩ := @previousTo_spec edges primary.id target.id
  have toNode : (labPath devices edges primary target).toNodeId = target.id := by
    unfold labPath
    dsimp only
    split <;> rfl
  have reachable : target.id ∈ labReachable primary.id edges ↔
      ∃ chain, HopChain EdgeKind.usable edges primary.id chain target.id := mem_labReachable_iff
  refine ⟨?_, ?_, ?_, toNode ▸ reachable, ?_⟩
  · unfold labPath
    dsimp only
    split <;> rfl
  · rw [toNode]
    intro connected
    have seen := found_iff.mpr connected
    obtain ⟨hops, shortest⟩ := found seen
    refine ⟨_, hops, shortest, ?_⟩
    have some_ : Graph.backtrack (previousTo edges primary.id target.id) primary.id
        (previousTo edges primary.id target.id).length target.id ≠ [] := fun none => apart (hops.eq_start none)
    have most := weakestOf_weakest (mt (List.map_eq_nil_iff (f := fun hop : Text × LabEdge => hop.2.state)).mp some_)
    unfold labPath
    dsimp only
    rw [if_neg (by rw [Option.isNone_iff_eq_none, ← Option.not_isSome_iff_eq_none]; exact not_not.mpr seen)]
    refine ⟨?_, most, fun proven => ?_⟩
    · simp [hopTo]
    · dsimp only at proven
      rw [proven] at most
      exact List.forall_mem_map.mp most.proven
  · rw [toNode]
    intro apart'
    have unseen := mt found_iff.mp apart'
    unfold labPath
    dsimp only
    rw [if_pos (by rwa [Option.isNone_iff_eq_none, ← Option.not_isSome_iff_eq_none])]
    exact ⟨rfl, rfl⟩
  · rw [toNode]
    intro unexpected
    rw [reachable]
    simp only [followed_iff_usable unexpected]

/-- **Paths**: there is one to every device but the one they begin at, in the order of the devices, and each says
what the graph says. -/
theorem labPaths_exact [Digest] {devices : List LabDevice} (edges : List LabEdge) {primary : LabDevice}
    (origin : pathOrigin devices = some primary) :
    (labPaths devices edges).map (·.toNodeId) = (devices.map (·.id)).filter (· ≠ primary.id) ∧
      ∀ path ∈ labPaths devices edges, PathExact edges primary.id path := by
  have listed : labPaths devices edges
      = (devices.filter (·.id ≠ primary.id)).map (labPath devices edges primary) := by
    rw [labPaths, origin]
  rw [listed]
  constructor
  · rw [List.map_map, List.filter_map]
    refine List.map_congr_left fun target _ => ?_
    rw [Function.comp_apply, labPath]
    dsimp only
    split <;> rfl
  · intro path here
    obtain ⟨target, among, rfl⟩ := List.mem_map.mp here
    exact labPath_exact devices edges (by simpa using (List.mem_filter.mp among).2)

/-! ## An expected edge -/

/-- Two switches. -/
def switchPair : List LabDevice := [
  { id := "sw-a", label := "sw-a", role := .switch, primary := true },
  { id := "sw-b", label := "sw-b", role := .switch }]

/-- The cable between them is only expected. -/
def expectedCable : LabEdge where
  id := "edge-1"
  fromNodeId := "sw-a"
  toNodeId := "sw-b"
  kind := .expected
  state := .expected
  confidence := .unknown
  detail := "Intended."

theorem labPaths_exact_expected :
    (@labPaths sampleDigest switchPair [expectedCable]).map (·.toNodeId)
        = (switchPair.map (·.id)).filter (· ≠ ("sw-a" : Text)) ∧
      ∀ path ∈ @labPaths sampleDigest switchPair [expectedCable], PathExact [expectedCable] "sw-a" path :=
  @labPaths_exact sampleDigest switchPair [expectedCable] _ rfl

/-- A path is reported, though the other search does not reach its end. -/
theorem expected_path_reported : ∃ _ : Digest, ¬∀ (devices : List LabDevice) (edges : List LabEdge)
    (primary : LabDevice), (devices.map (·.id)).Nodup → pathOrigin devices = some primary →
      ∀ path ∈ labPaths devices edges, path.toNodeId ∉ labReachable primary.id edges → path.state = .unknown := by
  refine ⟨sampleDigest, fun claimed => ?_⟩
  have unknown := claimed switchPair [expectedCable] _ (by decide) rfl
  revert unknown
  decide +kernel

end SwitchOps
