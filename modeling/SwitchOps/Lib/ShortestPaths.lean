import SwitchOps.Lib.Dict
import SwitchOps.Lib.Graph

/-!
# Shortest paths

A breadth-first search that remembers of every node it finds which node and which edge led there. `trace`
stops as soon as the target is found, and `backtrack` reads the path off what was remembered. The invariant
`Tracing` gives every node found its distance from the start: what waits in the queue is sorted by it, and
differs in it by one at most (`trace_spec`).
-/

namespace Graph

variable {α ε : Type}

/-- A path: the nodes after the first one, each with the edge that leads to it. -/
inductive Walk (next : α → List (α × ε)) (start : α) : List (α × ε) → α → Prop
  | nil : Walk next start [] start
  | concat {hops : List (α × ε)} {a b : α} {e : ε} : Walk next start hops a → (b, e) ∈ next a →
      Walk next start (hops ++ [(b, e)]) b

section trace

variable [DecidableEq α]

/-- What led to each node that was found; nothing led to the start. -/
abbrev Found (α ε : Type) := Dict α (Option (α × ε))

/-- The loop over the neighbours of a node. -/
def visit (node : α) (found : Found α ε) (queue : List α) : List (α × ε) → Found α ε × List α
  | [] => (found, queue)
  | (neighbor, edge) :: rest =>
    if (Dict.get? found neighbor).isSome then visit node found queue rest
    else visit node (Dict.set found neighbor (some (node, edge))) (queue ++ [neighbor]) rest

/-- The loop over the queue. -/
def trace (next : α → List (α × ε)) (target : α) : Nat → List α → Found α ε → Found α ε
  | 0, _, found => found
  | _ + 1, [], found => found
  | fuel + 1, node :: queue, found =>
    if (Dict.get? found target).isSome then found
    else
      let visited := visit node found queue (next node)
      trace next target fuel visited.2 visited.1

/-- The path to a node, followed back to the start. -/
def backtrack (found : Found α ε) (start : α) : Nat → α → List (α × ε)
  | 0, _ => []
  | fuel + 1, cursor =>
    if cursor = start then []
    else match Dict.get? found cursor with
      | some (some (prior, edge)) => backtrack found start fuel prior ++ [(cursor, edge)]
      | _ => []

/-- The neighbours of a node that were new. -/
structure Visited (node : α) (found : Found α ε) (queue : List α) (adjacent : List (α × ε)) (fresh : List α)
    (visited : Found α ε × List α) : Prop where
  appended : visited.2 = queue ++ fresh
  length : (Dict.keys visited.1).length = (Dict.keys found).length + fresh.length
  nodup : (Dict.keys found).Nodup → (Dict.keys visited.1).Nodup
  new : ∀ b ∈ fresh, Dict.get? found b = none ∧
    ∃ e, (b, e) ∈ adjacent ∧ Dict.get? visited.1 b = some (some (node, e))
  kept : ∀ b, b ∉ fresh → Dict.get? visited.1 b = Dict.get? found b
  all : ∀ b e, (b, e) ∈ adjacent → (Dict.get? visited.1 b).isSome

theorem visit_spec (node : α) (found : Found α ε) (queue : List α) (adjacent : List (α × ε)) :
    ∃ fresh, Visited node found queue adjacent fresh (visit node found queue adjacent) := by
  induction adjacent generalizing found queue with
  | nil =>
    exact ⟨[], by simp [visit], by simp [visit], id, by simp, fun _ _ => rfl, by simp⟩
  | cons step rest ih =>
    obtain ⟨neighbor, edge⟩ := step
    by_cases known : (Dict.get? found neighbor).isSome
    · obtain ⟨fresh, visited⟩ := ih found queue
      rw [visit, if_pos known]
      refine ⟨fresh, visited.appended, visited.length, visited.nodup, ?_, visited.kept, ?_⟩
      · intro b new
        obtain ⟨unknown, e, among, led⟩ := visited.new b new
        exact ⟨unknown, e, List.mem_cons_of_mem _ among, led⟩
      · intro b e among
        rcases List.mem_cons.mp among with same | among
        · cases same
          by_cases new : neighbor ∈ fresh
          · obtain ⟨-, e, -, led⟩ := visited.new neighbor new
            rw [led]
            rfl
          · rw [visited.kept neighbor new]
            exact known
        · exact visited.all b e among
    · obtain ⟨fresh, visited⟩ := ih (Dict.set found neighbor (some (node, edge))) (queue ++ [neighbor])
      rw [visit, if_neg known]
      have unknown : Dict.get? found neighbor = none := by simpa using known
      have absent : neighbor ∉ Dict.keys found := fun among => known (Dict.get?_isSome_iff.mpr among)
      have once : neighbor ∉ fresh := by
        intro new
        have none := (visited.new neighbor new).1
        rw [Dict.get?_set_self] at none
        cases none
      refine ⟨neighbor :: fresh, ?_, ?_, ?_, ?_, ?_, ?_⟩
      · rw [visited.appended, List.append_assoc]
        rfl
      · rw [visited.length, Dict.keys_set, if_neg absent, List.length_append, List.length_cons]
        simp only [List.length_cons, List.length_nil]
        omega
      · exact fun nodup => visited.nodup (Dict.nodup_keys_set nodup _ _)
      · intro b new
        rcases List.mem_cons.mp new with rfl | new
        · refine ⟨unknown, edge, List.mem_cons_self, ?_⟩
          rw [visited.kept b once, Dict.get?_set_self]
        · obtain ⟨unknown, e, among, led⟩ := visited.new b new
          have other : neighbor ≠ b := fun same => once (same ▸ new)
          rw [Dict.get?_set_ne _ other] at unknown
          exact ⟨unknown, e, List.mem_cons_of_mem _ among, led⟩
      · intro b old
        rw [List.mem_cons, not_or] at old
        obtain ⟨other, old⟩ := old
        rw [visited.kept b old, Dict.get?_set_ne _ (Ne.symm other)]
      · intro b e among
        rcases List.mem_cons.mp among with same | among
        · cases same
          rw [visited.kept neighbor once, Dict.get?_set_self]
          rfl
        · exact visited.all b e among

/-! ## The invariant -/

/-- Every node found has a distance from the start, by which the queue is sorted. -/
structure Tracing (next : α → List (α × ε)) (start : α) (depth : α → Nat) (queue : List α) (found : Found α ε) :
    Prop where
  origin : Dict.get? found start = some none
  only : ∀ a, Dict.get? found a = some none → a = start
  zero : depth start = 0
  parent : ∀ a p e, Dict.get? found a = some (some (p, e)) →
    (Dict.get? found p).isSome ∧ (a, e) ∈ next p ∧ depth a = depth p + 1
  queued : ∀ a ∈ queue, (Dict.get? found a).isSome
  sorted : queue.Pairwise fun a b => depth a ≤ depth b
  close : ∀ a ∈ queue, ∀ b ∈ queue, depth b ≤ depth a + 1
  expanded : ∀ a, (Dict.get? found a).isSome → a ∈ queue ∨
    ∀ b e, (b, e) ∈ next a → (Dict.get? found b).isSome ∧ depth b ≤ depth a + 1
  shortest : ∀ a hops, (Dict.get? found a).isSome → Walk next start hops a → depth a ≤ hops.length
  few : ∀ a, (Dict.get? found a).isSome → depth a < (Dict.keys found).length

variable {next : α → List (α × ε)} {start target : α} {depth : α → Nat} {queue nodes : List α} {found : Found α ε}
  {hops : List (α × ε)} {a : α}

/-- The end of a path was found within its length, or a node waits that is nearer. -/
theorem Tracing.ahead (h : Tracing next start depth queue found) (walk : Walk next start hops a) :
    ((Dict.get? found a).isSome ∧ depth a ≤ hops.length) ∨ ∃ x ∈ queue, depth x < hops.length := by
  induction walk with
  | nil => exact .inl ⟨by rw [h.origin]; rfl, by rw [h.zero]; exact Nat.zero_le _⟩
  | @concat hops a b e _ last ih =>
    rw [List.length_append, List.length_singleton]
    rcases ih with ⟨seen, near⟩ | ⟨x, waits, nearer⟩
    · rcases h.expanded a seen with waits | done
      · exact .inr ⟨a, waits, by omega⟩
      · obtain ⟨seen', near'⟩ := done b e last
        exact .inl ⟨seen', by omega⟩
    · exact .inr ⟨x, waits, by omega⟩

theorem tracing_start : Tracing next start (fun _ => 0) [start] ([(start, none)] : Found α ε) := by
  have only (a : α) : Dict.get? ([(start, none)] : Found α ε) a = if start = a then some none else none := rfl
  have known {a : α} (seen : (Dict.get? ([(start, none)] : Found α ε) a).isSome) : a = start := by
    rw [only] at seen
    split at seen
    · next same => exact same.symm
    · cases seen
  refine ⟨by rw [only, if_pos rfl], ?_, rfl, ?_, ?_, List.pairwise_singleton _ _, ?_, ?_, ?_, ?_⟩
  · intro a led
    exact known (by rw [led]; rfl)
  · intro a p e led
    rw [only] at led
    split at led
    · cases led
    · cases led
  · intro a waits
    rw [List.mem_singleton.mp waits, only, if_pos rfl]
    rfl
  · exact fun _ _ _ _ => Nat.zero_le _
  · exact fun a seen => .inl (List.mem_singleton.mpr (known seen))
  · exact fun _ _ _ _ => Nat.zero_le _
  · exact fun _ _ => Nat.one_pos

theorem Tracing.exists_walk (h : Tracing next start depth queue found) (seen : (Dict.get? found a).isSome) :
    ∃ hops, Walk next start hops a ∧ hops.length = depth a := by
  induction far : depth a generalizing a with
  | zero =>
    obtain ⟨led, known⟩ := Option.isSome_iff_exists.mp seen
    cases led with
    | none =>
      obtain rfl := h.only a known
      exact ⟨[], .nil, rfl⟩
    | some link =>
      have := (h.parent a link.1 link.2 known).2.2
      omega
  | succ n ih =>
    obtain ⟨led, known⟩ := Option.isSome_iff_exists.mp seen
    cases led with
    | none =>
      obtain rfl := h.only a known
      rw [h.zero] at far
      cases far
    | some link =>
      obtain ⟨seen', among, depths⟩ := h.parent a link.1 link.2 known
      obtain ⟨hops, walk, length⟩ := ih seen' (by omega)
      exact ⟨hops ++ [(a, link.2)], walk.concat among, by rw [List.length_append, length]; rfl⟩

/-- One node is taken from the queue and its neighbours are visited. -/
theorem Tracing.step {node : α} (h : Tracing next start depth (node :: queue) found) {fresh : List α}
    {visited : Found α ε × List α} (step : Visited node found queue (next node) fresh visited) :
    Tracing next start (fun b => if b ∈ fresh then depth node + 1 else depth b) visited.2 visited.1 := by
  have seen : (Dict.get? found node).isSome := h.queued node List.mem_cons_self
  have old {b : α} (known : (Dict.get? found b).isSome) : b ∉ fresh := by
    intro new
    rw [(step.new b new).1] at known
    cases known
  have kept {b : α} (known : (Dict.get? found b).isSome) :
      (Dict.get? visited.1 b).isSome ∧ (if b ∈ fresh then depth node + 1 else depth b) = depth b := by
    rw [step.kept b (old known), if_neg (old known)]
    exact ⟨known, rfl⟩
  have front : ∀ b ∈ queue, depth node ≤ depth b := (List.pairwise_cons.mp h.sorted).1
  have near : ∀ b ∈ queue, depth b ≤ depth node + 1 := fun b waits =>
    h.close node List.mem_cons_self b (List.mem_cons_of_mem _ waits)
  have waiting {b : α} (waits : b ∈ queue) :
      (if b ∈ fresh then depth node + 1 else depth b) = depth b :=
    (kept (h.queued b (List.mem_cons_of_mem _ waits))).2
  rw [step.appended]
  constructor
  · rw [step.kept start (old (by rw [h.origin]; rfl)), h.origin]
  · intro a led
    by_cases new : a ∈ fresh
    · obtain ⟨-, e, -, led'⟩ := step.new a new
      rw [led'] at led
      cases led
    · rw [step.kept a new] at led
      exact h.only a led
  · rw [(kept (by rw [h.origin]; rfl)).2, h.zero]
  · intro a p e led
    by_cases new : a ∈ fresh
    · obtain ⟨-, e', among, led'⟩ := step.new a new
      rw [led'] at led
      cases led
      obtain ⟨known, same⟩ := kept seen
      exact ⟨known, among, by rw [if_pos new, same]⟩
    · rw [step.kept a new] at led
      obtain ⟨known, among, depths⟩ := h.parent a p e led
      obtain ⟨known', same⟩ := kept known
      exact ⟨known', among, by rw [if_neg new, same, depths]⟩
  · intro a waits
    rcases List.mem_append.mp waits with waits | new
    · exact (kept (h.queued a (List.mem_cons_of_mem _ waits))).1
    · obtain ⟨-, e, -, led⟩ := step.new a new
      rw [led]
      rfl
  · refine List.pairwise_append.mpr ⟨?_, ?_, ?_⟩
    · refine (List.pairwise_cons.mp h.sorted).2.imp_of_mem fun {a b} ha hb le => ?_
      rwa [waiting ha, waiting hb]
    · refine (List.pairwise_of_forall fun _ _ => trivial).imp_of_mem fun {a b} ha hb _ => ?_
      apply Nat.le_of_eq
      rw [if_pos ha, if_pos hb]
    · intro a ha b hb
      rw [waiting ha, if_pos hb]
      exact near a ha
  · intro a ha b hb
    rcases List.mem_append.mp ha with ha | ha
    · rw [waiting ha]
      have least := front a ha
      rcases List.mem_append.mp hb with hb | hb
      · rw [waiting hb]
        have := near b hb
        omega
      · rw [if_pos hb]
        omega
    · rw [if_pos ha]
      rcases List.mem_append.mp hb with hb | hb
      · rw [waiting hb]
        have := near b hb
        omega
      · rw [if_pos hb]
        omega
  · intro a known
    by_cases new : a ∈ fresh
    · exact .inl (List.mem_append_right _ new)
    rw [step.kept a new] at known
    rcases h.expanded a known with waits | done
    · rcases List.mem_cons.mp waits with rfl | waits
      · -- the node that was taken from the queue
        refine .inr fun b e among => ⟨step.all b e among, ?_⟩
        rw [(kept known).2]
        by_cases late : b ∈ fresh
        · apply Nat.le_of_eq
          rw [if_pos late]
        · rw [if_neg late]
          have before : (Dict.get? found b).isSome := by
            rw [← step.kept b late]
            exact step.all b e among
          obtain ⟨hops, walk, length⟩ := h.exists_walk known
          have short := h.shortest b _ before (walk.concat among)
          rwa [List.length_append, length] at short
      · exact .inl (List.mem_append_left _ waits)
    · refine .inr fun b e among => ?_
      obtain ⟨known', le⟩ := done b e among
      rw [(kept known).2, (kept known').2]
      exact ⟨(kept known').1, le⟩
  · intro a hops known walk
    by_cases new : a ∈ fresh
    · rw [if_pos new]
      rcases h.ahead walk with ⟨before, -⟩ | ⟨x, waits, nearer⟩
      · exact absurd new (old before)
      · rcases List.mem_cons.mp waits with rfl | waits
        · exact nearer
        · have := front x waits
          omega
    · rw [if_neg new]
      rw [step.kept a new] at known
      exact h.shortest a hops known walk
  · intro a known
    rw [step.length]
    by_cases new : a ∈ fresh
    · rw [if_pos new]
      have some_ := List.length_pos_of_mem new
      have := h.few node seen
      omega
    · rw [if_neg new]
      rw [step.kept a new] at known
      exact Nat.lt_of_lt_of_le (h.few a known) (Nat.le_add_right _ _)

/-! ## The search -/

/-- The search ends with every reachable node found, unless it found the target before. -/
theorem Tracing.trace_ends (h : Tracing next start depth queue found) {fuel : Nat}
    (nodup : (Dict.keys found).Nodup) (among : ∀ a ∈ Dict.keys found, a ∈ nodes)
    (stays : ∀ a ∈ nodes, ∀ b e, (b, e) ∈ next a → b ∈ nodes)
    (enough : nodes.dedup.length + queue.length ≤ fuel + (Dict.keys found).length) :
    ∃ depth queue', Tracing next start depth queue' (trace next target fuel queue found) ∧
      (queue' = [] ∨ (Dict.get? (trace next target fuel queue found) target).isSome) := by
  induction fuel generalizing queue found depth with
  | zero =>
    -- every node was found, so nothing can wait
    have within : Dict.keys found ⊆ nodes.dedup := fun a ha => List.mem_dedup.mpr (among a ha)
    have few := (List.subperm_of_subset nodup within).length_le
    have empty : queue = [] := List.eq_nil_of_length_eq_zero (by omega)
    exact ⟨depth, queue, h, .inl empty⟩
  | succ fuel ih =>
    cases queue with
    | nil => exact ⟨depth, [], h, .inl rfl⟩
    | cons node queue =>
      rw [trace]
      by_cases done : (Dict.get? found target).isSome
      · rw [if_pos done]
        exact ⟨depth, node :: queue, h, .inr done⟩
      rw [if_neg done]
      obtain ⟨fresh, step⟩ := visit_spec node found queue (next node)
      have here : node ∈ nodes := among node (Dict.get?_isSome_iff.mp (h.queued node List.mem_cons_self))
      refine ih (h.step step) (step.nodup nodup) (fun a known => ?_) ?_
      · by_cases new : a ∈ fresh
        · obtain ⟨-, e, near, -⟩ := step.new a new
          exact stays node here a e near
        · rw [← Dict.get?_isSome_iff, step.kept a new, Dict.get?_isSome_iff] at known
          exact among a known
      · rw [step.length, step.appended, List.length_append]
        simp only [List.length_cons] at enough
        omega

theorem Tracing.backtrack (h : Tracing next start depth queue found) {fuel : Nat}
    (seen : (Dict.get? found a).isSome) (enough : depth a < fuel) :
    Walk next start (backtrack found start fuel a) a ∧ (backtrack found start fuel a).length = depth a := by
  induction fuel generalizing a with
  | zero => omega
  | succ fuel ih =>
    rw [Graph.backtrack]
    by_cases same : a = start
    · subst same
      rw [if_pos rfl]
      exact ⟨.nil, h.zero.symm⟩
    rw [if_neg same]
    obtain ⟨led, known⟩ := Option.isSome_iff_exists.mp seen
    cases led with
    | none => exact absurd (h.only a known) same
    | some link =>
      obtain ⟨p, e⟩ := link
      obtain ⟨seen', among, depths⟩ := h.parent a p e known
      obtain ⟨walk, length⟩ := ih seen' (by omega)
      rw [known]
      exact ⟨walk.concat among, by rw [List.length_append, length, depths]; rfl⟩

/-- **Shortest paths**: the target is found just if a path leads to it, and what is read back then is one, none
of which is shorter. -/
theorem trace_spec (among : start ∈ nodes) (stays : ∀ a ∈ nodes, ∀ b e, (b, e) ∈ next a → b ∈ nodes) :
    let found := trace next target (nodes.dedup.length + 1) [start] [(start, none)]
    ((Dict.get? found target).isSome ↔ ∃ hops, Walk next start hops target) ∧
      ((Dict.get? found target).isSome → Walk next start (backtrack found start found.length target) target ∧
        ∀ hops, Walk next start hops target →
          (backtrack found start found.length target).length ≤ hops.length) := by
  intro found
  have nodup : (Dict.keys ([(start, none)] : Found α ε)).Nodup := List.nodup_singleton start
  have enough : nodes.dedup.length + [start].length
      ≤ nodes.dedup.length + 1 + (Dict.keys ([(start, none)] : Found α ε)).length := by
    simp [Dict.keys]
  obtain ⟨depth, queue, h, ended⟩ : ∃ depth queue, Tracing next start depth queue found ∧
      (queue = [] ∨ (Dict.get? found target).isSome) :=
    tracing_start.trace_ends nodup (fun a known => List.mem_singleton.mp known ▸ among) stays enough
  constructor
  · constructor
    · intro seen
      obtain ⟨hops, walk, -⟩ := h.exists_walk seen
      exact ⟨hops, walk⟩
    · rintro ⟨hops, walk⟩
      rcases ended with rfl | seen
      · rcases h.ahead walk with ⟨seen, -⟩ | ⟨x, waits, -⟩
        · exact seen
        · cases waits
      · exact seen
  · intro seen
    have enough := h.few target seen
    rw [Dict.keys, List.length_map] at enough
    obtain ⟨walk, length⟩ := h.backtrack seen enough
    exact ⟨walk, fun hops other => length ▸ h.shortest target hops seen other⟩

end trace

end Graph
