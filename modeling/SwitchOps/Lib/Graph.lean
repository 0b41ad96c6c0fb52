import Mathlib.Data.List.Dedup
import Mathlib.Data.List.Perm.Subperm
import Mathlib.Logic.Relation

/-!
# Breadth-first search

`search next fuel queue seen` takes the nodes of a queue one after the other and appends to it, and to
what was seen, the neighbours that were not seen yet. Started at one node with enough fuel for all
nodes there are, it has seen exactly what can be reached (`mem_reachable_iff`).
-/

namespace Graph

open Relation

variable {α : Type}

/-- One step from a node to a neighbour. -/
def Adjacent (next : α → List α) (a b : α) : Prop := b ∈ next a

section search

variable [DecidableEq α]

/-- The loop: the neighbours of a node are without duplicates. -/
def search (next : α → List α) : Nat → List α → List α → List α
  | 0, _, seen => seen
  | _ + 1, [], seen => seen
  | fuel + 1, node :: queue, seen =>
    let fresh := (next node).dedup.filter fun neighbor => neighbor ∉ seen
    search next fuel (queue ++ fresh) (seen ++ fresh)

/-- What can be reached from `start` in a graph with the given nodes. -/
def reachable (next : α → List α) (nodes : List α) (start : α) : List α :=
  search next (nodes.dedup.length + 1) [start] [start]

variable {next : α → List α} {nodes queue seen : List α} {start a : α} {fuel : Nat}

/-- The invariant of the loop: what was seen can be reached, and whatever neighbours a seen node has
were seen too, unless the node waits in the queue. -/
structure Searching (next : α → List α) (start : α) (queue seen : List α) : Prop where
  sound : ∀ a ∈ seen, ReflTransGen (Adjacent next) start a
  closed : ∀ a ∈ seen, a ∈ queue ∨ ∀ b ∈ next a, b ∈ seen
  queued : ∀ a ∈ queue, a ∈ seen
  nodup : seen.Nodup
  start : start ∈ seen

theorem Searching.step {node : α} (h : Searching next start (node :: queue) seen) :
    Searching next start
      (queue ++ (next node).dedup.filter fun neighbor => neighbor ∉ seen)
      (seen ++ (next node).dedup.filter fun neighbor => neighbor ∉ seen) := by
  have fresh {a : α} : a ∈ (next node).dedup.filter (fun neighbor => neighbor ∉ seen) ↔
      a ∈ next node ∧ a ∉ seen := by simp
  constructor
  · intro a ha
    rcases List.mem_append.mp ha with ha | ha
    · exact h.sound a ha
    · exact (h.sound node (h.queued node List.mem_cons_self)).tail (fresh.mp ha).1
  · intro a ha
    rcases List.mem_append.mp ha with old | new
    · rcases h.closed a old with waits | done
      · rcases List.mem_cons.mp waits with rfl | waits
        · -- the node that was taken from the queue
          refine .inr fun b hb => ?_
          by_cases known : b ∈ seen
          · exact List.mem_append_left _ known
          · exact List.mem_append_right _ (fresh.mpr ⟨hb, known⟩)
        · exact .inl (List.mem_append_left _ waits)
      · exact .inr fun b hb => List.mem_append_left _ (done b hb)
    · exact .inl (List.mem_append_right _ new)
  · intro a ha
    rcases List.mem_append.mp ha with waits | new
    · exact List.mem_append_left _ (h.queued a (List.mem_cons_of_mem _ waits))
    · exact List.mem_append_right _ new
  · refine List.nodup_append.mpr ⟨h.nodup, (List.nodup_dedup _).filter _, fun a ha b hb same => ?_⟩
    subst same
    exact (fresh.mp hb).2 ha
  · exact List.mem_append_left _ h.start

/-- With fuel for every node that is not seen and for those that wait, the loop runs to its end. -/
theorem Searching.search (h : Searching next start queue seen)
    (among : ∀ a ∈ seen, a ∈ nodes) (stays : ∀ a ∈ nodes, ∀ b ∈ next a, b ∈ nodes)
    (enough : nodes.dedup.length + queue.length ≤ fuel + seen.length) :
    Searching next start [] (search next fuel queue seen) := by
  induction fuel generalizing queue seen with
  | zero =>
    -- every node was seen, so nothing can wait
    have within : seen ⊆ nodes.dedup := fun a ha => List.mem_dedup.mpr (among a ha)
    have few := (List.subperm_of_subset h.nodup within).length_le
    have empty : queue = [] := List.eq_nil_of_length_eq_zero (by omega)
    subst empty
    exact h
  | succ fuel ih =>
    cases queue with
    | nil => exact h
    | cons node queue =>
      refine ih h.step (fun a ha => ?_) ?_
      · rcases List.mem_append.mp ha with old | new
        · exact among a old
        · have near : a ∈ next node := by
            simp only [List.mem_filter, List.mem_dedup] at new
            exact new.1
          exact stays node (among node (h.queued node List.mem_cons_self)) a near
      · simp only [List.length_append, List.length_cons] at enough ⊢
        omega

/-- **Breadth-first search** has seen exactly the nodes that can be reached. -/
theorem mem_reachable_iff (hstart : start ∈ nodes) (stays : ∀ a ∈ nodes, ∀ b ∈ next a, b ∈ nodes) :
    a ∈ reachable next nodes start ↔ ReflTransGen (Adjacent next) start a := by
  have first : Searching next start [start] [start] := by
    constructor
    · intro a ha
      rw [List.mem_singleton.mp ha]
    · exact fun a ha => .inl ha
    · exact fun a ha => ha
    · exact List.nodup_singleton start
    · exact List.mem_singleton_self start
  have enough : nodes.dedup.length + [start].length ≤ nodes.dedup.length + 1 + [start].length := by simp
  have done := first.search (fun a ha => List.mem_singleton.mp ha ▸ hstart) stays enough
  constructor
  · exact done.sound a
  · intro reached
    induction reached with
    | refl => exact done.start
    | tail _ next ih =>
      rcases done.closed _ ih with waits | all
      · cases waits
      · exact all _ next

end search

end Graph
