import SwitchOps.Lib.Machine

/-!
# How old the context of a change is

The cached context that a change reads: the topology, which deep observations, slow polls and aging
replace, and the health and reconciliation of the last deep observation. All jobs run one after
another on the worker. A change is such a job itself, so nothing is collected while it lasts, and the
context that it reads after its commands was collected before them (`context_predates_change`).

A collected value carries a ghost: how many configuration commands the switch had received when the
outputs that it was made of were read.
-/

namespace SwitchOps

open Machines

variable {τ η ρ : Type}

/-- A value, with the number of configuration commands sent before its outputs were read. -/
structure Stamped (α : Type) where
  value : α
  sent : Nat
  deriving DecidableEq, Repr

/-- What `apply_topology` and `apply_assurance_context` keep. -/
structure CachedContext (τ η ρ : Type) where
  topology : Option (Stamped τ) := none
  health : Option (Stamped η) := none
  reconciliation : Option (Stamped ρ) := none
  deriving DecidableEq, Repr

/-- All parts of a context were collected when no more commands than these had been sent. -/
structure CachedContext.CollectedBy (context : CachedContext τ η ρ) (sent : Nat) : Prop where
  topology : ∀ c ∈ context.topology, c.sent ≤ sent
  health : ∀ c ∈ context.health, c.sent ≤ sent
  reconciliation : ∀ c ∈ context.reconciliation, c.sent ≤ sent

theorem CachedContext.CollectedBy.mono {context : CachedContext τ η ρ} {sent sent' : Nat}
    (h : context.CollectedBy sent) (later : sent ≤ sent') : context.CollectedBy sent' where
  topology := fun c here => Nat.le_trans (h.topology c here) later
  health := fun c here => Nat.le_trans (h.health c here) later
  reconciliation := fun c here => Nat.le_trans (h.reconciliation c here) later

/-- A job of the worker. A change keeps the context that it read first; how many commands had been
sent when it began is a ghost. -/
inductive DeviceJob (τ η ρ : Type)
  | dashboard
  | slow
  | change (before : Option (CachedContext τ η ρ)) (startedAt : Nat)
  deriving DecidableEq

/-- The two contexts of a change that has read both (a ghost). -/
structure ContextRead (τ η ρ : Type) where
  before : CachedContext τ η ρ
  after : CachedContext τ η ρ
  startedAt : Nat
  sentAt : Nat
  deriving DecidableEq

/-- The cache, the worker, and the callbacks of failed slow polls, which have read the topology. -/
structure ContextSystem (τ η ρ : Type) where
  cache : CachedContext τ η ρ := {}
  sent : Nat := 0
  worker : Option (DeviceJob τ η ρ) := none
  aging : List (Stamped τ) := []
  reads : List (ContextRead τ η ρ) := []
  deriving DecidableEq

inductive ContextAction (τ η ρ : Type)
  | begin_ (job : DeviceJob τ η ρ)
  /-- A deep observation or a slow poll publishes the topology that it built. -/
  | applyTopology (topology : τ)
  | applyAssuranceContext (health : η) (reconciliation : ρ)
  /-- A change reads the context, sends a configuration command, and reads the context again. -/
  | readBefore
  | send
  | readAfter
  /-- A job ends or raises. -/
  | finish
  /-- `_record_slow_failure` reads the topology, and publishes it aged, in any thread. -/
  | beginAging
  | publishAged (i : Nat) (aged : τ → τ)

namespace ContextSystem

/-- A job as it begins. -/
def started (s : ContextSystem τ η ρ) : DeviceJob τ η ρ → DeviceJob τ η ρ
  | .dashboard => .dashboard
  | .slow => .slow
  | .change _ _ => .change none s.sent

def step (s : ContextSystem τ η ρ) : ContextAction τ η ρ → Option (ContextSystem τ η ρ)
  | .begin_ job =>
    match s.worker with
    | none => some { s with worker := some (s.started job) }
    | some _ => none
  | .applyTopology topology =>
    match s.worker with
    | some .dashboard | some .slow =>
      some { s with cache := { s.cache with topology := some ⟨topology, s.sent⟩ } }
    | _ => none
  | .applyAssuranceContext health reconciliation =>
    match s.worker with
    | some .dashboard => some { s with cache := { s.cache with
        health := some ⟨health, s.sent⟩, reconciliation := some ⟨reconciliation, s.sent⟩ } }
    | _ => none
  | .readBefore =>
    match s.worker with
    | some (.change none startedAt) =>
      some { s with worker := some (.change (some s.cache) startedAt) }
    | _ => none
  | .send =>
    match s.worker with
    | some (.change (some _) _) => some { s with sent := s.sent + 1 }
    | _ => none
  | .readAfter =>
    match s.worker with
    | some (.change (some before) startedAt) =>
      some { s with reads := ⟨before, s.cache, startedAt, s.sent⟩ :: s.reads }
    | _ => none
  | .finish =>
    match s.worker with
    | some _ => some { s with worker := none }
    | none => none
  | .beginAging =>
    match s.cache.topology with
    | some topology => some { s with aging := s.aging ++ [topology] }
    | none => none
  | .publishAged i aged =>
    match s.aging[i]? with
    | some topology => some { s with
        cache := { s.cache with topology := some { topology with value := aged topology.value } }
        aging := s.aging.eraseIdx i }
    | none => none

/-- How many commands had been sent when something could last be collected. -/
def quietSince (s : ContextSystem τ η ρ) : Nat :=
  match s.worker with
  | some (.change _ startedAt) => startedAt
  | _ => s.sent

/-- Nothing in the cache is newer than the change under way, if there is one. -/
structure Quiet (s : ContextSystem τ η ρ) : Prop where
  cached : s.cache.CollectedBy s.quietSince
  aging : ∀ c ∈ s.aging, c.sent ≤ s.quietSince
  started : s.quietSince ≤ s.sent
  unchanged : ∀ before startedAt, s.worker = some (.change (some before) startedAt) →
    s.cache.health = before.health ∧ s.cache.reconciliation = before.reconciliation
  read : ∀ read ∈ s.reads, read.after.CollectedBy read.startedAt ∧
    read.after.health = read.before.health ∧ read.after.reconciliation = read.before.reconciliation

theorem quietSince_of_busy {s : ContextSystem τ η ρ} {job : DeviceJob τ η ρ} (here : s.worker = some job)
    (other : ∀ before startedAt, job ≠ .change before startedAt) : s.quietSince = s.sent := by
  cases job with
  | change before startedAt => exact absurd rfl (other before startedAt)
  | dashboard => simp [quietSince, here]
  | slow => simp [quietSince, here]

/-- A deep observation or a slow poll may publish what it has collected. -/
theorem Quiet.publish {s : ContextSystem τ η ρ} (h : s.Quiet) {job : DeviceJob τ η ρ}
    (here : s.worker = some job) (other : ∀ before startedAt, job ≠ .change before startedAt)
    {cache : CachedContext τ η ρ} (collected : cache.CollectedBy s.sent) :
    Quiet { s with cache := cache } := by
  have since : quietSince { s with cache := cache } = s.sent := quietSince_of_busy here other
  constructor
  case cached => rw [since]; exact collected
  case aging => rw [since]; exact fun c known => Nat.le_trans (h.aging c known) h.started
  case started => exact Nat.le_of_eq since
  case unchanged =>
    intro before startedAt change
    rw [here] at change
    exact absurd (Option.some.inj change) (other _ _)
  case read => exact h.read

/-- A job begins, or ends. -/
theorem Quiet.onWorker {s : ContextSystem τ η ρ} (h : s.Quiet) {worker : Option (DeviceJob τ η ρ)}
    (since : quietSince { s with worker := worker } = s.sent)
    (fresh : ∀ before startedAt, worker ≠ some (.change (some before) startedAt)) :
    Quiet { s with worker := worker } where
  cached := by rw [since]; exact h.cached.mono h.started
  aging := by rw [since]; exact fun c known => Nat.le_trans (h.aging c known) h.started
  started := Nat.le_of_eq since
  unchanged := fun before startedAt change => absurd change (fresh before startedAt)
  read := h.read

theorem Quiet.step {s t : ContextSystem τ η ρ} (h : s.Quiet) {action : ContextAction τ η ρ}
    (taken : s.step action = some t) : t.Quiet := by
  cases action with
  | begin_ job =>
    simp only [ContextSystem.step] at taken
    split at taken
    · cases taken
      apply h.onWorker
      · cases job <;> rfl
      · intro before startedAt same
        cases job <;> cases same
    · cases taken
  | applyTopology topology =>
    simp only [ContextSystem.step] at taken
    -- the two jobs that publish one
    split at taken
    case h_1 here | h_2 here =>
      cases taken
      apply h.publish here (fun _ _ other => by cases other)
      have earlier := h.cached.mono h.started
      refine ⟨fun c mem => ?_, earlier.health, earlier.reconciliation⟩
      cases mem
      exact Nat.le_refl _
    case h_3 => cases taken
  | applyAssuranceContext health reconciliation =>
    simp only [ContextSystem.step] at taken
    split at taken
    case h_1 here =>
      cases taken
      apply h.publish here (fun _ _ other => by cases other)
      refine ⟨(h.cached.mono h.started).topology, fun c mem => ?_, fun c mem => ?_⟩ <;> cases mem <;>
        exact Nat.le_refl _
    case h_2 => cases taken
  | readBefore =>
    simp only [ContextSystem.step] at taken
    split at taken
    case h_1 startedAt here =>
      cases taken
      have since : s.quietSince = startedAt := by simp [quietSince, here]
      refine ⟨since ▸ h.cached, since ▸ h.aging, since ▸ h.started, ?_, h.read⟩
      intro before startedAt' same
      cases same
      exact ⟨rfl, rfl⟩
    case h_2 => cases taken
  | send =>
    simp only [ContextSystem.step] at taken
    split at taken
    case h_1 before startedAt here =>
      cases taken
      have since : quietSince { s with sent := s.sent + 1 } = s.quietSince := by simp [quietSince, here]
      refine ⟨?_, ?_, ?_, h.unchanged, h.read⟩ <;> rw [since]
      · exact h.cached
      · exact h.aging
      · exact Nat.le_trans h.started (Nat.le_succ _)
    case h_2 => cases taken
  | readAfter =>
    simp only [ContextSystem.step] at taken
    split at taken
    case h_1 before startedAt here =>
      cases taken
      have since : s.quietSince = startedAt := by simp [quietSince, here]
      refine ⟨h.cached, h.aging, h.started, h.unchanged, fun read mem => ?_⟩
      obtain rfl | earlier := List.mem_cons.mp mem
      · exact ⟨since ▸ h.cached, h.unchanged before startedAt here⟩
      · exact h.read read earlier
    case h_2 => cases taken
  | finish =>
    simp only [ContextSystem.step] at taken
    split at taken
    · cases taken
      exact h.onWorker rfl (fun _ _ same => by cases same)
    · cases taken
  | beginAging =>
    simp only [ContextSystem.step] at taken
    split at taken
    case h_1 topology here =>
      cases taken
      refine ⟨h.cached, fun c mem => ?_, h.started, h.unchanged, h.read⟩
      obtain known | new := List.mem_append.mp mem
      · exact h.aging c known
      · obtain rfl := List.mem_singleton.mp new
        exact h.cached.topology c here
    case h_2 => cases taken
  | publishAged i aged =>
    simp only [ContextSystem.step] at taken
    split at taken
    case h_1 topology here =>
      cases taken
      have old := h.aging topology (List.mem_of_getElem? here)
      refine ⟨⟨fun c mem => ?_, h.cached.health, h.cached.reconciliation⟩,
        fun c mem => h.aging c (List.mem_of_mem_eraseIdx mem), h.started, h.unchanged, h.read⟩
      cases mem
      exact old
    case h_2 => cases taken

theorem quiet_of_reaches {s : ContextSystem τ η ρ} (h : Reaches step Always {} s) : s.Quiet := by
  apply h.invariant
  case init =>
    refine ⟨⟨?_, ?_, ?_⟩, ?_, Nat.le_refl _, ?_, ?_⟩ <;> simp
  case keep => exact fun _ _ _ known _ taken => known.step taken

/-- A deep observation, and a change of one command after it. -/
def observedChange : List (ContextAction Bool Bool Bool) := [
  .begin_ .dashboard, .applyTopology true, .applyAssuranceContext true true, .finish,
  .begin_ (.change none 0), .readBefore, .send, .readAfter]

end ContextSystem

end SwitchOps
