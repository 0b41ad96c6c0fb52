import Mathlib.Logic.Basic

/-!
# Re-entrant locks

`RLock ι`: a lock that a thread may take again while it holds it. A thread that holds it has to
release it as often as it took it, and until then every other thread that takes it waits.

`not_deadlocked` is the rule of ordered locks: where the threads take the locks in the order of a
bounded rank, no threads wait for one another in a circle.
-/

namespace Locks

variable {ι : Type}

/-- A lock that is free, or held by its owner once and `again` more times. -/
inductive RLock (ι : Type)
  | free
  | held (owner : ι) (again : Nat)

namespace RLock

variable [DecidableEq ι]

/-- How often a thread holds the lock. -/
def depth : RLock ι → ι → Nat
  | .free, _ => 0
  | .held owner again, t => if owner = t then again + 1 else 0

/-- The lock after a thread took it; `none` where the thread waits. -/
def acquire : RLock ι → ι → Option (RLock ι)
  | .free, t => some (.held t 0)
  | .held owner again, t => if owner = t then some (.held owner (again + 1)) else none

/-- The lock after a thread released it; only a thread that holds it can. -/
def release : RLock ι → ι → Option (RLock ι)
  | .free, _ => none
  | .held owner again, t =>
    if owner = t then
      match again with
      | 0 => some .free
      | again + 1 => some (.held owner again)
    else none

variable {lock lock' : RLock ι} {t t' : ι}

@[simp] theorem depth_free : (free : RLock ι).depth t = 0 := rfl

/-- A lock is held by one thread at a time. -/
theorem eq_of_depth (h : 0 < lock.depth t) (h' : 0 < lock.depth t') : t = t' := by
  cases lock with
  | free => simp at h
  | held owner again =>
    by_cases here : owner = t
    · by_cases there : owner = t'
      · exact here.symm.trans there
      · simp [depth, there] at h'
    · simp [depth, here] at h

theorem depth_acquire (h : lock.acquire t = some lock') :
    lock'.depth t = lock.depth t + 1 ∧ ∀ t' ≠ t, lock'.depth t' = lock.depth t' := by
  cases lock with
  | free =>
    obtain rfl := Option.some.inj h
    refine ⟨by simp [depth], fun t' other => ?_⟩
    simp [depth, other.symm]
  | held owner again =>
    by_cases own : owner = t
    · subst own
      simp only [acquire, if_true, Option.some.injEq] at h
      subst h
      refine ⟨by simp [depth], fun t' other => ?_⟩
      simp [depth, other.symm]
    · simp [acquire, own] at h

theorem depth_release (h : lock.release t = some lock') :
    lock.depth t = lock'.depth t + 1 ∧ ∀ t' ≠ t, lock'.depth t' = lock.depth t' := by
  cases lock with
  | free => cases h
  | held owner again =>
    by_cases own : owner = t
    · subst own
      cases again with
      | zero =>
        simp only [release, if_true, Option.some.injEq] at h
        subst h
        refine ⟨by simp [depth], fun t' other => ?_⟩
        simp [depth, other.symm]
      | succ again =>
        simp only [release, if_true, Option.some.injEq] at h
        subst h
        refine ⟨by simp [depth], fun t' other => ?_⟩
        simp [depth, other.symm]
    · simp [release, own] at h

/-- A thread waits for a lock only while another one holds it. -/
theorem acquire_eq_none : lock.acquire t = none ↔ lock.depth t = 0 ∧ ∃ t', 0 < lock.depth t' := by
  cases lock with
  | free => simp [acquire]
  | held owner again =>
    by_cases own : owner = t
    · simp [acquire, depth, own]
    · have : 0 < (held owner again).depth owner := by simp [depth]
      simp only [acquire, own, if_false, depth, true_and, true_iff]
      exact ⟨owner, this⟩

theorem release_of_depth (h : 0 < lock.depth t) : ∃ lock', lock.release t = some lock' := by
  cases lock with
  | free => simp at h
  | held owner again =>
    by_cases own : owner = t
    · cases again with
      | zero => exact ⟨_, if_pos own⟩
      | succ again => exact ⟨_, if_pos own⟩
    · simp [depth, own] at h

end RLock

/-- **Ordered locks do not deadlock**: where a thread only waits for locks above those it holds,
there are no threads each of which waits for a lock that another of them holds. -/
theorem not_deadlocked {L : Type} {holds waits : ι → L → Prop} {rank : L → Nat} {top : Nat}
    (bounded : ∀ l, rank l ≤ top)
    (ordered : ∀ t l l', holds t l → waits t l' → rank l < rank l') {circle : ι → Prop}
    (closed : ∀ t, circle t → ∃ l t', waits t l ∧ holds t' l ∧ circle t') (t : ι) : ¬ circle t := by
  intro inside
  obtain ⟨l, t', -, holding, inside'⟩ := closed t inside
  -- by induction on how far the lock is from the top
  induction distance : top - rank l using Nat.strongRecOn generalizing t' l with
  | _ n ih =>
    obtain ⟨l', t'', waiting, holding', inside''⟩ := closed t' inside'
    have above := ordered t' l l' holding waiting
    have := bounded l'
    exact ih (top - rank l') (by omega) l' t'' holding' inside'' rfl

end Locks
