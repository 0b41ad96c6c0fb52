import Mathlib.Algebra.Order.BigOperators.Group.List
import Mathlib.Tactic.Ring

/-!
# Counters that wrap

Counters that count modulo `M` and are sampled twice: how much each has increased, if it wrapped at most once, and what
that makes of their sum.
-/

namespace Wrapping

variable (M : Int)

/-- By how much counters have increased in all, modulo `M` each. -/
def increase (before after : List Int) : Int := (List.zipWith (fun b a => (a - b) % M) before after).sum

/-- How many counters have wrapped. -/
def wraps (before after : List Int) : Nat := (List.zipWith Prod.mk before after).countP fun entry => entry.2 < entry.1

variable {M}

/-- The increase of one counter. -/
theorem sub_emod_eq {b a : Int} (hb : 0 ≤ b ∧ b < M) (ha : 0 ≤ a ∧ a < M) :
    (a - b) % M = a - b + if a < b then M else 0 := by
  split
  · rw [← Int.add_emod_right, Int.emod_eq_of_lt]
    · omega
    · omega
  · rw [Int.emod_eq_of_lt]
    · omega
    · omega
    · omega

theorem increase_nonneg (positive : 0 < M) (before after : List Int) : 0 ≤ increase M before after := by
  refine List.sum_nonneg fun amount here => ?_
  obtain ⟨b, -, a, -, rfl⟩ : ∃ b ∈ before, ∃ a ∈ after, (a - b) % M = amount := by
    obtain ⟨i, hi, rfl⟩ := List.mem_iff_getElem.mp here
    rw [List.getElem_zipWith]
    exact ⟨_, List.getElem_mem _, _, List.getElem_mem _, rfl⟩
  exact Int.emod_nonneg _ (by omega)

/-- **Sums of wrapping counters**: each wrap takes `M` from the sum. -/
theorem increase_eq {before after : List Int} (lengths : before.length = after.length)
    (hb : ∀ b ∈ before, 0 ≤ b ∧ b < M) (ha : ∀ a ∈ after, 0 ≤ a ∧ a < M) :
    increase M before after = after.sum - before.sum + M * wraps before after := by
  induction before generalizing after with
  | nil =>
    cases after with
    | nil => simp [increase, wraps]
    | cons a after => cases lengths
  | cons b before ih =>
    cases after with
    | nil => cases lengths
    | cons a after =>
      rw [List.forall_mem_cons] at hb ha
      have rest := ih (Nat.succ.inj lengths) hb.2 ha.2
      rw [increase, List.zipWith_cons_cons, List.sum_cons, ← increase, rest, sub_emod_eq hb.1 ha.1, List.sum_cons,
        List.sum_cons, wraps, wraps, List.zipWith_cons_cons, List.countP_cons]
      by_cases wrapped : a < b
      · simp only [wrapped, decide_true, if_true]
        push_cast
        ring
      · simp only [wrapped, decide_false, if_false, Bool.false_eq_true]
        push_cast
        ring

end Wrapping
