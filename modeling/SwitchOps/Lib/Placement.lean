import Mathlib.Logic.ExistsUnique
import Mathlib.Tactic.ByContra

/-!
# Items that are in exactly one place

Items `κ` that are handed from one place `π` to the next, such as messages, tokens or jobs.
`holds p k` says that the place `p` holds the item `k`; nothing is lost and nothing is doubled if
every item is in exactly one place. An item may change its place, and then only that item and the
two places concerned have to be looked at.
-/

namespace Placement

variable {π κ : Type}

/-- Every item is in exactly one place. -/
def Placed (holds : π → κ → Prop) : Prop := ∀ k, ∃! p, holds p k

variable {holds holds' : π → κ → Prop}

theorem Placed.unique (h : Placed holds) {p q : π} {k : κ} (hp : holds p k) (hq : holds q k) :
    p = q :=
  (h k).unique hp hq

theorem Placed.congr (h : Placed holds) (same : ∀ p k, holds' p k ↔ holds p k) :
    Placed holds' := by
  intro k
  obtain ⟨p, here, only⟩ := h k
  exact ⟨p, (same p k).mpr here, fun q hq => only q ((same q k).mp hq)⟩

/-- One item goes from the place `old` to the place `new`. -/
theorem Placed.move (h : Placed holds) {old new : π} {k : κ} (was : holds old k)
    (left : ¬ holds' old k) (arrived : holds' new k)
    (others : ∀ p l, l ≠ k ∨ p ≠ old ∧ p ≠ new → (holds' p l ↔ holds p l)) : Placed holds' := by
  intro l
  by_cases moved : l = k
  · subst moved
    refine ⟨new, arrived, fun p hp => ?_⟩
    by_contra notNew
    by_cases wasOld : p = old
    · exact left (wasOld ▸ hp)
    · exact wasOld (h.unique ((others p l (.inr ⟨wasOld, notNew⟩)).mp hp) was)
  · obtain ⟨p, here, only⟩ := h l
    refine ⟨p, (others p l (.inl moved)).mpr here, fun q hq => ?_⟩
    exact only q ((others q l (.inl moved)).mp hq)

end Placement
