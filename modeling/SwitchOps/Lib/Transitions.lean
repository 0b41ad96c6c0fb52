import Mathlib.Data.List.Basic

/-!
# The transitions of a quantity

A quantity is looked at again and again. `transitions` lists the changes that are seen: the value
before and the value after, whenever the two differ. They form a `Chained` list from the first value
to the last one.
-/

namespace Transitions

variable {β : Type} [DecidableEq β]

/-- The transitions of a quantity that is `b` at first and is then seen to have the given values. -/
def transitions : β → List β → List (β × β)
  | _, [] => []
  | b, v :: vs => if b = v then transitions b vs else (b, v) :: transitions v vs

/-- Every transition changes the value, and starts where the one before it ended. -/
inductive Chained {β : Type} : β → List (β × β) → β → Prop
  | nil (b : β) : Chained b [] b
  | cons {b v e : β} {rest : List (β × β)} (changed : b ≠ v) (further : Chained v rest e) :
      Chained b ((b, v) :: rest) e

/-- The value seen last. -/
def lastSeen {β : Type} (b : β) (vs : List β) : β := vs.getLast?.getD b

omit [DecidableEq β] in
@[simp] theorem lastSeen_nil (b : β) : lastSeen b [] = b := rfl

omit [DecidableEq β] in
@[simp] theorem lastSeen_cons (b v : β) (vs : List β) : lastSeen b (v :: vs) = lastSeen v vs := by
  simp [lastSeen, List.getLast?_cons]

omit [DecidableEq β] in
@[simp] theorem lastSeen_concat (b v : β) (vs : List β) : lastSeen b (vs ++ [v]) = v := by
  simp [lastSeen]

omit [DecidableEq β] in
theorem lastSeen_map {γ : Type} (f : β → γ) (b : β) (vs : List β) :
    lastSeen (f b) (vs.map f) = f (lastSeen b vs) := by
  induction vs generalizing b with
  | nil => rfl
  | cons v vs ih => simpa using ih v

/-- The transitions lead from the first value to the last one. -/
theorem chained_transitions (b : β) (vs : List β) : Chained b (transitions b vs) (lastSeen b vs) := by
  induction vs generalizing b with
  | nil => exact .nil b
  | cons v vs ih =>
    rw [transitions, lastSeen_cons]
    split
    · next same => exact same ▸ ih b
    · next changed => exact .cons changed (ih v)

/-- One more look adds the transition it reveals. -/
theorem transitions_concat (b v : β) (vs : List β) :
    transitions b (vs ++ [v]) =
      transitions b vs ++ if lastSeen b vs = v then [] else [(lastSeen b vs, v)] := by
  induction vs generalizing b with
  | nil => rfl
  | cons w vs ih =>
    rw [List.cons_append, transitions, transitions, lastSeen_cons]
    split
    · next same => rw [ih, same]
    · rw [ih, List.cons_append]

end Transitions
