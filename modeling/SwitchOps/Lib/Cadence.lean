import Mathlib.Algebra.Order.Field.Basic
import Mathlib.Tactic.Linarith
import Mathlib.Tactic.Ring

/-!
# Events at a bounded rate

A timer fires when its deadline has come, and the next deadline is a period later. Its firings are
`Spaced`: of two of them, the later comes at least a gap after the earlier. What is spaced does not
crowd a window of time (`Spaced.length_le`), and parties that take turns at spaced events have their
own turns further apart (`Spaced.turns`).
-/

namespace Cadence

variable {K : Type} [Field K] [LinearOrder K] {α σ : Type}

/-- Of two events, the later comes at least `gap` after the earlier. -/
def Spaced (gap : K) (time : α → K) (events : List α) : Prop :=
  events.Pairwise fun a b => time a + gap ≤ time b

namespace Spaced

variable {gap : K} {time : α → K} {events : List α}

theorem nil : Spaced gap time [] := List.Pairwise.nil

theorem concat (h : Spaced gap time events) {e : α} (late : ∀ a ∈ events, time a + gap ≤ time e) :
    Spaced gap time (events ++ [e]) := by
  refine List.pairwise_append.mpr ⟨h, List.pairwise_singleton _ e, fun a ha b hb => ?_⟩
  rw [List.mem_singleton.mp hb]
  exact late a ha

theorem filter (h : Spaced gap time events) (p : α → Bool) : Spaced gap time (events.filter p) :=
  List.Pairwise.sublist List.filter_sublist h

variable [IsStrictOrderedRing K]

/-- Events that come before `last`, counted from the first one. -/
theorem head_add_le {e : α} (h : Spaced gap time (e :: events)) {last : K}
    (before : ∀ a ∈ e :: events, time a ≤ last) : time e + events.length * gap ≤ last := by
  induction events generalizing e with
  | nil => simpa using before e (List.mem_singleton_self e)
  | cons a events ih =>
    have first : time e + gap ≤ time a := List.rel_of_pairwise_cons h List.mem_cons_self
    have rest := ih h.of_cons fun b hb => before b (List.mem_cons_of_mem e hb)
    rw [List.length_cons, Nat.cast_add, Nat.cast_one, add_mul, one_mul]
    linarith

/-- **A window of time holds few spaced events.** -/
theorem length_le (h : Spaced gap time events) (hgap : 0 ≤ gap) {start width : K} (hwidth : 0 ≤ width)
    (within : ∀ a ∈ events, start ≤ time a ∧ time a ≤ start + width) :
    ((events.length : K) - 1) * gap ≤ width := by
  cases events with
  | nil =>
    rw [List.length_nil, Nat.cast_zero, zero_sub, neg_mul, one_mul]
    linarith
  | cons e events =>
    have counted := h.head_add_le fun a ha => (within a ha).2
    have first := (within e List.mem_cons_self).1
    rw [List.length_cons, Nat.cast_add, Nat.cast_one, add_sub_cancel_right]
    linarith

/-- Two events with others between them. -/
theorem getElem_add_le (h : Spaced gap time events) {i n : Nat}
    (hlast : i + n < events.length) :
    time events[i] + n * gap ≤ time events[i + n] := by
  induction n with
  | zero => simp
  | succ n ih =>
    have before := ih (by omega)
    have next := List.pairwise_iff_getElem.mp h (i + n) (i + (n + 1)) (by omega) hlast (by omega)
    rw [Nat.cast_add, Nat.cast_one, add_mul, one_mul]
    linarith

/-- **Turns**: if the events are taken in turns by `n` parties, those of one party are `n` gaps
apart. -/
theorem turns (h : Spaced gap time events) (hgap : 0 ≤ gap) {n : Nat} {rota : Nat → σ} {party : α → σ}
    (hrota : ∀ i < n, ∀ j < n, rota i = rota j → i = j)
    (taken : ∀ i (hi : i < events.length), party events[i] = rota (i % n)) (hn : 0 < n) (who : σ)
    [DecidableEq σ] : Spaced (n * gap) time (events.filter fun a => party a = who) := by
  have apart : events.Pairwise fun a b => party a = party b → time a + n * gap ≤ time b := by
    refine List.pairwise_iff_getElem.mpr fun i j hi hj hij same => ?_
    rw [taken i hi, taken j hj] at same
    have hmod := hrota _ (Nat.mod_lt i hn) _ (Nat.mod_lt j hn) same
    -- the positions differ by a positive multiple of `n`
    have far : i + n ≤ j := by
      have hi' := Nat.div_add_mod i n
      have hj' := Nat.div_add_mod j n
      have hdiv : i / n < j / n := by
        by_contra hle
        have := Nat.mul_le_mul_left n (not_lt.mp hle)
        omega
      have := Nat.mul_le_mul_left n (Nat.succ_le_of_lt hdiv)
      rw [Nat.mul_succ] at this
      omega
    obtain ⟨k, rfl⟩ := Nat.exists_eq_add_of_le far
    have first := h.getElem_add_le (i := i) (n := n) (by omega)
    have second := h.getElem_add_le (i := i + n) (n := k) hj
    have waited : 0 ≤ (k : K) * gap := mul_nonneg (Nat.cast_nonneg k) hgap
    linarith
  refine (apart.sublist List.filter_sublist).imp_of_mem ?_
  intro a b ha hb later
  have ha' := of_decide_eq_true (List.mem_filter.mp ha).2
  have hb' := of_decide_eq_true (List.mem_filter.mp hb).2
  exact later (ha'.trans hb'.symm)

end Spaced

end Cadence
