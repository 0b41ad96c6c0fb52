import Mathlib.Data.List.Basic
import Mathlib.Logic.Function.Basic

/-!
# Machines and what holds along their runs

A machine is a function `step : σ → α → Option σ`: in the state `s` the action `a` leads to
`step s a`, and where that is `none` the action cannot happen. Several parties that act in turns
are one machine, whose actions say who moves and what the environment answers; a run of it is
one interleaving.

* `run` — the state after a list of actions, computed.
* `Reaches step ok s t` — some run leads from `s` to `t`, every step of which was taken in a
  state where `ok` allowed it. With `ok := Always` these are all the runs.
* `Reaches.invariant` — what holds at first and is kept by every allowed step holds in every
  state reached.
* `exists_reaches_of_run` — a computed run is a run.
-/

namespace Machines

-- the parties of a small system are numbered
instance neZeroTwo : @NeZero Nat Zero.ofOfNat0 2 := Nat.instNeZeroSucc

instance neZeroThree : @NeZero Nat Zero.ofOfNat0 3 := Nat.instNeZeroSucc

variable {σ α : Type}

/-- The state after the given actions, if each of them can happen in its turn. -/
def run (step : σ → α → Option σ) (s : σ) : List α → Option σ
  | [] => some s
  | a :: as => (step s a).bind fun t => run step t as

/-- Every step is allowed. -/
def Always (_ : σ) (_ : α) : Prop := True

instance : DecidableRel (Always : σ → α → Prop) := fun _ _ => inferInstanceAs (Decidable True)

/-- Some run leads from `s` to `t`, all of whose steps `ok` allows. -/
inductive Reaches (step : σ → α → Option σ) (ok : σ → α → Prop) (s : σ) : σ → Prop
  | refl : Reaches step ok s s
  | next {t u : σ} {a : α} : Reaches step ok s t → ok t a → step t a = some u → Reaches step ok s u

variable {step : σ → α → Option σ} {ok : σ → α → Prop} {s t u : σ}

/-- The invariant rule. -/
theorem Reaches.invariant {I : σ → Prop} (h : Reaches step ok s t) (init : I s)
    (keep : ∀ t a u, I t → ok t a → step t a = some u → I u) : I t := by
  induction h with
  | refl => exact init
  | next _ allowed taken ih => exact keep _ _ _ ih allowed taken

/-- What the steps keep on top of an invariant that is already known. -/
theorem Reaches.invariant_of {I J : σ → Prop} (h : Reaches step ok s t) (init : J s)
    (known : ∀ t, Reaches step ok s t → I t)
    (keep : ∀ t a u, I t → J t → ok t a → step t a = some u → J u) : J t := by
  induction h with
  | refl => exact init
  | next before allowed taken ih => exact keep _ _ _ (known _ before) ih allowed taken

theorem Reaches.mono {ok' : σ → α → Prop} (h : Reaches step ok s t)
    (weaker : ∀ t a, ok t a → ok' t a) : Reaches step ok' s t := by
  induction h with
  | refl => exact .refl
  | next _ allowed taken ih => exact ih.next (weaker _ _ allowed) taken

theorem Reaches.always (h : Reaches step ok s t) : Reaches step Always s t :=
  h.mono fun _ _ _ => trivial

theorem Reaches.trans (h : Reaches step ok s t) (h' : Reaches step ok t u) :
    Reaches step ok s u := by
  induction h' with
  | refl => exact h
  | next _ allowed taken ih => exact ih.next allowed taken

/-- Who acts after one party has moved: that party, as it is now, or another one, as it was. -/
theorem update_cases {ι θ : Type} [DecidableEq ι] {parties : ι → Option θ} {i j : ι} {moved : Option θ}
    {party : θ} (h : Function.update parties i moved j = some party) :
    (j = i ∧ moved = some party) ∨ (j ≠ i ∧ parties j = some party) := by
  by_cases same : j = i
  · subst same
    exact .inl ⟨rfl, by simpa using h⟩
  · exact .inr ⟨same, by simpa [same] using h⟩

/-! ### Computed runs -/

/-- The machine that takes the allowed steps only. -/
def guarded (step : σ → α → Option σ) (ok : σ → α → Prop) [∀ s a, Decidable (ok s a)]
    (s : σ) (a : α) : Option σ :=
  if ok s a then step s a else none

theorem reaches_of_run_guarded [∀ s a, Decidable (ok s a)] {as : List α}
    (h : run (guarded step ok) s as = some t) : Reaches step ok s t := by
  induction as generalizing s with
  | nil =>
    obtain rfl : s = t := by simpa [run] using h
    exact .refl
  | cons a as ih =>
    obtain ⟨m, taken, rest⟩ := Option.bind_eq_some_iff.mp h
    by_cases allowed : ok s a
    · rw [guarded, if_pos allowed] at taken
      exact (Reaches.refl.next allowed taken).trans (ih rest)
    · simp [guarded, allowed] at taken

/-- A computed run of allowed steps, and a test of the state in which it ends. -/
theorem exists_reaches_of_run_guarded (step : σ → α → Option σ) (ok : σ → α → Prop)
    [∀ s a, Decidable (ok s a)] (s : σ) (as : List α) (p : σ → Bool)
    (h : (run (guarded step ok) s as).map p = some true) : ∃ t, Reaches step ok s t ∧ p t := by
  obtain ⟨t, ran, holds⟩ := Option.map_eq_some_iff.mp h
  exact ⟨t, reaches_of_run_guarded ran, holds⟩

/-- A computed run, and a test of the state in which it ends. -/
theorem exists_reaches_of_run (step : σ → α → Option σ) (s : σ) (as : List α) (p : σ → Bool)
    (h : (run step s as).map p = some true) : ∃ t, Reaches step Always s t ∧ p t := by
  have same : guarded step Always = step := by
    funext s a
    simp [guarded, Always]
  exact exists_reaches_of_run_guarded step Always s as p (by rw [same]; exact h)

/-- A computed run in two parts, and a test of the states in which they end. -/
theorem exists_reaches_of_runs (step : σ → α → Option σ) (s : σ) (as bs : List α) (p : σ → σ → Bool)
    (h : ((run step s as).bind fun t => (run step t bs).map (p t)) = some true) :
    ∃ t u, Reaches step Always s t ∧ Reaches step Always t u ∧ p t u := by
  obtain ⟨t, first, rest⟩ := Option.bind_eq_some_iff.mp h
  have same : guarded step Always = step := by
    funext s a
    simp [guarded, Always]
  obtain ⟨u, further, holds⟩ := exists_reaches_of_run step t bs (p t) rest
  exact ⟨t, u, reaches_of_run_guarded (by rw [same]; exact first), further, holds⟩

end Machines
