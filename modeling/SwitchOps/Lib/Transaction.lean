import Mathlib.Logic.Basic

/-!
# Transactions

Statements on a state that are run one after the other, where the environment may fail each of them and the commit as
well. `atomically` keeps what they did if all went well and the state before otherwise.
-/

namespace Atomic

variable {σ ε : Type}

/-- The statements one after the other, up to the first that fails. -/
def perform : List (σ → Except ε σ) → σ → Except ε σ
  | [], s => .ok s
  | statement :: statements, s => (statement s).bind (perform statements)

/-- The statements from the `n`-th one on; `fails` says which of them the environment fails. -/
def run (fails : Nat → Option ε) : Nat → List (σ → Except ε σ) → σ → Except ε σ
  | n, [], s =>
    match fails n with
    | some e => .error e
    | none => .ok s
  | n, statement :: statements, s =>
    match fails n with
    | some e => .error e
    | none => (statement s).bind (run fails (n + 1) statements)

/-- Commit if every statement went well, roll back otherwise. -/
def atomically (fails : Nat → Option ε) (statements : List (σ → Except ε σ)) (s : σ) : σ × Except ε Unit :=
  match run fails 0 statements s with
  | .ok s' => (s', .ok ())
  | .error e => (s, .error e)

variable {fails : Nat → Option ε} {statement : σ → Except ε σ} {statements further : List (σ → Except ε σ)}
  {s s' : σ} {e : ε}

theorem bind_eq_ok {α β : Type} {x : Except ε α} {f : α → Except ε β} {b : β} :
    x.bind f = .ok b ↔ ∃ a, x = .ok a ∧ f a = .ok b := by
  cases x with
  | error e => exact iff_of_false (fun h => by cases h) fun ⟨_, h, _⟩ => by cases h
  | ok a =>
    constructor
    · exact fun h => ⟨a, rfl, h⟩
    · rintro ⟨a', same, h⟩
      cases same
      exact h

theorem perform_cons_eq_ok :
    perform (statement :: statements) s = .ok s' ↔ ∃ next, statement s = .ok next ∧ perform statements next = .ok s' :=
  bind_eq_ok

theorem perform_append_eq_ok : perform (statements ++ further) s = .ok s' ↔
    ∃ next, perform statements s = .ok next ∧ perform further next = .ok s' := by
  induction statements generalizing s with
  | nil =>
    constructor
    · exact fun h => ⟨s, rfl, h⟩
    · rintro ⟨next, same, h⟩
      cases same
      exact h
  | cons statement statements ih =>
    rw [List.cons_append, perform_cons_eq_ok]
    simp only [perform_cons_eq_ok, ih]
    constructor
    · rintro ⟨first, here, next, rest, h⟩
      exact ⟨next, ⟨first, here, rest⟩, h⟩
    · rintro ⟨next, ⟨first, here, rest⟩, h⟩
      exact ⟨first, here, next, rest, h⟩

/-- A transaction that fails leaves no trace. -/
theorem fst_atomically_of_error (h : (atomically fails statements s).2 = .error e) :
    (atomically fails statements s).1 = s := by
  rw [atomically] at h ⊢
  cases found : run fails 0 statements s with
  | ok s' =>
    rw [found] at h
    cases h
  | error e => rfl

/-- What runs to its end has done what the statements do. -/
theorem perform_of_run {n : Nat} (h : run fails n statements s = .ok s') : perform statements s = .ok s' := by
  induction statements generalizing n s with
  | nil =>
    rw [run] at h
    split at h
    · cases h
    · exact h
  | cons statement statements ih =>
    rw [run] at h
    split at h
    · cases h
    · obtain ⟨next, first, rest⟩ := bind_eq_ok.mp h
      exact perform_cons_eq_ok.mpr ⟨next, first, ih rest⟩

/-- What the environment does not disturb does what the statements do. -/
theorem run_of_undisturbed (undisturbed : ∀ n, fails n = none) (n : Nat) :
    run fails n statements s = perform statements s := by
  induction statements generalizing n s with
  | nil => rw [run, undisturbed, perform]
  | cons statement statements ih =>
    rw [run, undisturbed, perform]
    cases statement s with
    | error e => rfl
    | ok next => exact ih (n + 1)

/-- A transaction that succeeds has done what its statements do. -/
theorem perform_of_atomically (h : (atomically fails statements s).2 = .ok ()) :
    perform statements s = .ok (atomically fails statements s).1 := by
  rw [atomically] at h ⊢
  cases found : run fails 0 statements s with
  | ok s' => exact perform_of_run found
  | error e =>
    rw [found] at h
    cases h

/-- Statements that go well make a transaction that succeeds, unless the environment disturbs it. -/
theorem atomically_of_perform (undisturbed : ∀ n, fails n = none) (h : perform statements s = .ok s') :
    atomically fails statements s = (s', .ok ()) := by
  rw [atomically, run_of_undisturbed undisturbed, h]

end Atomic
