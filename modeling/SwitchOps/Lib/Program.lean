import Mathlib.Logic.Basic

/-!
# Effectful programs and what holds along their runs

A `Program` is a finite tree of *operations*: it asks its environment for the answer to an
operation and continues with whatever comes back. Nothing here says what the operations are;
a development picks a type of operations `ι` and, for each, the type `ρ i` of its answers.

* `Exec p t q` — after the events `t` the program `p` has become `q`. Prefixes of runs are
  first-class, because an environment may act between any two operations.
* `Runs p t a` — `p` ran to the end along `t` and returned `a`.
* `Meets D p g Q` — `p`, started in the ghost state `g`, performs only operations the
  discipline `D` allows and ends in a result and ghost state satisfying `Q`. This is the rule
  programs are verified with; `Exec.meets` is its soundness.
* `Only E p` — `p` performs no operation outside `E`, the frame condition of a program.
* `Yields p Q` — every result of `p` satisfies `Q`; `CanPerform p i` — some run performs `i`.
* `Alike R p q` — in one environment, `p` and `q` ask alike and end in related results.
-/

namespace Effects

/-- A program over the operations `ι`, operation `i` being answered by a value of `ρ i`. -/
inductive Program (ι : Type) (ρ : ι → Type) (α : Type) : Type
  | pure : α → Program ι ρ α
  | op : (i : ι) → (ρ i → Program ι ρ α) → Program ι ρ α

variable {ι : Type} {ρ : ι → Type} {α β γ : Type}

namespace Program

/-- Sequencing: run the first program, then the second on its result. -/
protected def bind : Program ι ρ α → (α → Program ι ρ β) → Program ι ρ β
  | .pure a, f => f a
  | .op i k, f => .op i fun r => (k r).bind f

instance : Monad (Program ι ρ) where
  pure := .pure
  bind := Program.bind

/-- Perform one operation and return its answer. -/
def perform (i : ι) : Program ι ρ (ρ i) := .op i .pure

theorem pure_eq (a : α) : (Pure.pure a : Program ι ρ α) = .pure a := rfl

@[simp] theorem pure_bind (a : α) (f : α → Program ι ρ β) :
    ((.pure a : Program ι ρ α) >>= f) = f a := rfl

@[simp] theorem op_bind (i : ι) (k : ρ i → Program ι ρ α) (f : α → Program ι ρ β) :
    ((.op i k : Program ι ρ α) >>= f) = .op i fun r => k r >>= f := rfl

@[simp] theorem perform_bind (i : ι) (f : ρ i → Program ι ρ β) :
    ((perform i : Program ι ρ _) >>= f) = .op i f := rfl

theorem bind_pure_self (p : Program ι ρ α) : p >>= .pure = p := by
  induction p with
  | pure a => rfl
  | op i k ih => exact congrArg (Program.op i) (funext ih)

theorem bind_assoc' (p : Program ι ρ α) (f : α → Program ι ρ β) (g : β → Program ι ρ γ) :
    p >>= f >>= g = p >>= fun a => f a >>= g := by
  induction p with
  | pure a => rfl
  | op i k ih => exact congrArg (Program.op i) (funext ih)

instance : LawfulMonad (Program ι ρ) :=
  LawfulMonad.mk' _ bind_pure_self (fun _ _ => rfl) bind_assoc'

end Program

open Program

/-- An operation together with the answer the environment gave. -/
structure Event (ι : Type) (ρ : ι → Type) where
  op : ι
  answer : ρ op

/-- `Exec p t q`: performing the events `t` turns `p` into `q`. -/
inductive Exec : Program ι ρ α → List (Event ι ρ) → Program ι ρ α → Prop
  | refl (p) : Exec p [] p
  | step {i k t q} (r : ρ i) : Exec (k r) t q → Exec (.op i k) (⟨i, r⟩ :: t) q

/-- `Runs p t a`: the events `t` are a complete run of `p`, with result `a`. -/
def Runs (p : Program ι ρ α) (t : List (Event ι ρ)) (a : α) : Prop := Exec p t (.pure a)

/-! ### Runs of composed programs -/

theorem Exec.trans {p q r : Program ι ρ α} {t u} (h : Exec p t q) (h' : Exec q u r) :
    Exec p (t ++ u) r := by
  induction h with
  | refl => exact h'
  | step a _ ih => exact .step a (ih h')

theorem Exec.bind {p q : Program ι ρ α} {t} (h : Exec p t q) (f : α → Program ι ρ β) :
    Exec (p >>= f) t (q >>= f) := by
  induction h with
  | refl => exact .refl _
  | step a _ ih => exact .step a ih

@[simp] theorem runs_pure_iff {a b : α} {t : List (Event ι ρ)} :
    Runs (.pure a : Program ι ρ α) t b ↔ t = [] ∧ a = b := by
  constructor
  · rintro ⟨⟩; exact ⟨rfl, rfl⟩
  · rintro ⟨rfl, rfl⟩; exact .refl _

theorem runs_op_iff {i : ι} {k : ρ i → Program ι ρ α} {t : List (Event ι ρ)} {a : α} :
    Runs (.op i k) t a ↔ ∃ r u, t = ⟨i, r⟩ :: u ∧ Runs (k r) u a := by
  constructor
  · rintro (_ | @⟨_, _, u, _, r, h⟩); exact ⟨r, u, rfl, h⟩
  · rintro ⟨r, u, rfl, h⟩; exact .step r h

/-- A run of `p >>= f` is a run of `p` followed by a run of `f` on its result. -/
theorem runs_bind_iff {p : Program ι ρ α} {f : α → Program ι ρ β} {t : List (Event ι ρ)} {b : β} :
    Runs (p >>= f) t b ↔ ∃ t₁ a t₂, t = t₁ ++ t₂ ∧ Runs p t₁ a ∧ Runs (f a) t₂ b := by
  constructor
  · intro h
    induction p generalizing t with
    | pure a => exact ⟨[], a, t, rfl, .refl _, h⟩
    | op i k ih =>
      obtain ⟨r, u, rfl, hu⟩ := runs_op_iff.mp h
      obtain ⟨t₁, a, t₂, rfl, h₁, h₂⟩ := ih r hu
      exact ⟨⟨i, r⟩ :: t₁, a, t₂, rfl, .step r h₁, h₂⟩
  · rintro ⟨t₁, a, t₂, rfl, h₁, h₂⟩
    exact (h₁.bind f).trans h₂

/-! ### Running against a stateful environment

`simulate` answers the operations from a state machine. It makes runs that can be computed, so
that a run of a concrete program is produced rather than written down event by event. -/

/-- Run a program to the end, the environment `answer` carrying a state of its own. -/
def Program.simulate {σ : Type} (answer : (i : ι) → σ → ρ i × σ) :
    Program ι ρ α → σ → α × List (Event ι ρ)
  | .pure a, _ => (a, [])
  | .op i k, s =>
    let r := answer i s
    let rest := (k r.1).simulate answer r.2
    (rest.1, ⟨i, r.1⟩ :: rest.2)

theorem runs_simulate {σ : Type} (answer : (i : ι) → σ → ρ i × σ) (p : Program ι ρ α) (s : σ) :
    Runs p (p.simulate answer s).2 (p.simulate answer s).1 := by
  induction p generalizing s with
  | pure a => exact .refl _
  | op i k ih => exact .step _ (ih _ _)

/-- What a state machine answered is an answer it gives in some state. -/
theorem answer_of_mem_simulate {σ : Type} {answer : (i : ι) → σ → ρ i × σ} {p : Program ι ρ α}
    {s : σ} {e : Event ι ρ} (h : e ∈ (p.simulate answer s).2) :
    ∃ s', e.answer = (answer e.op s').1 := by
  induction p generalizing s with
  | pure a => cases h
  | op i k ih =>
    rcases List.mem_cons.mp h with rfl | h
    · exact ⟨s, rfl⟩
    · exact ih _ h

/-! ### Disciplines

A discipline gives each operation a proof obligation (`allowed`), an assumption about the
answers the environment may give (`answers`), and the ghost state afterwards (`next`). -/

/-- What a program owes, and may assume, at each operation; `G` is the ghost state. -/
structure Discipline (ι : Type) (ρ : ι → Type) (G : Type) where
  allowed : G → ι → Prop
  answers : G → (i : ι) → ρ i → Prop
  next : G → (i : ι) → ρ i → G

variable {G : Type} {D : Discipline ι ρ G}

/-- `Meets D p g Q`: from the ghost state `g`, `p` performs only allowed operations whatever
admissible answers it gets, and if it returns `a` in the ghost state `g'` then `Q a g'`. -/
def Meets (D : Discipline ι ρ G) : Program ι ρ α → G → (α → G → Prop) → Prop
  | .pure a, g, Q => Q a g
  | .op i k, g, Q => D.allowed g i ∧ ∀ r, D.answers g i r → Meets D (k r) (D.next g i r) Q

@[simp] theorem meets_pure {a : α} {g : G} {Q : α → G → Prop} :
    Meets D (.pure a : Program ι ρ α) g Q ↔ Q a g := Iff.rfl

@[simp] theorem meets_pure' {a : α} {g : G} {Q : α → G → Prop} :
    Meets D (Pure.pure a : Program ι ρ α) g Q ↔ Q a g := Iff.rfl

theorem meets_op {i : ι} {k : ρ i → Program ι ρ α} {g : G} {Q : α → G → Prop} :
    Meets D (.op i k) g Q ↔
      D.allowed g i ∧ ∀ r, D.answers g i r → Meets D (k r) (D.next g i r) Q := Iff.rfl

theorem meets_perform {i : ι} {g : G} {Q : ρ i → G → Prop} :
    Meets D (perform i : Program ι ρ _) g Q ↔
      D.allowed g i ∧ ∀ r, D.answers g i r → Q r (D.next g i r) := Iff.rfl

/-- The sequencing rule. -/
theorem meets_bind {p : Program ι ρ α} {f : α → Program ι ρ β} {g : G} {Q : β → G → Prop} :
    Meets D (p >>= f) g Q ↔ Meets D p g fun a g' => Meets D (f a) g' Q := by
  induction p generalizing g with
  | pure a => exact Iff.rfl
  | op i k ih =>
    constructor
    · rintro ⟨ha, hk⟩; exact ⟨ha, fun r hr => (ih r).mp (hk r hr)⟩
    · rintro ⟨ha, hk⟩; exact ⟨ha, fun r hr => (ih r).mpr (hk r hr)⟩

/-- The consequence rule. -/
theorem Meets.mono {p : Program ι ρ α} {g : G} {Q Q' : α → G → Prop}
    (h : Meets D p g Q) (hQ : ∀ a g', Q a g' → Q' a g') : Meets D p g Q' := by
  induction p generalizing g with
  | pure a => exact hQ _ _ h
  | op i k ih => exact ⟨h.1, fun r hr => ih r (h.2 r hr)⟩

/-- Verify the first program against a specification of its own, then the second from it. -/
theorem Meets.bind {p : Program ι ρ α} {f : α → Program ι ρ β} {g : G} {P : α → G → Prop}
    {Q : β → G → Prop} (h : Meets D p g P) (hf : ∀ a g', P a g' → Meets D (f a) g' Q) :
    Meets D (p >>= f) g Q :=
  meets_bind.mpr (h.mono hf)

theorem Meets.and {p : Program ι ρ α} {g : G} {Q Q' : α → G → Prop}
    (h : Meets D p g Q) (h' : Meets D p g Q') : Meets D p g fun a g' => Q a g' ∧ Q' a g' := by
  induction p generalizing g with
  | pure a => exact ⟨h, h'⟩
  | op i k ih => exact ⟨h.1, fun r hr => ih r (h.2 r hr) (h'.2 r hr)⟩

/-- Answers the discipline admits, event by event, from the ghost state `g`. -/
def Answered (D : Discipline ι ρ G) : G → List (Event ι ρ) → Prop
  | _, [] => True
  | g, e :: t => D.answers g e.op e.answer ∧ Answered D (D.next g e.op e.answer) t

/-- The ghost state after a list of events. -/
def after (D : Discipline ι ρ G) : G → List (Event ι ρ) → G
  | g, [] => g
  | g, e :: t => after D (D.next g e.op e.answer) t

@[simp] theorem after_append (g : G) (t u : List (Event ι ρ)) :
    after D g (t ++ u) = after D (after D g t) u := by
  induction t generalizing g with
  | nil => rfl
  | cons e t ih => exact ih _

/-- **Soundness**: after any admissibly answered prefix, what is left of the program still
meets its specification from the ghost state reached. -/
theorem Exec.meets {p q : Program ι ρ α} {t} {g : G} {Q : α → G → Prop}
    (h : Exec p t q) (hm : Meets D p g Q) (ht : Answered D g t) : Meets D q (after D g t) Q := by
  induction h generalizing g with
  | refl => exact hm
  | step r _ ih => exact ih (hm.2 r ht.1) ht.2

theorem Runs.meets {p : Program ι ρ α} {t a} {g : G} {Q : α → G → Prop}
    (h : Runs p t a) (hm : Meets D p g Q) (ht : Answered D g t) : Q a (after D g t) :=
  Exec.meets h hm ht

/-- Where the environment always has an admissible answer, a program has an admissibly answered run. -/
theorem exists_answered (answerable : ∀ g i, ∃ r, D.answers g i r) (p : Program ι ρ α) (g : G) :
    ∃ t a, Runs p t a ∧ Answered D g t := by
  induction p generalizing g with
  | pure a => exact ⟨[], a, .refl _, trivial⟩
  | op i k ih =>
    obtain ⟨r, admitted⟩ := answerable g i
    obtain ⟨t, a, run, served⟩ := ih r (D.next g i r)
    exact ⟨⟨i, r⟩ :: t, a, runs_op_iff.mpr ⟨r, t, rfl, run⟩, admitted, served⟩

/-! ### Ledgers

With no obligations and no assumptions, the ghost state is just a fold over the events: a
*ledger* of what happened. Such a discipline turns `Meets` into a statement about all runs. -/

/-- The discipline that only records events, by `next`. -/
def ledger (next : G → (i : ι) → ρ i → G) : Discipline ι ρ G where
  allowed _ _ := True
  answers _ _ _ := True
  next := next

theorem answered_ledger {next : G → (i : ι) → ρ i → G} (g : G) (t : List (Event ι ρ)) :
    Answered (ledger next) g t := by
  induction t generalizing g with
  | nil => trivial
  | cons e t ih => exact ⟨trivial, ih _⟩

theorem Runs.ledger {p : Program ι ρ α} {t a} {g : G} {Q : α → G → Prop}
    {next : G → (i : ι) → ρ i → G} (h : Runs p t a) (hm : Meets (ledger next) p g Q) :
    Q a (after (Effects.ledger next) g t) :=
  h.meets hm (answered_ledger g t)

/-- Conversely a statement about the ledgers of all complete runs is a `Meets`. -/
theorem meets_ledger_of_runs {p : Program ι ρ α} {g : G} {Q : α → G → Prop}
    {next : G → (i : ι) → ρ i → G}
    (h : ∀ t a, Runs p t a → Q a (after (Effects.ledger next) g t)) :
    Meets (Effects.ledger next) p g Q := by
  induction p generalizing g with
  | pure a => exact h [] a (.refl _)
  | op i k ih =>
    refine ⟨trivial, fun r _ => ih r fun t a ht => ?_⟩
    exact h (⟨i, r⟩ :: t) a (.step r ht)

/-! ### Frames -/

/-- `Only E p`: every operation `p` can perform satisfies `E`. -/
def Only (E : ι → Prop) : Program ι ρ α → Prop
  | .pure _ => True
  | .op i k => E i ∧ ∀ r, Only E (k r)

@[simp] theorem only_pure {E : ι → Prop} {a : α} : Only E (.pure a : Program ι ρ α) := trivial

@[simp] theorem only_pure' {E : ι → Prop} {a : α} :
    Only E (Pure.pure a : Program ι ρ α) := trivial

@[simp] theorem only_perform {E : ι → Prop} {i : ι} :
    Only E (perform i : Program ι ρ _) ↔ E i :=
  ⟨fun h => h.1, fun h => ⟨h, fun _ => trivial⟩⟩

theorem only_op {E : ι → Prop} {i : ι} {k : ρ i → Program ι ρ α} :
    Only E (.op i k) ↔ E i ∧ ∀ r, Only E (k r) := Iff.rfl

theorem Only.bind {E : ι → Prop} {p : Program ι ρ α} {f : α → Program ι ρ β}
    (hp : Only E p) (hf : ∀ a, Only E (f a)) : Only E (p >>= f) := by
  induction p with
  | pure a => exact hf a
  | op i k ih => exact ⟨hp.1, fun r => ih r (hp.2 r)⟩

theorem only_true (p : Program ι ρ α) : Only (fun _ => True) p := by
  induction p with
  | pure a => trivial
  | op i k ih => exact ⟨trivial, ih⟩

theorem Only.mono {E E' : ι → Prop} {p : Program ι ρ α} (hp : Only E p)
    (h : ∀ i, E i → E' i) : Only E' p := by
  induction p with
  | pure a => trivial
  | op i k ih => exact ⟨h i hp.1, fun r => ih r (hp.2 r)⟩

/-- **Framing**: a program confined to operations that are allowed and leave the ghost state
alone meets any specification whose result does not matter. -/
theorem Only.meets {E : ι → Prop} {p : Program ι ρ α} {g : G} {Q : α → G → Prop}
    (hp : Only E p) (hE : ∀ i, E i → D.allowed g i ∧ ∀ r, D.answers g i r → D.next g i r = g)
    (hQ : ∀ a, Q a g) : Meets D p g Q := by
  induction p with
  | pure a => exact hQ a
  | op i k ih =>
    refine ⟨(hE i hp.1).1, fun r hr => ?_⟩
    rw [(hE i hp.1).2 r hr]
    exact ih r (hp.2 r)

/-- **Simulation**: a program that meets its specification under `D` meets it under `D'` too, if
`R` relates the ghost states of the two along every operation it can perform. -/
theorem Meets.simulated {G' : Type} {D' : Discipline ι ρ G'} {R : G → G' → Prop} {E : ι → Prop}
    {p : Program ι ρ α} {g : G} {g' : G'} {Q : α → G → Prop} (h : Meets D p g Q) (hp : Only E p)
    (hE : ∀ i, E i → ∀ g g', R g g' → D.allowed g i →
      D'.allowed g' i ∧ ∀ r, D'.answers g' i r → D.answers g i r ∧ R (D.next g i r) (D'.next g' i r))
    (hR : R g g') : Meets D' p g' fun a g' => ∃ g, R g g' ∧ Q a g := by
  induction p generalizing g g' with
  | pure a => exact ⟨g, hR, h⟩
  | op i k ih =>
    obtain ⟨hallowed, hnext⟩ := hE i hp.1 g g' hR h.1
    refine ⟨hallowed, fun r hr => ?_⟩
    obtain ⟨hanswer, hrelated⟩ := hnext r hr
    exact ih r (h.2 r hanswer) (hp.2 r) hrelated

/-- Every event of a run of a confined program satisfies the confinement. -/
theorem Exec.only {E : ι → Prop} {p q : Program ι ρ α} {t} (h : Exec p t q) (hp : Only E p) :
    (∀ e ∈ t, E e.op) ∧ Only E q := by
  induction h with
  | refl => exact ⟨by simp, hp⟩
  | step r _ ih =>
    obtain ⟨ht, hq⟩ := ih (hp.2 r)
    refine ⟨fun e he => ?_, hq⟩
    rcases List.mem_cons.mp he with rfl | he
    · exact hp.1
    · exact ht e he

/-! ### Results

What is known of a result, whatever the answers were. Such facts hold under every discipline. -/

/-- `Yields p Q`: every result of `p` satisfies `Q`. -/
def Yields (p : Program ι ρ α) (Q : α → Prop) : Prop := ∀ t a, Runs p t a → Q a

theorem yields_pure {a : α} {Q : α → Prop} (h : Q a) : Yields (.pure a : Program ι ρ α) Q := by
  intro t b hrun
  obtain ⟨-, rfl⟩ := runs_pure_iff.mp hrun
  exact h

theorem yields_op {i : ι} {k : ρ i → Program ι ρ α} {Q : α → Prop} :
    Yields (.op i k) Q ↔ ∀ r, Yields (k r) Q := by
  constructor
  · intro h r t a hrun
    exact h _ _ (.step r hrun)
  · intro h t a hrun
    obtain ⟨r, u, rfl, hu⟩ := runs_op_iff.mp hrun
    exact h r u a hu

theorem Yields.bind {p : Program ι ρ α} {f : α → Program ι ρ β} {P : α → Prop} {Q : β → Prop}
    (hp : Yields p P) (hf : ∀ a, P a → Yields (f a) Q) : Yields (p >>= f) Q := by
  intro t b hrun
  obtain ⟨t₁, a, t₂, rfl, h₁, h₂⟩ := runs_bind_iff.mp hrun
  exact hf a (hp t₁ a h₁) t₂ b h₂

theorem yields_true (p : Program ι ρ α) : Yields p fun _ => True := fun _ _ _ => trivial

/-- A specification may be strengthened by what is known of every result. -/
theorem Meets.yields {p : Program ι ρ α} {g : G} {P : α → G → Prop} {Q : α → Prop}
    (h : Meets D p g P) (hp : Yields p Q) : Meets D p g fun a g' => P a g' ∧ Q a := by
  induction p generalizing g with
  | pure a => exact ⟨h, hp [] a (.refl _)⟩
  | op i k ih => exact ⟨h.1, fun r hr => ih r (h.2 r hr) (yields_op.mp hp r)⟩

/-- The sequencing rule for frames, the second program knowing something of the result. -/
theorem Only.bind_yields {E : ι → Prop} {p : Program ι ρ α} {f : α → Program ι ρ β}
    {Q : α → Prop} (hp : Only E p) (hQ : Yields p Q) (hf : ∀ a, Q a → Only E (f a)) :
    Only E (p >>= f) := by
  induction p with
  | pure a => exact hf a (hQ [] a (.refl _))
  | op i k ih => exact ⟨hp.1, fun r => ih r (hp.2 r) (yields_op.mp hQ r)⟩

/-! ### What can happen

Rules to exhibit a run, without naming its events. -/

/-- `p` can return `a`. -/
def CanReturn (p : Program ι ρ α) (a : α) : Prop := ∃ t, Runs p t a

/-- `p` can come to perform `i`. -/
def CanPerform (p : Program ι ρ α) (i : ι) : Prop := ∃ t k, Exec p t (.op i k)

theorem canReturn_pure (a : α) : CanReturn (.pure a : Program ι ρ α) a := ⟨[], .refl _⟩

theorem CanReturn.op {i : ι} {k : ρ i → Program ι ρ α} {a : α} (r : ρ i)
    (h : CanReturn (k r) a) : CanReturn (.op i k) a := by
  obtain ⟨t, ht⟩ := h
  exact ⟨_, .step r ht⟩

theorem canReturn_perform (i : ι) (r : ρ i) : CanReturn (perform i : Program ι ρ _) r :=
  (canReturn_pure r).op r

theorem CanReturn.bind {p : Program ι ρ α} {f : α → Program ι ρ β} {a : α} {b : β}
    (hp : CanReturn p a) (hf : CanReturn (f a) b) : CanReturn (p >>= f) b := by
  obtain ⟨t, ht⟩ := hp
  obtain ⟨u, hu⟩ := hf
  exact ⟨t ++ u, runs_bind_iff.mpr ⟨t, a, u, rfl, ht, hu⟩⟩

/-- Every program can return, if every operation can be answered. -/
theorem exists_canReturn [∀ i, Nonempty (ρ i)] (p : Program ι ρ α) : ∃ a, CanReturn p a := by
  induction p with
  | pure a => exact ⟨a, canReturn_pure a⟩
  | op i k ih =>
    obtain ⟨r⟩ := ‹∀ i, Nonempty (ρ i)› i
    obtain ⟨a, ha⟩ := ih r
    exact ⟨a, ha.op r⟩

theorem canPerform_op (i : ι) (k : ρ i → Program ι ρ α) : CanPerform (.op i k) i :=
  ⟨[], k, .refl _⟩

theorem canPerform_perform (i : ι) : CanPerform (perform i : Program ι ρ _) i := canPerform_op i _

theorem CanPerform.op {i j : ι} {k : ρ i → Program ι ρ α} (r : ρ i)
    (h : CanPerform (k r) j) : CanPerform (.op i k) j := by
  obtain ⟨t, k', ht⟩ := h
  exact ⟨_, k', .step r ht⟩

theorem CanPerform.bind {p : Program ι ρ α} {i : ι} (h : CanPerform p i)
    (f : α → Program ι ρ β) : CanPerform (p >>= f) i := by
  obtain ⟨t, k, ht⟩ := h
  exact ⟨t, _, ht.bind f⟩

theorem CanReturn.canPerform {p : Program ι ρ α} {f : α → Program ι ρ β} {a : α} {i : ι}
    (hp : CanReturn p a) (hf : CanPerform (f a) i) : CanPerform (p >>= f) i := by
  obtain ⟨t, ht⟩ := hp
  obtain ⟨u, k, hu⟩ := hf
  exact ⟨t ++ u, k, (ht.bind f).trans hu⟩

/-- What a confined program can perform satisfies the confinement. -/
theorem Only.canPerform {E : ι → Prop} {p : Program ι ρ α} {i : ι} (hp : Only E p)
    (h : CanPerform p i) : E i := by
  obtain ⟨t, k, ht⟩ := h
  exact (ht.only hp).2.1

/-! ### Two programs in one environment

Programs that ask the same questions, whatever they make of the answers. A property of two runs
is proved by walking through both programs at once. -/

/-- `Alike R p q`: `p` and `q` perform the same operations, and end in results related by `R`. -/
inductive Alike (R : α → β → Prop) : Program ι ρ α → Program ι ρ β → Prop
  | pure {a b} : R a b → Alike R (.pure a) (.pure b)
  | op {i k k'} : (∀ r, Alike R (k r) (k' r)) → Alike R (.op i k) (.op i k')

theorem Alike.refl (p : Program ι ρ α) : Alike Eq p p := by
  induction p with
  | pure a => exact .pure rfl
  | op i k ih => exact .op ih

/-- The sequencing rule. -/
theorem Alike.bind {δ : Type} {R : α → β → Prop} {R' : γ → δ → Prop} {p : Program ι ρ α}
    {q : Program ι ρ β} {f : α → Program ι ρ γ} {f' : β → Program ι ρ δ} (h : Alike R p q)
    (hf : ∀ a b, R a b → Alike R' (f a) (f' b)) : Alike R' (p >>= f) (q >>= f') := by
  induction h with
  | pure hab => exact hf _ _ hab
  | op _ ih => exact .op ih

/-- **Soundness**: in an environment that answers alike, both end, in related results. -/
theorem Runs.alike {R : α → β → Prop} {p : Program ι ρ α} {q : Program ι ρ β}
    {t : List (Event ι ρ)} {a : α} {b : β} (h : Alike R p q) (hp : Runs p t a) (hq : Runs q t b) :
    R a b := by
  induction h generalizing t with
  | pure hab =>
    obtain ⟨rfl, rfl⟩ := runs_pure_iff.mp hp
    obtain ⟨-, rfl⟩ := runs_pure_iff.mp hq
    exact hab
  | op _ ih =>
    obtain ⟨r, u, rfl, hu⟩ := runs_op_iff.mp hp
    obtain ⟨r', u', heq, hu'⟩ := runs_op_iff.mp hq
    cases heq
    exact ih r hu hu'

/-! ### Programs that may raise

`ExceptT ε (Program ι ρ)` is a program that ends in a result or in an exception. An exception
skips the rest of a sequence, so each rule for `>>=` has a second case. -/

section raising

variable {ε : Type}

/-- What the second program must meet after each outcome of the first. -/
def Continues (D : Discipline ι ρ G) (f : α → ExceptT ε (Program ι ρ) β)
    (Q : Except ε β → G → Prop) : Except ε α → G → Prop
  | .ok a, g => Meets D (f a) g Q
  | .error e, g => Q (.error e) g

@[simp] theorem continues_ok {f : α → ExceptT ε (Program ι ρ) β} {Q : Except ε β → G → Prop}
    {a : α} {g : G} : Continues D f Q (.ok a) g ↔ Meets D (f a) g Q := Iff.rfl

@[simp] theorem continues_error {f : α → ExceptT ε (Program ι ρ) β} {Q : Except ε β → G → Prop}
    {e : ε} {g : G} : Continues D f Q (.error e) g ↔ Q (.error e) g := Iff.rfl

theorem meets_raising_bind {p : ExceptT ε (Program ι ρ) α} {f : α → ExceptT ε (Program ι ρ) β}
    {g : G} {Q : Except ε β → G → Prop} :
    Meets D (p >>= f : ExceptT ε (Program ι ρ) β) g Q ↔ Meets D p g (Continues D f Q) := by
  refine (meets_bind (p := (p : Program ι ρ (Except ε α))) (f := ExceptT.bindCont f)).trans ?_
  constructor
  · intro h
    refine h.mono fun r g' hr => ?_
    cases r with
    | ok a => exact hr
    | error e => exact hr
  · intro h
    refine h.mono fun r g' hr => ?_
    cases r with
    | ok a => exact hr
    | error e => exact hr

@[simp] theorem meets_raising_pure {a : α} {g : G} {Q : Except ε α → G → Prop} :
    Meets D (pure a : ExceptT ε (Program ι ρ) α) g Q ↔ Q (.ok a) g := Iff.rfl

@[simp] theorem meets_raising_throw {e : ε} {g : G} {Q : Except ε α → G → Prop} :
    Meets D (throw e : ExceptT ε (Program ι ρ) α) g Q ↔ Q (.error e) g := Iff.rfl

theorem Only.raising_bind {E : ι → Prop} {p : ExceptT ε (Program ι ρ) α}
    {f : α → ExceptT ε (Program ι ρ) β} (hp : Only E p) (hf : ∀ a, Only E (f a)) :
    Only E (p >>= f : ExceptT ε (Program ι ρ) β) := by
  refine Only.bind (p := (p : Program ι ρ (Except ε α))) hp fun r => ?_
  cases r with
  | ok a => exact hf a
  | error e => exact only_pure

/-- A run of `p >>= f` in which nothing is raised is a run of `p` and a run of `f`. -/
theorem runs_raising_bind_ok {p : ExceptT ε (Program ι ρ) α} {f : α → ExceptT ε (Program ι ρ) β}
    {t : List (Event ι ρ)} {b : β} :
    Runs (p >>= f : ExceptT ε (Program ι ρ) β) t (.ok b) ↔
      ∃ t₁ a t₂, t = t₁ ++ t₂ ∧ Runs p t₁ (.ok a) ∧ Runs (f a) t₂ (.ok b) := by
  constructor
  · intro h
    obtain ⟨t₁, r, t₂, rfl, h₁, h₂⟩ :=
      runs_bind_iff (p := (p : Program ι ρ (Except ε α))) (f := ExceptT.bindCont f) |>.mp h
    cases r with
    | ok a => exact ⟨t₁, a, t₂, rfl, h₁, h₂⟩
    | error e =>
      have := runs_pure_iff.mp h₂
      simp at this
  · rintro ⟨t₁, a, t₂, rfl, h₁, h₂⟩
    exact runs_bind_iff (p := (p : Program ι ρ (Except ε α))) (f := ExceptT.bindCont f) |>.mpr
      ⟨t₁, .ok a, t₂, rfl, h₁, h₂⟩

theorem Yields.raising_bind {p : ExceptT ε (Program ι ρ) α}
    {f : α → ExceptT ε (Program ι ρ) β} {Q : Except ε β → Prop} {P : α → Prop}
    (hp : Yields p fun r => ∀ a, r = .ok a → P a) (herror : ∀ e, Q (.error e))
    (hf : ∀ a, P a → Yields (f a) Q) :
    Yields (p >>= f : ExceptT ε (Program ι ρ) β) Q := by
  refine Yields.bind (p := (p : Program ι ρ (Except ε α))) hp fun r hr => ?_
  cases r with
  | ok a => exact hf a (hr a rfl)
  | error e => exact yields_pure (herror e)

/-- Two outcomes: the same exception, or results related by `R`. -/
def SameOutcome (R : α → β → Prop) : Except ε α → Except ε β → Prop
  | .ok a, .ok b => R a b
  | .error e, .error e' => e = e'
  | _, _ => False

theorem Alike.outcome_refl (p : ExceptT ε (Program ι ρ) α) :
    Alike (SameOutcome Eq) (p : Program ι ρ (Except ε α)) p := by
  have hsame (r : Except ε α) : SameOutcome Eq r r := by
    cases r with
    | ok a => rfl
    | error e => rfl
  rw [← bind_pure_self (p : Program ι ρ (Except ε α))]
  exact (Alike.refl _).bind fun r r' hr => .pure (hr ▸ hsame r)

theorem Alike.raising_bind {δ : Type} {R : α → β → Prop} {R' : γ → δ → Prop}
    {p : ExceptT ε (Program ι ρ) α} {q : ExceptT ε (Program ι ρ) β}
    {f : α → ExceptT ε (Program ι ρ) γ} {f' : β → ExceptT ε (Program ι ρ) δ}
    (h : Alike (SameOutcome R) (p : Program ι ρ (Except ε α)) q)
    (hf : ∀ a b, R a b → Alike (SameOutcome R') (f a : Program ι ρ (Except ε γ)) (f' b)) :
    Alike (SameOutcome R') (p >>= f : ExceptT ε (Program ι ρ) γ)
      (q >>= f' : ExceptT ε (Program ι ρ) δ) := by
  refine Alike.bind (p := (p : Program ι ρ (Except ε α))) (q := (q : Program ι ρ (Except ε β))) h
    fun r r' hr => ?_
  cases r with
  | ok a =>
    cases r' with
    | ok b => exact hf a b hr
    | error e => exact hr.elim
  | error e =>
    cases r' with
    | ok b => exact hr.elim
    | error e' => exact .pure hr

/-- One program, continued in two ways. -/
theorem Alike.raising_same {R : β → γ → Prop} {p : ExceptT ε (Program ι ρ) α}
    {f : α → ExceptT ε (Program ι ρ) β} {f' : α → ExceptT ε (Program ι ρ) γ}
    (hf : ∀ a, Alike (SameOutcome R) (f a : Program ι ρ (Except ε β)) (f' a)) :
    Alike (SameOutcome R) (p >>= f : ExceptT ε (Program ι ρ) β)
      (p >>= f' : ExceptT ε (Program ι ρ) γ) := by
  refine (Alike.outcome_refl p).raising_bind fun a a' ha => ?_
  cases ha
  exact hf a

theorem CanReturn.raising_bind {p : ExceptT ε (Program ι ρ) α}
    {f : α → ExceptT ε (Program ι ρ) β} {a : α} {r : Except ε β} (hp : CanReturn p (.ok a))
    (hf : CanReturn (f a) r) : CanReturn (p >>= f : ExceptT ε (Program ι ρ) β) r :=
  CanReturn.bind (p := (p : Program ι ρ (Except ε α))) hp hf

theorem CanReturn.raising_canPerform {p : ExceptT ε (Program ι ρ) α}
    {f : α → ExceptT ε (Program ι ρ) β} {a : α} {i : ι} (hp : CanReturn p (.ok a))
    (hf : CanPerform (f a) i) : CanPerform (p >>= f : ExceptT ε (Program ι ρ) β) i :=
  CanReturn.canPerform (p := (p : Program ι ρ (Except ε α))) hp hf

end raising

/-! ### Programs with a state of their own -/

section stateful

variable {σ : Type}

theorem meets_state_bind {x : StateT σ (Program ι ρ) α} {f : α → StateT σ (Program ι ρ) β} {s : σ}
    {g : G} {Q : β × σ → G → Prop} :
    Meets D ((x >>= f).run s) g Q ↔
      Meets D (x.run s) g fun r g' => Meets D ((f r.1).run r.2) g' Q := by
  rw [StateT.run_bind, meets_bind]

theorem meets_state_lift {p : Program ι ρ α} {s : σ} {g : G} {Q : α × σ → G → Prop} :
    Meets D ((liftM p : StateT σ (Program ι ρ) α).run s) g Q ↔
      Meets D p g fun a g' => Q (a, s) g' := by
  show Meets D (p >>= fun a => Pure.pure (a, s)) g Q ↔ _
  rw [meets_bind]
  exact Iff.rfl

@[simp] theorem meets_state_get {s : σ} {g : G} {Q : σ × σ → G → Prop} :
    Meets D ((get : StateT σ (Program ι ρ) σ).run s) g Q ↔ Q (s, s) g := Iff.rfl

@[simp] theorem meets_state_pure {a : α} {s : σ} {g : G} {Q : α × σ → G → Prop} :
    Meets D ((pure a : StateT σ (Program ι ρ) α).run s) g Q ↔ Q (a, s) g := Iff.rfl

theorem yields_state_bind {x : StateT σ (Program ι ρ) α} {f : α → StateT σ (Program ι ρ) β} {s : σ}
    {P : α × σ → Prop} {Q : β × σ → Prop} (hx : Yields (x.run s) P)
    (hf : ∀ r, P r → Yields ((f r.1).run r.2) Q) : Yields ((x >>= f).run s) Q := by
  rw [StateT.run_bind]
  exact hx.bind hf

theorem CanReturn.state_bind {x : StateT σ (Program ι ρ) α} {f : α → StateT σ (Program ι ρ) β}
    {s : σ} {r : α × σ} {r' : β × σ} (hx : CanReturn (x.run s) r)
    (hf : CanReturn ((f r.1).run r.2) r') : CanReturn ((x >>= f).run s) r' := by
  rw [StateT.run_bind]
  exact hx.bind hf

theorem CanReturn.state_canPerform {x : StateT σ (Program ι ρ) α}
    {f : α → StateT σ (Program ι ρ) β} {s : σ} {r : α × σ} {i : ι} (hx : CanReturn (x.run s) r)
    (hf : CanPerform ((f r.1).run r.2) i) : CanPerform ((x >>= f).run s) i := by
  rw [StateT.run_bind]
  exact hx.canPerform hf

theorem CanPerform.state_bind {x : StateT σ (Program ι ρ) α} {s : σ} {i : ι}
    (h : CanPerform (x.run s) i) (f : α → StateT σ (Program ι ρ) β) :
    CanPerform ((x >>= f).run s) i := by
  rw [StateT.run_bind]
  exact h.bind _

theorem CanReturn.lift {p : Program ι ρ α} {a : α} (h : CanReturn p a) (s : σ) :
    CanReturn ((liftM p : StateT σ (Program ι ρ) α).run s) (a, s) :=
  h.bind (f := fun a => .pure (a, s)) (canReturn_pure _)

theorem CanPerform.lift {p : Program ι ρ α} {i : ι} (h : CanPerform p i) (s : σ) :
    CanPerform ((liftM p : StateT σ (Program ι ρ) α).run s) i :=
  h.bind fun a => .pure (a, s)

/-- `Confined E x`: from any state, every operation `x` can perform satisfies `E`. -/
def Confined (E : ι → Prop) (x : StateT σ (Program ι ρ) α) : Prop := ∀ s, Only E (x.run s)

variable {E : ι → Prop}

theorem Confined.bind {x : StateT σ (Program ι ρ) α} {f : α → StateT σ (Program ι ρ) β}
    (hx : Confined E x) (hf : ∀ a, Confined E (f a)) : Confined E (x >>= f) := by
  intro s
  rw [StateT.run_bind]
  exact (hx s).bind fun r => hf r.1 r.2

theorem Confined.pure {a : α} : Confined E (pure a : StateT σ (Program ι ρ) α) := fun _ => trivial

theorem Confined.get : Confined E (get : StateT σ (Program ι ρ) σ) := fun _ => trivial

theorem Confined.lift {p : Program ι ρ α} (hp : Only E p) :
    Confined E (liftM p : StateT σ (Program ι ρ) α) := by
  intro s
  show Only E (p >>= fun a => Pure.pure (a, s))
  exact hp.bind fun _ => trivial

/-- A lifted program, the rest knowing something of its result. -/
theorem Confined.lift_bind {p : Program ι ρ α} {f : α → StateT σ (Program ι ρ) β} {Q : α → Prop}
    (hp : Only E p) (hQ : Yields p Q) (hf : ∀ a, Q a → Confined E (f a)) :
    Confined E ((liftM p : StateT σ (Program ι ρ) α) >>= f) := by
  intro s
  have hbind : ((liftM p : StateT σ (Program ι ρ) α) >>= f).run s = p >>= fun a => (f a).run s := by
    rw [StateT.run_bind]
    exact Program.bind_assoc' p (fun a => .pure (a, s)) fun r => (f r.1).run r.2
  rw [hbind]
  exact hp.bind_yields hQ fun a ha => hf a ha s

end stateful

/-! ### Invariants

An invariant that every operation of a program keeps holds when the program ends. -/

/-- **The invariant rule**: if all operations `p` can perform are allowed while `I` holds, and
keep it, then `p` keeps it. -/
theorem Only.invariant {E : ι → Prop} {I : G → Prop} {p : Program ι ρ α} {g : G}
    (hp : Only E p)
    (hE : ∀ i, E i → ∀ g, I g → D.allowed g i ∧ ∀ r, D.answers g i r → I (D.next g i r))
    (hg : I g) : Meets D p g fun _ g' => I g' := by
  induction p generalizing g with
  | pure a => exact hg
  | op i k ih =>
    obtain ⟨hallowed, hnext⟩ := hE i hp.1 g hg
    exact ⟨hallowed, fun r hr => ih r (hp.2 r) (hnext r hr)⟩

end Effects
