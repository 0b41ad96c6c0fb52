import Mathlib.Data.List.DropRight
import Mathlib.Logic.Function.Basic
import SwitchOps.InterfacePolicy
import SwitchOps.Lib.Machine

/-!
# The probes of Lab Assurance

`LabAssuranceService` under concurrent calls of `refresh` and `probe`. A refresh copies the probe
results under the lock, builds a state with them outside, and installs it under the lock again; a
probe that completes in between writes its result into the state that is about to be replaced. The
state shows every result exactly as long as each refresh installs the results of that moment.

`γ` is what `build_lab_assurance_state` makes of the observations of the devices.
-/

namespace SwitchOps

open Machines

/-- A probe result, its rates aside. -/
structure PerformanceObservation where
  id : Text
  targetLabel : Text
  targetToken : Text
  transmitted : Nat
  received : Nat
  routeChanged : Option Bool := none
  detail : Text := []
  deriving DecidableEq, Repr

structure LabAssuranceState (γ : Type) where
  graph : γ
  performance : List PerformanceObservation

/-- `build_lab_assurance_state`, of observations that give `graph`. -/
def buildLabAssuranceState {γ : Type} (graph : γ) (performance : List PerformanceObservation) :
    LabAssuranceState γ where
  graph := graph
  performance := performance

/-- `[-50:]` -/
def recentObservations (observations : List PerformanceObservation) : List PerformanceObservation :=
  observations.rtake 50

/-- The key of a target in `_route_signatures`. -/
def targetToken [Digest] (target : Text) : Text := (Digest.sha256 target.strip.casefold).take 16

/-- A call under way. -/
inductive LabCall
  /-- A refresh that still collects. -/
  | collecting
  /-- A refresh that has copied the results. -/
  | building (performance : List PerformanceObservation)
  /-- A probe, and the route signature it was given. -/
  | probing (target : Text) (previous : Option Text)

/-- The service and its calls by the names `ι` of their threads. The results of all completed probes,
in the order of their completion, are a ghost. -/
structure LabService (ι γ : Type) where
  performance : List PerformanceObservation := []
  routeSignatures : Dict Text Text := []
  state : LabAssuranceState γ
  calls : ι → Option LabCall := fun _ => none
  completed : List PerformanceObservation := []

inductive LabAction (ι γ : Type)
  | refresh (t : ι)
  | probe (t : ι) (target : Text)
  /-- `performance = list(self._performance)` -/
  | copy (t : ι)
  /-- `self._state = next_state` -/
  | install (t : ι) (graph : γ)
  /-- The second half of `probe`, with what `run_bounded_probe` returned. -/
  | record (t : ι) (observation : PerformanceObservation) (signature : Option Text)
  /-- A call raises before it has changed anything. -/
  | fail (t : ι)

def sampleObservation : PerformanceObservation where
  id := "probe-1"
  targetLabel := "Gateway"
  targetToken := "0000000000000000"
  transmitted := 4
  received := 4

namespace LabService

variable {ι γ : Type} [DecidableEq ι]

def setCall (s : LabService ι γ) (t : ι) (call : Option LabCall) : LabService ι γ :=
  { s with calls := Function.update s.calls t call }

/-- What a probe stores when it completes. -/
def recordProbe [Digest] (s : LabService ι γ) (target : Text) (observation : PerformanceObservation)
    (signature : Option Text) : LabService ι γ :=
  let performance := recentObservations (s.performance ++ [observation])
  { s with
    performance
    routeSignatures := match signature with
      | some (c :: signature) => s.routeSignatures.set (targetToken target) (c :: signature)
      | _ => s.routeSignatures
    state := { s.state with performance }
    completed := s.completed ++ [observation] }

def step [Digest] (s : LabService ι γ) : LabAction ι γ → Option (LabService ι γ)
  | .refresh t =>
    match s.calls t with
    | none => some (s.setCall t (some .collecting))
    | some _ => none
  | .probe t target =>
    match s.calls t with
    | none => some (s.setCall t (some (.probing target (s.routeSignatures.get? (targetToken target)))))
    | some _ => none
  | .copy t =>
    match s.calls t with
    | some .collecting => some (s.setCall t (some (.building s.performance)))
    | _ => none
  | .install t graph =>
    match s.calls t with
    | some (.building performance) =>
      some ({ s with state := buildLabAssuranceState graph performance }.setCall t none)
    | _ => none
  | .record t observation signature =>
    match s.calls t with
    | some (.probing target _) => some ((s.recordProbe target observation signature).setCall t none)
    | _ => none
  | .fail t =>
    match s.calls t with
    | some _ => some (s.setCall t none)
    | none => none

/-- The service as it is constructed. -/
def initial (graph : γ) : LabService ι γ where
  state := buildLabAssuranceState graph []

/-- The state shows the results of all completed probes, up to the most recent 50. -/
def ShowsProbes (s : LabService ι γ) : Prop :=
  s.state.performance = recentObservations s.completed

/-- The results that an action installs with a state. -/
def installed (s : LabService ι γ) : LabAction ι γ → Option (List PerformanceObservation)
  | .install t _ =>
    match s.calls t with
    | some (.building performance) => some performance
    | _ => none
  | _ => none

/-- No refresh installs results other than those of the moment. -/
def Undisturbed (s : LabService ι γ) (a : LabAction ι γ) : Prop :=
  ∀ performance ∈ s.installed a, performance = s.performance

omit [DecidableEq ι] in
instance (s : LabService ι γ) (a : LabAction ι γ) : Decidable (s.Undisturbed a) :=
  inferInstanceAs (Decidable (∀ performance ∈ s.installed a, _))

/-! ## What a step does -/

omit [DecidableEq ι] in
/-- Results that have been dropped are not missed later. -/
theorem recentObservations_concat (observations : List PerformanceObservation)
    (observation : PerformanceObservation) :
    recentObservations (recentObservations observations ++ [observation]) =
      recentObservations (observations ++ [observation]) := by
  have again : (observations.rtake 50).rtake 49 = observations.rtake 49 := by
    simp [List.rtake_eq_reverse_take_reverse, List.take_take]
  rw [recentObservations, recentObservations, recentObservations, List.rtake_concat_succ,
    List.rtake_concat_succ, again]

/-- What a step can do: begin, go on with or give up a call, install a state, or record a probe. -/
theorem step_cases [Digest] {s u : LabService ι γ} {a : LabAction ι γ} (taken : step s a = some u) :
    (∃ t call, u = s.setCall t call ∧ s.installed a = none) ∨
    (∃ t graph performance, a = .install t graph ∧ s.installed a = some performance ∧
      u = { s with state := buildLabAssuranceState graph performance }.setCall t none) ∨
    (∃ t target observation signature, s.installed a = none ∧
      u = (s.recordProbe target observation signature).setCall t none) := by
  cases a with
  | refresh t | probe t target =>
    cases calls : s.calls t with
    | none => exact .inl ⟨t, _, by simpa [step, calls] using taken.symm, rfl⟩
    | some call => simp [step, calls] at taken
  | fail t =>
    cases calls : s.calls t with
    | none => simp [step, calls] at taken
    | some call => exact .inl ⟨t, none, by simpa [step, calls] using taken.symm, rfl⟩
  | copy t =>
    rcases calls : s.calls t with _ | _ | performance | ⟨target, previous⟩
    case some.collecting => exact .inl ⟨t, _, by simpa [step, calls] using taken.symm, rfl⟩
    all_goals simp [step, calls] at taken
  | install t graph =>
    rcases calls : s.calls t with _ | _ | performance | ⟨target, previous⟩
    case some.building =>
      exact .inr (.inl ⟨t, graph, performance, rfl, by simp [installed, calls],
        by simpa [step, calls] using taken.symm⟩)
    all_goals simp [step, calls] at taken
  | record t observation signature =>
    rcases calls : s.calls t with _ | _ | performance | ⟨target, previous⟩
    case some.probing =>
      exact .inr (.inr ⟨t, target, observation, signature, rfl,
        by simpa [step, calls] using taken.symm⟩)
    all_goals simp [step, calls] at taken

/-- What the service itself remembers is what has been completed, whatever the state shows. -/
theorem step_performance [Digest] {s u : LabService ι γ} {a : LabAction ι γ}
    (kept : s.performance = recentObservations s.completed) (taken : step s a = some u) :
    u.performance = recentObservations u.completed := by
  obtain ⟨t, call, rfl, -⟩ | ⟨t, graph, performance, -, -, rfl⟩ |
    ⟨t, target, observation, signature, -, rfl⟩ := step_cases taken
  · exact kept
  · exact kept
  · show recentObservations (s.performance ++ [observation]) =
      recentObservations (s.completed ++ [observation])
    rw [kept, recentObservations_concat]

/-- A step that installs no other results leaves those shown in step with those remembered. -/
theorem step_shown [Digest] {s u : LabService ι γ} {a : LabAction ι γ}
    (shown : s.state.performance = s.performance) (undisturbed : s.Undisturbed a)
    (taken : step s a = some u) : u.state.performance = u.performance := by
  obtain ⟨t, call, rfl, -⟩ | ⟨t, graph, performance, -, installs, rfl⟩ |
    ⟨t, target, observation, signature, -, rfl⟩ := step_cases taken
  · exact shown
  · exact undisturbed performance installs
  · rfl

/-- An installed state shows the results it was built with. -/
theorem step_install [Digest] {s u : LabService ι γ} {t : ι} {graph : γ}
    (taken : step s (.install t graph) = some u) :
    u.performance = s.performance ∧ s.installed (.install t graph) = some u.state.performance := by
  cases calls : s.installed (.install t graph) with
  | none =>
    have stuck : step s (.install t graph) = none := by
      rcases found : s.calls t with _ | _ | performance | ⟨target, previous⟩ <;>
        simp [step, installed, found] at calls ⊢
    rw [stuck] at taken
    cases taken
  | some performance =>
    obtain ⟨t', call, rfl, none⟩ | ⟨t', graph', performance', -, installs, rfl⟩ |
      ⟨t', target, observation, signature, none, -⟩ := step_cases taken
    · rw [calls] at none
      cases none
    · rw [calls] at installs
      obtain rfl := Option.some_inj.mp installs
      exact ⟨rfl, rfl⟩
    · rw [calls] at none
      cases none

/-! ## What a run keeps -/

variable [Digest] {graph : γ} {s u : LabService ι γ}

theorem remembers {ok : LabService ι γ → LabAction ι γ → Prop} (h : Reaches step ok (initial graph) s) :
    s.performance = recentObservations s.completed := by
  refine h.invariant (I := fun s => s.performance = recentObservations s.completed) rfl ?_
  intro t a u kept _ taken
  exact step_performance kept taken

/-- As long as no refresh installs results that have changed since it copied them, the state shows the
results of all completed probes; and a refresh that does so hides some of them. -/
theorem showsProbes_of_undisturbed :
    (∀ s : LabService ι γ, Reaches step Undisturbed (initial graph) s → s.ShowsProbes) ∧
    ∀ s u : LabService ι γ, ∀ t graph', Reaches step Always (initial graph) s →
      step s (.install t graph') = some u →
      (u.ShowsProbes ↔ s.Undisturbed (.install t graph')) := by
  constructor
  · intro s h
    have shown : s.state.performance = s.performance := by
      refine h.invariant (I := fun s => s.state.performance = s.performance) rfl ?_
      intro t a u shown undisturbed taken
      exact step_shown shown undisturbed taken
    rw [ShowsProbes, shown, remembers h]
  · intro s u t graph' h taken
    obtain ⟨same, installs⟩ := step_install taken
    have known : u.performance = recentObservations u.completed :=
      step_performance (remembers h) taken
    simp only [ShowsProbes, Undisturbed, installs, Option.mem_some_iff, forall_eq', ← known, same]

omit [Digest] in
theorem showsProbes_of_undisturbed_inTurn :
    ∃ s : LabService (Fin 2) Unit, Reaches (@step (Fin 2) Unit _ sampleDigest) Undisturbed (initial ()) s ∧
      s.completed.length = 1 ∧ s.ShowsProbes := by
  obtain ⟨s, reached, completed⟩ :=
    exists_reaches_of_run_guarded (@step (Fin 2) Unit _ sampleDigest) Undisturbed (initial ())
      [.probe 1 "192.0.2.1", .refresh 0, .record 1 sampleObservation none, .copy 0, .install 0 ()]
      (fun s => s.completed.length = 1) (by decide +kernel)
  exact ⟨s, reached, by simpa using completed,
    (@showsProbes_of_undisturbed (Fin 2) Unit _ sampleDigest ()).1 s reached⟩

omit [Digest] in
/-- A probe that completes while a refresh builds its state. -/
theorem not_showsProbes_overtaken :
    ¬ ∀ s : LabService (Fin 2) Unit,
      Reaches (@step (Fin 2) Unit _ sampleDigest) Always (initial ()) s →
        (∀ t, s.calls t = none) → s.ShowsProbes := by
  intro claimed
  obtain ⟨s, reached, overtaken⟩ := exists_reaches_of_run (@step (Fin 2) Unit _ sampleDigest) (initial ())
    [.refresh 0, .copy 0, .probe 1 "192.0.2.1", .record 1 sampleObservation none, .install 0 ()]
    (fun s => (s.calls 0).isNone && (s.calls 1).isNone &&
      decide (s.state.performance ≠ recentObservations s.completed))
    (by decide +kernel)
  simp only [Bool.and_eq_true, Option.isNone_iff_eq_none, decide_eq_true_eq] at overtaken
  obtain ⟨⟨first, second⟩, hidden⟩ := overtaken
  exact hidden (claimed s reached (Fin.forall_fin_two.mpr ⟨first, second⟩))

end LabService

end SwitchOps
