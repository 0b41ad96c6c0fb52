import SwitchOps.Gates.Programs
import SwitchOps.Lib.Locks
import SwitchOps.Lib.Machine
import Mathlib.Logic.Function.Basic

/-!
# The write gates under concurrent calls

Any number of threads, each of which runs one call after another on the two locks, the unlock of
the session and the policy file. Every operation of a call is a step; a thread that takes a lock
which another one holds has no step until it is released. When commands are sent the three gates
are open, and have not been changed since the guards let the call pass; and the threads do not wait
for one another in a circle (`Gatekept`).
-/

namespace SwitchOps

open Effects Effects.Program Locks Machines

/-- The operation that `post_operation` runs; publishing its progress reaches no gate. -/
def operationCall (client : Client) (kind : OperationKind) (interface : Text)
    (value : Option Text) : OperationCall Unit where
  client := client
  kind := kind
  interface := interface
  value := value
  actor := "operator"
  onProgress _ _ := .pure ()
  listens _ _ := trivial

/-- The calls that reach the gates. -/
inductive GateCall
  | lock
  | unlock
  | status
  | requireUnlocked
  | setControlledWrites (enabled : Bool)
  | setState (host interface state : Text)
  | ensureProtected (host interface : Option Text)
  | operation (client : Client) (kind : OperationKind) (interface : Text) (value : Option Text)
  | execute (sessionId : Text) (client : Client)

/-- The program of a call, whose result is of no interest here. -/
def GateCall.program [Digest] : GateCall → Proc Unit
  | .lock => WriteLock.lock
  | .unlock => WriteLock.unlock.run >>= fun _ => .pure ()
  | .status => WriteLock.status >>= fun _ => .pure ()
  | .requireUnlocked => WriteLock.requireUnlocked.run >>= fun _ => .pure ()
  | .setControlledWrites enabled =>
    (InterfacePolicyStore.setControlledWrites enabled).run >>= fun _ => .pure ()
  | .setState host interface state =>
    (InterfacePolicyStore.setState host interface state).run >>= fun _ => .pure ()
  | .ensureProtected host interface =>
    (InterfacePolicyStore.ensureProtected host interface).run >>= fun _ => .pure ()
  | .operation client kind interface value =>
    runOperation (operationCall client kind interface value) () >>= fun _ => .pure ()
  | .execute sessionId client => (SwitchOps.execute sessionId client).run >>= fun _ => .pure ()

/-- The client of a call that reaches the device. -/
def GateCall.client? : GateCall → Option Client
  | .operation client _ _ _ | .execute _ client => some client
  | _ => none

/-- A call under way. What the thread holds, and how often a gate had been changed when the first
guard let the call pass, are ghosts. -/
structure GateThread where
  program : Proc Unit
  hold : Hold := {}
  since : Option Nat := none

/-- The gates, their locks and the threads by their names `ι`; `changes` is a ghost. -/
structure GateSystem (ι : Type) where
  unlocked : Bool := false
  file : PolicyFile
  write : RLock ι := .free
  policy : RLock ι := .free
  threads : ι → Option GateThread := fun _ => none
  changes : Nat := 0

inductive GateAction (ι : Type)
  | call (t : ι) (call : GateCall)
  /-- The next operation of a call. A policy file that could not be written may still have been
  replaced. -/
  | work (t : ι) (answers : (effect : Effect) → Answer effect) (replaced : Bool)
  | finish (t : ι)

namespace GateSystem

variable {ι : Type}

def lock (s : GateSystem ι) : Lock → RLock ι
  | .write => s.write
  | .policy => s.policy

def setLock (s : GateSystem ι) (lock : RLock ι) : Lock → GateSystem ι
  | .write => { s with write := lock }
  | .policy => { s with policy := lock }

/-- The gates answer what is asked of them. -/
def answer (s : GateSystem ι) (answers : (effect : Effect) → Answer effect) :
    (effect : Effect) → Answer effect
  | .readUnlocked => s.unlocked
  | .readPolicy => s.file
  | effect => answers effect

variable [DecidableEq ι]

/-- What an operation of a thread does to the gates, unless the thread has to wait. -/
def affect (s : GateSystem ι) (t : ι) (replaced : Bool) :
    (effect : Effect) → Answer effect → Option (GateSystem ι)
  | .acquire lock, _ => ((s.lock lock).acquire t).map fun held => s.setLock held lock
  | .release lock, _ => ((s.lock lock).release t).map fun held => s.setLock held lock
  | .writeUnlocked value, _ => some { s with unlocked := value, changes := s.changes + 1 }
  | .writePolicy policy, outcome =>
    if (outcome : Except Exn Unit).isOk || replaced then
      some { s with file := .document policy.toJson, changes := s.changes + 1 }
    else some s
  | _, _ => some s

/-- The thread after an operation. -/
def GateThread.perform (th : GateThread) (changes : Nat) (effect : Effect) (answer : Answer effect)
    (program : Proc Unit) : GateThread where
  program := program
  hold := th.hold.next effect answer
  since := match effect with
    | .mark (.authorized _ _) => if th.hold.authorized.isEmpty then some changes else th.since
    | _ => th.since

def step [Digest] (s : GateSystem ι) : GateAction ι → Option (GateSystem ι)
  | .call t call =>
    match s.threads t with
    | none => some { s with threads := Function.update s.threads t (some { program := call.program }) }
    | some _ => none
  | .work t answers replaced =>
    match s.threads t with
    | some th =>
      match th.program with
      | .op effect k =>
        (s.affect t replaced effect (s.answer answers effect)).map fun s' =>
          { s' with threads := Function.update s.threads t (some
            (GateThread.perform th s.changes effect (s.answer answers effect)
              (k (s.answer answers effect)))) }
      | .pure _ => none
    | none => none
  | .finish t =>
    match s.threads t with
    | some th =>
      match th.program with
      | .pure _ => some { s with threads := Function.update s.threads t none }
      | .op _ _ => none
    | none => none

/-- The thread waits for a lock. -/
def Waits (s : GateSystem ι) (t : ι) (lock : Lock) : Prop :=
  ∃ th k, s.threads t = some th ∧ th.program = .op (.acquire lock) k ∧
    (s.lock lock).acquire t = none

def Holds (s : GateSystem ι) (t : ι) (lock : Lock) : Prop := 0 < (s.lock lock).depth t

/-- The commands that a thread is about to send are for an interface that is authorized, every gate
is open for it, and none has been changed since the guards let the call pass. -/
structure Gated [Digest] (s : GateSystem ι) (th : GateThread) (commands : List Text) : Prop where
  unlocked : s.unlocked = true
  operable : ∃ data host canonical line, s.file.load = some data ∧
    data.controlledWritesEnabled = true ∧ commands = configSequence canonical line ∧
    (some host, canonical) ∈ th.hold.authorized ∧ data.stateOf host canonical = .operable
  untouched : th.since = some s.changes

/-- The gates are kept: commands are sent while they are open, there is no circle of threads each of
which waits for a lock that another of them holds, and while a call is under way, some call can go
on whatever it is answered. -/
structure Gatekept [Digest] (s : GateSystem ι) : Prop where
  sends : ∀ t th client commands k, s.threads t = some th →
    th.program = .op (.runRawAction client commands) k → s.Gated th commands
  noCircle : ∀ circle : ι → Prop, (∀ t, circle t → ∃ lock t', s.Waits t lock ∧ s.Holds t' lock ∧
    circle t') → ∀ t, ¬ circle t
  goesOn : ∀ t, s.threads t ≠ none → ∃ t', s.threads t' ≠ none ∧
    ((∀ answers replaced, (s.step (.work t' answers replaced)).isSome) ∨ (s.step (.finish t')).isSome)

/-! ## The invariant -/

/-- What a thread holds and knows agrees with the gates. -/
structure Agrees (s : GateSystem ι) (t : ι) (th : GateThread) : Prop where
  write : th.hold.write = s.write.depth t
  policy : th.hold.policy = s.policy.depth t
  unlocked : ∀ known ∈ th.hold.unlocked, 0 < th.hold.write ∧ s.unlocked = known
  file : ∀ known ∈ th.hold.file, 0 < th.hold.policy ∧ s.file = known
  since : th.hold.authorized ≠ [] →
    0 < th.hold.write ∧ 0 < th.hold.policy ∧ th.since = some s.changes

/-- A call under way keeps to the discipline within its reach, and gives back what it takes. -/
structure Guarded [Digest] (reach : ι → Reach) (s : GateSystem ι) : Prop where
  agrees : ∀ t th, s.threads t = some th → s.Agrees t th
  keeps : ∀ t th, s.threads t = some th → Meets (gated (reach t)) th.program th.hold
    fun _ g => g.write = 0 ∧ g.policy = 0
  idle : ∀ t, s.threads t = none → s.write.depth t = 0 ∧ s.policy.depth t = 0

variable {s s' : GateSystem ι} {t : ι} {th : GateThread} {reach : ι → Reach}

/-- What an operation of another thread does is of no concern, where that holds the lock of what it
changes. -/
theorem Agrees.other {t' : ι} (h : s.Agrees t' th) (other : t' ≠ t) {replaced : Bool}
    {effect : Effect} {answer : Answer effect} (affected : s.affect t replaced effect answer = some s')
    (writes : ∀ value, effect = .writeUnlocked value → 0 < s.write.depth t)
    (writesPolicy : ∀ policy, effect = .writePolicy policy → 0 < s.policy.depth t) :
    s'.Agrees t' th := by
  -- a change of a gate concerns no thread that knows it or was let pass
  have unheldWrite : 0 < s.write.depth t → ¬ 0 < th.hold.write := by
    intro held held'
    rw [h.write] at held'
    exact other (RLock.eq_of_depth held' held)
  have unheldPolicy : 0 < s.policy.depth t → ¬ 0 < th.hold.policy := by
    intro held held'
    rw [h.policy] at held'
    exact other (RLock.eq_of_depth held' held)
  cases effect with
  | acquire lock =>
    obtain ⟨held, taken, rfl⟩ := Option.map_eq_some_iff.mp affected
    have same := (RLock.depth_acquire taken).2 t' other
    cases lock with
    | write => exact { h with write := h.write.trans same.symm }
    | policy => exact { h with policy := h.policy.trans same.symm }
  | release lock =>
    obtain ⟨held, given, rfl⟩ := Option.map_eq_some_iff.mp affected
    have same := (RLock.depth_release given).2 t' other
    cases lock with
    | write => exact { h with write := h.write.trans same.symm }
    | policy => exact { h with policy := h.policy.trans same.symm }
  | writeUnlocked value =>
    obtain rfl := Option.some.inj affected
    have unheld := unheldWrite (writes value rfl)
    exact
      { h with
        unlocked := fun known here => absurd (h.unlocked known here).1 unheld
        since := fun passed => absurd (h.since passed).1 unheld }
  | writePolicy policy =>
    simp only [affect] at affected
    split at affected
    · obtain rfl := Option.some.inj affected
      have unheld := unheldPolicy (writesPolicy policy rfl)
      exact
        { h with
          file := fun known here => absurd (h.file known here).1 unheld
          since := fun passed => absurd (h.since passed).2.1 unheld }
    · obtain rfl := Option.some.inj affected
      exact h
  | _ =>
    obtain rfl := Option.some.inj affected
    exact h

/-- A thread gives back a lock. -/
theorem Agrees.released_write (h : s.Agrees t th) {lock : RLock ι}
    (before : th.hold.write = lock.depth t + 1) {program : Proc Unit} :
    ({ s with write := lock } : GateSystem ι).Agrees t
      { program := program, hold := th.hold.release .write, since := th.since } := by
  by_cases last : th.hold.write = 1
  · have none : th.hold.release .write =
        { th.hold with write := 0, unlocked := none, authorized := [] } := if_pos last
    rw [none]
    exact ⟨by show 0 = lock.depth t; omega, h.policy, by simp, h.file, by simp⟩
  · have again : th.hold.release .write = { th.hold with write := th.hold.write - 1 } := if_neg last
    rw [again]
    exact
      { write := by show th.hold.write - 1 = lock.depth t; omega
        policy := h.policy
        unlocked := fun known here =>
          ⟨by show 0 < th.hold.write - 1; omega, (h.unlocked known here).2⟩
        file := h.file
        since := fun passed => ⟨by show 0 < th.hold.write - 1; omega, (h.since passed).2⟩ }

theorem Agrees.released_policy (h : s.Agrees t th) {lock : RLock ι}
    (before : th.hold.policy = lock.depth t + 1) {program : Proc Unit} :
    ({ s with policy := lock } : GateSystem ι).Agrees t
      { program := program, hold := th.hold.release .policy, since := th.since } := by
  by_cases last : th.hold.policy = 1
  · have none : th.hold.release .policy =
        { th.hold with policy := 0, file := none, authorized := [] } := if_pos last
    rw [none]
    exact ⟨h.write, by show 0 = lock.depth t; omega, h.unlocked, by simp, by simp⟩
  · have again : th.hold.release .policy = { th.hold with policy := th.hold.policy - 1 } :=
      if_neg last
    rw [again]
    exact
      { write := h.write
        policy := by show th.hold.policy - 1 = lock.depth t; omega
        unlocked := h.unlocked
        file := fun known here =>
          ⟨by show 0 < th.hold.policy - 1; omega, (h.file known here).2⟩
        since := fun passed =>
          ⟨(h.since passed).1, by show 0 < th.hold.policy - 1; omega, (h.since passed).2.2⟩ }

variable [Digest]

/-- A thread that performs an allowed operation agrees with the gates afterwards. -/
theorem Agrees.own (h : s.Agrees t th) {replaced : Bool} {effect : Effect} {answers}
    {r : Reach} (allowed : th.hold.allowed r effect)
    (affected : s.affect t replaced effect (s.answer answers effect) = some s') (program : Proc Unit) :
    s'.Agrees t (GateThread.perform th s.changes effect (s.answer answers effect) program) := by
  cases effect with
  | acquire lock =>
    obtain ⟨held, taken, rfl⟩ := Option.map_eq_some_iff.mp affected
    have deeper := (RLock.depth_acquire taken).1
    cases lock with
    | write =>
      exact
        { h with
          write := (congrArg (· + 1) h.write).trans deeper.symm
          unlocked := fun known here => ⟨Nat.succ_pos _, (h.unlocked known here).2⟩
          since := fun passed => ⟨Nat.succ_pos _, (h.since passed).2⟩ }
    | policy =>
      exact
        { h with
          policy := (congrArg (· + 1) h.policy).trans deeper.symm
          file := fun known here => ⟨Nat.succ_pos _, (h.file known here).2⟩
          since := fun passed => ⟨(h.since passed).1, Nat.succ_pos _, (h.since passed).2.2⟩ }
  | release lock =>
    obtain ⟨held, given, rfl⟩ := Option.map_eq_some_iff.mp affected
    have deeper := (RLock.depth_release given).1
    cases lock with
    | write =>
      have before : th.hold.write = held.depth t + 1 := h.write.trans deeper
      exact h.released_write before
    | policy =>
      have before : th.hold.policy = held.depth t + 1 := h.policy.trans deeper
      exact h.released_policy before
  | readUnlocked =>
    obtain rfl := Option.some.inj affected
    refine { h with unlocked := ?_ }
    rintro _ ⟨⟩
    exact ⟨allowed, rfl⟩
  | writeUnlocked value =>
    obtain rfl := Option.some.inj affected
    refine { h with unlocked := ?_, since := fun passed => absurd allowed.2 passed }
    rintro _ ⟨⟩
    exact ⟨allowed.1, rfl⟩
  | readPolicy =>
    obtain rfl := Option.some.inj affected
    refine { h with file := ?_ }
    rintro _ ⟨⟩
    exact ⟨allowed, rfl⟩
  | writePolicy policy =>
    simp only [affect] at affected
    unfold GateThread.perform Hold.next
    cases outcome : s.answer answers (.writePolicy policy) with
    | ok _ =>
      obtain rfl : _ = s' := by simpa [outcome, Except.isOk, Except.toBool] using affected
      refine { h with file := ?_, since := fun passed => absurd allowed.2 passed }
      rintro _ ⟨⟩
      exact ⟨allowed.1, rfl⟩
    | error _ =>
      split at affected
      · obtain rfl := Option.some.inj affected
        exact { h with file := by simp, since := fun passed => absurd allowed.2 passed }
      · obtain rfl := Option.some.inj affected
        exact { h with file := by simp, since := fun passed => absurd allowed.2 passed }
  | mark mark =>
    obtain rfl := Option.some.inj affected
    cases mark with
    | authorized host canonical =>
      obtain ⟨-, -, write, policy⟩ := allowed
      refine { h with since := fun _ => ⟨write, policy, ?_⟩ }
      simp only [GateThread.perform]
      split
      · rfl
      · next passed => exact (h.since (by simpa using passed)).2.2
    | _ => exact { h with }
  | _ =>
    obtain rfl := Option.some.inj affected
    exact { h with }

omit [Digest] in
/-- An operation leaves alone how often the other threads hold the locks. -/
theorem depth_of_affect {replaced : Bool} {effect : Effect} {answer : Answer effect}
    (affected : s.affect t replaced effect answer = some s') {t' : ι} (other : t' ≠ t) :
    s'.write.depth t' = s.write.depth t' ∧ s'.policy.depth t' = s.policy.depth t' := by
  cases effect with
  | acquire lock =>
    obtain ⟨held, taken, rfl⟩ := Option.map_eq_some_iff.mp affected
    have same := (RLock.depth_acquire taken).2 t' other
    cases lock with
    | write => exact ⟨same, rfl⟩
    | policy => exact ⟨rfl, same⟩
  | release lock =>
    obtain ⟨held, given, rfl⟩ := Option.map_eq_some_iff.mp affected
    have same := (RLock.depth_release given).2 t' other
    cases lock with
    | write => exact ⟨same, rfl⟩
    | policy => exact ⟨rfl, same⟩
  | writePolicy policy =>
    simp only [affect] at affected
    split at affected
    all_goals
      obtain rfl := Option.some.inj affected
      exact ⟨rfl, rfl⟩
  | _ =>
    obtain rfl := Option.some.inj affected
    exact ⟨rfl, rfl⟩

theorem GateCall.program_gated {r : Reach} (call : GateCall)
    (own : ∀ client ∈ call.client?, r.clients client) :
    Meets (gated r) call.program {} fun _ g => g.write = 0 ∧ g.policy = 0 := by
  cases call with
  | lock => exact writeUnlocked_gated false
  | unlock => exact meets_bind.mpr unlock_gated
  | status => exact meets_bind.mpr status_gated
  | requireUnlocked => exact meets_bind.mpr requireUnlocked_gated
  | setControlledWrites enabled => exact meets_bind.mpr (setControlledWrites_gated enabled)
  | setState host interface state => exact meets_bind.mpr (setState_gated host interface state)
  | ensureProtected host interface => exact meets_bind.mpr (ensureProtected_gated host interface)
  | operation client kind interface value =>
    refine meets_bind.mpr (Meets.mono (runOperation_gated knowsPolicy_nothing knowsUnlocked_nothing
      (.inl rfl) (by simp [Hold.Planned]) (own client rfl) fun _ _ => trivial) ?_)
    rintro _ _ ⟨authorized, rfl⟩
    exact ⟨rfl, rfl⟩
  | execute sessionId client => exact meets_bind.mpr (execute_gated (own client rfl))

/-- A call sends through clients within the reach of its thread, and a configured host that it reads
is within it. -/
def Within (reach : ι → Reach) (s : GateSystem ι) : GateAction ι → Prop
  | .call t call => ∀ client ∈ call.client?, (reach t).clients client
  | .work t answers _ => ∀ th, s.threads t = some th →
    (∃ k, th.program = .op .switchHost k) → (reach t).hosts (answers .switchHost)
  | .finish _ => True

namespace Guarded

theorem initial (file : PolicyFile) : Guarded reach ({ file := file } : GateSystem ι) where
  agrees := by simp
  keeps := by simp
  idle _ _ := ⟨rfl, rfl⟩

/-- A thread that performs its next operation. -/
theorem work (h : s.Guarded reach) {replaced : Bool} {effect : Effect} {k : Answer effect → Proc Unit}
    {answers : (effect : Effect) → Answer effect} (here : s.threads t = some th)
    (next : th.program = .op effect k)
    (configured : effect = .switchHost → (reach t).hosts (answers .switchHost))
    (affected : s.affect t replaced effect (s.answer answers effect) = some s') :
    Guarded reach { s' with threads := Function.update s.threads t (some
      (GateThread.perform th s.changes effect (s.answer answers effect)
        (k (s.answer answers effect)))) } := by
  have agrees := h.agrees t th here
  have keeps := h.keeps t th here
  rw [next] at keeps
  obtain ⟨allowed, goesOn⟩ := keeps
  have answered : (gated (reach t)).answers th.hold effect (s.answer answers effect) := by
    cases effect with
    | switchHost => exact configured rfl
    | readUnlocked => exact fun known here => (agrees.unlocked known here).2
    | readPolicy => exact fun known here => (agrees.file known here).2
    | _ => trivial
  refine ⟨fun t' th' there => ?_, fun t' th' there => ?_, fun t' none => ?_⟩
  all_goals by_cases same : t' = t
  · subst same
    simp only [Function.update_self, Option.some.injEq] at there
    subst there
    exact { agrees.own allowed affected (k (s.answer answers effect)) with }
  · simp only [Function.update_of_ne same] at there
    have writes : ∀ value, effect = .writeUnlocked value → 0 < s.write.depth t := by
      rintro value rfl
      exact agrees.write ▸ allowed.1
    have writesPolicy : ∀ policy, effect = .writePolicy policy → 0 < s.policy.depth t := by
      rintro policy rfl
      exact agrees.policy ▸ allowed.1
    exact { (h.agrees t' th' there).other same affected writes writesPolicy with }
  · subst same
    simp only [Function.update_self, Option.some.injEq] at there
    subst there
    exact goesOn _ answered
  · simp only [Function.update_of_ne same] at there
    exact h.keeps t' th' there
  · subst same
    simp at none
  · simp only [Function.update_of_ne same] at none
    obtain ⟨write, policy⟩ := depth_of_affect affected same
    exact ⟨write.trans (h.idle t' none).1, policy.trans (h.idle t' none).2⟩

/-- Every step within the reach of its thread keeps the invariant. -/
theorem step (h : s.Guarded reach) {a : GateAction ι} (within : s.Within reach a)
    (taken : s.step a = some s') : s'.Guarded reach := by
  cases a with
  | call t call =>
    simp only [GateSystem.step] at taken
    split at taken
    · next unused =>
      obtain rfl := Option.some.inj taken
      refine ⟨fun t' th' there => ?_, fun t' th' there => ?_, fun t' none => ?_⟩
      all_goals by_cases same : t' = t
      · subst same
        simp only [Function.update_self, Option.some.injEq] at there
        subst there
        exact ⟨(h.idle t' unused).1.symm, (h.idle t' unused).2.symm, by simp, by simp, by simp⟩
      · simp only [Function.update_of_ne same] at there
        exact { h.agrees t' th' there with }
      · subst same
        simp only [Function.update_self, Option.some.injEq] at there
        subst there
        exact GateCall.program_gated call within
      · simp only [Function.update_of_ne same] at there
        exact h.keeps t' th' there
      · subst same
        simp at none
      · simp only [Function.update_of_ne same] at none
        exact h.idle t' none
    · cases taken
  | work t answers replaced =>
    simp only [GateSystem.step] at taken
    split at taken
    · next th here =>
      split at taken
      · next effect k next =>
        obtain ⟨affected, does, rfl⟩ := Option.map_eq_some_iff.mp taken
        exact h.work here next (fun same => within th here (by subst same; exact ⟨k, next⟩)) does
      · cases taken
    · cases taken
  | finish t =>
    simp only [GateSystem.step] at taken
    split at taken
    · next th here =>
      split at taken
      · next ended =>
        obtain rfl := Option.some.inj taken
        refine ⟨fun t' th' there => ?_, fun t' th' there => ?_, fun t' none => ?_⟩
        all_goals by_cases same : t' = t
        · subst same
          simp at there
        · simp only [Function.update_of_ne same] at there
          exact { h.agrees t' th' there with }
        · subst same
          simp at there
        · simp only [Function.update_of_ne same] at there
          exact h.keeps t' th' there
        · subst same
          have agrees := h.agrees t' th here
          have released := h.keeps t' th here
          rw [ended] at released
          exact ⟨agrees.write.symm.trans released.1, agrees.policy.symm.trans released.2⟩
        · simp only [Function.update_of_ne same] at none
          exact h.idle t' none
      · cases taken
    · cases taken

/-- The commands of a transaction. -/
theorem sends (h : s.Guarded reach) {client : Client} {commands : List Text}
    {k : Except Exn Text → Proc Unit} (here : s.threads t = some th)
    (next : th.program = .op (.runRawAction client commands) k) : s.Gated th commands := by
  have agrees := h.agrees t th here
  have keeps := h.keeps t th here
  rw [next] at keeps
  obtain ⟨unlocked, file, data, host, canonical, line, known, loaded, enabled, passed, sequence,
    operable⟩ := keeps.1.2.1
  refine ⟨(agrees.unlocked true unlocked).2, ?_, ?_⟩
  · rw [(agrees.file file known).2]
    exact ⟨data, host, canonical, line, loaded, enabled, sequence, passed, operable⟩
  · exact (agrees.since (List.ne_nil_of_mem passed)).2.2

/-- A thread waits only for a lock above those it holds. -/
theorem ordered (h : s.Guarded reach) {lock lock' : Lock} (holds : s.Holds t lock)
    (waits : s.Waits t lock') : lock = .write ∧ lock' = .policy := by
  obtain ⟨th, k, here, next, blocked⟩ := waits
  have agrees := h.agrees t th here
  have keeps := h.keeps t th here
  rw [next] at keeps
  have unheld := (RLock.acquire_eq_none.mp blocked).1
  cases lock' with
  | write =>
    -- the write lock is not taken under the policy lock
    have free : th.hold.policy = 0 := by
      obtain free | held := keeps.1
      · exact free
      · exact absurd (agrees.write.trans unheld) (Nat.pos_iff_ne_zero.mp held)
    cases lock with
    | write => exact absurd unheld (Nat.pos_iff_ne_zero.mp holds)
    | policy => exact absurd (agrees.policy.symm.trans free) (Nat.pos_iff_ne_zero.mp holds)
  | policy =>
    cases lock with
    | write => exact ⟨rfl, rfl⟩
    | policy => exact absurd unheld (Nat.pos_iff_ne_zero.mp holds)

theorem noCircle (h : s.Guarded reach) {circle : ι → Prop}
    (closed : ∀ t, circle t → ∃ lock t', s.Waits t lock ∧ s.Holds t' lock ∧ circle t') (t : ι) :
    ¬ circle t := by
  let rank : Lock → Nat
    | .write => 0
    | .policy => 1
  refine @not_deadlocked _ _ _ _ rank 1 ?_ ?_ _ closed t
  · intro lock
    cases lock <;> decide
  · intro t lock lock' holds waits
    obtain ⟨rfl, rfl⟩ := h.ordered holds waits
    exact Nat.zero_lt_one

/-- A call under way goes on, unless it waits for a lock. -/
theorem goesOn_or_waits (h : s.Guarded reach) (here : s.threads t = some th) :
    ((∀ answers replaced, (s.step (.work t answers replaced)).isSome) ∨
      (s.step (.finish t)).isSome) ∨ ∃ lock, s.Waits t lock := by
  have agrees := h.agrees t th here
  have keeps := h.keeps t th here
  cases next : th.program with
  | pure _ => exact .inl (.inr (by simp [GateSystem.step, here, next]))
  | op effect k =>
    rw [next] at keeps
    -- only a lock keeps it from its next operation
    cases effect with
    | acquire lock =>
      cases taken : (s.lock lock).acquire t with
      | none => exact .inr ⟨lock, th, k, here, next, taken⟩
      | some held =>
        exact .inl (.inl fun _ _ => by simp [GateSystem.step, here, next, affect, taken])
    | release lock =>
      have held : 0 < (s.lock lock).depth t := by
        cases lock with
        | write => exact agrees.write ▸ keeps.1
        | policy => exact agrees.policy ▸ keeps.1
      obtain ⟨lock', given⟩ := RLock.release_of_depth held
      exact .inl (.inl fun _ _ => by simp [GateSystem.step, here, next, affect, given])
    | writePolicy policy =>
      refine .inl (.inl fun _ _ => ?_)
      simp only [GateSystem.step, here, next, affect, Option.isSome_map]
      split <;> rfl
    | _ => exact .inl (.inl fun _ _ => by simp [GateSystem.step, here, next, affect])

theorem goesOn (h : s.Guarded reach) (here : s.threads t ≠ none) : ∃ t', s.threads t' ≠ none ∧
    ((∀ answers replaced, (s.step (.work t' answers replaced)).isSome) ∨
      (s.step (.finish t')).isSome) := by
  by_contra stuck
  refine h.noCircle (?_ : ∀ t', s.threads t' ≠ none → ∃ lock t'', s.Waits t' lock ∧ s.Holds t'' lock ∧
    s.threads t'' ≠ none) t here
  intro t' underWay
  obtain ⟨th, there⟩ := Option.ne_none_iff_exists'.mp underWay
  obtain goes | ⟨lock, waits⟩ := h.goesOn_or_waits there
  · exact absurd ⟨t', underWay, goes⟩ stuck
  · have ⟨_, _, _, _, blocked⟩ := waits
    obtain ⟨holder, holds⟩ := (RLock.acquire_eq_none.mp blocked).2
    refine ⟨lock, holder, waits, holds, fun none => ?_⟩
    -- a thread that holds a lock has a call under way
    obtain ⟨write, policy⟩ := h.idle holder none
    cases lock with
    | write => exact absurd write (Nat.pos_iff_ne_zero.mp holds)
    | policy => exact absurd policy (Nat.pos_iff_ne_zero.mp holds)

end Guarded

/-- **Write gating**: in every state that any interleaving of the calls reaches, from any policy
file, the gates are kept. -/
theorem gatekept_of_reaches {file : PolicyFile}
    (h : Reaches step Always ({ file := file } : GateSystem ι) s) : s.Gatekept := by
  let everywhere (_ : ι) : Reach := ⟨fun _ => True, fun _ => True⟩
  have within (s : GateSystem ι) (a : GateAction ι) : s.Within everywhere a := by
    cases a with
    | call t call => exact fun _ _ => trivial
    | work t answers replaced => exact fun _ _ _ => trivial
    | finish t => trivial
  have guarded : s.Guarded everywhere :=
    h.invariant (Guarded.initial file) fun s a _ keeps _ taken => keeps.step (within s a) taken
  exact ⟨fun _ _ _ _ _ here next => guarded.sends here next, fun _ closed => guarded.noCircle closed,
    fun _ underWay => guarded.goesOn underWay⟩

/-- A policy that allows the port of `disableCall` to be changed. -/
def operableFile : PolicyFile := .document (InterfacePolicy.toJson ⟨true,
  [(@deviceKey sampleDigest sampleHost, [("GigabitEthernet1/0/6", .operable)])]⟩)

/-- The last thread waits for the write lock. -/
def waitsForLock (s : GateSystem (Fin 3)) : Bool := match s.threads 2 with
  | some ⟨.op (.acquire .write) _, _, _⟩ => (s.write.acquire 2).isNone
  | _ => false

/-- The operation of the middle thread is about to send its commands. -/
def sendsCommands (s : GateSystem (Fin 3)) : Bool := match s.threads 1 with
  | some ⟨.op (.runRawAction _ _) _, _, since⟩ => since == some 1
  | _ => false

omit [Digest] in
/-- The session is unlocked, and an operation comes to send its commands while a thread that is to
lock the session waits. -/
theorem gatekept_of_operation : ∃ s : GateSystem (Fin 3), @Gatekept _ _ sampleDigest s ∧
    s.Waits 2 .write ∧ ∃ th client commands k, s.threads 1 = some th ∧
      th.program = .op (.runRawAction client commands) k ∧ th.since = some 1 := by
  let answers (effect : Effect) : Answer effect := (answering [] effect ()).1
  let works (t : Fin 3) (n : Nat) : List (GateAction (Fin 3)) :=
    List.replicate n (.work t answers false)
  obtain ⟨s, reached, ended⟩ := exists_reaches_of_run (@step (Fin 3) _ sampleDigest)
    { file := operableFile } ([.call 0 .unlock] ++ works 0 6 ++ [.finish 0,
      .call 1 (.operation ⟨sampleHost⟩ .adminDown "Gi1/0/6" none), .call 2 .lock] ++ works 1 33)
    (fun s => waitsForLock s && sendsCommands s) (by decide +kernel)
  obtain ⟨waiting, sending⟩ := Bool.and_eq_true_iff.mp ended
  refine ⟨s, @gatekept_of_reaches _ _ _ sampleDigest _ reached, ?_, ?_⟩
  · simp only [waitsForLock] at waiting
    split at waiting
    · next k hold since there => exact ⟨_, k, there, rfl, by simpa [lock] using waiting⟩
    · cases waiting
  · simp only [sendsCommands] at sending
    split at sending
    · next client commands k hold since here =>
      exact ⟨_, client, commands, k, here, rfl, by simpa using sending⟩
    · cases sending

end GateSystem

end SwitchOps
