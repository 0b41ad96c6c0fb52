import SwitchOps.Sessions.Server
import Mathlib.Data.Fintype.Fin

/-!
# Terminal sessions

A session whose stored status is terminal is an audit record: no later call is to change it, and
only the execution under way may change a session that is under way (`Terminality`), so that the
operation of a session is started at most once. The fallback of a preflight stores `blocked` without
looking at the status, and that of an execution looks before it stores; so this holds in the runs
in which neither stores over a session that has been started (`terminality_of_reaches`).
-/

namespace SwitchOps

open Effects Effects.Program Machines

namespace ChangeServer

variable {ι : Type}

/-! ## The invariant -/

/-- What is stored of the session of a job, by the phase of the job. -/
def Stands (store : ChangeStore) (started : List Text) (id : Text) : JobPhase → Prop
  | .unread | .ended => True
  | .idle => ∃ session, store.get id = some session ∧ session.status.notStarted = true
  | .underWay => (∃ session, store.get id = some session ∧ session.status.inFlight = true) ∧
      id ∉ started
  | .operating => (∃ session, store.get id = some session ∧ session.status.inFlight = true) ∧
      id ∈ started

/-- The job of the worker keeps to its discipline, from a phase that agrees with the store. -/
def Disciplined (store : ChangeStore) (started : List Text) (running : RunningJob ι) : Prop :=
  ∃ phase, Meets (conduct (running.job = .execute) running.id) running.program phase
      (fun _ _ => True) ∧
    Stands store started running.id phase ∧
    (phase = .underWay ∨ phase = .operating → running.job = .execute)

structure Conducted (s : ChangeServer ι) : Prop where
  consistent : s.store.Consistent
  worker : ∀ running, s.worker = some running → Disciplined s.store s.started running
  fallbacks : ∀ r p, s.calls r = .fallback p → Only (fun effect => effect.blocks = true) p
  once : s.started.Nodup
  started : ∀ id ∈ s.started, ∃ session, s.store.get id = some session ∧
    session.status.notStarted = false
  sent : ∀ id ∈ s.sent, id ∈ s.started

/-- What the stored session of a job is, at an operation of it that stores one. -/
theorem Disciplined.before {store : ChangeStore} {started : List Text} {running : RunningJob ι}
    (h : Disciplined store started running) {session : ChangeSession}
    {k : Unit → Proc (Except Exn ChangeSession)}
    (here : running.program = .op (.storeSave session) k) :
    session.id = running.id ∧ ∃ stored, store.get running.id = some stored ∧
      (stored.status.notStarted = true ∨
        stored.status.inFlight = true ∧ running.job = .execute) := by
  obtain ⟨phase, keeps, stands, executes⟩ := h
  rw [here] at keeps
  obtain ⟨own, stores⟩ := keeps.1
  refine ⟨own, ?_⟩
  cases phase with
  | unread | ended => cases stores
  | idle =>
    obtain ⟨stored, found, notStarted⟩ := stands
    exact ⟨stored, found, .inl notStarted⟩
  | underWay =>
    obtain ⟨⟨stored, found, inFlight⟩, -⟩ := stands
    exact ⟨stored, found, .inr ⟨inFlight, executes (.inl rfl)⟩⟩
  | operating =>
    obtain ⟨⟨stored, found, inFlight⟩, -⟩ := stands
    exact ⟨stored, found, .inr ⟨inFlight, executes (.inr rfl)⟩⟩

/-- The stored session of a job stands as before, as far as it is stored as before. -/
theorem Disciplined.of_get {store store' : ChangeStore} {started : List Text}
    {running : RunningJob ι} (h : Disciplined store started running)
    (idle : ∀ session, store.get running.id = some session → session.status.notStarted = true →
      ∃ session', store'.get running.id = some session' ∧ session'.status.notStarted = true)
    (inFlight : ∀ session, store.get running.id = some session → session.status.inFlight = true →
      store'.get running.id = some session) : Disciplined store' started running := by
  obtain ⟨phase, keeps, stands, executes⟩ := h
  refine ⟨phase, keeps, ?_, executes⟩
  cases phase with
  | unread | ended => trivial
  | idle =>
    obtain ⟨session, found, notStarted⟩ := stands
    exact idle session found notStarted
  | underWay | operating =>
    obtain ⟨⟨session, found, under⟩, entered⟩ := stands
    exact ⟨⟨session, inFlight session found under, under⟩, entered⟩

namespace Conducted

variable {s t : ChangeServer ι}

theorem initial : Conducted ({} : ChangeServer ι) where
  consistent := ChangeStore.consistent_nil
  worker := by simp
  fallbacks := by simp
  once := List.nodup_nil
  started := by simp
  sent := by simp

/-- A step that only concerns the requests, and may end the job of the worker. -/
theorem pass (h : Conducted s) (store : t.store = s.store) (started : t.started = s.started)
    (sent : t.sent = s.sent) (worker : t.worker = none ∨ t.worker = s.worker)
    (fallbacks : ∀ r p, t.calls r = .fallback p → Only (fun effect => effect.blocks = true) p) :
    Conducted t where
  consistent := store ▸ h.consistent
  worker running here := by
    obtain gone | same := worker
    · rw [gone] at here
      cases here
    · rw [store, started]
      exact h.worker running (same ▸ here)
  fallbacks := fallbacks
  once := started ▸ h.once
  started := by rw [store, started]; exact h.started
  sent := by rw [started, sent]; exact h.sent

/-- A request goes on. -/
theorem fallbacks_set [DecidableEq ι] (h : Conducted s) {r : ι} {call : SessionCall}
    (own : ∀ p, call = .fallback p → Only (fun effect => effect.blocks = true) p) :
    ∀ r' p, (s.set r call).calls r' = .fallback p → Only (fun effect => effect.blocks = true) p := by
  intro r' p here
  by_cases same : r' = r
  · subst same
    rw [show (s.set r' call).calls r' = call from Function.update_self ..] at here
    exact own p here
  · rw [show (s.set r call).calls r' = s.calls r' from Function.update_of_ne same ..] at here
    exact h.fallbacks r' p here

theorem afterJob_only {job : SessionJob} {id : Text} {waits : Bool}
    {outcome : Except Exn ChangeSession} {p : Proc (Except Exn ChangeSession)}
    (h : afterJob job id waits outcome = .fallback p) :
    Only (fun effect => effect.blocks = true) p := by
  cases outcome with
  | ok _ => cases h
  | error exc =>
    simp only [afterJob] at h
    split at h
    · cases h
      cases job with
      | preflight => exact blockPreflightUnavailable_only coversBlocking_blocks id
      | execute => exact blockBeforeExecution_only coversBlocking_blocks id _
    · cases h

/-- A session is stored that has not been started, over none or over one that has not been. -/
theorem write (h : Conducted s) {session : ChangeSession}
    (fresh : ∀ stored, s.store.get session.id = some stored → stored.status.notStarted = true)
    (notStarted : session.status.notStarted = true) :
    Conducted { s with store := s.store.write session } where
  consistent := h.consistent.write session
  worker running here := by
    refine (h.worker running here).of_get (fun stored found idle => ?_)
      fun stored found inFlight => ?_
    · by_cases same : session.id = running.id
      · exact ⟨session, same ▸ ChangeStore.get_write_self _ _, notStarted⟩
      · exact ⟨stored, (ChangeStore.get_write_ne _ same).trans found, idle⟩
    · have other : session.id ≠ running.id := by
        intro same
        have := fresh stored (same ▸ found)
        rw [ChangeSessionStatus.notStarted_iff, inFlight] at this
        cases this.1
      exact (ChangeStore.get_write_ne _ other).trans found
  fallbacks := h.fallbacks
  once := h.once
  started id entered := by
    obtain ⟨stored, found, begun⟩ := h.started id entered
    have other : session.id ≠ id := by
      intro same
      rw [fresh stored (same ▸ found)] at begun
      cases begun
    exact ⟨stored, (ChangeStore.get_write_ne _ other).trans found, begun⟩
  sent := h.sent

/-- The sessions that have been started stay so, whatever their execution stores. -/
theorem started_write (h : Conducted s) {session : ChangeSession}
    (ended : session.id ∈ s.started → session.status.notStarted = false) :
    ∀ id ∈ s.started, ∃ stored, (s.store.write session).get id = some stored ∧
      stored.status.notStarted = false := by
  intro id entered
  by_cases same : session.id = id
  · subst same
    exact ⟨session, ChangeStore.get_write_self _ _, ended entered⟩
  · obtain ⟨stored, found, begun⟩ := h.started id entered
    exact ⟨stored, (ChangeStore.get_write_ne _ same).trans found, begun⟩

/-- A session that has not been started is not among the started. -/
theorem not_mem_started (h : Conducted s) {id : Text} {session : ChangeSession}
    (found : s.store.get id = some session) (notStarted : session.status.notStarted = true) :
    id ∉ s.started := by
  intro entered
  obtain ⟨stored, found', begun⟩ := h.started id entered
  rw [found] at found'
  cases found'
  rw [notStarted] at begun
  cases begun

/-- The job of the worker reads its session. -/
theorem stands_next_get (store : ChangeStore) (started : List Text) (id : Text) :
    Stands store started id (JobPhase.next .unread (.storeGet id) (store.get id)) ∧
      JobPhase.next .unread (.storeGet id) (store.get id) ≠ .underWay ∧
      JobPhase.next .unread (.storeGet id) (store.get id) ≠ .operating := by
  cases found : store.get id with
  | none => exact ⟨trivial, by rintro ⟨⟩, by rintro ⟨⟩⟩
  | some session =>
    simp only [JobPhase.next]
    split
    · next notStarted => exact ⟨⟨session, found, notStarted⟩, by rintro ⟨⟩, by rintro ⟨⟩⟩
    · exact ⟨trivial, by rintro ⟨⟩, by rintro ⟨⟩⟩

/-- What the job of the worker has stored stands in its next phase. -/
theorem stands_next_save (h : Conducted s) {session : ChangeSession} {phase : JobPhase}
    {executes : Bool} (stands : Stands s.store s.started session.id phase)
    (stores : phase.stores executes session.status = true) :
    Stands (s.store.write session) s.started session.id (phase.next (.storeSave session) ()) ∧
      (phase.next (.storeSave session) () = .underWay ∨
        phase.next (.storeSave session) () = .operating →
        executes = true ∨ phase = .underWay ∨ phase = .operating) ∧
      (session.id ∈ s.started → session.status.notStarted = false) := by
  have found := ChangeStore.get_write_self s.store session
  cases phase with
  | unread | ended => cases stores
  | idle =>
    obtain ⟨stored, before, notStarted⟩ := stands
    have fresh := h.not_mem_started before notStarted
    refine ⟨?_, ?_, fun entered => absurd entered fresh⟩
    · simp only [JobPhase.next]
      split
      · next inFlight => exact ⟨⟨session, found, inFlight⟩, fresh⟩
      · next idle =>
        refine ⟨session, found, ?_⟩
        simpa [JobPhase.stores, idle] using stores
    · simp only [JobPhase.next]
      split
      · next inFlight =>
        intro _
        have : session.status.notStarted = false := by
          cases status : session.status <;> simp_all [ChangeSessionStatus.inFlight,
            ChangeSessionStatus.notStarted]
        left
        simpa [JobPhase.stores, this, inFlight] using stores
      · simp
  | underWay =>
    obtain ⟨-, fresh⟩ := stands
    refine ⟨?_, fun _ => .inr (.inl rfl), fun entered => absurd entered fresh⟩
    simp only [JobPhase.next]
    split
    · next inFlight => exact ⟨⟨session, found, inFlight⟩, fresh⟩
    · trivial
  | operating =>
    obtain ⟨-, entered⟩ := stands
    refine ⟨?_, fun _ => .inr (.inr rfl), fun _ => ?_⟩
    · simp only [JobPhase.next]
      split
      · next inFlight => exact ⟨⟨session, found, inFlight⟩, entered⟩
      · trivial
    · cases status : session.status <;>
        simp_all [JobPhase.stores, ChangeSessionStatus.inFlight, ChangeSessionStatus.terminal,
          ChangeSessionStatus.notStarted]

/-- The worker performs an operation of its job that has nothing to do with the session. -/
theorem perform_aside (running : RunningJob ι) {effect : Effect} (aside : effect.aside = true)
    (program : Proc (Except Exn ChangeSession)) :
    s.perform running effect program =
      { s with worker := some { running with program := program } } := by
  cases effect with
  | mark mark => cases mark <;> first | rfl | cases aside
  | storeGet _ | storeSave _ | runRawAction _ _ => cases aside
  | _ => rfl

/-- The worker performs the next operation of its job. -/
theorem work (h : Conducted s) {running : RunningJob ι} (answers : Answers) {effect : Effect}
    {k : Answer effect → Proc (Except Exn ChangeSession)} (here : s.worker = some running)
    (next : running.program = .op effect k) :
    Conducted (s.perform running effect (k (respond s.store answers effect))) := by
  obtain ⟨phase, keeps, stands, executes⟩ := h.worker running here
  rw [next] at keeps
  obtain ⟨allowed, goesOn⟩ := keeps
  by_cases aside : effect.aside = true
  · rw [perform_aside running aside]
    have answered : (conduct (running.job = .execute) running.id).answers phase effect
        (respond s.store answers effect) := by
      cases effect <;> trivial
    have same := (@conduct_aside (running.job = .execute) running.id _
      aside phase).2 (respond s.store answers effect)
    refine { h with worker := ?_ }
    rintro _ ⟨⟩
    exact ⟨phase, same ▸ goesOn _ answered, stands, executes⟩
  · cases effect with
    | storeGet id =>
      obtain ⟨rfl, rfl⟩ := allowed
      obtain ⟨stands', notUnderWay, notOperating⟩ := stands_next_get s.store s.started running.id
      refine { h with worker := ?_ }
      rintro _ ⟨⟩
      refine ⟨_, goesOn _ (fun session found => ?_), stands', ?_⟩
      · obtain ⟨row, stored, rfl⟩ := ChangeStore.get_eq_some.mp found
        exact (h.consistent.row _ row stored).2.1
      · rintro (under | operating)
        · exact absurd under notUnderWay
        · exact absurd operating notOperating
    | storeSave session =>
      obtain ⟨own, stores⟩ := allowed
      rw [← own] at stands
      obtain ⟨stands', executes', ended⟩ := h.stands_next_save stands stores
      refine
        { consistent := h.consistent.write session
          worker := ?_
          fallbacks := h.fallbacks
          once := h.once
          started := h.started_write ended
          sent := h.sent }
      rintro _ ⟨⟩
      refine ⟨_, goesOn () trivial, own ▸ stands', fun under => ?_⟩
      obtain execute | before := executes' under
      · simpa using execute
      · exact executes before
    | mark mark =>
      cases mark with
      | operationStarted =>
        obtain rfl : phase = .underWay := allowed
        obtain ⟨⟨session, found, inFlight⟩, fresh⟩ := stands
        have begun : session.status.notStarted = false := by
          cases status : session.status <;> simp_all [ChangeSessionStatus.inFlight,
            ChangeSessionStatus.notStarted]
        refine
          { h with
            worker := ?_
            once := List.nodup_cons.mpr ⟨fresh, h.once⟩
            started := ?_
            sent := fun id mem => List.mem_cons_of_mem _ (h.sent id mem) }
        · rintro _ ⟨⟩
          exact ⟨.operating, goesOn () trivial, ⟨⟨session, found, inFlight⟩, List.mem_cons_self⟩,
            fun _ => executes (.inl rfl)⟩
        · intro id mem
          obtain rfl | mem := List.mem_cons.mp mem
          · exact ⟨session, found, begun⟩
          · exact h.started id mem
      | _ => exact absurd rfl aside
    | runRawAction commands confirm =>
      obtain rfl : phase = .operating := allowed
      refine { h with worker := ?_, sent := ?_ }
      · rintro _ ⟨⟩
        exact ⟨.operating, goesOn _ trivial, stands, executes⟩
      · intro id mem
        obtain rfl | mem := List.mem_cons.mp mem
        · exact stands.2
        · exact h.sent id mem
    | _ => exact absurd rfl aside

/-- SwitchOps stops, and recovers the sessions under way. -/
theorem crash (h : Conducted s) (clock : Text → Nat) :
    Conducted ({ s with
      store := s.store.recoverIncomplete clock
      calls := fun _ => .new
      worker := none } : ChangeServer ι) where
  consistent := h.consistent.recover clock
  worker := by simp
  fallbacks := by simp
  once := h.once
  started id entered := by
    obtain ⟨session, found, begun⟩ := h.started id entered
    obtain ⟨row, here, rfl⟩ := ChangeStore.get_eq_some.mp found
    cases inFlight : row.status.inFlight with
    | true => exact ⟨_, ChangeStore.get_recover_of_inFlight h.consistent clock here inFlight, rfl⟩
    | false =>
      have kept := ChangeStore.get?_recover_of_not_inFlight h.consistent clock here inFlight
      exact ⟨row.document, ChangeStore.get_eq_some.mpr ⟨row, kept, rfl⟩, begun⟩
  sent := h.sent

variable [DecidableEq ι]

/-- A fallback performs its next operation, where that does not store over a started session. -/
theorem call (h : Conducted s) {r : ι} (answers : Answers) {effect : Effect}
    {k : Answer effect → Proc (Except Exn ChangeSession)} (here : s.calls r = .fallback (.op effect k))
    (harmless : s.overwrites r = false) :
    Conducted { s.set r (.fallback (k (respond s.store answers effect))) with
      store := stored s.store effect } := by
  obtain ⟨blocks, goesOn⟩ := h.fallbacks r _ here
  have own : ∀ p, SessionCall.fallback (k (respond s.store answers effect)) = .fallback p →
      Only (fun effect => effect.blocks = true) p := by
    rintro _ ⟨⟩
    exact goesOn _
  cases effect with
  | storeSave session =>
    have blocked : session.status = .blocked := by simpa [Effect.blocks] using blocks
    have fresh : ∀ stored, s.store.get session.id = some stored →
        stored.status.notStarted = true := by
      intro stored found
      simpa [overwrites, here, found] using harmless
    exact (h.write fresh (by rw [blocked]; rfl)).pass rfl rfl rfl (.inr rfl) (h.fallbacks_set own)
  | _ => exact h.pass rfl rfl rfl (.inr rfl) (h.fallbacks_set own)

variable [Digest]

/-- The worker takes a job. -/
theorem take (h : Conducted s) {r : ι} {waits : Bool} (job : SessionJob) (id : Text)
    (client : Client) (context : AssuranceContext) :
    Conducted { s.set r (.running waits) with
      worker := some ⟨r, job, id, job.program id client context⟩ } where
  consistent := h.consistent
  worker := by
    rintro _ ⟨⟩
    refine ⟨.unread, ?_, trivial, by simp⟩
    cases job with
    | preflight => exact runPreflight_conduct context
    | execute => exact execute_conduct
  fallbacks := h.fallbacks_set (by simp)
  once := h.once
  started := h.started
  sent := h.sent

/-- Every allowed step keeps the invariant. -/
theorem step (h : Conducted s) {a : ChangeAction ι} (allowed : s.FallsBack a)
    (taken : s.step a = some t) : Conducted t := by
  cases a with
  | create session =>
    simp only [ChangeServer.step, Option.ite_none_right_eq_some, Option.some.injEq] at taken
    obtain ⟨⟨planned, absent⟩, rfl⟩ := taken
    refine h.write (fun stored found => ?_) (by rw [planned]; rfl)
    simp [ChangeStore.get, absent] at found
  | request r job id =>
    simp only [ChangeServer.step] at taken
    split at taken
    · obtain rfl := Option.some.inj taken
      exact h.pass rfl rfl rfl (.inr rfl) (h.fallbacks_set (by simp))
    · cases taken
  | take r client context =>
    simp only [ChangeServer.step] at taken
    split at taken
    · obtain rfl := Option.some.inj taken
      exact h.take _ _ client context
    · cases taken
  | drop r exc =>
    simp only [ChangeServer.step] at taken
    split at taken
    · obtain rfl := Option.some.inj taken
      exact h.pass rfl rfl rfl (.inr rfl) (h.fallbacks_set fun p => afterJob_only)
    · cases taken
  | work answers =>
    simp only [ChangeServer.step] at taken
    split at taken
    · next running here =>
      split at taken
      · next effect k next =>
        obtain rfl := Option.some.inj taken
        exact h.work answers here next
      · cases taken
    · cases taken
  | finish =>
    simp only [ChangeServer.step] at taken
    split at taken
    · split at taken
      · obtain rfl := Option.some.inj taken
        exact h.pass rfl rfl rfl (.inl rfl) (h.fallbacks_set fun p => afterJob_only)
      · cases taken
    · cases taken
  | call r answers =>
    simp only [ChangeServer.step] at taken
    split at taken
    · next effect k here =>
      obtain rfl := Option.some.inj taken
      exact h.call answers here allowed
    · cases taken
  | leave r =>
    simp only [ChangeServer.step] at taken
    split at taken
    · obtain rfl := Option.some.inj taken
      exact h.pass rfl rfl rfl (.inr rfl) (h.fallbacks_set (by simp))
    · cases taken
  | giveUp r =>
    simp only [ChangeServer.step] at taken
    split at taken
    · obtain rfl := Option.some.inj taken
      exact h.pass rfl rfl rfl (.inr rfl) (h.fallbacks_set (by simp))
    · obtain rfl := Option.some.inj taken
      exact h.pass rfl rfl rfl (.inr rfl) (h.fallbacks_set (by simp))
    · cases taken
  | crash clock =>
    obtain rfl := Option.some.inj taken
    exact h.crash clock

end Conducted

/-! ## What the steps store -/

variable {s t : ChangeServer ι} [DecidableEq ι] [Digest]

/-- The store changes where a session is created, where the worker or a fallback stores one, and
where SwitchOps stops. -/
theorem store_of_step {a : ChangeAction ι} (taken : s.step a = some t) :
    t.store = s.store ∨
    (∃ session, a = .create session ∧ s.store.get? session.id = none ∧
      t.store = s.store.write session) ∨
    (∃ answers running session k, a = .work answers ∧ s.worker = some running ∧
      running.program = .op (.storeSave session) k ∧ t.store = s.store.write session) ∨
    (∃ r answers session k, a = .call r answers ∧
      s.calls r = .fallback (.op (.storeSave session) k) ∧ t.store = s.store.write session) ∨
    ∃ clock, a = .crash clock ∧ t.store = s.store.recoverIncomplete clock := by
  cases a with
  | create session =>
    simp only [step, Option.ite_none_right_eq_some, Option.some.injEq] at taken
    obtain ⟨⟨-, absent⟩, rfl⟩ := taken
    exact .inr (.inl ⟨session, rfl, absent, rfl⟩)
  | work answers =>
    simp only [step] at taken
    split at taken
    · next running here =>
      split at taken
      · next effect k next =>
        obtain rfl := Option.some.inj taken
        cases effect with
        | storeSave session =>
          exact .inr (.inr (.inl ⟨answers, running, session, k, rfl, here, next, rfl⟩))
        | _ => exact .inl rfl
      · cases taken
    · cases taken
  | call r answers =>
    simp only [step] at taken
    split at taken
    · next effect k here =>
      obtain rfl := Option.some.inj taken
      cases effect with
      | storeSave session =>
        exact .inr (.inr (.inr (.inl ⟨r, answers, session, k, rfl, here, rfl⟩)))
      | _ => exact .inl rfl
    · cases taken
  | crash clock =>
    obtain rfl := Option.some.inj taken
    exact .inr (.inr (.inr (.inr ⟨clock, rfl, rfl⟩)))
  | request | take | drop | finish | leave | giveUp =>
    left
    simp only [step] at taken
    repeat' split at taken
    all_goals cases taken
    all_goals rfl

/-- The step is one of the running execution of the session, or SwitchOps stops. -/
def OwnStep (s : ChangeServer ι) (id : Text) : ChangeAction ι → Prop
  | .work _ => ∃ running, s.worker = some running ∧ running.job = .execute ∧ running.id = id
  | .crash _ => True
  | _ => False

/-- A stored session stays, unless it has not been started or its own execution is at work. -/
theorem Conducted.kept (h : Conducted s) {a : ChangeAction ι} (allowed : s.FallsBack a)
    (taken : s.step a = some t) {id : Text} {session : ChangeSession}
    (found : s.store.get id = some session) :
    t.store.get id = some session ∨ session.status.notStarted = true ∨
      session.status.inFlight = true ∧ s.OwnStep id a := by
  obtain same | ⟨fresh, rfl, absent, written⟩ | ⟨answers, running, new, k, rfl, here, next, written⟩ |
    ⟨r, answers, new, k, rfl, here, written⟩ | ⟨clock, rfl, recovered⟩ := store_of_step taken
  · exact .inl (same ▸ found)
  · have other : fresh.id ≠ id := by
      rintro rfl
      simp [ChangeStore.get, absent] at found
    rw [written, ChangeStore.get_write_ne _ other]
    exact .inl found
  · obtain ⟨own, stored, before, allows⟩ := (h.worker running here).before next
    by_cases same : new.id = id
    · have stored_eq : stored = session := by
        rw [← own, same, found] at before
        exact (Option.some.inj before).symm
      subst stored_eq
      obtain notStarted | ⟨inFlight, executes⟩ := allows
      · exact .inr (.inl notStarted)
      · exact .inr (.inr ⟨inFlight, running, here, executes, own.symm.trans same⟩)
    · rw [written, ChangeStore.get_write_ne _ same]
      exact .inl found
  · by_cases same : new.id = id
    · refine .inr (.inl ?_)
      have harmless : s.overwrites r = false := allowed
      simpa [overwrites, here, same, found] using harmless
    · rw [written, ChangeStore.get_write_ne _ same]
      exact .inl found
  · obtain ⟨row, stored, rfl⟩ := ChangeStore.get_eq_some.mp found
    have status := (h.consistent.row id row stored).2.2
    cases inFlight : row.status.inFlight with
    | true => exact .inr (.inr ⟨status ▸ inFlight, trivial⟩)
    | false =>
      have kept := ChangeStore.get?_recover_of_not_inFlight h.consistent clock stored inFlight
      rw [recovered]
      exact .inl (ChangeStore.get_eq_some.mpr ⟨row, kept, rfl⟩)

theorem conducted_of_reaches (h : Reaches (step (ι := ι)) FallsBack {} s) : Conducted s :=
  h.invariant Conducted.initial fun _ _ _ keeps allowed taken => keeps.step allowed taken

end ChangeServer

open ChangeServer

/-! ## Terminality -/

/-- Along every further run of allowed steps what is stored of a terminal session stays, only its
execution changes a session that is under way, and `run_operation` is entered at most once for a
session. -/
structure Terminality {ι : Type} [DecidableEq ι] [Digest]
    (ok : ChangeServer ι → ChangeAction ι → Prop) (s : ChangeServer ι) : Prop where
  frozen : ∀ t, Reaches step ok s t → ∀ id session, s.store.get id = some session →
    session.status.terminal = true → t.store.get id = some session
  owned : ∀ a t, ok s a → s.step a = some t → ∀ id session,
    s.store.get id = some session → session.status.inFlight = true →
      t.store.get id = some session ∨ s.OwnStep id a
  once : s.started.Nodup

/-- **Terminality** of the sessions, where no fallback stores over one that has been started. -/
theorem terminality_of_reaches {ι : Type} [DecidableEq ι] [Digest] {s : ChangeServer ι}
    (h : Reaches step FallsBack {} s) : Terminality FallsBack s where
  frozen t further id session found terminal := by
    refine further.invariant_of (I := Conducted) (J := fun u => u.store.get id = some session)
      found (fun u before => conducted_of_reaches (h.trans before)) ?_
    intro u a v conducted here allowed taken
    obtain kept | notStarted | ⟨inFlight, -⟩ := conducted.kept allowed taken here
    · exact kept
    · rw [ChangeSessionStatus.notStarted_iff, terminal] at notStarted
      cases notStarted.2
    · cases status : session.status <;> simp_all [ChangeSessionStatus.inFlight,
        ChangeSessionStatus.terminal]
  owned a t allowed taken id session found inFlight := by
    obtain kept | notStarted | ⟨-, own⟩ := (conducted_of_reaches h).kept allowed taken found
    · exact .inl kept
    · rw [ChangeSessionStatus.notStarted_iff, inFlight] at notStarted
      cases notStarted.1
    · exact .inr own
  once := (conducted_of_reaches h).once

/-! ### A change from its plan to its end -/

def plannedSession : ChangeSession := { readySession with status := .planned }

/-- What the surroundings of `obedientSwitch` answer after a number of sent lists. -/
def answersAfter (sent : Nat) : Answers := fun effect => (obedientSwitch.answer effect sent).1

/-- A request whose job runs to its end, in the given numbers of operations before and after the
commands are sent. -/
def requestRun (r : Fin 5) (job : SessionJob) (before after : Nat) : List (ChangeAction (Fin 5)) :=
  [.request r job plannedSession.id,
    .take r ⟨sampleHost⟩ ⟨none, none, none, some "live".toList⟩] ++
    List.replicate before (.work (answersAfter 0)) ++
    List.replicate after (.work (answersAfter 1)) ++ [.finish]

/-- The fallback of a request. -/
def fallbackRun (r : Fin 5) (operations : Nat) : List (ChangeAction (Fin 5)) :=
  List.replicate operations (.call r (answersAfter 0)) ++ [.leave r]

/-- The session is executed too early, which blocks it, examined and executed. -/
theorem terminality_of_change : ∃ s : ChangeServer (Fin 5),
    (s.store.get plannedSession.id).map (·.status) = some .succeeded ∧
      s.started = [plannedSession.id] ∧ @Terminality _ _ sampleDigest FallsBack s := by
  obtain ⟨s, reached, ended⟩ := exists_reaches_of_run_guarded (@step (Fin 5) _ sampleDigest)
    FallsBack {} ([.create plannedSession] ++ requestRun 0 .execute 1 0 ++ fallbackRun 0 3 ++
      requestRun 1 .preflight 44 0 ++ requestRun 2 .execute 101 53)
    (fun s => (s.store.get plannedSession.id).map (·.status) = some .succeeded ∧
      s.started = [plannedSession.id]) (by decide +kernel)
  obtain ⟨succeeded, started⟩ := of_decide_eq_true ended
  exact ⟨s, succeeded, started, @terminality_of_reaches _ _ sampleDigest s reached⟩

/-- A second preflight request fails, and its fallback stores the succeeded session as blocked; from
there it is examined and executed again. -/
theorem reopened_terminal_session :
    (∃ s : ChangeServer (Fin 5), Reaches (@step _ _ sampleDigest) Always {} s ∧
      (s.store.get plannedSession.id).map (·.status) = some .succeeded ∧
      ¬ @Terminality _ _ sampleDigest Always s) ∧
    ∃ s : ChangeServer (Fin 5), Reaches (@step _ _ sampleDigest) Always {} s ∧
      s.started = [plannedSession.id, plannedSession.id] := by
  constructor
  · obtain ⟨s, t, reached, further, ended⟩ := exists_reaches_of_runs (@step (Fin 5) _ sampleDigest)
      {} ([.create plannedSession] ++ requestRun 0 .preflight 44 0 ++ requestRun 1 .execute 101 53)
      (requestRun 2 .preflight 0 1 ++ fallbackRun 2 4)
      (fun s t => (s.store.get plannedSession.id).map (·.status) = some .succeeded ∧
        (t.store.get plannedSession.id).map (·.status) = some .blocked) (by decide +kernel)
    obtain ⟨succeeded, blocked⟩ := of_decide_eq_true ended
    refine ⟨s, reached, succeeded, fun holds => ?_⟩
    obtain ⟨session, found, terminal⟩ := Option.map_eq_some_iff.mp succeeded
    have kept := @Terminality.frozen _ _ sampleDigest _ _ holds t further _ session found (by rw [terminal]; rfl)
    rw [kept, Option.map_some, terminal] at blocked
    cases blocked
  · obtain ⟨s, reached, ended⟩ := exists_reaches_of_run (@step (Fin 5) _ sampleDigest) {}
      ([.create plannedSession] ++ requestRun 0 .preflight 44 0 ++ requestRun 1 .execute 101 53 ++
        requestRun 2 .preflight 0 1 ++ fallbackRun 2 4 ++ requestRun 3 .preflight 0 44 ++
        requestRun 4 .execute 0 140)
      (fun s => s.started = [plannedSession.id, plannedSession.id]) (by decide +kernel)
    exact ⟨s, reached, of_decide_eq_true ended⟩

end SwitchOps
