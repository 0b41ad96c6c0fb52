import SwitchOps.Assurance.Verdict

/-!
# How the service treats a session

What each method of the service may do with the stored session, as a discipline over the phases of
its run: a preflight stores only sessions that have not been started; an execution goes through
`executing` to the operation and from there to a terminal status, or is blocked before it.
-/

namespace SwitchOps

open Effects Effects.Program

/-- How far a job has come with its session: not read, read and not started, stored as under way,
in its operation, or done with it. -/
inductive JobPhase
  | unread
  | idle
  | underWay
  | operating
  | ended
  deriving DecidableEq, Repr

namespace JobPhase

def next : JobPhase → (effect : Effect) → Answer effect → JobPhase
  | .unread, .storeGet _, found =>
    match (found : Option ChangeSession) with
    | some session => if session.status.notStarted then .idle else .ended
    | none => .ended
  | .idle, .storeSave session, _ => if session.status.inFlight then .underWay else .idle
  | .underWay, .storeSave session, _ => if session.status.inFlight then .underWay else .ended
  | .operating, .storeSave session, _ => if session.status.inFlight then .operating else .ended
  | _, .mark .operationStarted, _ => .operating
  | phase, _, _ => phase

/-- Which statuses may be stored in a phase, by a job that executes or does not. -/
def stores (executes : Bool) : JobPhase → ChangeSessionStatus → Bool
  | .idle, status => status.notStarted || (executes && status.inFlight)
  | .underWay, status => status.notStarted || status.inFlight
  | .operating, status => status.inFlight || status.terminal
  | .unread, _ | .ended, _ => false

/-- What a job may do in a phase, for the session `id`. -/
def allows (executes : Bool) (id : Text) (phase : JobPhase) : Effect → Prop
  | .storeGet other => phase = .unread ∧ other = id
  | .storeSave session => session.id = id ∧ phase.stores executes session.status
  | .mark .operationStarted => phase = .underWay
  | .runRawAction _ _ => phase = .operating
  | _ => True

theorem operating_stores {executes : Bool} {status : ChangeSessionStatus}
    (h : status.terminal = true) : operating.stores executes status = true := by
  rw [stores, h, Bool.or_true]

end JobPhase

/-- Every verdict is terminal. -/
theorem terminal_verdict (result : OperationResult) (comparison : ChangeComparison) :
    (verdict result comparison).1.terminal = true := by
  obtain ⟨-, h⟩ | ⟨-, h⟩ | ⟨-, -, h⟩ | ⟨-, -, -, h⟩ | ⟨-, -, -, h⟩ := verdict_cases result comparison
  all_goals rw [h]; rfl

/-- The discipline of a job for the session `id`: the store answers with that session. -/
def conduct (executes : Bool) (id : Text) : Discipline Effect Answer JobPhase where
  allowed := JobPhase.allows executes id
  answers _ effect answer :=
    match effect, answer with
    | .storeGet _, found => ∀ session : ChangeSession, found = some session → session.id = id
    | _, _ => True
  next := JobPhase.next

/-- The operations that have nothing to do with the course of a session. -/
def Effect.aside : Effect → Bool
  | .storeGet _ | .storeSave _ | .mark .operationStarted | .runRawAction _ _ => false
  | _ => true

section conduct

variable {executes : Bool} {id : Text} {phase : JobPhase}

theorem conduct_aside {effect : Effect} (h : effect.aside = true) (phase : JobPhase) :
    (conduct executes id).allowed phase effect ∧ ∀ answer, (conduct executes id).next phase effect answer = phase := by
  cases effect with
  | mark mark =>
    cases mark with
    | operationStarted => cases h
    | _ => exact ⟨trivial, fun _ => by cases phase <;> rfl⟩
  | storeGet _ | storeSave _ | runRawAction _ _ => cases h
  | _ => exact ⟨trivial, fun _ => by cases phase <;> rfl⟩

theorem ignoresGates_conduct : IgnoresGates (conduct executes id) := by
  intro effect gate phase
  refine conduct_aside ?_ phase
  cases effect with
  | mark mark =>
    cases mark with
    | operationStarted => cases gate
    | _ => rfl
  | storeGet _ | storeSave _ | runRawAction _ _ => cases gate
  | _ => rfl

theorem coversGates_aside : CoversGates fun effect => effect.aside = true := by
  constructor <;> (intros; rfl)

theorem coversCapture_aside {client : Client} :
    CoversCapture (fun effect => effect.aside = true) client := by
  constructor <;> (intros; rfl)

/-- A program that has nothing to do with sessions leaves the phase alone. -/
theorem aside_meets {α : Type} {p : Proc α} (hp : Only (fun effect => effect.aside = true) p) :
    Meets (conduct executes id) p phase fun _ phase' => phase' = phase :=
  hp.meets (fun _ aside => ⟨(conduct_aside aside phase).1, fun answer _ => (conduct_aside aside phase).2 answer⟩)
    fun _ => rfl

/-- Storing a session moves the phase on. -/
theorem save_conduct {session : ChangeSession} {Q : ChangeSession → JobPhase → Prop}
    (own : session.id = id) (stores : phase.stores executes session.status)
    (h : ∀ updatedAt, Q { session with updatedAt := updatedAt }
      (phase.next (.storeSave { session with updatedAt := updatedAt }) ())) :
    Meets (conduct executes id) session.save phase Q := by
  refine save_meets trivial fun updatedAt => ?_
  have clock : (conduct executes id).next phase .now updatedAt = phase :=
    (conduct_aside rfl phase).2 updatedAt
  rw [clock]
  exact ⟨⟨own, stores⟩, h updatedAt⟩

/-- A session that was just read: it has not been started, or the job is over. -/
theorem getSession_conduct :
    Meets (conduct executes id) (getSession id) .unread fun r phase =>
      ∀ session, r = .ok session →
        session.id = id ∧ phase = if session.status.notStarted then .idle else .ended := by
  unfold getSession
  refine meets_quietly_bind.mpr (meets_perform.mpr ?_)
  refine ⟨⟨rfl, rfl⟩, fun (found : Option ChangeSession) own => ?_⟩
  cases found with
  | none => simp
  | some session =>
    rintro session' ⟨⟩
    exact ⟨own session rfl, rfl⟩

variable [Digest] {client : Client} {session : ChangeSession}

/-- A preflight stores sessions that have not been started, and nothing else. -/
theorem runPreflight_conduct (context : AssuranceContext) :
    Meets (conduct false id) (runPreflight id client context) .unread fun _ _ => True := by
  unfold runPreflight
  rw [meets_raising_bind]
  refine getSession_conduct.mono fun found phase read => ?_
  cases found with
  | error exc => trivial
  | ok session =>
    obtain ⟨own, here⟩ := read session rfl
    rw [continues_ok]
    dsimp only
    split
    · trivial
    · next notInFlight =>
      split
      · trivial
      · next notTerminal =>
        have notStarted : session.status.notStarted = true :=
          (ChangeSessionStatus.notStarted_iff _).mpr
            ⟨by simpa using notInFlight, by simpa using notTerminal⟩
        rw [if_pos notStarted] at here
        subst here
        rw [meets_quietly_bind]
        refine save_conduct own rfl fun updatedAt => ?_
        rw [meets_quietly_bind]
        refine meets_of_gate ignoresGates_conduct ⟨rfl, fun _ => trivial⟩ fun _ host _ => ?_
        refine meets_quietly_bind.mpr ?_
        have examine : Only (fun effect => effect.aside = true)
            (ChangeSession.examine { session.enter .preflight
              "Read-only preflight is collecting current evidence." with updatedAt := updatedAt }
              client context host) := by
          unfold ChangeSession.examine
          refine (captureAssuranceSnapshot_only coversCapture_aside _ _ _ _ _).raising_bind ?_
          exact fun snapshot => preflight_only coversGates_aside rfl _ _ _
        refine (aside_meets examine).mono fun examined phase here => ?_
        subst here
        cases examined with
        | ok preflight =>
          rw [meets_quietly]
          refine save_conduct ?_ ?_ fun _ => trivial
          · unfold ChangeSession.examined
            dsimp only
            split <;> exact own
          · unfold ChangeSession.examined
            dsimp only
            split <;> rfl
        | error exc =>
          rw [meets_quietly_bind]
          refine (aside_meets (only_perform.mpr rfl)).mono fun evaluatedAt phase here => ?_
          subst here
          rw [meets_quietly]
          exact save_conduct own rfl fun _ => trivial

/-- The operation is started under way, and stores its progress as under way. -/
theorem runOperation_conduct (own : session.id = id) (progress : SessionProgress) :
    Meets (conduct true id) (runOperation (session.operation client) progress) .underWay
      fun _ phase => phase = .operating := by
  refine runOperation_meets ignoresGates_conduct rfl ?_ fun _ => rfl
  rintro phase rfl
  have confined : Only (fun effect => (JobPhase.allows true id .operating effect) ∧
      ∀ answer, JobPhase.next .operating effect answer = .operating)
      ((runOperationAuthorized (session.operation client)).run ⟨[], progress⟩) := by
    have aside : ∀ effect : Effect, effect.aside = true →
        JobPhase.allows true id .operating effect ∧
          ∀ answer, JobPhase.next .operating effect answer = .operating :=
      fun effect h => conduct_aside h .operating
    apply runOperationAuthorized_confined
    · constructor <;> (intros; exact aside _ rfl)
    · refine ⟨fun _ => aside _ rfl, fun _ _ => ⟨rfl, fun _ => rfl⟩, fun _ => aside _ rfl,
        fun _ => aside _ rfl, aside _ rfl, fun listener stages => ?_⟩
      refine ⟨aside _ rfl, fun updatedAt => ⟨⟨⟨own, ?_⟩, fun _ => ?_⟩, fun _ => trivial⟩⟩
      all_goals
        cases stages.getLast? with
        | none => simp [JobPhase.stores, JobPhase.next, ChangeSession.progressed, listener.inFlight]
        | some stage =>
          simp [JobPhase.stores, JobPhase.next, ChangeSession.progressed,
            StageName.inFlight_sessionStatus]
    · exact aside _ rfl
    · exact aside _ rfl
  exact confined.meets (fun _ h => ⟨h.1, fun answer _ => h.2 answer⟩) fun _ => rfl

/-- After the operation the session ends terminal. -/
theorem performChange_conduct (own : session.id = id) (before : AssuranceSnapshot) :
    Meets (conduct true id) (performChange session client before) .underWay fun _ _ => True := by
  have capture (session : ChangeSession) :
      Only (fun effect => effect.aside = true) (session.capture client) :=
    capture_only coversCapture_aside rfl session
  unfold performChange
  dsimp only
  rw [meets_bind]
  refine (runOperation_conduct own _).mono fun r phase operating => ?_
  subst operating
  obtain ⟨outcome, progress⟩ := r
  cases outcome with
  | error exc => exact save_conduct own rfl fun _ => trivial
  | ok result =>
    dsimp only
    rw [meets_bind]
    refine meets_perform.mpr ⟨trivial, fun _ _ => ?_⟩
    rw [meets_bind]
    refine save_conduct own rfl fun savedAt => ?_
    rw [meets_bind]
    refine (aside_meets (capture _)).mono fun captured phase operating => ?_
    subst operating
    cases captured with
    | error exc => exact save_conduct own rfl fun _ => trivial
    | ok after =>
      dsimp only
      rw [meets_bind]
      refine meets_perform.mpr ⟨trivial, fun _ _ => ?_⟩
      rw [meets_bind]
      refine (aside_meets (only_perform.mpr rfl)).mono fun evaluatedAt phase operating => ?_
      subst operating
      exact save_conduct own (JobPhase.operating_stores (terminal_verdict _ _)) fun _ => trivial

/-- An execution is blocked before its operation, or goes on to it. -/
theorem executeAuthorized_conduct (own : session.id = id) (host : Option Text) :
    Meets (conduct true id) (executeAuthorized session client host) .idle fun _ _ => True := by
  have capture (session : ChangeSession) :
      Only (fun effect => effect.aside = true) (session.capture client) :=
    capture_only coversCapture_aside rfl session
  unfold executeAuthorized
  rw [meets_quietly_bind]
  refine save_conduct own rfl fun savedAt => ?_
  rw [meets_quietly_bind]
  refine (aside_meets (capture _)).mono fun captured phase underWay => ?_
  subst underWay
  cases captured with
  | error exc =>
    rw [meets_quietly]
    exact save_conduct own rfl fun _ => trivial
  | ok before =>
    dsimp only
    rw [meets_quietly_bind]
    refine meets_perform.mpr ⟨trivial, fun _ _ => ?_⟩
    rw [meets_raising_bind]
    refine (aside_meets (preflight_only coversGates_aside rfl _ _ _)).mono
      fun examined phase underWay => ?_
    subst underWay
    cases examined with
    | error exc => trivial
    | ok preflight =>
      rw [continues_ok]
      split
      · rw [meets_quietly]
        exact save_conduct own rfl fun _ => trivial
      · rw [meets_quietly_bind]
        refine save_conduct own rfl fun savedAt => ?_
        rw [meets_quietly]
        refine Meets.mono (performChange_conduct ?_ before) fun _ _ _ => trivial
        exact own

/-- The conduct of an execution. -/
theorem execute_conduct :
    Meets (conduct true id) (execute id client) .unread fun _ _ => True := by
  unfold execute
  rw [meets_raising_bind]
  refine getSession_conduct.mono fun found phase read => ?_
  cases found with
  | error exc => trivial
  | ok session =>
    obtain ⟨own, here⟩ := read session rfl
    rw [continues_ok]
    dsimp only
    split
    · trivial
    · next ready =>
      have notStarted : session.status.notStarted = true := by
        rw [show session.status = .ready by simpa using ready]
        rfl
      rw [if_pos notStarted] at here
      subst here
      rw [meets_quietly_bind]
      refine meets_of_gate ignoresGates_conduct ⟨rfl, fun _ => trivial⟩ fun _ host _ => ?_
      refine writeGuard_meets ignoresGates_conduct ?_ fun _ => trivial
      refine policyGuard_meets ignoresGates_conduct (fun canonical => ?_) fun _ => trivial
      exact executeAuthorized_conduct own host

end conduct

/-! ## The fallbacks of the handlers -/

/-- The operations of a fallback: it reads a session and stores it as blocked. -/
def Effect.blocks : Effect → Bool
  | .storeGet _ => true
  | .storeSave session => session.status = .blocked
  | effect => effect.aside

section fallbacks

variable {E : Effect → Prop}

/-- What a frame of the fallbacks has to cover. -/
structure CoversBlocking (E : Effect → Prop) : Prop where
  get : ∀ id, E (.storeGet id)
  save : ∀ session, session.status = .blocked → E (.storeSave session)
  now : E .now

theorem coversBlocking_blocks : CoversBlocking fun effect => effect.blocks = true :=
  ⟨fun _ => rfl, fun _ blocked => decide_eq_true blocked, rfl⟩

theorem saveBlocked_only (hE : CoversBlocking E) {session : ChangeSession}
    (blocked : session.status = .blocked) : Only E session.save :=
  save_only hE.now fun _ => hE.save _ blocked

theorem blockBeforeExecution_only (hE : CoversBlocking E) (id detail : Text) :
    Only E (blockBeforeExecution id detail) := by
  unfold blockBeforeExecution
  refine (getSession_only (hE.get id)).raising_bind fun session => ?_
  split
  · exact (saveBlocked_only hE rfl).bind fun _ => trivial
  · exact (saveBlocked_only hE rfl).bind fun _ => trivial
  · exact (saveBlocked_only hE rfl).bind fun _ => trivial
  · trivial

theorem blockPreflightUnavailable_only (hE : CoversBlocking E) (id : Text) :
    Only E (blockPreflightUnavailable id) := by
  unfold blockPreflightUnavailable
  refine (getSession_only (hE.get id)).raising_bind fun session => ?_
  refine Only.raising_bind ((only_perform.mpr hE.now).bind fun _ => trivial) fun evaluatedAt => ?_
  exact (saveBlocked_only hE rfl).bind fun _ => trivial

end fallbacks

/-- Creating a plan stores a session once, as planned. -/
theorem createPlan_only (request : ChangePlanRequest) (deviceId : Text) :
    Only (fun effect => effect.aside = true ∨ ∃ session, effect = .storeSave session ∧
      session.status = .planned) (createPlan request deviceId) := by
  have clock : Only (fun effect : Effect => effect.aside = true ∨ ∃ session,
      effect = .storeSave session ∧ session.status = .planned) now := only_perform.mpr (.inl rfl)
  have uuid : Only (fun effect : Effect => effect.aside = true ∨ ∃ session,
      effect = .storeSave session ∧ session.status = .planned) uuid4 := only_perform.mpr (.inl rfl)
  unfold createPlan
  dsimp only
  refine Only.raising_bind (p := orRaise _) trivial fun canonical => ?_
  refine Only.raising_bind (p := orRaise _) trivial fun interface => ?_
  refine Only.raising_bind (p := orRaise _) trivial fun value => ?_
  refine Only.raising_bind (clock.bind fun _ => trivial) fun createdAt => ?_
  refine Only.raising_bind (uuid.bind fun _ => trivial) fun planId => ?_
  refine Only.raising_bind (p := orRaise _) trivial fun interface => ?_
  refine Only.raising_bind (uuid.bind fun _ => trivial) fun id => ?_
  exact (save_only (.inl rfl) fun _ => .inr ⟨_, rfl, rfl⟩).bind fun _ => trivial

end SwitchOps
