import SwitchOps.Gates.Hold

/-!
# The programs of the write path keep to the discipline

`run_operation` and `execute` send their commands inside both guards, which they take in the same
order; `execute` takes them again for its operation. The methods that change a gate do so under its
lock. Every one of them releases what it took.
-/

namespace SwitchOps

open Effects Effects.Program

/-- `WriteLock.status`, without the time of the unlock. -/
def WriteLock.status : Proc (Bool × Bool) := do
  let capability ← InterfacePolicyStore.controlledWritesEnabled
  let unlocked ← WriteLock.unlocked
  return (capability, unlocked)

/-- Whatever an operation may send is for the interface that was found writable. -/
theorem sequence_of_sendable {interface canonical : Text} {kind : OperationKind}
    {safeValue : Option Text} {commands : List Text}
    (writable : assertInterfaceWritable interface = .ok canonical)
    (h : Sendable kind canonical safeValue commands) :
    ∃ line, commands = configSequence canonical line := by
  obtain ⟨-, name, rfl⟩ := assertInterfaceWritable_ok_iff.mp writable
  obtain rfl | ⟨configText, config, -, restored⟩ := h
  · exact ⟨_, renderCommands_eq kind (not_mem_brace name) safeValue⟩
  · obtain ⟨line, -, rfl⟩ := Option.map_eq_some_iff.mp restored
    exact ⟨line, rfl⟩

section programs

variable [Digest] {reach : Reach} {g : Hold}

/-! ## The operation -/

/-- Every device that the thread plans for is a configured one. -/
def Hold.Planned (reach : Reach) (g : Hold) : Prop :=
  ∀ device ∈ g.plan, ∃ host, reach.hosts (some host) ∧ deviceIdOf host = device

/-- Inside the guards, a program that does nothing else with the gates may send commands for the
authorized interface. -/
theorem sends_gated {α : Type} {canonical : Text} {client : Client} {p : Proc α}
    (inside : g.Inside canonical) (planned : g.Planned reach) (own : reach.clients client)
    (hp : Only (fun effect => effect.ungated = true ∨
      ∃ line, effect = .runRawAction client (configSequence canonical line)) p) :
    Meets (gated reach) p g fun _ g' => g' = g := by
  refine hp.meets (fun effect h => ?_) fun _ => rfl
  obtain ungated | ⟨line, rfl⟩ := h
  · exact ⟨(gated_ungated ungated g).1, fun answer _ => (gated_ungated ungated g).2 answer⟩
  · exact ⟨⟨own, inside.permits line, planned⟩, fun _ _ => rfl⟩

variable {S : Type} {call : OperationCall S}

omit [Digest] in
theorem covers_sends {canonical : Text}
    (writable : assertInterfaceWritable call.interface = .ok canonical)
    (listens : ∀ listener stages,
      Only (fun effect => effect.ungated = true) (call.onProgress listener stages)) :
    Covers (fun effect => effect.ungated = true ∨
      ∃ line, effect = .runRawAction call.client (configSequence canonical line)) call
      fun commands => ∃ safeValue, Sendable call.kind canonical safeValue commands where
  run _ := .inl rfl
  send commands := by
    rintro ⟨safeValue, sendable⟩
    obtain ⟨line, rfl⟩ := sequence_of_sendable writable sendable
    exact .inr ⟨line, rfl⟩
  backup _ := .inl rfl
  audit _ := .inl rfl
  monotonic := .inl rfl
  listener _ _ := (listens _ _).mono fun _ h => .inl h

/-- The precheck of a transaction asks for the interface again. -/
theorem precheck_gated {run : Transaction S} {stages : Stages S} {canonical : Text}
    (writable : assertInterfaceWritable run.interface = .ok canonical)
    (listens : ∀ listener stages,
      Only (fun effect => effect.ungated = true) (run.onProgress listener stages))
    (inside : g.Inside canonical) (planned : g.Planned reach) (own : reach.clients run.client) :
    Meets (gated reach) (run.precheck.run stages) g fun _ g' => g' = g := by
  have covers := @covers_sends _ run.toOperationCall _ writable listens
  have sends {α : Type} {x : Staged S α} {s : Stages S} (hx : Confined _ x) :
      Meets (gated reach) (x.run s) g fun _ g' => g' = g := sends_gated inside planned own (hx s)
  unfold Transaction.precheck
  rw [meets_state_bind]
  refine (sends (OperationCall.begin_confined covers _)).mono fun r g' same => ?_
  subst same
  rw [meets_state_bind, meets_state_lift]
  unfold assertInterfaceOperable
  refine meets_quietly_bind.mpr (meets_perform.mpr ⟨trivial, fun host _ => ?_⟩)
  refine assertOperable_gated inside.knowsPolicy host _ (fun exc => ?_)
    fun canonical' writable' _ _ => ?_
  · cases exc with
    | switchOps class_ message =>
      exact sends ((Transaction.giveUp_confined covers _ _).bind fun _ => Confined.pure)
    | _ => exact sends Confined.pure
  · obtain rfl := Except.ok.inj (writable.symm.trans writable')
    have original (safeValue : Option Text) : Confined _ (run.readOriginal canonical safeValue) :=
      Transaction.readOriginal_confined covers fun commands _ sendable => ⟨safeValue, sendable⟩
    dsimp only
    split
    · split
      · exact sends ((Transaction.giveUp_confined covers _ _).bind fun _ => Confined.pure)
      · exact sends Confined.pure
      · exact sends ((original _).bind fun _ => Confined.pure)
    · exact sends ((original _).bind fun _ => Confined.pure)

theorem runOperationAuthorized_gated {listener : S} {canonical : Text}
    (writable : assertInterfaceWritable call.interface = .ok canonical)
    (listens : ∀ listener stages,
      Only (fun effect => effect.ungated = true) (call.onProgress listener stages))
    (inside : g.Inside canonical) (planned : g.Planned reach) (own : reach.clients call.client) :
    Meets (gated reach) ((runOperationAuthorized call).run ⟨[], listener⟩) g
      fun _ g' => g' = g := by
  unfold runOperationAuthorized
  rw [meets_state_bind, meets_state_lift]
  refine perform_ungated rfl fun started => ?_
  rw [meets_state_bind, meets_state_lift]
  refine perform_ungated rfl fun recordedAt => ?_
  rw [meets_state_bind, meets_state_lift]
  refine perform_ungated rfl fun id => ?_
  exact precheck_gated writable listens inside planned own

/-- `run_operation` takes both guards, wherever it is called from. -/
theorem runOperation_gated {listener : S} (knowsPolicy : g.KnowsPolicy)
    (knowsUnlocked : g.KnowsUnlocked) (order : g.policy = 0 ∨ 0 < g.write)
    (planned : g.Planned reach) (own : reach.clients call.client)
    (listens : ∀ listener stages,
      Only (fun effect => effect.ungated = true) (call.onProgress listener stages)) :
    Meets (gated reach) (runOperation call listener) g fun _ g' =>
      ∃ authorized, g' = { g with authorized := authorized } := by
  unfold runOperation
  rw [meets_bind]
  refine perform_ungated rfl fun _ => ?_
  rw [meets_bind]
  refine meets_perform.mpr ⟨trivial, fun host admitted => ?_⟩
  dsimp only
  rw [meets_bind]
  refine Meets.mono (guards_gated knowsPolicy knowsUnlocked order admitted ?_) fun r g' h => ?_
  · intro canonical inside writable _ entered samePlan
    rw [meets_quietly_bind]
    refine (runOperationAuthorized_gated writable listens entered ?_ own).mono fun r g' same => ?_
    · rw [Hold.Planned, samePlan]
      exact planned
    · exact ⟨_, same⟩
  · cases r with
    | ok outcome => exact h
    | error exc => exact h

/-! ## The execution of a session -/

/-- A preflight that does not block has found the plan bound to the configured device. -/
theorem preflight_gated {plan : ChangePlan} {snapshot : AssuranceSnapshot} {host : Option Text}
    {Q : Except Exn ChangePreflight → Hold → Prop} (knowsPolicy : g.KnowsPolicy)
    (knowsUnlocked : g.KnowsUnlocked) (order : g.policy = 0 ∨ 0 < g.write)
    (hQ : ∀ outcome, (∀ preflight, outcome = .ok preflight → preflight.outcome ≠ .blocked →
      ∃ name, host = some name ∧ deviceIdOf name = plan.deviceId) → Q outcome g) :
    Meets (gated reach) (preflight plan snapshot host) g Q := by
  unfold preflight
  rw [meets_raising_bind]
  refine stateFor_gated knowsPolicy host _ fun found => ?_
  cases found with
  | error exc => exact hQ _ (by simp)
  | ok policyState =>
    rw [continues_ok, meets_quietly_bind]
    refine controlledWritesEnabled_gated knowsPolicy fun capability _ => ?_
    rw [meets_quietly_bind]
    refine unlocked_gated knowsPolicy knowsUnlocked order fun unlocked => ?_
    rw [meets_quietly_bind]
    refine perform_ungated rfl fun evaluatedAt => hQ _ ?_
    rintro evaluated ⟨⟩ notBlocked
    have ready : Preflight.outcome
        (Preflight.checks plan snapshot ⟨host, policyState, capability, unlocked⟩) = .ready := by
      cases outcome : Preflight.outcome
          (Preflight.checks plan snapshot ⟨host, policyState, capability, unlocked⟩) with
      | ready => rfl
      | blocked => exact absurd outcome notBlocked
    have device := (Preflight.outcome_checks_ready_iff.mp ready).1
    cases host with
    | none => cases device
    | some name => exact ⟨name, rfl, of_decide_eq_true (Bool.and_eq_true_iff.mp device).2⟩

omit [Digest] in
theorem save_ungated (session : ChangeSession) :
    Only (fun effect => effect.ungated = true) session.save :=
  save_only rfl fun _ => rfl

theorem capture_ungated (session : ChangeSession) (client : Client) :
    Only (fun effect => effect.ungated = true) (session.capture client) := by
  have covers : CoversCapture (fun effect => effect.ungated = true) client := by
    constructor <;> (intros; rfl)
  exact capture_only covers rfl session

/-- The operation of a session, and what follows it. -/
theorem performChange_gated {session : ChangeSession} {client : Client} {before : AssuranceSnapshot}
    (knowsPolicy : g.KnowsPolicy) (knowsUnlocked : g.KnowsUnlocked) (held : 0 < g.write)
    (planned : g.Planned reach) (own : reach.clients client) :
    Meets (gated reach) (performChange session client before) g fun _ g' =>
      ∃ authorized, g' = { g with authorized := authorized } := by
  have listens : ∀ listener stages, Only (fun effect => effect.ungated = true)
      ((session.operation client).onProgress listener stages) :=
    fun _ _ => (save_ungated _).bind fun _ => trivial
  unfold performChange
  dsimp only
  rw [meets_bind]
  refine Meets.mono (runOperation_gated knowsPolicy knowsUnlocked (.inr held) planned own listens) ?_
  rintro ⟨outcome, progress⟩ _ ⟨authorized, rfl⟩
  cases outcome with
  | error exc => exact (ungated_gated (save_ungated _)).mono fun _ _ same => ⟨_, same⟩
  | ok result =>
    refine Meets.mono (ungated_gated ?_) fun _ _ same => ⟨authorized, same⟩
    refine Only.bind (only_perform.mpr rfl) fun _ => ?_
    refine (save_ungated _).bind fun session => ?_
    refine Only.bind (capture_ungated session client) fun captured => ?_
    cases captured with
    | error exc => exact save_ungated _
    | ok after =>
      refine Only.bind (only_perform.mpr rfl) fun _ => ?_
      exact Only.bind (only_perform.mpr rfl) fun _ => save_ungated _

theorem executeAuthorized_gated {session : ChangeSession} {client : Client} {host : Option Text}
    {canonical : Text} (inside : g.Inside canonical) (admitted : reach.hosts host)
    (own : reach.clients client) (bound : g.plan = some session.plan.deviceId) :
    Meets (gated reach) (executeAuthorized session client host) g fun _ g' =>
      ∃ authorized, g' = { g with authorized := authorized } := by
  have stored (session : ChangeSession) : Meets (gated reach) (quietly session.save) g
      fun _ g' => ∃ authorized, g' = { g with authorized := authorized } := by
    rw [meets_quietly]
    exact (ungated_gated (save_ungated session)).mono fun _ _ same => ⟨_, same⟩
  unfold executeAuthorized
  rw [meets_quietly_bind]
  refine save_meets trivial fun savedAt => ⟨trivial, ?_⟩
  refine meets_quietly_bind.mpr ((ungated_gated (capture_ungated _ client)).mono ?_)
  rintro captured g' rfl
  cases captured with
  | error exc => exact stored _
  | ok before =>
    refine meets_quietly_bind.mpr (perform_ungated rfl fun _ => ?_)
    rw [meets_raising_bind]
    refine preflight_gated inside.knowsPolicy inside.knowsUnlocked (.inr inside.write)
      fun outcome matched => ?_
    cases outcome with
    | error exc => exact ⟨_, rfl⟩
    | ok preflight =>
      rw [continues_ok]
      split
      · exact stored _
      · next notBlocked =>
        refine meets_quietly_bind.mpr (save_meets trivial fun savedAt => ⟨trivial, ?_⟩)
        rw [meets_quietly]
        refine performChange_gated inside.knowsPolicy inside.knowsUnlocked inside.write ?_ own
        -- the plan is bound to the device that the preflight was made for
        obtain ⟨name, rfl, device⟩ := matched preflight rfl notBlocked
        intro device' planned
        obtain rfl := Option.some.inj (bound.symm.trans planned)
        exact ⟨name, admitted, device⟩

/-- `execute`, by a thread that holds nothing. -/
theorem execute_gated {sessionId : Text} {client : Client} (own : reach.clients client) :
    Meets (gated reach) (execute sessionId client) {} fun _ g' => g'.write = 0 ∧ g'.policy = 0 := by
  unfold execute getSession
  rw [meets_raising_bind]
  refine meets_quietly_bind.mpr (meets_perform.mpr ⟨trivial, fun found _ => ?_⟩)
  cases found with
  | none => exact ⟨rfl, rfl⟩
  | some session =>
    rw [meets_raising_pure, continues_ok]
    split
    · exact ⟨rfl, rfl⟩
    · refine meets_quietly_bind.mpr (meets_perform.mpr ⟨trivial, fun host admitted => ?_⟩)
      let planning : Hold := { plan := some session.plan.deviceId }
      have knowsPolicy : planning.KnowsPolicy := by simp [planning, Hold.KnowsPolicy]
      have knowsUnlocked : planning.KnowsUnlocked := by simp [planning, Hold.KnowsUnlocked]
      refine Meets.mono (guards_gated knowsPolicy knowsUnlocked (.inl rfl) admitted ?_) ?_
      · intro canonical inside _ _ entered samePlan
        exact executeAuthorized_gated entered admitted own samePlan
      · rintro _ _ ⟨authorized, rfl⟩
        exact ⟨rfl, rfl⟩

/-! ## The methods that change a gate -/

omit [Digest] in
theorem meets_orRaise_bind {α β G : Type} {D : Discipline Effect Answer G} {a : α}
    {f : α → Action β} {s : G} {Q : Except Exn β → G → Prop} :
    Meets D (orRaise (.ok a) >>= f : Action β) s Q ↔ Meets D (f a) s Q := by
  rw [meets_raising_bind]
  exact Iff.rfl

/-- A method that loads the policy under its lock, and writes one or not. -/
theorem writesPolicy_gated {α : Type} {body : Option InterfacePolicy → Action α}
    (hbody : ∀ data, (∃ outcome, body data = ExceptT.mk (.pure outcome)) ∨
      ∃ policy k, body data = ExceptT.mk (.op (.writePolicy policy) k) ∧
        ∀ answer, ∃ outcome, k answer = .pure outcome) :
    Meets (gated reach) (locked .policy (quietly loadPolicy >>= body)) {} fun _ g' =>
      g'.write = 0 ∧ g'.policy = 0 := by
  refine locked_gated (by simp) (meets_quietly_bind.mpr ?_)
  refine loadPolicy_gated (Nat.succ_pos _) fun file _ => ?_
  obtain ⟨outcome, returns⟩ | ⟨policy, k, writes, ends⟩ := hbody file.load
  · rw [returns]
    exact ⟨Nat.succ_pos _, rfl, rfl⟩
  · rw [writes]
    refine ⟨⟨Nat.succ_pos _, rfl⟩, fun answer _ => ?_⟩
    obtain ⟨outcome, ended⟩ := ends answer
    rw [ended]
    cases answer with
    | ok _ => exact ⟨Nat.succ_pos _, rfl, rfl⟩
    | error _ => exact ⟨Nat.succ_pos _, rfl, rfl⟩

theorem setControlledWrites_gated (enabled : Bool) :
    Meets (gated reach) (InterfacePolicyStore.setControlledWrites enabled) {} fun _ g' =>
      g'.write = 0 ∧ g'.policy = 0 := by
  refine writesPolicy_gated fun data => ?_
  cases data with
  | none => exact .inl ⟨_, rfl⟩
  | some data => exact .inr ⟨_, _, rfl, fun answer => ⟨answer, rfl⟩⟩

theorem setState_gated (host interface state : Text) :
    Meets (gated reach) (InterfacePolicyStore.setState host interface state) {} fun _ g' =>
      g'.write = 0 ∧ g'.policy = 0 := by
  unfold InterfacePolicyStore.setState
  dsimp only
  by_cases unnamed : host.isEmpty
  · rw [if_pos unnamed]
    exact ⟨rfl, rfl⟩
  rw [if_neg unnamed]
  cases normalizeInterface interface with
  | error exc => exact ⟨rfl, rfl⟩
  | ok canonical =>
    rw [meets_orRaise_bind]
    cases InterfacePolicy.parseState (.string state) with
    | none => exact ⟨rfl, rfl⟩
    | some state =>
      dsimp only
      split
      · cases assertInterfaceWritable canonical with
        | error exc => exact ⟨rfl, rfl⟩
        | ok _ =>
          refine writesPolicy_gated fun data => ?_
          cases data with
          | none => exact .inl ⟨_, rfl⟩
          | some data => exact .inr ⟨_, _, rfl, fun answer => ⟨answer, rfl⟩⟩
      · refine writesPolicy_gated fun data => ?_
        cases data with
        | none => exact .inl ⟨_, rfl⟩
        | some data => exact .inr ⟨_, _, rfl, fun answer => ⟨answer, rfl⟩⟩

theorem ensureProtected_gated (host interface : Option Text) :
    Meets (gated reach) (InterfacePolicyStore.ensureProtected host interface) {} fun _ g' =>
      g'.write = 0 ∧ g'.policy = 0 := by
  unfold InterfacePolicyStore.ensureProtected
  split
  · exact ⟨rfl, rfl⟩
  cases normalizeInterface (interface.getD []) with
  | error exc => exact ⟨rfl, rfl⟩
  | ok canonical =>
    refine writesPolicy_gated fun data => ?_
    cases data with
    | none => exact .inl ⟨_, rfl⟩
    | some data =>
      dsimp only
      split
      · exact .inl ⟨_, rfl⟩
      · exact .inr ⟨_, _, rfl, fun answer => ⟨answer, rfl⟩⟩

theorem writeUnlocked_gated (value : Bool) :
    Meets (gated reach) (withLock .write (perform (.writeUnlocked value))) {} fun _ g' =>
      g'.write = 0 ∧ g'.policy = 0 :=
  withLock_gated (fun _ => .inl rfl)
    (meets_perform.mpr ⟨⟨Nat.succ_pos _, rfl⟩, fun _ _ => ⟨Nat.succ_pos _, rfl, rfl⟩⟩)

omit [Digest] in
theorem knowsPolicy_nothing : ({} : Hold).KnowsPolicy := by simp [Hold.KnowsPolicy]

omit [Digest] in
theorem knowsUnlocked_nothing : ({} : Hold).KnowsUnlocked := by simp [Hold.KnowsUnlocked]

theorem unlock_gated : Meets (gated reach) WriteLock.unlock {} fun _ g' =>
    g'.write = 0 ∧ g'.policy = 0 := by
  unfold WriteLock.unlock
  refine meets_quietly_bind.mpr (controlledWritesEnabled_gated knowsPolicy_nothing fun enabled _ => ?_)
  cases enabled with
  | false => exact ⟨rfl, rfl⟩
  | true => exact meets_quietly.mpr (writeUnlocked_gated true)

theorem requireUnlocked_gated : Meets (gated reach) WriteLock.requireUnlocked {} fun _ g' =>
    g'.write = 0 ∧ g'.policy = 0 := by
  unfold WriteLock.requireUnlocked
  refine meets_quietly_bind.mpr (controlledWritesEnabled_gated knowsPolicy_nothing fun enabled _ => ?_)
  cases enabled with
  | false => exact ⟨rfl, rfl⟩
  | true =>
    refine meets_quietly_bind.mpr ?_
    refine unlocked_gated knowsPolicy_nothing knowsUnlocked_nothing (.inl rfl) fun value => ?_
    cases value with
    | false => exact ⟨rfl, rfl⟩
    | true => exact ⟨rfl, rfl⟩

theorem status_gated : Meets (gated reach) WriteLock.status {} fun _ g' =>
    g'.write = 0 ∧ g'.policy = 0 := by
  unfold WriteLock.status
  rw [meets_bind]
  refine controlledWritesEnabled_gated knowsPolicy_nothing fun enabled _ => ?_
  rw [meets_bind]
  exact unlocked_gated knowsPolicy_nothing knowsUnlocked_nothing (.inl rfl) fun _ => ⟨rfl, rfl⟩

end programs

end SwitchOps
