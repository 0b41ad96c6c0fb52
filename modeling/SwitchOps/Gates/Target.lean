import SwitchOps.Gates.Threads

/-!
# The device that is contacted

The credentials, the connection of the worker and the gates. A guard authorizes for the host that
is configured when an operation starts, while the commands go down the connection, which stays open
to the host that was configured when it was opened. `setup_credentials` and `clear` do not close it;
so the two hosts are the same in the runs in which an operation finds the host of its connection
configured, or none (`onTarget_of_reaches`).
-/

namespace SwitchOps

open Effects Effects.Program Machines

/-- Commands that were sent, with what had authorized them and the device of the plan, if they were
sent for a session. -/
structure Delivery where
  client : Client
  commands : List Text
  authorized : List (Option Text × Text)
  plan : Option Text

/-- The configured host, the connection of the worker and the one it is opening, and the gates. The
last field is a ghost. -/
structure TargetSystem (ι : Type) where
  gates : GateSystem ι
  credentials : Option Text := none
  opening : Option Text := none
  connection : Option Client := none
  delivered : List Delivery := []

inductive TargetAction (ι : Type)
  | setup (host : Text)
  | clear
  /-- `_ensure_client` loads the credentials, and has connected, or not. -/
  | load
  | connected
  | failed
  /-- The worker drops a connection that died. -/
  | drop
  /-- The worker takes a job that operates. -/
  | operation (kind : OperationKind) (interface : Text) (value : Option Text)
  | execute (sessionId : Text)
  /-- Another thread calls a method of the gates. -/
  | call (t : ι) (call : GateCall)
  | work (t : ι) (answers : (effect : Effect) → Answer effect) (replaced : Bool)
  | finish (t : ι)

namespace TargetSystem

variable {ι : Type} [DecidableEq ι]

/-- The configured host is what the credential store says. -/
def answers (s : TargetSystem ι) (answers : (effect : Effect) → Answer effect) :
    (effect : Effect) → Answer effect
  | .switchHost => s.credentials
  | effect => answers effect

/-- The commands that a thread sends next. -/
def sending (s : TargetSystem ι) (t : ι) : Option Delivery :=
  match s.gates.threads t with
  | some ⟨.op (.runRawAction client commands) _, hold, _⟩ =>
    some ⟨client, commands, hold.authorized, hold.plan⟩
  | _ => none

/-- A job of the worker, with the open connection. -/
def begin [Digest] (worker : ι) (s : TargetSystem ι) (call : Client → GateCall) :
    Option (TargetSystem ι) :=
  s.connection.bind fun client =>
    (s.gates.step (.call worker (call client))).map fun gates => { s with gates := gates }

def step [Digest] (worker : ι) (s : TargetSystem ι) : TargetAction ι → Option (TargetSystem ι)
  | .setup host => some { s with credentials := some host }
  | .clear => some { s with credentials := none }
  | .load =>
    match s.gates.threads worker, s.connection with
    | none, none => some { s with opening := s.credentials }
    | _, _ => none
  | .connected =>
    match s.gates.threads worker, s.opening with
    | none, some host => some { s with opening := none, connection := some ⟨host⟩ }
    | _, _ => none
  | .failed => some { s with opening := none }
  | .drop =>
    match s.gates.threads worker with
    | none => some { s with connection := none }
    | some _ => none
  | .operation kind interface value =>
    s.begin worker fun client => .operation client kind interface value
  | .execute sessionId => s.begin worker fun client => .execute sessionId client
  | .call t call =>
    if t = worker ∨ call.client?.isSome then none
    else (s.gates.step (.call t call)).map fun gates => { s with gates := gates }
  | .work t answers replaced =>
    (s.gates.step (.work t (s.answers answers) replaced)).map fun gates =>
      { s with gates := gates, delivered := (s.sending t).toList ++ s.delivered }
  | .finish t => (s.gates.step (.finish t)).map fun gates => { s with gates := gates }

/-- Commands were sent to the host that every guard on their way authorized them for, and to the
device of their plan. -/
def OnTarget [Digest] (s : TargetSystem ι) : Prop :=
  ∀ sent ∈ s.delivered, sent.authorized ≠ [] ∧
    (∀ entry ∈ sent.authorized, entry.1 = some sent.client.host) ∧
    ∀ device ∈ sent.plan, device = deviceIdOf sent.client.host

/-- The worker is about to read the configured host. -/
def readsHost (worker : ι) (s : TargetSystem ι) : Bool :=
  match s.gates.threads worker with
  | some ⟨.op .switchHost _, _, _⟩ => true
  | _ => false

/-- The condition: an operation reads the configured host only while that is the host of its
connection, or none is configured. -/
def FindsOwn (worker : ι) (s : TargetSystem ι) : TargetAction ι → Prop
  | .work t _ _ => t = worker → s.readsHost worker = true →
    s.credentials = none ∨ s.credentials = s.connection.map (·.host)
  | _ => True

instance (worker : ι) (s : TargetSystem ι) : (a : TargetAction ι) → Decidable (s.FindsOwn worker a)
  | .work _ _ _ => inferInstanceAs (Decidable (_ → _ → _ ∨ _))
  | .setup _ | .clear | .load | .connected | .failed | .drop | .operation _ _ _ | .execute _
  | .call _ _ | .finish _ => inferInstanceAs (Decidable True)

/-! ## The invariant -/

/-- The worker reads no host but that of its connection, and sends through it; no other thread sends
anything. -/
def reach (worker : ι) (connection : Option Client) (t : ι) : Reach :=
  if t = worker then
    { hosts := fun host => host = none ∨ host = connection.map (·.host)
      clients := fun client => connection = some client }
  else ⟨fun _ => True, fun _ => False⟩

structure Aimed [Digest] (worker : ι) (s : TargetSystem ι) : Prop where
  guarded : s.gates.Guarded (reach worker s.connection)
  authorized : ∀ th, s.gates.threads worker = some th → ∀ entry ∈ th.hold.authorized,
    ∃ client ∈ s.connection, entry.1 = some client.host
  delivered : s.OnTarget

/-- The guards that let a thread pass. -/
theorem authorized_next {g : Hold} {effect : Effect} {answer : Answer effect}
    {entry : Option Text × Text} (h : entry ∈ (g.next effect answer).authorized) :
    entry ∈ g.authorized ∨ effect = .mark (.authorized entry.1 entry.2) := by
  cases effect with
  | mark mark =>
    cases mark with
    | authorized host canonical =>
      obtain rfl | before := List.mem_cons.mp h
      · exact .inr rfl
      · exact .inl before
    | _ => exact .inl h
  | acquire lock => cases lock <;> exact .inl h
  | release lock =>
    cases lock with
    | write =>
      simp only [Hold.next, Hold.release] at h
      split at h
      · simp at h
      · exact .inl h
    | policy =>
      simp only [Hold.next, Hold.release] at h
      split at h
      · simp at h
      · exact .inl h
  | _ => exact .inl h

variable [Digest] {worker : ι} {s s' : TargetSystem ι}

/-- Who is at work does not see the connection change. -/
theorem guarded_of_idle {gates : GateSystem ι} {connection connection' : Option Client}
    (h : gates.Guarded (reach worker connection)) (idle : gates.threads worker = none) :
    gates.Guarded (reach worker connection') := by
  refine { h with keeps := fun t th here => ?_ }
  by_cases same : t = worker
  · subst same
    rw [idle] at here
    cases here
  · have keeps := h.keeps t th here
    simp only [reach, same, if_false] at keeps ⊢
    exact keeps

namespace Aimed

theorem initial (file : PolicyFile) : Aimed worker ({ gates := { file := file } } : TargetSystem ι) where
  guarded := GateSystem.Guarded.initial file
  authorized := by simp
  delivered := by simp [OnTarget]

/-- The credentials and the opening of a connection are of no concern. -/
theorem of_configured (h : s.Aimed worker) (credentials opening : Option Text) :
    Aimed worker { s with credentials := credentials, opening := opening } :=
  ⟨h.guarded, h.authorized, h.delivered⟩

/-- The connection changes between two jobs. -/
theorem of_idle (h : s.Aimed worker) (idle : s.gates.threads worker = none)
    (opening : Option Text) (connection : Option Client) :
    Aimed worker { s with opening := opening, connection := connection } where
  guarded := guarded_of_idle h.guarded idle
  authorized := by simp [idle]
  delivered := h.delivered

/-- A step of the gates that is no operation of the worker. -/
theorem of_gates (h : s.Aimed worker) {gates : GateSystem ι} {a : GateAction ι}
    (taken : s.gates.step a = some gates)
    (within : s.gates.Within (reach worker s.connection) a)
    (authorized : ∀ th, gates.threads worker = some th → ∀ entry ∈ th.hold.authorized,
      ∃ client ∈ s.connection, entry.1 = some client.host) :
    Aimed worker { s with gates := gates } where
  guarded := h.guarded.step within taken
  authorized := authorized
  delivered := h.delivered

/-- The worker begins a job. -/
theorem begin (h : s.Aimed worker) {call : Client → GateCall}
    (own : ∀ client, (call client).client? = some client) (taken : s.begin worker call = some s') :
    s'.Aimed worker := by
  obtain ⟨client, connected, began⟩ := Option.bind_eq_some_iff.mp taken
  obtain ⟨gates, called, rfl⟩ := Option.map_eq_some_iff.mp began
  refine h.of_gates called ?_ ?_
  · intro client' here
    rw [own] at here
    obtain rfl := Option.some.inj here
    simpa [reach] using connected
  · simp only [GateSystem.step] at called
    split at called
    · obtain rfl := Option.some.inj called
      simp
    · cases called

/-- What a thread sends is sent by the worker, and on target. -/
theorem sending (h : s.Aimed worker) {t : ι} {th : GateThread} (here : s.gates.threads t = some th)
    {client : Client} {commands : List Text} {k : Except Exn Text → Proc Unit}
    (next : th.program = .op (.runRawAction client commands) k) :
    th.hold.authorized ≠ [] ∧ (∀ entry ∈ th.hold.authorized, entry.1 = some client.host) ∧
      ∀ device ∈ th.hold.plan, device = deviceIdOf client.host := by
  have keeps := h.guarded.keeps t th here
  rw [next] at keeps
  obtain ⟨own, permitted, planned⟩ := keeps.1
  have same : t = worker := by
    by_contra other
    simp [reach, other] at own
  subst same
  have connected : s.connection = some client := by simpa [reach] using own
  refine ⟨?_, fun entry passed => ?_, fun device bound => ?_⟩
  · obtain ⟨file, data, host, canonical, line, -, -, -, passed, -⟩ := permitted.operable
    exact List.ne_nil_of_mem passed
  · obtain ⟨client', connected', host⟩ := h.authorized th here entry passed
    obtain rfl := Option.some.inj (connected.symm.trans connected')
    exact host
  · obtain ⟨host, admitted, rfl⟩ := planned device bound
    have host_eq : host = client.host := by simpa [reach, connected] using admitted
    rw [host_eq]

/-- A thread performs an operation. -/
theorem work (h : s.Aimed worker) {t : ι} {answers : (effect : Effect) → Answer effect}
    {replaced : Bool} (allowed : s.FindsOwn worker (.work t answers replaced))
    (taken : s.step worker (.work t answers replaced) = some s') : s'.Aimed worker := by
  obtain ⟨gates, worked, rfl⟩ := Option.map_eq_some_iff.mp taken
  have within : s.gates.Within (reach worker s.connection)
      (.work t (s.answers answers) replaced) := by
    rintro th here ⟨k, next⟩
    by_cases same : t = worker
    · subst same
      have reads : s.readsHost t = true := by
        obtain ⟨program, hold, since⟩ := th
        obtain rfl : program = _ := next
        simp [readsHost, here]
      simp only [reach, if_true]
      exact allowed rfl reads
    · simp [reach, same]
  have guarded := h.guarded.step within worked
  simp only [GateSystem.step] at worked
  split at worked
  · next th here =>
    split at worked
    · next effect k next =>
      obtain ⟨affected, -, rfl⟩ := Option.map_eq_some_iff.mp worked
      refine ⟨guarded, fun th' there entry passed => ?_, fun sent mem => ?_⟩
      · by_cases same : t = worker
        · subst same
          simp only [Function.update_self, Option.some.injEq] at there
          subst there
          obtain before | rfl := authorized_next passed
          · exact h.authorized th here entry before
          · have keeps := h.guarded.keeps t th here
            rw [next] at keeps
            obtain ⟨admitted, named, -⟩ := keeps.1
            simp only [reach, if_true] at admitted
            -- a guard passes for no host that is missing
            cases connected : s.connection with
            | none =>
              have missing : entry.1 = none := by simpa [connected] using admitted
              rw [missing] at named
              cases named
            | some client =>
              obtain missing | host := admitted
              · rw [missing] at named
                cases named
              · exact ⟨client, rfl, by simpa [connected] using host⟩
        · simp only [Function.update_of_ne (Ne.symm same)] at there
          exact h.authorized th' there entry passed
      · obtain new | old := List.mem_append.mp mem
        · have sends : s.sending t = some sent := by simpa using new
          obtain ⟨program, hold, since⟩ := th
          simp only [TargetSystem.sending, here] at sends
          split at sends
          · next client commands k hold' since' same =>
            obtain ⟨rfl, rfl, rfl⟩ : _ ∧ hold = hold' ∧ since = since' := by simpa using same
            obtain rfl := Option.some.inj sends
            exact h.sending here rfl
          · cases sends
        · exact h.delivered sent old
    · cases worked
  · cases worked

/-- Every step in which no operation finds another host configured keeps the invariant. -/
theorem step (h : s.Aimed worker) {a : TargetAction ι} (allowed : s.FindsOwn worker a)
    (taken : s.step worker a = some s') : s'.Aimed worker := by
  cases a with
  | setup host =>
    obtain rfl := Option.some.inj taken
    exact h.of_configured (some host) s.opening
  | clear =>
    obtain rfl := Option.some.inj taken
    exact h.of_configured none s.opening
  | load =>
    simp only [TargetSystem.step] at taken
    split at taken
    · obtain rfl := Option.some.inj taken
      exact h.of_configured s.credentials s.credentials
    · cases taken
  | connected =>
    simp only [TargetSystem.step] at taken
    split at taken
    · next idle _ =>
      obtain rfl := Option.some.inj taken
      exact h.of_idle idle _ _
    · cases taken
  | failed =>
    obtain rfl := Option.some.inj taken
    exact h.of_configured s.credentials none
  | drop =>
    simp only [TargetSystem.step] at taken
    split at taken
    · next idle =>
      obtain rfl := Option.some.inj taken
      exact h.of_idle idle s.opening none
    · cases taken
  | operation kind interface value => exact h.begin (fun _ => rfl) taken
  | execute sessionId => exact h.begin (fun _ => rfl) taken
  | call t call =>
    simp only [TargetSystem.step] at taken
    split at taken
    · cases taken
    · next gatesOnly =>
      obtain ⟨other, clientless⟩ := not_or.mp gatesOnly
      obtain ⟨gates, called, rfl⟩ := Option.map_eq_some_iff.mp taken
      refine h.of_gates called ?_ ?_
      · intro client here
        simp [Option.mem_def.mp here] at clientless
      · simp only [GateSystem.step] at called
        split at called
        · obtain rfl := Option.some.inj called
          simpa [Function.update_of_ne (Ne.symm other)] using h.authorized
        · cases called
  | work t answers replaced => exact h.work allowed taken
  | finish t =>
    obtain ⟨gates, finished, rfl⟩ := Option.map_eq_some_iff.mp taken
    refine h.of_gates finished trivial fun th here => ?_
    simp only [GateSystem.step] at finished
    split at finished
    · split at finished
      · obtain rfl := Option.some.inj finished
        by_cases same : worker = t
        · subst same
          simp at here
        · simp only [Function.update_of_ne same] at here
          exact h.authorized th here
      · cases finished
    · cases finished

end Aimed

/-- **The contacted device is the authorized one**, where no operation finds another host configured
than that of its connection. -/
theorem onTarget_of_reaches {file : PolicyFile}
    (h : Reaches (step worker) (FindsOwn worker) ({ gates := { file := file } } : TargetSystem ι) s) :
    s.OnTarget :=
  (h.invariant (Aimed.initial file) fun _ _ _ aimed allowed taken => aimed.step allowed taken).delivered

/-! ## Two configured hosts -/

/-- The session is connected to a host, the credentials are set to another or the same one, and the
session is unlocked for an operation that sends its commands. -/
def operationRun (connected configured : Text) : List (TargetAction (Fin 2)) :=
  let works (t : Fin 2) (n : Nat) : List (TargetAction (Fin 2)) :=
    List.replicate n (.work t (fun effect => (answering [] effect ()).1) false)
  [.setup connected, .load, .connected, .setup configured, .call 0 .unlock] ++ works 0 6 ++
    [.finish 0, .operation .adminDown "Gi1/0/6" none] ++ works 1 34

omit [Digest] in
theorem onTarget_of_operation : ∃ s : TargetSystem (Fin 2),
    s.delivered.map (fun sent => (sent.client.host, sent.authorized)) =
      [(sampleHost, [(some sampleHost, "GigabitEthernet1/0/6".toList)])] ∧
    @OnTarget _ sampleDigest s := by
  obtain ⟨s, reached, ended⟩ := exists_reaches_of_run_guarded (@step (Fin 2) _ sampleDigest 1)
    (FindsOwn 1) { gates := { file := GateSystem.operableFile } } (operationRun sampleHost sampleHost)
    (fun s => s.delivered.map (fun sent => (sent.client.host, sent.authorized)) =
      [(sampleHost, [(some sampleHost, "GigabitEthernet1/0/6".toList)])]) (by decide +kernel)
  exact ⟨s, of_decide_eq_true ended, @onTarget_of_reaches _ _ sampleDigest _ _ _ reached⟩

omit [Digest] in
/-- Commands that the policy of one host authorized are sent to another host. -/
theorem not_onTarget : ∃ s : TargetSystem (Fin 2),
    Reaches (@step _ _ sampleDigest 1) Always { gates := { file := GateSystem.operableFile } } s ∧
      ¬ @OnTarget _ sampleDigest s := by
  obtain ⟨s, reached, ended⟩ := exists_reaches_of_run (@step (Fin 2) _ sampleDigest 1)
    { gates := { file := GateSystem.operableFile } } (operationRun "192.0.2.11" sampleHost)
    (fun s => s.delivered.map (fun sent => (sent.client.host, sent.authorized)) =
      [("192.0.2.11".toList, [(some sampleHost, "GigabitEthernet1/0/6".toList)])])
    (by decide +kernel)
  refine ⟨s, reached, fun onTarget => ?_⟩
  obtain ⟨sent, delivered, same⟩ := List.map_eq_singleton_iff.mp (of_decide_eq_true ended)
  obtain ⟨contacted, authorized⟩ := Prod.mk.inj same
  have own := (onTarget sent (by simp [delivered])).2.1 _ (by rw [authorized]; exact List.mem_cons_self)
  rw [contacted] at own
  exact absurd own (by decide)

end TargetSystem

end SwitchOps
