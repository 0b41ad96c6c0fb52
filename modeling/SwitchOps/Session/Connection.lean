import SwitchOps.Environment
import Mathlib.Data.Rat.Defs
import Mathlib.Algebra.Order.Ring.Rat

/-!
# The connection to the switch

The fields of `DeviceSessionManager` that say how the connection stands, and the methods of the
worker that update them. Times are those of `time.monotonic()`, in seconds. What the network
answers is an argument: whether the transport is alive, and how an attempt to connect ends.
-/

namespace SwitchOps

/-- The connection states surfaced to the UI. -/
inductive ConnectionState
  | offline
  | connecting
  | live
  | stale
  | reconnecting
  deriving DecidableEq, Repr

/-- `exc.code`. -/
def Exn.code : Exn → Text
  | .switchOps cls _ => cls.code
  | .other _ _ => ErrorClass.switchOps.code

/-- `isinstance(exc, HostKeyChangedError)`. -/
def Exn.isHostKeyChanged : Exn → Bool
  | .switchOps .hostKeyChanged _ => true
  | _ => false

/-- `isinstance(exc, CredentialsMissingError)`. -/
def Exn.isCredentialsMissing : Exn → Bool
  | .switchOps .credentialsMissing _ => true
  | _ => false

/-- What the manager holds about the connection. -/
structure Connection where
  client : Option Client := none
  state : ConnectionState := .offline
  lastError : Option Text := none
  lastErrorCode : Option Text := none
  backoff : ℚ := 2
  nextAttemptAt : ℚ := 0
  reconnects : Nat := 0
  deriving DecidableEq, Repr

/-- What `_ensure_client` comes to before it connects: a client that is alive, no client because
the next attempt is not due, or an attempt. -/
inductive Readiness
  | ready (client : Client)
  | unavailable
  | attempt
  deriving DecidableEq, Repr

namespace Connection

/-- `_BACKOFF_START` -/
def backoffStart : ℚ := 2

/-- `_BACKOFF_MAX` -/
def backoffMax : ℚ := 60

/-- `_IDLE_KEEPALIVE_SECONDS` -/
def idleKeepaliveSeconds : ℚ := 45

/-- `_set_state`; an error is remembered, and the state `live` forgets the last one. -/
def setState (c : Connection) (state : ConnectionState) (error : Option Exn) : Connection :=
  match error with
  | some exc => { c with
      state := state, lastError := some exc.message, lastErrorCode := some exc.code }
  | none =>
    if state = .live then { c with state := state, lastError := none, lastErrorCode := none }
    else { c with state := state }

/-- `_close_client` -/
def closeClient (c : Connection) : Connection := { c with client := none }

/-- `_drop_client` -/
def dropClient (c : Connection) (error : Option Exn) : Connection :=
  c.closeClient.setState .stale error

/-- `_ensure_client`, where the transport of a held client has died underneath. -/
def loseClient (c : Connection) : Connection :=
  match c.client with
  | some _ => { c.closeClient with reconnects := c.reconnects + 1 }.setState .reconnecting none
  | none => c

/-- The state published for the time of an attempt. -/
def attemptState (c : Connection) : ConnectionState :=
  if c.reconnects = 0 then .connecting else .reconnecting

/-- `_ensure_client` up to the attempt to connect, at the time `now`. -/
def beforeAttempt (c : Connection) (alive : Bool) (now : ℚ) : Connection × Readiness :=
  match c.client, alive with
  | some client, true => (c, .ready client)
  | _, _ =>
    let c := c.loseClient
    if now < c.nextAttemptAt then (c, .unavailable)
    else (c.setState c.attemptState none, .attempt)

/-- `_ensure_client` from the end of the attempt on, which was begun at the time `now`. -/
def afterAttempt (c : Connection) (now : ℚ) (outcome : Except Exn Client) : Connection :=
  match outcome with
  | .error exc =>
    if exc.isHostKeyChanged || exc.isCredentialsMissing then
      -- a security decision for a human, not something to retry into
      { c with nextAttemptAt := now + backoffMax }.setState .offline (some exc)
    else
      let backoff := min backoffMax (c.backoff * 2)
      let shown : Exn := if exc.isSwitchOps then exc else .switchOps .switchOps exc.typeName
      { c with backoff := backoff, nextAttemptAt := now + backoff }.setState .offline (some shown)
  | .ok client =>
    { c with client := some client, backoff := backoffStart, nextAttemptAt := 0 }.setState .live none

/-- What the end of a job does to the connection: a transport-level failure invalidates the
session, a parser or logic error does not. -/
def afterJob (c : Connection) (outcome : Except Exn Unit) (alive : Bool) : Connection :=
  match outcome with
  | .ok _ => c
  | .error exc =>
    if exc.isHostKeyChanged then c.dropClient (some exc)
    else if c.client.isSome && !alive then c.dropClient none
    else c

/-- The error a job is failed with when there is no client for it. -/
def unavailableError (c : Connection) : Exn :=
  -- `self._last_error or ...`: an empty message counts as none
  let message := match c.lastError with
    | some (ch :: rest) => ch :: rest
    | _ => "The switch session is not available.".toList
  if c.lastErrorCode = some ErrorClass.credentialsMissing.code then
    .switchOps .credentialsMissing message
  else if c.lastErrorCode = some ErrorClass.hostKeyChanged.code then
    .switchOps .hostKeyChanged message
  else .switchOps .switchOps message

/-! ### What each method leaves alone -/

variable (c : Connection)

@[simp] theorem setState_client (state : ConnectionState) (error : Option Exn) :
    (c.setState state error).client = c.client := by
  unfold setState; split <;> (try split) <;> rfl

@[simp] theorem setState_state (state : ConnectionState) (error : Option Exn) :
    (c.setState state error).state = state := by
  unfold setState; split <;> (try split) <;> rfl

@[simp] theorem setState_backoff (state : ConnectionState) (error : Option Exn) :
    (c.setState state error).backoff = c.backoff := by
  unfold setState; split <;> (try split) <;> rfl

@[simp] theorem setState_nextAttemptAt (state : ConnectionState) (error : Option Exn) :
    (c.setState state error).nextAttemptAt = c.nextAttemptAt := by
  unfold setState; split <;> (try split) <;> rfl

@[simp] theorem closeClient_client : c.closeClient.client = none := rfl
@[simp] theorem closeClient_state : c.closeClient.state = c.state := rfl
@[simp] theorem closeClient_backoff : c.closeClient.backoff = c.backoff := rfl
@[simp] theorem closeClient_nextAttemptAt : c.closeClient.nextAttemptAt = c.nextAttemptAt := rfl

@[simp] theorem dropClient_client (error : Option Exn) : (c.dropClient error).client = none := by
  simp [dropClient]

@[simp] theorem dropClient_state (error : Option Exn) : (c.dropClient error).state = .stale := by
  simp [dropClient]

@[simp] theorem dropClient_backoff (error : Option Exn) :
    (c.dropClient error).backoff = c.backoff := by
  simp [dropClient]

@[simp] theorem dropClient_nextAttemptAt (error : Option Exn) :
    (c.dropClient error).nextAttemptAt = c.nextAttemptAt := by
  simp [dropClient]

@[simp] theorem loseClient_client : c.loseClient.client = none := by
  unfold loseClient; split <;> simp_all

@[simp] theorem loseClient_backoff : c.loseClient.backoff = c.backoff := by
  unfold loseClient; split <;> simp

@[simp] theorem loseClient_nextAttemptAt : c.loseClient.nextAttemptAt = c.nextAttemptAt := by
  unfold loseClient; split <;> simp

theorem loseClient_live (h : c.loseClient.state = .live) : c.state = .live ∧ c.client = none := by
  unfold loseClient at h
  split at h
  · simp at h
  · next none => exact ⟨h, none⟩

theorem attemptState_ne_live : c.attemptState ≠ .live := by
  unfold attemptState; split <;> simp

/-- How `_ensure_client` goes before an attempt: there is a client that is alive, or none and the
next attempt is not due, or none and an attempt is made. -/
theorem beforeAttempt_cases (alive : Bool) (now : ℚ) {c' : Connection} {r : Readiness}
    (h : c.beforeAttempt alive now = (c', r)) :
    c'.backoff = c.backoff ∧ c'.nextAttemptAt = c.nextAttemptAt ∧
      ((∃ client, r = .ready client ∧ c.client = some client ∧ c' = c) ∨
        (r = .unavailable ∧ now < c.nextAttemptAt ∧ c'.client = none ∧
          (c'.state = .live → c.state = .live ∧ c.client = none)) ∨
        (r = .attempt ∧ c.nextAttemptAt ≤ now ∧ c'.client = none ∧ c'.state ≠ .live)) := by
  unfold beforeAttempt at h
  split at h
  · next client held => cases h; simp [held]
  · by_cases early : now < c.nextAttemptAt
    · rw [if_pos (by simpa using early)] at h
      cases h
      simpa [early] using c.loseClient_live
    · rw [if_neg (by simpa using early)] at h
      cases h
      simp [not_lt.mp early, attemptState_ne_live]

/-- What the end of a job that meets no changed host key does to the connection. -/
theorem afterJob_cases {outcome : Except Exn Unit} (alive : Bool)
    (h : ∀ exc, outcome = .error exc → exc.isHostKeyChanged = false) :
    c.afterJob outcome alive = c ∨ c.afterJob outcome alive = c.dropClient none := by
  cases outcome with
  | ok _ => exact .inl rfl
  | error exc =>
    simp only [afterJob, h exc rfl, Bool.false_eq_true, if_false]
    split
    · exact .inr rfl
    · exact .inl rfl

end Connection

end SwitchOps
