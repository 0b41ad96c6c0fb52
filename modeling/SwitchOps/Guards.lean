import SwitchOps.Environment

/-!
# The write gates

The methods of `InterfacePolicyStore` and of `WriteLock`. A write needs three independent gates:
the persisted preference for controlled writes, an `OPERABLE` interface, and the unlock of this
process. The two `operation_guard`s keep them stable while a transaction runs, by holding the
lock of each store.
-/

namespace SwitchOps

open Effects Effects.Program

/-- `with lock: body`, for a body that may raise. -/
def locked {α : Type} (lock : Lock) (body : Action α) : Action α := ExceptT.mk (withLock lock body.run)

/-- `not host`, for a host that may be missing. -/
def noHost (host : Option Text) : Bool := (host.getD []).isEmpty

/-! ## `InterfacePolicyStore` -/

namespace InterfacePolicyStore

variable [Digest]

/-- `_write_unlocked`. -/
def writeUnlocked (policy : InterfacePolicy) : Action Unit := perform (Effect.writePolicy policy)

/-- `controlled_writes_enabled`. -/
def controlledWritesEnabled : Proc Bool := withLock .policy do
  match ← loadPolicy with
  | none => return false
  | some data => return data.controlledWritesEnabled

/-- `set_controlled_writes`. -/
def setControlledWrites (enabled : Bool) : Action Unit := locked .policy do
  match ← quietly loadPolicy with
  | none => throw (.commandNotAllowed
      ("The local interface policy is invalid. "
        ++ "Repair or remove it before enabling writes.".toList))
  | some data => writeUnlocked { data with controlledWritesEnabled := enabled }

/-- `state_for`. -/
def stateFor (host : Option Text) (interface : Text) : Action PolicyState := do
  if noHost host then return .unmanaged
  let canonical ← orRaise (normalizeInterface interface)
  locked .policy do
    match ← quietly loadPolicy with
    | none => return .unmanaged
    | some data => return data.stateOf (host.getD []) canonical

/-- `set_state`. -/
def setState (host interface state : Text) : Action Unit := do
  if host.isEmpty then throw (.commandNotAllowed "No device is configured.")
  let canonical ← orRaise (normalizeInterface interface)
  let some state := InterfacePolicy.parseState (.string state)
    | throw (.commandNotAllowed "Unknown interface policy state.")
  if state = .operable then
    let _ ← orRaise (assertInterfaceWritable canonical)
  locked .policy do
    match ← quietly loadPolicy with
    | none => throw (.commandNotAllowed
        ("The local interface policy is invalid. "
          ++ "Repair or remove it before editing policy.".toList))
    | some data =>
      writeUnlocked (data.updateDevice host fun interfaces =>
        if state = .unmanaged then Dict.pop interfaces canonical
        else Dict.set interfaces canonical state)

/-- `ensure_protected`: protection is recorded without ever granting authority. -/
def ensureProtected (host interface : Option Text) : Action Unit := do
  if noHost host || noHost interface then return ()
  let canonical ← orRaise (normalizeInterface (interface.getD []))
  locked .policy do
    match ← quietly loadPolicy with
    | none => return ()
    | some data =>
      if data.stateOf (host.getD []) canonical = .isProtected then return ()
      writeUnlocked (data.updateDevice (host.getD []) fun interfaces =>
        Dict.set interfaces canonical .isProtected)

/-- `assert_operable`: the canonical name of an interface that may be changed. -/
def assertOperable (host : Option Text) (interface : Text) : Action Text := do
  let canonical ← orRaise (assertInterfaceWritable interface)
  if noHost host then
    throw (.commandNotAllowed "No configured device policy can authorize this interface.")
  locked .policy do
    match ← quietly loadPolicy with
    | none => throw (.commandNotAllowed
        ("The local interface policy is invalid; " ++ "all interfaces are read-only.".toList))
    | some data =>
      match data.stateOf (host.getD []) canonical with
      | .isProtected => throw (.switchOps .protectedInterface
          ("Interface " ++ canonical ++ " is protected and cannot be modified."))
      | .unmanaged => throw (.commandNotAllowed
          ("Interface " ++ canonical ++ " is unmanaged and cannot be modified."))
      | .operable => return canonical

/-- `operation_guard`: hold the policy stable while `body` runs. -/
def operationGuard {α : Type} (host : Option Text) (interface : Text) (body : Text → Action α) :
    Action α := locked .policy do
  let disabled : Exn := .writeActionsDisabled
    "Controlled writes are disabled in local SwitchOps settings."
  match ← quietly loadPolicy with
  | none => throw disabled
  | some data =>
    if !data.controlledWritesEnabled then throw disabled
    let canonical ← assertOperable host interface
    quietly (reached (.authorized host canonical))
    body canonical

end InterfacePolicyStore

/-! ## `WriteLock` -/

namespace WriteLock

/-- The error of a capability that is switched off for the installation. -/
def disabled : Exn := .writeActionsDisabled
  "Controlled writes are disabled for this installation."

/-- The error of a session that is locked. -/
def sessionLocked : Exn := .writeActionsDisabled
  ("Device control is locked. " ++ "Unlock controlled writes for this session first.".toList)

/-- `unlock`. The capability is read before the lock is taken. -/
def unlock : Action Unit := do
  if !(← quietly InterfacePolicyStore.controlledWritesEnabled) then throw disabled
  quietly (withLock .write (perform (Effect.writeUnlocked true)))

/-- `lock`. -/
def lock : Proc Unit := withLock .write (perform (Effect.writeUnlocked false))

/-- The property `unlocked`. -/
def unlocked : Proc Bool := withLock .write do
  if ← readUnlocked then InterfacePolicyStore.controlledWritesEnabled else return false

/-- `require_unlocked`. -/
def requireUnlocked : Action Unit := do
  if !(← quietly InterfacePolicyStore.controlledWritesEnabled) then throw disabled
  if !(← quietly unlocked) then throw sessionLocked

/-- `operation_guard`: keep the session approval stable while `body` runs. -/
def operationGuard {α : Type} (body : Action α) : Action α := locked .write do
  if !(← quietly readUnlocked) then throw sessionLocked
  if !(← quietly InterfacePolicyStore.controlledWritesEnabled) then throw sessionLocked
  body

end WriteLock

end SwitchOps
