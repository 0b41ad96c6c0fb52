import SwitchOps.Lib.Dict
import SwitchOps.Lib.Program
import SwitchOps.Models

/-!
# SSH host keys

`host_key_store.py`, and the clients that connect through it. A host that was never connected to is
trusted with the key it presents, which is pinned; from then on the connection is refused unless that
key is presented. `paramiko.HostKeys` maps a host name to a key of each type.

What the SSH library accepts of the other side is left to the environment: with a pin it refuses keys
of its own accord, but every client verifies the key again when the connection stands.
-/

namespace SwitchOps

open Effects Effects.Program

/-! ## The trust file -/

/-- `paramiko.PKey`: the name of its type, and the key. -/
structure PKey where
  name : Text
  blob : Text
  deriving DecidableEq, Repr

/-- `paramiko.HostKeys` -/
abbrev HostKeys := Dict Text (Dict Text PKey)

namespace HostKeys

/-- `keys.lookup(host)` -/
def lookup (keys : HostKeys) (host : Text) : Option (Dict Text PKey) := Dict.get? keys host

/-- `keys.add(host, key_type, key)` -/
def add (keys : HostKeys) (host : Text) (key : PKey) : HostKeys :=
  Dict.set keys host (((keys.lookup host).getD []).set key.name key)

theorem lookup_add_self {keys : HostKeys} {host : Text} (h : keys.lookup host = none) (key : PKey) :
    (keys.add host key).lookup host = some [(key.name, key)] := by
  rw [lookup, add, Dict.get?_set_self, h]
  rfl

theorem lookup_add_ne (keys : HostKeys) {host other : Text} (h : host ≠ other) (key : PKey) :
    (keys.add host key).lookup other = keys.lookup other :=
  Dict.get?_set_ne _ h

end HostKeys

/-- The content of `switch_known_hosts`. -/
inductive TrustFile
  | absent
  | invalid
  | pins (keys : HostKeys)
  deriving DecidableEq, Repr

/-- The pins of a file; those of an invalid one are unknown. -/
def TrustFile.content : TrustFile → Option HostKeys
  | .absent => some []
  | .invalid => none
  | .pins keys => some keys

/-! ## Programs -/

inductive SshClientKind
  | netmiko
  | legacy
  deriving DecidableEq, Repr

/-- Why the SSH library gives up. -/
inductive SshFailure
  | badHostKey
  /-- Another `SSHException`, by its type. -/
  | negotiation (typeName message : Text)
  /-- `socket.timeout` and `OSError`. -/
  | network (message : Text)
  | noTransport
  deriving DecidableEq, Repr

inductive SshEffect
  | acquire
  | release
  /-- `_load(path)`, under the lock. -/
  | load
  /-- The pins as the SSH library loads them, outside the lock. -/
  | loadForClient
  /-- The new pins, written beside the file. -/
  | save (keys : HostKeys)
  /-- `os.replace`, and the permissions of the new file. -/
  | replace (keys : HostKeys)
  /-- `ConnectHandler(**params)` or `client.connect(...)`, strict or not. -/
  | handshake (client : SshClientKind) (host : Text) (strict : Bool)
  /-- What is done on an established connection, up to the first prompt. -/
  | openSession (client : SshClientKind)

abbrev SshEffect.Answer : SshEffect → Type
  | .acquire | .release => Unit
  | .load | .loadForClient => TrustFile
  | .save _ | .replace _ | .openSession _ => Except Exn Unit
  | .handshake _ _ _ => Except SshFailure PKey

abbrev SshProc (α : Type) := Program SshEffect SshEffect.Answer α

/-- A program that may raise. -/
abbrev SshAction (α : Type) := ExceptT Exn (Program SshEffect SshEffect.Answer) α

def askSsh (effect : SshEffect) : SshProc effect.Answer := perform effect

def raiseSsh {α : Type} (cls : ErrorClass) (message : Text) : SshAction α :=
  throw (.switchOps cls message)

/-- `with _LOCK` -/
def withHostKeyLock {α : Type} (body : SshAction α) : SshAction α := ExceptT.mk (do
  askSsh .acquire
  let outcome ← body.run
  askSsh .release
  return outcome)

def invalidTrustFile : Exn :=
  .switchOps .hostKeyChanged "The local SSH host-key trust file is invalid."

def hostKeyChanged : Exn :=
  .switchOps .hostKeyChanged "The switch SSH host key changed; connection refused."

/-- `_load` -/
def loadHostKeys : SshAction HostKeys := ExceptT.mk (do
  let file ← askSsh .load
  return match TrustFile.content file with
    | some keys => .ok keys
    | none => .error invalidTrustFile)

def isHostPinned (host : Text) : SshAction Bool := withHostKeyLock (do
  let keys ← loadHostKeys
  return (keys.lookup host).isSome)

/-- What `verify_and_pin_host_key` does with the pins it has loaded. -/
def verifyOrPin (host : Text) (key : PKey) (keys : HostKeys) : SshAction Bool :=
  match keys.lookup host with
  | some existing =>
    if existing.get? key.name = some key then pure false else throw hostKeyChanged
  | none => ExceptT.mk (do
    match ← askSsh (.save (keys.add host key)) with
    | .error exc => return .error exc
    | .ok () =>
      match ← askSsh (.replace (keys.add host key)) with
      | .error exc => return .error exc
      | .ok () => return .ok true)

def verifyAndPinHostKey (host : Text) (key : PKey) : SshAction Bool := withHostKeyLock (do
  let keys ← loadHostKeys
  verifyOrPin host key keys)

/-- `configure_paramiko_policy`: whether the client rejects an unknown key. -/
def configureParamikoPolicy (host : Text) : SshAction Bool := do
  let pinned ← isHostPinned host
  if pinned then
    let file ← (ExceptT.lift (askSsh .loadForClient) : SshAction TrustFile)
    match file with
    | .pins _ => return true
    | .absent | .invalid => throw (.other "OSError" [])
  else return false

/-! ## The clients -/

/-- What is raised for an exception of `NetmikoSwitchClient.connect`. -/
def netmikoError : Exn → Exn
  | .switchOps .hostKeyChanged message => .switchOps .hostKeyChanged message
  | exc =>
    if Text.contains exc.typeName "Kex" || Text.contains exc.typeName "Negotiation" ||
        Text.contains exc.typeName "SSH" then
      .switchOps .legacySshNegotiation "Netmiko SSH negotiation failed"
    else .switchOps .switchConnection "Netmiko connection failed"

/-- The exception of a failed handshake. -/
def SshFailure.exn : SshFailure → Exn
  | .badHostKey => .other "BadHostKeyException" []
  | .negotiation typeName message => .other typeName message
  | .network message => .other "OSError" message
  | .noTransport => .switchOps .switchConnection "SSH transport was not established."

/-- What `LegacyParamikoClient.connect` raises for a failed handshake. -/
def SshFailure.legacyExn (host : Text) : SshFailure → Exn
  | .badHostKey => hostKeyChanged
  | .negotiation _ _ => .switchOps .legacySshNegotiation "SSH negotiation failed"
  | .network _ => .switchOps .switchConnection ("Could not reach ".toList ++ host)
  | .noTransport => .switchOps .switchConnection "SSH transport was not established."

/-- `connect` of the Netmiko client; it returns the key that was presented. -/
def connectNetmiko (host : Text) : SshAction PKey := do
  let pinned ← isHostPinned host
  let connection : SshAction PKey := do
    let key ← (ExceptT.mk (do
      let outcome ← askSsh (.handshake .netmiko host pinned)
      return (outcome : Except SshFailure PKey).mapError SshFailure.exn) : SshAction PKey)
    let _ ← verifyAndPinHostKey host key
    let _ ← (ExceptT.mk (askSsh (.openSession .netmiko)) : SshAction Unit)
    return key
  ExceptT.mk (do
    let outcome ← connection.run
    return outcome.mapError netmikoError)

/-- `connect` of the Paramiko client; it returns the key that was presented. -/
def connectLegacy (host : Text) : SshAction PKey := do
  let strict ← configureParamikoPolicy host
  let key ← (ExceptT.mk (do
    let outcome ← askSsh (.handshake .legacy host strict)
    return (outcome : Except SshFailure PKey).mapError (SshFailure.legacyExn host)) : SshAction PKey)
  let _ ← verifyAndPinHostKey host key
  let _ ← (ExceptT.mk (askSsh (.openSession .legacy)) : SshAction Unit)
  return key

/-- `connect_switch_client`: the Paramiko client follows where the negotiation failed. -/
def connectSwitchClient (legacySsh : Bool) (host : Text) : SshAction PKey := ExceptT.mk (do
  match ← (connectNetmiko host).run with
  | .error (.switchOps .legacySshNegotiation message) =>
    if legacySsh then (connectLegacy host).run
    else return .error (.switchOps .legacySshNegotiation message)
  | outcome => return outcome)

end SwitchOps
