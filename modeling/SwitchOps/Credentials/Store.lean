import Mathlib.Logic.Function.Basic
import SwitchOps.Models

/-!
# The credential store

`CredentialStore` of `credential_store.py`: the login of the switch is kept in the keyring of the
operating system, one entry for each field, or else in a guarded local file. The keyring is a map
from the keys to texts whose writes may fail one by one; a write that fails leaves its entry as it was.
-/

namespace SwitchOps

/-- The default of `switch_device_type`. -/
def defaultDeviceType : Text := "cisco_ios"

structure SwitchCredentials where
  switchHost : Text
  switchUsername : Text
  switchPassword : Text
  switchEnableSecret : Text
  switchDeviceType : Text := defaultDeviceType
  deriving DecidableEq, Repr

/-- The names of the entries, `_ACCOUNT_KEYS`. -/
inductive AccountKey
  | switchHost
  | switchUsername
  | switchPassword
  | switchEnableSecret
  | switchDeviceType
  deriving DecidableEq, Repr

/-- `_ACCOUNT_KEYS` -/
def accountKeys : List AccountKey :=
  [.switchHost, .switchUsername, .switchPassword, .switchEnableSecret, .switchDeviceType]

inductive CredentialStorage
  | keyring
  | file
  | env
  | none
  deriving DecidableEq, Repr

namespace SwitchCredentials

def field (creds : SwitchCredentials) : AccountKey → Text
  | .switchHost => creds.switchHost
  | .switchUsername => creds.switchUsername
  | .switchPassword => creds.switchPassword
  | .switchEnableSecret => creds.switchEnableSecret
  | .switchDeviceType => creds.switchDeviceType

def ofFields (field : AccountKey → Text) : SwitchCredentials where
  switchHost := field .switchHost
  switchUsername := field .switchUsername
  switchPassword := field .switchPassword
  switchEnableSecret := field .switchEnableSecret
  switchDeviceType := field .switchDeviceType

/-- `_credentials_complete`, of credentials that are there. -/
def complete (creds : SwitchCredentials) : Bool :=
  !creds.switchHost.strip.isEmpty && !creds.switchUsername.strip.isEmpty &&
    !creds.switchPassword.isEmpty

theorem ofFields_eq_iff {field : AccountKey → Text} {creds : SwitchCredentials} :
    ofFields field = creds ↔ ∀ k, field k = creds.field k := by
  constructor
  · rintro rfl k
    cases k <;> rfl
  · intro same
    cases creds
    simpa [ofFields, SwitchCredentials.field] using
      ⟨same .switchHost, same .switchUsername, same .switchPassword, same .switchEnableSecret,
        same .switchDeviceType⟩

end SwitchCredentials

/-! ## The backends -/

abbrev KeyringEntries := AccountKey → Option Text

/-- `credentials.json`, as the store writes it. -/
inductive CredentialFile
  | absent
  | unreadable
  | document (creds : SwitchCredentials)
  deriving DecidableEq, Repr

/-- The variables `SWITCH_*` of the environment. -/
structure CredentialEnvironment where
  password : Option Text := none
  host : Text := []
  username : Text := []
  enableSecret : Text := []
  deviceType : Text := defaultDeviceType
  deriving DecidableEq, Repr

/-- What the store finds: the keyring, if there is one, the file and the environment. -/
structure CredentialBackends where
  keyring : Option KeyringEntries
  file : CredentialFile := .absent
  env : CredentialEnvironment := {}

/-- An entry as `_load_keyring` reads it. -/
def readEntry (entries : KeyringEntries) : AccountKey → Text
  | .switchDeviceType =>
    match entries .switchDeviceType with
    | none | some [] => defaultDeviceType
    | some value => value
  | k => (entries k).getD []

namespace CredentialBackends

variable (b : CredentialBackends)

/-- `_load_keyring` -/
def loadKeyring : Option SwitchCredentials :=
  b.keyring.bind fun entries =>
    if (readEntry entries .switchPassword).isEmpty then none
    else some (.ofFields (readEntry entries))

/-- `_load_file` -/
def loadFile : Option SwitchCredentials :=
  match b.file with
  | .absent | .unreadable => none
  | .document creds => some creds

/-- `_load_env` -/
def loadEnv : Option SwitchCredentials :=
  match b.env.password with
  | none | some [] => none
  | some password =>
    let host := b.env.host.strip
    let username := b.env.username.strip
    if password.startsWith "__REPLACE" || host.isEmpty || username.isEmpty then none
    else some {
      switchHost := host
      switchUsername := username
      switchPassword := password
      switchEnableSecret := b.env.enableSecret
      switchDeviceType := b.env.deviceType }

/-- `load` -/
def load : Option SwitchCredentials :=
  [b.loadKeyring, b.loadFile, b.loadEnv].findSome? fun candidate => candidate.filter (·.complete)

end CredentialBackends

/-! ## Saving -/

/-- Which writes of a call fail. -/
structure CredentialFaults where
  setPassword : AccountKey → Bool := fun _ => false
  unlink : Bool := false
  writeTemporary : Bool := false
  replaceFile : Bool := false

/-- `_save_keyring`: the entries written up to the first write that fails, and whether none did. -/
def saveKeyring (creds : SwitchCredentials) (faults : CredentialFaults) :
    List AccountKey → KeyringEntries → KeyringEntries × Bool
  | [], entries => (entries, true)
  | k :: rest, entries =>
    if faults.setPassword k then (entries, false)
    else saveKeyring creds faults rest (Function.update entries k (some (creds.field k)))

namespace CredentialBackends

/-- `_save_file` -/
def saveFile (b : CredentialBackends) (creds : SwitchCredentials) (faults : CredentialFaults) :
    Except Exn CredentialStorage × CredentialBackends :=
  if faults.writeTemporary || faults.replaceFile then (.error (.other "OSError" []), b)
  else (.ok .file, { b with file := .document creds })

/-- `save` -/
def save (b : CredentialBackends) (creds : SwitchCredentials) (faults : CredentialFaults) :
    Except Exn CredentialStorage × CredentialBackends :=
  if !creds.complete then
    (.error (.other "ValueError" "Host, username, and password are required."), b)
  else match b.keyring with
    | none => b.saveFile creds faults
    | some entries =>
      let (entries, finished) := saveKeyring creds faults accountKeys entries
      let b := { b with keyring := some entries }
      if !finished then b.saveFile creds faults
      else if b.file = .absent then (.ok .keyring, b)
      -- the exception of a file that cannot be removed leads to the file as well
      else if faults.unlink then b.saveFile creds faults
      else (.ok .keyring, { b with file := .absent })

end CredentialBackends

end SwitchOps
