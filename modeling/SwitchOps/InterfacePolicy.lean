import Mathlib.Data.Rat.Defs
import SwitchOps.CommandRegistry
import SwitchOps.Lib.Dict

/-!
# Interface policy

The data of `interface_policy.py`: the policy file, its validation, and the state of an interface
under it. Devices are identified by a digest of their host; whatever the file does not mention is
`UNMANAGED`, and a file that does not validate gives no policy at all.
-/

namespace SwitchOps

/-! ## The policy file -/

/-- What `json.loads` returns. The members of an object have distinct keys. -/
inductive Json
  | null
  | bool (value : Bool)
  | number (value : Rat)
  | string (value : Text)
  | array (items : List Json)
  | object (members : List (Text × Json))

/-- `value.get(key)`, for a value that is a `dict`. -/
def Json.get? : Json → Text → Option Json
  | .object members, key => Dict.get? members key
  | _, _ => none

/-- The policy file: absent, not readable as JSON, or a JSON document. -/
inductive PolicyFile
  | absent
  | unreadable
  | document (json : Json)

/-- A validated policy: the controlled-write preference, and the recorded interface states of
each device, by device key and canonical interface name. -/
structure InterfacePolicy where
  controlledWritesEnabled : Bool
  devices : Dict Text (Dict Text PolicyState)
  deriving DecidableEq, Repr

namespace InterfacePolicy

/-- `_empty`. -/
def empty : InterfacePolicy := ⟨false, []⟩

/-- `_is_device_key`. -/
def isDeviceKey (value : Text) : Bool := isHexDigest value

/-- A member of `_STATES`. -/
def parseState : Json → Option PolicyState
  | .string value =>
    if value = PolicyState.isProtected.text then some .isProtected
    else if value = PolicyState.operable.text then some .operable
    else if value = PolicyState.unmanaged.text then some .unmanaged
    else none
  | _ => none

/-- One entry of `interfaces`: a name of the grammar, and a state that is `OPERABLE` only for a
physical interface. -/
def validateEntry (entry : Text × Json) : Option (Text × PolicyState) :=
  match normalizeInterface entry.1, parseState entry.2 with
  | .ok canonical, some state =>
    if state = .operable ∧ isPhysicalInterface canonical ≠ .ok true then none
    else some (canonical, state)
  | _, _ => none

/-- One entry of `devices`. -/
def validateDevice (entry : Text × Json) : Option (Text × Dict Text PolicyState) :=
  if !isDeviceKey entry.1 then none
  else match entry.2.get? "interfaces" with
    | some (.object interfaces) =>
      (interfaces.mapM validateEntry).map fun entries => (entry.1, Dict.ofList entries)
    | _ => none

/-- The checks of `_load_unlocked` on the document. -/
def validate (raw : Json) : Option InterfacePolicy :=
  match raw.get? "schemaVersion", raw.get? "controlledWritesEnabled", raw.get? "devices" with
  | some version, some (.bool enabled), some (.object devices) =>
    -- `True == 1` in Python
    if version matches .bool true ∨ (version matches .number 1) then
      (devices.mapM validateDevice).map fun devices => ⟨enabled, Dict.ofList devices⟩
    else none
  | _, _, _ => none

/-- The document `_write_unlocked` writes. -/
def toJson (policy : InterfacePolicy) : Json :=
  let device (interfaces : Dict Text PolicyState) : Json :=
    .object [("interfaces", .object (interfaces.map fun entry => (entry.1, .string entry.2.text)))]
  .object [
    ("schemaVersion", .number 1),
    ("controlledWritesEnabled", .bool policy.controlledWritesEnabled),
    ("devices", .object (policy.devices.map fun entry => (entry.1, device entry.2)))]

end InterfacePolicy

/-- `_load_unlocked`: `none` for a load error. A missing file is the empty policy. -/
def PolicyFile.load : PolicyFile → Option InterfacePolicy
  | .absent => some .empty
  | .unreadable => none
  | .document json => InterfacePolicy.validate json

/-! ## The state of an interface -/

/-- `device_key`: the digest that stands for a host. -/
def deviceKey [Digest] (host : Text) : Text := Digest.sha256 host.strip.lower

/-- A host, and the digests as far as it is concerned. -/
def sampleHost : Text := "192.0.2.10"

@[reducible] def sampleDigest : Digest :=
  .ofTable [(sampleHost, "6d99cbd08fc6c99cdb2d942a4cbb097c" ++ "6b54496bbbc3ffd6351b145508dd2935")]
    (by decide) fun _ _ => []

namespace InterfacePolicy

/-- The recorded state of a canonical interface name on a host. -/
def stateOf [Digest] (policy : InterfacePolicy) (host canonical : Text) : PolicyState :=
  (((Dict.get? policy.devices (deviceKey host)).getD []).get? canonical).getD .unmanaged

/-- `data["devices"].setdefault(key, ...)` with `interfaces` changed by `f`. -/
def updateDevice [Digest] (policy : InterfacePolicy) (host : Text)
    (f : Dict Text PolicyState → Dict Text PolicyState) : InterfacePolicy :=
  { policy with
    devices := Dict.set policy.devices (deviceKey host)
      (f ((Dict.get? policy.devices (deviceKey host)).getD [])) }

end InterfacePolicy

end SwitchOps
