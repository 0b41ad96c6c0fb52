import SwitchOps.Lib.Text

/-!
# Running versus startup configuration

`ConfigSaveTracker`: what the server remembers of changes that are not saved. Its methods hold a
lock for their whole body, so each is one step.
-/

namespace SwitchOps

structure ConfigSaveState where
  runningModified : Bool
  lastChangeAt : Option Nat
  lastSavedAt : Option Nat
  pendingOperations : Nat
  detail : Text
  deriving DecidableEq, Repr

structure ConfigSaveTracker where
  pending : Nat := 0
  lastChange : Option Nat := none
  lastSaved : Option Nat := none
  fingerprintDiffers : Option Bool := none
  deriving DecidableEq, Repr

namespace ConfigSaveTracker

def recordChange (tracker : ConfigSaveTracker) (changedAt : Nat) : ConfigSaveTracker :=
  { tracker with
    pending := tracker.pending + 1, lastChange := some changedAt, fingerprintDiffers := some true }

def recordSave (tracker : ConfigSaveTracker) (savedAt : Nat) : ConfigSaveTracker :=
  { tracker with pending := 0, lastSaved := some savedAt, fingerprintDiffers := some false }

def recordFingerprints (tracker : ConfigSaveTracker) (running startup : Text) : ConfigSaveTracker :=
  if running = startup then { tracker with fingerprintDiffers := some false, pending := 0 }
  else { tracker with fingerprintDiffers := some true }

/-- `bool(self._fingerprint_differs) or self._pending > 0` -/
def modified (tracker : ConfigSaveTracker) : Bool :=
  tracker.fingerprintDiffers = some true || 0 < tracker.pending

def state (tracker : ConfigSaveTracker) : ConfigSaveState where
  runningModified := tracker.modified
  lastChangeAt := tracker.lastChange
  lastSavedAt := tracker.lastSaved
  pendingOperations := tracker.pending
  detail :=
    if tracker.modified && tracker.pending ≠ 0 then
      Text.ofNat tracker.pending ++ " change(s) are in the running configuration only. ".toList ++
        "They will be lost if the switch reboots.".toList
    else if tracker.modified then
      "The running configuration differs from the startup configuration. ".toList ++
        "The change may have been made outside SwitchOps.".toList
    else if tracker.fingerprintDiffers = none then
      "SwitchOps has not compared the running and startup configurations yet.".toList
    else "The running configuration matches the startup configuration.".toList

@[simp] theorem modified_recordChange (tracker : ConfigSaveTracker) (changedAt : Nat) :
    (tracker.recordChange changedAt).modified = true := by
  simp [recordChange, modified]

/-- A comparison leaves no doubt only where the fingerprints agree. -/
theorem modified_recordFingerprints (tracker : ConfigSaveTracker) {running startup : Text}
    (differ : running ≠ startup) : (tracker.recordFingerprints running startup).modified = true := by
  simp [recordFingerprints, modified, differ]

end ConfigSaveTracker

end SwitchOps
