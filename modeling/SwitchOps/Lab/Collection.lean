import SwitchOps.Lab.Models
import SwitchOps.Lib.Dict
import SwitchOps.Lib.Scanning

/-!
# Collecting a lab device

`lab_collector.py`: every command of the lab is run, and what IOS prints or how the session fails is put into one of
eight states. What a state says is about the command; a state other than `unsupported` says nothing about the feature.
-/

namespace SwitchOps

open Regex

/-! ## States of a command -/

/-- `CommandCollectionState` -/
inductive CommandState
  | observed
  | empty
  | unavailable
  | unsupported
  | authorizationFailed
  | commandFailed
  | transportFailed
  | parserFailed
  deriving DecidableEq, Repr

/-- `FAILED_COMMAND_STATES` -/
def CommandState.failed : CommandState → Bool
  | .authorizationFailed | .commandFailed | .transportFailed | .parserFailed => true
  | .observed | .empty | .unavailable | .unsupported => false

/-- `LAB_COMMANDS` -/
def labCommands : List ReadSymbol := [
  .showVersion, .showInventory, .showRunningConfig, .showIpInterfaceBrief, .showInterfacesStatus, .showInterfaces,
  .showInterfacesCountersErrors, .showInterfacesSwitchport, .showInterfacesTrunk, .showPowerInline,
  .showMacAddressTable, .showIpArp, .showVlanBrief, .showSpanningTree, .showEtherchannelSummary,
  .showCdpNeighborsDetail, .showLldpNeighbors, .showLldpNeighborsDetail, .showIpRoute, .showIpProtocols,
  .showIpOspfNeighbor, .showIpEigrpNeighbors, .showBgpIpv4UnicastSummary, .showStandbyBrief, .showVrf,
  .showBfdNeighbors, .showIpSlaSummary, .showNvePeers, .showBgpL2vpnEvpnSummary, .showSegmentRoutingMplsSidMap,
  .showSegmentRoutingSrv6Locator]

/-! ## What IOS prints -/

def percent : Regex := .chr (· == '%')

/-- `AUTHORIZATION_FAILURE` -/
def authorizationFailure : Regex :=
  seqs [opt percent, .star true space, alts (["Authorization failed", "Permission denied",
    "Command authorization failed"].map litIgnoringCase)]

/-- `COMMAND_UNAVAILABLE` -/
def commandUnavailable : Regex :=
  seqs [percent, .star true space, alts [
    .seq (litIgnoringCase "Invalid ") (alts (["input", "command"].map litIgnoringCase)),
    litIgnoringCase "Ambiguous command", litIgnoringCase "Incomplete command", litIgnoringCase "Unrecognized command"]]

/-- `COMMAND_FAILURE` -/
def commandFailure : Regex :=
  seqs [percent, .star true space,
    alts (["Command failed", "Error", "Cannot", "Not enough", "Unable to"].map litIgnoringCase)]

/-- `.*` -/
def anything : Regex := .star true (.chr (· != '\n'))

/-- `FEATURE_UNSUPPORTED` -/
def featureUnsupported : Regex :=
  .alt
    (seqs [opt percent, anything, wordBoundary, alts (["feature", "protocol", "capability"].map litIgnoringCase),
      wordBoundary, anything, wordBoundary, litIgnoringCase "not supported", wordBoundary])
    (seqs [opt percent, anything, wordBoundary, litIgnoringCase "not supported on ",
      alts (["this", "the"].map litIgnoringCase), litIgnoringCase " platform", wordBoundary])

/-- `classify_command_output`; no output is usable but one that is observed. -/
def classifyCommandOutput (output : Text) : CommandState × Text :=
  if (search authorizationFailure output).isSome then (.authorizationFailed, [])
  else if (search commandUnavailable output).isSome then (.unavailable, [])
  else if (search commandFailure output).isSome then (.commandFailed, [])
  else if (search featureUnsupported output).isSome then (.unsupported, [])
  else if output.strip.isEmpty then (.empty, [])
  else (.observed, output)

/-- An exception of the session, with the one that caused it. -/
structure CollectionException where
  typeName : Text
  message : Text
  cause : Option (Text × Text) := none
  deriving DecidableEq, Repr

/-- `classify_collection_exception` -/
def classifyCollectionException (exc : CollectionException) : CommandState :=
  let parts := [exc.typeName, exc.message, ((exc.cause.map (·.1)).getD []), ((exc.cause.map (·.2)).getD [])]
  let joined := Text.casefold (Text.join " " (parts.filter fun part => !part.isEmpty))
  if ["authentication", "authorization", "permission denied"].any fun token : String => Text.contains joined token then
    .authorizationFailed
  else .transportFailed

/-! ## Observations -/

/-- `LabDeviceObservation` -/
structure LabDeviceObservation where
  deviceId : Text
  configuredLabel : Text
  primary : Bool
  outputs : Dict ReadSymbol Text := []
  commandState : Dict ReadSymbol CommandState := []
  deriving DecidableEq, Repr

namespace LabDeviceObservation

variable (observation : LabDeviceObservation) (symbol : ReadSymbol)

/-- `command_state.get(symbol, "transport_failed")` -/
def stateOf : CommandState := (Dict.get? observation.commandState symbol).getD .transportFailed

/-- `outputs.get(symbol, "")` -/
def outputOf : Text := (Dict.get? observation.outputs symbol).getD []

/-- What running a command adds. -/
def record (answer : Except CollectionException Text) : LabDeviceObservation :=
  let (state, usable) := match answer with
    | .ok output => classifyCommandOutput output
    | .error exc => (classifyCollectionException exc, [])
  { observation with
    outputs := Dict.set observation.outputs symbol usable
    commandState := Dict.set observation.commandState symbol state }

end LabDeviceObservation

/-- `collect_lab_device` -/
def collectLabDevice (deviceId label : Text) (primary : Bool)
    (run : ReadSymbol → Except CollectionException Text) : LabDeviceObservation :=
  labCommands.foldl (fun observation symbol => observation.record symbol (run symbol))
    { deviceId := deviceId, configuredLabel := label, primary := primary }

/-! ## Parsing -/

/-- The outputs that `_observation_parts` parses, in its order. -/
def parsedCommands : List ReadSymbol := [
  .showVersion, .showInventory, .showRunningConfig, .showInterfacesStatus, .showInterfacesCountersErrors,
  .showMacAddressTable, .showIpArp, .showVlanBrief, .showPowerInline, .showCdpNeighborsDetail,
  .showLldpNeighborsDetail, .showIpOspfNeighbor, .showIpEigrpNeighbors, .showBgpIpv4UnicastSummary, .showBfdNeighbors,
  .showInterfacesSwitchport, .showSpanningTree, .showEtherchannelSummary, .showIpInterfaceBrief, .showIpRoute,
  .showInterfaces]

/-- Which of the parsers raise an exception, given the outputs. -/
abbrev ParserFailures := ReadSymbol → Dict ReadSymbol Text → Bool

namespace LabDeviceObservation

/-- `_safe_parse`, as far as it changes the state of the command. -/
def safeParse (raises : ParserFailures) (observation : LabDeviceObservation) (symbol : ReadSymbol) :
    LabDeviceObservation :=
  if observation.stateOf symbol = .observed && raises symbol observation.outputs then
    { observation with commandState := Dict.set observation.commandState symbol .parserFailed }
  else observation

/-- What `_observation_parts` leaves of an observation. -/
def parsed (raises : ParserFailures) (observation : LabDeviceObservation) : LabDeviceObservation :=
  parsedCommands.foldl (safeParse raises) observation

/-- The number of commands that failed. -/
def failedCommands (observation : LabDeviceObservation) : Nat :=
  labCommands.countP fun symbol => (observation.stateOf symbol).failed

/-- `collection_state` -/
def collectionState (observation : LabDeviceObservation) : CollectionState :=
  if observation.failedCommands = labCommands.length then .failed
  else if observation.failedCommands ≠ 0 then .incomplete
  else .current

end LabDeviceObservation

end SwitchOps
