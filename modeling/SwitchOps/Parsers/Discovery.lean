import SwitchOps.Lib.Scanning
import SwitchOps.Parsers
import SwitchOps.Topology.Models

/-!
# Parsers of neighbours and addresses

`parsers/arp.py`, `cdp.py` and `lldp.py`, and `inspect_lldp`, which chooses among what LLDP reports. None of them
raises on text that it cannot make sense of, the ages of ARP rows aside.
-/

namespace SwitchOps.Topology

open Regex

/-! ## Rejections -/

/-- `_UNSUPPORTED_IOS_OUTPUT` -/
def unsupportedIosOutput : Regex :=
  seqs [.chr (· == '%'), .star true space, alts (["Invalid input", "Ambiguous command", "Incomplete command",
    "Unrecognized command"].map litIgnoringCase)]

/-- Does IOS reject the command? -/
def unsupported (output : Text) : Bool := (search unsupportedIosOutput output).isSome

theorem plain_unsupportedIosOutput : Plain unsupportedIosOutput :=
  ⟨trivial, trivial, ⟨plain_litIgnoringCase _, plain_litIgnoringCase _, plain_litIgnoringCase _,
    plain_litIgnoringCase _⟩, trivial⟩

theorem unsupported_append {output : Text} (h : unsupported output = true) (before after : Text) :
    unsupported (before ++ output ++ after) = true :=
  search_isSome_append plain_unsupportedIosOutput h before after

/-! ## `show ip arp` -/

def hexDigit : Regex := .chr fun c => ('0' ≤ c && c ≤ '9') || ('a' ≤ c && c ≤ 'f') || ('A' ≤ c && c ≤ 'F')

/-- `\d{1,3}(?:\.\d{1,3}){3}` -/
def dottedQuad (digit : Regex) : Regex :=
  let octet := between 1 2 digit
  .seq octet (seqs (List.replicate 3 (.seq (.chr (· == '.')) octet)))

/-- `_ROW` of `arp.py`; the groups are the address, the age, the hardware address, the type and the interface. -/
def arpRow : Regex :=
  let quad := seqs (List.replicate 4 hexDigit)
  seqs [
    lineStart, .star true space, lit "Internet", plus space, .group 1 (dottedQuad digit), plus space,
    .group 2 (.alt (lit "-") (plus digit)), plus space,
    .group 3 (seqs [quad, .chr (· == '.'), quad, .chr (· == '.'), quad]), plus space, .group 4 (plus nonSpace),
    opt (.seq (plus space) (.group 5 (plus nonSpace))), .star true space, lineEnd]

/-- The entry of a row; `int` refuses an age of too many digits. -/
def arpEntry (row : Cursor) : Except Exn ArpEntry :=
  let entry (age : Option Nat) : ArpEntry :=
    { ip := (row.group 1).getD [], mac := Text.lower ((row.group 3).getD []), ageMinutes := age,
      interface := (row.group 5).getD [] }
  let age := (row.group 2).getD []
  if age = "-" then .ok (entry none)
  else
    match Text.parseInt age with
    | some age => .ok (entry (some age.toNat))
    | none => .error (.other "ValueError" "Exceeds the limit (4300 digits) for integer string conversion")

/-- `parse_arp` -/
def parseArp (text : Text) : Except Exn (List ArpEntry) := (finditer arpRow text).mapM arpEntry

/-! ## `show cdp neighbors detail` -/

/-- `^-{3,}\s*$` -/
def blockRule : Regex :=
  let dash : Regex := .chr (· == '-')
  seqs [lineStart, dash, dash, plus dash, .star true space, lineEnd]

def notNewline : Regex := .chr (· != '\n')
def notCommaOrNewline : Regex := .chr fun c => c != ',' && c != '\n'

/-- `^\s*title:\s*(.+?)\s*$` -/
def titled (title : Text) : Regex :=
  seqs [lineStart, .star true space, litIgnoringCase title, .star true space,
    .group 1 (.seq notNewline (.star false notNewline)), .star true space, lineEnd]

/-- The first group of the leftmost match. -/
def field (r : Regex) (block : Text) : Option Text := (search r block).map fun m => (m.group 1).getD []

def cdpLocal : Regex :=
  seqs [lineStart, .star true space, litIgnoringCase "Interface:", .star true space, .group 1 (plus notCommaOrNewline)]

def cdpRemote : Regex :=
  seqs [litIgnoringCase "Port ID (outgoing port):", .star true space, .group 1 (plus notNewline)]

def cdpPlatform : Regex :=
  seqs [lineStart, .star true space, litIgnoringCase "Platform:", .star true space, .group 1 (plus notCommaOrNewline)]

def cdpCapabilities : Regex :=
  seqs [litIgnoringCase "Capabilities:", .star true space, .group 1 (.star true notNewline)]

def cdpIp : Regex :=
  seqs [litIgnoringCase "IP", opt (litIgnoringCase "v4"), litIgnoringCase " address:", .star true space,
    .group 1 (dottedQuad (.chr fun c => '0' ≤ c && c ≤ '9'))]

/-- The short form of an interface, where its full name is `name` and a number. -/
def shortened (value name : Text) (number : Regex) (abbreviation : Text) : Option Text :=
  (fullmatch (seqs [litIgnoringCase name, .star true space, .group 1 number]) value).map fun m =>
    abbreviation ++ (m.group 1).getD []

/-- `\d+/\d+` -/
def slashed : Regex := seqs [plus digit, .chr (· == '/'), plus digit]

/-- `_short_interface` of `cdp.py` -/
def shortCdpInterface (name : Text) : Text :=
  let value := name.strip
  ((shortened value "gigabitethernet" slashed "Gi").or
    ((shortened value "fastethernet" slashed "Fa").or
      (shortened value "tengigabitethernet" (seqs [slashed, opt (.chr (· == '/')), .star true digit]) "Te"))).getD value

/-- The neighbour of a block. -/
def cdpBlock (block : Text) : Option CdpNeighbor :=
  (field (titled "Device ID:") block).map fun device => {
    remoteName := device.strip
    localInterface := ((field cdpLocal block).map shortCdpInterface).getD []
    remoteInterface := (field cdpRemote block).map Text.strip
    platform := (field cdpPlatform block).map Text.strip
    capabilities := ((field cdpCapabilities block).map Text.split).getD []
    ip := field cdpIp block }

/-- `parse_cdp` -/
def parseCdp (text : Text) : List CdpNeighbor := if text.isEmpty then [] else (split blockRule text).filterMap cdpBlock

/-! ## `show lldp neighbors` -/

/-- `^\s*Local (?:Intf|Interface):\s*(\S+)\s*$` -/
def lldpLocal : Regex :=
  seqs [lineStart, .star true space, litIgnoringCase "Local ", alts [litIgnoringCase "Intf", litIgnoringCase "Interface"],
    litIgnoringCase ":", .star true space, .group 1 (plus nonSpace), .star true space, lineEnd]

/-- A description ends where one of the next titles stands. -/
def lldpDescription : Regex :=
  seqs [lineStart, .star true space, litIgnoringCase "System Description:", .star true space,
    .group 1 (.star false (.chr fun _ => true)),
    .ahead (.alt (seqs [lineStart, .star true space, alts (["Time remaining", "System Capabilities",
      "Enabled Capabilities", "Management Addresses"].map litIgnoringCase), litIgnoringCase ":"]) textEnd)]

def lldpCapabilities : Regex :=
  seqs [lineStart, .star true space, litIgnoringCase "Enabled Capabilities:", .star true space,
    .group 1 (.star false notNewline), .star true space, lineEnd]

def lldpIp : Regex :=
  seqs [lineStart, .star true space, alts [litIgnoringCase "IP", litIgnoringCase "IPV4"], litIgnoringCase ":",
    .star true space, .group 1 (dottedQuad digit), .star true space, lineEnd]

/-- `_SUMMARY_ROW`; the groups are the device, the interface, the hold time, the capabilities and the port. -/
def lldpSummaryRow : Regex :=
  seqs [textStart, .star true space, .group 1 (plus nonSpace), plus space,
    .group 2 (.seq (alts (["Gi", "Fa", "Te", "Eth"].map litIgnoringCase)) (plus nonSpace)), plus space,
    .group 3 (plus digit), plus space,
    .group 4 (.seq (plus nonSpace) (.star true (.seq (plus space) (plus nonSpace)))), plus space,
    .group 5 (plus nonSpace), .star true space, textEndOrNewline]

/-- `_short_interface` of `lldp.py` -/
def shortLldpInterface (name : Text) : Text :=
  let value := name.strip
  let number := .seq slashed (opt (.seq (.chr (· == '/')) (plus digit)))
  ((shortened value "gigabitethernet" number "Gi").or
    ((shortened value "fastethernet" number "Fa").or (shortened value "tengigabitethernet" number "Te"))).getD value

/-- `_capability_tokens` -/
def capabilityTokens (value : Text) : List Text :=
  (Text.split (value.map fun c => if c = ',' then ' ' else c)).filter fun token => token ≠ "-"

/-- The neighbour of a block: named by its system name, else by its chassis. -/
def lldpBlock (block : Text) : Option LldpNeighbor :=
  let chassis := field (titled "Chassis id:") block
  (field lldpLocal block).bind fun interface =>
    ((field (titled "System Name:") block).or chassis).map fun name => {
      remoteName := name.strip
      chassisId := chassis.map Text.strip
      localInterface := shortLldpInterface interface
      remoteInterface := (field (titled "Port id:") block).map Text.strip
      systemDescription := ((field lldpDescription block).map fun description =>
        Text.join " " description.split).filter fun description => !description.isEmpty
      capabilities := ((field lldpCapabilities block).map capabilityTokens).getD []
      ip := field lldpIp block }

/-- `parse_lldp_detail` -/
def parseLldpDetail (text : Text) : List LldpNeighbor :=
  if text.isEmpty then [] else (split blockRule text).filterMap lldpBlock

/-- The neighbour of a line of the table. -/
def lldpSummaryLine (line : Text) : Option LldpNeighbor :=
  if !line.any Text.isDecimal || Text.contains line.lower "local intf" then none
  else
    (matchStart lldpSummaryRow line).map fun m => {
      remoteName := (m.group 1).getD []
      localInterface := shortLldpInterface ((m.group 2).getD [])
      remoteInterface := m.group 5
      capabilities := capabilityTokens ((m.group 4).getD []) }

/-- `parse_lldp_summary` -/
def parseLldpSummary (text : Text) : List LldpNeighbor := text.splitlines.filterMap lldpSummaryLine

/-- `parse_lldp`: the detail, unless it names no neighbour. -/
def parseLldp (detail summary : Text) : List LldpNeighbor :=
  match parseLldpDetail detail with
  | [] => parseLldpSummary summary
  | detailed => detailed

/-! ## What LLDP says -/

inductive LldpState
  | unsupported
  | enabled
  | disabled
  | unknown
  deriving DecidableEq, Repr

/-- `LldpDiscoveryStatus` -/
structure LldpDiscoveryStatus where
  state : LldpState
  supported : Bool
  enabled : Option Bool
  neighbors : List LldpNeighbor := []
  detail : Text
  deriving DecidableEq, Repr

/-- `LLDP\s+is\s+not\s+enabled` -/
def lldpDisabled : Regex :=
  seqs [litIgnoringCase "LLDP", plus space, litIgnoringCase "is", plus space, litIgnoringCase "not", plus space,
    litIgnoringCase "enabled"]

/-- `^\s*lldp\s+run\s*$`, after some words. -/
def lldpRun (words : List Text) : Regex :=
  seqs ([lineStart, .star true space] ++ words.flatMap (fun word => [litIgnoringCase word, plus space]) ++
    [litIgnoringCase "lldp", plus space, litIgnoringCase "run", .star true space, lineEnd])

/-- `inspect_lldp` -/
def inspectLldp (runningConfig : Option Text) (summaryOutput detailOutput : Text) : LldpDiscoveryStatus :=
  let combined := summaryOutput ++ "\n" ++ detailOutput
  if unsupported combined then {
    state := .unsupported, supported := false, enabled := none
    detail := "This IOS image does not support the allowlisted LLDP neighbour commands." }
  else
    let configured := (runningConfig.bind (search (lldpRun []))).isSome
    let explicitlyDisabled := (runningConfig.bind (search (lldpRun ["no"]))).isSome
    let disabledBanner := (search lldpDisabled combined).isSome
    let neighbors := parseLldp detailOutput summaryOutput
    if configured || !neighbors.isEmpty then {
      state := .enabled, supported := true, enabled := some true, neighbors := neighbors
      detail := "LLDP is enabled and reported " ++ Text.ofNat neighbors.length ++ " direct neighbour(s)." }
    else if explicitlyDisabled || disabledBanner || (runningConfig.isSome && !configured) then {
      state := .disabled, supported := true, enabled := some false
      detail := "LLDP is supported but disabled; no LLDP identity evidence is being claimed." }
    else {
      state := .unknown, supported := true, enabled := none, detail := "LLDP state could not be determined." }

/-- The neighbours do not depend on the configuration. -/
theorem neighbors_inspectLldp (runningConfig : Option Text) (summaryOutput detailOutput : Text) :
    (inspectLldp runningConfig summaryOutput detailOutput).neighbors =
      if unsupported (summaryOutput ++ "\n" ++ detailOutput) then [] else parseLldp detailOutput summaryOutput := by
  rw [inspectLldp]
  split
  · rfl
  · cases found : parseLldp detailOutput summaryOutput with
    | cons neighbor rest =>
      rw [if_pos (by simp)]
    | nil =>
      dsimp only
      split
      · rfl
      · split <;> rfl

end SwitchOps.Topology
