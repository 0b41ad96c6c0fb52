import SwitchOps.Lib.Regex
import SwitchOps.Topology.Evidence

/-!
# What a name suggests

The parts of `topology.py` and `reconciliation.py` that read a description, or what a neighbour
advertised, for a category, a vendor and a model. They are hints: nothing here is an observation.
-/

namespace SwitchOps.Topology

/-- `_CATEGORY_RULES` -/
def categoryRules : List (DeviceType × List Text) := [
  (.accessPoint, ["access point", "wireless", "wifi", "wi-fi", " ap", "mr44"]),
  (.router, ["router", "gateway", "firewall", "uplink", "modem", "isp", "wan"]),
  (.server, ["server", "nas", "hypervisor"]),
  (.desktop, ["desktop", "workstation", " pc"]),
  (.laptop, ["laptop", "notebook"]),
  (.phone, ["phone", "voip", "iphone", "android"]),
  (.tvMedia, [" tv", "television", "media", "streaming"]),
  (.printer, ["printer"]),
  (.camera, ["camera", "cctv"])]

/-- The first rule of which a needle occurs. -/
def categoryOf (text : Text) : Option DeviceType :=
  (categoryRules.find? fun rule => rule.2.any (Text.contains text)).map (·.1)

/-- `[A-Z0-9-]` under `re.IGNORECASE` -/
def modelChar : Regex := Regex.oneOfIgnoringCase "ABCDEFGHIJKLMNOPQRSTUVWXYZ0123456789-"

def modelPattern (models : List Regex) : Regex :=
  Regex.seqs [Regex.wordBoundary, .group 1 (Regex.alts models), Regex.wordBoundary]

/-- `MR\d{2,3}` -/
def merakiModel : Regex := .seq (Regex.litIgnoringCase "MR") (Regex.between 2 1 Regex.digit)

/-- `M[XRSV]\d{2,3}[A-Z]*` -/
def merakiFamilyModel : Regex :=
  Regex.seqs [Regex.litIgnoringCase "M", Regex.oneOfIgnoringCase "XRSV", Regex.between 2 1 Regex.digit,
    .star true (Regex.oneOfIgnoringCase "ABCDEFGHIJKLMNOPQRSTUVWXYZ")]

/-- `WS-[A-Z0-9-]+` and `C\d{4}[A-Z0-9-]*` -/
def catalystModels : List Regex := [
  .seq (Regex.litIgnoringCase "WS-") (Regex.plus modelChar),
  Regex.seqs [Regex.litIgnoringCase "C", Regex.between 4 0 Regex.digit, .star true modelChar]]

/-- `match.group(1).upper()` -/
def modelIn (models : List Regex) (text : Text) : Option Text :=
  (Regex.search (modelPattern models) text).map fun found => ((found.group 1).getD []).upper

structure Classification where
  category : DeviceType
  vendor : Option Text
  model : Option Text
  stage : ClassificationStage
  deriving DecidableEq, Repr

/-- `" " + text.strip().lower() + " "` -/
def padded (text : Text) : Text := " " ++ text.strip.lower ++ " "

def vendorIn (text : Text) : Option Text :=
  if Text.contains text "meraki" then some "Cisco Meraki"
  else if Text.contains text "cisco" then some "Cisco"
  else none

/-- `classify_device`, without a vendor hint. -/
def classifyDevice (description : Text) : Classification :=
  let text := padded description
  let category := (categoryOf text).getD .unknown
  let model := modelIn [merakiModel] description
  let vendor := (vendorIn text).or (model.map fun _ => "Cisco Meraki")
  let stage := if model.isSome then .model else if vendor.isSome then .vendor
    else if category ≠ .unknown then .category else .unknown
  ⟨category, vendor, model, stage⟩

/-- `_UPLINK_TOKENS` -/
def uplinkTokens : List Text := ["uplink", "trunk", "wan", "isp", "modem", "router", "gateway", "upstream"]

/-- `classify_interface_role` -/
def classifyInterfaceRole (description vlan : Text) : InterfaceRole :=
  let text := padded description
  if vlan.strip.lower = "trunk" then .uplink
  else if text.strip.isEmpty then .unknown
  else if Text.contains text "spare" || Text.contains text "unused" then .unknown
  else if uplinkTokens.any (Text.contains text) then .uplink
  else .access

/-- `_meaningful_expected_description`, and `_meaningful_description` -/
def meaningfulDescription (description : Text) : Bool :=
  let value := description.strip.lower
  !value.isEmpty && !(["spare", "unused", "access port", "reserved"] : List Text).any (Text.contains value)

/-! ## What a neighbour advertised -/

/-- Category, vendor and model. -/
structure Advertised where
  category : DeviceType
  vendor : Option Text
  model : Option Text
  deriving DecidableEq, Repr

/-- `_CDP_CAPABILITY_CATEGORY` -/
def cdpCapabilityCategory : List (Text × DeviceType) := [
  ("trans-bridge", .accessPoint), ("router", .router), ("switch", .switch), ("host", .desktop), ("phone", .phone)]

/-- The text, if there is one and it is not empty. -/
def nonempty (text : Option Text) : Option Text := text.filter fun text => !text.isEmpty

/-- `_category_from_cdp` -/
def categoryFromCdp (neighbor : CdpNeighbor) : Advertised :=
  let platform := (neighbor.platform.getD []).strip
  let capabilities := (Text.join " " neighbor.capabilities).lower
  let lowered := " " ++ platform.lower ++ " " ++ neighbor.remoteName.lower ++ " "
  let byCapability := (cdpCapabilityCategory.find? fun rule => Text.contains capabilities rule.1).map (·.2)
  { category := ((categoryOf lowered).or byCapability).getD .unknown
    vendor := vendorIn lowered
    model := (modelIn (merakiModel :: catalystModels) platform).or (nonempty (some platform)) }

/-- The vendor of a text that `classify_device` was given: Meraki named there wins, Cisco only fills in. -/
def advertisedVendor (lowered : Text) (vendor : Option Text) : Option Text :=
  if Text.contains lowered "meraki" then some "Cisco Meraki"
  else if Text.contains lowered "cisco" && (nonempty vendor).isNone then some "Cisco"
  else vendor

/-- `_category_from_lldp`, and `_identity_from_lldp` -/
def categoryFromLldp (neighbor : LldpNeighbor) : Advertised :=
  let advertised := Text.strip (neighbor.remoteName ++ " " ++ neighbor.systemDescription.getD [])
  let found := classifyDevice advertised
  { category := found.category
    vendor := advertisedVendor advertised.lower found.vendor
    model := (nonempty found.model).or neighbor.systemDescription }

/-- `_identity_from_cdp` -/
def identityFromCdp (neighbor : CdpNeighbor) : Advertised :=
  let platform := (neighbor.platform.getD []).strip
  let lowered := " " ++ platform.lower ++ " " ++ neighbor.remoteName.lower ++ " "
  let found := classifyDevice (neighbor.remoteName ++ " " ++ platform)
  { category := found.category
    vendor := advertisedVendor lowered found.vendor
    model := match modelIn (merakiFamilyModel :: catalystModels) platform with
      | some model => some model
      | none => if platform.isEmpty then found.model else (nonempty found.model).or (some platform) }

end SwitchOps.Topology
