import SwitchOps.Lab.Graph
import SwitchOps.Parsers.ConfigInterfaces
import SwitchOps.Parsers.Switchports
import SwitchOps.Parsers.VlanTable

/-!
# The VLANs of a trunk

What `_graph_from_observations` makes of the VLANs of a port: its list is that of the switchport or, where that is
empty, that of the configuration, and a VLAN lists the trunks whose list is empty or has it. `recovered_iff` says which
trunks get the VLANs that the switch shows.
-/

namespace SwitchOps

open Text

/-! ## The assembly -/

/-- `{_short(key): value for key, value in entries.items()}` -/
def shortKeyed {β : Type} (entries : Dict Text β) : Dict Text β :=
  Dict.ofList (entries.map fun entry => (shortName entry.1, entry.2))

namespace LabDeviceObservation

variable (observation : LabDeviceObservation)

/-- `_safe_parse`, as far as its value goes. -/
def parsedOr {α : Type} (symbol : ReadSymbol) (parser : Text → Except Exn α) (fallback : α) : α :=
  if observation.stateOf symbol = .observed then
    match parser (observation.outputOf symbol) with
    | .ok value => value
    | .error _ => fallback
  else fallback

def switchports : Dict Text Switchport := observation.parsedOr .showInterfacesSwitchport parseSwitchports []

/-- `config.get("interfaces", {})` -/
def configInterfaces : Dict Text ConfigInterface :=
  observation.parsedOr .showRunningConfig (fun text => .ok (SwitchOps.configInterfaces text)) []

def statusRows : List InterfaceStatus := observation.parsedOr .showInterfacesStatus parseInterfaceStatus []

def vlanRows : List Vlan := observation.parsedOr .showVlanBrief parseVlans []

/-- What the mode of a port is read from. -/
def modeParts : LabParts where
  switchportModes := observation.switchports.map fun entry => (entry.1, entry.2.mode)
  configModes := observation.configInterfaces.map fun entry => (entry.1, entry.2.mode)

end LabDeviceObservation

/-- A port, as far as VLANs go. -/
structure VlanPort where
  id : Text
  deviceId : Text
  name : Text
  mode : Text
  allowedVlans : List Nat
  deriving DecidableEq, Repr

/-- A VLAN of a device, as far as its trunks go. -/
structure VlanNetwork where
  vlanId : Nat
  trunkInterfaces : List Text
  deriving DecidableEq, Repr

namespace LabDeviceObservation

variable (observation : LabDeviceObservation)

/-- The list of the switchport, or else that of the configuration. -/
def allowedVlans (name : Text) : Except Exn (List Nat) :=
  let allowed := ((Dict.get? (shortKeyed observation.switchports) name).map (·.allowedVlans)).getD []
  if allowed = [] then vlansOf ((Dict.get? (shortKeyed observation.configInterfaces) name).bind (·.allowedVlans))
  else .ok allowed

/-- The port of a row of `show interfaces status`. -/
def vlanPort (row : InterfaceStatus) : Except Exn VlanPort := do
  let name := shortName row.port
  let allowedVlans ← observation.allowedVlans name
  return {
    id := observation.deviceId ++ ":" ++ name
    deviceId := observation.deviceId
    name, allowedVlans
    mode := portMode observation.modeParts name row.vlan }

/-- The VLANs that are no networks. -/
def reservedVlans : List Nat := [1002, 1003, 1004, 1005]

/-- `trunks` -/
def trunkInterfaces (interfaces : List VlanPort) (vlanId : Nat) : List Text :=
  (interfaces.filter fun item => item.deviceId = observation.deviceId ∧ item.mode = ("TRUNK" : Text) ∧
    (item.allowedVlans = [] ∨ vlanId ∈ item.allowedVlans)).map (·.id)

/-- The networks of the VLANs, given the ports so far. -/
def vlanNetworks (interfaces : List VlanPort) : List VlanNetwork :=
  (observation.vlanRows.filter fun vlan => vlan.id ∉ reservedVlans ∧ casefold vlan.status ≠ ("act/unsup" : Text)).map fun vlan =>
    ⟨vlan.id, observation.trunkInterfaces interfaces vlan.id⟩

/-- One turn of `_graph_from_observations`: the ports of the devices before, and those of this one; and its networks. -/
def assembleVlans (interfaces : List VlanPort) : Except Exn (List VlanPort × List VlanNetwork) := do
  let ports ← observation.statusRows.mapM observation.vlanPort
  return (interfaces ++ ports, observation.vlanNetworks (interfaces ++ ports))

end LabDeviceObservation

/-! ## What the switch shows of a trunk -/

/-- The output of a command was observed and is this text, or there is none. -/
def OutputShown (observation : LabDeviceObservation) (symbol : ReadSymbol) : Option Text → Prop
  | some text => observation.stateOf symbol = .observed ∧ observation.outputOf symbol = text
  | none => observation.stateOf symbol ≠ .observed

/-- What there is about a port: `found` is the one item of its name, if there is one. -/
def Concerns {α : Type} (key : α → Text) (items : List α) (name : Text) (found : Option α) : Prop :=
  ∀ item, found = some item ↔ item ∈ items ∧ shortName (key item) = name

/-- The modes of the switchport or, where there is none, the mode line or else the VLAN column tell a trunk. -/
def TellsTrunk (block : Option SwitchportBlock) (section_ : Option ConfigSection) (vlan : Text) : Prop :=
  match block with
  | some block => switchportMode none (block.field .operationalMode) (block.field .administrativeMode) = "TRUNK"
  | none =>
    match section_.bind (·.portMode) with
    | some mode => mode = "trunk"
    | none => casefold vlan = "trunk" ∧ ∀ configured ∈ section_, .routed ∉ configured.lines

/-- A trunk of a device whose switchports, configuration or both were collected. The devices before it have ports of
their own. -/
structure TrunkReport where
  observation : LabDeviceObservation
  earlier : List VlanPort
  others : ∀ port ∈ earlier, port.deviceId ≠ observation.deviceId
  output : Option SwitchportOutput
  output_shown : OutputShown observation .showInterfacesSwitchport (output.map SwitchportOutput.text)
  config : Option (List ConfigEntry)
  config_shown : OutputShown observation .showRunningConfig (config.map (·.flatMap ConfigEntry.text))
  row : InterfaceStatus
  listed : row ∈ observation.statusRows
  block : Option SwitchportBlock
  block_at : Concerns SwitchportBlock.name ((output.map (·.blocks)).getD []) (shortName row.port) block
  section_ : Option ConfigSection
  section_at : Concerns ConfigSection.name ((config.map sectionsOf).getD []) (shortName row.port) section_
  trunk : TellsTrunk block section_ row.vlan
  vlans : Set Nat
  block_vlans : ∀ block' ∈ block, ∀ allowed ∈ block'.allowed, allowed.vlans = vlans
  section_vlans : ∀ section' ∈ section_, section'.allowed.vlans = vlans
  shown : (block.bind (·.allowed)).isSome ∨ section_.isSome

namespace TrunkReport

variable (report : TrunkReport)

def name : Text := shortName report.row.port

def id : Text := report.observation.deviceId ++ ":" ++ report.name

/-- The list that decides: that of the switchport if it names VLANs, or else that of the configuration. -/
def deciding : AllowedVlans :=
  match report.block.bind (·.allowed) with
  | some (.listed first further) => .listed first further
  | other => (report.section_.map (·.allowed)).getD (other.getD .all)

/-- The ports and networks are assembled, the port of the trunk with the VLANs that the trunk allows, and the networks
of these VLANs list it, and no others. -/
def Recovered : Prop :=
  ∃ interfaces networks, report.observation.assembleVlans report.earlier = .ok (interfaces, networks) ∧
    (∃ port ∈ interfaces, port.deviceId = report.observation.deviceId ∧ port.id = report.id) ∧
    (∀ port ∈ interfaces, port.deviceId = report.observation.deviceId → port.id = report.id →
      denotedVlans port.allowedVlans = report.vlans) ∧
    ∀ network ∈ networks, 1 ≤ network.vlanId ∧ network.vlanId ≤ 4094 →
      (report.id ∈ network.trunkInterfaces ↔ network.vlanId ∈ report.vlans)

end TrunkReport

/-! ## Looking up by short names -/

section lookups

variable {α β γ : Type} {ps : List (Text × β)} {name : Text}

/-- Where all entries of a short name have one value, it is found. -/
theorem get?_shortKeyed {value : β} (some_ : ∃ p ∈ ps, shortName p.1 = name)
    (same : ∀ p ∈ ps, shortName p.1 = name → p.2 = value) :
    Dict.get? (shortKeyed (Dict.ofList ps)) name = some value := by
  have known : ∀ {qs : List (Text × β)} {key : Text}, (∃ p ∈ qs, p.1 = key) → ∃ found, Dict.get? (Dict.ofList qs) key = some found := by
    rintro qs key ⟨p, here, same⟩
    apply Option.isSome_iff_exists.mp
    rw [Dict.get?_ofList, Option.isSome_map, List.find?_isSome]
    exact ⟨p, List.mem_reverse.mpr here, decide_eq_true same⟩
  obtain ⟨p, here, short⟩ := some_
  obtain ⟨kept, found⟩ := known ⟨p, here, rfl⟩
  have listed : (name, kept) ∈ (Dict.ofList ps).map fun entry => (shortName entry.1, entry.2) :=
    List.mem_map.mpr ⟨(p.1, kept), Dict.mem_of_get? found, by rw [short]⟩
  obtain ⟨value', found'⟩ := known ⟨(name, kept), listed, rfl⟩
  obtain ⟨q, mem, eq⟩ := List.mem_map.mp (Dict.mem_ofList (Dict.mem_of_get? found'))
  obtain ⟨short', rfl⟩ := Prod.mk.inj eq
  rw [shortKeyed, found', same q (Dict.mem_ofList mem) short']

/-- What is found under a short name is the value of an entry of this name. -/
theorem exists_of_get?_shortKeyed {value : β} (h : Dict.get? (shortKeyed (Dict.ofList ps)) name = some value) :
    ∃ p ∈ ps, shortName p.1 = name ∧ p.2 = value := by
  obtain ⟨q, mem, eq⟩ := List.mem_map.mp (Dict.mem_ofList (Dict.mem_of_get? h))
  obtain ⟨short, value⟩ := Prod.mk.inj eq
  exact ⟨q, Dict.mem_ofList mem, short, value⟩

/-- What there is about a port is found under its name. -/
theorem get?_of_concerns {key : α → Text} {value : α → β} {items : List α} {found : Option α}
    (h : Concerns key items name found) :
    Dict.get? (shortKeyed (Dict.ofList (items.map fun item => (key item, value item)))) name = found.map value := by
  cases found with
  | none =>
    rw [Option.map_none, ← Option.not_isSome_iff_eq_none]
    intro some_
    obtain ⟨value, got⟩ := Option.isSome_iff_exists.mp some_
    obtain ⟨p, here, short, -⟩ := exists_of_get?_shortKeyed got
    obtain ⟨item, known, rfl⟩ := List.mem_map.mp here
    cases (h item).mpr ⟨known, short⟩
  | some item =>
    obtain ⟨known, short⟩ := (h item).mp rfl
    apply get?_shortKeyed
    · exact ⟨(key item, value item), List.mem_map.mpr ⟨item, known, rfl⟩, short⟩
    · intro p here short'
      obtain ⟨other, known', rfl⟩ := List.mem_map.mp here
      rw [Option.some.inj ((h other).mpr ⟨known', short'⟩)]

/-- A field of what is found. -/
theorem get?_map_shortKeyed (entries : Dict Text β) (field : β → γ) :
    Dict.get? (Dict.ofList (entries.map fun entry => (shortName entry.1, field entry.2))) name =
      (Dict.get? (shortKeyed entries) name).map field := by
  rw [shortKeyed, Dict.get?_ofList, Dict.get?_ofList, Option.map_map, ← List.map_reverse, ← List.map_reverse, List.find?_map,
    List.find?_map, Option.map_map, Option.map_map]
  rfl

end lookups

/-! ## What is parsed -/

namespace TrunkReport

variable (report : TrunkReport)

/-- The switchports that the output shows. -/
def blocks : List SwitchportBlock := (report.output.map (·.blocks)).getD []

def sections : List ConfigSection := (report.config.map sectionsOf).getD []

theorem switchports_eq :
    report.observation.switchports = Dict.ofList (report.blocks.map fun block => (block.name, block.item)) := by
  have shown := report.output_shown
  rw [LabDeviceObservation.switchports, LabDeviceObservation.parsedOr, blocks]
  cases given : report.output with
  | none =>
    rw [given] at shown
    rw [if_neg shown]
    rfl
  | some output =>
    rw [given] at shown
    rw [if_pos shown.1, shown.2, output.parseSwitchports_text]
    rfl

theorem configInterfaces_eq :
    report.observation.configInterfaces = Dict.ofList (report.sections.map ConfigSection.item) := by
  have shown := report.config_shown
  rw [LabDeviceObservation.configInterfaces, LabDeviceObservation.parsedOr, sections]
  cases given : report.config with
  | none =>
    rw [given] at shown
    rw [if_neg shown]
    rfl
  | some entries =>
    rw [given] at shown
    rw [if_pos shown.1, shown.2]
    exact configInterfaces_text entries

theorem get?_switchports :
    Dict.get? (shortKeyed report.observation.switchports) report.name = report.block.map SwitchportBlock.item := by
  rw [switchports_eq]
  exact get?_of_concerns report.block_at

theorem get?_configInterfaces : Dict.get? (shortKeyed report.observation.configInterfaces) report.name =
    report.section_.map fun section_ => ConfigInterface.read section_.body := by
  rw [configInterfaces_eq]
  exact get?_of_concerns report.section_at

/-! ## The lists -/

theorem vlansOf_configText (allowed : AllowedVlans) : vlansOf allowed.configText = .ok allowed.kept := by
  cases text : allowed.configText with
  | none => rw [AllowedVlans.kept_of_configText text]; rfl
  | some value => exact AllowedVlans.parseVlanList_configText text

/-- The list of the port is what is kept of the list that decides. -/
theorem allowedVlans_eq : report.observation.allowedVlans report.name = .ok report.deciding.kept := by
  have config : vlansOf ((report.section_.map fun section_ => ConfigInterface.read section_.body).bind (·.allowedVlans)) =
      .ok ((report.section_.map (·.allowed.kept)).getD []) := by
    cases report.section_ with
    | none => rfl
    | some section_ =>
      rw [Option.map_some, Option.bind_some, section_.allowedVlans_read]
      exact vlansOf_configText section_.allowed
  have switchport : ((report.block.map SwitchportBlock.item).map (·.allowedVlans)).getD [] =
      ((report.block.bind (·.allowed)).map AllowedVlans.kept).getD [] := by
    cases report.block with
    | none => rfl
    | some block => rfl
  rw [LabDeviceObservation.allowedVlans, report.get?_switchports, report.get?_configInterfaces, config, switchport, deciding]
  have fallback : ∀ other : AllowedVlans, other.kept = [] →
      (report.section_.map (·.allowed.kept)).getD [] = ((report.section_.map (·.allowed)).getD other).kept := by
    intro other nothing
    cases report.section_ with
    | none => exact nothing.symm
    | some section_ => rfl
  cases report.block.bind (·.allowed) with
  | none => exact (if_pos rfl).trans (congrArg _ (fallback .all rfl))
  | some allowed =>
    cases allowed with
    | all => exact (if_pos rfl).trans (congrArg _ (fallback .all rfl))
    | none => exact (if_pos rfl).trans (congrArg _ (fallback .none rfl))
    | listed first further => exact if_neg first.sortedVlans_ne_nil

/-- The list that decides is one that the trunk has. -/
theorem deciding_vlans : report.deciding.vlans = report.vlans := by
  have fromBlock := report.block_vlans
  have fromSection := report.section_vlans
  have shown := report.shown
  have other : ∀ other : AllowedVlans, (report.section_.isSome ∨ other.vlans = report.vlans) →
      ((report.section_.map (·.allowed)).getD other).vlans = report.vlans := by
    intro other known
    cases given : report.section_ with
    | none =>
      rw [given] at known
      exact known.resolve_left Bool.false_ne_true
    | some section_ => exact fromSection section_ given
  rw [deciding]
  cases given : report.block.bind (·.allowed) with
  | none =>
    rw [given] at shown
    exact other .all (.inl (shown.resolve_left Bool.false_ne_true))
  | some allowed =>
    obtain ⟨block, known, has⟩ := Option.bind_eq_some_iff.mp given
    have vlans := fromBlock block known allowed has
    cases allowed with
    | all => exact other .all (.inr vlans)
    | none => exact other .none (.inr vlans)
    | listed first further => exact vlans

/-! ## The ports -/

/-- Every port of the device has a list. -/
theorem exists_allowedVlans (name : Text) : ∃ allowed, report.observation.allowedVlans name = .ok allowed := by
  rw [LabDeviceObservation.allowedVlans]
  split
  · cases found : Dict.get? (shortKeyed report.observation.configInterfaces) name with
    | none => exact ⟨[], rfl⟩
    | some item =>
      rw [report.configInterfaces_eq] at found
      obtain ⟨entry, here, -, rfl⟩ := exists_of_get?_shortKeyed found
      obtain ⟨section_, -, rfl⟩ := List.mem_map.mp here
      refine ⟨section_.allowed.kept, ?_⟩
      rw [Option.bind_some, ConfigSection.item, section_.allowedVlans_read]
      exact vlansOf_configText section_.allowed
  · exact ⟨_, rfl⟩

/-- The list of a port, by its name. -/
noncomputable def portOf (row : InterfaceStatus) : VlanPort where
  id := report.observation.deviceId ++ ":" ++ shortName row.port
  deviceId := report.observation.deviceId
  name := shortName row.port
  mode := portMode report.observation.modeParts (shortName row.port) row.vlan
  allowedVlans := (report.exists_allowedVlans (shortName row.port)).choose

theorem mapM_vlanPort :
    report.observation.statusRows.mapM report.observation.vlanPort = .ok (report.observation.statusRows.map report.portOf) := by
  apply List.mapM_eq_ok
  intro row _
  rw [LabDeviceObservation.vlanPort, (report.exists_allowedVlans (shortName row.port)).choose_spec]
  rfl

/-- A trunk is told by the modes alone. -/
theorem switchportMode_trunk {operational administrative : Option Text}
    (h : switchportMode none operational administrative = "TRUNK") (switchport : Option Bool) :
    switchportMode switchport operational administrative = "TRUNK" := by
  have modes : ∀ (trunk access dynamic : Bool) (switchport : Option Bool),
      ((if trunk then "TRUNK" else if access then "ACCESS" else if switchport = some false then "ROUTED"
        else if dynamic then "DYNAMIC" else "UNKNOWN" : Text) = "TRUNK") → trunk = true := by
    intro trunk access dynamic switchport told
    cases trunk with
    | true => rfl
    | false =>
      rw [if_neg Bool.false_ne_true] at told
      split at told
      · exact absurd told (by decide)
      split at told
      · exact absurd told (by decide)
      split at told
      · exact absurd told (by decide)
      · exact absurd told (by decide)
  exact if_pos (modes _ _ _ _ h)

/-- The mode of a port, by what the switchport, the configuration and the VLAN column tell. -/
def modeOf (switchport config : Option Text) (vlan : Text) : Text :=
  let mode := (switchport.or config).getD
    (if casefold vlan = "trunk" then "TRUNK" else if vlan.isdigit then "ACCESS" else "UNKNOWN")
  if mode ∈ (["ACCESS", "TRUNK", "ROUTED", "DYNAMIC"] : List String).map String.toList then mode else "UNKNOWN"

theorem modeOf_of_trunk {switchport config : Option Text} {vlan : Text}
    (h : switchport.or config = some ("TRUNK" : Text) ∨ (switchport.or config = none ∧ casefold vlan = "trunk")) :
    modeOf switchport config vlan = "TRUNK" := by
  have mode : (switchport.or config).getD
      (if casefold vlan = "trunk" then "TRUNK" else if vlan.isdigit then "ACCESS" else "UNKNOWN") = "TRUNK" := by
    rcases h with found | ⟨none, column⟩
    · rw [found]
      rfl
    · rw [none, if_pos column]
      rfl
  rw [modeOf, mode]
  exact if_pos (by decide)

/-- The mode that the tables of modes give. -/
theorem portMode_modeParts (name vlan : Text) : portMode report.observation.modeParts name vlan =
    modeOf (((Dict.get? (shortKeyed report.observation.switchports) name).map fun item => some item.mode).bind given)
      (((Dict.get? (shortKeyed report.observation.configInterfaces) name).map (·.mode)).bind given) vlan := by
  have switchport : Dict.get? (Dict.ofList ((report.observation.modeParts.switchportModes.map fun entry =>
      (entry.1, some entry.2)).map fun entry => (shortName entry.1, entry.2))) name =
      (Dict.get? (shortKeyed report.observation.switchports) name).map fun item => some item.mode := by
    rw [LabDeviceObservation.modeParts, List.map_map, List.map_map]
    exact get?_map_shortKeyed report.observation.switchports fun item => some item.mode
  have config : Dict.get? (Dict.ofList (report.observation.modeParts.configModes.map fun entry =>
      (shortName entry.1, entry.2))) name =
      (Dict.get? (shortKeyed report.observation.configInterfaces) name).map (·.mode) := by
    rw [LabDeviceObservation.modeParts, List.map_map]
    exact get?_map_shortKeyed report.observation.configInterfaces (·.mode)
  exact congrArg₂ (fun a b => modeOf (Option.bind a given) (Option.bind b given) vlan) switchport config

/-- The port of the trunk is one. -/
theorem mode_portOf : (report.portOf report.row).mode = "TRUNK" := by
  have trunk := report.trunk
  have mode : portMode report.observation.modeParts report.name report.row.vlan = "TRUNK" := by
    rw [portMode_modeParts, report.get?_switchports, report.get?_configInterfaces]
    apply modeOf_of_trunk
    cases known : report.block with
    | some block =>
      rw [known] at trunk
      have mode : block.item.mode = "TRUNK" := switchportMode_trunk trunk _
      left
      show (given (some block.item.mode)).or _ = some ("TRUNK" : Text)
      rw [mode]
      rfl
    | none =>
      rw [known, TellsTrunk] at trunk
      rw [Option.map_none, Option.map_none, Option.bind_none, Option.none_or]
      cases configured : report.section_ with
      | none =>
        rw [configured] at trunk
        exact .inr ⟨rfl, trunk.1⟩
      | some section_ =>
        rw [configured, Option.bind_some] at trunk
        rw [Option.map_some, Option.map_some, Option.bind_some]
        cases mode : section_.portMode with
        | some value =>
          rw [mode] at trunk
          have line : value = "trunk" := trunk
          rw [section_.mode_read mode, line]
          exact .inl (by decide +kernel)
        | none =>
          rw [mode] at trunk
          rw [section_.mode_read_none mode (trunk.2 section_ rfl)]
          exact .inr ⟨rfl, trunk.1⟩
  exact mode

/-! ## What is recovered -/

theorem portOf_id : (report.portOf report.row).id = report.id := rfl

/-- A port with the id of the trunk has the list of the trunk. -/
theorem allowedVlans_of_id {row : InterfaceStatus} (h : (report.portOf row).id = report.id) :
    (report.portOf row).allowedVlans = report.deciding.kept := by
  have name : shortName row.port = report.name := List.append_cancel_left h
  have found := (report.exists_allowedVlans (shortName row.port)).choose_spec
  have same := report.allowedVlans_eq
  rw [← name, found] at same
  exact Except.ok.inj same

/-- The ports of the device. -/
theorem mem_interfaces_iff {port : VlanPort} (device : port.deviceId = report.observation.deviceId) :
    port ∈ report.earlier ++ report.observation.statusRows.map report.portOf ↔
      ∃ row ∈ report.observation.statusRows, report.portOf row = port := by
  rw [List.mem_append, List.mem_map]
  exact or_iff_right fun before => report.others port before device

/-- A network lists the trunk exactly if the list of the trunk is empty or has the VLAN. -/
theorem mem_trunkInterfaces_iff (vlan : Nat) :
    report.id ∈ report.observation.trunkInterfaces
        (report.earlier ++ report.observation.statusRows.map report.portOf) vlan ↔
      report.deciding.kept = [] ∨ vlan ∈ report.deciding.kept := by
  rw [LabDeviceObservation.trunkInterfaces, List.mem_map]
  constructor
  · rintro ⟨port, here, id⟩
    obtain ⟨known, holds⟩ := List.mem_filter.mp here
    obtain ⟨device, -, allowed⟩ := of_decide_eq_true holds
    obtain ⟨row, -, rfl⟩ := (report.mem_interfaces_iff device).mp known
    rwa [report.allowedVlans_of_id id] at allowed
  · intro allowed
    refine ⟨report.portOf report.row, List.mem_filter.mpr ⟨?_, decide_eq_true ⟨rfl, report.mode_portOf, ?_⟩⟩, rfl⟩
    · exact (report.mem_interfaces_iff rfl).mpr ⟨report.row, report.listed, rfl⟩
    · rwa [report.allowedVlans_of_id report.portOf_id]

/-- What the turn of the device gives. -/
theorem assembleVlans_eq : report.observation.assembleVlans report.earlier =
    .ok (report.earlier ++ report.observation.statusRows.map report.portOf,
      report.observation.vlanNetworks (report.earlier ++ report.observation.statusRows.map report.portOf)) := by
  rw [LabDeviceObservation.assembleVlans, mapM_vlanPort]
  rfl

/-- The list of the trunk stands for what the trunk allows, if the trunk is recovered. -/
theorem whole_of_recovered (h : report.Recovered) : report.deciding.Whole := by
  obtain ⟨interfaces, networks, assembled, ⟨port, here, device, id⟩, allowed, -⟩ := h
  rw [assembleVlans_eq] at assembled
  obtain ⟨rfl, -⟩ := Prod.mk.inj (Except.ok.inj assembled)
  have denoted := allowed port here device id
  obtain ⟨row, -, rfl⟩ := (report.mem_interfaces_iff device).mp here
  rw [report.allowedVlans_of_id id, ← report.deciding_vlans] at denoted
  exact (AllowedVlans.denotedVlans_kept_iff _).mp denoted

/-- **Which trunks get the VLANs that the switch shows**: those whose list says all of it in the first line, and names
some VLAN. -/
theorem recovered_iff : report.Recovered ↔ report.deciding.Whole := by
  constructor
  · exact report.whole_of_recovered
  · intro whole
    have denoted := (AllowedVlans.denotedVlans_kept_iff _).mpr whole
    rw [report.deciding_vlans] at denoted
    refine ⟨_, _, report.assembleVlans_eq, ?_, ?_, ?_⟩
    · exact ⟨report.portOf report.row, (report.mem_interfaces_iff rfl).mpr ⟨report.row, report.listed, rfl⟩, rfl, rfl⟩
    · intro port here device id
      obtain ⟨row, -, rfl⟩ := (report.mem_interfaces_iff device).mp here
      rwa [report.allowedVlans_of_id id]
    · intro network here valid
      obtain ⟨vlan, -, rfl⟩ := List.mem_map.mp here
      rw [report.mem_trunkInterfaces_iff, ← denoted]
      exact ⟨fun allowed => ⟨valid.1, valid.2, allowed⟩, fun allowed => allowed.2.2⟩

end TrunkReport

/-! ## A list in two lines -/

/-- `1-5,10` and, in a further line, `20` -/
def splitVlans : AllowedVlans :=
  .listed ⟨[⟨1, 5, by decide⟩, ⟨10, 10, by decide⟩], by decide, false⟩ [⟨[⟨20, 20, by decide⟩], by decide, false⟩]

/-- The section of a trunk with this list. -/
def splitSection : ConfigSection where
  name := "GigabitEthernet1/0/1"
  isToken := ⟨by decide, by decide⟩
  before := []
  allowed := splitVlans
  after := [.mode .trunk]
  apart line here := by
    obtain rfl := List.mem_singleton.mp here
    rfl

/-- The device of this trunk, whose switchports were not collected. -/
def splitObservation : LabDeviceObservation where
  deviceId := "lab-1"
  configuredLabel := "lab"
  primary := true
  outputs := [
    (.showRunningConfig, splitSection.text),
    (.showInterfacesStatus, "Port Name Status Vlan\nGi1/0/1 connected trunk full 1000 TX")]
  commandState := [(.showRunningConfig, .observed), (.showInterfacesStatus, .observed)]

def splitTrunk : TrunkReport where
  observation := splitObservation
  earlier := []
  others _ none := absurd none List.not_mem_nil
  output := none
  output_shown := by
    show splitObservation.stateOf .showInterfacesSwitchport ≠ .observed
    decide
  config := some [.interface splitSection]
  config_shown := ⟨rfl, (List.append_nil _).symm⟩
  row := {
    port := "Gi1/0/1", name := "", status := "connected", vlan := "trunk", duplex := "full", speed := "1000", type := "TX" }
  listed := by decide +kernel
  block := none
  block_at item := by
    constructor
    · intro none
      cases none
    · rintro ⟨none, -⟩
      cases none
  section_ := some splitSection
  section_at item := by
    have short : shortName splitSection.name = shortName "Gi1/0/1" := by decide +kernel
    constructor
    · intro same
      obtain rfl := Option.some.inj same
      exact ⟨List.mem_singleton_self _, short⟩
    · rintro ⟨here, -⟩
      rw [List.mem_singleton.mp here]
  trunk := rfl
  vlans := splitVlans.vlans
  block_vlans _ none := by cases none
  section_vlans section_ same := by rw [← Option.some.inj same]; rfl
  shown := .inr rfl

theorem not_recovered_split : ¬∀ report : TrunkReport, report.Recovered := by
  intro claimed
  have whole : splitVlans.Whole := splitTrunk.whole_of_recovered (claimed splitTrunk)
  have first := whole _ List.mem_cons_self 20 (by decide)
  exact absurd first (by decide)

end SwitchOps
