import SwitchOps.Lib.Regex
import SwitchOps.Models

/-!
# Command and action allowlists

`command_registry.py`: the read-only commands by symbolic name, the grammar of interface names
and the alphabet of port descriptions.

A name the grammar accepts as physical is the rendering of a `PhysicalName`
(`normalizeInterface_physical`), so that what is true of every rendering, such as its alphabet,
is true of every interface that can reach a configuration command.
-/

namespace SwitchOps

/-! ## Read-only commands -/

/-- The keys of `READ_ONLY_COMMANDS`. -/
inductive ReadSymbol
  | terminalLength0 | showVersion | showInventory | showRunningConfig | showStartupConfig
  | showIpInterfaceBrief | showInterfacesStatus | showInterfacesCountersErrors | showPowerInline
  | showEnvAll | showProcessesCpu | showMemoryStatistics | showMacAddressTable | showLogging
  | showInterfaces | showProcessesCpuHistory | showMemory | showInterfacesSwitchport
  | showVlanBrief | showSpanningTree | showEtherchannelSummary | showCdpNeighborsDetail
  | showLldpNeighbors | showLldpNeighborsDetail | showIpArp | showInterfacesTrunk
  | showEnvironment | showEnvironmentAll | showIpRoute | showIpProtocols | showIpOspfNeighbor
  | showIpEigrpNeighbors | showBgpIpv4UnicastSummary | showStandbyBrief | showVrf
  | showBfdNeighbors | showIpSlaSummary | showNvePeers | showBgpL2vpnEvpnSummary
  | showSegmentRoutingMplsSidMap | showSegmentRoutingSrv6Locator | showRunningConfigBeginVty
  deriving DecidableEq, Repr

/-- The key of a symbol in `READ_ONLY_COMMANDS`. -/
def ReadSymbol.text : ReadSymbol → Text
  | .terminalLength0 => "terminal_length_0"
  | .showVersion => "show_version"
  | .showInventory => "show_inventory"
  | .showRunningConfig => "show_running_config"
  | .showStartupConfig => "show_startup_config"
  | .showIpInterfaceBrief => "show_ip_interface_brief"
  | .showInterfacesStatus => "show_interfaces_status"
  | .showInterfacesCountersErrors => "show_interfaces_counters_errors"
  | .showPowerInline => "show_power_inline"
  | .showEnvAll => "show_env_all"
  | .showProcessesCpu => "show_processes_cpu"
  | .showMemoryStatistics => "show_memory_statistics"
  | .showMacAddressTable => "show_mac_address_table"
  | .showLogging => "show_logging"
  | .showInterfaces => "show_interfaces"
  | .showProcessesCpuHistory => "show_processes_cpu_history"
  | .showMemory => "show_memory"
  | .showInterfacesSwitchport => "show_interfaces_switchport"
  | .showVlanBrief => "show_vlan_brief"
  | .showSpanningTree => "show_spanning_tree"
  | .showEtherchannelSummary => "show_etherchannel_summary"
  | .showCdpNeighborsDetail => "show_cdp_neighbors_detail"
  | .showLldpNeighbors => "show_lldp_neighbors"
  | .showLldpNeighborsDetail => "show_lldp_neighbors_detail"
  | .showIpArp => "show_ip_arp"
  | .showInterfacesTrunk => "show_interfaces_trunk"
  | .showEnvironment => "show_environment"
  | .showEnvironmentAll => "show_environment_all"
  | .showIpRoute => "show_ip_route"
  | .showIpProtocols => "show_ip_protocols"
  | .showIpOspfNeighbor => "show_ip_ospf_neighbor"
  | .showIpEigrpNeighbors => "show_ip_eigrp_neighbors"
  | .showBgpIpv4UnicastSummary => "show_bgp_ipv4_unicast_summary"
  | .showStandbyBrief => "show_standby_brief"
  | .showVrf => "show_vrf"
  | .showBfdNeighbors => "show_bfd_neighbors"
  | .showIpSlaSummary => "show_ip_sla_summary"
  | .showNvePeers => "show_nve_peers"
  | .showBgpL2vpnEvpnSummary => "show_bgp_l2vpn_evpn_summary"
  | .showSegmentRoutingMplsSidMap => "show_segment_routing_mpls_sid_map"
  | .showSegmentRoutingSrv6Locator => "show_segment_routing_srv6_locator"
  | .showRunningConfigBeginVty => "show_running_config_begin_vty"

/-- `READ_ONLY_COMMANDS[symbol]`, the literal IOS command. -/
def resolveReadCommand : ReadSymbol → Text
  | .terminalLength0 => "terminal length 0"
  | .showVersion => "show version"
  | .showInventory => "show inventory"
  | .showRunningConfig => "show running-config"
  | .showStartupConfig => "show startup-config"
  | .showIpInterfaceBrief => "show ip interface brief"
  | .showInterfacesStatus => "show interfaces status"
  | .showInterfacesCountersErrors => "show interfaces counters errors"
  | .showPowerInline => "show power inline"
  | .showEnvAll => "show env all"
  | .showProcessesCpu => "show processes cpu"
  | .showMemoryStatistics => "show memory statistics"
  | .showMacAddressTable => "show mac address-table"
  | .showLogging => "show logging"
  | .showInterfaces => "show interfaces"
  | .showProcessesCpuHistory => "show processes cpu history"
  | .showMemory => "show memory"
  | .showInterfacesSwitchport => "show interfaces switchport"
  | .showVlanBrief => "show vlan brief"
  | .showSpanningTree => "show spanning-tree"
  | .showEtherchannelSummary => "show etherchannel summary"
  | .showCdpNeighborsDetail => "show cdp neighbors detail"
  | .showLldpNeighbors => "show lldp neighbors"
  | .showLldpNeighborsDetail => "show lldp neighbors detail"
  | .showIpArp => "show ip arp"
  | .showInterfacesTrunk => "show interfaces trunk"
  | .showEnvironment => "show environment"
  | .showEnvironmentAll => "show environment all"
  | .showIpRoute => "show ip route"
  | .showIpProtocols => "show ip protocols"
  | .showIpOspfNeighbor => "show ip ospf neighbor"
  | .showIpEigrpNeighbors => "show ip eigrp neighbors"
  | .showBgpIpv4UnicastSummary => "show bgp ipv4 unicast summary"
  | .showStandbyBrief => "show standby brief"
  | .showVrf => "show vrf"
  | .showBfdNeighbors => "show bfd neighbors"
  | .showIpSlaSummary => "show ip sla summary"
  | .showNvePeers => "show nve peers"
  | .showBgpL2vpnEvpnSummary => "show bgp l2vpn evpn summary"
  | .showSegmentRoutingMplsSidMap => "show segment-routing mpls connected-prefix-sid-map"
  | .showSegmentRoutingSrv6Locator => "show segment-routing srv6 locator"
  | .showRunningConfigBeginVty => "show running-config | begin line vty"

/-! ## Interface names -/

/-- `_PHYSICAL_PREFIXES`: accepted spellings of an interface family. -/
def physicalPrefixes : List (Text × Text) := [
  ("fa", "FastEthernet"),
  ("fastethernet", "FastEthernet"),
  ("gi", "GigabitEthernet"),
  ("gigabitethernet", "GigabitEthernet"),
  ("te", "TenGigabitEthernet"),
  ("tengigabitethernet", "TenGigabitEthernet"),
  ("tw", "TwentyFiveGigE"),
  ("twe", "TwentyFiveGigE"),
  ("twentyfivegige", "TwentyFiveGigE"),
  ("fo", "FortyGigabitEthernet"),
  ("fortygigabitethernet", "FortyGigabitEthernet"),
  ("hu", "HundredGigE"),
  ("hundredgige", "HundredGigE")]

/-- `_SHORT_PREFIXES`. -/
def shortPrefixes : List (Text × Text) := [
  ("FastEthernet", "Fa"),
  ("GigabitEthernet", "Gi"),
  ("TenGigabitEthernet", "Te"),
  ("TwentyFiveGigE", "Twe"),
  ("FortyGigabitEthernet", "Fo"),
  ("HundredGigE", "Hu")]

/-- `\d+(?:/\d+){1,2}`. -/
def suffixPattern : Regex :=
  let part := Regex.seq (Regex.lit "/") (Regex.plus Regex.digit)
  .seq (Regex.plus Regex.digit) (.seq part (Regex.opt part))

/-- `normalize_interface`: a canonical, injection-safe interface name. -/
def normalizeInterface (name : Text) : Except Exn Text :=
  if name.isEmpty then .error (.commandNotAllowed "Empty interface name.")
  else if name.any fun c => c.toNat < 32 || c.toNat == 127 then
    .error (.commandNotAllowed "Interface name contains control characters.")
  else
    let stripped := name.strip
    let lower := stripped.lower
    if Text.startsWith lower "vlan" then
      let suffix := lower.drop 4
      if !Text.isdigit suffix then
        .error (.commandNotAllowed ("Invalid Vlan interface: " ++ name.repr))
      else match Text.toInt suffix with
        | none => .error .valueError
        | some number => .ok ("Vlan" ++ Text.ofNat number)
    else
      -- the longest spelling first, so that "twe" is not read as "tw"
      let candidates := physicalPrefixes.insertionSort fun a b => b.1.length ≤ a.1.length
      match candidates.find? fun candidate => Text.startsWith lower candidate.1 with
      | none => .error (.commandNotAllowed ("Unsupported interface: " ++ name.repr))
      | some (pre, family) =>
        let suffix := stripped.drop pre.length
        if (Regex.fullmatch suffixPattern suffix).isNone then
          .error (.commandNotAllowed ("Malformed interface suffix: " ++ name.repr))
        else match (suffix.splitOn '/').mapM Text.toInt with
          | none => .error .valueError
          | some numbers => .ok (family ++ Text.join "/" (numbers.map Text.ofNat))

/-- `is_physical_interface`. Only `CommandNotAllowedError` is caught. -/
def isPhysicalInterface (name : Text) : Except Exn Bool :=
  match normalizeInterface name with
  | .ok canonical => .ok (!Text.startsWith canonical "Vlan")
  | .error (.switchOps .commandNotAllowed _) => .ok false
  | .error e => .error e

/-- The loop of `short_interface` over `_SHORT_PREFIXES`. -/
def shortenCanonical (canonical : Text) : Text :=
  match shortPrefixes.find? fun (long, _) => Text.startsWith canonical long with
  | some (long, short) => Text.replaceOnce long short canonical
  | none => canonical

/-- `short_interface`: the short form IOS uses in its tables. -/
def shortInterface (name : Text) : Except Exn Text := (normalizeInterface name).map shortenCanonical

/-- `assert_interface_writable`: only physical names are write targets. -/
def assertInterfaceWritable (name : Text) : Except Exn Text := do
  let canonical ← normalizeInterface name
  if !(← isPhysicalInterface canonical) then
    throw (.commandNotAllowed
      ("Interface " ++ canonical ++ " is not a supported physical write target."))
  return canonical

/-! ## Descriptions -/

/-- `_DESCRIPTION_OK`. -/
def descriptionOk : Text :=
  "abcdefghijklmnopqrstuvwxyz" ++ "ABCDEFGHIJKLMNOPQRSTUVWXYZ" ++ "0123456789 -_./"

/-- `sanitize_description`: length-bounded and character-bounded. -/
def sanitizeDescription (value : Text) : Except Exn Text :=
  if value.isEmpty then .error (.commandNotAllowed "Empty description.")
  else
    let value := value.strip
    if 64 < value.length then
      .error (.commandNotAllowed "Description must be 64 characters or fewer.")
    else
      let bad := value.filter fun c => !descriptionOk.elem c
      if !bad.isEmpty then
        .error (.commandNotAllowed ("Description contains disallowed characters: "
          ++ Text.repr (Text.sortedSet (bad.map fun c => [c])).flatten))
      else .ok value

end SwitchOps
