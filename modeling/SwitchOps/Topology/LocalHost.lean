import SwitchOps.Topology.Evidence

/-!
# The local host

`correlate_local_endpoint` looks for the port to which the host of the backend is attached: its adapters are joined with the
MAC table, the port with the interfaces, and its address with the ARP table. The MAC table is grouped by its ports as
they are spelled, while the interface is looked up ignoring case.

What the function says is sound and does not depend on the order of its inputs if and only if the spellings of a port
make no difference (`placedSoundly_iff`).
-/

namespace SwitchOps.Topology

/-- `ipaddress`: whether the network of an address and its netmask contains another address; `False` where it raises
`ValueError`. -/
class IpNetworks where
  contains : (ip netmask address : Text) → Bool

structure LocalAdapter where
  name : Text
  ip : Text
  netmask : Text
  mac : Text
  deriving DecidableEq, Repr

/-- `_locally_administered` -/
def locallyAdministered (value : Text) : Bool :=
  match normalizeMac value with
  | high :: low :: _ => (hexValue high * 16 + hexValue low) / 2 % 2 = 1
  | _ => false

/-- The arguments of `correlate_local_endpoint`. -/
structure LocalHostInput where
  managementIp : Text
  macEntries : List MacTableEntry
  arpEntries : List ArpEntry
  interfaces : List InterfaceStatus
  adapters : List LocalAdapter

/-! ## The correlation -/

/-- `_same_network` -/
def sameNetwork [IpNetworks] (adapter : LocalAdapter) (managementIp : Text) : Bool :=
  IpNetworks.contains adapter.ip adapter.netmask managementIp

/-- A row of the MAC table that is counted: of no processor port, and with an address. -/
def isLearned (entry : MacTableEntry) : Bool :=
  !(Text.upper entry.port = "CPU" || Text.lower entry.vlan = "all") && (normalizeMac entry.mac).length = 12

/-- `mac_by_port` and `ports_by_mac` -/
structure MacIndex where
  macByPort : Dict Text (List Text) := []
  portsByMac : Dict Text (List Text) := []

def MacIndex.learn (index : MacIndex) (entry : MacTableEntry) : MacIndex :=
  if isLearned entry then
    { macByPort := Dict.addTo index.macByPort entry.port (normalizeMac entry.mac)
      portsByMac := Dict.addTo index.portsByMac (normalizeMac entry.mac) entry.port }
  else index

def macIndex (entries : List MacTableEntry) : MacIndex := entries.foldl MacIndex.learn {}

/-- `matches` and `randomised_match`, after one more adapter. -/
def matchAdapter (index : MacIndex) (found : List (LocalAdapter × Text) × Bool) (adapter : LocalAdapter) :
    List (LocalAdapter × Text) × Bool :=
  let ports := Dict.members index.portsByMac (normalizeMac adapter.mac)
  if !ports.isEmpty && locallyAdministered adapter.mac then (found.1, true)
  else
    match ports with
    | [port] => (found.1 ++ [(adapter, port)], found.2)
    | _ => found

def isConnectedAccess (interface : InterfaceStatus) : Bool :=
  Text.lower interface.status = "connected" && Text.lower interface.vlan ≠ "trunk"

namespace LocalHostInput

variable (input : LocalHostInput)

/-- The first interface of the port is a connected access port. -/
def foundAccess (port : Text) : Bool :=
  (input.interfaces.find? fun item => item.port.lower = port.lower).any isConnectedAccess

/-- What is said of the port on which an adapter was found. -/
def judge (index : MacIndex) (adapter : LocalAdapter) (port : Text) : LocalEndpointStatus :=
  if !input.foundAccess port then {
    state := .ambiguous, interface := some port
    detail := "The MAC matched, but the switch port is not a connected access interface." }
  else if (Dict.members index.macByPort port).length ≠ 1 then {
    state := .ambiguous, interface := some port
    detail := "Other addresses are reachable through the same port, so direct attachment is uncertain." }
  else if (input.arpEntries.filter (·.ip = adapter.ip)).any fun entry => normalizeMac entry.mac ≠ normalizeMac adapter.mac then {
    state := .ambiguous, interface := some port
    detail := "The local IP and switch ARP evidence disagree, so no identity was assigned." }
  else {
    state := .confirmed, interface := some port, ip := some adapter.ip
    detail := "One active local adapter matched the only learned address on this connected access port. " ++
      "The hardware address is intentionally not exposed.".toList }

variable [IpNetworks]

def candidates : List LocalAdapter := input.adapters.filter (sameNetwork · input.managementIp)

/-- `matches` and `randomised_match` -/
def found : List (LocalAdapter × Text) × Bool :=
  input.candidates.foldl (matchAdapter (macIndex input.macEntries)) ([], false)

/-- `correlate_local_endpoint` -/
def correlateLocalEndpoint : LocalEndpointStatus :=
  if input.candidates.isEmpty then {
    state := .unavailable
    detail := "No active local adapter on the switch management network could be inspected." }
  else if input.found.2 then {
    state := .ambiguous
    detail := "A matching adapter uses a software-assigned MAC address, so SwitchOps will not claim a stable identity." }
  else
    match input.found.1 with
    | [] => {
      state := .notObserved
      detail := "The active local adapter was not uniquely present in the switch MAC table." }
    | (adapter, port) :: _ =>
      if (input.found.1.map fun found => (found.1.ip, found.2)).dedup.length ≠ 1 then {
        state := .ambiguous
        detail := "More than one local adapter or switch path matched; no identity was assigned." }
      else input.judge (macIndex input.macEntries) adapter port

/-! ## What the tables say -/

/-- The address is learned on the port, in this spelling. -/
def Learned (mac port : Text) : Prop :=
  ∃ entry ∈ input.macEntries, isLearned entry = true ∧ normalizeMac entry.mac = mac ∧ entry.port = port

/-- The address is learned on the port, in some spelling. -/
def LearnedAt (mac key : Text) : Prop := ∃ port, input.Learned mac port ∧ port.lower = key

/-- A candidate whose address is learned in one spelling of one port. -/
def Matched (adapter : LocalAdapter) (port : Text) : Prop :=
  adapter ∈ input.candidates ∧ ∀ other, input.Learned (normalizeMac adapter.mac) other ↔ other = port

/-- Some candidate that is learned has an address that software has assigned. -/
def Randomised : Prop :=
  ∃ adapter ∈ input.candidates, locallyAdministered adapter.mac = true ∧ ∃ port, input.Learned (normalizeMac adapter.mac) port

/-- The tables single out one address and one port, in this spelling. -/
structure Correlates (ip port : Text) : Prop where
  notRandomised : ¬ input.Randomised
  matched : ∃ adapter, input.Matched adapter port ∧ adapter.ip = ip
  only : ∀ adapter other, input.Matched adapter other → adapter.ip = ip ∧ other = port

end LocalHostInput

/-! ## What is claimed of a placement -/

namespace LocalHostInput

variable [IpNetworks] (input : LocalHostInput)

/-- The address of the adapter is no software's, and is learned on the port and on no other. -/
def Qualifies (adapter : LocalAdapter) (key : Text) : Prop :=
  adapter ∈ input.candidates ∧ locallyAdministered adapter.mac = false ∧
    ∀ other, input.LearnedAt (normalizeMac adapter.mac) other ↔ other = key

/-- The adapter is the one attached to the port, whose name is compared ignoring case. -/
structure Attached (adapter : LocalAdapter) (port : Text) : Prop where
  qualifies : input.Qualifies adapter port.lower
  only : ∀ other key, input.Qualifies other key → other.ip = adapter.ip ∧ key = port.lower
  listed : ∃ interface ∈ input.interfaces, interface.port.lower = port.lower
  access : ∀ interface ∈ input.interfaces, interface.port.lower = port.lower → isConnectedAccess interface = true
  onlyAddress : ∀ mac, input.LearnedAt mac port.lower ↔ mac = normalizeMac adapter.mac
  uncontradicted : ∀ entry ∈ input.arpEntries, entry.ip = adapter.ip → normalizeMac entry.mac = normalizeMac adapter.mac

omit [IpNetworks] in
/-- The same tables, each in any order. -/
structure Permuted (input' : LocalHostInput) : Prop where
  managementIp : input'.managementIp = input.managementIp
  macEntries : input.macEntries.Perm input'.macEntries
  arpEntries : input.arpEntries.Perm input'.arpEntries
  interfaces : input.interfaces.Perm input'.interfaces
  adapters : input.adapters.Perm input'.adapters

/-- What is confirmed is so, and the order of the tables does not matter. -/
def PlacedSoundly : Prop :=
  (input.correlateLocalEndpoint.state = .confirmed →
    ∃ adapter port, input.correlateLocalEndpoint.interface = some port ∧
      input.correlateLocalEndpoint.ip = some adapter.ip ∧ input.Attached adapter port) ∧
  ∀ input', input.Permuted input' → input'.correlateLocalEndpoint = input.correlateLocalEndpoint

/-! ## The spellings of a port -/

/-- What is seen of the port, in this spelling, speaks for the address. -/
structure SpokenFor (ip port : Text) : Prop where
  access : ∃ interface ∈ input.interfaces, interface.port.lower = port.lower ∧ isConnectedAccess interface = true
  address : ∃ adapter, input.Matched adapter port ∧ adapter.ip = ip ∧
    (∀ mac, input.Learned mac port → mac = normalizeMac adapter.mac) ∧
    ∀ entry ∈ input.arpEntries, entry.ip = ip → normalizeMac entry.mac = normalizeMac adapter.mac

/-- The spellings of a port make no difference, as far as they matter: if the tables single out an address and a port, then
its interfaces are alike; and if what is seen of the port in its spelling speaks for the address, then no row of the MAC
table spells the port in another way, and no candidate is learned on one port but in several spellings. -/
def SpelledAlike : Prop :=
  ∀ ip port, input.Correlates ip port →
    (∀ interface ∈ input.interfaces, ∀ interface' ∈ input.interfaces, interface.port.lower = port.lower →
      interface'.port.lower = port.lower → isConnectedAccess interface = isConnectedAccess interface') ∧
    (input.SpokenFor ip port →
      (∀ mac other, input.Learned mac other → other.lower = port.lower → other = port) ∧
      ∀ adapter ∈ input.candidates, ∀ key, (∀ other, input.LearnedAt (normalizeMac adapter.mac) other ↔ other = key) →
        ∀ one other, input.Learned (normalizeMac adapter.mac) one → input.Learned (normalizeMac adapter.mac) other → one = other)

end LocalHostInput

/-! ## The index of the MAC table -/

theorem macIndex_eq (entries : List MacTableEntry) :
    macIndex entries = {
      macByPort := Dict.groupSets ((entries.filter isLearned).map fun entry => (entry.port, normalizeMac entry.mac))
      portsByMac := Dict.groupSets ((entries.filter isLearned).map fun entry => (normalizeMac entry.mac, entry.port)) } := by
  induction entries using List.reverseRecOn with
  | nil => rfl
  | append_singleton entries entry ih =>
    rw [macIndex, List.foldl_append, ← macIndex, ih, List.foldl_cons, List.foldl_nil, MacIndex.learn, List.filter_append]
    split
    · next learned =>
      rw [List.filter_cons_of_pos learned, List.filter_nil, List.map_append, List.map_append, List.map_singleton,
        List.map_singleton, Dict.groupSets_concat, Dict.groupSets_concat]
    · next other => rw [List.filter_cons_of_neg other, List.filter_nil, List.append_nil]

namespace LocalHostInput

section index

variable {input : LocalHostInput} {mac port : Text}

theorem mem_macByPort : mac ∈ Dict.members (macIndex input.macEntries).macByPort port ↔ input.Learned mac port := by
  rw [macIndex_eq, Dict.mem_members_groupSets, List.mem_map]
  constructor
  · rintro ⟨entry, here, same⟩
    obtain ⟨listed, learned⟩ := List.mem_filter.mp here
    cases same
    exact ⟨entry, listed, learned, rfl, rfl⟩
  · rintro ⟨entry, listed, learned, rfl, rfl⟩
    exact ⟨entry, List.mem_filter.mpr ⟨listed, learned⟩, rfl⟩

theorem mem_portsByMac : port ∈ Dict.members (macIndex input.macEntries).portsByMac mac ↔ input.Learned mac port := by
  rw [macIndex_eq, Dict.mem_members_groupSets, List.mem_map]
  constructor
  · rintro ⟨entry, here, same⟩
    obtain ⟨listed, learned⟩ := List.mem_filter.mp here
    cases same
    exact ⟨entry, listed, learned, rfl, rfl⟩
  · rintro ⟨entry, listed, learned, rfl, rfl⟩
    exact ⟨entry, List.mem_filter.mpr ⟨listed, learned⟩, rfl⟩

end index

end LocalHostInput

/-- A list without repetitions is one item exactly if that item is all it has. -/
theorem eq_singleton_iff {α : Type} {l : List α} (distinct : l.Nodup) {a : α} : l = [a] ↔ ∀ b, b ∈ l ↔ b = a := by
  constructor
  · rintro rfl b
    exact List.mem_singleton
  · intro all
    exact List.perm_singleton.mp ((List.perm_ext_iff_of_nodup distinct (List.nodup_singleton a)).mpr fun b => by
      rw [all, List.mem_singleton])

theorem length_eq_one_iff_of_mem {α : Type} {l : List α} (distinct : l.Nodup) {a : α} (here : a ∈ l) :
    l.length = 1 ↔ ∀ b ∈ l, b = a := by
  rw [List.length_eq_one_iff]
  constructor
  · rintro ⟨c, rfl⟩ b mem
    rw [List.mem_singleton.mp mem, List.mem_singleton.mp here]
  · intro all
    exact ⟨a, (eq_singleton_iff distinct).mpr fun b => ⟨all b, fun same => by rw [same]; exact here⟩⟩

namespace LocalHostInput

section matching

variable {input : LocalHostInput}

theorem portsByMac_eq_singleton {adapter : LocalAdapter} {port : Text} :
    Dict.members (macIndex input.macEntries).portsByMac (normalizeMac adapter.mac) = [port] ↔
      ∀ other, input.Learned (normalizeMac adapter.mac) other ↔ other = port := by
  have distinct : (Dict.members (macIndex input.macEntries).portsByMac (normalizeMac adapter.mac)).Nodup := by
    rw [macIndex_eq]
    exact Dict.nodup_members_groupSets _ _
  rw [eq_singleton_iff distinct]
  exact forall_congr' fun other => by rw [mem_portsByMac]

theorem portsByMac_isEmpty {mac : Text} :
    (Dict.members (macIndex input.macEntries).portsByMac mac).isEmpty = false ↔ ∃ port, input.Learned mac port := by
  rw [List.isEmpty_eq_false_iff_exists_mem]
  exact exists_congr fun port => mem_portsByMac

/-- One adapter more. -/
theorem matchAdapter_spec (found : List (LocalAdapter × Text) × Bool) (adapter : LocalAdapter) :
    ((matchAdapter (macIndex input.macEntries) found adapter).2 = true ↔
      found.2 = true ∨ locallyAdministered adapter.mac = true ∧ ∃ port, input.Learned (normalizeMac adapter.mac) port) ∧
    ∀ a p, (a, p) ∈ (matchAdapter (macIndex input.macEntries) found adapter).1 ↔
      (a, p) ∈ found.1 ∨ a = adapter ∧ locallyAdministered adapter.mac = false ∧
        ∀ other, input.Learned (normalizeMac adapter.mac) other ↔ other = p := by
  unfold matchAdapter
  dsimp only
  split
  · next randomised =>
    rw [Bool.and_eq_true, Bool.not_eq_true', portsByMac_isEmpty] at randomised
    refine ⟨iff_of_true rfl (.inr randomised.symm), fun a p => ?_⟩
    simp [randomised.2]
  · next other =>
    rw [Bool.and_eq_true, Bool.not_eq_true', portsByMac_isEmpty, not_and] at other
    have plain : ¬ (locallyAdministered adapter.mac = true ∧ ∃ port, input.Learned (normalizeMac adapter.mac) port) :=
      fun both => other both.2 both.1
    split
    · next port single =>
      have learned := portsByMac_eq_singleton.mp single
      have genuine : locallyAdministered adapter.mac = false :=
        Bool.eq_false_of_not_eq_true fun assigned => plain ⟨assigned, port, (learned port).mpr rfl⟩
      refine ⟨by simp [plain], fun a p => ?_⟩
      rw [List.mem_append, List.mem_singleton, Prod.mk.injEq]
      refine or_congr_right (and_congr_right fun _ => ⟨?_, ?_⟩)
      · rintro rfl
        exact ⟨genuine, learned⟩
      · rintro ⟨-, all⟩
        exact ((learned p).mp ((all p).mpr rfl))
    · next several =>
      refine ⟨by simp [plain], fun a p => ⟨.inl, ?_⟩⟩
      rintro (known | ⟨-, -, all⟩)
      · exact known
      · exact absurd (portsByMac_eq_singleton.mpr all) (several p)

/-- What the loop over the adapters finds. -/
theorem foldl_matchAdapter (adapters : List LocalAdapter) :
    ((adapters.foldl (matchAdapter (macIndex input.macEntries)) ([], false)).2 = true ↔
      ∃ adapter ∈ adapters, locallyAdministered adapter.mac = true ∧
        ∃ port, input.Learned (normalizeMac adapter.mac) port) ∧
    ∀ a p, (a, p) ∈ (adapters.foldl (matchAdapter (macIndex input.macEntries)) ([], false)).1 ↔
      a ∈ adapters ∧ locallyAdministered a.mac = false ∧
        ∀ other, input.Learned (normalizeMac a.mac) other ↔ other = p := by
  induction adapters using List.reverseRecOn with
  | nil => simp
  | append_singleton adapters adapter ih =>
    obtain ⟨randomised, matched⟩ := ih
    rw [List.foldl_append, List.foldl_cons, List.foldl_nil]
    obtain ⟨randomisedNow, matchedNow⟩ :=
      matchAdapter_spec (adapters.foldl (matchAdapter (macIndex input.macEntries)) ([], false)) adapter
    constructor
    · rw [randomisedNow, randomised]
      simp only [List.mem_append, List.mem_singleton, or_and_right, exists_or, exists_eq_left]
    · intro a p
      rw [matchedNow, matched, List.mem_append, List.mem_singleton, or_and_right]
      refine or_congr_right (and_congr_right fun same => ?_)
      rw [same]

end matching

section correlating

variable [IpNetworks] {input : LocalHostInput}

theorem found_randomised : input.found.2 = true ↔ input.Randomised := (foldl_matchAdapter input.candidates).1

theorem mem_found (notRandomised : ¬ input.Randomised) {adapter : LocalAdapter} {port : Text} :
    (adapter, port) ∈ input.found.1 ↔ input.Matched adapter port := by
  rw [found, (foldl_matchAdapter input.candidates).2, Matched]
  refine and_congr_right fun candidate => and_iff_right_of_imp fun learned => ?_
  refine Bool.eq_false_of_not_eq_true fun assigned => notRandomised ⟨adapter, candidate, assigned, port, ?_⟩
  exact (learned port).mpr rfl

/-- The one address and port are those of the first match. -/
theorem unique_iff (notRandomised : ¬ input.Randomised) {adapter : LocalAdapter} {port : Text}
    (first : (adapter, port) ∈ input.found.1) :
    (input.found.1.map fun found => (found.1.ip, found.2)).dedup.length = 1 ↔ input.Correlates adapter.ip port := by
  have here : (adapter.ip, port) ∈ (input.found.1.map fun found => (found.1.ip, found.2)).dedup :=
    List.mem_dedup.mpr (List.mem_map_of_mem first)
  rw [length_eq_one_iff_of_mem (List.nodup_dedup _) here]
  constructor
  · intro all
    refine ⟨notRandomised, ⟨adapter, (mem_found notRandomised).mp first, rfl⟩, fun other port' matched => ?_⟩
    have listed := List.mem_map_of_mem (f := fun found => (found.1.ip, found.2)) ((mem_found notRandomised).mpr matched)
    exact Prod.mk.inj (all _ (List.mem_dedup.mpr listed))
  · rintro ⟨-, -, only⟩ pair mem
    obtain ⟨⟨other, port'⟩, listed, rfl⟩ := List.mem_map.mp (List.mem_dedup.mp mem)
    obtain ⟨sameIp, samePort⟩ := only other port' ((mem_found notRandomised).mp listed)
    exact Prod.ext sameIp samePort

theorem correlateLocalEndpoint_of_found {adapter : LocalAdapter} {port : Text} {rest : List (LocalAdapter × Text)}
    (notRandomised : ¬ input.Randomised) (matched : input.found.1 = (adapter, port) :: rest)
    (one : input.Correlates adapter.ip port) :
    input.correlateLocalEndpoint = input.judge (macIndex input.macEntries) adapter port := by
  have candidate : adapter ∈ input.candidates :=
    ((mem_found notRandomised).mp (by rw [matched]; exact List.mem_cons_self)).1
  have unique := (unique_iff notRandomised (by rw [matched]; exact List.mem_cons_self)).mpr one
  rw [correlateLocalEndpoint, if_neg (by simpa using List.ne_nil_of_mem candidate),
    if_neg (by rw [found_randomised]; exact notRandomised)]
  split
  · next none => cases none.symm.trans matched
  · next adapter' port' rest' some =>
    cases some.symm.trans matched
    rw [if_neg (not_not.mpr unique)]

/-- **What is said** of the one address and port that the tables single out is what is judged of them. -/
theorem correlateLocalEndpoint_of_correlates {ip port : Text} (one : input.Correlates ip port) :
    ∃ adapter, input.Matched adapter port ∧ adapter.ip = ip ∧
      input.correlateLocalEndpoint = input.judge (macIndex input.macEntries) adapter port := by
  obtain ⟨some, matched, -⟩ := one.matched
  cases first : input.found.1 with
  | nil =>
    have listed := (mem_found one.notRandomised).mpr matched
    rw [first] at listed
    cases listed
  | cons found rest =>
    obtain ⟨adapter, port'⟩ := found
    have head := (mem_found one.notRandomised).mp (by rw [first]; exact List.mem_cons_self)
    obtain ⟨rfl, rfl⟩ := one.only adapter port' head
    exact ⟨adapter, head, rfl, correlateLocalEndpoint_of_found one.notRandomised first one⟩

/-- Nothing is confirmed but what the tables single out. -/
theorem correlates_of_confirmed (confirmed : input.correlateLocalEndpoint.state = .confirmed) :
    ∃ ip port, input.Correlates ip port := by
  unfold correlateLocalEndpoint at confirmed
  split at confirmed
  · cases confirmed
  · split at confirmed
    · cases confirmed
    · next plain =>
      have notRandomised : ¬ input.Randomised := fun assigned => plain (found_randomised.mpr assigned)
      split at confirmed
      · cases confirmed
      · next adapter port rest some =>
        split at confirmed
        · cases confirmed
        · next unique =>
          exact ⟨adapter.ip, port, (unique_iff notRandomised (by rw [some]; exact List.mem_cons_self)).mp (not_not.mp unique)⟩

/-! ### What is judged -/

theorem oneAddress_iff {adapter : LocalAdapter} {port : Text} (matched : input.Matched adapter port) :
    (Dict.members (macIndex input.macEntries).macByPort port).length = 1 ↔
      ∀ mac, input.Learned mac port → mac = normalizeMac adapter.mac := by
  have distinct : (Dict.members (macIndex input.macEntries).macByPort port).Nodup := by
    rw [macIndex_eq]
    exact Dict.nodup_members_groupSets _ _
  have here : normalizeMac adapter.mac ∈ Dict.members (macIndex input.macEntries).macByPort port :=
    mem_macByPort.mpr ((matched.2 port).mpr rfl)
  rw [length_eq_one_iff_of_mem distinct here]
  exact forall_congr' fun mac => by rw [mem_macByPort]

omit [IpNetworks] in
theorem contradicted_iff {adapter : LocalAdapter} :
    ((input.arpEntries.filter (·.ip = adapter.ip)).any fun entry => normalizeMac entry.mac ≠ normalizeMac adapter.mac) = false ↔
      ∀ entry ∈ input.arpEntries, entry.ip = adapter.ip → normalizeMac entry.mac = normalizeMac adapter.mac := by
  simp [List.any_eq_false]

/-- What is looked up is confirmed exactly if it speaks for the adapter. -/
theorem judge_confirmed_iff {adapter : LocalAdapter} {port : Text} (matched : input.Matched adapter port) :
    (input.judge (macIndex input.macEntries) adapter port).state = .confirmed ↔
      input.foundAccess port = true ∧ (∀ mac, input.Learned mac port → mac = normalizeMac adapter.mac) ∧
        ∀ entry ∈ input.arpEntries, entry.ip = adapter.ip → normalizeMac entry.mac = normalizeMac adapter.mac := by
  rw [judge, ← oneAddress_iff matched, ← contradicted_iff]
  cases input.foundAccess port with
  | false => exact iff_of_false (fun same => LocalEndpointState.noConfusion same) (fun all => Bool.false_ne_true all.1)
  | true =>
    rw [if_neg (by decide)]
    split
    · next several => exact iff_of_false (fun same => LocalEndpointState.noConfusion same) fun all => several all.2.1
    · next one =>
      split
      · next contradicted =>
        refine iff_of_false (fun same => LocalEndpointState.noConfusion same) fun all => ?_
        exact Bool.false_ne_true (all.2.2.symm.trans contradicted)
      · next agreed => exact iff_of_true rfl ⟨rfl, not_not.mp one, Bool.eq_false_of_not_eq_true agreed⟩

omit [IpNetworks] in
theorem judge_of_confirmed {adapter : LocalAdapter} {port : Text}
    (confirmed : (input.judge (macIndex input.macEntries) adapter port).state = .confirmed) :
    (input.judge (macIndex input.macEntries) adapter port).interface = some port ∧
      (input.judge (macIndex input.macEntries) adapter port).ip = some adapter.ip := by
  rw [judge] at confirmed ⊢
  split at confirmed
  · cases confirmed
  · next access =>
    split at confirmed
    · cases confirmed
    · next one =>
      split at confirmed
      · cases confirmed
      · next agreed =>
        rw [if_neg access, if_neg one, if_neg agreed]
        exact ⟨rfl, rfl⟩

/-- Judgements of alike tables are alike. -/
theorem judge_congr {input' : LocalHostInput} {adapter adapter' : LocalAdapter} {port : Text}
    (access : input'.foundAccess port = input.foundAccess port) (matched : input.Matched adapter port)
    (matched' : input'.Matched adapter' port) (learned : ∀ mac, input'.Learned mac port ↔ input.Learned mac port)
    (arp : ∀ entry, entry ∈ input'.arpEntries ↔ entry ∈ input.arpEntries) (ip : adapter'.ip = adapter.ip) :
    input'.judge (macIndex input'.macEntries) adapter' port = input.judge (macIndex input.macEntries) adapter port := by
  have here : input.Learned (normalizeMac adapter'.mac) port := (learned _).mp ((matched'.2 port).mpr rfl)
  have one : (Dict.members (macIndex input'.macEntries).macByPort port).length = 1 ↔
      (Dict.members (macIndex input.macEntries).macByPort port).length = 1 := by
    rw [oneAddress_iff matched', oneAddress_iff matched]
    constructor
    · intro all mac known
      rw [all mac ((learned mac).mpr known), all (normalizeMac adapter.mac) ((learned _).mpr ((matched.2 port).mpr rfl))]
    · intro all mac known
      rw [all mac ((learned mac).mp known), all (normalizeMac adapter'.mac) here]
  rw [judge, judge, access, ip]
  congr 1
  by_cases single : (Dict.members (macIndex input.macEntries).macByPort port).length = 1
  · have same : normalizeMac adapter'.mac = normalizeMac adapter.mac := (oneAddress_iff matched).mp single _ here
    have agreed : ((input'.arpEntries.filter (·.ip = adapter.ip)).any fun entry => normalizeMac entry.mac ≠ normalizeMac adapter.mac)
        = (input.arpEntries.filter (·.ip = adapter.ip)).any fun entry => normalizeMac entry.mac ≠ normalizeMac adapter.mac := by
      rw [Bool.eq_iff_iff, List.any_eq_true, List.any_eq_true]
      refine exists_congr fun entry => and_congr_left fun _ => ?_
      rw [List.mem_filter, List.mem_filter, arp]
    rw [if_neg (not_not.mpr (one.mpr single)), if_neg (not_not.mpr single), same, agreed]
  · rw [if_pos (fun h => single (one.mp h)), if_pos single]

/-! ### Another order -/

/-- What is said where the tables single out nothing. -/
theorem correlateLocalEndpoint_of_not_correlates (none : ∀ ip port, ¬ input.Correlates ip port) :
    input.correlateLocalEndpoint =
      if input.candidates.isEmpty then {
        state := .unavailable
        detail := "No active local adapter on the switch management network could be inspected." }
      else if input.found.2 then {
        state := .ambiguous
        detail := "A matching adapter uses a software-assigned MAC address, so SwitchOps will not claim a stable identity." }
      else if input.found.1.isEmpty then {
        state := .notObserved
        detail := "The active local adapter was not uniquely present in the switch MAC table." }
      else {
        state := .ambiguous
        detail := "More than one local adapter or switch path matched; no identity was assigned." } := by
  unfold correlateLocalEndpoint
  split
  · rfl
  · split
    · rfl
    · next plain =>
      have notRandomised : ¬ input.Randomised := fun assigned => plain (found_randomised.mpr assigned)
      split
      · next empty => rw [empty, List.isEmpty_nil, if_pos rfl]
      · next adapter port rest some =>
        have several := (unique_iff notRandomised (by rw [some]; exact List.mem_cons_self)).not.mpr (none adapter.ip port)
        rw [if_pos several, some, List.isEmpty_cons, if_neg Bool.false_ne_true]

section permuted

variable {input' : LocalHostInput} (permuted : input.Permuted input')
include permuted

omit [IpNetworks] in
theorem Permuted.learned_iff {mac port : Text} : input'.Learned mac port ↔ input.Learned mac port :=
  exists_congr fun _ => and_congr_left fun _ => permuted.macEntries.mem_iff.symm

theorem Permuted.candidates : input.candidates.Perm input'.candidates := by
  rw [LocalHostInput.candidates, LocalHostInput.candidates, permuted.managementIp]
  exact permuted.adapters.filter _

theorem Permuted.matched_iff {adapter : LocalAdapter} {port : Text} :
    input'.Matched adapter port ↔ input.Matched adapter port := by
  rw [Matched, Matched, permuted.candidates.mem_iff]
  exact and_congr_right fun _ => forall_congr' fun other => by rw [permuted.learned_iff]

theorem Permuted.randomised_iff : input'.Randomised ↔ input.Randomised := by
  refine exists_congr fun adapter => ?_
  rw [permuted.candidates.mem_iff]
  exact and_congr_right fun _ => and_congr_right fun _ => exists_congr fun port => permuted.learned_iff

theorem Permuted.correlates_iff {ip port : Text} : input'.Correlates ip port ↔ input.Correlates ip port := by
  constructor
  · rintro ⟨notRandomised, ⟨adapter, matched, same⟩, only⟩
    refine ⟨permuted.randomised_iff.not.mp notRandomised, ⟨adapter, permuted.matched_iff.mp matched, same⟩, ?_⟩
    exact fun adapter other matched => only adapter other (permuted.matched_iff.mpr matched)
  · rintro ⟨notRandomised, ⟨adapter, matched, same⟩, only⟩
    refine ⟨permuted.randomised_iff.not.mpr notRandomised, ⟨adapter, permuted.matched_iff.mpr matched, same⟩, ?_⟩
    exact fun adapter other matched => only adapter other (permuted.matched_iff.mp matched)

/-- **The order of the tables** matters only as far as it decides which interface of the port is looked up. -/
theorem Permuted.correlateLocalEndpoint_eq
    (alike : ∀ ip port, input.Correlates ip port → input'.foundAccess port = input.foundAccess port) :
    input'.correlateLocalEndpoint = input.correlateLocalEndpoint := by
  by_cases one : ∃ ip port, input.Correlates ip port
  · obtain ⟨ip, port, one⟩ := one
    obtain ⟨adapter, matched, here, said⟩ := correlateLocalEndpoint_of_correlates one
    obtain ⟨adapter', matched', here', said'⟩ := correlateLocalEndpoint_of_correlates (permuted.correlates_iff.mpr one)
    rw [said, said']
    exact judge_congr (alike ip port one) matched matched' (fun mac => permuted.learned_iff)
      (fun entry => permuted.arpEntries.mem_iff.symm) (here'.trans here.symm)
  · have none (ip port : Text) : ¬ input.Correlates ip port := fun correlates => one ⟨ip, port, correlates⟩
    have none' (ip port : Text) : ¬ input'.Correlates ip port := permuted.correlates_iff.not.mpr (none ip port)
    have candidates : input'.candidates.isEmpty = input.candidates.isEmpty := by
      rw [Bool.eq_iff_iff, List.isEmpty_iff, List.isEmpty_iff]
      exact ⟨fun empty => (empty ▸ permuted.candidates).eq_nil, fun empty => (empty ▸ permuted.candidates).symm.eq_nil⟩
    have randomised : input'.found.2 = input.found.2 := by
      rw [Bool.eq_iff_iff, found_randomised, found_randomised, permuted.randomised_iff]
    rw [correlateLocalEndpoint_of_not_correlates none, correlateLocalEndpoint_of_not_correlates none', candidates, randomised]
    cases assigned : input.found.2 with
    | true => simp only [if_true]
    | false =>
      have notRandomised : ¬ input.Randomised := by
        rw [← found_randomised, assigned]
        exact Bool.false_ne_true
      have found : input'.found.1.isEmpty = input.found.1.isEmpty := by
        rw [Bool.eq_iff_iff, List.isEmpty_iff, List.isEmpty_iff, List.eq_nil_iff_forall_not_mem,
          List.eq_nil_iff_forall_not_mem]
        refine forall_congr' fun match_ => ?_
        rw [mem_found notRandomised, mem_found (permuted.randomised_iff.not.mpr notRandomised), permuted.matched_iff]
      rw [found]

end permuted

/-! ### The interfaces of a port -/

omit [IpNetworks] in
theorem foundAccess_cons {interface : InterfaceStatus} {rest : List InterfaceStatus} {port : Text}
    (first : interface.port.lower = port.lower) :
    foundAccess { input with interfaces := interface :: rest } port = isConnectedAccess interface := by
  rw [foundAccess, List.find?_cons_of_pos (by simpa using first), Option.any_some]

omit [IpNetworks] in
theorem exists_of_foundAccess {port : Text} (access : input.foundAccess port = true) :
    ∃ interface ∈ input.interfaces, interface.port.lower = port.lower ∧ isConnectedAccess interface = true := by
  rw [foundAccess, Option.any_eq_true] at access
  obtain ⟨interface, found, connected⟩ := access
  exact ⟨interface, List.mem_of_find?_eq_some found, by simpa using List.find?_some found, connected⟩

omit [IpNetworks] in
/-- Where the interfaces of a port are alike it does not matter which one is looked up. -/
theorem foundAccess_of_mem {port : Text} {interface : InterfaceStatus} (listed : interface ∈ input.interfaces)
    (same : interface.port.lower = port.lower)
    (alike : ∀ other ∈ input.interfaces, other.port.lower = port.lower → isConnectedAccess other = isConnectedAccess interface) :
    input.foundAccess port = isConnectedAccess interface := by
  rw [foundAccess]
  cases found : input.interfaces.find? fun item => item.port.lower = port.lower with
  | none => exact absurd same (by simpa using List.find?_eq_none.mp found interface listed)
  | some other => exact alike other (List.mem_of_find?_eq_some found) (by simpa using List.find?_some found)

omit [IpNetworks] in
theorem foundAccess_of_absent {port : Text} (absent : ∀ interface ∈ input.interfaces, interface.port.lower ≠ port.lower) :
    input.foundAccess port = false := by
  rw [foundAccess, List.find?_eq_none.mpr (by simpa using absent), Option.any_none]

/-- A placement that does not depend on the order of the interfaces finds them alike. -/
theorem isConnectedAccess_eq_of_orderFree {ip port : Text} (one : input.Correlates ip port)
    (free : ∀ input', input.Permuted input' → input'.correlateLocalEndpoint = input.correlateLocalEndpoint)
    {interface interface' : InterfaceStatus} (listed : interface ∈ input.interfaces) (listed' : interface' ∈ input.interfaces)
    (same : interface.port.lower = port.lower) (same' : interface'.port.lower = port.lower) :
    isConnectedAccess interface = isConnectedAccess interface' := by
  -- each of the interfaces can be the first one
  have first {chosen : InterfaceStatus} (here : chosen ∈ input.interfaces) (named : chosen.port.lower = port.lower) :
      input.correlateLocalEndpoint.detail = "The MAC matched, but the switch port is not a connected access interface." ↔
        isConnectedAccess chosen = false := by
    have permuted : input.Permuted { input with interfaces := chosen :: input.interfaces.erase chosen } :=
      ⟨rfl, .refl _, .refl _, List.perm_cons_erase here, .refl _⟩
    obtain ⟨adapter, -, -, said⟩ := correlateLocalEndpoint_of_correlates (permuted.correlates_iff.mpr one)
    rw [← free _ permuted, said, judge, foundAccess_cons named]
    cases isConnectedAccess chosen with
    | false => exact iff_of_true rfl rfl
    | true =>
      rw [if_neg (by decide)]
      refine iff_of_false ?_ (by decide)
      split
      · dsimp only
        decide
      · split
        · dsimp only
          decide
        · dsimp only
          decide
  rw [Bool.eq_iff_iff, ← not_iff_not, Bool.not_eq_true, Bool.not_eq_true, ← first listed same, ← first listed' same']

/-- **The local host** is placed soundly, whatever the order of the tables, if and only if the spellings of its port make no
difference. -/
theorem placedSoundly_iff : input.PlacedSoundly ↔ input.SpelledAlike := by
  constructor
  · rintro ⟨sound, free⟩ ip port one
    refine ⟨fun interface listed interface' listed' same same' =>
      isConnectedAccess_eq_of_orderFree one free listed listed' same same', fun spoken => ?_⟩
    obtain ⟨interface, listed, same, connected⟩ := spoken.access
    obtain ⟨adapter₀, matched₀, rfl, address, uncontradicted⟩ := spoken.address
    obtain ⟨adapter, matched, here, said⟩ := correlateLocalEndpoint_of_correlates one
    have sameMac : normalizeMac adapter.mac = normalizeMac adapter₀.mac := address _ ((matched.2 port).mpr rfl)
    have access : input.foundAccess port = true := by
      rw [foundAccess_of_mem listed same fun other listed' same' =>
        isConnectedAccess_eq_of_orderFree one free listed' listed same' same, connected]
    have confirmed := (judge_confirmed_iff matched).mpr ⟨access, by rw [sameMac]; exact address, by
      rw [sameMac, here]
      exact uncontradicted⟩
    have shown := judge_of_confirmed confirmed
    rw [← said] at confirmed shown
    obtain ⟨attached, port', portShown, ipShown, placed⟩ := sound confirmed
    cases portShown.symm.trans shown.1
    -- the address of the port is that of the adapter that matched
    have theAddress : normalizeMac adapter₀.mac = normalizeMac attached.mac :=
      (placed.onlyAddress _).mp ⟨port, (matched₀.2 port).mpr rfl, rfl⟩
    constructor
    · intro mac other learned spelled
      have sameAddress := (placed.onlyAddress mac).mp ⟨other, learned, spelled⟩
      rw [sameAddress, ← theAddress] at learned
      exact (matched₀.2 other).mp learned
    · intro candidate listed' key onePort one' other' learned learned'
      have genuine : locallyAdministered candidate.mac = false :=
        Bool.eq_false_of_not_eq_true fun assigned => one.notRandomised ⟨candidate, listed', assigned, one', learned⟩
      obtain ⟨-, rfl⟩ := placed.only candidate key ⟨listed', genuine, onePort⟩
      have sameAddress := (placed.onlyAddress _).mp ((onePort _).mpr rfl)
      rw [sameAddress, ← theAddress, matched₀.2] at learned learned'
      rw [learned, learned']
  · intro alike
    refine ⟨fun confirmed => ?_, fun input' permuted => ?_⟩
    · obtain ⟨ip, port, one⟩ := correlates_of_confirmed confirmed
      obtain ⟨adapter, matched, rfl, said⟩ := correlateLocalEndpoint_of_correlates one
      obtain ⟨interfaces, spelled⟩ := alike adapter.ip port one
      rw [said] at confirmed ⊢
      obtain ⟨access, address, uncontradicted⟩ := (judge_confirmed_iff matched).mp confirmed
      obtain ⟨portShown, ipShown⟩ := judge_of_confirmed confirmed
      obtain ⟨interface, listed, same, connected⟩ := exists_of_foundAccess access
      obtain ⟨oneSpelling, candidates⟩ :=
        spelled ⟨⟨interface, listed, same, connected⟩, adapter, matched, rfl, address, uncontradicted⟩
      have learnedHere : input.Learned (normalizeMac adapter.mac) port := (matched.2 port).mpr rfl
      have genuine : locallyAdministered adapter.mac = false :=
        Bool.eq_false_of_not_eq_true fun assigned => one.notRandomised ⟨adapter, matched.1, assigned, port, learnedHere⟩
      refine ⟨adapter, port, portShown, ipShown, ?_⟩
      constructor
      · refine ⟨matched.1, genuine, fun other => ⟨?_, ?_⟩⟩
        · rintro ⟨spelling, learned, rfl⟩
          rw [(matched.2 spelling).mp learned]
        · rintro rfl
          exact ⟨port, learnedHere, rfl⟩
      · rintro other key ⟨listed', -, onePort⟩
        -- a candidate that qualifies is learned in one spelling, so that it has matched
        obtain ⟨spelling, learned, rfl⟩ := (onePort key).mpr rfl
        have matched' : input.Matched other spelling := by
          refine ⟨listed', fun spelling' => ⟨fun learned' => ?_, ?_⟩⟩
          · exact candidates other listed' _ onePort spelling' spelling learned' learned
          · rintro rfl
            exact learned
        obtain ⟨sameIp, rfl⟩ := one.only other spelling matched'
        exact ⟨sameIp, rfl⟩
      · exact ⟨interface, listed, same⟩
      · intro other listed' same'
        rw [interfaces other listed' interface listed same' same, connected]
      · refine fun mac => ⟨?_, ?_⟩
        · rintro ⟨spelling, learned, spelled'⟩
          rw [oneSpelling mac spelling learned spelled'] at learned
          exact address mac learned
        · rintro rfl
          exact ⟨port, learnedHere, rfl⟩
      · exact uncontradicted
    · refine permuted.correlateLocalEndpoint_eq fun ip port one => ?_
      obtain ⟨interfaces, -⟩ := alike ip port one
      by_cases some : ∃ interface ∈ input.interfaces, interface.port.lower = port.lower
      · obtain ⟨interface, listed, same⟩ := some
        have alike' (other : InterfaceStatus) (listed' : other ∈ input.interfaces) (same' : other.port.lower = port.lower) :
            isConnectedAccess other = isConnectedAccess interface := interfaces other listed' interface listed same' same
        rw [foundAccess_of_mem listed same alike', foundAccess_of_mem (permuted.interfaces.mem_iff.mp listed) same]
        exact fun other listed' => alike' other (permuted.interfaces.mem_iff.mpr listed')
      · have absent (interface : InterfaceStatus) (listed : interface ∈ input.interfaces) :
            interface.port.lower ≠ port.lower := fun same => some ⟨interface, listed, same⟩
        rw [foundAccess_of_absent absent, foundAccess_of_absent]
        exact fun interface listed => absent interface (permuted.interfaces.mem_iff.mpr listed)

end correlating

end LocalHostInput

/-! ## A port in two spellings -/

@[reducible] def sampleNetworks : IpNetworks where
  contains ip netmask address := ip = "192.0.2.22" && netmask = "255.255.255.0" && address = "192.0.2.190"

def sampleEntry (mac port : Text) : MacTableEntry := ⟨"1", mac, "DYNAMIC", port⟩

/-- Two addresses are learned on one port, whose name the rows spell differently. -/
def twoSpellings : LocalHostInput where
  managementIp := "192.0.2.190"
  macEntries := [sampleEntry "0000.5e00.530e" "Gi0/2", sampleEntry "0000.5e00.5303" "gi0/2"]
  arpEntries := []
  interfaces := [⟨"Gi0/2", [], "connected", "1", [], [], [], false, .unmanaged⟩]
  adapters := [⟨"Ethernet", "192.0.2.22", "255.255.255.0", "0000.5e00.530E"⟩]

/-- The port is confirmed, although another address is learned on it. -/
theorem not_placedSoundly_twoSpellings : ¬ @LocalHostInput.PlacedSoundly sampleNetworks twoSpellings := by
  let _ : IpNetworks := sampleNetworks
  rintro ⟨sound, -⟩
  obtain ⟨adapter, port, portShown, -, placed⟩ := sound (by decide +kernel)
  have shown : (@LocalHostInput.correlateLocalEndpoint twoSpellings sampleNetworks).interface = some ("Gi0/2" : Text) := by
    decide +kernel
  cases portShown.symm.trans shown
  have learned (mac port : Text) (listed : sampleEntry mac port ∈ twoSpellings.macEntries)
      (counted : isLearned (sampleEntry mac port) = true) (same : port.lower = ("gi0/2" : Text)) :
      normalizeMac mac = normalizeMac adapter.mac :=
    (placed.onlyAddress _).mp ⟨port, ⟨_, listed, counted, rfl, rfl⟩, same.trans (by decide)⟩
  have first := learned "0000.5e00.530e" "Gi0/2" (by decide) (by decide) (by decide)
  have second := learned "0000.5e00.5303" "gi0/2" (by decide) (by decide) (by decide)
  exact absurd (first.trans second.symm) (by decide)

end SwitchOps.Topology
