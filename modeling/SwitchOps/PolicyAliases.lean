import SwitchOps.Assurance.Evidence
import SwitchOps.Lib.History
import SwitchOps.Lib.Reorder
import SwitchOps.PolicyStore

/-!
# Policy files with many spellings

`_load_unlocked` accepts every spelling of an interface and files the states under the canonical name.
Entries of one interface therefore meet in one place, and the last of them decides
(`get?_validated`). What loads is described by `PolicyFile.Valid`; `failsClosed_iff` says for which files
the outcome is closed and the same for every order and spelling of the entries.
-/

namespace SwitchOps

open Effects Effects.Program

/-! ## What loads -/

namespace InterfacePolicy

/-- A name of the grammar, and a state that is `OPERABLE` only for a physical interface. -/
def ValidEntry (entry : Text × Json) : Prop :=
  ∃ canonical state, normalizeInterface entry.1 = .ok canonical ∧ parseState entry.2 = some state ∧
    (state = .operable → isPhysicalInterface canonical = .ok true)

/-- A device key, and an object of valid entries. -/
def ValidDevice (device : Text × Json) : Prop :=
  isDeviceKey device.1 = true ∧ ∃ interfaces, device.2.get? "interfaces" = some (.object interfaces) ∧
    ∀ entry ∈ interfaces, ValidEntry entry

/-- The schema of a policy. -/
structure ValidDocument (json : Json) : Prop where
  version : ∃ version, json.get? "schemaVersion" = some version ∧ (version = .bool true ∨ version = .number 1)
  enabled : ∃ enabled, json.get? "controlledWritesEnabled" = some (.bool enabled)
  devices : ∃ devices, json.get? "devices" = some (.object devices) ∧ ∀ device ∈ devices, ValidDevice device

theorem validateEntry_eq_some_iff {entry : Text × Json} {result : Text × PolicyState} :
    validateEntry entry = some result ↔ normalizeInterface entry.1 = .ok result.1 ∧
      parseState entry.2 = some result.2 ∧
      (result.2 = .operable → isPhysicalInterface result.1 = .ok true) := by
  obtain ⟨canonical, state⟩ := result
  unfold validateEntry
  cases normalizeInterface entry.1 with
  | error exc => simp
  | ok name =>
    cases parseState entry.2 with
    | none => simp
    | some parsed =>
      by_cases closed : parsed = .operable ∧ isPhysicalInterface name ≠ .ok true
      · simp only [if_pos closed, reduceCtorEq, Except.ok.injEq, Option.some.injEq, false_iff]
        rintro ⟨rfl, rfl, physical⟩
        exact closed.2 (physical closed.1)
      · simp only [if_neg closed, Except.ok.injEq, Option.some.injEq, Prod.mk.injEq]
        constructor
        · rintro ⟨rfl, rfl⟩
          exact ⟨rfl, rfl, fun operable => by_contra fun other => closed ⟨operable, other⟩⟩
        · rintro ⟨rfl, rfl, -⟩
          exact ⟨rfl, rfl⟩

theorem validateEntry_isSome_iff {entry : Text × Json} : (validateEntry entry).isSome ↔ ValidEntry entry := by
  rw [Option.isSome_iff_exists]
  constructor
  · intro ⟨result, valid⟩
    exact ⟨result.1, result.2, validateEntry_eq_some_iff.mp valid⟩
  · intro ⟨canonical, state, valid⟩
    exact ⟨(canonical, state), validateEntry_eq_some_iff.mpr valid⟩

theorem validateDevice_isSome_iff {device : Text × Json} :
    (validateDevice device).isSome ↔ ValidDevice device := by
  unfold validateDevice ValidDevice
  by_cases key : isDeviceKey device.1 = true
  · simp only [key, Bool.not_true, Bool.false_eq_true, if_false, true_and]
    split
    · next interfaces object =>
      rw [Option.isSome_map, List.mapM_isSome_iff]
      constructor
      · exact fun valid => ⟨interfaces, object, fun entry here => validateEntry_isSome_iff.mp (valid entry here)⟩
      · intro ⟨interfaces', object', valid⟩ entry here
        rw [object, Option.some.injEq, Json.object.injEq] at object'
        exact validateEntry_isSome_iff.mpr (valid entry (object' ▸ here))
    · next other =>
      exact iff_of_false (by simp) fun ⟨interfaces, object, _⟩ => other interfaces object
  · simp [key]

/-- `True == 1` in Python. -/
theorem schemaVersion_iff {version : Json} : (version matches .bool true ∨ (version matches .number 1)) ↔
    version = .bool true ∨ version = .number 1 := by
  constructor
  · rintro (matched | matched)
    · split at matched
      · exact .inl rfl
      · cases matched
    · split at matched
      · exact .inr rfl
      · cases matched
  · rintro (rfl | rfl)
    · exact .inl rfl
    · exact .inr rfl

/-- **A document is accepted** just when it follows the schema. -/
theorem validate_isSome_iff {json : Json} : (validate json).isSome ↔ ValidDocument json := by
  unfold validate
  split
  · next version enabled devices hasVersion hasEnabled hasDevices =>
    by_cases known : version = .bool true ∨ version = .number 1
    · rw [if_pos ?matched, Option.isSome_map, List.mapM_isSome_iff]
      case matched => exact schemaVersion_iff.mpr known
      constructor
      · intro valid
        refine ⟨⟨version, hasVersion, known⟩, ⟨enabled, hasEnabled⟩, devices, hasDevices, ?_⟩
        exact fun device here => validateDevice_isSome_iff.mp (valid device here)
      · intro valid device here
        obtain ⟨devices', hasDevices', valid⟩ := valid.devices
        rw [hasDevices, Option.some.injEq, Json.object.injEq] at hasDevices'
        exact validateDevice_isSome_iff.mpr (valid device (hasDevices' ▸ here))
    · rw [if_neg ?unmatched]
      case unmatched => exact mt schemaVersion_iff.mp known
      refine iff_of_false (by simp) fun valid => known ?_
      obtain ⟨version', hasVersion', known⟩ := valid.version
      rw [hasVersion, Option.some.injEq] at hasVersion'
      exact hasVersion' ▸ known
  · next missing =>
    refine iff_of_false (by simp) fun valid => ?_
    obtain ⟨version, hasVersion, -⟩ := valid.version
    obtain ⟨enabled, hasEnabled⟩ := valid.enabled
    obtain ⟨devices, hasDevices, -⟩ := valid.devices
    exact missing version enabled devices hasVersion hasEnabled hasDevices

/-! ## The entries of one interface -/

/-- An entry names an interface, in whatever spelling. -/
def names (canonical : Text) (entry : Text × Json) : Bool :=
  match normalizeInterface entry.1 with
  | .ok name => name = canonical
  | .error _ => false

theorem names_iff {canonical : Text} {entry : Text × Json} :
    names canonical entry = true ↔ normalizeInterface entry.1 = .ok canonical := by
  unfold names
  cases normalizeInterface entry.1 with
  | error exc => simp
  | ok name => simp

/-- Of the entries that name an interface the last counts. -/
def deciding (canonical : Text) (entries : List (Text × Json)) : Option (Text × Json) :=
  entries.reverse.find? (names canonical)

theorem get?_validated {entries : List (Text × Json)} {states : List (Text × PolicyState)}
    (h : entries.mapM validateEntry = some states) (canonical : Text) :
    Dict.get? (Dict.ofList states) canonical
      = (deciding canonical entries).bind fun entry => parseState entry.2 := by
  have related := List.Forall₂.find?_rel (p := names canonical) (q := fun state => state.1 = canonical)
    (List.rel_reverse (List.forall₂_of_mapM h)) fun entry state valid => by
      rw [Bool.eq_iff_iff, names_iff, (validateEntry_eq_some_iff.mp valid).1]
      simp
  rw [Dict.get?_ofList, deciding]
  generalize entries.reverse.find? (names canonical) = found at related ⊢
  generalize (states.reverse.find? fun state => state.1 = canonical) = stored at related ⊢
  cases related with
  | none => rfl
  | some valid => exact (validateEntry_eq_some_iff.mp valid).2.1.symm

end InterfacePolicy

namespace PolicyFile

/-- A file that `_load_unlocked` does not reject. -/
def Valid : PolicyFile → Prop
  | .absent => True
  | .unreadable => False
  | .document json => InterfacePolicy.ValidDocument json

theorem load_isSome_iff {file : PolicyFile} : file.load.isSome ↔ file.Valid := by
  cases file with
  | absent => exact iff_of_true rfl trivial
  | unreadable => exact iff_of_false (by simp [load]) id
  | document json => exact InterfacePolicy.validate_isSome_iff

/-- The entries of a device, as the file lists them. -/
def entries [Digest] (file : PolicyFile) (host : Option Text) : List (Text × Json) :=
  if noHost host then []
  else match file with
    | .document json => match json.get? "devices" with
      | some (.object devices) =>
        match (Dict.get? (Dict.ofList devices) (deviceKey (host.getD []))).bind (·.get? "interfaces") with
        | some (.object interfaces) => interfaces
        | _ => []
      | _ => []
    | _ => []

variable [Digest] {file file' : PolicyFile} {host : Option Text}

/-- The state of an interface in a file that loads. -/
def recorded (file : PolicyFile) (host : Option Text) (canonical : Text) : PolicyState :=
  match file.load with
  | none => .unmanaged
  | some _ => ((InterfacePolicy.deciding canonical (file.entries host)).bind fun entry =>
      InterfacePolicy.parseState entry.2).getD .unmanaged

theorem entries_eq_nil (missing : noHost host = true) : file.entries host = [] := if_pos missing

end PolicyFile

namespace InterfacePolicy

theorem validateDevice_eq_some {device : Text × Json} {result : Text × Dict Text PolicyState}
    (h : validateDevice device = some result) :
    result.1 = device.1 ∧ ∃ interfaces states, device.2.get? "interfaces" = some (.object interfaces) ∧
      interfaces.mapM validateEntry = some states ∧ result.2 = Dict.ofList states := by
  unfold validateDevice at h
  split at h
  · cases h
  split at h
  · next interfaces object =>
    obtain ⟨states, valid, rfl⟩ := Option.map_eq_some_iff.mp h
    exact ⟨rfl, interfaces, states, object, valid, rfl⟩
  · cases h

variable [Digest]

/-- **The state that is looked up** is the one of the last entry that names the interface. -/
theorem stateOf_validate {json : Json} {policy : InterfacePolicy} (h : validate json = some policy)
    {host : Option Text} (known : ¬noHost host = true) (canonical : Text) :
    policy.stateOf (host.getD []) canonical
      = ((deciding canonical (PolicyFile.entries (.document json) host)).bind fun entry =>
          parseState entry.2).getD .unmanaged := by
  unfold validate at h
  split at h
  · next version enabled devices _ _ hasDevices =>
    obtain ⟨-, h⟩ := Option.ite_none_right_eq_some.mp h
    obtain ⟨validated, valid, rfl⟩ := Option.map_eq_some_iff.mp h
    have related := List.Forall₂.find?_rel (p := fun device => device.1 = deviceKey (host.getD []))
      (q := fun device => device.1 = deviceKey (host.getD [])) (List.rel_reverse (List.forall₂_of_mapM valid))
      fun device result valid => by rw [(validateDevice_eq_some valid).1]
    rw [stateOf, PolicyFile.entries, if_neg known, hasDevices]
    dsimp only
    rw [Dict.get?_ofList, Dict.get?_ofList]
    generalize (devices.reverse.find? fun device => device.1 = deviceKey (host.getD [])) = found at related ⊢
    generalize (validated.reverse.find? fun device => device.1 = deviceKey (host.getD [])) = stored at related ⊢
    cases related with
    | none => rfl
    | @some device result valid =>
      obtain ⟨-, interfaces, states, object, valid, same⟩ := validateDevice_eq_some valid
      simp only [Option.map_some, Option.getD_some, Option.bind_some, object, same]
      rw [get?_validated valid]
  · cases h

end InterfacePolicy

namespace PolicyFile

variable [Digest] {file file' : PolicyFile} {host : Option Text} {interface canonical : Text}

/-- `assert_operable`, under a policy file. -/
def assertOperable (file : PolicyFile) (host : Option Text) (interface : Text) : Except Exn Text :=
  match assertInterfaceWritable interface with
  | .error exc => .error exc
  | .ok canonical =>
    if noHost host then
      .error (.commandNotAllowed "No configured device policy can authorize this interface.")
    else match file.load with
      | none => .error (.commandNotAllowed
          ("The local interface policy is invalid; " ++ "all interfaces are read-only.".toList))
      | some data =>
        match data.stateOf (host.getD []) canonical with
        | .isProtected => .error (.switchOps .protectedInterface
            ("Interface " ++ canonical ++ " is protected and cannot be modified."))
        | .unmanaged => .error (.commandNotAllowed
            ("Interface " ++ canonical ++ " is unmanaged and cannot be modified."))
        | .operable => .ok canonical

theorem assertOperable_underPolicy (host : Option Text) (interface : Text) {log : Log} :
    Meets (underPolicy file) (InterfacePolicyStore.assertOperable host interface) log
      fun r log' => log' = log ∧ r = file.assertOperable host interface := by
  unfold InterfacePolicyStore.assertOperable PolicyFile.assertOperable
  cases assertInterfaceWritable interface with
  | error exc => exact ⟨rfl, rfl⟩
  | ok canonical =>
    by_cases missing : noHost host = true
    · simp only [missing]
      exact ⟨rfl, rfl⟩
    simp only [missing]
    refine locked_underPolicy (meets_quietly_bind.mpr ?_)
    refine readPolicy_underPolicy.mono fun data log' loaded => ?_
    obtain ⟨rfl, rfl⟩ := loaded
    cases file.load with
    | none => exact ⟨rfl, rfl⟩
    | some data =>
      dsimp only
      cases data.stateOf (host.getD []) canonical <;> exact ⟨rfl, rfl⟩

/-! ## What the state depends on -/

theorem load_stateOf {data : InterfacePolicy} (loaded : file.load = some data) (known : ¬noHost host = true) :
    data.stateOf (host.getD []) canonical = file.recorded host canonical := by
  rw [recorded, loaded]
  cases file with
  | absent =>
    obtain rfl := Option.some.inj loaded
    show _ = (Option.bind (InterfacePolicy.deciding canonical (if noHost host then [] else [])) _).getD _
    rw [ite_self]
    rfl
  | unreadable => cases loaded
  | document json => exact InterfacePolicy.stateOf_validate loaded known canonical

theorem stateFor_eq (known : ¬noHost host = true) :
    file.stateFor host interface = (normalizeInterface interface).map (file.recorded host) := by
  rw [stateFor, if_neg known]
  congr 1
  funext canonical
  cases loaded : file.load with
  | none => rw [recorded, loaded]
  | some data => exact load_stateOf loaded known

theorem recorded_of_not_valid (invalid : ¬file.Valid) : file.recorded host canonical = .unmanaged := by
  rw [← load_isSome_iff, Option.not_isSome_iff_eq_none] at invalid
  rw [recorded, invalid]

theorem recorded_of_valid (valid : file.Valid) : file.recorded host canonical =
    ((InterfacePolicy.deciding canonical (file.entries host)).bind fun entry =>
      InterfacePolicy.parseState entry.2).getD .unmanaged := by
  obtain ⟨data, loaded⟩ := Option.isSome_iff_exists.mp (load_isSome_iff.mpr valid)
  rw [recorded, loaded]

/-- What may be changed is `OPERABLE`. -/
theorem stateFor_of_assertOperable (operable : file.assertOperable host interface = .ok canonical) :
    file.stateFor host interface = .ok .operable := by
  unfold assertOperable at operable
  cases writable : assertInterfaceWritable interface with
  | error exc => rw [writable] at operable; cases operable
  | ok name =>
    rw [writable] at operable
    dsimp only at operable
    by_cases missing : noHost host = true
    · rw [if_pos missing] at operable
      cases operable
    rw [if_neg missing] at operable
    rw [stateFor, if_neg missing, (assertInterfaceWritable_ok_iff.mp writable).1]
    cases loaded : file.load with
    | none => rw [loaded] at operable; cases operable
    | some data =>
      rw [loaded] at operable
      dsimp only [Except.map] at operable ⊢
      cases state : data.stateOf (host.getD []) name with
      | operable => rfl
      | isProtected => rw [state] at operable; cases operable
      | unmanaged => rw [state] at operable; cases operable

/-- The outcome depends on the canonical name, on whether the file loads, and on the state looked up. -/
theorem outcome_congr {interface' : Text} (valid : file'.Valid ↔ file.Valid)
    (spelled : normalizeInterface interface' = normalizeInterface interface)
    (same : ∀ canonical, normalizeInterface interface = .ok canonical →
      file'.recorded host canonical = file.recorded host canonical) :
    file'.stateFor host interface' = file.stateFor host interface ∧
      file'.assertOperable host interface' = file.assertOperable host interface := by
  have writes : assertInterfaceWritable interface' = assertInterfaceWritable interface := by
    rw [assertInterfaceWritable, assertInterfaceWritable, spelled]
  by_cases missing : noHost host = true
  · rw [stateFor, stateFor, if_pos missing, if_pos missing, assertOperable, assertOperable, writes]
    cases assertInterfaceWritable interface with
    | error exc => exact ⟨rfl, rfl⟩
    | ok canonical => simp only [if_pos missing, and_self]
  constructor
  · rw [stateFor_eq missing, stateFor_eq missing, spelled]
    cases named : normalizeInterface interface with
    | error exc => rfl
    | ok canonical => exact congrArg Except.ok (same canonical named)
  · rw [assertOperable, assertOperable, writes]
    cases writable : assertInterfaceWritable interface with
    | error exc => rfl
    | ok canonical =>
      simp only [if_neg missing]
      have named := (assertInterfaceWritable_ok_iff.mp writable).1
      rw [← load_isSome_iff, ← load_isSome_iff] at valid
      cases loaded : file.load with
      | none =>
        have loaded' : file'.load = none := by
          rw [← Option.not_isSome_iff_eq_none, valid, loaded]
          simp
        rw [loaded']
      | some data =>
        obtain ⟨data', loaded'⟩ := Option.isSome_iff_exists.mp (valid.mpr (by rw [loaded]; rfl))
        rw [loaded']
        dsimp only
        rw [load_stateOf loaded missing, load_stateOf loaded' missing, same canonical named]

/-! ## Other orders and spellings -/

/-- The same state for the same interface, in whatever spelling. -/
def SameEntry (e e' : Text × Json) : Prop := normalizeInterface e'.1 = normalizeInterface e.1 ∧ e'.2 = e.2

/-- The same entries of a device, in any order. -/
def SameDevice (d d' : Text × Json) : Prop :=
  d'.1 = d.1 ∧ ∃ interfaces interfaces', d.2.get? "interfaces" = some (.object interfaces) ∧
    d'.2.get? "interfaces" = some (.object interfaces') ∧ List.Reordered SameEntry interfaces interfaces'

/-- The same file, up to the order of the entries of each device and up to their spelling. -/
inductive Rearranged : PolicyFile → PolicyFile → Prop
  | same (file : PolicyFile) : Rearranged file file
  | document {json json' : Json} {devices devices' : List (Text × Json)}
      (version : json'.get? "schemaVersion" = json.get? "schemaVersion")
      (enabled : json'.get? "controlledWritesEnabled" = json.get? "controlledWritesEnabled")
      (object : json.get? "devices" = some (.object devices))
      (object' : json'.get? "devices" = some (.object devices'))
      (rearranged : List.Forall₂ SameDevice devices devices') :
      Rearranged (.document json) (.document json')

omit [Digest] in
theorem validEntry_congr {e e' : Text × Json} (h : SameEntry e e') :
    InterfacePolicy.ValidEntry e ↔ InterfacePolicy.ValidEntry e' := by
  rw [InterfacePolicy.ValidEntry, InterfacePolicy.ValidEntry, h.1, h.2]

omit [Digest] in
theorem validDevice_congr {d d' : Text × Json} (h : SameDevice d d') :
    InterfacePolicy.ValidDevice d ↔ InterfacePolicy.ValidDevice d' := by
  obtain ⟨key, interfaces, interfaces', object, object', rearranged⟩ := h
  simp only [InterfacePolicy.ValidDevice, key, object, object', Option.some.injEq, Json.object.injEq,
    exists_eq_left']
  rw [rearranged.forall_iff fun e e' => validEntry_congr]

omit [Digest] in
theorem Rearranged.valid_iff (h : file.Rearranged file') : file'.Valid ↔ file.Valid := by
  cases h with
  | same => rfl
  | @document json json' devices devices' version enabled object object' rearranged =>
    have devicesValid := (List.Reordered.of_forall₂ rearranged).forall_iff fun d d' => validDevice_congr
    constructor
    · intro valid
      obtain ⟨others, object'', valid'⟩ := valid.devices
      rw [object', Option.some.injEq, Json.object.injEq] at object''
      exact ⟨version ▸ valid.version, enabled ▸ valid.enabled, devices, object,
        devicesValid.mpr (object'' ▸ valid')⟩
    · intro valid
      obtain ⟨others, object'', valid'⟩ := valid.devices
      rw [object, Option.some.injEq, Json.object.injEq] at object''
      exact ⟨version ▸ valid.version, enabled ▸ valid.enabled, devices', object',
        devicesValid.mp (object'' ▸ valid')⟩

theorem Rearranged.entries (h : file.Rearranged file') (host : Option Text) :
    List.Reordered SameEntry (file.entries host) (file'.entries host) := by
  have same (l : List (Text × Json)) : List.Reordered SameEntry l l :=
    .of_forall₂ (List.forall₂_same.mpr fun _ _ => ⟨rfl, rfl⟩)
  cases h with
  | same => exact same _
  | @document json json' devices devices' version enabled object object' rearranged =>
    rw [PolicyFile.entries, PolicyFile.entries]
    split
    · exact same _
    rw [object, object']
    dsimp only
    have related := List.Forall₂.find?_rel (p := fun device => device.1 = deviceKey (host.getD []))
      (q := fun device => device.1 = deviceKey (host.getD [])) (List.rel_reverse rearranged)
      fun d d' alike => by rw [alike.1]
    rw [Dict.get?_ofList, Dict.get?_ofList]
    generalize (devices.reverse.find? fun device => device.1 = deviceKey (host.getD [])) = found at related ⊢
    generalize (devices'.reverse.find? fun device => device.1 = deviceKey (host.getD [])) = found' at related ⊢
    cases related with
    | none => exact same _
    | some alike =>
      obtain ⟨-, interfaces, interfaces', object, object', rearranged⟩ := alike
      simp only [Option.map_some, Option.bind_some, object, object']
      exact rearranged

/-! ## Failing closed -/

/-- A file that is malformed, or says anything but `OPERABLE` about an interface, allows no change of it. -/
def FailsClosed (file : PolicyFile) (host : Option Text) (interface : Text) : Prop :=
  (¬file.Valid ∨ ∃ canonical, normalizeInterface interface = .ok canonical ∧
    ∃ entry ∈ file.entries host, InterfacePolicy.names canonical entry = true ∧
      InterfacePolicy.parseState entry.2 ≠ some .operable) →
  file.stateFor host interface ≠ .ok .operable ∧ ∀ canonical, file.assertOperable host interface ≠ .ok canonical

/-- The entries of one interface have one state. -/
def Agrees (file : PolicyFile) (host : Option Text) (interface : Text) : Prop :=
  ∀ canonical, normalizeInterface interface = .ok canonical →
    ∀ entry ∈ file.entries host, InterfacePolicy.names canonical entry = true →
    ∀ entry' ∈ file.entries host, InterfacePolicy.names canonical entry' = true →
      InterfacePolicy.parseState entry'.2 = InterfacePolicy.parseState entry.2

omit [Digest] in
theorem names_congr {e e' : Text × Json} (h : SameEntry e e') :
    InterfacePolicy.names canonical e' = InterfacePolicy.names canonical e := by
  rw [InterfacePolicy.names, InterfacePolicy.names, h.1]

/-- Whichever entry decides, its state is that of every entry. -/
theorem recorded_of_agrees (agrees : file.Agrees host interface) (h : file.Rearranged file')
    (named : normalizeInterface interface = .ok canonical) (valid : file.Valid) {entry : Text × Json}
    (here : entry ∈ file.entries host) (names : InterfacePolicy.names canonical entry = true) :
    file'.recorded host canonical = (InterfacePolicy.parseState entry.2).getD .unmanaged := by
  have rearranged := h.entries host
  obtain ⟨entry', here', same⟩ := rearranged.exists_of_mem here
  have names' : InterfacePolicy.names canonical entry' = true := (names_congr same).trans names
  obtain ⟨decides, found⟩ := Option.isSome_iff_exists.mp
    (List.find?_isSome.mpr ⟨entry', List.mem_reverse.mpr here', names'⟩)
  obtain ⟨other, there, alike⟩ := rearranged.symm.exists_of_mem
    (List.mem_reverse.mp (List.mem_of_find?_eq_some found))
  have known : InterfacePolicy.names canonical other = true :=
    (names_congr alike).symm.trans (List.find?_some found)
  rw [recorded_of_valid (h.valid_iff.mpr valid), InterfacePolicy.deciding, found, Option.bind_some, alike.2,
    agrees canonical named entry here names other there known]

/-- What no entry names is unmanaged. -/
theorem recorded_of_not_named (h : file.Rearranged file')
    (unnamed : ∀ entry ∈ file.entries host, ¬InterfacePolicy.names canonical entry = true) :
    file'.recorded host canonical = .unmanaged := by
  by_cases valid : file'.Valid
  · have nowhere : InterfacePolicy.deciding canonical (file'.entries host) = none := by
      rw [InterfacePolicy.deciding, List.find?_eq_none]
      intro entry here
      obtain ⟨other, there, same⟩ := (h.entries host).symm.exists_of_mem (List.mem_reverse.mp here)
      rw [names_congr same]
      exact unnamed other there
    rw [recorded_of_valid valid, nowhere]
    rfl
  · exact recorded_of_not_valid valid

/-- The entries of a file that loads are valid. -/
theorem validEntry_of_mem (valid : file.Valid) {entry : Text × Json} (here : entry ∈ file.entries host) :
    InterfacePolicy.ValidEntry entry := by
  unfold entries at here
  split at here
  · cases here
  split at here
  · next json =>
    split at here
    · next devices object =>
      split at here
      · next interfaces listed =>
        obtain ⟨devices', object', devicesValid⟩ := valid.devices
        obtain ⟨device, found, listed⟩ := Option.bind_eq_some_iff.mp listed
        rw [object, Option.some.injEq, Json.object.injEq] at object'
        obtain ⟨-, interfaces', listed', entriesValid⟩ :=
          devicesValid _ (object' ▸ Dict.mem_ofList (Dict.mem_of_get? found))
        rw [listed, Option.some.injEq, Json.object.injEq] at listed'
        exact entriesValid entry (listed' ▸ here)
      · cases here
    · cases here
  · cases here

/-- Any entry may be the last one. -/
theorem exists_rearranged (valid : file.Valid) {entry : Text × Json} (here : entry ∈ file.entries host) :
    ∃ file', file.Rearranged file' ∧ (file'.entries host).getLast? = some entry := by
  have known : ¬noHost host = true := fun missing => by
    rw [entries_eq_nil missing] at here
    cases here
  cases file with
  | absent =>
    have none : entries .absent host = [] := ite_self _
    rw [none] at here
    cases here
  | unreadable => cases valid
  | document json =>
    obtain ⟨version, hasVersion, -⟩ := valid.version
    obtain ⟨enabled, hasEnabled⟩ := valid.enabled
    obtain ⟨devices, object, devicesValid⟩ := valid.devices
    rw [entries, if_neg known, object] at here
    dsimp only at here
    rw [Dict.get?_ofList] at here
    cases found : devices.reverse.find? fun device => device.1 = deviceKey (host.getD []) with
    | none => rw [found] at here; cases here
    | some device =>
      rw [found] at here
      obtain ⟨key, later, earlier, split, others⟩ := List.find?_eq_some_iff_append.mp found
      have listed : devices = earlier.reverse ++ device :: later.reverse := by
        rw [← List.reverse_reverse devices, split]
        simp
      have deviceValid := devicesValid device (by rw [listed]; simp)
      obtain ⟨-, interfaces, object', -⟩ := deviceValid
      simp only [Option.map_some, Option.bind_some, object'] at here
      obtain ⟨first, last, rfl⟩ := List.append_of_mem here
      -- the entry is moved to the end
      let moved : Json := .object [("interfaces", .object (first ++ last ++ [entry]))]
      let devices' := earlier.reverse ++ (device.1, moved) :: later.reverse
      refine ⟨.document (.object [("schemaVersion", version), ("controlledWritesEnabled", .bool enabled),
        ("devices", .object devices')]), .document hasVersion.symm hasEnabled.symm object rfl ?_, ?_⟩
      · have same : ∀ d ∈ devices, SameDevice d d := by
          intro d there
          obtain ⟨-, interfaces, object, -⟩ := devicesValid d there
          exact ⟨rfl, interfaces, interfaces, object, object,
            .of_forall₂ (List.forall₂_same.mpr fun _ _ => ⟨rfl, rfl⟩)⟩
        rw [listed] at same ⊢
        refine List.rel_append (List.forall₂_same.mpr fun d there => same d (by simp [there])) (.cons ?_
          (List.forall₂_same.mpr fun d there => same d (by simp [there])))
        refine ⟨rfl, _, _, object', rfl, first ++ last ++ [entry], ?_,
          List.forall₂_same.mpr fun _ _ => ⟨rfl, rfl⟩⟩
        rw [List.append_assoc]
        exact (List.perm_append_singleton entry last).symm.append_left first
      · have found' : devices'.reverse.find? (fun device => device.1 = deviceKey (host.getD []))
            = some (device.1, moved) := by
          rw [List.find?_eq_some_iff_append]
          exact ⟨key, later, earlier, by simp [devices'], others⟩
        have looked : PolicyFile.entries (.document (.object [("schemaVersion", version),
            ("controlledWritesEnabled", .bool enabled), ("devices", .object devices')])) host
            = first ++ last ++ [entry] := by
          have object : Json.get? (.object [("schemaVersion", version), ("controlledWritesEnabled", .bool enabled),
            ("devices", .object devices')]) "devices" = some (.object devices') := rfl
          rw [PolicyFile.entries, if_neg known, object]
          dsimp only
          rw [Dict.get?_ofList, found']
          rfl
        rw [looked, List.getLast?_concat]

/-- **Failing closed**: whatever the order and the spelling of the entries, the outcome is closed unless all
of them say `OPERABLE`, and is the same; just when the file is malformed or its entries agree. -/
theorem failsClosed_iff : (∀ file', file.Rearranged file' → file'.FailsClosed host interface ∧
      ∀ interface', normalizeInterface interface' = normalizeInterface interface →
        file'.stateFor host interface' = file.stateFor host interface ∧
        file'.assertOperable host interface' = file.assertOperable host interface) ↔
    (file.Valid → file.Agrees host interface) := by
  constructor
  · intro closed valid canonical named entry here names entry' here' names'
    have known : ¬noHost host = true := fun missing => by
      rw [entries_eq_nil missing] at here
      cases here
    -- each of the two entries can be the one that decides
    have decides (e : Text × Json) (there : e ∈ file.entries host)
        (known' : InterfacePolicy.names canonical e = true) :
        file.recorded host canonical = (InterfacePolicy.parseState e.2).getD .unmanaged := by
      obtain ⟨file', rearranged, last⟩ := exists_rearranged valid there
      have same := ((closed file' rearranged).2 interface rfl).1
      rw [stateFor_eq known, stateFor_eq known, named] at same
      have decided : InterfacePolicy.deciding canonical (file'.entries host) = some e := by
        obtain ⟨rest, eq⟩ := List.getLast?_eq_some_iff.mp last
        rw [InterfacePolicy.deciding, eq, List.reverse_concat, List.find?_cons_of_pos known']
      have same : file'.recorded host canonical = file.recorded host canonical := Except.ok.inj same
      rw [← same, recorded_of_valid (rearranged.valid_iff.mpr valid), decided, Option.bind_some]
    obtain ⟨_, state, -, parsed, -⟩ := validEntry_of_mem valid here
    obtain ⟨_, state', -, parsed', -⟩ := validEntry_of_mem valid here'
    have same := (decides entry here names).symm.trans (decides entry' here' names')
    rw [parsed, parsed', Option.getD_some, Option.getD_some] at same
    rw [parsed, parsed', same]
  · intro agrees file' rearranged
    refine ⟨fun bad => ?_, fun interface' spelled => ?_⟩
    · have closed : file'.stateFor host interface ≠ .ok .operable := by
        by_cases missing : noHost host = true
        · rw [stateFor, if_pos missing]
          simp
        rw [stateFor_eq missing]
        cases named : normalizeInterface interface with
        | error exc => simp [Except.map]
        | ok canonical =>
          suffices file'.recorded host canonical ≠ .operable by simpa [Except.map] using this
          by_cases valid : file'.Valid
          · obtain invalid | ⟨name, spelled, entry, here, names, other⟩ := bad
            · exact absurd valid invalid
            obtain rfl := Except.ok.inj (named.symm.trans spelled)
            obtain ⟨entry', here', same⟩ := (rearranged.entries host).symm.exists_of_mem here
            have valid := rearranged.valid_iff.mp valid
            rw [recorded_of_agrees (agrees valid) rearranged named valid here' ((names_congr same).symm.trans names),
              ← same.2]
            cases parsed : InterfacePolicy.parseState entry.2 with
            | none => simp
            | some state => exact fun operable => other (by rw [parsed, ← operable]; rfl)
          · rw [recorded_of_not_valid valid]
            simp
      exact ⟨closed, fun canonical operable => closed (stateFor_of_assertOperable operable)⟩
    · refine outcome_congr rearranged.valid_iff spelled fun canonical named => ?_
      by_cases valid : file.Valid
      · by_cases some : ∃ entry ∈ file.entries host, InterfacePolicy.names canonical entry = true
        · obtain ⟨entry, here, names⟩ := some
          rw [recorded_of_agrees (agrees valid) rearranged named valid here names,
            recorded_of_agrees (agrees valid) (.same file) named valid here names]
        · push Not at some
          rw [recorded_of_not_named rearranged some, recorded_of_not_named (.same file) some]
      · rw [recorded_of_not_valid valid, recorded_of_not_valid (mt rearranged.valid_iff.mp valid)]

/-- A port that is protected under one spelling, and operable under another. -/
def aliasedEntries : List (Text × Json) :=
  [("Gi1/0/6", .string "PROTECTED"), ("GigabitEthernet1/0/6", .string "OPERABLE")]

def aliasedFile : PolicyFile := .document (.object [("schemaVersion", .number 1),
  ("controlledWritesEnabled", .bool true),
  ("devices", .object [(@deviceKey sampleDigest sampleHost, .object [("interfaces", .object aliasedEntries)])])])

omit [Digest] in
/-- The later entry has the port changed. -/
theorem not_failsClosed_aliases : ¬∀ (file : PolicyFile) (host : Option Text) (interface : Text),
    @FailsClosed sampleDigest file host interface := by
  intro closed
  have operable : @stateFor sampleDigest aliasedFile (some sampleHost) "gi1/0/6" = .ok .operable := by
    decide +kernel
  have listed : @entries sampleDigest aliasedFile (some sampleHost) = aliasedEntries := by rfl
  refine (closed aliasedFile (some sampleHost) "gi1/0/6" (.inr ⟨"GigabitEthernet1/0/6", by decide +kernel, ?_⟩)).1
    operable
  rw [listed]
  exact ⟨_, List.mem_cons_self, by decide +kernel, by decide +kernel⟩

end PolicyFile

end SwitchOps
