import SwitchOps.Guards
import SwitchOps.InterfaceNames

/-!
# The interface policy store over time

`InterfacePolicyStore` keeps no policy in memory: every call loads the file, changes what it
loaded and writes all of it back. What is loaded is always well formed, what is well formed is
loaded back as it was written, and so the file follows an abstract policy call by call.

Replacing the file is atomic: a write either replaces the document or raises and leaves it alone.
-/

namespace SwitchOps

open Effects Effects.Program

/-! ## What loads, and what is loaded back -/

namespace InterfacePolicy

/-- What `_load_unlocked` has checked of a policy it returns. -/
structure WellFormed (policy : InterfacePolicy) : Prop where
  devices_nodup : (Dict.keys policy.devices).Nodup
  deviceKey : ∀ device ∈ policy.devices, isDeviceKey device.1 = true
  names_nodup : ∀ device ∈ policy.devices, (Dict.keys device.2).Nodup
  canonical : ∀ device ∈ policy.devices, ∀ entry ∈ device.2,
    normalizeInterface entry.1 = .ok entry.1
  physical : ∀ device ∈ policy.devices, ∀ entry ∈ device.2, entry.2 = .operable →
    isPhysicalInterface entry.1 = .ok true

theorem parseState_text (state : PolicyState) : parseState (.string state.text) = some state := by
  cases state <;> rfl

/-- An entry that was accepted is under a canonical name, and operable only if physical. -/
theorem validateEntry_some {entry : Text × Json} {result : Text × PolicyState}
    (h : validateEntry entry = some result) :
    normalizeInterface result.1 = .ok result.1 ∧
      (result.2 = .operable → isPhysicalInterface result.1 = .ok true) := by
  unfold validateEntry at h
  split at h
  · next canonical state hname _ =>
    split at h
    · cases h
    · next hoperable =>
      cases h
      refine ⟨normalizeInterface_idem hname, fun hstate => ?_⟩
      by_contra hphysical
      exact hoperable ⟨hstate, hphysical⟩
  · cases h

theorem validateEntry_written {entry : Text × PolicyState}
    (hname : normalizeInterface entry.1 = .ok entry.1)
    (hphysical : entry.2 = .operable → isPhysicalInterface entry.1 = .ok true) :
    validateEntry (entry.1, .string entry.2.text) = some entry := by
  have hoperable : ¬(entry.2 = .operable ∧ isPhysicalInterface entry.1 ≠ .ok true) :=
    fun h => h.2 (hphysical h.1)
  simp only [validateEntry, hname, parseState_text]
  rw [if_neg hoperable]

theorem validateDevice_some {entry : Text × Json} {device : Text × Dict Text PolicyState}
    (h : validateDevice entry = some device) :
    isDeviceKey device.1 = true ∧ (Dict.keys device.2).Nodup ∧
      ∀ entry ∈ device.2, normalizeInterface entry.1 = .ok entry.1 ∧
        (entry.2 = .operable → isPhysicalInterface entry.1 = .ok true) := by
  unfold validateDevice at h
  split at h
  · cases h
  next hkey =>
  split at h
  · next interfaces _ =>
    obtain ⟨entries, hentries, rfl⟩ := Option.map_eq_some_iff.mp h
    refine ⟨by simpa using hkey, Dict.nodup_keys_ofList _, fun result hmem => ?_⟩
    obtain ⟨_, _, hvalid⟩ := List.exists_of_mem_mapM hentries (Dict.mem_ofList hmem)
    exact validateEntry_some hvalid
  · cases h

/-- **Only well-formed policies are loaded.** -/
theorem wellFormed_of_validate {raw : Json} {policy : InterfacePolicy}
    (h : validate raw = some policy) : policy.WellFormed := by
  unfold validate at h
  split at h
  · obtain ⟨-, h⟩ := Option.ite_none_right_eq_some.mp h
    obtain ⟨validated, hvalidated, rfl⟩ := Option.map_eq_some_iff.mp h
    have hdevice : ∀ device ∈ Dict.ofList validated, ∃ entry, validateDevice entry = some device := by
      intro device hmem
      obtain ⟨entry, _, hvalid⟩ := List.exists_of_mem_mapM hvalidated (Dict.mem_ofList hmem)
      exact ⟨entry, hvalid⟩
    constructor
    · exact Dict.nodup_keys_ofList _
    · intro device hmem
      obtain ⟨_, hvalid⟩ := hdevice device hmem
      exact (validateDevice_some hvalid).1
    · intro device hmem
      obtain ⟨_, hvalid⟩ := hdevice device hmem
      exact (validateDevice_some hvalid).2.1
    · intro device hmem entry hentry
      obtain ⟨_, hvalid⟩ := hdevice device hmem
      exact ((validateDevice_some hvalid).2.2 entry hentry).1
    · intro device hmem entry hentry
      obtain ⟨_, hvalid⟩ := hdevice device hmem
      exact ((validateDevice_some hvalid).2.2 entry hentry).2
  · cases h

/-- **Well-formed policies are loaded back** as they were written. -/
theorem WellFormed.validate_toJson {policy : InterfacePolicy} (h : policy.WellFormed) :
    validate policy.toJson = some policy := by
  have hentries : ∀ device ∈ policy.devices,
      (device.2.map fun entry => (entry.1, Json.string entry.2.text)).mapM validateEntry
        = some device.2 := by
    intro device hdevice
    apply List.mapM_map_of_inverse
    intro entry hentry
    exact validateEntry_written (h.canonical device hdevice entry hentry)
      (h.physical device hdevice entry hentry)
  have hdevices : (policy.devices.map fun device => (device.1, Json.object
      [("interfaces", .object (device.2.map fun entry => (entry.1, .string entry.2.text)))])).mapM
        validateDevice = some policy.devices := by
    apply List.mapM_map_of_inverse
    intro device hdevice
    have hget : Json.get? (.object [("interfaces", .object
        (device.2.map fun entry => (entry.1, .string entry.2.text)))]) "interfaces"
        = some (.object (device.2.map fun entry => (entry.1, .string entry.2.text))) := rfl
    rw [validateDevice, if_neg (by simp [h.deviceKey device hdevice]), hget]
    simp only [hentries device hdevice, Option.map_some,
      Dict.ofList_eq_self (h.names_nodup device hdevice)]
  have hversion : policy.toJson.get? "schemaVersion" = some (.number 1) := rfl
  have henabled : policy.toJson.get? "controlledWritesEnabled"
      = some (.bool policy.controlledWritesEnabled) := rfl
  have hpart : policy.toJson.get? "devices" = some (.object (policy.devices.map fun device =>
      (device.1, Json.object
        [("interfaces", .object (device.2.map fun entry => (entry.1, .string entry.2.text)))]))) := rfl
  simp only [validate, hversion, henabled, hpart, hdevices, Option.map_some,
    Dict.ofList_eq_self h.devices_nodup]
  exact if_pos (.inr rfl)

/-- The recorded interfaces of a device. -/
theorem WellFormed.recorded [Digest] {policy : InterfacePolicy} (h : policy.WellFormed)
    (host : Text) :
    (Dict.keys ((Dict.get? policy.devices (SwitchOps.deviceKey host)).getD [])).Nodup ∧
      ∀ entry ∈ (Dict.get? policy.devices (SwitchOps.deviceKey host)).getD [],
        normalizeInterface entry.1 = .ok entry.1 ∧
          (entry.2 = .operable → isPhysicalInterface entry.1 = .ok true) := by
  cases hget : Dict.get? policy.devices (SwitchOps.deviceKey host) with
  | none => exact ⟨List.nodup_nil, fun entry hentry => by cases hentry⟩
  | some interfaces =>
    have hmem := Dict.mem_of_get? hget
    exact ⟨h.names_nodup _ hmem, fun entry hentry =>
      ⟨h.canonical _ hmem entry hentry, h.physical _ hmem entry hentry⟩⟩

theorem WellFormed.updateDevice [Digest] {policy : InterfacePolicy} (h : policy.WellFormed)
    (host : Text) {f : Dict Text PolicyState → Dict Text PolicyState}
    (hnodup : ∀ d, (Dict.keys d).Nodup → (Dict.keys (f d)).Nodup)
    (hentries : ∀ d, ∀ entry ∈ f d, entry ∈ d ∨ normalizeInterface entry.1 = .ok entry.1 ∧
      (entry.2 = .operable → isPhysicalInterface entry.1 = .ok true)) :
    (policy.updateDevice host f).WellFormed := by
  obtain ⟨hrecorded, hvalid⟩ := h.recorded host
  have hnew : ∀ entry ∈ f ((Dict.get? policy.devices (SwitchOps.deviceKey host)).getD []),
      normalizeInterface entry.1 = .ok entry.1 ∧
        (entry.2 = .operable → isPhysicalInterface entry.1 = .ok true) := by
    intro entry hentry
    rcases hentries _ entry hentry with hold | hnew
    · exact hvalid entry hold
    · exact hnew
  constructor
  · exact Dict.nodup_keys_set h.devices_nodup _ _
  · intro device hdevice
    rcases Dict.mem_set hdevice with rfl | hdevice
    · exact Digest.isHexDigest_sha256 _
    · exact h.deviceKey device hdevice
  · intro device hdevice
    rcases Dict.mem_set hdevice with rfl | hdevice
    · exact hnodup _ hrecorded
    · exact h.names_nodup device hdevice
  · intro device hdevice entry hentry
    rcases Dict.mem_set hdevice with rfl | hdevice
    · exact (hnew entry hentry).1
    · exact h.canonical device hdevice entry hentry
  · intro device hdevice entry hentry
    rcases Dict.mem_set hdevice with rfl | hdevice
    · exact (hnew entry hentry).2
    · exact h.physical device hdevice entry hentry

theorem WellFormed.set [Digest] {policy : InterfacePolicy} (h : policy.WellFormed) (host : Text)
    {canonical : Text} {state : PolicyState} (hname : normalizeInterface canonical = .ok canonical)
    (hphysical : state = .operable → isPhysicalInterface canonical = .ok true) :
    (policy.updateDevice host fun d => Dict.set d canonical state).WellFormed := by
  refine h.updateDevice host (fun d hd => Dict.nodup_keys_set hd _ _) fun d entry hentry => ?_
  rcases Dict.mem_set hentry with rfl | hold
  · exact .inr ⟨hname, hphysical⟩
  · exact .inl hold

theorem WellFormed.pop [Digest] {policy : InterfacePolicy} (h : policy.WellFormed)
    (host canonical : Text) :
    (policy.updateDevice host fun d => Dict.pop d canonical).WellFormed :=
  h.updateDevice host (fun _ hd => Dict.nodup_keys_pop hd _) fun _ _ hentry =>
    .inl (Dict.mem_pop hentry)

end InterfacePolicy

theorem wellFormed_of_load {file : PolicyFile} {policy : InterfacePolicy}
    (h : file.load = some policy) : policy.WellFormed := by
  cases file with
  | absent =>
    cases h
    constructor <;> simp [InterfacePolicy.empty, Dict.keys]
  | unreadable => cases h
  | document json => exact InterfacePolicy.wellFormed_of_validate h

/-! ## The policy as it is meant

A preference, and for each device key and each canonical name a state. -/

/-- The policy that a file stands for. -/
@[ext]
structure PolicyView where
  controlledWritesEnabled : Bool
  state : Text → Text → PolicyState

namespace PolicyView

/-- Record a state for one interface of one device. -/
def record (view : PolicyView) (device canonical : Text) (state : PolicyState) : PolicyView where
  controlledWritesEnabled := view.controlledWritesEnabled
  state d c := if d = device ∧ c = canonical then state else view.state d c

variable (view : PolicyView) (device canonical : Text)

@[simp] theorem state_record_self (state : PolicyState) :
    (view.record device canonical state).state device canonical = state := by
  simp [record]

/-- Recording the state that is already there changes nothing. -/
theorem record_self {state : PolicyState} (h : view.state device canonical = state) :
    view.record device canonical state = view := by
  subst h
  ext d c
  · rfl
  · by_cases hdc : d = device ∧ c = canonical
    · simp [record, hdc]
    · simp [record, hdc]

end PolicyView

namespace InterfacePolicy

/-- What is not recorded is `UNMANAGED`. -/
def view (policy : InterfacePolicy) : PolicyView where
  controlledWritesEnabled := policy.controlledWritesEnabled
  state device canonical :=
    (((Dict.get? policy.devices device).getD []).get? canonical).getD .unmanaged

variable [Digest] (policy : InterfacePolicy)

theorem stateOf_eq_view (host canonical : Text) :
    policy.stateOf host canonical = policy.view.state (deviceKey host) canonical := rfl

/-- A change of the entries of one device that amounts to recording a state. -/
theorem view_updateDevice (host canonical : Text) (state : PolicyState)
    {f : Dict Text PolicyState → Dict Text PolicyState}
    (hself : ∀ d, ((f d).get? canonical).getD .unmanaged = state)
    (hother : ∀ d c, canonical ≠ c → (f d).get? c = d.get? c) :
    (policy.updateDevice host f).view = policy.view.record (deviceKey host) canonical state := by
  ext device c
  · rfl
  · by_cases hdevice : device = deviceKey host
    · subst hdevice
      simp only [view, updateDevice, PolicyView.record, Dict.get?_set_self, Option.getD_some]
      by_cases hc : c = canonical
      · subst hc
        simp [hself]
      · rw [hother _ c (Ne.symm hc)]
        simp [hc]
    · simp [view, updateDevice, PolicyView.record, Dict.get?_set_ne _ (Ne.symm hdevice), hdevice]

theorem view_set (host canonical : Text) (state : PolicyState) :
    (policy.updateDevice host fun d => Dict.set d canonical state).view
      = policy.view.record (deviceKey host) canonical state :=
  view_updateDevice policy host canonical state
    (fun _ => by rw [Dict.get?_set_self, Option.getD_some]) fun _ _ hc => Dict.get?_set_ne state hc

theorem view_pop (host canonical : Text) :
    (policy.updateDevice host fun d => Dict.pop d canonical).view
      = policy.view.record (deviceKey host) canonical .unmanaged :=
  view_updateDevice policy host canonical .unmanaged
    (fun _ => by rw [Dict.get?_pop_self, Option.getD_none]) fun _ _ hc => Dict.get?_pop_ne hc

end InterfacePolicy

/-! ## The calls, and what they mean -/

/-- The calls that change the policy. -/
inductive PolicyCall
  | setState (host interface state : Text)
  | ensureProtected (host interface : Option Text)
  | setControlledWrites (enabled : Bool)

namespace PolicyCall

variable [Digest]

/-- The method a call runs. -/
def run : PolicyCall → Action Unit
  | .setState host interface state => InterfacePolicyStore.setState host interface state
  | .ensureProtected host interface => InterfacePolicyStore.ensureProtected host interface
  | .setControlledWrites enabled => InterfacePolicyStore.setControlledWrites enabled

/-- The interface of a device that a call is about. -/
def addressed : PolicyCall → Option (Text × Text)
  | .setState host interface _ => (normalizeInterface interface).toOption.map (deviceKey host, ·)
  | .ensureProtected host interface =>
    if noHost host || noHost interface then none
    else (normalizeInterface (interface.getD [])).toOption.map (deviceKey (host.getD []), ·)
  | .setControlledWrites _ => none

/-- The state it asks for. -/
def requested : PolicyCall → Option PolicyState
  | .setState _ _ state => InterfacePolicy.parseState (.string state)
  | .ensureProtected _ _ => some .isProtected
  | .setControlledWrites _ => none

/-- What a call that returns has defined. -/
def meaning (call : PolicyCall) (view : PolicyView) : PolicyView :=
  match call with
  | .setControlledWrites enabled => { view with controlledWritesEnabled := enabled }
  | call => match call.addressed, call.requested with
    | some (device, canonical), some state => view.record device canonical state
    | _, _ => view

/-- The policy that a list of calls defines, each with its outcome: a call that raised defines
nothing. -/
def defined (view : PolicyView) (calls : List (PolicyCall × Except Exn Unit)) : PolicyView :=
  calls.foldl (fun view call => if call.2.isOk then call.1.meaning view else view) view

/-- A call leaves alone what it does not address. -/
theorem meaning_state {call : PolicyCall} {view : PolicyView} {device canonical : Text}
    (h : call.addressed ≠ some (device, canonical)) :
    (call.meaning view).state device canonical = view.state device canonical := by
  unfold meaning
  split
  · rfl
  · split
    · next d c state haddressed _ =>
      have hne : ¬(device = d ∧ canonical = c) := by
        rintro ⟨rfl, rfl⟩
        exact h haddressed
      simp [PolicyView.record, hne]
    · rfl

theorem defined_state {calls : List (PolicyCall × Except Exn Unit)} {view : PolicyView}
    {device canonical : Text} (h : ∀ call ∈ calls, call.1.addressed ≠ some (device, canonical)) :
    (defined view calls).state device canonical = view.state device canonical := by
  induction calls generalizing view with
  | nil => rfl
  | cons call calls ih =>
    have hrest := @ih (if call.2.isOk then call.1.meaning view else view)
      fun call' hmem => h call' (List.mem_cons_of_mem _ hmem)
    rw [defined, List.foldl_cons, ← defined, hrest]
    split
    · exact meaning_state (h call List.mem_cons_self)
    · rfl

end PolicyCall

/-! ## One call -/

/-- Runs against the file: what is read is the file, and a write that returns has replaced it. -/
def onFile : Discipline Effect Answer PolicyFile where
  allowed _ _ := True
  answers
    | file, .readPolicy, answer => answer = file
    | _, _, _ => True
  next
    | _, .writePolicy policy, .ok () => .document policy.toJson
    | file, _, _ => file

/-- What a call has done to a file that held `policy`. -/
def Follows [Digest] (call : PolicyCall) (policy : InterfacePolicy) (outcome : Except Exn Unit)
    (file : PolicyFile) : Prop :=
  ∃ policy', file.load = some policy' ∧
    policy'.view = if outcome.isOk then call.meaning policy.view else policy.view

section call

variable {file : PolicyFile} {policy : InterfacePolicy}

theorem loadPolicy_onFile :
    Meets onFile loadPolicy file fun data file' => file' = file ∧ data = file.load := by
  refine ⟨trivial, fun answer hanswer => ⟨rfl, ?_⟩⟩
  rw [show answer = file from hanswer]

theorem locked_onFile {body : Action Unit} {Q : Except Exn Unit → PolicyFile → Prop}
    (h : Meets onFile body.run file Q) : Meets onFile (locked .policy body).run file Q := by
  show Meets onFile (withLock .policy body.run) file Q
  unfold withLock
  rw [meets_bind]
  refine meets_perform.mpr ⟨trivial, fun _ _ => h.bind fun outcome file' houtcome => ?_⟩
  rw [meets_bind]
  exact meets_perform.mpr ⟨trivial, fun _ _ => houtcome⟩

/-- The loaded policy is what the rest of a call works on. -/
theorem load_onFile {body : Option InterfacePolicy → Action Unit}
    {Q : Except Exn Unit → PolicyFile → Prop} (hload : file.load = some policy)
    (h : Meets onFile (body (some policy)).run file Q) :
    Meets onFile (locked .policy (quietly loadPolicy >>= body)).run file Q := by
  apply locked_onFile
  refine meets_quietly_bind.mpr (loadPolicy_onFile.mono fun data file' hdata => ?_)
  obtain ⟨rfl, rfl⟩ := hdata
  rw [hload]
  exact h

/-- A write that returns has replaced the file, one that raises has not. -/
theorem writeUnlocked_onFile {policy' : InterfacePolicy} (hwell : policy'.WellFormed)
    (hload : file.load = some policy) :
    Meets onFile (InterfacePolicyStore.writeUnlocked policy').run file fun outcome file' =>
      ∃ loaded, file'.load = some loaded ∧
        loaded = if outcome.isOk then policy' else policy := by
  refine meets_perform.mpr ⟨trivial, fun answer _ => ?_⟩
  cases answer with
  | ok _ => exact ⟨policy', hwell.validate_toJson, rfl⟩
  | error exc => exact ⟨policy, hload, rfl⟩

variable [Digest]

theorem Follows.raised {call : PolicyCall} (hload : file.load = some policy) (exc : Exn) :
    Follows call policy (.error exc) file := ⟨policy, hload, rfl⟩

/-- A write that ends a call, if what it writes is what the call means. -/
theorem write_onFile {call : PolicyCall} {policy' : InterfacePolicy}
    (hload : file.load = some policy) (hwell : policy'.WellFormed)
    (hview : policy'.view = call.meaning policy.view) :
    Meets onFile (InterfacePolicyStore.writeUnlocked policy').run file (Follows call policy) := by
  refine (writeUnlocked_onFile hwell hload).mono fun outcome file' h => ?_
  obtain ⟨loaded, hloaded, rfl⟩ := h
  refine ⟨_, hloaded, ?_⟩
  cases outcome with
  | ok _ => exact hview
  | error _ => rfl

theorem setControlledWrites_onFile (enabled : Bool) (hload : file.load = some policy) :
    Meets onFile (InterfacePolicyStore.setControlledWrites enabled).run file
      (Follows (.setControlledWrites enabled) policy) := by
  refine load_onFile hload (write_onFile hload ?_ rfl)
  have hwell := wellFormed_of_load hload
  exact ⟨hwell.devices_nodup, hwell.deviceKey, hwell.names_nodup, hwell.canonical, hwell.physical⟩

theorem setState_onFile (host interface state : Text) (hload : file.load = some policy) :
    Meets onFile (InterfacePolicyStore.setState host interface state).run file
      (Follows (.setState host interface state) policy) := by
  have hwell := wellFormed_of_load hload
  unfold InterfacePolicyStore.setState
  dsimp only
  by_cases hhost : host.isEmpty
  · rw [if_pos hhost]
    exact .raised hload _
  rw [if_neg hhost]
  refine meets_raising_bind.mpr ?_
  cases hname : normalizeInterface interface with
  | error exc => exact .raised hload exc
  | ok canonical =>
    show Meets onFile _ file _
    cases hstate : InterfacePolicy.parseState (.string state) with
    | none => exact .raised hload _
    | some parsed =>
      have hidem := normalizeInterface_idem hname
      -- what is written once the state is known to be allowed for this name
      have hwrite (hphysical : parsed = .operable → isPhysicalInterface canonical = .ok true) :
          Meets onFile (InterfacePolicyStore.writeUnlocked (policy.updateDevice host fun interfaces =>
            if parsed = .unmanaged then Dict.pop interfaces canonical
            else Dict.set interfaces canonical parsed)).run file
            (Follows (.setState host interface state) policy) := by
        have hmeaning : (PolicyCall.setState host interface state).meaning policy.view
            = policy.view.record (deviceKey host) canonical parsed := by
          simp [PolicyCall.meaning, PolicyCall.addressed, PolicyCall.requested, hname, hstate,
            Except.toOption]
        by_cases hunmanaged : parsed = .unmanaged
        · subst hunmanaged
          refine write_onFile hload (hwell.pop host canonical) ?_
          rw [hmeaning]
          exact policy.view_pop host canonical
        · simp only [if_neg hunmanaged]
          refine write_onFile hload (hwell.set host hidem hphysical) ?_
          rw [hmeaning]
          exact policy.view_set host canonical parsed
      show Meets onFile (ite _ _ _ : Action Unit).run file _
      by_cases hoperable : parsed = .operable
      · rw [if_pos hoperable]
        refine meets_raising_bind.mpr ?_
        cases hwritable : assertInterfaceWritable canonical with
        | error exc => exact .raised hload exc
        | ok _ =>
          obtain ⟨hcanonical, p, rfl⟩ := assertInterfaceWritable_ok_iff.mp hwritable
          cases hidem.symm.trans hcanonical
          exact load_onFile hload (hwrite fun _ => isPhysicalInterface_text p)
      · rw [if_neg hoperable]
        exact load_onFile hload (hwrite fun h => absurd h hoperable)

theorem ensureProtected_onFile (host interface : Option Text) (hload : file.load = some policy) :
    Meets onFile (InterfacePolicyStore.ensureProtected host interface).run file
      (Follows (.ensureProtected host interface) policy) := by
  have hwell := wellFormed_of_load hload
  unfold InterfacePolicyStore.ensureProtected
  by_cases hmissing : noHost host || noHost interface
  · rw [if_pos hmissing]
    refine ⟨policy, hload, ?_⟩
    simp [PolicyCall.meaning, PolicyCall.addressed, hmissing]
  rw [if_neg hmissing]
  refine meets_raising_bind.mpr ?_
  cases hname : normalizeInterface (interface.getD []) with
  | error exc => exact .raised hload exc
  | ok canonical =>
    have hmeaning : (PolicyCall.ensureProtected host interface).meaning policy.view
        = policy.view.record (deviceKey (host.getD [])) canonical .isProtected := by
      simp [PolicyCall.meaning, PolicyCall.addressed, PolicyCall.requested, hmissing, hname,
        Except.toOption]
    refine load_onFile hload ?_
    dsimp only
    by_cases hprotected : policy.stateOf (host.getD []) canonical = .isProtected
    · -- nothing is written, and nothing would change
      rw [if_pos hprotected]
      refine ⟨policy, hload, ?_⟩
      rw [hmeaning, PolicyView.record_self _ _ _ hprotected]
      rfl
    · rw [if_neg hprotected]
      refine write_onFile hload (hwell.set _ (normalizeInterface_idem hname) fun h => by cases h) ?_
      rw [hmeaning]
      exact policy.view_set _ canonical .isProtected

/-- **One call**: the file loads again, to what the call means if it returned and to what it was
if it raised. -/
theorem call_onFile (call : PolicyCall) (hload : file.load = some policy) :
    Meets onFile call.run.run file (Follows call policy) := by
  cases call with
  | setState host interface state => exact setState_onFile host interface state hload
  | ensureProtected host interface => exact ensureProtected_onFile host interface hload
  | setControlledWrites enabled => exact setControlledWrites_onFile enabled hload

end call

/-! ## Every sequence of calls -/

section history

variable [Digest]

/-- A call ran to its end against the file, and left `file'`. -/
def Performed (file : PolicyFile) (call : PolicyCall) (outcome : Except Exn Unit)
    (file' : PolicyFile) : Prop :=
  ∃ t, Runs call.run.run t outcome ∧ Answered onFile file t ∧ after onFile file t = file'

/-- The calls made on a file one after the other, each with its outcome, and the file left. -/
inductive PolicyHistory : PolicyFile → List (PolicyCall × Except Exn Unit) → PolicyFile → Prop
  | start (file) : PolicyHistory file [] file
  | call {file mid file' calls call outcome} : PolicyHistory file calls mid →
      Performed mid call outcome file' → PolicyHistory file (calls ++ [(call, outcome)]) file'

variable {file file' : PolicyFile} {policy : InterfacePolicy}
  {calls : List (PolicyCall × Except Exn Unit)}

theorem Performed.follows {call : PolicyCall} {outcome : Except Exn Unit}
    (h : Performed file call outcome file') (hload : file.load = some policy) :
    Follows call policy outcome file' := by
  obtain ⟨t, hruns, hanswered, rfl⟩ := h
  exact hruns.meets (call_onFile call hload) hanswered

/-- **Every history**: the file loads, to the policy that the calls define. -/
theorem PolicyHistory.loads (h : PolicyHistory file calls file') (hload : file.load = some policy) :
    ∃ policy', file'.load = some policy' ∧ policy'.view = PolicyCall.defined policy.view calls := by
  induction h with
  | start => exact ⟨policy, hload, rfl⟩
  | call _ hcall ih =>
    obtain ⟨mid, hmid, hview⟩ := ih
    obtain ⟨policy', hload', hview'⟩ := hcall.follows hmid
    refine ⟨policy', hload', ?_⟩
    rw [hview', hview, PolicyCall.defined, PolicyCall.defined, List.foldl_append]
    rfl

omit [Digest] in
/-- Only a physical interface is ever operable. -/
theorem InterfacePolicy.WellFormed.operable (h : policy.WellFormed) {device canonical : Text}
    (hstate : policy.view.state device canonical = .operable) :
    isPhysicalInterface canonical = .ok true := by
  cases hdevice : Dict.get? policy.devices device with
  | none => simp [InterfacePolicy.view, hdevice] at hstate
  | some interfaces =>
    cases hentry : Dict.get? interfaces canonical with
    | none => simp [InterfacePolicy.view, hdevice, hentry] at hstate
    | some state =>
      simp only [InterfacePolicy.view, hdevice, hentry, Option.getD_some] at hstate
      exact h.physical _ (Dict.mem_of_get? hdevice) _ (Dict.mem_of_get? hentry) hstate

/-- A call leaves the policy alone when it raises; when it returns, it leaves alone whatever it
does not address, and an interface that was to be protected is. -/
structure PolicyCall.Keeps (call : PolicyCall) (outcome : Except Exn Unit)
    (view view' : PolicyView) : Prop where
  raised : ∀ exc, outcome = .error exc → view' = view
  untouched : ∀ device canonical, call.addressed ≠ some (device, canonical) →
    view'.state device canonical = view.state device canonical
  isProtected : ∀ host interface canonical, call = .ensureProtected (some host) (some interface) →
    host ≠ [] → interface ≠ [] → normalizeInterface interface = .ok canonical →
    outcome = .ok () ∧ view'.state (deviceKey host) canonical = .isProtected ∨
      ∃ exc, outcome = .error exc

theorem Follows.keeps {call : PolicyCall} {outcome : Except Exn Unit} {policy' : InterfacePolicy}
    (hview : policy'.view = if outcome.isOk then call.meaning policy.view else policy.view) :
    call.Keeps outcome policy.view policy'.view := by
  rw [hview]
  constructor
  · rintro exc rfl
    rfl
  · intro device canonical hother
    split
    · exact PolicyCall.meaning_state hother
    · rfl
  · rintro host interface canonical rfl hhost hinterface hname
    cases outcome with
    | error exc => exact .inr ⟨exc, rfl⟩
    | ok _ =>
      have hmissing : (noHost (some host) || noHost (some interface)) = false := by
        simp [noHost, hhost, hinterface]
      refine .inl ⟨rfl, ?_⟩
      simp [PolicyCall.meaning, PolicyCall.addressed, PolicyCall.requested, hmissing, hname,
        Except.toOption, Except.isOk, Except.toBool]

/-- **The store invariant**: after every sequence of calls on a file that loads, raising ones
included, the file loads to the policy the calls define, marks only physical interfaces operable,
and has for an interface no call addressed what it had at the start; and whatever call is made
then keeps this. -/
theorem policyHistory_invariant (h : PolicyHistory file calls file')
    (hload : file.load = some policy) :
    ∃ policy', file'.load = some policy' ∧
      policy'.view = PolicyCall.defined policy.view calls ∧
      (∀ device canonical, policy'.view.state device canonical = .operable →
        isPhysicalInterface canonical = .ok true) ∧
      (∀ device canonical, (∀ call ∈ calls, call.1.addressed ≠ some (device, canonical)) →
        policy'.view.state device canonical = policy.view.state device canonical) ∧
      ∀ call outcome file'', Performed file' call outcome file'' →
        ∃ policy'', file''.load = some policy'' ∧
          call.Keeps outcome policy'.view policy''.view := by
  obtain ⟨policy', hload', hview⟩ := h.loads hload
  refine ⟨policy', hload', hview, ?_, ?_, ?_⟩
  · intro device canonical hstate
    exact (wellFormed_of_load hload').operable hstate
  · intro device canonical hother
    rw [hview]
    exact PolicyCall.defined_state hother
  · intro call outcome file'' hcall
    obtain ⟨policy'', hload'', hview''⟩ := hcall.follows hload'
    exact ⟨policy'', hload'', Follows.keeps hview''⟩

end history

/-! ### A history -/

/-- An environment that consists of a file that can be written. -/
def PolicyFile.answer : (effect : Effect) → PolicyFile → Answer effect × PolicyFile
  | .readPolicy, file => (file, file)
  | .writePolicy policy, _ => (.ok (), .document policy.toJson)
  | .switchHost, file => (none, file)
  | .run _ _, file | .runRawAction _ _, file => (.error .valueError, file)
  | .auditRecord _, file | .writeBackup _, file | .assuranceContext, file =>
    (.error .valueError, file)
  | .acquire _, file | .release _, file | .writeUnlocked _, file => ((), file)
  | .storeSave _, file | .mark _, file => ((), file)
  | .readUnlocked, file => (false, file)
  | .storeGet _, file => (none, file)
  | .uuid, file => (([] : Text), file)
  | .now, file | .monotonic, file => ((0 : Nat), file)

theorem answered_simulate {α : Type} (p : Proc α) (file : PolicyFile) :
    Answered onFile file (p.simulate PolicyFile.answer file).2 := by
  induction p generalizing file with
  | pure a => trivial
  | op effect k ih =>
    refine ⟨?_, ?_⟩
    · cases effect with
      | readPolicy => rfl
      | _ => trivial
    · have hnext : onFile.next file effect (PolicyFile.answer effect file).1
          = (PolicyFile.answer effect file).2 := by
        cases effect <;> rfl
      rw [hnext]
      exact ih _ _

theorem performed_simulate [Digest] (call : PolicyCall) (file : PolicyFile) :
    Performed file call (call.run.run.simulate PolicyFile.answer file).1
      (after onFile file (call.run.run.simulate PolicyFile.answer file).2) :=
  ⟨_, runs_simulate _ _ _, answered_simulate _ _, rfl⟩

/-- An interface becomes operable, in a file that is still missing. -/
def operableCall : PolicyCall := .setState sampleHost "gi1/0/6" "OPERABLE"

/-- The same for a VLAN interface, which raises. -/
def vlanCall : PolicyCall := .setState sampleHost "vlan1" "OPERABLE"

/-- The file after the first of the two. -/
def operableFile : PolicyFile :=
  after onFile .absent ((@PolicyCall.run sampleDigest operableCall).run.simulate PolicyFile.answer .absent).2

theorem policyHistory_invariant_operableCall :
    ∃ exc policy', operableFile.load = some policy' ∧
      policy'.view = @PolicyCall.defined sampleDigest InterfacePolicy.empty.view
        [(operableCall, .ok ()), (vlanCall, .error exc)] ∧
      policy'.view.state (@deviceKey sampleDigest sampleHost) "GigabitEthernet1/0/6" = .operable := by
  let digest := sampleDigest
  have hfirst : Performed .absent operableCall (.ok ()) operableFile :=
    performed_simulate operableCall .absent
  have hsecond : Performed operableFile vlanCall (.error (.commandNotAllowed
      ("Interface " ++ "Vlan1" ++ " is not a supported physical write target."))) operableFile :=
    performed_simulate vlanCall operableFile
  obtain ⟨policy', hload, hview, -, -, -⟩ := policyHistory_invariant
    (((PolicyHistory.start .absent).call hfirst).call hsecond)
    (show PolicyFile.load .absent = some .empty from rfl)
  refine ⟨_, policy', hload, hview, ?_⟩
  rw [hview]
  rfl

end SwitchOps
