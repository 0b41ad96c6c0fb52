import SwitchOps.Assurance.Verdict

/-!
# Discovery evidence and authority

What a preflight makes of the topology, the reconciliation and the health of its context. Two
preflights that see the same device and the same policy agree on every check that grants authority
(`SameAuthority`), whatever the evidence is; more links or devices can only block more.
-/

namespace SwitchOps

open Effects Effects.Program

/-! ## What the environment says -/

/-- The observations of a snapshot, from the outputs of its six commands. -/
def Reads.observations (reads : Reads) : Option Observations := do
  let interfaces ← (parseInterfaceStatus (← reads.last .showInterfacesStatus)).toOption
  let running ← reads.last .showRunningConfig
  let startup ← reads.last .showStartupConfig
  return {
    interfaces := interfaces
    poe := parsePoe (← reads.last .showPowerInline)
    errors := parseInterfaceErrors (← reads.last .showInterfacesCountersErrors)
    macEntries := parseMacTable (← reads.last .showMacAddressTable)
    running := running, startup := startup }

/-- The state of an interface under a policy file. -/
def PolicyFile.stateFor [Digest] (file : PolicyFile) (host : Option Text) (interface : Text) :
    Except Exn PolicyState :=
  if noHost host then .ok .unmanaged
  else (normalizeInterface interface).map fun canonical => match file.load with
    | none => .unmanaged
    | some data => data.stateOf (host.getD []) canonical

/-- The controlled-write setting of a policy file. -/
def PolicyFile.enabled (file : PolicyFile) : Bool :=
  match file.load with
  | none => false
  | some data => data.controlledWritesEnabled

/-- Runs with their logs, in which the policy file stays `file`. -/
def underPolicy (file : PolicyFile) : Discipline Effect Answer Log where
  allowed _ _ := True
  answers
    | _, .readPolicy, answer => answer = file
    | _, _, _ => True
  next := Log.next

/-- Every time it is read in the run, the policy file is `file`. -/
def PolicyStays (file : PolicyFile) (t : List (Event Effect Answer)) : Prop :=
  ∀ answer : PolicyFile, (⟨.readPolicy, answer⟩ : Event Effect Answer) ∈ t → answer = file

section policy

variable {file : PolicyFile} {log : Log} {t : List (Event Effect Answer)}

theorem PolicyStays.answered (h : PolicyStays file t) : Answered (underPolicy file) log t := by
  induction t generalizing log with
  | nil => trivial
  | cons event t ih =>
    obtain ⟨effect, answer⟩ := event
    refine ⟨?_, ih fun answer' hmem => h answer' (List.mem_cons_of_mem _ hmem)⟩
    cases effect with
    | readPolicy => exact h answer List.mem_cons_self
    | _ => trivial

theorem after_underPolicy : after (underPolicy file) log t = after logged log t := by
  induction t generalizing log with
  | nil => rfl
  | cons event t ih => exact ih

/-- What holds of all runs holds of those under a policy. -/
theorem Meets.underPolicy {α : Type} {p : Proc α} {Q : α → Log → Prop} (h : Meets logged p log Q) :
    Meets (underPolicy file) p log Q := by
  have hsimulated : Meets (SwitchOps.underPolicy file) p log fun a log' => ∃ g, g = log' ∧ Q a g := by
    refine h.simulated (only_true p) (fun effect _ g g' hg _ => ?_) rfl
    refine ⟨trivial, fun answer _ => ⟨trivial, ?_⟩⟩
    rw [hg]
    rfl
  refine hsimulated.mono fun a log' h => ?_
  obtain ⟨_, rfl, hQ⟩ := h
  exact hQ

theorem ignoresGates_logged : IgnoresGates logged := by
  refine fun effect heffect log => ⟨trivial, fun answer => ?_⟩
  cases effect with
  | run _ _ => cases heffect
  | runRawAction _ _ => cases heffect
  | _ => rfl

theorem readPolicy_underPolicy :
    Meets (underPolicy file) loadPolicy log fun data log' => log' = log ∧ data = file.load := by
  refine ⟨trivial, fun answer hanswer => ⟨rfl, ?_⟩⟩
  rw [show answer = file from hanswer]

/-- Holding a lock is not recorded in a log. -/
theorem locked_underPolicy {α : Type} {lock : Lock} {body : Proc α} {Q : α → Log → Prop}
    (h : Meets (underPolicy file) body log Q) :
    Meets (underPolicy file) (withLock lock body) log Q := by
  unfold withLock
  rw [meets_bind]
  refine meets_perform.mpr ⟨trivial, fun _ _ => h.bind fun result log' hresult => ?_⟩
  rw [meets_bind]
  exact meets_perform.mpr ⟨trivial, fun _ _ => hresult⟩

theorem controlledWritesEnabled_underPolicy :
    Meets (underPolicy file) InterfacePolicyStore.controlledWritesEnabled log
      fun enabled log' => log' = log ∧ enabled = file.enabled := by
  refine locked_underPolicy (readPolicy_underPolicy.bind fun data log' hdata => ?_)
  obtain ⟨rfl, rfl⟩ := hdata
  unfold PolicyFile.enabled
  cases file.load with
  | none => exact ⟨rfl, rfl⟩
  | some data => exact ⟨rfl, rfl⟩

theorem stateFor_underPolicy [Digest] (host : Option Text) (interface : Text) :
    Meets (underPolicy file) (InterfacePolicyStore.stateFor host interface) log
      fun r log' => log' = log ∧ r = file.stateFor host interface := by
  unfold InterfacePolicyStore.stateFor PolicyFile.stateFor
  split
  · exact ⟨rfl, rfl⟩
  cases normalizeInterface interface with
  | error exc => exact ⟨rfl, rfl⟩
  | ok canonical =>
    rw [meets_raising_bind]
    refine locked_underPolicy (meets_quietly_bind.mpr ?_)
    refine readPolicy_underPolicy.mono fun data log' hdata => ?_
    obtain ⟨rfl, rfl⟩ := hdata
    cases file.load with
    | none => exact ⟨rfl, rfl⟩
    | some data => exact ⟨rfl, rfl⟩

theorem unlocked_underPolicy :
    Meets (underPolicy file) WriteLock.unlocked log fun _ log' => log' = log :=
  Meets.underPolicy (untraced_logged (unlocked_only coversGates_untraced))

end policy

/-! ## What a preflight is made of -/

section examine

variable [Digest] {session : ChangeSession} {client : Client} {context : AssuranceContext}
  {host : Option Text} {file : PolicyFile}

omit [Digest] in
/-- A command, and then the rest, that is only reached if its output was read. -/
theorem read_logged {α : Type} {symbol : ReadSymbol} {actor : Text} {rest : Text → Action α}
    {log : Log} {Q : α → Log → Prop}
    (h : ∀ output, Meets logged (rest output) (log.read symbol output)
      fun r log' => ∀ a, r = .ok a → Q a log') :
    Meets logged (runAndAudit client symbol actor >>= rest : Action α) log
      fun r log' => ∀ a, r = .ok a → Q a log' := by
  rw [meets_raising_bind]
  refine (runAndAudit_logged _ _ _).mono fun outcome log' hlog => ?_
  cases outcome with
  | error exc => rintro a ⟨⟩
  | ok output =>
    cases hlog
    exact h output

omit [Digest] in
theorem observeDevice_logged (actor : Text) :
    Meets logged (observeDevice client actor) {} fun r log =>
      ∀ seen, r = .ok seen → log.reads.observations = some seen := by
  unfold observeDevice
  refine read_logged fun status => ?_
  rw [meets_raising_bind]
  cases hparse : parseInterfaceStatus status with
  | error exc => rintro seen ⟨⟩
  | ok interfaces =>
    refine read_logged fun poe => read_logged fun errors => read_logged fun macTable =>
      read_logged fun running => read_logged fun startup => ?_
    rintro seen ⟨⟩
    simp [Reads.observations, Reads.last, Log.read, hparse, Except.toOption]

/-- A snapshot is assembled from the six outputs of its commands. -/
theorem captureIn_logged :
    Meets logged (session.captureIn client context) {} fun r log => ∀ snapshot, r = .ok snapshot →
      ∃ canonical targetShort seen capturedAt,
        normalizeInterface session.plan.targetInterface = .ok canonical ∧
        shortInterface canonical = .ok targetShort ∧ log.reads.observations = some seen ∧
        assembleSnapshot seen session.plan.deviceId canonical targetShort session.plan.step.kind
          context capturedAt = .ok snapshot := by
  unfold ChangeSession.captureIn captureAssuranceSnapshot
  rw [meets_raising_bind]
  cases hname : normalizeInterface session.plan.targetInterface with
  | error exc => rintro snapshot ⟨⟩
  | ok canonical =>
  show Meets _ (orRaise (shortInterface canonical) >>= _ : Action _) _ _
  rw [meets_raising_bind]
  cases hshort : shortInterface canonical with
  | error exc => rintro snapshot ⟨⟩
  | ok targetShort =>
  show Meets _ (orRaise (safeValue _ _) >>= _ : Action _) _ _
  rw [meets_raising_bind]
  cases safeValue session.plan.step.kind session.plan.step.value with
  | error exc => rintro snapshot ⟨⟩
  | ok value =>
  show Meets _ (observeDevice client _ >>= _ : Action _) _ _
  rw [meets_raising_bind]
  refine (observeDevice_logged _).mono fun observed log hobserved => ?_
  cases observed with
  | error exc => rintro snapshot ⟨⟩
  | ok seen =>
  rw [continues_ok, meets_quietly_bind]
  refine meets_perform.mpr ⟨trivial, fun capturedAt _ => ?_⟩
  intro snapshot hsnapshot
  exact ⟨canonical, targetShort, seen, capturedAt, rfl, hshort, hobserved seen rfl, hsnapshot⟩

/-- How a preflight came about: the outputs that were read, the policy file and the context
determine all but its times and the state of the unlock. -/
inductive Examined (session : ChangeSession) (context : AssuranceContext) (host : Option Text)
    (file : PolicyFile) (reads : Reads) : ChangePreflight → Prop
  | intro {canonical targetShort : Text} {seen : Observations} {capturedAt evaluatedAt : Nat}
      {snapshot : AssuranceSnapshot} {state : PolicyState} (unlocked : Bool)
      (name : normalizeInterface session.plan.targetInterface = .ok canonical)
      (short : shortInterface canonical = .ok targetShort)
      (observed : reads.observations = some seen)
      (assembled : assembleSnapshot seen session.plan.deviceId canonical targetShort
        session.plan.step.kind context capturedAt = .ok snapshot)
      (policy : file.stateFor host session.plan.targetInterface = .ok state) :
      Examined session context host file reads
        (Preflight.evaluate session.plan snapshot ⟨host, state, file.enabled, unlocked⟩ evaluatedAt)

theorem examine_underPolicy :
    Meets (underPolicy file) (session.examine client context host) {} fun r log =>
      ∀ p, r = .ok p → Examined session context host file log.reads p := by
  unfold ChangeSession.examine
  rw [meets_raising_bind]
  refine (Meets.underPolicy captureIn_logged).mono fun captured log hcaptured => ?_
  cases captured with
  | error exc => rintro p ⟨⟩
  | ok snapshot =>
  obtain ⟨canonical, targetShort, seen, capturedAt, hname, hshort, hseen, hassembled⟩ :=
    hcaptured snapshot rfl
  rw [continues_ok]
  unfold preflight
  rw [meets_raising_bind]
  refine (stateFor_underPolicy _ _).mono fun r log₁ hstate => ?_
  obtain ⟨rfl, rfl⟩ := hstate
  cases hpolicy : file.stateFor host session.plan.targetInterface with
  | error exc => rintro p ⟨⟩
  | ok state =>
  rw [continues_ok, meets_quietly_bind]
  refine controlledWritesEnabled_underPolicy.mono fun enabled log₂ henabled => ?_
  obtain ⟨rfl, rfl⟩ := henabled
  rw [meets_quietly_bind]
  refine unlocked_underPolicy.mono fun unlocked log₃ hlog => ?_
  cases hlog
  rw [meets_quietly_bind]
  refine meets_perform.mpr ⟨trivial, fun evaluatedAt _ => ?_⟩
  rintro p ⟨⟩
  exact .intro unlocked hname hshort hseen hassembled hpolicy

/-- The preflight that a run returns, from what the device and the policy file said in it. -/
theorem examined_of_runs {t : List (Event Effect Answer)} {p : ChangePreflight}
    (h : Runs (session.examine client context host) t (.ok p)) (hpolicy : PolicyStays file t) :
    Examined session context host file (logOf t).reads p := by
  have hexamined := h.meets examine_underPolicy hpolicy.answered p rfl
  rw [after_underPolicy] at hexamined
  exact hexamined

end examine

/-! ## What the evidence of a context reaches -/

section context

variable [Digest] {seen : Observations} {deviceId canonical targetShort : Text}
  {kind : OperationKind} {context context' : AssuranceContext} {capturedAt capturedAt' : Nat}
  {snapshot snapshot' : AssuranceSnapshot}

theorem assembleSnapshot_topology
    (h : assembleSnapshot seen deviceId canonical targetShort kind context capturedAt = .ok snapshot) :
    snapshot.topology = context.topologySnapshot targetShort (seen.learnedByPort targetShort) := by
  unfold assembleSnapshot at h
  cases hrows : seen.interfaces.mapM
      (seen.interfaceSnapshot targetShort (interfaceConfig seen.running canonical)) with
  | error exc => simp only [hrows] at h; cases h
  | ok normalized => simp only [hrows] at h; cases h; rfl

/-- The state of the target, the configuration and the connection do not depend on the topology,
the reconciliation or the health of the context. -/
theorem assembleSnapshot_congr (hconnection : context'.connection = context.connection)
    (h : assembleSnapshot seen deviceId canonical targetShort kind context capturedAt = .ok snapshot)
    (h' : assembleSnapshot seen deviceId canonical targetShort kind context' capturedAt' =
      .ok snapshot') :
    snapshot'.target = snapshot.target ∧ snapshot'.configuration = snapshot.configuration ∧
      snapshot'.health.connectionState = snapshot.health.connectionState := by
  unfold assembleSnapshot at h h'
  cases hrows : seen.interfaces.mapM
      (seen.interfaceSnapshot targetShort (interfaceConfig seen.running canonical)) with
  | error exc => simp only [hrows] at h; cases h
  | ok normalized =>
    simp only [hrows] at h h'
    cases h
    cases h'
    refine ⟨rfl, rfl, ?_⟩
    show AssuranceContext.orDefault context'.connection _ = _
    rw [hconnection]

/-- More links and devices are more evidence that the control path runs through the target. -/
theorem relationships_mono (hlinks : ∀ link ∈ context.links, link ∈ context'.links)
    {learned learned' : List Text} (relationship : RelationshipKind)
    (h : relationship.text ∈ (context.topologySnapshot targetShort learned).relationships) :
    relationship.text ∈ (context'.topologySnapshot targetShort learned').relationships := by
  simp only [AssuranceContext.topologySnapshot, Text.mem_sortedSet, List.mem_map] at h ⊢
  obtain ⟨link, hlink, htext⟩ := h
  refine ⟨link, ?_, htext⟩
  simp only [AssuranceContext.targetLinks, List.mem_filter] at hlink ⊢
  exact ⟨hlinks link hlink.1, hlink.2⟩

omit [Digest] in
theorem localHostCorrelated_mono (hdevices : ∀ device ∈ context.devices, device ∈ context'.devices)
    (h : context.localHostCorrelated targetShort = true) :
    context'.localHostCorrelated targetShort = true := by
  simp only [AssuranceContext.localHostCorrelated, List.any_eq_true, AssuranceContext.targetDevices,
    List.mem_filter] at h ⊢
  obtain ⟨device, ⟨hdevice, htarget⟩, hlocal⟩ := h
  exact ⟨device, ⟨hdevices device hdevice, htarget⟩, hlocal⟩

end context

/-! ## Two preflights -/

/-- The check with a code. -/
def ChangePreflight.check (p : ChangePreflight) (code : Text) : Option PreflightCheck :=
  p.checks.find? fun check => check.code = code

/-- The codes of the checks that grant authority. -/
def authorityChecks : List Text := [
  "device_target", "device_live", "interface_exists", "interface_policy", "controlled_writes",
  "rollback_representable"]

/-- Two preflights agree on the checks that grant authority, all of which pass if the first is
ready, and on what blocks besides the control path. -/
structure SameAuthority (p p' : ChangePreflight) : Prop where
  identical : ∀ code ∈ authorityChecks, ∃ check,
    p.check code = some check ∧ p'.check code = some check
  passes : p.outcome = .ready → ∀ code ∈ authorityChecks, ∀ check,
    p.check code = some check → check.status = .pass
  blocks : ∀ code : Text, code ≠ "control_path" →
    ((∃ check, p.check code = some check ∧ check.status = .block) ↔
      ∃ check, p'.check code = some check ∧ check.status = .block)

/-- The context `context'` has the links and devices of `context`, and perhaps more. -/
structure AddsEvidence (context context' : AssuranceContext) : Prop where
  links : ∀ link ∈ context.links, link ∈ context'.links
  devices : ∀ device ∈ context.devices, device ∈ context'.devices

namespace Preflight

/-- The codes of `checks`, in order. -/
def codes : List Text := [
  "operation_allowlisted", "device_target", "device_live", "interface_exists", "interface_policy",
  "controlled_writes", "session_unlock", "rollback_representable", "evidence_freshness",
  "attached_endpoints", "learned_behind", "control_path", "topology_uncertainty",
  "running_startup"]

theorem nodup_codes : codes.Nodup := by decide +kernel

variable [Digest] {plan : ChangePlan} {snapshot snapshot' : AssuranceSnapshot}
  {gates gates' : PreflightGates}

theorem checks_codes : (checks plan snapshot gates).map (·.code) = codes := rfl

/-- A check is found under its code. -/
theorem find?_checks {check : PreflightCheck} (h : check ∈ checks plan snapshot gates) :
    (checks plan snapshot gates).find? (fun other => other.code = check.code) = some check := by
  have hnodup : ((checks plan snapshot gates).map (·.code)).Nodup := checks_codes ▸ nodup_codes
  generalize checks plan snapshot gates = found at h hnodup
  induction found with
  | nil => cases h
  | cons first rest ih =>
    simp only [List.map_cons, List.nodup_cons] at hnodup
    rcases List.mem_cons.mp h with rfl | hrest
    · simp
    · have hne : first.code ≠ check.code := fun heq =>
        hnodup.1 (heq ▸ List.mem_map_of_mem hrest)
      rw [List.find?_cons_of_neg (by simpa using hne)]
      exact ih hrest hnodup.2

/-- The checks that grant authority. -/
def authority (plan : ChangePlan) (snapshot : AssuranceSnapshot) (gates : PreflightGates) :
    List PreflightCheck := [
  deviceTarget plan gates, deviceLive snapshot, interfaceExists plan snapshot,
  interfacePolicy plan gates, controlledWrites gates, rollbackRepresentable snapshot]

theorem authority_codes : (authority plan snapshot gates).map (·.code) = authorityChecks := rfl

theorem mem_checks_of_authority {check : PreflightCheck}
    (h : check ∈ authority plan snapshot gates) : check ∈ checks plan snapshot gates := by
  simp only [authority, List.mem_cons, List.not_mem_nil, or_false] at h
  rcases h with rfl | rfl | rfl | rfl | rfl | rfl <;> simp [checks]

/-- They pass or block. -/
theorem authority_status {check : PreflightCheck} (h : check ∈ authority plan snapshot gates) :
    check.status = .pass ∨ check.status = .block := by
  have hgate (code label passed failed : Text) (holds : Bool) :
      (gateCheck code label holds .block passed failed).status = .pass ∨
        (gateCheck code label holds .block passed failed).status = .block := by
    cases holds
    · exact .inr rfl
    · exact .inl rfl
  simp only [authority, List.mem_cons, List.not_mem_nil, or_false] at h
  rcases h with rfl | rfl | rfl | rfl | rfl | rfl <;> exact hgate _ _ _ _ _

/-- Besides them, only the control path can block. -/
theorem mem_authority_of_block {check : PreflightCheck} (h : check ∈ checks plan snapshot gates)
    (hblock : check.status = .block) (hcode : check.code ≠ "control_path") :
    check ∈ authority plan snapshot gates := by
  have hwarn : PreflightCheckStatus.warn ≠ .block := by decide
  have hinfo : PreflightCheckStatus.info ≠ .block := by decide
  simp only [checks, List.mem_cons, List.not_mem_nil, or_false] at h
  rcases h with rfl | rfl | rfl | rfl | rfl | rfl | rfl | rfl | rfl | rfl | rfl | rfl | rfl | rfl
  · cases hblock
  · simp [authority]
  · simp [authority]
  · simp [authority]
  · simp [authority]
  · simp [authority]
  · exact absurd hblock (gateCheck_ne_block hinfo)
  · simp [authority]
  · exact absurd hblock (gateCheck_ne_block hwarn)
  · cases hblock
  · exact absurd hblock (gateCheck_ne_block hwarn)
  · exact absurd rfl hcode
  · exact absurd hblock (gateCheck_ne_block hwarn)
  · exact absurd hblock (gateCheck_ne_block hwarn)

/-- The same device, policy and connection: what the gates of a preflight depend on. -/
structure SameGates (snapshot snapshot' : AssuranceSnapshot) (gates gates' : PreflightGates) :
    Prop where
  host : gates'.host = gates.host
  policyState : gates'.policyState = gates.policyState
  capability : gates'.capability = gates.capability
  connection : snapshot'.health.connectionState = snapshot.health.connectionState
  target : snapshot'.target = snapshot.target
  configuration : snapshot'.configuration = snapshot.configuration

section same

variable (hsame : SameGates snapshot snapshot' gates gates')

include hsame

omit [Digest] in
theorem connectionState_congr : connectionState snapshot' = connectionState snapshot := by
  rw [connectionState, connectionState, hsame.connection]

theorem deviceTarget_congr : deviceTarget plan gates' = deviceTarget plan gates := by
  rw [deviceTarget, deviceTarget, deviceMatches, deviceMatches, hsame.host]

omit [Digest] in
theorem deviceLive_congr : deviceLive snapshot' = deviceLive snapshot := by
  rw [deviceLive, deviceLive, connectionState_congr hsame]

omit [Digest] in
theorem interfaceExists_congr : interfaceExists plan snapshot' = interfaceExists plan snapshot := by
  rw [interfaceExists, interfaceExists, hsame.target]

omit [Digest] in
theorem interfacePolicy_congr : interfacePolicy plan gates' = interfacePolicy plan gates := by
  rw [interfacePolicy, interfacePolicy, hsame.policyState]

omit [Digest] in
theorem controlledWrites_congr : controlledWrites gates' = controlledWrites gates := by
  rw [controlledWrites, controlledWrites, hsame.capability]

omit [Digest] in
theorem rollbackRepresentable_congr :
    rollbackRepresentable snapshot' = rollbackRepresentable snapshot := by
  rw [rollbackRepresentable, rollbackRepresentable, hsame.configuration]

theorem authority_congr : authority plan snapshot' gates' = authority plan snapshot gates := by
  rw [authority, authority, deviceTarget_congr hsame, deviceLive_congr hsame,
    interfaceExists_congr hsame, interfacePolicy_congr hsame, controlledWrites_congr hsame,
    rollbackRepresentable_congr hsame]

end same

end Preflight

/-! ## The property -/

section property

variable [Digest] {session : ChangeSession} {client : Client} {context context' : AssuranceContext}
  {host : Option Text} {file : PolicyFile} {reads : Reads} {p p' : ChangePreflight}

open Preflight

omit [Digest] in
theorem Preflight.SameGates.symm {snapshot snapshot' : AssuranceSnapshot} {gates gates' : PreflightGates}
    (hsame : SameGates snapshot snapshot' gates gates') :
    SameGates snapshot' snapshot gates' gates :=
  ⟨hsame.host.symm, hsame.policyState.symm, hsame.capability.symm, hsame.connection.symm,
    hsame.target.symm, hsame.configuration.symm⟩

/-- A check that blocks one preflight blocks the other, unless it is the control path. -/
theorem Preflight.SameGates.block {plan : ChangePlan} {snapshot snapshot' : AssuranceSnapshot}
    {gates gates' : PreflightGates} (hsame : SameGates snapshot snapshot' gates gates')
    {code : Text} (hcode : code ≠ "control_path") {evaluatedAt evaluatedAt' : Nat}
    (h : ∃ check, (evaluate plan snapshot gates evaluatedAt).check code = some check ∧
      check.status = .block) :
    ∃ check, (evaluate plan snapshot' gates' evaluatedAt').check code = some check ∧
      check.status = .block := by
  obtain ⟨check, hfound, hblock⟩ := h
  have hmem : check ∈ checks plan snapshot gates := List.mem_of_find?_eq_some hfound
  have hname : check.code = code := by simpa using List.find?_some hfound
  subst hname
  have hauthority := mem_authority_of_block hmem hblock hcode
  rw [← authority_congr hsame] at hauthority
  exact ⟨check, find?_checks (mem_checks_of_authority hauthority), hblock⟩

theorem Preflight.SameGates.sameAuthority {plan : ChangePlan} {snapshot snapshot' : AssuranceSnapshot}
    {gates gates' : PreflightGates} (hsame : SameGates snapshot snapshot' gates gates')
    (evaluatedAt evaluatedAt' : Nat) :
    SameAuthority (evaluate plan snapshot gates evaluatedAt)
      (evaluate plan snapshot' gates' evaluatedAt') := by
  have hauthority := @authority_congr _ plan _ _ _ _ hsame
  constructor
  · intro code hcode
    rw [← @authority_codes _ plan snapshot gates] at hcode
    obtain ⟨check, hcheck, rfl⟩ := List.mem_map.mp hcode
    refine ⟨check, find?_checks (mem_checks_of_authority hcheck), ?_⟩
    exact find?_checks (mem_checks_of_authority (hauthority ▸ hcheck))
  · intro hready code hcode check hcheck
    rw [← @authority_codes _ plan snapshot gates] at hcode
    obtain ⟨found, hfound, rfl⟩ := List.mem_map.mp hcode
    have hmem := mem_checks_of_authority hfound
    have heq : some check = some found := hcheck.symm.trans (find?_checks hmem)
    cases heq
    rcases authority_status hfound with hpass | hblock
    · exact hpass
    · exact absurd hblock (outcome_ready_iff.mp hready check hmem)
  · intro code hcode
    exact ⟨hsame.block hcode, hsame.symm.block hcode⟩

/-- Preflights of one session that saw the same outputs under the same policy. -/
theorem Examined.sameAuthority (h : Examined session context host file reads p)
    (h' : Examined session context' host file reads p')
    (hconnection : context'.connection = context.connection) :
    SameAuthority p p' ∧ (AddsEvidence context context' → p.outcome = .blocked →
      p'.outcome = .blocked) := by
  cases h with
  | @intro canonical targetShort seen _ evaluatedAt snapshot state unlocked name short observed
      assembled policy =>
  cases h' with
  | @intro _ _ _ _ evaluatedAt' snapshot' _ unlocked' name' short' observed' assembled' policy' =>
  cases name.symm.trans name'
  cases short.symm.trans short'
  cases observed.symm.trans observed'
  cases policy.symm.trans policy'
  obtain ⟨htarget, hconfiguration, hconnected⟩ :=
    assembleSnapshot_congr hconnection assembled assembled'
  have hsame : SameGates snapshot snapshot' ⟨host, state, file.enabled, unlocked⟩
      ⟨host, state, file.enabled, unlocked'⟩ :=
    ⟨rfl, rfl, rfl, hconnected, htarget, hconfiguration⟩
  refine ⟨hsame.sameAuthority _ _, fun hadds hblocked => ?_⟩
  by_contra hready
  have hready' : outcome (checks session.plan snapshot' ⟨host, state, file.enabled, unlocked'⟩) =
      .ready := by
    cases houtcome : outcome (checks session.plan snapshot' ⟨host, state, file.enabled, unlocked'⟩) with
    | ready => rfl
    | blocked => exact absurd houtcome hready
  obtain ⟨hdevice, hlive, hpresent, hstate, henabled, hrollback, hclear⟩ :=
    outcome_checks_ready_iff.mp hready'
  -- without evidence of a control path in the larger context there is none in the smaller
  have hclear' : confirmedPath session.plan snapshot = false := by
    cases hconfirmed : confirmedPath session.plan snapshot with
    | false => rfl
    | true =>
      have hmore : confirmedPath session.plan snapshot' = true := by
        simp only [confirmedPath, Bool.and_eq_true, Bool.or_eq_true, gateway, List.elem_iff,
          assembleSnapshot_topology assembled, assembleSnapshot_topology assembled'] at hconfirmed ⊢
        exact ⟨hconfirmed.1, hconfirmed.2.imp (relationships_mono hadds.links .gatewayPath)
          (localHostCorrelated_mono hadds.devices)⟩
      exact absurd hmore (by simp [hclear])
  have hcontradiction : outcome (checks session.plan snapshot
      ⟨host, state, file.enabled, unlocked⟩) = .ready := by
    refine outcome_checks_ready_iff.mpr ⟨hdevice, ?_, ?_, hstate, henabled, ?_, hclear'⟩
    · rw [← connectionState_congr hsame]
      exact hlive
    · rw [← htarget]
      exact hpresent
    · rw [← hconfiguration]
      exact hrollback
  exact absurd (hblocked.symm.trans hcontradiction) (by simp)

/-! ### Exceptions -/

theorem assembleSnapshot_outcome {seen : Observations} {deviceId canonical targetShort : Text}
    {kind : OperationKind} (capturedAt capturedAt' : Nat) :
    SameOutcome (fun _ _ => True)
      (assembleSnapshot seen deviceId canonical targetShort kind context capturedAt)
      (assembleSnapshot seen deviceId canonical targetShort kind context' capturedAt') := by
  unfold assembleSnapshot
  cases hrows : seen.interfaces.mapM
      (seen.interfaceSnapshot targetShort (interfaceConfig seen.running canonical)) with
  | error exc => simp only [hrows]; exact rfl
  | ok normalized => simp only [hrows]; trivial

theorem captureIn_alike : Alike (SameOutcome fun _ _ => True)
    (session.captureIn client context : Proc (Except Exn AssuranceSnapshot))
    (session.captureIn client context') := by
  unfold ChangeSession.captureIn captureAssuranceSnapshot
  refine Alike.raising_same fun canonical => Alike.raising_same fun targetShort => ?_
  refine Alike.raising_same fun value => Alike.raising_same fun seen => ?_
  exact Alike.raising_same fun capturedAt => .pure (assembleSnapshot_outcome _ _)

/-- What fails for one context fails for the other. -/
theorem examine_alike : Alike (SameOutcome fun _ _ => True)
    (session.examine client context host : Proc (Except Exn ChangePreflight))
    (session.examine client context' host) := by
  unfold ChangeSession.examine
  refine captureIn_alike.raising_bind fun snapshot snapshot' _ => ?_
  unfold preflight
  refine Alike.raising_same fun policyState => Alike.raising_same fun capability => ?_
  exact Alike.raising_same fun unlocked => Alike.raising_same fun evaluatedAt => .pure trivial

/-- **Discovery evidence can restrict but never grant authority.** Two preflights of one session,
with the same host, connection, policy file and device outputs, agree on all that grants
authority, and more links or devices never make a blocked one ready; in one environment both
raise or neither does. -/
theorem examine_evidence {t t' : List (Event Effect Answer)} {r r' : Except Exn ChangePreflight}
    (h : Runs (session.examine client context host) t r)
    (h' : Runs (session.examine client context' host) t' r')
    (hconnection : context'.connection = context.connection)
    (hpolicy : PolicyStays file t) (hpolicy' : PolicyStays file t')
    (hreads : (logOf t').reads = (logOf t).reads) :
    (∀ p p', r = .ok p → r' = .ok p' → SameAuthority p p' ∧
      (AddsEvidence context context' → p.outcome = .blocked → p'.outcome = .blocked)) ∧
    (t' = t → ∀ exc, r = .error exc ↔ r' = .error exc) := by
  constructor
  · rintro p p' rfl rfl
    have hexamined' := examined_of_runs h' hpolicy'
    rw [hreads] at hexamined'
    exact (examined_of_runs h hpolicy).sameAuthority hexamined' hconnection
  · rintro rfl exc
    have hsame := h.alike examine_alike h'
    cases r with
    | ok p =>
      cases r' with
      | ok p' => exact ⟨by rintro ⟨⟩, by rintro ⟨⟩⟩
      | error e => exact hsame.elim
    | error e =>
      cases r' with
      | ok p' => exact hsame.elim
      | error e' =>
        have hsame : e = e' := hsame
        rw [hsame]

end property

/-! ### Two contexts -/

/-- A context without a topology, and one in which this host sits on the port. -/
def bareContext : AssuranceContext := ⟨none, none, none, some ("live" : Text)⟩

def hostedContext : AssuranceContext where
  topology := some {
    generatedAt := 0, rootDeviceId := [], interfaces := [], links := []
    devices := [{
      id := "host", name := "This SwitchOps PC", connectedInterface := some ("Gi1/0/6" : Text),
      identitySource := .localHost }] }
  reconciliation := none
  health := none
  connection := some ("live" : Text)

/-- The preflight of `readySession` on a switch, in a context. -/
def Switch.examined (switch : Switch) (context : AssuranceContext) :
    Except Exn ChangePreflight × List (Event Effect Answer) :=
  (@ChangeSession.examine sampleDigest readySession ⟨sampleHost⟩ context (some sampleHost)).simulate
    switch.answer 0

theorem Switch.examined_runs (switch : Switch) (context : AssuranceContext) :
    Runs (@ChangeSession.examine sampleDigest readySession ⟨sampleHost⟩ context (some sampleHost))
      (switch.examined context).2 (switch.examined context).1 :=
  runs_simulate _ _ _

/-- The policy file of `Switch.answer`. -/
theorem Switch.policyStays (switch : Switch) (context : AssuranceContext) :
    PolicyStays (switch.answer .readPolicy 0).1 (switch.examined context).2 := by
  intro answer hmem
  obtain ⟨sent, hanswer⟩ := answer_of_mem_simulate hmem
  exact hanswer

theorem examine_evidence_hostedContext : ∃ p p',
    (obedientSwitch.examined bareContext).1 = .ok p ∧
      (obedientSwitch.examined hostedContext).1 = .ok p' ∧ p.outcome = .ready ∧
      p'.outcome = .blocked ∧ SameAuthority p p' := by
  have hready : (obedientSwitch.examined bareContext).1.toOption.map (·.outcome) = some .ready := by
    decide +kernel
  have hblocked : (obedientSwitch.examined hostedContext).1.toOption.map (·.outcome) =
      some .blocked := by decide +kernel
  have hreads : (logOf (obedientSwitch.examined hostedContext).2).reads =
      (logOf (obedientSwitch.examined bareContext).2).reads := by decide +kernel
  have hok {r : Except Exn ChangePreflight} {outcome : PreflightOutcome}
      (h : r.toOption.map (·.outcome) = some outcome) : ∃ p, r = .ok p ∧ p.outcome = outcome := by
    cases r with
    | error exc => cases h
    | ok p => exact ⟨p, rfl, Option.some.inj h⟩
  obtain ⟨p, hp, hpready⟩ := hok hready
  obtain ⟨p', hp', hpblocked⟩ := hok hblocked
  have hevidence := @examine_evidence sampleDigest readySession ⟨sampleHost⟩ bareContext
    hostedContext (some sampleHost) _ _ _ _ _ (obedientSwitch.examined_runs bareContext)
    (obedientSwitch.examined_runs hostedContext) rfl (obedientSwitch.policyStays bareContext)
    (obedientSwitch.policyStays hostedContext) hreads
  exact ⟨p, p', hp, hp', hpready, hpblocked, (hevidence.1 p p' hp hp').1⟩

end SwitchOps
