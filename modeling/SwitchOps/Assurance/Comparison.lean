import SwitchOps.Assurance.Preflight

/-!
# Comparison of two snapshots

`compare_snapshots`: what differs between the snapshot before an operation and the one after it,
and which of the differences the plan does not declare. The comparison warns of nothing exactly
when the two snapshots are `Unaffected` (`warnings_eq_nil_iff`).
-/

namespace SwitchOps

/-! ## Compared fields -/

/-- The keys of `labels`. -/
inductive ComparedField
  | adminState
  | operState
  | description
  | vlan
  | speed
  | duplex
  | poeAdmin
  | poeOper
  | errorTotal
  | learnedMacCount
  deriving DecidableEq, Repr

namespace ComparedField

def all : List ComparedField := [
  .adminState, .operState, .description, .vlan, .speed, .duplex, .poeAdmin, .poeOper, .errorTotal,
  .learnedMacCount]

theorem mem_all (field : ComparedField) : field ∈ all := by
  cases field <;> simp [all]

def name : ComparedField → Text
  | .adminState => "admin_state"
  | .operState => "oper_state"
  | .description => "description"
  | .vlan => "vlan"
  | .speed => "speed"
  | .duplex => "duplex"
  | .poeAdmin => "poe_admin"
  | .poeOper => "poe_oper"
  | .errorTotal => "error_total"
  | .learnedMacCount => "learned_mac_count"

/-- The dictionary `labels`. -/
def label : ComparedField → Text
  | .adminState => "administrative state"
  | .operState => "link state"
  | .description => "description"
  | .vlan => "VLAN"
  | .speed => "speed"
  | .duplex => "duplex"
  | .poeAdmin => "PoE policy"
  | .poeOper => "PoE operational state"
  | .errorTotal => "error counter"
  | .learnedMacCount => "learned-address count"

/-- `getattr(item, field)`. -/
def value (item : AssuranceInterfaceSnapshot) : ComparedField → DifferenceValue
  | .adminState => .text item.adminState
  | .operState => .text item.operState
  | .description => .text item.description
  | .vlan => .text item.vlan
  | .speed => .text item.speed
  | .duplex => .text item.duplex
  | .poeAdmin => .text item.poeAdmin
  | .poeOper => .text item.poeOper
  | .errorTotal => .int item.errorTotal
  | .learnedMacCount => .int item.learnedMacCount

end ComparedField

/-- `allowed_target`: the fields of the target that an operation is declared to change. -/
def allowedTarget : OperationKind → List ComparedField
  | .adminUp | .adminDown => [.adminState, .operState, .learnedMacCount]
  | .poeAuto | .poeNever => [.poeAdmin, .poeOper, .operState, .learnedMacCount]
  | .setDescription => [.description]

/-- `kind in {"admin_up", "admin_down", "poe_auto", "poe_never"}`. -/
def OperationKind.movesAttachments : OperationKind → Bool
  | .adminUp | .adminDown | .poeAuto | .poeNever => true
  | .setDescription => false

/-! ## Differences -/

/-- `diff`: nothing, if the values are equal. -/
def diff (scope : DifferenceScope) (field : Text) (old new : DifferenceValue)
    (assessment : Assessment) (detail : Text) (interface : Option Text := none) :
    List ChangeDifference :=
  if old = new then []
  else [{
    scope := scope, field := field, before := old, after := new, assessment := assessment,
    detail := detail, interface := interface }]

/-- The details of the differences that are warnings. -/
def warned (differences : List ChangeDifference) : List Text :=
  (differences.filter fun difference => difference.assessment = .warning).map (·.detail)

/-- `after_others` and `before_others`: of several rows of one port the last counts. -/
def AssuranceSnapshot.othersByPort (snapshot : AssuranceSnapshot) :
    Dict Text AssuranceInterfaceSnapshot :=
  Dict.ofList (snapshot.otherInterfaces.map fun item => (item.port, item))

/-- `direct`: does the snapshot show the state the step asks for? -/
def directPostcondition (step : ChangeStep) (target : AssuranceInterfaceSnapshot) :
    DirectPostcondition :=
  let decide (met : Bool) : DirectPostcondition := if met then .met else .notMet
  if !target.present then .unknown
  else match step.kind with
    | .adminDown => decide (target.adminState = "down")
    | .adminUp => decide (target.adminState = "up")
    | .poeAuto => decide (target.poeAdmin.lower = "auto")
    | .poeNever => decide (target.poeAdmin.lower = "never")
    | .setDescription => decide (target.description = step.value.getD [])

namespace Comparison

variable (plan : ChangePlan) (before after : AssuranceSnapshot)

/-- The fields of the target. -/
def targetDifferences : List ChangeDifference :=
  ComparedField.all.flatMap fun field =>
    let expected := (allowedTarget plan.step.kind).elem field
    diff .target field.name (field.value before.target) (field.value after.target)
      (if expected then .expected else .warning)
      (if expected then
        "The target " ++ field.label ++ " changed as an expected consequence of the plan.".toList
      else "The target " ++ field.label ++ " changed outside the plan's declared effects.".toList)
      (some plan.targetInterface)

/-- One port away from the target. -/
def portDifferences (port : Text) : List ChangeDifference :=
  match Dict.get? before.othersByPort port, Dict.get? after.othersByPort port with
  | some old, some new => ComparedField.all.flatMap fun field =>
    diff .unrelated field.name (field.value old) (field.value new) .warning
      ("Unrelated interface " ++ port ++ " changed ".toList ++ field.label
        ++ " during the assurance window. ".toList
        ++ "Temporal proximity does not prove the requested change caused it.".toList)
      (some port)
  | old, new =>
    diff .unrelated "presence" (.bool old.isSome) (.bool new.isSome) .warning
      ("Unrelated interface " ++ port
        ++ " appeared or disappeared during the assurance window.".toList) (some port)

/-- The other ports, in the order of their names. -/
def otherDifferences : List ChangeDifference :=
  (Text.sortedSet (Dict.keys before.othersByPort ++ Dict.keys after.othersByPort)).flatMap
    (portDifferences before after)

def configurationDifferences (operation : OperationResult) : List ChangeDifference :=
  diff .configuration "runningFingerprint" (.text before.configuration.runningFingerprint)
      (.text after.configuration.runningFingerprint)
      (if operation.requiresSave then .expected else .info)
      (if operation.requiresSave then "The running configuration fingerprint changed."
      else "The running configuration fingerprint changed "
        ++ "even though no change was required.".toList)
    ++ diff .configuration "startupFingerprint" (.text before.configuration.startupFingerprint)
      (.text after.configuration.startupFingerprint) .warning
      "The startup configuration changed without an explicit save action."

def topologyDifferences : List ChangeDifference :=
  let moves := plan.step.kind.movesAttachments
  let assessment : Assessment := if moves then .expected else .warning
  diff .topology "targetAttachments" (.texts (Text.sortedSet before.topology.attachedEntityIds))
      (.texts (Text.sortedSet after.topology.attachedEntityIds)) assessment
      (if moves then
        "Target attachment evidence changed consistently "
          ++ "with a potentially disruptive port operation.".toList
      else "Target attachment evidence changed " ++ "during a description-only operation.".toList)
      (some plan.targetInterface)
    ++ diff .topology "learnedBehindEntities" (.texts before.topology.learnedBehindEntityIds)
      (.texts after.topology.learnedBehindEntityIds) assessment
      (if moves then
        "Learned-behind evidence changed consistently "
          ++ "with a potentially disruptive port operation.".toList
      else "Learned-behind evidence changed " ++ "during a description-only operation.".toList)
      (some plan.targetInterface)
    ++ diff .topology "otherTopologyFingerprint"
      (.text before.topology.otherTopologyFingerprint)
      (.text after.topology.otherTopologyFingerprint) .warning
      ("Topology away from the target changed during the assurance window. "
        ++ "SwitchOps records correlation, not causation.".toList)

def healthDifferences : List ChangeDifference :=
  diff .health "deviceHealth" (.text before.health.deviceHealth) (.text after.health.deviceHealth)
      .warning ("The device health classification changed " ++ "during the assurance window.".toList)
    ++ diff .health "targetHealth" (.text before.health.targetHealth)
      (.text after.health.targetHealth) .warning
      ("The target interface health classification changed "
        ++ "during the assurance window.".toList) (some plan.targetInterface)
    ++ diff .health "connectionState" (.text before.health.connectionState)
      (.text after.health.connectionState) .warning
      ("The device connection classification changed " ++ "during the assurance window.".toList)
    ++ (if before.target.errorTotal < after.target.errorTotal then
      diff .health "targetErrorTotal" (.int before.target.errorTotal) (.int after.target.errorTotal)
        .warning ("The target cumulative error counter increased "
          ++ "during the assurance window.".toList) (some plan.targetInterface)
    else [])

/-- All differences, in the order in which they are found. -/
def differences (operation : OperationResult) : List ChangeDifference :=
  targetDifferences plan before after ++ otherDifferences before after
    ++ configurationDifferences before after operation ++ topologyDifferences plan before after
    ++ healthDifferences plan before after

/-- `summary`. -/
def summary (direct : DirectPostcondition) (warnings : List Text) : Text :=
  match direct with
  | .met =>
    if warnings.isEmpty then
      "The declared postcondition was observed " ++ "and no unrelated differences were detected.".toList
    else "The declared postcondition was observed, "
      ++ "but independent differences need attention.".toList
  | .notMet => "The assurance snapshot does not show the declared postcondition."
  | .unknown => "The final target state could not be established."

end Comparison

open Comparison in
/-- `compare_snapshots`, at the time `evaluatedAt`. A warning that is raised twice is kept once. -/
def compareSnapshots (plan : ChangePlan) (before after : AssuranceSnapshot)
    (operation : OperationResult) (evaluatedAt : Nat) : ChangeComparison :=
  let found := differences plan before after operation
  let direct := directPostcondition plan.step after.target
  { evaluatedAt := evaluatedAt
    directPostcondition := direct
    differences := found
    warnings := Dict.keys (Dict.ofList ((warned found).map fun detail => (detail, ())))
    summary := summary direct (warned found) }

/-! ## What a comparison without warnings says -/

/-- Two rows agree in every compared field. -/
def SameRow (old new : AssuranceInterfaceSnapshot) : Prop :=
  ∀ field, ComparedField.value old field = ComparedField.value new field

/-- Nothing changed between two snapshots but what a plan for `kind` declares: the allowed fields
of the target, the running configuration, and what is attached to a port that is switched. -/
structure Unaffected (kind : OperationKind) (before after : AssuranceSnapshot) : Prop where
  target : ∀ field ∉ allowedTarget kind,
    ComparedField.value before.target field = ComparedField.value after.target field
  ports : ∀ port, port ∈ Dict.keys before.othersByPort ↔ port ∈ Dict.keys after.othersByPort
  others : ∀ port old new, Dict.get? before.othersByPort port = some old →
    Dict.get? after.othersByPort port = some new → SameRow old new
  startup : before.configuration.startupFingerprint = after.configuration.startupFingerprint
  attachments : kind.movesAttachments = false →
    Text.sortedSet before.topology.attachedEntityIds =
      Text.sortedSet after.topology.attachedEntityIds
  learnedBehind : kind.movesAttachments = false →
    before.topology.learnedBehindEntityIds = after.topology.learnedBehindEntityIds
  otherTopology :
    before.topology.otherTopologyFingerprint = after.topology.otherTopologyFingerprint
  deviceHealth : before.health.deviceHealth = after.health.deviceHealth
  targetHealth : before.health.targetHealth = after.health.targetHealth
  connectionState : before.health.connectionState = after.health.connectionState

/-- No plan declares a change of the error counter. -/
theorem errorTotal_not_allowed (kind : OperationKind) : .errorTotal ∉ allowedTarget kind := by
  cases kind <;> simp [allowedTarget]

theorem Unaffected.errorTotal {kind : OperationKind} {before after : AssuranceSnapshot}
    (h : Unaffected kind before after) : before.target.errorTotal = after.target.errorTotal := by
  have hvalue := h.target .errorTotal (errorTotal_not_allowed kind)
  simpa [ComparedField.value] using hvalue

section warnings

variable {scope : DifferenceScope} {field detail : Text} {old new : DifferenceValue}
  {interface : Option Text}

theorem warned_append (ds ds' : List ChangeDifference) :
    warned (ds ++ ds') = warned ds ++ warned ds' := by
  simp [warned]

theorem warned_flatMap_eq_nil_iff {α : Type} {items : List α} {f : α → List ChangeDifference} :
    warned (items.flatMap f) = [] ↔ ∀ item ∈ items, warned (f item) = [] := by
  simp [warned, List.filter_flatMap, List.map_flatMap, List.flatMap_eq_nil_iff]

theorem warned_diff_warning :
    warned (diff scope field old new .warning detail interface) = [] ↔ old = new := by
  by_cases h : old = new <;> simp [diff, warned, h]

theorem warned_diff_ne {assessment : Assessment} (h : assessment ≠ .warning) :
    warned (diff scope field old new assessment detail interface) = [] := by
  by_cases hvalue : old = new <;> simp [diff, warned, hvalue, h]

theorem warned_diff_ite {allowed : Bool} :
    warned (diff scope field old new (if allowed then .expected else .warning) detail interface) = []
      ↔ (allowed = false → old = new) := by
  cases allowed with
  | true => simp [warned_diff_ne]
  | false => simp [warned_diff_warning]

variable {plan : ChangePlan} {before after : AssuranceSnapshot} {operation : OperationResult}

open Comparison

theorem warned_targetDifferences : warned (targetDifferences plan before after) = [] ↔
    ∀ field ∉ allowedTarget plan.step.kind,
      ComparedField.value before.target field = ComparedField.value after.target field := by
  rw [targetDifferences, warned_flatMap_eq_nil_iff]
  simp only [warned_diff_ite, ComparedField.mem_all, true_implies]
  simp only [Bool.eq_false_iff, ne_eq, List.elem_iff]

theorem warned_portDifferences (port : Text) : warned (portDifferences before after port) = [] ↔
    ((Dict.get? before.othersByPort port).isSome = (Dict.get? after.othersByPort port).isSome) ∧
      ∀ old new, Dict.get? before.othersByPort port = some old →
        Dict.get? after.othersByPort port = some new → SameRow old new := by
  unfold portDifferences
  cases hold : Dict.get? before.othersByPort port with
  | none =>
    cases hnew : Dict.get? after.othersByPort port with
    | none => simp [warned_diff_warning]
    | some new => simp [warned_diff_warning]
  | some old =>
    cases hnew : Dict.get? after.othersByPort port with
    | none => simp [warned_diff_warning]
    | some new =>
      dsimp only
      rw [warned_flatMap_eq_nil_iff]
      simp only [warned_diff_warning, ComparedField.mem_all, true_implies]
      simp [SameRow]

/-- The dictionaries are compared at every port, listed or not. -/
theorem warned_otherDifferences : warned (otherDifferences before after) = [] ↔
    (∀ port, port ∈ Dict.keys before.othersByPort ↔ port ∈ Dict.keys after.othersByPort) ∧
      ∀ port old new, Dict.get? before.othersByPort port = some old →
        Dict.get? after.othersByPort port = some new → SameRow old new := by
  rw [otherDifferences, warned_flatMap_eq_nil_iff]
  simp only [warned_portDifferences]
  have hlisted (port : Text) : port ∈ Text.sortedSet (Dict.keys before.othersByPort ++
      Dict.keys after.othersByPort) ↔
      port ∈ Dict.keys before.othersByPort ∨ port ∈ Dict.keys after.othersByPort := by
    rw [Text.mem_sortedSet, List.mem_append]
  constructor
  · intro h
    refine ⟨fun port => ?_, fun port old new hold hnew => ?_⟩
    · by_cases hport : port ∈ Text.sortedSet (Dict.keys before.othersByPort ++
          Dict.keys after.othersByPort)
      · rw [← Dict.get?_isSome_iff, ← Dict.get?_isSome_iff, (h port hport).1]
      · rw [hlisted] at hport
        push Not at hport
        exact iff_of_false hport.1 hport.2
    · have hport : port ∈ Dict.keys before.othersByPort := by
        rw [← Dict.get?_isSome_iff, hold]
        rfl
      exact (h port ((hlisted port).mpr (.inl hport))).2 old new hold hnew
  · rintro ⟨hports, hrows⟩ port -
    refine ⟨?_, hrows port⟩
    rw [Bool.eq_iff_iff, Dict.get?_isSome_iff, Dict.get?_isSome_iff]
    exact hports port

theorem warned_configurationDifferences :
    warned (configurationDifferences before after operation) = [] ↔
      before.configuration.startupFingerprint = after.configuration.startupFingerprint := by
  have hrunning : (if operation.requiresSave then Assessment.expected else .info) ≠ .warning := by
    split <;> simp
  rw [configurationDifferences, warned_append, warned_diff_ne hrunning, List.nil_append,
    warned_diff_warning]
  simp

theorem warned_topologyDifferences : warned (topologyDifferences plan before after) = [] ↔
    (plan.step.kind.movesAttachments = false →
      Text.sortedSet before.topology.attachedEntityIds =
        Text.sortedSet after.topology.attachedEntityIds) ∧
    (plan.step.kind.movesAttachments = false →
      before.topology.learnedBehindEntityIds = after.topology.learnedBehindEntityIds) ∧
    before.topology.otherTopologyFingerprint = after.topology.otherTopologyFingerprint := by
  rw [topologyDifferences, warned_append, warned_append, List.append_eq_nil_iff,
    List.append_eq_nil_iff, warned_diff_ite, warned_diff_ite, warned_diff_warning]
  simp [and_assoc]

/-- The error counter is compared among the fields of the target already. -/
theorem warned_healthDifferences (htotal : before.target.errorTotal = after.target.errorTotal) :
    warned (healthDifferences plan before after) = [] ↔
      before.health.deviceHealth = after.health.deviceHealth ∧
      before.health.targetHealth = after.health.targetHealth ∧
      before.health.connectionState = after.health.connectionState := by
  rw [healthDifferences, if_neg (by omega), List.append_nil, warned_append, warned_append,
    List.append_eq_nil_iff, List.append_eq_nil_iff, warned_diff_warning, warned_diff_warning,
    warned_diff_warning]
  simp [and_assoc]

theorem warned_differences : warned (differences plan before after operation) = [] ↔
    Unaffected plan.step.kind before after := by
  rw [differences]
  simp only [warned_append, List.append_eq_nil_iff]
  rw [warned_targetDifferences, warned_otherDifferences, warned_configurationDifferences,
    warned_topologyDifferences]
  constructor
  · rintro ⟨⟨⟨⟨htarget, hports, hothers⟩, hstartup⟩, hattached, hlearned, htopology⟩, hhealth⟩
    have htotal : before.target.errorTotal = after.target.errorTotal := by
      have hvalue := htarget .errorTotal (errorTotal_not_allowed _)
      simpa [ComparedField.value] using hvalue
    obtain ⟨hdevice, hhealth, hconnection⟩ := (warned_healthDifferences htotal).mp hhealth
    exact ⟨htarget, hports, hothers, hstartup, hattached, hlearned, htopology, hdevice, hhealth,
      hconnection⟩
  · intro h
    exact ⟨⟨⟨⟨h.target, h.ports, h.others⟩, h.startup⟩, h.attachments, h.learnedBehind,
      h.otherTopology⟩, (warned_healthDifferences h.errorTotal).mpr
      ⟨h.deviceHealth, h.targetHealth, h.connectionState⟩⟩

/-- **A comparison warns exactly when something changed that the plan does not declare.** -/
theorem warnings_eq_nil_iff {evaluatedAt : Nat} :
    (compareSnapshots plan before after operation evaluatedAt).warnings = [] ↔
      Unaffected plan.step.kind before after := by
  rw [← @warned_differences _ _ _ operation]
  have hkeys (details : List Text) :
      Dict.keys (Dict.ofList (details.map fun detail => (detail, ()))) = [] ↔ details = [] := by
    rw [List.eq_nil_iff_forall_not_mem, List.eq_nil_iff_forall_not_mem]
    simp [← Dict.get?_isSome_iff, Dict.get?_ofList]
  exact hkeys _

end warnings

end SwitchOps
