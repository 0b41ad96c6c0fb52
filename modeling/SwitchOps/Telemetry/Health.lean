import Mathlib.Data.Rat.Floor
import Mathlib.Order.Lattice
import SwitchOps.Telemetry.MissingSections

/-!
# Health

`health_logic.py`: the verdict on a switch, from its present conditions and from what changed since
the observation before. The verdict is the worst severity of its reasons, and a worse observation
never gets a better verdict (`evaluateHealth_mono`). The counters that are compared are cumulative,
but only their changes count: after an interval in which nothing changes, the verdict is the one that
present conditions alone give (`quiet_interval`).

Percentages are rational numbers, and `NumberFormat` prints them.
-/

namespace SwitchOps

/-! ## Reasons -/

inductive Severity
  | healthy
  | notice
  | attention
  | critical
  deriving DecidableEq, Repr

namespace Severity

/-- `_RANK` -/
def rank : Severity → Nat
  | .healthy => 0
  | .notice => 1
  | .attention => 2
  | .critical => 3

theorem rank_injective : Function.Injective rank := by
  intro a b same
  cases a <;> cases b <;> first | rfl | cases same

instance : LinearOrder Severity := LinearOrder.lift' rank rank_injective

def text : Severity → Text
  | .healthy => "HEALTHY"
  | .notice => "NOTICE"
  | .attention => "ATTENTION"
  | .critical => "CRITICAL"

theorem le_iff {a b : Severity} : a ≤ b ↔ a.rank ≤ b.rank := Iff.rfl

end Severity

/-- `HealthReason`, with all its texts. -/
structure ActiveReason where
  code : Text
  severity : Severity
  title : Text
  detail : Text
  interface : Option Text := none
  deriving DecidableEq, Repr

/-- `f"{value:.0f}"` and `f"{value:.1f}"` -/
class NumberFormat where
  fixed : Nat → Rat → Text

structure HealthThresholds where
  cpuNoticePct : Rat := 65
  cpuAttentionPct : Rat := 80
  cpuCriticalPct : Rat := 95
  memoryNoticeUsedPct : Rat := 85
  memoryAttentionUsedPct : Rat := 90
  memoryCriticalUsedPct : Rat := 97
  errorAttentionDelta : Int := 10
  errorCriticalDelta : Int := 100

/-- What `evaluate_health` looks at. -/
structure HealthInput where
  interfaces : List InterfaceStatus := []
  temperatureC : Option Int := none
  temperatureState : Text := "UNKNOWN"
  cpu5Sec : Option Rat := none
  processorTotal : Option Int := none
  processorUsed : Option Int := none
  deltas : List InterfaceDelta := []
  telemetryComplete : Bool := true

/-! ## Conditions -/

/-- `_memory_used_pct` -/
def HealthInput.memoryUsedPct (input : HealthInput) : Option Rat :=
  match input.processorTotal, input.processorUsed with
  | some total, some used => if total ≤ 0 then none else some ((used : Rat) / total * 100)
  | _, _ => none

/-- How bad a measured value is. -/
def gradePct (notice attention critical value : Rat) : Severity :=
  if critical ≤ value then .critical
  else if attention ≤ value then .attention
  else if notice ≤ value then .notice
  else .healthy

/-- How bad the temperature is. -/
def gradeTemperature (state : Text) : Severity :=
  if state = ("RED" : Text) then .critical else if state = ("YELLOW" : Text) then .attention else .healthy

section conditions

variable [NumberFormat] (thresholds : HealthThresholds) (input : HealthInput)

def temperatureReasons : List ActiveReason :=
  let detail := "The observed temperature is ".toList ++
    ((input.temperatureC.map fun value => (ToString.toString value).toList).getD "None") ++ "C.".toList
  match gradeTemperature input.temperatureState with
  | .critical => [⟨"temperature_critical", .critical, "Temperature is in the red range", detail, none⟩]
  | .attention => [⟨"temperature_attention", .attention, "Temperature is in the yellow range", detail, none⟩]
  | _ => []

def cpuReasons : List ActiveReason :=
  match input.cpu5Sec with
  | none => []
  | some value =>
    let detail := "Five-second CPU is ".toList ++ NumberFormat.fixed 0 value ++ "%.".toList
    match gradePct thresholds.cpuNoticePct thresholds.cpuAttentionPct thresholds.cpuCriticalPct value with
    | .critical => [⟨"cpu_critical", .critical, "CPU is critically busy", detail, none⟩]
    | .attention => [⟨"cpu_attention", .attention, "CPU is heavily loaded", detail, none⟩]
    | .notice => [⟨"cpu_notice", .notice, "CPU load is elevated", detail, none⟩]
    | .healthy => []

def memoryReasons : List ActiveReason :=
  match input.memoryUsedPct with
  | none => []
  | some value =>
    let detail := "Processor memory is ".toList ++ NumberFormat.fixed 1 value ++ "% used.".toList
    match gradePct thresholds.memoryNoticeUsedPct thresholds.memoryAttentionUsedPct
        thresholds.memoryCriticalUsedPct value with
    | .critical => [⟨"memory_critical", .critical, "Memory is critically full", detail, none⟩]
    | .attention => [⟨"memory_attention", .attention, "Memory use is high", detail, none⟩]
    | .notice => [⟨"memory_notice", .notice, "Memory use is elevated", detail, none⟩]
    | .healthy => []

def telemetryReasons : List ActiveReason :=
  if input.telemetryComplete then []
  else [⟨"partial_telemetry", .notice, "Some telemetry is unavailable",
    "Health was evaluated from the sections that were collected successfully.", none⟩]

end conditions

/-! ## Changes -/

/-- `_speed_mbps`; no speed has more digits than `int` accepts. -/
def speedMbps (value : Option Text) : Option Nat :=
  let normalized := fun value : Text =>
    let value := value.lower
    Text.strip (if Text.startsWith value "a-" then value.drop 2 else value)
  match value.filter (!·.isEmpty) with
  | none => none
  | some value =>
    if normalized value ∈ (["auto", "--", "n/a"] : List Text) then none
    else Text.toInt (((normalized value).dropWhile (!Text.isDecimal ·)).takeWhile Text.isDecimal)

/-- `_poe_active` of `health_logic.py`: a blank state that is not empty counts as active. -/
def suppliesPoe (value : Option Text) : Bool :=
  match value.filter (!·.isEmpty) with
  | none => false
  | some value => value.strip.lower ∉ (["off", "n/a", "not-supported", "unknown"] : List Text)

namespace InterfaceDelta

variable (delta : InterfaceDelta)

/-- By how much the error counter rose, if it did. -/
def errorsRaised : Int :=
  if delta.counterState = .increased ∨ delta.counterState = .wrapped then delta.errorDelta.getD 0 else 0

def stayedConnected : Bool :=
  delta.statusBefore = some ("connected" : Text) && delta.statusAfter = ("connected" : Text)

def lostLink : Bool :=
  delta.statusBefore = some ("connected" : Text) && delta.statusAfter ≠ ("connected" : Text)

/-- The speeds before and after, where the link became slower. -/
def slowed : Option (Nat × Nat) :=
  match speedMbps delta.speedBefore, speedMbps (some delta.speedAfter) with
  | some previous, some current =>
    if delta.stayedConnected ∧ current < previous then some (previous, current) else none
  | _, _ => none

def halved : Bool :=
  delta.stayedConnected && Text.contains delta.duplexAfter.lower "half" &&
    delta.duplexBefore ≠ some delta.duplexAfter

def poeStopped : Bool := suppliesPoe delta.poeBefore && !suppliesPoe (some delta.poeAfter)

/-- An interface whose description says that it leads upwards. -/
def isUplink (interfaces : List InterfaceStatus) : Bool :=
  let current := Dict.get? (Dict.ofList (interfaces.map fun item => (item.port, item))) delta.port
  let description : Text := (current.map fun item => Text.lower item.name).getD []
  (["uplink", "router", "gateway"] : List Text).any (Text.contains description ·)

def gradeErrors (thresholds : HealthThresholds) (amount : Int) : Severity :=
  if thresholds.errorCriticalDelta ≤ amount then .critical
  else if thresholds.errorAttentionDelta ≤ amount then .attention
  else .notice

def errorReasons (thresholds : HealthThresholds) : List ActiveReason :=
  let amount := delta.errorsRaised
  let shown := Text.ofNat amount.toNat
  if 0 < amount then
    [⟨"interface_errors_increased", gradeErrors thresholds amount,
      delta.port ++ " errors increased by ".toList ++ shown,
      "The cumulative error counter rose by ".toList ++ shown ++
        " since the previous observation.".toList, some delta.port⟩]
  else if delta.counterState = .reset then
    [⟨"interface_counter_reset", .notice, delta.port ++ " error counter reset observed".toList,
      "The counter decreased. A restart or external clear can cause this; SwitchOps cannot determine which.",
      some delta.port⟩]
  else []

def linkReasons (interfaces : List InterfaceStatus) : List ActiveReason :=
  if delta.lostLink then
    let uplink := delta.isUplink interfaces
    [⟨if uplink then "uplink_down" else "interface_link_down",
      if uplink then .critical else .notice, delta.port ++ " link is down".toList,
      "This interface was connected at the previous observation and no longer has a link.",
      some delta.port⟩]
  else []

def speedReasons : List ActiveReason :=
  match delta.slowed with
  | none => []
  | some (previous, current) =>
    [⟨"link_speed_reduced", .notice, delta.port ++ " negotiated a lower speed".toList,
      "Link speed changed from ".toList ++ Text.ofNat previous ++ " Mbps to ".toList ++
        Text.ofNat current ++ " Mbps.".toList, some delta.port⟩]

def duplexReasons : List ActiveReason :=
  if delta.halved then
    [⟨"half_duplex_negotiated", .attention, delta.port ++ " negotiated half duplex".toList,
      "Duplex changed from ".toList ++ (delta.duplexBefore.filter (!·.isEmpty)).getD "unknown" ++ " to ".toList ++
        delta.duplexAfter ++ ".".toList, some delta.port⟩]
  else []

def poeReasons : List ActiveReason :=
  if delta.poeStopped then
    [⟨"poe_stopped", .notice, "PoE stopped on ".toList ++ delta.port,
      "The switch was supplying PoE at the previous observation and is not supplying it now.",
      some delta.port⟩]
  else []

/-- The reasons of one interface. -/
def reasons (thresholds : HealthThresholds) (interfaces : List InterfaceStatus) : List ActiveReason :=
  delta.errorReasons thresholds ++ delta.linkReasons interfaces ++ delta.speedReasons ++
    delta.duplexReasons ++ delta.poeReasons

end InterfaceDelta

/-! ## The verdict -/

/-- `HealthAssessment`, without the time. -/
structure HealthVerdict where
  state : Severity
  reasons : List ActiveReason
  basedOnHistory : Bool
  deriving DecidableEq, Repr

section verdict

variable [NumberFormat] (thresholds : HealthThresholds) (input : HealthInput)

def activeReasons : List ActiveReason :=
  temperatureReasons input ++ cpuReasons thresholds input ++ memoryReasons thresholds input ++
    input.deltas.flatMap (·.reasons thresholds input.interfaces) ++ telemetryReasons input

/-- `evaluate_health` -/
def evaluateHealth : HealthVerdict :=
  let reasons := activeReasons thresholds input
  { state := reasons.foldl (fun state reason => max state reason.severity) .healthy
    reasons := if reasons.isEmpty then
        [⟨"no_active_problems", .healthy, "No active problems detected",
          "Current conditions are within thresholds and no adverse change was observed.", none⟩]
      else reasons
    basedOnHistory := input.deltas.any (·.statusBefore.isSome) }

end verdict

/-! ## A worse observation -/

theorem foldl_max_le_iff {reasons : List ActiveReason} {state c : Severity} :
    reasons.foldl (fun state reason => max state reason.severity) state ≤ c ↔
      state ≤ c ∧ ∀ reason ∈ reasons, reason.severity ≤ c := by
  induction reasons generalizing state with
  | nil => simp
  | cons reason reasons ih => rw [List.foldl_cons, ih, max_le_iff, List.forall_mem_cons, and_assoc]

/-- A reason that is given under a condition. -/
theorem forall_mem_flagged {flag : Bool} {reason : ActiveReason} {c : Severity} :
    (∀ r ∈ (if flag then [reason] else []), r.severity ≤ c) ↔ (flag → reason.severity ≤ c) := by
  cases flag with
  | false => exact ⟨fun _ false_ => absurd false_ (by simp), fun _ => List.forall_mem_nil _⟩
  | true =>
    rw [if_pos rfl, List.forall_mem_singleton]
    exact ⟨fun le _ => le, fun le => le rfl⟩

namespace Severity

theorem healthy_le (c : Severity) : .healthy ≤ c := Nat.zero_le _

theorem gradePct_mono (notice attention critical : Rat) {x y : Rat} (h : x ≤ y) :
    gradePct notice attention critical x ≤ gradePct notice attention critical y := by
  unfold gradePct
  split
  case isTrue high => rw [if_pos (high.trans h)]
  case isFalse =>
    split
    case isTrue high =>
      rw [if_pos (high.trans h)]
      split <;> decide
    case isFalse =>
      split
      case isTrue high =>
        rw [if_pos (high.trans h)]
        split
        · decide
        · split <;> decide
      case isFalse => exact healthy_le _

end Severity

namespace InterfaceDelta

variable (delta : InterfaceDelta) (thresholds : HealthThresholds) (interfaces : List InterfaceStatus)

/-- How bad the error counter is. -/
def errorGrade : Severity :=
  if 0 < delta.errorsRaised then gradeErrors thresholds delta.errorsRaised
  else if delta.counterState = .reset then .notice
  else .healthy

/-- The parts that the severities of an interface come from. -/
theorem reasons_le_iff {c : Severity} : (∀ reason ∈ delta.reasons thresholds interfaces, reason.severity ≤ c) ↔
    delta.errorGrade thresholds ≤ c ∧
      (delta.lostLink → (if delta.isUplink interfaces then .critical else .notice) ≤ c) ∧
      (delta.slowed.isSome → .notice ≤ c) ∧ (delta.halved → .attention ≤ c) ∧ (delta.poeStopped → .notice ≤ c) := by
  have errors : (∀ reason ∈ delta.errorReasons thresholds, reason.severity ≤ c) ↔ delta.errorGrade thresholds ≤ c := by
    unfold errorReasons errorGrade
    dsimp only
    split
    · rw [List.forall_mem_singleton]
    · split
      · rw [List.forall_mem_singleton]
      · exact ⟨fun _ => Severity.healthy_le c, fun _ => List.forall_mem_nil _⟩
  have link : (∀ reason ∈ delta.linkReasons interfaces, reason.severity ≤ c) ↔
      (delta.lostLink → (if delta.isUplink interfaces then .critical else .notice) ≤ c) := forall_mem_flagged
  have speed : (∀ reason ∈ delta.speedReasons, reason.severity ≤ c) ↔ (delta.slowed.isSome → .notice ≤ c) := by
    unfold speedReasons
    cases delta.slowed with
    | none => exact ⟨fun _ none_ => absurd none_ (by simp), fun _ => List.forall_mem_nil _⟩
    | some speeds =>
      rw [List.forall_mem_singleton]
      exact ⟨fun le _ => le, fun le => le rfl⟩
  have duplex : (∀ reason ∈ delta.duplexReasons, reason.severity ≤ c) ↔ (delta.halved → .attention ≤ c) :=
    forall_mem_flagged
  have poe : (∀ reason ∈ delta.poeReasons, reason.severity ≤ c) ↔ (delta.poeStopped → .notice ≤ c) :=
    forall_mem_flagged
  simp only [reasons, List.forall_mem_append, errors, link, speed, duplex, poe, and_assoc]

/-- What the second delta shows of the interface is no better than what the first one shows. -/
structure NoBetter (delta other : InterfaceDelta) : Prop where
  port : delta.port = other.port
  errors : delta.errorsRaised ≤ other.errorsRaised
  reset : delta.counterState = .reset → other.counterState = .reset ∨ 0 < other.errorsRaised
  lost : delta.lostLink = true → other.lostLink = true
  slowed : delta.slowed.isSome = true → other.slowed.isSome = true
  halved : delta.halved = true → other.halved = true
  poeStopped : delta.poeStopped = true → other.poeStopped = true

theorem gradeErrors_mono {x y : Int} (h : x ≤ y) : gradeErrors thresholds x ≤ gradeErrors thresholds y := by
  unfold gradeErrors
  split
  case isTrue high => rw [if_pos (high.trans h)]
  case isFalse =>
    split
    case isTrue high =>
      rw [if_pos (high.trans h)]
      split <;> decide
    case isFalse =>
      split
      · decide
      · split <;> decide

theorem notice_le_gradeErrors (amount : Int) : .notice ≤ gradeErrors thresholds amount := by
  unfold gradeErrors
  split
  · decide
  · split <;> decide

theorem NoBetter.errorGrade_le {delta other : InterfaceDelta} (h : delta.NoBetter other) :
    delta.errorGrade thresholds ≤ other.errorGrade thresholds := by
  unfold errorGrade
  split
  case isTrue rose =>
    rw [if_pos (lt_of_lt_of_le rose h.errors)]
    exact gradeErrors_mono thresholds h.errors
  case isFalse =>
    split
    case isTrue reset =>
      obtain reset' | rose := h.reset reset
      · rw [if_pos reset']
        split
        · exact notice_le_gradeErrors thresholds _
        · exact le_refl _
      · rw [if_pos rose]
        exact notice_le_gradeErrors thresholds _
    case isFalse => exact Severity.healthy_le _

/-- The reasons of a delta are no worse than those of a delta that is no better. -/
theorem NoBetter.reasons_le {delta other : InterfaceDelta} (h : delta.NoBetter other) {c : Severity}
    (bound : ∀ reason ∈ other.reasons thresholds interfaces, reason.severity ≤ c) :
    ∀ reason ∈ delta.reasons thresholds interfaces, reason.severity ≤ c := by
  rw [reasons_le_iff] at bound ⊢
  obtain ⟨errors, link, slowed, halved, poe⟩ := bound
  have uplink : delta.isUplink interfaces = other.isUplink interfaces := by simp only [isUplink, h.port]
  rw [uplink]
  exact ⟨(h.errorGrade_le thresholds).trans errors, fun lost => link (h.lost lost), fun s => slowed (h.slowed s),
    fun s => halved (h.halved s), fun s => poe (h.poeStopped s)⟩

end InterfaceDelta

/-- The second observation is no better than the first one in any respect. -/
structure HealthInput.NoBetter (input other : HealthInput) : Prop where
  interfaces : input.interfaces = other.interfaces
  temperature : gradeTemperature input.temperatureState ≤ gradeTemperature other.temperatureState
  cpu : ∀ x ∈ input.cpu5Sec, ∃ y ∈ other.cpu5Sec, x ≤ y
  memory : ∀ x ∈ input.memoryUsedPct, ∃ y ∈ other.memoryUsedPct, x ≤ y
  deltas : ∀ delta ∈ input.deltas, ∃ delta' ∈ other.deltas, delta.NoBetter delta'
  telemetry : other.telemetryComplete = true → input.telemetryComplete = true

section monotone

variable [NumberFormat] (thresholds : HealthThresholds)

omit [NumberFormat] in
theorem temperature_le_iff {input : HealthInput} {c : Severity} :
    (∀ reason ∈ temperatureReasons input, reason.severity ≤ c) ↔ gradeTemperature input.temperatureState ≤ c := by
  unfold temperatureReasons
  dsimp only
  cases grade : gradeTemperature input.temperatureState with
  | critical => simp
  | attention => simp
  | healthy => simp [Severity.healthy_le]
  | notice =>
    -- no temperature is graded so
    unfold gradeTemperature at grade
    split at grade
    · cases grade
    · split at grade <;> cases grade

theorem cpu_le_iff {input : HealthInput} {c : Severity} : (∀ reason ∈ cpuReasons thresholds input, reason.severity ≤ c) ↔
    ∀ x ∈ input.cpu5Sec,
      gradePct thresholds.cpuNoticePct thresholds.cpuAttentionPct thresholds.cpuCriticalPct x ≤ c := by
  unfold cpuReasons
  cases input.cpu5Sec with
  | none => simp
  | some x =>
    dsimp only
    cases grade : gradePct thresholds.cpuNoticePct thresholds.cpuAttentionPct thresholds.cpuCriticalPct x <;>
      simp [grade, Severity.healthy_le]

theorem memory_le_iff {input : HealthInput} {c : Severity} :
    (∀ reason ∈ memoryReasons thresholds input, reason.severity ≤ c) ↔ ∀ x ∈ input.memoryUsedPct,
      gradePct thresholds.memoryNoticeUsedPct thresholds.memoryAttentionUsedPct thresholds.memoryCriticalUsedPct x ≤ c := by
  unfold memoryReasons
  cases input.memoryUsedPct with
  | none => simp
  | some x =>
    dsimp only
    cases grade : gradePct thresholds.memoryNoticeUsedPct thresholds.memoryAttentionUsedPct
        thresholds.memoryCriticalUsedPct x <;>
      simp [grade, Severity.healthy_le]

/-- The verdict is the worst severity of the reasons. -/
theorem state_le_iff {input : HealthInput} {c : Severity} :
    (evaluateHealth thresholds input).state ≤ c ↔ ∀ reason ∈ activeReasons thresholds input, reason.severity ≤ c := by
  unfold evaluateHealth
  dsimp only
  rw [foldl_max_le_iff]
  exact and_iff_right (Severity.healthy_le c)

/-- **A worse observation** never gets a better verdict, whatever the thresholds are. -/
theorem evaluateHealth_mono {input other : HealthInput} (h : input.NoBetter other) :
    (evaluateHealth thresholds input).state ≤ (evaluateHealth thresholds other).state := by
  have bound := (state_le_iff thresholds).mp (le_refl (evaluateHealth thresholds other).state)
  rw [state_le_iff]
  simp only [activeReasons, List.forall_mem_append] at bound ⊢
  obtain ⟨⟨⟨⟨temperature, cpu⟩, memory⟩, deltas⟩, telemetry⟩ := bound
  rw [temperature_le_iff] at temperature ⊢
  rw [cpu_le_iff] at cpu ⊢
  rw [memory_le_iff] at memory ⊢
  refine ⟨⟨⟨⟨h.temperature.trans temperature, fun x here => ?_⟩, fun x here => ?_⟩, fun reason here => ?_⟩,
    fun reason here => ?_⟩
  · obtain ⟨y, there, le⟩ := h.cpu x here
    exact (Severity.gradePct_mono _ _ _ le).trans (cpu y there)
  · obtain ⟨y, there, le⟩ := h.memory x here
    exact (Severity.gradePct_mono _ _ _ le).trans (memory y there)
  · obtain ⟨delta, known, mine⟩ := List.mem_flatMap.mp here
    obtain ⟨delta', known', worse⟩ := h.deltas delta known
    rw [h.interfaces] at mine
    refine worse.reasons_le thresholds other.interfaces (fun reason there => ?_) reason mine
    exact deltas reason (List.mem_flatMap.mpr ⟨delta', known', there⟩)
  · refine telemetry reason ?_
    unfold telemetryReasons at here ⊢
    split at here
    · cases here
    · next partial_ =>
      rw [if_neg fun complete => partial_ (h.telemetry complete)]
      exact here

end monotone

/-- Numbers as they are, without decimals. -/
@[reducible] def wholeNumbers : NumberFormat := ⟨fun _ value => (ToString.toString value.floor).toList⟩

theorem noBetter_cpu :
    HealthInput.NoBetter { cpu5Sec := some 70 } { cpu5Sec := some 99, telemetryComplete := false } where
  interfaces := rfl
  temperature := le_refl _
  cpu := by
    intro x here
    cases here
    exact ⟨99, rfl, by norm_num⟩
  memory := fun x here => absurd here (by simp [HealthInput.memoryUsedPct])
  deltas := List.forall_mem_nil _
  telemetry := fun complete => absurd complete (by simp)

theorem evaluateHealth_mono_cpu :
    (@evaluateHealth wholeNumbers {} { cpu5Sec := some 70 }).state
      ≤ (@evaluateHealth wholeNumbers {} { cpu5Sec := some 99, telemetryComplete := false }).state :=
  @evaluateHealth_mono wholeNumbers {} _ _ noBetter_cpu

/-! ## A quiet interval -/

section quiet

variable [Digest]

/-- A port reads at an observation as it did at the one before. -/
structure ReadsAlike (earlier later : TelemetryObservation) (before current : InterfaceStatus) : Prop where
  status : before.status = current.status
  speed : before.speed = current.speed
  duplex : before.duplex = current.duplex
  errors : earlier.errorTotal current.port = later.errorTotal current.port
  poe : earlier.poeState current.port = later.poeState current.port

/-- Between the two observations of a device only others are recorded, none of them so late that the
earlier one is dropped. -/
structure OnlyOthers (retention : Nat) (earlier : TelemetryObservation) (others : List TelemetryObservation) : Prop where
  device : ∀ seen ∈ others, seen.deviceId ≠ earlier.deviceId
  time : ∀ seen ∈ others, seen.observedAt ≤ earlier.observedAt + retention

omit [Digest] in
theorem find?_filter_of_pos {α : Type*} {p q : α → Bool} {l : List α} {a : α} (found : l.find? q = some a)
    (kept : p a) : (l.filter p).find? q = some a := by
  induction l with
  | nil => cases found
  | cons b l ih =>
    rw [List.find?_cons] at found
    cases here : q b with
    | true =>
      obtain rfl : b = a := by simpa [here] using found
      rw [List.filter_cons_of_pos kept, List.find?_cons_of_pos here]
    | false =>
      have rest := ih (by simpa [here] using found)
      cases keep : p b with
      | true => rw [List.filter_cons_of_pos keep, List.find?_cons_of_neg (by simp [here]), rest]
      | false => rw [List.filter_cons_of_neg (by simp [keep]), rest]

namespace TelemetryTables

variable {retention : Nat} {tables stored : TelemetryTables} {seen : TelemetryObservation}

/-- What is stored of the snapshots, where an observation is recorded. -/
theorem snapshots_recordSnapshot {recording : Recording}
    (recorded : tables.recordSnapshot retention seen = some (stored, recording)) :
    ∃ nodup, stored.snapshots = (tables.snapshots ++ [seen.snapshot nodup]).filter
      fun snapshot => seen.observedAt ≤ snapshot.timestamp + retention := by
  unfold recordSnapshot at recorded
  split at recorded
  case isFalse => cases recorded
  case isTrue nodup =>
    obtain ⟨rfl, -⟩ := Prod.mk.inj (Option.some.inj recorded)
    exact ⟨nodup, rfl⟩

/-- What is latest of a device once it was recorded. -/
theorem latestSnapshot_recordSnapshot {recording : Recording}
    (recorded : tables.recordSnapshot retention seen = some (stored, recording)) :
    ∃ nodup, stored.latestSnapshot seen.deviceId = some (seen.snapshot nodup) := by
  obtain ⟨nodup, snapshots⟩ := snapshots_recordSnapshot recorded
  refine ⟨nodup, ?_⟩
  rw [latestSnapshot, snapshots, ← List.filter_reverse, List.reverse_append]
  apply find?_filter_of_pos
  · apply List.find?_cons_of_pos
    show decide (seen.deviceId = seen.deviceId) = true
    exact decide_eq_true rfl
  · show decide (seen.observedAt ≤ seen.observedAt + retention) = true
    exact decide_eq_true (Nat.le_add_right ..)

/-- Another device's observation leaves the latest one of a device, unless that is too old. -/
theorem latestSnapshot_record {deviceId : Text} {snapshot : TelemetrySnapshot} (foreign : seen.deviceId ≠ deviceId)
    (recent : seen.observedAt ≤ snapshot.timestamp + retention) (latest : tables.latestSnapshot deviceId = some snapshot) :
    (tables.record retention seen).latestSnapshot deviceId = some snapshot := by
  unfold record
  cases recorded : tables.recordSnapshot retention seen with
  | none => exact latest
  | some result =>
    obtain ⟨stored, recording⟩ := result
    obtain ⟨nodup, snapshots⟩ := snapshots_recordSnapshot recorded
    show stored.latestSnapshot deviceId = some snapshot
    rw [latestSnapshot, snapshots, ← List.filter_reverse, List.reverse_append]
    apply find?_filter_of_pos
    · rw [List.reverse_singleton, List.singleton_append, List.find?_cons_of_neg]
      · exact latest
      · show ¬decide (seen.deviceId = deviceId) = true
        simpa using foreign
    · exact decide_eq_true recent

theorem latestSnapshot_others {earlier : TelemetryObservation} {others : List TelemetryObservation}
    (only : OnlyOthers retention earlier others) {nodup : (earlier.interfaces.map (·.port)).Nodup}
    (latest : stored.latestSnapshot earlier.deviceId = some (earlier.snapshot nodup)) :
    (others.foldl (record retention) stored).latestSnapshot earlier.deviceId = some (earlier.snapshot nodup) := by
  induction others generalizing stored with
  | nil => exact latest
  | cons seen others ih =>
    obtain ⟨device, devices⟩ := List.forall_mem_cons.mp only.device
    obtain ⟨time, times⟩ := List.forall_mem_cons.mp only.time
    exact ih ⟨devices, times⟩ (latestSnapshot_record device time latest)

end TelemetryTables

/-- An interface that is new, or reads as it did, gives no reason. -/
theorem reasons_delta_of_alike (thresholds : HealthThresholds) (interfaces : List InterfaceStatus)
    (earlier : TelemetryObservation) {later : TelemetryObservation} {previous : Option InterfaceRow} {current : InterfaceStatus}
    (alike : ∀ row ∈ previous, ∃ before, row = earlier.interfaceRow before ∧ before.port = current.port ∧
      ReadsAlike earlier later before current) :
    (later.delta previous current).reasons thresholds interfaces = [] := by
  cases previous with
  | none =>
    simp [InterfaceDelta.reasons, InterfaceDelta.errorReasons, InterfaceDelta.linkReasons, InterfaceDelta.speedReasons,
      InterfaceDelta.duplexReasons, InterfaceDelta.poeReasons, InterfaceDelta.errorsRaised, InterfaceDelta.lostLink,
      InterfaceDelta.slowed, InterfaceDelta.stayedConnected, InterfaceDelta.halved, InterfaceDelta.poeStopped,
      TelemetryObservation.delta, deriveDelta, calculateCounterDelta, speedMbps, suppliesPoe]
  | some row =>
    obtain ⟨before, rfl, port, same⟩ := alike row rfl
    have counter : calculateCounterDelta (some (earlier.errorTotal before.port)) (later.errorTotal current.port)
        = (some 0, .unchanged) := by
      rw [port, same.errors]
      exact if_pos rfl
    have errors : (later.delta (some (earlier.interfaceRow before)) current).errorReasons thresholds = [] := by
      simp [InterfaceDelta.errorReasons, InterfaceDelta.errorsRaised, TelemetryObservation.delta, deriveDelta,
        TelemetryObservation.interfaceRow, counter]
    have link : (later.delta (some (earlier.interfaceRow before)) current).linkReasons interfaces = [] := by
      refine if_neg fun lost => ?_
      simp [InterfaceDelta.lostLink, TelemetryObservation.delta, deriveDelta, TelemetryObservation.interfaceRow,
        same.status] at lost
    have speed : (later.delta (some (earlier.interfaceRow before)) current).speedReasons = [] := by
      have slowed : (later.delta (some (earlier.interfaceRow before)) current).slowed = none := by
        unfold InterfaceDelta.slowed
        simp only [TelemetryObservation.delta, deriveDelta, TelemetryObservation.interfaceRow, Option.map_some,
          same.speed]
        cases speedMbps (some current.speed) <;> simp
      rw [InterfaceDelta.speedReasons, slowed]
    have duplex : (later.delta (some (earlier.interfaceRow before)) current).duplexReasons = [] := by
      refine if_neg fun halved => ?_
      simp [InterfaceDelta.halved, TelemetryObservation.delta, deriveDelta, TelemetryObservation.interfaceRow,
        same.duplex] at halved
    have poe : (later.delta (some (earlier.interfaceRow before)) current).poeReasons = [] := by
      refine if_neg fun stopped => ?_
      simp [InterfaceDelta.poeStopped, TelemetryObservation.delta, deriveDelta, TelemetryObservation.interfaceRow,
        port, same.poe] at stopped
    simp only [InterfaceDelta.reasons, errors, link, speed, duplex, poe, List.append_nil]

/-- **A quiet interval.** A device is observed, then others are, and then it is observed again with
every port that was listed before reading as it did: whatever its counters stand at, the verdict is
the one that present conditions alone give. -/
theorem quiet_interval [NumberFormat] (thresholds : HealthThresholds) (input : HealthInput) {retention : Nat}
    {tables stored : TelemetryTables} {earlier later : TelemetryObservation} {others : List TelemetryObservation}
    {recording : Recording} (recorded : tables.recordSnapshot retention earlier = some (stored, recording))
    (only : OnlyOthers retention earlier others) (device : later.deviceId = earlier.deviceId)
    (alike : ∀ current ∈ later.interfaces, ∀ before ∈ earlier.interfaces, before.port = current.port →
      ReadsAlike earlier later before current)
    (deltas : input.deltas = ((others.foldl (TelemetryTables.record retention) stored).compare later).deltas) :
    evaluateHealth thresholds input = { evaluateHealth thresholds { input with deltas := [] } with
      basedOnHistory := input.deltas.any (·.statusBefore.isSome) } := by
  obtain ⟨nodup, latest⟩ := TelemetryTables.latestSnapshot_recordSnapshot recorded
  have kept := TelemetryTables.latestSnapshot_others only latest
  have silent : ∀ delta ∈ input.deltas, delta.reasons thresholds input.interfaces = [] := by
    intro delta here
    rw [deltas] at here
    obtain ⟨current, listed, rfl⟩ := List.mem_map.mp here
    apply reasons_delta_of_alike thresholds input.interfaces earlier
    intro row known
    rw [TelemetryTables.previousRow, device, kept] at known
    -- the row is that of an interface of the earlier observation
    have known' : (earlier.interfaces.map earlier.interfaceRow).find? (fun row => row.port = current.port)
      = some row := known
    rw [List.find?_map] at known'
    obtain ⟨before, found, rfl⟩ := Option.map_eq_some_iff.mp known'
    have port : (earlier.interfaceRow before).port = current.port := by simpa using List.find?_some found
    exact ⟨before, rfl, port, alike current listed before (List.mem_of_find?_eq_some found) port⟩
  have reasons : activeReasons thresholds input = activeReasons thresholds { input with deltas := [] } := by
    unfold activeReasons
    rw [List.flatMap_eq_nil_iff.mpr silent]
    rfl
  simp only [evaluateHealth, reasons]

end quiet

/-- A half-duplex link with old errors on it. -/
def wornLink (deviceId : Text) (observedAt : Nat) : TelemetryObservation where
  deviceId := deviceId
  observedAt := observedAt
  interfaces :=
    [{ port := "Fa0/7", name := "Access point", status := "connected", vlan := "1", duplex := "a-half",
       speed := "a-10", type := "10/100BaseTX" }]
  errors := [{ port := "Fa0/7", fcsErr := 512, total := 512 }]
  poePorts := []
  macEntries := []

/-- What is seen of the link the second time, another switch having been observed in between. -/
def wornInput : HealthInput where
  cpu5Sec := some 70
  deltas := (@TelemetryTables.compare sampleDigest ([wornLink "garage-switch" 15].foldl
    (@TelemetryTables.record sampleDigest 30)
    { snapshots := [@TelemetryObservation.snapshot sampleDigest (wornLink "core-switch" 10) (List.nodup_singleton _)] })
    (wornLink "core-switch" 20)).deltas

theorem quiet_interval_wornLink : @evaluateHealth wholeNumbers {} wornInput =
    { @evaluateHealth wholeNumbers {} { wornInput with deltas := [] } with
      basedOnHistory := wornInput.deltas.any (·.statusBefore.isSome) } :=
  @quiet_interval sampleDigest wholeNumbers {} wornInput 30 {} _ (wornLink "core-switch" 10)
    (wornLink "core-switch" 20) [wornLink "garage-switch" 15] _ rfl
    ⟨by decide, by decide⟩ rfl (fun current here before there _ => by
      obtain rfl := List.mem_singleton.mp here
      obtain rfl := List.mem_singleton.mp there
      exact ⟨rfl, rfl, rfl, rfl, rfl⟩) rfl

end SwitchOps
