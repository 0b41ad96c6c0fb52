import SwitchOps.Lib.Cadence
import SwitchOps.Lib.Machine
import SwitchOps.CommandRegistry
import SwitchOps.Session.Manager
import Mathlib.Algebra.Order.Ring.Rat

/-!
# The loop of the live collector

`LiveCollector._loop` with the other threads around it: the clock runs, settings are applied, and
requests pause and resume the collection between any two steps of the loop. The periods are clamped
when settings are applied, so that no setting makes the collection crowd the device or fall asleep
(`gentle_of_reaches`). Seconds are rationals.
-/

namespace SwitchOps

open Machines Cadence

/-! ## Settings -/

/-- The four things the loop waits for. -/
inductive Timer
  | fast
  | medium
  | slow
  | history
  deriving DecidableEq, Repr

namespace Timer

/-- `FAST_BOUNDS`, `MEDIUM_BOUNDS`, `SLOW_BOUNDS` and `HISTORY_BOUNDS`. -/
def bounds : Timer → ℚ × ℚ
  | fast => (2, 60)
  | medium => (10, 300)
  | slow => (30, 900)
  | history => (30, 3600)

def lower (timer : Timer) : ℚ := timer.bounds.1
def upper (timer : Timer) : ℚ := timer.bounds.2

theorem bounds_ordered (timer : Timer) : 0 < timer.lower ∧ timer.lower ≤ timer.upper := by
  cases timer <;> simp [lower, upper, bounds] <;> norm_num

end Timer

/-- `_clamp`. -/
def clamp (value : ℚ) (bounds : ℚ × ℚ) : ℚ := max bounds.1 (min bounds.2 value)

/-- `TierConfig`. -/
structure TierConfig where
  fastSeconds : ℚ := 5
  mediumSeconds : ℚ := 20
  slowSeconds : ℚ := 60
  historySeconds : ℚ := 60
  deriving DecidableEq

namespace TierConfig

/-- `clamped`. -/
def clamped (config : TierConfig) : TierConfig where
  fastSeconds := clamp config.fastSeconds Timer.fast.bounds
  mediumSeconds := clamp config.mediumSeconds Timer.medium.bounds
  slowSeconds := clamp config.slowSeconds Timer.slow.bounds
  historySeconds := clamp config.historySeconds Timer.history.bounds

/-- The period of a timer. -/
def seconds (config : TierConfig) : Timer → ℚ
  | .fast => config.fastSeconds
  | .medium => config.mediumSeconds
  | .slow => config.slowSeconds
  | .history => config.historySeconds

theorem seconds_clamped (config : TierConfig) (timer : Timer) :
    config.clamped.seconds timer = clamp (config.seconds timer) timer.bounds := by
  cases timer <;> rfl

end TierConfig

/-- The configuration of a collector: every period is within its bounds. -/
structure ClampedConfig where
  config : TierConfig
  lower_le : ∀ timer : Timer, timer.lower ≤ config.seconds timer
  le_upper : ∀ timer : Timer, config.seconds timer ≤ timer.upper

/-- What settings are clamped to. -/
def TierConfig.toClamped (config : TierConfig) : ClampedConfig where
  config := config.clamped
  lower_le timer := by
    rw [seconds_clamped]
    exact le_max_left _ _
  le_upper timer := by
    rw [seconds_clamped]
    exact max_le timer.bounds_ordered.2 (min_le_left _ _)

/-! ## The loop -/

/-- `_medium_slots`, from the index on. -/
def mediumSlot (index : Nat) : MediumSlot :=
  [MediumSlot.poe, .errors, .environment, .load].getD (index % 4) .poe

/-- The timer that collects a tier. -/
def Tier.timer : Tier → Timer
  | .fast => .fast
  | .medium _ => .medium
  | .slow => .slow

/-- The reads of the job of a tier; the first that fails ends the job. -/
def Tier.reads : Tier → List ReadSymbol
  | .fast => [.showInterfacesStatus]
  | .medium .poe => [.showPowerInline]
  | .medium .errors => [.showInterfacesCountersErrors]
  | .medium .environment => [.showEnvAll]
  | .medium .load => [.showProcessesCpu]
  | .slow => [.showMacAddressTable, .showIpArp, .showCdpNeighborsDetail, .showLldpNeighborsDetail]

/-- A call of `_submit` by the loop, which read the clock at `time`. -/
structure Attempt where
  tier : Tier
  time : ℚ
  submitted : Bool
  deriving DecidableEq

/-- Where the loop is. -/
inductive LoopPc
  | top
  /-- The clock was read, and the pause is tested next. -/
  | read (now : ℚ)
  /-- The deadline of a timer is tested next. -/
  | due (timer : Timer) (now : ℚ)
  | ended
  deriving DecidableEq

/-- `LiveCollector`, with the variables of its loop. `attempts` is a ghost. -/
structure LiveCollector where
  clock : ℚ
  config : ClampedConfig
  next : Timer → ℚ
  pc : LoopPc := .top
  paused : Bool := false
  stopping : Bool := false
  mediumIndex : Nat := 0
  ticksRun : Nat := 0
  ticksSkipped : Nat := 0
  attempts : List Attempt := []

/-- What happens: the clock runs, another thread calls, or the loop moves. For the loop, `waiting`
is the answer of `has_pending`, and `raises` says how `on_history_tick` ends. -/
inductive CollectorAction
  | elapse (seconds : ℚ)
  | applyConfig (config : TierConfig)
  | pause
  | resume
  | stop
  | loop (waiting raises : Bool)

namespace LiveCollector

/-- The state in which the loop starts: everything is due. -/
def started (clock : ℚ) (config : TierConfig) : LiveCollector where
  clock := clock
  config := config.toClamped
  next _ := clock

/-- `_submit`. -/
def submit (c : LiveCollector) (tier : Tier) (now : ℚ) (waiting : Bool) : LiveCollector :=
  if waiting then
    { c with
      ticksSkipped := c.ticksSkipped + 1
      attempts := c.attempts ++ [⟨tier, now, false⟩] }
  else
    { c with
      ticksRun := c.ticksRun + 1
      attempts := c.attempts ++ [⟨tier, now, true⟩] }

/-- `collect_fast`, `collect_medium` and `collect_slow`; the history is not collected here. -/
def collect (c : LiveCollector) (timer : Timer) (now : ℚ) (waiting : Bool) : LiveCollector :=
  match timer with
  | .fast => c.submit .fast now waiting
  | .medium =>
    { c with mediumIndex := c.mediumIndex + 1 }.submit (.medium (mediumSlot c.mediumIndex)) now waiting
  | .slow => c.submit .slow now waiting
  | .history => c

/-- Where the loop is after a timer was dealt with. -/
def after (now : ℚ) : Timer → LoopPc
  | .fast => .due .medium now
  | .medium => .due .slow now
  | .slow => .due .history now
  | .history => .top

/-- `if now >= next: collect(); next = now + seconds`. An exception of the history ends the
iteration. -/
def whenDue (c : LiveCollector) (timer : Timer) (now : ℚ) (waiting raises : Bool) : LiveCollector :=
  if c.next timer ≤ now then
    if timer = .history ∧ raises then { c with pc := .top }
    else
      let c := c.collect timer now waiting
      { c with
        next := Function.update c.next timer (now + c.config.config.seconds timer)
        pc := after now timer }
  else { c with pc := after now timer }

/-- A step of the loop. -/
def loop (c : LiveCollector) (waiting raises : Bool) : Option LiveCollector :=
  match c.pc with
  | .top => some { c with pc := if c.stopping then .ended else .read c.clock }
  | .read now => some { c with pc := if c.paused then .top else .due .fast now }
  | .due timer now => some (c.whenDue timer now waiting raises)
  | .ended => none

/-- A step of the collector and the threads around it. -/
def step (c : LiveCollector) : CollectorAction → Option LiveCollector
  | .elapse seconds => if 0 ≤ seconds then some { c with clock := c.clock + seconds } else none
  | .applyConfig config => some { c with config := config.toClamped }
  | .pause => some { c with paused := true }
  | .resume => some { c with paused := false }
  | .stop => some { c with stopping := true }
  | .loop waiting raises => c.loop waiting raises

/-! ## What the loop has done -/

/-- The attempts of a timer. -/
def attemptsOf (c : LiveCollector) (timer : Timer) : List Attempt :=
  c.attempts.filter fun attempt => attempt.tier.timer = timer

/-- The attempts of a tier. -/
def attemptsAt (c : LiveCollector) (tier : Tier) : List Attempt :=
  c.attempts.filter fun attempt => attempt.tier = tier

/-- The reads of the jobs that were submitted within a window of time. -/
def readsWithin (c : LiveCollector) (start width : ℚ) : List ReadSymbol :=
  (c.attempts.filter fun attempt =>
    attempt.submitted ∧ start ≤ attempt.time ∧ attempt.time ≤ start + width).flatMap (·.tier.reads)

/-! ## The steps of the loop -/

section steps

variable {c : LiveCollector} {timer : Timer} {now : ℚ} {waiting : Bool}

/-- What `_submit` leaves alone, and what it logs. -/
theorem submit_eq (tier : Tier) : c.submit tier now waiting =
    { c.submit tier now waiting with
      clock := c.clock, config := c.config, next := c.next, pc := c.pc, paused := c.paused,
      stopping := c.stopping, mediumIndex := c.mediumIndex
      attempts := c.attempts ++ [⟨tier, now, !waiting⟩] } := by
  cases waiting <;> rfl

/-- A collection attempts a tier of its timer, and the medium one takes its slots in turns. -/
theorem collect_spec (h : timer ≠ .history) : ∃ attempt : Attempt, attempt.tier.timer = timer ∧
    attempt.time = now ∧ (c.collect timer now waiting).attempts = c.attempts ++ [attempt] ∧
    (c.collect timer now waiting).clock = c.clock ∧ (c.collect timer now waiting).config = c.config ∧
    (c.collect timer now waiting).next = c.next ∧
    (c.collect timer now waiting).mediumIndex = c.mediumIndex + (if timer = .medium then 1 else 0) ∧
    (timer = .medium → attempt.tier = .medium (mediumSlot c.mediumIndex)) := by
  cases timer with
  | fast =>
    refine ⟨⟨.fast, now, !waiting⟩, rfl, rfl, ?_⟩
    rw [collect, submit_eq]
    exact ⟨rfl, rfl, rfl, rfl, rfl, nofun⟩
  | medium =>
    refine ⟨⟨.medium (mediumSlot c.mediumIndex), now, !waiting⟩, rfl, rfl, ?_⟩
    rw [collect, submit_eq]
    exact ⟨rfl, rfl, rfl, rfl, rfl, fun _ => rfl⟩
  | slow =>
    refine ⟨⟨.slow, now, !waiting⟩, rfl, rfl, ?_⟩
    rw [collect, submit_eq]
    exact ⟨rfl, rfl, rfl, rfl, rfl, nofun⟩
  | history => exact absurd rfl h

end steps

/-! ## The pace -/

/-- The timers that an iteration has dealt with when it comes to this one. -/
def passed : Timer → List Timer
  | .fast => []
  | .medium => [.fast]
  | .slow => [.fast, .medium]
  | .history => [.fast, .medium, .slow]

/-- **The pace of a collector** that was started at `start`. -/
structure Paced (start : ℚ) (c : LiveCollector) : Prop where
  begun : start ≤ c.clock
  reading : ∀ now, c.pc = .read now → start ≤ now ∧ now ≤ c.clock
  testing : ∀ timer now, c.pc = .due timer now →
    start ≤ now ∧ now ≤ c.clock ∧ ∀ t ∈ passed timer, now < c.next t
  apart : ∀ timer, Spaced timer.lower Attempt.time (c.attemptsOf timer)
  ahead : ∀ timer, ∀ attempt ∈ c.attemptsOf timer, attempt.time + timer.lower ≤ c.next timer
  soon : ∀ timer ≠ .history, c.next timer ≤ start ∨
    ∃ attempt ∈ c.attemptsOf timer, attempt.time ≤ c.clock ∧ c.next timer ≤ attempt.time + timer.upper
  index : c.mediumIndex = (c.attemptsOf .medium).length
  turns : ∀ i (h : i < (c.attemptsOf .medium).length),
    (c.attemptsOf .medium)[i].tier = .medium (mediumSlot i)

namespace Paced

variable {start : ℚ} {c c' : LiveCollector}

theorem initial (config : TierConfig) : Paced start (started start config) := by
  constructor
  case begun => exact le_rfl
  case reading => rintro now ⟨⟩
  case testing => rintro timer now ⟨⟩
  case apart => exact fun _ => .nil
  case ahead => exact fun _ _ hmem => absurd hmem List.not_mem_nil
  case soon => exact fun _ _ => .inl le_rfl
  case index => rfl
  case turns => exact fun i hi => absurd hi (Nat.not_lt_zero i)

/-- What collects nothing keeps the pace: the clock runs on, and the loop moves on. -/
theorem quiet (h : Paced start c) (hclock : c.clock ≤ c'.clock)
    (hnext : ∀ timer ≠ .history, c'.next timer = c.next timer)
    (hindex : c'.mediumIndex = c.mediumIndex) (hattempts : c'.attempts = c.attempts)
    (hreading : ∀ now, c'.pc = .read now → start ≤ now ∧ now ≤ c'.clock)
    (htesting : ∀ timer now, c'.pc = .due timer now →
      start ≤ now ∧ now ≤ c'.clock ∧ ∀ t ∈ passed timer, now < c'.next t) : Paced start c' := by
  have hof (timer : Timer) : c'.attemptsOf timer = c.attemptsOf timer := by
    rw [attemptsOf, attemptsOf, hattempts]
  constructor
  case begun => exact h.begun.trans hclock
  case reading => exact hreading
  case testing => exact htesting
  case apart => exact fun timer => by rw [hof]; exact h.apart timer
  case ahead =>
    intro timer attempt hmem
    rw [hof] at hmem
    -- no tier is collected by the timer of the history
    have htimer : timer ≠ .history := by
      rintro rfl
      obtain ⟨-, htimer⟩ := List.mem_filter.mp hmem
      cases htier : attempt.tier <;> simp [htier, Tier.timer] at htimer
    rw [hnext timer htimer]
    exact h.ahead timer attempt hmem
  case soon =>
    intro timer htimer
    rw [hnext timer htimer, hof]
    rcases h.soon timer htimer with hstart | ⟨attempt, hmem, htime, hupper⟩
    · exact .inl hstart
    · exact .inr ⟨attempt, hmem, htime.trans hclock, hupper⟩
  case index => rw [hindex, hof]; exact h.index
  case turns => simp only [hof]; exact h.turns

/-- **A timer that is due is collected**, and its next deadline is a period away. -/
theorem collected (h : Paced start c) {timer : Timer} {now period : ℚ} (hpc : c.pc = .due timer now)
    (htimer : timer ≠ .history) (hdue : c.next timer ≤ now) (hlower : timer.lower ≤ period)
    (hupper : period ≤ timer.upper) {attempt : Attempt} (htier : attempt.tier.timer = timer)
    (htime : attempt.time = now)
    (hslot : timer = .medium → attempt.tier = .medium (mediumSlot c.mediumIndex))
    (hclock : c'.clock = c.clock) (hpc' : c'.pc = after now timer)
    (hattempts : c'.attempts = c.attempts ++ [attempt])
    (hnext : c'.next = Function.update c.next timer (now + period))
    (hindex : c'.mediumIndex = c.mediumIndex + if timer = .medium then 1 else 0) : Paced start c' := by
  obtain ⟨hstart, hnow, hpassed⟩ := h.testing timer now hpc
  have hpositive := timer.bounds_ordered.1
  have hself : c'.attemptsOf timer = c.attemptsOf timer ++ [attempt] := by
    simp [attemptsOf, hattempts, List.filter_append, htier]
  have hother {t : Timer} (ht : t ≠ timer) : c'.attemptsOf t = c.attemptsOf t := by
    simp [attemptsOf, hattempts, List.filter_append, htier, ht.symm]
  have hnextSelf : c'.next timer = now + period := by rw [hnext, Function.update_self]
  have hnextOther {t : Timer} (ht : t ≠ timer) : c'.next t = c.next t := by
    rw [hnext, Function.update_of_ne ht]
  constructor
  case begun => exact h.begun.trans hclock.ge
  case reading =>
    intro now' hread
    rw [hpc'] at hread
    cases timer <;> cases hread
  case testing =>
    intro timer' now' htest
    rw [hpc'] at htest
    have hnow' : now' = now ∧ passed timer' = passed timer ++ [timer] := by
      cases timer with
      | fast => cases htest; exact ⟨rfl, rfl⟩
      | medium => cases htest; exact ⟨rfl, rfl⟩
      | slow => cases htest; exact ⟨rfl, rfl⟩
      | history => exact absurd rfl htimer
    rw [hnow'.1, hnow'.2, hclock]
    refine ⟨hstart, hnow, fun t ht => ?_⟩
    by_cases hsame : t = timer
    · rw [hsame, hnextSelf]
      linarith
    · rw [hnextOther hsame]
      refine hpassed t ((List.mem_append.mp ht).resolve_right fun hlast => ?_)
      exact hsame (List.mem_singleton.mp hlast)
  case apart =>
    intro t
    by_cases hsame : t = timer
    · subst hsame
      rw [hself]
      refine (h.apart t).concat fun a ha => ?_
      rw [htime]
      exact (h.ahead t a ha).trans hdue
    · rw [hother hsame]
      exact h.apart t
  case ahead =>
    intro t a ha
    by_cases hsame : t = timer
    · subst hsame
      rw [hself] at ha
      rw [hnextSelf]
      rcases List.mem_append.mp ha with hold | hlast
      · have hahead := h.ahead t a hold
        linarith
      · rw [List.mem_singleton.mp hlast, htime]
        linarith
    · rw [hother hsame] at ha
      rw [hnextOther hsame]
      exact h.ahead t a ha
  case soon =>
    intro t ht
    rw [hclock]
    by_cases hsame : t = timer
    · subst hsame
      refine .inr ⟨attempt, ?_, ?_, ?_⟩
      · rw [hself]
        exact List.mem_append_right _ (List.mem_singleton_self attempt)
      · rw [htime]
        exact hnow
      · rw [hnextSelf, htime]
        linarith
    · rw [hnextOther hsame, hother hsame]
      exact h.soon t ht
  case index =>
    by_cases hsame : timer = .medium
    · subst hsame
      rw [hindex, hself, h.index, if_pos rfl, List.length_append, List.length_singleton]
    · rw [hindex, hother (Ne.symm hsame), h.index, if_neg hsame, Nat.add_zero]
  case turns =>
    intro i hi
    by_cases hsame : timer = .medium
    · subst hsame
      simp only [hself, List.getElem_append]
      split
      · next hold => exact h.turns i hold
      · next hlast =>
        rw [hself, List.length_append, List.length_singleton] at hi
        rw [List.getElem_singleton, hslot rfl, h.index]
        congr
        omega
    · simp only [hother (Ne.symm hsame)]
      rw [hother (Ne.symm hsame)] at hi
      exact h.turns i hi

/-- Every step of the loop keeps the pace. -/
theorem whenDue (h : Paced start c) {timer : Timer} {now : ℚ} (hpc : c.pc = .due timer now)
    (waiting raises : Bool) : Paced start (c.whenDue timer now waiting raises) := by
  obtain ⟨hstart, hnow, hpassed⟩ := h.testing timer now hpc
  unfold LiveCollector.whenDue
  by_cases hdue : c.next timer ≤ now
  · rw [if_pos hdue]
    by_cases hhistory : timer = .history
    · subst hhistory
      split
      · exact h.quiet le_rfl (fun _ _ => rfl) rfl rfl nofun nofun
      · refine h.quiet le_rfl (fun t ht => ?_) rfl rfl nofun nofun
        exact Function.update_of_ne ht _ _
    · rw [if_neg fun hraised => hhistory hraised.1]
      obtain ⟨attempt, htier, htime, hattempts, hclock, hconfig, hnext, hindex, hslot⟩ :=
        @collect_spec c timer now waiting hhistory
      have hlower := c.config.lower_le timer
      have hupper := c.config.le_upper timer
      refine h.collected hpc hhistory hdue hlower hupper htier htime hslot hclock rfl hattempts ?_ hindex
      dsimp only
      rw [hnext, hconfig]
  · rw [if_neg hdue]
    refine h.quiet le_rfl (fun _ _ => rfl) rfl rfl ?_ fun timer' now' htest => ?_
    · intro now' hread
      cases timer <;> cases hread
    · have hnow' : now' = now ∧ passed timer' = passed timer ++ [timer] := by
        cases timer <;> cases htest <;> exact ⟨rfl, rfl⟩
      rw [hnow'.1, hnow'.2]
      refine ⟨hstart, hnow, fun t ht => ?_⟩
      rcases List.mem_append.mp ht with hold | hlast
      · exact hpassed t hold
      · rw [List.mem_singleton.mp hlast]
        exact not_le.mp hdue

theorem loop (h : Paced start c) {waiting raises : Bool} (hstep : c.loop waiting raises = some c') :
    Paced start c' := by
  unfold LiveCollector.loop at hstep
  split at hstep
  · cases hstep
    refine h.quiet le_rfl (fun _ _ => rfl) rfl rfl ?_ ?_
    · intro now hread
      dsimp only at hread
      split at hread
      · cases hread
      · cases hread
        exact ⟨h.begun, le_rfl⟩
    · intro timer now htest
      dsimp only at htest
      split at htest <;> cases htest
  · next now hpc =>
    cases hstep
    obtain ⟨hstart, hnow⟩ := h.reading now hpc
    refine h.quiet le_rfl (fun _ _ => rfl) rfl rfl ?_ ?_
    · intro now' hread
      dsimp only at hread
      split at hread <;> cases hread
    · intro timer now' htest
      dsimp only at htest
      split at htest
      · cases htest
      · cases htest
        exact ⟨hstart, hnow, fun t ht => absurd ht List.not_mem_nil⟩
  · next timer now hpc =>
    cases hstep
    exact h.whenDue hpc waiting raises
  · cases hstep

/-- Another thread changes the settings or a flag. -/
theorem called (h : Paced start c) (hclock : c'.clock = c.clock) (hnext : c'.next = c.next)
    (hpc : c'.pc = c.pc) (hindex : c'.mediumIndex = c.mediumIndex) (hattempts : c'.attempts = c.attempts) :
    Paced start c' := by
  refine h.quiet hclock.ge (fun timer _ => congrFun hnext timer) hindex hattempts ?_ ?_
  · rw [hpc, hclock]
    exact h.reading
  · rw [hpc, hclock, hnext]
    exact h.testing

theorem step (h : Paced start c) {action : CollectorAction} (hstep : c.step action = some c') :
    Paced start c' := by
  cases action with
  | elapse seconds =>
    simp only [LiveCollector.step, Option.ite_none_right_eq_some, Option.some.injEq] at hstep
    obtain ⟨hseconds, rfl⟩ := hstep
    have hclock : c.clock ≤ c.clock + seconds := le_add_of_nonneg_right hseconds
    refine h.quiet hclock (fun _ _ => rfl) rfl rfl ?_ ?_
    · intro now hread
      have hkept := h.reading now hread
      exact ⟨hkept.1, hkept.2.trans hclock⟩
    · intro timer now htest
      have hkept := h.testing timer now htest
      exact ⟨hkept.1, hkept.2.1.trans hclock, hkept.2.2⟩
  | applyConfig config => cases hstep; exact h.called rfl rfl rfl rfl rfl
  | pause => cases hstep; exact h.called rfl rfl rfl rfl rfl
  | resume => cases hstep; exact h.called rfl rfl rfl rfl rfl
  | stop => cases hstep; exact h.called rfl rfl rfl rfl rfl
  | loop waiting raises => exact h.loop hstep

end Paced

/-! ## What the pace means -/

section gentle

variable {start : ℚ} {c : LiveCollector}

/-- The least time between two collections of a tier. -/
def spacing : Tier → ℚ
  | .fast => 2
  | .medium _ => 40
  | .slow => 30

theorem mediumSlot_injective : ∀ i < 4, ∀ j < 4, mediumSlot i = mediumSlot j → i = j := by decide

theorem attemptsAt_eq (tier : Tier) :
    c.attemptsAt tier = (c.attemptsOf tier.timer).filter fun attempt => attempt.tier = tier := by
  rw [attemptsAt, attemptsOf, List.filter_filter]
  refine List.filter_congr fun attempt _ => ?_
  by_cases h : attempt.tier = tier <;> simp [h]

theorem Paced.spaced (h : Paced start c) (tier : Tier) :
    Spaced (spacing tier) Attempt.time (c.attemptsAt tier) := by
  rw [attemptsAt_eq]
  cases tier with
  | fast => exact (h.apart .fast).filter _
  | slow => exact (h.apart .slow).filter _
  | medium slot =>
    have hturns := @Cadence.Spaced.turns _ _ _ _ _ _ _ _ _ (h.apart .medium)
      (by norm_num [Timer.lower, Timer.bounds]) 4 (fun i => Tier.medium (mediumSlot i)) Attempt.tier ?_ ?_ (by norm_num)
      (.medium slot) _
    · have hgap : ((4 : Nat) : ℚ) * Timer.medium.lower = spacing (.medium slot) := by
        norm_num [Timer.lower, Timer.bounds, spacing]
      rw [hgap] at hturns
      exact hturns
    · intro i hi j hj hsame
      exact mediumSlot_injective i hi j hj (Tier.medium.inj hsame)
    · intro i hi
      rw [h.turns i hi, mediumSlot, mediumSlot, Nat.mod_mod]

/-- The reads of a list of jobs, timer by timer. -/
theorem length_reads (attempts : List Attempt) :
    (attempts.flatMap (·.tier.reads)).length =
      (attempts.filter fun attempt => attempt.tier.timer = .fast).length +
      (attempts.filter fun attempt => attempt.tier.timer = .medium).length +
      4 * (attempts.filter fun attempt => attempt.tier.timer = .slow).length := by
  induction attempts with
  | nil => rfl
  | cons attempt attempts ih =>
    have hone : attempt.tier.reads.length = if attempt.tier.timer = .slow then 4 else 1 := by
      cases attempt.tier with
      | medium slot => cases slot <;> rfl
      | fast => rfl
      | slow => rfl
    rw [List.flatMap_cons, List.length_append, ih, hone]
    cases htier : attempt.tier <;> simp [htier, Tier.timer] <;> omega

/-- **The reads that are submitted within a window of time**, whatever the settings are. -/
theorem Paced.length_readsWithin_le (h : Paced start c) (opens : ℚ) {width : ℚ} (hwidth : 0 ≤ width) :
    ((c.readsWithin opens width).length : ℚ) ≤ 11 / 15 * width + 6 := by
  rw [readsWithin, length_reads]
  set within := fun attempt : Attempt =>
    decide (attempt.submitted ∧ opens ≤ attempt.time ∧ attempt.time ≤ opens + width) with hwithin
  have hcount (timer : Timer) :
      ((((c.attempts.filter within).filter fun attempt => attempt.tier.timer = timer).length : ℚ) - 1) *
        timer.lower ≤ width := by
    have hcomm : (c.attempts.filter within).filter (fun attempt => attempt.tier.timer = timer) =
        (c.attemptsOf timer).filter within := by
      rw [attemptsOf, List.filter_filter, List.filter_filter]
      refine List.filter_congr fun attempt _ => ?_
      rw [Bool.and_comm]
    rw [hcomm]
    refine @Cadence.Spaced.length_le _ _ _ _ _ _ _ _ ((h.apart timer).filter within) timer.bounds_ordered.1.le opens _
      hwidth ?_
    intro attempt hmem
    exact (of_decide_eq_true (List.mem_filter.mp hmem).2).2
  have hfast := hcount .fast
  have hmedium := hcount .medium
  have hslow := hcount .slow
  simp only [Timer.lower, Timer.bounds] at hfast hmedium hslow
  push_cast
  linarith

/-- **No tier is starved**: when an iteration has passed the tiers, each was collected by it, or less
than its upper bound before. -/
theorem Paced.fresh (h : Paced start c) {now : ℚ} (hpc : c.pc = .due .history now) {timer : Timer}
    (htimer : timer ≠ .history) :
    ∃ attempt ∈ c.attemptsOf timer, now < attempt.time + timer.upper := by
  obtain ⟨hstart, -, hpassed⟩ := h.testing .history now hpc
  have hnext : now < c.next timer := by
    refine hpassed timer ?_
    cases timer with
    | history => exact absurd rfl htimer
    | _ => decide
  rcases h.soon timer htimer with hinitial | ⟨attempt, hmem, -, hupper⟩
  · exact absurd (hnext.trans_le hinitial) (not_lt.mpr hstart)
  · exact ⟨attempt, hmem, hnext.trans_le hupper⟩

end gentle

/-- **A collector neither crowds the device nor falls asleep.** -/
structure Gentle (c : LiveCollector) : Prop where
  /-- The collections of one tier are spaced; a slot of the medium tier has every fourth of its turns. -/
  spaced : ∀ tier, Spaced (spacing tier) Attempt.time (c.attemptsAt tier)
  /-- No window of time sees more than about 44 reads a minute submitted. -/
  reads : ∀ opens width : ℚ, 0 ≤ width →
    ((c.readsWithin opens width).length : ℚ) ≤ 11 / 15 * width + 6
  /-- At the end of an iteration, no tier is older than the longest period it can be given. -/
  fresh : ∀ now, c.pc = .due .history now → ∀ timer ≠ .history,
    ∃ attempt ∈ c.attemptsOf timer, now < attempt.time + timer.upper

/-- In every run of the loop, whatever is applied, whoever pauses it and however long it sleeps. -/
theorem gentle_of_reaches {start : ℚ} {config : TierConfig} {c : LiveCollector}
    (h : Reaches step Always (started start config) c) : c.Gentle := by
  have hpaced : Paced start c :=
    h.invariant (Paced.initial config) fun _ _ _ hkept _ hstep => hkept.step hstep
  exact ⟨hpaced.spaced, fun opens _ => hpaced.length_readsWithin_le opens, fun _ hpc _ => hpaced.fresh hpc⟩

/-- Settings that ask for a collection every hundredth of a second, and their first two iterations. -/
theorem gentle_of_reaches_hasty : ∃ c : LiveCollector, c.Gentle ∧ c.attempts.map (·.tier) =
    [.fast, .medium .poe, .slow, .fast] := by
  let hasty : TierConfig := ⟨1 / 100, 1 / 100, 1 / 100, 1 / 100⟩
  let iteration : List CollectorAction := List.replicate 6 (.loop false false)
  obtain ⟨c, hreaches, hends⟩ := exists_reaches_of_run step (started 0 hasty)
    (iteration ++ .elapse (5 / 2) :: iteration)
    (fun c => c.attempts.map (·.tier) = [.fast, .medium .poe, .slow, .fast]) (by decide +kernel)
  exact ⟨c, gentle_of_reaches hreaches, of_decide_eq_true hends⟩

end LiveCollector

end SwitchOps
