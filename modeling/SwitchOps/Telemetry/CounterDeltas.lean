import SwitchOps.Lib.Wrapping
import SwitchOps.Telemetry.Store

/-!
# Deltas of error counters

A sample holds the sum of nine counters, each of which wraps at 2^32. `calculate_counter_delta` compares two such sums as
if they were one counter: a rise is taken as it is, and a fall from near 2^32 to near zero as one wrap.
`deltaSound_iff` says when that is what the counters did.
-/

namespace SwitchOps

open Wrapping

/-- The nine counters of a row. -/
def InterfaceErrorCounters.counters (row : InterfaceErrorCounters) : List Int :=
  [row.alignErr, row.fcsErr, row.xmitErr, row.rcvErr, row.underSize, row.singleCol, row.multiCol, row.lateCol,
    row.excessCol]

/-- A row as it is read from a switch: 32-bit counters and their sum. -/
structure InterfaceErrorCounters.Sampled (row : InterfaceErrorCounters) : Prop where
  bounded : ∀ count ∈ row.counters, 0 ≤ count ∧ count < 2 ^ 32
  total : row.total = row.counters.sum

/-- Two samples that are stored one after the other: what was stored of the interface, and what is seen of it now. -/
structure ConsecutiveSamples where
  before : InterfaceErrorCounters
  after : InterfaceErrorCounters
  stored : InterfaceRow
  seen : TelemetryObservation
  current : InterfaceStatus
  sampledBefore : before.Sampled
  sampledAfter : after.Sampled
  totalBefore : stored.totalErrors = before.total
  totalAfter : seen.errorTotal current.port = after.total

namespace ConsecutiveSamples

variable [Digest] (samples : ConsecutiveSamples)

def delta : InterfaceDelta := samples.seen.delta (some samples.stored) samples.current

def events : List EventRow := samples.seen.events (some samples.stored) samples.current

/-- A delta says what the counters did, whether they were reset between the samples or not. -/
structure DeltaSound (reset : Bool) : Prop where
  nonneg : ∀ amount, samples.delta.errorDelta = some amount → 0 ≤ amount
  exact : reset = false → samples.delta.counterState = .increased ∨ samples.delta.counterState = .wrapped →
    samples.delta.errorDelta = some (increase (2 ^ 32) samples.before.counters samples.after.counters)
  reported : reset = true → samples.after.total < samples.before.total → samples.delta.counterState = .reset ∧
    ∀ event ∈ samples.events, event.eventType ≠ "interface_errors_increased".toList

/-- The sum fell from near 2^32 to near zero. -/
def LooksWrapped : Prop := 3865470565 ≤ samples.before.total ∧ samples.after.total ≤ 429496729

instance : Decidable samples.LooksWrapped := inferInstanceAs (Decidable (_ ∧ _))

/-- No counter wrapped behind a rise of the sum, and one behind a fall that looks like a wrap. -/
structure WrapsVisible : Prop where
  rise : samples.before.total < samples.after.total → wraps samples.before.counters samples.after.counters = 0
  fall : samples.after.total < samples.before.total → samples.LooksWrapped →
    wraps samples.before.counters samples.after.counters = 1

variable {samples}

omit [Digest] in
theorem increase_counters : increase (2 ^ 32) samples.before.counters samples.after.counters =
    samples.after.total - samples.before.total + 2 ^ 32 * wraps samples.before.counters samples.after.counters := by
  rw [samples.sampledAfter.total, samples.sampledBefore.total]
  exact increase_eq rfl samples.sampledBefore.bounded samples.sampledAfter.bounded

omit [Digest] in
theorem delta_eq : (samples.delta.errorDelta, samples.delta.counterState) =
    calculateCounterDelta (some samples.before.total) samples.after.total := by
  rw [delta, TelemetryObservation.delta, deriveDelta, samples.totalAfter, Option.map_some, samples.totalBefore]

omit [Digest] in
/-- What is reported, by how the sum changed. -/
theorem delta_cases :
    (samples.after.total = samples.before.total ∧ samples.delta.errorDelta = some 0 ∧
      samples.delta.counterState = .unchanged) ∨
    (samples.before.total < samples.after.total ∧
      samples.delta.errorDelta = some (samples.after.total - samples.before.total) ∧
      samples.delta.counterState = .increased) ∨
    (samples.after.total < samples.before.total ∧ samples.LooksWrapped ∧
      samples.delta.errorDelta = some (2 ^ 32 - samples.before.total + samples.after.total) ∧
      samples.delta.counterState = .wrapped) ∨
    (samples.after.total < samples.before.total ∧ ¬samples.LooksWrapped ∧ samples.delta.errorDelta = none ∧
      samples.delta.counterState = .reset) := by
  have same := @delta_eq samples
  rw [calculateCounterDelta] at same
  split at same
  · next equal =>
    obtain ⟨amount, state⟩ := Prod.mk.inj same
    exact .inl ⟨equal, amount, state⟩
  · next differ =>
    split at same
    · next rise =>
      obtain ⟨amount, state⟩ := Prod.mk.inj same
      exact .inr (.inl ⟨rise, amount, state⟩)
    · next fall =>
      have fell : samples.after.total < samples.before.total := by omega
      split at same
      · next wrapped =>
        obtain ⟨amount, state⟩ := Prod.mk.inj same
        refine .inr (.inr (.inl ⟨fell, wrapped, ?_, state⟩))
        rw [amount, counterMax32]
        congr 1
        omega
      · next other =>
        obtain ⟨amount, state⟩ := Prod.mk.inj same
        exact .inr (.inr (.inr ⟨fell, other, amount, state⟩))

omit [Digest] in
/-- No other event is taken for an increase of the counters. -/
theorem eventType_ne_increased {seen : InterfaceDelta.Seen} {before after : List Text} {event : EventRow}
    (state : seen.delta.counterState = .reset)
    (here : event ∈ seen.stateEvents ++ seen.propertyEvents ++ seen.learnedEvents before after) :
    event.eventType ≠ "interface_errors_increased".toList := by
  have other {types : List Text} (apart : ∀ t ∈ types, t ≠ "interface_errors_increased".toList)
      (known : event.eventType ∈ types) : event.eventType ≠ "interface_errors_increased".toList := apart _ known
  rw [InterfaceDelta.Seen.propertyEvents] at here
  simp only [List.mem_append] at here
  rcases here with (here | (((here | here) | here) | here)) | here
  · exact other (by decide) (InterfaceDelta.Seen.eventType_stateEvents here)
  · unfold InterfaceDelta.Seen.negotiationEvents at here
    rcases List.mem_append.mp here with here | here
    · split at here
      · rw [List.mem_singleton.mp here]
        exact of_decide_eq_true rfl
      · cases here
    · split at here
      · rw [List.mem_singleton.mp here]
        exact of_decide_eq_true rfl
      · cases here
  · unfold InterfaceDelta.Seen.vlanEvents at here
    split at here
    · cases here
    · split at here
      · cases here
      · rw [List.mem_singleton.mp here]
        exact of_decide_eq_true rfl
  · unfold InterfaceDelta.Seen.counterEvents at here
    dsimp only at here
    rw [state, if_neg (by simp), if_pos rfl] at here
    rw [List.mem_singleton.mp here]
    exact of_decide_eq_true rfl
  · unfold InterfaceDelta.Seen.poeEvents at here
    split at here
    · cases here
    · dsimp only at here
      split at here
      · cases here
      · rw [List.mem_singleton.mp here]
        exact of_decide_eq_true rfl
  · rw [(InterfaceDelta.Seen.mem_learnedEvents.mp here).2]
    exact of_decide_eq_true rfl

/-- **Deltas of counters**: they are sound just if wraps show in the sums, and no reset looks like one. -/
theorem deltaSound_iff (samples : ConsecutiveSamples) (reset : Bool) : samples.DeltaSound reset ↔
    (reset = false → samples.WrapsVisible) ∧
      (reset = true → samples.after.total < samples.before.total → ¬samples.LooksWrapped) := by
  have sum := @increase_counters samples
  constructor
  · intro sound
    constructor
    · intro kept
      constructor
      · intro rise
        rcases @delta_cases samples with ⟨same, -⟩ | ⟨-, amount, state⟩ | ⟨fall, -⟩ | ⟨fall, -⟩
        · omega
        · have exact := Option.some.inj (amount.symm.trans (sound.exact kept (.inl state)))
          omega
        · omega
        · omega
      · intro fall looks
        rcases @delta_cases samples with ⟨same, -⟩ | ⟨rise, -⟩ | ⟨-, -, amount, state⟩ | ⟨-, other, -⟩
        · omega
        · omega
        · have exact := Option.some.inj (amount.symm.trans (sound.exact kept (.inr state)))
          omega
        · exact absurd looks other
    · intro cleared fall looks
      rcases @delta_cases samples with ⟨same, -⟩ | ⟨rise, -⟩ | ⟨-, -, -, state⟩ | ⟨-, other, -⟩
      · omega
      · omega
      · rw [(sound.reported cleared fall).1] at state
        cases state
      · exact other looks
  · rintro ⟨visible, noticed⟩
    refine ⟨?_, ?_, ?_⟩
    · intro amount known
      rcases @delta_cases samples with ⟨-, zero, -⟩ | ⟨rise, difference, -⟩ | ⟨fall, looks, wrapped, -⟩ | ⟨-, -, none, -⟩
      · rw [known] at zero
        exact le_of_eq (Option.some.inj zero).symm
      · rw [known] at difference
        have := Option.some.inj difference
        omega
      · rw [known] at wrapped
        have value := Option.some.inj wrapped
        cases reset with
        | true => exact absurd looks (noticed rfl fall)
        | false =>
          have one := (visible rfl).fall fall looks
          rw [one] at sum
          have positive := increase_nonneg (M := 2 ^ 32) (by decide) samples.before.counters samples.after.counters
          omega
      · rw [known] at none
        cases none
    · intro kept state
      rcases @delta_cases samples with ⟨-, -, same⟩ | ⟨rise, amount, -⟩ | ⟨fall, looks, amount, -⟩ | ⟨-, -, -, other⟩
      · rw [same] at state
        rcases state with state | state
        · cases state
        · cases state
      · rw [amount, sum, (visible kept).rise rise]
        simp
      · rw [amount, sum, (visible kept).fall fall looks]
        congr 1
        omega
      · rw [other] at state
        rcases state with state | state
        · cases state
        · cases state
    · intro cleared fall
      rcases @delta_cases samples with ⟨same, -⟩ | ⟨rise, -⟩ | ⟨-, looks, -⟩ | ⟨-, -, -, state⟩
      · omega
      · omega
      · exact absurd looks (noticed cleared fall)
      · exact ⟨state, fun event here => eventType_ne_increased state here⟩

end ConsecutiveSamples

/-! ## Counters that are cleared -/

/-- A port whose rows hold a number of checksum errors and nothing else. -/
def checksumErrors (count : Int) : InterfaceErrorCounters := { port := "Gi1/0/1", fcsErr := count, total := count }

/-- A port whose counters are cleared after four billion errors. -/
def clearedSamples : ConsecutiveSamples where
  before := checksumErrors 4000000000
  after := checksumErrors 0
  stored := { port := "Gi1/0/1", status := "connected", adminState := "up", speed := "a-1000", duplex := "a-full"
              vlan := "1", poeState := "on", totalErrors := 4000000000, learnedDevices := [] }
  seen := { deviceId := "switch", observedAt := 60, interfaces := [], errors := [checksumErrors 0], poePorts := []
            macEntries := [] }
  current := { port := "Gi1/0/1", name := [], status := "connected", vlan := "1", duplex := "a-full"
               speed := "a-1000", type := [] }
  sampledBefore := ⟨by decide, by decide⟩
  sampledAfter := ⟨by decide, by decide⟩
  totalBefore := rfl
  totalAfter := by decide +kernel

theorem not_deltaSound_cleared : ∃ _ : Digest, ¬∀ (samples : ConsecutiveSamples) (reset : Bool),
    samples.DeltaSound reset := by
  refine ⟨sampleDigest, fun claimed => ?_⟩
  have reported := (@ConsecutiveSamples.DeltaSound.reported sampleDigest _ _ (claimed clearedSamples true) rfl
    (by decide)).1
  revert reported
  decide +kernel

end SwitchOps
