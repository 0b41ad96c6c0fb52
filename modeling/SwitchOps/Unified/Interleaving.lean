import Mathlib.Logic.Function.Basic
import SwitchOps.InterfacePolicy
import SwitchOps.Lib.Machine
import SwitchOps.Unified.Service

/-!
# The store of the Unified Lab under concurrent calls

Any number of threads, each of which runs one call of the service after another on one store and
one collection lock. Every statement on the store is a step. A health update reads the row of its
provider and writes it back, and what another thread saves between the two steps is overwritten:
the store loses nothing exactly as long as every update finds the evidence it has read.
-/

namespace SwitchOps

open Effects Effects.Program Machines

/-- The calls that write to the store. -/
inductive UnifiedCall
  | refreshMeraki
  | updateCatalyst (observation : CatalystObservation)
  | testConnection
  | clearApiKey
  | decideIdentity (linkId decision : Text)

/-- The program of a call, whose result is of no interest here. -/
def UnifiedCall.program [Protector] [Digest] : UnifiedCall → Unified Unit
  | .refreshMeraki => SwitchOps.refreshMeraki >>= fun _ => .pure ()
  | .updateCatalyst observation => SwitchOps.updateCatalyst observation
  | .testConnection => SwitchOps.testConnection >>= fun _ => .pure ()
  | .clearApiKey => SwitchOps.clearApiKey >>= fun _ => .pure ()
  | .decideIdentity linkId decision => SwitchOps.decideIdentity linkId decision >>= fun _ => .pure ()

/-- A call under way. The evidence that it read last is a ghost. -/
structure UnifiedThread where
  program : Unified Unit
  seen : Option (ProviderKind × ProviderEvidence) := none

/-- What was to be stored for good: the state a provider was collected in, or a decision. -/
inductive UnifiedWrite
  | collected (provider : ProviderKind) (evidence : ProviderEvidence)
  | decided (linkId : Text) (decision : Option Text)

/-- The store, the collection lock and the threads by their names `ι`; `log` is a ghost, with the
last write first. -/
structure UnifiedSystem (ι : Type) where
  tables : UnifiedTables
  collecting : Bool := false
  threads : ι → Option UnifiedThread := fun _ => none
  log : List UnifiedWrite := []

inductive UnifiedAction (ι : Type)
  | call (t : ι) (call : UnifiedCall)
  | work (t : ι) (answers : (effect : UnifiedEffect) → effect.Answer)
  | finish (t : ι)

/-- The evidence of the last collection of a provider, or what was stored before. -/
def lastCollected (stored : UnifiedTables) (provider : ProviderKind) :
    List UnifiedWrite → ProviderEvidence
  | [] => stored.evidence provider
  | .collected p evidence :: earlier =>
    if provider = p then evidence else lastCollected stored provider earlier
  | .decided _ _ :: earlier => lastCollected stored provider earlier

/-- The last decision about a link, or what was stored before. -/
def lastDecided (stored : UnifiedTables) (linkId : Text) : List UnifiedWrite → Option Text
  | [] => stored.decision linkId
  | .decided link decision :: earlier =>
    if linkId = link then decision else lastDecided stored linkId earlier
  | .collected _ _ :: earlier => lastDecided stored linkId earlier

namespace UnifiedSystem

variable {ι : Type}

/-- The store answers what is asked of it. -/
def answer (s : UnifiedSystem ι) (answers : (effect : UnifiedEffect) → effect.Answer) :
    (effect : UnifiedEffect) → effect.Answer
  | .readEvidence provider => s.tables.read provider
  | .loadProviderStates => s.tables.rows
  | .loadIdentityDecisions => s.tables.decisions
  | effect => answers effect

/-- What an operation does to the store and the lock, unless the thread has to wait. -/
def affect (s : UnifiedSystem ι) : UnifiedEffect → Option (UnifiedSystem ι)
  | .acquireCollection => if s.collecting then none else some { s with collecting := true }
  | .releaseCollection => some { s with collecting := false }
  | .saveProviderState reason provider row => some { s with
      tables := s.tables.upsert provider row
      log := match reason with
        | .collected => .collected provider row.evidence :: s.log
        | .health => s.log }
  | .setIdentityDecision linkId decision decidedAt => some { s with
      tables := s.tables.setDecision linkId decision decidedAt
      log := .decided linkId (some decision) :: s.log }
  | .clearIdentityDecision linkId => some { s with
      tables := s.tables.clearDecision linkId
      log := .decided linkId none :: s.log }
  | _ => some s

/-- What a thread has read last, after an operation. -/
def seenNext (seen : Option (ProviderKind × ProviderEvidence)) :
    (effect : UnifiedEffect) → effect.Answer → Option (ProviderKind × ProviderEvidence)
  | .readEvidence provider, row => some (provider, (row : Option ProviderEvidence).getD {})
  | _, _ => seen

variable [DecidableEq ι]

def step [Protector] [Digest] (s : UnifiedSystem ι) : UnifiedAction ι → Option (UnifiedSystem ι)
  | .call t call =>
    match s.threads t with
    | none => some { s with
        threads := Function.update s.threads t (some { program := call.program }) }
    | some _ => none
  | .work t answers =>
    match s.threads t with
    | some ⟨.op effect k, seen⟩ =>
      (s.affect effect).map fun s' => { s' with
        threads := Function.update s.threads t (some
          ⟨k (s.answer answers effect), seenNext seen effect (s.answer answers effect)⟩) }
    | _ => none
  | .finish t =>
    match s.threads t with
    | some ⟨.pure _, _⟩ => some { s with threads := Function.update s.threads t none }
    | _ => none

/-- The store holds the last collection of every provider and the last decision about every link. -/
structure LosesNothing (stored : UnifiedTables) (s : UnifiedSystem ι) : Prop where
  evidence : ∀ provider, s.tables.evidence provider = lastCollected stored provider s.log
  decision : ∀ linkId, s.tables.decision linkId = lastDecided stored linkId s.log

/-- The provider whose health a program writes next. -/
def savesHealth : Unified Unit → Option ProviderKind
  | .op (.saveProviderState .health provider _) _ => some provider
  | _ => none

/-- The health update that an action performs: its provider, and what its thread has read. -/
def healthUpdate (s : UnifiedSystem ι) :
    UnifiedAction ι → Option (ProviderKind × Option (ProviderKind × ProviderEvidence))
  | .work t _ => (s.threads t).bind fun th =>
    (savesHealth th.program).map fun provider => (provider, th.seen)
  | _ => none

/-- A health update finds the evidence that it has read. -/
def Undisturbed (s : UnifiedSystem ι) (a : UnifiedAction ι) : Prop :=
  ∀ update ∈ s.healthUpdate a, update.2 = some (update.1, s.tables.evidence update.1)

instance (s : UnifiedSystem ι) (a : UnifiedAction ι) : Decidable (s.Undisturbed a) :=
  inferInstanceAs (Decidable (∀ update ∈ s.healthUpdate a, _))

end UnifiedSystem

/-! ## A health update writes what it has read -/

/-- Evidence is written back only as it was read. -/
def rereading :
    Discipline UnifiedEffect UnifiedEffect.Answer (Option (ProviderKind × ProviderEvidence)) where
  allowed seen
    | .saveProviderState .health provider row => seen = some (provider, row.evidence)
    | _ => True
  answers _ _ _ := True
  next := UnifiedSystem.seenNext

/-- Whatever a program has read before, it writes back only what it reads itself. -/
def Rereads {α : Type} (p : Unified α) : Prop := ∀ seen, Meets rereading p seen fun _ _ => True

namespace Rereads

variable {α β : Type}

theorem pure (a : α) : Rereads (Pure.pure a : Unified α) := fun _ => trivial

theorem bind {p : Unified α} {f : α → Unified β} (hp : Rereads p) (hf : ∀ a, Rereads (f a)) :
    Rereads (p >>= f) :=
  fun seen => (hp seen).bind fun a seen' _ => hf a seen'

/-- Every operation but a health update. -/
def harmless : UnifiedEffect → Bool
  | .saveProviderState .health _ _ => false
  | _ => true

theorem ask {effect : UnifiedEffect} (h : harmless effect = true) : Rereads (ask effect) := by
  refine fun seen => ⟨?_, fun _ _ => trivial⟩
  unfold rereading
  dsimp only
  split
  · cases h
  · trivial

theorem next {effect : UnifiedEffect} {f : effect.Answer → Unified β} (h : harmless effect = true)
    (hf : ∀ a, Rereads (f a)) : Rereads (SwitchOps.ask effect >>= f) :=
  (ask h).bind hf

theorem saveSourceHealth (health : SourceHealth) : Rereads (saveSourceHealth health) :=
  fun _ => ⟨trivial, fun _ _ => ⟨rfl, fun _ _ => trivial⟩⟩

theorem refreshOutcome (now : Nat) (collection : Option MerakiCollection) :
    Rereads (refreshOutcome now collection) := by
  cases collection with
  | none => exact (saveSourceHealth _).bind fun _ => .pure _
  | some collection =>
    have saved : Rereads (saveProviderState .collected .merakiDashboard collection.evidence
        collection.sourceHealth) := ask rfl
    unfold SwitchOps.refreshOutcome
    dsimp only
    split
    · exact saved.bind fun _ => .pure _
    · exact (saveSourceHealth _).bind fun _ => .pure _

theorem refreshLocked : Rereads refreshLocked := by
  refine next rfl fun now => next rfl fun key => next rfl fun selection => ?_
  split
  · exact next rfl fun collection => refreshOutcome now collection
  · exact (saveSourceHealth _).bind fun _ => .pure _

theorem refreshMeraki : Rereads refreshMeraki :=
  next rfl fun _ => refreshLocked.bind fun _ => next rfl fun _ => .pure _

variable [Digest]

theorem unifiedState : Rereads unifiedState :=
  (next rfl fun _ => .pure _).bind fun _ =>
    next rfl fun _ => next rfl fun _ => .pure _

omit [Digest] in
theorem setIdentityDecision (linkId decision : Text) :
    Rereads (setIdentityDecision linkId decision) := by
  unfold SwitchOps.setIdentityDecision
  split
  · exact .pure _
  · exact next rfl fun _ => next rfl fun _ => .pure _

theorem decideIdentity (linkId decision : Text) : Rereads (decideIdentity linkId decision) := by
  refine unifiedState.bind fun current => ?_
  dsimp only
  split
  · exact next rfl fun _ => unifiedState.bind fun _ => .pure _
  split
  · exact .pure _
  split
  · exact .pure _
  split
  · exact .pure _
  refine (setIdentityDecision linkId decision).bind fun outcome => ?_
  cases outcome with
  | error message => exact .pure _
  | ok _ => exact unifiedState.bind fun _ => .pure _

theorem setupStatus : Rereads setupStatus :=
  next rfl fun _ => next rfl fun _ =>
    next rfl fun _ => next rfl fun _ =>
      unifiedState.bind fun _ => next rfl fun _ => .pure _

theorem clearApiKey : Rereads clearApiKey :=
  next rfl fun _ => next rfl fun _ =>
    next rfl fun _ => (saveSourceHealth _).bind fun _ => setupStatus

omit [Digest] in
theorem testConnection : Rereads testConnection := by
  refine next rfl fun checkedAt => next rfl fun key => ?_
  cases key with
  | none => exact .pure _
  | some key =>
    refine next rfl fun answer => ?_
    match answer with
    | .ok result => exact (saveSourceHealth _).bind fun _ => .pure _
    | .error (.merakiApi code) => exact (saveSourceHealth _).bind fun _ => .pure _
    | .error .other => exact .pure _

theorem program [Protector] (call : UnifiedCall) : Rereads call.program := by
  cases call with
  | refreshMeraki => exact refreshMeraki.bind fun _ => .pure _
  | updateCatalyst observation =>
    exact next rfl fun _ => ask rfl
  | testConnection => exact testConnection.bind fun _ => .pure _
  | clearApiKey => exact clearApiKey.bind fun _ => .pure _
  | decideIdentity linkId decision => exact (decideIdentity linkId decision).bind fun _ => .pure _

end Rereads

/-! ## Every run -/

namespace UnifiedSystem

variable {ι : Type} {s s' : UnifiedSystem ι} {stored : UnifiedTables}

/-- What an operation stores is what is to be stored for good, unless it updates a health; and a
health update changes the evidence alone. -/
theorem LosesNothing.affect (h : s.LosesNothing stored) {effect : UnifiedEffect}
    (affected : s.affect effect = some s') :
    (∃ provider row, effect = .saveProviderState .health provider row ∧ s'.log = s.log ∧
      s'.tables = s.tables.upsert provider row) ∨
    (∀ k, savesHealth (.op effect k) = none) ∧ s'.LosesNothing stored := by
  cases effect with
  | acquireCollection =>
    obtain ⟨-, affected⟩ := Option.ite_none_left_eq_some.mp affected
    obtain rfl := Option.some.inj affected
    exact .inr ⟨fun _ => rfl, h.evidence, h.decision⟩
  | releaseCollection =>
    obtain rfl := Option.some.inj affected
    exact .inr ⟨fun _ => rfl, h.evidence, h.decision⟩
  | saveProviderState reason provider row =>
    obtain rfl := Option.some.inj affected
    cases reason with
    | health => exact .inl ⟨provider, row, rfl, rfl, rfl⟩
    | collected =>
      refine .inr ⟨fun _ => rfl, fun p => ?_, h.decision⟩
      rw [UnifiedTables.evidence_upsert, h.evidence, lastCollected]
  | setIdentityDecision linkId decision decidedAt =>
    obtain rfl := Option.some.inj affected
    refine .inr ⟨fun _ => rfl, h.evidence, fun link => ?_⟩
    rw [UnifiedTables.decision_setDecision, h.decision, lastDecided]
  | clearIdentityDecision linkId =>
    obtain rfl := Option.some.inj affected
    refine .inr ⟨fun _ => rfl, h.evidence, fun link => ?_⟩
    rw [UnifiedTables.decision_clearDecision, h.decision, lastDecided]
  | _ =>
    obtain rfl := Option.some.inj affected
    exact .inr ⟨fun _ => rfl, h⟩

/-- A health update leaves the evidence alone if it writes the evidence that is stored. -/
theorem evidence_upsert_same_iff (tables : UnifiedTables) (provider : ProviderKind)
    (row : SnapshotRow) :
    (∀ p, (tables.upsert provider row).evidence p = tables.evidence p) ↔
      row.evidence = tables.evidence provider := by
  constructor
  · intro same
    simpa using same provider
  · intro same p
    rw [UnifiedTables.evidence_upsert]
    by_cases here : p = provider
    · rw [if_pos here, here, same]
    · rw [if_neg here]

/-- A store that nothing was saved to yet loses nothing. -/
theorem losesNothing_start (stored : UnifiedTables) :
    ({ tables := stored } : UnifiedSystem ι).LosesNothing stored :=
  ⟨fun _ => rfl, fun _ => rfl⟩

/-- Every call under way writes back only the evidence that it has read. -/
def Rereading (s : UnifiedSystem ι) : Prop :=
  ∀ t th, s.threads t = some th → Meets rereading th.program th.seen fun _ _ => True

section runs

variable [DecidableEq ι] [Protector] [Digest] {a : UnifiedAction ι}

/-- What a step can do. -/
theorem step_cases (taken : s.step a = some s') :
    (∃ t call, a = .call t call ∧ s' = { s with
      threads := Function.update s.threads t (some { program := call.program }) }) ∨
    (∃ t, a = .finish t ∧ s' = { s with threads := Function.update s.threads t none }) ∨
    ∃ t answers effect k seen s₁, a = .work t answers ∧
      s.threads t = some ⟨.op effect k, seen⟩ ∧ s.affect effect = some s₁ ∧
      s' = { s₁ with threads := Function.update s.threads t (some
        ⟨k (s.answer answers effect), seenNext seen effect (s.answer answers effect)⟩) } := by
  cases a with
  | call t call =>
    simp only [step] at taken
    split at taken
    · exact .inl ⟨t, call, rfl, (Option.some.inj taken).symm⟩
    · cases taken
  | work t answers =>
    simp only [step] at taken
    split at taken
    · next effect k seen here =>
      obtain ⟨s₁, affected, rfl⟩ := Option.map_eq_some_iff.mp taken
      exact .inr (.inr ⟨t, answers, effect, k, seen, s₁, rfl, here, affected, rfl⟩)
    · cases taken
  | finish t =>
    simp only [step] at taken
    split at taken
    · exact .inr (.inl ⟨t, rfl, (Option.some.inj taken).symm⟩)
    · cases taken

theorem Rereading.step (h : s.Rereading) (taken : s.step a = some s') : s'.Rereading := by
  intro t' th' there
  obtain ⟨t, call, -, rfl⟩ | ⟨t, -, rfl⟩ | ⟨t, answers, effect, k, seen, s₁, -, here, -, rfl⟩ :=
    step_cases taken
  all_goals by_cases same : t' = t
  · subst same
    simp only [Function.update_self, Option.some.injEq] at there
    subst there
    exact Rereads.program call none
  · exact h t' th' (by simpa [same] using there)
  · subst same
    simp at there
  · exact h t' th' (by simpa [same] using there)
  · subst same
    simp only [Function.update_self, Option.some.injEq] at there
    subst there
    exact (h t' _ here).2 _ trivial
  · exact h t' th' (by simpa [same] using there)

/-- One step: it loses nothing exactly if it is undisturbed, and so with the evidence, if it is a
health update. -/
theorem LosesNothing.step_iff (h : s.LosesNothing stored) (rereading : s.Rereading)
    (taken : s.step a = some s') :
    (s'.LosesNothing stored ↔ s.Undisturbed a) ∧
      (s.healthUpdate a ≠ none → ((∀ provider, s'.tables.evidence provider
        = s.tables.evidence provider) ↔ s.Undisturbed a)) := by
  obtain ⟨t, call, rfl, rfl⟩ | ⟨t, rfl, rfl⟩ |
    ⟨t, answers, effect, k, seen, s₁, rfl, here, affected, rfl⟩ := step_cases taken
  · exact ⟨⟨fun _ _ other => (by cases other), fun _ => ⟨h.evidence, h.decision⟩⟩,
      fun update => absurd rfl update⟩
  · exact ⟨⟨fun _ _ other => (by cases other), fun _ => ⟨h.evidence, h.decision⟩⟩,
      fun update => absurd rfl update⟩
  have updates : s.healthUpdate (.work t answers)
      = (savesHealth (.op effect k)).map fun provider => (provider, seen) := by
    simp [healthUpdate, here]
  obtain ⟨provider, row, rfl, sameLog, stores⟩ | ⟨noUpdate, kept⟩ := h.affect affected
  · -- the thread writes back what it has read
    have wrote : seen = some (provider, row.evidence) := (rereading t _ here).1
    have undisturbed : s.Undisturbed (.work t answers) ↔
        row.evidence = s.tables.evidence provider := by
      simp [Undisturbed, updates, savesHealth, wrote]
    have keeps := evidence_upsert_same_iff s.tables provider row
    rw [undisturbed]
    refine ⟨⟨fun after => keeps.mp fun p => ?_, fun same => ⟨fun p => ?_, fun link => ?_⟩⟩,
      fun _ => ?_⟩
    · rw [← stores, h.evidence, ← sameLog]
      exact after.evidence p
    · show s₁.tables.evidence p = lastCollected stored p s₁.log
      rw [stores, keeps.mpr same, sameLog]
      exact h.evidence p
    · show s₁.tables.decision link = lastDecided stored link s₁.log
      rw [stores, sameLog]
      exact h.decision link
    · rw [← keeps, ← stores]
  · rw [noUpdate k] at updates
    refine ⟨⟨fun _ update other => ?_, fun _ => ⟨kept.evidence, kept.decision⟩⟩, fun update => ?_⟩
    · rw [updates] at other
      cases other
    · exact absurd updates update

/-- **Every run** whose health updates are undisturbed: the store holds the last collection of every
provider and the last decision about every link, and goes on to do so exactly as long as no health
update is disturbed; one that is brings back or removes evidence. -/
theorem losesNothing_of_undisturbed
    (h : Reaches step Undisturbed ({ tables := stored } : UnifiedSystem ι) s) :
    s.LosesNothing stored ∧ ∀ a s', s.step a = some s' →
      (s'.LosesNothing stored ↔ s.Undisturbed a) ∧
      (s.healthUpdate a ≠ none → ((∀ provider, s'.tables.evidence provider
        = s.tables.evidence provider) ↔ s.Undisturbed a)) := by
  have both : s.LosesNothing stored ∧ s.Rereading := by
    refine h.invariant (I := fun s => s.LosesNothing stored ∧ s.Rereading)
      ⟨losesNothing_start stored, fun _ _ none => by simp at none⟩ fun s a s' known undisturbed taken => ?_
    exact ⟨(known.1.step_iff known.2 taken).1.mpr undisturbed, known.2.step taken⟩
  exact ⟨both.1, fun a s' taken => both.1.step_iff both.2 taken⟩

end runs

/-! ### A connection test and a refresh -/

/-- An access point that a refresh collects. -/
def apEntity : ProviderEntity where
  id := "ap-1"
  provider := .merakiDashboard
  label := "lab-ap"
  category := "access-point"
  identifiers := []
  claimIds := []
  freshness := .current

def apCollection : MerakiCollection := ⟨⟨[apEntity], []⟩, connectionHealth 1 true⟩

/-- The key and the selection are there, and Meraki answers. -/
def labAnswers : (effect : UnifiedEffect) → effect.Answer
  | .now => (1 : Nat)
  | .loadKey => some "key".toList
  | .loadSelection => some ⟨"org", "Lab", "net", "Lab"⟩
  | .getOrganizations _ => .ok ⟨some 1, true⟩
  | .collect _ _ => some apCollection
  | .keyringAvailable => true
  | .readEvidence _ => none
  | .loadProviderStates | .loadIdentityDecisions => []
  | .acquireCollection | .releaseCollection | .stop | .clearKey => ()
  | .saveProviderState _ _ _ | .setIdentityDecision _ _ _ | .clearIdentityDecision _ => ()

@[reducible] def blankProtector : Protector := ⟨fun _ => [], fun _ => none⟩

/-- The steps of two threads on a store that is still empty. -/
def labStep : UnifiedSystem (Fin 2) → UnifiedAction (Fin 2) → Option (UnifiedSystem (Fin 2)) :=
  @step (Fin 2) _ blankProtector sampleDigest

/-- A connection test up to where it has read the row of Meraki, and a refresh from end to end. -/
def testStarts : List (UnifiedAction (Fin 2)) :=
  .call 0 .testConnection :: List.replicate 4 (.work 0 labAnswers)

def refreshRuns : List (UnifiedAction (Fin 2)) :=
  .call 1 .refreshMeraki :: List.replicate 7 (.work 1 labAnswers) ++ [.finish 1]

def testEnds : List (UnifiedAction (Fin 2)) := [.work 0 labAnswers, .finish 0]

/-- Both threads are done, and what the refresh has collected is gone. -/
def lostCollection (s : UnifiedSystem (Fin 2)) : Bool :=
  (s.threads 0).isNone && (s.threads 1).isNone && s.tables.evidence .merakiDashboard = {}
    && match s.log with
      | [.collected .merakiDashboard evidence] => evidence = ⟨[apEntity], []⟩
      | _ => false

/-- The refresh comes between the two steps of the test's health update, and is undone by it. -/
theorem not_losesNothing_testConnection :
    ∃ s, Reaches labStep Always { tables := {} } s ∧ (∀ t, s.threads t = none) ∧
      s.log = [.collected .merakiDashboard ⟨[apEntity], []⟩] ∧
      s.tables.evidence .merakiDashboard = {} ∧ ¬s.LosesNothing {} := by
  obtain ⟨s, run, last⟩ := exists_reaches_of_run labStep { tables := {} }
    (testStarts ++ refreshRuns ++ testEnds) lostCollection (by decide +kernel)
  simp only [lostCollection, Bool.and_eq_true, Option.isNone_iff_eq_none, decide_eq_true_eq] at last
  obtain ⟨⟨⟨first, second⟩, lost⟩, saved⟩ := last
  have written : s.log = [.collected .merakiDashboard ⟨[apEntity], []⟩] := by
    split at saved
    · next evidence log =>
      rw [log, of_decide_eq_true saved]
    · cases saved
  refine ⟨s, run, Fin.forall_fin_two.mpr ⟨first, second⟩, written, lost, fun h => ?_⟩
  · have kept := h.evidence .merakiDashboard
    rw [written, lost] at kept
    exact absurd kept (by decide)

/-- A test that begins when the refresh has ended writes back what the refresh has saved. -/
theorem losesNothing_of_undisturbed_testConnection :
    ∃ s, Reaches labStep Undisturbed { tables := {} } s ∧
      s.tables.evidence .merakiDashboard = ⟨[apEntity], []⟩ ∧ s.LosesNothing {} := by
  obtain ⟨s, run, last⟩ := exists_reaches_of_run_guarded labStep Undisturbed { tables := {} }
    (refreshRuns ++ testStarts ++ testEnds)
    (fun s => s.tables.evidence .merakiDashboard = ⟨[apEntity], []⟩) (by decide +kernel)
  exact ⟨s, run, of_decide_eq_true last,
    (@losesNothing_of_undisturbed _ _ _ _ blankProtector sampleDigest run).1⟩

end UnifiedSystem

end SwitchOps
