import SwitchOps.Assurance.Frame

/-!
# The verdict on a session

What `execute` concludes, against what happened in the run: the snapshots it compared, the result
of the operation, and the log of that operation (`History`). A session ends `succeeded` exactly if
the operation succeeded, the state asked for was observed and nothing else changed.
-/

namespace SwitchOps

open Effects Effects.Program

/-! ## Histories -/

/-- What a verdict is about. The log is that of the operation, once it was started. -/
structure History where
  before : Option AssuranceSnapshot := none
  started : Bool := false
  log : Log := {}
  result : Option OperationResult := none
  after : Option AssuranceSnapshot := none
  /-- The session as it was stored last. -/
  stored : Option ChangeSession := none

namespace History

/-- The history after an operation of the environment. -/
def next (history : History) : (effect : Effect) → Answer effect → History
  | .mark (.capturedBefore snapshot), _ => { history with before := some snapshot }
  | .mark .operationStarted, _ => { history with started := true, log := {} }
  | .mark (.operationReturned result), _ => { history with result := some result }
  | .mark (.capturedAfter snapshot), _ => { history with after := some snapshot }
  | .storeSave session, _ => { history with stored := some session }
  | effect, answer =>
    if history.result.isSome then history
    else { history with log := history.log.next effect answer }

/-- The snapshots, the result and the stored session are those of `history`; so is the log, if
the operation is over. -/
structure Keeps (history history' : History) : Prop where
  before : history'.before = history.before
  started : history'.started = history.started
  result : history'.result = history.result
  after : history'.after = history.after
  stored : history'.stored = history.stored
  log : history.result.isSome = true → history'.log = history.log

theorem Keeps.refl (history : History) : history.Keeps history :=
  ⟨rfl, rfl, rfl, rfl, rfl, fun _ => rfl⟩

end History

/-- Runs, with their histories. -/
abbrev judged : Discipline Effect Answer History := ledger History.next

/-- The history of a run. -/
def historyOf (t : List (Event Effect Answer)) : History := after judged {} t

/-! ## What a verdict claims -/

section verdict

variable (client : Client) (session : ChangeSession) (history : History)

/-- The operation succeeded and the snapshot after it shows the state that was asked for; `others`
is what the two snapshots are to one another. -/
def Achieved (others : AssuranceSnapshot → AssuranceSnapshot → Prop) : Prop :=
  ∃ before result after, history.before = some before ∧ history.result = some result ∧
    history.after = some after ∧ result.status = .success ∧
    directPostcondition session.plan.step after.target = .met ∧ others before after

/-- **Verdict soundness** of a session that `execute` returns. -/
structure Judged : Prop where
  stored : history.stored = some session
  succeeded : session.status = .succeeded ↔
    Achieved session history (Unaffected session.plan.step.kind)
  succeededWithWarnings : session.status = .succeededWithWarnings ↔
    Achieved session history fun before after => ¬ Unaffected session.plan.step.kind before after
  rolledBack : session.status = .rolledBack → Restored (session.operation client) history.log
  failures : history.started = true → history.result = none ∨ history.after = none →
    session.status = .indeterminate
  reads : history.started = true → history.log.failed = true →
    session.status = .indeterminate ∨ session.status = .rolledBack

variable {client session history}

theorem not_achieved_of_result {others : AssuranceSnapshot → AssuranceSnapshot → Prop}
    (h : history.result = none) : ¬ Achieved session history others := by
  rintro ⟨before, result, after, -, hresult, -⟩
  rw [h] at hresult
  cases hresult

theorem not_achieved_of_after {others : AssuranceSnapshot → AssuranceSnapshot → Prop}
    (h : history.after = none) : ¬ Achieved session history others := by
  rintro ⟨before, result, after, -, -, hafter, -⟩
  rw [h] at hafter
  cases hafter

/-- A session is judged rightly if it never got to be compared. -/
theorem judged_of_not_compared (hstored : history.stored = some session)
    (hmissing : history.result = none ∨ history.after = none)
    (hstarted : history.started = true → session.status = .indeterminate)
    (hblocked : history.started = false → session.status = .blocked) :
    Judged client session history := by
  have hnot (others) : ¬ Achieved session history others := by
    rcases hmissing with h | h
    · exact not_achieved_of_result h
    · exact not_achieved_of_after h
  have hstatus : session.status = .indeterminate ∨ session.status = .blocked := by
    cases hstart : history.started with
    | false => exact .inr (hblocked hstart)
    | true => exact .inl (hstarted hstart)
  constructor
  · exact hstored
  · refine iff_of_false (fun h => ?_) (hnot _)
    rcases hstatus with hstatus | hstatus <;> · rw [hstatus] at h; cases h
  · refine iff_of_false (fun h => ?_) (hnot _)
    rcases hstatus with hstatus | hstatus <;> · rw [hstatus] at h; cases h
  · intro h
    rcases hstatus with hstatus | hstatus <;> · rw [hstatus] at h; cases h
  · intro hstart _
    exact hstarted hstart
  · intro hstart _
    exact .inl (hstarted hstart)

/-- A success never follows a failed read. -/
theorem Ending.complete {S : Type} {call : OperationCall S} {log : Log} {result : OperationResult}
    (h : Ending call log result) (hsuccess : result.status = .success) : log.failed = false := by
  cases h with
  | alreadyMet _ _ _ complete => exact complete
  | verified _ _ _ _ _ _ complete => exact complete
  | blocked status _ => rw [status] at hsuccess; cases hsuccess
  | sendFailed _ status _ _ => rw [status] at hsuccess; cases hsuccess
  | rejected _ status _ _ _ => rw [status] at hsuccess; cases hsuccess
  | rolledBack _ _ _ _ status _ _ _ _ _ => rw [status] at hsuccess; cases hsuccess
  | rollbackFailed _ _ _ _ status _ _ _ _ _ => rw [status] at hsuccess; cases hsuccess

theorem Ending.restored {S : Type} {call : OperationCall S} {log : Log} {result : OperationResult}
    (h : Ending call log result) (hrolledBack : result.status = .rolledBack) :
    Restored call log := by
  cases h with
  | rolledBack _ _ _ _ _ _ _ _ _ restored => exact restored
  | blocked status _ => rw [status] at hrolledBack; cases hrolledBack
  | alreadyMet status _ _ _ => rw [status] at hrolledBack; cases hrolledBack
  | sendFailed _ status _ _ => rw [status] at hrolledBack; cases hrolledBack
  | rejected _ status _ _ _ => rw [status] at hrolledBack; cases hrolledBack
  | verified _ status _ _ _ _ _ => rw [status] at hrolledBack; cases hrolledBack
  | rollbackFailed _ _ _ _ status _ _ _ _ _ => rw [status] at hrolledBack; cases hrolledBack

/-- The five verdicts, and when each is given. -/
theorem verdict_cases (result : OperationResult) (comparison : ChangeComparison) :
    (result.status = .rolledBack ∧ (verdict result comparison).1 = .rolledBack) ∨
    (result.status ≠ .success ∧ (verdict result comparison).1 = .indeterminate) ∨
    (result.status = .success ∧ comparison.directPostcondition ≠ .met ∧
      (verdict result comparison).1 = .indeterminate) ∨
    (result.status = .success ∧ comparison.directPostcondition = .met ∧
      comparison.warnings ≠ [] ∧ (verdict result comparison).1 = .succeededWithWarnings) ∨
    (result.status = .success ∧ comparison.directPostcondition = .met ∧
      comparison.warnings = [] ∧ (verdict result comparison).1 = .succeeded) := by
  by_cases hrolled : result.status = .rolledBack ∧ result.rolledBack = some true
  · exact .inl ⟨hrolled.1, by rw [verdict, if_pos hrolled]⟩
  by_cases hsuccess : result.status = .success
  · by_cases hmet : comparison.directPostcondition = .met
    · by_cases hwarnings : comparison.warnings = []
      · refine .inr (.inr (.inr (.inr ⟨hsuccess, hmet, hwarnings, ?_⟩)))
        simp [verdict, hsuccess, hmet, hwarnings]
      · refine .inr (.inr (.inr (.inl ⟨hsuccess, hmet, hwarnings, ?_⟩)))
        simp [verdict, hsuccess, hmet, hwarnings]
    · refine .inr (.inr (.inl ⟨hsuccess, hmet, ?_⟩))
      simp [verdict, hsuccess, hmet]
  · exact .inr (.inl ⟨hsuccess, by rw [verdict, if_neg hrolled, if_pos hsuccess]⟩)

/-- A session that was compared is judged rightly. -/
theorem judged_of_compared {before after : AssuranceSnapshot} {result : OperationResult}
    {evaluatedAt : Nat} (hstored : history.stored = some session)
    (hbefore : history.before = some before) (hresult : history.result = some result)
    (hafter : history.after = some after)
    (hcomplete : result.status = .success → history.log.failed = false)
    (hrestored : result.status = .rolledBack → Restored (session.operation client) history.log)
    (hstatus : session.status =
      (verdict result (compareSnapshots session.plan before after result evaluatedAt)).1) :
    Judged client session history := by
  have hachieved (others : AssuranceSnapshot → AssuranceSnapshot → Prop) :
      Achieved session history others ↔ result.status = .success ∧
        directPostcondition session.plan.step after.target = .met ∧ others before after := by
    constructor
    · rintro ⟨before', result', after', hbefore', hresult', hafter', hothers⟩
      rw [hbefore] at hbefore'
      rw [hresult] at hresult'
      rw [hafter] at hafter'
      cases hbefore'
      cases hresult'
      cases hafter'
      exact hothers
    · intro hothers
      exact ⟨before, result, after, hbefore, hresult, hafter, hothers⟩
  have hmissing : ¬ (history.result = none ∨ history.after = none) := by
    rw [hresult, hafter]
    simp
  have hwarnings : (compareSnapshots session.plan before after result evaluatedAt).warnings = [] ↔
      Unaffected session.plan.step.kind before after := warnings_eq_nil_iff
  have hdirect : (compareSnapshots session.plan before after result evaluatedAt).directPostcondition
      = directPostcondition session.plan.step after.target := rfl
  have hread (h : history.log.failed = true) : result.status ≠ .success := by
    intro hsuccess
    rw [hcomplete hsuccess] at h
    cases h
  refine ⟨hstored, ?_, ?_, ?_, fun _ h => absurd h hmissing, ?_⟩
  all_goals
    rw [hstatus]
    rcases verdict_cases result (compareSnapshots session.plan before after result evaluatedAt) with
      ⟨hres, hverdict⟩ | ⟨hres, hverdict⟩ | ⟨hres, hmet, hverdict⟩ | ⟨hres, hmet, hwarn, hverdict⟩ |
        ⟨hres, hmet, hwarn, hverdict⟩
    all_goals rw [hverdict]
  -- `succeeded`
  · simp [hachieved, hres]
  · simp [hachieved, hres]
  · simp [hachieved, ← hdirect, hmet]
  · simp [hachieved, ← hwarnings, hwarn]
  · simp [hachieved, ← hdirect, hmet, hres, ← hwarnings, hwarn]
  -- `succeededWithWarnings`
  · simp [hachieved, hres]
  · simp [hachieved, hres]
  · simp [hachieved, ← hdirect, hmet]
  · simp [hachieved, ← hdirect, hmet, hres, ← hwarnings, hwarn]
  · simp [hachieved, ← hwarnings, hwarn]
  -- `rolledBack`
  · exact fun _ => hrestored hres
  · rintro ⟨⟩
  · rintro ⟨⟩
  · rintro ⟨⟩
  · rintro ⟨⟩
  -- `reads`
  · exact fun _ _ => .inr rfl
  · exact fun _ _ => .inl rfl
  · exact fun _ _ => .inl rfl
  · exact fun _ h => absurd hres (hread h)
  · exact fun _ h => absurd hres (hread h)

end verdict

/-! ## Runs -/

section runs

variable {history : History} {client : Client} {session : ChangeSession}

/-- The operations that keep a history. -/
def KeepsHistory (effect : Effect) : Prop :=
  ∀ (history : History) answer, history.Keeps (history.next effect answer)

/-- The operations that are neither a mark of `execute` nor the storing of a session. -/
def Effect.unmarked : Effect → Bool
  | .mark (.authorized _ _) => true
  | .mark _ => false
  | _ => true

theorem keepsHistory_of_unmarked {effect : Effect} (h : effect.unmarked = true)
    (hstore : ∀ session, effect ≠ .storeSave session) : KeepsHistory effect := by
  intro history answer
  have hnext : history.next effect answer = if history.result.isSome then history
      else { history with log := history.log.next effect answer } := by
    cases effect with
    | mark mark =>
      cases mark with
      | authorized _ _ => rfl
      | _ => cases h
    | storeSave session => exact absurd rfl (hstore session)
    | _ => rfl
  rw [hnext]
  split
  · exact .refl history
  · next hresult => exact ⟨rfl, rfl, rfl, rfl, rfl, fun h => absurd h hresult⟩

theorem coversGates_keeps : CoversGates KeepsHistory := by
  constructor <;> (intros; exact keepsHistory_of_unmarked rfl (by rintro _ ⟨⟩))

theorem coversCapture_keeps : CoversCapture KeepsHistory client := by
  constructor <;> (intros; exact keepsHistory_of_unmarked rfl (by rintro _ ⟨⟩))

theorem keeps_judged {α : Type} {p : Proc α} (hp : Only KeepsHistory p) :
    Meets judged p history fun _ history' => history.Keeps history' := by
  refine hp.invariant (I := history.Keeps) (fun effect heffect history' hkeeps => ?_)
    (History.Keeps.refl history)
  refine ⟨trivial, fun answer _ => ?_⟩
  have hnext := heffect history' answer
  refine ⟨hnext.before.trans hkeeps.before, hnext.started.trans hkeeps.started,
    hnext.result.trans hkeeps.result, hnext.after.trans hkeeps.after,
    hnext.stored.trans hkeeps.stored, fun hresult => ?_⟩
  have hresult' : history'.result.isSome = true := by
    rw [hkeeps.result]
    exact hresult
  exact (hnext.log hresult').trans (hkeeps.log hresult)

/-- Storing a session is recorded, and nothing else. -/
theorem save_judged {Q : ChangeSession → History → Prop}
    (h : ∀ updatedAt, Q { session with updatedAt := updatedAt }
      { history with stored := some { session with updatedAt := updatedAt } }) :
    Meets judged session.save history Q := by
  refine save_meets trivial fun updatedAt => ⟨trivial, ?_⟩
  have hnow : judged.next history .now updatedAt = history := by
    show (if history.result.isSome then history else { history with log := history.log }) = history
    split <;> rfl
  rw [hnow]
  exact h updatedAt

theorem ignoresGates_judged : IgnoresGates judged := by
  refine fun effect heffect history => ⟨trivial, fun answer => ?_⟩
  have hlog : history.next effect answer = if history.result.isSome then history
      else { history with log := history.log } := by
    cases effect with
    | mark mark =>
      cases mark with
      | authorized _ _ => rfl
      | _ => cases heffect
    | switchHost | acquire _ | release _ | readUnlocked | readPolicy => rfl
    | _ => cases heffect
  refine hlog.trans ?_
  split <;> rfl

/-- The history while an operation runs, whose log is `log`. -/
def Operating (before : Option AssuranceSnapshot) (log : Log) (history : History) : Prop :=
  history.before = before ∧ history.started = true ∧ history.log = log ∧
    history.result = none ∧ history.after = none

variable [Digest]

/-- The log of an operation is that of its transaction. -/
theorem runOperation_judged {before : AssuranceSnapshot} {progress : SessionProgress}
    (hbefore : history.before = some before) (hresult : history.result = none)
    (hafter : history.after = none) :
    Meets judged (runOperation (session.operation client) progress) history
      fun r history' => ∃ log, Operating (some before) log history' ∧
        ∀ result, r.1 = .ok result → Ending (session.operation client) log result := by
  have hoperating : Operating (some before) {}
      (judged.next history (.mark .operationStarted) ()) :=
    ⟨hbefore, rfl, rfl, hresult, hafter⟩
  refine runOperation_meets ignoresGates_judged trivial ?_ ?_
  · rintro history' rfl
    have hending := runOperationAuthorized_ending (session.operation client) ⟨[], progress⟩
    have hunmarked : Only (fun effect => effect.unmarked = true)
        ((runOperationAuthorized (session.operation client)).run ⟨[], progress⟩) := by
      apply runOperationAuthorized_confined
      · constructor <;> (intros; rfl)
      · refine ⟨fun _ => rfl, fun _ _ => rfl, fun _ => rfl, fun _ => rfl, rfl, fun _ _ => ?_⟩
        exact ⟨rfl, fun _ => ⟨rfl, fun _ => trivial⟩⟩
      · rfl
      · rfl
    refine (hending.simulated (R := Operating (some before)) hunmarked ?_ hoperating).mono
      fun r history' h => h
    rintro effect heffect log history' ⟨hbefore, hstarted, rfl, hresult, hafter⟩ -
    refine ⟨trivial, fun answer _ => ⟨trivial, ?_⟩⟩
    have hrunning : ¬ (history'.result.isSome = true) := by simp [hresult]
    have hlogged (h : history'.next effect answer =
        { history' with log := history'.log.next effect answer }) :
        Operating (some before) (history'.log.next effect answer) (history'.next effect answer) := by
      rw [h]
      exact ⟨hbefore, hstarted, rfl, hresult, hafter⟩
    cases effect with
    | storeSave session => exact ⟨hbefore, hstarted, rfl, hresult, hafter⟩
    | mark mark =>
      cases mark with
      | authorized _ _ => exact hlogged (if_neg hrunning)
      | _ => cases heffect
    | _ => exact hlogged (if_neg hrunning)
  · intro exc
    exact ⟨{}, hoperating, by rintro result ⟨⟩⟩

/-- Once the operation was started, a session is returned, and judged rightly. -/
theorem performChange_judged {before : AssuranceSnapshot} (hbefore : history.before = some before)
    (hresult : history.result = none) (hafter : history.after = none) :
    Meets judged (performChange session client before) history
      fun session' history' => Judged client session' history' := by
  unfold performChange
  dsimp only
  rw [meets_bind]
  refine (runOperation_judged hbefore hresult hafter).mono fun r history₁ hoperation => ?_
  obtain ⟨log, ⟨hbefore, hstarted, rfl, hresult, hafter⟩, hending⟩ := hoperation
  obtain ⟨outcome, progress⟩ := r
  cases outcome with
  | error exc =>
    refine save_judged fun updatedAt => ?_
    refine judged_of_not_compared rfl (.inl hresult) (fun _ => rfl) fun hstart => ?_
    rw [hstarted] at hstart
    cases hstart
  | ok result =>
    have hending := hending result rfl
    dsimp only
    rw [meets_bind]
    refine meets_perform.mpr ⟨trivial, fun _ _ => ?_⟩
    rw [meets_bind]
    refine save_judged fun savedAt => ?_
    rw [meets_bind]
    have hcapture (session : ChangeSession) : Only KeepsHistory (session.capture client) :=
      capture_only coversCapture_keeps (keepsHistory_of_unmarked rfl (by rintro _ ⟨⟩)) session
    refine (keeps_judged (hcapture _)).mono fun captured history₂ hkeeps => ?_
    cases captured with
    | error exc =>
      refine save_judged fun updatedAt => ?_
      refine judged_of_not_compared rfl (.inr (hkeeps.after.trans hafter)) (fun _ => rfl)
        fun hstart => ?_
      rw [hkeeps.started.trans hstarted] at hstart
      cases hstart
    | ok after =>
      have hlog := hkeeps.log rfl
      dsimp only
      rw [meets_bind]
      refine meets_perform.mpr ⟨trivial, fun _ _ => ?_⟩
      rw [meets_bind]
      have hnow : KeepsHistory .now := keepsHistory_of_unmarked rfl (by rintro _ ⟨⟩)
      refine (keeps_judged (only_perform.mpr hnow)).mono fun evaluatedAt history₃ hkeeps₃ => ?_
      refine save_judged fun updatedAt => ?_
      have hlog₃ : history₃.log = history₁.log :=
        (hkeeps₃.log (congrArg Option.isSome hkeeps.result)).trans hlog
      refine judged_of_compared rfl (hkeeps₃.before.trans (hkeeps.before.trans hbefore))
        (hkeeps₃.result.trans hkeeps.result) hkeeps₃.after ?_ ?_ rfl
      · intro hsuccess
        rw [show _ = history₁.log from hlog₃]
        exact hending.complete hsuccess
      · intro hrolledBack
        rw [show _ = history₁.log from hlog₃]
        exact hending.restored hrolledBack

theorem executeAuthorized_judged {host : Option Text} (hstarted : history.started = false)
    (hresult : history.result = none) (hafter : history.after = none) :
    Meets judged (executeAuthorized session client host) history fun r history' =>
      (history'.started = true → ∃ session, r = .ok session) ∧
        ∀ session, r = .ok session → Judged client session history' := by
  -- a session that is blocked here was never compared
  have hblocked {session : ChangeSession} {history' : History} (hstatus : session.status = .blocked)
      (hstarted : history'.started = false) (hresult : history'.result = none) :
      Meets judged (quietly session.save) history' fun r history' =>
        (history'.started = true → ∃ session, r = .ok session) ∧
          ∀ session, r = .ok session → Judged client session history' := by
    rw [meets_quietly]
    refine save_judged fun updatedAt => ⟨fun _ => ⟨_, rfl⟩, ?_⟩
    rintro session ⟨⟩
    refine judged_of_not_compared rfl (.inl hresult) (fun hstart => ?_) fun _ => hstatus
    rw [show _ = false from hstarted] at hstart
    cases hstart
  unfold executeAuthorized
  rw [meets_quietly_bind]
  refine save_judged fun savedAt => ?_
  rw [meets_quietly_bind]
  have hcapture (session : ChangeSession) : Only KeepsHistory (session.capture client) :=
    capture_only coversCapture_keeps (keepsHistory_of_unmarked rfl (by rintro _ ⟨⟩)) session
  refine (keeps_judged (hcapture _)).mono fun captured history₁ hkeeps => ?_
  cases captured with
  | error exc => exact hblocked rfl (hkeeps.started.trans hstarted) (hkeeps.result.trans hresult)
  | ok before =>
    dsimp only
    rw [meets_quietly_bind]
    refine meets_perform.mpr ⟨trivial, fun _ _ => ?_⟩
    rw [meets_raising_bind]
    have hnow : KeepsHistory .now := keepsHistory_of_unmarked rfl (by rintro _ ⟨⟩)
    refine (keeps_judged (preflight_only coversGates_keeps hnow _ _ _)).mono
      fun examined history₂ hkeeps₂ => ?_
    have hstarted₂ : history₂.started = false :=
      hkeeps₂.started.trans (hkeeps.started.trans hstarted)
    have hresult₂ : history₂.result = none := hkeeps₂.result.trans (hkeeps.result.trans hresult)
    have hafter₂ : history₂.after = none := hkeeps₂.after.trans (hkeeps.after.trans hafter)
    cases examined with
    | error exc =>
      refine ⟨fun hstart => ?_, by rintro session ⟨⟩⟩
      rw [hstarted₂] at hstart
      cases hstart
    | ok preflight =>
      rw [continues_ok]
      split
      · exact hblocked rfl hstarted₂ hresult₂
      · rw [meets_quietly_bind]
        refine save_judged fun savedAt => ?_
        rw [meets_quietly]
        refine Meets.mono (performChange_judged ?_ ?_ ?_) fun session' history' hjudged => ?_
        · exact hkeeps₂.before
        · exact hresult₂
        · exact hafter₂
        · refine ⟨fun _ => ⟨_, rfl⟩, ?_⟩
          rintro session ⟨⟩
          exact hjudged

omit [Digest] in
theorem getSession_only {E : Effect → Prop} {sessionId : Text} (hE : E (.storeGet sessionId)) :
    Only E (getSession sessionId) := by
  unfold getSession
  refine Only.raising_bind ⟨hE, fun _ => trivial⟩ fun row => ?_
  cases row with
  | none => trivial
  | some session => trivial

theorem execute_meets {sessionId : Text} : Meets judged (execute sessionId client) {} fun r history =>
    (history.started = true → ∃ session, r = .ok session) ∧
      ∀ session, r = .ok session → Judged client session history := by
  unfold execute
  rw [meets_raising_bind]
  have hget : KeepsHistory (.storeGet sessionId) := keepsHistory_of_unmarked rfl (by rintro _ ⟨⟩)
  refine (keeps_judged (getSession_only hget)).mono fun found history hkeeps => ?_
  -- nothing is started by an `execute` that is refused
  have hrefused (exc : Exn) : (history.started = true →
        ∃ session, (.error exc : Except Exn ChangeSession) = .ok session) ∧
      ∀ session, (.error exc : Except Exn ChangeSession) = .ok session →
        Judged client session history := by
    refine ⟨fun hstart => ?_, by rintro session ⟨⟩⟩
    rw [hkeeps.started] at hstart
    cases hstart
  cases found with
  | error exc => exact hrefused exc
  | ok session =>
    rw [continues_ok]
    split
    · exact hrefused _
    rw [meets_quietly_bind]
    refine meets_of_gate ignoresGates_judged ⟨rfl, fun _ => trivial⟩ fun _ host _ => ?_
    refine writeGuard_meets ignoresGates_judged ?_ hrefused
    refine policyGuard_meets ignoresGates_judged (fun canonical => ?_) hrefused
    exact executeAuthorized_judged hkeeps.started hkeeps.result hkeeps.after

end runs

/-! ## A session that is executed -/

/-- A switch, as its status table and running configuration are after a number of sent lists. -/
structure Switch where
  status : Nat → Except Exn Text
  config : Nat → Text

/-- The plan to disable a port of `sampleHost`. -/
def disablePlan : ChangePlan where
  id := "plan-1"
  deviceId := @deviceIdOf sampleDigest sampleHost
  targetInterface := "Gi1/0/6"
  step := ⟨"Gi1/0/6", .adminDown, none⟩
  declaredIntent := intentFor .adminDown "Gi1/0/6" none
  createdAt := 0
  target_eq := rfl

def readySession : ChangeSession where
  id := "change-1"
  plan := disablePlan
  status := .ready
  createdAt := 0
  updatedAt := 0

/-- The surroundings of `readySession`, with every gate open; the state counts the lists that the
switch was sent. -/
def Switch.answer (switch : Switch) : (effect : Effect) → Nat → Answer effect × Nat
  | .switchHost, sent => (some sampleHost, sent)
  | .run _ .showInterfacesStatus, sent => (switch.status sent, sent)
  | .run _ .showRunningConfig, sent => (.ok (switch.config sent), sent)
  | .run _ _, sent => (.ok [], sent)
  | .runRawAction _ _, sent => (.ok [], sent + 1)
  | .auditRecord _, sent => (.ok (), sent)
  | .writeBackup _, sent => (.ok ⟨[], []⟩, sent)
  | .acquire _, sent => ((), sent)
  | .release _, sent => ((), sent)
  | .readUnlocked, sent => (true, sent)
  | .writeUnlocked _, sent => ((), sent)
  | .readPolicy, sent => (.document (InterfacePolicy.toJson ⟨true,
      [(@deviceKey sampleDigest sampleHost, [("GigabitEthernet1/0/6", .operable)])]⟩), sent)
  | .writePolicy _, sent => (.ok (), sent)
  | .storeGet _, sent => (some readySession, sent)
  | .storeSave _, sent => ((), sent)
  | .assuranceContext, sent => (.ok ⟨none, none, none, some ("live" : Text)⟩, sent)
  | .uuid, sent => ([], sent)
  | .now, sent => ((0 : Nat), sent)
  | .monotonic, sent => ((0 : Nat), sent)
  | .mark _, sent => ((), sent)

/-- `execute` for the stored session. -/
def sampleExecute : Action ChangeSession := @execute sampleDigest "change-1" ⟨sampleHost⟩

/-- Its run on a switch. -/
def Switch.executed (switch : Switch) : Except Exn ChangeSession × List (Event Effect Answer) :=
  sampleExecute.simulate switch.answer 0

/-- The port as a row of the status table. -/
def portRow (port status vlan : Text) : Text :=
  port ++ " ".toList ++ status ++ " ".toList ++ vlan ++ " full 1000 TX\n".toList

def statusTable (rows : List Text) : Text := "Port Name Status\n".toList ++ rows.flatten

/-- The configuration block of the port. -/
def portConfig (shutdown : Bool) : Text :=
  "interface GigabitEthernet1/0/6\n" ++ (if shutdown then " shutdown\n".toList else []) ++ "!\n".toList

/-- A switch that does what it is told. -/
def obedientSwitch : Switch where
  status sent := .ok (statusTable [portRow "Gi1/0/6" (if sent = 0 then "connected" else "disabled") "1"])
  config sent := portConfig (sent ≠ 0)

/-- A switch that cannot be read after the change, and again after the restore sequence. -/
def unreadableSwitch : Switch where
  status sent := if sent = 1 then .error (.switchOps .switchConnection [])
    else .ok (statusTable [portRow "Gi1/0/6" "connected" "1"])
  config _ := portConfig false

/-- A switch that lists another port twice, the first time with a VLAN that changes. -/
def repeatingSwitch : Switch where
  status sent := .ok (statusTable [
    portRow "Gi1/0/6" (if sent = 0 then "connected" else "disabled") "1",
    portRow "Gi1/0/7" "connected" (if sent = 0 then "1" else "2"),
    portRow "Gi1/0/7" "connected" "1"])
  config sent := portConfig (sent ≠ 0)

theorem Switch.executed_runs {switch : Switch} {session : ChangeSession}
    (h : switch.executed.1.toOption = some session) :
    Runs sampleExecute switch.executed.2 (.ok session) := by
  have hrun := runs_simulate switch.answer sampleExecute 0
  have hresult : switch.executed.1 = .ok session := by
    cases hexecuted : switch.executed.1 with
    | error exc => rw [hexecuted] at h; cases h
    | ok session' => rw [hexecuted] at h; cases h; rfl
  rw [← hresult]
  exact hrun

/-! ## The property -/

/-- **Verdict soundness**: whatever the environment does, `execute` returns a session once the
operation was started, and every session it returns is judged rightly. -/
theorem execute_judged [Digest] {sessionId : Text} {client : Client} {t : List (Event Effect Answer)}
    {r : Except Exn ChangeSession} (h : Runs (execute sessionId client) t r) :
    ((historyOf t).started = true → ∃ session, r = .ok session) ∧
      ∀ session, r = .ok session → Judged client session (historyOf t) :=
  h.ledger execute_meets

theorem execute_judged_obedientSwitch : ∃ session,
    Runs sampleExecute obedientSwitch.executed.2 (.ok session) ∧ session.status = .succeeded ∧
      Judged ⟨sampleHost⟩ session (historyOf obedientSwitch.executed.2) := by
  have hstatus : obedientSwitch.executed.1.toOption.map (·.status) = some .succeeded := by
    decide +kernel
  obtain ⟨session, hsession, hsucceeded⟩ := Option.map_eq_some_iff.mp hstatus
  have hrun := Switch.executed_runs hsession
  exact ⟨session, hrun, hsucceeded, (@execute_judged sampleDigest _ _ _ _ hrun).2 session rfl⟩

/-- A failed read may be followed by a verified rollback, and of a port that is listed twice only
the last row is compared. -/
theorem rolledBack_after_failed_read : (∃ session,
      Runs sampleExecute unreadableSwitch.executed.2 (.ok session) ∧
        (historyOf unreadableSwitch.executed.2).started = true ∧
        (historyOf unreadableSwitch.executed.2).log.failed = true ∧ session.status = .rolledBack) ∧
    ∃ session, Runs sampleExecute repeatingSwitch.executed.2 (.ok session) ∧
      session.status = .succeeded ∧
      (session.beforeSnapshot.map fun before => before.otherInterfaces.map (·.vlan)) =
        some ["1".toList, "1".toList] ∧
      (session.afterSnapshot.map fun after => after.otherInterfaces.map (·.vlan)) =
        some ["2".toList, "1".toList] := by
  constructor
  · have hstatus : unreadableSwitch.executed.1.toOption.map (·.status) = some .rolledBack := by
      decide +kernel
    obtain ⟨session, hsession, hrolledBack⟩ := Option.map_eq_some_iff.mp hstatus
    have hhistory : (historyOf unreadableSwitch.executed.2).started = true ∧
        (historyOf unreadableSwitch.executed.2).log.failed = true := by decide +kernel
    exact ⟨session, Switch.executed_runs hsession, hhistory.1, hhistory.2, hrolledBack⟩
  · have hvlans : repeatingSwitch.executed.1.toOption.map (fun session => (session.status,
        session.beforeSnapshot.map fun before => before.otherInterfaces.map (·.vlan),
        session.afterSnapshot.map fun after => after.otherInterfaces.map (·.vlan))) =
        some (.succeeded, some ["1".toList, "1".toList], some ["2".toList, "1".toList]) := by
      decide +kernel
    obtain ⟨session, hsession, hvalues⟩ := Option.map_eq_some_iff.mp hvlans
    simp only [Prod.mk.injEq] at hvalues
    exact ⟨session, Switch.executed_runs hsession, hvalues⟩

end SwitchOps
