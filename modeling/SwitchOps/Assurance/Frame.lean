import SwitchOps.Assurance.Service
import SwitchOps.Operations.Outcome

/-!
# What the service can do

The frames of a snapshot, of a preflight and of storing a session.
-/

namespace SwitchOps

open Effects Effects.Program

/-- `E` covers a snapshot: the reads, their records, the context and the clock. -/
structure CoversCapture (E : Effect → Prop) (client : Client) : Prop where
  run : ∀ symbol, E (.run client symbol)
  audit : ∀ entry, E (.auditRecord entry)
  monotonic : E .monotonic
  now : E .now

section frames

variable {E : Effect → Prop} {client : Client}

theorem observeDevice_only (hE : CoversCapture E client) (actor : Text) :
    Only E (observeDevice client actor) := by
  have hread (symbol : ReadSymbol) : Only E (runAndAudit client symbol actor) :=
    runAndAudit_only (hE.run symbol) hE.audit hE.monotonic
  unfold observeDevice
  refine (hread _).raising_bind fun status => ?_
  refine Only.raising_bind (p := orRaise _) trivial fun interfaces => ?_
  refine (hread _).raising_bind fun poe => ?_
  refine (hread _).raising_bind fun errors => ?_
  refine (hread _).raising_bind fun macTable => ?_
  refine (hread _).raising_bind fun running => ?_
  exact (hread _).raising_bind fun startup => trivial

variable [Digest]

theorem captureAssuranceSnapshot_only (hE : CoversCapture E client) (deviceId interface : Text)
    (kind : OperationKind) (value : Option Text) (context : AssuranceContext) :
    Only E (captureAssuranceSnapshot client deviceId interface kind value context) := by
  unfold captureAssuranceSnapshot
  refine Only.raising_bind (p := orRaise _) trivial fun canonical => ?_
  refine Only.raising_bind (p := orRaise _) trivial fun targetShort => ?_
  refine Only.raising_bind (p := orRaise _) trivial fun _ => ?_
  refine (observeDevice_only hE _).raising_bind fun seen => ?_
  exact Only.raising_bind ⟨hE.now, fun _ => trivial⟩ fun capturedAt => trivial

theorem capture_only (hE : CoversCapture E client) (hcontext : E .assuranceContext)
    (session : ChangeSession) : Only E (session.capture client) := by
  unfold ChangeSession.capture
  refine Only.raising_bind (only_perform.mpr hcontext) fun context => ?_
  exact captureAssuranceSnapshot_only hE _ _ _ _ _

theorem stateFor_only (hgates : CoversGates E) (host : Option Text) (interface : Text) :
    Only E (InterfacePolicyStore.stateFor host interface) := by
  unfold InterfacePolicyStore.stateFor
  split
  · trivial
  refine Only.raising_bind (p := orRaise _) trivial fun canonical => ?_
  refine locked_only hgates ?_
  refine Only.raising_bind ((loadPolicy_only hgates).bind fun _ => trivial) fun data => ?_
  split <;> trivial

omit [Digest] in
theorem unlocked_only (hgates : CoversGates E) : Only E WriteLock.unlocked := by
  unfold WriteLock.unlocked
  refine withLock_only hgates ?_
  refine Only.bind ⟨hgates.readUnlocked, fun _ => trivial⟩ fun isUnlocked => ?_
  split
  · exact controlledWritesEnabled_only hgates
  · trivial

theorem preflight_only (hgates : CoversGates E) (hnow : E .now) (plan : ChangePlan)
    (snapshot : AssuranceSnapshot) (host : Option Text) : Only E (preflight plan snapshot host) := by
  unfold preflight
  refine (stateFor_only hgates _ _).raising_bind fun policyState => ?_
  refine Only.raising_bind ((controlledWritesEnabled_only hgates).bind fun _ => trivial)
    fun capability => ?_
  refine Only.raising_bind ((unlocked_only hgates).bind fun _ => trivial) fun unlocked => ?_
  exact Only.raising_bind ⟨hnow, fun _ => trivial⟩ fun evaluatedAt => trivial

omit [Digest] in
theorem save_only {session : ChangeSession} (hnow : E .now)
    (hsave : ∀ updatedAt, E (.storeSave { session with updatedAt := updatedAt })) :
    Only E session.save := by
  unfold ChangeSession.save
  refine Only.bind (only_perform.mpr hnow) fun updatedAt => ?_
  exact Only.bind (only_perform.mpr (hsave updatedAt)) fun _ => trivial

end frames

/-- Storing a session under a discipline: only the time of its update is added. -/
theorem save_meets {G : Type} {D : Discipline Effect Answer G} {g : G} {session : ChangeSession}
    {Q : ChangeSession → G → Prop} (hnow : D.allowed g .now)
    (h : ∀ updatedAt, D.allowed (D.next g .now updatedAt)
        (.storeSave { session with updatedAt := updatedAt }) ∧
      Q { session with updatedAt := updatedAt } (D.next (D.next g .now updatedAt)
        (.storeSave { session with updatedAt := updatedAt }) ())) :
    Meets D session.save g Q := by
  unfold ChangeSession.save
  rw [meets_bind]
  refine meets_perform.mpr ⟨hnow, fun updatedAt _ => ?_⟩
  rw [meets_bind]
  exact meets_perform.mpr ⟨(h updatedAt).1, fun _ _ => (h updatedAt).2⟩

end SwitchOps
