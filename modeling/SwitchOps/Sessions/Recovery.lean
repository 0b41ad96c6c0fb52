import SwitchOps.Sessions.Terminal

/-!
# Recovery after a crash

What opening the store makes of the sessions, wherever SwitchOps stopped between two operations
(`Recovered`). What recovery does to the rows holds of every store whose two copies of the statuses
agree; that a session whose commands were sent ends up terminal rests on the discipline of the
jobs, and on the fallbacks, as terminality does (`recovered_of_reaches`).
-/

namespace SwitchOps

open Machines ChangeServer

/-- What is stored when SwitchOps stops and opens the store again. -/
structure Recovered {ι : Type} (s : ChangeServer ι) (clock : Text → Nat) : Prop where
  /-- No session is under way, in either copy of its status. -/
  settled : ∀ id row, (s.store.recoverIncomplete clock).get? id = some row →
    row.status.inFlight = false ∧ row.document.status = row.status
  interrupted : ∀ id row, s.store.get? id = some row → row.status.inFlight = true →
    ∃ row', (s.store.recoverIncomplete clock).get? id = some row' ∧
      row'.status = .indeterminate ∧ row'.document.status = .indeterminate
  untouched : ∀ id row, s.store.get? id = some row → row.status.inFlight = false →
    (s.store.recoverIncomplete clock).get? id = some row
  absent : ∀ id, s.store.get? id = none → (s.store.recoverIncomplete clock).get? id = none
  again : ∀ clock', (s.store.recoverIncomplete clock).recoverIncomplete clock' =
    s.store.recoverIncomplete clock
  /-- Every session for which commands were sent is terminal. -/
  sent : ∀ id ∈ s.sent, ∃ session, (s.store.recoverIncomplete clock).get id = some session ∧
    session.status.terminal = true

/-- A session that has been started is terminal after recovery. -/
theorem ChangeStore.Consistent.terminal_recover {store : ChangeStore} (h : store.Consistent)
    (clock : Text → Nat) {id : Text} {session : ChangeSession} (found : store.get id = some session)
    (begun : session.status.notStarted = false) : ∃ session',
      (store.recoverIncomplete clock).get id = some session' ∧ session'.status.terminal = true := by
  obtain ⟨row, here, rfl⟩ := ChangeStore.get_eq_some.mp found
  have status := (h.row id row here).2.2
  cases inFlight : row.status.inFlight with
  | true => exact ⟨_, ChangeStore.get_recover_of_inFlight h clock here inFlight, rfl⟩
  | false =>
    have kept := ChangeStore.get?_recover_of_not_inFlight h clock here inFlight
    refine ⟨row.document, ChangeStore.get_eq_some.mpr ⟨row, kept, rfl⟩, ?_⟩
    -- neither under way nor before its start
    by_contra notTerminal
    have notStarted := (ChangeSessionStatus.notStarted_iff _).mpr
      ⟨status ▸ inFlight, Bool.eq_false_iff.mpr notTerminal⟩
    rw [begun] at notStarted
    cases notStarted

/-- The state of a server that keeps to the discipline is recovered at every crash. -/
theorem ChangeServer.Conducted.recovered {ι : Type} {s : ChangeServer ι} (h : Conducted s)
    (clock : Text → Nat) : Recovered s clock where
  settled id row here :=
    ⟨ChangeStore.not_inFlight_recover h.consistent clock here,
      ((h.consistent.recover clock).row id row here).2.2.symm⟩
  interrupted id row here inFlight := by
    have found := ChangeStore.get_recover_of_inFlight h.consistent clock here inFlight
    obtain ⟨row', here', document⟩ := ChangeStore.get_eq_some.mp found
    have status := ((h.consistent.recover clock).row id row' here').2.2
    refine ⟨row', here', ?_, by rw [document]; rfl⟩
    rw [status, document]
    rfl
  untouched id row here ended := ChangeStore.get?_recover_of_not_inFlight h.consistent clock here ended
  absent id absent := ChangeStore.get?_recover_of_none h.consistent clock absent
  again := ChangeStore.recover_recover h.consistent clock
  sent id mem := by
    obtain ⟨session, found, begun⟩ := h.started id (h.sent id mem)
    exact h.consistent.terminal_recover clock found begun

/-- **Crash recovery** at every point of a run in which no fallback stores over a session that has
been started. -/
theorem recovered_of_reaches {ι : Type} [DecidableEq ι] [Digest] {s : ChangeServer ι}
    (h : Reaches step FallsBack {} s) (clock : Text → Nat) : Recovered s clock :=
  (conducted_of_reaches h).recovered clock

/-- SwitchOps stops when the commands of an execution have been sent. -/
theorem recovered_of_change : ∃ s : ChangeServer (Fin 5), s.sent = [plannedSession.id] ∧
    (s.store.get plannedSession.id).map (·.status) = some .executing ∧
    ((s.store.recoverIncomplete fun _ => 0).get plannedSession.id).map (·.status) =
      some .indeterminate ∧ Recovered s fun _ => 0 := by
  obtain ⟨s, reached, ended⟩ := exists_reaches_of_run_guarded (@step (Fin 5) _ sampleDigest)
    FallsBack {} ([.create plannedSession] ++ requestRun 0 .preflight 44 0 ++
      [.request 1 .execute plannedSession.id, .take 1 ⟨sampleHost⟩ ⟨none, none, none, none⟩] ++
      List.replicate 101 (.work (answersAfter 0)))
    (fun s => s.sent = [plannedSession.id] ∧
      (s.store.get plannedSession.id).map (·.status) = some .executing ∧
      ((s.store.recoverIncomplete fun _ => 0).get plannedSession.id).map (·.status) =
        some .indeterminate) (by decide +kernel)
  obtain ⟨sent, executing, indeterminate⟩ := of_decide_eq_true ended
  exact ⟨s, sent, executing, indeterminate,
    @recovered_of_reaches _ _ sampleDigest s reached fun _ => 0⟩

/-- A session that a second preflight request reopened is no terminal one after a crash, though its
commands were sent. -/
theorem not_recovered_of_reopened : ∃ s : ChangeServer (Fin 5),
    Reaches (@step _ _ sampleDigest) Always {} s ∧ s.sent = [plannedSession.id] ∧
      ((s.store.recoverIncomplete fun _ => 0).get plannedSession.id).map (·.status) =
        some .blocked ∧ ¬ Recovered s fun _ => 0 := by
  obtain ⟨s, reached, ended⟩ := exists_reaches_of_run (@step (Fin 5) _ sampleDigest) {}
    ([.create plannedSession] ++ requestRun 0 .preflight 44 0 ++ requestRun 1 .execute 101 53 ++
      requestRun 2 .preflight 0 1 ++ fallbackRun 2 4)
    (fun s => s.sent = [plannedSession.id] ∧
      ((s.store.recoverIncomplete fun _ => 0).get plannedSession.id).map (·.status) =
        some .blocked) (by decide +kernel)
  obtain ⟨sent, blocked⟩ := of_decide_eq_true ended
  refine ⟨s, reached, sent, blocked, fun holds => ?_⟩
  obtain ⟨session, found, terminal⟩ := holds.sent plannedSession.id (by simp [sent])
  have status : session.status = .blocked := by simpa [found] using blocked
  rw [status] at terminal
  cases terminal

end SwitchOps
