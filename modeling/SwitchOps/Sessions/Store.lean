import SwitchOps.ChangeModels
import SwitchOps.Lib.Dict

/-!
# The store of change sessions

`ChangeStore`: a row for each session, which holds the status of the session twice, in a column of
its own and in the document. The document is the session it encodes. Opening the store rewrites the
rows of the sessions that were under way when SwitchOps stopped.
-/

namespace SwitchOps

/-- A row of `change_sessions`. -/
structure SessionRow where
  id : Text
  deviceId : Text
  targetInterface : Text
  operationKind : OperationKind
  status : ChangeSessionStatus
  createdAt : Nat
  updatedAt : Nat
  document : ChangeSession
  deriving DecidableEq, Repr

/-- The row that `_write` inserts for a session. -/
def SessionRow.of (session : ChangeSession) : SessionRow where
  id := session.id
  deviceId := session.plan.deviceId
  targetInterface := session.plan.targetInterface
  operationKind := session.plan.step.kind
  status := session.status
  createdAt := session.createdAt
  updatedAt := session.updatedAt
  document := session

/-- What `_recover_incomplete` makes of a session. -/
def ChangeSession.interrupted (session : ChangeSession) (updatedAt : Nat) : ChangeSession :=
  { session with
    status := .indeterminate
    outcomeDetail := "SwitchOps stopped while this change was in progress. ".toList ++
      "The device state must be inspected before another change is attempted.".toList
    updatedAt := updatedAt }

/-- The rows, by the identifiers of their sessions. -/
abbrev ChangeStore := Dict Text SessionRow

namespace ChangeStore

/-- `get` -/
def get (store : ChangeStore) (id : Text) : Option ChangeSession :=
  (store.get? id).map (·.document)

/-- `_write`: an existing row keeps its `created_at`. -/
def write (store : ChangeStore) (session : ChangeSession) : ChangeStore :=
  store.set session.id { SessionRow.of session with
    createdAt := ((store.get? session.id).map (·.createdAt)).getD session.createdAt }

/-- `_recover_incomplete`; `clock` says when the row of a session is rewritten. -/
def recoverIncomplete (store : ChangeStore) (clock : Text → Nat) : ChangeStore :=
  ((store.values.filter fun row => row.status.inFlight).map fun row =>
    row.document.interrupted (clock row.id)).foldl write store

/-! ### Writing -/

variable {store : ChangeStore} {session : ChangeSession} {id : Text}

theorem get?_write_self (store : ChangeStore) (session : ChangeSession) :
    ∃ row, (store.write session).get? session.id = some row ∧ row.id = session.id ∧
      row.status = session.status ∧ row.document = session :=
  ⟨_, Dict.get?_set_self _ _ _, rfl, rfl, rfl⟩

theorem get?_write_ne (store : ChangeStore) (h : session.id ≠ id) :
    (store.write session).get? id = store.get? id :=
  Dict.get?_set_ne _ h

theorem get_write_self (store : ChangeStore) (session : ChangeSession) :
    (store.write session).get session.id = some session := by
  simp [get, write, Dict.get?_set_self, SessionRow.of]

theorem get_write_ne (store : ChangeStore) (h : session.id ≠ id) :
    (store.write session).get id = store.get id := by
  rw [get, get, get?_write_ne store h]

/-! ### The two copies -/

/-- The rows are distinct, and each is that of the session in its document, in the status of the
document. -/
structure Consistent (store : ChangeStore) : Prop where
  nodup : store.keys.Nodup
  row : ∀ id row, store.get? id = some row →
    row.id = id ∧ row.document.id = id ∧ row.status = row.document.status

theorem consistent_nil : Consistent [] := ⟨List.nodup_nil, by simp⟩

theorem Consistent.write (h : Consistent store) (session : ChangeSession) :
    Consistent (store.write session) where
  nodup := Dict.nodup_keys_set h.nodup _ _
  row := by
    intro id row here
    by_cases same : session.id = id
    · subst same
      obtain ⟨row', found, rowId, status, document⟩ := get?_write_self store session
      obtain rfl : row' = row := Option.some.inj (found.symm.trans here)
      exact ⟨rowId, by rw [document], by rw [status, document]⟩
    · exact h.row id row (by rwa [get?_write_ne store same] at here)

theorem Consistent.foldl (h : Consistent store) (sessions : List ChangeSession) :
    Consistent (sessions.foldl ChangeStore.write store) := by
  induction sessions generalizing store with
  | nil => exact h
  | cons session rest ih => exact ih (h.write session)

/-- The document of a row is what `get` returns. -/
theorem get_eq_some : store.get id = some session ↔
    ∃ row, store.get? id = some row ∧ row.document = session :=
  Option.map_eq_some_iff

/-! ### Recovery -/

/-- Writing other sessions leaves a row alone. -/
theorem get?_foldl_of_not_mem {sessions : List ChangeSession} (h : ∀ s ∈ sessions, s.id ≠ id) :
    (sessions.foldl write store).get? id = store.get? id := by
  induction sessions generalizing store with
  | nil => rfl
  | cons first rest ih =>
    rw [List.foldl_cons, ih fun s mem => h s (List.mem_cons_of_mem _ mem)]
    exact get?_write_ne store (h first List.mem_cons_self)

/-- Of sessions that are written in turn, each is found again. -/
theorem get_foldl_of_mem {sessions : List ChangeSession} (distinct : (sessions.map (·.id)).Nodup)
    (mem : session ∈ sessions) : (sessions.foldl write store).get session.id = some session := by
  induction sessions generalizing store with
  | nil => cases mem
  | cons first rest ih =>
    obtain ⟨fresh, distinct⟩ := List.nodup_cons.mp distinct
    obtain rfl | mem := List.mem_cons.mp mem
    · have others : ∀ s ∈ rest, s.id ≠ session.id := by
        intro s mem same
        exact fresh (List.mem_map.mpr ⟨s, mem, same⟩)
      rw [List.foldl_cons, get, get?_foldl_of_not_mem others]
      exact get_write_self store session
    · exact ih distinct mem

/-- The sessions that recovery rewrites are distinct. -/
theorem Consistent.distinct (h : Consistent store) (clock : Text → Nat) :
    (((store.values.filter fun row => row.status.inFlight).map fun row =>
      row.document.interrupted (clock row.id)).map (·.id)).Nodup := by
  have ids : store.values.map (fun row => row.document.id) = store.keys := by
    rw [Dict.values, Dict.keys, List.map_map]
    refine List.map_congr_left fun entry mem => ?_
    exact (h.row entry.1 entry.2 (Dict.get?_of_mem h.nodup mem)).2.1
  rw [List.map_map]
  refine List.Nodup.sublist (List.filter_sublist.map _) (?_ : (store.values.map _).Nodup)
  rw [show (fun s : ChangeSession => s.id) ∘ (fun row : SessionRow =>
    row.document.interrupted (clock row.id)) = fun row => row.document.id from rfl, ids]
  exact h.nodup

/-- A session that was under way is rewritten as interrupted. -/
theorem get_recover_of_inFlight (h : Consistent store) (clock : Text → Nat) {row : SessionRow}
    (here : store.get? id = some row) (inFlight : row.status.inFlight = true) :
    (store.recoverIncomplete clock).get id = some (row.document.interrupted (clock id)) := by
  obtain ⟨rowId, documentId, -⟩ := h.row id row here
  have stored : row ∈ store.values := List.mem_map.mpr ⟨_, Dict.mem_of_get? here, rfl⟩
  have mem : row.document.interrupted (clock row.id) ∈
      (store.values.filter fun row => row.status.inFlight).map fun row =>
        row.document.interrupted (clock row.id) :=
    List.mem_map.mpr ⟨row, List.mem_filter.mpr ⟨stored, inFlight⟩, rfl⟩
  have found := @get_foldl_of_mem store _ _ (h.distinct clock) mem
  rw [rowId, show (row.document.interrupted (clock id)).id = id from documentId] at found
  exact found

/-- Every other row is left as it is. -/
theorem get?_recover_of_not_inFlight (h : Consistent store) (clock : Text → Nat) {row : SessionRow}
    (here : store.get? id = some row) (ended : row.status.inFlight = false) :
    (store.recoverIncomplete clock).get? id = some row := by
  refine (get?_foldl_of_not_mem fun s mem same => ?_).trans here
  obtain ⟨other, kept, rfl⟩ := List.mem_map.mp mem
  obtain ⟨stored, inFlight⟩ := List.mem_filter.mp kept
  obtain ⟨⟨key, _⟩, entry, rfl⟩ := List.mem_map.mp stored
  have there := Dict.get?_of_mem h.nodup entry
  obtain rfl : key = id := (h.row key _ there).2.1.symm.trans same
  obtain rfl := Option.some.inj (there.symm.trans here)
  rw [ended] at inFlight
  cases inFlight

theorem get?_recover_of_none (h : Consistent store) (clock : Text → Nat)
    (absent : store.get? id = none) : (store.recoverIncomplete clock).get? id = none := by
  refine (get?_foldl_of_not_mem fun s mem same => ?_).trans absent
  obtain ⟨other, kept, rfl⟩ := List.mem_map.mp mem
  obtain ⟨⟨key, _⟩, entry, rfl⟩ := List.mem_map.mp (List.mem_filter.mp kept).1
  have there := Dict.get?_of_mem h.nodup entry
  obtain rfl : key = id := (h.row key _ there).2.1.symm.trans same
  simp [there] at absent

theorem Consistent.recover (h : Consistent store) (clock : Text → Nat) :
    Consistent (store.recoverIncomplete clock) :=
  h.foldl _

/-- After recovery no session is under way. -/
theorem not_inFlight_recover (h : Consistent store) (clock : Text → Nat) {row : SessionRow}
    (here : (store.recoverIncomplete clock).get? id = some row) : row.status.inFlight = false := by
  cases before : store.get? id with
  | none =>
    rw [get?_recover_of_none h clock before] at here
    cases here
  | some old =>
    cases inFlight : old.status.inFlight with
    | false =>
      obtain rfl : old = row :=
        Option.some.inj ((get?_recover_of_not_inFlight h clock before inFlight).symm.trans here)
      exact inFlight
    | true =>
      obtain ⟨row', found, document⟩ :=
        get_eq_some.mp (get_recover_of_inFlight h clock before inFlight)
      obtain rfl : row' = row := Option.some.inj (found.symm.trans here)
      rw [((h.recover clock).row id row' here).2.2, document]
      rfl

/-- Recovering again changes nothing. -/
theorem recover_recover (h : Consistent store) (clock clock' : Text → Nat) :
    (store.recoverIncomplete clock).recoverIncomplete clock' = store.recoverIncomplete clock := by
  have none : (store.recoverIncomplete clock).values.filter (fun row => row.status.inFlight) = [] := by
    refine List.filter_eq_nil_iff.mpr fun row mem => ?_
    obtain ⟨⟨key, _⟩, entry, rfl⟩ := List.mem_map.mp mem
    simp [not_inFlight_recover h clock (Dict.get?_of_mem (h.recover clock).nodup entry)]
  rw [recoverIncomplete, none]
  rfl

end ChangeStore

end SwitchOps
