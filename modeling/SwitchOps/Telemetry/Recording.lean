import SwitchOps.Lib.Datetime
import SwitchOps.Lib.Transaction
import SwitchOps.Telemetry.Store

/-!
# Recording an observation

`record_snapshot` statement by statement: the tables of the database with their constraints, the texts that their
timestamp columns hold, and the transaction. The retention compares these texts, so that it is exact as long as they
compare as the instants do (`recordedExactly_iff`).
-/

namespace List

/-- Lists are filtered alike exactly if the tests agree on what they hold. -/
theorem filter_eq_filter_iff {α : Type} {p q : α → Bool} {l : List α} :
    l.filter p = l.filter q ↔ ∀ a ∈ l, p a = q a := by
  constructor
  · intro same a here
    rw [Bool.eq_iff_iff]
    have member : a ∈ l.filter p ↔ a ∈ l.filter q := by rw [same]
    rwa [mem_filter, mem_filter, and_iff_right here, and_iff_right here] at member
  · exact filter_congr

end List

namespace SwitchOps

open Atomic Datetime

/-! ## The database -/

/-- A row of `device_observations`, its measurements aside; the column holds the ISO format of the timestamp. -/
structure SnapshotEntry where
  snapshotId : Text
  deviceId : Text
  timestamp : Aware
  deriving DecidableEq, Repr

/-- A row of `interface_observations`. -/
structure InterfaceEntry where
  snapshotId : Text
  row : InterfaceRow
  deriving DecidableEq, Repr

def InterfaceEntry.key (entry : InterfaceEntry) : Text × Text := (entry.snapshotId, entry.row.port)

/-- A row of `network_events`. -/
structure EventEntry where
  timestamp : Aware
  event : EventRow
  deriving DecidableEq, Repr

/-- The tables, each in the order of its ids, with their constraints. -/
structure TelemetryDatabase where
  snapshots : List SnapshotEntry
  interfaces : List InterfaceEntry
  events : List EventEntry
  /-- `snapshot_id TEXT NOT NULL UNIQUE` -/
  unique_snapshot : (snapshots.map (·.snapshotId)).Nodup
  /-- `UNIQUE(snapshot_id, port)` -/
  unique_port : (interfaces.map InterfaceEntry.key).Nodup
  /-- `FOREIGN KEY(snapshot_id) REFERENCES device_observations(snapshot_id)` -/
  foreign_key : ∀ entry ∈ interfaces, entry.snapshotId ∈ snapshots.map (·.snapshotId)

namespace TelemetryDatabase

/-- A violated constraint: `sqlite3.IntegrityError`. -/
def integrityError (message : Text) : Exn := .other "IntegrityError" message

/-- `INSERT INTO device_observations` -/
def insertSnapshot (entry : SnapshotEntry) (db : TelemetryDatabase) : Except Exn TelemetryDatabase :=
  if known : entry.snapshotId ∈ db.snapshots.map (·.snapshotId) then
    .error (integrityError "UNIQUE constraint failed: device_observations.snapshot_id")
  else .ok {
    db with
    snapshots := db.snapshots ++ [entry]
    unique_snapshot := by
      rw [List.map_append]
      exact List.nodup_append.mpr ⟨db.unique_snapshot, List.nodup_singleton _, by
        rintro id here other new rfl
        rw [List.mem_singleton.mp new] at here
        exact known here⟩
    foreign_key := by
      intro row here
      rw [List.map_append]
      exact List.mem_append_left _ (db.foreign_key row here) }

/-- `INSERT INTO interface_observations` -/
def insertInterface (entry : InterfaceEntry) (db : TelemetryDatabase) : Except Exn TelemetryDatabase :=
  if used : entry.key ∈ db.interfaces.map InterfaceEntry.key then
    .error (integrityError
      "UNIQUE constraint failed: interface_observations.snapshot_id, interface_observations.port")
  else if known : entry.snapshotId ∈ db.snapshots.map (·.snapshotId) then .ok {
    db with
    interfaces := db.interfaces ++ [entry]
    unique_port := by
      rw [List.map_append]
      exact List.nodup_append.mpr ⟨db.unique_port, List.nodup_singleton _, by
        rintro key here other new rfl
        rw [List.mem_singleton.mp new] at here
        exact used here⟩
    foreign_key := by
      intro row here
      rcases List.mem_append.mp here with here | here
      · exact db.foreign_key row here
      · rwa [List.mem_singleton.mp here] }
  else .error (integrityError "FOREIGN KEY constraint failed")

/-- `INSERT INTO network_events` -/
def insertEvent (entry : EventEntry) (db : TelemetryDatabase) : Except Exn TelemetryDatabase :=
  .ok { db with events := db.events ++ [entry] }

variable (db : TelemetryDatabase)

/-- `timestamp < ?`, a comparison of texts. -/
def isBefore (cutoff : Text) (timestamp : Aware) : Bool := before timestamp.isoformat cutoff

/-- `DELETE FROM network_events WHERE timestamp < ?` -/
def deleteEvents (cutoff : Text) : TelemetryDatabase :=
  { db with events := db.events.filter fun entry => !isBefore cutoff entry.timestamp }

/-- `DELETE FROM device_observations WHERE timestamp < ?`, which deletes the rows that refer to a deleted one:
`ON DELETE CASCADE`. -/
def deleteSnapshots (cutoff : Text) : TelemetryDatabase :=
  let deleted := db.snapshots.filter fun entry => isBefore cutoff entry.timestamp
  {
    db with
    snapshots := db.snapshots.filter fun entry => !isBefore cutoff entry.timestamp
    interfaces := db.interfaces.filter fun row => row.snapshotId ∉ deleted.map (·.snapshotId)
    unique_snapshot := db.unique_snapshot.sublist (List.filter_sublist.map _)
    unique_port := db.unique_port.sublist (List.filter_sublist.map _)
    foreign_key := by
      intro row here
      obtain ⟨here, kept⟩ := List.mem_filter.mp here
      obtain ⟨entry, listed, same⟩ := List.mem_map.mp (db.foreign_key row here)
      refine List.mem_map.mpr ⟨entry, List.mem_filter.mpr ⟨listed, ?_⟩, same⟩
      rw [Bool.not_eq_true', ← Bool.not_eq_true]
      intro old
      exact of_decide_eq_true kept (List.mem_map.mpr ⟨entry, List.mem_filter.mpr ⟨listed, old⟩, same⟩) }

/-! ## What is stored -/

/-- A snapshot with the rows of its interfaces. -/
def stored (entry : SnapshotEntry) : TelemetrySnapshot where
  deviceId := entry.deviceId
  timestamp := entry.timestamp.instant.toNat
  rows := (db.interfaces.filter (·.snapshotId = entry.snapshotId)).map (·.row)
  nodup := by
    rw [List.map_map]
    have keys := db.unique_port.sublist ((List.filter_sublist (p := (·.snapshotId = entry.snapshotId))).map _)
    rw [List.Nodup, List.pairwise_map] at keys ⊢
    refine keys.imp_of_mem fun first second apart same => apart (Prod.ext ?_ same)
    exact (of_decide_eq_true (List.mem_filter.mp first).2).trans (of_decide_eq_true (List.mem_filter.mp second).2).symm

/-- The tables as a comparison reads them. -/
def tables : TelemetryTables where
  snapshots := db.snapshots.map db.stored
  events := db.events.map (·.event)

end TelemetryDatabase

/-! ## Recording -/

/-- What `record_snapshot` is called with, and the id that is drawn for the snapshot. -/
structure DatedObservation where
  seen : TelemetryObservation
  observedAt : Aware
  snapshotId : Text
  at_instant : seen.observedAt = observedAt.instant.toNat

/-- `max(1, min(retention_days, 3650))` -/
def clampRetention (retentionDays : Int) : Nat := (max 1 (min retentionDays 3650)).toNat

namespace DatedObservation

variable [Digest] (dated : DatedObservation) (db : TelemetryDatabase)

def entry : SnapshotEntry := ⟨dated.snapshotId, dated.seen.deviceId, dated.observedAt⟩

/-- A row for every interface. -/
def interfaceEntries : List InterfaceEntry :=
  dated.seen.interfaces.map fun current => ⟨dated.snapshotId, dated.seen.interfaceRow current⟩

/-- The events that are derived against the latest snapshot of the device. -/
def eventEntries : List EventEntry :=
  (db.tables.compare dated.seen).events.map fun event => ⟨dated.observedAt, event⟩

/-- What is older than the retention is deleted. -/
def retain (retentionDays : Int) (db : TelemetryDatabase) : Except Exn TelemetryDatabase :=
  match dated.observedAt.minusDays (clampRetention retentionDays) with
  | some cutoff => .ok ((db.deleteEvents cutoff.isoformat).deleteSnapshots cutoff.isoformat)
  | none => .error (.other "OverflowError" "date value out of range")

/-- The statements, the reading of the latest snapshot first. -/
def statements (retentionDays : Int) : List (TelemetryDatabase → Except Exn TelemetryDatabase) :=
  [fun db => .ok db, TelemetryDatabase.insertSnapshot dated.entry] ++
    dated.interfaceEntries.map TelemetryDatabase.insertInterface ++ (dated.eventEntries db).map TelemetryDatabase.insertEvent ++
    [dated.retain retentionDays]

/-- `record_snapshot`, where the environment may fail each statement. -/
def record (fails : Nat → Option Exn) (retentionDays : Int) : TelemetryDatabase × Except Exn Recording :=
  let done := atomically fails (dated.statements db retentionDays) db
  (done.1, done.2.map fun _ => db.tables.compare dated.seen)

end DatedObservation

namespace TelemetryDatabase

variable (db : TelemetryDatabase)

/-- The timestamps that the retention looks at. -/
def timestamps : List Aware := db.snapshots.map (·.timestamp) ++ db.events.map (·.timestamp)

/-! ### The statements -/

variable {db} {db' : TelemetryDatabase}

theorem insertSnapshot_ok {entry : SnapshotEntry} (h : db.insertSnapshot entry = .ok db') :
    entry.snapshotId ∉ db.snapshots.map (·.snapshotId) ∧ db'.snapshots = db.snapshots ++ [entry] ∧
      db'.interfaces = db.interfaces ∧ db'.events = db.events := by
  rw [insertSnapshot] at h
  split at h
  · cases h
  · next fresh =>
    cases h
    exact ⟨fresh, rfl, rfl, rfl⟩

theorem exists_insertSnapshot {entry : SnapshotEntry} (fresh : entry.snapshotId ∉ db.snapshots.map (·.snapshotId)) :
    ∃ db', insertSnapshot entry db = .ok db' := by
  rw [insertSnapshot, dif_neg fresh]
  exact ⟨_, rfl⟩

theorem insertInterface_ok {entry : InterfaceEntry} (h : db.insertInterface entry = .ok db') :
    entry.key ∉ db.interfaces.map InterfaceEntry.key ∧ db'.snapshots = db.snapshots ∧
      db'.interfaces = db.interfaces ++ [entry] ∧ db'.events = db.events := by
  rw [insertInterface] at h
  split at h
  · cases h
  · next fresh =>
    split at h
    · cases h
      exact ⟨fresh, rfl, rfl, rfl⟩
    · cases h

/-- Rows that are inserted are new, each to those before it. -/
theorem insertInterfaces_ok {entries : List InterfaceEntry}
    (h : perform (entries.map insertInterface) db = .ok db') :
    db'.snapshots = db.snapshots ∧ db'.interfaces = db.interfaces ++ entries ∧ db'.events = db.events := by
  induction entries generalizing db with
  | nil =>
    cases h
    exact ⟨rfl, (List.append_nil _).symm, rfl⟩
  | cons entry entries ih =>
    rw [List.map_cons, perform_cons_eq_ok] at h
    obtain ⟨next, found, h⟩ := h
    obtain ⟨-, snapshots, interfaces, events⟩ := insertInterface_ok found
    obtain ⟨snapshots', interfaces', events'⟩ := ih h
    refine ⟨snapshots'.trans snapshots, ?_, events'.trans events⟩
    rw [interfaces', interfaces, List.append_assoc, List.singleton_append]

/-- New rows of a known snapshot can be inserted. -/
theorem exists_insertInterfaces {entries : List InterfaceEntry}
    (known : ∀ entry ∈ entries, entry.snapshotId ∈ db.snapshots.map (·.snapshotId))
    (fresh : ((db.interfaces ++ entries).map InterfaceEntry.key).Nodup) :
    ∃ db', perform (entries.map insertInterface) db = .ok db' := by
  induction entries generalizing db with
  | nil => exact ⟨db, rfl⟩
  | cons entry entries ih =>
    have new : entry.key ∉ db.interfaces.map InterfaceEntry.key := by
      rw [List.map_append, List.map_cons] at fresh
      exact fun old => List.disjoint_of_nodup_append fresh old List.mem_cons_self
    have inserted : ∃ next, db.insertInterface entry = .ok next := by
      rw [insertInterface, dif_neg new, dif_pos (known entry List.mem_cons_self)]
      exact ⟨_, rfl⟩
    obtain ⟨next, found⟩ := inserted
    obtain ⟨-, snapshots, interfaces, -⟩ := insertInterface_ok found
    have rest : ∃ db', perform (entries.map insertInterface) next = .ok db' := by
      apply ih
      · intro other here
        rw [snapshots]
        exact known other (List.mem_cons_of_mem _ here)
      · rwa [interfaces, List.append_assoc, List.singleton_append]
    obtain ⟨db', run⟩ := rest
    exact ⟨db', perform_cons_eq_ok.mpr ⟨next, found, run⟩⟩

theorem exists_insertEvents (entries : List EventEntry) :
    ∃ db', perform (entries.map insertEvent) db = .ok db' ∧
      db'.snapshots = db.snapshots ∧ db'.interfaces = db.interfaces ∧ db'.events = db.events ++ entries := by
  induction entries generalizing db with
  | nil => exact ⟨db, rfl, rfl, rfl, (List.append_nil _).symm⟩
  | cons entry entries ih =>
    obtain ⟨db', run, snapshots, interfaces, events⟩ := @ih { db with events := db.events ++ [entry] }
    refine ⟨db', perform_cons_eq_ok.mpr ⟨_, rfl, run⟩, snapshots, interfaces, ?_⟩
    rw [events, List.append_assoc, List.singleton_append]

end TelemetryDatabase

namespace DatedObservation

variable [Digest] {dated : DatedObservation} {db db' : TelemetryDatabase} {retentionDays : Int}

/-- The ports are listed once, and the id of the snapshot is new. -/
structure Storable (dated : DatedObservation) (db : TelemetryDatabase) : Prop where
  ports : (dated.seen.interfaces.map (·.port)).Nodup
  fresh : dated.snapshotId ∉ db.snapshots.map (·.snapshotId)

/-- The keys of the new rows: the ports, in the new snapshot. -/
theorem nodup_keys_iff (dated : DatedObservation) :
    (dated.interfaceEntries.map InterfaceEntry.key).Nodup ↔ (dated.seen.interfaces.map (·.port)).Nodup := by
  have keys : dated.interfaceEntries.map InterfaceEntry.key =
      (dated.seen.interfaces.map (·.port)).map fun port => (dated.snapshotId, port) := by
    rw [interfaceEntries, List.map_map, List.map_map]
    rfl
  rw [keys, List.nodup_map_iff]
  exact fun _ _ same => (Prod.mk.inj same).2

/-- What the statements leave, if all go well: everything is inserted, and what is older than the cutoff is deleted. -/
structure Stored (dated : DatedObservation) (db db' : TelemetryDatabase) (retentionDays : Int) where
  cutoff : Aware
  full : TelemetryDatabase
  cutoff_eq : dated.observedAt.minusDays (clampRetention retentionDays) = some cutoff
  deleted : db' = (full.deleteEvents cutoff.isoformat).deleteSnapshots cutoff.isoformat
  snapshots : full.snapshots = db.snapshots ++ [dated.entry]
  interfaces : full.interfaces = db.interfaces ++ dated.interfaceEntries
  events : full.events = db.events ++ dated.eventEntries db

/-- **What the statements do, if all go well.** -/
theorem statements_ok (h : perform (dated.statements db retentionDays) db = .ok db') :
    dated.Storable db ∧ Nonempty (dated.Stored db db' retentionDays) := by
  rw [statements, perform_append_eq_ok] at h
  obtain ⟨full, inserted, retained⟩ := h
  rw [perform_append_eq_ok] at inserted
  obtain ⟨rows, inserted, events⟩ := inserted
  rw [perform_append_eq_ok] at inserted
  obtain ⟨opened, inserted, interfaces⟩ := inserted
  rw [perform_cons_eq_ok] at inserted
  obtain ⟨read, same, inserted⟩ := inserted
  obtain rfl := Except.ok.inj same
  rw [perform_cons_eq_ok] at inserted retained
  obtain ⟨opened', inserted, same⟩ := inserted
  obtain rfl := Except.ok.inj same
  obtain ⟨last, retained, same⟩ := retained
  obtain rfl := Except.ok.inj same
  obtain ⟨fresh, snapshots₁, interfaces₁, events₁⟩ := TelemetryDatabase.insertSnapshot_ok inserted
  obtain ⟨snapshots₂, interfaces₂, events₂⟩ := TelemetryDatabase.insertInterfaces_ok interfaces
  obtain ⟨full', run, snapshots₃, interfaces₃, events₃⟩ := rows.exists_insertEvents (dated.eventEntries db)
  obtain rfl := Except.ok.inj (run.symm.trans events)
  have ports : (dated.seen.interfaces.map (·.port)).Nodup := by
    have keys := rows.unique_port
    rw [interfaces₂, List.map_append] at keys
    exact dated.nodup_keys_iff.mp keys.of_append_right
  refine ⟨⟨ports, fresh⟩, ?_⟩
  rw [retain] at retained
  split at retained
  · next cutoff found =>
    exact ⟨{
      cutoff := cutoff
      full := full'
      cutoff_eq := found
      deleted := (Except.ok.inj retained).symm
      snapshots := by rw [snapshots₃, snapshots₂, snapshots₁]
      interfaces := by rw [interfaces₃, interfaces₂, interfaces₁]
      events := by rw [events₃, events₂, events₁] }⟩
  · cases retained

/-- They go well, if the observation can be stored and the cutoff exists. -/
theorem exists_perform_statements (storable : dated.Storable db) {cutoff : Aware}
    (known : dated.observedAt.minusDays (clampRetention retentionDays) = some cutoff) :
    ∃ db', perform (dated.statements db retentionDays) db = .ok db' := by
  have opened : ∃ opened, TelemetryDatabase.insertSnapshot dated.entry db = .ok opened :=
    TelemetryDatabase.exists_insertSnapshot storable.fresh
  obtain ⟨opened, inserted⟩ := opened
  obtain ⟨-, snapshots, interfaces, -⟩ := TelemetryDatabase.insertSnapshot_ok inserted
  have rows : ∃ rows, perform (dated.interfaceEntries.map TelemetryDatabase.insertInterface) opened = .ok rows := by
    apply TelemetryDatabase.exists_insertInterfaces
    · intro entry here
      obtain ⟨current, -, rfl⟩ := List.mem_map.mp here
      rw [snapshots, List.map_append]
      exact List.mem_append_right _ (List.mem_singleton_self _)
    · rw [interfaces, List.map_append, List.nodup_append]
      refine ⟨db.unique_port, dated.nodup_keys_iff.mpr storable.ports, ?_⟩
      -- the rows that are there belong to known snapshots
      rintro key old _ new rfl
      obtain ⟨entry, here, rfl⟩ := List.mem_map.mp old
      obtain ⟨added, here', same⟩ := List.mem_map.mp new
      obtain ⟨current, -, rfl⟩ := List.mem_map.mp here'
      apply storable.fresh
      rw [show dated.snapshotId = entry.snapshotId from (Prod.mk.inj same).1]
      exact db.foreign_key entry here
  obtain ⟨rows, interfaces⟩ := rows
  obtain ⟨full, events, -⟩ := rows.exists_insertEvents (dated.eventEntries db)
  have retained : dated.retain retentionDays full =
      .ok ((full.deleteEvents cutoff.isoformat).deleteSnapshots cutoff.isoformat) := by
    rw [retain, known]
  refine ⟨_, perform_append_eq_ok.mpr ⟨full, perform_append_eq_ok.mpr ⟨rows, perform_append_eq_ok.mpr ⟨opened, ?_,
    interfaces⟩, events⟩, perform_cons_eq_ok.mpr ⟨_, retained, rfl⟩⟩⟩
  exact perform_cons_eq_ok.mpr ⟨db, rfl, perform_cons_eq_ok.mpr ⟨opened, inserted, rfl⟩⟩

end DatedObservation

/-! ## Exactness -/

/-- A recording that fails changes no table, as where a port is listed twice; one that succeeds adds a snapshot, a row
for every interface and the derived events, and deletes the snapshots, with their rows, and the events that are older
than the cutoff. -/
structure RecordedExactly [Digest] (retentionDays : Int) (db : TelemetryDatabase) (dated : DatedObservation) : Prop where
  failed : ∀ fails e, (dated.record db fails retentionDays).2 = .error e → (dated.record db fails retentionDays).1 = db
  twice : ¬(dated.seen.interfaces.map (·.port)).Nodup → ∀ fails, (dated.record db fails retentionDays).1 = db
  succeeded : ∀ fails recording, (dated.record db fails retentionDays).2 = .ok recording →
    ∃ cutoff, dated.observedAt.minusDays (clampRetention retentionDays) = some cutoff ∧
      let recent (timestamp : Aware) : Bool := cutoff.instant ≤ timestamp.instant
      let after := (dated.record db fails retentionDays).1
      after.snapshots = (db.snapshots.filter fun entry => recent entry.timestamp) ++ [dated.entry] ∧
      after.interfaces = (db.interfaces.filter fun row => db.snapshots.any fun entry =>
        entry.snapshotId = row.snapshotId && recent entry.timestamp) ++ dated.interfaceEntries ∧
      after.events = (db.events.filter fun entry => recent entry.timestamp) ++ dated.eventEntries db

theorem one_le_clampRetention (retentionDays : Int) : 1 ≤ clampRetention retentionDays := by
  rw [clampRetention]
  omega

namespace DatedObservation

variable {dated : DatedObservation} {db db' : TelemetryDatabase} {retentionDays : Int}

/-- What is observed is not before the cutoff. -/
theorem not_isBefore_observedAt {cutoff : Aware}
    (known : dated.observedAt.minusDays (clampRetention retentionDays) = some cutoff) :
    TelemetryDatabase.isBefore cutoff.isoformat dated.observedAt = false := by
  obtain ⟨wall, -⟩ := Aware.minusDays_eq known
  have days := one_le_clampRetention retentionDays
  rw [TelemetryDatabase.isBefore, ← Bool.not_eq_true, before_isoformat_iff]
  rw [show (dayLength : Int) = 86400000000 from rfl] at wall
  omega

variable [Digest]

namespace Stored

variable (stored : dated.Stored db db' retentionDays)

/-- Is the timestamp not deleted? -/
def keeps (timestamp : Aware) : Bool := !TelemetryDatabase.isBefore stored.cutoff.isoformat timestamp

theorem keeps_observedAt : stored.keeps dated.observedAt = true := by
  rw [keeps, not_isBefore_observedAt stored.cutoff_eq]
  rfl

/-- A timestamp that is not misplaced is kept if it is recent. -/
theorem keeps_eq_iff {timestamp : Aware} :
    stored.keeps timestamp = decide (stored.cutoff.instant ≤ timestamp.instant) ↔
      ¬timestamp.Misplaced stored.cutoff := by
  rw [← Aware.before_isoformat_iff_instant, keeps, TelemetryDatabase.isBefore]
  cases before timestamp.isoformat stored.cutoff.isoformat with
  | false => simp
  | true => simp

theorem snapshots_eq :
    db'.snapshots = (db.snapshots.filter fun entry => stored.keeps entry.timestamp) ++ [dated.entry] := by
  have new : stored.keeps dated.entry.timestamp = true := stored.keeps_observedAt
  apply (congrArg TelemetryDatabase.snapshots stored.deleted).trans
  show stored.full.snapshots.filter (fun entry => stored.keeps entry.timestamp) = _
  rw [stored.snapshots, List.filter_append, List.filter_cons, if_pos new]
  rfl

theorem events_eq :
    db'.events = (db.events.filter fun entry => stored.keeps entry.timestamp) ++ dated.eventEntries db := by
  apply (congrArg TelemetryDatabase.events stored.deleted).trans
  show stored.full.events.filter (fun entry => stored.keeps entry.timestamp) = _
  have new : ∀ entry ∈ dated.eventEntries db, stored.keeps entry.timestamp = true := by
    intro entry here
    obtain ⟨event, -, rfl⟩ := List.mem_map.mp here
    exact stored.keeps_observedAt
  rw [stored.events, List.filter_append, List.filter_eq_self.mpr new]

/-- The snapshots that are deleted are old ones. -/
theorem mem_deleted_iff {id : Text} :
    id ∈ (stored.full.snapshots.filter fun entry =>
      TelemetryDatabase.isBefore stored.cutoff.isoformat entry.timestamp).map (·.snapshotId) ↔
      ∃ entry ∈ db.snapshots, stored.keeps entry.timestamp = false ∧ entry.snapshotId = id := by
  have new := not_isBefore_observedAt stored.cutoff_eq
  simp only [List.mem_map, List.mem_filter, stored.snapshots, List.mem_append, List.mem_singleton, keeps,
    Bool.not_eq_false']
  constructor
  · rintro ⟨entry, ⟨listed | rfl, old⟩, same⟩
    · exact ⟨entry, listed, old, same⟩
    · exact absurd (new.symm.trans old) Bool.false_ne_true
  · rintro ⟨entry, listed, old, same⟩
    exact ⟨entry, ⟨.inl listed, old⟩, same⟩

theorem interfaces_eq (storable : dated.Storable db) :
    db'.interfaces = (db.interfaces.filter fun row => db.snapshots.any fun entry =>
      entry.snapshotId = row.snapshotId && stored.keeps entry.timestamp) ++ dated.interfaceEntries := by
  apply (congrArg TelemetryDatabase.interfaces stored.deleted).trans
  show stored.full.interfaces.filter (fun row => row.snapshotId ∉ (stored.full.snapshots.filter fun entry =>
    TelemetryDatabase.isBefore stored.cutoff.isoformat entry.timestamp).map (·.snapshotId)) = _
  have new : ∀ row ∈ dated.interfaceEntries, decide (row.snapshotId ∉ (stored.full.snapshots.filter fun entry =>
      TelemetryDatabase.isBefore stored.cutoff.isoformat entry.timestamp).map (·.snapshotId)) = true := by
    intro row here
    obtain ⟨current, -, rfl⟩ := List.mem_map.mp here
    rw [decide_eq_true_eq, stored.mem_deleted_iff]
    rintro ⟨entry, listed, -, same⟩
    exact storable.fresh (List.mem_map.mpr ⟨entry, listed, same⟩)
  rw [stored.interfaces, List.filter_append, List.filter_eq_self.mpr new]
  congr 1
  apply List.filter_congr
  intro row here
  -- the row belongs to one snapshot, and stays as long as this one does
  obtain ⟨entry, listed, same⟩ := List.mem_map.mp (db.foreign_key row here)
  have only : ∀ other ∈ db.snapshots, other.snapshotId = row.snapshotId → other = entry := fun other known equal =>
    List.inj_on_of_nodup_map db.unique_snapshot known listed (equal.trans same.symm)
  rw [Bool.eq_iff_iff, decide_eq_true_eq, stored.mem_deleted_iff, List.any_eq_true]
  constructor
  · intro kept
    refine ⟨entry, listed, ?_⟩
    rw [Bool.and_eq_true, decide_eq_true_eq]
    refine ⟨same, ?_⟩
    rw [← Bool.not_eq_false]
    exact fun old => kept ⟨entry, listed, old, same⟩
  · rintro ⟨other, known, kept⟩ ⟨another, known', old, same'⟩
    rw [Bool.and_eq_true, decide_eq_true_eq] at kept
    rw [only other known kept.1] at kept
    rw [only another known' same', kept.2] at old
    cases old

end Stored

end DatedObservation

/-- **Every recording is exact if and only if it fails, or no stored timestamp is misplaced**: a recording fails where a
port is listed twice, the id of the snapshot is known, or the cutoff lies before the year 1. -/
theorem recordedExactly_iff [Digest] (retentionDays : Int) (db : TelemetryDatabase) (dated : DatedObservation) :
    RecordedExactly retentionDays db dated ↔ (dated.Storable db →
      ∀ cutoff, dated.observedAt.minusDays (clampRetention retentionDays) = some cutoff →
        ∀ timestamp ∈ db.timestamps, ¬timestamp.Misplaced cutoff) := by
  have outcome : ∀ fails recording, (dated.record db fails retentionDays).2 = .ok recording →
      perform (dated.statements db retentionDays) db = .ok (dated.record db fails retentionDays).1 := by
    intro fails recording ok
    apply perform_of_atomically
    rw [DatedObservation.record] at ok
    dsimp only at ok
    cases found : (atomically fails (dated.statements db retentionDays) db).2 with
    | ok done => rfl
    | error e =>
      rw [found] at ok
      cases ok
  constructor
  · intro exact_ storable cutoff known timestamp here
    have performed : ∃ db', perform (dated.statements db retentionDays) db = .ok db' :=
      DatedObservation.exists_perform_statements storable known
    obtain ⟨db', run⟩ := performed
    obtain ⟨-, ⟨stored⟩⟩ := DatedObservation.statements_ok run
    -- the environment does not disturb this recording
    have done : atomically (fun _ => none) (dated.statements db retentionDays) db = (db', .ok ()) :=
      atomically_of_perform (fun _ => rfl) run
    have ok : (dated.record db (fun _ => none) retentionDays).2 = .ok (db.tables.compare dated.seen) := by
      rw [DatedObservation.record, done]
      rfl
    have after : (dated.record db (fun _ => none) retentionDays).1 = db' := by
      rw [DatedObservation.record, done]
    obtain ⟨cutoff', known', snapshots, -, events⟩ := exact_.succeeded _ _ ok
    obtain rfl := Option.some.inj (known.symm.trans known')
    obtain rfl := Option.some.inj (known.symm.trans stored.cutoff_eq)
    rw [after, stored.snapshots_eq, List.append_left_inj, List.filter_eq_filter_iff] at snapshots
    rw [after, stored.events_eq, List.append_left_inj, List.filter_eq_filter_iff] at events
    apply stored.keeps_eq_iff.mp
    rcases List.mem_append.mp here with here | here
    · obtain ⟨entry, listed, rfl⟩ := List.mem_map.mp here
      exact snapshots entry listed
    · obtain ⟨entry, listed, rfl⟩ := List.mem_map.mp here
      exact events entry listed
  · intro placed
    have failed : ∀ fails e, (dated.record db fails retentionDays).2 = .error e →
        (dated.record db fails retentionDays).1 = db := by
      intro fails e error
      rw [DatedObservation.record] at error
      dsimp only at error
      cases found : (atomically fails (dated.statements db retentionDays) db).2 with
      | ok done =>
        rw [found] at error
        cases error
      | error e => exact fst_atomically_of_error found
    refine ⟨failed, fun twice fails => ?_, fun fails recording ok => ?_⟩
    · cases found : (dated.record db fails retentionDays).2 with
      | ok recording => exact absurd (DatedObservation.statements_ok (outcome fails recording found)).1.ports twice
      | error e => exact failed fails e found
    · obtain ⟨storable, ⟨stored⟩⟩ := DatedObservation.statements_ok (outcome fails recording ok)
      have recent : ∀ timestamp ∈ db.timestamps,
          stored.keeps timestamp = decide (stored.cutoff.instant ≤ timestamp.instant) := fun timestamp here =>
        stored.keeps_eq_iff.mpr (placed storable _ stored.cutoff_eq timestamp here)
      have snapshots : ∀ entry ∈ db.snapshots,
          stored.keeps entry.timestamp = decide (stored.cutoff.instant ≤ entry.timestamp.instant) := fun entry here =>
        recent _ (List.mem_append_left _ (List.mem_map_of_mem here))
      refine ⟨stored.cutoff, stored.cutoff_eq, ?_, ?_, ?_⟩
      · rw [stored.snapshots_eq, List.append_left_inj]
        exact List.filter_congr snapshots
      · rw [stored.interfaces_eq storable, List.append_left_inj]
        apply List.filter_congr
        intro row _
        rw [Bool.eq_iff_iff, List.any_eq_true, List.any_eq_true]
        exact exists_congr fun entry => and_congr_right fun here => by rw [snapshots entry here]
      · rw [stored.events_eq, List.append_left_inj]
        exact List.filter_congr fun entry here => recent _ (List.mem_append_right _ (List.mem_map_of_mem here))

/-- A snapshot of the first hour of 2024 two hours east of Greenwich, where the year has not begun yet. -/
def eastHistory : TelemetryDatabase where
  snapshots := [⟨"first", "lab-1", ⟨⟨2024, 1, 1, by decide, by decide, by decide⟩,
    ⟨1, 0, 0, 0, by decide, by decide, by decide, by decide⟩, 7200000000, by decide⟩⟩]
  interfaces := []
  events := []
  unique_snapshot := by decide
  unique_port := by decide
  foreign_key := by simp

/-- An observation thirty days after midnight in Greenwich. -/
def greenwichObservation : DatedObservation where
  seen := ⟨"lab-1", 63842342400000000, [], [], [], []⟩
  observedAt := ⟨⟨2024, 1, 31, by decide, by decide, by decide⟩,
    ⟨0, 0, 0, 0, by decide, by decide, by decide, by decide⟩, 0, by decide⟩
  snapshotId := "second"
  at_instant := by decide +kernel

theorem not_recordedExactly_east :
    ¬∀ [Digest] (retentionDays : Int) (db : TelemetryDatabase) (dated : DatedObservation),
      RecordedExactly retentionDays db dated := by
  intro claimed
  -- no text is digested here
  let digests : Digest := Digest.ofTable [] (fun _ none => absurd none List.not_mem_nil) fun _ _ => []
  have exact_ := claimed 30 eastHistory greenwichObservation
  have ok : (greenwichObservation.record eastHistory (fun _ => none) 30).2 = .ok ⟨[], []⟩ := by decide +kernel
  have after : (greenwichObservation.record eastHistory (fun _ => none) 30).1.snapshots =
      eastHistory.snapshots ++ [greenwichObservation.entry] := by decide +kernel
  obtain ⟨cutoff, known, snapshots, -⟩ := exact_.succeeded _ _ ok
  have midnight : greenwichObservation.observedAt.minusDays (clampRetention 30) =
      some ⟨⟨2024, 1, 1, by decide, by decide, by decide⟩,
        ⟨0, 0, 0, 0, by decide, by decide, by decide, by decide⟩, 0, by decide⟩ := by decide +kernel
  obtain rfl := Option.some.inj (midnight.symm.trans known)
  rw [after] at snapshots
  exact absurd snapshots (by decide +kernel)

end SwitchOps
