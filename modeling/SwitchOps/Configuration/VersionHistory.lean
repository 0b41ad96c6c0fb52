import Mathlib.Data.List.Chain
import Mathlib.Data.List.MinMax
import SwitchOps.Configuration.Redaction
import SwitchOps.Lib.Datetime
import SwitchOps.Lib.Dict
import SwitchOps.Lib.History
import SwitchOps.Lib.Transaction
import SwitchOps.Models

/-!
# The configuration history

`configuration_history.py`: the table of the configuration versions, the files that hold them, and the two calls that
write them, each of whose statements and file operations the environment may fail. `diff` stands for
`difflib.unified_diff`, of the lines before and after and of the two file labels.

The versions of all devices share one table and one sequence of ids; the chain of a device is what the table lists of it.
-/

namespace SwitchOps

open Atomic Datetime Histories

/-! ## The table -/

/-- A row of `configuration_versions`. -/
structure ConfigurationVersion where
  id : Nat
  timestamp : Aware
  deviceId : Text
  fingerprint : Text
  filename : Text
  previousId : Option Nat
  knownGood : Bool
  changeDetected : Bool
  source : Text
  redactedDiff : List Text
  deriving DecidableEq

/-- The table in the order of its ids, with its constraints; `sequence` is the last id that was issued. -/
structure VersionTable where
  versions : List ConfigurationVersion
  sequence : Nat
  /-- `id INTEGER PRIMARY KEY AUTOINCREMENT` -/
  ascending : versions.Pairwise fun v w => v.id < w.id
  issued : ∀ v ∈ versions, v.id ≤ sequence
  /-- `FOREIGN KEY(previous_id) REFERENCES configuration_versions(id)` -/
  foreign_key : ∀ v ∈ versions, ∀ id ∈ v.previousId, ∃ w ∈ versions, w.id = id

namespace VersionTable

def empty : VersionTable where
  versions := []
  sequence := 0
  ascending := .nil
  issued := by simp
  foreign_key := by simp

/-- The largest id that SQLite issues. -/
def maxRowId : Nat := 2 ^ 63 - 1

/-- `INSERT INTO configuration_versions` -/
def insert (row : ConfigurationVersion) (table : VersionTable) : Except Exn VersionTable :=
  if table.sequence = maxRowId then .error (.other "OperationalError" "database or disk is full")
  else if known : ∀ id ∈ row.previousId, ∃ w ∈ table.versions, w.id = id then .ok {
    versions := table.versions ++ [{ row with id := table.sequence + 1 }]
    sequence := table.sequence + 1
    ascending := List.pairwise_append.mpr ⟨table.ascending, List.pairwise_singleton _ _, by
      intro v here w new
      rw [List.mem_singleton.mp new]
      exact Nat.lt_succ_of_le (table.issued v here)⟩
    issued := by
      intro v here
      rcases List.mem_append.mp here with here | new
      · exact (table.issued v here).trans (Nat.le_succ _)
      · rw [List.mem_singleton.mp new]
    foreign_key := by
      intro v here id named
      rcases List.mem_append.mp here with here | new
      · obtain ⟨w, listed, same⟩ := table.foreign_key v here id named
        exact ⟨w, List.mem_append_left _ listed, same⟩
      · rw [List.mem_singleton.mp new] at named
        obtain ⟨w, listed, same⟩ := known id named
        exact ⟨w, List.mem_append_left _ listed, same⟩ }
  else .error (.other "IntegrityError" "FOREIGN KEY constraint failed")

/-- `UPDATE configuration_versions SET known_good = ...` -/
def updateKnownGood (known : ConfigurationVersion → Bool) (table : VersionTable) : VersionTable where
  versions := table.versions.map fun v => { v with knownGood := known v }
  sequence := table.sequence
  ascending := List.pairwise_map.mpr table.ascending
  issued := by
    intro v here
    obtain ⟨w, listed, rfl⟩ := List.mem_map.mp here
    exact table.issued w listed
  foreign_key := by
    intro v here id named
    obtain ⟨w, listed, rfl⟩ := List.mem_map.mp here
    obtain ⟨u, known, same⟩ := table.foreign_key w listed id named
    exact ⟨_, List.mem_map_of_mem known, same⟩

/-- `UPDATE configuration_versions SET known_good = 0 WHERE device_id = ?` -/
def resetKnownGood (deviceId : Text) (table : VersionTable) : Except Exn VersionTable :=
  .ok (table.updateKnownGood fun v => if v.deviceId = deviceId then false else v.knownGood)

/-- `UPDATE configuration_versions SET known_good = 1 WHERE id = ?` -/
def setKnownGood (id : Int) (table : VersionTable) : Except Exn VersionTable :=
  .ok (table.updateKnownGood fun v => if (v.id : Int) = id then true else v.knownGood)

variable (table : VersionTable)

/-- `SELECT * FROM configuration_versions WHERE id = ?` -/
def select (id : Int) : Option ConfigurationVersion := table.versions.find? fun v => (v.id : Int) = id

def versionsOf (deviceId : Text) : List ConfigurationVersion := table.versions.filter (·.deviceId = deviceId)

/-- `SELECT * FROM configuration_versions WHERE device_id = ? ORDER BY id DESC LIMIT 1` -/
def latest (deviceId : Text) : Option ConfigurationVersion := (table.versionsOf deviceId).argmax (·.id)

end VersionTable

/-! ## The store -/

/-- The database and the files of the history directory. -/
structure ConfigurationHistoryStore where
  table : VersionTable
  files : Dict Text Text

/-- What the environment makes fail in one call. -/
structure CallFaults where
  connect : Option Exn := none
  readPrevious : Option Exn := none
  openFile : Option Exn := none
  /-- what has reached the file when the write fails -/
  write : Option (Text × Exn) := none
  harden : Option Exn := none
  /-- the statements of the transaction, and its commit -/
  statement : Nat → Option Exn := fun _ => none
  reread : Option Exn := none

/-- `re.sub("[^...]+", "-", value)`, of the characters that are not to be kept. -/
def dashRuns (keep : Char → Bool) : Text → Text
  | [] => []
  | c :: rest =>
    if keep c then c :: dashRuns keep rest
    else if (rest.head?.map keep).getD true then '-' :: dashRuns keep rest
    else dashRuns keep rest

/-- `_safe_slug` -/
def safeSlug (value : Text) : Text :=
  let dashes := dashRuns (fun c => c.isAlphanum || c == '_' || c == '-') value
  let stripped := ((dashes.dropWhile (· == '-')).reverse.dropWhile (· == '-')).reverse
  if stripped.isEmpty then "switch" else stripped

/-- `_normalize_config` -/
def normalizeConfig (configText : Text) : Text :=
  ((configText.replace "\r\n" "\n").replace "\r" "\n").strip ++ ['\n']

/-- `observed_at.strftime("%Y-%m-%d-%H%M%S-%f")` -/
def stampOf (at_ : Aware) : Text :=
  at_.date.text ('-' :: (padded 2 at_.clock.hour ++ padded 2 at_.clock.minute ++ padded 2 at_.clock.second ++
    '-' :: padded 6 at_.clock.microsecond))

def versionFilename (hostname : Text) (observedAt : Aware) (fingerprint : Text) : Text :=
  safeSlug hostname ++ ("-running-config-" : Text) ++ stampOf observedAt ++ ['-'] ++ fingerprint.take 12 ++ (".txt" : Text)

namespace ConfigurationHistoryStore

/-- A database without versions, beside some files. -/
def fresh (files : Dict Text Text) : ConfigurationHistoryStore := ⟨.empty, files⟩

variable (faults : CallFaults) (store : ConfigurationHistoryStore)

/-- `previous_path.read_text() if previous_path.exists() else ""` -/
def previousText (previous : ConfigurationVersion) : Except Exn Text :=
  match Dict.get? store.files previous.filename with
  | none => .ok []
  | some content =>
    match faults.readPrevious with
    | some e => .error e
    | none => .ok content

/-- `path.open("x")`, the write, and `harden_private_file`: the files after it, and what it raised. -/
def createFile (filename content : Text) : Dict Text Text × Option Exn :=
  if filename ∈ Dict.keys store.files then (store.files, some (.other "FileExistsError" filename))
  else match faults.openFile with
    | some e => (store.files, some e)
    | none =>
      match faults.write with
      | some (written, e) => (Dict.set store.files filename written, some e)
      | none => (Dict.set store.files filename content, faults.harden)

/-- The row of a call, as the database has it, unless it cannot be read. -/
def reread (id : Int) : Except Exn ConfigurationVersion :=
  match faults.reread with
  | some e => .error e
  | none =>
    match store.table.select id with
    | none => .error (.other "AssertionError" [])
    | some row => .ok row

section calls

variable [Digest] (diff : List Text → List Text → Text → Text → List Text)

/-- The redacted difference from the previous version, if there is one. -/
def redactedDiff (previous : Option ConfigurationVersion) (normalized : Text) : Except Exn (List Text) :=
  match previous with
  | none => .ok []
  | some row =>
    (previousText faults store row).map fun content =>
      diff (redactConfig (normalizeConfig content)).splitlines (redactConfig normalized).splitlines
        (("version-" : Text) ++ Text.ofNat row.id) "current-observation"

/-- What `observe` does once the fingerprint is new. -/
def recordVersion (previous : Option ConfigurationVersion) (deviceId hostname normalized : Text) (observedAt : Aware) :
    ConfigurationHistoryStore × Except Exn (ConfigurationVersion × Bool) :=
  match redactedDiff faults store diff previous normalized with
  | .error e => (store, .error e)
  | .ok lines =>
    let fingerprint := Digest.sha256 normalized
    let filename := versionFilename hostname observedAt fingerprint
    let (files, failure) := createFile faults store filename normalized
    match failure with
    | some e => ({ store with files }, .error e)
    | none =>
      let row : ConfigurationVersion := {
        id := 0
        timestamp := observedAt
        deviceId
        fingerprint
        filename
        previousId := previous.map (·.id)
        knownGood := false
        changeDetected := previous.isSome
        source := if previous.isSome then "external_or_unknown" else "initial_observation"
        redactedDiff := lines }
      let (table, result) := atomically faults.statement [VersionTable.insert row] store.table
      let recorded : ConfigurationHistoryStore := { table, files }
      match result with
      | .error e => (recorded, .error e)
      | .ok () => (recorded, (reread faults recorded table.sequence).map (·, previous.isSome))

/-- `observe` -/
def observe (deviceId hostname configText : Text) (observedAt : Aware) :
    ConfigurationHistoryStore × Except Exn (ConfigurationVersion × Bool) :=
  if configText.strip.isEmpty then
    (store, .error (.other "ValueError" "Cannot version an empty running configuration."))
  else
    let normalized := normalizeConfig configText
    match faults.connect with
    | some e => (store, .error e)
    | none =>
      match store.table.latest deviceId with
      | none => recordVersion faults store diff none deviceId hostname normalized observedAt
      | some previous =>
        if previous.fingerprint = Digest.sha256 normalized then (store, .ok (previous, false))
        else recordVersion faults store diff (some previous) deviceId hostname normalized observedAt

end calls

/-- `mark_known_good` -/
def markKnownGood (entryId : Int) : ConfigurationHistoryStore × Except Exn ConfigurationVersion :=
  match faults.connect with
  | some e => (store, .error e)
  | none =>
    match store.table.select entryId with
    | none => (store, .error (.other "KeyError" (toString entryId).toList))
    | some target =>
      let (table, result) := atomically faults.statement
        [VersionTable.resetKnownGood target.deviceId, VersionTable.setKnownGood entryId] store.table
      let marked : ConfigurationHistoryStore := { store with table }
      match result with
      | .error e => (marked, .error e)
      | .ok () => (marked, reread faults marked entryId)

/-! ### Sequences of calls -/

inductive Call
  | observe (faults : CallFaults) (deviceId hostname configText : Text) (observedAt : Aware)
  | markKnownGood (faults : CallFaults) (entryId : Int)

variable [Digest] (diff : List Text → List Text → Text → Text → List Text)

def perform : Call → ConfigurationHistoryStore
  | .observe faults deviceId hostname configText observedAt =>
    (observe faults store diff deviceId hostname configText observedAt).1
  | .markKnownGood faults entryId => (markKnownGood faults store entryId).1

/-- The device that a call is for: the one it names, or the one of the version it names. -/
def deviceOf : Call → Option Text
  | .observe _ deviceId _ _ _ => some deviceId
  | .markKnownGood _ entryId => (store.table.select entryId).map (·.deviceId)

/-- The store after the calls, one after the other. -/
def run (calls : List Call) : ConfigurationHistoryStore := calls.foldl (perform · diff) store

end ConfigurationHistoryStore

/-! ## What the table lists of a device -/

namespace VersionTable

variable {table table' : VersionTable} {deviceId : Text}

/-- The version that `observe` compares with is the one that was recorded last. -/
theorem latest_eq_getLast? : table.latest deviceId = (table.versionsOf deviceId).getLast? := by
  have ascending : (table.versionsOf deviceId).Pairwise fun v w => v.id < w.id := table.ascending.filter _
  rw [latest]
  generalize table.versionsOf deviceId = versions at ascending ⊢
  induction versions using List.reverseRecOn with
  | nil => rfl
  | append_singleton versions v ih =>
    obtain ⟨earlier, -, later⟩ := List.pairwise_append.mp ascending
    rw [List.argmax_concat, ih earlier, List.getLast?_concat]
    cases last : versions.getLast? with
    | none => rfl
    | some w =>
      have newer : w.id < v.id := later w (List.mem_of_getLast? last) v (List.mem_singleton_self v)
      simp only [newer, if_true]

theorem select_eq_some {id : Int} {v : ConfigurationVersion} (h : table.select id = some v) :
    v ∈ table.versions ∧ (v.id : Int) = id :=
  ⟨List.mem_of_find?_eq_some h, by simpa using List.find?_some h⟩

/-- No two versions have one id. -/
theorem eq_of_id_eq {v w : ConfigurationVersion} (hv : v ∈ table.versions) (hw : w ∈ table.versions)
    (same : v.id = w.id) : v = w := by
  have distinct : (table.versions.map (·.id)).Nodup :=
    List.pairwise_map.mpr (table.ascending.imp fun less => Nat.ne_of_lt less)
  exact List.inj_on_of_nodup_map distinct hv hw same

/-! ### A row more, and other marks -/

theorem insert_eq_ok {row : ConfigurationVersion} (h : insert row table = .ok table') :
    table'.versions = table.versions ++ [{ row with id := table.sequence + 1 }] := by
  unfold insert at h
  split at h
  · cases h
  · split at h
    · cases h
      rfl
    · cases h

theorem versionsOf_concat {row : ConfigurationVersion} (h : table'.versions = table.versions ++ [row]) :
    table'.versionsOf deviceId = table.versionsOf deviceId ++ if row.deviceId = deviceId then [row] else [] := by
  rw [versionsOf, h, List.filter_append, versionsOf]
  congr 1
  by_cases same : row.deviceId = deviceId <;> simp [same]

theorem versionsOf_updateKnownGood (known : ConfigurationVersion → Bool) :
    (table.updateKnownGood known).versionsOf deviceId
      = (table.versionsOf deviceId).map fun v => { v with knownGood := known v } := by
  rw [versionsOf, updateKnownGood, List.filter_map]
  rfl

end VersionTable

namespace ConfigurationHistoryStore

/-! ## What one call does -/

/-- What was in a file is still there. -/
def KeepsFiles (files files' : Dict Text Text) : Prop :=
  ∀ name content, Dict.get? files name = some content → Dict.get? files' name = some content

theorem KeepsFiles.refl (files : Dict Text Text) : KeepsFiles files files := fun _ _ here => here

theorem keepsFiles_set {files : Dict Text Text} {filename : Text} (new : filename ∉ Dict.keys files) (content : Text) :
    KeepsFiles files (Dict.set files filename content) := by
  intro name known here
  have other : filename ≠ name := by
    rintro rfl
    exact new (Dict.get?_isSome_iff.mp (by rw [here, Option.isSome_some]))
  rw [Dict.get?_set_ne content other, here]

section one

variable (faults : CallFaults) (store : ConfigurationHistoryStore) (filename content : Text)

theorem keepsFiles_createFile : KeepsFiles store.files (createFile faults store filename content).1 := by
  unfold createFile
  split
  · exact .refl _
  · next new =>
    split
    · exact .refl _
    · split
      · exact keepsFiles_set new _
      · exact keepsFiles_set new _

/-- A file that was created holds what was to be written. -/
theorem get?_createFile (created : (createFile faults store filename content).2 = none) :
    Dict.get? (createFile faults store filename content).1 filename = some content := by
  unfold createFile at created ⊢
  split at created
  · cases created
  · next new =>
    rw [if_neg new]
    split at created
    · cases created
    · split at created
      · cases created
      · exact Dict.get?_set_self _ _ _

end one

/-- A version more. -/
structure Recorded [Digest] (store store' : ConfigurationHistoryStore) (deviceId normalized : Text)
    (row : ConfigurationVersion) : Prop where
  versions : store'.table.versions = store.table.versions ++ [row]
  device : row.deviceId = deviceId
  previousId : row.previousId = (store.table.latest deviceId).map (·.id)
  fingerprint : row.fingerprint = Digest.sha256 normalized
  isNew : ∀ v, store.table.latest deviceId = some v → v.fingerprint ≠ row.fingerprint
  knownGood : row.knownGood = false
  written : Dict.get? store'.files row.filename = some normalized

section calls

variable [Digest] (diff : List Text → List Text → Text → Text → List Text) (faults : CallFaults)
  (store : ConfigurationHistoryStore) (deviceId hostname configText normalized : Text) (observedAt : Aware)

theorem recordVersion_cases (isNew : ∀ v, store.table.latest deviceId = some v → v.fingerprint ≠ Digest.sha256 normalized) :
    let store' := (recordVersion faults store diff (store.table.latest deviceId) deviceId hostname normalized observedAt).1
    KeepsFiles store.files store'.files ∧
      (store'.table = store.table ∨ ∃ row, Recorded store store' deviceId normalized row) := by
  intro store'
  simp only [store']
  unfold recordVersion
  split
  · exact ⟨.refl _, .inl rfl⟩
  · have kept :=
      keepsFiles_createFile faults store (versionFilename hostname observedAt (Digest.sha256 normalized)) normalized
    have written := get?_createFile faults store (versionFilename hostname observedAt (Digest.sha256 normalized)) normalized
    dsimp only
    generalize createFile faults store (versionFilename hostname observedAt (Digest.sha256 normalized)) normalized = created
      at kept written ⊢
    obtain ⟨files, failure⟩ := created
    dsimp only at kept written ⊢
    split
    · exact ⟨kept, .inl rfl⟩
    · generalize hrow : ConfigurationVersion.mk 0 observedAt deviceId _ _ _ _ _ _ _ = row
      have outcome := @perform_of_atomically _ _ faults.statement [VersionTable.insert row] store.table
      have failed := fun e => @fst_atomically_of_error _ _ faults.statement [VersionTable.insert row] store.table e
      generalize atomically faults.statement [VersionTable.insert row] store.table = transaction at outcome failed ⊢
      obtain ⟨table, result⟩ := transaction
      dsimp only at outcome failed ⊢
      split
      · next e => exact ⟨kept, .inl (failed e rfl)⟩
      · obtain ⟨_, inserted, same⟩ := perform_cons_eq_ok.mp (outcome rfl)
        cases same
        refine ⟨kept, .inr ⟨_, VersionTable.insert_eq_ok inserted, ?_, ?_, ?_, ?_, ?_, ?_⟩⟩
        all_goals subst hrow
        · rfl
        · rfl
        · rfl
        · exact isNew
        · rfl
        · exact written rfl

theorem observe_cases :
    let store' := (observe faults store diff deviceId hostname configText observedAt).1
    KeepsFiles store.files store'.files ∧
      (store'.table = store.table ∨ ∃ row, Recorded store store' deviceId (normalizeConfig configText) row) := by
  intro store'
  simp only [store']
  unfold observe
  split
  · exact ⟨.refl _, .inl rfl⟩
  · dsimp only
    split
    · exact ⟨.refl _, .inl rfl⟩
    · split
      · next unknown =>
        have recorded := recordVersion_cases diff faults store deviceId hostname (normalizeConfig configText) observedAt
          (by simp [unknown])
        rwa [unknown] at recorded
      · next previous known =>
        split
        · exact ⟨.refl _, .inl rfl⟩
        · next other =>
          have recorded :=
            recordVersion_cases diff faults store deviceId hostname (normalizeConfig configText) observedAt (by
              intro v latest
              cases known.symm.trans latest
              exact other)
          rwa [known] at recorded

/-- A configuration with the fingerprint of the latest version adds nothing. -/
theorem observe_of_fingerprint_eq {v : ConfigurationVersion} (latest : store.table.latest deviceId = some v)
    (same : v.fingerprint = Digest.sha256 (normalizeConfig configText)) :
    (observe faults store diff deviceId hostname configText observedAt).1 = store := by
  unfold observe
  split
  · rfl
  · dsimp only
    split
    · rfl
    · rw [latest]
      simp only [same, if_true]

end calls

/-- What `mark_known_good` makes of the mark of a version. -/
def isMarked (target v : ConfigurationVersion) : Bool :=
  if v.id = target.id then true else if v.deviceId = target.deviceId then false else v.knownGood

theorem markKnownGood_cases (faults : CallFaults) (store : ConfigurationHistoryStore) (entryId : Int) :
    (markKnownGood faults store entryId).1 = store ∨
    ∃ target, store.table.select entryId = some target ∧
      (markKnownGood faults store entryId).1 = { store with table := store.table.updateKnownGood (isMarked target) } := by
  unfold markKnownGood
  split
  · exact .inl rfl
  · split
    · exact .inl rfl
    · next target found =>
      have outcome := @perform_of_atomically _ _ faults.statement
        [VersionTable.resetKnownGood target.deviceId, VersionTable.setKnownGood entryId] store.table
      have failed := fun e => @fst_atomically_of_error _ _ faults.statement
        [VersionTable.resetKnownGood target.deviceId, VersionTable.setKnownGood entryId] store.table e
      generalize atomically faults.statement _ store.table = transaction at outcome failed ⊢
      obtain ⟨table, result⟩ := transaction
      dsimp only at outcome failed ⊢
      split
      · next e =>
        cases failed e rfl
        exact .inl rfl
      · refine .inr ⟨target, found, ?_⟩
        obtain ⟨cleared, reset, rest⟩ := perform_cons_eq_ok.mp (outcome rfl)
        obtain ⟨_, set, same⟩ := perform_cons_eq_ok.mp rest
        cases same
        cases reset
        cases set
        obtain ⟨-, named⟩ := VersionTable.select_eq_some found
        have one (v : ConfigurationVersion) : ((v.id : Int) = entryId) ↔ v.id = target.id := by
          rw [← named, Int.natCast_inj]
        simp only [VersionTable.updateKnownGood, List.map_map]
        congr 2
        refine List.map_congr_left fun v _ => ?_
        simp only [Function.comp, isMarked, one]

/-! ## Every sequence of calls -/

/-- The versions of each device are one chain: each names the one recorded before it and differs from it, one at most is
known to be good, and each has the fingerprint of what its file holds. -/
structure Chained [Digest] (store : ConfigurationHistoryStore) : Prop where
  linked : ∀ deviceId, Linked (·.id) (·.previousId) none (store.table.versionsOf deviceId)
  differing : ∀ deviceId, (store.table.versionsOf deviceId).IsChain fun v w => v.fingerprint ≠ w.fingerprint
  oneKnownGood : ∀ deviceId, ((store.table.versionsOf deviceId).filter (·.knownGood)).length ≤ 1
  recorded : ∀ v ∈ store.table.versions,
    ∃ content, Dict.get? store.files v.filename = some content ∧ v.fingerprint = Digest.sha256 content

section runs

variable [Digest] {store store' : ConfigurationHistoryStore} {deviceId normalized : Text} {row : ConfigurationVersion}

theorem chained_fresh (files : Dict Text Text) : Chained (fresh files) := by
  constructor
  · exact fun _ => trivial
  · exact fun _ => .nil
  · exact fun _ => Nat.zero_le 1
  · simp [fresh, VersionTable.empty]

/-- **Recording a version** keeps the chains. -/
theorem Chained.recorded_of (chained : Chained store) (new : Recorded store store' deviceId normalized row)
    (kept : KeepsFiles store.files store'.files) : Chained store' := by
  have versions (d : Text) : store'.table.versionsOf d = _ := VersionTable.versionsOf_concat new.versions
  have latest : store.table.latest deviceId = _ := VersionTable.latest_eq_getLast?
  constructor
  · intro d
    rw [versions]
    split
    · next same =>
      obtain rfl : deviceId = d := new.device.symm.trans same
      exact linked_concat.mpr ⟨chained.linked _, by rw [new.previousId, latest, Option.or_none]⟩
    · rw [List.append_nil]
      exact chained.linked d
  · intro d
    rw [versions]
    split
    · next same =>
      obtain rfl : deviceId = d := new.device.symm.trans same
      refine List.isChain_append.mpr ⟨chained.differing _, .singleton _, ?_⟩
      intro v last w only
      cases only
      exact new.isNew v (latest.trans last)
    · rw [List.append_nil]
      exact chained.differing d
  · intro d
    rw [versions, List.filter_append, List.length_append]
    have unmarked : (if row.deviceId = d then [row] else []).filter (·.knownGood) = [] := by
      split <;> simp [new.knownGood]
    rw [unmarked]
    exact chained.oneKnownGood d
  · intro v here
    rw [new.versions] at here
    rcases List.mem_append.mp here with here | here
    · obtain ⟨content, held, same⟩ := chained.recorded v here
      exact ⟨content, kept _ _ held, same⟩
    · rw [List.mem_singleton.mp here]
      exact ⟨normalized, new.written, new.fingerprint⟩

/-- **Marking a version** keeps the chains. -/
theorem Chained.marked (chained : Chained store) {entryId : Int} {target : ConfigurationVersion}
    (found : store.table.select entryId = some target) :
    Chained { store with table := store.table.updateKnownGood (isMarked target) } := by
  obtain ⟨listed, -⟩ := VersionTable.select_eq_some found
  have versions (d : Text) : (store.table.updateKnownGood (isMarked target)).versionsOf d = _ :=
    VersionTable.versionsOf_updateKnownGood (isMarked target)
  constructor
  · intro d
    rw [versions]
    exact (linked_map (f := fun v => { v with knownGood := isMarked target v }) (fun _ => rfl) fun _ => rfl).mpr
      (chained.linked d)
  · intro d
    rw [versions]
    exact (List.isChain_map _).mpr (chained.differing d)
  · intro d
    rw [versions, List.filter_map, List.length_map]
    by_cases same : target.deviceId = d
    · -- of the device of the target, the target alone is marked
      have only : (store.table.versionsOf d).filter ((·.knownGood) ∘ fun v => { v with knownGood := isMarked target v })
          = (store.table.versionsOf d).filter (· = target) := by
        refine List.filter_congr fun v here => ?_
        obtain ⟨known, ofDevice⟩ := List.mem_filter.mp here
        have named : v.id = target.id ↔ v = target :=
          ⟨VersionTable.eq_of_id_eq known listed, congrArg ConfigurationVersion.id⟩
        have device : v.deviceId = target.deviceId := (of_decide_eq_true ofDevice).trans same.symm
        by_cases this : v = target <;> simp [isMarked, named, device, this]
      have distinct : (store.table.versionsOf d).Nodup :=
        (store.table.ascending.imp fun less => ne_of_apply_ne ConfigurationVersion.id (Nat.ne_of_lt less)).filter _
      have once := List.nodup_iff_count_le_one.mp distinct target
      rw [List.count, List.countP_eq_length_filter] at once
      rw [only]
      exact once
    · have unchanged : (store.table.versionsOf d).filter ((·.knownGood) ∘ fun v => { v with knownGood := isMarked target v })
          = (store.table.versionsOf d).filter (·.knownGood) := by
        refine List.filter_congr fun v here => ?_
        obtain ⟨known, ofDevice⟩ := List.mem_filter.mp here
        have device : v.deviceId = d := of_decide_eq_true ofDevice
        have other : v.id ≠ target.id := by
          intro named
          cases VersionTable.eq_of_id_eq known listed named
          exact same device
        simp [isMarked, other, device, Ne.symm same]
      rw [unchanged]
      exact chained.oneKnownGood d
  · intro v here
    obtain ⟨w, known, rfl⟩ := List.mem_map.mp here
    exact chained.recorded w known

variable {diff : List Text → List Text → Text → Text → List Text}

theorem Chained.perform (chained : Chained store) (call : Call) : Chained (store.perform diff call) := by
  cases call with
  | observe faults deviceId hostname configText observedAt =>
    obtain ⟨kept, same | ⟨row, new⟩⟩ := observe_cases diff faults store deviceId hostname configText observedAt
    · obtain ⟨linked, differing, oneKnownGood, recorded⟩ := chained
      rw [← same] at linked differing oneKnownGood recorded
      refine ⟨linked, differing, oneKnownGood, fun v here => ?_⟩
      obtain ⟨content, held, fingerprint⟩ := recorded v here
      exact ⟨content, kept _ _ held, fingerprint⟩
    · exact chained.recorded_of new kept
  | markKnownGood faults entryId =>
    rcases markKnownGood_cases faults store entryId with same | ⟨target, found, marked⟩
    · rw [ConfigurationHistoryStore.perform, same]
      exact chained
    · rw [ConfigurationHistoryStore.perform, marked]
      exact chained.marked found

theorem Chained.run (chained : Chained store) (calls : List Call) : Chained (store.run diff calls) := by
  induction calls generalizing store with
  | nil => exact chained
  | cons call calls ih => exact ih (chained.perform call)

/-- A call for one device leaves the versions of another one as they are. -/
theorem versionsOf_perform {call : Call} (other : store.deviceOf call ≠ some deviceId) :
    (store.perform diff call).table.versionsOf deviceId = store.table.versionsOf deviceId := by
  cases call with
  | observe faults observed hostname configText observedAt =>
    obtain ⟨-, same | ⟨row, new⟩⟩ := observe_cases diff faults store observed hostname configText observedAt
    · rw [perform, same]
    · have elsewhere : row.deviceId ≠ deviceId := by
        rw [new.device]
        exact fun same => other (congrArg some same)
      rw [perform, VersionTable.versionsOf_concat new.versions, if_neg elsewhere, List.append_nil]
  | markKnownGood faults entryId =>
    rcases markKnownGood_cases faults store entryId with same | ⟨target, found, marked⟩
    · rw [perform, same]
    · have elsewhere : target.deviceId ≠ deviceId := by
        intro same
        apply other
        rw [deviceOf, found, Option.map_some, same]
      obtain ⟨listed, -⟩ := VersionTable.select_eq_some found
      rw [perform, marked, VersionTable.versionsOf_updateKnownGood, List.map_congr_left (g := id), List.map_id]
      intro v here
      obtain ⟨known, ofDevice⟩ := List.mem_filter.mp here
      have device : v.deviceId ≠ target.deviceId := by
        rw [of_decide_eq_true ofDevice]
        exact elsewhere.symm
      have different : v.id ≠ target.id := by
        intro named
        exact device (congrArg ConfigurationVersion.deviceId (VersionTable.eq_of_id_eq known listed named))
      rw [isMarked, if_neg different, if_neg device]
      rfl

/-- A call keeps the versions in their places, whatever it does to the marks, and adds one at most: they are listed in the
order in which they were recorded. -/
theorem exists_versions_perform (call : Call) : ∃ known : ConfigurationVersion → Bool, ∃ new, new.length ≤ 1 ∧
    (store.perform diff call).table.versions = (store.table.versions.map fun v => { v with knownGood := known v }) ++ new := by
  have unchanged : store.table.versions.map (fun v => { v with knownGood := v.knownGood }) = store.table.versions :=
    List.map_id _
  cases call with
  | observe faults deviceId hostname configText observedAt =>
    refine ⟨(·.knownGood), ?_⟩
    rw [unchanged]
    obtain ⟨-, same | ⟨row, new⟩⟩ := observe_cases diff faults store deviceId hostname configText observedAt
    · exact ⟨[], Nat.zero_le 1, by rw [perform, same, List.append_nil]⟩
    · exact ⟨[row], le_refl _, new.versions⟩
  | markKnownGood faults entryId =>
    rcases markKnownGood_cases faults store entryId with same | ⟨target, -, marked⟩
    · exact ⟨(·.knownGood), [], Nat.zero_le 1, by rw [perform, same, unchanged, List.append_nil]⟩
    · refine ⟨isMarked target, [], Nat.zero_le 1, ?_⟩
      rw [perform, marked, List.append_nil]
      rfl

/-- **The configuration history**: after every sequence of calls the versions of each device are a chain. A further call
leaves the versions of the devices it is not for as they are, and one that observes the configuration of the latest
version of a device adds nothing. -/
theorem chained_run (files : Dict Text Text) (calls : List Call) :
    let store := (fresh files).run diff calls
    Chained store ∧
    (∀ call deviceId, store.deviceOf call ≠ some deviceId →
      (store.perform diff call).table.versionsOf deviceId = store.table.versionsOf deviceId) ∧
    ∀ faults deviceId hostname configText observedAt v, (store.table.versionsOf deviceId).getLast? = some v →
      Dict.get? store.files v.filename = some (normalizeConfig configText) →
      (observe faults store diff deviceId hostname configText observedAt).1 = store := by
  intro store
  have chained : Chained store := (chained_fresh files).run calls
  refine ⟨chained, fun call deviceId other => versionsOf_perform other, ?_⟩
  intro faults deviceId hostname configText observedAt v last held
  have listed : v ∈ store.table.versions := (List.mem_filter.mp (List.mem_of_getLast? last)).1
  obtain ⟨content, inFile, fingerprint⟩ := chained.recorded v listed
  cases held.symm.trans inFile
  apply observe_of_fingerprint_eq
  · exact VersionTable.latest_eq_getLast?.trans last
  · exact fingerprint

end runs

end ConfigurationHistoryStore

end SwitchOps
