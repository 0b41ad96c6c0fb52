import SwitchOps.Lib.History
import SwitchOps.Topology.DiscoveryStore

/-!
# The lifecycle of what was discovered

What every run of `apply_observation` does to the entities and the evidence of a switch
(`DiscoveryHistoryStore.lifecycle_follows`): an incomplete observation revokes nothing and returns what it did not
see, a complete one revokes exactly what it did not see, and what returns becomes active again.
-/

namespace SwitchOps.Topology

open Lifecycles

/-- A call of `apply_observation`. The topology is new: none of its facts is historical yet. -/
structure Observation where
  topology : TopologyModel
  complete : Bool
  observedAt : Nat
  entities_live : ∀ entity ∈ DiscoveryHistoryStore.entitiesOf topology,
    entity.freshness ≠ .historical ∧ entity.existenceState ≠ .historical
  evidence_live : ∀ record ∈ topology.evidence,
    record.revoked = false ∧ record.freshness ≠ .historical ∧ record.evidenceType ≠ .priorObservation

namespace Observation

variable (observation : Observation)

def deviceId : Text := observation.topology.rootDeviceId
def entityIds : List Text := (DiscoveryHistoryStore.entitiesOf observation.topology).map (·.id)
def evidenceIds : List Text := observation.topology.evidence.map (·.id)

end Observation

/-! ## Living and dead rows -/

def EntityColumns.Lives (columns : EntityColumns) : Prop :=
  columns.entity.freshness ≠ .historical ∧ columns.entity.existenceState ≠ .historical

def EntityColumns.Dead (columns : EntityColumns) : Prop :=
  columns.entity.freshness = .historical ∧ columns.entity.existenceState = .historical ∧ columns.entity.online = false

def DiscoveryEvidence.Lives (record : DiscoveryEvidence) : Prop :=
  record.revoked = false ∧ record.freshness ≠ .historical

def DiscoveryEvidence.Dead (record : DiscoveryEvidence) : Prop :=
  record.revoked = true ∧ record.freshness = .historical

namespace DiscoveryHistoryStore

/-- A run: the observations one after the other, on an empty database. -/
def after (history : List Observation) : DiscoveryHistoryStore :=
  history.foldl (fun store o => store.observed o.topology o.complete o.observedAt) {}

/-- What holds of the database between two observations. -/
structure Consistent (store : DiscoveryHistoryStore) : Prop where
  entities_keyed : store.entities.Keyed
  evidence_keyed : store.evidence.Keyed
  entities_settled : Settled EntityColumns.Lives EntityColumns.Dead store.entities
  evidence_settled : Settled DiscoveryEvidence.Lives DiscoveryEvidence.Dead store.evidence
  entity_ids : ∀ k row, Dict.get? store.entities k = some row → row.value.entity.id = k.2
  evidence_ids : ∀ k row, Dict.get? store.evidence k = some row →
    row.value.id = k.2 ∧ row.value.evidenceType ≠ .priorObservation

variable {store : DiscoveryHistoryStore} {o : Observation}

theorem consistent_empty : Consistent {} where
  entities_keyed := List.nodup_nil
  evidence_keyed := List.nodup_nil
  entities_settled := settled_nil _ _
  evidence_settled := settled_nil _ _
  entity_ids := fun _ _ h => by cases h
  evidence_ids := fun _ _ h => by cases h

theorem keyed_foldl_storeEntity {previous : RowTable (Text × Text) EntityColumns} {deviceId : Text} {stamp : Nat}
    {linkByEntity : Dict Text NetworkLink} (entities : List NetworkDevice)
    {acc : RowTable (Text × Text) EntityColumns × List NetworkDevice} (h : acc.1.Keyed) :
    (entities.foldl (storeEntity previous deviceId stamp linkByEntity) acc).1.Keyed := by
  induction entities generalizing acc with
  | nil => exact h
  | cons entity entities ih => exact ih (RowTable.Keyed.upsert h _ _ _ _)

theorem keyed_foldl_storeEvidence {deviceId : Text} {stamp : Nat} (records : List DiscoveryEvidence)
    {acc : RowTable (Text × Text) DiscoveryEvidence × List EvidenceObservation} (h : acc.1.Keyed) :
    (records.foldl (storeEvidence deviceId stamp) acc).1.Keyed := by
  induction records generalizing acc with
  | nil => exact h
  | cons record records ih => exact ih (RowTable.Keyed.upsert h _ _ _ _)

theorem entities_keyed_observed (h : store.entities.Keyed) (topology : TopologyModel) (complete : Bool)
    (stamp : Nat) : (store.observed topology complete stamp).entities.Keyed := by
  cases complete with
  | false => exact keyed_foldl_storeEntity _ h
  | true => exact (keyed_foldl_storeEntity _ (h.deactivate _)).replace _

theorem evidence_keyed_observed (h : store.evidence.Keyed) (topology : TopologyModel) (complete : Bool)
    (stamp : Nat) : (store.observed topology complete stamp).evidence.Keyed := by
  cases complete with
  | false => exact keyed_foldl_storeEvidence _ h
  | true => exact (keyed_foldl_storeEvidence _ (h.deactivate _)).replace _

/-- One observation keeps the database consistent. -/
theorem Consistent.observed (h : store.Consistent) (o : Observation) :
    (store.observed o.topology o.complete o.observedAt).Consistent := by
  have entities := @entities_observed _ o.topology o.complete o.observedAt
    h.entities_keyed
  have evidence := @evidence_observed _ o.topology o.complete o.observedAt
    h.evidence_keyed
  refine ⟨entities_keyed_observed h.entities_keyed _ _ _, evidence_keyed_observed h.evidence_keyed _ _ _, ?_, ?_, ?_, ?_⟩
  · refine entities.settled (fun _ => ⟨rfl, rfl, rfl⟩) ?_ h.entities_settled
    rintro k columns ⟨entity, known, -, _, _, _, same⟩
    rw [EntityColumns.Lives, same]
    exact o.entities_live entity known
  · refine evidence.settled (fun _ => ⟨rfl, rfl⟩) ?_ h.evidence_settled
    rintro k record ⟨known, -⟩
    exact ⟨(o.evidence_live record known).1, (o.evidence_live record known).2.1⟩
  · refine entities.values (P := fun k columns => columns.entity.id = k.2) ?_ (fun _ _ same => same) h.entity_ids
    rintro _ columns ⟨entity, -, rfl, _, _, _, same⟩
    rw [same]
  · refine evidence.values (P := fun k record => record.id = k.2 ∧ record.evidenceType ≠ .priorObservation) ?_
      (fun _ _ same => same) h.evidence_ids
    rintro _ record ⟨known, rfl⟩
    exact ⟨rfl, (o.evidence_live record known).2.2⟩

theorem consistent_after (history : List Observation) : (after history).Consistent := by
  have run : ∀ store : DiscoveryHistoryStore, store.Consistent →
      (history.foldl (fun store o => store.observed o.topology o.complete o.observedAt) store).Consistent := by
    induction history with
    | nil => exact fun _ h => h
    | cons o history ih => exact fun store h => ih _ (h.observed o)
  exact run {} consistent_empty

/-! ## The log -/

/-- Two rows for one time. -/
def SameTime (a b : EvidenceObservation) : Prop :=
  a.deviceId = b.deviceId ∧ a.evidenceId = b.evidenceId ∧ a.observedAt = b.observedAt

theorem logObservation_cases (rows : List EvidenceObservation) (row : EvidenceObservation) :
    (∃ old ∈ rows, SameTime old row ∧ logObservation rows row = rows) ∨ logObservation rows row = rows ++ [row] := by
  rw [logObservation]
  split
  · next known =>
    obtain ⟨old, here, same⟩ := List.any_eq_true.mp known
    simp only [Bool.and_eq_true, decide_eq_true_eq, and_assoc] at same
    exact .inl ⟨old, here, same, rfl⟩
  · exact .inr rfl

theorem mem_foldl_logObservation {rows : List EvidenceObservation} (new : List EvidenceObservation)
    {row : EvidenceObservation} : (row ∈ rows → row ∈ new.foldl logObservation rows) ∧
      (row ∈ new.foldl logObservation rows → row ∈ rows ∨ row ∈ new) := by
  induction new generalizing rows with
  | nil => exact ⟨id, .inl⟩
  | cons first new ih =>
    rw [List.foldl_cons]
    rcases logObservation_cases rows first with ⟨-, -, -, same⟩ | same
    · rw [same]
      exact ⟨(@ih rows).1, fun here => (ih.2 here).imp_right (List.mem_cons_of_mem _)⟩
    · rw [same]
      refine ⟨fun here => ih.1 (List.mem_append_left _ here), fun here => ?_⟩
      rcases ih.2 here with here | later
      · rcases List.mem_append.mp here with here | here
        · exact .inl here
        · exact .inr (List.mem_singleton.mp here ▸ List.mem_cons_self)
      · exact .inr (List.mem_cons_of_mem _ later)

/-- A row is logged, when all rows for its time say the same. -/
theorem mem_foldl_logObservation_of_new {rows new : List EvidenceObservation} {row : EvidenceObservation}
    (here : row ∈ new) (only : ∀ other ∈ new, SameTime other row → other = row)
    (unknown : ∀ old ∈ rows, ¬ SameTime old row) : row ∈ new.foldl logObservation rows := by
  induction new generalizing rows with
  | nil => cases here
  | cons first new ih =>
    obtain ⟨onlyFirst, onlyLater⟩ := List.forall_mem_cons.mp only
    rw [List.foldl_cons]
    by_cases same : SameTime first row
    · obtain rfl := onlyFirst same
      rcases logObservation_cases rows first with ⟨old, known, sameTime, -⟩ | logged
      · exact absurd sameTime (unknown old known)
      · rw [logged]
        exact (mem_foldl_logObservation new).1 (List.mem_append_right _ List.mem_cons_self)
    · have later : row ∈ new := by
        rcases List.mem_cons.mp here with rfl | later
        · exact absurd ⟨rfl, rfl, rfl⟩ same
        · exact later
      refine ih later onlyLater fun old known => ?_
      rcases logObservation_cases rows first with ⟨-, -, -, unchanged⟩ | logged
      · rw [unchanged] at known
        exact unknown old known
      · rw [logged] at known
        rcases List.mem_append.mp known with known | known
        · exact unknown old known
        · rw [List.mem_singleton.mp known]
          exact same

theorem snd_foldl_storeEvidence {deviceId : Text} {stamp : Nat} (records : List DiscoveryEvidence)
    (acc : RowTable (Text × Text) DiscoveryEvidence × List EvidenceObservation) :
    (records.foldl (storeEvidence deviceId stamp) acc).2 = (records.map fun record =>
      ⟨deviceId, record.id, stamp, record.freshness, record.revoked⟩).foldl logObservation acc.2 := by
  induction records generalizing acc with
  | nil => rfl
  | cons record records ih => exact ih _

/-- The revocation of a piece of evidence is logged at its time, unless the log has that time already. -/
theorem revocation_logged (complete : o.complete = true) {evidenceId : Text} {row : Row DiscoveryEvidence}
    (here : Dict.get? store.evidence (o.deviceId, evidenceId) = some row) (active : row.active = true)
    (unseen : evidenceId ∉ o.evidenceIds)
    (newTime : ∀ old ∈ store.observations, ¬ (old.deviceId = o.deviceId ∧ old.evidenceId = evidenceId ∧
      old.observedAt = o.observedAt)) :
    ⟨o.deviceId, evidenceId, o.observedAt, .historical, true⟩ ∈
      (store.observed o.topology o.complete o.observedAt).observations := by
  have missing : ((o.deviceId, evidenceId), row) ∈ missingEvidence store o.topology := by
    have notSeen : seesEvidence o.topology (o.deviceId, evidenceId) ≠ true := by
      intro sees
      obtain ⟨record, known, same⟩ := seesEvidence_iff.mp sees
      exact unseen ((Prod.mk.inj same).2 ▸ List.mem_map_of_mem known)
    rw [Observation.deviceId] at here notSeen ⊢
    exact List.mem_filter.mpr ⟨Dict.mem_of_get? here, by simp [isOfRoot, active, notSeen]⟩
  have logged : (store.observed o.topology true o.observedAt).observations =
      ((missingEvidence store o.topology).map fun entry =>
        (⟨o.deviceId, entry.1.2, o.observedAt, .historical, true⟩ : EvidenceObservation)).foldl logObservation
          (storedEvidence store o.topology true o.observedAt).2 := by
    rw [List.foldl_map]
    rfl
  rw [complete, logged]
  refine mem_foldl_logObservation_of_new (List.mem_map.mpr ⟨_, missing, rfl⟩) ?_ fun old known => ?_
  · intro other known same
    obtain ⟨entry, -, rfl⟩ := List.mem_map.mp known
    rw [show entry.1.2 = evidenceId from same.2.1]
  · rw [storedEvidence, snd_foldl_storeEvidence] at known
    rcases (mem_foldl_logObservation _).2 known with known | known
    · exact newTime old known
    · obtain ⟨record, isRecord, rfl⟩ := List.mem_map.mp known
      rintro ⟨-, same, -⟩
      have sameId : record.id = evidenceId := same
      exact unseen (sameId ▸ List.mem_map_of_mem isRecord)

/-! ## What is returned -/

variable [Digest] {isoformat : Nat → Text}

/-- Every entity that an observation saw is returned. -/
theorem exists_device_of_seen {topology : TopologyModel} {complete : Bool} {stamp : Nat} {entity : NetworkDevice}
    (known : entity ∈ entitiesOf topology) :
    ∃ device ∈ (store.applyObservation topology complete stamp isoformat).2.devices, Enriches entity device := by
  obtain ⟨device, here, enriches⟩ := (forall₂_storedEntities store topology complete stamp).exists_of_mem known
  exact ⟨device, List.mem_append_right _ (List.mem_append_left _ here), enriches⟩

/-- An incomplete observation returns every entity that was active. -/
theorem exists_device_of_active (h : store.Consistent) (incomplete : o.complete = false) {entityId : Text}
    {row : Row EntityColumns} (here : Dict.get? store.entities (o.deviceId, entityId) = some row)
    (active : row.active = true) :
    ∃ device ∈ (store.applyObservation o.topology o.complete o.observedAt isoformat).2.devices,
      device.id = entityId ∧ device.freshness ≠ .historical ∧ device.existenceState ≠ .historical := by
  by_cases sees : seesEntity o.topology (o.deviceId, entityId) = true
  · obtain ⟨entity, known, same⟩ := seesEntity_iff.mp sees
    obtain ⟨device, returned, _, _, _, rfl⟩ := @exists_device_of_seen store _ isoformat _ o.complete o.observedAt _ known
    exact ⟨_, returned, (Prod.mk.inj same).2.symm, o.entities_live entity known⟩
  · rw [Observation.deviceId] at here sees
    refine ⟨agedEntity o.observedAt row, ?_, h.entity_ids _ row here, ?_, ((h.entities_settled _ row here).1 active).2⟩
    · rw [incomplete]
      refine List.mem_append_right _ (List.mem_append_right _ (List.mem_map.mpr
        ⟨((o.topology.rootDeviceId, entityId), row), ?_, rfl⟩))
      exact List.mem_filter.mpr ⟨Dict.mem_of_get? here, by simp [isOfRoot, active, sees]⟩
    · exact @freshnessFor_ne_historical .interfaceLink (by decide) _ _

/-- An incomplete observation returns every piece of evidence that was active. -/
theorem exists_evidence_of_active (h : store.Consistent) (incomplete : o.complete = false) {evidenceId : Text}
    {row : Row DiscoveryEvidence} (here : Dict.get? store.evidence (o.deviceId, evidenceId) = some row)
    (active : row.active = true) :
    ∃ record ∈ (store.applyObservation o.topology o.complete o.observedAt isoformat).2.evidence,
      record.id = evidenceId ∧ record.revoked = false ∧ record.freshness ≠ .historical := by
  by_cases sees : seesEvidence o.topology (o.deviceId, evidenceId) = true
  · obtain ⟨record, known, same⟩ := seesEvidence_iff.mp sees
    refine ⟨record, List.mem_append_left _ (List.mem_append_left _ known), (Prod.mk.inj same).2.symm, ?_⟩
    exact ⟨(o.evidence_live record known).1, (o.evidence_live record known).2.1⟩
  · obtain ⟨sameId, notPrior⟩ := h.evidence_ids _ row here
    have kept := (@evidence_observed _ o.topology o.complete o.observedAt
      h.evidence_keyed).keeps incomplete (o.deviceId, evidenceId) (by simp [isOfRoot, Observation.deviceId]) sees
    refine ⟨agedEvidence o.observedAt row, List.mem_append_left _ (List.mem_append_right _ ?_), sameId,
      ((h.evidence_settled _ row here).1 active).1, freshnessFor_ne_historical notPrior _ _⟩
    rw [incomplete] at kept ⊢
    refine List.mem_map.mpr ⟨((o.deviceId, evidenceId), row), List.mem_filter.mpr ⟨?_, ?_⟩, rfl⟩
    · exact List.mem_filter.mpr ⟨Dict.mem_of_get? (kept.trans here), by simp [Observation.deviceId]⟩
    · have unseen : ∀ record ∈ o.topology.evidence, record.id ≠ evidenceId := fun record known same =>
        sees (seesEvidence_iff.mpr ⟨record, known, by rw [same]; rfl⟩)
      simpa [active, sameId] using unseen

/-! ## Every run -/

variable (before after : DiscoveryHistoryStore) (topology : TopologyModel)

/-- An incomplete observation leaves active what is active, and returns it. -/
structure KeepsActive (deviceId : Text) : Prop where
  entities : ∀ entityId row, Dict.get? before.entities (deviceId, entityId) = some row → row.active = true →
    (∃ row', Dict.get? after.entities (deviceId, entityId) = some row' ∧ row'.active = true ∧ row'.value.Lives) ∧
    ∃ device ∈ topology.devices, device.id = entityId ∧ device.freshness ≠ .historical ∧
      device.existenceState ≠ .historical
  evidence : ∀ evidenceId row, Dict.get? before.evidence (deviceId, evidenceId) = some row → row.active = true →
    (∃ row', Dict.get? after.evidence (deviceId, evidenceId) = some row' ∧ row'.active = true ∧ row'.value.Lives) ∧
    ∃ record ∈ topology.evidence, record.id = evidenceId ∧ record.revoked = false ∧ record.freshness ≠ .historical

/-- A complete observation leaves active what it contains, and revokes what it does not. -/
structure RevokesOthers (o : Observation) : Prop where
  active_entities : ∀ entityId, (∃ row, Dict.get? after.entities (o.deviceId, entityId) = some row ∧ row.active = true) ↔
    entityId ∈ o.entityIds
  dead_entities : ∀ entityId row, Dict.get? after.entities (o.deviceId, entityId) = some row →
    entityId ∉ o.entityIds → row.active = false ∧ row.value.Dead
  active_evidence : ∀ evidenceId,
    (∃ row, Dict.get? after.evidence (o.deviceId, evidenceId) = some row ∧ row.active = true) ↔ evidenceId ∈ o.evidenceIds
  dead_evidence : ∀ evidenceId row, Dict.get? after.evidence (o.deviceId, evidenceId) = some row →
    evidenceId ∉ o.evidenceIds → row.active = false ∧ row.value.Dead
  logged : ∀ evidenceId row, Dict.get? before.evidence (o.deviceId, evidenceId) = some row → row.active = true →
    evidenceId ∉ o.evidenceIds →
    (∀ old ∈ before.observations, ¬ (old.deviceId = o.deviceId ∧ old.evidenceId = evidenceId ∧
      old.observedAt = o.observedAt)) →
    ⟨o.deviceId, evidenceId, o.observedAt, .historical, true⟩ ∈ after.observations

/-- What is seen is active, whatever it was before. -/
structure ActivatesSeen (o : Observation) : Prop where
  entities : ∀ entityId ∈ o.entityIds, ∃ row, Dict.get? after.entities (o.deviceId, entityId) = some row ∧
    row.active = true ∧ row.lastSeen = o.observedAt ∧ row.value.Lives
  evidence : ∀ evidenceId ∈ o.evidenceIds, ∃ row, Dict.get? after.evidence (o.deviceId, evidenceId) = some row ∧
    row.active = true ∧ row.lastSeen = o.observedAt ∧ row.value.Lives

/-- Nothing is forgotten; first sightings stay, and last sightings do not go back if `inOrder`. -/
structure KeepsTimes (inOrder : Prop) : Prop where
  entities : ∀ key row, Dict.get? before.entities key = some row → ∃ row', Dict.get? after.entities key = some row' ∧
    row'.firstSeen = row.firstSeen ∧ (inOrder → row.lastSeen ≤ row'.lastSeen)
  evidence : ∀ key row, Dict.get? before.evidence key = some row → ∃ row', Dict.get? after.evidence key = some row' ∧
    row'.firstSeen = row.firstSeen ∧ (inOrder → row.lastSeen ≤ row'.lastSeen)

/-- The lifecycle: what an observation, after a run of others, does and returns. -/
structure Follows (history : List Observation) (o : Observation) (stored : DiscoveryHistoryStore)
    (returned : TopologyModel) : Prop where
  keepsActive : o.complete = false → KeepsActive (DiscoveryHistoryStore.after history) stored returned o.deviceId
  revokesOthers : o.complete = true → RevokesOthers (DiscoveryHistoryStore.after history) stored o
  activatesSeen : ActivatesSeen stored o
  keepsTimes : KeepsTimes (DiscoveryHistoryStore.after history) stored
    (∀ earlier ∈ history, earlier.deviceId = o.deviceId → earlier.observedAt ≤ o.observedAt)

variable {before after topology}

omit [Digest] in
theorem mem_entityIds_iff {entityId : Text} :
    seesEntity o.topology (o.deviceId, entityId) = true ↔ entityId ∈ o.entityIds := by
  rw [seesEntity_iff, Observation.entityIds, List.mem_map]
  constructor
  · rintro ⟨entity, known, same⟩
    exact ⟨entity, known, (Prod.mk.inj same).2.symm⟩
  · rintro ⟨entity, known, rfl⟩
    exact ⟨entity, known, rfl⟩

omit [Digest] in
theorem mem_evidenceIds_iff {evidenceId : Text} :
    seesEvidence o.topology (o.deviceId, evidenceId) = true ↔ evidenceId ∈ o.evidenceIds := by
  rw [seesEvidence_iff, Observation.evidenceIds, List.mem_map]
  constructor
  · rintro ⟨record, known, same⟩
    exact ⟨record, known, (Prod.mk.inj same).2.symm⟩
  · rintro ⟨record, known, rfl⟩
    exact ⟨record, known, rfl⟩

omit [Digest] in
theorem isOfRoot_deviceId (id : Text) : isOfRoot o.topology (o.deviceId, id) = true := by
  simp [isOfRoot, Observation.deviceId]

omit [Digest] in
theorem after_concat (history : List Observation) (o : Observation) :
    DiscoveryHistoryStore.after (history ++ [o]) =
      (DiscoveryHistoryStore.after history).observed o.topology o.complete o.observedAt := by
  rw [DiscoveryHistoryStore.after, List.foldl_append]
  rfl

omit [Digest] in
/-- Every row was last seen by an observation of the run. -/
theorem exists_lastSeen (history : List Observation) :
    (∀ key row, Dict.get? (DiscoveryHistoryStore.after history).entities key = some row →
      ∃ o ∈ history, o.deviceId = key.1 ∧ row.lastSeen = o.observedAt) ∧
    ∀ key row, Dict.get? (DiscoveryHistoryStore.after history).evidence key = some row →
      ∃ o ∈ history, o.deviceId = key.1 ∧ row.lastSeen = o.observedAt := by
  induction history using List.reverseRecOn with
  | nil =>
    constructor
    · intro key row here
      cases here
    · intro key row here
      cases here
  | append_singleton history o ih =>
    have consistent := consistent_after history
    rw [after_concat]
    constructor
    · intro key row here
      rcases (entities_observed consistent.entities_keyed).lastSeen_eq here with ⟨scope, seen⟩ | ⟨old, known, same⟩
      · exact ⟨o, by simp, (of_decide_eq_true scope).symm, seen⟩
      · obtain ⟨earlier, inHistory, device, seen⟩ := ih.1 key old known
        exact ⟨earlier, List.mem_append_left _ inHistory, device, same.trans seen⟩
    · intro key row here
      rcases (evidence_observed consistent.evidence_keyed).lastSeen_eq here with ⟨scope, seen⟩ | ⟨old, known, same⟩
      · exact ⟨o, by simp, (of_decide_eq_true scope).symm, seen⟩
      · obtain ⟨earlier, inHistory, device, seen⟩ := ih.2 key old known
        exact ⟨earlier, List.mem_append_left _ inHistory, device, same.trans seen⟩

theorem keepsActive (h : before.Consistent) (incomplete : o.complete = false) :
    KeepsActive before (before.applyObservation o.topology o.complete o.observedAt isoformat).1
      (before.applyObservation o.topology o.complete o.observedAt isoformat).2 o.deviceId := by
  have settled := h.observed o
  have entities := @entities_observed _ o.topology o.complete o.observedAt
    h.entities_keyed
  have evidence := @evidence_observed _ o.topology o.complete o.observedAt
    h.evidence_keyed
  refine ⟨fun entityId row here active => ⟨?_, exists_device_of_active h incomplete here active⟩,
    fun evidenceId row here active => ⟨?_, exists_evidence_of_active h incomplete here active⟩⟩
  · rw [incomplete] at entities settled ⊢
    obtain ⟨row', known, isActive⟩ := entities.active_of_active here active
    exact ⟨row', known, isActive, (settled.entities_settled _ row' known).1 isActive⟩
  · rw [incomplete] at evidence settled ⊢
    obtain ⟨row', known, isActive⟩ := evidence.active_of_active here active
    exact ⟨row', known, isActive, (settled.evidence_settled _ row' known).1 isActive⟩

omit [Digest] in
theorem revokesOthers (h : before.Consistent) (complete : o.complete = true) :
    RevokesOthers before (before.observed o.topology o.complete o.observedAt) o := by
  have settled := h.observed o
  have entities := @entities_observed _ o.topology o.complete o.observedAt
    h.entities_keyed
  have evidence := @evidence_observed _ o.topology o.complete o.observedAt
    h.evidence_keyed
  have activeEntities : ∀ entityId, (∃ row, Dict.get? (before.observed o.topology o.complete o.observedAt).entities
      (o.deviceId, entityId) = some row ∧ row.active = true) ↔ entityId ∈ o.entityIds := by
    intro entityId
    rw [← mem_entityIds_iff]
    rw [complete] at entities ⊢
    exact entities.active_iff (isOfRoot_deviceId entityId)
  have activeEvidence : ∀ evidenceId, (∃ row, Dict.get? (before.observed o.topology o.complete o.observedAt).evidence
      (o.deviceId, evidenceId) = some row ∧ row.active = true) ↔ evidenceId ∈ o.evidenceIds := by
    intro evidenceId
    rw [← mem_evidenceIds_iff]
    rw [complete] at evidence ⊢
    exact evidence.active_iff (isOfRoot_deviceId evidenceId)
  refine ⟨activeEntities, fun entityId row here unseen => ?_, activeEvidence, fun evidenceId row here unseen => ?_,
    fun evidenceId row here active unseen newTime => revocation_logged complete here active unseen newTime⟩
  · have inactive : row.active = false := by
      rw [← Bool.not_eq_true]
      exact fun active => unseen ((activeEntities entityId).mp ⟨row, here, active⟩)
    exact ⟨inactive, (settled.entities_settled _ row here).2 inactive⟩
  · have inactive : row.active = false := by
      rw [← Bool.not_eq_true]
      exact fun active => unseen ((activeEvidence evidenceId).mp ⟨row, here, active⟩)
    exact ⟨inactive, (settled.evidence_settled _ row here).2 inactive⟩

omit [Digest] in
theorem activatesSeen (h : before.Consistent) (o : Observation) :
    ActivatesSeen (before.observed o.topology o.complete o.observedAt) o := by
  have settled := h.observed o
  constructor
  · intro entityId seen
    obtain ⟨row, here, active, time⟩ := (entities_observed h.entities_keyed).active_of_seen (isOfRoot_deviceId entityId)
      (mem_entityIds_iff.mpr seen)
    exact ⟨row, here, active, time, (settled.entities_settled _ row here).1 active⟩
  · intro evidenceId seen
    obtain ⟨row, here, active, time⟩ := (evidence_observed h.evidence_keyed).active_of_seen
      (isOfRoot_deviceId evidenceId) (mem_evidenceIds_iff.mpr seen)
    exact ⟨row, here, active, time, (settled.evidence_settled _ row here).1 active⟩

omit [Digest] in
theorem keepsTimes (history : List Observation) (o : Observation) : KeepsTimes (DiscoveryHistoryStore.after history)
    ((DiscoveryHistoryStore.after history).observed o.topology o.complete o.observedAt)
    (∀ earlier ∈ history, earlier.deviceId = o.deviceId → earlier.observedAt ≤ o.observedAt) := by
  have h := consistent_after history
  obtain ⟨entityTimes, evidenceTimes⟩ := exists_lastSeen history
  constructor
  · intro key row here
    have observed := @entities_observed _ o.topology o.complete o.observedAt
      h.entities_keyed
    obtain ⟨row', known, first⟩ := observed.firstSeen_eq here
    refine ⟨row', known, first, fun inOrder => ?_⟩
    obtain ⟨again, known', le⟩ := observed.lastSeen_le here fun scope => by
      obtain ⟨earlier, inHistory, device, seen⟩ := entityTimes key row here
      rw [seen]
      exact inOrder earlier inHistory (device.trans (of_decide_eq_true scope))
    rwa [Option.some_inj.mp (known.symm.trans known')]
  · intro key row here
    have observed := @evidence_observed _ o.topology o.complete o.observedAt
      h.evidence_keyed
    obtain ⟨row', known, first⟩ := observed.firstSeen_eq here
    refine ⟨row', known, first, fun inOrder => ?_⟩
    obtain ⟨again, known', le⟩ := observed.lastSeen_le here fun scope => by
      obtain ⟨earlier, inHistory, device, seen⟩ := evidenceTimes key row here
      rw [seen]
      exact inOrder earlier inHistory (device.trans (of_decide_eq_true scope))
    rwa [Option.some_inj.mp (known.symm.trans known')]

/-- **The lifecycle of discovered facts**, at every observation of every run. -/
theorem lifecycle_follows (isoformat : Nat → Text) (history : List Observation) (o : Observation) : Follows history o
    ((DiscoveryHistoryStore.after history).applyObservation o.topology o.complete o.observedAt isoformat).1
    ((DiscoveryHistoryStore.after history).applyObservation o.topology o.complete o.observedAt isoformat).2 where
  keepsActive := keepsActive (consistent_after history)
  revokesOthers := revokesOthers (consistent_after history)
  activatesSeen := activatesSeen (consistent_after history) o
  keepsTimes := keepsTimes history o

end DiscoveryHistoryStore

end SwitchOps.Topology
