import SwitchOps.Lib.Lifecycle
import SwitchOps.Topology.Evidence

/-!
# The discovery history

`discovery_store.py`: a local database of the entities and the evidence that were ever discovered
behind each switch. `applyObservation` stores a topology and adds to it what the database still knows.

The tables are keyed by switch and by entity or evidence. `DiscoveryHistoryStore.entities_observed` and
`evidence_observed` say what one observation does to them.
-/

namespace SwitchOps.Topology

open Lifecycles

/-- The columns of an entity beside those of its lifecycle. -/
structure EntityColumns where
  lastInterface : Option Text
  entity : NetworkDevice
  link : Option NetworkLink
  deriving DecidableEq, Repr

/-- An observation of a piece of evidence, one for each time. -/
structure EvidenceObservation where
  deviceId : Text
  evidenceId : Text
  observedAt : Nat
  freshness : FreshnessState
  revoked : Bool
  deriving DecidableEq, Repr

/-- The columns of a piece of evidence are those of the record. -/
structure DiscoveryHistoryStore where
  entities : RowTable (Text × Text) EntityColumns := []
  evidence : RowTable (Text × Text) DiscoveryEvidence := []
  observations : List EvidenceObservation := []
  deriving Repr

/-! ## Storing an observation -/

/-- `INSERT OR IGNORE`: there is one row for each time. -/
def logObservation (observations : List EvidenceObservation) (row : EvidenceObservation) : List EvidenceObservation :=
  if observations.any fun old => old.deviceId = row.deviceId && old.evidenceId = row.evidenceId &&
      old.observedAt = row.observedAt then observations
  else observations ++ [row]

/-- The rows of a switch. -/
def ofDevice {α : Type} (deviceId : Text) (table : RowTable (Text × Text) α) : RowTable (Text × Text) α :=
  table.filter fun entry => entry.1.1 = deviceId

/-- The entity last seen on the port, another one than `entityId`. -/
def occupant (table : RowTable (Text × Text) EntityColumns) (deviceId port entityId : Text) : Option NetworkDevice :=
  let rows := (ofDevice deviceId table).filter fun entry =>
    entry.2.value.lastInterface = some port && entry.1.2 ≠ entityId
  (rows.foldl (fun best entry =>
    match best with
    | none => some entry.2
    | some row => if row.lastSeen < entry.2.lastSeen then some entry.2 else some row) none).map (·.value.entity)

/-- What is remembered of the previous occupant when a new entity appears on a port. -/
def historicalIdentity (table : RowTable (Text × Text) EntityColumns) (deviceId : Text) (entity : NetworkDevice) :
    Option Text :=
  match entity.connectedInterface with
  | none | some [] => entity.historicalIdentity
  | some port =>
    match occupant table deviceId port entity.id with
    | none => entity.historicalIdentity
    | some prior => if prior.identitySource = .none then entity.historicalIdentity else some prior.name

/-- An entity of the observation, as it is stored and returned; `previous` are the rows before it. -/
def enriched (previous table : RowTable (Text × Text) EntityColumns) (deviceId : Text) (stamp : Nat)
    (entity : NetworkDevice) : NetworkDevice :=
  match Dict.get? previous (deviceId, entity.id) with
  | some old => { entity with firstSeen := some old.firstSeen, lastSeen := some stamp }
  | none =>
    { entity with
      firstSeen := some stamp
      lastSeen := some stamp
      historicalIdentity := historicalIdentity table deviceId entity }

/-- The body of the loop over the entities. -/
def storeEntity (previous : RowTable (Text × Text) EntityColumns) (deviceId : Text) (stamp : Nat)
    (linkByEntity : Dict Text NetworkLink) (acc : RowTable (Text × Text) EntityColumns × List NetworkDevice)
    (entity : NetworkDevice) : RowTable (Text × Text) EntityColumns × List NetworkDevice :=
  let firstSeen := ((Dict.get? previous (deviceId, entity.id)).map (·.firstSeen)).getD stamp
  let entity := enriched previous acc.1 deviceId stamp entity
  (acc.1.upsert (deviceId, entity.id) firstSeen stamp
    ⟨entity.connectedInterface, entity, Dict.get? linkByEntity entity.id⟩, acc.2 ++ [entity])

/-- The body of the loop over the evidence. -/
def storeEvidence (deviceId : Text) (stamp : Nat)
    (acc : RowTable (Text × Text) DiscoveryEvidence × List EvidenceObservation) (record : DiscoveryEvidence) :
    RowTable (Text × Text) DiscoveryEvidence × List EvidenceObservation :=
  let firstSeen := ((Dict.get? acc.1 (deviceId, record.id)).map (·.firstSeen)).getD stamp
  (acc.1.upsert (deviceId, record.id) firstSeen stamp record,
    logObservation acc.2 ⟨deviceId, record.id, stamp, record.freshness, record.revoked⟩)

/-- An entity that a complete observation did not see. -/
def EntityColumns.retired (columns : EntityColumns) : EntityColumns :=
  { columns with
    entity := { columns.entity with freshness := .historical, existenceState := .historical, online := false } }

/-- A piece of evidence that a complete observation did not see. -/
def DiscoveryEvidence.retired (record : DiscoveryEvidence) : DiscoveryEvidence :=
  { record with revoked := true, freshness := .historical }

/-! ## What is returned -/

/-- An entity that an incomplete observation did not see. -/
def agedEntity (stamp : Nat) (row : Row EntityColumns) : NetworkDevice :=
  let freshness := freshnessFor .interfaceLink row.lastSeen stamp
  { row.value.entity with
    freshness := freshness
    online := freshness = .current && row.value.entity.online }

def agedLink (stamp : Nat) (row : Row EntityColumns) : Option NetworkLink :=
  row.value.link.map fun link =>
    { link with freshness := freshnessFor .interfaceLink row.lastSeen stamp, status := .unknown }

def agedEvidence (stamp : Nat) (row : Row DiscoveryEvidence) : DiscoveryEvidence :=
  { row.value with freshness := freshnessFor row.value.evidenceType row.lastSeen stamp }

/-- `{item.connected_interface or 'an unknown interface'}` -/
def interfaceText (interface : Option Text) : Text :=
  match interface with
  | none | some [] => "an unknown interface"
  | some port => port

/-- The fact about an entity that is not active any more. `isoformat` writes a time as text. -/
def priorObservation [Digest] (isoformat : Nat → Text) (deviceId : Text) (row : Row EntityColumns) : DiscoveryEvidence :=
  let item := row.value.entity
  { evidenceRecord .priorObservation .historical .priorObservation deviceId item.connectedInterface (some item.id)
      (some item.name)
      (item.name ++ " was last observed on " ++ interfaceText item.connectedInterface ++ " at " ++
        isoformat row.lastSeen ++ ". It is not current evidence.")
      row.lastSeen (if item.identitySource = .none then .low else .medium)
      { existence := true, identity := item.identitySource ≠ .none, relationship := item.relationship.isSome }
      "SwitchOps local discovery history" item.relationship with
    freshness := .historical
    revoked := true }

def historicalLimit : Nat := 50

namespace DiscoveryHistoryStore

variable (store : DiscoveryHistoryStore) (topology : TopologyModel) (complete : Bool) (stamp : Nat)

/-- The entities of a topology: every device but the switch itself. -/
def entitiesOf : List NetworkDevice := topology.devices.filter fun item => item.id ≠ topology.rootDeviceId

def seesEntity (key : Text × Text) : Bool :=
  key.1 = topology.rootDeviceId && (entitiesOf topology).any fun item => item.id = key.2

def seesEvidence (key : Text × Text) : Bool :=
  key.1 = topology.rootDeviceId && topology.evidence.any fun record => record.id = key.2

def isOfRoot (key : Text × Text) : Bool := key.1 = topology.rootDeviceId

/-- The tables of entities and of evidence after the loops. -/
def storedEntities : RowTable (Text × Text) EntityColumns × List NetworkDevice :=
  (entitiesOf topology).foldl (storeEntity store.entities topology.rootDeviceId stamp
      (Dict.ofList (topology.links.map fun item => (item.toDeviceId, item))))
    (if complete then store.entities.deactivate (isOfRoot topology) else store.entities, [])

def storedEvidence : RowTable (Text × Text) DiscoveryEvidence × List EvidenceObservation :=
  topology.evidence.foldl (storeEvidence topology.rootDeviceId stamp)
    (if complete then store.evidence.deactivate (isOfRoot topology) else store.evidence, store.observations)

/-- The active rows that the observation did not see. -/
def missingEntities : RowTable (Text × Text) EntityColumns :=
  store.entities.filter fun entry => isOfRoot topology entry.1 && entry.2.active && !seesEntity topology entry.1

def missingEvidence : RowTable (Text × Text) DiscoveryEvidence :=
  store.evidence.filter fun entry => isOfRoot topology entry.1 && entry.2.active && !seesEvidence topology entry.1

/-- The database after `apply_observation`. -/
def observed : DiscoveryHistoryStore :=
  let entities := (storedEntities store topology complete stamp).1
  let (evidence, observations) := storedEvidence store topology complete stamp
  if complete then {
    entities := entities.replace ((missingEntities store topology).map fun entry => (entry.1, entry.2.value.retired))
    evidence := evidence.replace ((missingEvidence store topology).map fun entry => (entry.1, entry.2.value.retired))
    observations := (missingEvidence store topology).foldl (fun rows entry =>
      logObservation rows ⟨topology.rootDeviceId, entry.1.2, stamp, .historical, true⟩) observations }
  else { entities := entities, evidence := evidence, observations := observations }

/-- The rows of the entities that are not active, the last seen first. -/
def historicalRows : List (Row EntityColumns) :=
  (((ofDevice topology.rootDeviceId store.entities).filter fun entry => !entry.2.active).map (·.2)).insertionSort
    (fun a b => b.lastSeen ≤ a.lastSeen) |>.take historicalLimit

/-- The topology that `apply_observation` returns; `after` is the database after it. -/
def returned [Digest] (isoformat : Nat → Text) (after : DiscoveryHistoryStore) : TopologyModel :=
  let root := topology.devices.find? fun item => item.id = topology.rootDeviceId
  let current := (storedEntities store topology complete stamp).2
  let missing := if complete then [] else missingEntities store topology
  let cached := if complete then []
    else (ofDevice topology.rootDeviceId after.evidence).filter fun entry =>
      entry.2.active && !topology.evidence.any fun record => record.id = entry.2.value.id
  let historical := historicalRows after topology
  { topology with
    devices := root.toList ++ (current ++ missing.map fun entry => agedEntity stamp entry.2)
    links := topology.links ++ missing.filterMap fun entry => agedLink stamp entry.2
    evidence := topology.evidence ++ (cached.map fun entry => agedEvidence stamp entry.2) ++
      historical.map (priorObservation isoformat topology.rootDeviceId)
    historicalDevices := historical.map fun row =>
      { row.value.retired.entity with
        evidenceIds := [(priorObservation isoformat topology.rootDeviceId row).id] } }

/-- `apply_observation` -/
def applyObservation [Digest] (isoformat : Nat → Text) : DiscoveryHistoryStore × TopologyModel :=
  let after := observed store topology complete stamp
  (after, returned store topology complete stamp isoformat after)

/-! ## What one observation does -/

variable {store topology complete stamp}

/-- `stored` is the entity with what the database knows of it. -/
def Enriches (entity stored : NetworkDevice) : Prop :=
  ∃ firstSeen lastSeen name,
    stored = { entity with firstSeen := firstSeen, lastSeen := lastSeen, historicalIdentity := name }

theorem enriches_enriched (previous table : RowTable (Text × Text) EntityColumns) (deviceId : Text) (stamp : Nat)
    (entity : NetworkDevice) : Enriches entity (enriched previous table deviceId stamp entity) := by
  rw [enriched]
  split
  · exact ⟨_, _, entity.historicalIdentity, rfl⟩
  · exact ⟨_, _, _, rfl⟩

theorem storeEntity_eq (previous : RowTable (Text × Text) EntityColumns) (deviceId : Text) (stamp : Nat)
    (linkByEntity : Dict Text NetworkLink) (acc : RowTable (Text × Text) EntityColumns × List NetworkDevice)
    (entity : NetworkDevice) : storeEntity previous deviceId stamp linkByEntity acc entity =
      (acc.1.upsert (deviceId, entity.id) (((Dict.get? previous (deviceId, entity.id)).map (·.firstSeen)).getD stamp)
        stamp ⟨entity.connectedInterface, enriched previous acc.1 deviceId stamp entity,
          Dict.get? linkByEntity entity.id⟩,
      acc.2 ++ [enriched previous acc.1 deviceId stamp entity]) := by
  obtain ⟨_, _, _, same⟩ := enriches_enriched previous acc.1 deviceId stamp entity
  rw [storeEntity, same]

/-- What is stored under a key is an entity of the topology. -/
def StoresEntity (topology : TopologyModel) (key : Text × Text) (columns : EntityColumns) : Prop :=
  ∃ entity ∈ entitiesOf topology, key = (topology.rootDeviceId, entity.id) ∧ Enriches entity columns.entity

def StoresEvidence (topology : TopologyModel) (key : Text × Text) (record : DiscoveryEvidence) : Prop :=
  record ∈ topology.evidence ∧ key = (topology.rootDeviceId, record.id)

/-- The loop over the entities stores them all, and nothing else. -/
theorem stored_foldl_storeEntity {previous base : RowTable (Text × Text) EntityColumns}
    {linkByEntity : Dict Text NetworkLink} (first : ∀ k, (Dict.get? base k).map (·.firstSeen) =
      (Dict.get? previous k).map (·.firstSeen)) {entities : List NetworkDevice}
    {acc : RowTable (Text × Text) EntityColumns × List NetworkDevice} {seen : Text × Text → Prop}
    (known : ∀ entity ∈ entities, entity ∈ entitiesOf topology)
    (h : RowTable.Stored stamp seen (StoresEntity topology) base acc.1) :
    RowTable.Stored stamp (fun k => seen k ∨ ∃ entity ∈ entities, k = (topology.rootDeviceId, entity.id))
      (StoresEntity topology) base
      (entities.foldl (storeEntity previous topology.rootDeviceId stamp linkByEntity) acc).1 := by
  induction entities generalizing acc seen with
  | nil => exact h.congr fun k => by simp
  | cons entity entities ih =>
    obtain ⟨isEntity, later⟩ := List.forall_mem_cons.mp known
    have stores : StoresEntity topology (topology.rootDeviceId, entity.id) ⟨entity.connectedInterface,
        enriched previous acc.1 topology.rootDeviceId stamp entity, Dict.get? linkByEntity entity.id⟩ :=
      ⟨entity, isEntity, rfl, enriches_enriched _ _ _ _ _⟩
    have since : ¬ seen (topology.rootDeviceId, entity.id) →
        ((Dict.get? previous (topology.rootDeviceId, entity.id)).map (·.firstSeen)).getD stamp =
          ((Dict.get? base (topology.rootDeviceId, entity.id)).map (·.firstSeen)).getD stamp := fun _ => by rw [first]
    have step := h.upsert stores since
    rw [List.foldl_cons, storeEntity_eq]
    refine (ih later step).congr fun k => ?_
    rw [List.exists_mem_cons_iff, or_assoc]

theorem forall₂_foldl_storeEntity {previous : RowTable (Text × Text) EntityColumns} {deviceId : Text}
    {linkByEntity : Dict Text NetworkLink} (entities : List NetworkDevice)
    (acc : RowTable (Text × Text) EntityColumns × List NetworkDevice) : ∃ stored, List.Forall₂ Enriches entities stored ∧
      (entities.foldl (storeEntity previous deviceId stamp linkByEntity) acc).2 = acc.2 ++ stored := by
  induction entities generalizing acc with
  | nil => exact ⟨[], .nil, by simp⟩
  | cons entity entities ih =>
    rw [List.foldl_cons, storeEntity_eq]
    obtain ⟨stored, enriches, split⟩ := ih _
    refine ⟨enriched previous acc.1 deviceId stamp entity :: stored, .cons (enriches_enriched _ _ _ _ _) enriches, ?_⟩
    rw [split, List.append_assoc, List.singleton_append]

/-- The entities are returned in their order. -/
theorem forall₂_storedEntities (store : DiscoveryHistoryStore) (topology : TopologyModel) (complete : Bool)
    (stamp : Nat) : List.Forall₂ Enriches (entitiesOf topology) (store.storedEntities topology complete stamp).2 := by
  obtain ⟨stored, enriches, split⟩ := @forall₂_foldl_storeEntity stamp store.entities topology.rootDeviceId
    (Dict.ofList (topology.links.map fun item => (item.toDeviceId, item))) (entitiesOf topology)
    (if complete then store.entities.deactivate (isOfRoot topology) else store.entities, [])
  rw [storedEntities, split]
  exact enriches

theorem stored_foldl_storeEvidence {base : RowTable (Text × Text) DiscoveryEvidence} {records : List DiscoveryEvidence}
    {acc : RowTable (Text × Text) DiscoveryEvidence × List EvidenceObservation} {seen : Text × Text → Prop}
    (known : ∀ record ∈ records, record ∈ topology.evidence)
    (h : RowTable.Stored stamp seen (StoresEvidence topology) base acc.1) :
    RowTable.Stored stamp (fun k => seen k ∨ ∃ record ∈ records, k = (topology.rootDeviceId, record.id))
      (StoresEvidence topology) base (records.foldl (storeEvidence topology.rootDeviceId stamp) acc).1 := by
  induction records generalizing acc seen with
  | nil => exact h.congr fun k => by simp
  | cons record records ih =>
    obtain ⟨isRecord, later⟩ := List.forall_mem_cons.mp known
    have stores : StoresEvidence topology (topology.rootDeviceId, record.id) record := ⟨isRecord, rfl⟩
    have since : ¬ seen (topology.rootDeviceId, record.id) →
        ((Dict.get? acc.1 (topology.rootDeviceId, record.id)).map (·.firstSeen)).getD stamp =
          ((Dict.get? base (topology.rootDeviceId, record.id)).map (·.firstSeen)).getD stamp :=
      fun unseen => by rw [h.keeps _ unseen]
    have step := h.upsert stores since
    rw [List.foldl_cons, storeEvidence]
    refine (ih later step).congr fun k => ?_
    rw [List.exists_mem_cons_iff, or_assoc]

theorem seesEntity_iff {key : Text × Text} :
    seesEntity topology key = true ↔ ∃ entity ∈ entitiesOf topology, key = (topology.rootDeviceId, entity.id) := by
  obtain ⟨deviceId, entityId⟩ := key
  simp only [seesEntity, Bool.and_eq_true, decide_eq_true_eq, List.any_eq_true, Prod.mk.injEq]
  constructor
  · rintro ⟨root, entity, known, same⟩
    exact ⟨entity, known, root, same.symm⟩
  · rintro ⟨entity, known, root, same⟩
    exact ⟨root, entity, known, same.symm⟩

theorem seesEvidence_iff {key : Text × Text} :
    seesEvidence topology key = true ↔ ∃ record ∈ topology.evidence, key = (topology.rootDeviceId, record.id) := by
  obtain ⟨deviceId, evidenceId⟩ := key
  simp only [seesEvidence, Bool.and_eq_true, decide_eq_true_eq, List.any_eq_true, Prod.mk.injEq]
  constructor
  · rintro ⟨root, record, known, same⟩
    exact ⟨record, known, root, same.symm⟩
  · rintro ⟨record, known, root, same⟩
    exact ⟨root, record, known, same.symm⟩

theorem entities_observed (keyed : store.entities.Keyed) :
    Observed (fun k => isOfRoot topology k = true) EntityColumns.retired complete stamp
      (fun k => seesEntity topology k = true) (StoresEntity topology) store.entities
      (store.observed topology complete stamp).entities := by
  have inside : ∀ k, seesEntity topology k = true → isOfRoot topology k = true := by
    intro k sees
    rw [seesEntity, Bool.and_eq_true] at sees
    exact sees.1
  have first : ∀ k, (Dict.get? (if complete then store.entities.deactivate (isOfRoot topology)
      else store.entities) k).map (·.firstSeen) = (Dict.get? store.entities k).map (·.firstSeen) := by
    intro k
    split
    · rw [RowTable.get?_deactivate, Option.map_map]
      congr 1
      funext row
      show (if _ then _ else _ : Row EntityColumns).firstSeen = _
      split <;> rfl
    · rfl
  have stored : RowTable.Stored stamp (fun k => False ∨ ∃ entity ∈ entitiesOf topology, k = (topology.rootDeviceId, entity.id))
      (StoresEntity topology) _ (storedEntities store topology complete stamp).1 :=
    stored_foldl_storeEntity first (fun _ known => known) (RowTable.Stored.none stamp _ _)
  have observed := @Observed.of_stored _ _ _ _ _ EntityColumns.retired _ _ _ _ _ keyed inside
    (stored.congr fun k => by rw [false_or, seesEntity_iff])
  rw [DiscoveryHistoryStore.observed]
  cases complete <;> exact observed

theorem evidence_observed (keyed : store.evidence.Keyed) :
    Observed (fun k => isOfRoot topology k = true) DiscoveryEvidence.retired complete stamp
      (fun k => seesEvidence topology k = true) (StoresEvidence topology) store.evidence
      (store.observed topology complete stamp).evidence := by
  have inside : ∀ k, seesEvidence topology k = true → isOfRoot topology k = true := by
    intro k sees
    rw [seesEvidence, Bool.and_eq_true] at sees
    exact sees.1
  have stored : RowTable.Stored stamp (fun k => False ∨ ∃ record ∈ topology.evidence, k = (topology.rootDeviceId, record.id))
      (StoresEvidence topology) _ (storedEvidence store topology complete stamp).1 :=
    stored_foldl_storeEvidence (fun _ known => known) (RowTable.Stored.none stamp _ _)
  have observed := @Observed.of_stored _ _ _ _ _ DiscoveryEvidence.retired _ _ _ _ _ keyed inside
    (stored.congr fun k => by rw [false_or, seesEvidence_iff])
  rw [DiscoveryHistoryStore.observed]
  cases complete <;> exact observed

end DiscoveryHistoryStore

end SwitchOps.Topology
