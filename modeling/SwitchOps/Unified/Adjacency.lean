import SwitchOps.Unified.Merging
import SwitchOps.Unified.MerakiCollector

/-!
# Adjacency is not identity

A link has one token, made of the names of its two ends. The Catalyst adapter puts it on the record
of the far end only, the Meraki collector on the records of both ends. So whoever hears the link, the
record of one end is paired with the record of the other.
-/

namespace SwitchOps

/-- The record has the token among its identifiers. -/
def Carries (token : Text) (record : ProviderEntity) : Prop :=
  ∃ x ∈ identifiersOf record .reciprocalAdjacency, x.protectedValue = token

section carries

variable {token : Text} {record left right : ProviderEntity}

theorem mem_identifiersOf_reciprocalAdjacency {x : ProviderIdentifier} :
    x ∈ identifiersOf record .reciprocalAdjacency ↔
      x ∈ record.identifiers ∧ x.kind = .reciprocalAdjacency := by
  rw [identifiersOf_eq, List.mem_filter, List.mem_filter, and_assoc, decide_eq_true_eq]
  refine and_congr_right fun _ => and_iff_right_of_imp fun hkind => ?_
  simp [ProviderIdentifier.admitted, hkind]

/-- The token counts in favour of a pair just if both records carry it. -/
theorem labelAgreement_reciprocalAdjacency_iff :
    (labelAgreement left right .reciprocalAdjacency).isSome ↔
      ∃ token, Carries token left ∧ Carries token right := by
  rw [labelAgreement_isSome_iff]
  constructor
  · rintro ⟨x, hx, y, hy, heq⟩
    exact ⟨x.protectedValue, ⟨x, hx, rfl⟩, y, hy, heq.symm⟩
  · rintro ⟨token, ⟨x, hx, rfl⟩, y, hy, heq⟩
    exact ⟨x, hx, y, hy, heq.symm⟩

/-- Two records with one token are at least candidates. -/
theorem state_ne_rejected [Digest] (hproviders : left.provider ≠ right.provider)
    (hleft : Carries token left) (hright : Carries token right) (evaluatedAt : Nat) :
    (resolveIdentityPair left right evaluatedAt).1.state ≠ .rejected := by
  have hshares := labelAgreement_isSome_iff.mp
    (labelAgreement_reciprocalAdjacency_iff.mpr ⟨token, hleft, hright⟩)
  have hlinked : Linked left right := .inr ⟨.reciprocalAdjacency, by decide, hshares⟩
  intro hrejected
  have hresolved := resolveIdentityPair_resolved left right evaluatedAt
  rw [hrejected] at hresolved
  generalize (resolveIdentityPair left right evaluatedAt).2 = conflicts at hresolved
  cases hresolved with
  | sameProvider hsame => exact hproviders hsame
  | unrelated _ _ hunlinked => exact hunlinked hlinked

end carries

section adapters

variable [Protector] [Digest]

/-! ## Who carries a token -/

/-- Catalyst's record of the end `here` of a link carries the token of the link. -/
def CatalystBears (dashboard : CatalystDashboard) (record : ProviderEntity) (here there : Text) :
    Prop :=
  ∃ rootDevice device lldp,
    (dashboard.devices.find? fun item => item.id = dashboard.rootDeviceId) = some rootDevice ∧
    device ∈ dashboard.devices ∧ device.id ≠ rootDevice.id ∧ lldpOf dashboard device = some lldp ∧
    record = (normalizeNeighbor dashboard (normalizeRoot dashboard rootDevice).1 device
      (some lldp)).1 ∧
    here = endpoint lldp.remoteName (orElse lldp.remoteInterface "unknown") ∧
    there = endpoint dashboard.summary.hostname lldp.localInterface

/-- A neighbour that one of the listed devices hears. -/
structure Heard where
  position : Nat
  entity : ProviderEntity
  raw : RawDevice
  sighting : Sighting
  deriving DecidableEq, Repr

/-- The end of the device that hears the neighbour, and the end of the neighbour. -/
def Heard.near (heard : Heard) : Text :=
  endpoint (reporterName heard.entity heard.raw)
    (safeText (some heard.sighting.localPort) "unknown" 80)

def Heard.far (heard : Heard) : Text :=
  endpoint heard.sighting.neighborName heard.sighting.neighborPort

/-- The records of the devices, before any neighbour is looked at. -/
def deviceRecords (answers : MerakiAnswers) : List (Text × ProviderEntity) :=
  (rawDevices answers).filterMap fun raw =>
    (normalizeDevice answers raw).map fun normalized => (raw.serial.text, normalized.1)

/-- Where the record of a serial is listed. -/
def devicePosition (answers : MerakiAnswers) (serial : Text) : Option Nat :=
  Dict.get? (Dict.ofList (((deviceRecords answers).map (·.1)).zipIdx.filter (!·.1.isEmpty))) serial

/-- What the device of a row of the inventory hears. -/
def heardBy (answers : MerakiAnswers) (raw : RawDevice) : List Heard :=
  match devicePosition answers raw.serial.text with
  | none => []
  | some position =>
    match (deviceRecords answers)[position]? with
    | none => []
    | some record =>
      (sightingsOf (answers.lldpCdp raw.serial.text)).map fun sighting =>
        { position := position, entity := record.2, raw := raw, sighting := sighting }

/-- All that is heard, in the order of the collection. -/
def heardOf (answers : MerakiAnswers) : List Heard := (rawDevices answers).flatMap (heardBy answers)

/-- The neighbour is heard here for the first time. -/
def Introduces (answers : MerakiAnswers) (heard : Heard) : Prop :=
  (heardOf answers).find? (fun other => other.sighting.objectRef = heard.sighting.objectRef)
    = some heard

instance (answers : MerakiAnswers) (heard : Heard) : Decidable (Introduces answers heard) := by
  unfold Introduces
  infer_instance

/-- Meraki's record of the end `here` of a link carries the token of the link: the record of the
device that hears the other end, or that of a neighbour heard for the first time. -/
def MerakiBears (answers : MerakiAnswers) (record : ProviderEntity) (here there : Text) : Prop :=
  ∃ heard ∈ heardOf answers,
    ((collect answers).entities[heard.position]? = some record ∧
      here = heard.near ∧ there = heard.far) ∨
    (Introduces answers heard ∧
      record = (normalizeSighting heard.entity heard.raw heard.sighting).1 ∧
      here = heard.far ∧ there = heard.near)

/-! ## What a collection lists -/

/-- The identifiers that the hearing device gets. -/
def Heard.tokens (heard : Heard) : List ProviderIdentifier :=
  adjacencyIdentifiers heard.entity.id (heard.sighting.token heard.entity heard.raw)

/-- The record of the neighbour. -/
def Heard.record (heard : Heard) : ProviderEntity :=
  (normalizeSighting heard.entity heard.raw heard.sighting).1

/-- The records of the devices with the tokens of what they heard so far. -/
def marked (answers : MerakiAnswers) (heard : List Heard) : List ProviderEntity :=
  (deviceRecords answers).mapIdx fun position record => { record.2 with
    identifiers := record.2.identifiers
      ++ (heard.filter (·.position = position)).flatMap (·.tokens) }

/-- The records of the neighbours heard so far. -/
def introduced (heard : List Heard) : List ProviderEntity :=
  (heard.map (·.record)).foldl addAdjacent []

variable {answers : MerakiAnswers}

theorem devicePosition_lt {serial : Text} {position : Nat}
    (h : devicePosition answers serial = some position) :
    position < (deviceRecords answers).length := by
  have hmem := List.mem_of_mem_filter (Dict.mem_ofList (Dict.mem_of_get? h))
  have hlt := (List.mem_zipIdx' hmem).1
  simpa using hlt

theorem length_marked (heard : List Heard) :
    (marked answers heard).length = (deviceRecords answers).length := by
  simp [marked]

theorem getElem?_marked (heard : List Heard) (position : Nat) :
    (marked answers heard)[position]? = (deviceRecords answers)[position]?.map fun record =>
      { record.2 with identifiers := record.2.identifiers
          ++ (heard.filter (·.position = position)).flatMap (·.tokens) } := by
  simp [marked]

/-- One device gets the tokens of what it heard. -/
theorem marked_append {heard more : List Heard} {position : Nat}
    (h : ∀ other ∈ more, other.position = position) :
    marked answers (heard ++ more) = (marked answers heard).modify position fun record =>
      { record with identifiers := record.identifiers ++ more.flatMap (·.tokens) } := by
  apply List.ext_getElem?
  intro i
  by_cases hi : position = i
  · subst hi
    have hall : more.filter (·.position = position) = more :=
      List.filter_eq_self.mpr fun other hother => by simpa using h other hother
    rw [List.getElem?_modify_eq, getElem?_marked, getElem?_marked, List.filter_append, hall]
    cases (deviceRecords answers)[position]? <;> simp
  · have hnone : more.filter (·.position = i) = [] :=
      List.filter_eq_nil_iff.mpr fun other hother => by
        rw [h other hother]
        simpa using hi
    rw [List.getElem?_modify_ne _ _ hi, getElem?_marked, getElem?_marked, List.filter_append,
      hnone, List.append_nil]

omit [Digest] in
theorem providerRef_ne {kind kind' : Text} (h : ∀ v w, kind ++ ":" ++ v ≠ kind' ++ ":" ++ w)
    (provider : ProviderKind) (value value' : Text) :
    providerRef provider kind value ≠ providerRef provider kind' value' := by
  unfold providerRef
  simp only [List.append_assoc]
  intro heq
  have hrest := List.append_cancel_left (List.append_cancel_left heq)
  exact h _ _ (by simpa only [List.append_assoc] using hrest)

theorem id_deviceRecord_ne {record : Text × ProviderEntity} (h : record ∈ deviceRecords answers)
    (sighting : Sighting) : record.2.id ≠ sighting.objectRef := by
  obtain ⟨raw, -, hraw⟩ := List.mem_filterMap.mp h
  obtain ⟨normalized, hnormalized, rfl⟩ := Option.map_eq_some_iff.mp hraw
  have hid : ∃ serial, normalized.1.id = providerRef .merakiDashboard "device" serial := by
    unfold normalizeDevice at hnormalized
    dsimp only at hnormalized
    split at hnormalized
    · cases hnormalized
    · cases hnormalized
      exact ⟨_, rfl⟩
  obtain ⟨serial, hid⟩ := hid
  rw [hid]
  refine providerRef_ne (fun v w heq => ?_) _ _ _
  have hhead : some 'd' = some 'a' := congrArg List.head? heq
  cases hhead

theorem id_marked_ne {heard : List Heard} {record : ProviderEntity}
    (h : record ∈ marked answers heard) (sighting : Sighting) : record.id ≠ sighting.objectRef := by
  obtain ⟨position, hlt, rfl⟩ := List.mem_mapIdx.mp h
  exact id_deviceRecord_ne (List.getElem_mem hlt) sighting

omit [Protector] [Digest] in
/-- Neighbours are looked for among the neighbours only. -/
theorem foldl_addAdjacent_append {records neighbors adjacents : List ProviderEntity}
    (h : ∀ record ∈ records, ∀ adjacent ∈ adjacents, record.id ≠ adjacent.id) :
    adjacents.foldl addAdjacent (records ++ neighbors)
      = records ++ adjacents.foldl addAdjacent neighbors := by
  induction adjacents generalizing neighbors with
  | nil => rfl
  | cons adjacent adjacents ih =>
    have hnone : (records.any fun existing => existing.id = adjacent.id) = false := by
      simpa using fun record hrecord => h record hrecord adjacent List.mem_cons_self
    have hstep : addAdjacent (records ++ neighbors) adjacent
        = records ++ addAdjacent neighbors adjacent := by
      unfold addAdjacent
      rw [List.any_append, hnone, Bool.false_or]
      split
      · rfl
      · rw [List.append_assoc]
    rw [List.foldl_cons, List.foldl_cons, hstep,
      ih fun record hrecord other hother => h record hrecord other (List.mem_cons_of_mem _ hother)]

omit [Protector] [Digest] in
theorem modify_append_left {α : Type} {l : List α} {i : Nat} (h : i < l.length) {m : List α}
    {f : α → α} : (l ++ m).modify i f = l.modify i f ++ m := by
  induction l generalizing i with
  | nil => cases h
  | cons a l ih =>
    cases i with
    | zero => rfl
    | succ i =>
      rw [List.cons_append, List.modify_succ_cons, List.modify_succ_cons,
        ih (by simpa using h), List.cons_append]

/-- The record of a device, whatever identifiers it has by now. -/
theorem heardBy_spec {raw : RawDevice} {position : Nat}
    (h : devicePosition answers raw.serial.text = some position) :
    ∃ record, (deviceRecords answers)[position]? = some record ∧
      (∀ heard ∈ heardBy answers raw, heard.position = position ∧ heard.entity = record.2) ∧
      ∀ identifiers, ∃ claims,
        normalizeLldpCdp { record.2 with identifiers := identifiers } raw
          (answers.lldpCdp raw.serial.text)
        = ((heardBy answers raw).flatMap (·.tokens), (heardBy answers raw).map (·.record), claims) := by
  have hlt := devicePosition_lt h
  have hrecord := List.getElem?_eq_getElem hlt
  refine ⟨_, hrecord, ?_⟩
  unfold heardBy
  rw [h]
  dsimp only
  rw [hrecord]
  constructor
  · intro heard hheard
    obtain ⟨sighting, -, rfl⟩ := List.mem_map.mp hheard
    exact ⟨rfl, rfl⟩
  · intro identifiers
    rw [List.flatMap_map, List.map_map]
    unfold normalizeLldpCdp
    dsimp only
    rw [List.map_map]
    exact ⟨_, rfl⟩

/-- **The loop over the devices**: every one gets its tokens, and the neighbours are listed. -/
theorem collectAdjacency_entities (raws : List RawDevice) (heard : List Heard)
    (claims : List NormalizedClaim) :
    (collectAdjacency answers
      (Dict.ofList (((deviceRecords answers).map (·.1)).zipIdx.filter (!·.1.isEmpty))) raws
      { entities := marked answers heard ++ introduced heard, claims := claims }).entities
      = marked answers (heard ++ raws.flatMap (heardBy answers))
        ++ introduced (heard ++ raws.flatMap (heardBy answers)) := by
  induction raws generalizing heard claims with
  | nil => simp [collectAdjacency]
  | cons raw raws ih =>
    rw [List.flatMap_cons, ← List.append_assoc]
    unfold collectAdjacency
    dsimp only
    cases hposition : devicePosition answers raw.serial.text with
    | none =>
      have hheard : heardBy answers raw = [] := by
        unfold heardBy
        rw [hposition]
      unfold devicePosition at hposition
      rw [hposition, hheard, List.append_nil]
      exact ih heard claims
    | some position =>
      have hlt := devicePosition_lt hposition
      obtain ⟨record, hrecord, hheard, hnormalized⟩ := heardBy_spec hposition
      have hmarked : (marked answers heard ++ introduced heard)[position]?
          = some { record.2 with identifiers := record.2.identifiers
              ++ (heard.filter (·.position = position)).flatMap (·.tokens) } := by
        rw [List.getElem?_append_left (by simpa [length_marked] using hlt), getElem?_marked, hrecord,
          Option.map_some]
      obtain ⟨adjacency, hadjacency⟩ := hnormalized (record.2.identifiers
        ++ (heard.filter (·.position = position)).flatMap (·.tokens))
      have hids : ∀ record ∈ marked answers (heard ++ heardBy answers raw),
          ∀ adjacent ∈ (heardBy answers raw).map (·.record), record.id ≠ adjacent.id := by
        intro record hrecord adjacent hadjacent
        obtain ⟨other, -, rfl⟩ := List.mem_map.mp hadjacent
        exact id_marked_ne hrecord other.sighting
      unfold devicePosition at hposition
      rw [hposition, Option.bind_some, hmarked]
      dsimp only
      rw [hadjacency]
      dsimp only
      rw [modify_append_left (by simpa [length_marked] using hlt),
        ← marked_append fun other hother => (hheard other hother).1, foldl_addAdjacent_append hids]
      have hintroduced : ((heardBy answers raw).map (·.record)).foldl addAdjacent (introduced heard)
          = introduced (heard ++ heardBy answers raw) := by
        unfold introduced
        rw [List.map_append, List.foldl_append]
      rw [hintroduced]
      exact ih _ _

theorem marked_nil : marked answers [] = (deviceRecords answers).map (·.2) := by
  apply List.ext_getElem?
  intro i
  rw [getElem?_marked, List.getElem?_map]
  cases (deviceRecords answers)[i]? <;> simp

theorem identifiers_normalizeClient {reporter : Text → Option ProviderEntity} {item : RawClient}
    {client : ProviderEntity × NormalizedClaim} (h : normalizeClient reporter item = some client) :
    client.1.identifiers = [] := by
  unfold normalizeClient at h
  dsimp only at h
  split at h
  · cases h
  · split at h
    · cases h
    · cases h
      rfl

/-- **What a collection lists**: the devices with the tokens of what they hear, the neighbours, and
the recent clients, which have no identifiers. -/
theorem collect_entities (answers : MerakiAnswers) :
    ∃ clients : List ProviderEntity, (∀ client ∈ clients, client.identifiers = []) ∧
      (collect answers).entities
        = marked answers (heardOf answers) ++ introduced (heardOf answers) ++ clients := by
  have hrecords : ((rawDevices answers).filterMap fun raw =>
      (normalizeDevice answers raw).map (raw.serial.text, ·)).map (fun n => (n.1, n.2.1))
      = deviceRecords answers := by
    rw [List.map_filterMap]
    refine List.filterMap_congr fun raw _ => ?_
    rw [Option.map_map]
    rfl
  have hserials : ((rawDevices answers).filterMap fun raw =>
      (normalizeDevice answers raw).map (raw.serial.text, ·)).map (·.1)
      = (deviceRecords answers).map (·.1) := by
    rw [← hrecords, List.map_map]
    rfl
  have hstart : ((rawDevices answers).filterMap fun raw =>
      (normalizeDevice answers raw).map (raw.serial.text, ·)).map (·.2.1)
      = marked answers [] ++ introduced [] := by
    rw [marked_nil, ← hrecords, List.map_map, introduced, List.map_nil, List.foldl_nil,
      List.append_nil]
    rfl
  unfold collect
  dsimp only
  rw [hserials, hstart, collectAdjacency_entities]
  refine ⟨_, ?_, rfl⟩
  intro client hclient
  obtain ⟨normalized, hnormalized, rfl⟩ := List.mem_map.mp hclient
  obtain ⟨item, -, hitem⟩ := List.mem_filterMap.mp hnormalized
  exact identifiers_normalizeClient hitem

omit [Protector] [Digest] in
/-- The neighbours that are listed are those heard for the first time. -/
theorem mem_foldl_addAdjacent {adjacents listed : List ProviderEntity} {record : ProviderEntity} :
    record ∈ adjacents.foldl addAdjacent listed ↔
      record ∈ listed ∨ ((∀ other ∈ listed, other.id ≠ record.id) ∧
        adjacents.find? (·.id = record.id) = some record) := by
  induction adjacents generalizing listed with
  | nil => simp
  | cons adjacent adjacents ih =>
    rw [List.foldl_cons, ih, List.find?_cons]
    unfold addAdjacent
    by_cases hid : adjacent.id = record.id
    · rw [decide_eq_true hid, Option.some_inj]
      by_cases hlisted : ∃ other ∈ listed, other.id = adjacent.id
      · rw [if_pos (by simpa using hlisted)]
        obtain ⟨other, hother, heq⟩ := hlisted
        have hclash : ¬∀ other ∈ listed, other.id ≠ record.id :=
          fun h => h other hother (heq.trans hid)
        simp only [hclash, false_and]
      · rw [if_neg (by simpa using hlisted)]
        have hfree : ∀ other ∈ listed, other.id ≠ record.id :=
          fun other hother heq => hlisted ⟨other, hother, heq.trans hid.symm⟩
        constructor
        · rintro (hmem | ⟨hothers, -⟩)
          · rcases List.mem_append.mp hmem with hmem | hmem
            · exact .inl hmem
            · exact .inr ⟨hfree, (List.mem_singleton.mp hmem).symm⟩
          · exact absurd hid (hothers adjacent (by simp))
        · rintro (hmem | ⟨-, rfl⟩)
          · exact .inl (List.mem_append_left _ hmem)
          · exact .inl (by simp)
    · rw [decide_eq_false hid]
      have hother : record ≠ adjacent := fun h => hid (by rw [h])
      split
      · rfl
      · simp [hother, hid, or_imp, forall_and]

theorem mem_introduced {record : ProviderEntity} :
    record ∈ introduced (heardOf answers) ↔
      ∃ heard ∈ heardOf answers, Introduces answers heard ∧ record = heard.record := by
  rw [introduced, mem_foldl_addAdjacent, List.find?_map, Option.map_eq_some_iff]
  constructor
  · rintro (hmem | ⟨-, heard, hfind, rfl⟩)
    · cases hmem
    · exact ⟨heard, List.mem_of_find?_eq_some hfind, hfind, rfl⟩
  · rintro ⟨heard, -, hfirst, rfl⟩
    refine .inr ⟨fun other hother => ?_, heard, hfirst, rfl⟩
    cases hother

omit [Protector] [Digest] in
theorem mem_identifierOf {kind : IdentifierKind} {strength : EvidenceStrength} {ref : Text}
    {value : Option Text} {global : Option Bool} {x : ProviderIdentifier} :
    x ∈ identifierOf kind strength ref value global ↔
      ∃ protectedValue, value = some protectedValue ∧
        ⟨kind, protectedValue, strength, global, ref⟩ = x := by
  cases value <;> simp [identifierOf, eq_comm (a := x)]

omit [Protector] [Digest] in
theorem carries_iff {token : Text} {record : ProviderEntity} :
    Carries token record ↔
      ∃ x ∈ record.identifiers, x.kind = .reciprocalAdjacency ∧ x.protectedValue = token := by
  unfold Carries
  simp only [mem_identifiersOf_reciprocalAdjacency, and_assoc]

omit [Protector] [Digest] in
/-- The token of a link is put on a record as it is. -/
theorem exists_mem_adjacencyIdentifiers {ref token : Text} {value : Option Text} :
    (∃ x ∈ adjacencyIdentifiers ref value, x.kind = .reciprocalAdjacency ∧ x.protectedValue = token)
      ↔ value = some token := by
  unfold adjacencyIdentifiers
  constructor
  · rintro ⟨x, hx, -, rfl⟩
    obtain ⟨protectedValue, hvalue, rfl⟩ := mem_identifierOf.mp hx
    exact hvalue
  · rintro rfl
    exact ⟨_, mem_identifierOf.mpr ⟨token, rfl, rfl⟩, rfl, rfl⟩

theorem kind_deviceRecord {record : Text × ProviderEntity} (h : record ∈ deviceRecords answers) :
    ∀ x ∈ record.2.identifiers, x.kind ≠ .reciprocalAdjacency := by
  obtain ⟨raw, -, hraw⟩ := List.mem_filterMap.mp h
  obtain ⟨normalized, hnormalized, rfl⟩ := Option.map_eq_some_iff.mp hraw
  unfold normalizeDevice at hnormalized
  dsimp only at hnormalized
  split at hnormalized
  · cases hnormalized
  · cases hnormalized
    intro x hx
    simp only [List.mem_append, mem_identifierOf] at hx
    rcases hx with (((⟨_, -, rfl⟩ | ⟨_, -, rfl⟩) | ⟨_, -, rfl⟩) | ⟨_, -, rfl⟩) | ⟨_, -, rfl⟩ <;>
      simp

theorem carries_record_iff {heard : Heard} {token : Text} :
    Carries token heard.record ↔ linkToken heard.far heard.near = some token := by
  rw [linkToken_comm]
  show _ ↔ heard.sighting.token heard.entity heard.raw = some token
  rw [carries_iff, ← @exists_mem_adjacencyIdentifiers heard.sighting.objectRef _ _]
  constructor
  · rintro ⟨x, hx, hkind, hvalue⟩
    refine ⟨x, ?_, hkind, hvalue⟩
    -- none of the others is of that kind
    unfold Heard.record normalizeSighting at hx
    simp only [List.mem_append, mem_identifierOf] at hx
    rcases hx with ((⟨_, -, rfl⟩ | ⟨_, -, rfl⟩) | ⟨_, -, rfl⟩) | hx
    · cases hkind
    · cases hkind
    · cases hkind
    · exact hx
  · rintro ⟨x, hx, hkind, hvalue⟩
    exact ⟨x, List.mem_append_right _ hx, hkind, hvalue⟩

theorem carries_marked_iff {heard : List Heard} {record : ProviderEntity} {position : Nat}
    (h : (marked answers heard)[position]? = some record) {token : Text} :
    Carries token record ↔
      ∃ other ∈ heard, other.position = position ∧
        linkToken other.near other.far = some token := by
  rw [getElem?_marked] at h
  obtain ⟨device, hdevice, rfl⟩ := Option.map_eq_some_iff.mp h
  have hkinds := kind_deviceRecord (List.mem_of_getElem? hdevice)
  have htoken (other : Heard) :
      linkToken other.near other.far = other.sighting.token other.entity other.raw := rfl
  rw [carries_iff]
  constructor
  · rintro ⟨x, hx, hkind, hvalue⟩
    rcases List.mem_append.mp hx with hx | hx
    · exact absurd hkind (hkinds x hx)
    · obtain ⟨other, hother, hx⟩ := List.mem_flatMap.mp hx
      obtain ⟨hother, hposition⟩ := List.mem_filter.mp hother
      refine ⟨other, hother, by simpa using hposition, ?_⟩
      rw [htoken]
      exact exists_mem_adjacencyIdentifiers.mp ⟨x, hx, hkind, hvalue⟩
  · rintro ⟨other, hother, hposition, hlink⟩
    obtain ⟨x, hx, hkind, hvalue⟩ :=
      (@exists_mem_adjacencyIdentifiers other.entity.id _ _).mpr hlink
    refine ⟨x, List.mem_append_right _ (List.mem_flatMap.mpr ⟨other, ?_, hx⟩), hkind, hvalue⟩
    exact List.mem_filter.mpr ⟨hother, by simpa using hposition⟩

theorem position_lt {heard : Heard} (h : heard ∈ heardOf answers) :
    heard.position < (deviceRecords answers).length := by
  obtain ⟨raw, -, hraw⟩ := List.mem_flatMap.mp h
  cases hposition : devicePosition answers raw.serial.text with
  | none =>
    unfold heardBy at hraw
    rw [hposition] at hraw
    cases hraw
  | some position =>
    obtain ⟨_, -, hheard, -⟩ := heardBy_spec hposition
    rw [(hheard heard hraw).1]
    exact devicePosition_lt hposition

/-- The record of a device stays where it was first listed. -/
theorem getElem?_collect {position : Nat} (h : position < (deviceRecords answers).length) :
    (collect answers).entities[position]? = (marked answers (heardOf answers))[position]? := by
  obtain ⟨clients, -, hentities⟩ := collect_entities answers
  have hlength := @length_marked _ _ answers (heardOf answers)
  rw [hentities, List.append_assoc, List.getElem?_append_left (by omega)]

/-- **Meraki's tokens** are those of the links its records bear. -/
theorem meraki_carries_iff {record : ProviderEntity} (h : record ∈ (collect answers).entities)
    {token : Text} :
    Carries token record ↔
      ∃ here there, MerakiBears answers record here there ∧ linkToken here there = some token := by
  constructor
  · intro hcarries
    obtain ⟨clients, hclients, hentities⟩ := collect_entities answers
    rw [hentities] at h
    rcases List.mem_append.mp h with h | h
    · rcases List.mem_append.mp h with h | h
      · obtain ⟨position, hlt, heq⟩ := List.mem_iff_getElem.mp h
        have hget : (marked answers (heardOf answers))[position]? = some record := by
          rw [List.getElem?_eq_getElem hlt, heq]
        obtain ⟨heard, hheard, rfl, hlink⟩ := (carries_marked_iff hget).mp hcarries
        have hlisted := getElem?_collect (position_lt hheard)
        exact ⟨_, _, ⟨heard, hheard, .inl ⟨hlisted.trans hget, rfl, rfl⟩⟩, hlink⟩
      · obtain ⟨heard, hheard, hfirst, rfl⟩ := mem_introduced.mp h
        have hlink := carries_record_iff.mp hcarries
        exact ⟨_, _, ⟨heard, hheard, .inr ⟨hfirst, rfl, rfl, rfl⟩⟩, hlink⟩
    · obtain ⟨x, hx, -⟩ := carries_iff.mp hcarries
      rw [hclients record h] at hx
      cases hx
  · rintro ⟨here, there, ⟨heard, hheard, hbears⟩, hlink⟩
    rcases hbears with ⟨hlisted, hhere, hthere⟩ | ⟨-, hrecord, hhere, hthere⟩
    · rw [hhere, hthere] at hlink
      rw [getElem?_collect (position_lt hheard)] at hlisted
      exact (carries_marked_iff hlisted).mpr ⟨heard, hheard, rfl, hlink⟩
    · rw [hhere, hthere] at hlink
      rw [hrecord]
      exact carries_record_iff.mpr hlink

theorem kind_root (dashboard : CatalystDashboard) (rootDevice : DashboardDevice) :
    ∀ x ∈ (normalizeRoot dashboard rootDevice).1.identifiers, x.kind ≠ .reciprocalAdjacency := by
  intro x hx
  unfold normalizeRoot at hx
  simp only [List.mem_append, mem_identifierOf] at hx
  rcases hx with ((⟨_, -, rfl⟩ | ⟨_, -, rfl⟩) | ⟨_, -, rfl⟩) | ⟨_, -, rfl⟩ <;> simp

theorem carries_neighbor_iff {dashboard : CatalystDashboard} {root : ProviderEntity}
    {device : DashboardDevice} {lldp : Option LldpNeighbor} {token : Text} :
    Carries token (normalizeNeighbor dashboard root device lldp).1 ↔
      ∃ row, lldp = some row ∧ neighborToken dashboard row = some token := by
  rw [carries_iff]
  constructor
  · rintro ⟨x, hx, hkind, hvalue⟩
    unfold normalizeNeighbor at hx
    simp only [List.mem_append, List.mem_flatMap, mem_identifierOf] at hx
    rcases hx with ((hx | ⟨_, -, _, -, rfl⟩) | ⟨_, -, _, -, rfl⟩) | ⟨row, hrow, hx⟩
    · split at hx
      · obtain ⟨_, -, rfl⟩ := mem_identifierOf.mp hx
        cases hkind
      · cases hx
    · cases hkind
    · cases hkind
    · rcases hx with ⟨_, -, rfl⟩ | ⟨_, htoken, rfl⟩
      · cases hkind
      · exact ⟨row, by simpa using hrow, by rw [htoken, ← hvalue]⟩
  · rintro ⟨row, rfl, htoken⟩
    refine ⟨⟨.reciprocalAdjacency, token, .supporting, none,
      providerRef .catalystIos "topology-entity" device.id⟩, ?_, rfl, rfl⟩
    refine List.mem_append_right _ (List.mem_flatMap.mpr ⟨row, by simp, ?_⟩)
    exact List.mem_append_right _ (mem_identifierOf.mpr ⟨token, htoken, rfl⟩)

/-- **Catalyst's tokens** are those of the links its records bear. -/
theorem catalyst_carries_iff {dashboard : CatalystDashboard} {record : ProviderEntity}
    (h : record ∈ (normalizeCatalystDashboard dashboard).1) {token : Text} :
    Carries token record ↔
      ∃ here there, CatalystBears dashboard record here there ∧
        linkToken here there = some token := by
  constructor
  · intro hcarries
    unfold normalizeCatalystDashboard at h
    cases hroot : dashboard.devices.find? fun item => item.id = dashboard.rootDeviceId with
    | none =>
      rw [hroot] at h
      cases h
    | some rootDevice =>
      rw [hroot] at h
      rcases List.mem_cons.mp h with rfl | h
      · obtain ⟨x, hx, hkind, -⟩ := carries_iff.mp hcarries
        exact absurd hkind (kind_root dashboard rootDevice x hx)
      · obtain ⟨normalized, hnormalized, rfl⟩ := List.mem_map.mp h
        obtain ⟨device, hdevice, rfl⟩ := List.mem_map.mp hnormalized
        obtain ⟨hdevice, hother⟩ := List.mem_filter.mp hdevice
        obtain ⟨row, hrow, htoken⟩ := carries_neighbor_iff.mp hcarries
        refine ⟨_, _, ⟨rootDevice, device, row, hroot, hdevice, by simpa using hother, hrow, ?_, rfl,
          rfl⟩, ?_⟩
        · rw [hrow]
        · rw [linkToken_comm]
          exact htoken
  · rintro ⟨here, there, hbears, hlink⟩
    obtain ⟨rootDevice, device, row, -, -, -, -, hrecord, hhere, hthere⟩ := hbears
    rw [hhere, hthere, linkToken_comm] at hlink
    rw [hrecord]
    exact carries_neighbor_iff.mpr ⟨row, rfl, hlink⟩

/-! ## The two ends -/

/-- A link is reported by Meraki, from either of its ends. -/
def ReportedByMeraki (answers : MerakiAnswers) (here there : Text) : Prop :=
  ∃ heard ∈ heardOf answers,
    heard.near = here ∧ heard.far = there ∨ heard.near = there ∧ heard.far = here

/-- **Adjacency is not identity**: the token of a link that both providers report counts in favour of
a pair of records only if they are of the same end of that link. -/
def AdjacencyApart (dashboard : CatalystDashboard) (answers : MerakiAnswers) : Prop :=
  ∀ left ∈ (normalizeCatalystDashboard dashboard).1, ∀ here there,
    CatalystBears dashboard left here there → here ≠ there →
    ReportedByMeraki answers here there →
    ∀ right ∈ (collect answers).entities, ∀ here' there',
      MerakiBears answers right here' there' →
      ∀ token, linkToken here there = some token → linkToken here' there' = some token →
        here' = here ∧ there' = there

/-- Meraki hears the link at the end that is the neighbour of the switch, under the same names, and
does not list its record of the switch for it. -/
def HeardByNeighbor (dashboard : CatalystDashboard) (answers : MerakiAnswers) : Prop :=
  ∀ left ∈ (normalizeCatalystDashboard dashboard).1, ∀ here there,
    CatalystBears dashboard left here there → here ≠ there →
    ReportedByMeraki answers here there →
    ∀ heard ∈ heardOf answers, ∀ token, linkToken here there = some token →
      linkToken heard.near heard.far = some token →
        heard.near = here ∧ heard.far = there ∧ ¬Introduces answers heard

theorem heardByNeighbor_of_apart {dashboard : CatalystDashboard}
    (hapart : AdjacencyApart dashboard answers) : HeardByNeighbor dashboard answers := by
  intro left hleft here there hbears hne hreported heard hheard token htoken hlink
  -- the hearing device carries the token, and so does the neighbour it introduces
  have hlt := position_lt hheard
  have hmarked : heard.position < (marked answers (heardOf answers)).length := by
    rw [length_marked]
    exact hlt
  have hlisted := (getElem?_collect hlt).trans (List.getElem?_eq_getElem hmarked)
  have hends := hapart left hleft here there hbears hne hreported _ (List.mem_of_getElem? hlisted)
    heard.near heard.far ⟨heard, hheard, .inl ⟨hlisted, rfl, rfl⟩⟩ token htoken hlink
  refine ⟨hends.1, hends.2, fun hfirst => ?_⟩
  obtain ⟨clients, -, hentities⟩ := collect_entities answers
  have hrecord : heard.record ∈ (collect answers).entities := by
    rw [hentities]
    exact List.mem_append_left _ (List.mem_append_right _
      (mem_introduced.mpr ⟨heard, hheard, hfirst, rfl⟩))
  have hswapped := hapart left hleft here there hbears hne hreported _ hrecord heard.far heard.near
    ⟨heard, hheard, .inr ⟨hfirst, rfl, rfl, rfl⟩⟩ token htoken (linkToken_comm _ _ ▸ hlink)
  exact hne (hends.1.symm.trans hswapped.2)

/-- Both ends are told apart just if the neighbour alone hears the link. -/
theorem adjacencyApart_iff (dashboard : CatalystDashboard) (answers : MerakiAnswers) :
    AdjacencyApart dashboard answers ↔ HeardByNeighbor dashboard answers := by
  constructor
  · exact heardByNeighbor_of_apart
  · intro hheardBy left hleft here there hbears hne hreported right hright here' there' hbears'
      token htoken hlink
    obtain ⟨heard, hheard, ⟨-, hhere, hthere⟩ | ⟨hfirst, -, hhere, hthere⟩⟩ := hbears'
    · rw [hhere, hthere] at hlink ⊢
      obtain ⟨hnear, hfar, -⟩ :=
        hheardBy left hleft here there hbears hne hreported heard hheard token htoken hlink
      exact ⟨hnear, hfar⟩
    · rw [hhere, hthere, linkToken_comm] at hlink
      obtain ⟨-, -, hnot⟩ :=
        hheardBy left hleft here there hbears hne hreported heard hheard token htoken hlink
      exact absurd hfirst hnot

end adapters

/-! ## A cable between two switches -/

/-- A digest of 24 digits, and no addresses. -/
@[reducible] def plainProtector : Protector where
  hmac t := Text.ofNat (10 ^ 23 + t.foldl (fun acc c => (acc * 31 + c.toNat) % 10000019) 0)
  ipAddress _ := none

/-- The switch `alpha` and its neighbour. -/
def alphaDevice : DashboardDevice := { id := "root", name := "alpha" }

def betaDevice : DashboardDevice :=
  { id := "beta", name := "beta", connectedInterface := some "gi0/1", identitySource := .lldp }

def betaRow : LldpNeighbor :=
  { remoteName := "beta", localInterface := "gi0/1", remoteInterface := some "7" }

/-- The switch `alpha` hears `beta` on its first port. -/
def alphaDashboard : CatalystDashboard where
  summary := { hostname := "alpha", model := "c3560", serial := none, managementIp := [] }
  rootDeviceId := "root"
  devices := [alphaDevice, betaDevice]
  lldpNeighbors := [betaRow]

/-- The Meraki switch `beta` hears `alpha` on its port 7. -/
def betaAnswers : MerakiAnswers where
  networkId := "n1"
  devices := some [{ serial := some "q2beta", networkId := some "n1", name := some "beta" }]
  lldpCdp serial :=
    if serial = "q2beta".toList then
      [("7", { lldp := some { systemName := some "alpha", portId := some "gi0/1" } })]
    else []

/-- Catalyst's record of `beta`. -/
def betaRecord : ProviderEntity :=
  (@normalizeNeighbor plainProtector plainDigest alphaDashboard
    (@normalizeRoot plainProtector plainDigest alphaDashboard alphaDevice).1 betaDevice
    (some betaRow)).1

/-- The two ends of the cable are proposed as one device. -/
theorem not_adjacencyApart_cable :
    ¬@AdjacencyApart plainProtector plainDigest alphaDashboard betaAnswers ∧
    ∃ left ∈ (@normalizeCatalystDashboard plainProtector plainDigest alphaDashboard).1,
    ∃ right ∈ (@collect plainProtector plainDigest betaAnswers).entities,
      left.label = "beta".toList ∧ right.label = "alpha".toList ∧
      (@resolveIdentityPair plainDigest left right 0).1.state = .candidate := by
  refine ⟨fun hapart => ?_, by decide +kernel⟩
  have hheardBy := @heardByNeighbor_of_apart plainProtector plainDigest _ _ hapart
  have hleft : betaRecord
      ∈ (@normalizeCatalystDashboard plainProtector plainDigest alphaDashboard).1 := by
    decide +kernel
  have hbears : @CatalystBears plainProtector plainDigest alphaDashboard betaRecord
      (endpoint "beta" "7") (endpoint "alpha" "gi0/1") :=
    ⟨alphaDevice, betaDevice, betaRow, by decide +kernel, by decide +kernel, by decide +kernel,
      by decide +kernel, rfl, rfl, rfl⟩
  have hheard : ∃ heard ∈ @heardOf plainProtector plainDigest betaAnswers,
      heard.near = endpoint "beta" "7" ∧ heard.far = endpoint "alpha" "gi0/1" ∧
      @Introduces plainProtector plainDigest betaAnswers heard := by
    decide +kernel
  have htoken : ∃ token, @linkToken plainProtector (endpoint "beta" "7") (endpoint "alpha" "gi0/1")
      = some token := by
    rw [← Option.isSome_iff_exists]
    decide +kernel
  obtain ⟨heard, hheard, hnear, hfar, hfirst⟩ := hheard
  obtain ⟨token, htoken⟩ := htoken
  have hne : endpoint "beta" "7" ≠ endpoint "alpha" "gi0/1" := by decide +kernel
  have hends := hheardBy betaRecord hleft _ _ hbears hne ⟨heard, hheard, .inl ⟨hnear, hfar⟩⟩ heard
    hheard token htoken (by rw [hnear, hfar]; exact htoken)
  exact hends.2.2 hfirst

end SwitchOps
