import Mathlib.Data.List.Permutation
import SwitchOps.Unified.Contract
import SwitchOps.Unified.Relationships

/-!
# The ids of the unified state

The id of a unified entity is a digest of the sorted ids of its records, that of a relationship a digest of
what it relates, sorted too. The order is lost there, so two relationships between the same entities in
opposite directions have one id; `uniqueIds_iff` says that this, and records whose ids read the same once they
are joined, is all that keeps the ids from being unique.
-/

namespace List

/-- A joined text has only one reading as parts without the separator. -/
theorem intercalate_singleton_inj {α : Type} [DecidableEq α] {x : α} {parts parts' : List (List α)}
    (free : ∀ part ∈ parts, x ∉ part) (free' : ∀ part ∈ parts', x ∉ part) (nonempty : parts ≠ [])
    (nonempty' : parts' ≠ []) (h : [x].intercalate parts = [x].intercalate parts') : parts = parts' := by
  rw [← List.splitOn_intercalate x free nonempty, ← List.splitOn_intercalate x free' nonempty', h]

end List

namespace SwitchOps

variable [Digest]

/-! ## Digested texts -/

/-- What a stable id is a digest of. -/
def digestedText (values : List Text) : Text := Text.join "|" (values.insertionSort (Text.le · ·))

/-- The values that the ids of a state are digests of. -/
def digestedValues (state : UnifiedLabState) : List (List Text) :=
  state.entities.map (·.providerEntityIds) ++
    state.relationships.map fun r => [r.subjectId, r.objectId, r.relationship.text]

/-- No two texts that the state digests have the same first digits. -/
def CollisionFree (state : UnifiedLabState) : Prop :=
  ∀ values ∈ digestedValues state, ∀ values' ∈ digestedValues state,
    (Digest.sha256 (digestedText values)).take 20 = (Digest.sha256 (digestedText values')).take 20 →
      digestedText values = digestedText values'

instance (state : UnifiedLabState) : Decidable (CollisionFree state) := by
  unfold CollisionFree
  infer_instance

theorem stableId_eq_iff {pre : Text} {values values' : List Text} : stableId pre values = stableId pre values' ↔
    (Digest.sha256 (digestedText values)).take 20 = (Digest.sha256 (digestedText values')).take 20 := by
  rw [stableId, stableId, List.append_assoc, List.append_assoc, List.append_cancel_left_eq,
    List.append_cancel_left_eq]
  rfl

/-! ## Classes of records -/

/-- The sorted ids of the records that are chained to a record. -/
structure ClassIds (entities : List ProviderEntity) (overrides : IdentityOverrides) (a : ProviderEntity)
    (ids : List Text) : Prop where
  sorted : ids.Pairwise (Text.le · ·)
  nodup : ids.Nodup
  members : ∀ x, x ∈ ids ↔ ∃ b ∈ entities, Chained entities overrides b a ∧ b.id = x

/-- A claim of the field says that the class of one record is attached or related to that of another. An empty
reference names nothing. -/
def Relates (entities : List ProviderEntity) (overrides : IdentityOverrides) (claims : List NormalizedClaim)
    (field : ClaimField) (a b : ProviderEntity) : Prop :=
  (field = .attachment ∨ field = .relationship) ∧
    ∃ item ∈ claims, item.field = field ∧ ∃ c ∈ entities, ∃ d ∈ entities, Chained entities overrides c a ∧
      Chained entities overrides d b ∧ item.subjectRef = c.id ∧ item.objectRef = some d.id ∧ d.id ≠ []

/-- A claim joins two unified entities. -/
def Joins (item : NormalizedClaim) (field : ClaimField) (subject object : UnifiedEntity) : Prop :=
  (field = .attachment ∨ field = .relationship) ∧ item.field = field ∧
    item.subjectRef ∈ subject.providerEntityIds ∧
    ∃ objectRef ∈ object.providerEntityIds, item.objectRef = some objectRef ∧ objectRef ≠ []

/-- The ids of a state are unique, and its relationships are those that claims make. -/
structure UniqueIds (state : UnifiedLabState) : Prop where
  entities : (state.entities.map (·.id)).Nodup
  relationships : (state.relationships.map (·.id)).Nodup
  one : ∀ subject ∈ state.entities, ∀ object ∈ state.entities, subject ≠ object → ∀ field,
    (∃ item ∈ state.claims, Joins item field subject object) →
      (state.relationships.filter fun r =>
        r.subjectId = subject.id ∧ r.objectId = object.id ∧ r.relationship = field).length = 1
  closed : ∀ r ∈ state.relationships, ∃ subject ∈ state.entities, ∃ object ∈ state.entities,
    r.subjectId = subject.id ∧ r.objectId = object.id ∧ ∃ item ∈ state.claims, Joins item r.relationship subject object

section entities

variable {entities : List ProviderEntity} {claims : List NormalizedClaim} {overrides : IdentityOverrides}
  {generatedAt : Nat}

omit [Digest] in
theorem sorted_of_mem_components {links : List IdentityLink} {component : List Text}
    (h : component ∈ components entities links) : component.Pairwise (Text.le · ·) := by
  obtain ⟨group, -, rfl⟩ := List.mem_map.mp h
  exact List.pairwise_insertionSort _ _

theorem ClassIds.unique {a : ProviderEntity} {ids ids' : List Text} (h : ClassIds entities overrides a ids)
    (h' : ClassIds entities overrides a ids') : ids = ids' := by
  have same : ids.Perm ids' := (List.perm_ext_iff_of_nodup h.nodup h'.nodup).mpr fun x =>
    (h.members x).trans (h'.members x).symm
  exact same.eq_of_pairwise (fun x y _ _ => Text.le_antisymm) h.sorted h'.sorted

/-- The ids of an entity are those of the class of any of its records. -/
theorem classIds_of_mem (hids : (entities.map (·.id)).Nodup) {entity : UnifiedEntity}
    (hentity : entity ∈ (reconcileUnifiedState entities claims overrides generatedAt).entities)
    {a : ProviderEntity} (ha : a ∈ entities) (hmem : a.id ∈ entity.providerEntityIds) :
    ClassIds entities overrides a entity.providerEntityIds := by
  refine ⟨?_, nodup_providerEntityIds hids hentity, fun x => ?_⟩
  · obtain ⟨component, known, rfl⟩ := List.mem_map.mp hentity
    exact sorted_of_mem_components known
  · exact mem_providerEntityIds_iff_of_mem hids hentity ha hmem

/-- Different unified entities have no record in common. -/
theorem pairwise_disjoint (hids : (entities.map (·.id)).Nodup) :
    (reconcileUnifiedState entities claims overrides generatedAt).entities.Pairwise fun entity entity' =>
      ∀ x ∈ entity.providerEntityIds, x ∉ entity'.providerEntityIds := by
  have once := (partition_reconcile hids claims overrides generatedAt).once.nodup_iff.mpr hids
  exact (List.nodup_flatMap.mp once).2.imp fun apart x hx hx' => apart hx hx'

theorem exists_record (hids : (entities.map (·.id)).Nodup) {entity : UnifiedEntity}
    (here : entity ∈ (reconcileUnifiedState entities claims overrides generatedAt).entities) {x : Text}
    (hx : x ∈ entity.providerEntityIds) : ∃ a ∈ entities, a.id = x := by
  obtain ⟨a, -, members⟩ := (mem_providerEntityIds_iff hids claims overrides generatedAt).1 entity here
  obtain ⟨b, hb, -, same⟩ := (members x).mp hx
  exact ⟨b, hb, same⟩

/-- A record is in one unified entity. -/
theorem entity_unique (hids : (entities.map (·.id)).Nodup) {entity entity' : UnifiedEntity}
    (here : entity ∈ (reconcileUnifiedState entities claims overrides generatedAt).entities)
    (there : entity' ∈ (reconcileUnifiedState entities claims overrides generatedAt).entities) {x : Text}
    (hx : x ∈ entity.providerEntityIds) (hx' : x ∈ entity'.providerEntityIds) : entity = entity' := by
  obtain ⟨a, ha, rfl⟩ := exists_record hids here hx
  have same := (classIds_of_mem hids here ha hx).unique (classIds_of_mem hids there ha hx')
  obtain ⟨component, -, rfl⟩ := List.mem_map.mp here
  obtain ⟨component', -, rfl⟩ := List.mem_map.mp there
  exact congrArg _ same

theorem entity_id_eq {entity : UnifiedEntity}
    (here : entity ∈ (reconcileUnifiedState entities claims overrides generatedAt).entities) :
    entity.id = stableId "unified-entity" entity.providerEntityIds := by
  obtain ⟨component, -, rfl⟩ := List.mem_map.mp here
  rfl

omit [Digest] in
theorem digestedText_of_sorted {values : List Text} (sorted : values.Pairwise (Text.le · ·)) :
    digestedText values = Text.join "|" values := by
  rw [digestedText, List.Pairwise.insertionSort_eq sorted]

/-- The sorted ids of different classes read differently once they are joined. -/
def ReadApart (entities : List ProviderEntity) (overrides : IdentityOverrides) : Prop :=
  ∀ a ∈ entities, ∀ b ∈ entities, ∀ ids ids', ClassIds entities overrides a ids → ClassIds entities overrides b ids' →
    Text.join "|" ids = Text.join "|" ids' → Chained entities overrides a b

theorem nodup_entities_iff (hids : (entities.map (·.id)).Nodup)
    (collisionFree : CollisionFree (reconcileUnifiedState entities claims overrides generatedAt)) :
    ((reconcileUnifiedState entities claims overrides generatedAt).entities.map (·.id)).Nodup ↔
      ReadApart entities overrides := by
  have cover := (mem_providerEntityIds_iff hids claims overrides generatedAt).2
  constructor
  · intro nodup a ha b hb ids ids' ofA ofB reads
    obtain ⟨entity, here, hain⟩ := cover a ha
    obtain ⟨entity', there, hbin⟩ := cover b hb
    have first := classIds_of_mem hids here ha hain
    have second := classIds_of_mem hids there hb hbin
    have same : entity.id = entity'.id := by
      rw [entity_id_eq here, entity_id_eq there, stableId_eq_iff, digestedText_of_sorted first.sorted,
        digestedText_of_sorted second.sorted, first.unique ofA, second.unique ofB, reads]
    obtain rfl := List.inj_on_of_nodup_map nodup here there same
    exact (merged_iff hids claims overrides generatedAt ha hb).mp ⟨entity, here, hain, hbin⟩
  · intro apart
    refine List.pairwise_map.mpr
      ((pairwise_disjoint hids).imp_of_mem fun {entity entity'} here there disjoint same => ?_)
    have nonempty := (partition_reconcile hids claims overrides generatedAt).nonempty
    obtain ⟨x, hx⟩ := List.exists_mem_of_ne_nil _ (nonempty entity here)
    obtain ⟨y, hy⟩ := List.exists_mem_of_ne_nil _ (nonempty entity' there)
    obtain ⟨a, ha, rfl⟩ := exists_record hids here hx
    obtain ⟨b, hb, rfl⟩ := exists_record hids there hy
    have first := classIds_of_mem hids here ha hx
    have second := classIds_of_mem hids there hb hy
    rw [entity_id_eq here, entity_id_eq there, stableId_eq_iff] at same
    have reads := collisionFree _ (List.mem_append_left _ (List.mem_map_of_mem here)) _
      (List.mem_append_left _ (List.mem_map_of_mem there)) same
    rw [digestedText_of_sorted first.sorted, digestedText_of_sorted second.sorted] at reads
    have chained := apart a ha b hb _ _ first second reads
    exact disjoint a.id hx ((second.members a.id).mpr ⟨a, ha, chained, rfl⟩)

end entities

/-! ## Relationships -/

section relationships

variable {entities : List ProviderEntity} {claims : List NormalizedClaim} {overrides : IdentityOverrides}
  {generatedAt : Nat}

/-- `provider_to_unified`. -/
def unifiedIds (state : UnifiedLabState) : Dict Text Text :=
  Dict.ofList (state.entities.flatMap fun entity => entity.providerEntityIds.map fun id => (id, entity.id))

theorem relationships_reconcile :
    (reconcileUnifiedState entities claims overrides generatedAt).relationships
      = relationships claims (unifiedIds (reconcileUnifiedState entities claims overrides generatedAt)) := rfl

theorem get?_unifiedIds_iff (hids : (entities.map (·.id)).Nodup) {x unified : Text} :
    Dict.get? (unifiedIds (reconcileUnifiedState entities claims overrides generatedAt)) x = some unified ↔
      ∃ entity ∈ (reconcileUnifiedState entities claims overrides generatedAt).entities,
        x ∈ entity.providerEntityIds ∧ entity.id = unified := by
  have once := (partition_reconcile hids claims overrides generatedAt).once.nodup_iff.mpr hids
  have nodup : (Dict.keys ((reconcileUnifiedState entities claims overrides generatedAt).entities.flatMap
      fun entity => entity.providerEntityIds.map fun id => (id, entity.id))).Nodup := by
    rw [Dict.keys, List.map_flatMap]
    simpa [Function.comp_def] using once
  rw [unifiedIds, Dict.ofList_eq_self nodup]
  constructor
  · intro found
    obtain ⟨entity, here, listed⟩ := List.mem_flatMap.mp (Dict.mem_of_get? found)
    obtain ⟨id, among, same⟩ := List.mem_map.mp listed
    cases same
    exact ⟨entity, here, among, rfl⟩
  · rintro ⟨entity, here, among, rfl⟩
    exact Dict.get?_of_mem nodup (List.mem_flatMap.mpr ⟨entity, here, List.mem_map.mpr ⟨x, among, rfl⟩⟩)

theorem entity_id_ne_nil {entity : UnifiedEntity}
    (here : entity ∈ (reconcileUnifiedState entities claims overrides generatedAt).entities) : entity.id ≠ [] := by
  rw [entity_id_eq here]
  simp [stableId]

omit [Digest] in
theorem liftKey_eq_some_iff {providerToUnified : Dict Text Text} {item : NormalizedClaim}
    {key : Text × Text × ClaimField} : liftKey providerToUnified item = some key ↔
      (item.field = .attachment ∨ item.field = .relationship) ∧ item.field = key.2.2 ∧
        Dict.get? providerToUnified item.subjectRef = some key.1 ∧
        (∃ objectRef, item.objectRef = some objectRef ∧ objectRef ≠ [] ∧
          Dict.get? providerToUnified objectRef = some key.2.1) ∧
        key.1 ≠ [] ∧ key.2.1 ≠ [] ∧ key.1 ≠ key.2.1 := by
  obtain ⟨subject, object, field⟩ := key
  unfold liftKey
  by_cases kept : item.field = .attachment ∨ item.field = .relationship
  · rw [if_neg (by simpa [imp_iff_not_or] using kept)]
    generalize item.objectRef = ref
    rcases ref with _ | (_ | ⟨c, rest⟩)
    · simp
    · simp
    dsimp only
    cases Dict.get? providerToUnified item.subjectRef with
    | none => simp
    | some first =>
      cases found : Dict.get? providerToUnified (c :: rest) with
      | none => simp [found]
      | some second =>
        dsimp only
        by_cases skipped : first.isEmpty = true ∨ second.isEmpty = true ∨ first = second
        · rw [if_pos (by simpa [or_assoc] using skipped)]
          simp only [reduceCtorEq, false_iff]
          rintro ⟨-, -, ⟨rfl⟩, ⟨_, ⟨rfl⟩, -, same⟩, firstSome, secondSome, differ⟩
          rw [found] at same
          cases same
          rcases skipped with none | none | same
          · exact firstSome (List.isEmpty_iff.mp none)
          · exact secondSome (List.isEmpty_iff.mp none)
          · exact differ same
        · rw [if_neg (by simpa [or_assoc] using skipped)]
          push Not at skipped
          obtain ⟨firstSome, secondSome, differ⟩ := skipped
          constructor
          · rintro ⟨rfl⟩
            exact ⟨kept, rfl, rfl, ⟨_, rfl, by simp, found⟩, fun none => firstSome (List.isEmpty_iff.mpr none),
              fun none => secondSome (List.isEmpty_iff.mpr none), differ⟩
          · rintro ⟨-, rfl, ⟨rfl⟩, ⟨_, ⟨rfl⟩, -, same⟩, -⟩
            rw [found] at same
            cases same
            rfl
  · rw [if_pos (by simpa using kept)]
    simp [kept]

/-- What a claim is lifted to are the two unified entities that it joins. -/
theorem lifted_iff (hids : (entities.map (·.id)).Nodup) {item : NormalizedClaim} {key : Text × Text × ClaimField} :
    liftKey (unifiedIds (reconcileUnifiedState entities claims overrides generatedAt)) item = some key ↔
      key.1 ≠ key.2.1 ∧
      ∃ subject ∈ (reconcileUnifiedState entities claims overrides generatedAt).entities,
        ∃ object ∈ (reconcileUnifiedState entities claims overrides generatedAt).entities,
          Joins item key.2.2 subject object ∧ subject.id = key.1 ∧ object.id = key.2.1 := by
  rw [liftKey_eq_some_iff, get?_unifiedIds_iff hids]
  simp only [get?_unifiedIds_iff hids]
  constructor
  · rintro ⟨kept, field, ⟨subject, here, named, first⟩, ⟨objectRef, ref, some_, object, there, among, second⟩, -, -,
      differ⟩
    rw [field] at kept
    exact ⟨differ, subject, here, object, there, ⟨kept, field, named, objectRef, among, ref, some_⟩, first, second⟩
  · rintro ⟨differ, subject, here, object, there, ⟨kept, field, named, objectRef, among, ref, some_⟩, first, second⟩
    rw [← field] at kept
    refine ⟨kept, field, ⟨subject, here, named, first⟩, ⟨objectRef, ref, some_, object, there, among, second⟩, ?_, ?_,
      differ⟩
    · rw [← first]
      exact entity_id_ne_nil here
    · rw [← second]
      exact entity_id_ne_nil there

/-- The claims that join two unified entities relate the classes of their records. -/
theorem exists_joins_iff (hids : (entities.map (·.id)).Nodup) {subject object : UnifiedEntity}
    (here : subject ∈ (reconcileUnifiedState entities claims overrides generatedAt).entities)
    (there : object ∈ (reconcileUnifiedState entities claims overrides generatedAt).entities) {a b : ProviderEntity}
    (ha : a ∈ entities) (hb : b ∈ entities) (hain : a.id ∈ subject.providerEntityIds)
    (hbin : b.id ∈ object.providerEntityIds) {field : ClaimField} :
    (∃ item ∈ claims, Joins item field subject object) ↔ Relates entities overrides claims field a b := by
  have first := (classIds_of_mem hids here ha hain).members
  have second := (classIds_of_mem hids there hb hbin).members
  constructor
  · rintro ⟨item, given, kept, isField, named, objectRef, among, ref, some_⟩
    obtain ⟨c, hc, chained, subjectRef⟩ := (first _).mp named
    obtain ⟨d, hd, chained', rfl⟩ := (second _).mp among
    exact ⟨kept, item, given, isField, c, hc, d, hd, chained, chained', subjectRef.symm, ref, some_⟩
  · rintro ⟨kept, item, given, isField, c, hc, d, hd, chained, chained', subjectRef, ref, some_⟩
    exact ⟨item, given, kept, isField, (first _).mpr ⟨c, hc, chained, subjectRef.symm⟩, d.id,
      (second _).mpr ⟨d, hd, chained', rfl⟩, ref, some_⟩

/-! ### Ids of relationships -/

theorem bar_not_mem_entity_id {entity : UnifiedEntity}
    (here : entity ∈ (reconcileUnifiedState entities claims overrides generatedAt).entities) : '|' ∉ entity.id := by
  rw [entity_id_eq here, stableId, List.append_assoc, List.mem_append, List.mem_append]
  have hex := Digest.isHexDigest_sha256 (digestedText entity.providerEntityIds)
  rintro (pre | dash | digit)
  · revert pre
    decide
  · revert dash
    decide
  · have among := List.mem_of_mem_take digit
    rw [isHexDigest, Bool.and_eq_true, List.all_eq_true] at hex
    exact absurd (hex.2 '|' among) (by decide)

theorem entity_id_ne_text {entity : UnifiedEntity}
    (here : entity ∈ (reconcileUnifiedState entities claims overrides generatedAt).entities) (field : ClaimField) :
    entity.id ≠ field.text := by
  have short : field.text.length < 15 := by cases field <;> decide
  have long : 15 ≤ entity.id.length := by
    rw [entity_id_eq here, stableId, List.length_append]
    exact Nat.le_add_right _ _
  intro same
  rw [same] at long
  omega

omit [Digest] in
/-- Values without a bar are read back from what is digested, but not their order. -/
theorem perm_of_digestedText_eq {values values' : List Text} (free : ∀ value ∈ values, '|' ∉ value)
    (free' : ∀ value ∈ values', '|' ∉ value) (nonempty : values ≠ []) (nonempty' : values' ≠ [])
    (same : digestedText values = digestedText values') : values.Perm values' := by
  have perm := List.perm_insertionSort (Text.le · ·) values
  have perm' := List.perm_insertionSort (Text.le · ·) values'
  have sorted := List.intercalate_singleton_inj (x := '|') (fun value among => free value (perm.mem_iff.mp among))
    (fun value among => free' value (perm'.mem_iff.mp among))
    (fun none => nonempty (List.nil_perm.mp (none ▸ perm)))
    (fun none => nonempty' (List.nil_perm.mp (none ▸ perm'))) same
  exact perm.symm.trans (sorted ▸ perm')

omit [Digest] in
/-- What is digested for a relationship says what it relates, but not in which direction. -/
theorem relates_of_digestedText_eq {subject object subject' object' : Text} {field field' : ClaimField}
    (free : ∀ value ∈ [subject, object, subject', object'], '|' ∉ value)
    (apart : ∀ field : ClaimField, subject' ≠ field.text ∧ object' ≠ field.text)
    (same : digestedText [subject, object, field.text] = digestedText [subject', object', field'.text]) :
    field = field' ∧ (subject = subject' ∧ object = object' ∨ subject = object' ∧ object = subject') := by
  have plain (field : ClaimField) : '|' ∉ field.text := by cases field <;> decide
  simp only [List.mem_cons, List.not_mem_nil, or_false, forall_eq_or_imp, forall_eq] at free
  obtain ⟨first, second, third, fourth⟩ := free
  have perm := perm_of_digestedText_eq (by simp [first, second, plain]) (by simp [third, fourth, plain])
    (List.cons_ne_nil _ _) (List.cons_ne_nil _ _) same
  have among : field.text ∈ [subject', object', field'.text] := perm.mem_iff.mp (by simp)
  simp only [List.mem_cons, List.not_mem_nil, or_false] at among
  rcases among with first | second | text
  · exact absurd first.symm (apart field).1
  · exact absurd second.symm (apart field).2
  obtain rfl := ClaimField.text_injective text
  have pair : [subject, object].Perm [subject', object'] :=
    (List.perm_append_right_iff [field.text]).mp perm
  refine ⟨rfl, ?_⟩
  rcases List.perm_pair.mp pair with pair | pair
  · cases pair
    exact .inl ⟨rfl, rfl⟩
  · cases pair
    exact .inr ⟨rfl, rfl⟩

theorem mem_keys_iff (hids : (entities.map (·.id)).Nodup) {key : Text × Text × ClaimField} :
    key ∈ relationshipKeys claims (unifiedIds (reconcileUnifiedState entities claims overrides generatedAt)) ↔
      key.1 ≠ key.2.1 ∧
      ∃ subject ∈ (reconcileUnifiedState entities claims overrides generatedAt).entities,
        ∃ object ∈ (reconcileUnifiedState entities claims overrides generatedAt).entities,
          (∃ item ∈ claims, Joins item key.2.2 subject object) ∧ subject.id = key.1 ∧ object.id = key.2.1 := by
  rw [mem_relationshipKeys, supporting, ne_eq, List.filter_eq_nil_iff]
  push Not
  simp only [decide_eq_true_eq, lifted_iff hids]
  constructor
  · rintro ⟨item, given, differ, subject, here, object, there, joins, first, second⟩
    exact ⟨differ, subject, here, object, there, ⟨item, given, joins⟩, first, second⟩
  · rintro ⟨differ, subject, here, object, there, ⟨item, given, joins⟩, first, second⟩
    exact ⟨item, given, differ, subject, here, object, there, joins, first, second⟩

/-- No claims of one field relate two classes in both directions. -/
def OneWay (entities : List ProviderEntity) (overrides : IdentityOverrides) (claims : List NormalizedClaim) : Prop :=
  ∀ a ∈ entities, ∀ b ∈ entities, ∀ field, Relates entities overrides claims field a b →
    Relates entities overrides claims field b a → Chained entities overrides a b

/-- Two relationships with one id relate the same, or the same in opposite directions. -/
theorem same_or_crossed (hids : (entities.map (·.id)).Nodup)
    (collisionFree : CollisionFree (reconcileUnifiedState entities claims overrides generatedAt))
    {key key' : Text × Text × ClaimField}
    (known : key ∈ relationshipKeys claims
      (unifiedIds (reconcileUnifiedState entities claims overrides generatedAt)))
    (known' : key' ∈ relationshipKeys claims
      (unifiedIds (reconcileUnifiedState entities claims overrides generatedAt)))
    (same : stableId "unified-link" [key.1, key.2.1, key.2.2.text]
      = stableId "unified-link" [key'.1, key'.2.1, key'.2.2.text]) :
    key = key' ∨ key = (key'.2.1, key'.1, key'.2.2) := by
  obtain ⟨-, subject, here, object, there, -, first, second⟩ := (mem_keys_iff hids).mp known
  obtain ⟨-, subject', here', object', there', -, first', second'⟩ := (mem_keys_iff hids).mp known'
  have digested (k : Text × Text × ClaimField)
      (hk : k ∈ relationshipKeys claims
        (unifiedIds (reconcileUnifiedState entities claims overrides generatedAt))) :
      [k.1, k.2.1, k.2.2.text] ∈ digestedValues (reconcileUnifiedState entities claims overrides generatedAt) := by
    refine List.mem_append_right _ ?_
    rw [relationships_reconcile, relationships_eq, List.map_map]
    exact List.mem_map.mpr ⟨k, hk, rfl⟩
  have read := collisionFree _ (digested key known) _ (digested key' known') (stableId_eq_iff.mp same)
  have free : ∀ value ∈ [key.1, key.2.1, key'.1, key'.2.1], '|' ∉ value := by
    simp only [List.mem_cons, List.not_mem_nil, or_false, forall_eq_or_imp, forall_eq, ← first, ← second,
      ← first', ← second']
    exact ⟨bar_not_mem_entity_id here, bar_not_mem_entity_id there, bar_not_mem_entity_id here',
      bar_not_mem_entity_id there'⟩
  have apart (field : ClaimField) : key'.1 ≠ field.text ∧ key'.2.1 ≠ field.text := by
    rw [← first', ← second']
    exact ⟨entity_id_ne_text here' field, entity_id_ne_text there' field⟩
  obtain ⟨field, ends⟩ := relates_of_digestedText_eq free apart read
  rcases ends with ⟨sameSubject, sameObject⟩ | ⟨crossed, crossed'⟩
  · exact .inl (Prod.ext sameSubject (Prod.ext sameObject field))
  · exact .inr (Prod.ext crossed (Prod.ext crossed' field))

theorem oneWay_of_nodup (hids : (entities.map (·.id)).Nodup)
    (unique : ((reconcileUnifiedState entities claims overrides generatedAt).entities.map (·.id)).Nodup)
    (nodup : ((reconcileUnifiedState entities claims overrides generatedAt).relationships.map (·.id)).Nodup) :
    OneWay entities overrides claims := by
  have cover := (mem_providerEntityIds_iff hids claims overrides generatedAt).2
  rw [relationships_reconcile, relationships_eq, List.map_map] at nodup
  have injective := List.inj_on_of_nodup_map nodup
  intro a ha b hb field there back
  by_contra apart
  obtain ⟨subject, here, hain⟩ := cover a ha
  obtain ⟨object, there', hbin⟩ := cover b hb
  have differ : subject.id ≠ object.id := by
    intro same
    obtain rfl := List.inj_on_of_nodup_map unique here there' same
    exact apart ((merged_iff hids claims overrides generatedAt ha hb).mp ⟨subject, here, hain, hbin⟩)
  have joins := (exists_joins_iff hids here there' ha hb hain hbin).mpr there
  have joins' := (exists_joins_iff hids there' here hb ha hbin hain).mpr back
  have forth : (subject.id, object.id, field) ∈ relationshipKeys claims
      (unifiedIds (reconcileUnifiedState entities claims overrides generatedAt)) :=
    (mem_keys_iff hids).mpr ⟨differ, subject, here, object, there', joins, rfl, rfl⟩
  have reverse : (object.id, subject.id, field) ∈ relationshipKeys claims
      (unifiedIds (reconcileUnifiedState entities claims overrides generatedAt)) :=
    (mem_keys_iff hids).mpr ⟨differ.symm, object, there', subject, here, joins', rfl, rfl⟩
  have one := injective forth reverse (stableId_perm _ (List.Perm.swap _ _ _))
  exact differ (congrArg Prod.fst one)

theorem nodup_of_oneWay (hids : (entities.map (·.id)).Nodup)
    (collisionFree : CollisionFree (reconcileUnifiedState entities claims overrides generatedAt))
    (unique : ((reconcileUnifiedState entities claims overrides generatedAt).entities.map (·.id)).Nodup)
    (oneWay : OneWay entities overrides claims) :
    ((reconcileUnifiedState entities claims overrides generatedAt).relationships.map (·.id)).Nodup := by
  have nonempty := (partition_reconcile hids claims overrides generatedAt).nonempty
  rw [relationships_reconcile, relationships_eq, List.map_map, List.nodup_map_iff_inj_on nodup_relationshipKeys]
  intro key known key' known' same
  rcases same_or_crossed hids collisionFree known known' same with same | rfl
  · exact same
  exfalso
  obtain ⟨differ, subject, here, object, there, joins, first, second⟩ := (mem_keys_iff hids).mp known
  obtain ⟨-, subject', here', object', there', joins', first', second'⟩ := (mem_keys_iff hids).mp known'
  obtain rfl := List.inj_on_of_nodup_map unique here there' (first.trans second'.symm)
  obtain rfl := List.inj_on_of_nodup_map unique there here' (second.trans first'.symm)
  obtain ⟨x, hx⟩ := List.exists_mem_of_ne_nil _ (nonempty subject here)
  obtain ⟨y, hy⟩ := List.exists_mem_of_ne_nil _ (nonempty object there)
  obtain ⟨a, ha, rfl⟩ := exists_record hids here hx
  obtain ⟨b, hb, rfl⟩ := exists_record hids there hy
  have chained := oneWay a ha b hb key'.2.2 ((exists_joins_iff hids here there ha hb hx hy).mp joins)
    ((exists_joins_iff hids there here hb ha hy hx).mp joins')
  obtain ⟨entity, among, hain, hbin⟩ := (merged_iff hids claims overrides generatedAt ha hb).mpr chained
  have merged := (entity_unique hids here among hx hain).trans (entity_unique hids there among hy hbin).symm
  rw [merged, second] at first
  exact differ first.symm

/-- **Unique ids**: they are unique just if different classes of records read differently and nothing is
related both ways. -/
theorem uniqueIds_iff {entities : List ProviderEntity} (hids : (entities.map (·.id)).Nodup)
    (claims : List NormalizedClaim) (overrides : IdentityOverrides) (generatedAt : Nat)
    (collisionFree : CollisionFree (reconcileUnifiedState entities claims overrides generatedAt)) :
    UniqueIds (reconcileUnifiedState entities claims overrides generatedAt) ↔
      ReadApart entities overrides ∧ OneWay entities overrides claims := by
  constructor
  · intro h
    exact ⟨(nodup_entities_iff hids collisionFree).mp h.entities,
      oneWay_of_nodup hids h.entities h.relationships⟩
  · rintro ⟨apart, oneWay⟩
    have unique := (nodup_entities_iff hids collisionFree).mpr apart
    refine ⟨unique, nodup_of_oneWay hids collisionFree unique oneWay, ?_, ?_⟩
    · intro subject here object there differ field joins
      have known : (subject.id, object.id, field) ∈ relationshipKeys claims
          (unifiedIds (reconcileUnifiedState entities claims overrides generatedAt)) :=
        (mem_keys_iff hids).mpr ⟨fun same => differ (List.inj_on_of_nodup_map unique here there same), subject, here,
          object, there, joins, rfl, rfl⟩
      rw [relationships_reconcile, relationships_eq, List.filter_map, List.length_map]
      refine (List.length_filter_eq_one_iff nodup_relationshipKeys known ?_).mpr fun key _ same => ?_
      · simp [relationshipOf]
      · simp only [Function.comp_apply, relationshipOf, decide_eq_true_eq] at same
        exact Prod.ext same.1 (Prod.ext same.2.1 same.2.2)
    · intro r here
      obtain ⟨key, some_, rfl⟩ := mem_relationships_iff.mp here
      obtain ⟨-, subject, among, object, there, ⟨item, given, joins⟩, first, second⟩ :=
        (mem_keys_iff hids).mp (mem_relationshipKeys.mpr some_)
      exact ⟨subject, among, object, there, first.symm, second.symm, item, given, joins⟩

end relationships

/-! ## Two switches attached to each other -/

omit [Digest]

/-- The digests of two records and of what attaches them. -/
@[reducible] def attachedDigest : Digest :=
  .ofTable [
      ("catalyst-switch", "1939413543d3bf4b79809287550a05e2" ++ "106d61296f4c229c82916a21c70c286c"),
      ("meraki-switch", "860e38b1887514af17344af733ea20c2" ++ "51025ed884ded1fe3a22e0bab22c2666"),
      ("attachment|unified-entity-1939413543d3bf4b7980|".toList ++ "unified-entity-860e38b1887514af1734",
        "2cbd071933c9b562ca147830133b5cb4" ++ "573ae2a998efdcedb8b78b3f8aa120d6")]
    (by decide) fun _ _ => []

def attachedRecords : List ProviderEntity :=
  [sampleRecord "catalyst-switch" .catalystIos [], sampleRecord "meraki-switch" .merakiDashboard []]

/-- Each of two providers attaches its switch to that of the other. -/
def attachedClaims : List NormalizedClaim := [
  { id := "claim-1", provider := .catalystIos, subjectRef := "catalyst-switch", field := .attachment
    value := none, objectRef := some "meraki-switch", freshness := .current },
  { id := "claim-2", provider := .merakiDashboard, subjectRef := "meraki-switch", field := .attachment
    value := none, objectRef := some "catalyst-switch", freshness := .current }]

theorem uniqueIds_iff_attached : UniqueIds (@reconcileUnifiedState attachedDigest attachedRecords attachedClaims [] 0) ↔
    @ReadApart attachedDigest attachedRecords [] ∧ @OneWay attachedDigest attachedRecords [] attachedClaims :=
  @uniqueIds_iff attachedDigest attachedRecords (by decide +kernel) attachedClaims [] 0 (by decide +kernel)

theorem not_uniqueIds_attached : ∃ digest : Digest, ¬∀ (entities : List ProviderEntity)
    (claims : List NormalizedClaim) (overrides : IdentityOverrides) (generatedAt : Nat),
    (entities.map (·.id)).Nodup →
      @CollisionFree digest (reconcileUnifiedState entities claims overrides generatedAt) →
        UniqueIds (reconcileUnifiedState entities claims overrides generatedAt) := by
  refine ⟨attachedDigest, fun claimed => ?_⟩
  have unique := (claimed attachedRecords attachedClaims [] 0 (by decide +kernel) (by decide +kernel)).relationships
  revert unique
  decide +kernel

end SwitchOps
