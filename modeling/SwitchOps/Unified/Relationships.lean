import SwitchOps.Lib.Reorder
import SwitchOps.Unified.Reconciliation

/-!
# Relationships between unified entities

`relationships` lifts each claim to the unified entities at its ends and groups the claims by what they
were lifted to. There is one relationship for each key (`relationships_keys`), and it depends on the claims
under its key only (`mem_relationships_iff`).
-/

namespace SwitchOps

/-- What a claim is lifted to: the unified entities at its ends, and its field. -/
def liftKey (providerToUnified : Dict Text Text) (item : NormalizedClaim) : Option (Text × Text × ClaimField) :=
  if item.field ≠ .attachment ∧ item.field ≠ .relationship then none
  else match item.objectRef with
    | none | some [] => none
    | some objectRef =>
      match Dict.get? providerToUnified item.subjectRef, Dict.get? providerToUnified objectRef with
      | some subject, some object =>
        if subject.isEmpty || object.isEmpty || subject = object then none
        else some (subject, object, item.field)
      | _, _ => none

/-- The claims that are lifted to a key. -/
def supporting (claims : List NormalizedClaim) (providerToUnified : Dict Text Text)
    (key : Text × Text × ClaimField) : List NormalizedClaim :=
  claims.filter fun item => liftKey providerToUnified item = some key

/-- `str(item.value)`: `None` is a value like any other. -/
def NormalizedClaim.written (item : NormalizedClaim) : Text := (item.value.map (·.str)).getD "None"

/-- The state of a relationship, from the claims that support it. -/
def relationshipState (items : List NormalizedClaim) : CrossProviderState :=
  if items.all fun item => item.freshness.isOld then .stale
  else if (items.map (·.provider)).dedup.length = 1 then .providerOnly
  else if (items.map (·.written)).dedup.length = 1 then .agreed
  else .conflict

variable [Digest] {claims : List NormalizedClaim} {providerToUnified : Dict Text Text}

/-- The relationship under a key. -/
def relationshipOf (key : Text × Text × ClaimField) (items : List NormalizedClaim) : UnifiedRelationship where
  id := stableId "unified-link" [key.1, key.2.1, key.2.2.text]
  subjectId := key.1
  objectId := key.2.1
  relationship := key.2.2
  state := relationshipState items
  providerClaimIds := items.map (·.id)
  explanation := match relationshipState items with
    | .agreed => "Providers agree on this relationship."
    | .providerOnly => "This relationship is supported by one provider only."
    | .stale => "Provider relationship evidence is stale."
    | _ => "Providers disagree about this relationship."

/-- The keys in the order of the relationships. -/
def relationshipKeys (claims : List NormalizedClaim) (providerToUnified : Dict Text Text) :
    List (Text × Text × ClaimField) :=
  (Dict.keys (Dict.groupBy (·.1) (claims.filterMap fun item =>
    (liftKey providerToUnified item).map fun key => (key, item)))).insertionSort (relationshipLe · ·)

omit [Digest] in
theorem filter_lifted (key : Text × Text × ClaimField) :
    ((claims.filterMap fun item => (liftKey providerToUnified item).map fun key => (key, item)).filter
      (·.1 = key)).map (·.2) = supporting claims providerToUnified key := by
  induction claims with
  | nil => rfl
  | cons item claims ih =>
    rw [supporting, List.filterMap_cons, List.filter_cons]
    cases lifted : liftKey providerToUnified item with
    | none => simpa [supporting] using ih
    | some other =>
      by_cases same : other = key
      · simpa [supporting, same] using ih
      · simpa [supporting, same] using ih

theorem relationships_eq : relationships claims providerToUnified
    = (relationshipKeys claims providerToUnified).map fun key =>
        relationshipOf key (supporting claims providerToUnified key) := by
  unfold relationships
  rw [List.filterMap_congr (g := fun item => (liftKey providerToUnified item).map fun key => (key, item)) ?lifted]
  case lifted =>
    intro item _
    unfold liftKey
    by_cases kept : item.field ≠ .attachment ∧ item.field ≠ .relationship
    · rw [if_pos kept, if_pos kept]
      rfl
    rw [if_neg kept, if_neg kept]
    generalize item.objectRef = ref
    rcases ref with _ | (_ | ⟨c, rest⟩)
    · rfl
    · rfl
    dsimp only
    cases Dict.get? providerToUnified item.subjectRef with
    | none => rfl
    | some subject =>
      cases Dict.get? providerToUnified (c :: rest) with
      | none => rfl
      | some object =>
        dsimp only
        split <;> rfl
  dsimp only
  rw [Dict.sorted_groupBy_eq (relationshipLe · ·), List.map_map]
  refine List.map_congr_left fun key _ => ?_
  dsimp only [Function.comp]
  rw [filter_lifted]
  rfl

omit [Digest] in
theorem mem_relationshipKeys {key : Text × Text × ClaimField} :
    key ∈ relationshipKeys claims providerToUnified ↔ supporting claims providerToUnified key ≠ [] := by
  rw [relationshipKeys, List.mem_insertionSort, Dict.mem_keys_groupBy, supporting, ne_eq, List.filter_eq_nil_iff]
  simp only [List.mem_filterMap, Option.map_eq_some_iff]
  push Not
  constructor
  · rintro ⟨_, ⟨item, here, other, lifted, rfl⟩, rfl⟩
    exact ⟨item, here, by simpa using lifted⟩
  · rintro ⟨item, here, lifted⟩
    exact ⟨_, ⟨item, here, key, by simpa using lifted, rfl⟩, rfl⟩

omit [Digest] in
theorem nodup_relationshipKeys : (relationshipKeys claims providerToUnified).Nodup :=
  (List.perm_insertionSort _ _).nodup_iff.mpr (Dict.nodup_keys_groupBy _ _)

/-- **A relationship** is made of the claims under its key. -/
theorem mem_relationships_iff {r : UnifiedRelationship} : r ∈ relationships claims providerToUnified ↔
    ∃ key, supporting claims providerToUnified key ≠ [] ∧
      r = relationshipOf key (supporting claims providerToUnified key) := by
  rw [relationships_eq, List.mem_map]
  simp only [mem_relationshipKeys, eq_comm]

end SwitchOps
