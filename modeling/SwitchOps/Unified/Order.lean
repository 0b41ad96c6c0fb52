import SwitchOps.Lib.Reorder
import SwitchOps.Unified.Merging

/-!
# What the order of the records and claims decides

Providers are refreshed in any order, so the unified state should not depend on the order in which
records and claims are listed. The records are sorted before they are paired and again when they are
grouped, and claims are only counted and compared; but the value of an attribute is the last claim's.
-/

namespace SwitchOps

open Relation

/-! ## The same state, up to the order inside lists -/

structure SameAttribute (a b : AttributeResolution) : Prop where
  field : a.field = b.field
  state : a.state = b.state
  value : a.value = b.value
  explanation : a.explanation = b.explanation
  providerValues : a.providerValues.Perm b.providerValues
  claimIds : a.claimIds.Perm b.claimIds

structure SameEntity (a b : UnifiedEntity) : Prop where
  id : a.id = b.id
  label : a.label = b.label
  category : a.category = b.category
  identityState : a.identityState = b.identityState
  freshness : a.freshness = b.freshness
  providerEntityIds : a.providerEntityIds.Perm b.providerEntityIds
  providers : a.providers.Perm b.providers
  evidenceIds : a.evidenceIds.Perm b.evidenceIds
  attributes : List.Reordered SameAttribute a.attributes b.attributes

structure SameRelationship (a b : UnifiedRelationship) : Prop where
  id : a.id = b.id
  subjectId : a.subjectId = b.subjectId
  objectId : a.objectId = b.objectId
  relationship : a.relationship = b.relationship
  state : a.state = b.state
  explanation : a.explanation = b.explanation
  providerClaimIds : a.providerClaimIds.Perm b.providerClaimIds

structure SameState (s t : UnifiedLabState) : Prop where
  generatedAt : s.generatedAt = t.generatedAt
  entities : List.Reordered SameEntity s.entities t.entities
  relationships : List.Reordered SameRelationship s.relationships t.relationships
  providerEntities : s.providerEntities.Perm t.providerEntities
  claims : s.claims.Perm t.claims
  identityLinks : s.identityLinks.Perm t.identityLinks
  conflicts : s.conflicts.Perm t.conflicts

/-! ## Records in any order -/

section records

variable {entities entities' : List ProviderEntity}

theorem ProviderKind.text_injective {p q : ProviderKind} (h : p.text = q.text) : p = q := by
  revert h
  cases p <;> cases q <;> decide

theorem entityLe_total (a b : ProviderEntity) : entityLe a b = true ∨ entityLe b a = true := by
  unfold entityLe
  by_cases h : a.provider = b.provider
  · rw [if_pos h, if_pos h.symm]
    exact Text.le_total _ _
  · rw [if_neg h, if_neg (Ne.symm h)]
    exact Text.le_total _ _

theorem entityLe_antisymm {a b : ProviderEntity} (hab : entityLe a b = true)
    (hba : entityLe b a = true) : a.id = b.id := by
  unfold entityLe at hab hba
  by_cases h : a.provider = b.provider
  · rw [if_pos h] at hab
    rw [if_pos h.symm] at hba
    exact Text.le_antisymm hab hba
  · rw [if_neg h] at hab
    rw [if_neg (Ne.symm h)] at hba
    exact absurd (ProviderKind.text_injective (Text.le_antisymm hab hba)) h

theorem entityLe_trans {a b c : ProviderEntity} (hab : entityLe a b = true)
    (hbc : entityLe b c = true) : entityLe a c = true := by
  unfold entityLe at *
  by_cases hpab : a.provider = b.provider
  · rw [if_pos hpab] at hab
    rw [hpab]
    by_cases hpbc : b.provider = c.provider
    · rw [if_pos hpbc] at hbc ⊢
      exact Text.le_trans hab hbc
    · rw [if_neg hpbc] at hbc ⊢
      exact hbc
  · rw [if_neg hpab] at hab
    by_cases hpbc : b.provider = c.provider
    · rw [← hpbc, if_neg hpab]
      exact hab
    · rw [if_neg hpbc] at hbc
      by_cases hpac : a.provider = c.provider
      · -- the name of a provider would lie between itself
        rw [hpac] at hab
        exact absurd (ProviderKind.text_injective (Text.le_antisymm hab hbc)).symm hpbc
      · rw [if_neg hpac]
        exact Text.le_trans hab hbc

instance : Std.Total (entityLe · · : ProviderEntity → ProviderEntity → Prop) := ⟨entityLe_total⟩

instance : IsTrans ProviderEntity (entityLe · ·) := ⟨fun _ _ _ => entityLe_trans⟩

theorem ordered_eq_of_perm (hids : (entities.map (·.id)).Nodup) (h : entities.Perm entities') :
    ordered entities = ordered entities' :=
  h.insertionSort_eq fun _ ha _ hb hab hba =>
    eq_of_id_eq hids ha hb (entityLe_antisymm hab hba)

/-- The record found under an id. -/
theorem find?_id_eq_some_iff (hids : (entities.map (·.id)).Nodup) {id : Text} {a : ProviderEntity} :
    (entities.reverse.find? fun entity => entity.id = id) = some a ↔ a ∈ entities ∧ a.id = id := by
  constructor
  · intro h
    exact ⟨List.mem_reverse.mp (List.mem_of_find?_eq_some h), by simpa using List.find?_some h⟩
  · rintro ⟨ha, rfl⟩
    cases hfind : entities.reverse.find? fun entity => entity.id = a.id with
    | none => simpa using List.find?_eq_none.mp hfind a (List.mem_reverse.mpr ha)
    | some b =>
      have hb := List.mem_reverse.mp (List.mem_of_find?_eq_some hfind)
      rw [eq_of_id_eq hids hb ha (by simpa using List.find?_some hfind)]

theorem find?_id_eq_of_perm (hids : (entities.map (·.id)).Nodup) (h : entities.Perm entities')
    (id : Text) :
    (entities.reverse.find? fun entity => entity.id = id)
      = entities'.reverse.find? fun entity => entity.id = id := by
  have hids' := (h.map (·.id)).nodup_iff.mp hids
  ext a
  rw [find?_id_eq_some_iff hids, find?_id_eq_some_iff hids', h.mem_iff]

end records

/-! ## Components -/

section partition

variable [Digest] {entities entities' : List ProviderEntity}

theorem resolve_eq_of_perm (hids : (entities.map (·.id)).Nodup) (h : entities.Perm entities')
    (evaluatedAt : Nat) :
    resolveCrossProviderIdentities entities evaluatedAt
      = resolveCrossProviderIdentities entities' evaluatedAt := by
  have hordered := ordered_eq_of_perm hids h
  unfold ordered at hordered
  unfold resolveCrossProviderIdentities
  rw [hordered]

/-- Links are between the records. -/
theorem confirmedEnds_mem (hnodup : entities.Nodup) (overrides : IdentityOverrides)
    (evaluatedAt : Nat) :
    ∀ pair ∈ confirmedEnds (decidedLinks entities overrides evaluatedAt),
      pair.1 ∈ entities.map (·.id) ∧ pair.2 ∈ entities.map (·.id) := by
  have hperm := ordered_perm entities
  rintro ⟨x, y⟩ hpair
  obtain ⟨c, d, hcd, -, rfl, rfl⟩ := (mem_confirmedEnds_iff hnodup overrides evaluatedAt).mp hpair
  obtain ⟨hc, hd⟩ := (mem_pairsOf (hperm.nodup_iff.mpr hnodup)).1 hcd
  exact ⟨List.mem_map_of_mem (hperm.mem_iff.mp hc), List.mem_map_of_mem (hperm.mem_iff.mp hd)⟩

omit [Digest] in
theorem components_eq_of_perm {links : List IdentityLink}
    (hends : ∀ pair ∈ confirmedEnds links,
      pair.1 ∈ entities.map (·.id) ∧ pair.2 ∈ entities.map (·.id))
    (h : entities.Perm entities') : components entities links = components entities' links := by
  have hends' : ∀ pair ∈ confirmedEnds links,
      pair.1 ∈ entities'.map (·.id) ∧ pair.2 ∈ entities'.map (·.id) := fun pair hpair => by
    have hmem (x : Text) := (h.map (·.id)).mem_iff (a := x)
    exact (hends pair hpair).imp (hmem _).mp (hmem _).mp
  rw [components_eq links hends, components_eq links hends', ← h.length_eq]
  let item (e : ProviderEntity) : Text × Text := (rootOf entities.length links e.id, e.id)
  have hitems : (entities.map item).Perm (entities'.map item) := h.map item
  have hsame := Dict.forall₂_sorted_groupBy (R := Eq) (r := (Text.le · ·)) (·.1)
    (f := fun group => (group.2.map (·.2)).insertionSort (Text.le · ·)) hitems
    (fun _ _ => Text.le_antisymm) fun _ _ _ hgroup => Text.insertionSort_perm (hgroup.map _)
  rwa [List.forall₂_eq_eq_eq] at hsame

omit [Digest] in
/-- No record is lost, and none is in two components. -/
theorem flatten_components_perm {links : List IdentityLink}
    (hends : ∀ pair ∈ confirmedEnds links,
      pair.1 ∈ entities.map (·.id) ∧ pair.2 ∈ entities.map (·.id)) :
    (components entities links).flatten.Perm (entities.map (·.id)) := by
  rw [components_eq links hends, ← List.flatMap_def]
  let item (e : ProviderEntity) : Text × Text := (rootOf entities.length links e.id, e.id)
  let groups := Dict.groupBy (·.1) (entities.map item)
  have hsorted : ((groups.insertionSort (Text.le ·.1 ·.1)).flatMap
      fun group => (group.2.map (·.2)).insertionSort (Text.le · ·)).Perm
        (groups.flatMap fun group => group.2.map (·.2)) := by
    refine List.Perm.flatMap (List.perm_insertionSort _ _) fun group _ => ?_
    exact List.perm_insertionSort _ _
  refine hsorted.trans ?_
  rw [← List.map_flatMap]
  refine ((Dict.flatMap_groupBy_perm _ _).map _).trans ?_
  rw [List.map_map]
  exact .refl _

end partition

/-! ## Attributes -/

/-- The claims that count for an attribute of some records. -/
def relevantClaims (field : ClaimField) (memberIds : List Text) (claims : List NormalizedClaim) :
    List NormalizedClaim :=
  claims.filter fun item => memberIds.elem item.subjectRef && item.field == field && item.value.isSome

/-- What is claimed, and by whom. -/
def claimedValues (relevant : List NormalizedClaim) : List (ProviderKind × ClaimValue) :=
  relevant.filterMap fun item => item.value.map fun value => (item.provider, value)

/-- `provider_values`. -/
def valuesByProvider (values : List (ProviderKind × ClaimValue)) : List (ProviderKind × List Text) :=
  (Dict.groupBy (·.1) values).map fun group =>
    (group.1, Text.sortedSet (group.2.map fun value => value.2.str))

/-- `distinct`. -/
def distinctValues (values : List (ProviderKind × ClaimValue)) : List Text :=
  ((valuesByProvider values).flatMap (·.2)).dedup

/-- `raw_values[next(iter(distinct))]`. -/
def onlyValue (values : List (ProviderKind × ClaimValue)) : Option ClaimValue :=
  (distinctValues values).head?.bind
    (Dict.get? (Dict.ofList (values.map fun value => (value.2.str, value.2))))

/-- Claims that are written the same, and not all of them old, claim the same value. -/
def OneSpelling (relevant : NormalizedClaim → Prop) : Prop :=
  (∃ x, relevant x ∧ x.freshness.isOld = false) →
    (∀ x y, relevant x → relevant y → x.value.map (·.str) = y.value.map (·.str)) →
      ∀ x y, relevant x → relevant y → x.value = y.value

section attributes

variable {field : ClaimField} {memberIds : List Text} {claims claims' : List NormalizedClaim}
  {values values' : List (ProviderKind × ClaimValue)} {relevant : List NormalizedClaim}

theorem mem_relevantClaims {item : NormalizedClaim} :
    item ∈ relevantClaims field memberIds claims ↔
      item ∈ claims ∧ item.subjectRef ∈ memberIds ∧ item.field = field ∧ item.value.isSome := by
  simp [relevantClaims, and_assoc]

theorem valuesByProvider_perm (h : values.Perm values') :
    (valuesByProvider values).Perm (valuesByProvider values') := by
  have hspelled (p : ProviderKind) :
      Text.sortedSet ((values.filter (·.1 = p)).map fun value => value.2.str)
        = Text.sortedSet ((values'.filter (·.1 = p)).map fun value => value.2.str) :=
    Text.sortedSet_perm ((h.filter _).map _)
  unfold valuesByProvider
  rw [Dict.groupBy_eq, Dict.groupBy_eq _ values', List.map_map, List.map_map]
  refine ((Dict.keys_groupBy_perm _ h).map _).trans (.of_eq (List.map_congr_left fun p _ => ?_))
  rw [Function.comp_apply, Function.comp_apply, hspelled]

theorem mem_distinctValues {text : Text} :
    text ∈ distinctValues values ↔ ∃ value ∈ values, value.2.str = text := by
  unfold distinctValues valuesByProvider
  rw [List.mem_dedup, List.flatMap_map, Dict.groupBy_eq, List.flatMap_map]
  simp only [List.mem_flatMap, Dict.mem_keys_groupBy, Text.mem_sortedSet, List.mem_map,
    List.mem_filter, decide_eq_true_eq]
  constructor
  · rintro ⟨p, -, value, ⟨hvalue, -⟩, htext⟩
    exact ⟨value, hvalue, htext⟩
  · rintro ⟨value, hvalue, htext⟩
    exact ⟨value.1, ⟨value, hvalue, rfl⟩, value, ⟨hvalue, rfl⟩, htext⟩

theorem distinctValues_perm (h : values.Perm values') :
    (distinctValues values).Perm (distinctValues values') :=
  ((valuesByProvider_perm h).flatMap_right _).dedup

theorem nodup_distinctValues (values : List (ProviderKind × ClaimValue)) :
    (distinctValues values).Nodup :=
  List.nodup_dedup _

theorem distinctValues_eq {text : Text} (hne : values ≠ [])
    (h : ∀ value ∈ values, value.2.str = text) : distinctValues values = [text] := by
  apply List.perm_singleton.mp
  rw [List.perm_ext_iff_of_nodup (nodup_distinctValues values) (List.nodup_singleton text)]
  intro t
  rw [mem_distinctValues, List.mem_singleton]
  constructor
  · rintro ⟨value, hvalue, rfl⟩
    exact h value hvalue
  · rintro rfl
    obtain ⟨value, hvalue⟩ := List.exists_mem_of_ne_nil _ hne
    exact ⟨value, hvalue, h value hvalue⟩

/-- What is written under one spelling is the last value given for it. -/
theorem onlyValue_eq {text : Text} {init : List (ProviderKind × ClaimValue)}
    {last : ProviderKind × ClaimValue} (hlast : values = init ++ [last])
    (h : ∀ value ∈ values, value.2.str = text) : onlyValue values = some last.2 := by
  have hspelled : last.2.str = text := h last (by simp [hlast])
  rw [onlyValue, distinctValues_eq (by simp [hlast]) h]
  simp [Dict.get?_ofList, hlast, hspelled]

/-- A single value is spelled the same by everybody. -/
theorem str_eq_of_single (hany : ((valuesByProvider values).any fun group => 1 < group.2.length) = false)
    (hone : (valuesByProvider values).length = 1 ∨ (distinctValues values).length = 1) :
    ∃ text, ∀ value ∈ values, value.2.str = text := by
  rcases hone with hone | hone
  · obtain ⟨group, hgroup⟩ := List.length_eq_one_iff.mp hone
    have hle : group.2.length ≤ 1 := by simpa [hgroup] using hany
    have hmem : ∀ value ∈ values, value.2.str ∈ group.2 := by
      intro value hvalue
      have hdistinct := mem_distinctValues.mpr ⟨value, hvalue, rfl⟩
      simpa [distinctValues, hgroup] using hdistinct
    rcases hgroup' : group.2 with _ | ⟨text, rest⟩
    · exact ⟨[], fun value hvalue => by simpa [hgroup'] using hmem value hvalue⟩
    · have hrest : rest = [] := by
        rw [hgroup', List.length_cons] at hle
        exact List.eq_nil_of_length_eq_zero (by omega)
      exact ⟨text, fun value hvalue => by simpa [hgroup', hrest] using hmem value hvalue⟩
  · obtain ⟨text, htext⟩ := List.length_eq_one_iff.mp hone
    refine ⟨text, fun value hvalue => ?_⟩
    simpa [htext] using mem_distinctValues.mpr ⟨value, hvalue, rfl⟩

/-- The other way around, who spells a value the same has one value. -/
theorem single_of_str_eq {text : Text} (h : ∀ value ∈ values, value.2.str = text) :
    ((valuesByProvider values).any fun group => 1 < group.2.length) = false := by
  rw [List.any_eq_false]
  intro group hgroup
  obtain ⟨⟨p, items⟩, hitems, rfl⟩ := List.mem_map.mp hgroup
  have hsub : Text.sortedSet (items.map fun value => value.2.str) ⊆ [text] := by
    intro t ht
    obtain ⟨value, hvalue, rfl⟩ := List.mem_map.mp (Text.mem_sortedSet.mp ht)
    rw [(Dict.mem_groupBy.mp hitems).1] at hvalue
    exact List.mem_singleton.mpr (h value (List.mem_of_mem_filter hvalue))
  have hnodup : (Text.sortedSet (items.map fun value => value.2.str)).Nodup :=
    (List.perm_insertionSort _ _).nodup_iff.mpr (List.nodup_dedup _)
  have hle := (hnodup.subperm hsub).length_le
  simpa using hle

theorem mem_claimedValues {value : ProviderKind × ClaimValue} :
    value ∈ claimedValues relevant ↔
      ∃ item ∈ relevant, item.provider = value.1 ∧ item.value = some value.2 := by
  obtain ⟨provider, value⟩ := value
  simp only [claimedValues, List.mem_filterMap, Option.map_eq_some_iff, Prod.mk.injEq]
  constructor
  · rintro ⟨item, hitem, value', hvalue, rfl, rfl⟩
    exact ⟨item, hitem, rfl, hvalue⟩
  · rintro ⟨item, hitem, rfl, hvalue⟩
    exact ⟨item, hitem, value, hvalue, rfl, rfl⟩

theorem onlyValue_eq_of_perm (h : values.Perm values')
    (hspelled : ∀ x ∈ values, ∀ y ∈ values, x.2.str = y.2.str → x.2 = y.2)
    (htext : ∃ text, ∀ value ∈ values, value.2.str = text) : onlyValue values = onlyValue values' := by
  obtain ⟨text, htext⟩ := htext
  have htext' : ∀ value ∈ values', value.2.str = text := fun value hvalue =>
    htext value (h.mem_iff.mpr hvalue)
  rcases values.eq_nil_or_concat' with rfl | ⟨init, last, hlast⟩
  · rw [List.nil_perm.mp h]
  rcases values'.eq_nil_or_concat' with rfl | ⟨init', last', hlast'⟩
  · rw [List.perm_nil.mp h]
  rw [onlyValue_eq hlast htext, onlyValue_eq hlast' htext']
  have hmem : last ∈ values := by simp [hlast]
  have hmem' : last' ∈ values := h.mem_iff.mpr (by simp [hlast'])
  rw [hspelled last hmem last' hmem' ((htext last hmem).trans (htext last' hmem').symm)]

/-- The case that `_resolve_attribute` finds the relevant claims in. -/
def weigh {α : Type} (relevant : List NormalizedClaim)
    (unknown stale ambiguous providerOnly agreed conflict : α) : α :=
  if relevant.isEmpty then unknown
  else if relevant.all fun item => item.freshness.isOld then stale
  else if (valuesByProvider (claimedValues relevant)).any fun group => 1 < group.2.length then
    ambiguous
  else if (valuesByProvider (claimedValues relevant)).length = 1 then providerOnly
  else if (distinctValues (claimedValues relevant)).length = 1 then agreed
  else conflict

theorem weigh_perm {α : Type} {relevant relevant' : List NormalizedClaim}
    (h : relevant.Perm relevant') (unknown stale ambiguous providerOnly agreed conflict : α) :
    weigh relevant' unknown stale ambiguous providerOnly agreed conflict
      = weigh relevant unknown stale ambiguous providerOnly agreed conflict := by
  have hvalues : (claimedValues relevant).Perm (claimedValues relevant') := h.filterMap _
  have hproviders := valuesByProvider_perm hvalues
  have hempty : relevant.isEmpty = relevant'.isEmpty := by
    rw [Bool.eq_iff_iff, List.isEmpty_iff_length_eq_zero, List.isEmpty_iff_length_eq_zero,
      h.length_eq]
  unfold weigh
  rw [hempty, h.all_eq, hproviders.any_eq, hproviders.length_eq,
    (distinctValues_perm hvalues).length_eq]

/-- With one spelling it does not matter which claim comes last. -/
theorem onlyValue_claimedValues_perm {relevant relevant' : List NormalizedClaim}
    (h : relevant.Perm relevant') (hsome : ∀ item ∈ relevant, item.value.isSome)
    (hspelled : OneSpelling (· ∈ relevant))
    (hfresh : ¬(relevant.all fun item => item.freshness.isOld) = true)
    (htext : ∃ text, ∀ value ∈ claimedValues relevant, value.2.str = text) :
    onlyValue (claimedValues relevant) = onlyValue (claimedValues relevant') := by
  refine onlyValue_eq_of_perm (h.filterMap _) (fun x hx y hy _ => ?_) htext
  obtain ⟨text, htext⟩ := htext
  have hwritten : ∀ item ∈ relevant, item.value.map (·.str) = some text := by
    intro item hitem
    obtain ⟨value, hvalue⟩ := Option.isSome_iff_exists.mp (hsome item hitem)
    have hclaimed := htext (item.provider, value) (mem_claimedValues.mpr ⟨item, hitem, rfl, hvalue⟩)
    rw [hvalue, Option.map_some, hclaimed]
  have hsome : ∃ item, item ∈ relevant ∧ item.freshness.isOld = false := by simpa using hfresh
  obtain ⟨a, ha, -, hxa⟩ := mem_claimedValues.mp hx
  obtain ⟨b, hb, -, hyb⟩ := mem_claimedValues.mp hy
  have heq := hspelled hsome (fun a b ha hb => (hwritten a ha).trans (hwritten b hb).symm) a b ha hb
  rw [hxa, hyb] at heq
  exact Option.some.inj heq

theorem resolveAttribute_same (h : claims.Perm claims')
    (hspelled : OneSpelling (· ∈ relevantClaims field memberIds claims)) :
    SameAttribute (resolveAttribute field memberIds claims)
      (resolveAttribute field memberIds claims') := by
  have hrelevant : (relevantClaims field memberIds claims).Perm
    (relevantClaims field memberIds claims') := h.filter _
  have hvalues : (claimedValues (relevantClaims field memberIds claims)).Perm
    (claimedValues (relevantClaims field memberIds claims')) := hrelevant.filterMap _
  have hids := hrelevant.map (·.id)
  have hflattened := (valuesByProvider_perm hvalues).map fun group =>
    (group.1, Text.join ", " group.2)
  have honly := onlyValue_claimedValues_perm hrelevant
    (fun _ hitem => (mem_relevantClaims.mp hitem).2.2.2) hspelled
  show SameAttribute (weigh (relevantClaims field memberIds claims) _ _ _ _ _ _)
    (weigh (relevantClaims field memberIds claims') _ _ _ _ _ _)
  rw [weigh_perm hrelevant]
  unfold weigh
  split_ifs with hempty hold hany hproviders hdistinct
  · exact ⟨rfl, rfl, rfl, rfl, .refl _, .refl _⟩
  · exact ⟨rfl, rfl, rfl, rfl, .refl _, hids⟩
  · exact ⟨rfl, rfl, rfl, rfl, hflattened, hids⟩
  · have htext := str_eq_of_single (Bool.eq_false_iff.mpr hany) (.inl hproviders)
    exact ⟨rfl, rfl, honly hold htext, rfl, hflattened, hids⟩
  · have htext := str_eq_of_single (Bool.eq_false_iff.mpr hany) (.inr hdistinct)
    exact ⟨rfl, rfl, honly hold htext, rfl, hflattened, hids⟩
  · exact ⟨rfl, rfl, rfl, rfl, hflattened, hids⟩

/-- The value of an attribute that is written in one way is the last claim's. -/
theorem resolveAttribute_value {init : List NormalizedClaim} {last : NormalizedClaim}
    (hlast : relevantClaims field memberIds claims = init ++ [last])
    (hfresh : ∃ item ∈ relevantClaims field memberIds claims, item.freshness.isOld = false)
    (hwritten : ∀ x ∈ relevantClaims field memberIds claims,
      x.value.map (·.str) = last.value.map (·.str)) :
    (resolveAttribute field memberIds claims).value = last.value := by
  have hsome : last.value.isSome :=
    (mem_relevantClaims.mp (by rw [hlast]; exact List.mem_append_right _ List.mem_cons_self)).2.2.2
  obtain ⟨value, hvalue⟩ := Option.isSome_iff_exists.mp hsome
  have htext : ∀ claimed ∈ claimedValues (relevantClaims field memberIds claims),
      claimed.2.str = value.str := by
    intro claimed hclaimed
    obtain ⟨item, hitem, -, hitemvalue⟩ := mem_claimedValues.mp hclaimed
    have heq := hwritten item hitem
    rw [hitemvalue, hvalue] at heq
    exact Option.some.inj heq
  have hclaimed : claimedValues (relevantClaims field memberIds claims)
      = claimedValues init ++ [(last.provider, value)] := by
    rw [hlast, claimedValues, List.filterMap_append]
    simp [claimedValues, hvalue]
  have hdistinct := distinctValues_eq (List.ne_nil_of_length_pos (by simp [hclaimed])) htext
  show AttributeResolution.value (weigh (relevantClaims field memberIds claims) _ _ _ _ _ _)
    = last.value
  unfold weigh
  rw [if_neg (by simp [hlast]), if_neg (by simpa using hfresh),
    if_neg (by simpa using single_of_str_eq htext), hvalue]
  split_ifs with hproviders hone
  · exact onlyValue_eq hclaimed htext
  · exact onlyValue_eq hclaimed htext
  · exact absurd (by rw [hdistinct]; rfl) hone

end attributes

end SwitchOps
