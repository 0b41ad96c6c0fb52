import SwitchOps.Unified.Order

/-!
# What callers of the reconciliation rely on

Unified entities are the classes of records that confirmed links generate, they keep their ids when
unrelated records are added, two records are judged the same from either side, and nothing depends
on the order in which records and claims arrive. The last holds exactly as long as claims that are
written the same are of one type: the value shown is the last one stored under its spelling.
-/

namespace SwitchOps

open Relation

/-! ## Relationships -/

section relationships

theorem ClaimField.text_injective {p q : ClaimField} (h : p.text = q.text) : p = q := by
  revert h
  cases p <;> cases q <;> decide

/-- The lexicographic order, one component after the other. -/
theorem relationshipLe_iff {a b : Text × Text × ClaimField} :
    relationshipLe a b = true ↔ Text.le a.1 b.1 = true ∧ (a.1 = b.1 →
      Text.le a.2.1 b.2.1 = true ∧ (a.2.1 = b.2.1 →
        Text.le a.2.2.text b.2.2.text = true)) := by
  have hrefl (t : Text) : Text.le t t = true := (Text.le_total t t).elim id id
  unfold relationshipLe
  by_cases hsubject : a.1 = b.1
  · by_cases hobject : a.2.1 = b.2.1
    · simp [hsubject, hobject, hrefl]
    · simp [hsubject, hobject, hrefl]
  · simp [hsubject]

theorem relationshipLe_total (a b : Text × Text × ClaimField) :
    relationshipLe a b = true ∨ relationshipLe b a = true := by
  unfold relationshipLe
  by_cases hsubject : a.1 = b.1
  · rw [if_neg (not_not.mpr hsubject), if_neg (not_not.mpr hsubject.symm)]
    by_cases hobject : a.2.1 = b.2.1
    · rw [if_neg (not_not.mpr hobject), if_neg (not_not.mpr hobject.symm)]
      exact Text.le_total _ _
    · rw [if_pos hobject, if_pos (Ne.symm hobject)]
      exact Text.le_total _ _
  · rw [if_pos hsubject, if_pos (Ne.symm hsubject)]
    exact Text.le_total _ _

theorem relationshipLe_antisymm {a b : Text × Text × ClaimField} (hab : relationshipLe a b = true)
    (hba : relationshipLe b a = true) : a = b := by
  obtain ⟨hsubject, hab⟩ := relationshipLe_iff.mp hab
  obtain ⟨hsubject', hba⟩ := relationshipLe_iff.mp hba
  have hsubject := Text.le_antisymm hsubject hsubject'
  obtain ⟨hobject, hab⟩ := hab hsubject
  obtain ⟨hobject', hba⟩ := hba hsubject.symm
  have hobject := Text.le_antisymm hobject hobject'
  have hfield := ClaimField.text_injective (Text.le_antisymm (hab hobject) (hba hobject.symm))
  exact Prod.ext hsubject (Prod.ext hobject hfield)

theorem relationshipLe_trans {a b c : Text × Text × ClaimField} (hab : relationshipLe a b = true)
    (hbc : relationshipLe b c = true) : relationshipLe a c = true := by
  rw [relationshipLe_iff] at hab hbc ⊢
  refine ⟨Text.le_trans hab.1 hbc.1, fun hsubject => ?_⟩
  -- what lies between equal subjects is equal, and the same goes for the objects
  have hab₁ : a.1 = b.1 := Text.le_antisymm hab.1 (hsubject ▸ hbc.1)
  have hab := hab.2 hab₁
  have hbc := hbc.2 (hab₁.symm.trans hsubject)
  refine ⟨Text.le_trans hab.1 hbc.1, fun hobject => ?_⟩
  have hab₂ : a.2.1 = b.2.1 := Text.le_antisymm hab.1 (hobject ▸ hbc.1)
  exact Text.le_trans (hab.2 hab₂) (hbc.2 (hab₂.symm.trans hobject))

instance : Std.Total (relationshipLe · · : _ → _ → Prop) := ⟨relationshipLe_total⟩

instance : IsTrans (Text × Text × ClaimField) (relationshipLe · ·) :=
  ⟨fun _ _ _ => relationshipLe_trans⟩

variable [Digest] {claims claims' : List NormalizedClaim}

theorem relationships_same (h : claims.Perm claims') (providerToUnified : Dict Text Text) :
    List.Reordered SameRelationship (relationships claims providerToUnified)
      (relationships claims' providerToUnified) := by
  refine .of_forall₂ (Dict.forall₂_sorted_groupBy (r := (relationshipLe · ·)) _ (h.filterMap _)
    (fun _ _ => relationshipLe_antisymm) fun key group group' hgroup => ?_)
  obtain ⟨subject, object, field⟩ := key
  have hitems : (group.map (·.2)).Perm (group'.map (·.2)) := hgroup.map _
  have hold := hitems.all_eq (f := fun item => item.freshness.isOld)
  have hproviders := (hitems.map (·.provider)).dedup.length_eq
  have hvalues := (hitems.map fun item =>
    (item.value.map (·.str)).getD "None".toList).dedup.length_eq
  dsimp only
  rw [hold, hproviders, hvalues]
  exact ⟨rfl, rfl, rfl, rfl, rfl, rfl, hitems.map _⟩

end relationships

/-! ## The two sides of a pair -/

structure SameReason (r r' : IdentityReason) : Prop where
  kind : r.kind = r'.kind
  field : r.field = r'.field
  strength : r.strength = r'.strength
  summary : r.summary = r'.summary
  provenanceRefs : r.provenanceRefs.Perm r'.provenanceRefs

/-- The same link, seen from the other side. -/
structure MirroredLink (link link' : IdentityLink) : Prop where
  id : link.id = link'.id
  left : link.leftEntityId = link'.rightEntityId
  right : link.rightEntityId = link'.leftEntityId
  state : link.state = link'.state
  automatic : link.automatic = link'.automatic
  evaluatedAt : link.evaluatedAt = link'.evaluatedAt
  decidedAt : link.decidedAt = link'.decidedAt
  reasons : List.Reordered SameReason link.reasons link'.reasons

structure MirroredConflict (conflict conflict' : IdentityConflict) : Prop where
  id : conflict.id = conflict'.id
  left : conflict.leftEntityId = conflict'.rightEntityId
  right : conflict.rightEntityId = conflict'.leftEntityId
  field : conflict.field = conflict'.field
  summary : conflict.summary = conflict'.summary
  provenanceRefs : conflict.provenanceRefs.Perm conflict'.provenanceRefs

/-- The same judgement of a pair, seen from the other side. -/
def Mirrored (result result' : IdentityLink × List IdentityConflict) : Prop :=
  MirroredLink result.1 result'.1 ∧ List.Reordered MirroredConflict result.2 result'.2

section sides

variable {a b : ProviderEntity}

theorem isEmpty_commonValues_comm (left right : List ProviderIdentifier) :
    (commonValues left right).isEmpty = (commonValues right left).isEmpty := by
  rw [Bool.eq_iff_iff, List.isEmpty_iff, List.isEmpty_iff, commonValues_eq_nil_iff,
    commonValues_eq_nil_iff, not_iff_not]
  constructor
  · rintro ⟨x, hx, y, hy, heq⟩
    exact ⟨y, hy, x, hx, heq.symm⟩
  · rintro ⟨x, hx, y, hy, heq⟩
    exact ⟨y, hy, x, hx, heq.symm⟩

theorem strongAgreement_comm (group : IdentifierKind × List IdentifierKind) :
    Option.Rel SameReason (strongAgreement a b group) (strongAgreement b a group) := by
  unfold strongAgreement
  dsimp only
  rw [isEmpty_commonValues_comm, Bool.or_comm]
  split_ifs
  · exact .none
  · exact .none
  · exact .some ⟨rfl, rfl, rfl, rfl, List.perm_append_comm.map _⟩

theorem labelAgreement_comm (kind : IdentifierKind) :
    Option.Rel SameReason (labelAgreement a b kind) (labelAgreement b a kind) := by
  unfold labelAgreement
  dsimp only
  rw [isEmpty_commonValues_comm, Bool.or_comm]
  split
  · exact .none
  · split
    · exact .none
    · exact .some ⟨rfl, rfl, rfl, rfl, List.perm_append_comm.map _⟩

theorem strongDisagreement_comm (group : IdentifierKind × List IdentifierKind) :
    Option.Rel (fun d d' => d.1 = d'.1 ∧ d.2.Perm d'.2) (strongDisagreement a b group)
      (strongDisagreement b a group) := by
  unfold strongDisagreement
  dsimp only
  rw [isEmpty_commonValues_comm, Bool.or_comm]
  split_ifs
  · exact .none
  · exact .some ⟨rfl, List.perm_append_comm⟩
  · exact .none

theorem stableId_perm [Digest] (pre : Text) {values values' : List Text}
    (h : values.Perm values') : stableId pre values = stableId pre values' := by
  rw [stableId, stableId, Text.insertionSort_perm h]

theorem resolveIdentityPair_mirrored [Digest] (a b : ProviderEntity) (evaluatedAt : Nat) :
    Mirrored (resolveIdentityPair a b evaluatedAt) (resolveIdentityPair b a evaluatedAt) := by
  have hid : stableId "identity-link" [a.id, b.id] = stableId "identity-link" [b.id, a.id] :=
    stableId_perm _ (.swap _ _ [])
  have hagreements := List.forall₂_filterMap strongGroups fun group _ =>
    strongAgreement_comm (a := a) (b := b) group
  have hdisagreements := List.forall₂_filterMap strongGroups fun group _ =>
    strongDisagreement_comm (a := a) (b := b) group
  have hlabels := List.forall₂_filterMap labelKinds fun kind _ =>
    labelAgreement_comm (a := a) (b := b) kind
  have hreasons := List.rel_append hagreements hlabels
  unfold resolveIdentityPair
  dsimp only
  by_cases hsame : a.provider = b.provider
  · rw [if_pos hsame, if_pos hsame.symm]
    exact ⟨⟨hid, rfl, rfl, rfl, rfl, rfl, rfl, .of_forall₂ .nil⟩, .of_forall₂ .nil⟩
  rw [if_neg hsame, if_neg (Ne.symm hsame), hagreements.isEmpty_eq, hdisagreements.isEmpty_eq,
    hlabels.isEmpty_eq,
    hlabels.any_eq (q := fun reason => reason.strength == .supporting)
      fun r r' h => by rw [h.strength],
    hreasons.any_eq (q := fun reason => reason.field == .identifier .name && reason.kind == .hint)
      fun r r' h => by rw [h.field, h.kind]]
  have hconflicts : List.Forall₂ MirroredConflict
      ((strongGroups.filterMap (strongDisagreement a b)).map (identityConflict a b))
      ((strongGroups.filterMap (strongDisagreement b a)).map (identityConflict b a)) := by
    rw [List.forall₂_map_left_iff, List.forall₂_map_right_iff]
    refine hdisagreements.imp fun d d' ⟨hkind, hitems⟩ => ?_
    refine ⟨?_, rfl, rfl, hkind, ?_, hitems.map _⟩
    · unfold identityConflict
      dsimp only
      rw [hkind]
      exact stableId_perm _ (.swap _ _ _)
    · unfold identityConflict
      rw [hkind]
  split_ifs
  · refine ⟨⟨hid, rfl, rfl, rfl, rfl, rfl, rfl, .of_forall₂ ?_⟩, .of_forall₂ hconflicts⟩
    refine List.rel_append hreasons ?_
    rw [List.forall₂_map_left_iff, List.forall₂_map_right_iff]
    refine hconflicts.imp fun c c' h => ?_
    exact ⟨rfl, congrArg ReasonField.identifier h.field, rfl, h.summary, h.provenanceRefs⟩
  · exact ⟨⟨hid, rfl, rfl, rfl, rfl, rfl, rfl, .of_forall₂ hreasons⟩, .of_forall₂ .nil⟩
  · exact ⟨⟨hid, rfl, rfl, rfl, rfl, rfl, rfl, .of_forall₂ hreasons⟩, .of_forall₂ .nil⟩
  · exact ⟨⟨hid, rfl, rfl, rfl, rfl, rfl, rfl, .of_forall₂ hreasons⟩, .of_forall₂ .nil⟩

end sides

/-! ## The classes of confirmed links -/

section classes

variable [Digest] {entities : List ProviderEntity}

/-- Every record is in one unified entity and listed there once, and two records are together just if
a chain of confirmed links leads from one to the other. -/
structure Partition (entities : List ProviderEntity) (state : UnifiedLabState) : Prop where
  once : (state.entities.flatMap (·.providerEntityIds)).Perm (entities.map (·.id))
  nonempty : ∀ entity ∈ state.entities, entity.providerEntityIds ≠ []
  together : ∀ a ∈ entities, ∀ b ∈ entities,
    (∃ entity ∈ state.entities, a.id ∈ entity.providerEntityIds ∧ b.id ∈ entity.providerEntityIds) ↔
      EqvGen (fun x y => ∃ link ∈ state.identityLinks,
        link.state = .confirmed ∧ link.leftEntityId = x ∧ link.rightEntityId = y) a.id b.id

theorem flatMap_providerEntityIds (claims : List NormalizedClaim) (overrides : IdentityOverrides)
    (generatedAt : Nat) :
    (reconcileUnifiedState entities claims overrides generatedAt).entities.flatMap
      (·.providerEntityIds)
      = (components entities (decidedLinks entities overrides generatedAt)).flatten := by
  show ((components entities (decidedLinks entities overrides generatedAt)).map _).flatMap _ = _
  rw [List.flatMap_map, List.flatMap_def]
  exact congrArg _ (List.map_id' _)

theorem partition_reconcile (hids : (entities.map (·.id)).Nodup) (claims : List NormalizedClaim)
    (overrides : IdentityOverrides) (generatedAt : Nat) :
    Partition entities (reconcileUnifiedState entities claims overrides generatedAt) := by
  have hends := confirmedEnds_mem hids.of_map overrides generatedAt
  refine ⟨?_, fun entity hentity => ?_, fun a ha b hb => ?_⟩
  · rw [flatMap_providerEntityIds]
    exact flatten_components_perm hends
  · obtain ⟨hmem, -⟩ := mem_providerEntityIds_iff hids claims overrides generatedAt
    obtain ⟨a, ha, hiff⟩ := hmem entity hentity
    exact List.ne_nil_of_mem ((hiff a.id).mpr ⟨a, ha, .refl a, rfl⟩)
  · rw [merged_iff hids claims overrides generatedAt ha hb,
      ← chained_iff hids overrides generatedAt ha hb]
    have hlink (x y : Text) :
        (x, y) ∈ confirmedEnds (decidedLinks entities overrides generatedAt) ↔
          ∃ link ∈ (reconcileUnifiedState entities claims overrides generatedAt).identityLinks,
            link.state = .confirmed ∧ link.leftEntityId = x ∧ link.rightEntityId = y := by
      show _ ∈ confirmedEnds (decidedLinks entities overrides generatedAt) ↔
        ∃ link ∈ decidedLinks entities overrides generatedAt, _
      simp [confirmedEnds, and_assoc]
    simp only [hlink]

end classes

/-! ## Unrelated records -/

/-- The two have no identifier value in common. -/
def Unrelated (a b : ProviderEntity) : Prop :=
  ∀ x ∈ a.identifiers, ∀ y ∈ b.identifiers, x.protectedValue ≠ y.protectedValue

/-- All that was added to some records is unrelated to them. -/
structure Extends (entities entities' : List ProviderEntity) : Prop where
  ids : (entities'.map (·.id)).Nodup
  subset : entities ⊆ entities'
  unrelated : ∀ added ∈ entities', added ∉ entities → ∀ a ∈ entities, Unrelated a added

section unrelated

variable {entities entities' : List ProviderEntity} {a b : ProviderEntity}

theorem mem_of_mem_identifiersOf {kind : IdentifierKind} {x : ProviderIdentifier}
    (h : x ∈ identifiersOf a kind) : x ∈ a.identifiers := by
  rw [identifiersOf_eq] at h
  exact List.mem_of_mem_filter (List.mem_of_mem_filter h)

theorem exists_of_mem_strongTokens {family : StrongFamily} {value : Text}
    (h : value ∈ strongTokens a family) : ∃ x ∈ a.identifiers, x.protectedValue = value := by
  obtain ⟨x, hx, heq⟩ := mem_strongTokens.mp h
  obtain ⟨kind, -, hx⟩ := List.mem_flatMap.mp hx
  exact ⟨x, mem_of_mem_identifiersOf hx, heq⟩

theorem Unrelated.not_agree (h : Unrelated a b) {family : StrongFamily} {value : Text}
    (ha : value ∈ strongTokens a family) : value ∉ strongTokens b family := by
  intro hb
  obtain ⟨x, hx, rfl⟩ := exists_of_mem_strongTokens ha
  obtain ⟨y, hy, heq⟩ := exists_of_mem_strongTokens hb
  exact h x hx y hy heq.symm

theorem Unrelated.not_linked (h : Unrelated a b) : ¬Linked a b := by
  rintro (⟨family, value, ha, hb⟩ | ⟨kind, -, x, hx, y, hy, heq⟩)
  · exact h.not_agree ha hb
  · exact h x (mem_of_mem_identifiersOf hx) y (mem_of_mem_identifiersOf hy) heq

theorem Extends.sole_iff (h : Extends entities entities') (ha : a ∈ entities)
    {family : StrongFamily} {value : Text} (hvalue : value ∈ strongTokens a family) :
    Sole entities' family value a ↔ Sole entities family value a := by
  refine ⟨fun hsole e he => hsole e (h.subset he), fun hsole e he hprovider hcarries => ?_⟩
  by_cases hold : e ∈ entities
  · exact hsole e hold hprovider hcarries
  · exact absurd hcarries ((h.unrelated e he hold a ha).not_agree hvalue)

theorem Extends.confirms_iff (h : Extends entities entities') (ha : a ∈ entities)
    (hb : b ∈ entities) : Confirms entities' a b ↔ Confirms entities a b := by
  constructor
  · rintro ⟨hproviders, hquiet, family, value, hva, hvb, hsole, hsole'⟩
    exact ⟨hproviders, hquiet, family, value, hva, hvb, (h.sole_iff ha hva).mp hsole,
      (h.sole_iff hb hvb).mp hsole'⟩
  · rintro ⟨hproviders, hquiet, family, value, hva, hvb, hsole, hsole'⟩
    exact ⟨hproviders, hquiet, family, value, hva, hvb, (h.sole_iff ha hva).mpr hsole,
      (h.sole_iff hb hvb).mpr hsole'⟩

variable [Digest] {overrides : IdentityOverrides}

theorem Extends.joined_iff (h : Extends entities entities') (ha : a ∈ entities)
    (hb : b ∈ entities) : Joined entities' overrides a b ↔ Joined entities overrides a b := by
  unfold Joined
  rw [h.confirms_iff ha hb]

/-- A chain that starts at an old record stays with the old records. -/
theorem Extends.chained_iff (h : Extends entities entities') (ha : a ∈ entities) :
    Chained entities' overrides b a ↔ b ∈ entities ∧ Chained entities overrides b a := by
  constructor
  · intro hchained
    have hstays (c d : ProviderEntity) (hcd : Chained entities' overrides c d) :
        (c ∈ entities ↔ d ∈ entities) ∧ (c ∈ entities → Chained entities overrides c d) := by
      induction hcd with
      | rel c d hcd =>
        obtain ⟨hc, hd, hjoined⟩ := hcd
        have hiff : c ∈ entities ↔ d ∈ entities := by
          constructor
          · intro hcold
            by_contra hdnew
            exact (h.unrelated d hd hdnew c hcold).not_linked hjoined.linked.2
          · intro hdold
            by_contra hcnew
            exact (h.unrelated c hc hcnew d hdold).not_linked hjoined.linked.2.symm
        refine ⟨hiff, fun hcold => .rel _ _ ⟨hcold, hiff.mp hcold, ?_⟩⟩
        exact (h.joined_iff hcold (hiff.mp hcold)).mp hjoined
      | refl c => exact ⟨Iff.rfl, fun _ => .refl c⟩
      | symm c d _ ih => exact ⟨ih.1.symm, fun hd => .symm _ _ (ih.2 (ih.1.mpr hd))⟩
      | trans c d e _ _ ihcd ihde =>
        exact ⟨ihcd.1.trans ihde.1, fun hc => .trans _ _ _ (ihcd.2 hc) (ihde.2 (ihcd.1.mp hc))⟩
    obtain ⟨hiff, hchain⟩ := hstays b a hchained
    exact ⟨hiff.mpr ha, hchain (hiff.mpr ha)⟩
  · rintro ⟨-, hchained⟩
    clear ha
    induction hchained with
    | rel c d hcd =>
      obtain ⟨hc, hd, hjoined⟩ := hcd
      exact .rel _ _ ⟨h.subset hc, h.subset hd, (h.joined_iff hc hd).mpr hjoined⟩
    | refl c => exact .refl c
    | symm c d _ ih => exact .symm _ _ ih
    | trans c d e _ _ ihcd ihde => exact .trans _ _ _ ihcd ihde

/-- The records of a unified entity are those chained to any one of them. -/
theorem mem_providerEntityIds_iff_of_mem (hids : (entities.map (·.id)).Nodup)
    {claims : List NormalizedClaim} {generatedAt : Nat} {entity : UnifiedEntity}
    (hentity : entity ∈ (reconcileUnifiedState entities claims overrides generatedAt).entities)
    (ha : a ∈ entities) (hmem : a.id ∈ entity.providerEntityIds) {x : Text} :
    x ∈ entity.providerEntityIds ↔ ∃ b ∈ entities, Chained entities overrides b a ∧ b.id = x := by
  obtain ⟨hall, -⟩ := mem_providerEntityIds_iff hids claims overrides generatedAt
  obtain ⟨c, -, hiff⟩ := hall entity hentity
  obtain ⟨a', ha', hac, hid⟩ := (hiff a.id).mp hmem
  rw [eq_of_id_eq hids ha' ha hid] at hac
  rw [hiff]
  constructor
  · rintro ⟨b, hb, hbc, rfl⟩
    exact ⟨b, hb, .trans _ _ _ hbc (.symm _ _ hac), rfl⟩
  · rintro ⟨b, hb, hba, rfl⟩
    exact ⟨b, hb, .trans _ _ _ hba hac, rfl⟩

theorem exists_entity_of_component {claims : List NormalizedClaim} {generatedAt : Nat}
    {component : List Text}
    (h : component ∈ components entities (decidedLinks entities overrides generatedAt)) :
    ∃ entity ∈ (reconcileUnifiedState entities claims overrides generatedAt).entities,
      entity.providerEntityIds = component :=
  ⟨_, List.mem_map_of_mem h, rfl⟩

theorem nodup_providerEntityIds (hids : (entities.map (·.id)).Nodup)
    {claims : List NormalizedClaim} {generatedAt : Nat} {entity : UnifiedEntity}
    (hentity : entity ∈ (reconcileUnifiedState entities claims overrides generatedAt).entities) :
    entity.providerEntityIds.Nodup := by
  have honce := (partition_reconcile hids claims overrides generatedAt).once.nodup_iff.mpr hids
  exact (List.nodup_flatMap.mp honce).1 entity hentity

theorem Extends.id_eq (h : Extends entities entities') (hids : (entities.map (·.id)).Nodup)
    {claims claims' : List NormalizedClaim} {generatedAt : Nat} {entity entity' : UnifiedEntity}
    (hentity : entity ∈ (reconcileUnifiedState entities claims overrides generatedAt).entities)
    (hentity' : entity' ∈ (reconcileUnifiedState entities' claims' overrides generatedAt).entities)
    (ha : a ∈ entities) (hmem : a.id ∈ entity.providerEntityIds)
    (hmem' : a.id ∈ entity'.providerEntityIds) : entity.id = entity'.id := by
  have hsame : entity.providerEntityIds.Perm entity'.providerEntityIds := by
    rw [List.perm_ext_iff_of_nodup (nodup_providerEntityIds hids hentity)
      (nodup_providerEntityIds h.ids hentity')]
    intro x
    rw [mem_providerEntityIds_iff_of_mem hids hentity ha hmem,
      mem_providerEntityIds_iff_of_mem h.ids hentity' (h.subset ha) hmem']
    simp only [h.chained_iff ha]
    constructor
    · rintro ⟨b, hb, hchained, rfl⟩
      exact ⟨b, h.subset hb, ⟨hb, hchained⟩, rfl⟩
    · rintro ⟨b, -, ⟨hb, hchained⟩, rfl⟩
      exact ⟨b, hb, hchained, rfl⟩
  obtain ⟨component, -, rfl⟩ := List.mem_map.mp hentity
  obtain ⟨component', -, rfl⟩ := List.mem_map.mp hentity'
  exact stableId_perm _ hsame

end unrelated

/-! ## Records and claims in any order -/

section order

variable [Digest] {entities entities' : List ProviderEntity} {claims claims' : List NormalizedClaim}
  {overrides : IdentityOverrides} {generatedAt : Nat}

/-- A claim about an attribute of the unified entity of `a`. -/
def About (entities : List ProviderEntity) (overrides : IdentityOverrides)
    (claims : List NormalizedClaim) (a : ProviderEntity) (field : ClaimField)
    (item : NormalizedClaim) : Prop :=
  item ∈ claims ∧ (∃ b ∈ entities, Chained entities overrides b a ∧ b.id = item.subjectRef) ∧
    item.field = field ∧ item.value.isSome

/-- Claims about one attribute that are written the same, and not all of them old, claim the same
value of the same type. -/
def SpelledOnce (entities : List ProviderEntity) (claims : List NormalizedClaim)
    (overrides : IdentityOverrides) : Prop :=
  ∀ a ∈ entities, ∀ field ∈ attributeFields, OneSpelling (About entities overrides claims a field)

theorem mem_relevantClaims_iff (hids : (entities.map (·.id)).Nodup) {entity : UnifiedEntity}
    (hentity : entity ∈ (reconcileUnifiedState entities claims overrides generatedAt).entities)
    {a : ProviderEntity} (ha : a ∈ entities) (hmem : a.id ∈ entity.providerEntityIds)
    {field : ClaimField} {item : NormalizedClaim} :
    item ∈ relevantClaims field entity.providerEntityIds claims ↔
      About entities overrides claims a field item := by
  rw [mem_relevantClaims, mem_providerEntityIds_iff_of_mem hids hentity ha hmem]
  exact Iff.rfl

theorem oneSpelling_iff (hids : (entities.map (·.id)).Nodup) {entity : UnifiedEntity}
    (hentity : entity ∈ (reconcileUnifiedState entities claims overrides generatedAt).entities)
    {a : ProviderEntity} (ha : a ∈ entities) (hmem : a.id ∈ entity.providerEntityIds)
    {field : ClaimField} :
    OneSpelling (· ∈ relevantClaims field entity.providerEntityIds claims) ↔
      OneSpelling (About entities overrides claims a field) := by
  unfold OneSpelling
  simp only [mem_relevantClaims_iff hids hentity ha hmem]

omit [Digest] in
theorem resolveAttribute_field (field : ClaimField) (memberIds : List Text)
    (claims : List NormalizedClaim) : (resolveAttribute field memberIds claims).field = field := by
  unfold resolveAttribute
  dsimp only
  split_ifs <;> rfl

theorem unifiedEntity_same (h : claims.Perm claims') {component : List Text}
    (hspelled : ∀ field ∈ attributeFields, OneSpelling (· ∈ relevantClaims field component claims))
    (byId : Text → Option ProviderEntity) (conflictIds candidateIds : List Text) :
    SameEntity (unifiedEntity byId claims conflictIds candidateIds component)
      (unifiedEntity byId claims' conflictIds candidateIds component) := by
  refine ⟨rfl, rfl, rfl, rfl, rfl, .refl _, .refl _, .refl _, .of_forall₂ (.cons ?_ ?_)⟩
  · exact ⟨rfl, rfl, rfl, rfl, .refl _, .refl _⟩
  · rw [List.forall₂_map_left_iff, List.forall₂_map_right_iff, List.forall₂_same]
    exact fun field hfield => resolveAttribute_same h (hspelled field hfield)

theorem reconcileUnifiedState_eq_of_perm (hids : (entities.map (·.id)).Nodup)
    (h : entities.Perm entities') :
    reconcileUnifiedState entities' claims overrides generatedAt
      = { reconcileUnifiedState entities claims overrides generatedAt with
          providerEntities := entities' } := by
  have hcomponents := components_eq_of_perm
    (confirmedEnds_mem hids.of_map overrides generatedAt) h
  have hbyId := funext (find?_id_eq_of_perm hids h)
  unfold reconcileUnifiedState
  unfold decidedLinks at hcomponents
  dsimp only
  rw [← resolve_eq_of_perm hids h generatedAt, ← hcomponents, hbyId]

theorem reconcileUnifiedState_same (hids : (entities.map (·.id)).Nodup)
    (hspelled : SpelledOnce entities claims overrides) (hentities : entities.Perm entities')
    (hclaims : claims.Perm claims') :
    SameState (reconcileUnifiedState entities claims overrides generatedAt)
      (reconcileUnifiedState entities' claims' overrides generatedAt) := by
  rw [reconcileUnifiedState_eq_of_perm hids hentities]
  refine ⟨rfl, ?_, ?_, hentities, hclaims, .refl _, .refl _⟩
  · refine .of_map fun component hcomponent => unifiedEntity_same hclaims (fun field hfield => ?_) _ _ _
    -- some record is in the component, and the claims about it are spelled once
    obtain ⟨entity, hentity, rfl⟩ := @exists_entity_of_component _ _ _ claims _ _ hcomponent
    obtain ⟨hmem, -⟩ := mem_providerEntityIds_iff hids claims overrides generatedAt
    obtain ⟨a, ha, hiff⟩ := hmem _ hentity
    have ha' := (hiff a.id).mpr ⟨a, ha, .refl a, rfl⟩
    exact (oneSpelling_iff hids hentity ha ha').mpr (hspelled a ha field hfield)
  · unfold reconcileUnifiedState
    dsimp only
    rw [List.flatMap_map, List.flatMap_map]
    exact relationships_same hclaims _

omit [Digest] in
/-- One of the relevant claims is given last. -/
theorem relevantClaims_moved {field : ClaimField} {memberIds : List Text} {x : NormalizedClaim}
    (hx : x ∈ relevantClaims field memberIds claims) :
    relevantClaims field memberIds (claims.erase x ++ [x])
      = relevantClaims field memberIds (claims.erase x) ++ [x] := by
  have hp := (List.mem_filter.mp hx).2
  simp only [relevantClaims, List.filter_append]
  rw [List.filter_singleton, hp, cond_true]

/-- The attributes of a unified entity, but for its identity, are resolved over the claims. -/
theorem attributes_eq {entity : UnifiedEntity}
    (hentity : entity ∈ (reconcileUnifiedState entities claims overrides generatedAt).entities) :
    ∃ identity : AttributeResolution, identity.field = .identity ∧
      entity.attributes = identity :: attributeFields.map fun field =>
        resolveAttribute field entity.providerEntityIds claims := by
  obtain ⟨component, -, rfl⟩ := List.mem_map.mp hentity
  exact ⟨_, rfl, rfl⟩

/-- Whatever claim is given last, the attribute has its value. -/
theorem value_eq_of_orderIndependent
    (horder : ∀ claims', claims.Perm claims' →
      SameState (reconcileUnifiedState entities claims overrides generatedAt)
        (reconcileUnifiedState entities claims' overrides generatedAt))
    {entity : UnifiedEntity}
    (hentity : entity ∈ (reconcileUnifiedState entities claims overrides generatedAt).entities)
    {field : ClaimField} (hfield : field ∈ attributeFields) {x : NormalizedClaim}
    (hx : x ∈ relevantClaims field entity.providerEntityIds claims)
    (hfresh : ∃ item ∈ relevantClaims field entity.providerEntityIds claims,
      item.freshness.isOld = false)
    (hwritten : ∀ item ∈ relevantClaims field entity.providerEntityIds claims,
      item.value.map (·.str) = x.value.map (·.str)) :
    (resolveAttribute field entity.providerEntityIds claims).value = x.value := by
  have hmoved : claims.Perm (claims.erase x ++ [x]) := by
    refine (List.perm_cons_erase (mem_relevantClaims.mp hx).1).trans ?_
    exact @List.perm_append_comm _ [x] _
  obtain ⟨entity', hentity', hsame⟩ := (horder _ hmoved).entities.exists_of_mem hentity
  obtain ⟨_, -, hattributes⟩ := attributes_eq hentity
  obtain ⟨identity, hidentity, hattributes'⟩ := attributes_eq hentity'
  have hattribute : resolveAttribute field entity.providerEntityIds claims ∈ entity.attributes := by
    rw [hattributes]
    exact List.mem_cons_of_mem _ (List.mem_map_of_mem hfield)
  obtain ⟨namesake, hmem, hresolved⟩ := hsame.attributes.exists_of_mem hattribute
  -- its namesake is the attribute `field` again
  have hnamesake : namesake
      = resolveAttribute field entity'.providerEntityIds (claims.erase x ++ [x]) := by
    have hname := hresolved.field
    rw [resolveAttribute_field] at hname
    rw [hattributes'] at hmem
    rcases List.mem_cons.mp hmem with rfl | hmem
    · rw [hname, hidentity] at hfield
      exact absurd hfield (by decide)
    · obtain ⟨field', -, rfl⟩ := List.mem_map.mp hmem
      rw [resolveAttribute_field] at hname
      rw [hname]
  have hmembers (item : NormalizedClaim) :
      item ∈ relevantClaims field entity'.providerEntityIds (claims.erase x ++ [x]) ↔
        item ∈ relevantClaims field entity.providerEntityIds claims := by
    rw [mem_relevantClaims, mem_relevantClaims, hmoved.mem_iff, hsame.providerEntityIds.mem_iff]
  have hx' : x ∈ relevantClaims field entity'.providerEntityIds claims := by
    rw [mem_relevantClaims, ← hsame.providerEntityIds.mem_iff]
    exact mem_relevantClaims.mp hx
  rw [hresolved.value, hnamesake]
  refine resolveAttribute_value (relevantClaims_moved hx') ?_ fun item hitem => ?_
  · obtain ⟨item, hitem, hcurrent⟩ := hfresh
    exact ⟨item, (hmembers item).mpr hitem, hcurrent⟩
  · exact hwritten item ((hmembers item).mp hitem)

theorem spelledOnce_of_orderIndependent (hids : (entities.map (·.id)).Nodup)
    (horder : ∀ claims', claims.Perm claims' →
      SameState (reconcileUnifiedState entities claims overrides generatedAt)
        (reconcileUnifiedState entities claims' overrides generatedAt)) :
    SpelledOnce entities claims overrides := by
  intro a ha field hfield
  obtain ⟨-, hcover⟩ := mem_providerEntityIds_iff hids claims overrides generatedAt
  obtain ⟨entity, hentity, hmem⟩ := hcover a ha
  rw [← oneSpelling_iff hids hentity ha hmem]
  intro hfresh hwritten x y hx hy
  have hlast (z : NormalizedClaim) (hz : z ∈ relevantClaims field entity.providerEntityIds claims) :=
    value_eq_of_orderIndependent horder hentity hfield hz hfresh fun item hitem =>
      hwritten item z hitem hz
  exact (hlast x hx).symm.trans (hlast y hy)

end order

/-! ## The contract -/

section contract

variable [Digest]

/-- What callers rely on, for some records, claims and decisions. -/
structure UnifiedContract (entities : List ProviderEntity) (claims : List NormalizedClaim)
    (overrides : IdentityOverrides) (generatedAt : Nat) : Prop where
  partition : Partition entities (reconcileUnifiedState entities claims overrides generatedAt)
  order : ∀ entities' claims', entities.Perm entities' → claims.Perm claims' →
    SameState (reconcileUnifiedState entities claims overrides generatedAt)
      (reconcileUnifiedState entities' claims' overrides generatedAt)
  symmetric : ∀ a b, Mirrored (resolveIdentityPair a b generatedAt)
    (resolveIdentityPair b a generatedAt)
  stable : ∀ entities' claims', Extends entities entities' → ∀ a ∈ entities,
    ∀ entity ∈ (reconcileUnifiedState entities claims overrides generatedAt).entities,
    ∀ entity' ∈ (reconcileUnifiedState entities' claims' overrides generatedAt).entities,
      a.id ∈ entity.providerEntityIds → a.id ∈ entity'.providerEntityIds → entity.id = entity'.id

/-- **The contract of the reconciliation** holds just if claims that are written the same claim the
same value. -/
theorem unifiedContract_iff {entities : List ProviderEntity} (hids : (entities.map (·.id)).Nodup)
    (claims : List NormalizedClaim) (overrides : IdentityOverrides) (generatedAt : Nat) :
    UnifiedContract entities claims overrides generatedAt ↔
      SpelledOnce entities claims overrides := by
  constructor
  · intro h
    exact spelledOnce_of_orderIndependent hids fun claims' => h.order entities claims' (.refl _)
  · intro hspelled
    refine ⟨partition_reconcile hids claims overrides generatedAt, ?_, ?_, ?_⟩
    · exact fun entities' claims' => reconcileUnifiedState_same hids hspelled
    · exact fun a b => resolveIdentityPair_mirrored a b generatedAt
    · intro entities' claims' hextends a ha entity hentity entity' hentity'
      exact hextends.id_eq hids hentity hentity' ha

end contract

/-! ## A VLAN that is text to one provider and a number to the other -/

/-- The claims of both providers about the VLAN of their switch. -/
def vlanClaims : List NormalizedClaim := [
  { id := "claim-1", provider := .catalystIos, subjectRef := "c1", field := .vlan
    value := some (.text "10"), objectRef := none, freshness := .current },
  { id := "claim-2", provider := .merakiDashboard, subjectRef := "m1", field := .vlan
    value := some (.int 10), objectRef := none, freshness := .current }]

/-- Some unified entity shows the value. -/
def Shows (state : UnifiedLabState) (field : ClaimField) (value : ClaimValue) : Prop :=
  ∃ entity ∈ state.entities, ∃ resolved ∈ entity.attributes,
    resolved.field = field ∧ resolved.value = some value

instance (state : UnifiedLabState) (field : ClaimField) (value : ClaimValue) :
    Decidable (Shows state field value) := by
  unfold Shows
  infer_instance

theorem SameState.shows {s t : UnifiedLabState} (h : SameState s t) {field : ClaimField}
    {value : ClaimValue} (hshows : Shows s field value) : Shows t field value := by
  obtain ⟨entity, hentity, resolved, hresolved, hfield, hvalue⟩ := hshows
  obtain ⟨entity', hentity', hsame⟩ := h.entities.exists_of_mem hentity
  obtain ⟨resolved', hresolved', hsame'⟩ := hsame.attributes.exists_of_mem hresolved
  exact ⟨entity', hentity', resolved', hresolved', hsame'.field ▸ hfield, hsame'.value ▸ hvalue⟩

/-- The value that both agree on is the one that was claimed last. -/
theorem not_unifiedContract_vlanClaims :
    (twoRecords.map (·.id)).Nodup ∧ ¬@UnifiedContract plainDigest twoRecords vlanClaims [] 0 := by
  refine ⟨by decide +kernel, fun h => ?_⟩
  have hsame := @UnifiedContract.order plainDigest _ _ _ _ h twoRecords vlanClaims.reverse (.refl _)
    (List.reverse_perm _).symm
  have hshown : Shows (@reconcileUnifiedState plainDigest twoRecords vlanClaims [] 0) .vlan
    (.int 10) := by decide +kernel
  have hnot : ¬Shows (@reconcileUnifiedState plainDigest twoRecords vlanClaims.reverse [] 0) .vlan
    (.int 10) := by decide +kernel
  exact hnot (hsame.shows hshown)

theorem unifiedContract_textClaim :
    @UnifiedContract plainDigest twoRecords (vlanClaims.take 1) [] 0 := by
  refine (@unifiedContract_iff plainDigest twoRecords (by decide +kernel) (vlanClaims.take 1) []
    0).mpr fun a _ field _ _ _ x y hx hy => ?_
  have hone : ∀ z ∈ vlanClaims.take 1, z.value = some (.text "10") := by decide
  rw [hone x hx.1, hone y hy.1]

end SwitchOps
