import SwitchOps.Unified.Reconciliation

/-!
# Which records are merged

What two records are to each other is decided pair by pair (`Agree`, `Disagree`, `Conflicting`),
but unified entities are the classes that the confirmed pairs generate. Reconciliation joins
exactly what a chain of confirmed pairs joins, so whatever a single pair is protected from has to
be protected along chains too, and is not.
-/

namespace SwitchOps

open Relation

/-! ## What the identifiers say -/

/-- Both carry a value of the family. -/
def Agree (family : StrongFamily) (a b : ProviderEntity) : Prop :=
  ∃ value, value ∈ strongTokens a family ∧ value ∈ strongTokens b family

/-- Both report the family, and have no value of it in common. -/
def Disagree (family : StrongFamily) (a b : ProviderEntity) : Prop :=
  strongTokens a family ≠ [] ∧ strongTokens b family ≠ [] ∧ ¬Agree family a b

/-- Both carry a value of the kind. -/
def Shares (kind : IdentifierKind) (a b : ProviderEntity) : Prop :=
  ∃ x ∈ identifiersOf a kind, ∃ y ∈ identifiersOf b kind, x.protectedValue = y.protectedValue

/-- A strong disagreement of records of two providers that something else suggests are one. -/
structure Conflicting (a b : ProviderEntity) : Prop where
  providers : a.provider ≠ b.provider
  disagree : ∃ family, Disagree family a b
  likely : (∃ family, Agree family a b) ∨
    ∃ kind ∈ labelKinds, (isSupporting kind = true ∨ kind = .name) ∧ Shares kind a b

section identifiers

variable {a b : ProviderEntity} {family : StrongFamily} {kind : IdentifierKind}

theorem identifiersOf_eq (a : ProviderEntity) (kind : IdentifierKind) :
    identifiersOf a kind = (a.identifiers.filter (·.admitted)).filter (·.kind = kind) := by
  rw [identifiersOf, byKind, Dict.groupBy, Dict.get?_foldl_append]
  rfl

theorem Agree.symm (h : Agree family a b) : Agree family b a := by
  obtain ⟨value, ha, hb⟩ := h
  exact ⟨value, hb, ha⟩

theorem Disagree.symm (h : Disagree family a b) : Disagree family b a :=
  ⟨h.2.1, h.1, fun hagree => h.2.2 hagree.symm⟩

theorem Shares.symm (h : Shares kind a b) : Shares kind b a := by
  obtain ⟨x, hx, y, hy, heq⟩ := h
  exact ⟨y, hy, x, hx, heq.symm⟩

theorem Conflicting.symm (h : Conflicting a b) : Conflicting b a := by
  obtain ⟨hproviders, ⟨family, hdisagree⟩, hlikely⟩ := h
  refine ⟨hproviders.symm, ⟨family, hdisagree.symm⟩, ?_⟩
  rcases hlikely with ⟨family, hagree⟩ | ⟨kind, hmem, hkind, hshares⟩
  · exact .inl ⟨family, hagree.symm⟩
  · exact .inr ⟨kind, hmem, hkind, hshares.symm⟩

theorem commonValues_eq_nil_iff {left right : List ProviderIdentifier} :
    commonValues left right = [] ↔
      ¬∃ x ∈ left, ∃ y ∈ right, x.protectedValue = y.protectedValue := by
  simp only [commonValues, List.filter_eq_nil_iff, List.mem_map, forall_exists_index, and_imp,
    forall_apply_eq_imp_iff₂, List.elem_eq_mem, decide_eq_true_eq, not_exists, not_and]
  constructor
  · intro h x hx y hy heq
    exact h x hx y hy heq.symm
  · intro h x hx y hy heq
    exact h x hx y hy heq.symm

theorem mem_strongTokens {value : Text} :
    value ∈ strongTokens a family ↔ ∃ x ∈ groupItems a family.kinds, x.protectedValue = value := by
  simp [strongTokens]

theorem strongTokens_eq_nil_iff : strongTokens a family = [] ↔ groupItems a family.kinds = [] := by
  simp [strongTokens]

/-- The strong group of a family. -/
def StrongFamily.group (family : StrongFamily) : IdentifierKind × List IdentifierKind :=
  match family with
  | .serial => (.serial, family.kinds)
  | .hardwareMac => (.chassisMac, family.kinds)

theorem mem_strongGroups {group : IdentifierKind × List IdentifierKind} :
    group ∈ strongGroups ↔ ∃ family, group = StrongFamily.group family := by
  constructor
  · intro h
    simp only [strongGroups, List.mem_cons, List.not_mem_nil, or_false] at h
    rcases h with rfl | rfl
    · exact ⟨.serial, rfl⟩
    · exact ⟨.hardwareMac, rfl⟩
  · rintro ⟨family, rfl⟩
    cases family <;> simp [strongGroups, StrongFamily.group, StrongFamily.kinds]

theorem agree_iff : Agree family a b ↔
    commonValues (groupItems a family.kinds) (groupItems b family.kinds) ≠ [] := by
  rw [ne_eq, commonValues_eq_nil_iff, not_not]
  constructor
  · rintro ⟨value, ha, hb⟩
    obtain ⟨x, hx, rfl⟩ := mem_strongTokens.mp ha
    obtain ⟨y, hy, heq⟩ := mem_strongTokens.mp hb
    exact ⟨x, hx, y, hy, heq.symm⟩
  · rintro ⟨x, hx, y, hy, heq⟩
    exact ⟨_, mem_strongTokens.mpr ⟨x, hx, rfl⟩, mem_strongTokens.mpr ⟨y, hy, heq.symm⟩⟩

theorem strongAgreement_isSome_iff :
    (strongAgreement a b family.group).isSome ↔ Agree family a b := by
  have hkinds : family.group.2 = family.kinds := by cases family <;> rfl
  rw [strongAgreement, hkinds, agree_iff]
  split
  · next hmissing =>
    have hnone : commonValues (groupItems a family.kinds) (groupItems b family.kinds) = [] := by
      rw [commonValues_eq_nil_iff]
      rintro ⟨x, hx, y, hy, -⟩
      simp only [Bool.or_eq_true, List.isEmpty_iff] at hmissing
      rcases hmissing with h | h
      · rw [h] at hx
        cases hx
      · rw [h] at hy
        cases hy
    simp [hnone]
  · split
    · next hempty => simp [List.isEmpty_iff.mp hempty]
    · next hempty => simpa using hempty

theorem strongDisagreement_isSome_iff :
    (strongDisagreement a b family.group).isSome ↔ Disagree family a b := by
  have hkinds : family.group.2 = family.kinds := by cases family <;> rfl
  rw [strongDisagreement, hkinds, Disagree, agree_iff, ne_eq, ne_eq, strongTokens_eq_nil_iff,
    strongTokens_eq_nil_iff]
  split
  · next hmissing =>
    simp only [Bool.or_eq_true, List.isEmpty_iff] at hmissing
    rcases hmissing with h | h <;> simp [h]
  · next hreported =>
    simp only [Bool.or_eq_true, List.isEmpty_iff, not_or] at hreported
    split
    · next hempty => simp [hreported, List.isEmpty_iff.mp hempty]
    · next hempty => simpa [hreported] using hempty

theorem labelAgreement_isSome_iff : (labelAgreement a b kind).isSome ↔ Shares kind a b := by
  have hshares : Shares kind a b ↔
      commonValues (identifiersOf a kind) (identifiersOf b kind) ≠ [] := by
    rw [ne_eq, commonValues_eq_nil_iff, not_not]
    exact Iff.rfl
  rw [labelAgreement]
  split
  · next hmissing =>
    simp only [Bool.or_eq_true, List.isEmpty_iff] at hmissing
    have hnone : ¬Shares kind a b := by
      rintro ⟨x, hx, y, hy, -⟩
      rcases hmissing with h | h
      · rw [h] at hx
        cases hx
      · rw [h] at hy
        cases hy
    simp [hnone]
  · split
    · next hempty => simp [hshares, List.isEmpty_iff.mp hempty]
    · next hempty => simpa [hshares] using hempty

end identifiers

/-! ## A pair of records -/

section pair

variable [Digest] {a b : ProviderEntity} {evaluatedAt : Nat}

/-- Something suggests that the two are one. -/
def Linked (a b : ProviderEntity) : Prop :=
  (∃ family, Agree family a b) ∨ ∃ kind ∈ labelKinds, Shares kind a b

omit [Digest] in
theorem Linked.symm (h : Linked a b) : Linked b a := by
  rcases h with ⟨family, hagree⟩ | ⟨kind, hmem, hshares⟩
  · exact .inl ⟨family, hagree.symm⟩
  · exact .inr ⟨kind, hmem, hshares.symm⟩

omit [Digest] in
theorem agreements_ne_nil_iff :
    strongGroups.filterMap (strongAgreement a b) ≠ [] ↔ ∃ family, Agree family a b := by
  rw [ne_eq, List.filterMap_eq_nil_iff]
  constructor
  · intro h
    push Not at h
    obtain ⟨group, hgroup, hsome⟩ := h
    obtain ⟨family, rfl⟩ := mem_strongGroups.mp hgroup
    exact ⟨family, strongAgreement_isSome_iff.mp (Option.isSome_iff_ne_none.mpr hsome)⟩
  · rintro ⟨family, hagree⟩ hall
    have hnone := hall family.group (mem_strongGroups.mpr ⟨family, rfl⟩)
    have hsome := strongAgreement_isSome_iff.mpr hagree
    simp [hnone] at hsome

omit [Digest] in
theorem disagreements_ne_nil_iff :
    strongGroups.filterMap (strongDisagreement a b) ≠ [] ↔ ∃ family, Disagree family a b := by
  rw [ne_eq, List.filterMap_eq_nil_iff]
  constructor
  · intro h
    push Not at h
    obtain ⟨group, hgroup, hsome⟩ := h
    obtain ⟨family, rfl⟩ := mem_strongGroups.mp hgroup
    exact ⟨family, strongDisagreement_isSome_iff.mp (Option.isSome_iff_ne_none.mpr hsome)⟩
  · rintro ⟨family, hdisagree⟩ hall
    have hnone := hall family.group (mem_strongGroups.mpr ⟨family, rfl⟩)
    have hsome := strongDisagreement_isSome_iff.mpr hdisagree
    simp [hnone] at hsome

omit [Digest] in
theorem labels_ne_nil_iff :
    labelKinds.filterMap (labelAgreement a b) ≠ [] ↔ ∃ kind ∈ labelKinds, Shares kind a b := by
  rw [ne_eq, List.filterMap_eq_nil_iff]
  push Not
  constructor
  · rintro ⟨kind, hmem, hsome⟩
    exact ⟨kind, hmem, labelAgreement_isSome_iff.mp (Option.isSome_iff_ne_none.mpr hsome)⟩
  · rintro ⟨kind, hmem, hshares⟩
    exact ⟨kind, hmem, Option.isSome_iff_ne_none.mp (labelAgreement_isSome_iff.mpr hshares)⟩

omit [Digest] in
/-- What a label reason is about, and how strong it is. -/
theorem labelAgreement_some {kind : IdentifierKind} {reason : IdentityReason}
    (h : labelAgreement a b kind = some reason) :
    reason.field = .identifier kind ∧
      reason.kind = (if isSupporting kind then .support else .hint) ∧
      reason.strength = (if isSupporting kind then .supporting else .weak) := by
  unfold labelAgreement at h
  dsimp only at h
  split at h
  · cases h
  · split at h
    · cases h
    · cases h
      exact ⟨rfl, rfl, rfl⟩

omit [Digest] in
theorem strongAgreement_some {group : IdentifierKind × List IdentifierKind} {reason : IdentityReason}
    (h : strongAgreement a b group = some reason) : reason.kind = .agreement := by
  unfold strongAgreement at h
  dsimp only at h
  split at h
  · cases h
  · split at h
    · cases h
    · cases h
      rfl

omit [Digest] in
theorem supported_iff :
    ((labelKinds.filterMap (labelAgreement a b)).any fun reason => reason.strength == .supporting)
      = true ↔ ∃ kind ∈ labelKinds, isSupporting kind = true ∧ Shares kind a b := by
  rw [List.any_eq_true]
  constructor
  · rintro ⟨reason, hreason, hstrength⟩
    obtain ⟨kind, hmem, hsome⟩ := List.mem_filterMap.mp hreason
    obtain ⟨-, -, heq⟩ := labelAgreement_some hsome
    refine ⟨kind, hmem, ?_, labelAgreement_isSome_iff.mp (by rw [hsome]; rfl)⟩
    rw [beq_iff_eq, heq] at hstrength
    split at hstrength
    · assumption
    · cases hstrength
  · rintro ⟨kind, hmem, hsupporting, hshares⟩
    obtain ⟨reason, hsome⟩ := Option.isSome_iff_exists.mp (labelAgreement_isSome_iff.mpr hshares)
    refine ⟨reason, List.mem_filterMap.mpr ⟨kind, hmem, hsome⟩, ?_⟩
    rw [(labelAgreement_some hsome).2.2, if_pos hsupporting]
    rfl

omit [Digest] in
theorem named_iff :
    ((strongGroups.filterMap (strongAgreement a b) ++ labelKinds.filterMap (labelAgreement a b)).any
      fun reason => reason.field == .identifier .name && reason.kind == .hint) = true
      ↔ Shares .name a b := by
  rw [List.any_eq_true]
  constructor
  · rintro ⟨reason, hreason, hname⟩
    simp only [Bool.and_eq_true, beq_iff_eq] at hname
    rcases List.mem_append.mp hreason with hreason | hreason
    · -- a strong agreement is no hint
      obtain ⟨group, -, hsome⟩ := List.mem_filterMap.mp hreason
      rw [strongAgreement_some hsome] at hname
      cases hname.2
    · obtain ⟨kind, -, hsome⟩ := List.mem_filterMap.mp hreason
      have hfield := (labelAgreement_some hsome).1
      rw [hname.1] at hfield
      cases hfield
      exact labelAgreement_isSome_iff.mp (by rw [hsome]; rfl)
  · intro hshares
    obtain ⟨reason, hsome⟩ := Option.isSome_iff_exists.mp (labelAgreement_isSome_iff.mpr hshares)
    refine ⟨reason, List.mem_append_right _ (List.mem_filterMap.mpr ⟨.name, by decide, hsome⟩), ?_⟩
    obtain ⟨hfield, hkind, -⟩ := labelAgreement_some hsome
    rw [hfield, hkind]
    rfl

omit [Digest] in
theorem plausible_iff :
    (!(strongGroups.filterMap (strongAgreement a b)).isEmpty
      || ((labelKinds.filterMap (labelAgreement a b)).any fun reason =>
        reason.strength == .supporting)
      || ((strongGroups.filterMap (strongAgreement a b)
          ++ labelKinds.filterMap (labelAgreement a b)).any fun reason =>
        reason.field == .identifier .name && reason.kind == .hint)) = true ↔
      (∃ family, Agree family a b) ∨
        ∃ kind ∈ labelKinds, (isSupporting kind = true ∨ kind = .name) ∧ Shares kind a b := by
  rw [Bool.or_eq_true, Bool.or_eq_true, supported_iff, named_iff, Bool.not_eq_true',
    List.isEmpty_eq_false_iff, agreements_ne_nil_iff, or_assoc]
  refine or_congr Iff.rfl ⟨?_, ?_⟩
  · rintro (⟨kind, hmem, hsupporting, hshares⟩ | hshares)
    · exact ⟨kind, hmem, .inl hsupporting, hshares⟩
    · exact ⟨.name, by decide, .inr rfl, hshares⟩
  · rintro ⟨kind, hmem, hsupporting | rfl, hshares⟩
    · exact .inl ⟨kind, hmem, hsupporting, hshares⟩
    · exact .inr hshares

/-- What `resolve_identity_pair` finds. -/
inductive Resolved (a b : ProviderEntity) : IdentityLinkState → List IdentityConflict → Prop
  | sameProvider : a.provider = b.provider → Resolved a b .rejected []
  | conflicted {conflicts} : Conflicting a b → conflicts ≠ [] →
      (∀ conflict ∈ conflicts, conflict.leftEntityId = a.id ∧ conflict.rightEntityId = b.id) →
      Resolved a b .conflicted conflicts
  | confirmed : a.provider ≠ b.provider → ¬Conflicting a b → (∃ family, Agree family a b) →
      Resolved a b .confirmed []
  | candidate : a.provider ≠ b.provider → ¬Conflicting a b → (¬∃ family, Agree family a b) →
      Linked a b → Resolved a b .candidate []
  | unrelated : a.provider ≠ b.provider → ¬Conflicting a b → ¬Linked a b → Resolved a b .rejected []

theorem resolveIdentityPair_resolved (a b : ProviderEntity) (evaluatedAt : Nat) :
    Resolved a b (resolveIdentityPair a b evaluatedAt).1.state
      (resolveIdentityPair a b evaluatedAt).2 := by
  unfold resolveIdentityPair
  dsimp only
  split
  · next hsame => exact .sameProvider hsame
  next hproviders =>
  have hagreements := agreements_ne_nil_iff (a := a) (b := b)
  have hdisagreements := disagreements_ne_nil_iff (a := a) (b := b)
  have hlabels := labels_ne_nil_iff (a := a) (b := b)
  have hlikely := plausible_iff (a := a) (b := b)
  split
  · next hconflict =>
    simp only [Bool.and_eq_true, Bool.not_eq_true', List.isEmpty_eq_false_iff] at hconflict
    refine .conflicted ⟨hproviders, hdisagreements.mp hconflict.1, hlikely.mp hconflict.2⟩ ?_ ?_
    · simpa using hconflict.1
    · intro conflict hmem
      obtain ⟨disagreement, -, rfl⟩ := List.mem_map.mp hmem
      exact ⟨rfl, rfl⟩
  next hquiet =>
  have hnone : ¬Conflicting a b := by
    intro h
    apply hquiet
    rw [hlikely.mpr h.likely, Bool.and_true]
    simpa using hdisagreements.mpr h.disagree
  split
  · next hagree =>
    exact .confirmed hproviders hnone (hagreements.mp (by simpa using hagree))
  next hdisjoint =>
  have hapart : ¬∃ family, Agree family a b := fun h => hdisjoint (by simpa using hagreements.mpr h)
  split
  · next hlabelled =>
    exact .candidate hproviders hnone hapart (.inr (hlabels.mp (by simpa using hlabelled)))
  · next hbare =>
    refine .unrelated hproviders hnone fun hlinked => ?_
    rcases hlinked with h | h
    · exact hapart h
    · exact hbare (by simpa using hlabels.mpr h)

end pair

/-! ## Tokens that one record alone carries -/

/-- Of its provider's records, `a` is the only one with this value. -/
def Sole (entities : List ProviderEntity) (family : StrongFamily) (value : Text)
    (a : ProviderEntity) : Prop :=
  ∀ e ∈ entities, e.provider = a.provider → value ∈ strongTokens e family → e = a

/-- The keys under which `strong_counts` counts an entity. -/
def tokenKeys (entity : ProviderEntity) : List (ProviderKind × StrongFamily × Text) :=
  [StrongFamily.serial, .hardwareMac].flatMap fun family =>
    (strongTokens entity family).map fun value => (entity.provider, family, value)

section counts

variable {entities : List ProviderEntity} {a : ProviderEntity} {provider : ProviderKind}
  {family : StrongFamily} {value : Text}

theorem mem_tokenKeys :
    (provider, family, value) ∈ tokenKeys a ↔
      a.provider = provider ∧ value ∈ strongTokens a family := by
  cases family <;> simp [tokenKeys, and_comm]

theorem nodup_tokenKeys (a : ProviderEntity) : (tokenKeys a).Nodup := by
  have hinjective (family : StrongFamily) :
      ((strongTokens a family).map fun value => (a.provider, family, value)).Nodup := by
    refine (List.nodup_dedup _).map fun x y hxy => ?_
    simpa using hxy
  simp only [tokenKeys, List.flatMap_cons, List.flatMap_nil, List.append_nil]
  refine List.nodup_append.mpr ⟨hinjective _, hinjective _, fun x hx y hy hxy => ?_⟩
  subst hxy
  obtain ⟨_, -, rfl⟩ := List.mem_map.mp hx
  obtain ⟨_, -, heq⟩ := List.mem_map.mp hy
  cases heq

theorem strongCounts_eq (ordered : List ProviderEntity)
    (counts : Dict (ProviderKind × StrongFamily × Text) Nat) :
    ordered.foldl (fun counts entity =>
      [StrongFamily.serial, .hardwareMac].foldl (fun counts family =>
        (strongTokens entity family).foldl (fun counts value =>
          let key := (entity.provider, family, value)
          Dict.set counts key ((Dict.get? counts key).getD 0 + 1)) counts) counts) counts
      = (ordered.flatMap tokenKeys).foldl
        (fun counts key => Dict.set counts key ((Dict.get? counts key).getD 0 + 1)) counts := by
  induction ordered generalizing counts with
  | nil => rfl
  | cons entity ordered ih =>
    rw [List.foldl_cons, ih, List.flatMap_cons, List.foldl_append]
    simp [tokenKeys, List.foldl_append, List.foldl_map]

/-- What is counted: the records of the provider that carry the token. -/
theorem count_eq {ordered : List ProviderEntity} (hperm : ordered.Perm entities) :
    (Dict.get? (strongCounts ordered) (provider, family, value)).getD 0
      = (entities.filter fun e => e.provider = provider ∧ value ∈ strongTokens e family).length := by
  rw [strongCounts, strongCounts_eq, Dict.get?_foldl_count, Dict.get?_nil,
    List.count_flatMap_of_nodup nodup_tokenKeys, ← (hperm.filter _).length_eq, Option.getD_none,
    Nat.zero_add]
  congr 1
  refine List.filter_congr fun e _ => ?_
  simp [mem_tokenKeys]

/-- A count of one is a token of one record alone. -/
theorem count_eq_one_iff {ordered : List ProviderEntity} (hperm : ordered.Perm entities)
    (hnodup : entities.Nodup) (ha : a ∈ entities) (hvalue : value ∈ strongTokens a family) :
    (Dict.get? (strongCounts ordered) (a.provider, family, value)).getD 0 = 1 ↔
      Sole entities family value a := by
  rw [count_eq hperm, List.length_filter_eq_one_iff hnodup ha (by simpa using hvalue)]
  simp only [decide_eq_true_eq, Sole, and_imp]

end counts

/-! ## The pairs that are joined -/

/-- Two records of different providers that are not in conflict share a strong value which no
other record of either provider carries. -/
structure Confirms (entities : List ProviderEntity) (a b : ProviderEntity) : Prop where
  providers : a.provider ≠ b.provider
  quiet : ¬Conflicting a b
  sole : ∃ family value, value ∈ strongTokens a family ∧ value ∈ strongTokens b family ∧
    Sole entities family value a ∧ Sole entities family value b

theorem Confirms.symm {entities : List ProviderEntity} {a b : ProviderEntity}
    (h : Confirms entities a b) : Confirms entities b a := by
  obtain ⟨hproviders, hquiet, family, value, ha, hb, hsole, hsole'⟩ := h
  exact ⟨hproviders.symm, fun hb => hquiet hb.symm, family, value, hb, ha, hsole', hsole⟩

section pairs

variable [Digest] {entities : List ProviderEntity} {a b : ProviderEntity}

/-- The id of the link between two records. -/
def linkId (a b : ProviderEntity) : Text := stableId "identity-link" [a.id, b.id]

theorem linkId_symm (a b : ProviderEntity) : linkId a b = linkId b a := by
  rw [linkId, linkId, stableId, stableId, Text.insertionSort_swap]

/-- Two records are joined: confirmed by the operator although only something suggests it, or
confirmed by a strong value and not rejected by the operator. -/
def Joined (entities : List ProviderEntity) (overrides : IdentityOverrides)
    (a b : ProviderEntity) : Prop :=
  match Dict.get? overrides (linkId a b) with
  | none => Confirms entities a b
  | some (decision, _) =>
    if decision = "confirm".toList then
      a.provider ≠ b.provider ∧ ¬Conflicting a b ∧ Linked a b
    else if decision = "reject".toList then False
    else Confirms entities a b

theorem Joined.symm {overrides : IdentityOverrides} (h : Joined entities overrides a b) :
    Joined entities overrides b a := by
  unfold Joined at h ⊢
  rw [linkId_symm b a]
  cases hget : Dict.get? overrides (linkId a b) with
  | none =>
    rw [hget] at h
    exact Confirms.symm h
  | some override =>
    rw [hget] at h
    dsimp only at h ⊢
    by_cases hconfirm : override.1 = "confirm".toList
    · rw [if_pos hconfirm] at h ⊢
      exact ⟨h.1.symm, fun hb => h.2.1 hb.symm, h.2.2.symm⟩
    · rw [if_neg hconfirm] at h ⊢
      by_cases hreject : override.1 = "reject".toList
      · rw [if_pos hreject] at h
        exact h.elim
      · rw [if_neg hreject] at h ⊢
        exact h.symm

theorem Joined.providers {overrides : IdentityOverrides} (h : Joined entities overrides a b) :
    a.provider ≠ b.provider := by
  unfold Joined at h
  split at h
  · exact h.providers
  · split at h
    · exact h.1
    · split at h
      · exact h.elim
      · exact h.providers

omit [Digest] in
theorem uniqueAgreement_iff {ordered : List ProviderEntity} (hperm : ordered.Perm entities)
    (hnodup : entities.Nodup) (ha : a ∈ entities) (hb : b ∈ entities) :
    uniqueAgreement (strongCounts ordered) a b = true ↔
      ∃ family value, value ∈ strongTokens a family ∧ value ∈ strongTokens b family ∧
        Sole entities family value a ∧ Sole entities family value b := by
  unfold uniqueAgreement
  simp only [List.any_eq_true, Bool.and_eq_true, beq_iff_eq, sharedTokens, List.mem_filter,
    List.elem_eq_mem, decide_eq_true_eq]
  constructor
  · rintro ⟨family, -, value, ⟨hva, hvb⟩, hcount, hcount'⟩
    exact ⟨family, value, hva, hvb, (count_eq_one_iff hperm hnodup ha hva).mp hcount,
      (count_eq_one_iff hperm hnodup hb hvb).mp hcount'⟩
  · rintro ⟨family, value, hva, hvb, hsole, hsole'⟩
    exact ⟨family, by cases family <;> simp, value, ⟨hva, hvb⟩,
      (count_eq_one_iff hperm hnodup ha hva).mpr hsole,
      (count_eq_one_iff hperm hnodup hb hvb).mpr hsole'⟩

/-- The link that the loop over pairs keeps. -/
structure KeptLink (entities : List ProviderEntity) (a b : ProviderEntity) (link : IdentityLink) :
    Prop where
  id : link.id = linkId a b
  left : link.leftEntityId = a.id
  right : link.rightEntityId = b.id
  linked : link.state ≠ .conflicted → a.provider ≠ b.provider ∧ ¬Conflicting a b ∧ Linked a b
  conflicted : link.state = .conflicted → Conflicting a b
  confirmed : link.state = .confirmed ↔ Confirms entities a b

theorem resolveIdentityPair_ends (a b : ProviderEntity) (evaluatedAt : Nat) :
    (resolveIdentityPair a b evaluatedAt).1.id = linkId a b ∧
      (resolveIdentityPair a b evaluatedAt).1.leftEntityId = a.id ∧
      (resolveIdentityPair a b evaluatedAt).1.rightEntityId = b.id := by
  unfold resolveIdentityPair
  dsimp only
  split_ifs <;> exact ⟨rfl, rfl, rfl⟩

theorem resolveOrdered_link {ordered : List ProviderEntity} (hperm : ordered.Perm entities)
    (hnodup : entities.Nodup) (ha : a ∈ entities) (hb : b ∈ entities) (evaluatedAt : Nat) :
    (∀ link, (resolveOrdered (strongCounts ordered) a b evaluatedAt).1 = some link →
      KeptLink entities a b link) ∧
    ((resolveOrdered (strongCounts ordered) a b evaluatedAt).1 = none →
      a.provider = b.provider ∨ ¬Conflicting a b ∧ ¬Linked a b) := by
  have hunique := uniqueAgreement_iff hperm hnodup ha hb
  obtain ⟨hid, hleft, hright⟩ := resolveIdentityPair_ends a b evaluatedAt
  have hresolved := resolveIdentityPair_resolved a b evaluatedAt
  unfold resolveOrdered
  by_cases hproviders : a.provider = b.provider
  · rw [if_pos hproviders]
    exact ⟨fun link h => by simp at h, fun _ => .inl hproviders⟩
  rw [if_neg hproviders]
  generalize resolveIdentityPair a b evaluatedAt = result at hid hleft hright hresolved ⊢
  obtain ⟨link, conflicts⟩ := result
  dsimp only at hid hleft hright hresolved ⊢
  have hdemoted (hsole : uniqueAgreement (strongCounts ordered) a b = false) :
      IdentityLinkState.confirmed = .confirmed ∧ uniqueAgreement (strongCounts ordered) a b = false :=
    ⟨rfl, hsole⟩
  have hkept (hsole : ¬uniqueAgreement (strongCounts ordered) a b = false) :
      ¬(IdentityLinkState.confirmed = .confirmed ∧
        uniqueAgreement (strongCounts ordered) a b = false) := fun h => hsole h.2
  generalize hstate : link.state = state at hresolved
  cases hresolved with
  | sameProvider hsame => exact absurd hsame hproviders
  | conflicted hconflicting _ _ =>
    rw [if_neg (by simp [hstate]), if_neg (by simp)]
    refine ⟨fun link' h => ?_, fun h => by simp at h⟩
    cases h
    refine ⟨hid, hleft, hright, fun h => absurd hstate h, fun _ => hconflicting, ?_⟩
    rw [hstate]
    exact ⟨fun h => by simp at h, fun h => absurd hconflicting h.quiet⟩
  | confirmed _ hquiet hagree =>
    by_cases hsole : uniqueAgreement (strongCounts ordered) a b = false
    · rw [if_pos (hdemoted hsole), if_neg (by simp)]
      refine ⟨fun link' h => ?_, fun h => by simp at h⟩
      cases h
      refine ⟨hid, hleft, hright, fun _ => ⟨hproviders, hquiet, .inl hagree⟩, fun h => by simp at h, ?_⟩
      refine ⟨fun h => by simp at h, fun h => ?_⟩
      rw [hunique.mpr h.sole] at hsole
      cases hsole
    · rw [if_neg (hkept hsole), if_neg (by simp [hstate])]
      refine ⟨fun link' h => ?_, fun h => by simp at h⟩
      cases h
      refine ⟨hid, hleft, hright, fun _ => ⟨hproviders, hquiet, .inl hagree⟩,
        fun h => by simp [hstate] at h, fun _ => ?_, fun _ => hstate⟩
      exact ⟨hproviders, hquiet, hunique.mp (by simpa using hsole)⟩
  | candidate _ hquiet hapart hlinked =>
    rw [if_neg (by simp [hstate]), if_neg (by simp)]
    refine ⟨fun link' h => ?_, fun h => by simp at h⟩
    cases h
    refine ⟨hid, hleft, hright, fun _ => ⟨hproviders, hquiet, hlinked⟩,
      fun h => by simp [hstate] at h, ?_⟩
    rw [hstate]
    refine ⟨fun h => by simp at h, fun h => ?_⟩
    obtain ⟨family, value, hva, hvb, -, -⟩ := h.sole
    exact absurd ⟨family, value, hva, hvb⟩ hapart
  | unrelated _ hquiet hunlinked =>
    have hother : ¬(IdentityLinkState.rejected = .confirmed ∧
        uniqueAgreement (strongCounts ordered) a b = false) := by simp
    rw [if_neg hother, if_pos hstate]
    exact ⟨fun link' h => by simp at h, fun _ => .inr ⟨hquiet, hunlinked⟩⟩

theorem resolveOrdered_conflicts (counts : Dict (ProviderKind × StrongFamily × Text) Nat)
    (evaluatedAt : Nat) :
    (∀ conflict ∈ (resolveOrdered counts a b evaluatedAt).2,
      Conflicting a b ∧ conflict.leftEntityId = a.id ∧ conflict.rightEntityId = b.id) ∧
    (Conflicting a b → (resolveOrdered counts a b evaluatedAt).2 ≠ []) := by
  have hresolved := resolveIdentityPair_resolved a b evaluatedAt
  unfold resolveOrdered
  by_cases hproviders : a.provider = b.provider
  · rw [if_pos hproviders]
    exact ⟨fun conflict h => by simp at h, fun h => absurd hproviders h.providers⟩
  rw [if_neg hproviders]
  generalize resolveIdentityPair a b evaluatedAt = result at hresolved ⊢
  obtain ⟨link, conflicts⟩ := result
  dsimp only at hresolved ⊢
  generalize link.state = state at hresolved
  cases hresolved with
  | sameProvider hsame => exact absurd hsame hproviders
  | conflicted hconflicting hne hends =>
    exact ⟨fun conflict h => ⟨hconflicting, hends conflict h⟩, fun _ => hne⟩
  | confirmed _ hquiet _ | candidate _ hquiet _ _ | unrelated _ hquiet _ =>
    exact ⟨fun conflict h => by simp at h, fun h => absurd h hquiet⟩

/-! ### The decisions of the operator -/

omit [Digest] in
theorem applyOverride_ends (overrides : IdentityOverrides) (link : IdentityLink) :
    (applyOverride overrides link).leftEntityId = link.leftEntityId ∧
      (applyOverride overrides link).rightEntityId = link.rightEntityId := by
  unfold applyOverride
  dsimp only
  split
  · exact ⟨rfl, rfl⟩
  · split_ifs <;> exact ⟨rfl, rfl⟩

/-- A kept link is confirmed in the end just if the two records are joined. -/
theorem applyOverride_confirmed_iff {link : IdentityLink} (h : KeptLink entities a b link)
    (overrides : IdentityOverrides) :
    (applyOverride overrides link).state = .confirmed ↔ Joined entities overrides a b := by
  unfold applyOverride Joined
  rw [h.id]
  cases Dict.get? overrides (linkId a b) with
  | none => exact h.confirmed
  | some override =>
    dsimp only
    by_cases hstate : link.state = .conflicted
    · -- a conflict is never waived, and its records are not joined
      have hconflicting := h.conflicted hstate
      rw [if_pos hstate, hstate]
      refine ⟨fun h => by simp at h, fun hjoined => ?_⟩
      by_cases hconfirm : override.1 = "confirm".toList
      · rw [if_pos hconfirm] at hjoined
        exact absurd hconflicting hjoined.2.1
      · rw [if_neg hconfirm] at hjoined
        by_cases hreject : override.1 = "reject".toList
        · rw [if_pos hreject] at hjoined
          exact hjoined.elim
        · rw [if_neg hreject] at hjoined
          exact absurd hconflicting hjoined.quiet
    · rw [if_neg hstate]
      by_cases hconfirm : override.1 = "confirm".toList
      · rw [if_pos hconfirm, if_pos hconfirm]
        exact ⟨fun _ => h.linked hstate, fun _ => rfl⟩
      · rw [if_neg hconfirm, if_neg hconfirm]
        by_cases hreject : override.1 = "reject".toList
        · rw [if_pos hreject, if_pos hreject]
          exact ⟨fun h => by simp at h, False.elim⟩
        · rw [if_neg hreject, if_neg hreject]
          exact h.confirmed

theorem Joined.linked {overrides : IdentityOverrides} (h : Joined entities overrides a b) :
    ¬Conflicting a b ∧ Linked a b := by
  have hconfirms (h : Confirms entities a b) : ¬Conflicting a b ∧ Linked a b := by
    obtain ⟨_, hquiet, family, value, hva, hvb, -, -⟩ := h
    exact ⟨hquiet, .inl ⟨family, value, hva, hvb⟩⟩
  unfold Joined at h
  split at h
  · exact hconfirms h
  · split at h
    · exact h.2
    · split at h
      · exact h.elim
      · exact hconfirms h

omit [Digest] in
theorem mem_pairsOf {α : Type} {l : List α} (hnodup : l.Nodup) {x y : α} :
    ((x, y) ∈ pairsOf l → x ∈ l ∧ y ∈ l) ∧
      (x ∈ l → y ∈ l → x ≠ y → (x, y) ∈ pairsOf l ∨ (y, x) ∈ pairsOf l) := by
  induction l with
  | nil => exact ⟨fun h => by simp [pairsOf] at h, fun h => by simp at h⟩
  | cons z l ih =>
    obtain ⟨-, hrest⟩ := List.nodup_cons.mp hnodup
    obtain ⟨ihmem, ihpair⟩ := ih hrest
    constructor
    · intro h
      rcases List.mem_append.mp h with h | h
      · obtain ⟨w, hw, heq⟩ := List.mem_map.mp h
        cases heq
        exact ⟨List.mem_cons_self, List.mem_cons_of_mem _ hw⟩
      · obtain ⟨hx, hy⟩ := ihmem h
        exact ⟨List.mem_cons_of_mem _ hx, List.mem_cons_of_mem _ hy⟩
    · intro hx hy hne
      rcases List.mem_cons.mp hx with rfl | hx'
      · rcases List.mem_cons.mp hy with rfl | hy'
        · exact absurd rfl hne
        · exact .inl (List.mem_append_left _ (List.mem_map_of_mem hy'))
      · rcases List.mem_cons.mp hy with rfl | hy'
        · exact .inr (List.mem_append_left _ (List.mem_map_of_mem hx'))
        · exact (ihpair hx' hy' hne).imp (List.mem_append_right _) (List.mem_append_right _)

/-- The entities in the order in which they are paired. -/
def ordered (entities : List ProviderEntity) : List ProviderEntity :=
  entities.insertionSort (entityLe · ·)

omit [Digest] in
theorem ordered_perm (entities : List ProviderEntity) : (ordered entities).Perm entities :=
  List.perm_insertionSort _ _

/-- The links after the decisions of the operator. -/
def decidedLinks (entities : List ProviderEntity) (overrides : IdentityOverrides)
    (evaluatedAt : Nat) : List IdentityLink :=
  (resolveCrossProviderIdentities entities evaluatedAt).1.map (applyOverride overrides)

/-- The ends of the confirmed links. -/
def confirmedEnds (links : List IdentityLink) : List (Text × Text) :=
  (links.filter (·.state = .confirmed)).map fun link => (link.leftEntityId, link.rightEntityId)

/-- **The confirmed links** are the pairs that are joined. -/
theorem mem_confirmedEnds_iff (hnodup : entities.Nodup) (overrides : IdentityOverrides)
    (evaluatedAt : Nat) {x y : Text} :
    (x, y) ∈ confirmedEnds (decidedLinks entities overrides evaluatedAt) ↔
      ∃ a b, (a, b) ∈ pairsOf (ordered entities) ∧ Joined entities overrides a b ∧
        a.id = x ∧ b.id = y := by
  have hperm := ordered_perm entities
  have hends {a b : ProviderEntity} (hpair : (a, b) ∈ pairsOf (ordered entities)) :
      a ∈ entities ∧ b ∈ entities := by
    obtain ⟨ha, hb⟩ := (mem_pairsOf (hperm.nodup_iff.mpr hnodup)).1 hpair
    exact ⟨hperm.mem_iff.mp ha, hperm.mem_iff.mp hb⟩
  constructor
  · intro h
    obtain ⟨decided, hdecided, heq⟩ := List.mem_map.mp h
    obtain ⟨hdecided, hstate⟩ := List.mem_filter.mp hdecided
    obtain ⟨link, hlink, rfl⟩ := List.mem_map.mp hdecided
    obtain ⟨resolved, hresolved, hsome⟩ := List.mem_filterMap.mp hlink
    obtain ⟨⟨a, b⟩, hpair, rfl⟩ := List.mem_map.mp hresolved
    obtain ⟨ha, hb⟩ := hends hpair
    have hkept := (resolveOrdered_link hperm hnodup ha hb evaluatedAt).1 link hsome
    obtain ⟨hleft, hright⟩ := applyOverride_ends overrides link
    cases heq
    refine ⟨a, b, hpair, ?_, ?_, ?_⟩
    · exact (applyOverride_confirmed_iff hkept overrides).mp (by simpa using hstate)
    · rw [hleft, hkept.left]
    · rw [hright, hkept.right]
  · rintro ⟨a, b, hpair, hjoined, rfl, rfl⟩
    obtain ⟨ha, hb⟩ := hends hpair
    obtain ⟨hsome, hnone⟩ := resolveOrdered_link hperm hnodup ha hb evaluatedAt
    cases hlink : (resolveOrdered (strongCounts (ordered entities)) a b evaluatedAt).1 with
    | none =>
      rcases hnone hlink with hsame | ⟨-, hunlinked⟩
      · exact absurd hsame hjoined.providers
      · exact absurd hjoined.linked.2 hunlinked
    | some link =>
      have hkept := hsome link hlink
      obtain ⟨hleft, hright⟩ := applyOverride_ends overrides link
      refine List.mem_map.mpr ⟨applyOverride overrides link, List.mem_filter.mpr ⟨?_, ?_⟩, ?_⟩
      · refine List.mem_map_of_mem (List.mem_filterMap.mpr ⟨_, List.mem_map_of_mem hpair, hlink⟩)
      · simpa using (applyOverride_confirmed_iff hkept overrides).mpr hjoined
      · rw [hleft, hright, hkept.left, hkept.right]

end pairs

/-! ## Components -/

section components

variable {entities : List ProviderEntity}

theorem groupByRoot_eq {keys : List Text} {fuel : Nat} {parents later : Text → Text}
    (h : UnionFind.Kept keys parents later) (hparents : UnionFind.Descends keys parents)
    (hmem : ∀ entity ∈ entities, entity.id ∈ keys) (hfuel : keys.length ≤ fuel) :
    groupByRoot fuel entities later
      = entities.map fun entity => ((UnionFind.find fuel parents entity.id).1, entity.id) := by
  induction entities generalizing later with
  | nil => rfl
  | cons entity entities ih =>
    have hid := hmem entity List.mem_cons_self
    have hfirst : groupByRoot fuel (entity :: entities) later
        = ((UnionFind.find fuel later entity.id).1, entity.id) ::
          groupByRoot fuel entities (UnionFind.find fuel later entity.id).2 := rfl
    rw [hfirst, List.map_cons, ← h.find_eq hparents hid hfuel,
      ih (h.find hid hfuel) fun e he => hmem e (List.mem_cons_of_mem _ he)]

/-- The root of a record, once the ends of the confirmed links are joined. -/
def rootOf (fuel : Nat) (links : List IdentityLink) (id : Text) : Text :=
  (UnionFind.find fuel (UnionFind.joinAll fuel (fun x => x) (confirmedEnds links)) id).1

/-- The components are the groups of records with one root. -/
theorem components_eq (links : List IdentityLink)
    (hends : ∀ pair ∈ confirmedEnds links,
      pair.1 ∈ entities.map (·.id) ∧ pair.2 ∈ entities.map (·.id)) :
    components entities links
      = ((Dict.groupBy (·.1) (entities.map fun e => (rootOf entities.length links e.id, e.id)))
          |>.insertionSort (Text.le ·.1 ·.1)).map
          fun group => (group.2.map (·.2)).insertionSort (Text.le · ·) := by
  have hfuel : (entities.map (·.id)).length ≤ entities.length := by simp
  have hjoined := (UnionFind.same_joinAll (UnionFind.Descends.id _) hends hfuel).1
  have hmem : ∀ entity ∈ entities, entity.id ∈ entities.map (·.id) := fun _ => List.mem_map_of_mem
  have hroots : groupByRoot entities.length entities
      (UnionFind.joinAll entities.length (fun x => x) (confirmedEnds links))
      = entities.map fun e => (rootOf entities.length links e.id, e.id) :=
    groupByRoot_eq (UnionFind.Kept.refl hjoined) hjoined hmem hfuel
  rw [← hroots]
  rfl

/-- What a component is: the records of one root. -/
theorem mem_components_iff (links : List IdentityLink)
    (hends : ∀ pair ∈ confirmedEnds links,
      pair.1 ∈ entities.map (·.id) ∧ pair.2 ∈ entities.map (·.id)) :
    ∃ root : Text → Text,
      (∀ a ∈ entities, ∀ b ∈ entities, root a.id = root b.id ↔
        EqvGen (fun x y => (x, y) ∈ confirmedEnds links) a.id b.id) ∧
      (∀ component ∈ components entities links, ∃ a ∈ entities, ∀ x,
        x ∈ component ↔ ∃ b ∈ entities, root b.id = root a.id ∧ b.id = x) ∧
      ∀ a ∈ entities, ∃ component ∈ components entities links, a.id ∈ component := by
  have hdescends := UnionFind.Descends.id (entities.map (·.id))
  have hfuel : (entities.map (·.id)).length ≤ entities.length := by simp
  obtain ⟨hjoined, hsame⟩ := UnionFind.same_joinAll hdescends hends hfuel
  have hmem : ∀ entity ∈ entities, entity.id ∈ entities.map (·.id) := fun _ => List.mem_map_of_mem
  have hgroups := components_eq links hends
  refine ⟨rootOf entities.length links, ?_, ?_, ?_⟩
  · intro a ha b hb
    have heq := UnionFind.find_eq_iff hjoined (hmem a ha) (hmem b hb) hfuel
    refine heq.trans ((hsame _ _).trans ?_)
    -- the forest started with every record on its own
    constructor
    · refine fun h => UnionFind.eqvGen_of h fun x y hxy => ?_
      rcases hxy with hxy | hxy
      · rw [UnionFind.same_id.mp hxy]
        exact .refl y
      · exact .rel _ _ hxy
    · exact fun h => UnionFind.eqvGen_of h fun x y hxy => .rel _ _ (.inr hxy)
  · intro component hcomponent
    rw [hgroups] at hcomponent
    obtain ⟨group, hgroup, rfl⟩ := List.mem_map.mp hcomponent
    rw [List.mem_insertionSort] at hgroup
    obtain ⟨hitems, hne⟩ := Dict.mem_groupBy.mp hgroup
    obtain ⟨item, hitem⟩ := List.exists_mem_of_ne_nil _ hne
    rw [hitems, List.mem_filter, List.mem_map] at hitem
    obtain ⟨⟨a, ha, rfl⟩, hroot⟩ := hitem
    refine ⟨a, ha, fun x => ?_⟩
    rw [List.mem_insertionSort, hitems]
    simp only [decide_eq_true_eq] at hroot
    simp [← hroot, and_assoc]
  · intro a ha
    rw [hgroups]
    let root := rootOf entities.length links
    let group := (entities.map fun e => (root e.id, e.id)).filter (·.1 = root a.id)
    have hself : (root a.id, a.id) ∈ group := by
      simp only [group, List.mem_filter, decide_true, and_true]
      exact List.mem_map_of_mem ha
    have hgroup : (root a.id, group) ∈ Dict.groupBy (·.1) (entities.map fun e => (root e.id, e.id)) :=
      Dict.mem_groupBy.mpr ⟨rfl, List.ne_nil_of_mem hself⟩
    refine ⟨_, List.mem_map_of_mem ((List.mem_insertionSort _).mpr hgroup), ?_⟩
    rw [List.mem_insertionSort]
    exact List.mem_map_of_mem hself

end components

/-! ## Unified entities -/

section merging

variable [Digest] {entities : List ProviderEntity}

/-- A chain of records, each joined with the next. -/
def Chained (entities : List ProviderEntity) (overrides : IdentityOverrides) :
    ProviderEntity → ProviderEntity → Prop :=
  EqvGen fun a b => a ∈ entities ∧ b ∈ entities ∧ Joined entities overrides a b

/-- No unified entity has both ends of a conflict. -/
def NoConflictMerged (state : UnifiedLabState) : Prop :=
  ∀ entity ∈ state.entities, ∀ conflict ∈ state.conflicts,
    ¬(conflict.leftEntityId ∈ entity.providerEntityIds ∧
      conflict.rightEntityId ∈ entity.providerEntityIds)

instance (state : UnifiedLabState) : Decidable (NoConflictMerged state) := by
  unfold NoConflictMerged
  infer_instance

/-- Every unified entity has at most one record of each provider. -/
def OnePerProvider (state : UnifiedLabState) : Prop :=
  ∀ entity ∈ state.entities, ∀ a ∈ state.providerEntities, ∀ b ∈ state.providerEntities,
    a.id ∈ entity.providerEntityIds → b.id ∈ entity.providerEntityIds →
      a.provider = b.provider → a = b

instance (state : UnifiedLabState) : Decidable (OnePerProvider state) := by
  unfold OnePerProvider
  infer_instance

omit [Digest] in
theorem eq_of_id_eq (hids : (entities.map (·.id)).Nodup) {a b : ProviderEntity} (ha : a ∈ entities)
    (hb : b ∈ entities) (h : a.id = b.id) : a = b :=
  List.inj_on_of_nodup_map hids ha hb h

/-- Chains of links are chains of records. -/
theorem chained_iff (hids : (entities.map (·.id)).Nodup) (overrides : IdentityOverrides)
    (evaluatedAt : Nat) {a b : ProviderEntity} (ha : a ∈ entities) (hb : b ∈ entities) :
    EqvGen (fun x y => (x, y) ∈ confirmedEnds (decidedLinks entities overrides evaluatedAt))
      a.id b.id ↔ Chained entities overrides a b := by
  have hnodup := hids.of_map
  have hperm := ordered_perm entities
  have hpairs (x y : ProviderEntity) :=
    mem_pairsOf (x := x) (y := y) (hperm.nodup_iff.mpr hnodup)
  constructor
  · intro h
    -- along the chain, the two ends are one id, or the ids of two records in a chain
    have hchain : ∀ x y, EqvGen (fun x y =>
        (x, y) ∈ confirmedEnds (decidedLinks entities overrides evaluatedAt)) x y →
        x = y ∨ ∃ c ∈ entities, ∃ d ∈ entities, c.id = x ∧ d.id = y ∧
          Chained entities overrides c d := by
      intro x y hxy
      induction hxy with
      | rel x y hxy =>
        obtain ⟨c, d, hpair, hjoined, rfl, rfl⟩ :=
          (mem_confirmedEnds_iff hnodup overrides evaluatedAt).mp hxy
        obtain ⟨hc, hd⟩ := (hpairs _ _).1 hpair
        have hc := hperm.mem_iff.mp hc
        have hd := hperm.mem_iff.mp hd
        exact .inr ⟨c, hc, d, hd, rfl, rfl, .rel _ _ ⟨hc, hd, hjoined⟩⟩
      | refl x => exact .inl rfl
      | symm x y _ ih =>
        rcases ih with heq | ⟨c, hc, d, hd, hcx, hdy, hcd⟩
        · exact .inl heq.symm
        · exact .inr ⟨d, hd, c, hc, hdy, hcx, .symm _ _ hcd⟩
      | trans x y z _ _ ihxy ihyz =>
        rcases ihxy with rfl | ⟨c, hc, d, hd, hcx, hdy, hcd⟩
        · exact ihyz
        · rcases ihyz with rfl | ⟨c', hc', d', hd', hcy, hdz, hcd'⟩
          · exact .inr ⟨c, hc, d, hd, hcx, hdy, hcd⟩
          · cases eq_of_id_eq hids hd hc' (hdy.trans hcy.symm)
            exact .inr ⟨c, hc, d', hd', hcx, hdz, .trans _ _ _ hcd hcd'⟩
    rcases hchain _ _ h with heq | ⟨c, hc, d, hd, hca, hdb, hcd⟩
    · rw [eq_of_id_eq hids ha hb heq]
      exact .refl b
    · rwa [eq_of_id_eq hids hc ha hca, eq_of_id_eq hids hd hb hdb] at hcd
  · intro h
    clear ha hb
    induction h with
    | rel c d hcd =>
      obtain ⟨hc, hd, hjoined⟩ := hcd
      have hne : c ≠ d := fun h => hjoined.providers (by rw [h])
      rcases (hpairs c d).2 (hperm.mem_iff.mpr hc) (hperm.mem_iff.mpr hd) hne with hpair | hpair
      · exact .rel _ _ ((mem_confirmedEnds_iff hnodup overrides evaluatedAt).mpr
          ⟨c, d, hpair, hjoined, rfl, rfl⟩)
      · exact .symm _ _ (.rel _ _ ((mem_confirmedEnds_iff hnodup overrides evaluatedAt).mpr
          ⟨d, c, hpair, hjoined.symm, rfl, rfl⟩))
    | refl c => exact .refl _
    | symm c d _ ih => exact .symm _ _ ih
    | trans c d e _ _ ihcd ihde => exact .trans _ _ _ ihcd ihde

/-- **What is merged**: the records of a unified entity are those chained to one of them, and every
record is in some unified entity. -/
theorem mem_providerEntityIds_iff (hids : (entities.map (·.id)).Nodup)
    (claims : List NormalizedClaim) (overrides : IdentityOverrides) (generatedAt : Nat) :
    (∀ entity ∈ (reconcileUnifiedState entities claims overrides generatedAt).entities,
      ∃ a ∈ entities, ∀ x, x ∈ entity.providerEntityIds ↔
        ∃ b ∈ entities, Chained entities overrides b a ∧ b.id = x) ∧
    ∀ a ∈ entities, ∃ entity ∈ (reconcileUnifiedState entities claims overrides generatedAt).entities,
      a.id ∈ entity.providerEntityIds := by
  have hnodup := hids.of_map
  have hperm := ordered_perm entities
  have hends : ∀ pair ∈ confirmedEnds (decidedLinks entities overrides generatedAt),
      pair.1 ∈ entities.map (·.id) ∧ pair.2 ∈ entities.map (·.id) := by
    rintro ⟨x, y⟩ hpair
    obtain ⟨c, d, hcd, -, rfl, rfl⟩ :=
      (mem_confirmedEnds_iff hnodup overrides generatedAt).mp hpair
    obtain ⟨hc, hd⟩ := (mem_pairsOf (hperm.nodup_iff.mpr hnodup)).1 hcd
    exact ⟨List.mem_map_of_mem (hperm.mem_iff.mp hc), List.mem_map_of_mem (hperm.mem_iff.mp hd)⟩
  obtain ⟨root, hroot, hcomponents, hcover⟩ := mem_components_iff _ hends
  constructor
  · intro entity hentity
    obtain ⟨component, hcomponent, rfl⟩ := List.mem_map.mp hentity
    obtain ⟨a, ha, hmem⟩ := hcomponents component hcomponent
    refine ⟨a, ha, fun x => (hmem x).trans ?_⟩
    constructor
    · rintro ⟨b, hb, heq, rfl⟩
      exact ⟨b, hb, (chained_iff hids overrides generatedAt hb ha).mp ((hroot b hb a ha).mp heq), rfl⟩
    · rintro ⟨b, hb, hchained, rfl⟩
      exact ⟨b, hb, (hroot b hb a ha).mpr ((chained_iff hids overrides generatedAt hb ha).mpr hchained),
        rfl⟩
  · intro a ha
    obtain ⟨component, hcomponent, hmem⟩ := hcover a ha
    exact ⟨_, List.mem_map_of_mem hcomponent, hmem⟩

/-- Two records are in one unified entity just if they are chained. -/
theorem merged_iff (hids : (entities.map (·.id)).Nodup) (claims : List NormalizedClaim)
    (overrides : IdentityOverrides) (generatedAt : Nat) {a b : ProviderEntity} (ha : a ∈ entities)
    (hb : b ∈ entities) :
    (∃ entity ∈ (reconcileUnifiedState entities claims overrides generatedAt).entities,
      a.id ∈ entity.providerEntityIds ∧ b.id ∈ entity.providerEntityIds) ↔
      Chained entities overrides a b := by
  obtain ⟨hmem, hcover⟩ := mem_providerEntityIds_iff hids claims overrides generatedAt
  constructor
  · rintro ⟨entity, hentity, hain, hbin⟩
    obtain ⟨c, hc, hiff⟩ := hmem entity hentity
    obtain ⟨a', ha', hchained, hid⟩ := (hiff _).mp hain
    obtain ⟨b', hb', hchained', hid'⟩ := (hiff _).mp hbin
    rw [eq_of_id_eq hids ha' ha hid] at hchained
    rw [eq_of_id_eq hids hb' hb hid'] at hchained'
    exact .trans _ _ _ hchained (.symm _ _ hchained')
  · intro hchained
    obtain ⟨entity, hentity, hain⟩ := hcover a ha
    obtain ⟨c, hc, hiff⟩ := hmem entity hentity
    obtain ⟨a', ha', hac, hid⟩ := (hiff _).mp hain
    rw [eq_of_id_eq hids ha' ha hid] at hac
    exact ⟨entity, hentity, hain, (hiff _).mpr
      ⟨b, hb, .trans _ _ _ (.symm _ _ hchained) hac, rfl⟩⟩

theorem mem_conflicts_iff (claims : List NormalizedClaim) (overrides : IdentityOverrides) (generatedAt : Nat) {x y : Text} :
    (∃ conflict ∈ (reconcileUnifiedState entities claims overrides generatedAt).conflicts,
      conflict.leftEntityId = x ∧ conflict.rightEntityId = y) ↔
      ∃ a b, (a, b) ∈ pairsOf (ordered entities) ∧ Conflicting a b ∧ a.id = x ∧ b.id = y := by
  constructor
  · rintro ⟨conflict, hconflict, rfl, rfl⟩
    obtain ⟨resolved, hresolved, hmem⟩ := List.mem_flatMap.mp hconflict
    obtain ⟨⟨a, b⟩, hpair, rfl⟩ := List.mem_map.mp hresolved
    obtain ⟨hconflicting, hleft, hright⟩ := (resolveOrdered_conflicts _ _).1 conflict hmem
    exact ⟨a, b, hpair, hconflicting, hleft.symm, hright.symm⟩
  · rintro ⟨a, b, hpair, hconflicting, rfl, rfl⟩
    have hne := (resolveOrdered_conflicts (strongCounts (ordered entities)) generatedAt).2 hconflicting
    obtain ⟨conflict, hmem⟩ := List.exists_mem_of_ne_nil _ hne
    obtain ⟨-, hleft, hright⟩ := (resolveOrdered_conflicts _ _).1 conflict hmem
    exact ⟨conflict, List.mem_flatMap.mpr ⟨_, List.mem_map_of_mem hpair, hmem⟩, hleft, hright⟩

/-- **Conflicts are kept apart** just if no chain leads from a record to one it is in conflict
with. -/
theorem noConflictMerged_iff (hids : (entities.map (·.id)).Nodup) (claims : List NormalizedClaim)
    (overrides : IdentityOverrides) (generatedAt : Nat) :
    NoConflictMerged (reconcileUnifiedState entities claims overrides generatedAt) ↔
      ∀ a ∈ entities, ∀ b ∈ entities, Conflicting a b → ¬Chained entities overrides a b := by
  have hnodup := hids.of_map
  have hperm := ordered_perm entities
  have hpairs (x y : ProviderEntity) :=
    mem_pairsOf (x := x) (y := y) (hperm.nodup_iff.mpr hnodup)
  constructor
  · intro hapart a ha b hb hconflicting hchained
    obtain ⟨entity, hentity, hain, hbin⟩ :=
      (merged_iff hids claims overrides generatedAt ha hb).mpr hchained
    have hne : a ≠ b := fun h => hconflicting.providers (by rw [h])
    -- the conflict is listed for the pair in one of the two orders
    rcases (hpairs a b).2 (hperm.mem_iff.mpr ha) (hperm.mem_iff.mpr hb) hne with hpair | hpair
    · obtain ⟨conflict, hconflict, hleft, hright⟩ :=
        (mem_conflicts_iff claims overrides generatedAt).mpr
          ⟨a, b, hpair, hconflicting, rfl, rfl⟩
      exact hapart entity hentity conflict hconflict ⟨hleft ▸ hain, hright ▸ hbin⟩
    · obtain ⟨conflict, hconflict, hleft, hright⟩ :=
        (mem_conflicts_iff claims overrides generatedAt).mpr
          ⟨b, a, hpair, hconflicting.symm, rfl, rfl⟩
      exact hapart entity hentity conflict hconflict ⟨hleft ▸ hbin, hright ▸ hain⟩
  · intro hapart entity hentity conflict hconflict hmerged
    obtain ⟨a, b, hpair, hconflicting, hleft, hright⟩ :=
      (mem_conflicts_iff claims overrides generatedAt).mp ⟨conflict, hconflict, rfl, rfl⟩
    obtain ⟨ha, hb⟩ := (hpairs _ _).1 hpair
    have ha := hperm.mem_iff.mp ha
    have hb := hperm.mem_iff.mp hb
    rw [← hleft, ← hright] at hmerged
    exact hapart a ha b hb hconflicting
      ((merged_iff hids claims overrides generatedAt ha hb).mp ⟨entity, hentity, hmerged⟩)

/-- **One record of each provider** is in every unified entity just if, without decisions of the
operator, no chain leads from a record to another one of its provider. -/
theorem onePerProvider_iff (hids : (entities.map (·.id)).Nodup) (claims : List NormalizedClaim)
    (generatedAt : Nat) :
    OnePerProvider (reconcileUnifiedState entities claims [] generatedAt) ↔
      ∀ a ∈ entities, ∀ b ∈ entities, a.provider = b.provider → a ≠ b →
        ¬EqvGen (fun a b => a ∈ entities ∧ b ∈ entities ∧ Confirms entities a b) a b := by
  constructor
  · intro hone a ha b hb hsame hne hchained
    obtain ⟨entity, hentity, hain, hbin⟩ :=
      (merged_iff hids claims [] generatedAt ha hb).mpr hchained
    exact hne (hone entity hentity a ha b hb hain hbin hsame)
  · intro hapart entity hentity a ha b hb hain hbin hsame
    by_contra hne
    exact hapart a ha b hb hsame hne
      ((merged_iff hids claims [] generatedAt ha hb).mp ⟨entity, hentity, hain, hbin⟩)

end merging

/-! ## Records that chains join -/

/-- A record with one identifier of each given kind and value. -/
def sampleRecord (id : Text) (provider : ProviderKind)
    (identifiers : List (IdentifierKind × Text)) : ProviderEntity where
  id := id
  provider := provider
  label := id
  category := "switch"
  identifiers := identifiers.map fun identifier => {
    kind := identifier.1, protectedValue := identifier.2, strength := .strong
    globallyAdministered := some true, provenanceRef := id }
  claimIds := []
  freshness := .current

/-- Two switches of either provider. The serial of `m1` and the addresses of `c2` link all four,
while `c1` and `m2` have one name and different serials. -/
def fourRecords : List ProviderEntity := [
  sampleRecord "c1" .catalystIos [(.serial, "serial-token-1"), (.name, "name-token-1")],
  sampleRecord "c2" .catalystIos [(.deviceMac, "mac-token-0001"), (.chassisMac, "mac-token-0002")],
  sampleRecord "m1" .merakiDashboard [(.serial, "serial-token-1"), (.deviceMac, "mac-token-0001")],
  sampleRecord "m2" .merakiDashboard
    [(.serial, "serial-token-2"), (.deviceMac, "mac-token-0002"), (.name, "name-token-1")]]

/-- Digests that are all the same. -/
@[reducible] def plainDigest : Digest := .ofTable [] (by simp) fun _ _ => []

theorem not_noConflictMerged_fourRecords :
    (fourRecords.map (·.id)).Nodup ∧
      ¬NoConflictMerged (@reconcileUnifiedState plainDigest fourRecords [] [] 0) := by
  decide +kernel

theorem not_onePerProvider_fourRecords :
    (fourRecords.map (·.id)).Nodup ∧
      ¬OnePerProvider (@reconcileUnifiedState plainDigest (fourRecords.take 3) [] [] 0) := by
  decide +kernel

theorem noConflictMerged_iff_fourRecords :
    ¬∀ a ∈ fourRecords, ∀ b ∈ fourRecords, Conflicting a b →
      ¬@Chained plainDigest fourRecords [] a b :=
  mt (@noConflictMerged_iff plainDigest fourRecords (by decide +kernel) [] [] 0).mpr
    (by decide +kernel)

/-- Two of the four, which are one switch to both providers. -/
def twoRecords : List ProviderEntity := fourRecords.filter fun record =>
  record.id = "c1".toList || record.id = "m1".toList

theorem onePerProvider_iff_twoRecords :
    OnePerProvider (@reconcileUnifiedState plainDigest twoRecords [] [] 0) ∧
      (@reconcileUnifiedState plainDigest twoRecords [] [] 0).entities.map (·.providerEntityIds)
        = [["c1".toList, "m1".toList]] := by
  refine ⟨(@onePerProvider_iff plainDigest twoRecords (by decide +kernel) [] 0).mpr ?_,
    by decide +kernel⟩
  have hsame : ∀ a ∈ twoRecords, ∀ b ∈ twoRecords, a.provider = b.provider → a = b := by
    decide +kernel
  intro a ha b hb hprovider hne
  exact absurd (hsame a ha b hb hprovider) hne

end SwitchOps
