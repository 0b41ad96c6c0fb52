import Mathlib.Data.List.Permutation
import SwitchOps.Unified.Merging

/-!
# What confirms an identity

`resolveCrossProviderIdentities` judges every two records of the population, each pair for itself but
for one thing: a strong value that two records share counts only if no other record of either provider
carries it. `resolveCrossProviderIdentities_judged` says for every population which pairs come out
confirmed. No weaker identifier takes part in that.
-/

namespace SwitchOps

/-! ## Strong values -/

/-- A serial, or a globally administered address of the chassis or of the device. -/
def StrongFamily.Admits (family : StrongFamily) (identifier : ProviderIdentifier) : Prop :=
  match family with
  | .serial => identifier.kind = .serial
  | .hardwareMac => (identifier.kind = .chassisMac ∨ identifier.kind = .deviceMac) ∧
      identifier.globallyAdministered = some true

instance (family : StrongFamily) (identifier : ProviderIdentifier) : Decidable (family.Admits identifier) := by
  unfold StrongFamily.Admits
  split <;> infer_instance

/-- The record carries the value, as one of the family. -/
def CarriesStrong (family : StrongFamily) (value : Text) (entity : ProviderEntity) : Prop :=
  ∃ identifier ∈ entity.identifiers, family.Admits identifier ∧ identifier.protectedValue = value

instance (family : StrongFamily) (value : Text) (entity : ProviderEntity) :
    Decidable (CarriesStrong family value entity) :=
  inferInstanceAs (Decidable (∃ identifier ∈ entity.identifiers, _))

/-- Of the records of the provider exactly one carries the value. -/
def Unshared (entities : List ProviderEntity) (provider : ProviderKind) (family : StrongFamily)
    (value : Text) : Prop :=
  (entities.filter fun e => e.provider = provider ∧ CarriesStrong family value e).length = 1

/-- Both records have the family, and no value of it in common. -/
structure FamiliesApart (family : StrongFamily) (a b : ProviderEntity) : Prop where
  left : ∃ value, CarriesStrong family value a
  right : ∃ value, CarriesStrong family value b
  apart : ∀ value, CarriesStrong family value a → ¬CarriesStrong family value b

section families

variable {entity a b : ProviderEntity} {family : StrongFamily} {value : Text} {provider : ProviderKind}
  {entities : List ProviderEntity}

theorem mem_identifiersOf {kind : IdentifierKind} {identifier : ProviderIdentifier} :
    identifier ∈ identifiersOf entity kind ↔
      identifier ∈ entity.identifiers ∧ identifier.admitted = true ∧ identifier.kind = kind := by
  rw [identifiersOf_eq, List.mem_filter, List.mem_filter, and_assoc, decide_eq_true_eq]

theorem mem_groupItems {identifier : ProviderIdentifier} :
    identifier ∈ groupItems entity family.kinds ↔
      identifier ∈ entity.identifiers ∧ family.Admits identifier := by
  simp only [groupItems, List.mem_flatMap, mem_identifiersOf]
  cases family with
  | serial =>
    simp only [StrongFamily.kinds, List.mem_singleton, exists_eq_left, StrongFamily.Admits]
    refine and_congr_right fun _ => ⟨fun h => h.2, fun serial => ⟨?_, serial⟩⟩
    simp [ProviderIdentifier.admitted, serial]
  | hardwareMac =>
    simp only [StrongFamily.kinds, StrongFamily.Admits]
    constructor
    · rintro ⟨kind, known, here, admitted, rfl⟩
      have address : identifier.kind = .chassisMac ∨ identifier.kind = .deviceMac := by simpa using known
      refine ⟨here, address, ?_⟩
      rcases address with address | address <;> simpa [ProviderIdentifier.admitted, address] using admitted
    · rintro ⟨here, address, administered⟩
      refine ⟨identifier.kind, by simpa using address, here, ?_, rfl⟩
      simp [ProviderIdentifier.admitted, administered]

theorem carriesStrong_iff : CarriesStrong family value entity ↔ value ∈ strongTokens entity family := by
  simp only [mem_strongTokens, mem_groupItems, CarriesStrong, and_assoc]

theorem agree_iff_carriesStrong :
    Agree family a b ↔ ∃ value, CarriesStrong family value a ∧ CarriesStrong family value b := by
  simp only [Agree, carriesStrong_iff]

theorem disagree_iff_familiesApart : Disagree family a b ↔ FamiliesApart family a b := by
  have present (e : ProviderEntity) : strongTokens e family ≠ [] ↔ ∃ value, CarriesStrong family value e := by
    simp only [carriesStrong_iff]
    constructor
    · exact List.exists_mem_of_ne_nil _
    · rintro ⟨value, here⟩
      exact List.ne_nil_of_mem here
  rw [Disagree, present, present, agree_iff_carriesStrong]
  constructor
  · rintro ⟨left, right, apart⟩
    exact ⟨left, right, fun value here there => apart ⟨value, here, there⟩⟩
  · rintro ⟨left, right, apart⟩
    refine ⟨left, right, ?_⟩
    rintro ⟨value, here, there⟩
    exact apart value here there

theorem count_eq_one_iff_unshared {ordered : List ProviderEntity} (hperm : ordered.Perm entities) :
    (Dict.get? (strongCounts ordered) (provider, family, value)).getD 0 = 1 ↔
      Unshared entities provider family value := by
  rw [count_eq hperm, Unshared]
  simp only [carriesStrong_iff]

/-- They share a strong value that is carried by one record of either provider. -/
def ShareUnique (entities : List ProviderEntity) (a b : ProviderEntity) : Prop :=
  ∃ family value, CarriesStrong family value a ∧ CarriesStrong family value b ∧
    Unshared entities a.provider family value ∧ Unshared entities b.provider family value

theorem uniqueAgreement_iff_shareUnique {ordered : List ProviderEntity} (hperm : ordered.Perm entities) :
    uniqueAgreement (strongCounts ordered) a b = true ↔ ShareUnique entities a b := by
  unfold uniqueAgreement ShareUnique
  simp only [List.any_eq_true, Bool.and_eq_true, beq_iff_eq, sharedTokens, List.mem_filter, List.elem_eq_mem,
    decide_eq_true_eq, count_eq_one_iff_unshared hperm, carriesStrong_iff, and_assoc]
  constructor
  · rintro ⟨family, -, value, shared⟩
    exact ⟨family, value, shared⟩
  · rintro ⟨family, value, shared⟩
    exact ⟨family, by cases family <;> simp, value, shared⟩

end families

/-! ## The judgement of a pair -/

/-- How a pair comes out: `none` if no link is proposed. -/
structure PairJudged (entities : List ProviderEntity) (a b : ProviderEntity) (verdict : Option IdentityLink) :
    Prop where
  ends : ∀ link ∈ verdict, link.leftEntityId = a.id ∧ link.rightEntityId = b.id
  confirmed : (∃ link ∈ verdict, link.state = .confirmed) ↔
    a.provider ≠ b.provider ∧ ShareUnique entities a b ∧ ∀ family, ¬FamiliesApart family a b
  otherwise : ∀ link ∈ verdict, link.state = .confirmed ∨ link.state = .candidate ∨ link.state = .conflicted
  /-- Whatever weak or supporting identifiers they share. -/
  weak : (¬∃ family value, CarriesStrong family value a ∧ CarriesStrong family value b) →
    ∀ link ∈ verdict, link.state = .candidate ∨ link.state = .conflicted

section judgement

variable [Digest] {entities : List ProviderEntity} {a b : ProviderEntity}

omit [Digest] in
/-- Two records that share a strong value are in conflict just if a family disagrees. -/
theorem conflicting_iff_of_agree (providers : a.provider ≠ b.provider) (agree : ∃ family, Agree family a b) :
    Conflicting a b ↔ ∃ family, FamiliesApart family a b := by
  simp only [← disagree_iff_familiesApart]
  exact ⟨fun h => h.disagree, fun disagree => ⟨providers, disagree, .inl agree⟩⟩

omit [Digest] in
theorem ShareUnique.agree (h : ShareUnique entities a b) : ∃ family, Agree family a b := by
  obtain ⟨family, value, left, right, -⟩ := h
  exact ⟨family, agree_iff_carriesStrong.mpr ⟨value, left, right⟩⟩

theorem judged_resolveOrdered {ordered : List ProviderEntity} (hperm : ordered.Perm entities) (evaluatedAt : Nat) :
    PairJudged entities a b (resolveOrdered (strongCounts ordered) a b evaluatedAt).1 := by
  have unique := uniqueAgreement_iff_shareUnique (a := a) (b := b) hperm
  obtain ⟨-, left, right⟩ := resolveIdentityPair_ends a b evaluatedAt
  have resolved := resolveIdentityPair_resolved a b evaluatedAt
  unfold resolveOrdered
  by_cases providers : a.provider = b.provider
  · rw [if_pos providers]
    exact ⟨by simp, by simp [providers], by simp, by simp⟩
  rw [if_neg providers]
  generalize resolveIdentityPair a b evaluatedAt = result at left right resolved ⊢
  obtain ⟨link, conflicts⟩ := result
  dsimp only at left right resolved ⊢
  generalize state : link.state = verdict at resolved
  cases resolved with
  | sameProvider same => exact absurd same providers
  | conflicted conflicting _ _ =>
    rw [if_neg (by simp [state]), if_neg (by simp)]
    refine ⟨by simp [left, right], ?_, by simp [state], by simp [state]⟩
    refine iff_of_false (by simp [state]) fun ⟨_, shares, together⟩ => ?_
    obtain ⟨family, apart⟩ := (conflicting_iff_of_agree providers shares.agree).mp conflicting
    exact together family apart
  | confirmed _ quiet agree =>
    have together : ∀ family, ¬FamiliesApart family a b := fun family apart =>
      quiet ((conflicting_iff_of_agree providers agree).mpr ⟨family, apart⟩)
    have shared : ∃ family value, CarriesStrong family value a ∧ CarriesStrong family value b := by
      obtain ⟨family, agree⟩ := agree
      exact ⟨family, agree_iff_carriesStrong.mp agree⟩
    by_cases sole : uniqueAgreement (strongCounts ordered) a b = false
    · have demoted : IdentityLinkState.confirmed = .confirmed ∧
          uniqueAgreement (strongCounts ordered) a b = false := ⟨rfl, sole⟩
      rw [if_pos demoted, if_neg (by simp)]
      refine ⟨by simp [left, right], ?_, by simp, fun none => absurd shared none⟩
      refine iff_of_false (by simp) fun ⟨_, shares, _⟩ => ?_
      rw [unique.mpr shares] at sole
      cases sole
    · have kept : ¬(IdentityLinkState.confirmed = .confirmed ∧
          uniqueAgreement (strongCounts ordered) a b = false) := fun h => sole h.2
      rw [if_neg kept, if_neg (by simp [state])]
      refine ⟨by simp [left, right], ?_, by simp [state], fun none => absurd shared none⟩
      exact iff_of_true (by simp [state]) ⟨providers, unique.mp (by simpa using sole), together⟩
  | candidate _ quiet apart _ =>
    rw [if_neg (by simp [state]), if_neg (by simp)]
    refine ⟨by simp [left, right], ?_, by simp [state], by simp [state]⟩
    exact iff_of_false (by simp [state]) fun ⟨_, shares, _⟩ => apart shares.agree
  | unrelated _ quiet unlinked =>
    have other : ¬(IdentityLinkState.rejected = .confirmed ∧
        uniqueAgreement (strongCounts ordered) a b = false) := by simp
    rw [if_neg other, if_pos state]
    refine ⟨by simp, ?_, by simp, by simp⟩
    exact iff_of_false (by simp) fun ⟨_, shares, _⟩ => unlinked (.inl shares.agree)

end judgement

/-! ## Every two records -/

theorem mem_pairsOf_iff_sublist {α : Type} {l : List α} {x y : α} :
    (x, y) ∈ pairsOf l ↔ [x, y].Sublist l := by
  induction l with
  | nil => simp [pairsOf]
  | cons z l ih =>
    rw [pairsOf, List.mem_append, ih, List.mem_map]
    constructor
    · rintro (⟨w, here, same⟩ | later)
      · cases same
        exact (List.singleton_sublist.mpr here).cons_cons _
      · exact later.cons z
    · intro here
      cases here with
      | cons _ later => exact .inr later
      | cons_cons _ second => exact .inl ⟨y, List.singleton_sublist.mp second, rfl⟩

/-- Two records of a population stand in its order one way or the other. -/
theorem mem_pairsOf_ordered {entities : List ProviderEntity} {a b : ProviderEntity}
    (here : [a, b].Subperm entities) :
    (a, b) ∈ pairsOf (ordered entities) ∨ (b, a) ∈ pairsOf (ordered entities) := by
  obtain ⟨pair, same, sublist⟩ := here.trans (ordered_perm entities).symm.subperm
  rw [mem_pairsOf_iff_sublist, mem_pairsOf_iff_sublist]
  rcases List.perm_pair.mp same with rfl | rfl
  · exact .inl sublist
  · exact .inr sublist

/-- **Automatic confirmation**: the links are those of the pairs of the population, each two of its records
are one, and each pair comes out as `PairJudged` says. -/
theorem resolveCrossProviderIdentities_judged [Digest] (entities : List ProviderEntity) (evaluatedAt : Nat) :
    ∃ judge : ProviderEntity × ProviderEntity → Option IdentityLink,
      (resolveCrossProviderIdentities entities evaluatedAt).1 = (pairsOf (ordered entities)).filterMap judge ∧
      (∀ a b, [a, b].Subperm entities →
        (a, b) ∈ pairsOf (ordered entities) ∨ (b, a) ∈ pairsOf (ordered entities)) ∧
      ∀ a b, (a, b) ∈ pairsOf (ordered entities) → PairJudged entities a b (judge (a, b)) := by
  refine ⟨fun pair => (resolveOrdered (strongCounts (ordered entities)) pair.1 pair.2 evaluatedAt).1, ?_,
    fun a b => mem_pairsOf_ordered, fun a b _ => judged_resolveOrdered (ordered_perm entities) evaluatedAt⟩
  rw [resolveCrossProviderIdentities, List.filterMap_map]
  rfl

end SwitchOps
