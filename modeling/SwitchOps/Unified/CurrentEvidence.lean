import Mathlib.Data.Finset.Card
import SwitchOps.Unified.Order
import SwitchOps.Unified.Relationships

/-!
# Attributes and current evidence

Once one claim of an attribute or of a relationship is current, its state is read off all of them, old ones
too. `grade` and `gradedValue` are what some claims say when they are all that counts;
`resolveAttribute_graded` and `relationshipState_graded` say that the code applies them to every claim, and
`graded_currentOf_iff` when that is what the current claims alone say.
-/

namespace List

variable {α : Type} {l : List α}

theorem one_lt_length_iff_of_nodup [DecidableEq α] (h : l.Nodup) :
    1 < l.length ↔ ∃ a ∈ l, ∃ b ∈ l, a ≠ b := by
  rw [← List.toFinset_card_of_nodup h, Finset.one_lt_card]
  simp only [List.mem_toFinset]

theorem length_eq_one_iff_of_nodup [DecidableEq α] (h : l.Nodup) (nonempty : l ≠ []) :
    l.length = 1 ↔ ∀ a ∈ l, ∀ b ∈ l, a = b := by
  have some_ := List.length_pos_of_ne_nil nonempty
  have more := one_lt_length_iff_of_nodup h
  constructor
  · intro one a ha b hb
    by_contra differ
    have := more.mpr ⟨a, ha, b, hb, differ⟩
    omega
  · intro same
    by_contra other
    obtain ⟨a, ha, b, hb, differ⟩ := more.mp (by omega)
    exact differ (same a ha b hb)

theorem find?_eq_head? {p : α → Bool} (h : ∀ a ∈ l, p a = true) : l.find? p = l.head? := by
  cases l with
  | nil => rfl
  | cons a l => rw [List.find?_cons_of_pos (h a List.mem_cons_self), List.head?_cons]

end List

namespace Text

theorem nodup_sortedSet (ts : List Text) : (sortedSet ts).Nodup :=
  (List.perm_insertionSort _ _).nodup_iff.mpr (List.nodup_dedup ts)

end Text

namespace SwitchOps

/-! ## What claims say -/

/-- Some provider gives two values. -/
def Differ (items : List NormalizedClaim) : Prop :=
  ∃ a ∈ items, ∃ b ∈ items, a.provider = b.provider ∧ a.written ≠ b.written

/-- The claims are all of one provider. -/
def OneProvider (items : List NormalizedClaim) : Prop := ∀ a ∈ items, ∀ b ∈ items, a.provider = b.provider

/-- The claims all give one value. -/
def OneValue (items : List NormalizedClaim) : Prop := ∀ a ∈ items, ∀ b ∈ items, a.written = b.written

instance (items : List NormalizedClaim) : Decidable (Differ items) :=
  inferInstanceAs (Decidable (∃ a ∈ items, ∃ b ∈ items, a.provider = b.provider ∧ a.written ≠ b.written))

instance (items : List NormalizedClaim) : Decidable (OneProvider items) :=
  inferInstanceAs (Decidable (∀ a ∈ items, ∀ b ∈ items, a.provider = b.provider))

instance (items : List NormalizedClaim) : Decidable (OneValue items) :=
  inferInstanceAs (Decidable (∀ a ∈ items, ∀ b ∈ items, a.written = b.written))

/-- The state that some claims amount to, each of them counted. -/
def grade (items : List NormalizedClaim) : CrossProviderState :=
  if Differ items then .ambiguous
  else if OneProvider items then .providerOnly
  else if OneValue items then .agreed
  else .conflict

/-- The value that some claims amount to. -/
def gradedValue (items : List NormalizedClaim) : Option ClaimValue :=
  if Differ items then none
  else if OneValue items then items.getLast?.bind (·.value)
  else none

/-- The claims that are neither stale nor historical. -/
def currentOf (items : List NormalizedClaim) : List NormalizedClaim :=
  items.filter fun item => !item.freshness.isOld

variable {items : List NormalizedClaim}

theorem OneValue.of_oneProvider (provider : OneProvider items) (same : ¬Differ items) : OneValue items := by
  intro a ha b hb
  by_contra differ
  exact same ⟨a, ha, b, hb, provider a ha b hb, differ⟩

theorem mem_currentOf {item : NormalizedClaim} :
    item ∈ currentOf items ↔ item ∈ items ∧ item.freshness.isOld = false := by
  rw [currentOf, List.mem_filter, Bool.not_eq_true']

theorem Differ.of_currentOf (h : Differ (currentOf items)) : Differ items := by
  obtain ⟨a, ha, b, hb, differ⟩ := h
  exact ⟨a, (mem_currentOf.mp ha).1, b, (mem_currentOf.mp hb).1, differ⟩

theorem OneProvider.currentOf (h : OneProvider items) : OneProvider (currentOf items) :=
  fun a ha b hb => h a (mem_currentOf.mp ha).1 b (mem_currentOf.mp hb).1

theorem OneValue.currentOf (h : OneValue items) : OneValue (currentOf items) :=
  fun a ha b hb => h a (mem_currentOf.mp ha).1 b (mem_currentOf.mp hb).1

/-! ## The grouping -/

/-- Every claim gives a value. -/
def Valued (items : List NormalizedClaim) : Prop := ∀ item ∈ items, item.value.isSome = true

theorem Valued.claimedValues_cons {item : NormalizedClaim} (valued : Valued (item :: items)) :
    ∃ value, item.value = some value ∧ item.written = value.str ∧
      claimedValues (item :: items) = (item.provider, value) :: claimedValues items := by
  obtain ⟨value, given⟩ := Option.isSome_iff_exists.mp (valued item List.mem_cons_self)
  refine ⟨value, given, ?_, ?_⟩
  · rw [NormalizedClaim.written, given]
    rfl
  · rw [claimedValues, List.filterMap_cons, given]
    rfl

theorem Valued.tail {item : NormalizedClaim} (valued : Valued (item :: items)) : Valued items :=
  fun other here => valued other (List.mem_cons_of_mem _ here)

theorem Valued.map_provider (valued : Valued items) : (claimedValues items).map (·.1) = items.map (·.provider) := by
  induction items with
  | nil => rfl
  | cons item items ih =>
    obtain ⟨value, -, -, step⟩ := valued.claimedValues_cons
    rw [step, List.map_cons, List.map_cons, ih valued.tail]

theorem Valued.map_str (valued : Valued items) (provider : ProviderKind) :
    ((claimedValues items).filter (·.1 = provider)).map (fun value => value.2.str)
      = (items.filter (·.provider = provider)).map (·.written) := by
  induction items with
  | nil => rfl
  | cons item items ih =>
    obtain ⟨value, -, written, step⟩ := valued.claimedValues_cons
    rw [step]
    by_cases from_ : item.provider = provider
    · simp [from_, written, ih valued.tail]
    · simp [from_, ih valued.tail]

/-- Of values all written alike the last one is kept. -/
theorem Valued.get?_raw (valued : Valued items) (one : OneValue items) {item : NormalizedClaim}
    (here : item ∈ items) :
    Dict.get? (Dict.ofList ((claimedValues items).map fun value => (value.2.str, value.2))) item.written
      = items.getLast?.bind (·.value) := by
  rw [Dict.get?_ofList, ← List.map_reverse, List.find?_map]
  rw [List.find?_eq_head? ?alike, List.head?_reverse]
  case alike =>
    intro value among
    rw [List.mem_reverse] at among
    obtain ⟨other, there, given⟩ := List.mem_filterMap.mp among
    obtain ⟨raw, known, rfl⟩ := Option.map_eq_some_iff.mp given
    have written : other.written = raw.str := by
      rw [NormalizedClaim.written, known]
      rfl
    simpa [written] using one other there item here
  rcases items.eq_nil_or_concat with rfl | ⟨init, last, rfl⟩
  · rfl
  · obtain ⟨value, known⟩ := Option.isSome_iff_exists.mp (valued last (by simp))
    simp [claimedValues, known]

theorem Valued.valuesByProvider_eq (valued : Valued items) :
    valuesByProvider (claimedValues items) = (Dict.keys (Dict.groupBy (·.1) (claimedValues items))).map fun provider =>
      (provider, Text.sortedSet ((items.filter (·.provider = provider)).map (·.written))) := by
  rw [valuesByProvider]
  conv_lhs => rw [Dict.groupBy_eq, List.map_map]
  refine List.map_congr_left fun provider _ => ?_
  rw [Function.comp_apply, valued.map_str]

theorem Valued.mem_providers (valued : Valued items) {provider : ProviderKind} :
    provider ∈ Dict.keys (Dict.groupBy (·.1) (claimedValues items)) ↔ ∃ item ∈ items, item.provider = provider := by
  rw [Dict.mem_keys_groupBy]
  have same := valued.map_provider
  simp only [← List.mem_map, same]

theorem Valued.any_differ (valued : Valued items) :
    (valuesByProvider (claimedValues items)).any (fun group => 1 < group.2.length) = true ↔ Differ items := by
  rw [valued.valuesByProvider_eq, List.any_map, List.any_eq_true]
  simp only [Function.comp_apply, decide_eq_true_eq, valued.mem_providers,
    List.one_lt_length_iff_of_nodup (Text.nodup_sortedSet _), Text.mem_sortedSet, List.mem_map, List.mem_filter]
  constructor
  · rintro ⟨provider, -, _, ⟨a, ⟨ha, fromA⟩, rfl⟩, _, ⟨b, ⟨hb, fromB⟩, rfl⟩, differ⟩
    exact ⟨a, ha, b, hb, fromA.trans fromB.symm, differ⟩
  · rintro ⟨a, ha, b, hb, same, differ⟩
    exact ⟨a.provider, ⟨a, ha, rfl⟩, _, ⟨a, ⟨ha, rfl⟩, rfl⟩, _, ⟨b, ⟨hb, same.symm⟩, rfl⟩, differ⟩

theorem Valued.length_eq_one (valued : Valued items) (nonempty : items ≠ []) :
    (valuesByProvider (claimedValues items)).length = 1 ↔ OneProvider items := by
  obtain ⟨item, here⟩ := List.exists_mem_of_ne_nil _ nonempty
  have known := valued.mem_providers.mpr ⟨item, here, rfl⟩
  rw [valued.valuesByProvider_eq, List.length_map,
    List.length_eq_one_iff_of_nodup (Dict.nodup_keys_groupBy _ _) (List.ne_nil_of_mem known)]
  simp only [valued.mem_providers]
  constructor
  · intro one a ha b hb
    exact one _ ⟨a, ha, rfl⟩ _ ⟨b, hb, rfl⟩
  · rintro one _ ⟨a, ha, rfl⟩ _ ⟨b, hb, rfl⟩
    exact one a ha b hb

theorem Valued.mem_distinct (valued : Valued items) {written : Text} :
    written ∈ distinctValues (claimedValues items) ↔ ∃ item ∈ items, item.written = written := by
  rw [distinctValues, List.mem_dedup, valued.valuesByProvider_eq, List.flatMap_map, List.mem_flatMap]
  simp only [valued.mem_providers, Text.mem_sortedSet, List.mem_map, List.mem_filter, decide_eq_true_eq]
  constructor
  · rintro ⟨_, -, item, ⟨here, -⟩, rfl⟩
    exact ⟨item, here, rfl⟩
  · rintro ⟨item, here, rfl⟩
    exact ⟨item.provider, ⟨item, here, rfl⟩, item, ⟨here, rfl⟩, rfl⟩

theorem Valued.distinct_length_eq_one (valued : Valued items) (nonempty : items ≠ []) :
    (distinctValues (claimedValues items)).length = 1 ↔ OneValue items := by
  obtain ⟨item, here⟩ := List.exists_mem_of_ne_nil _ nonempty
  have known := valued.mem_distinct.mpr ⟨item, here, rfl⟩
  rw [List.length_eq_one_iff_of_nodup (nodup_distinctValues _) (List.ne_nil_of_mem known)]
  simp only [valued.mem_distinct]
  constructor
  · intro one a ha b hb
    exact one _ ⟨a, ha, rfl⟩ _ ⟨b, hb, rfl⟩
  · rintro one _ ⟨a, ha, rfl⟩ _ ⟨b, hb, rfl⟩
    exact one a ha b hb

theorem Valued.only_eq (valued : Valued items) (one : OneValue items) (nonempty : items ≠ []) :
    onlyValue (claimedValues items) = items.getLast?.bind (·.value) := by
  obtain ⟨written, single⟩ := List.length_eq_one_iff.mp ((valued.distinct_length_eq_one nonempty).mpr one)
  obtain ⟨item, here, rfl⟩ := valued.mem_distinct.mp (by rw [single]; exact List.mem_singleton_self written)
  rw [onlyValue, single]
  exact valued.get?_raw one here

/-! ## What all the claims say -/

theorem valued_relevantClaims {field : ClaimField} {memberIds : List Text} {claims : List NormalizedClaim} :
    Valued (relevantClaims field memberIds claims) := by
  intro item here
  exact (mem_relevantClaims.mp here).2.2.2

theorem exists_current_iff : currentOf items ≠ [] ↔ items.all (fun item => item.freshness.isOld) = false := by
  rw [currentOf, ne_eq, List.filter_eq_nil_iff, ← Bool.not_eq_true, List.all_eq_true]
  simp

/-- With one current claim an attribute is what all its claims say, old ones too. -/
theorem resolveAttribute_graded {field : ClaimField} {memberIds : List Text} {claims : List NormalizedClaim}
    (current : currentOf (relevantClaims field memberIds claims) ≠ []) :
    (resolveAttribute field memberIds claims).state = grade (relevantClaims field memberIds claims) ∧
      (resolveAttribute field memberIds claims).value = gradedValue (relevantClaims field memberIds claims) := by
  have valued : Valued (relevantClaims field memberIds claims) := valued_relevantClaims
  unfold resolveAttribute
  rw [show (claims.filter fun item =>
    memberIds.elem item.subjectRef && item.field == field && item.value.isSome)
      = relevantClaims field memberIds claims from rfl]
  generalize relevantClaims field memberIds claims = items at current valued ⊢
  have nonempty : items ≠ [] := by
    rintro rfl
    exact current rfl
  have some_ : items.isEmpty = false := by rwa [List.isEmpty_eq_false_iff]
  have groups : ((Dict.groupBy (·.1) (claimedValues items)).map fun group =>
    (group.1, Text.sortedSet (group.2.map fun value => value.2.str))) = valuesByProvider (claimedValues items) := rfl
  have distinct : ((valuesByProvider (claimedValues items)).flatMap (·.2)).dedup
    = distinctValues (claimedValues items) := rfl
  dsimp only
  rw [if_neg (by simp [some_]), if_neg (by rw [exists_current_iff.mp current]; simp)]
  rw [show (items.filterMap fun item => item.value.map fun value => (item.provider, value))
    = claimedValues items from rfl, groups, distinct]
  unfold grade gradedValue
  by_cases differ : Differ items
  · rw [if_pos (valued.any_differ.mpr differ), if_pos differ, if_pos differ]
    exact ⟨rfl, rfl⟩
  rw [if_neg (mt valued.any_differ.mp differ), if_neg differ, if_neg differ]
  by_cases provider : OneProvider items
  · have one := OneValue.of_oneProvider provider differ
    rw [if_pos ((valued.length_eq_one nonempty).mpr provider), if_pos provider, if_pos one]
    exact ⟨rfl, valued.only_eq one nonempty⟩
  rw [if_neg (mt (valued.length_eq_one nonempty).mp provider), if_neg provider]
  by_cases one : OneValue items
  · rw [if_pos ((valued.distinct_length_eq_one nonempty).mpr one), if_pos one, if_pos one]
    exact ⟨rfl, valued.only_eq one nonempty⟩
  · rw [if_neg (mt (valued.distinct_length_eq_one nonempty).mp one), if_neg one, if_neg one]
    exact ⟨rfl, rfl⟩

theorem relationshipState_graded (current : currentOf items ≠ []) : relationshipState items =
    if OneProvider items then .providerOnly else if OneValue items then .agreed else .conflict := by
  obtain ⟨item, here⟩ := List.exists_mem_of_ne_nil _ (show items ≠ [] from fun none => current (by rw [none]; rfl))
  have providers : (items.map (·.provider)).dedup.length = 1 ↔ OneProvider items := by
    rw [List.length_eq_one_iff_of_nodup (List.nodup_dedup _)
      (List.ne_nil_of_mem (List.mem_dedup.mpr (List.mem_map_of_mem here)))]
    simp only [List.mem_dedup, List.forall_mem_map, OneProvider]
  have values : (items.map (·.written)).dedup.length = 1 ↔ OneValue items := by
    rw [List.length_eq_one_iff_of_nodup (List.nodup_dedup _)
      (List.ne_nil_of_mem (List.mem_dedup.mpr (List.mem_map_of_mem here)))]
    simp only [List.mem_dedup, List.forall_mem_map, OneValue]
  rw [relationshipState, if_neg (by rw [exists_current_iff.mp current]; simp)]
  simp only [providers, values]

/-! ## When old claims change nothing -/

/-- The old claims of an attribute change nothing: the current ones already differ within a provider, or the
old ones bring no second provider where there was one, no second value where there was one, and no value of
another type at the end. -/
def AddNothing (items : List NormalizedClaim) : Prop :=
  Differ (currentOf items) ∨
    (¬Differ items ∧ (OneProvider (currentOf items) → OneProvider items) ∧
      (OneValue (currentOf items) →
        OneValue items ∧ items.getLast?.bind (·.value) = (currentOf items).getLast?.bind (·.value)))

/-- A relationship is graded by its current claims: no provider gives two values, which is not looked at, the
old claims bring no second provider where there was one, and no second value where several providers agreed. -/
def GradedAlike (items : List NormalizedClaim) : Prop :=
  ¬Differ (currentOf items) ∧ (OneProvider (currentOf items) → OneProvider items) ∧
    (¬OneProvider (currentOf items) → OneValue (currentOf items) → OneValue items)

theorem graded_currentOf_iff :
    grade items = grade (currentOf items) ∧ gradedValue items = gradedValue (currentOf items) ↔ AddNothing items := by
  unfold grade gradedValue AddNothing
  by_cases now : Differ (currentOf items)
  · simp [now, now.of_currentOf]
  by_cases ever : Differ items
  · have state (provider value : Bool) : CrossProviderState.ambiguous ≠
        (if provider then .providerOnly else if value then .agreed else .conflict) := by
      cases provider <;> cases value <;> decide
    have other := state (OneProvider (currentOf items)) (OneValue (currentOf items))
    simp only [decide_eq_true_eq] at other
    simp [now, ever, other]
  simp only [now, ever, if_false, false_or, not_false_eq_true, true_and]
  by_cases provider : OneProvider items
  · have one := OneValue.of_oneProvider provider ever
    simp [provider, provider.currentOf, one, one.currentOf]
  by_cases providerNow : OneProvider (currentOf items)
  · simp only [providerNow, provider, if_true, if_false, true_implies, false_and, iff_false]
    rintro ⟨state, -⟩
    split at state <;> cases state
  simp only [providerNow, provider, if_false, false_implies, true_and]
  by_cases one : OneValue items
  · simp [one, one.currentOf]
  · by_cases oneNow : OneValue (currentOf items)
    · simp [one, oneNow]
    · simp [one, oneNow]

theorem relationshipState_currentOf_iff (current : currentOf items ≠ []) :
    relationshipState items = grade (currentOf items) ↔ GradedAlike items := by
  rw [relationshipState_graded current, grade, GradedAlike]
  by_cases now : Differ (currentOf items)
  · simp only [now, if_true, not_true_eq_false, false_and, iff_false]
    split
    · decide
    · split <;> decide
  by_cases provider : OneProvider items
  · simp [now, provider, provider.currentOf]
  by_cases providerNow : OneProvider (currentOf items)
  · simp only [now, provider, providerNow, if_false, if_true, true_implies, false_and, and_false, iff_false]
    split <;> decide
  by_cases one : OneValue items
  · simp [now, provider, providerNow, one, one.currentOf]
  · by_cases oneNow : OneValue (currentOf items)
    · simp [now, provider, providerNow, one, oneNow]
    · simp [now, provider, providerNow, one, oneNow]

/-- **Current evidence**: with one current claim, an attribute has the state and the value of its current
claims just when the old ones add nothing to them, and a relationship has the state of its current claims just
when they are graded alike. -/
theorem state_from_current_iff [Digest] :
    (∀ (field : ClaimField) (memberIds : List Text) (claims : List NormalizedClaim),
      let items := relevantClaims field memberIds claims
      let resolution := resolveAttribute field memberIds claims
      currentOf items ≠ [] →
        (resolution.state = grade (currentOf items) ∧ resolution.value = gradedValue (currentOf items) ↔
          AddNothing items)) ∧
    ∀ (claims : List NormalizedClaim) (providerToUnified : Dict Text Text),
      ∀ r ∈ relationships claims providerToUnified,
        let items := supporting claims providerToUnified (r.subjectId, r.objectId, r.relationship)
        currentOf items ≠ [] → (r.state = grade (currentOf items) ↔ GradedAlike items) := by
  constructor
  · intro field memberIds claims items resolution current
    obtain ⟨state, value⟩ := resolveAttribute_graded current
    rw [state, value]
    exact graded_currentOf_iff
  · intro claims providerToUnified r here items current
    obtain ⟨key, -, rfl⟩ := mem_relationships_iff.mp here
    exact relationshipState_currentOf_iff current

/-- A current name from one provider and a stale one from the other. -/
def renamedSwitch : List NormalizedClaim := [
  { id := "claim-1".toList, provider := .catalystIos, subjectRef := "catalyst-1".toList, field := .name
    value := some (.text "core".toList), objectRef := none, freshness := .current },
  { id := "claim-2".toList, provider := .merakiDashboard, subjectRef := "meraki-1".toList, field := .name
    value := some (.text "old-core".toList), objectRef := none, freshness := .stale }]

theorem stale_name_conflicts : ¬∀ (field : ClaimField) (memberIds : List Text) (claims : List NormalizedClaim),
    currentOf (relevantClaims field memberIds claims) ≠ [] →
      (resolveAttribute field memberIds claims).state = grade (currentOf (relevantClaims field memberIds claims)) ∧
        (resolveAttribute field memberIds claims).value =
          gradedValue (currentOf (relevantClaims field memberIds claims)) := by
  intro follows
  have state := (follows .name ["catalyst-1".toList, "meraki-1".toList] renamedSwitch (by decide)).1
  revert state
  decide +kernel

end SwitchOps
