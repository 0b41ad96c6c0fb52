import Mathlib.Data.List.Sort
import SwitchOps.Lib.Dict

/-!
# What the order of a list decides

`Reordered R l l'` says that two lists have the same items up to their order and up to the relation
`R` between items. Grouping a list and sorting the groups by their keys forgets the order of the
list except inside the groups.
-/

namespace List

variable {α β γ : Type}

/-- The items of one list are related to those of the other, in some order. -/
def Reordered (R : α → β → Prop) (l : List α) (l' : List β) : Prop :=
  ∃ m, l.Perm m ∧ Forall₂ R m l'

section reordered

variable {R : α → β → Prop} {l : List α} {l' : List β}

theorem Reordered.of_forall₂ (h : Forall₂ R l l') : Reordered R l l' := ⟨l, .refl l, h⟩

theorem Reordered.of_map {f : γ → α} {g : γ → β} {items : List γ}
    (h : ∀ item ∈ items, R (f item) (g item)) : Reordered R (items.map f) (items.map g) := by
  apply Reordered.of_forall₂
  rw [forall₂_map_left_iff, forall₂_map_right_iff, forall₂_same]
  exact h

theorem Reordered.exists_of_mem (h : Reordered R l l') {a : α} (ha : a ∈ l) :
    ∃ b ∈ l', R a b := by
  obtain ⟨m, hperm, hrel⟩ := h
  replace ha := hperm.mem_iff.mp ha
  clear hperm
  induction hrel with
  | nil => cases ha
  | @cons c b m l' hcb _ ih =>
    rcases mem_cons.mp ha with rfl | ha
    · exact ⟨b, mem_cons_self, hcb⟩
    · obtain ⟨b', hmem, hab⟩ := ih ha
      exact ⟨b', mem_cons_of_mem _ hmem, hab⟩

theorem Reordered.symm (h : Reordered R l l') : Reordered (fun b a => R a b) l' l := by
  obtain ⟨m, hperm, hrel⟩ := h
  obtain ⟨w, hrel, hperm⟩ := perm_comp_forall₂ hperm hrel
  exact ⟨w, hperm.symm, hrel.flip⟩

theorem Reordered.forall_iff (h : Reordered R l l') {P : α → Prop} {Q : β → Prop}
    (agree : ∀ a b, R a b → (P a ↔ Q b)) : (∀ a ∈ l, P a) ↔ ∀ b ∈ l', Q b := by
  constructor
  · intro all b hb
    obtain ⟨a, ha, hab⟩ := h.symm.exists_of_mem hb
    exact (agree a b hab).mp (all a ha)
  · intro all a ha
    obtain ⟨b, hb, hab⟩ := h.exists_of_mem ha
    exact (agree a b hab).mpr (all b hb)

end reordered

section forall₂

variable {R : β → γ → Prop} {l : List β} {l' : List γ}

theorem Forall₂.isEmpty_eq (h : Forall₂ R l l') : l.isEmpty = l'.isEmpty := by
  cases h <;> rfl

theorem Forall₂.any_eq (h : Forall₂ R l l') {p : β → Bool} {q : γ → Bool}
    (hpq : ∀ b c, R b c → p b = q c) : l.any p = l'.any q := by
  induction h with
  | nil => rfl
  | cons hbc _ ih => rw [any_cons, any_cons, hpq _ _ hbc, ih]

theorem forall₂_filterMap {f : α → Option β} {g : α → Option γ} (items : List α)
    (h : ∀ item ∈ items, Option.Rel R (f item) (g item)) :
    Forall₂ R (items.filterMap f) (items.filterMap g) := by
  induction items with
  | nil => exact .nil
  | cons item items ih =>
    have hrest := ih fun other hother => h other (mem_cons_of_mem _ hother)
    have hitem := h item mem_cons_self
    rw [filterMap_cons, filterMap_cons]
    revert hitem
    cases f item <;> cases g item <;> intro hitem
    · exact hrest
    · cases hitem
    · cases hitem
    · cases hitem with
      | some hbc => exact .cons hbc hrest

end forall₂

section mapM

variable {f : α → Option β}

theorem forall₂_of_mapM {l : List α} {l' : List β} (h : l.mapM f = some l') :
    Forall₂ (fun a b => f a = some b) l l' := by
  induction l generalizing l' with
  | nil =>
    cases h
    exact .nil
  | cons a l ih =>
    rw [mapM_cons] at h
    cases ha : f a with
    | none => rw [ha] at h; cases h
    | some b =>
      cases hl : l.mapM f with
      | none => rw [ha, hl] at h; cases h
      | some rest =>
        rw [ha, hl] at h
        cases h
        exact .cons ha (ih hl)

theorem mapM_isSome_iff {l : List α} : (l.mapM f).isSome ↔ ∀ a ∈ l, (f a).isSome := by
  induction l with
  | nil => simp
  | cons a l ih =>
    rw [mapM_cons, forall_mem_cons, ← ih]
    cases f a <;> cases l.mapM f <;> simp

end mapM

/-- Sorting forgets the order if no two items are each below the other. -/
theorem Perm.insertionSort_eq {r : α → α → Prop} [DecidableRel r] [Std.Total r] [IsTrans α r]
    {l l' : List α} (h : l.Perm l') (antisymm : ∀ a ∈ l, ∀ b ∈ l, r a b → r b a → a = b) :
    l.insertionSort r = l'.insertionSort r := by
  have hperm := (perm_insertionSort r l).trans (h.trans (perm_insertionSort r l').symm)
  refine hperm.eq_of_pairwise (fun a b ha hb => ?_) (pairwise_insertionSort r l)
    (pairwise_insertionSort r l')
  rw [mem_insertionSort] at ha hb
  exact antisymm a ha b (h.mem_iff.mpr hb)

end List

namespace Dict

variable {α κ : Type} [DecidableEq κ] {key : α → κ} {items items' : List α}

theorem nodup_keys_groupBy (key : α → κ) (items : List α) : (keys (groupBy key items)).Nodup :=
  nodup_keys_foldl_append List.nodup_nil

theorem mem_keys_groupBy {k : κ} : k ∈ keys (groupBy key items) ↔ ∃ item ∈ items, key item = k := by
  rw [groupBy, mem_keys_foldl_append]
  simp [keys]

/-- A group is all there is under its key. -/
theorem groupBy_eq (key : α → κ) (items : List α) :
    groupBy key items
      = (keys (groupBy key items)).map fun k => (k, items.filter (key · = k)) := by
  rw [keys, List.map_map]
  refine (List.map_id' _).symm.trans (List.map_congr_left fun group hgroup => ?_)
  obtain ⟨hitems, -⟩ := mem_groupBy.mp hgroup
  rw [Function.comp_apply, ← hitems]

theorem keys_groupBy_perm (key : α → κ) (h : items.Perm items') :
    (keys (groupBy key items)).Perm (keys (groupBy key items')) := by
  rw [List.perm_ext_iff_of_nodup (nodup_keys_groupBy key items) (nodup_keys_groupBy key items')]
  intro k
  rw [mem_keys_groupBy, mem_keys_groupBy]
  exact exists_congr fun item => and_congr_left fun _ => h.mem_iff

/-- **Sorted groups**: the keys in their order, and under each of them its items. -/
theorem sorted_groupBy_eq (r : κ → κ → Prop) [DecidableRel r] (key : α → κ) (items : List α) :
    (groupBy key items).insertionSort (fun a b => r a.1 b.1)
      = ((keys (groupBy key items)).insertionSort r).map
          fun k => (k, items.filter (key · = k)) := by
  conv_lhs => rw [groupBy_eq key items]
  exact (List.map_insertionSort r (fun a b : κ × List α => r a.1 b.1) _ _ fun a _ b _ => Iff.rfl).symm

/-- **Order independence**: what is made of each sorted group depends on the order of the items no
more than it does inside a group. -/
theorem forall₂_sorted_groupBy {β : Type} {R : β → β → Prop} {r : κ → κ → Prop} [DecidableRel r]
    [Std.Total r] [IsTrans κ r] (key : α → κ) {f : κ × List α → β} (h : items.Perm items')
    (antisymm : ∀ a b, r a b → r b a → a = b)
    (hf : ∀ k group group', group.Perm group' → R (f (k, group)) (f (k, group'))) :
    List.Forall₂ R (((groupBy key items).insertionSort (fun a b => r a.1 b.1)).map f)
      (((groupBy key items').insertionSort (fun a b => r a.1 b.1)).map f) := by
  have hkeys := (keys_groupBy_perm key h).insertionSort_eq (r := r)
    fun a _ b _ => antisymm a b
  rw [sorted_groupBy_eq r, sorted_groupBy_eq r, hkeys, List.map_map, List.map_map,
    List.forall₂_map_left_iff, List.forall₂_map_right_iff, List.forall₂_same]
  exact fun k _ => hf k _ _ (h.filter _)

theorem flatMap_filter_perm {ks : List κ} (h : ks.Nodup) (key : α → κ) (items : List α) :
    (ks.flatMap fun k => items.filter (key · = k)).Perm (items.filter (key · ∈ ks)) := by
  induction ks with
  | nil => simp
  | cons k ks ih =>
    obtain ⟨hnotin, hrest⟩ := List.nodup_cons.mp h
    rw [List.flatMap_cons]
    refine ((ih hrest).append_left _).trans ?_
    clear ih
    -- the items under `k` are none of those under the other keys
    induction items with
    | nil => simp
    | cons item items ih =>
      by_cases hk : key item = k
      · subst hk
        simpa [hnotin] using ih
      · by_cases hin : key item ∈ ks
        · simpa [hk, hin] using List.perm_middle.trans (ih.cons item)
        · simpa [hk, hin] using ih

/-- Each item is in one group. -/
theorem flatMap_groupBy_perm (key : α → κ) (items : List α) :
    ((groupBy key items).flatMap (·.2)).Perm items := by
  rw [groupBy_eq, List.flatMap_map]
  refine (flatMap_filter_perm (nodup_keys_groupBy key items) key items).trans ?_
  rw [List.filter_eq_self.mpr]
  intro item hitem
  simpa using mem_keys_groupBy.mpr ⟨item, hitem, rfl⟩

end Dict
