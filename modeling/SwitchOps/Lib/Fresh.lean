import Mathlib.Data.List.Nodup
import Mathlib.Data.List.Sublists

/-!
# Lists of items with fresh keys

Items are added to a list one after the other, each only if no item of the list has its key.
-/

namespace List

variable {α β γ : Type}

/-- Two functions that tell the same items apart give distinct values together. -/
theorem nodup_map_iff_of_eq_iff {f : α → β} {g : α → γ} {l : List α} (same : ∀ a ∈ l, ∀ b ∈ l, f a = f b ↔ g a = g b) :
    (l.map f).Nodup ↔ (l.map g).Nodup := by
  unfold List.Nodup
  rw [List.pairwise_map, List.pairwise_map]
  exact Pairwise.iff_of_mem fun ha hb => not_congr (same _ ha _ hb)

end List

namespace Fresh

variable {α κ : Type} [DecidableEq κ] (key : α → κ)

/-- Add an item, unless one with its key is there. -/
def add (items : List α) (item : α) : List α :=
  if items.any (key · = key item) then items else items ++ [item]

/-- Add items one after the other. -/
def addAll (items new : List α) : List α := new.foldl (add key) items

variable {key} {items new : List α} {item : α} {k : κ}

@[simp] theorem addAll_nil : addAll key items [] = items := rfl

theorem addAll_cons : addAll key items (item :: new) = addAll key (add key items item) new := rfl

theorem any_iff : items.any (key · = key item) = true ↔ key item ∈ items.map key := by
  simp only [List.any_eq_true, decide_eq_true_eq, List.mem_map]

theorem mem_keys_add : k ∈ (add key items item).map key ↔ k ∈ items.map key ∨ k = key item := by
  unfold add
  split
  · next known =>
    rw [any_iff] at known
    constructor
    · exact .inl
    · rintro (here | rfl)
      · exact here
      · exact known
  · rw [List.map_append, List.mem_append, List.map_singleton, List.mem_singleton]

theorem nodup_add_iff : ((add key items item).map key).Nodup ↔ (items.map key).Nodup := by
  unfold add
  split
  · exact Iff.rfl
  · next unknown =>
    rw [any_iff] at unknown
    rw [List.map_append, List.map_singleton, ← List.concat_eq_append, List.nodup_concat]
    exact and_iff_right unknown

theorem mem_keys_addAll : k ∈ (addAll key items new).map key ↔ k ∈ items.map key ∨ k ∈ new.map key := by
  induction new generalizing items with
  | nil => simp
  | cons item new ih =>
    rw [addAll_cons, ih, mem_keys_add, List.map_cons, List.mem_cons, or_assoc]

/-- **Fresh keys**: adding items keeps the keys distinct, and does not make them so. -/
theorem nodup_addAll_iff : ((addAll key items new).map key).Nodup ↔ (items.map key).Nodup := by
  induction new generalizing items with
  | nil => exact Iff.rfl
  | cons item new ih => rw [addAll_cons, ih, nodup_add_iff]

theorem mem_addAll_of_mem (here : item ∈ items) : item ∈ addAll key items new := by
  induction new generalizing items with
  | nil => exact here
  | cons next new ih =>
    rw [addAll_cons]
    refine ih ?_
    unfold add
    split
    · exact here
    · exact List.mem_append_left _ here

theorem mem_of_mem_addAll (here : item ∈ addAll key items new) : item ∈ items ∨ item ∈ new := by
  induction new generalizing items with
  | nil => exact .inl here
  | cons next new ih =>
    rw [addAll_cons] at here
    rcases ih here with known | later
    · unfold add at known
      split at known
      · exact .inl known
      · rcases List.mem_append.mp known with known | first
        · exact .inl known
        · exact .inr (List.mem_cons.mpr (.inl (List.mem_singleton.mp first)))
    · exact .inr (List.mem_cons_of_mem _ later)

/-- **Counting a class**: of a class that the keys decide, as many items are added as it has keys. -/
theorem countP_addAll {γ : Type} [DecidableEq γ] {class_ : α → γ}
    (decided : ∀ a ∈ new, ∀ b ∈ new, key a = key b → class_ a = class_ b) {c : γ} {keys : List κ}
    (distinct : keys.Nodup) (these : ∀ k, k ∈ keys ↔ ∃ a ∈ new, class_ a = c ∧ key a = k) :
    (addAll key [] new).countP (class_ · = c) = keys.length := by
  have added : ∀ a ∈ addAll key [] new, a ∈ new := fun a here =>
    (mem_of_mem_addAll here).resolve_left List.not_mem_nil
  have unique : ((addAll key [] new).filter (class_ · = c)).map key |>.Nodup :=
    (List.filter_sublist.map key).nodup (nodup_addAll_iff.mpr List.nodup_nil)
  have same : (((addAll key [] new).filter (class_ · = c)).map key).Perm keys := by
    refine (List.perm_ext_iff_of_nodup unique distinct).mpr fun k => ?_
    rw [these, List.mem_map]
    constructor
    · rintro ⟨a, here, rfl⟩
      rw [List.mem_filter, decide_eq_true_eq] at here
      exact ⟨a, added a here.1, here.2, rfl⟩
    · rintro ⟨a, here, member, rfl⟩
      have represented : key a ∈ (addAll key [] new).map key :=
        mem_keys_addAll.mpr (.inr (List.mem_map_of_mem here))
      obtain ⟨b, there, sameKey⟩ := List.mem_map.mp represented
      refine ⟨b, List.mem_filter.mpr ⟨there, ?_⟩, sameKey⟩
      rw [decide_eq_true_eq, decided b (added b there) a here sameKey, member]
  rw [List.countP_eq_length_filter, ← List.length_map key, same.length_eq]

end Fresh
