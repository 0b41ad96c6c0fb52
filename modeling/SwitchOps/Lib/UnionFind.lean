import Mathlib.Data.List.Basic
import Mathlib.Logic.Function.Iterate
import Mathlib.Logic.Relation
import Mathlib.Order.MinMax

/-!
# Union-find by pointers that descend

A forest on the elements of a linear order, as the map `parents` from each element to its parent.
Parents are never greater than their children, so a path ends at a root after at most as many
steps as there are smaller elements. `find` halves the path it follows, `union` points the
greater of two roots at the lesser, and what matters of the forest is the equivalence its edges
generate:

* `Found` — what `find` does: it returns the root, and keeps the equivalence;
* `same_joinAll` — after joining a list of pairs, exactly what the pairs generate is the same;
* `find_eq_iff` — two elements have one root just if they are the same.
-/

namespace UnionFind

open Relation

variable {κ : Type}

section forest

variable [LinearOrder κ]

/-- The root of `value`, and the forest with the path to it halved. -/
def find : Nat → (κ → κ) → κ → κ × (κ → κ)
  | 0, parents, value => (value, parents)
  | fuel + 1, parents, value =>
    if parents value = value then (value, parents)
    else
      let grandparent := parents (parents value)
      find fuel (Function.update parents value grandparent) grandparent

/-- Join the trees of `left` and `right`. -/
def union (fuel : Nat) (parents : κ → κ) (left right : κ) : κ → κ :=
  let (a, parents) := find fuel parents left
  let (b, parents) := find fuel parents right
  if a = b then parents else Function.update parents (max a b) (min a b)

/-- Join the two elements of each pair. -/
def joinAll (fuel : Nat) (parents : κ → κ) (pairs : List (κ × κ)) : κ → κ :=
  pairs.foldl (fun parents pair => union fuel parents pair.1 pair.2) parents

end forest

/-- To be in one tree. -/
def Same (parents : κ → κ) : κ → κ → Prop := EqvGen fun a b => parents a = b

/-- Pointers lead to elements that are not greater, and stay among the keys. -/
structure Descends [LE κ] (keys : List κ) (parents : κ → κ) : Prop where
  le : ∀ k, parents k ≤ k
  mem : ∀ k ∈ keys, parents k ∈ keys

/-! ### Equivalences by generators -/

theorem eqvGen_of {α : Type} {r s : α → α → Prop} {a b : α} (h : EqvGen r a b)
    (hrs : ∀ a b, r a b → EqvGen s a b) : EqvGen s a b := by
  induction h with
  | rel a b hab => exact hrs a b hab
  | refl a => exact .refl a
  | symm a b _ ih => exact .symm _ _ ih
  | trans a b c _ _ ihab ihbc => exact .trans _ _ _ ihab ihbc

theorem same_id {a b : κ} : Same id a b ↔ a = b := by
  constructor
  · intro h
    induction h with
    | rel a b hab => exact hab
    | refl a => rfl
    | symm a b _ ih => exact ih.symm
    | trans a b c _ _ ihab ihbc => exact ihab.trans ihbc
  · rintro rfl
    exact .refl a

theorem same_parent (parents : κ → κ) (a : κ) : Same parents a (parents a) := .rel _ _ rfl

/-- Elements of one tree have a common ancestor. -/
theorem exists_ancestor {parents : κ → κ} {a b : κ} (h : Same parents a b) :
    ∃ m n, parents^[m] a = parents^[n] b := by
  induction h with
  | rel a b hab => exact ⟨1, 0, hab⟩
  | refl a => exact ⟨0, 0, rfl⟩
  | symm a b _ ih =>
    obtain ⟨m, n, hmn⟩ := ih
    exact ⟨n, m, hmn.symm⟩
  | trans a b c _ _ ihab ihbc =>
    obtain ⟨m, n, hmn⟩ := ihab
    obtain ⟨m', n', hmn'⟩ := ihbc
    refine ⟨m' + m, n + n', ?_⟩
    rw [Function.iterate_add_apply, hmn, ← Function.iterate_add_apply, Nat.add_comm m' n,
      Function.iterate_add_apply, hmn', ← Function.iterate_add_apply]

/-- A tree has one root. -/
theorem eq_of_same_of_root {parents : κ → κ} {a b : κ} (h : Same parents a b)
    (ha : parents a = a) (hb : parents b = b) : a = b := by
  obtain ⟨m, n, hmn⟩ := exists_ancestor h
  rwa [Function.iterate_fixed ha, Function.iterate_fixed hb] at hmn

/-! ### `find` -/

variable [LinearOrder κ] {keys : List κ} {fuel : Nat} {parents : κ → κ}

theorem Descends.id (keys : List κ) : Descends keys id := ⟨fun _ => le_rfl, fun _ hk => hk⟩

theorem Descends.update (h : Descends keys parents)
    {value target : κ} (hle : target ≤ value) (hmem : target ∈ keys) :
    Descends keys (Function.update parents value target) := by
  constructor
  · intro k
    by_cases hk : k = value
    · subst hk
      simpa using hle
    · simpa [hk] using h.le k
  · intro k hkeys
    by_cases hk : k = value
    · subst hk
      simpa using hmem
    · simpa [hk] using h.mem k hkeys

omit [LinearOrder κ] in
/-- Halving a path keeps the trees. -/
theorem same_halved [DecidableEq κ] {value : κ} (hne : parents value ≠ value) {a b : κ} :
    Same (Function.update parents value (parents (parents value))) a b ↔ Same parents a b := by
  constructor
  · refine fun h => eqvGen_of h fun a b hab => ?_
    by_cases ha : a = value
    · subst ha
      rw [Function.update_self] at hab
      subst hab
      exact .trans _ _ _ (same_parent parents a) (same_parent parents _)
    · rw [Function.update_of_ne ha] at hab
      exact .rel _ _ hab
  · refine fun h => eqvGen_of h fun a b hab => ?_
    by_cases ha : a = value
    · -- the old edge from `value` is now the way over its grandparent
      subst ha
      subst hab
      refine .trans _ _ _ (.rel _ _ (Function.update_self ..)) (.symm _ _ (.rel _ _ ?_))
      exact Function.update_of_ne hne ..
    · exact .rel _ _ ((Function.update_of_ne ha ..).trans hab)

/-- The number of keys a path from `value` may still pass. -/
def rank (keys : List κ) (value : κ) : Nat := (keys.filter (· < value)).length

theorem rank_lt {a b : κ} (hmem : a ∈ keys) (hlt : a < b) :
    rank keys a < rank keys b := by
  have hsub : (keys.filter (· < a)).Sublist (keys.filter (· < b)) := by
    apply List.monotone_filter_right
    intro k hk
    simp at hk ⊢
    exact hk.trans hlt
  refine Nat.lt_of_le_of_ne hsub.length_le fun heq => ?_
  have hall := hsub.eq_of_length heq
  have hin : a ∈ keys.filter (· < b) := by simp [hmem, hlt]
  rw [← hall] at hin
  simp at hin

theorem rank_le_length (keys : List κ) (value : κ) : rank keys value ≤ keys.length :=
  List.length_filter_le _ _

/-- What `find` returns for `value`. -/
structure Found (keys : List κ) (parents : κ → κ) (value : κ) (result : κ × (κ → κ)) : Prop where
  descends : Descends keys result.2
  mem : result.1 ∈ keys
  root : result.2 result.1 = result.1
  roots : ∀ r, result.2 r = r ↔ parents r = r
  same : ∀ a b, Same result.2 a b ↔ Same parents a b
  reached : Same parents value result.1

theorem found_find {value : κ}
    (h : Descends keys parents) (hmem : value ∈ keys) (hfuel : rank keys value ≤ fuel) :
    Found keys parents value (find fuel parents value) := by
  induction fuel generalizing parents value with
  | zero =>
    -- nothing is smaller than `value`, so it is a root
    have hroot : parents value = value := by
      by_contra hne
      have := rank_lt (h.mem value hmem) (lt_of_le_of_ne (h.le value) hne)
      omega
    exact ⟨h, hmem, hroot, fun _ => Iff.rfl, fun _ _ => Iff.rfl, .refl value⟩
  | succ fuel ih =>
    rw [find]
    split
    · next hroot => exact ⟨h, hmem, hroot, fun _ => Iff.rfl, fun _ _ => Iff.rfl, .refl value⟩
    · next hne =>
      have hparent := h.mem value hmem
      have hgrand := h.mem _ hparent
      have hlt : parents (parents value) < value :=
        lt_of_le_of_lt (h.le _) (lt_of_le_of_ne (h.le value) hne)
      have hrank := rank_lt hgrand hlt
      have hfound := ih (h.update hlt.le hgrand) hgrand (by omega)
      refine ⟨hfound.descends, hfound.mem, hfound.root, fun r => ?_, fun a b => ?_, ?_⟩
      · rw [hfound.roots]
        by_cases hr : r = value
        · subst hr
          simp [hne, hlt.ne]
        · rw [Function.update_of_ne hr]
      · exact (hfound.same a b).trans (same_halved hne)
      · have hreached := (same_halved hne).mp hfound.reached
        exact .trans _ _ _ (same_parent parents value)
          (.trans _ _ _ (same_parent parents _) hreached)

/-! ### `union` -/

omit [LinearOrder κ] in
/-- Pointing one root at another joins their trees and nothing else. -/
theorem same_update_root [DecidableEq κ] {a b : κ} (hb : parents b = b) {x y : κ} :
    Same (Function.update parents b a) x y ↔
      EqvGen (fun x y => Same parents x y ∨ x = b ∧ y = a) x y := by
  constructor
  · refine fun h => eqvGen_of h fun x y hxy => ?_
    by_cases hx : x = b
    · subst hx
      rw [Function.update_self] at hxy
      exact .rel _ _ (.inr ⟨rfl, hxy.symm⟩)
    · rw [Function.update_of_ne hx] at hxy
      exact .rel _ _ (.inl (.rel _ _ hxy))
  · refine fun h => eqvGen_of h fun x y hxy => ?_
    rcases hxy with hxy | ⟨rfl, rfl⟩
    · refine eqvGen_of hxy fun x y hxy => ?_
      by_cases hx : x = b
      · subst hx
        rw [hb] at hxy
        subst hxy
        exact .refl _
      · exact .rel _ _ ((Function.update_of_ne hx ..).trans hxy)
    · exact .rel _ _ (Function.update_self ..)

theorem union_spec {left right : κ}
    (h : Descends keys parents) (hleft : left ∈ keys) (hright : right ∈ keys)
    (hfuel : keys.length ≤ fuel) :
    Descends keys (union fuel parents left right) ∧
      ∀ x y, Same (union fuel parents left right) x y ↔
        EqvGen (fun x y => Same parents x y ∨ x = left ∧ y = right) x y := by
  have hfirst := found_find h hleft (Nat.le_trans (rank_le_length _ _) hfuel)
  have hsecond := found_find hfirst.descends hright (Nat.le_trans (rank_le_length _ _) hfuel)
  unfold union
  generalize hfind : find fuel parents left = first at hfirst hsecond ⊢
  obtain ⟨a, parents₁⟩ := first
  dsimp only at hfirst hsecond ⊢
  generalize hfind' : find fuel parents₁ right = second at hsecond ⊢
  obtain ⟨b, parents₂⟩ := second
  dsimp only at hsecond ⊢
  have hsame (x y : κ) : Same parents₂ x y ↔ Same parents x y :=
    (hsecond.same x y).trans (hfirst.same x y)
  have hleftroot : Same parents left a := hfirst.reached
  have hrightroot : Same parents right b := (hfirst.same _ _).mp hsecond.reached
  split
  · next heq =>
    -- already in one tree
    subst heq
    refine ⟨hsecond.descends, fun x y => (hsame x y).trans ⟨fun hxy => .rel _ _ (.inl hxy), ?_⟩⟩
    refine fun hxy => eqvGen_of hxy fun x y hxy => ?_
    rcases hxy with hxy | ⟨rfl, rfl⟩
    · exact hxy
    · exact .trans _ _ _ hleftroot (.symm _ _ hrightroot)
  · next hne =>
    have ha : parents₂ a = a := (hsecond.roots a).mpr hfirst.root
    have hb : parents₂ b = b := hsecond.root
    -- whichever of the two is the greater, it is a root that is pointed at the other
    have hjoined : ∀ x y, Same (Function.update parents₂ (max a b) (min a b)) x y ↔
        EqvGen (fun x y => Same parents₂ x y ∨ x = max a b ∧ y = min a b) x y := by
      intro x y
      apply same_update_root
      rcases max_choice a b with hmax | hmax
      · rw [hmax, ha]
      · rw [hmax, hb]
    refine ⟨hsecond.descends.update min_le_max ?_, fun x y => (hjoined x y).trans ⟨?_, ?_⟩⟩
    · rcases min_choice a b with hmin | hmin
      · rw [hmin]
        exact hfirst.mem
      · rw [hmin]
        exact hsecond.mem
    · refine fun hxy => eqvGen_of hxy fun x y hxy => ?_
      have hab : EqvGen (fun x y => Same parents x y ∨ x = left ∧ y = right) a b :=
        .trans _ _ _ (.symm _ _ (.rel _ _ (.inl hleftroot)))
          (.trans _ _ _ (.rel _ _ (.inr ⟨rfl, rfl⟩)) (.rel _ _ (.inl hrightroot)))
      rcases hxy with hxy | ⟨rfl, rfl⟩
      · exact .rel _ _ (.inl ((hsame x y).mp hxy))
      · rcases le_total a b with hle | hle
        · rw [max_eq_right hle, min_eq_left hle]
          exact .symm _ _ hab
        · rw [max_eq_left hle, min_eq_right hle]
          exact hab
    · refine fun hxy => eqvGen_of hxy fun x y hxy => ?_
      have hab : EqvGen (fun x y => Same parents₂ x y ∨ x = max a b ∧ y = min a b) a b := by
        rcases le_total a b with hle | hle
        · rw [max_eq_right hle, min_eq_left hle]
          exact .symm _ _ (.rel _ _ (.inr ⟨rfl, rfl⟩))
        · rw [max_eq_left hle, min_eq_right hle]
          exact .rel _ _ (.inr ⟨rfl, rfl⟩)
      rcases hxy with hxy | ⟨rfl, rfl⟩
      · exact .rel _ _ (.inl ((hsame x y).mpr hxy))
      · exact .trans _ _ _ (.rel _ _ (.inl ((hsame _ _).mpr hleftroot)))
          (.trans _ _ _ hab (.symm _ _ (.rel _ _ (.inl ((hsame _ _).mpr hrightroot)))))

/-- **Joining a list of pairs** puts together what the pairs generate, and nothing else. -/
theorem same_joinAll {pairs : List (κ × κ)} (h : Descends keys parents)
    (hpairs : ∀ pair ∈ pairs, pair.1 ∈ keys ∧ pair.2 ∈ keys) (hfuel : keys.length ≤ fuel) :
    Descends keys (joinAll fuel parents pairs) ∧
      ∀ x y, Same (joinAll fuel parents pairs) x y ↔
        EqvGen (fun x y => Same parents x y ∨ (x, y) ∈ pairs) x y := by
  induction pairs generalizing parents with
  | nil =>
    refine ⟨h, fun x y => ⟨fun hxy => .rel _ _ (.inl hxy), ?_⟩⟩
    refine fun hxy => eqvGen_of hxy fun x y hxy => ?_
    rcases hxy with hxy | hxy
    · exact hxy
    · cases hxy
  | cons pair pairs ih =>
    obtain ⟨left, right⟩ := pair
    obtain ⟨hleft, hright⟩ := hpairs _ List.mem_cons_self
    obtain ⟨hdescends, hunion⟩ := union_spec h hleft hright hfuel
    obtain ⟨hdescends', hrest⟩ := ih hdescends fun pair hpair =>
      hpairs pair (List.mem_cons_of_mem _ hpair)
    refine ⟨hdescends', fun x y => (hrest x y).trans ⟨?_, ?_⟩⟩
    · refine fun hxy => eqvGen_of hxy fun x y hxy => ?_
      rcases hxy with hxy | hxy
      · refine eqvGen_of ((hunion x y).mp hxy) fun x y hxy => ?_
        rcases hxy with hxy | ⟨rfl, rfl⟩
        · exact .rel _ _ (.inl hxy)
        · exact .rel _ _ (.inr List.mem_cons_self)
      · exact .rel _ _ (.inr (List.mem_cons_of_mem _ hxy))
    · refine fun hxy => eqvGen_of hxy fun x y hxy => ?_
      rcases hxy with hxy | hxy
      · exact .rel _ _ (.inl ((hunion x y).mpr (.rel _ _ (.inl hxy))))
      · rcases List.mem_cons.mp hxy with hxy | hxy
        · cases hxy
          exact .rel _ _ (.inl ((hunion left right).mpr (.rel _ _ (.inr ⟨rfl, rfl⟩))))
        · exact .rel _ _ (.inr hxy)

/-- A forest that later `find`s may have left of `parents`. -/
structure Kept (keys : List κ) (parents later : κ → κ) : Prop where
  descends : Descends keys later
  roots : ∀ r, later r = r ↔ parents r = r
  same : ∀ a b, Same later a b ↔ Same parents a b

theorem Kept.refl (h : Descends keys parents) : Kept keys parents parents :=
  ⟨h, fun _ => Iff.rfl, fun _ _ => Iff.rfl⟩

theorem Kept.find {later : κ → κ} {value : κ} (h : Kept keys parents later) (hmem : value ∈ keys)
    (hfuel : keys.length ≤ fuel) : Kept keys parents (find fuel later value).2 := by
  have hfound := found_find h.descends hmem (Nat.le_trans (rank_le_length _ _) hfuel)
  exact ⟨hfound.descends, fun r => (hfound.roots r).trans (h.roots r), fun a b =>
    (hfound.same a b).trans (h.same a b)⟩

/-- The root of an element does not depend on what has been halved. -/
theorem Kept.find_eq {later : κ → κ} {value : κ} (h : Kept keys parents later)
    (hparents : Descends keys parents) (hmem : value ∈ keys) (hfuel : keys.length ≤ fuel) :
    (UnionFind.find fuel later value).1 = (UnionFind.find fuel parents value).1 := by
  have hlater := found_find h.descends hmem (Nat.le_trans (rank_le_length _ _) hfuel)
  have hfound := found_find hparents hmem (Nat.le_trans (rank_le_length _ _) hfuel)
  have hroot : parents (UnionFind.find fuel later value).1 = (UnionFind.find fuel later value).1 :=
    (h.roots _).mp ((hlater.roots _).mp hlater.root)
  have hroot' := (hfound.roots _).mp hfound.root
  have hreached : Same parents value (UnionFind.find fuel later value).1 :=
    (h.same _ _).mp hlater.reached
  exact eq_of_same_of_root (.trans _ _ _ (.symm _ _ hreached) hfound.reached) hroot hroot'

/-- **Roots decide**: two keys have one root just if they are in one tree. -/
theorem find_eq_iff {a b : κ} (h : Descends keys parents) (ha : a ∈ keys) (hb : b ∈ keys)
    (hfuel : keys.length ≤ fuel) :
    (find fuel parents a).1 = (find fuel parents b).1 ↔ Same parents a b := by
  have hfirst := found_find h ha (Nat.le_trans (rank_le_length _ _) hfuel)
  have hsecond := found_find h hb (Nat.le_trans (rank_le_length _ _) hfuel)
  constructor
  · intro heq
    exact .trans _ _ _ hfirst.reached (heq ▸ .symm _ _ hsecond.reached)
  · intro hab
    have hroots : Same parents (find fuel parents a).1 (find fuel parents b).1 :=
      .trans _ _ _ (.symm _ _ hfirst.reached) (.trans _ _ _ hab hsecond.reached)
    exact eq_of_same_of_root hroots ((hfirst.roots _).mp hfirst.root)
      ((hsecond.roots _).mp hsecond.root)

end UnionFind
