import Mathlib.Data.List.Induction
import Mathlib.Data.List.Nodup
import Mathlib.Data.List.Perm.Subperm

/-!
# Insertion-ordered dictionaries

A `Dict` lists its entries in the order in which their keys were first stored, as Python's `dict`
does. Storing under a key that is present keeps its place.
-/

/-- A dictionary, as the list of its entries. -/
abbrev Dict (κ β : Type) := List (κ × β)

namespace Dict

variable {κ β : Type} [DecidableEq κ]

/-- `d.get(k)`. -/
def get? : Dict κ β → κ → Option β
  | [], _ => none
  | (k', v) :: d, k => if k' = k then some v else get? d k

/-- `d[k] = v`. -/
def set : Dict κ β → κ → β → Dict κ β
  | [], k, v => [(k, v)]
  | (k', v') :: d, k, v => if k' = k then (k, v) :: d else (k', v') :: set d k v

/-- `d.pop(k, None)`. -/
def pop (d : Dict κ β) (k : κ) : Dict κ β := d.filter fun p => p.1 ≠ k

/-- `{k: v for ...}`: of several entries with one key the last counts. -/
def ofList (ps : List (κ × β)) : Dict κ β := ps.foldl (fun d p => set d p.1 p.2) []

/-- `d.keys()`. -/
def keys (d : Dict κ β) : List κ := d.map (·.1)

/-- `d.values()`. -/
def values (d : Dict κ β) : List β := d.map (·.2)

@[simp] theorem get?_nil (k : κ) : get? ([] : Dict κ β) k = none := rfl

theorem get?_set_self (d : Dict κ β) (k : κ) (v : β) : get? (set d k v) k = some v := by
  induction d with
  | nil => simp [set, get?]
  | cons p d ih =>
    rw [set]
    split
    · simp [get?]
    · next h => rw [get?, if_neg h, ih]

theorem get?_set_ne {d : Dict κ β} {k k' : κ} (v : β) (h : k ≠ k') :
    get? (set d k v) k' = get? d k' := by
  induction d with
  | nil => simp [set, get?, h]
  | cons p d ih =>
    rw [set]
    split
    · next hp =>
      subst hp
      rw [get?, get?, if_neg h, if_neg h]
    · rw [get?, get?, ih]

theorem get?_pop_self (d : Dict κ β) (k : κ) : get? (pop d k) k = none := by
  induction d with
  | nil => rfl
  | cons p d ih =>
    by_cases h : p.1 = k
    · simpa [pop, h] using ih
    · rw [pop, List.filter_cons_of_pos (by simpa using h), get?, if_neg h]
      exact ih

theorem get?_pop_ne {d : Dict κ β} {k k' : κ} (h : k ≠ k') : get? (pop d k) k' = get? d k' := by
  induction d with
  | nil => rfl
  | cons p d ih =>
    by_cases hp : p.1 = k
    · rw [pop, List.filter_cons_of_neg (by simpa using hp), get?, if_neg (by rw [hp]; exact h)]
      exact ih
    · rw [pop, List.filter_cons_of_pos (by simpa using hp), get?, get?]
      rw [show get? (d.filter fun p => p.1 ≠ k) k' = get? d k' from ih]

/-- The value under `k` after storing `ps` one after the other is the last one stored, or the
one that was there. -/
theorem get?_foldl_set (ps : List (κ × β)) (d : Dict κ β) (k : κ) :
    get? (ps.foldl (fun d p => set d p.1 p.2) d) k
      = ((ps.reverse.find? fun p => p.1 = k).map (·.2)).or (get? d k) := by
  induction ps generalizing d with
  | nil => rfl
  | cons p ps ih =>
    rw [List.foldl_cons, ih, List.reverse_cons, List.find?_append]
    cases hfind : ps.reverse.find? fun p => decide (p.1 = k) with
    | some q => rfl
    | none =>
      by_cases hp : p.1 = k
      · subst hp
        simp [get?_set_self]
      · simp [hp, get?_set_ne p.2 hp]

/-- Of several entries with one key, a comprehension keeps the last. -/
theorem get?_ofList (ps : List (κ × β)) (k : κ) :
    get? (ofList ps) k = (ps.reverse.find? fun p => p.1 = k).map (·.2) := by
  rw [ofList, get?_foldl_set]
  cases (ps.reverse.find? fun p => decide (p.1 = k)) <;> rfl

theorem get?_isSome_iff {d : Dict κ β} {k : κ} : (get? d k).isSome ↔ k ∈ keys d := by
  induction d with
  | nil => simp [keys]
  | cons p d ih =>
    rw [get?]
    split
    · next h => simp [keys, h]
    · next h =>
      rw [ih]
      simp [keys, Ne.symm h]

theorem mem_of_get? {d : Dict κ β} {k : κ} {v : β} (h : get? d k = some v) : (k, v) ∈ d := by
  induction d with
  | nil => cases h
  | cons p d ih =>
    rw [get?] at h
    split at h
    · next hp =>
      cases h
      subst hp
      exact List.mem_cons_self
    · exact List.mem_cons_of_mem _ (ih h)

theorem mem_set {d : Dict κ β} {k : κ} {v : β} {p : κ × β} (h : p ∈ set d k v) :
    p = (k, v) ∨ p ∈ d := by
  induction d with
  | nil =>
    rw [set, List.mem_singleton] at h
    exact .inl h
  | cons q d ih =>
    rw [set] at h
    split at h
    · rcases List.mem_cons.mp h with h | h
      · exact .inl h
      · exact .inr (List.mem_cons_of_mem _ h)
    · rcases List.mem_cons.mp h with rfl | h
      · exact .inr List.mem_cons_self
      · exact (ih h).imp_right (List.mem_cons_of_mem _)

theorem mem_pop {d : Dict κ β} {k : κ} {p : κ × β} (h : p ∈ pop d k) : p ∈ d :=
  List.mem_of_mem_filter h

/-! ### Keys are distinct -/

theorem keys_set (d : Dict κ β) (k : κ) (v : β) :
    keys (set d k v) = if k ∈ keys d then keys d else keys d ++ [k] := by
  induction d with
  | nil => rfl
  | cons p d ih =>
    rw [set]
    by_cases hp : p.1 = k
    · simp [keys, hp]
    · have hkeys : keys (p :: set d k v) = p.1 :: keys (set d k v) := rfl
      rw [if_neg hp, hkeys, ih]
      by_cases hk : k ∈ keys d
      · simp [keys] at hk
        simp [keys, hk]
      · simp [keys] at hk
        simp [keys, hk, Ne.symm hp]

theorem nodup_keys_set {d : Dict κ β} (h : (keys d).Nodup) (k : κ) (v : β) :
    (keys (set d k v)).Nodup := by
  rw [keys_set]
  split
  · exact h
  · next hk => exact List.nodup_append.mpr ⟨h, by simp, by simpa using fun a ha => ne_of_mem_of_not_mem ha hk⟩

theorem nodup_keys_pop {d : Dict κ β} (h : (keys d).Nodup) (k : κ) : (keys (pop d k)).Nodup :=
  h.sublist (List.filter_sublist.map _)

theorem nodup_keys_foldl_set (ps : List (κ × β)) {d : Dict κ β} (h : (keys d).Nodup) :
    (keys (ps.foldl (fun d p => set d p.1 p.2) d)).Nodup := by
  induction ps generalizing d with
  | nil => exact h
  | cons p ps ih => exact ih (nodup_keys_set h p.1 p.2)

theorem nodup_keys_ofList (ps : List (κ × β)) : (keys (ofList ps)).Nodup :=
  nodup_keys_foldl_set ps List.nodup_nil

theorem set_of_not_mem {d : Dict κ β} {k : κ} (h : k ∉ keys d) (v : β) : set d k v = d ++ [(k, v)] := by
  induction d with
  | nil => rfl
  | cons p d ih =>
    simp [keys] at h
    rw [set, if_neg (Ne.symm h.1), ih (by simpa [keys] using h.2)]
    rfl

/-- An entry is replaced in its place. -/
theorem set_append_cons {d d' : Dict κ β} {k : κ} (h : k ∉ keys d) (v v' : β) :
    set (d ++ (k, v) :: d') k v' = d ++ (k, v') :: d' := by
  induction d with
  | nil => simp [set]
  | cons p d ih =>
    have first : p.1 ≠ k := fun same => h (List.mem_cons.mpr (.inl same.symm))
    rw [List.cons_append, set, if_neg first, ih fun here => h (List.mem_cons_of_mem _ here), List.cons_append]

theorem foldl_set_eq_append {ps : List (κ × β)} {d : Dict κ β} (h : (keys (d ++ ps)).Nodup) :
    ps.foldl (fun d p => set d p.1 p.2) d = d ++ ps := by
  induction ps generalizing d with
  | nil => simp
  | cons p ps ih =>
    have hkey : p.1 ∉ keys d := by
      simp only [keys, List.map_append, List.map_cons, List.nodup_append] at h
      exact fun hmem => h.2.2 p.1 hmem p.1 List.mem_cons_self rfl
    rw [List.foldl_cons, set_of_not_mem hkey, ih (by simpa using h)]
    simp

/-- Entries with distinct keys are kept as they are. -/
theorem ofList_eq_self {d : Dict κ β} (h : (keys d).Nodup) : ofList d = d :=
  foldl_set_eq_append (d := []) h

theorem mem_foldl_set {ps : List (κ × β)} {d : Dict κ β} {p : κ × β}
    (h : p ∈ ps.foldl (fun d p => set d p.1 p.2) d) : p ∈ ps ∨ p ∈ d := by
  induction ps generalizing d with
  | nil => exact .inr h
  | cons q ps ih =>
    rcases ih h with h | h
    · exact .inl (List.mem_cons_of_mem _ h)
    · rcases mem_set h with rfl | h
      · exact .inl List.mem_cons_self
      · exact .inr h

theorem mem_ofList {ps : List (κ × β)} {p : κ × β} (h : p ∈ ofList ps) : p ∈ ps := by
  rcases mem_foldl_set h with h | h
  · exact h
  · cases h

theorem get?_of_mem {d : Dict κ β} (h : (keys d).Nodup) {k : κ} {v : β} (hmem : (k, v) ∈ d) :
    get? d k = some v := by
  induction d with
  | nil => cases hmem
  | cons p d ih =>
    obtain ⟨hkey, hrest⟩ := List.nodup_cons.mp h
    rcases List.mem_cons.mp hmem with rfl | hmem
    · simp [get?]
    · have hne : p.1 ≠ k := by
        rintro rfl
        exact hkey (List.mem_map.mpr ⟨(p.1, v), hmem, rfl⟩)
      rw [get?, if_neg hne, ih hrest hmem]

/-! ### Values of another type -/

theorem get?_mapValues {γ : Type} (f : β → γ) (d : Dict κ β) (k : κ) :
    get? (d.map fun p => (p.1, f p.2)) k = (get? d k).map f := by
  induction d with
  | nil => rfl
  | cons p d ih =>
    rw [List.map_cons, get?, get?]
    split
    · rfl
    · exact ih

theorem set_mapValues {γ : Type} (f : β → γ) (d : Dict κ β) (k : κ) (v : β) :
    set (d.map fun p => (p.1, f p.2)) k (f v) = (set d k v).map fun p => (p.1, f p.2) := by
  induction d with
  | nil => rfl
  | cons p d ih =>
    rw [List.map_cons, set, set]
    split
    · rfl
    · rw [ih, List.map_cons]

theorem ofList_mapValues {γ : Type} (f : β → γ) (ps : List (κ × β)) :
    ofList (ps.map fun p => (p.1, f p.2)) = (ofList ps).map fun p => (p.1, f p.2) := by
  have foldl (d : Dict κ β) : (ps.map fun p => (p.1, f p.2)).foldl (fun d p => set d p.1 p.2)
        (d.map fun p => (p.1, f p.2))
      = (ps.foldl (fun d p => set d p.1 p.2) d).map fun p => (p.1, f p.2) := by
    induction ps generalizing d with
    | nil => rfl
    | cons p ps ih => rw [List.map_cons, List.foldl_cons, List.foldl_cons, set_mapValues, ih]
  exact foldl []

/-- Every value is replaced. -/
def amendAll (f : κ → β → β) (d : Dict κ β) : Dict κ β := d.map fun p => (p.1, f p.1 p.2)

theorem get?_amendAll (f : κ → β → β) (d : Dict κ β) (k : κ) : get? (amendAll f d) k = (get? d k).map (f k) := by
  induction d with
  | nil => rfl
  | cons p d ih =>
    rw [amendAll, List.map_cons, get?, get?]
    split
    · next same =>
      rw [← same]
      rfl
    · exact ih

/-- The value of one key is replaced. -/
def amend (d : Dict κ β) (k : κ) (f : β → β) : Dict κ β := amendAll (fun k' v => if k' = k then f v else v) d

theorem get?_amend_self (d : Dict κ β) (k : κ) (f : β → β) : get? (amend d k f) k = (get? d k).map f := by
  rw [amend, get?_amendAll]
  simp

theorem get?_amend_ne {d : Dict κ β} {k k' : κ} (f : β → β) (h : k ≠ k') : get? (amend d k f) k' = get? d k' := by
  rw [amend, get?_amendAll]
  simp [h.symm]

omit [DecidableEq κ] in
theorem keys_amendAll (f : κ → β → β) (d : Dict κ β) : keys (amendAll f d) = keys d := by
  rw [keys, keys, amendAll, List.map_map]
  rfl

/-! ### Grouping -/

section groups

variable {α : Type}

/-- `d[k].append(v)`, of a `defaultdict(list)`. -/
def append (d : Dict κ (List β)) (k : κ) (v : β) : Dict κ (List β) :=
  set d k ((get? d k).getD [] ++ [v])

/-- The items under each key, in their order. -/
def groupBy (key : α → κ) (items : List α) : Dict κ (List α) :=
  items.foldl (fun d item => append d (key item) item) []

variable {key : α → κ} {items : List α} {d : Dict κ (List α)} {k : κ}

theorem nodup_keys_foldl_append (h : (keys d).Nodup) :
    (keys (items.foldl (fun d item => append d (key item) item) d)).Nodup := by
  induction items generalizing d with
  | nil => exact h
  | cons item items ih => exact ih (nodup_keys_set h _ _)

theorem get?_foldl_append :
    (get? (items.foldl (fun d item => append d (key item) item) d) k).getD []
      = (get? d k).getD [] ++ items.filter (key · = k) := by
  induction items generalizing d with
  | nil => simp
  | cons item items ih =>
    rw [List.foldl_cons, ih]
    by_cases hk : key item = k
    · subst hk
      simp [append, get?_set_self]
    · simp [append, get?_set_ne _ hk, hk]

theorem mem_keys_foldl_append :
    k ∈ keys (items.foldl (fun d item => append d (key item) item) d) ↔
      k ∈ keys d ∨ ∃ item ∈ items, key item = k := by
  induction items generalizing d with
  | nil => simp
  | cons item items ih =>
    rw [List.foldl_cons, ih, append, keys_set]
    by_cases hmem : key item ∈ keys d
    · rw [if_pos hmem]
      simp only [List.exists_mem_cons_iff]
      constructor
      · rintro (h | h)
        · exact .inl h
        · exact .inr (.inr h)
      · rintro (h | rfl | h)
        · exact .inl h
        · exact .inl hmem
        · exact .inr h
    · rw [if_neg hmem]
      simp only [List.mem_append, List.mem_singleton, List.exists_mem_cons_iff, or_assoc,
        eq_comm (a := k)]

/-- **The groups**: what is listed under a key are the items that have it, of which there are
some. -/
theorem mem_groupBy {group : List α} :
    (k, group) ∈ groupBy key items ↔ group = items.filter (key · = k) ∧ group ≠ [] := by
  have hnodup : (keys (groupBy key items)).Nodup := nodup_keys_foldl_append List.nodup_nil
  have hget : (get? (groupBy key items) k).getD [] = items.filter (key · = k) := by
    rw [groupBy, get?_foldl_append]
    rfl
  have hkeys : k ∈ keys (groupBy key items) ↔ ∃ item ∈ items, key item = k := by
    rw [groupBy, mem_keys_foldl_append]
    simp [keys]
  constructor
  · intro hmem
    have hgroup := get?_of_mem hnodup hmem
    rw [hgroup] at hget
    refine ⟨hget, ?_⟩
    obtain ⟨item, hitem, hkey⟩ := hkeys.mp (List.mem_map_of_mem hmem)
    have hin : item ∈ group := by
      rw [show group = _ from hget]
      simp [hitem, hkey]
    exact List.ne_nil_of_mem hin
  · rintro ⟨rfl, hne⟩
    obtain ⟨item, hitem⟩ := List.exists_mem_of_ne_nil _ hne
    simp only [List.mem_filter, decide_eq_true_eq] at hitem
    have hsome := get?_isSome_iff.mpr (hkeys.mpr ⟨item, hitem⟩)
    obtain ⟨group, hgroup⟩ := Option.isSome_iff_exists.mp hsome
    rw [hgroup] at hget
    rw [← show group = _ from hget]
    exact mem_of_get? hgroup

end groups

/-! ### Grouping into sets -/

section sets

variable [DecidableEq β]

/-- `d.setdefault(k, set()).add(v)`, a set being the list of its members. -/
def addTo (d : Dict κ (List β)) (k : κ) (v : β) : Dict κ (List β) := set d k (((get? d k).getD []).insert v)

/-- The members of the set under a key. -/
def members (d : Dict κ (List β)) (k : κ) : List β := (get? d k).getD []

theorem members_addTo (d : Dict κ (List β)) (k k' : κ) (v : β) :
    members (addTo d k v) k' = if k = k' then (members d k').insert v else members d k' := by
  by_cases same : k = k'
  · subst same
    rw [members, addTo, get?_set_self, if_pos rfl, Option.getD_some, members]
  · rw [members, addTo, get?_set_ne _ same, if_neg same, members]

/-- The second components of some pairs, by the first. -/
def groupSets (pairs : List (κ × β)) : Dict κ (List β) := pairs.foldl (fun d p => addTo d p.1 p.2) []

theorem groupSets_concat (pairs : List (κ × β)) (p : κ × β) :
    groupSets (pairs ++ [p]) = addTo (groupSets pairs) p.1 p.2 := by
  rw [groupSets, List.foldl_append]
  rfl

theorem mem_members_groupSets {pairs : List (κ × β)} {k : κ} {v : β} :
    v ∈ members (groupSets pairs) k ↔ (k, v) ∈ pairs := by
  induction pairs using List.reverseRecOn with
  | nil => simp [groupSets, members]
  | append_singleton pairs p ih =>
    rw [groupSets_concat, members_addTo, List.mem_append, List.mem_singleton, ← ih]
    split
    · next same =>
      rw [List.mem_insert_iff]
      constructor
      · rintro (rfl | known)
        · exact .inr (by rw [← same])
        · exact .inl known
      · rintro (known | rfl)
        · exact .inr known
        · exact .inl rfl
    · next other =>
      refine ⟨.inl, fun known => known.resolve_right ?_⟩
      rintro rfl
      exact other rfl

theorem nodup_members_groupSets (pairs : List (κ × β)) (k : κ) : (members (groupSets pairs) k).Nodup := by
  induction pairs using List.reverseRecOn with
  | nil => exact List.nodup_nil
  | append_singleton pairs p ih =>
    rw [groupSets_concat, members_addTo]
    split
    · exact ih.insert
    · exact ih

end sets

/-- **Counting**: `d[k] = d.get(k, 0) + 1` for each of some keys. -/
theorem get?_foldl_count {d : Dict κ Nat} {ks : List κ} {k : κ} :
    (get? (ks.foldl (fun d k => set d k ((get? d k).getD 0 + 1)) d) k).getD 0
      = (get? d k).getD 0 + ks.count k := by
  induction ks generalizing d with
  | nil => simp
  | cons k' ks ih =>
    rw [List.foldl_cons, ih]
    by_cases hk : k' = k
    · subst hk
      simp [get?_set_self]
      omega
    · simp [get?_set_ne _ hk, List.count_cons_of_ne hk]

end Dict

/-! ### Lists of items that may be refused -/

namespace List

variable {α β : Type} {f : α → Option β}

theorem exists_of_mem_mapM {l : List α} {l' : List β} (h : l.mapM f = some l') {b : β}
    (hb : b ∈ l') : ∃ a ∈ l, f a = some b := by
  induction l generalizing l' with
  | nil =>
    cases h
    cases hb
  | cons a l ih =>
    rw [mapM_cons] at h
    cases ha : f a with
    | none => rw [ha] at h; cases h
    | some c =>
      cases hl : l.mapM f with
      | none => rw [ha, hl] at h; cases h
      | some rest =>
        rw [ha, hl] at h
        cases h
        rcases mem_cons.mp hb with rfl | hb
        · exact ⟨a, mem_cons_self, ha⟩
        · obtain ⟨a', ha', hfa⟩ := ih hl hb
          exact ⟨a', mem_cons_of_mem _ ha', hfa⟩

/-- What an encoder wrote is read back. -/
theorem mapM_map_of_inverse {l : List β} {g : β → α} (h : ∀ b ∈ l, f (g b) = some b) :
    (l.map g).mapM f = some l := by
  induction l with
  | nil => rfl
  | cons b l ih =>
    rw [map_cons, mapM_cons, h b mem_cons_self, ih fun c hc => h c (mem_cons_of_mem _ hc)]
    rfl

/-- How many of some lists without repetitions have `x`. -/
theorem count_flatMap_of_nodup [DecidableEq β] {g : α → List β} (h : ∀ a, (g a).Nodup) (l : List α)
    (x : β) : (l.flatMap g).count x = (l.filter fun a => x ∈ g a).length := by
  induction l with
  | nil => rfl
  | cons a l ih =>
    rw [flatMap_cons, count_append, ih]
    by_cases hx : x ∈ g a
    · rw [count_eq_one_of_mem (h a) hx, filter_cons_of_pos (by simpa using hx), length_cons]
      omega
    · rw [count_eq_zero_of_not_mem hx, filter_cons_of_neg (by simpa using hx)]
      omega

/-- Just one item satisfies `p` if only the item `a`, which does, is allowed to. -/
theorem length_filter_eq_one_iff {l : List α} {p : α → Bool} {a : α} (hnodup : l.Nodup)
    (ha : a ∈ l) (hp : p a = true) : (l.filter p).length = 1 ↔ ∀ b ∈ l, p b = true → b = a := by
  have hmem : a ∈ l.filter p := mem_filter.mpr ⟨ha, hp⟩
  constructor
  · intro hone b hb hpb
    obtain ⟨c, hc⟩ := length_eq_one_iff.mp hone
    have hb' : b ∈ l.filter p := mem_filter.mpr ⟨hb, hpb⟩
    rw [hc, mem_singleton] at hmem hb'
    rw [hmem, hb']
  · intro hall
    have hsub : l.filter p ⊆ [a] := by
      intro b hb
      obtain ⟨hb, hpb⟩ := mem_filter.mp hb
      rw [hall b hb hpb]
      exact mem_singleton.mpr rfl
    have hle := ((hnodup.filter p).subperm hsub).length_le
    have hpos := length_pos_of_mem hmem
    rw [length_singleton] at hle
    omega

end List
