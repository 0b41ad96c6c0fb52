import SwitchOps.Lib.Regex

/-!
# Scanning a text

`re.finditer` and `re.split`, and where `re.search` finds an expression without zero-width tests: wherever the
text holds a word of its language (`search_isSome_iff`).
-/

namespace Regex

/-- The matches from a position on, each with the cursor where it begins; `fuel` bounds the positions. (A match
that reads nothing is passed over.) -/
def matchesFrom (r : Regex) : Nat → Text → Text → List (Cursor × Cursor)
  | 0, _, _ => []
  | fuel + 1, seen, rest =>
    let next := match rest with
      | [] => []
      | c :: cs => matchesFrom r fuel (c :: seen) cs
    match (results r ⟨seen, rest, []⟩).head? with
    | none => next
    | some m => if m.rest.length < rest.length then (⟨seen, rest, []⟩, m) :: matchesFrom r fuel m.seen m.rest else next

/-- `re.finditer` -/
def finditer (r : Regex) (t : Text) : List Cursor := (matchesFrom r (t.length + 1) [] t).map (·.2)

/-- The pieces of a text between its matches, after the cursor `m`. -/
def pieces (m : Cursor) : List (Cursor × Cursor) → List Text
  | [] => [m.rest]
  | (start, stop) :: more => m.captured start :: pieces stop more

/-- `re.split`, for an expression without groups. -/
def split (r : Regex) (t : Text) : List Text := pieces ⟨[], t, []⟩ (matchesFrom r (t.length + 1) [] t)

/-! ### Searching -/

variable {r : Regex}

theorem exists_of_searchFrom {seen t : Text} (h : (searchFrom r seen t).isSome) :
    ∃ u w v, t = u ++ w ++ v ∧ Denotes r w := by
  have here : ∀ {seen t : Text} {m : Cursor}, (results r ⟨seen, t, []⟩).head? = some m →
      ∃ u w v, t = u ++ w ++ v ∧ Denotes r w := by
    intro seen t m head
    obtain ⟨w, reads, word⟩ := results_denotes r _ m (List.mem_of_head? head)
    exact ⟨[], w, m.rest, reads.1, word⟩
  induction t generalizing seen with
  | nil =>
    obtain ⟨m, head⟩ := Option.isSome_iff_exists.mp h
    exact here head
  | cons c cs ih =>
    rw [searchFrom] at h
    cases head : (results r ⟨seen, c :: cs, []⟩).head? with
    | some m => exact here head
    | none =>
      rw [head] at h
      obtain ⟨u, w, v, rfl, word⟩ := ih h
      exact ⟨c :: u, w, v, rfl, word⟩

theorem searchFrom_isSome_of_denotes (plain : Plain r) {w : Text} (word : Denotes r w) (u v seen : Text) :
    (searchFrom r seen (u ++ w ++ v)).isSome := by
  have here : ∀ seen, ∃ m, (results r ⟨seen, w ++ v, []⟩).head? = some m := by
    intro seen
    obtain ⟨m, mem, -⟩ := results_of_denotes plain word ⟨seen, w ++ v, []⟩ v rfl
    exact Option.isSome_iff_exists.mp (List.isSome_head?.mpr (List.ne_nil_of_mem mem))
  induction u generalizing seen with
  | nil =>
    obtain ⟨m, head⟩ := here seen
    rw [List.nil_append, searchFrom_of_head head]
    rfl
  | cons c u ih =>
    rw [List.append_assoc, List.cons_append, searchFrom, ← List.append_assoc]
    cases (results r ⟨seen, c :: (u ++ w ++ v), []⟩).head? with
    | some m => rfl
    | none => exact ih (c :: seen)

/-- `re.search` finds a word of the language wherever it stands. -/
theorem search_isSome_iff (plain : Plain r) {t : Text} :
    (search r t).isSome ↔ ∃ u w v, t = u ++ w ++ v ∧ Denotes r w := by
  constructor
  · exact exists_of_searchFrom
  · rintro ⟨u, w, v, rfl, word⟩
    exact searchFrom_isSome_of_denotes plain word u v []

/-- `re.match` finds a word of the language at the beginning. -/
theorem matchStart_isSome_iff (plain : Plain r) {t : Text} :
    (matchStart r t).isSome ↔ ∃ w v, t = w ++ v ∧ Denotes r w := by
  constructor
  · intro h
    obtain ⟨m, head⟩ := Option.isSome_iff_exists.mp h
    obtain ⟨w, reads, word⟩ := results_denotes r _ m (List.mem_of_head? head)
    exact ⟨w, m.rest, reads.1, word⟩
  · rintro ⟨w, v, rfl, word⟩
    obtain ⟨m, mem, -⟩ := results_of_denotes plain word ⟨[], w ++ v, []⟩ v rfl
    exact List.isSome_head?.mpr (List.ne_nil_of_mem mem)

/-- What is found in a text is found in a longer one. -/
theorem search_isSome_append (plain : Plain r) {t : Text} (h : (search r t).isSome) (before after : Text) :
    (search r (before ++ t ++ after)).isSome := by
  obtain ⟨u, w, v, rfl, word⟩ := (search_isSome_iff plain).mp h
  exact (search_isSome_iff plain).mpr ⟨before ++ u, w, v ++ after, by simp only [List.append_assoc], word⟩

theorem plain_litIgnoringCase (t : Text) : Plain (litIgnoringCase t) := by
  induction t with
  | nil => exact trivial
  | cons c cs ih => exact ⟨trivial, ih⟩

/-! ### Groups -/

/-- The groups of an expression, those of lookaheads aside. -/
def groupsOf : Regex → List (Nat × Regex)
  | .seq r s | .alt r s => groupsOf r ++ groupsOf s
  | .star _ r => groupsOf r
  | .group n r => (n, r) :: groupsOf r
  | .empty | .chr _ | .here _ | .ahead _ => []

/-- The groups of `m` are kept, and every further one is one of `r` and has read a word of it. -/
structure Captures (r : Regex) (m m' : Cursor) : Prop where
  kept : m.groups ⊆ m'.groups
  further : ∀ entry ∈ m'.groups, entry ∈ m.groups ∨ ∃ s, (entry.1, s) ∈ groupsOf r ∧ Denotes s entry.2

theorem Captures.of_same {m m' : Cursor} (h : m'.groups = m.groups) : Captures r m m' where
  kept := by rw [h]; exact fun _ => id
  further entry here := by rw [h] at here; exact .inl here

theorem Captures.trans {m m' m'' : Cursor} (h : Captures r m m') (h' : Captures r m' m'') : Captures r m m'' where
  kept := fun _ here => h'.kept (h.kept here)
  further := by
    intro entry here
    rcases h'.further entry here with before | new
    · exact h.further entry before
    · exact .inr new

theorem Captures.mono {s : Regex} {m m' : Cursor} (h : Captures r m m') (inside : groupsOf r ⊆ groupsOf s) :
    Captures s m m' where
  kept := h.kept
  further := by
    intro entry here
    rcases h.further entry here with before | ⟨t, known, word⟩
    · exact .inl before
    · exact .inr ⟨t, inside known, word⟩

theorem captures_of_iterate (step : ∀ m, ∀ m' ∈ results r m, Captures r m m') (greedy : Bool) (fuel : Nat)
    (m m' : Cursor) (h : m' ∈ iterate (results r) greedy fuel m) : Captures r m m' := by
  induction fuel generalizing m with
  | zero =>
    obtain rfl := List.mem_singleton.mp h
    exact .of_same rfl
  | succ fuel ih =>
    rcases mem_iterate_succ h with rfl | ⟨next, here, h⟩
    · exact .of_same rfl
    · exact (step m next here).trans (ih next h)

/-- **A group has read a word of its expression.** -/
theorem captures_of_results (r : Regex) : ∀ m, ∀ m' ∈ results r m, Captures r m m' := by
  induction r with
  | empty =>
    intro m m' h
    obtain rfl := List.mem_singleton.mp h
    exact .of_same rfl
  | chr accepts =>
    intro m m' h
    obtain ⟨seen, rest, groups⟩ := m
    cases rest with
    | nil => cases h
    | cons c rest =>
      rw [results] at h
      dsimp only at h
      split at h
      · obtain rfl := List.mem_singleton.mp h
        exact .of_same rfl
      · cases h
  | seq r s ihr ihs =>
    intro m m' h
    obtain ⟨next, here, h⟩ := List.mem_flatMap.mp h
    apply Captures.trans ((ihr m next here).mono _) ((ihs next m' h).mono _)
    · exact List.subset_append_left _ _
    · exact List.subset_append_right _ _
  | alt r s ihr ihs =>
    intro m m' h
    rcases List.mem_append.mp h with h | h
    · exact (ihr m m' h).mono (List.subset_append_left _ _)
    · exact (ihs m m' h).mono (List.subset_append_right _ _)
  | star greedy r ih => exact fun m m' h => (captures_of_iterate ih greedy _ m m' h).mono fun _ => id
  | group n r ih =>
    intro m m' h
    obtain ⟨last, here, rfl⟩ := List.mem_map.mp h
    have inner : Captures (.group n r) m last := (ih m last here).mono fun _ => List.mem_cons_of_mem _
    refine ⟨fun entry known => List.mem_cons_of_mem _ (inner.kept known), fun entry known => ?_⟩
    rcases List.mem_cons.mp known with rfl | known
    · obtain ⟨w, reads, word⟩ := results_denotes r m last here
      have captured : m.captured last = w := by
        rw [Cursor.captured, reads.2]
        simp
      rw [captured]
      exact .inr ⟨r, List.mem_cons_self, word⟩
    · exact inner.further entry known
  | here test =>
    intro m m' h
    rw [results] at h
    split at h
    · obtain rfl := List.mem_singleton.mp h
      exact .of_same rfl
    · cases h
  | ahead r ih =>
    intro m m' h
    rw [results] at h
    split at h
    · cases h
    · obtain rfl := List.mem_singleton.mp h
      exact .of_same rfl

/-- Every match captures the group. -/
def Always (n : Nat) : Regex → Prop
  | .seq r s => Always n r ∨ Always n s
  | .alt r s => Always n r ∧ Always n s
  | .group k r => k = n ∨ Always n r
  | .star _ _ | .empty | .chr _ | .here _ | .ahead _ => False

theorem exists_group_of_always {n : Nat} (always : Always n r) (m m' : Cursor) (h : m' ∈ results r m) :
    ∃ w, (n, w) ∈ m'.groups := by
  induction r generalizing m m' with
  | seq r s ihr ihs =>
    obtain ⟨next, here, h⟩ := List.mem_flatMap.mp h
    rcases always with left | right
    · obtain ⟨w, known⟩ := ihr left m next here
      exact ⟨w, (captures_of_results s next m' h).kept known⟩
    · exact ihs right next m' h
  | alt r s ihr ihs =>
    rcases List.mem_append.mp h with h | h
    · exact ihr always.1 m m' h
    · exact ihs always.2 m m' h
  | group k r ih =>
    obtain ⟨last, here, rfl⟩ := List.mem_map.mp h
    rcases always with rfl | inside
    · exact ⟨_, List.mem_cons_self⟩
    · obtain ⟨w, known⟩ := ih inside m last here
      exact ⟨w, List.mem_cons_of_mem _ known⟩
  | star _ _ _ => exact always.elim
  | empty => exact always.elim
  | chr _ => exact always.elim
  | here _ => exact always.elim
  | ahead _ _ => exact always.elim

/-- What `re.match` captures of a group that every match captures. -/
theorem denotes_group {n : Nat} (always : Always n r) {t : Text} {m : Cursor} (h : matchStart r t = some m) :
    ∃ s, (n, s) ∈ groupsOf r ∧ Denotes s ((m.group n).getD []) := by
  have result := List.mem_of_head? h
  obtain ⟨w, known⟩ := exists_group_of_always always _ m result
  have found : (m.groups.find? (·.1 == n)).isSome := by
    rw [List.find?_isSome]
    exact ⟨(n, w), known, beq_self_eq_true n⟩
  obtain ⟨entry, first⟩ := Option.isSome_iff_exists.mp found
  have index : entry.1 = n := by
    have same := List.find?_some first
    exact eq_of_beq same
  rw [Cursor.group, first, ← index]
  rcases (captures_of_results r _ m result).further entry (List.mem_of_find?_eq_some first) with none | new
  · cases none
  · exact new

end Regex
