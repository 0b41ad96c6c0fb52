import SwitchOps.Lib.Dict

/-!
# Rows with a lifecycle

A table of rows that are active while they are observed. An observation stores the rows it saw; one
that is complete also deactivates every other row and `retire`s its value.

* `RowTable.deactivate`, `RowTable.upsert`, `RowTable.retire` — the statements of which an observation is made.
* `Observed` — what an observation as a whole does to each key.
* `Observed.settled` and the lemmas beside it — what follows for a table: active rows have living
  values and the others dead ones, first sightings stay, last sightings grow.
-/

namespace Lifecycles

/-- A row: when it was first and last seen, and whether it is active. -/
structure Row (α : Type) where
  firstSeen : Nat
  lastSeen : Nat
  active : Bool
  value : α
  deriving DecidableEq, Repr

abbrev RowTable (κ α : Type) := Dict κ (Row α)

variable {κ α : Type} [DecidableEq κ]

namespace RowTable

/-- The rows of some keys become inactive. -/
def deactivate (p : κ → Bool) (table : RowTable κ α) : RowTable κ α :=
  Dict.amendAll (fun k row => if p k then { row with active := false } else row) table

/-- A row is stored; one that is there keeps when it was first seen. -/
def upsert (table : RowTable κ α) (k : κ) (firstSeen stamp : Nat) (value : α) : RowTable κ α :=
  Dict.set table k ⟨((Dict.get? table k).map (·.firstSeen)).getD firstSeen, stamp, true, value⟩

/-- The values of some rows are replaced, one after the other. -/
def replace (table : RowTable κ α) (values : List (κ × α)) : RowTable κ α :=
  values.foldl (fun table entry => Dict.amend table entry.1 fun row => { row with value := entry.2 }) table

theorem get?_deactivate (p : κ → Bool) (table : RowTable κ α) (k : κ) : Dict.get? (deactivate p table) k =
    (Dict.get? table k).map fun row => if p k then { row with active := false } else row :=
  Dict.get?_amendAll _ _ _

theorem get?_upsert_self (table : RowTable κ α) (k : κ) (firstSeen stamp : Nat) (value : α) :
    Dict.get? (upsert table k firstSeen stamp value) k =
      some ⟨((Dict.get? table k).map (·.firstSeen)).getD firstSeen, stamp, true, value⟩ :=
  Dict.get?_set_self _ _ _

theorem get?_upsert_ne {table : RowTable κ α} {k k' : κ} (firstSeen stamp : Nat) (value : α) (h : k ≠ k') :
    Dict.get? (upsert table k firstSeen stamp value) k' = Dict.get? table k' :=
  Dict.get?_set_ne _ h

theorem get?_replace_of_not_mem {table : RowTable κ α} {values : List (κ × α)} {k : κ}
    (h : ∀ entry ∈ values, entry.1 ≠ k) : Dict.get? (replace table values) k = Dict.get? table k := by
  induction values generalizing table with
  | nil => rfl
  | cons entry values ih =>
    obtain ⟨first, later⟩ := List.forall_mem_cons.mp h
    rw [replace, List.foldl_cons]
    exact (ih later).trans (Dict.get?_amend_ne _ first)

/-- The value of a row, of which there is one replacement. -/
theorem get?_replace {table : RowTable κ α} {values : List (κ × α)} {k : κ} {value : α} (h : (k, value) ∈ values)
    (same : ∀ entry ∈ values, entry.1 = k → entry.2 = value) :
    Dict.get? (replace table values) k = (Dict.get? table k).map fun row => { row with value := value } := by
  induction values generalizing table with
  | nil => cases h
  | cons entry values ih =>
    rw [replace, List.foldl_cons]
    have later := fun other here => same other (List.mem_cons_of_mem _ here)
    by_cases again : ∃ other ∈ values, other.1 = k
    · obtain ⟨⟨k', value'⟩, here, same'⟩ := again
      obtain rfl : k = k' := same'.symm
      obtain rfl : value' = value := later _ here rfl
      refine (ih here later).trans ?_
      by_cases first : entry.1 = k
      · rw [first, Dict.get?_amend_self, Option.map_map]
        rfl
      · rw [Dict.get?_amend_ne _ first]
    · have others : ∀ other ∈ values, other.1 ≠ k := fun other here is => again ⟨other, here, is⟩
      rcases List.mem_cons.mp h with rfl | here
      · exact (get?_replace_of_not_mem others).trans (Dict.get?_amend_self _ _ _)
      · exact absurd rfl (others _ here)

/-! ### One row for each key -/

/-- No key has two rows. -/
def Keyed (table : RowTable κ α) : Prop := (Dict.keys table).Nodup

omit [DecidableEq κ] in
theorem Keyed.deactivate {table : RowTable κ α} (h : Keyed table) (p : κ → Bool) : Keyed (deactivate p table) := by
  rw [Keyed, RowTable.deactivate, Dict.keys_amendAll]
  exact h

theorem Keyed.upsert {table : RowTable κ α} (h : Keyed table) (k : κ) (firstSeen stamp : Nat) (value : α) :
    Keyed (upsert table k firstSeen stamp value) :=
  Dict.nodup_keys_set h _ _

theorem Keyed.replace {table : RowTable κ α} (h : Keyed table) (values : List (κ × α)) : Keyed (replace table values) := by
  induction values generalizing table with
  | nil => exact h
  | cons entry values ih =>
    refine @ih (Dict.amend table entry.1 _) ?_
    rw [Keyed, Dict.amend, Dict.keys_amendAll]
    exact h

/-! ### Storing several rows -/

/-- `after` is `before` with rows stored under the keys `seen`. -/
structure Stored (stamp : Nat) (seen : κ → Prop) (Stores : κ → α → Prop) (before after : RowTable κ α) : Prop where
  stores : ∀ k, seen k → ∃ value, Stores k value ∧ Dict.get? after k =
    some ⟨((Dict.get? before k).map (·.firstSeen)).getD stamp, stamp, true, value⟩
  keeps : ∀ k, ¬ seen k → Dict.get? after k = Dict.get? before k

theorem Stored.none (stamp : Nat) (Stores : κ → α → Prop) (table : RowTable κ α) :
    Stored stamp (fun _ => False) Stores table table :=
  ⟨fun _ h => h.elim, fun _ _ => rfl⟩

/-- One more row is stored. -/
theorem Stored.upsert {stamp firstSeen : Nat} {seen : κ → Prop} {Stores : κ → α → Prop} {before after : RowTable κ α}
    (h : Stored stamp seen Stores before after) {k : κ} {value : α} (stores : Stores k value)
    (first : ¬ seen k → firstSeen = ((Dict.get? before k).map (·.firstSeen)).getD stamp) :
    Stored stamp (fun k' => seen k' ∨ k' = k) Stores before (after.upsert k firstSeen stamp value) := by
  refine ⟨fun k' isSeen => ?_, fun k' unseen => ?_⟩
  · by_cases same : k = k'
    · subst same
      refine ⟨value, stores, (get?_upsert_self _ _ _ _ _).trans ?_⟩
      by_cases again : seen k
      · obtain ⟨_, -, stored⟩ := h.stores k again
        rw [stored]
        rfl
      · rw [h.keeps k again, first again]
        cases Dict.get? before k <;> rfl
    · rw [get?_upsert_ne _ _ _ same]
      exact h.stores k' (isSeen.resolve_right fun same' => same same'.symm)
  · obtain ⟨unseen, differ⟩ := not_or.mp unseen
    rw [get?_upsert_ne _ _ _ (Ne.symm differ)]
    exact h.keeps k' unseen

theorem Stored.congr {stamp : Nat} {seen seen' : κ → Prop} {Stores : κ → α → Prop} {before after : RowTable κ α}
    (h : Stored stamp seen Stores before after) (same : ∀ k, seen k ↔ seen' k) :
    Stored stamp seen' Stores before after :=
  ⟨fun k here => h.stores k ((same k).mpr here), fun k here => h.keeps k fun isSeen => here ((same k).mp isSeen)⟩

end RowTable

/-! ## One observation -/

/-- What an observation does to the rows `scope` holds of: `seen` are the keys it saw, `Stores` what it
may store under them. -/
structure Observed (scope : κ → Prop) (retire : α → α) (complete : Bool) (stamp : Nat) (seen : κ → Prop)
    (Stores : κ → α → Prop) (before after : RowTable κ α) : Prop where
  stores : ∀ k, scope k → seen k → ∃ value, Stores k value ∧ Dict.get? after k =
    some ⟨((Dict.get? before k).map (·.firstSeen)).getD stamp, stamp, true, value⟩
  retires : complete = true → ∀ k, scope k → ¬ seen k → Dict.get? after k = (Dict.get? before k).map fun row =>
    { row with active := false, value := if row.active then retire row.value else row.value }
  keeps : complete = false → ∀ k, scope k → ¬ seen k → Dict.get? after k = Dict.get? before k
  frames : ∀ k, ¬ scope k → Dict.get? after k = Dict.get? before k

/-- An observation: rows are deactivated, stored and retired. -/
theorem Observed.of_stored {scope seen : κ → Bool} {retire : α → α} {complete : Bool} {stamp : Nat}
    {Stores : κ → α → Prop} {before middle : RowTable κ α} (keyed : before.Keyed)
    (inside : ∀ k, seen k = true → scope k = true)
    (stored : RowTable.Stored stamp (fun k => seen k = true) Stores
      (if complete then before.deactivate scope else before) middle) :
    Observed (fun k => scope k = true) retire complete stamp (fun k => seen k = true) Stores before
      (if complete then middle.replace ((before.filter fun entry =>
        scope entry.1 && entry.2.active && !seen entry.1).map fun entry => (entry.1, retire entry.2.value))
      else middle) := by
  cases complete with
  | false =>
    refine ⟨fun k _ isSeen => stored.stores k isSeen, fun h => absurd h Bool.false_ne_true,
      fun _ k _ unseen => stored.keeps k unseen, fun k outside => ?_⟩
    exact stored.keeps k fun isSeen => outside (inside k isSeen)
  | true =>
    rw [if_pos rfl] at stored ⊢
    have notRetired : ∀ k, (seen k = true ∨ scope k = false) → Dict.get? (middle.replace
        ((before.filter fun entry => scope entry.1 && entry.2.active && !seen entry.1).map fun entry =>
          (entry.1, retire entry.2.value))) k = Dict.get? middle k := by
      intro k kept
      refine RowTable.get?_replace_of_not_mem fun entry here => ?_
      obtain ⟨old, known, rfl⟩ := List.mem_map.mp here
      have retired := (List.mem_filter.mp known).2
      rintro rfl
      rcases kept with isSeen | outside
      · simp [isSeen] at retired
      · simp [outside] at retired
    refine ⟨fun k _ isSeen => ?_, fun _ k inScope unseen => ?_, fun h => absurd h.symm Bool.false_ne_true,
      fun k outside => ?_⟩
    · rw [notRetired k (.inl isSeen)]
      obtain ⟨value, stores, here⟩ := stored.stores k isSeen
      refine ⟨value, stores, here.trans ?_⟩
      rw [RowTable.get?_deactivate, inside k isSeen]
      cases Dict.get? before k <;> rfl
    · have kept : Dict.get? middle k = (Dict.get? before k).map fun row => { row with active := false } := by
        rw [stored.keeps k unseen, RowTable.get?_deactivate, inScope]
        rfl
      cases known : Dict.get? before k with
      | none =>
        rw [known] at kept
        refine (RowTable.get?_replace_of_not_mem fun entry here => ?_).trans kept
        obtain ⟨old, isOld, rfl⟩ := List.mem_map.mp here
        rintro rfl
        have some := Dict.get?_of_mem keyed (List.mem_filter.mp isOld).1
        rw [known] at some
        cases some
      | some row =>
        rw [known] at kept
        cases active : row.active with
        | true =>
          rw [Bool.not_eq_true] at unseen
          refine (@RowTable.get?_replace _ _ _ _ _ _ (retire row.value) (List.mem_map.mpr ⟨(k, row), ?_, rfl⟩) ?_).trans ?_
          · exact List.mem_filter.mpr ⟨Dict.mem_of_get? known, by simp [inScope, active, unseen]⟩
          · intro entry here same
            obtain ⟨old, isOld, rfl⟩ := List.mem_map.mp here
            have again := Dict.get?_of_mem keyed (List.mem_filter.mp isOld).1
            rw [show old.1 = k from same, known] at again
            rw [Option.some_inj.mp again]
          · rw [kept]
            simp [active]
        | false =>
          refine (RowTable.get?_replace_of_not_mem fun entry here => ?_).trans (kept.trans (by simp [active]))
          obtain ⟨old, isOld, rfl⟩ := List.mem_map.mp here
          rintro rfl
          have again := Dict.get?_of_mem keyed (List.mem_filter.mp isOld).1
          rw [known] at again
          have isActive := (List.mem_filter.mp isOld).2
          rw [← Option.some_inj.mp again, active] at isActive
          simp at isActive
    · rw [Bool.not_eq_true] at outside
      rw [notRetired k (.inr outside), stored.keeps k fun isSeen => by simp [inside k isSeen] at outside,
        RowTable.get?_deactivate, outside]
      simp

/-- Active rows have living values, the others dead ones. -/
def Settled (Lives Dead : α → Prop) (table : RowTable κ α) : Prop :=
  ∀ k row, Dict.get? table k = some row → (row.active = true → Lives row.value) ∧ (row.active = false → Dead row.value)

theorem settled_nil (Lives Dead : α → Prop) : Settled Lives Dead ([] : RowTable κ α) := by
  intro k row h
  cases h

namespace Observed

variable {scope seen : κ → Prop} {retire : α → α} {complete : Bool} {stamp : Nat} {Stores : κ → α → Prop}
  {before after : RowTable κ α} {Lives Dead : α → Prop} {k : κ} {row : Row α}

theorem settled (h : Observed scope retire complete stamp seen Stores before after)
    (dead : ∀ value, Dead (retire value)) (lives : ∀ k value, Stores k value → Lives value)
    (settled : Settled Lives Dead before) : Settled Lives Dead after := by
  intro k row here
  by_cases inScope : scope k
  · by_cases isSeen : seen k
    · obtain ⟨value, stores, stored⟩ := h.stores k inScope isSeen
      obtain rfl := Option.some_inj.mp (stored.symm.trans here)
      exact ⟨fun _ => lives k value stores, fun inactive => absurd inactive (by simp)⟩
    · cases complete with
      | true =>
        rw [h.retires rfl k inScope isSeen] at here
        obtain ⟨old, known, rfl⟩ := Option.map_eq_some_iff.mp here
        refine ⟨fun active => absurd active (by simp), fun _ => ?_⟩
        show Dead (if old.active then retire old.value else old.value)
        cases active : old.active with
        | true => exact dead old.value
        | false => exact (settled k old known).2 active
      | false =>
        rw [h.keeps rfl k inScope isSeen] at here
        exact settled k row here
  · rw [h.frames k inScope] at here
    exact settled k row here

/-- What holds of the values that are stored, and survives retirement, holds of all values. -/
theorem values (h : Observed scope retire complete stamp seen Stores before after) {P : κ → α → Prop}
    (stores : ∀ k value, Stores k value → P k value) (retires : ∀ k value, P k value → P k (retire value))
    (values : ∀ k row, Dict.get? before k = some row → P k row.value) :
    ∀ k row, Dict.get? after k = some row → P k row.value := by
  intro k row here
  by_cases inScope : scope k
  · by_cases isSeen : seen k
    · obtain ⟨value, isStored, stored⟩ := h.stores k inScope isSeen
      obtain rfl := Option.some_inj.mp (stored.symm.trans here)
      exact stores k value isStored
    · cases complete with
      | true =>
        rw [h.retires rfl k inScope isSeen] at here
        obtain ⟨old, known, rfl⟩ := Option.map_eq_some_iff.mp here
        show P k (if old.active then retire old.value else old.value)
        split
        · exact retires k old.value (values k old known)
        · exact values k old known
      | false =>
        rw [h.keeps rfl k inScope isSeen] at here
        exact values k row here
  · rw [h.frames k inScope] at here
    exact values k row here

/-- After a complete observation the active keys are those it saw. -/
theorem active_iff (h : Observed scope retire true stamp seen Stores before after) (inScope : scope k) :
    (∃ row, Dict.get? after k = some row ∧ row.active = true) ↔ seen k := by
  constructor
  · rintro ⟨row, here, active⟩
    by_contra unseen
    rw [h.retires rfl k inScope unseen] at here
    obtain ⟨old, -, rfl⟩ := Option.map_eq_some_iff.mp here
    cases active
  · intro isSeen
    obtain ⟨value, -, stored⟩ := h.stores k inScope isSeen
    exact ⟨_, stored, rfl⟩

/-- An observation that is not complete deactivates nothing. -/
theorem active_of_active (h : Observed scope retire false stamp seen Stores before after)
    (here : Dict.get? before k = some row) (active : row.active = true) :
    ∃ row', Dict.get? after k = some row' ∧ row'.active = true := by
  by_cases inScope : scope k
  · by_cases isSeen : seen k
    · obtain ⟨value, -, stored⟩ := h.stores k inScope isSeen
      exact ⟨_, stored, rfl⟩
    · exact ⟨row, (h.keeps rfl k inScope isSeen).trans here, active⟩
  · exact ⟨row, (h.frames k inScope).trans here, active⟩

/-- A key that is seen is active. -/
theorem active_of_seen (h : Observed scope retire complete stamp seen Stores before after) (inScope : scope k)
    (isSeen : seen k) : ∃ row, Dict.get? after k = some row ∧ row.active = true ∧ row.lastSeen = stamp := by
  obtain ⟨value, -, stored⟩ := h.stores k inScope isSeen
  exact ⟨_, stored, rfl, rfl⟩

/-- No row is lost, and none is first seen at another time than before. -/
theorem firstSeen_eq (h : Observed scope retire complete stamp seen Stores before after)
    (here : Dict.get? before k = some row) :
    ∃ row', Dict.get? after k = some row' ∧ row'.firstSeen = row.firstSeen := by
  by_cases inScope : scope k
  · by_cases isSeen : seen k
    · obtain ⟨value, -, stored⟩ := h.stores k inScope isSeen
      exact ⟨_, stored, by rw [here]; rfl⟩
    · cases complete with
      | true =>
        have retired := h.retires rfl k inScope isSeen
        rw [here] at retired
        exact ⟨_, retired, rfl⟩
      | false => exact ⟨row, (h.keeps rfl k inScope isSeen).trans here, rfl⟩
  · exact ⟨row, (h.frames k inScope).trans here, rfl⟩

/-- In time order no row was last seen later than before. -/
theorem lastSeen_le (h : Observed scope retire complete stamp seen Stores before after)
    (here : Dict.get? before k = some row) (inOrder : scope k → row.lastSeen ≤ stamp) :
    ∃ row', Dict.get? after k = some row' ∧ row.lastSeen ≤ row'.lastSeen := by
  by_cases inScope : scope k
  · by_cases isSeen : seen k
    · obtain ⟨value, -, stored⟩ := h.stores k inScope isSeen
      exact ⟨_, stored, inOrder inScope⟩
    · cases complete with
      | true =>
        have retired := h.retires rfl k inScope isSeen
        rw [here] at retired
        exact ⟨_, retired, Nat.le_refl _⟩
      | false => exact ⟨row, (h.keeps rfl k inScope isSeen).trans here, Nat.le_refl _⟩
  · exact ⟨row, (h.frames k inScope).trans here, Nat.le_refl _⟩

/-- A row was last seen at this observation, or as it was before. -/
theorem lastSeen_eq (h : Observed scope retire complete stamp seen Stores before after)
    (here : Dict.get? after k = some row) :
    (scope k ∧ row.lastSeen = stamp) ∨ ∃ old, Dict.get? before k = some old ∧ row.lastSeen = old.lastSeen := by
  by_cases inScope : scope k
  · by_cases isSeen : seen k
    · obtain ⟨value, -, stored⟩ := h.stores k inScope isSeen
      obtain rfl := Option.some_inj.mp (stored.symm.trans here)
      exact .inl ⟨inScope, rfl⟩
    · cases complete with
      | true =>
        rw [h.retires rfl k inScope isSeen] at here
        obtain ⟨old, known, rfl⟩ := Option.map_eq_some_iff.mp here
        exact .inr ⟨old, known, rfl⟩
      | false =>
        rw [h.keeps rfl k inScope isSeen] at here
        exact .inr ⟨row, here, rfl⟩
  · rw [h.frames k inScope] at here
    exact .inr ⟨row, here, rfl⟩

end Observed

end Lifecycles
