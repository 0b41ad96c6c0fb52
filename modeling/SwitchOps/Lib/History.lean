import Mathlib.Data.List.Forall2
import Mathlib.Data.List.Induction

/-!
# Histories

A history is the list of the inputs that a component received, first to last. What a component
keeps is a fold over them, and a property of its whole run is stated about every place of the
history: about an input and the inputs before it.

* `Throughout P h` — `P before a` wherever the history reads `before ++ a :: after`.
* `Throughout.invariant` — what holds of the empty history and is kept by every input holds of
  the histories before each place.
* `inTurn view before history` — what is made of each input of the history, in the light of the
  inputs before it.
* `Linked key link before records` — each record names the key of the one before it.
-/

namespace Histories

variable {α σ : Type}

/-- At every place of the history, `P` relates the inputs before it and the input there. -/
def Throughout (P : List α → α → Prop) (history : List α) : Prop :=
  ∀ before a after, history = before ++ a :: after → P before a

variable {P Q : List α → α → Prop} {history : List α}

@[simp] theorem throughout_nil : Throughout P [] := by
  intro before a after split
  simp at split

theorem Throughout.of_append {later : List α} (h : Throughout P (history ++ later)) :
    Throughout P history := by
  intro before a after split
  apply h before a (after ++ later)
  rw [split, List.append_assoc, List.cons_append]

theorem throughout_concat {a : α} :
    Throughout P (history ++ [a]) ↔ Throughout P history ∧ P history a := by
  constructor
  · intro h
    exact ⟨h.of_append, h history a [] rfl⟩
  · rintro ⟨earlier, here⟩ before b after split
    -- the place is the last one, or lies before it
    rcases List.eq_nil_or_concat after with rfl | ⟨after, c, rfl⟩
    · obtain ⟨rfl, rfl⟩ : history = before ∧ a = b := by simpa using split
      exact here
    · apply earlier before b after
      rw [List.concat_eq_append, ← List.cons_append, ← List.append_assoc] at split
      exact (List.append_inj' split rfl).1

theorem Throughout.mono (h : Throughout P history) (weaker : ∀ before a, P before a → Q before a) :
    Throughout Q history :=
  fun before a after split => weaker before a (h before a after split)

/-- The invariant rule: what holds at first and is kept wherever `P` holds is an invariant. -/
theorem Throughout.invariant {I : List α → Prop} (h : Throughout P history) (init : I [])
    (keep : ∀ before a, I before → P before a → I (before ++ [a])) : I history := by
  induction history using List.reverseRecOn with
  | nil => exact init
  | append_singleton earlier a ih =>
    obtain ⟨throughout, here⟩ := throughout_concat.mp h
    exact keep earlier a (ih throughout) here

/-- What `P` and an invariant give of a place, they give throughout. -/
theorem Throughout.of_invariant {I : List α → Prop} (h : Throughout P history) (init : I [])
    (keep : ∀ before a, I before → P before a → I (before ++ [a]))
    (gives : ∀ before a, I before → P before a → Q before a) : Throughout Q history := by
  intro before a after split
  have whole : Throughout P (before ++ [a] ++ after) := by simpa [split] using h
  obtain ⟨earlier, here⟩ := throughout_concat.mp whole.of_append
  exact gives before a (earlier.invariant init keep) here

/-! ### What is made of each input -/

section inTurn

variable {β : Type} {view : List α → α → β}

def inTurn (view : List α → α → β) : List α → List α → List β
  | _, [] => []
  | before, a :: rest => view before a :: inTurn view (before ++ [a]) rest

@[simp] theorem inTurn_nil (before : List α) : inTurn view before [] = [] := rfl

theorem inTurn_concat (before : List α) (a : α) :
    inTurn view before (history ++ [a]) = inTurn view before history ++ [view (before ++ history) a] := by
  induction history generalizing before with
  | nil => simp [inTurn]
  | cons b rest ih => simp [inTurn, ih]

theorem mem_inTurn {before : List α} {b : β} (h : b ∈ inTurn view before history) :
    ∃ earlier a after, history = earlier ++ a :: after ∧ b = view (before ++ earlier) a := by
  induction history generalizing before with
  | nil => cases h
  | cons a rest ih =>
    rcases List.mem_cons.mp h with rfl | h
    · exact ⟨[], a, rest, rfl, by rw [List.append_nil]⟩
    · obtain ⟨earlier, c, after, rfl, rfl⟩ := ih h
      exact ⟨a :: earlier, c, after, rfl, by simp⟩

theorem throughout_iff_forall_inTurn :
    Throughout P history ↔ ∀ place ∈ inTurn Prod.mk [] history, P place.1 place.2 := by
  constructor
  · intro h place mem
    obtain ⟨before, a, after, split, rfl⟩ := mem_inTurn mem
    exact h before a after split
  · intro h
    induction history using List.reverseRecOn with
    | nil => exact throughout_nil
    | append_singleton before a ih =>
      rw [inTurn_concat] at h
      refine throughout_concat.mpr ⟨ih fun place mem => h place (List.mem_append_left _ mem), ?_⟩
      exact h (before, a) (List.mem_append_right _ (List.mem_singleton.mpr rfl))

/-- A property of places that can be decided can be decided throughout a history. -/
instance [DecidableRel P] : Decidable (Throughout P history) :=
  decidable_of_iff _ throughout_iff_forall_inTurn.symm

end inTurn

/-! ### Records that name the one before them -/

section linked

variable {κ β : Type} {key : β → κ} {link : β → Option κ}

/-- Each record names the key of the one before it, and the first one `before`. -/
def Linked (key : β → κ) (link : β → Option κ) : Option κ → List β → Prop
  | _, [] => True
  | before, b :: rest => link b = before ∧ Linked key link (some (key b)) rest

theorem linked_concat {before : Option κ} {records : List β} {b : β} :
    Linked key link before (records ++ [b]) ↔
      Linked key link before records ∧ link b = (records.getLast?.map key).or before := by
  induction records generalizing before with
  | nil => simp [Linked]
  | cons a records ih =>
    have last : ((a :: records).getLast?.map key).or before = (records.getLast?.map key).or (some (key a)) := by
      rw [List.getLast?_cons]
      cases records.getLast? <;> rfl
    rw [List.cons_append, Linked, Linked, ih, last, and_assoc]

/-- A change that keeps keys and links keeps the chain. -/
theorem linked_map {f : β → β} (keys : ∀ b, key (f b) = key b) (links : ∀ b, link (f b) = link b) {before : Option κ}
    {records : List β} : Linked key link before (records.map f) ↔ Linked key link before records := by
  induction records generalizing before with
  | nil => rfl
  | cons b records ih => rw [List.map_cons, Linked, Linked, links, keys, ih]

end linked

end Histories

/-- What related lists are searched for by predicates that agree is related. -/
theorem List.Forall₂.find?_rel {α β : Type} {R : α → β → Prop} {p : α → Bool} {q : β → Bool}
    {l : List α} {l' : List β} (h : Forall₂ R l l') (agree : ∀ a b, R a b → p a = q b) :
    Option.Rel R (l.find? p) (l'.find? q) := by
  induction h with
  | nil => exact .none
  | @cons a b l l' head _ ih =>
    rw [find?_cons, find?_cons, agree a b head]
    split
    · exact .some head
    · exact ih

theorem List.Forall₂.exists_of_mem {α β : Type} {R : α → β → Prop} {l : List α} {l' : List β} (h : Forall₂ R l l')
    {a : α} (here : a ∈ l) : ∃ b ∈ l', R a b := by
  induction h with
  | nil => cases here
  | @cons c b l l' head _ ih =>
    rcases List.mem_cons.mp here with rfl | later
    · exact ⟨b, List.mem_cons_self, head⟩
    · obtain ⟨b', known, related⟩ := ih later
      exact ⟨b', List.mem_cons_of_mem _ known, related⟩
