import Mathlib.Data.List.DropRight
import Mathlib.Data.List.Infix

/-!
# Queues that drop their oldest message

A queue holds at most `capacity` messages, and a full one makes room by dropping its oldest message.
`Conveyed` relates what was offered to the queue so far to what was taken from it and what it still
holds: nothing is reordered, duplicated or made up, and what was lost was followed by at least
`capacity` later messages.

A message may write a register; `lastWrite` is the value that remains after a list of them. It
survives the queue wherever one of the last `capacity` messages writes the register
(`Conveyed.lastWrite_eq`).
-/

namespace DropOldest

variable {α β : Type}

/-- The queue after one more message. -/
def offer (capacity : Nat) (queue : List α) (message : α) : List α :=
  (if queue.length < capacity then queue else queue.tail) ++ [message]

/-- What became of the messages that were offered to a queue. -/
structure Conveyed (capacity : Nat) (offered taken queue : List α) : Prop where
  bounded : queue.length ≤ capacity
  inOrder : (taken ++ queue).Sublist offered
  newest : ∀ recent, recent <:+ offered → recent.length ≤ capacity → recent <:+ taken ++ queue

namespace Conveyed

variable {capacity : Nat} {offered taken queue : List α} {message : α}

theorem start (capacity : Nat) : Conveyed capacity ([] : List α) [] [] where
  bounded := Nat.zero_le _
  inOrder := List.nil_sublist _
  newest := fun recent suffix _ => by simpa using suffix

theorem take (h : Conveyed capacity offered taken (message :: queue)) :
    Conveyed capacity offered (taken ++ [message]) queue := by
  have same : (taken ++ [message]) ++ queue = taken ++ message :: queue := by simp
  constructor
  case bounded => exact Nat.le_of_succ_le h.bounded
  case inOrder => rw [same]; exact h.inOrder
  case newest => rw [same]; exact h.newest

theorem offer (h : Conveyed capacity offered taken queue) (positive : 0 < capacity) (message : α) :
    Conveyed capacity (offered ++ [message]) taken (offer capacity queue message) := by
  unfold DropOldest.offer
  split
  case isTrue room =>
    constructor
    case bounded => simpa using Nat.succ_le_of_lt room
    case inOrder =>
      rw [← List.append_assoc]
      exact h.inOrder.append (List.Sublist.refl _)
    case newest =>
      intro recent suffix short
      obtain rfl | ⟨earlier, rfl, before⟩ := List.suffix_concat_iff.mp suffix
      · exact List.nil_suffix
      · have short : earlier.length + 1 ≤ capacity := by simpa using short
        obtain ⟨front, eq⟩ := h.newest earlier before (by omega)
        exact ⟨front, by rw [← List.append_assoc, eq, List.append_assoc]⟩
  case isFalse full =>
    cases queue with
    | nil => exact absurd positive (by simpa using full)
    | cons oldest queue =>
      have filled : queue.length + 1 = capacity := by
        have := h.bounded
        simp only [List.length_cons] at full this
        omega
      constructor
      case bounded => simp [filled]
      case inOrder =>
        have fewer : (taken ++ queue).Sublist (taken ++ oldest :: queue) :=
          (List.Sublist.refl _).append (List.sublist_cons_self _ _)
        rw [List.tail_cons, ← List.append_assoc]
        exact (fewer.trans h.inOrder).append (List.Sublist.refl _)
      case newest =>
        intro recent suffix short
        obtain rfl | ⟨earlier, rfl, before⟩ := List.suffix_concat_iff.mp suffix
        · exact List.nil_suffix
        · have short : earlier.length + 1 ≤ capacity := by simpa using short
          have within := h.newest earlier before (by omega)
          -- the dropped message is too old to be among so few
          have inQueue : earlier <:+ queue := by
            have tail : queue <:+ taken ++ oldest :: queue := ⟨taken ++ [oldest], by simp⟩
            exact List.suffix_of_suffix_length_le within tail (by omega)
          obtain ⟨front, eq⟩ := inQueue
          exact ⟨taken ++ front, by simp [← eq]⟩

end Conveyed

/-! ## Registers -/

variable {written : α → Option β}

/-- The value that the last writing message of a list writes. -/
def lastWrite (written : α → Option β) (messages : List α) : Option β :=
  (messages.filterMap written).getLast?

@[simp] theorem lastWrite_nil : lastWrite written [] = none := rfl

theorem lastWrite_append (messages later : List α) :
    lastWrite written (messages ++ later) =
      (lastWrite written later).or (lastWrite written messages) := by
  simp [lastWrite, List.getLast?_append]

theorem lastWrite_concat_of_none {message : α} (h : written message = none) (messages : List α) :
    lastWrite written (messages ++ [message]) = lastWrite written messages := by
  simp [lastWrite, h]

theorem lastWrite_concat_of_some {message : α} {value : β} (h : written message = some value)
    (messages : List α) : lastWrite written (messages ++ [message]) = some value := by
  simp [lastWrite, h]

theorem lastWrite_eq_none_iff {messages : List α} :
    lastWrite written messages = none ↔ ∀ message ∈ messages, written message = none := by
  simp [lastWrite]

/-- A message that writes the register is among the last `capacity` ones, if there is one at all. -/
def WrittenLately (capacity : Nat) (written : α → Option β) (offered : List α) : Prop :=
  lastWrite written (offered.rtake capacity) = lastWrite written offered

instance [DecidableEq β] (capacity : Nat) (offered : List α) :
    Decidable (WrittenLately capacity written offered) :=
  inferInstanceAs (Decidable (_ = _))

/-- A register that was written lately has the same value for those who read the queue. -/
theorem Conveyed.lastWrite_eq {capacity : Nat} {offered taken queue : List α}
    (h : Conveyed capacity offered taken queue) (lately : WrittenLately capacity written offered) :
    lastWrite written (taken ++ queue) = lastWrite written offered := by
  have suffix : offered.rtake capacity <:+ offered := List.drop_suffix _ _
  have short : (offered.rtake capacity).length ≤ capacity := by simp [List.rtake]; omega
  cases last : lastWrite written offered with
  | none =>
    rw [lastWrite_eq_none_iff] at last ⊢
    exact fun message mem => last message (h.inOrder.subset mem)
  | some value =>
    obtain ⟨front, eq⟩ := h.newest _ suffix short
    have recent : lastWrite written (offered.rtake capacity) = some value := lately.trans last
    rw [← eq, lastWrite_append, recent, Option.some_or]

end DropOldest
