import Mathlib.Data.List.Infix
import Mathlib.Data.List.Forall2
import Mathlib.Algebra.BigOperators.Group.List.Basic
import Mathlib.Algebra.GroupWithZero.Nat

/-!
# Replies read in chunks

A peer answers each line with a reply, which arrives in chunks. The reader looks at the stream from time to
time, takes what has arrived, and returns as soon as `done` holds of what it holds; it gives up when it runs
out of looks. Nothing tells it where a reply ends, so that what it leaves is read as the start of the next one.

The replies stay with their lines, however they are cut into chunks, exactly when `done` holds of no part of a
reply that something follows (`exchange_eq_replies_iff`).
-/

namespace Chunked

variable {α ι σ : Type} (done : List α → Bool)

/-- Reads a stream at a few looks, at each of which so many elements have arrived since the one before: the
buffer that is returned, and what is left. -/
def readUntil : List Nat → List α → List α → List α × List α
  | [], pending, buffer => (buffer, pending)
  | arrived :: looks, pending, buffer =>
    let chunk := pending.take arrived
    if chunk.isEmpty then readUntil looks pending buffer
    else if done (buffer ++ chunk) then (buffer ++ chunk, pending.drop arrived)
    else readUntil looks (pending.drop arrived) (buffer ++ chunk)

/-- A part of the text that something follows is taken for the whole. -/
def Early (text : List α) : Prop := ∃ front rest, text = front ++ rest ∧ front ≠ [] ∧ rest ≠ [] ∧ done front = true

/-- All of the reply arrives at one of the looks. -/
def Arrives (looks : List Nat) (reply : List α) : Prop := reply.length ≤ looks.sum

variable {done} {looks : List Nat} {pending buffer : List α}

theorem readUntil_append (looks : List Nat) (pending buffer : List α) :
    (readUntil done looks pending buffer).1 ++ (readUntil done looks pending buffer).2 = buffer ++ pending := by
  fun_induction readUntil done looks pending buffer with
  | case1 pending buffer => rfl
  | case2 arrived looks pending buffer chunk empty ih => exact ih
  | case3 arrived looks pending buffer chunk some_ found =>
    show (buffer ++ pending.take arrived) ++ pending.drop arrived = _
    rw [List.append_assoc, List.take_append_drop]
  | case4 arrived looks pending buffer chunk some_ open_ ih =>
    show _ = buffer ++ pending
    rw [ih, List.append_assoc, List.take_append_drop]

/-- A text that is nowhere taken for the whole before it ends is read to its end. -/
theorem readUntil_of_not_early (whole : ¬Early done (buffer ++ pending)) (arrives : Arrives looks pending) :
    readUntil done looks pending buffer = (buffer ++ pending, []) := by
  fun_induction readUntil done looks pending buffer with
  | case1 pending buffer =>
    obtain rfl : pending = [] := by simpa [Arrives] using arrives
    rw [List.append_nil]
  | case2 arrived looks pending buffer chunk empty ih =>
    apply ih whole
    have none_ : pending = [] ∨ arrived = 0 := by
      have : (pending.take arrived).isEmpty = true := empty
      simpa [or_comm] using this
    obtain rfl | rfl := none_
    · exact Nat.zero_le _
    · simpa [Arrives] using arrives
  | case3 arrived looks pending buffer chunk some_ found =>
    have all : pending.drop arrived = [] := by
      by_contra more
      refine whole ⟨buffer ++ chunk, pending.drop arrived, ?_, ?_, more, found⟩
      · show _ = (buffer ++ pending.take arrived) ++ pending.drop arrived
        rw [List.append_assoc, List.take_append_drop]
      · have : pending.take arrived ≠ [] := by simpa [chunk] using some_
        simp [chunk, this]
    have taken : chunk = pending := by
      show pending.take arrived = pending
      conv_rhs => rw [← List.take_append_drop arrived pending, all, List.append_nil]
    rw [all, taken]
  | case4 arrived looks pending buffer chunk some_ open_ ih =>
    have same : (buffer ++ chunk) ++ pending.drop arrived = buffer ++ pending := by
      show (buffer ++ pending.take arrived) ++ pending.drop arrived = _
      rw [List.append_assoc, List.take_append_drop]
    rw [ih (by rwa [same]), same]
    have total : pending.length ≤ arrived + looks.sum := by simpa [Arrives] using arrives
    show (pending.drop arrived).length ≤ looks.sum
    rw [List.length_drop]
    omega

/-- What arrives at one look is read at once. -/
theorem readUntil_once {text : List α} : readUntil done [text.length] text [] = (text, []) := by
  unfold readUntil
  rw [List.take_length, List.drop_length]
  dsimp only
  split
  case isTrue empty =>
    obtain rfl : text = [] := by simpa using empty
    rfl
  case isFalse =>
    rw [List.nil_append]
    split
    · rfl
    · rfl

/-- A front that is taken for the whole is returned, if it arrives alone. -/
theorem readUntil_front {front rest : List α} {looks : List Nat} (some_ : front ≠ []) (found : done front = true) :
    readUntil done (front.length :: looks) (front ++ rest) [] = (front, rest) := by
  unfold readUntil
  rw [List.take_left, List.drop_left]
  dsimp only
  rw [if_neg (by simpa using some_), List.nil_append, if_pos found]

/-! ## An exchange -/

section exchange

variable (done) (answer : σ → ι → List α × σ)

/-- The replies of a peer to some lines. -/
def replies : σ → List ι → List (List α)
  | _, [] => []
  | s, line :: lines => (answer s line).1 :: replies (answer s line).2 lines

/-- What is read for each of some lines, with the looks that are had at its reply. -/
def exchange : σ → List α → List ι → List (List Nat) → List (List α)
  | s, pending, line :: lines, looks :: later =>
    let read := readUntil done looks (pending ++ (answer s line).1) []
    read.1 :: exchange (answer s line).2 read.2 lines later
  | _, _, _, _ => []

variable {done answer}

theorem exchange_of_not_early {s : σ} {lines : List ι} {looks : List (List Nat)}
    (whole : ∀ reply ∈ replies answer s lines, ¬Early done reply)
    (arrive : List.Forall₂ Arrives looks (replies answer s lines)) :
    exchange done answer s [] lines looks = replies answer s lines := by
  induction lines generalizing s looks with
  | nil => cases looks <;> rfl
  | cons line lines ih =>
    cases arrive with
    | cons first later =>
      obtain ⟨here, rest⟩ := List.forall_mem_cons.mp whole
      rw [exchange, List.nil_append, readUntil_of_not_early here first]
      show _ :: exchange done answer _ [] lines _ = _
      rw [ih rest later]
      rfl

/-- One look that is had when a whole reply has arrived, for each reply. -/
theorem arrive_once (texts : List (List α)) : List.Forall₂ Arrives (texts.map fun text => [text.length]) texts := by
  rw [List.forall₂_map_left_iff]
  exact List.forall₂_same.mpr fun text _ => by simp [Arrives]

/-- An early reply can be cut so that it, or a later one, is read wrongly. -/
theorem exists_exchange_ne {s : σ} {lines : List ι} {reply : List α} (here : reply ∈ replies answer s lines)
    (early : Early done reply) : ∃ looks, List.Forall₂ Arrives looks (replies answer s lines) ∧
      exchange done answer s [] lines looks ≠ replies answer s lines := by
  induction lines generalizing s with
  | nil => cases here
  | cons line lines ih =>
    rcases List.mem_cons.mp here with rfl | later
    · obtain ⟨front, rest, text, some_, more, found⟩ := early
      let looks := [front.length, rest.length] :: (replies answer (answer s line).2 lines).map fun text => [text.length]
      refine ⟨looks, .cons ?_ (arrive_once _), fun same => more ?_⟩
      · simp [Arrives, text]
      · rw [exchange, List.nil_append, text, readUntil_front some_ found] at same
        have first : front = front ++ rest := text ▸ (List.cons.inj same).1
        simpa using first
    · obtain ⟨looks, arrive, wrong⟩ := ih later
      refine ⟨[(answer s line).1.length] :: looks, .cons (by simp [Arrives]) arrive, fun same => wrong ?_⟩
      rw [exchange, List.nil_append, readUntil_once] at same
      exact (List.cons.inj same).2

/-- **The replies stay with their lines**, however they are cut into chunks, exactly when none of them is early. -/
theorem exchange_eq_replies_iff {s : σ} {lines : List ι} :
    (∀ looks, List.Forall₂ Arrives looks (replies answer s lines) →
      exchange done answer s [] lines looks = replies answer s lines) ↔
      ∀ reply ∈ replies answer s lines, ¬Early done reply := by
  constructor
  · intro all reply here early
    obtain ⟨looks, arrive, wrong⟩ := exists_exchange_ne here early
    exact wrong (all looks arrive)
  · intro whole looks arrive
    exact exchange_of_not_early whole arrive

end exchange

end Chunked
