import SwitchOps.Lib.Tiling
import SwitchOps.Logging.Redaction

/-!
# Masked texts

A text in the middle of `redact` is a list of tokens: characters that are kept, and masks that remember what is gone.
The tokens of a text with masks are found again in what is shown, since no secret and no key word reads a part of a
mask. So the two loops of `redact` work on tokens, and the second one is a run in the sense of `Tiling`.
-/

namespace SwitchOps.Logging

theorem redacted_eq : redacted = '<' :: (("redacted" : Text) ++ ['>']) := by decide

/-- A safe secret does not start inside a mask. -/
theorem Safe.not_prefix {s w w' : Text} (safe : Safe s) (nonempty : s ≠ []) (whole : redacted = w ++ w') (inside : w' ≠ [])
    (rest : Text) : ¬s <+: w' ++ rest := by
  rintro ⟨post, starts⟩
  have closing : '>' ∈ w' := by
    obtain ⟨v, d, rfl⟩ := (List.eq_nil_or_concat w').resolve_left inside
    have last := congrArg List.getLast? whole
    rw [List.concat_eq_append, ← List.append_assoc, List.getLast?_concat] at last
    have last : redacted.getLast? = some d := last
    rw [redacted_eq, ← List.cons_append, List.getLast?_concat] at last
    obtain rfl : '>' = d := Option.some.inj last
    simp
  rcases List.append_eq_append_iff.mp starts with ⟨a, whole', -⟩ | ⟨b, longer, -⟩
  · -- the secret ends inside the mask
    rcases List.eq_nil_or_concat a with rfl | ⟨a, d, rfl⟩
    · apply safe.closing
      rw [whole', List.append_nil] at closing
      exact closing
    · cases w with
      | nil =>
        rw [whole', redacted_eq] at whole
        cases s with
        | nil => exact nonempty rfl
        | cons c s =>
          obtain ⟨rfl, -⟩ := List.cons.inj whole
          exact safe.opening List.mem_cons_self
      | cons c w =>
        rw [whole', List.concat_eq_append, redacted_eq, List.cons_append, ← List.append_assoc s, ← List.append_assoc w]
          at whole
        obtain ⟨-, behind⟩ := List.cons.inj whole
        obtain ⟨word, -⟩ := List.append_inj' behind rfl
        exact safe.inside ⟨w, a, (List.append_assoc w s a).trans word.symm⟩
  · apply safe.closing
    rw [longer]
    exact List.mem_append_left _ closing

/-- A character, or a masked stretch. -/
inductive Token (α : Type)
  | keep (a : α)
  | gone (as : List α)

namespace Token

variable {α : Type} {char : α → Char} {mask : List α}

/-- What the tokens look like. -/
def render (mask : List α) : List (Token α) → List α
  | [] => []
  | keep a :: tokens => a :: render mask tokens
  | gone _ :: tokens => mask ++ render mask tokens

/-- The text before anything was masked. -/
def original : List (Token α) → List α
  | [] => []
  | keep a :: tokens => a :: original tokens
  | gone as :: tokens => as ++ original tokens

/-- The text before, with blanks for what is gone. -/
def marks : List (Token α) → List (Option α)
  | [] => []
  | keep a :: tokens => some a :: marks tokens
  | gone as :: tokens => as.map (fun _ => none) ++ marks tokens

@[simp] theorem render_append (first second : List (Token α)) :
    render mask (first ++ second) = render mask first ++ render mask second := by
  induction first with
  | nil => rfl
  | cons token first ih =>
    cases token with
    | keep a => exact congrArg (a :: ·) ih
    | gone as =>
      rw [List.cons_append, render, render, ih, List.append_assoc]

@[simp] theorem original_append (first second : List (Token α)) :
    original (first ++ second) = original first ++ original second := by
  induction first with
  | nil => rfl
  | cons token first ih =>
    cases token with
    | keep a => exact congrArg (a :: ·) ih
    | gone as =>
      rw [List.cons_append, original, original, ih, List.append_assoc]

@[simp] theorem marks_append (first second : List (Token α)) : marks (first ++ second) = marks first ++ marks second := by
  induction first with
  | nil => rfl
  | cons token first ih =>
    cases token with
    | keep a => exact congrArg (some a :: ·) ih
    | gone as =>
      rw [List.cons_append, marks, marks, ih, List.append_assoc]

@[simp] theorem render_keep (as : List α) : render mask (as.map keep) = as := by
  induction as with
  | nil => rfl
  | cons a as ih => exact congrArg (a :: ·) ih

@[simp] theorem original_keep (as : List α) : original (as.map keep) = as := by
  induction as with
  | nil => rfl
  | cons a as ih => exact congrArg (a :: ·) ih

@[simp] theorem marks_keep (as : List α) : marks (as.map keep) = as.map some := by
  induction as with
  | nil => rfl
  | cons a as ih => exact congrArg (some a :: ·) ih

@[simp] theorem length_marks (tokens : List (Token α)) : (marks tokens).length = (original tokens).length := by
  induction tokens with
  | nil => rfl
  | cons token tokens ih => cases token <;> simp [marks, original, ih]

/-! ## Cuts between tokens -/

section cuts

variable (masked : mask.map char = redacted)

include masked

/-- A text is cut between two tokens if the cut is not inside a mask. -/
theorem exists_split {tokens : List (Token α)} {x y : Text} (shown : (render mask tokens).map char = x ++ y)
    (clean : ∀ w w', redacted = w ++ w' → w ≠ [] → w' ≠ [] → w <:+ x → w' <+: y → False) :
    ∃ first second, tokens = first ++ second ∧ (render mask first).map char = x ∧ (render mask second).map char = y := by
  induction tokens generalizing x with
  | nil =>
    obtain ⟨rfl, rfl⟩ := List.append_eq_nil_iff.mp shown.symm
    exact ⟨[], [], rfl, rfl, rfl⟩
  | cons token tokens ih =>
    cases x with
    | nil => exact ⟨[], token :: tokens, rfl, rfl, shown⟩
    | cons c x =>
      cases token with
      | keep a =>
        obtain ⟨rfl, behind⟩ := List.cons.inj shown
        obtain ⟨first, second, rfl, left, right⟩ := ih behind fun w w' whole hw hw' ends starts =>
          clean w w' whole hw hw' (ends.trans (List.suffix_cons _ _)) starts
        exact ⟨keep a :: first, second, rfl, congrArg (char a :: ·) left, right⟩
      | gone as =>
        rw [render, List.map_append, masked] at shown
        rcases List.append_eq_append_iff.mp shown with ⟨x', cut, shown⟩ | ⟨w', whole, cut⟩
        · -- the mask is before the cut
          obtain ⟨first, second, rfl, left, right⟩ := ih shown fun w w' whole hw hw' ends starts =>
            clean w w' whole hw hw' (by rw [cut]; exact ends.trans (List.suffix_append _ _)) starts
          refine ⟨gone as :: first, second, rfl, ?_, right⟩
          rw [render, List.map_append, masked, left, cut]
        · cases w' with
          | nil =>
            rw [List.append_nil] at whole
            refine ⟨[gone as], tokens, rfl, ?_, ?_⟩
            · rw [render, render, List.append_nil, masked, whole]
            · rw [cut, List.nil_append]
          | cons d w' =>
            exfalso
            apply clean (c :: x) (d :: w') whole
            · exact List.cons_ne_nil _ _
            · exact List.cons_ne_nil _ _
            · exact List.suffix_rfl
            · rw [cut]
              exact List.prefix_append _ _

/-- What starts with characters that no mask has starts with tokens that are kept. -/
theorem exists_kept {tokens : List (Token α)} {s post : Text} (shown : (render mask tokens).map char = s ++ post)
    (opening : '<' ∉ s) :
    ∃ (as : List α) (second : List (Token α)), tokens = as.map keep ++ second ∧ as.map char = s ∧ (render mask second).map char = post := by
  induction s generalizing tokens with
  | nil => exact ⟨[], tokens, rfl, rfl, shown⟩
  | cons c s ih =>
    cases tokens with
    | nil => cases shown
    | cons token tokens =>
      cases token with
      | keep a =>
        obtain ⟨rfl, behind⟩ := List.cons.inj shown
        obtain ⟨as, second, rfl, spelled, right⟩ := ih behind fun here => opening (List.mem_cons_of_mem _ here)
        exact ⟨a :: as, second, rfl, congrArg (char a :: ·) spelled, right⟩
      | gone as =>
        rw [render, List.map_append, masked] at shown
        obtain ⟨rfl, -⟩ := List.cons.inj shown
        exact absurd List.mem_cons_self opening

/-- An occurrence of a safe secret consists of kept characters. -/
theorem exists_occurrence {tokens : List (Token α)} {s pre post : Text} (safe : Safe s) (nonempty : s ≠ [])
    (shown : (render mask tokens).map char = pre ++ (s ++ post)) :
    ∃ (first : List (Token α)) (as : List α) (second : List (Token α)), tokens = first ++ (as.map keep ++ second) ∧ (render mask first).map char = pre ∧
      as.map char = s ∧ (render mask second).map char = post := by
  obtain ⟨first, behind, rfl, left, right⟩ := exists_split masked shown fun w w' whole _ hw' _ starts => by
    obtain ⟨rest, starts⟩ := starts
    exact safe.not_prefix nonempty whole hw' rest (by rw [starts]; exact List.prefix_append _ _)
  obtain ⟨as, second, rfl, spelled, right⟩ := exists_kept masked right safe.opening
  exact ⟨first, as, second, rfl, left, spelled, right⟩

end cuts

/-! ## One secret -/

variable (char)

/-- Where the masks are, from a place on. -/
def blocksFrom : Nat → List (Token α) → Finset (Text × Nat)
  | _, [] => ∅
  | i, keep _ :: tokens => blocksFrom (i + 1) tokens
  | i, gone as :: tokens => insert (as.map char, i) (blocksFrom (i + as.length) tokens)

theorem blocksFrom_keep (as : List α) (tokens : List (Token α)) (i : Nat) :
    blocksFrom char i (as.map keep ++ tokens) = blocksFrom char (i + as.length) tokens := by
  induction as generalizing i with
  | nil => rfl
  | cons a as ih =>
    rw [List.map_cons, List.cons_append, blocksFrom, ih, List.length_cons, Nat.add_right_comm, Nat.add_assoc]

/-- Nothing is masked that is empty. -/
def Solid (tokens : List (Token α)) : Prop := ∀ as, gone as ∈ tokens → as ≠ []

/-- A secret is there and kept as a whole. -/
def KeptAt (tokens : List (Token α)) (s : Text) (j : Nat) : Prop :=
  s.map some <+: ((marks tokens).map (Option.map char)).drop j

variable {char}

theorem keptAt_append {first second : List (Token α)} {s : Text} {j : Nat} :
    KeptAt char (first ++ second) s ((original first).length + j) ↔ KeptAt char second s j := by
  rw [KeptAt, KeptAt, marks_append, List.map_append, ← length_marks, ← List.length_map (f := Option.map char),
    List.drop_length_add_append]

/-- What is kept at the start is spelled by kept characters. -/
theorem exists_of_keptAt_zero {tokens : List (Token α)} {s : Text} (solid : Solid tokens) (kept : KeptAt char tokens s 0) :
    s <+: (render mask tokens).map char := by
  rw [KeptAt, List.drop_zero] at kept
  induction s generalizing tokens with
  | nil => exact List.nil_prefix
  | cons c s ih =>
    cases tokens with
    | nil => exact absurd kept (by simp [marks])
    | cons token tokens =>
      cases token with
      | keep a =>
        obtain ⟨same, behind⟩ := List.cons_prefix_cons.mp kept
        rw [Option.some.inj same]
        exact List.cons_prefix_cons.mpr ⟨rfl, ih (fun as here => solid as (List.mem_cons_of_mem _ here)) behind⟩
      | gone as =>
        cases as with
        | nil => exact absurd rfl (solid [] List.mem_cons_self)
        | cons a as =>
          obtain ⟨other, -⟩ := List.cons_prefix_cons.mp kept
          cases other

theorem keptAt_iff {tokens : List (Token α)} {s : Text} {j : Nat} :
    KeptAt char tokens s j ↔ ∀ k, ∀ h : k < s.length, ∃ a, (marks tokens)[j + k]? = some (some a) ∧ char a = s[k] := by
  rw [KeptAt, List.prefix_iff_getElem?]
  simp only [List.length_map, List.getElem?_drop, List.getElem?_map, List.getElem_map, Option.map_eq_some_iff]
  refine forall₂_congr fun k h => ?_
  constructor
  · rintro ⟨mark, here, a, rfl, same⟩
    exact ⟨a, here, same⟩
  · rintro ⟨a, here, same⟩
    exact ⟨some a, here, a, rfl, same⟩

theorem getElem?_marks_gone {as : List α} {tokens : List (Token α)} {j : Nat} (inside : j < as.length) :
    (marks (gone as :: tokens))[j]? = some none := by
  rw [marks, List.getElem?_append_left (by rw [List.length_map]; exact inside), List.getElem?_map,
    List.getElem?_eq_getElem inside]
  rfl

theorem not_keptAt_gone {as : List α} {tokens : List (Token α)} {s : Text} {j : Nat} (nonempty : s ≠ [])
    (inside : j < as.length) : ¬KeptAt char (gone as :: tokens) s j := by
  intro kept
  obtain ⟨a, here, -⟩ := keptAt_iff.mp kept 0 (List.length_pos_iff.mpr nonempty)
  rw [Nat.add_zero, getElem?_marks_gone inside] at here
  cases here

/-- The places that the scan from `i` on goes through. -/
def Fits (char : α → Char) (i : Nat) (tokens : List (Token α)) (s : Text) (j : Nat) : Prop :=
  i ≤ j ∧ KeptAt char tokens s (j - i)

theorem fits_append {first second : List (Token α)} {s : Text} {i j : Nat} (behind : i + (original first).length ≤ j) :
    Fits char i (first ++ second) s j ↔ Fits char (i + (original first).length) second s j := by
  have place : j - i = (original first).length + (j - (i + (original first).length)) := by omega
  rw [Fits, Fits, place, keptAt_append]
  constructor
  · exact fun kept => ⟨behind, kept.2⟩
  · exact fun kept => ⟨by omega, kept.2⟩

theorem fits_gone {as : List α} {tokens : List (Token α)} {s : Text} {i j : Nat} (nonempty : s ≠ []) :
    Fits char i (gone as :: tokens) s j ↔ Fits char (i + as.length) tokens s j := by
  have length : (original [gone as]).length = as.length := by rw [original, original, List.append_nil]
  by_cases behind : i + as.length ≤ j
  · rw [← length] at behind ⊢
    exact fits_append behind
  · apply iff_of_false
    · rintro ⟨here, kept⟩
      exact not_keptAt_gone nonempty (by omega) kept
    · exact fun kept => behind kept.1

/-! ### Scanning -/

/-- Inside a match nothing is written. -/
theorem replaceFrom_skip {s : Text} (skip : Nat) (as : List α) :
    replaceFrom char mask s skip as = replaceFrom char mask s 0 (as.drop skip) := by
  induction as generalizing skip with
  | nil => cases skip <;> rfl
  | cons a as ih =>
    cases skip with
    | zero => rfl
    | succ skip =>
      rw [List.drop_succ_cons, replaceFrom]
      exact ih skip

theorem replaceFrom_hit {s : Text} {as rest : List α} (nonempty : s ≠ []) (spelled : as.map char = s) :
    replaceFrom char mask s 0 (as ++ rest) = mask ++ replaceFrom char mask s 0 rest := by
  subst spelled
  cases as with
  | nil => exact absurd rfl nonempty
  | cons a as =>
    have here : ((a :: as).map char).isPrefixOf ((a :: (as ++ rest)).map char) = true := by
      rw [List.isPrefixOf_iff_prefix, ← List.cons_append, List.map_append]
      exact List.prefix_append _ _
    rw [List.cons_append, replaceFrom, if_pos here, replaceFrom_skip]
    simp

/-- Where the secret does not start, the text is copied. -/
theorem replaceFrom_append {s : Text} (as : List α) {rest : List α}
    (nowhere : ∀ w w', as = w ++ w' → w' ≠ [] → ¬s <+: (w' ++ rest).map char) :
    replaceFrom char mask s 0 (as ++ rest) = as ++ replaceFrom char mask s 0 rest := by
  induction as with
  | nil => rfl
  | cons a as ih =>
    have other := nowhere [] (a :: as) rfl (List.cons_ne_nil _ _)
    rw [← List.isPrefixOf_iff_prefix, List.cons_append] at other
    rw [List.cons_append, replaceFrom, if_neg other, List.cons_append,
      ih fun w w' cut => nowhere (a :: w) w' (congrArg (a :: ·) cut)]

/-- **Step**: replacing a secret masks the occurrences that a scan over what is kept picks. -/
theorem exists_replaced (masked : mask.map char = redacted) {s : Text} (safe : Safe s) (nonempty : s ≠ [])
    (tokens : List (Token α)) (solid : Solid tokens) (i : Nat) :
    ∃ (tokens' : List (Token α)) (P : Finset Nat),
      replaceFrom char mask s 0 (render mask tokens) = render mask tokens' ∧ original tokens' = original tokens ∧
        Solid tokens' ∧ blocksFrom char i tokens' = blocksFrom char i tokens ∪ P.image (s, ·) ∧
        Tiling.Picks (Fits char i tokens s) s.length P := by
  induction h : tokens.length using Nat.strong_induction_on generalizing tokens i with
  | _ n ih =>
    cases tokens with
    | nil =>
      refine ⟨[], ∅, rfl, rfl, solid, rfl, by simp, by simp, fun j fits => ?_⟩
      obtain ⟨a, here, -⟩ := keptAt_iff.mp fits.2 0 (List.length_pos_iff.mpr nonempty)
      cases here
    | cons token tokens =>
      have solid' : Solid tokens := fun as here => solid as (List.mem_cons_of_mem _ here)
      rw [List.length_cons] at h
      cases token with
      | gone as =>
        obtain ⟨tokens', P, replaced, same, solid', blocks, picks⟩ :=
          ih tokens.length (by omega) tokens solid' (i + as.length) rfl
        refine ⟨gone as :: tokens', P, ?_, ?_, fun bs here => ?_, ?_, picks.congr fun j => fits_gone nonempty⟩
        · rw [render, replaceFrom_append mask, replaced, render]
          -- no occurrence starts in the mask
          intro w w' cut ne
          rw [List.map_append]
          refine safe.not_prefix nonempty (w := w.map char) ?_ (by simpa using ne) _
          rw [← masked, cut, List.map_append]
        · rw [original, original, same]
        · rcases List.mem_cons.mp here with same | here
          · cases same
            exact solid as List.mem_cons_self
          · exact solid' bs here
        · rw [blocksFrom, blocksFrom, blocks, Finset.insert_union]
      | keep a =>
        by_cases here : s <+: (render mask (keep a :: tokens)).map char
        · -- an occurrence
          obtain ⟨post, shown⟩ := here
          obtain ⟨as, second, split, spelled, -⟩ := exists_kept masked shown.symm safe.opening
          have length : as.length = s.length := by rw [← spelled, List.length_map]
          have shorter : second.length < n := by
            have := congrArg List.length split
            have := List.length_pos_iff.mpr nonempty
            simp only [List.length_cons, List.length_append, List.length_map] at *
            omega
          rw [split] at solid ⊢
          have solid' : Solid second := fun bs here => solid bs (List.mem_append_right _ here)
          obtain ⟨tokens', P, replaced, same, solid', blocks, picks⟩ := ih second.length shorter second solid' (i + s.length) rfl
          refine ⟨gone as :: tokens', insert i P, ?_, ?_, fun bs here => ?_, ?_, ?_⟩
          · rw [render_append, render_keep, replaceFrom_hit nonempty spelled, replaced, render]
          · rw [original, same, original_append, original_keep]
          · rcases List.mem_cons.mp here with same | here
            · cases same
              intro empty
              rw [empty] at length
              exact nonempty (List.length_eq_zero_iff.mp length.symm)
            · exact solid' bs here
          · rw [blocksFrom, blocksFrom_keep, length, blocks, spelled, Finset.image_insert, Finset.union_insert]
          · have whole : (original (as.map keep : List (Token α))).length = s.length := by rw [original_keep, length]
            refine Tiling.Picks.insert ⟨le_rfl, ?_⟩ (fun j fits => fits.1) (picks.congr fun j => ?_)
            · rw [Nat.sub_self, KeptAt, List.drop_zero, marks_append, marks_keep, List.map_append, ← spelled]
              simp
            · rw [← whole]
              constructor
              · rintro ⟨behind, fits⟩
                exact (fits_append behind).mp fits
              · exact fun fits => ⟨fits.1, (fits_append fits.1).mpr fits⟩
        · -- the character is copied
          obtain ⟨tokens', P, replaced, same, solid', blocks, picks⟩ := ih tokens.length (by omega) tokens solid' (i + 1) rfl
          refine ⟨keep a :: tokens', P, ?_, ?_, fun bs here => ?_, ?_, picks.congr fun j => ?_⟩
          · rw [← List.isPrefixOf_iff_prefix, render] at here
            rw [render, replaceFrom, if_neg here, replaced, render]
          · rw [original, original, same]
          · rcases List.mem_cons.mp here with same | here
            · cases same
            · exact solid' bs here
          · rw [blocksFrom, blocksFrom, blocks]
          · by_cases behind : i + 1 ≤ j
            · have split : keep a :: tokens = [keep a] ++ tokens := rfl
              rw [split]
              exact fits_append behind
            · apply iff_of_false
              · rintro ⟨before, kept⟩
                obtain rfl : i = j := by omega
                rw [Nat.sub_self] at kept
                exact here (exists_of_keptAt_zero solid kept)
              · exact fun fits => behind fits.1

/-! ## What is covered -/

theorem le_of_mem_blocksFrom {tokens : List (Token α)} {i : Nat} {b : Text × Nat} (member : b ∈ blocksFrom char i tokens) :
    i ≤ b.2 := by
  induction tokens generalizing i with
  | nil => exact absurd member (Finset.notMem_empty b)
  | cons token tokens ih =>
    cases token with
    | keep a => exact (Nat.le_succ i).trans (ih member)
    | gone as =>
      rcases Finset.mem_insert.mp member with rfl | later
      · exact le_rfl
      · exact (Nat.le_add_right i as.length).trans (ih later)

/-- The blanks are the cells of the blocks. -/
theorem marks_eq_none_iff (char : α → Char) {tokens : List (Token α)} {i p : Nat} :
    (marks tokens)[p]? = some none ↔ ∃ b ∈ blocksFrom char i tokens, Tiling.Covers List.length b (i + p) := by
  induction tokens generalizing i p with
  | nil => simp [marks, blocksFrom]
  | cons token tokens ih =>
    cases token with
    | keep a =>
      cases p with
      | zero =>
        apply iff_of_false
        · intro here
          cases here
        · rintro ⟨b, member, covers⟩
          have behind : i + 1 ≤ b.2 := le_of_mem_blocksFrom member
          have := covers.1
          omega
      | succ p =>
        rw [marks, List.getElem?_cons_succ, ih (i := i + 1), blocksFrom, Nat.add_right_comm, Nat.add_assoc]
    | gone as =>
      by_cases inside : p < as.length
      · apply iff_of_true (getElem?_marks_gone inside)
        refine ⟨(as.map char, i), Finset.mem_insert_self _ _, Nat.le_add_right _ _, ?_⟩
        rw [List.length_map]
        exact Nat.add_lt_add_left inside i
      · have place : i + p = i + as.length + (p - as.length) := by omega
        rw [marks, List.getElem?_append_right (by rw [List.length_map]; omega), List.length_map, ih (i := i + as.length),
          place, blocksFrom]
        constructor
        · rintro ⟨b, member, covers⟩
          exact ⟨b, Finset.mem_insert_of_mem member, covers⟩
        · rintro ⟨b, member, covers⟩
          rcases Finset.mem_insert.mp member with rfl | later
          · have := covers.2
            rw [List.length_map] at this
            omega
          · exact ⟨b, later, covers⟩

theorem getElem?_original {tokens : List (Token α)} {p : Nat} {a : α} :
    (marks tokens)[p]? = some (some a) → (original tokens)[p]? = some a := by
  induction tokens generalizing p with
  | nil => exact fun here => by cases here
  | cons token tokens ih =>
    cases token with
    | keep b =>
      cases p with
      | zero =>
        intro here
        cases here
        rfl
      | succ p => exact ih
    | gone as =>
      intro here
      by_cases inside : p < as.length
      · rw [getElem?_marks_gone inside] at here
        cases here
      · rw [marks, List.getElem?_append_right (by rw [List.length_map]; omega), List.length_map] at here
        rw [original, List.getElem?_append_right (by omega)]
        exact ih here

/-- A place is kept or blank. -/
theorem marks_eq_or {tokens : List (Token α)} {p : Nat} {a : α} (here : (original tokens)[p]? = some a) :
    (marks tokens)[p]? = some (some a) ∨ (marks tokens)[p]? = some none := by
  have bound : p < (marks tokens).length := by
    rw [length_marks]
    exact (List.getElem?_eq_some_iff.mp here).1
  cases mark : (marks tokens)[p] with
  | none =>
    right
    rw [List.getElem?_eq_getElem bound, mark]
  | some b =>
    left
    have kept : (marks tokens)[p]? = some (some b) := by rw [List.getElem?_eq_getElem bound, mark]
    rw [kept, ← getElem?_original kept, here]

theorem occursAt_iff {text s : Text} {j : Nat} :
    OccursAt text s j ↔ ∀ k, ∀ h : k < s.length, text[j + k]? = some s[k] := by
  rw [OccursAt, List.prefix_iff_getElem?]
  simp only [List.getElem?_drop]

/-- Kept as a whole: an occurrence in the text before, clear of the masks. -/
theorem keptAt_iff_occursAt {tokens : List (Token α)} {s : Text} {j : Nat} :
    KeptAt char tokens s j ↔ OccursAt ((original tokens).map char) s j ∧
      Tiling.Free List.length (blocksFrom char 0 tokens) s j := by
  rw [keptAt_iff, occursAt_iff]
  constructor
  · intro kept
    constructor
    · intro k h
      obtain ⟨a, here, same⟩ := kept k h
      rw [List.getElem?_map, getElem?_original here, Option.map_some, same]
    · intro b member p inB inside
      have inside : j ≤ p ∧ p < j + s.length := inside
      obtain ⟨a, here, -⟩ := kept (p - j) (by omega)
      have blank := (marks_eq_none_iff char (p := p)).mpr ⟨b, member, by rwa [Nat.zero_add]⟩
      rw [show j + (p - j) = p by omega, blank] at here
      cases here
  · rintro ⟨occurs, free⟩ k h
    have here := occurs k h
    rw [List.getElem?_map, Option.map_eq_some_iff] at here
    obtain ⟨a, here, same⟩ := here
    rcases marks_eq_or here with kept | blank
    · exact ⟨a, kept, same⟩
    · obtain ⟨b, member, covers⟩ := (marks_eq_none_iff char (i := 0)).mp blank
      rw [Nat.zero_add] at covers
      exact absurd ⟨Nat.le_add_right j k, Nat.add_lt_add_left h j⟩ (free b member _ covers)

/-! ## All secrets -/

theorem contains_iff {text s : Text} : Text.contains text s = true ↔ s <:+: text := by
  rw [Text.contains, List.any_eq_true]
  simp only [List.mem_tails, List.isPrefixOf_iff_prefix]
  constructor
  · rintro ⟨tail, ⟨pre, whole⟩, ⟨post, starts⟩⟩
    exact ⟨pre, post, by rw [List.append_assoc, starts, whole]⟩
  · rintro ⟨pre, post, whole⟩
    exact ⟨s ++ post, ⟨pre, by rw [← List.append_assoc, whole]⟩, List.prefix_append _ _⟩

/-- Looking for the secret before it is replaced changes nothing. -/
theorem maskSecret_eq {s : Text} (nonempty : s ≠ []) (out : List α) :
    maskSecret char mask out s = replaceFrom char mask s 0 out := by
  rw [maskSecret]
  split
  · rfl
  · next missing =>
    have missing : ¬s <:+: out.map char := by
      rw [← contains_iff]
      intro here
      apply missing
      rw [here, Bool.and_true]
      simpa using nonempty
    have copied : replaceFrom char mask s 0 (out ++ []) = out ++ replaceFrom char mask s 0 [] := by
      apply replaceFrom_append
      intro w w' cut _ starts
      apply missing
      rw [List.append_nil] at starts
      rw [cut, List.map_append]
      exact starts.isInfix.trans (List.suffix_append _ _).isInfix
    rw [List.append_nil] at copied
    rw [copied, replaceFrom, List.append_nil]

/-- **Run**: the second loop of `redact` masks the blocks of a run over the text it starts from. -/
theorem exists_run (masked : mask.map char = redacted) {order : List Text} (safe : ∀ s ∈ order, Safe s ∧ s ≠ [])
    (tokens : List (Token α)) (solid : Solid tokens) :
    ∃ tokens' : List (Token α), order.foldl (maskSecret char mask) (render mask tokens) = render mask tokens' ∧
      original tokens' = original tokens ∧ Solid tokens' ∧
      Tiling.Run List.length (OccursAt ((original tokens).map char)) order (blocksFrom char 0 tokens)
        (blocksFrom char 0 tokens') := by
  induction order generalizing tokens with
  | nil => exact ⟨tokens, rfl, rfl, solid, .nil _⟩
  | cons s order ih =>
    obtain ⟨here, nonempty⟩ := safe s List.mem_cons_self
    obtain ⟨between, P, replaced, same, solid', blocks, picks⟩ := exists_replaced masked here nonempty tokens solid 0
    obtain ⟨tokens', run, same', solid'', blocks'⟩ := ih (fun t later => safe t (List.mem_cons_of_mem _ later)) between solid'
    refine ⟨tokens', ?_, same'.trans same, solid'', ?_⟩
    · rw [List.foldl_cons, maskSecret_eq nonempty, replaced, run]
    · rw [same] at blocks'
      refine .cons (picks.congr fun j => ?_) (by rw [← blocks]; exact blocks')
      rw [Fits, Nat.sub_zero, keptAt_iff_occursAt]
      exact (and_iff_right (Nat.zero_le j)).symm

/-! ## What is shown -/

/-- What is not part of a mask is shown if it is not blank. -/
theorem mem_render_iff {tokens : List (Token α)} {a : α} (plain : a ∉ mask) :
    a ∈ render mask tokens ↔ some a ∈ marks tokens := by
  induction tokens with
  | nil => simp [render, marks]
  | cons token tokens ih =>
    cases token with
    | keep b => simp [render, marks, ih]
    | gone as => simp [render, marks, ih, plain]

theorem notMem_blocksFrom {tokens : List (Token α)} {as : List α} {word : Text} {i : Nat} (nonempty : as ≠ []) :
    (word, i) ∉ blocksFrom char (i + as.length) tokens := by
  intro member
  have behind : i + as.length ≤ i := le_of_mem_blocksFrom member
  have := List.length_pos_iff.mpr nonempty
  omega

/-- Masked texts are the same if they come from one text and have the same blocks. -/
theorem eq_of_blocks {tokens tokens' : List (Token α)} (solid : Solid tokens) (solid' : Solid tokens')
    (same : original tokens = original tokens') {i : Nat} (blocks : blocksFrom char i tokens = blocksFrom char i tokens') :
    tokens = tokens' := by
  induction tokens generalizing tokens' i with
  | nil =>
    cases tokens' with
    | nil => rfl
    | cons token tokens' =>
      cases token with
      | keep a => cases same
      | gone as => exact absurd (List.append_eq_nil_iff.mp same.symm).1 (solid' as List.mem_cons_self)
  | cons token tokens ih =>
    have behind : Solid tokens := fun as here => solid as (List.mem_cons_of_mem _ here)
    cases tokens' with
    | nil =>
      cases token with
      | keep a => cases same
      | gone as => exact absurd (List.append_eq_nil_iff.mp same).1 (solid as List.mem_cons_self)
    | cons token' tokens' =>
      have behind' : Solid tokens' := fun as here => solid' as (List.mem_cons_of_mem _ here)
      cases token with
      | keep a =>
        cases token' with
        | keep b =>
          obtain ⟨rfl, rest⟩ := List.cons.inj same
          rw [ih behind behind' rest (i := i + 1) blocks]
        | gone bs =>
          have member : (bs.map char, i) ∈ blocksFrom char (i + 1) tokens := by
            change _ ∈ blocksFrom char i (keep a :: tokens)
            rw [blocks]
            exact Finset.mem_insert_self _ _
          have behind : i + 1 ≤ i := le_of_mem_blocksFrom member
          exact absurd behind (Nat.not_succ_le_self i)
      | gone as =>
        cases token' with
        | keep b =>
          have member : (as.map char, i) ∈ blocksFrom char (i + 1) tokens' := by
            change _ ∈ blocksFrom char i (keep b :: tokens')
            rw [← blocks]
            exact Finset.mem_insert_self _ _
          have behind : i + 1 ≤ i := le_of_mem_blocksFrom member
          exact absurd behind (Nat.not_succ_le_self i)
        | gone bs =>
          -- both masks start here, and so they are for the same word
          have word : as.map char = bs.map char := by
            have member : (as.map char, i) ∈ blocksFrom char i (gone bs :: tokens') := by
              rw [← blocks]
              exact Finset.mem_insert_self _ _
            rcases Finset.mem_insert.mp member with same | later
            · exact congrArg Prod.fst same
            · exact absurd later (notMem_blocksFrom (solid' bs List.mem_cons_self))
          have length : as.length = bs.length := by
            have := congrArg List.length word
            rwa [List.length_map, List.length_map] at this
          obtain ⟨rfl, rest⟩ := List.append_inj same length
          have fresh (tokens : List (Token α)) : (as.map char, i) ∉ blocksFrom char (i + as.length) tokens :=
            notMem_blocksFrom (solid as List.mem_cons_self)
          have blocks : blocksFrom char (i + as.length) tokens = blocksFrom char (i + as.length) tokens' := by
            rw [← Finset.erase_insert (fresh tokens), ← Finset.erase_insert (fresh tokens')]
            exact congrArg (Finset.erase · (as.map char, i)) blocks
          rw [ih behind behind' rest blocks]

theorem length_render {tokens : List (Token α)} (solid : Solid tokens) (i : Nat) :
    (render mask tokens).length
      = (marks tokens).countP Option.isSome + mask.length * (blocksFrom char i tokens).card := by
  induction tokens generalizing i with
  | nil => rfl
  | cons token tokens ih =>
    have ih := ih fun as here => solid as (List.mem_cons_of_mem _ here)
    cases token with
    | keep a =>
      rw [render, marks, List.length_cons, List.countP_cons_of_pos rfl, blocksFrom, ih (i + 1)]
      omega
    | gone as =>
      have blank : (as.map fun _ => (none : Option α)).countP Option.isSome = 0 := by
        simp [List.countP_eq_zero]
      rw [render, marks, List.length_append, List.countP_append, blank, blocksFrom,
        Finset.card_insert_of_notMem (notMem_blocksFrom (solid as List.mem_cons_self)), ih (i + as.length), Nat.mul_add]
      omega

end Token

/-! ## The picks of a scan -/

theorem picksFrom_skip {old : Text} (skip i : Nat) (text : Text) :
    picksFrom old skip i text = picksFrom old 0 (i + skip) (text.drop skip) := by
  induction text generalizing skip i with
  | nil => cases skip <;> rfl
  | cons c text ih =>
    cases skip with
    | zero => rfl
    | succ skip =>
      rw [picksFrom, List.drop_succ_cons, ih, Nat.add_right_comm, Nat.add_assoc]

theorem picksFrom_picks {old : Text} (nonempty : old ≠ []) (text : Text) (i : Nat) :
    Tiling.Picks (fun j => i ≤ j ∧ OccursAt text old (j - i)) old.length (picksFrom old 0 i text).toFinset := by
  induction h : text.length using Nat.strong_induction_on generalizing text i with
  | _ n ih =>
    cases text with
    | nil =>
      refine ⟨by simp [picksFrom], by simp [picksFrom], fun j occurs => ?_⟩
      have : old <+: [] := by simpa [OccursAt] using occurs.2
      exact absurd (List.prefix_nil.mp this) nonempty
    | cons c text =>
      have pos := List.length_pos_iff.mpr nonempty
      rw [List.length_cons] at h
      rw [picksFrom]
      split
      · next here =>
        rw [List.isPrefixOf_iff_prefix] at here
        rw [picksFrom_skip, List.toFinset_cons]
        refine Tiling.Picks.insert ⟨le_rfl, by rwa [Nat.sub_self]⟩ (fun j occurs => occurs.1) ?_
        have place : i + 1 + (old.length - 1) = i + old.length := by omega
        rw [place]
        refine (ih (text.drop (old.length - 1)).length (by rw [List.length_drop]; omega) _ _ rfl).congr fun j => ?_
        constructor
        · rintro ⟨behind, -, occurs⟩
          refine ⟨behind, ?_⟩
          rw [OccursAt, List.drop_drop]
          rw [OccursAt, show j - i = old.length - 1 + (j - (i + old.length)) + 1 by omega, List.drop_succ_cons] at occurs
          exact occurs
        · rintro ⟨behind, occurs⟩
          refine ⟨behind, by omega, ?_⟩
          rw [OccursAt, List.drop_drop] at occurs
          rw [OccursAt, show j - i = old.length - 1 + (j - (i + old.length)) + 1 by omega, List.drop_succ_cons]
          exact occurs
      · next here =>
        rw [List.isPrefixOf_iff_prefix] at here
        refine (ih text.length (by omega) text (i + 1) rfl).congr fun j => ?_
        by_cases behind : i + 1 ≤ j
        · rw [OccursAt, OccursAt, show j - i = j - (i + 1) + 1 by omega, List.drop_succ_cons]
          exact and_congr_left fun _ => iff_of_true (by omega) behind
        · apply iff_of_false
          · rintro ⟨before, occurs⟩
            obtain rfl : i = j := by omega
            rw [Nat.sub_self] at occurs
            exact here occurs
          · exact fun occurs => behind occurs.1

theorem picks_picks {old : Text} (nonempty : old ≠ []) (text : Text) :
    Tiling.Picks (OccursAt text old) old.length (picks text old).toFinset :=
  (picksFrom_picks nonempty text 0).congr fun j => by
    rw [Nat.sub_zero]
    exact (and_iff_right (Nat.zero_le j)).symm

end SwitchOps.Logging
