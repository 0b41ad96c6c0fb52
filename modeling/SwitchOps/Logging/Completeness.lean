import SwitchOps.Logging.Patterns

/-!
# When the redaction is complete

`redact` is complete and does not depend on the order of the secrets just when the secrets do not get into each other's
way (`redacts_iff`). That no order matters is more than it seems: it makes all orders mask the same blocks, since the
order from the shortest to the longest secret masks more blocks than any order that masks others.
-/

namespace SwitchOps.Logging

open Token

/-! ## Registration -/

theorem registered_spec (values : List (Option Text)) :
    (registered values).Nodup ∧ ∀ s ∈ registered values, 4 ≤ s.length := by
  rw [registered]
  have loop (secrets : List Text) (h : secrets.Nodup ∧ ∀ s ∈ secrets, 4 ≤ s.length) :
      (values.foldl registerSecret secrets).Nodup ∧ ∀ s ∈ values.foldl registerSecret secrets, 4 ≤ s.length := by
    induction values generalizing secrets with
    | nil => exact h
    | cons value values ih =>
      apply ih
      cases value with
      | none => exact h
      | some value =>
        simp only [registerSecret]
        split
        · next long =>
          refine ⟨h.1.insert, fun s here => ?_⟩
          rcases List.mem_insert_iff.mp here with rfl | known
          · simpa using (Bool.and_eq_true_iff.mp long).2
          · exact h.2 s known
        · exact h
  exact loop [] ⟨List.nodup_nil, by simp⟩

/-! ## Texts with places -/

section naturality

variable {α : Type} (char : α → Char) (mask : List α)

theorem map_subFrom (r : Regex) (skip : Nat) (seen : Text) (as : List α) :
    (subFrom char mask r skip seen as).map char = subFrom id (mask.map char) r skip seen (as.map char) := by
  induction as generalizing skip seen with
  | nil => cases skip <;> rfl
  | cons a as ih =>
    cases skip with
    | succ skip => exact ih skip (char a :: seen)
    | zero =>
      rw [subFrom, List.map_cons, subFrom, List.map_id]
      split
      · rw [List.map_cons, ih]
        rfl
      · rw [List.map_append, List.map_append, ih, List.map_take, List.map_cons, List.length_map]
        rfl

theorem map_replaceFrom (old : Text) (skip : Nat) (as : List α) :
    (replaceFrom char mask old skip as).map char = replaceFrom id (mask.map char) old skip (as.map char) := by
  induction as generalizing skip with
  | nil => cases skip <;> rfl
  | cons a as ih =>
    cases skip with
    | succ skip => exact ih skip
    | zero =>
      rw [replaceFrom, List.map_cons, replaceFrom, List.map_id]
      split
      · rw [List.map_append, ih]
      · rw [List.map_cons, ih]

theorem map_redactWith (order : List Text) (text : List α) :
    (redactWith char mask order text).map char = redactWith id (mask.map char) order (text.map char) := by
  have patterns (patterns : List Regex) (out : List α) :
      (patterns.foldl (fun out r => subFrom char mask r 0 [] out) out).map char
        = patterns.foldl (fun out r => subFrom id (mask.map char) r 0 [] out) (out.map char) := by
    induction patterns generalizing out with
    | nil => rfl
    | cons r patterns ih => rw [List.foldl_cons, List.foldl_cons, ih, map_subFrom]
  have secrets (out : List α) :
      (order.foldl (maskSecret char mask) out).map char = order.foldl (maskSecret id (mask.map char)) (out.map char) := by
    induction order generalizing out with
    | nil => rfl
    | cons s order ih =>
      rw [List.foldl_cons, List.foldl_cons, ih, maskSecret, maskSecret, List.map_id]
      split
      · rw [map_replaceFrom]
      · rfl
  rw [redactWith, redactWith, List.isEmpty_map]
  split
  · rfl
  · rw [secrets, maskPatterns, patterns, maskPatterns]

/-- There is nothing to mask in the empty text. -/
theorem redactWith_eq (order : List Text) (text : List α) :
    redactWith char mask order text = order.foldl (maskSecret char mask) (maskPatterns char mask text) := by
  rw [redactWith]
  split
  · next empty =>
    obtain rfl := List.isEmpty_iff.mp empty
    have patterns : maskPatterns char mask ([] : List α) = [] := rfl
    rw [patterns]
    induction order with
    | nil => rfl
    | cons s order ih =>
      have here : maskSecret char mask [] s = [] := by
        rw [maskSecret]
        split <;> rfl
      rw [List.foldl_cons, here, ← ih]
  · rfl

end naturality

theorem masked_maskCells : maskCells.map (·.1) = redacted := by decide

theorem map_source (message : Text) : (source message).map (·.1) = message := by
  rw [source, List.map_map]
  exact List.zipIdx_map_fst 0 message

theorem getElem?_source (message : Text) (j : Nat) : (source message)[j]? = message[j]?.map fun c => (c, some j) := by
  rw [source, List.getElem?_map, List.getElem?_zipIdx, Option.map_map, Nat.zero_add]
  rfl

/-- The characters of the cells are the redacted text. -/
theorem map_redactCells (order : List Text) (message : Text) : (redactCells order message).map (·.1) = redact order message := by
  rw [redactCells, map_redactWith, masked_maskCells, map_source, redact]

/-! ## What an order leaves -/

/-- The result of one order, as tokens over the message after the first loop. -/
structure Outcome (order : List Text) (message : Text) (tokens : List (Token Cell)) : Prop where
  cells : redactCells order message = render maskCells tokens
  original : original tokens = patterned message
  solid : Solid tokens
  run : Tiling.Run List.length (OccursAt ((patterned message).map (·.1))) order ∅ (blocksFrom (·.1) 0 tokens)

theorem exists_outcome {order : List Text} (safe : ∀ s ∈ order, Safe s ∧ s ≠ []) (message : Text) :
    ∃ tokens, Outcome order message tokens := by
  have solid : Solid ((patterned message).map keep) := by
    intro as here
    obtain ⟨a, -, same⟩ := List.mem_map.mp here
    cases same
  obtain ⟨tokens, run, same, solid', blocks⟩ := exists_run masked_maskCells safe _ solid
  have nothing : blocksFrom (·.1) 0 ((patterned message).map keep) = (∅ : Finset (Text × Nat)) := by
    rw [← List.append_nil ((patterned message).map keep), blocksFrom_keep]
    rfl
  rw [original_keep, nothing] at blocks
  rw [original_keep] at same
  rw [render_keep] at run
  exact ⟨tokens, (redactWith_eq _ _ _ _).trans run, same, solid', blocks⟩

/-- A character of the message is shown just if it has not been masked. -/
theorem Outcome.mem_iff {order : List Text} {message : Text} {tokens : List (Token Cell)}
    (outcome : Outcome order message tokens) {c : Char} {p : Nat} :
    (c, some p) ∈ redactCells order message ↔ ∃ k : Nat, (marks tokens)[k]? = some (some (c, some p)) := by
  have plain : (c, some p) ∉ maskCells := by
    rw [maskCells]
    intro here
    obtain ⟨d, -, same⟩ := List.mem_map.mp here
    cases same
  rw [outcome.cells, mem_render_iff plain, List.mem_iff_getElem?]

/-- A character that is not shown has been masked by the first loop or belongs to a block. -/
theorem Outcome.covered {order : List Text} {message : Text} {tokens : List (Token Cell)}
    (outcome : Outcome order message tokens) {c : Char} {p k : Nat} (here : (patterned message)[k]? = some (c, some p))
    (gone : (c, some p) ∉ redactCells order message) :
    ∃ b ∈ blocksFrom (·.1) 0 tokens, Tiling.Covers List.length b k := by
  rw [← outcome.original] at here
  rcases marks_eq_or here with kept | blank
  · exact absurd (outcome.mem_iff.mpr ⟨k, kept⟩) gone
  · have covered := (marks_eq_none_iff (·.1) (i := 0)).mp blank
    rwa [Nat.zero_add] at covered

/-- A secret in the message after the first loop stands in the message, its characters at their places. -/
theorem exists_source {message s : Text} {i : Nat} (safe : Safe s) (nonempty : s ≠ [])
    (occurs : OccursAt ((patterned message).map (·.1)) s i) :
    ∃ q, OccursAt message s q ∧ ∀ k, ∀ h : k < s.length, (patterned message)[i + k]? = some (s[k], some (q + k)) := by
  obtain ⟨tokens, shown, same⟩ := exists_patterns masked_maskCells (source message)
  obtain ⟨post, starts⟩ := occurs
  have shown' : (render maskCells tokens).map (·.1) = ((patterned message).map (·.1)).take i ++ (s ++ post) := by
    rw [starts, List.take_append_drop, patterned, shown]
  obtain ⟨first, as, second, rfl, left, spelled, -⟩ := exists_occurrence masked_maskCells safe nonempty shown'
  have place : (render maskCells first).length = i := by
    have inside : i ≤ ((patterned message).map (·.1)).length := by
      by_contra! beyond
      rw [List.drop_eq_nil_of_le beyond.le] at starts
      exact nonempty (List.append_eq_nil_iff.mp starts).1
    have := congrArg List.length left
    rwa [List.length_map, List.length_take_of_le inside] at this
  rw [original_append, original_append, original_keep] at same
  -- the same characters are in the message and in the cells
  have known (k : Nat) (h : k < s.length) : as[k]? = some (s[k], some ((original first).length + k)) ∧
      message[(original first).length + k]? = some s[k] := by
    have bound : k < as.length := by rwa [← spelled, List.length_map] at h
    have cell : (source message)[(original first).length + k]? = as[k]? := by
      rw [← same, List.getElem?_append_right (by omega), Nat.add_sub_cancel_left, List.getElem?_append_left bound]
    have char : as[k]?.map (·.1) = some s[k] := by
      rw [← List.getElem?_map, spelled, List.getElem?_eq_getElem h]
    rw [getElem?_source] at cell
    rw [← cell] at char ⊢
    cases read : message[(original first).length + k]? with
    | none =>
      rw [read] at char
      cases char
    | some c =>
      rw [read] at char
      obtain rfl : c = s[k] := Option.some.inj char
      exact ⟨rfl, rfl⟩
  refine ⟨(original first).length, occursAt_iff.mpr fun k h => (known k h).2, fun k h => ?_⟩
  rw [patterned, shown, render_append, render_append, render_keep, ← place, List.getElem?_append_right (by omega),
    Nat.add_sub_cancel_left, List.getElem?_append_left (by rwa [← spelled, List.length_map] at h)]
  exact (known k h).1

/-! ## The condition -/

variable {secrets : List Text} {message : Text}

theorem scans (nonempty : ∀ s ∈ secrets, s ≠ []) (s : Text) (here : s ∈ secrets) :
    Tiling.Picks (OccursAt ((patterned message).map (·.1)) s) s.length (picks ((patterned message).map (·.1)) s).toFinset :=
  picks_picks (nonempty s here) _

/-- The picks of one secret, as a set. -/
abbrev pickSet (message s : Text) : Finset Nat := (picks ((patterned message).map (·.1)) s).toFinset

/-- What the condition says of the places, for blocks. -/
theorem compatible_iff (nonempty : ∀ s ∈ secrets, s ≠ []) :
    Tiling.Compatible List.length secrets (pickSet message) ↔
      ∀ s ∈ secrets, ∀ t ∈ secrets, s ≠ t → ∀ i ∈ picks ((patterned message).map (·.1)) s,
        ∀ j ∈ picks ((patterned message).map (·.1)) t, i + s.length ≤ j ∨ j + t.length ≤ i := by
  refine forall₂_congr fun s hs => forall₂_congr fun t ht => forall_congr' fun _ => ?_
  simp only [List.mem_toFinset]
  refine forall₂_congr fun i _ => forall₂_congr fun j _ => ?_
  exact Tiling.apart_iff (List.length_pos_iff.mpr (nonempty s hs)) (List.length_pos_iff.mpr (nonempty t ht))

/-- **Sufficiency**: every order masks the picks of all secrets, and that is all there is. -/
theorem redacts_of_separate (safe : ∀ s ∈ secrets, Safe s ∧ s ≠ []) (distinct : secrets.Nodup)
    (separate : Separate secrets message) : Redacts secrets message := by
  have nonempty (s : Text) (here : s ∈ secrets) : s ≠ [] := (safe s here).2
  have outcomes (order : List Text) (perm : order.Perm secrets) : ∃ tokens, Outcome order message tokens ∧
      ∀ b, b ∈ blocksFrom (·.1) 0 tokens ↔ b.1 ∈ secrets ∧ b.2 ∈ pickSet message b.1 := by
    obtain ⟨tokens, outcome⟩ := exists_outcome (fun s here => safe s (perm.mem_iff.mp here)) message
    refine ⟨tokens, outcome, fun b => ?_⟩
    rw [outcome.run.mem_iff (fun s here => scans nonempty s (perm.mem_iff.mp here)) ?_ (perm.nodup_iff.mpr distinct) b,
      perm.mem_iff]
    intro s hs t ht
    exact (compatible_iff nonempty).mpr separate.apart s (perm.mem_iff.mp hs) t (perm.mem_iff.mp ht)
  constructor
  · -- an occurrence in the result would be one that the scan has found
    intro order perm s here
    obtain ⟨tokens, outcome, blocks⟩ := outcomes order perm
    rintro ⟨pre, post, shown⟩
    rw [← map_redactCells, outcome.cells, List.append_assoc] at shown
    obtain ⟨first, as, second, rfl, -, spelled, -⟩ := exists_occurrence masked_maskCells (safe s here).1 (safe s here).2 shown.symm
    have kept : KeptAt (·.1) (first ++ (as.map keep ++ second)) s ((original first).length + 0) := by
      rw [keptAt_append, KeptAt, List.drop_zero, marks_append, marks_keep, List.map_append, ← spelled]
      simp
    obtain ⟨occurs, free⟩ := keptAt_iff_occursAt.mp kept
    rw [outcome.original] at occurs
    obtain ⟨i, picked, before, overlaps⟩ := (scans nonempty s here).found _ occurs
    have block := (blocks (s, i)).mpr ⟨here, picked⟩
    exact free _ block _ ⟨before, overlaps⟩ ⟨le_rfl, Nat.lt_add_of_pos_right (List.length_pos_iff.mpr (nonempty s here))⟩
  · -- every character of an occurrence belongs to a pick
    rintro order perm s here q occurs p lower upper ⟨c, place⟩ member same
    obtain rfl : place = some p := same
    obtain ⟨tokens, outcome, blocks⟩ := outcomes order perm
    obtain ⟨k, kept⟩ := outcome.mem_iff.mp member
    have known := getElem?_original kept
    rw [outcome.original] at known
    obtain ⟨t, there, i, picked, before, overlaps⟩ := separate.covered s here q occurs p lower upper k c known
    have block := (blocks (t, i)).mpr ⟨there, List.mem_toFinset.mpr picked⟩
    have blank : (marks tokens)[k]? = some none := by
      refine (marks_eq_none_iff (·.1) (i := 0)).mpr ⟨(t, i), block, ?_⟩
      rw [Nat.zero_add]
      exact ⟨before, overlaps⟩
    rw [blank] at kept
    cases kept
  · -- the blocks do not depend on the order
    intro order order' perm perm'
    obtain ⟨tokens, outcome, blocks⟩ := outcomes order perm
    obtain ⟨tokens', outcome', blocks'⟩ := outcomes order' perm'
    have same : tokens = tokens' := by
      apply eq_of_blocks outcome.solid outcome'.solid (outcome.original.trans outcome'.original.symm)
      ext b
      exact (blocks b).trans (blocks' b).symm
    rw [← map_redactCells, ← map_redactCells, outcome.cells, outcome'.cells, same]

/-- If every character of the secrets is masked, then the blocks cover all occurrences in the message after the first
loop. -/
theorem Outcome.replaced {order : List Text} {tokens : List (Token Cell)} (outcome : Outcome order message tokens)
    (safe : ∀ s ∈ secrets, Safe s ∧ s ≠ []) (perm : order.Perm secrets) (redacts : Redacts secrets message) :
    Tiling.Replaced List.length (OccursAt ((patterned message).map (·.1))) secrets (blocksFrom (·.1) 0 tokens) := by
  rintro s here i occurs p ⟨lower, upper⟩
  obtain ⟨q, occurs', cells⟩ := exists_source (safe s here).1 (safe s here).2 occurs
  dsimp only at lower upper
  have cell := cells (p - i) (by omega)
  rw [show i + (p - i) = p by omega] at cell
  apply outcome.covered cell
  intro shown
  exact redacts.masked order perm s here q occurs' (q + (p - i)) (by omega) (by omega) _ shown rfl

/-- The same cells are blank, and so equally many characters are kept. -/
theorem marks_congr {tokens tokens' : List (Token Cell)} (same : original tokens = original tokens')
    (cells : Tiling.SameCells List.length (blocksFrom (·.1) 0 tokens) (blocksFrom (·.1) 0 tokens')) :
    marks tokens = marks tokens' := by
  have blank (k : Nat) : (marks tokens)[k]? = some none ↔ (marks tokens')[k]? = some none := by
    rw [marks_eq_none_iff (·.1) (i := 0), marks_eq_none_iff (·.1) (i := 0), Nat.zero_add]
    exact cells k
  refine List.ext_getElem? fun k => ?_
  cases known : (original tokens)[k]? with
  | none =>
    have beyond := List.getElem?_eq_none_iff.mp known
    rw [List.getElem?_eq_none (by rwa [length_marks]), List.getElem?_eq_none (by rwa [length_marks, ← same])]
  | some a =>
    have known' := known
    rw [same] at known'
    rcases marks_eq_or known with kept | gone
    · rcases marks_eq_or known' with kept' | gone'
      · rw [kept, kept']
      · rw [(blank k).mpr gone'] at kept
        cases kept
    · rw [gone, (blank k).mp gone]

/-- **Necessity**: all orders mask the same cells, and the length of the result tells in how many blocks. -/
theorem separate_of_redacts (safe : ∀ s ∈ secrets, Safe s ∧ s ≠ []) (distinct : secrets.Nodup)
    (redacts : Redacts secrets message) : Separate secrets message := by
  have nonempty (s : Text) (here : s ∈ secrets) : s ≠ [] := (safe s here).2
  have words : Tiling.Words List.length (OccursAt ((patterned message).map (·.1))) secrets := by
    refine ⟨distinct, fun s here => List.length_pos_iff.mpr (nonempty s here), fun s t i first second length => ?_⟩
    exact (List.prefix_of_prefix_length_le first second length.le).eq_of_length length
  obtain ⟨tokens, outcome⟩ := exists_outcome safe message
  have replaced := outcome.replaced safe (.refl _) redacts
  have compatible : Tiling.Compatible List.length secrets (pickSet message) := by
    apply Tiling.compatible_of_runs words (scans nonempty) (n := (blocksFrom (·.1) 0 tokens).card)
    intro order perm
    obtain ⟨tokens', outcome'⟩ := exists_outcome (fun s here => safe s (perm.mem_iff.mp here)) message
    have replaced' := outcome'.replaced safe perm redacts
    refine ⟨_, outcome'.run, replaced', ?_⟩
    have cells := outcome'.run.sameCells perm (.refl _) outcome.run replaced' replaced
    have kept := marks_congr (outcome'.original.trans outcome.original.symm) cells
    have length := congrArg List.length (redacts.unordered order secrets perm (.refl _))
    rw [← map_redactCells, ← map_redactCells, List.length_map, List.length_map, outcome'.cells, outcome.cells,
      length_render outcome'.solid 0, length_render outcome.solid 0, kept] at length
    exact Nat.eq_of_mul_eq_mul_left (by decide : 0 < maskCells.length) (Nat.add_left_cancel length)
  refine ⟨(compatible_iff nonempty).mp compatible, fun s here q occurs p lower upper k c known => ?_⟩
  have gone : (c, some p) ∉ redactCells secrets message := fun shown =>
    redacts.masked secrets (.refl _) s here q occurs p lower upper _ shown rfl
  obtain ⟨⟨t, i⟩, block, before, overlaps⟩ := outcome.covered known gone
  obtain ⟨there, picked⟩ := (outcome.run.mem_iff (scans nonempty) compatible distinct _).mp block
  exact ⟨t, there, i, List.mem_toFinset.mp picked, before, overlaps⟩

/-- **Completeness**: the redaction is complete and independent of the order just when the secrets do not get into each
other's way. -/
theorem redacts_iff (values : List (Option Text)) (safe : ∀ s ∈ registered values, Safe s) (message : Text) :
    Redacts (registered values) message ↔ Separate (registered values) message := by
  obtain ⟨distinct, long⟩ := registered_spec values
  have safe (s : Text) (here : s ∈ registered values) : Safe s ∧ s ≠ [] := by
    refine ⟨safe s here, ?_⟩
    rintro rfl
    exact absurd (long [] here) (by decide)
  exact ⟨separate_of_redacts safe distinct, redacts_of_separate safe distinct⟩

theorem redacts_iff_two : (∀ s ∈ registered [some "abcd", some "wxyz"], Safe s) ∧
    (Redacts (registered [some "abcd", some "wxyz"]) "wxyz: abcd" ↔
      Separate (registered [some "abcd", some "wxyz"]) "wxyz: abcd") :=
  ⟨by decide, redacts_iff _ (by decide) _⟩

/-- A secret that is the beginning of another one: visited first, it leaves the end of the other one. -/
theorem not_redacts_prefix : (∀ s ∈ registered [some "abcd", some "abcdef"], Safe s) ∧
    ¬Redacts (registered [some "abcd", some "abcdef"]) "abcdef" := by
  refine ⟨by decide, fun redacts => ?_⟩
  have same := redacts.unordered ["abcd", "abcdef"] ["abcdef", "abcd"] (by decide) (by decide)
  exact absurd same (by decide +kernel)

end SwitchOps.Logging
