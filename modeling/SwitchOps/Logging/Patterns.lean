import SwitchOps.Lib.Scanning
import SwitchOps.Logging.Masking

/-!
# The patterns of the log

A pattern reads a key word, and masks what follows up to a blank, a quote or the end of a line. None of them begins
inside a mask, and what it keeps and what it leaves unread are cut off at characters that no mask has. So the first loop
of `redact` works on tokens, too.
-/

namespace SwitchOps.Logging

open Regex

/-- A character at which the patterns cut. -/
def edge (c : Char) : Bool := Text.isSpace c || quotes c || c == ':' || c == '='

def EndsAtEdge (t : Text) : Prop := ∃ c, t.getLast? = some c ∧ edge c = true

def StartsAtEdge (t : Text) : Prop := ∀ c, t.head? = some c → edge c = true

theorem edge_redacted : ∀ c ∈ redacted, edge c = false := by decide

/-- The words that a regular expression reads hold edges only, and one at least. -/
def ReadsEdges (r : Regex) : Prop := ∀ w, Denotes r w → w ≠ [] ∧ ∀ c ∈ w, edge c = true

theorem readsEdges_plus_space : ReadsEdges (plus space) := by
  intro w word
  obtain ⟨nonempty, blanks⟩ := denotes_plus_chr.mp word
  refine ⟨nonempty, fun c here => ?_⟩
  rw [edge, blanks c here]
  rfl

theorem readsEdges_assignment : ReadsEdges assignment := by
  rintro w ⟨before, v, rfl, blanks, sign, v', rfl, ⟨c, accepted, rfl⟩, after, nothing, rfl, blanks', rfl⟩
  rw [List.append_nil]
  refine ⟨by simp, ?_⟩
  have space {t : Text} (blank : Denotes (.star true space) t) (d : Char) (here : d ∈ t) : edge d = true := by
    rw [edge, denotes_star_chr.mp blank d here]
    rfl
  intro d here
  rcases List.mem_append.mp here with here | here
  · exact space blanks d here
  · rcases List.mem_cons.mp here with rfl | here
    · have accepted : (d == ':' || d == '=') = true := accepted
      rw [edge, Bool.or_assoc, accepted, Bool.or_true]
    · exact space blanks' d here

/-- A word that ends in such a part ends at an edge. -/
theorem ReadsEdges.endsAtEdge {r : Regex} (reads : ReadsEdges r) (u : Text) {w : Text} (word : Denotes r w) :
    EndsAtEdge (u ++ w) := by
  obtain ⟨nonempty, edges⟩ := reads w word
  obtain ⟨v, c, rfl⟩ := (List.eq_nil_or_concat w).resolve_left nonempty
  rw [List.concat_eq_append] at edges ⊢
  refine ⟨c, ?_, edges c (List.mem_append_right _ (List.mem_singleton_self c))⟩
  rw [← List.append_assoc, List.getLast?_concat]

/-- What a masking pattern does: it keeps its first group, which ends at an edge, masks something, and stops at an edge
or at the end; and it does not begin inside a mask. -/
structure Masking (r : Regex) : Prop where
  stops : ∀ seen rest m, (results r ⟨seen, rest, []⟩).head? = some m →
    ∃ u v, rest = u ++ (v ++ m.rest) ∧ m.group 1 = some u ∧ EndsAtEdge u ∧ v ≠ [] ∧ StartsAtEdge m.rest
  outside : ∀ seen rest w w', redacted = w ++ w' → w' ≠ [] → results r ⟨w.reverse ++ seen, w' ++ rest, []⟩ = []

/-- A part that is to be masked. -/
structure Masked (tail : Regex) : Prop where
  plain : groupsOf tail = []
  nonempty : ∀ w, Denotes tail w → w ≠ []
  stops : ∀ m m', (results tail m).head? = some m' → StartsAtEdge m'.rest

theorem masked_plus {accepts : Char → Bool} (refuses : ∀ c, accepts c = false → edge c = true) :
    Masked (plus (.chr accepts)) where
  plain := rfl
  nonempty w word := (denotes_plus_chr.mp word).1
  stops m m' first := by
    obtain ⟨seen, rest, groups⟩ := m
    rw [plus, results_seq] at first
    cases rest with
    | nil => cases first
    | cons c rest =>
      by_cases here : accepts c = true
      · rw [results_chr_cons here, List.flatMap_singleton, head?_greedy] at first
        obtain rfl := Option.some.inj first
        intro d next
        have refused := List.head?_dropWhile_not accepts rest
        dsimp only at next
        rw [next] at refused
        exact refuses d refused
      · have none : results (.chr accepts) ⟨seen, c :: rest, groups⟩ = [] := by simp [results, here]
        rw [none] at first
        cases first

/-- `.+$` -/
theorem masked_line : Masked (.seq (plus (.chr (· != '\n'))) lineEnd) where
  plain := rfl
  nonempty := by
    rintro w ⟨u, v, rfl, word, -⟩ empty
    exact (denotes_plus_chr.mp word).1 (List.append_eq_nil_iff.mp empty).1
  stops m m' first := by
    obtain ⟨between, -, last⟩ := List.mem_flatMap.mp (List.mem_of_head? first)
    rw [lineEnd, results] at last
    split at last
    · next here =>
      obtain rfl := List.mem_singleton.mp last
      intro c next
      rw [next] at here
      have newline : c = '\n' := by
        rcases Bool.or_eq_true_iff.mp here with empty | newline
        · rw [List.isEmpty_iff.mp empty] at next
          cases next
        · simpa using newline
      rw [newline]
      decide
    · cases last

/-- A first group that ends at an edge, and a part to be masked. -/
theorem stops_of_parts {body tail : Regex} (plain : groupsOf body = []) (ends : ∀ w, Denotes body w → EndsAtEdge w)
    (masked : Masked tail) (seen rest : Text) (m : Cursor)
    (first : (results (.seq (.group 1 body) tail) ⟨seen, rest, []⟩).head? = some m) :
    ∃ u v, rest = u ++ (v ++ m.rest) ∧ m.group 1 = some u ∧ EndsAtEdge u ∧ v ≠ [] ∧ StartsAtEdge m.rest := by
  rw [results_seq, List.head?_flatMap] at first
  obtain ⟨between, here, first⟩ := List.exists_of_findSome?_eq_some first
  rw [results] at here
  obtain ⟨inner, inside, rfl⟩ := List.mem_map.mp here
  obtain ⟨u, ⟨reads, seen'⟩, word⟩ := results_denotes body _ inner inside
  have last := List.mem_of_head? first
  obtain ⟨v, ⟨reads', -⟩, word'⟩ := results_denotes tail _ m last
  refine ⟨u, v, ?_, ?_, ends u word, masked.nonempty v word', masked.stops _ _ first⟩
  · rw [← reads']
    exact reads
  · -- the group is the only one
    have read : Cursor.captured ⟨seen, rest, []⟩ inner = u := by
      rw [Cursor.captured, seen']
      simp
    have none : inner.groups = [] := by
      refine List.eq_nil_iff_forall_not_mem.mpr fun entry here => ?_
      rcases (captures_of_results body _ inner inside).further entry here with before | ⟨s, known, -⟩
      · cases before
      · rw [plain] at known
        cases known
    have captures := captures_of_results tail _ m last
    rw [read, none] at captures
    have kept : (1, u) ∈ m.groups := captures.kept (List.mem_singleton_self _)
    have only (entry : Nat × Text) (here : entry ∈ m.groups) : entry = (1, u) := by
      rcases captures.further entry here with before | ⟨s, known, -⟩
      · exact List.mem_singleton.mp before
      · rw [masked.plain] at known
        cases known
    rw [Cursor.group]
    cases found : m.groups.find? (·.1 == 1) with
    | none => exact absurd (List.find?_eq_none.mp found _ kept) (by simp)
    | some entry =>
      rw [only entry (List.mem_of_find?_eq_some found)]
      rfl

/-! ## The key words -/

/-- A key word that differs from the mask wherever it might begin in it. -/
def Foreign (word : Text) : Prop :=
  ∀ w' ∈ redacted.tails, w' ≠ [] → ((word.zip w').any fun p => !sameIgnoringCase p.1 p.2) = true

theorem Foreign.results_eq_nil {word w w' : Text} (foreign : Foreign word) (whole : redacted = w ++ w') (inside : w' ≠ [])
    (seen rest : Text) (groups : List (Nat × Text)) : results (litIgnoringCase word) ⟨seen, w' ++ rest, groups⟩ = [] := by
  apply results_litIgnoringCase_other
  apply foreign w' _ inside
  rw [List.mem_tails, whole]
  exact List.suffix_append w w'

instance (word : Text) : Decidable (Foreign word) :=
  inferInstanceAs (Decidable (∀ w' ∈ redacted.tails, w' ≠ [] → _))

/-- What has to begin with something that is not there is not there. -/
theorem results_seq_eq_nil {r s : Regex} {m : Cursor} (nothing : results r m = []) : results (.seq r s) m = [] := by
  rw [results_seq, nothing, List.flatMap_nil]

theorem results_group_eq_nil {r : Regex} {m : Cursor} {n : Nat} (nothing : results r m = []) :
    results (.group n r) m = [] := by
  rw [results, nothing, List.map_nil]

theorem masked_nonSpace : Masked (plus nonSpace) := by
  apply masked_plus
  intro c refused
  have blank : Text.isSpace c = true := by simpa using refused
  rw [edge, blank]
  rfl

theorem groupsOf_litIgnoringCase (word : Text) : groupsOf (litIgnoringCase word) = [] := by
  induction word with
  | nil => rfl
  | cons c word ih => rw [litIgnoringCase, groupsOf, ih]; rfl

/-- `(word\s*[:=]\s*)\S+` -/
theorem masking_assignment {word : Text} (foreign : Foreign word) :
    Masking (.seq (.group 1 (.seq (litIgnoringCase word) assignment)) (plus nonSpace)) where
  stops := by
    apply stops_of_parts
    · rw [groupsOf, groupsOf_litIgnoringCase]
      rfl
    · rintro w ⟨u, v, rfl, -, signed⟩
      exact readsEdges_assignment.endsAtEdge u signed
    · exact masked_nonSpace
  outside seen rest w w' whole inside := by
    apply results_seq_eq_nil
    apply results_group_eq_nil
    apply results_seq_eq_nil
    exact foreign.results_eq_nil whole inside _ _ _

/-- The pattern of the `enable` commands. -/
theorem masking_enable : Masking (.seq
    (.group 1 (seqs [litIgnoringCase "enable", plus space, alts [litIgnoringCase "secret", litIgnoringCase "password"],
      opt (.seq (plus space) (plus digit)), plus space]))
    (plus nonSpace)) where
  stops := by
    apply stops_of_parts
    · simp only [seqs, alts, groupsOf, groupsOf_litIgnoringCase]
      rfl
    · rintro w ⟨enable, v, rfl, -, blank, v', rfl, -, word, v'', rfl, -, number, v''', rfl, -, last, nothing, rfl, blanks, rfl⟩
      rw [List.append_nil, ← List.append_assoc, ← List.append_assoc, ← List.append_assoc]
      exact readsEdges_plus_space.endsAtEdge _ blanks
    · exact masked_nonSpace
  outside seen rest w w' whole inside := by
    apply results_seq_eq_nil
    apply results_group_eq_nil
    apply results_seq_eq_nil
    exact Foreign.results_eq_nil (by decide) whole inside _ _ _

/-- The pattern of the settings. -/
theorem masking_settings : Masking (.seq
    (.group 1 (seqs [alts [litIgnoringCase "switchPassword", litIgnoringCase "switchEnableSecret"], opt (.chr quotes),
      assignment, opt (.chr quotes)]))
    (plus (.chr fun c => !(Text.isSpace c || quotes c)))) where
  stops := by
    apply stops_of_parts
    · simp only [seqs, alts, groupsOf, groupsOf_litIgnoringCase]
      rfl
    · rintro w ⟨word, v, rfl, -, quote, v', rfl, -, sign, v'', rfl, signed, last, nothing, rfl, quoted, rfl⟩
      rw [List.append_nil]
      rcases quoted with ⟨c, quoted, rfl⟩ | rfl
      · refine ⟨c, by simp, ?_⟩
        rw [edge, quoted, Bool.or_true]
        rfl
      · rw [List.append_nil, ← List.append_assoc]
        exact readsEdges_assignment.endsAtEdge _ signed
    · apply masked_plus
      intro c refused
      have refused : (!(Text.isSpace c || quotes c)) = false := refused
      rw [Bool.not_eq_false'] at refused
      rw [edge, refused]
      rfl
  outside seen rest w w' whole inside := by
    apply results_seq_eq_nil
    apply results_group_eq_nil
    apply results_seq_eq_nil
    change results (.alt (litIgnoringCase "switchPassword") (litIgnoringCase "switchEnableSecret")) _ = []
    rw [results, Foreign.results_eq_nil (by decide) whole inside, Foreign.results_eq_nil (by decide) whole inside,
      List.append_nil]

/-- The pattern of the descriptions. -/
theorem masking_description : Masking (.seq lineStart
    (.seq (.group 1 (seqs [.star true space, litIgnoringCase "description", plus space]))
      (.seq (plus (.chr (· != '\n'))) lineEnd))) where
  stops seen rest m first := by
    rw [results_seq, lineStart, results] at first
    split at first
    · rw [List.flatMap_singleton] at first
      refine stops_of_parts ?_ ?_ masked_line seen rest m first
      · simp only [seqs, groupsOf, groupsOf_litIgnoringCase]
        rfl
      · rintro w ⟨blank, v, rfl, -, word, v', rfl, -, last, nothing, rfl, blanks, rfl⟩
        rw [List.append_nil, ← List.append_assoc]
        exact readsEdges_plus_space.endsAtEdge _ blanks
    · cases first
  outside seen rest w w' whole inside := by
    rw [results_seq, lineStart, results]
    split
    · next here =>
      rw [List.flatMap_singleton]
      apply results_seq_eq_nil
      apply results_group_eq_nil
      rcases List.eq_nil_or_concat w with rfl | ⟨v, d, rfl⟩
      · -- a mask does not begin with a blank
        obtain rfl : redacted = w' := whole
        have blank : results space ⟨seen, redacted ++ rest, []⟩ = [] := by
          rw [redacted_eq, List.cons_append, space, results]
          simp [show Text.isSpace '<' = false by decide]
        rw [List.reverse_nil, List.nil_append, seqs, results_seq_of (results_star_stop blank true)]
        apply results_seq_eq_nil
        exact Foreign.results_eq_nil (w := []) (by decide) rfl inside _ _ _
      · -- inside a mask no line begins
        have newline : d = '\n' := by simpa using here
        have foreign : edge d = false := by
          apply edge_redacted
          rw [whole, List.concat_eq_append]
          simp
        rw [newline] at foreign
        exact absurd foreign (by decide)
    · rfl

theorem masking_of_mem {r : Regex} (known : r ∈ secretPatterns) : Masking r := by
  rw [secretPatterns] at known
  rcases List.mem_cons.mp known with rfl | known
  · exact masking_assignment (by decide)
  rcases List.mem_cons.mp known with rfl | known
  · exact masking_enable
  rcases List.mem_cons.mp known with rfl | known
  · exact masking_assignment (by decide)
  rcases List.mem_cons.mp known with rfl | known
  · exact masking_settings
  · obtain rfl := List.mem_singleton.mp known
    exact masking_description

/-! ## The first loop -/

variable {α : Type} {char : α → Char} {mask : List α} {r : Regex}

theorem subFrom_skip (skip : Nat) (seen : Text) (as : List α) :
    subFrom char mask r skip seen as = subFrom char mask r 0 (((as.take skip).map char).reverse ++ seen) (as.drop skip) := by
  induction as generalizing skip seen with
  | nil => cases skip <;> rfl
  | cons a as ih =>
    cases skip with
    | zero => rfl
    | succ skip =>
      rw [subFrom, ih, List.take_succ_cons, List.drop_succ_cons, List.map_cons, List.reverse_cons, List.append_assoc]
      rfl

/-- A match keeps its group and masks the rest. -/
theorem subFrom_hit {seen : Text} {us vs ys : List α} {m : Cursor} (nonempty : vs ≠ [])
    (first : (results r ⟨seen, (us ++ (vs ++ ys)).map char, []⟩).head? = some m) (rest : m.rest = ys.map char)
    (group : m.group 1 = some (us.map char)) :
    subFrom char mask r 0 seen (us ++ (vs ++ ys))
      = us ++ (mask ++ subFrom char mask r 0 (((us ++ vs).map char).reverse ++ seen) ys) := by
  have kept : (us ++ (vs ++ ys)).take (us.map char).length = us := by rw [List.length_map, List.take_left]
  rw [← List.append_assoc] at first kept ⊢
  cases read : us ++ vs with
  | nil => exact absurd (List.append_eq_nil_iff.mp read).2 nonempty
  | cons a ws =>
    rw [read, List.cons_append] at first kept
    have length : (ws ++ ys).length - m.rest.length = ws.length := by
      rw [rest, List.length_append, List.length_map]
      omega
    rw [List.cons_append, subFrom, first]
    dsimp only
    rw [group, Option.getD_some, kept, length, subFrom_skip, List.take_left, List.drop_left, List.map_cons, List.reverse_cons,
      List.append_assoc, List.append_assoc]
    rfl

/-- Where a pattern does not match, the text is copied. -/
theorem subFrom_append {seen : Text} (as : List α) {rest : List α}
    (nowhere : ∀ w w', as = w ++ w' → w' ≠ [] → results r ⟨(w.map char).reverse ++ seen, (w' ++ rest).map char, []⟩ = []) :
    subFrom char mask r 0 seen (as ++ rest) = as ++ subFrom char mask r 0 ((as.map char).reverse ++ seen) rest := by
  induction as generalizing seen with
  | nil => rfl
  | cons a as ih =>
    have other : results r ⟨seen, (a :: (as ++ rest)).map char, []⟩ = [] := nowhere [] (a :: as) rfl (List.cons_ne_nil _ _)
    rw [List.cons_append, subFrom, other]
    rw [show (([] : List Cursor).head?) = none from rfl]
    dsimp only
    rw [ih, List.map_cons, List.reverse_cons, List.append_assoc]
    · rfl
    · intro w w' cut inside
      have := nowhere (a :: w) w' (congrArg (a :: ·) cut) inside
      rw [List.map_cons, List.reverse_cons, List.append_assoc] at this
      exact this

open Token

/-- What ends at an edge does not end inside a mask. -/
theorem clean_of_endsAtEdge {x y : Text} (ends : EndsAtEdge x) (w w' : Text) (whole : redacted = w ++ w') (hw : w ≠ [])
    (_ : w' ≠ []) (cut : w <:+ x) (_ : w' <+: y) : False := by
  obtain ⟨c, last, isEdge⟩ := ends
  obtain ⟨v, d, rfl⟩ := (List.eq_nil_or_concat w).resolve_left hw
  obtain ⟨before, rfl⟩ := cut
  rw [List.concat_eq_append, ← List.append_assoc, List.getLast?_concat] at last
  obtain rfl : d = c := Option.some.inj last
  rw [edge_redacted d (by rw [whole]; simp)] at isEdge
  cases isEdge

theorem clean_of_startsAtEdge {x y : Text} (starts : StartsAtEdge y) (w w' : Text) (whole : redacted = w ++ w') (_ : w ≠ [])
    (hw' : w' ≠ []) (_ : w <:+ x) (cut : w' <+: y) : False := by
  cases w' with
  | nil => exact hw' rfl
  | cons d w' =>
    obtain ⟨behind, rfl⟩ := cut
    have isEdge := starts d rfl
    rw [edge_redacted d (by rw [whole]; simp)] at isEdge
    cases isEdge

/-- **Step**: a pattern masks tokens. -/
theorem exists_sub (masked : mask.map char = redacted) (masking : Masking r) (tokens : List (Token α)) (seen : Text) :
    ∃ tokens' : List (Token α), subFrom char mask r 0 seen (render mask tokens) = render mask tokens' ∧
      original tokens' = original tokens := by
  induction h : tokens.length using Nat.strong_induction_on generalizing tokens seen with
  | _ n ih =>
    cases tokens with
    | nil => exact ⟨[], rfl, rfl⟩
    | cons token tokens =>
      rw [List.length_cons] at h
      cases token with
      | gone as =>
        obtain ⟨tokens', sub, same⟩ := ih tokens.length (by omega) tokens ((mask.map char).reverse ++ seen) rfl
        refine ⟨gone as :: tokens', ?_, congrArg (as ++ ·) same⟩
        rw [render, subFrom_append, sub, render]
        -- no match begins in the mask
        intro w w' cut inside
        rw [List.map_append]
        refine masking.outside seen _ (w.map char) (w'.map char) ?_ (by simpa using inside)
        rw [← masked, cut, List.map_append]
      | keep a =>
        cases first : (results r ⟨seen, (render mask (keep a :: tokens)).map char, []⟩).head? with
        | none =>
          obtain ⟨tokens', sub, same⟩ := ih tokens.length (by omega) tokens (char a :: seen) rfl
          refine ⟨keep a :: tokens', ?_, congrArg (a :: ·) same⟩
          rw [render] at first
          rw [render, subFrom, first]
          dsimp only
          rw [sub, render]
        | some m =>
          -- the match is cut off between tokens
          obtain ⟨u, v, read, group, ends, nonempty, starts⟩ := masking.stops _ _ _ first
          obtain ⟨before, behind, split, left, right⟩ := exists_split masked read (clean_of_endsAtEdge ends)
          obtain ⟨removed, rest, rfl, middle, right⟩ := exists_split masked right (clean_of_startsAtEdge starts)
          have shorter : rest.length < n := by
            have length := congrArg List.length split
            simp only [List.length_cons, List.length_append] at length
            have : removed ≠ [] := by
              rintro rfl
              exact nonempty middle.symm
            have := List.length_pos_iff.mpr this
            omega
          obtain ⟨tokens', sub, same⟩ := ih rest.length shorter rest
            (((render mask before ++ render mask removed).map char).reverse ++ seen) rfl
          refine ⟨before ++ gone (original removed) :: tokens', ?_, ?_⟩
          · have vs : render mask removed ≠ [] := by
              intro empty
              rw [empty] at middle
              exact nonempty middle.symm
            rw [split, render_append, render_append] at first ⊢
            rw [subFrom_hit vs first right.symm (by rw [group, left]), sub, render_append, render]
          · rw [split, original_append, original_append, original_append, original, same]

/-- **The first loop** masks tokens. -/
theorem exists_patterns (masked : mask.map char = redacted) (text : List α) :
    ∃ tokens : List (Token α), maskPatterns char mask text = render mask tokens ∧ original tokens = text := by
  have loop (patterns : List Regex) (known : ∀ r ∈ patterns, r ∈ secretPatterns) (tokens : List (Token α)) :
      ∃ tokens' : List (Token α),
        patterns.foldl (fun out pattern => subFrom char mask pattern 0 [] out) (render mask tokens) = render mask tokens' ∧
          original tokens' = original tokens := by
    induction patterns generalizing tokens with
    | nil => exact ⟨tokens, rfl, rfl⟩
    | cons r patterns ih =>
      obtain ⟨between, sub, same⟩ := exists_sub masked (masking_of_mem (known r List.mem_cons_self)) tokens []
      obtain ⟨tokens', subs, same'⟩ := ih (fun r later => known r (List.mem_cons_of_mem _ later)) between
      exact ⟨tokens', by rw [List.foldl_cons, sub, subs], same'.trans same⟩
  obtain ⟨tokens, subs, same⟩ := loop secretPatterns (fun _ => id) (text.map keep)
  rw [render_keep] at subs
  rw [original_keep] at same
  exact ⟨tokens, subs, same⟩

end SwitchOps.Logging
