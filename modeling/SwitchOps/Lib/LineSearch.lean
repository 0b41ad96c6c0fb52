import SwitchOps.Lib.Continuations
import SwitchOps.Lib.Scanning
import SwitchOps.Lib.Tables

/-!
# Searching lines

Expressions that begin at a line, under `re.MULTILINE`, in a text that is given by its lines: what a search captures is
what the first line gives that matches at all (`search_unlines`), and a text is cut where its blocks begin
(`cut_unlines`).
-/

namespace Regex

open Text

variable {r s : Regex} {k : Cursor → List Cursor} {m m' : Cursor} {seen rest w t : Text} {groups : List (Nat × Text)}
  {p : Char → Bool}

/-! ### The beginning of a line -/

/-- A line begins here. -/
def AtLine (seen : Text) : Prop := ∀ c ∈ seen.head?, c = '\n'

theorem atLine_nil : AtLine [] := fun _ none => by cases none

theorem atLine_newline (seen : Text) : AtLine ('\n' :: seen) := fun _ here => (Option.some.inj here).symm

/-- A line begins after lines. -/
theorem atLine_unlines {lines : List Text} (start : AtLine seen) : AtLine ((unlines lines).reverse ++ seen) := by
  induction lines generalizing seen with
  | nil => exact start
  | cons line lines ih =>
    have later := ih (atLine_newline (line.reverse ++ seen))
    simpa [unlines] using later

theorem runs_lineStart (h : AtLine seen) : runs lineStart k ⟨seen, rest, groups⟩ = k ⟨seen, rest, groups⟩ := by
  rw [lineStart, runs_here]
  cases seen with
  | nil => rfl
  | cons c seen =>
    rw [h c rfl]
    rfl

/-- No line begins within a line. -/
theorem runs_lineStart_inside {c : Char} (h : c ≠ '\n') : runs lineStart k ⟨c :: seen, rest, groups⟩ = [] := by
  rw [lineStart, runs_here, if_neg]
  simpa using h

/-! ### Searching -/

theorem searchFrom_cons_of_nil {c : Char} (h : results r ⟨seen, c :: rest, []⟩ = []) :
    searchFrom r seen (c :: rest) = searchFrom r (c :: seen) rest := by
  rw [searchFrom, h]
  rfl

/-- A search from within a line goes on at the next one. -/
theorem searchFrom_inside {c : Char} (inside : c ≠ '\n') (line : '\n' ∉ w) :
    searchFrom (.seq lineStart s) (c :: seen) (w ++ '\n' :: rest) =
      searchFrom (.seq lineStart s) ('\n' :: (w.reverse ++ c :: seen)) rest := by
  have none : ∀ c seen rest, c ≠ '\n' → results (.seq lineStart s) ⟨c :: seen, rest, []⟩ = [] := by
    intro c seen rest inside
    rw [results_eq_runs, runs_seq, runs_lineStart_inside inside]
  induction w generalizing c seen with
  | nil => exact searchFrom_cons_of_nil (none c seen _ inside)
  | cons d w ih =>
    rw [List.cons_append, searchFrom_cons_of_nil (none c seen _ inside), ih]
    · rw [List.reverse_cons, List.append_assoc, List.singleton_append]
    · exact fun here => line (List.mem_cons.mpr (.inl here.symm))
    · exact fun here => line (List.mem_cons_of_mem _ here)

/-- A line where the expression does not match is passed over. -/
theorem searchFrom_line (start : AtLine seen) (line : '\n' ∉ w) (skipped : results s ⟨seen, w ++ '\n' :: rest, []⟩ = []) :
    searchFrom (.seq lineStart s) seen (w ++ '\n' :: rest) =
      searchFrom (.seq lineStart s) ('\n' :: (w.reverse ++ seen)) rest := by
  have none : results (.seq lineStart s) ⟨seen, w ++ '\n' :: rest, []⟩ = [] := by
    rw [results_eq_runs, runs_seq, runs_lineStart start, ← results_eq_runs, skipped]
  cases w with
  | nil => exact searchFrom_cons_of_nil none
  | cons c w =>
    rw [List.cons_append] at none ⊢
    rw [searchFrom_cons_of_nil none, searchFrom_inside]
    · rw [List.reverse_cons, List.append_assoc, List.singleton_append]
    · exact fun here => line (List.mem_cons.mpr (.inl here.symm))
    · exact fun here => line (List.mem_cons_of_mem _ here)

/-! ### What lines give -/

/-- A line of this text gives `found` as group 1 of `s`, or `s` does not match there, whatever precedes and follows. -/
def Finds (s : Regex) (line : Text) (found : Option Text) : Prop :=
  ∀ seen rest, ((results s ⟨seen, line ++ '\n' :: rest, []⟩).head?.map (·.group 1)) = found.map some

theorem finds_none (h : ∀ seen rest, results s ⟨seen, w ++ '\n' :: rest, []⟩ = []) : Finds s w none := by
  intro seen rest
  rw [h seen rest]
  rfl

theorem Finds.results_eq_nil (h : Finds s w none) (seen rest : Text) : results s ⟨seen, w ++ '\n' :: rest, []⟩ = [] :=
  List.head?_eq_none_iff.mp (Option.map_eq_none_iff.mp (h seen rest))

/-- A search captures what the first line gives that matches. -/
theorem search_unlines {lines : List (Text × Option Text)} (plain : ∀ line ∈ lines, '\n' ∉ line.1)
    (finds : ∀ line ∈ lines, Finds s line.1 line.2) (ended : ∀ seen, results s ⟨seen, [], []⟩ = []) :
    (search (.seq lineStart s) (unlines (lines.map (·.1)))).bind (·.group 1) = lines.findSome? (·.2) := by
  have from_ : ∀ seen, AtLine seen → (searchFrom (.seq lineStart s) seen (unlines (lines.map (·.1)))).bind (·.group 1) =
      lines.findSome? (·.2) := by
    induction lines with
    | nil =>
      intro seen start
      rw [List.map_nil, unlines, List.flatMap_nil, searchFrom, results_eq_runs, runs_seq, runs_lineStart start,
        ← results_eq_runs, ended]
      rfl
    | cons line lines ih =>
      intro seen start
      rw [List.forall_mem_cons] at plain finds
      have first : unlines ((line :: lines).map (·.1)) = line.1 ++ '\n' :: unlines (lines.map (·.1)) := by
        simp [unlines]
      have here := finds.1 seen (unlines (lines.map (·.1)))
      rw [first, List.findSome?_cons]
      cases found : line.2 with
      | none =>
        have skipped := finds.1
        rw [found] at skipped
        rw [searchFrom_line start plain.1 (skipped.results_eq_nil _ _)]
        exact ih plain.2 finds.2 _ (atLine_newline _)
      | some text =>
        rw [found, Option.map_some, Option.map_eq_some_iff] at here
        obtain ⟨m, head, group⟩ := here
        have result : searchFrom (.seq lineStart s) seen (line.1 ++ '\n' :: unlines (lines.map (·.1))) = some m := by
          apply searchFrom_of_head
          rwa [results_eq_runs, runs_seq, runs_lineStart start, ← results_eq_runs]
        rw [result]
        exact group
  exact from_ [] atLine_nil

/-- Where no line matches, nothing is found. -/
theorem search_unlines_eq_none {lines : List Text} (plain : ∀ line ∈ lines, '\n' ∉ line)
    (none : ∀ line ∈ lines, Finds s line none) (ended : ∀ seen, results s ⟨seen, [], []⟩ = []) :
    search (.seq lineStart s) (unlines lines) = .none := by
  have from_ : ∀ seen, AtLine seen → searchFrom (.seq lineStart s) seen (unlines lines) = .none := by
    induction lines with
    | nil =>
      intro seen start
      rw [unlines, List.flatMap_nil, searchFrom, results_eq_runs, runs_seq, runs_lineStart start, ← results_eq_runs, ended]
      rfl
    | cons line lines ih =>
      intro seen start
      rw [List.forall_mem_cons] at plain none
      have first : unlines (line :: lines) = line ++ '\n' :: unlines lines := by simp [unlines]
      rw [first, searchFrom_line start plain.1 (none.1.results_eq_nil _ _)]
      exact ih plain.2 none.2 _ (atLine_newline _)
  exact from_ [] atLine_nil

/-! ### Labels -/

/-- The line begins with the label, ignoring case. -/
def begins (label line : Text) : Bool := spells label (line.take label.length)

/-- What begins with a text that parts from the label does not begin with the label. -/
theorem not_begins_of_parts {label : Text} (h : parts label w = true) (t : Text) : begins label (w ++ t) = false := by
  induction label generalizing w with
  | nil => cases h
  | cons a label ih =>
    cases w with
    | nil => cases h
    | cons c w =>
      rw [parts, Bool.or_eq_true, Bool.not_eq_true'] at h
      rw [begins, List.cons_append, List.length_cons, List.take_succ_cons, spells, Bool.and_eq_false_iff]
      exact h.imp_right ih

/-- What does not begin with a label of one line parts from it. -/
theorem parts_of_not_begins {label line : Text} (plain : label.all fun a => !sameIgnoringCase a '\n')
    (h : begins label line = false) : parts label (line ++ ['\n']) = true := by
  induction label generalizing line with
  | nil => cases h
  | cons a label ih =>
    rw [List.all_cons, Bool.and_eq_true] at plain
    cases line with
    | nil =>
      rw [List.nil_append, parts, plain.1]
      rfl
    | cons c line =>
      rw [begins, List.length_cons, List.take_succ_cons, spells, Bool.and_eq_false_iff] at h
      rw [List.cons_append, parts, Bool.or_eq_true, Bool.not_eq_true']
      exact h.imp_right (ih plain.2)

theorem runs_lit_of_not_begins {label line : Text} (plain : label.all fun a => !sameIgnoringCase a '\n')
    (h : begins label line = false) (seen rest : Text) :
    runs (litIgnoringCase label) k ⟨seen, line ++ '\n' :: rest, groups⟩ = [] := by
  rw [List.append_cons]
  exact runs_lit_of_parts (parts_of_not_begins plain h) seen rest

/-- A literal needs a character. -/
theorem runs_lit_nil {label : Text} (some : label ≠ []) : runs (litIgnoringCase label) k ⟨seen, [], groups⟩ = [] := by
  obtain ⟨a, label, rfl⟩ := List.exists_cons_of_ne_nil some
  rw [litIgnoringCase, runs_seq, runs_chr_refused]
  intro c none
  cases none

/-- `label\s*value` -/
def labelled (label : Text) (value : Regex) : Regex := .seq (litIgnoringCase label) (.seq (.star true space) value)

theorem finds_labelled_none {label line : Text} {value : Regex} (plain : label.all fun a => !sameIgnoringCase a '\n')
    (h : begins label line = false) : Finds (labelled label value) line none := by
  apply finds_none
  intro seen rest
  rw [labelled, results_eq_runs, runs_seq]
  exact runs_lit_of_not_begins plain h seen rest

/-- What follows a label. -/
theorem finds_labelled {label spelling blanks text : Text} {value : Regex} (spelled : spells label spelling = true)
    (blank : ∀ c ∈ blanks, isSpace c = true) (visible : ∀ c ∈ text.head?, isSpace c = false) (some_ : text ≠ [])
    (h : Finds value text (some w)) : Finds (labelled label value) (spelling ++ (blanks ++ text)) (some w) := by
  intro seen rest
  obtain ⟨m, head, group⟩ := Option.map_eq_some_iff.mp (h (blanks.reverse ++ (spelling.reverse ++ seen)) rest)
  apply Option.map_eq_some_iff.mpr
  refine ⟨m, ?_, group⟩
  rw [labelled, results_eq_runs, runs_seq, List.append_assoc, List.append_assoc, runs_lit_of_spells spelled, runs_seq]
  apply head?_runs_star blank
  · rw [List.head?_append_of_ne_nil _ some_]
    exact visible
  · rwa [← results_eq_runs]

theorem results_labelled_nil {label : Text} {value : Regex} (some : label ≠ []) (seen : Text) :
    results (labelled label value) ⟨seen, [], []⟩ = [] := by
  rw [labelled, results_eq_runs, runs_seq, runs_lit_nil some]

/-! ### Indented keywords -/

/-- A keyword begins with no blank. -/
theorem refuses_lit {keyword : Text} (plain : ∃ a ∈ keyword.head?, isKeywordChar a = true) :
    Refuses (runs (litIgnoringCase keyword) k) isSpace := by
  obtain ⟨a, first, plain⟩ := plain
  obtain ⟨keyword, rfl⟩ := List.head?_eq_some_iff.mp first
  intro seen c rest groups blank
  rw [litIgnoringCase, runs_seq]
  apply runs_chr_refused
  intro d here
  obtain rfl := Option.some.inj here
  rw [← Bool.not_eq_true]
  intro same
  rw [(keyOf_eq plain same).2] at blank
  cases blank

/-- `\s*keyword` followed by `tail` -/
def indented (keyword : Text) (tail : Regex) : Regex := .seq (.star true space) (.seq (litIgnoringCase keyword) tail)

theorem runs_indented {keyword blanks content : Text} {tail : Regex}
    (plain : ∃ a ∈ keyword.head?, isKeywordChar a = true) (blank : ∀ c ∈ blanks, isSpace c = true)
    (visible : ∃ c ∈ content.head?, isSpace c = false) :
    runs (indented keyword tail) k ⟨seen, blanks ++ (content ++ rest), groups⟩ =
      runs (litIgnoringCase keyword) (runs tail k) ⟨blanks.reverse ++ seen, content ++ rest, groups⟩ := by
  obtain ⟨c, first, visible⟩ := visible
  obtain ⟨content, rfl⟩ := List.head?_eq_some_iff.mp first
  have stop : ∀ d ∈ ((c :: content) ++ rest).head?, isSpace d = false := by
    intro d here
    rw [← Option.some.inj here]
    exact visible
  rw [indented, runs_seq, runs_seq]
  exact runs_star (refuses_lit plain) blank stop

theorem finds_indented_none {keyword blanks content : Text} {tail : Regex}
    (plain : ∃ a ∈ keyword.head?, isKeywordChar a = true) (label : keyword.all fun a => !sameIgnoringCase a '\n')
    (blank : ∀ c ∈ blanks, isSpace c = true) (visible : ∃ c ∈ content.head?, isSpace c = false)
    (h : begins keyword content = false) : Finds (indented keyword tail) (blanks ++ content) none := by
  apply finds_none
  intro seen rest
  rw [results_eq_runs, List.append_assoc, runs_indented plain blank visible, runs_lit_of_not_begins label h]

/-- What follows an indented keyword. -/
theorem finds_indented {keyword spelling blanks text : Text} {tail : Regex} {found : Option Text}
    (plain : ∃ a ∈ keyword.head?, isKeywordChar a = true) (blank : ∀ c ∈ blanks, isSpace c = true)
    (visible : ∃ c ∈ (spelling ++ text).head?, isSpace c = false) (spelled : spells keyword spelling = true)
    (h : Finds tail text found) : Finds (indented keyword tail) (blanks ++ (spelling ++ text)) found := by
  intro seen rest
  rw [results_eq_runs, List.append_assoc, runs_indented plain blank visible, List.append_assoc,
    runs_lit_of_spells spelled, ← results_eq_runs]
  exact h _ _

theorem results_indented_nil {keyword : Text} {tail : Regex} (some : keyword ≠ []) (seen : Text) :
    results (indented keyword tail) ⟨seen, [], []⟩ = [] := by
  have none : ∀ c ∈ ([] : Text).head?, isSpace c = false := fun _ none => by cases none
  rw [indented, results_eq_runs, runs_seq, space, runs_star_none none, runs_seq, runs_lit_nil some]

/-! ### Values -/

/-- A group that takes a run of characters. -/
theorem finds_group_plus (all : ∀ c ∈ w, p c = true) (some_ : w ≠ []) (stop : ∀ c ∈ t.head?, p c = false)
    (ended : p '\n' = false) : Finds (.group 1 (plus (.chr p))) (w ++ t) (some w) := by
  intro seen rest
  have stopped : ∀ c ∈ (t ++ '\n' :: rest).head?, p c = false := by
    cases t with
    | nil =>
      intro c here
      rw [← Option.some.inj here]
      exact ended
    | cons d t => exact stop
  apply Option.map_eq_some_iff.mpr
  refine ⟨⟨w.reverse ++ seen, t ++ '\n' :: rest, [(1, w)]⟩, ?_, rfl⟩
  rw [results_eq_runs, List.append_assoc]
  exact head?_runs_group_plus 1 all some_ stopped rfl

/-- An expression without groups leaves those that there are. -/
theorem groups_of_results (none : groupsOf r = []) : ∀ m, ∀ m' ∈ results r m, m'.groups = m.groups := by
  induction r with
  | empty =>
    intro m m' h
    rw [List.mem_singleton.mp h]
  | chr accepts =>
    intro m m' h
    obtain ⟨seen, rest, groups⟩ := m
    cases rest with
    | nil => cases h
    | cons c rest =>
      rw [results] at h
      dsimp only at h
      split at h
      · rw [List.mem_singleton.mp h]
      · cases h
  | seq r s ihr ihs =>
    intro m m' h
    rw [groupsOf, List.append_eq_nil_iff] at none
    obtain ⟨next, here, h⟩ := List.mem_flatMap.mp h
    exact (ihs none.2 next m' h).trans (ihr none.1 m next here)
  | alt r s ihr ihs =>
    intro m m' h
    rw [groupsOf, List.append_eq_nil_iff] at none
    rcases List.mem_append.mp h with h | h
    · exact ihr none.1 m m' h
    · exact ihs none.2 m m' h
  | star greedy r ih =>
    intro m m' h
    have further : ∀ fuel m, ∀ m' ∈ iterate (results r) greedy fuel m, m'.groups = m.groups := by
      intro fuel
      induction fuel with
      | zero =>
        intro m m' h
        rw [List.mem_singleton.mp h]
      | succ fuel step =>
        intro m m' h
        rcases mem_iterate_succ h with rfl | ⟨next, here, h⟩
        · rfl
        · exact (step next m' h).trans (ih none m next here)
    exact further _ m m' h
  | group n r _ => cases none
  | here test =>
    intro m m' h
    rw [results] at h
    split at h
    · rw [List.mem_singleton.mp h]
    · cases h
  | ahead r _ =>
    intro m m' h
    rw [results] at h
    split at h
    · cases h
    · rw [List.mem_singleton.mp h]

/-- `\s*$` -/
def blankToEnd : Regex := .seq (.star true space) lineEnd

/-- A line that goes on with something visible does not end with blanks only. -/
theorem runs_blankToEnd_inside (line : '\n' ∉ w) (visible : ∃ c ∈ w, isSpace c = false) (rest : Text) :
    runs blankToEnd k ⟨seen, w ++ rest, groups⟩ = [] := by
  rw [blankToEnd, runs_seq, runs, List.flatMap_eq_nil_iff]
  intro m h
  obtain ⟨c, here, visible⟩ := visible
  obtain ⟨u, reads, word⟩ := results_denotes _ _ m h
  have blank : ∀ d ∈ u, isSpace d = true := denotes_star_chr.mp word
  have shown : c ∉ u := by
    intro mem
    rw [blank c mem] at visible
    cases visible
  have whole : w ++ rest = u ++ m.rest := reads.1
  rw [lineEnd, runs_here, if_neg]
  rcases List.append_eq_append_iff.mp whole with ⟨more, rfl, -⟩ | ⟨more, rfl, ahead⟩
  · exact absurd (List.mem_append_left _ here) shown
  · cases more with
    | nil => exact absurd (List.append_nil u ▸ here) shown
    | cons d more =>
      have other : d ≠ '\n' := by
        rintro rfl
        exact line (List.mem_append_right _ List.mem_cons_self)
      rw [ahead]
      simpa using other

/-- A greedy repetition goes on before it stops. -/
theorem runs_greedy_cons {c : Char} (h : p c = true) :
    runs (.star true (.chr p)) k ⟨seen, c :: rest, groups⟩ =
      runs (.star true (.chr p)) k ⟨c :: seen, rest, groups⟩ ++ k ⟨seen, c :: rest, groups⟩ := by
  rw [runs, results, List.length_cons, iterate_chr_cons h, if_pos rfl, List.flatMap_append, List.flatMap_singleton]
  rfl

/-- Before a line with something visible, blanks at the end of the line before do not go on. -/
theorem runs_blankToEnd_newline (line : '\n' ∉ w) (visible : ∃ c ∈ w, isSpace c = false) (rest : Text) :
    runs blankToEnd k ⟨seen, '\n' :: (w ++ rest), groups⟩ = k ⟨seen, '\n' :: (w ++ rest), groups⟩ := by
  have further : runs blankToEnd k ⟨'\n' :: seen, w ++ rest, groups⟩ = [] := runs_blankToEnd_inside line visible rest
  rw [blankToEnd, runs_seq] at further ⊢
  rw [space, runs_greedy_cons (p := isSpace) (by decide), ← space, further, List.nil_append, lineEnd, runs_here, if_pos]
  rfl

/-- Blanks at the end of a line. -/
theorem head?_results_blankToEnd (blank : ∀ c ∈ t, isSpace c = true) (seen rest : Text) (groups : List (Nat × Text)) :
    ∃ m, (results blankToEnd ⟨seen, t ++ '\n' :: rest, groups⟩).head? = some m ∧ m.groups = groups := by
  obtain ⟨m, here, ahead⟩ := results_of_denotes (r := .star true space) trivial (denotes_star_chr.mpr blank)
    ⟨seen, t ++ '\n' :: rest, groups⟩ ('\n' :: rest) rfl
  have ends : m ∈ results blankToEnd ⟨seen, t ++ '\n' :: rest, groups⟩ := by
    apply List.mem_flatMap.mpr
    refine ⟨m, here, ?_⟩
    rw [lineEnd, results, ahead]
    exact List.mem_singleton_self m
  obtain ⟨m', head⟩ := Option.isSome_iff_exists.mp (List.isSome_head?.mpr (List.ne_nil_of_mem ends))
  exact ⟨m', head, groups_of_results rfl _ m' (List.mem_of_head? head)⟩

/-- A text within a line that begins and ends with something visible. -/
structure IsPhrase (w : Text) : Prop where
  line : '\n' ∉ w
  first : ∃ c ∈ w.head?, isSpace c = false
  last : ∃ c ∈ w.getLast?, isSpace c = false

theorem IsPhrase.of_isToken (h : IsToken w) : IsPhrase w where
  line here := by
    have visible := h.solid _ here
    exact absurd visible (by decide)
  first := by
    obtain ⟨c, v, rfl⟩ := List.exists_cons_of_ne_nil h.ne_nil
    exact ⟨c, rfl, h.solid c List.mem_cons_self⟩
  last := ⟨w.getLast h.ne_nil, List.getLast?_eq_getLast_of_ne_nil h.ne_nil, h.solid _ (List.getLast_mem h.ne_nil)⟩

/-- `(.+?)\s*$` -/
def phrase : Regex :=
  .seq (.group 1 (.seq (.chr (· != '\n')) (.star false (.chr (· != '\n'))))) blankToEnd

theorem finds_phrase (h : IsPhrase w) (blank : ∀ c ∈ t, isSpace c = true) : Finds phrase (w ++ t) (some w) := by
  intro seen rest
  obtain ⟨c, w, rfl⟩ : ∃ c v, w = c :: v := by
    obtain ⟨c, first, -⟩ := h.first
    exact List.exists_cons_of_ne_nil fun empty => by rw [empty] at first; cases first
  have inside : ∀ d ∈ c :: w, (d != '\n') = true := by
    intro d here
    rw [bne_iff_ne]
    rintro rfl
    exact h.line here
  rw [List.forall_mem_cons] at inside
  obtain ⟨m, head, groups⟩ := head?_results_blankToEnd blank ((c :: w).reverse ++ seen) rest [(1, c :: w)]
  apply Option.map_eq_some_iff.mpr
  refine ⟨m, ?_, ?_⟩
  · rw [phrase, results_eq_runs, runs_seq, runs_group, runs_seq, List.append_assoc, List.cons_append,
      runs_chr_cons (p := (· != '\n')) inside.1]
    apply head?_runs_lazy inside.2
    · intro u v split more
      apply runs_blankToEnd_inside
      · intro here
        apply h.line
        rw [split]
        exact List.mem_cons_of_mem _ (List.mem_append_right _ here)
      · obtain ⟨d, last, visible⟩ := h.last
        refine ⟨d, ?_, visible⟩
        rw [split, ← List.cons_append, List.getLast?_append_of_ne_nil _ more] at last
        exact List.mem_of_getLast? last
    · have captured := captured_append seen (c :: w) (c :: (w ++ (t ++ '\n' :: rest))) (t ++ '\n' :: rest) [] []
      rw [List.reverse_cons, List.append_assoc, List.singleton_append] at captured head
      dsimp only
      rw [captured, ← results_eq_runs]
      exact head
  · rw [Cursor.group, groups]
    rfl

end Regex
