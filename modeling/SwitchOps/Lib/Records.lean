import SwitchOps.Lib.Blocks

/-!
# Texts of records

A text of records that are divided by rules, as devices print details: `re.split` cuts it at the rules
(`split_records`), and a field of a record is searched either for a label that stands anywhere in a line
(`search_unlines_within`), or for a title at the beginning of a line, which blank lines before it do not hide
(`search_titled`).
-/

namespace Regex

open Text

variable {r s : Regex} {k : Cursor → List Cursor} {seen rest w : Text} {groups : List (Nat × Text)}

/-! ### Captures -/

theorem finds_seq_empty {found : Option Text} (h : Finds r w found) : Finds (.seq r .empty) w found := by
  intro seen rest
  rw [results_eq_runs, runs_seq, runs_empty, ← results_eq_runs]
  exact h seen rest

theorem mem_of_searchFrom {t : Text} {m : Cursor} (h : searchFrom r seen t = some m) : ∃ m', m ∈ results r m' := by
  induction t generalizing seen with
  | nil => exact ⟨_, List.mem_of_head? h⟩
  | cons c t ih =>
    rw [searchFrom] at h
    cases head : (results r ⟨seen, c :: t, []⟩).head? with
    | none =>
      rw [head] at h
      exact ih h
    | some m' =>
      rw [head] at h
      obtain rfl := Option.some.inj h
      exact ⟨_, List.mem_of_head? head⟩

/-- Every match of a search captures the group. -/
theorem search_group {n : Nat} (always : Always n r) (t : Text) :
    ((search r t).map fun m => (m.group n).getD []) = (search r t).bind (·.group n) := by
  cases found : search r t with
  | none => rfl
  | some m =>
    obtain ⟨m', here⟩ := mem_of_searchFrom found
    obtain ⟨w, known⟩ := exists_group_of_always always m' m here
    have first : (m.groups.find? (·.1 == n)).isSome := List.find?_isSome.mpr ⟨(n, w), known, beq_self_eq_true n⟩
    obtain ⟨entry, first⟩ := Option.isSome_iff_exists.mp first
    rw [Option.map_some, Option.bind_some, Cursor.group, first]
    rfl

theorem IsPhrase.strip_eq (h : IsPhrase w) : strip w = w := by
  obtain ⟨c, first, visible⟩ := h.first
  obtain ⟨d, last, visible'⟩ := h.last
  have left : lstrip w = w := by
    apply lstrip_eq_self
    intro b here
    rwa [Option.mem_unique here first]
  rw [strip, left]
  apply rstrip_eq_self
  intro b here
  rwa [Option.mem_unique here last]

/-- What follows blanks. -/
theorem finds_spaced {blanks text : Text} (blank : ∀ c ∈ blanks, isSpace c = true)
    (visible : ∃ c ∈ text.head?, isSpace c = false) (h : Finds r text (some w)) :
    Finds (.seq (.star true space) r) (blanks ++ text) (some w) := by
  intro seen rest
  obtain ⟨m, head, group⟩ := Option.map_eq_some_iff.mp (h (blanks.reverse ++ seen) rest)
  apply Option.map_eq_some_iff.mpr
  refine ⟨m, ?_, group⟩
  rw [results_eq_runs, runs_seq, List.append_assoc]
  apply head?_runs_star blank
  · obtain ⟨c, first, visible⟩ := visible
    obtain ⟨text, rfl⟩ := List.head?_eq_some_iff.mp first
    intro d here
    rw [← Option.some.inj here]
    exact visible
  · rwa [← results_eq_runs]

/-! ### Labels within lines -/

/-- The first place in the line at which `r` matches gives `found`, if there is one. -/
inductive FindsWithin (r : Regex) (line : Text) : Option Text → Prop
  | none (absent : ∀ t, t <:+ line → Finds r t none) : FindsWithin r line none
  | some {before t v : Text} (split : line = before ++ t) (first : ∀ b, b <:+ before → b ≠ [] → Finds r (b ++ t) none)
    (here : Finds r t (some v)) : FindsWithin r line (some v)

/-- What matches nowhere on the way is passed over. -/
theorem searchFrom_passing {b t : Text} (first : ∀ a, a <:+ b → a ≠ [] → ∀ seen, results r ⟨seen, a ++ t, []⟩ = [])
    (seen : Text) : searchFrom r seen (b ++ t) = searchFrom r (b.reverse ++ seen) t := by
  induction b generalizing seen with
  | nil => rfl
  | cons c b ih =>
    have here := first (c :: b) List.suffix_rfl (List.cons_ne_nil c b) seen
    rw [List.cons_append] at here ⊢
    rw [searchFrom_cons_of_nil here, ih fun a suffix => first a (suffix.trans (List.suffix_cons c b))]
    rw [List.reverse_cons, List.append_assoc, List.singleton_append]

theorem searchFrom_of_absent (absent : ∀ t, t <:+ w → Finds r t none) (seen rest : Text) :
    searchFrom r seen (w ++ '\n' :: rest) = searchFrom r ('\n' :: (w.reverse ++ seen)) rest := by
  have line : ∀ a, a <:+ w ++ ['\n'] → a ≠ [] → ∀ seen, results r ⟨seen, a ++ rest, []⟩ = [] := by
    intro a suffix some seen
    obtain ⟨b, split⟩ := suffix
    obtain ⟨t, rfl⟩ : ∃ t, a = t ++ ['\n'] := by
      refine ⟨a.dropLast, ?_⟩
      have last := congrArg List.getLast? split
      rw [List.getLast?_append_of_ne_nil _ some, List.getLast?_concat] at last
      exact (List.dropLast_append_getLast? _ last).symm
    rw [← List.append_assoc, List.append_left_inj] at split
    rw [List.append_assoc, List.singleton_append]
    exact (absent t ⟨b, split⟩).results_eq_nil _ _
  rw [List.append_cons, searchFrom_passing line, List.reverse_append, List.reverse_singleton, List.append_assoc,
    List.singleton_append]

/-- A search captures what the first line gives that holds a match. -/
theorem search_unlines_within {lines : List (Text × Option Text)}
    (finds : ∀ line ∈ lines, FindsWithin r line.1 line.2) (ended : ∀ seen, results r ⟨seen, [], []⟩ = []) :
    (search r (unlines (lines.map (·.1)))).bind (·.group 1) = lines.findSome? (·.2) := by
  have from_ : ∀ seen, (searchFrom r seen (unlines (lines.map (·.1)))).bind (·.group 1) =
      lines.findSome? (·.2) := by
    induction lines with
    | nil =>
      intro seen
      rw [List.map_nil, unlines, List.flatMap_nil, searchFrom, ended]
      rfl
    | cons line lines ih =>
      intro seen
      rw [List.forall_mem_cons] at finds
      have text_ : unlines ((line :: lines).map (·.1)) = line.1 ++ '\n' :: unlines (lines.map (·.1)) := by
        simp [unlines]
      obtain ⟨text, found⟩ := line
      rw [text_, List.findSome?_cons]
      cases finds.1 with
      | none absent =>
        rw [searchFrom_of_absent absent]
        exact ih finds.2 _
      | @some before t v split first here =>
        dsimp only at split
        rw [split, List.append_assoc]
        rw [searchFrom_passing]
        · obtain ⟨m, head, group⟩ := Option.map_eq_some_iff.mp (here (before.reverse ++ seen) (unlines (lines.map (·.1))))
          rw [searchFrom_of_head head]
          exact group
        · intro b suffix some seen
          rw [← List.append_assoc]
          exact (first b suffix some).results_eq_nil _ _
  exact from_ []

/-- The label begins nowhere in `line`, where `rest` follows. -/
def Lacks (label line rest : Text) : Prop := ∀ t, t <:+ line → t ≠ [] → begins label (t ++ rest) = false

instance (label line rest : Text) : Decidable (Lacks label line rest) :=
  decidable_of_iff (∀ t ∈ line.tails, t ≠ [] → begins label (t ++ rest) = false) (by simp only [Lacks, List.mem_tails])

section lacks

variable {label a b : Text}

theorem lacks_append (right : Lacks label b rest) (left : Lacks label a (b ++ rest)) : Lacks label (a ++ b) rest := by
  rintro t ⟨u, split⟩ some
  rcases List.append_eq_append_iff.mp split with ⟨v, rfl, rfl⟩ | ⟨v, rfl, rfl⟩
  · rw [List.append_assoc]
    cases v with
    | nil => exact right b List.suffix_rfl some
    | cons c v => exact left (c :: v) ⟨u, rfl⟩ (List.cons_ne_nil c v)
  · exact right t ⟨v, rfl⟩ some

/-- A label does not begin within what has none of the characters of its first letter. -/
theorem lacks_of_foreign {first : Char} (foreign : ∀ c ∈ a, sameIgnoringCase first c = false) :
    Lacks (first :: label) a rest := by
  rintro t ⟨u, rfl⟩ some
  obtain ⟨c, t, rfl⟩ := List.exists_cons_of_ne_nil some
  rw [begins, List.cons_append, List.length_cons, List.take_succ_cons, spells, foreign c (by simp), Bool.false_and]

theorem begins_cons (x c : Char) (label t : Text) :
    begins (x :: label) (c :: t) = (sameIgnoringCase x c && begins label t) := rfl

/-- A label does not reach over a character that it does not have. -/
theorem begins_of_stop {c : Char} (foreign : label.all fun x => !sameIgnoringCase x c) (h : begins label a = false) :
    begins label (a ++ c :: rest) = false := by
  induction label generalizing a with
  | nil => cases h
  | cons x label ih =>
    rw [List.all_cons, Bool.and_eq_true, Bool.not_eq_true'] at foreign
    cases a with
    | nil => rw [List.nil_append, begins_cons, foreign.1, Bool.false_and]
    | cons d a =>
      rw [begins_cons, Bool.and_eq_false_iff] at h
      rw [List.cons_append, begins_cons, Bool.and_eq_false_iff]
      exact h.imp_right (ih foreign.2)

theorem lacks_of_stop {c : Char} (foreign : label.all fun x => !sameIgnoringCase x c) (h : Lacks label a []) :
    Lacks label a (c :: rest) := by
  intro t suffix some
  have alone := h t suffix some
  rw [List.append_nil] at alone
  exact begins_of_stop foreign alone

/-- A label that ends with its only colon begins a text, if what precedes the first colon of the text spells it. -/
theorem begins_colon (once : label.all fun x => !sameIgnoringCase x ':') (first : a.all fun c => !sameIgnoringCase ':' c)
    (rest : Text) : begins (label ++ [':']) (a ++ ':' :: rest) = spells label a := by
  induction label generalizing a with
  | nil =>
    cases a with
    | nil => rfl
    | cons c a =>
      rw [List.all_cons, Bool.and_eq_true, Bool.not_eq_true'] at first
      rw [List.nil_append, List.cons_append, begins_cons, first.1]
      rfl
  | cons x label ih =>
    rw [List.all_cons, Bool.and_eq_true, Bool.not_eq_true'] at once
    cases a with
    | nil =>
      rw [List.cons_append, List.nil_append, begins_cons, once.1]
      rfl
    | cons c a =>
      rw [List.all_cons, Bool.and_eq_true] at first
      rw [List.cons_append, List.cons_append, begins_cons, ih once.2 first.2]
      rfl

theorem lacks_colon (once : label.all fun x => !sameIgnoringCase x ':') (first : a.all fun c => !sameIgnoringCase ':' c)
    (other : ∀ t ∈ a.tails, t ≠ [] → spells label t = false) (rest : Text) : Lacks (label ++ [':']) a (':' :: rest) := by
  intro t suffix some
  rw [begins_colon once]
  · exact other t ((List.mem_tails t a).mpr suffix) some
  · rw [List.all_eq_true] at first ⊢
    exact fun c here => first c (suffix.subset here)

end lacks

theorem findsWithin_none {label line : Text} {tail : Regex} (plain : label.all fun a => !sameIgnoringCase a '\n')
    (some_ : label ≠ []) (h : Lacks label line []) : FindsWithin (.seq (litIgnoringCase label) tail) line none := by
  apply FindsWithin.none
  intro t suffix
  apply finds_none
  intro seen rest
  rw [results_eq_runs, runs_seq]
  apply runs_lit_of_not_begins plain
  cases t with
  | nil =>
    obtain ⟨a, label, rfl⟩ := List.exists_cons_of_ne_nil some_
    rfl
  | cons c t =>
    have here := h (c :: t) suffix (List.cons_ne_nil c t)
    rwa [List.append_nil] at here

/-- A label is found in the line where it stands first. -/
theorem findsWithin_some {label spelling before t : Text} {tail : Regex} {found : Text}
    (plain : label.all fun a => !sameIgnoringCase a '\n') (lacks : Lacks label before (spelling ++ t))
    (spelled : spells label spelling = true) (finds : Finds tail t (some found)) :
    FindsWithin (.seq (litIgnoringCase label) tail) (before ++ (spelling ++ t)) (some found) := by
  apply FindsWithin.some rfl
  · intro b suffix some
    apply finds_none
    intro seen rest
    rw [results_eq_runs, runs_seq]
    exact runs_lit_of_not_begins plain (lacks b suffix some) seen rest
  · intro seen rest
    rw [results_eq_runs, runs_seq, List.append_assoc, runs_lit_of_spells spelled, ← results_eq_runs]
    exact finds _ rest

/-- Where the other alternative is absent, the first place of one of them is that of both. -/
theorem findsWithin_of_alternative {s' : Regex} {line : Text} {found : Option Text}
    (both : ∀ {t found}, Finds s t found → Finds s' t none → Finds r t found) (finds : FindsWithin s line found)
    (absent : FindsWithin s' line none) : FindsWithin r line found := by
  cases absent with
  | none absent =>
    cases finds with
    | none absent' => exact .none fun t suffix => both (absent' t suffix) (absent t suffix)
    | @some before t v split first here =>
      have inside : ∀ b, b <:+ before → b ++ t <:+ line := by
        rintro b ⟨a, rfl⟩
        exact ⟨a, by rw [split, List.append_assoc]⟩
      refine .some split (fun b suffix some => ?_) ?_
      · exact both (first b suffix some) (absent _ (inside b suffix))
      · exact both here (absent _ (inside [] List.nil_suffix))

theorem runs_lit_append (a b : Text) :
    runs (litIgnoringCase (a ++ b)) k = runs (litIgnoringCase a) (runs (litIgnoringCase b) k) := by
  induction a with
  | nil => rw [List.nil_append, litIgnoringCase, runs_empty]
  | cons c a ih => rw [List.cons_append, litIgnoringCase, litIgnoringCase, runs_seq, runs_seq, ih]

/-- A literal reads in one way, if at all. -/
theorem results_lit_subsingleton (a : Text) (m : Cursor) :
    results (litIgnoringCase a) m = [] ∨ ∃ m', results (litIgnoringCase a) m = [m'] := by
  induction a generalizing m with
  | nil => exact .inr ⟨m, rfl⟩
  | cons c a ih =>
    obtain ⟨seen, rest, groups⟩ := m
    rw [litIgnoringCase, results_eq_runs, runs_seq]
    cases rest with
    | nil => exact .inl (runs_chr_refused fun d none => by cases none)
    | cons d rest =>
      cases same : sameIgnoringCase c d with
      | false =>
        refine .inl (runs_chr_refused fun b here => ?_)
        rw [← Option.some.inj here, same]
      | true =>
        rw [runs_chr_cons same, ← results_eq_runs]
        exact ih _

/-- What is optional after a literal makes two expressions of it. -/
theorem runs_lit_opt (a : Text) (m : Cursor) :
    runs (litIgnoringCase a) (runs (opt r) k) m = runs (litIgnoringCase a) (runs r k) m ++ runs (litIgnoringCase a) k m := by
  rcases results_lit_subsingleton a m with none | ⟨m', one⟩
  · rw [runs, runs, runs, none]
    rfl
  · rw [runs, runs, runs, one, List.flatMap_singleton, List.flatMap_singleton, List.flatMap_singleton, runs_opt]

/-! ### Titles of lines -/

/-- A literal that does not begin with a blank. -/
structure Solid (title : Text) : Prop where
  ne_nil : title ≠ []
  first : ∀ a ∈ title.head?, ∀ c, sameIgnoringCase a c = true → isSpace c = false

/-- A title that begins with a letter. -/
theorem solid_of_letter {first : Char} {title : Text} (key : Char) (letter : isKeywordChar key = true)
    (same : ∀ c, sameIgnoringCase first c = sameIgnoringCase key c) : Solid (first :: title) where
  ne_nil := List.cons_ne_nil first title
  first := by
    intro a here c spelled
    obtain rfl := Option.some.inj here
    rw [same] at spelled
    exact (keyOf_eq letter spelled).2

theorem Solid.refuses {title : Text} (h : Solid title) : Refuses (runs (litIgnoringCase title) k) isSpace := by
  obtain ⟨a, title, rfl⟩ := List.exists_cons_of_ne_nil h.ne_nil
  intro seen c rest groups blank
  rw [litIgnoringCase, runs_seq]
  apply runs_chr_refused
  intro d here
  obtain rfl := Option.some.inj here
  rw [← Bool.not_eq_true]
  intro same
  rw [h.first a rfl c same] at blank
  cases blank

section titles

variable {title : Text} {tail : Regex}

/-- Blanks before a title are passed over, also those of whole lines. -/
theorem runs_indented_blank (h : Solid title) {blanks : Text} (blank : ∀ c ∈ blanks, isSpace c = true) :
    runs (indented title tail) k ⟨seen, blanks ++ rest, groups⟩ =
      runs (indented title tail) k ⟨blanks.reverse ++ seen, rest, groups⟩ := by
  induction blanks generalizing seen with
  | nil => rfl
  | cons c blanks ih =>
    rw [List.forall_mem_cons] at blank
    have here := @ih (c :: seen) blank.2
    rw [indented, runs_seq, runs_seq] at here ⊢
    rw [List.cons_append, space, runs_greedy_cons blank.1, h.refuses _ _ _ _ blank.1, List.append_nil, ← space, here]
    rw [List.reverse_cons, List.append_assoc, List.singleton_append]

theorem runs_indented_visible (h : Solid title) (visible : ∀ c ∈ rest.head?, isSpace c = false) :
    runs (indented title tail) k ⟨seen, rest, groups⟩ = runs (litIgnoringCase title) (runs tail k) ⟨seen, rest, groups⟩ := by
  have whole := @runs_star (runs (litIgnoringCase title) (runs tail k)) seen _ [] groups _
    h.refuses (fun _ none => by cases none) visible
  rw [indented, runs_seq, runs_seq]
  exact whole

/-- What follows a title that is indented. -/
theorem finds_titled (h : Solid title) {blanks spelling text : Text} {found : Option Text}
    (blank : ∀ c ∈ blanks, isSpace c = true) (spelled : spells title spelling = true)
    (finds : Finds tail text found) : Finds (indented title tail) (blanks ++ (spelling ++ text)) found := by
  intro seen rest
  have visible : ∀ c ∈ (spelling ++ (text ++ '\n' :: rest)).head?, isSpace c = false := by
    obtain ⟨a, title, rfl⟩ := List.exists_cons_of_ne_nil h.ne_nil
    cases spelling with
    | nil => cases spelled
    | cons d spelling =>
      rw [spells, Bool.and_eq_true] at spelled
      intro c here
      rw [← Option.some.inj here]
      exact h.first a rfl d spelled.1
  rw [results_eq_runs, List.append_assoc, runs_indented_blank h blank, List.append_assoc, runs_indented_visible h visible,
    runs_lit_of_spells spelled, ← results_eq_runs]
  exact finds _ _

theorem finds_titled_none (h : Solid title) (label : title.all fun a => !sameIgnoringCase a '\n')
    {blanks content : Text} (blank : ∀ c ∈ blanks, isSpace c = true) (visible : ∃ c ∈ content.head?, isSpace c = false)
    (other : begins title content = false) : Finds (indented title tail) (blanks ++ content) none := by
  apply finds_none
  intro seen rest
  obtain ⟨c, first, visible⟩ := visible
  obtain ⟨content, rfl⟩ := List.head?_eq_some_iff.mp first
  have stop : ∀ d ∈ (c :: content ++ '\n' :: rest).head?, isSpace d = false := by
    intro d here
    rw [← Option.some.inj here]
    exact visible
  rw [results_eq_runs, List.append_assoc, runs_indented_blank h blank, runs_indented_visible h stop,
    runs_lit_of_not_begins label other]

/-- A line that is blank, or that gives `found` as what stands under the title. -/
def Entitles (title : Text) (tail : Regex) (line : Text) (found : Option Text) : Prop :=
  ((∀ c ∈ line, isSpace c = true) ∧ found = none) ∨
    ((∃ c ∈ line, isSpace c = false) ∧ Finds (indented title tail) line found)

/-- At the beginning of any line, the next line that is not blank counts. -/
theorem head?_results_indented (h : Solid title) {lines : List (Text × Option Text)}
    (entitles : ∀ line ∈ lines, Entitles title tail line.1 line.2) (seen : Text) :
    (results (indented title tail) ⟨seen, unlines (lines.map (·.1)), []⟩).head?.map (·.group 1) =
      ((lines.find? fun line => line.1.any fun c => !isSpace c).bind (·.2)).map some := by
  induction lines generalizing seen with
  | nil =>
    have none : ∀ c ∈ ([] : Text).head?, isSpace c = false := fun _ none => by cases none
    have ended : results (indented title tail) ⟨seen, [], []⟩ = [] := by
      rw [results_eq_runs, runs_indented_visible h none, runs_lit_nil h.ne_nil]
    rw [List.map_nil, unlines, List.flatMap_nil, ended]
    rfl
  | cons line lines ih =>
    rw [List.forall_mem_cons] at entitles
    have text_ : unlines ((line :: lines).map (·.1)) = line.1 ++ '\n' :: unlines (lines.map (·.1)) := by
      simp [unlines]
    rw [text_]
    rcases entitles.1 with ⟨blank, -⟩ | ⟨visible, finds⟩
    · have dark : (line.1.any fun c => !isSpace c) = false := by
        rw [List.any_eq_false]
        intro c here
        simp [blank c here]
      have blanks : ∀ c ∈ line.1 ++ ['\n'], isSpace c = true := by
        rw [List.forall_mem_append]
        exact ⟨blank, by decide⟩
      rw [List.append_cons, results_eq_runs, runs_indented_blank h blanks, ← results_eq_runs, ih entitles.2,
        List.find?_cons, dark]
    · have shown : (line.1.any fun c => !isSpace c) = true := by
        obtain ⟨c, here, visible⟩ := visible
        exact List.any_eq_true.mpr ⟨c, here, by rw [visible]; rfl⟩
      rw [finds, List.find?_cons, shown]
      rfl

/-- What the next line that is not blank gives is what the first line gives that gives something. -/
theorem findSome?_of_next {lines : List (Text × Option Text)} {text : Text}
    (entitles : ∀ line ∈ lines, Entitles title tail line.1 line.2)
    (next : (lines.find? fun line => line.1.any fun c => !isSpace c).bind (·.2) = some text) :
    lines.findSome? (·.2) = some text := by
  induction lines with
  | nil => cases next
  | cons line lines ih =>
    rw [List.forall_mem_cons] at entitles
    rw [List.find?_cons] at next
    rw [List.findSome?_cons]
    rcases entitles.1 with ⟨blank, nothing⟩ | ⟨⟨c, here, visible⟩, -⟩
    · have dark : (line.1.any fun c => !isSpace c) = false := by
        rw [List.any_eq_false]
        intro c here
        simp [blank c here]
      rw [dark] at next
      rw [nothing]
      exact ih entitles.2 next
    · have shown : (line.1.any fun c => !isSpace c) = true :=
        List.any_eq_true.mpr ⟨c, here, by rw [visible]; rfl⟩
      rw [shown] at next
      have given : line.2 = some text := next
      rw [given]

/-- **A search for a title** captures what the first line gives that has it, blank lines or not. -/
theorem search_titled (h : Solid title) {lines : List (Text × Option Text)} (plain : ∀ line ∈ lines, '\n' ∉ line.1)
    (entitles : ∀ line ∈ lines, Entitles title tail line.1 line.2) :
    (search (.seq lineStart (indented title tail)) (unlines (lines.map (·.1)))).bind (·.group 1) =
      lines.findSome? (·.2) := by
  have from_ : ∀ seen, AtLine seen →
      (searchFrom (.seq lineStart (indented title tail)) seen (unlines (lines.map (·.1)))).bind (·.group 1) =
        lines.findSome? (·.2) := by
    induction lines with
    | nil =>
      intro seen start
      have ended := @head?_results_indented title tail h _ entitles seen
      rw [List.map_nil, unlines, List.flatMap_nil] at ended ⊢
      rw [searchFrom, results_eq_runs, runs_seq, runs_lineStart start, ← results_eq_runs,
        Option.map_eq_none_iff.mp ended]
      rfl
    | cons line lines ih =>
      intro seen start
      have counts := @head?_results_indented title tail h _ entitles seen
      rw [List.forall_mem_cons] at plain entitles
      have text_ : unlines ((line :: lines).map (·.1)) = line.1 ++ '\n' :: unlines (lines.map (·.1)) := by
        simp [unlines]
      rw [text_] at counts ⊢
      cases next : ((line :: lines).find? fun line => line.1.any fun c => !isSpace c).bind (·.2) with
      | none =>
        rw [next] at counts
        have skipped := List.head?_eq_none_iff.mp (Option.map_eq_none_iff.mp counts)
        have nothing : line.2 = none := by
          rcases entitles.1 with ⟨-, nothing⟩ | ⟨⟨c, here, visible⟩, -⟩
          · exact nothing
          · have shown : (line.1.any fun c => !isSpace c) = true :=
              List.any_eq_true.mpr ⟨c, here, by rw [visible]; rfl⟩
            rw [List.find?_cons, shown] at next
            exact next
        rw [searchFrom_line start plain.1 skipped, List.findSome?_cons, nothing]
        exact ih plain.2 entitles.2 _ (atLine_newline _)
      | some text =>
        rw [next] at counts
        obtain ⟨m, head, group⟩ := Option.map_eq_some_iff.mp counts
        have result : searchFrom (.seq lineStart (indented title tail)) seen
            (line.1 ++ '\n' :: unlines (lines.map (·.1))) = some m := by
          apply searchFrom_of_head
          rwa [results_eq_runs, runs_seq, runs_lineStart start, ← results_eq_runs]
        rw [result]
        exact group.trans (findSome?_of_next (List.forall_mem_cons.mpr entitles) next).symm
  exact from_ [] atLine_nil

end titles

/-! ### Rules -/

/-- A rule: a line of dashes. -/
def rule (dashes : Nat) : Text := List.replicate dashes '-'

/-- `-{3,}\s*$` -/
def ruleEnd : Regex :=
  let dash : Regex := .chr (· == '-')
  seqs [dash, dash, plus dash, .star true space, lineEnd]

/-- `^-{3,}\s*$` -/
def ruleLine : Regex := .seq lineStart ruleEnd

theorem newline_not_mem_rule (dashes : Nat) : '\n' ∉ rule dashes := by
  intro here
  exact absurd (List.eq_of_mem_replicate here) (by decide)

/-- A rule before a line that is not blank is read up to its end. -/
theorem head?_results_rule {dashes : Nat} (long : 3 ≤ dashes) (line : '\n' ∉ w) (visible : ∃ c ∈ w, isSpace c = false)
    (seen rest : Text) : (results ruleEnd ⟨seen, rule dashes ++ '\n' :: (w ++ rest), []⟩).head? =
      some ⟨(rule dashes).reverse ++ seen, '\n' :: (w ++ rest), []⟩ := by
  obtain ⟨n, rfl⟩ := Nat.exists_eq_add_of_le' long
  have split : rule (n + 3) = '-' :: '-' :: rule (n + 1) := rfl
  rw [split, ruleEnd, results_eq_runs, seqs, runs_seq, List.cons_append, runs_chr_cons (p := (· == '-')) rfl,
    seqs, runs_seq, List.cons_append, runs_chr_cons (p := (· == '-')) rfl, seqs, runs_seq]
  have all : ∀ c ∈ rule (n + 1), (c == '-') = true := by
    intro c here
    rw [List.eq_of_mem_replicate here]
    rfl
  apply head?_runs_plus all (List.cons_ne_nil _ _)
  · intro c here
    rw [← Option.some.inj here]
    rfl
  · have ends := @runs_blankToEnd_newline (fun m => [m]) ((rule (n + 1)).reverse ++ '-' :: '-' :: seen) _ [] line visible rest
    rw [blankToEnd, runs_seq] at ends
    rw [seqs, seqs, seqs, runs_seq, runs_seq, runs_empty, ends]
    simp

/-- A line that is no rule: its dashes are fewer than three, or something visible follows them. -/
structure NoRule (line : Text) : Prop where
  plain : '\n' ∉ line
  other : ∀ dashes blanks, 3 ≤ dashes → line = rule dashes ++ blanks → ∃ c ∈ blanks, isSpace c = false

theorem noRule_of_head {line : Text} (plain : '\n' ∉ line) (other : line.head? ≠ some '-') : NoRule line where
  plain := plain
  other := by
    intro dashes blanks long split
    obtain ⟨n, rfl⟩ := Nat.exists_eq_add_of_le' long
    rw [split] at other
    exact absurd rfl other

theorem NoRule.results_eq_nil (h : NoRule w) (seen rest : Text) :
    results ruleEnd ⟨seen, w ++ '\n' :: rest, []⟩ = [] := by
  let dashes : Regex := .seq (.chr (· == '-')) (.seq (.chr (· == '-')) (plus (.chr (· == '-'))))
  have parted : results ruleEnd ⟨seen, w ++ '\n' :: rest, []⟩ =
      runs dashes (runs blankToEnd fun m => [m]) ⟨seen, w ++ '\n' :: rest, []⟩ := by
    simp only [results_eq_runs, ruleEnd, dashes, blankToEnd, seqs, runs_seq, runs_empty]
  rw [parted, runs, List.flatMap_eq_nil_iff]
  intro m here
  obtain ⟨u, reads, word⟩ := results_denotes _ _ m here
  obtain ⟨n, long, rfl⟩ : ∃ n, 3 ≤ n ∧ u = rule n := by
    obtain ⟨_, _, rfl, ⟨a, dash, rfl⟩, _, d, rfl, ⟨b, dash', rfl⟩, further⟩ := word
    obtain ⟨some, all⟩ := denotes_plus_chr.mp further
    obtain rfl := beq_iff_eq.mp dash
    obtain rfl := beq_iff_eq.mp dash'
    have rest_ : d = rule d.length := List.eq_replicate_of_mem fun c here => beq_iff_eq.mp (all c here)
    refine ⟨d.length + 2, ?_, ?_⟩
    · have long := List.length_pos_of_ne_nil some
      omega
    · show '-' :: '-' :: d = '-' :: '-' :: rule d.length
      rw [← rest_]
  have whole : w ++ '\n' :: rest = rule n ++ m.rest := reads.1
  obtain ⟨b, rfl, ahead⟩ : ∃ b, w = rule n ++ b ∧ m.rest = b ++ '\n' :: rest := by
    rcases List.append_eq_append_iff.mp whole with ⟨more, dashed, ahead⟩ | ⟨more, rfl, ahead⟩
    · cases more with
      | nil => exact ⟨[], by simpa using dashed.symm, by simpa using ahead.symm⟩
      | cons c more =>
        have newline : c = '\n' := (List.cons.inj ahead).1.symm
        exact absurd (dashed ▸ List.mem_append_right w (newline ▸ List.mem_cons_self)) (newline_not_mem_rule n)
    · exact ⟨more, rfl, ahead⟩
  obtain ⟨seen', rest', groups⟩ := m
  dsimp only at ahead
  rw [ahead]
  apply runs_blankToEnd_inside
  · exact fun here => h.plain (List.mem_append_right _ here)
  · exact h.other n b long rfl

/-- A record: the rule above it, and its lines, of which the first is not blank. -/
structure Record where
  dashes : Nat
  lines : List Text
  long : 3 ≤ dashes
  opens : ∃ line ∈ lines.head?, ∃ c ∈ line, isSpace c = false
  rules : ∀ line ∈ lines, NoRule line

namespace Record

def text (record : Record) : Text := unlines (rule record.dashes :: record.lines)

/-- The piece of a record, when its text is cut at the rules: its lines, after what is left of the rule. -/
def piece (record : Record) : Text := unlines ([] :: record.lines)

theorem text_eq (record : Record) : record.text = rule record.dashes ++ record.piece := by
  simp [text, piece, unlines]

end Record

/-- No rule is found within lines. -/
theorem scan_unlines {lines : List Text} (start : AtLine seen) (rules : ∀ line ∈ lines, NoRule line) (rest : Text) :
    scan ruleLine seen (unlines lines ++ rest) = scan ruleLine ((unlines lines).reverse ++ seen) rest := by
  induction lines generalizing seen with
  | nil => rfl
  | cons line lines ih =>
    rw [List.forall_mem_cons] at rules
    have text_ : unlines (line :: lines) = line ++ '\n' :: unlines lines := by simp [unlines]
    rw [text_, List.append_assoc, List.cons_append, ruleLine, scan_line start rules.1.plain (rules.1.results_eq_nil _ _)]
    rw [← ruleLine, ih (atLine_newline _) rules.2]
    simp

/-- The rule of a record is found, and what is left of it belongs to the lines. -/
theorem scan_record (record : Record) (start : AtLine seen) (rest : Text) :
    scan ruleLine seen (record.text ++ rest) =
      (⟨seen, record.text ++ rest, []⟩,
        ⟨(rule record.dashes).reverse ++ seen, record.piece ++ rest, []⟩) ::
      scan ruleLine (record.text.reverse ++ seen) rest := by
  obtain ⟨line, first, visible⟩ := record.opens
  obtain ⟨lines, split⟩ := List.head?_eq_some_iff.mp first
  have text_ : record.text ++ rest = rule record.dashes ++ '\n' :: (line ++ ('\n' :: (unlines lines ++ rest))) := by
    simp [Record.text, split, unlines]
  have piece_ : record.piece ++ rest = '\n' :: (line ++ ('\n' :: (unlines lines ++ rest))) := by
    simp [Record.piece, split, unlines]
  have plain : '\n' ∉ line := (record.rules line (List.mem_of_head? first)).plain
  have head := head?_results_rule record.long plain visible seen ('\n' :: (unlines lines ++ rest))
  have found : (results ruleLine ⟨seen, record.text ++ rest, []⟩).head? =
      some ⟨(rule record.dashes).reverse ++ seen, record.piece ++ rest, []⟩ := by
    rw [ruleLine, results_eq_runs, runs_seq, runs_lineStart start, ← results_eq_runs, text_, piece_]
    exact head
  have later : scan ruleLine ((rule record.dashes).reverse ++ seen) (record.piece ++ rest) =
      scan ruleLine (record.text.reverse ++ seen) rest := by
    obtain ⟨n, more⟩ := Nat.exists_eq_add_one_of_ne_zero (Nat.ne_zero_of_lt record.long)
    have last : (rule record.dashes).reverse ++ seen = '-' :: (rule n ++ seen) := by
      rw [rule, List.reverse_replicate, more]
      rfl
    have piece_ : record.piece ++ rest = [] ++ '\n' :: (unlines record.lines ++ rest) := by
      simp [Record.piece, unlines]
    rw [record.text_eq, List.reverse_append, List.append_assoc, last, piece_, ruleLine,
      scan_inside (by decide) List.not_mem_nil, ← ruleLine, scan_unlines (atLine_newline _) record.rules]
    simp [Record.piece, unlines]
  rw [scan_of_head found, later]
  have long := record.long
  have length : (rule record.dashes).length = record.dashes := List.length_replicate
  simp only [record.text_eq, List.length_append]
  omega

/-- **A text of records is cut at their rules.** -/
theorem split_records {before : List Text} {records : List Record} (rules : ∀ line ∈ before, NoRule line) :
    split ruleLine (unlines before ++ records.flatMap Record.text) = unlines before :: records.map Record.piece := by
  have from_ : ∀ (w seen : Text), AtLine (w.reverse ++ seen) →
      pieces ⟨seen, w ++ records.flatMap Record.text, []⟩ (scan ruleLine (w.reverse ++ seen) (records.flatMap Record.text)) =
        w :: records.map Record.piece := by
    induction records with
    | nil =>
      intro w seen _
      rw [List.flatMap_nil, scan_nil, pieces, List.append_nil]
      rfl
    | cons record records ih =>
      intro w seen start
      rw [List.flatMap_cons, scan_record record start, pieces, captured_append, List.map_cons]
      congr 1
      have further := ih record.piece ((rule record.dashes).reverse ++ (w.reverse ++ seen)) ?_
      · rw [← further, record.text_eq, List.reverse_append, List.append_assoc]
      · rw [← List.append_assoc, ← List.reverse_append, ← record.text_eq]
        exact atLine_unlines start
  have whole := from_ (unlines before) []
  rw [split, ← scan, scan_unlines atLine_nil rules]
  exact whole (atLine_unlines atLine_nil)

/-! ### Bounded repetitions -/

/-- As many as there are, up to a bound. -/
theorem head?_runs_upTo {p : Char → Bool} {times : List Nat} (fits : w.length ≤ times.length)
    (all : ∀ c ∈ w, p c = true) (stop : ∀ c ∈ rest.head?, p c = false) {m' : Cursor}
    (found : (k ⟨w.reverse ++ seen, rest, groups⟩).head? = some m') :
    (runs (times.foldr (fun _ r => opt (.seq (.chr p) r)) .empty) k ⟨seen, w ++ rest, groups⟩).head? = some m' := by
  induction times generalizing w seen with
  | nil =>
    obtain rfl := List.eq_nil_of_length_eq_zero (Nat.le_zero.mp fits)
    rw [List.foldr_nil, runs_empty]
    exact found
  | cons time times ih =>
    rw [List.foldr_cons, runs_opt, runs_seq]
    cases w with
    | nil =>
      rw [List.nil_append, runs_chr_refused stop, List.nil_append]
      exact found
    | cons c w =>
      rw [List.forall_mem_cons] at all
      rw [List.reverse_cons, List.append_assoc, List.singleton_append] at found
      have further := @ih (c :: seen) w (Nat.le_of_succ_le_succ fits) all.2 found
      rw [List.cons_append, runs_chr_cons all.1, List.head?_append, further]
      rfl

theorem head?_runs_between_one {p : Char → Bool} {more : Nat} (some_ : w ≠ []) (fits : w.length ≤ more + 1)
    (all : ∀ c ∈ w, p c = true) (stop : ∀ c ∈ rest.head?, p c = false) {m' : Cursor}
    (found : (k ⟨w.reverse ++ seen, rest, groups⟩).head? = some m') :
    (runs (between 1 more (.chr p)) k ⟨seen, w ++ rest, groups⟩).head? = some m' := by
  obtain ⟨c, w, rfl⟩ := List.exists_cons_of_ne_nil some_
  rw [List.forall_mem_cons] at all
  rw [List.reverse_cons, List.append_assoc, List.singleton_append] at found
  have times : w.length ≤ (List.range more).length := by
    rw [List.length_range]
    exact Nat.le_of_succ_le_succ fits
  rw [between, List.replicate_one, List.singleton_append, seqs, runs_seq, List.cons_append, runs_chr_cons all.1, seqs,
    runs_seq, seqs, runs_empty]
  exact head?_runs_upTo times all.2 stop found

end Regex
