import SwitchOps.Lib.Regex

/-!
# Following a match

`runs r k m` continues every result of `r` by `k`. An expression is followed through a text from
left to right, whatever comes after it: a greedy repetition of characters takes the whole run, when
what comes after it `Refuses` a character of the run; a literal is read or not; a lazy repetition
stops where what comes after it goes on.
-/

namespace Regex

/-- The results of `r`, each continued by `k`, in the order of the search. -/
def runs (r : Regex) (k : Cursor → List Cursor) (m : Cursor) : List Cursor := (results r m).flatMap k

variable {r s : Regex} {k : Cursor → List Cursor} {m : Cursor} {seen rest w : Text}
  {groups : List (Nat × Text)} {p : Char → Bool}

theorem results_eq_runs (r : Regex) (m : Cursor) : results r m = runs r (fun m' => [m']) m := by
  simp [runs]

@[simp] theorem runs_empty : runs .empty k = k := by
  funext m
  simp [runs, results]

@[simp] theorem runs_seq : runs (.seq r s) k = runs r (runs s k) := by
  funext m
  rw [runs, results_seq, List.flatMap_assoc]
  rfl

@[simp] theorem runs_alt : runs (.alt r s) k m = runs r k m ++ runs s k m := by
  simp [runs, results]

@[simp] theorem runs_opt : runs (opt r) k m = runs r k m ++ k m := by
  rw [opt, runs_alt, runs_empty]

@[simp] theorem runs_group (n : Nat) : runs (.group n r) k m =
    runs r (fun m' => k { m' with groups := (n, m.captured m') :: m'.groups }) m := by
  simp [runs, results, List.flatMap_map]

theorem runs_here (test : Text → Text → Bool) :
    runs (.here test) k m = if test m.seen m.rest then k m else [] := by
  rw [runs, results]
  split <;> simp

theorem runs_chr_cons {c : Char} (h : p c = true) :
    runs (.chr p) k ⟨seen, c :: rest, groups⟩ = k ⟨c :: seen, rest, groups⟩ := by
  simp [runs, results, h]

theorem runs_chr_refused (h : ∀ c ∈ rest.head?, p c = false) : runs (.chr p) k ⟨seen, rest, groups⟩ = [] := by
  cases rest with
  | nil => simp [runs, results]
  | cons c rest => simp [runs, results, h c rfl]

theorem runs_nil_of_refuted (h : ∀ m, k m = []) : runs r k m = [] := by
  simp [runs, h]

@[simp] theorem captured_append (seen w : Text) (rest rest' : Text) (groups groups' : List (Nat × Text)) :
    Cursor.captured ⟨seen, rest, groups⟩ ⟨w.reverse ++ seen, rest', groups'⟩ = w := by
  simp [Cursor.captured]

/-! ### Runs of characters -/

/-- `k` does not go on before a character of `p`. -/
def Refuses (k : Cursor → List Cursor) (p : Char → Bool) : Prop :=
  ∀ seen c rest groups, p c = true → k ⟨seen, c :: rest, groups⟩ = []

theorem iterate_chr_cons {c : Char} (h : p c = true) (greedy : Bool) (fuel : Nat) :
    iterate (results (.chr p)) greedy (fuel + 1) ⟨seen, c :: rest, groups⟩ =
      if greedy then iterate (results (.chr p)) greedy fuel ⟨c :: seen, rest, groups⟩ ++ [⟨seen, c :: rest, groups⟩]
      else ⟨seen, c :: rest, groups⟩ :: iterate (results (.chr p)) greedy fuel ⟨c :: seen, rest, groups⟩ := by
  have step : results (.chr p) ⟨seen, c :: rest, groups⟩ = [⟨c :: seen, rest, groups⟩] := by
    simp [results, h]
  rw [iterate, step]
  simp

theorem iterate_chr_stopped (h : ∀ c ∈ rest.head?, p c = false) (greedy : Bool) (fuel : Nat) :
    iterate (results (.chr p)) greedy fuel ⟨seen, rest, groups⟩ = [⟨seen, rest, groups⟩] := by
  have step : results (.chr p) ⟨seen, rest, groups⟩ = [] := by
    cases rest with
    | nil => rfl
    | cons c rest => simp [results, h c rfl]
  cases fuel with
  | zero => rfl
  | succ fuel => cases greedy <;> simp [iterate, step]

/-- The whole run is taken, when what follows refuses its characters. -/
theorem runs_star (refuses : Refuses k p) (all : ∀ c ∈ w, p c = true) (stop : ∀ c ∈ rest.head?, p c = false) :
    runs (.star true (.chr p)) k ⟨seen, w ++ rest, groups⟩ = k ⟨w.reverse ++ seen, rest, groups⟩ := by
  rw [runs, results]
  have whole : ∀ (w seen : Text), (∀ c ∈ w, p c = true) →
      (iterate (results (.chr p)) true (w ++ rest).length ⟨seen, w ++ rest, groups⟩).flatMap k =
        k ⟨w.reverse ++ seen, rest, groups⟩ := by
    intro w
    induction w with
    | nil =>
      intro seen _
      rw [List.nil_append, iterate_chr_stopped stop]
      simp
    | cons c w ih =>
      intro seen all
      have first := all c List.mem_cons_self
      rw [List.cons_append, List.length_cons, iterate_chr_cons first, if_pos rfl, List.flatMap_append,
        ih (c :: seen) fun d hd => all d (List.mem_cons_of_mem _ hd)]
      simp [refuses _ _ _ _ first]
  exact whole w seen all

/-- A greedy run is taken as a whole, when that leads to a match. -/
theorem head?_runs_star (all : ∀ c ∈ w, p c = true) (stop : ∀ c ∈ rest.head?, p c = false) {m' : Cursor}
    (found : (k ⟨w.reverse ++ seen, rest, groups⟩).head? = some m') :
    (runs (.star true (.chr p)) k ⟨seen, w ++ rest, groups⟩).head? = some m' := by
  rw [runs, results]
  have whole : ∀ (w seen : Text), (∀ c ∈ w, p c = true) →
      (k ⟨w.reverse ++ seen, rest, groups⟩).head? = some m' →
      ((iterate (results (.chr p)) true (w ++ rest).length ⟨seen, w ++ rest, groups⟩).flatMap k).head? =
        some m' := by
    intro w
    induction w with
    | nil =>
      intro seen _ found
      rw [List.nil_append, iterate_chr_stopped stop]
      simpa using found
    | cons c w ih =>
      intro seen all found
      have first := all c List.mem_cons_self
      have further := ih (c :: seen) (fun d hd => all d (List.mem_cons_of_mem _ hd)) (by simpa using found)
      rw [List.cons_append, List.length_cons, iterate_chr_cons first, if_pos rfl, List.flatMap_append,
        List.head?_append, further]
      rfl
  exact whole w seen all found

/-- A repetition always matches, if with nothing. -/
theorem results_star_ne_nil (greedy : Bool) (m : Cursor) : results (.star greedy r) m ≠ [] := by
  rw [results]
  cases m.rest.length with
  | zero => exact List.cons_ne_nil m []
  | succ fuel =>
    rw [iterate]
    cases greedy with
    | true => exact List.append_ne_nil_of_right_ne_nil _ (List.cons_ne_nil m [])
    | false => exact List.cons_ne_nil m _

theorem runs_plus_refused (h : ∀ c ∈ rest.head?, p c = false) :
    runs (plus (.chr p)) k ⟨seen, rest, groups⟩ = [] := by
  rw [plus, runs_seq, runs_chr_refused h]

/-- What starts with a run of characters refuses all others. -/
theorem refuses_plus {q : Char → Bool} (apart : ∀ c, q c = true → p c = false) :
    Refuses (runs (plus (.chr p)) k) q :=
  fun _ c _ _ here => runs_plus_refused fun d hd => by
    obtain rfl : c = d := by simpa using hd
    exact apart c here

theorem runs_plus (refuses : Refuses k p) (all : ∀ c ∈ w, p c = true) (ne : w ≠ [])
    (stop : ∀ c ∈ rest.head?, p c = false) :
    runs (plus (.chr p)) k ⟨seen, w ++ rest, groups⟩ = k ⟨w.reverse ++ seen, rest, groups⟩ := by
  cases w with
  | nil => exact absurd rfl ne
  | cons c w =>
    rw [plus, runs_seq, List.cons_append, runs_chr_cons (all c List.mem_cons_self),
      runs_star refuses (fun d hd => all d (List.mem_cons_of_mem _ hd)) stop]
    simp

/-- Nothing is repeated before a character that is none of `p`. -/
theorem runs_star_none (h : ∀ c ∈ rest.head?, p c = false) :
    runs (.star true (.chr p)) k ⟨seen, rest, groups⟩ = k ⟨seen, rest, groups⟩ := by
  rw [runs, results, iterate_chr_stopped h, List.flatMap_singleton]

/-- A group takes the whole run. -/
theorem runs_group_plus (n : Nat) (refuses : Refuses k p) (all : ∀ c ∈ w, p c = true) (ne : w ≠ [])
    (stop : ∀ c ∈ rest.head?, p c = false) :
    runs (.group n (plus (.chr p))) k ⟨seen, w ++ rest, groups⟩ = k ⟨w.reverse ++ seen, rest, (n, w) :: groups⟩ := by
  have further : Refuses (fun m' => k { m' with
      groups := (n, Cursor.captured ⟨seen, w ++ rest, groups⟩ m') :: m'.groups }) p :=
    fun _ _ _ _ here => refuses _ _ _ _ here
  rw [runs_group, runs_plus further all ne stop, captured_append]

theorem refuses_group_plus (n : Nat) {q : Char → Bool} (apart : ∀ c, q c = true → p c = false) :
    Refuses (runs (.group n (plus (.chr p))) k) q := by
  intro seen c rest groups here
  rw [runs_group]
  exact refuses_plus apart seen c rest groups here

theorem head?_runs_plus (all : ∀ c ∈ w, p c = true) (ne : w ≠ []) (stop : ∀ c ∈ rest.head?, p c = false)
    {m' : Cursor} (found : (k ⟨w.reverse ++ seen, rest, groups⟩).head? = some m') :
    (runs (plus (.chr p)) k ⟨seen, w ++ rest, groups⟩).head? = some m' := by
  cases w with
  | nil => exact absurd rfl ne
  | cons c w =>
    rw [plus, runs_seq, List.cons_append, runs_chr_cons (all c List.mem_cons_self)]
    exact head?_runs_star (fun d hd => all d (List.mem_cons_of_mem _ hd)) stop (by simpa using found)

/-- A group takes a run as a whole, when that leads to a match. -/
theorem head?_runs_group_plus (n : Nat) (all : ∀ c ∈ w, p c = true) (ne : w ≠ [])
    (stop : ∀ c ∈ rest.head?, p c = false) {m' : Cursor}
    (found : (k ⟨w.reverse ++ seen, rest, (n, w) :: groups⟩).head? = some m') :
    (runs (.group n (plus (.chr p))) k ⟨seen, w ++ rest, groups⟩).head? = some m' := by
  rw [runs_group]
  apply head?_runs_plus all ne stop
  rwa [captured_append]

/-- A first match that reaches the end is the one that is reported. -/
theorem fullmatch_of_head {t : Text} {m' : Cursor} (h : (results r ⟨[], t, []⟩).head? = some m') (ended : m'.rest = []) :
    fullmatch r t = some m' := by
  obtain ⟨more, whole⟩ := List.head?_eq_some_iff.mp h
  rw [fullmatch, whole, List.find?_cons, ended]
  rfl

/-! ### Lazy repetitions -/

theorem runs_lazy_cons {c : Char} (h : p c = true) :
    runs (.star false (.chr p)) k ⟨seen, c :: rest, groups⟩ =
      k ⟨seen, c :: rest, groups⟩ ++ runs (.star false (.chr p)) k ⟨c :: seen, rest, groups⟩ := by
  rw [runs, results, List.length_cons, iterate_chr_cons h, if_neg Bool.false_ne_true, List.flatMap_cons]
  rfl

/-- A lazy repetition goes on as long as what follows does not. -/
theorem head?_runs_lazy (all : ∀ c ∈ w, p c = true)
    (passed : ∀ u v, w = u ++ v → v ≠ [] → k ⟨u.reverse ++ seen, v ++ rest, groups⟩ = []) {m' : Cursor}
    (found : (k ⟨w.reverse ++ seen, rest, groups⟩).head? = some m') :
    (runs (.star false (.chr p)) k ⟨seen, w ++ rest, groups⟩).head? = some m' := by
  induction w generalizing seen with
  | nil =>
    have first : (k ⟨seen, rest, groups⟩).head? = some m' := found
    rw [List.nil_append, runs, results]
    cases rest with
    | nil => simpa [iterate] using first
    | cons c rest => simp [iterate, first]
  | cons c w ih =>
    rw [List.cons_append, runs_lazy_cons (all c List.mem_cons_self),
      show k ⟨seen, c :: (w ++ rest), groups⟩ = [] from passed [] (c :: w) rfl (by simp), List.nil_append]
    refine ih (fun d hd => all d (List.mem_cons_of_mem _ hd)) (fun u v split ne => ?_) (by simpa using found)
    simpa using passed (c :: u) v (by rw [split, List.cons_append]) ne

/-! ### Literals -/

/-- The characters of keywords: small letters and hyphens. -/
def isKeywordChar (a : Char) : Bool := ('a' ≤ a && a ≤ 'z') || a == '-'

/-- Under `re.IGNORECASE` the text spells the keyword. -/
def spells : Text → Text → Bool
  | [], [] => true
  | a :: keyword, c :: word => sameIgnoringCase a c && spells keyword word
  | _, _ => false

/-- A literal reads what spells it, whatever follows. -/
theorem results_litIgnoringCase_of_spells {keyword word : Text} (h : spells keyword word = true) (seen rest : Text)
    (groups : List (Nat × Text)) :
    results (litIgnoringCase keyword) ⟨seen, word ++ rest, groups⟩ = [⟨word.reverse ++ seen, rest, groups⟩] := by
  induction keyword generalizing word seen with
  | nil =>
    cases word with
    | nil => rfl
    | cons c word => exact absurd h Bool.false_ne_true
  | cons a keyword ih =>
    cases word with
    | nil => exact absurd h Bool.false_ne_true
    | cons c word =>
      rw [spells, Bool.and_eq_true] at h
      rw [litIgnoringCase, results_seq, List.cons_append, results_chr_cons h.1]
      simp [ih h.2 (c :: seen)]

/-- A spelling of the keyword and the text part at some character of both. -/
def parts : Text → Text → Bool
  | a :: keyword, c :: word => !sameIgnoringCase a c || parts keyword word
  | _, _ => false

/-- What is as long as the keyword spells it or parts from it. -/
theorem parts_eq_not_spells {keyword word : Text} (h : word.length = keyword.length) :
    parts keyword word = !spells keyword word := by
  induction keyword generalizing word with
  | nil =>
    rw [List.eq_nil_of_length_eq_zero h]
    rfl
  | cons a keyword ih =>
    cases word with
    | nil => cases h
    | cons c word => rw [parts, spells, ih (Nat.succ.inj h), Bool.not_and]

theorem runs_lit_of_parts {keyword word : Text} (h : parts keyword word = true) (seen rest : Text) :
    runs (litIgnoringCase keyword) k ⟨seen, word ++ rest, groups⟩ = [] := by
  induction keyword generalizing word seen with
  | nil => cases h
  | cons a keyword ih =>
    cases word with
    | nil => cases h
    | cons c word =>
      rw [litIgnoringCase, runs_seq, List.cons_append]
      cases same : sameIgnoringCase a c with
      | false =>
        apply runs_chr_refused
        intro d hd
        obtain rfl : c = d := Option.some.inj hd
        exact same
      | true =>
        rw [parts, same, Bool.not_true, Bool.false_or] at h
        rw [runs_chr_cons same]
        exact ih h (c :: seen)

theorem runs_lit_of_spells {keyword word : Text} (h : spells keyword word = true) (seen rest : Text) :
    runs (litIgnoringCase keyword) k ⟨seen, word ++ rest, groups⟩ = k ⟨word.reverse ++ seen, rest, groups⟩ := by
  rw [runs, results_litIgnoringCase_of_spells h, List.flatMap_singleton]

theorem lowerChar_keywordChar {a : Char} (h : isKeywordChar a = true) :
    Text.lowerChar a = [a] ∧ a.toNat < 128 ∧ Text.isSpace a = false := by
  have range : (97 ≤ a.toNat ∧ a.toNat ≤ 122) ∨ a = '-' := by
    rw [isKeywordChar, Bool.or_eq_true, Bool.and_eq_true, beq_iff_eq, decide_eq_true_eq, decide_eq_true_eq] at h
    exact h
  rcases range with ⟨low, high⟩ | rfl
  · refine ⟨?_, by omega, ?_⟩
    · rw [Text.lowerChar, if_pos (by omega), if_neg (by simp; omega)]
    · rw [Text.isSpace, if_pos (by omega), ← Bool.not_eq_true]
      simp only [Bool.or_eq_true, Bool.and_eq_true, beq_iff_eq, decide_eq_true_eq]
      rintro ((rfl | blank) | blank)
      · exact absurd low (by decide)
      · omega
      · omega
  · decide

/-- The keyword character that a character spells. -/
def keyOf (c : Char) : Char :=
  if c.toNat = 304 ∨ c.toNat = 305 then 'i'
  else if c.toNat = 383 then 's'
  else if c.toNat = 8490 then 'k'
  else (Text.lowerChar c).headD c

theorem keyOf_eq {a c : Char} (ha : isKeywordChar a = true) (h : sameIgnoringCase a c = true) :
    keyOf c = a ∧ Text.isSpace c = false := by
  obtain ⟨lower, small, visible⟩ := lowerChar_keywordChar ha
  have char : ∀ n, c.toNat = n → c = Char.ofNat n := fun n same => by rw [← same, Char.ofNat_toNat]
  simp only [sameIgnoringCase, Bool.or_eq_true, Bool.and_eq_true, beq_iff_eq] at h
  rcases h with ((same | ⟨i, here⟩) | ⟨s, here⟩) | ⟨k, here⟩
  · rw [lower] at same
    have ascii : ∀ b ∈ Text.lowerChar c, b.toNat < 128 := by simpa [← same] using small
    refine ⟨?_, ?_⟩
    · rcases Text.toNat_of_lowerChar_ascii ascii with plain | kelvin
      · rw [keyOf, if_neg (by omega), if_neg (by omega), if_neg (by omega), ← same]
        rfl
      · obtain rfl := char _ kelvin
        rw [show Text.lowerChar (Char.ofNat 8490) = ['k'] by decide] at same
        obtain rfl := List.singleton_inj.mp same
        decide
    · rw [← Bool.not_eq_true]
      intro blank
      rw [Text.lowerChar_of_isSpace ascii blank] at same
      obtain rfl := List.singleton_inj.mp same
      rw [visible] at blank
      cases blank
  · have lowerI : a = 'i' := i.resolve_right (by rintro rfl; exact absurd ha (by decide))
    rcases here with here | here
    all_goals
      rw [char _ here, lowerI]
      decide
  · have lowerS : a = 's' := s.resolve_right (by rintro rfl; exact absurd ha (by decide))
    rw [char _ here, lowerS]
    decide
  · have lowerK : a = 'k' := k.resolve_right (by rintro rfl; exact absurd ha (by decide))
    rw [char _ here, lowerK]
    decide

/-- A word spells one keyword at most. -/
theorem eq_of_spells {keyword keyword' word : Text} (plain : keyword.all isKeywordChar)
    (plain' : keyword'.all isKeywordChar) (h : spells keyword word = true) (h' : spells keyword' word = true) :
    keyword = keyword' := by
  induction keyword generalizing keyword' word with
  | nil =>
    cases word with
    | nil => cases keyword' with
      | nil => rfl
      | cons a keyword' => cases h'
    | cons c word => cases h
  | cons a keyword ih =>
    cases word with
    | nil => cases h
    | cons c word =>
      cases keyword' with
      | nil => cases h'
      | cons a' keyword' =>
        rw [List.all_cons, Bool.and_eq_true] at plain plain'
        rw [spells, Bool.and_eq_true] at h h'
        rw [← (keyOf_eq plain.1 h.1).1, ← (keyOf_eq plain'.1 h'.1).1, ih plain.2 plain'.2 h.2 h'.2]

/-- A keyword is read where a word spells it, if what follows needs the word to end. -/
theorem runs_keyword {keyword : Text} (plain : keyword.all isKeywordChar)
    (refuses : Refuses k fun c => !Text.isSpace c) (word : ∀ c ∈ w, Text.isSpace c = false)
    (stop : ∀ c ∈ rest.head?, Text.isSpace c = true) :
    runs (litIgnoringCase keyword) k ⟨seen, w ++ rest, groups⟩ =
      if spells keyword w then k ⟨w.reverse ++ seen, rest, groups⟩ else [] := by
  induction keyword generalizing w seen with
  | nil =>
    rw [litIgnoringCase, runs_empty]
    cases w with
    | nil => rfl
    | cons c w =>
      have visible : (!Text.isSpace c) = true := by simp [word c List.mem_cons_self]
      exact refuses _ _ _ _ visible
  | cons a keyword ih =>
    rw [List.all_cons, Bool.and_eq_true] at plain
    rw [litIgnoringCase, runs_seq]
    cases w with
    | nil =>
      -- a blank is of no keyword
      refine (runs_chr_refused fun c hc => ?_).trans (if_neg (by simp [spells])).symm
      rw [← Bool.not_eq_true]
      intro same
      have blank := stop c hc
      rw [(keyOf_eq plain.1 same).2] at blank
      cases blank
    | cons c w =>
      by_cases same : sameIgnoringCase a c = true
      · rw [List.cons_append, runs_chr_cons same, ih plain.2 fun d hd => word d (List.mem_cons_of_mem _ hd)]
        simp [spells, same]
      · rw [Bool.not_eq_true] at same
        refine (runs_chr_refused fun d hd => ?_).trans (if_neg (by simp [spells, same])).symm
        obtain rfl : c = d := by simpa using hd
        exact same

theorem runs_alts_nil : runs (alts []) k m = [] := by
  obtain ⟨seen, rest, groups⟩ := m
  exact runs_chr_refused fun _ _ => rfl

theorem runs_alts_cons (rs : List Regex) : runs (alts (r :: rs)) k m = runs r k m ++ runs (alts rs) k m := by
  cases rs with
  | nil => rw [runs_alts_nil, List.append_nil, alts]
  | cons s rs => exact runs_alt

/-- One of several keywords is read. -/
theorem runs_keywords {keywords : List Text} (plain : ∀ keyword ∈ keywords, keyword.all isKeywordChar)
    (refuses : Refuses k fun c => !Text.isSpace c) (word : ∀ c ∈ w, Text.isSpace c = false)
    (stop : ∀ c ∈ rest.head?, Text.isSpace c = true) :
    runs (alts (keywords.map litIgnoringCase)) k ⟨seen, w ++ rest, groups⟩ =
      (keywords.filter (spells · w)).flatMap fun _ => k ⟨w.reverse ++ seen, rest, groups⟩ := by
  induction keywords with
  | nil => exact runs_alts_nil
  | cons keyword keywords ih =>
    rw [List.map_cons, runs_alts_cons, runs_keyword (plain keyword List.mem_cons_self) refuses word stop,
      ih fun other h => plain other (List.mem_cons_of_mem _ h), List.filter_cons]
    split <;> simp

/-- No keyword is read where all part from the text. -/
theorem runs_alts_of_parts {keywords : List Text} (h : ∀ keyword ∈ keywords, parts keyword w = true) :
    runs (alts (keywords.map litIgnoringCase)) k ⟨seen, w ++ rest, groups⟩ = [] := by
  induction keywords with
  | nil => exact runs_alts_nil
  | cons keyword keywords ih =>
    rw [List.map_cons, runs_alts_cons, runs_lit_of_parts (h keyword List.mem_cons_self),
      ih fun other here => h other (List.mem_cons_of_mem _ here), List.nil_append]

/-- The first keyword that is spelled is read, if that leads to a match. -/
theorem head?_runs_alts_of_spells {before after : List Text} {keyword : Text} {m' : Cursor}
    (parted : ∀ other ∈ before, parts other w = true) (spelled : spells keyword w = true)
    (found : (k ⟨w.reverse ++ seen, rest, groups⟩).head? = some m') :
    (runs (alts ((before ++ keyword :: after).map litIgnoringCase)) k ⟨seen, w ++ rest, groups⟩).head? = some m' := by
  induction before with
  | nil =>
    rw [List.nil_append, List.map_cons, runs_alts_cons, runs_lit_of_spells spelled, List.head?_append, found]
    rfl
  | cons other before ih =>
    rw [List.cons_append, List.map_cons, runs_alts_cons, runs_lit_of_parts (parted other List.mem_cons_self),
      List.nil_append]
    exact ih fun next here => parted next (List.mem_cons_of_mem _ here)

end Regex
