import SwitchOps.Lib.Text

/-!
# Tables of text

Lines of words and of cells in columns, and what is read of them when the text is split into lines again and a line
into its words.
-/

namespace Text

/-! ## Words -/

/-- A token: it is not empty and has no blank. -/
structure IsToken (w : Text) : Prop where
  ne_nil : w ≠ []
  solid : ∀ c ∈ w, isSpace c = false

theorem isSpace_of_isAlpha {c : Char} (h : c.isAlpha = true) : isSpace c = false := by
  have range := toNat_of_isAlpha h
  have blank : c ≠ ' ' := by
    rintro rfl
    exact absurd h (by decide)
  rw [isSpace, if_pos (by omega)]
  simp only [beq_eq_false_iff_ne.mpr blank, Bool.false_or, Bool.or_eq_false_iff, Bool.and_eq_false_iff,
    decide_eq_false_iff_not]
  omega

theorem not_isDecimal_of_isAlpha {c : Char} (h : c.isAlpha = true) : isDecimal c = false := by
  have range := toNat_of_isAlpha h
  have other : ¬(48 ≤ c.toNat ∧ c.toNat ≤ 57) := by omega
  rw [isDecimal, decimalValue, if_pos (by omega), if_neg]
  · rfl
  · rw [Bool.and_eq_true, decide_eq_true_eq, decide_eq_true_eq]
    exact other

theorem isSpace_of_isDecimal {c : Char} (h : isDecimal c = true) : isSpace c = false := by
  have apart : ∀ z ∈ Unicode.zeros, ∀ b ∈ Unicode.spaces, ¬ (z ≤ b ∧ b < z + 10) := by decide +kernel
  rw [← Bool.not_eq_true]
  intro blank
  rw [isDecimal, decimalValue] at h
  rw [isSpace] at blank
  split at h
  · next ascii =>
    rw [if_pos ascii] at blank
    split at h
    · next digit =>
      simp only [Bool.and_eq_true, decide_eq_true_eq, Bool.or_eq_true, beq_iff_eq] at digit blank
      rcases blank with (rfl | blank) | blank
      · exact absurd digit (by decide)
      · omega
      · omega
    · cases h
  · next wide =>
    rw [if_neg wide, List.contains_iff_mem] at blank
    rw [Option.isSome_map, List.find?_isSome] at h
    obtain ⟨z, known, within⟩ := h
    exact apart z known _ blank (by simpa using within)

theorem isSpace_not_isDecimal {c : Char} (blank : isSpace c = true) : isDecimal c = false := by
  rw [← Bool.not_eq_true]
  intro digit
  rw [isSpace_of_isDecimal digit] at blank
  cases blank

theorem isDecimal_of_isDigit {c : Char} (h : c.isDigit = true) : isDecimal c = true := by
  obtain ⟨low, high⟩ := toNat_of_isDigit h
  rw [isDecimal, decimalValue, if_pos (by omega), if_pos (by simp; omega)]
  rfl

theorem isSpace_of_isDigit {c : Char} (h : c.isDigit = true) : isSpace c = false :=
  isSpace_of_isDecimal (isDecimal_of_isDigit h)

theorem isdigit_ofNat (n : Nat) : isdigit (ofNat n) = true := by
  simp only [isdigit, Bool.and_eq_true, Bool.not_eq_true', List.isEmpty_eq_false_iff, List.all_eq_true]
  refine ⟨ofNat_ne_nil n, fun c here => ?_⟩
  rw [isDigitChar, isDecimal_of_isDigit (isDigit_of_mem_ofNat here), Bool.true_or]

theorem isToken_ofNat (n : Nat) : IsToken (ofNat n) where
  ne_nil := ofNat_ne_nil n
  solid _ here := isSpace_of_isDigit (isDigit_of_mem_ofNat here)

/-! ## Numbers -/

theorem literalDigits_eq_some {t : Text} (nonempty : t ≠ []) (plain : '_' ∉ t) : literalDigits t = some t := by
  fun_induction literalDigits t with
  | case1 => exact absurd rfl nonempty
  | case2 c underscore =>
    rw [beq_iff_eq] at underscore
    rw [underscore] at plain
    exact absurd List.mem_cons_self plain
  | case3 c _ => rfl
  | case4 c t underscore => exact absurd (by simp) plain
  | case5 c t _ => exact absurd (by simp) plain
  | case6 c t _ _ underscore =>
    rw [beq_iff_eq] at underscore
    rw [underscore] at plain
    exact absurd List.mem_cons_self plain
  | case7 c t single _ _ ih =>
    have rest : t ≠ [] := fun empty => single empty
    rw [ih rest fun here => plain (List.mem_cons_of_mem _ here)]
    rfl

/-- What `int` reads of a number that was written by `str`. -/
theorem parseInt_ofNat (n : Nat) :
    parseInt (ofNat n) = if (ofNat n).length ≤ digitLimit then some (n : Int) else none := by
  have digits : ∀ c ∈ ofNat n, c.isDigit = true := fun c => isDigit_of_mem_ofNat
  have plain : '_' ∉ ofNat n := fun here => absurd (digits _ here) (by decide)
  have read : (literalDigits (ofNat n)).bind toInt = if (ofNat n).length ≤ digitLimit then some n else none := by
    rw [literalDigits_eq_some (ofNat_ne_nil n) plain, Option.bind_some]
    by_cases short : (ofNat n).length ≤ digitLimit
    · rw [if_pos short, toInt_ofNat short]
    · rw [if_neg short, toInt, if_pos]
      rw [Bool.or_eq_true, decide_eq_true_eq]
      exact .inr (by omega)
  rw [parseInt, strip_eq_self (isToken_ofNat n).solid]
  split
  · next rest split => exact absurd (digits '-' (by rw [split]; exact List.mem_cons_self)) (by decide)
  · next rest split => exact absurd (digits '+' (by rw [split]; exact List.mem_cons_self)) (by decide)
  · rw [read]
    split <;> rfl

/-! ## Splitting -/

theorem splitFrom_blank {b : Char} (blank : isSpace b = true) (t word : Text) :
    splitFrom (b :: t) word = splitFrom [] word ++ splitFrom t [] := by
  cases word with
  | nil => rw [splitFrom.eq_3, if_pos blank]; rfl
  | cons c word => rw [splitFrom.eq_3, if_pos blank]; rfl

theorem splitFrom_solid {c : Char} (solid : isSpace c = false) (t word : Text) :
    splitFrom (c :: t) word = splitFrom t (c :: word) := by
  rw [splitFrom.eq_3, if_neg (by rw [solid]; exact Bool.false_ne_true)]

theorem splitFrom_append_blank {b : Char} (blank : isSpace b = true) (s t word : Text) :
    splitFrom (s ++ b :: t) word = splitFrom s word ++ splitFrom t [] := by
  induction s generalizing word with
  | nil => exact splitFrom_blank blank t word
  | cons c s ih =>
    rw [List.cons_append]
    cases space : isSpace c with
    | true => rw [splitFrom_blank space, splitFrom_blank space, ih, List.append_assoc]
    | false => rw [splitFrom_solid space, splitFrom_solid space, ih]

/-- At a blank the words part. -/
theorem split_append_blank {b : Char} (blank : isSpace b = true) (s t : Text) :
    split (s ++ b :: t) = split s ++ split t :=
  splitFrom_append_blank blank s t []

theorem split_blank_cons {b : Char} (blank : isSpace b = true) (t : Text) : split (b :: t) = split t :=
  split_append_blank blank [] t

theorem split_blanks_append {blanks : Text} (blank : ∀ c ∈ blanks, isSpace c = true) (t : Text) :
    split (blanks ++ t) = split t := by
  induction blanks with
  | nil => rfl
  | cons b blanks ih =>
    rw [List.cons_append, split_blank_cons (blank b List.mem_cons_self)]
    exact ih fun c here => blank c (List.mem_cons_of_mem _ here)

theorem split_word {w : Text} (h : IsToken w) : split w = [w] := by
  have reading : ∀ v word : Text, (∀ c ∈ v, isSpace c = false) → splitFrom v word = splitFrom [] (v.reverse ++ word) := by
    intro v
    induction v with
    | nil => exact fun word _ => rfl
    | cons c v ih =>
      intro word solid
      rw [splitFrom_solid (solid c List.mem_cons_self), ih _ fun d here => solid d (List.mem_cons_of_mem _ here), List.reverse_cons, List.append_assoc,
        List.singleton_append]
  rw [split, reading w [] h.solid, List.append_nil]
  cases reversed : w.reverse with
  | nil => exact absurd (List.reverse_eq_nil_iff.mp reversed) h.ne_nil
  | cons c v => rw [splitFrom, ← reversed, List.reverse_reverse]; exact List.cons_ne_nil c v

theorem split_append_blanks {blanks : Text} (blank : ∀ c ∈ blanks, isSpace c = true) (t : Text) :
    split (t ++ blanks) = split t := by
  cases blanks with
  | nil => rw [List.append_nil]
  | cons b blanks =>
    have none : split blanks = [] := by
      have rest := split_blanks_append (fun c here => blank c (List.mem_cons_of_mem _ here)) []
      rwa [List.append_nil] at rest
    rw [split_append_blank (blank b List.mem_cons_self), none, List.append_nil]

theorem split_eq_nil_iff {t : Text} : split t = [] ↔ ∀ c ∈ t, isSpace c = true := by
  have reading : ∀ t word : Text, splitFrom t word = [] ↔ word = [] ∧ ∀ c ∈ t, isSpace c = true := by
    intro t
    induction t with
    | nil => intro word; cases word <;> simp [splitFrom]
    | cons c t ih =>
      intro word
      cases space : isSpace c with
      | true =>
        rw [splitFrom_blank space, List.append_eq_nil_iff, ih, List.forall_mem_cons]
        cases word <;> simp [splitFrom, space]
      | false =>
        rw [splitFrom_solid space, ih, List.forall_mem_cons, space]
        simp
  rw [split, reading]
  exact and_iff_right rfl

theorem isToken_of_mem_split {t w : Text} (h : w ∈ split t) : IsToken w := by
  have reading : ∀ t word : Text, (∀ c ∈ word, isSpace c = false) → ∀ w ∈ splitFrom t word, IsToken w := by
    have ended : ∀ word : Text, (∀ c ∈ word, isSpace c = false) → ∀ w ∈ splitFrom [] word, IsToken w := by
      intro word solid w here
      cases word with
      | nil => cases here
      | cons c word =>
        rw [List.mem_singleton.mp (show w ∈ [(c :: word).reverse] from here)]
        exact ⟨by simp, fun d mem => solid d (List.mem_reverse.mp mem)⟩
    intro t
    induction t with
    | nil => exact ended
    | cons c t ih =>
      intro word solid w here
      cases space : isSpace c with
      | true =>
        rw [splitFrom_blank space] at here
        rcases List.mem_append.mp here with here | here
        · exact ended word solid w here
        · exact ih [] (fun _ none => absurd none List.not_mem_nil) w here
      | false =>
        rw [splitFrom_solid space] at here
        exact ih (c :: word) (List.forall_mem_cons.mpr ⟨space, solid⟩) w here
  exact reading t [] (fun _ none => absurd none List.not_mem_nil) w h

/-- Words that are joined by blanks are read again. -/
theorem split_join_words {words : List Text} (h : ∀ w ∈ words, IsToken w) : split (join " " words) = words := by
  induction words with
  | nil => rfl
  | cons w words ih =>
    cases words with
    | nil =>
      rw [join, List.intercalate_singleton]
      exact split_word (h w List.mem_cons_self)
    | cons next words =>
      have blank : isSpace ' ' = true := by decide
      have step : join " " (w :: next :: words) = w ++ ' ' :: join " " (next :: words) := by
        simp [join, List.intercalate_cons_cons]
      rw [step, split_append_blank blank, split_word (h w List.mem_cons_self),
        ih fun v here => h v (List.mem_cons_of_mem _ here), List.singleton_append]

/-! ## Stripping -/

theorem strip_blanks_append {blanks : Text} (blank : ∀ c ∈ blanks, isSpace c = true) (t : Text) :
    strip (blanks ++ t) = strip t := by
  rw [strip, strip, lstrip, lstrip, List.dropWhile_append_of_pos blank]

theorem strip_append_blanks {blanks : Text} (blank : ∀ c ∈ blanks, isSpace c = true) (t : Text) :
    strip (t ++ blanks) = strip t := by
  by_cases all : ∀ c ∈ t, isSpace c = true
  · rw [strip_eq_nil_iff.mpr all, strip_eq_nil_iff]
    exact List.forall_mem_append.mpr ⟨all, blank⟩
  · have left : lstrip (t ++ blanks) = lstrip t ++ blanks := by
      rw [lstrip, lstrip, List.dropWhile_append, if_neg]
      rw [List.isEmpty_iff, List.dropWhile_eq_nil_iff]
      exact all
    rw [strip, strip, left, rstrip, rstrip, List.reverse_append, List.dropWhile_append_of_pos]
    intro c here
    exact blank c (List.mem_reverse.mp here)

/-- Stripping takes blanks from both ends. -/
theorem exists_strip (t : Text) : ∃ before after, t = before ++ strip t ++ after ∧
    (∀ c ∈ before, isSpace c = true) ∧ ∀ c ∈ after, isSpace c = true := by
  refine ⟨t.takeWhile isSpace, ((lstrip t).reverse.takeWhile isSpace).reverse, ?_, ?_, ?_⟩
  · have right : lstrip t = strip t ++ ((lstrip t).reverse.takeWhile isSpace).reverse := by
      rw [strip, rstrip, ← List.reverse_append, List.takeWhile_append_dropWhile, List.reverse_reverse]
    rw [List.append_assoc, ← right, lstrip, List.takeWhile_append_dropWhile]
  · exact fun c here => List.mem_takeWhile_imp here
  · exact fun c here => List.mem_takeWhile_imp (List.mem_reverse.mp here)

theorem split_strip (t : Text) : split (strip t) = split t := by
  obtain ⟨before, after, whole, first, last⟩ := exists_strip t
  conv => rhs; rw [whole]
  rw [List.append_assoc, split_blanks_append first, split_append_blanks last]

/-! ## Columns -/

/-- `f"{t:<{width}}"` -/
def padRight (width : Nat) (t : Text) : Text := t ++ List.replicate (width - t.length) ' '

/-- `f"{t:>{width}}"` -/
def padLeft (width : Nat) (t : Text) : Text := List.replicate (width - t.length) ' ' ++ t

theorem isSpace_of_mem_replicate {n : Nat} {c : Char} (h : c ∈ List.replicate n ' ') : isSpace c = true := by
  rw [(List.mem_replicate.mp h).2]
  decide

@[simp] theorem split_padRight (width : Nat) (t : Text) : split (padRight width t) = split t :=
  split_append_blanks (fun _ => isSpace_of_mem_replicate) t

@[simp] theorem split_padLeft (width : Nat) (t : Text) : split (padLeft width t) = split t :=
  split_blanks_append (fun _ => isSpace_of_mem_replicate) t

@[simp] theorem strip_padRight (width : Nat) (t : Text) : strip (padRight width t) = strip t :=
  strip_append_blanks (fun _ => isSpace_of_mem_replicate) t

@[simp] theorem strip_padLeft (width : Nat) (t : Text) : strip (padLeft width t) = strip t :=
  strip_blanks_append (fun _ => isSpace_of_mem_replicate) t

theorem length_padRight {width : Nat} {t : Text} (fits : t.length ≤ width) : (padRight width t).length = width := by
  rw [padRight, List.length_append, List.length_replicate]
  omega

theorem length_padLeft {width : Nat} {t : Text} (fits : t.length ≤ width) : (padLeft width t).length = width := by
  rw [padLeft, List.length_append, List.length_replicate]
  omega

/-- Cells in columns of a width, each after a blank. -/
def columns (width : Nat) (cells : List Text) : Text := cells.flatMap fun cell => ' ' :: padLeft width cell

/-- The words of a row are those of its cells. -/
theorem split_append_columns (width : Nat) (t : Text) (cells : List Text) :
    split (t ++ columns width cells) = split t ++ cells.flatMap split := by
  induction cells generalizing t with
  | nil => rw [columns, List.flatMap_nil, List.append_nil, List.flatMap_nil, List.append_nil]
  | cons cell cells ih =>
    have blank : isSpace ' ' = true := by decide
    rw [columns, List.flatMap_cons, ← List.append_assoc, ← columns, ih, split_append_blank blank, split_padLeft,
      List.flatMap_cons, List.append_assoc]

theorem flatMap_split_words {words : List Text} (h : ∀ w ∈ words, IsToken w) : words.flatMap split = words := by
  induction words with
  | nil => rfl
  | cons w words ih =>
    rw [List.flatMap_cons, split_word (h w List.mem_cons_self), ih fun v here => h v (List.mem_cons_of_mem _ here),
      List.singleton_append]

theorem mem_columns {width : Nat} {cells : List Text} {c : Char} (h : c ∈ columns width cells) :
    c = ' ' ∨ ∃ cell ∈ cells, c ∈ cell := by
  obtain ⟨cell, here, h⟩ := List.mem_flatMap.mp h
  rcases List.mem_cons.mp h with blank | h
  · exact .inl blank
  · rcases List.mem_append.mp h with blank | h
    · exact .inl (List.mem_replicate.mp blank).2
    · exact .inr ⟨cell, here, h⟩

/-- Cells at the left of columns of several widths, each before a blank. -/
def leftColumns (cells : List (Nat × Text)) : Text := cells.flatMap fun cell => padRight cell.1 cell.2 ++ [' ']

theorem split_leftColumns_append (cells : List (Nat × Text)) (t : Text) :
    split (leftColumns cells ++ t) = (cells.map (·.2)).flatMap split ++ split t := by
  induction cells with
  | nil => rfl
  | cons cell cells ih =>
    have blank : isSpace ' ' = true := by decide
    rw [leftColumns, List.flatMap_cons, List.append_assoc, List.append_assoc, List.singleton_append,
      split_append_blank blank, split_padRight, ← leftColumns, ih, List.map_cons, List.flatMap_cons, List.append_assoc]

theorem mem_leftColumns {cells : List (Nat × Text)} {c : Char} (h : c ∈ leftColumns cells) :
    c = ' ' ∨ ∃ cell ∈ cells, c ∈ cell.2 := by
  obtain ⟨cell, here, h⟩ := List.mem_flatMap.mp h
  rcases List.mem_append.mp h with h | blank
  · rcases List.mem_append.mp h with h | blank
    · exact .inr ⟨cell, here, h⟩
    · exact .inl (List.mem_replicate.mp blank).2
  · exact .inl (List.mem_singleton.mp blank)

/-- A column of a line, sliced by where it begins and ends. -/
theorem slice_middle {a b c : Text} {start stop : Int} (begins : start = a.length) (ends : stop = (a ++ b).length) :
    slice (a ++ b ++ c) start stop = b := by
  have first : bound (a ++ b ++ c) start = a.length := by
    rw [bound, begins, if_neg (by omega), List.append_assoc, List.length_append]
    omega
  have last : bound (a ++ b ++ c) stop = (a ++ b).length := by
    have whole : (a ++ b ++ c).length = (a ++ b).length + c.length := List.length_append
    rw [bound, ends, if_neg (by omega), whole]
    omega
  rw [slice, first, last, List.take_left, List.drop_left]

theorem sliceFrom_last {a b : Text} {start : Int} (begins : start = a.length) : sliceFrom (a ++ b) start = b := by
  have first : bound (a ++ b) start = a.length := by
    rw [bound, begins, if_neg (by omega), List.length_append]
    omega
  rw [sliceFrom, first, List.drop_left]

/-! ## Items -/

/-- `[item.strip() for item in t.split(",") if item.strip()]` -/
def items (t : Text) : List Text := ((t.splitOn ',').map strip).filter fun item => !item.isEmpty

/-- Items behind one another, each but the first after a comma and a blank; a comma may end the list. -/
def listed (first : Text) (others : List Text) (comma : Bool) : Text :=
  first ++ others.flatMap ([',', ' '] ++ ·) ++ if comma then [','] else []

theorem listed_eq_intercalate (first : Text) (others : List Text) (comma : Bool) :
    listed first others comma =
      [','].intercalate (first :: (others.map (' ' :: ·) ++ if comma then [[]] else [])) := by
  rw [listed]
  induction others generalizing first with
  | nil => cases comma <;> simp [List.intercalate_cons_cons]
  | cons next others ih =>
    have rest := ih (' ' :: next)
    rw [List.map_cons, List.cons_append, List.intercalate_cons_cons, ← rest]
    simp

/-- The items are read again; what stands before them is read with the first. -/
theorem items_append_listed {pre first : Text} {others : List Text} {comma : Bool}
    (free : ∀ t ∈ pre :: first :: others, ',' ∉ t) (some : strip (pre ++ first) ≠ []) (tokens : ∀ t ∈ others, IsToken t) :
    items (pre ++ listed first others comma) = strip (pre ++ first) :: others := by
  have whole : pre ++ listed first others comma = listed (pre ++ first) others comma := by
    simp [listed]
  have pieces : ∀ piece ∈ (pre ++ first) :: (others.map (' ' :: ·) ++ if comma then [[]] else []), ',' ∉ piece := by
    simp only [List.forall_mem_cons] at free
    obtain ⟨freePre, freeFirst, freeOthers⟩ := free
    rw [List.forall_mem_cons, List.forall_mem_append]
    refine ⟨?_, ?_, ?_⟩
    · rw [List.mem_append]
      exact not_or.mpr ⟨freePre, freeFirst⟩
    · rw [List.forall_mem_map]
      intro t here comma
      rcases List.mem_cons.mp comma with blank | comma
      · exact absurd blank (by decide)
      · exact freeOthers t here comma
    · cases comma <;> simp
  have stripped : (others.map (' ' :: ·)).map strip = others := by
    rw [List.map_map]
    conv => rhs; rw [← List.map_id others]
    apply List.map_congr_left
    intro t here
    show strip ([' '] ++ t) = t
    rw [strip_blanks_append (by decide), strip_eq_self (tokens t here).solid]
  have kept : others.filter (fun item => !item.isEmpty) = others := by
    rw [List.filter_eq_self]
    intro t here
    rw [Bool.not_eq_true', List.isEmpty_eq_false_iff]
    exact (tokens t here).ne_nil
  rw [whole, listed_eq_intercalate, items, List.splitOn_intercalate ',' pieces (List.cons_ne_nil _ _), List.map_cons,
    List.map_append, stripped, List.filter_cons, if_pos, List.filter_append, kept]
  · cases comma <;> simp [strip, lstrip, rstrip]
  · rw [Bool.not_eq_true', List.isEmpty_eq_false_iff]
    exact some

/-! ## Lines -/

/-- Lines, each ended by a newline. -/
def unlines (lines : List Text) : Text := lines.flatMap (· ++ ['\n'])

theorem splitlines_unlines {lines : List Text} (h : ∀ line ∈ lines, ∀ c ∈ line, isLineBreak c = false) :
    splitlines (unlines lines) = lines := by
  induction lines with
  | nil => rfl
  | cons line lines ih =>
    rw [unlines, List.flatMap_cons, List.append_assoc, List.singleton_append,
      splitlines_cons (h line List.mem_cons_self), ← unlines, ih fun other here => h other (List.mem_cons_of_mem _ here)]

end Text
