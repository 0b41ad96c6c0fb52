import SwitchOps.Configuration.Redaction
import SwitchOps.Lib.Tables

/-!
# Lines that hold a secret

A `SecretLine` is a line of one of the families with its secret left open. The patterns are followed
through such a line from word to word, and `redactLine_before` says what becomes of it: the word
behind the head is redacted, unless it is a number that is taken for an encryption type.
-/

namespace SwitchOps

open Regex

/-! ## Words and blanks -/

def IsWord (w : Text) : Prop := w ≠ [] ∧ ∀ c ∈ w, Text.isSpace c = false

def IsBlank (b : Text) : Prop := b ≠ [] ∧ ∀ c ∈ b, Text.isSpace c = true

instance (w : Text) : Decidable (IsWord w) := inferInstanceAs (Decidable (_ ∧ _))

instance (b : Text) : Decidable (IsBlank b) := inferInstanceAs (Decidable (_ ∧ _))

/-- The text goes on with a blank, or ends. -/
def Stops (t : Text) : Prop := ∀ c ∈ t.head?, Text.isSpace c = true

instance (t : Text) : Decidable (Stops t) :=
  decidable_of_iff (t.head?.all Text.isSpace = true) (by cases t <;> simp [Stops])

/-- The first blanks of a text, its first word, and what follows this word. -/
def blanksOf (t : Text) : Text := t.takeWhile Text.isSpace
def wordOf (t : Text) : Text := (t.dropWhile Text.isSpace).takeWhile (!Text.isSpace ·)
def afterWord (t : Text) : Text := (t.dropWhile Text.isSpace).dropWhile (!Text.isSpace ·)

/-- A word accepted at its place before the secret. -/
def HeadWord.Accepts : HeadWord → Text → Prop
  | .oneOf keywords, w => IsWord w ∧ ∃ keyword ∈ keywords, spells keyword w = true
  | .number, w => IsWord w ∧ ∀ c ∈ w, Text.isDecimal c = true
  | .anyWord, w => IsWord w
  -- the name of a user and further words, up to the first keyword
  | .nameAndMore, w => ∃ (name : Text) (more : List (Text × Text)), IsWord name ∧
      (∀ entry ∈ more, IsBlank entry.1 ∧ IsWord entry.2 ∧
        ∀ keyword ∈ SecretFamily.secretOrPassword, spells keyword entry.2 = false) ∧
      w = name ++ more.flatMap fun entry => entry.1 ++ entry.2

/-- A line that holds a secret, with the secret left open. -/
structure SecretLine where
  family : SecretFamily
  indent : Text
  /-- The words before the secret, each with the blanks behind it. -/
  head : List (Text × Text)
  /-- An encryption type, with the blanks behind it. -/
  encryption : Option (Text × Text)
  /-- What follows the secret. -/
  trailing : Text
  indent_blank : ∀ c ∈ indent, Text.isSpace c = true
  head_words : List.Forall₂ HeadWord.Accepts family.words (head.map (·.1))
  head_blanks : ∀ entry ∈ head, IsBlank entry.2
  encryption_number : ∀ entry ∈ encryption, IsWord entry.1 ∧ (∀ c ∈ entry.1, Text.isDecimal c = true) ∧
    IsBlank entry.2
  trailing_stops : Stops trailing

/-- A secret is a word. -/
abbrev Secret := { w : Text // IsWord w }

namespace SecretLine

variable (line : SecretLine)

/-- The line up to the encryption type. -/
def before : Text := line.indent ++ line.head.flatMap fun entry => entry.1 ++ entry.2

/-- The encryption type, and the blanks behind it. -/
def type : Text := (line.encryption.map fun entry => entry.1 ++ entry.2).getD []

def text (secret : Secret) : Text := line.before ++ (line.type ++ (secret.1 ++ line.trailing))

end SecretLine

/-- The word after the blanks is `address`, and blanks follow it. -/
def leadsToAddress (t : Text) : Bool := spells "address" (wordOf t) && !(afterWord t).isEmpty

namespace SecretFamily

/-- What the redaction keeps of the text behind the secret. -/
def kept (family : SecretFamily) (rest : Text) : Text := if family.wholeLine then [] else rest

/-- What becomes of a line of the family: `first` is the word behind its head, `rest` is what follows. -/
def redacted (family : SecretFamily) (before first rest : Text) : Text :=
  if family.typed && first.all Text.isDecimal && !(wordOf rest).isEmpty then
    before ++ first ++ blanksOf rest ++ "<redacted>" ++ family.kept (afterWord rest)
  else if family = .isakmpKey && !leadsToAddress rest then before ++ first ++ rest
  else before ++ "<redacted>" ++ family.kept rest

end SecretFamily

/-! ## The words before the secret -/

variable {k : Cursor → List Cursor} {seen rest w : Text} {groups : List (Nat × Text)} {m m' : Cursor}

/-- Keywords in small letters. -/
def PlainKeywords (keywords : List Text) : Prop :=
  (∀ keyword ∈ keywords, keyword.all isKeywordChar = true) ∧ ∀ keyword ∈ keywords, keyword ≠ []

instance (keywords : List Text) : Decidable (PlainKeywords keywords) := inferInstanceAs (Decidable (_ ∧ _))

/-- A single word, or a keyword in small letters. -/
def HeadWord.Plain : HeadWord → Prop
  | .oneOf keywords => PlainKeywords keywords
  | .number | .anyWord => True
  | .nameAndMore => False

/-- What goes on with a blank. -/
abbrev NeedsBlank (k : Cursor → List Cursor) : Prop := Refuses k fun c => !Text.isSpace c

theorem needsBlank_space : NeedsBlank (runs (plus space) k) :=
  refuses_plus fun c visible => by simpa using visible

/-- A word of the head is read as a whole. -/
theorem head?_runs_word {x : HeadWord} (plain : x.Plain) (accepts : x.Accepts w) (needs : NeedsBlank k)
    (stops : Stops rest) :
    (runs x.regex k ⟨seen, w ++ rest, groups⟩).head? = (k ⟨w.reverse ++ seen, rest, groups⟩).head? := by
  cases x with
  | oneOf keywords =>
    obtain ⟨word, keyword, known, spelled⟩ := accepts
    rw [HeadWord.regex, runs_keywords plain.1 needs word.2 stops]
    cases filtered : keywords.filter (spells · w) with
    | nil => exact absurd spelled (by simpa using List.filter_eq_nil_iff.mp filtered keyword known)
    | cons first others =>
      rw [List.flatMap_cons, List.head?_append]
      cases k ⟨w.reverse ++ seen, rest, groups⟩ with
      | nil => simp
      | cons m ms => rfl
  | number =>
    have refuses : Refuses k Text.isDecimal := fun seen c rest groups digit =>
      needs _ _ _ _ (by simp [Text.isSpace_of_isDecimal digit])
    rw [HeadWord.regex, digit, runs_plus refuses accepts.2 accepts.1.1 fun c here =>
      Text.isSpace_not_isDecimal (stops c here)]
  | anyWord =>
    rw [HeadWord.regex, nonSpace, runs_plus needs (fun c here => by simp [accepts.2 c here]) accepts.1 fun c here => by
      simp [stops c here]]
  | nameAndMore => exact plain.elim

theorem HeadWord.Accepts.isWord {x : HeadWord} (plain : x.Plain) (h : x.Accepts w) : IsWord w := by
  cases x with
  | oneOf keywords => exact h.1
  | number => exact h.1
  | anyWord => exact h
  | nameAndMore => exact plain.elim

/-- A text that begins with a word goes on with no blank. -/
theorem IsWord.head?_append (h : IsWord w) {c : Char} (here : c ∈ (w ++ rest).head?) : Text.isSpace c = false := by
  obtain ⟨a, t, rfl⟩ := List.exists_cons_of_ne_nil h.1
  obtain rfl : a = c := by simpa using here
  exact h.2 a List.mem_cons_self

theorem IsBlank.stops_append (h : IsBlank w) : Stops (w ++ rest) := by
  obtain ⟨a, t, rfl⟩ := List.exists_cons_of_ne_nil h.1
  intro c here
  obtain rfl : a = c := by simpa using here
  exact h.2 a List.mem_cons_self

theorem runs_blanks_refused (visible : ∀ c ∈ rest.head?, Text.isSpace c = false) :
    runs (plus space) k ⟨seen, rest, groups⟩ = [] :=
  runs_plus_refused visible

theorem runs_blanks {b : Text} (refuses : Refuses k Text.isSpace) (blank : IsBlank b)
    (visible : ∀ c ∈ rest.head?, Text.isSpace c = false) :
    runs (plus space) k ⟨seen, b ++ rest, groups⟩ = k ⟨b.reverse ++ seen, rest, groups⟩ :=
  runs_plus refuses blank.2 blank.1 visible

/-- Blanks are read before a word. -/
theorem head?_runs_blanks {b : Text} (blank : IsBlank b) (visible : ∀ c ∈ rest.head?, Text.isSpace c = false)
    (found : (k ⟨b.reverse ++ seen, rest, groups⟩).head? = some m') :
    (runs (plus space) k ⟨seen, b ++ rest, groups⟩).head? = some m' :=
  head?_runs_plus blank.2 blank.1 visible found

/-- A keyword does not begin with a blank. -/
theorem refuses_keywords {keywords : List Text} (plain : PlainKeywords keywords) :
    Refuses (runs (alts (keywords.map litIgnoringCase)) k) Text.isSpace := by
  intro seen c rest groups blank
  induction keywords with
  | nil => exact runs_alts_nil
  | cons keyword keywords ih =>
    rw [List.map_cons, runs_alts_cons, ih ⟨fun other h => plain.1 other (List.mem_cons_of_mem _ h),
      fun other h => plain.2 other (List.mem_cons_of_mem _ h)⟩, List.append_nil]
    have first := plain.1 keyword List.mem_cons_self
    cases keyword with
    | nil => exact absurd rfl (plain.2 [] List.mem_cons_self)
    | cons a keyword =>
      rw [List.all_cons, Bool.and_eq_true] at first
      rw [litIgnoringCase, runs_seq]
      refine runs_chr_refused fun d here => ?_
      obtain rfl : c = d := by simpa using here
      rw [← Bool.not_eq_true]
      intro same
      rw [(keyOf_eq first.1 same).2] at blank
      cases blank

/-- No word begins with a blank. -/
theorem HeadWord.refuses {x : HeadWord} (plain : x.Plain) : Refuses (runs x.regex k) Text.isSpace := by
  cases x with
  | oneOf keywords => exact refuses_keywords plain
  | number => exact refuses_plus fun c => Text.isSpace_not_isDecimal
  | anyWord => exact refuses_plus fun c blank => by simp [blank]
  | nameAndMore => exact plain.elim

/-- The words of a head up to the last one, with the blanks between them. -/
def spelled : List (Text × Text) → Text
  | [] => []
  | [entry] => entry.1
  | entry :: next :: head => entry.1 ++ entry.2 ++ spelled (next :: head)

/-- The expressions of the words, with blanks between them. -/
def chain (words : List HeadWord) : List Regex := (words.map HeadWord.regex).intersperse (plus space)

theorem seqs_chain_cons (x : HeadWord) (words : List HeadWord) :
    ∃ k', runs (seqs (chain (x :: words))) k = runs x.regex k' ∧ (NeedsBlank k → NeedsBlank k') := by
  cases words with
  | nil => exact ⟨k, by simp [chain, seqs], id⟩
  | cons y words =>
    refine ⟨runs (plus space) (runs (seqs (chain (y :: words))) k), ?_, fun _ => needsBlank_space⟩
    rw [chain, List.map_cons, List.map_cons, List.intersperse_cons_cons, seqs, seqs, runs_seq, runs_seq]
    rfl

/-- The words of a head are read one after the other. -/
theorem head?_runs_words {words : List HeadWord} {head : List (Text × Text)} (plain : ∀ x ∈ words, x.Plain)
    (accepts : List.Forall₂ HeadWord.Accepts words (head.map (·.1))) (blanks : ∀ entry ∈ head, IsBlank entry.2)
    (needs : NeedsBlank k) (stops : Stops rest) :
    (runs (seqs (chain words)) k ⟨seen, spelled head ++ rest, groups⟩).head? =
      (k ⟨(spelled head).reverse ++ seen, rest, groups⟩).head? := by
  induction head generalizing words seen with
  | nil =>
    cases words with
    | nil => simp [chain, seqs, spelled]
    | cons x words => cases accepts
  | cons entry head ih =>
    cases words with
    | nil => cases accepts
    | cons x words =>
      obtain ⟨first, others⟩ := List.forall₂_cons.mp accepts
      have plainFirst := plain x List.mem_cons_self
      cases head with
      | nil =>
        cases words with
        | cons y words => cases others
        | nil =>
          rw [chain, List.map_singleton, List.intersperse_singleton, seqs, seqs, runs_seq, runs_empty]
          exact head?_runs_word plainFirst first needs stops
      | cons next head =>
        cases words with
        | nil => cases others
        | cons y words =>
          have plainSecond := plain y (by simp)
          have second : IsWord next.1 := HeadWord.Accepts.isWord plainSecond (List.forall₂_cons.mp others).1
          have blank := blanks entry List.mem_cons_self
          have begins : ∃ t, spelled (next :: head) ++ rest = next.1 ++ t := by
            cases head with
            | nil => exact ⟨rest, rfl⟩
            | cons after head => exact ⟨_, by rw [spelled, List.append_assoc, List.append_assoc]⟩
          obtain ⟨k', further, -⟩ := seqs_chain_cons (k := k) y words
          have refuses : Refuses (runs (seqs (chain (y :: words))) k) Text.isSpace := by
            rw [further]
            exact HeadWord.refuses plainSecond
          rw [chain, List.map_cons, List.map_cons, List.intersperse_cons_cons, ← List.map_cons, ← chain, seqs, seqs,
            runs_seq, runs_seq, spelled, List.append_assoc, List.append_assoc,
            head?_runs_word plainFirst first needsBlank_space blank.stops_append,
            runs_blanks refuses blank fun c here => by
              obtain ⟨t, begins⟩ := begins
              rw [begins] at here
              exact second.head?_append here,
            ih (fun z hz => plain z (List.mem_cons_of_mem _ hz)) others fun z hz => blanks z (List.mem_cons_of_mem _ hz)]
          simp

/-! ### The head of a `username` line -/

theorem Stops.append {t : Text} (h : Stops t) (h' : Stops rest) : Stops (t ++ rest) := by
  cases t with
  | nil => exact h'
  | cons c t =>
    intro d here
    exact h d (by simpa using here)

/-- Words with blanks before them, none of which spells a keyword. -/
def Unspelled (keywords : List Text) (more : List (Text × Text)) : Prop :=
  ∀ entry ∈ more, IsBlank entry.1 ∧ IsWord entry.2 ∧ ∀ keyword ∈ keywords, spells keyword entry.2 = false

theorem Unspelled.stops {keywords : List Text} {more : List (Text × Text)} (h : Unspelled keywords more) :
    Stops (more.flatMap fun entry => entry.1 ++ entry.2) := by
  cases more with
  | nil => exact fun c here => by cases here
  | cons entry more =>
    rw [List.flatMap_cons, List.append_assoc]
    exact (h entry List.mem_cons_self).1.stops_append

/-- An end of such words begins inside a word, or with blanks before a word. -/
theorem Unspelled.suffix {keywords : List Text} {more : List (Text × Text)} (h : Unspelled keywords more)
    {u v : Text} (split : (more.flatMap fun entry => entry.1 ++ entry.2) = u ++ v) (ne : v ≠ []) :
    (∀ c ∈ v.head?, Text.isSpace c = false) ∨
      ∃ b w t, IsBlank b ∧ IsWord w ∧ (∀ keyword ∈ keywords, spells keyword w = false) ∧ Stops t ∧
        v = b ++ (w ++ t) := by
  induction more generalizing u with
  | nil => exact absurd (List.append_eq_nil_iff.mp split.symm).2 ne
  | cons entry more ih =>
    obtain ⟨blank, word, unspelled⟩ := h entry List.mem_cons_self
    have later : Unspelled keywords more := fun other here => h other (List.mem_cons_of_mem _ here)
    rw [List.flatMap_cons, List.append_assoc] at split
    rcases List.append_eq_append_iff.mp split with ⟨y, rfl, behind⟩ | ⟨x, before, rfl⟩
    · rcases List.append_eq_append_iff.mp behind with ⟨z, rfl, further⟩ | ⟨x, inside, rfl⟩
      · exact ih later further
      · cases x with
        | nil => exact ih later (u := []) rfl
        | cons c x =>
          refine .inl fun d here => word.2 d ?_
          obtain rfl : c = d := by simpa using here
          simp [inside]
    · cases x with
      | nil => exact .inl fun c here => word.head?_append here
      | cons c x =>
        refine .inr ⟨c :: x, entry.2, _, ⟨by simp, fun d here => blank.2 d ?_⟩, word, unspelled, later.stops, rfl⟩
        rw [before]
        exact List.mem_append_right _ here

theorem runs_word_refused {keywords : List Text} (plain : PlainKeywords keywords)
    (needs : NeedsBlank k) (word : IsWord w) (stops : Stops rest)
    (unspelled : ∀ keyword ∈ keywords, spells keyword w = false) :
    runs (alts (keywords.map litIgnoringCase)) k ⟨seen, w ++ rest, groups⟩ = [] := by
  rw [runs_keywords plain.1 needs word.2 stops, List.filter_eq_nil_iff.mpr (by simpa using unspelled)]
  rfl

/-- The name of a user and further words are read up to the first keyword. -/
theorem head?_runs_nameAndMore {keywords : List Text} (plain : PlainKeywords keywords) {name b : Text}
    {more : List (Text × Text)} (needs : NeedsBlank k) (word : IsWord name) (unspelled : Unspelled keywords more) (blank : IsBlank b)
    (oneLine : '\n' ∉ more.flatMap fun entry => entry.1 ++ entry.2)
    (found : (runs (plus space) (runs (alts (keywords.map litIgnoringCase)) k)
      ⟨(name ++ more.flatMap fun entry => entry.1 ++ entry.2).reverse ++ seen, b ++ rest, groups⟩).head? = some m') :
    (runs HeadWord.nameAndMore.regex (runs (plus space) (runs (alts (keywords.map litIgnoringCase)) k))
      ⟨seen, (name ++ more.flatMap fun entry => entry.1 ++ entry.2) ++ (b ++ rest), groups⟩).head? = some m' := by
  rw [HeadWord.regex, runs_seq, List.append_assoc]
  refine head?_runs_plus (fun c here => by simp [word.2 c here]) word.1 (fun c here => ?_) ?_
  · have ahead : Stops (b ++ rest) := blank.stops_append
    have stops := unspelled.stops.append ahead c here
    simp [stops]
  refine head?_runs_lazy (fun c here => ?_) (fun u v split ne => ?_) (by simpa using found)
  · simpa using fun same : c = '\n' => oneLine (same ▸ here)
  rcases unspelled.suffix split ne with inside | ⟨b', w, t, blank', word', unspelled', stops, rfl⟩
  · refine runs_plus_refused fun c here => inside c ?_
    obtain ⟨a, v, rfl⟩ := List.exists_cons_of_ne_nil ne
    exact here
  · rw [List.append_assoc, List.append_assoc]
    rw [runs_blanks (refuses_keywords plain) blank' fun c here => word'.head?_append here]
    exact runs_word_refused plain needs word' (stops.append blank.stops_append) unspelled'

/-- The words of a `username` line are read, if that leads to a match. -/
theorem head?_runs_username {head : List (Text × Text)}
    (accepts : List.Forall₂ HeadWord.Accepts SecretFamily.username.words (head.map (·.1)))
    (blanks : ∀ entry ∈ head, IsBlank entry.2) (needs : NeedsBlank k) (stops : Stops rest)
    (oneLine : '\n' ∉ spelled head)
    (found : (k ⟨(spelled head).reverse ++ seen, rest, groups⟩).head? = some m') :
    (runs (seqs (chain SecretFamily.username.words)) k ⟨seen, spelled head ++ rest, groups⟩).head? = some m' := by
  have plain : PlainKeywords SecretFamily.secretOrPassword := by decide
  have first_ : (HeadWord.oneOf ["username"]).Plain := by
    show PlainKeywords ["username".toList]
    decide
  have three : head.length = 3 := by simpa [SecretFamily.words] using accepts.length_eq.symm
  obtain ⟨⟨user, b₁⟩, ⟨n, b₂⟩, ⟨keyword, b₃⟩, rfl⟩ := List.length_eq_three.mp three
  obtain ⟨acceptsUser, behindUser⟩ := List.forall₂_cons.mp accepts
  obtain ⟨⟨name, more, word, unspelled, rfl⟩, behindName⟩ := List.forall₂_cons.mp behindUser
  obtain ⟨acceptsKeyword, -⟩ := List.forall₂_cons.mp behindName
  have blank₁ : IsBlank b₁ := blanks (user, b₁) (by simp)
  have blank₂ : IsBlank b₂ := blanks (name ++ more.flatMap (fun entry => entry.1 ++ entry.2), b₂) (by simp)
  have unspelled_ : Unspelled SecretFamily.secretOrPassword more := unspelled
  simp only [spelled, List.append_assoc, List.mem_append, not_or] at oneLine found ⊢
  rw [chain, SecretFamily.words]
  simp only [List.map_cons, List.map_nil, List.intersperse_cons_cons, List.intersperse_singleton, seqs, runs_seq,
    runs_empty]
  rw [head?_runs_word first_ acceptsUser needsBlank_space blank₁.stops_append]
  refine head?_runs_blanks blank₁ (fun c here => word.head?_append here) ?_
  have line := @head?_runs_nameAndMore k (b₁.reverse ++ (user.reverse ++ seen)) (keyword ++ rest) groups m' _ plain _ _ _
    needs word unspelled_ blank₂ oneLine.2.2.2.1 ?_
  · simp only [List.append_assoc] at line
    exact line
  · refine head?_runs_blanks blank₂ (fun c here => acceptsKeyword.1.head?_append here) ?_
    have read := @head?_runs_word k (b₂.reverse ++ ((name ++ more.flatMap fun entry => entry.1 ++ entry.2).reverse ++
        (b₁.reverse ++ (user.reverse ++ seen)))) rest _ groups
      (.oneOf SecretFamily.secretOrPassword) plain acceptsKeyword needs stops
    rw [← found]
    refine read.trans ?_
    simp only [List.reverse_append, List.append_assoc]

/-! ## The secret and what follows it -/

/-- The end of a pattern, after its first group. -/
def secretEnd (family : SecretFamily) (m : Cursor) : List Cursor :=
  runs (plus nonSpace) (runs family.tail (runs textEndOrNewline fun m' => [m']))
    { m with groups := (1, m.seen.reverse) :: m.groups }

/-- The end of a pattern, after its words. -/
def afterHead (family : SecretFamily) : Cursor → List Cursor :=
  runs (seqs ((if family.typed then [opt (seqs [plus space, plus digit])] else []) ++ [plus space]))
    (secretEnd family)

theorem results_pattern (family : SecretFamily) (line : Text) :
    results family.pattern ⟨[], line, []⟩ =
      runs (.star true space) (runs (seqs (chain family.words)) (afterHead family)) ⟨[], line, []⟩ := by
  have closed : (fun m' : Cursor => runs (plus nonSpace) (runs family.tail (runs textEndOrNewline fun m => [m]))
      { m' with groups := (1, Cursor.captured ⟨[], line, []⟩ m') :: m'.groups }) = secretEnd family := by
    funext m'
    simp [secretEnd, Cursor.captured]
  rw [results_eq_runs, SecretFamily.pattern, afterHead, chain, ← closed]
  cases family.typed <;>
    simp only [seqs, runs_seq, runs_empty, textStart, runs_here, List.isEmpty_nil, if_true, runs_group,
      List.cons_append, List.nil_append, Bool.false_eq_true, if_false]

theorem needsBlank_afterHead (family : SecretFamily) : NeedsBlank (afterHead family) := by
  intro seen c rest groups visible
  have refused : ∀ k, runs (plus space) k ⟨seen, c :: rest, groups⟩ = [] := fun k =>
    needsBlank_space _ _ _ _ visible
  rw [afterHead]
  split
  · simp [seqs, refused]
  · simp [seqs, refused]

theorem refuses_secretEnd (family : SecretFamily) : Refuses (secretEnd family) Text.isSpace := by
  intro seen c rest groups blank
  refine runs_plus_refused fun d here => ?_
  obtain rfl : c = d := by simpa using here
  simp [blank]

/-- The text is its first blanks, its first word and the rest. -/
theorem blanksOf_append (t : Text) : blanksOf t ++ (wordOf t ++ afterWord t) = t := by
  rw [wordOf, afterWord, List.takeWhile_append_dropWhile, blanksOf, List.takeWhile_append_dropWhile]

theorem blanksOf_all {t : Text} {c : Char} (h : c ∈ blanksOf t) : Text.isSpace c = true :=
  List.mem_takeWhile_imp h

theorem wordOf_all {t : Text} {c : Char} (h : c ∈ wordOf t) : Text.isSpace c = false := by
  simpa using List.mem_takeWhile_imp h

theorem stops_afterWord (t : Text) : Stops (afterWord t) := by
  intro c here
  have first := List.head?_dropWhile_not (fun c => !Text.isSpace c) (t.dropWhile Text.isSpace)
  rw [afterWord] at here
  rw [Option.mem_def.mp here] at first
  simpa using first

theorem head?_wordOf_append {t : Text} {c : Char} (h : c ∈ (wordOf t ++ afterWord t).head?) :
    Text.isSpace c = false := by
  rw [wordOf, afterWord, List.takeWhile_append_dropWhile] at h
  have first := List.head?_dropWhile_not Text.isSpace t
  rw [Option.mem_def.mp h] at first
  simpa using first

theorem isBlank_blanksOf {t : Text} (stops : Stops t) (ne : t ≠ []) : IsBlank (blanksOf t) := by
  refine ⟨?_, fun c => blanksOf_all⟩
  obtain ⟨c, t, rfl⟩ := List.exists_cons_of_ne_nil ne
  rw [blanksOf, List.takeWhile_cons, if_pos (stops c rfl)]
  simp

/-- The rest of a line is read to its end. -/
theorem head?_runs_line (oneLine : '\n' ∉ rest) (found : (k ⟨rest.reverse ++ seen, [], groups⟩).head? = some m') :
    (runs (.star true dot) k ⟨seen, rest, groups⟩).head? = some m' := by
  have whole := @head?_runs_star k seen [] rest groups (· != '\n')
    (fun c here => by simpa using fun same : c = '\n' => oneLine (same ▸ here)) (fun c here => by cases here) m' found
  rwa [List.append_nil] at whole

theorem runs_end (groups : List (Nat × Text)) (seen : Text) :
    runs textEndOrNewline (fun m => [m]) ⟨seen, [], groups⟩ = [⟨seen, [], groups⟩] := by
  rw [textEndOrNewline, runs_here]
  rfl

/-- The groups of the text behind a secret. -/
def tailGroups (family : SecretFamily) (rest : Text) : List (Nat × Text) :=
  if family.wholeLine then [] else [(2, rest)]

/-- The end of the pattern of `crypto isakmp key`. -/
theorem head?_runs_address {first : Text} (stops : Stops rest) (oneLine : '\n' ∉ rest) :
    (runs SecretFamily.isakmpKey.tail (runs textEndOrNewline fun m => [m])
      ⟨first.reverse ++ seen, rest, groups⟩).head? =
      if leadsToAddress rest = false then none
      else some ⟨rest.reverse ++ (first.reverse ++ seen), [], (2, rest) :: groups⟩ := by
  have address : ("address".toList : Text).all isKeywordChar = true := by decide
  have onlyKeyword : PlainKeywords ["address".toList] := by decide
  rw [SecretFamily.tail, runs_group]
  simp only [seqs, runs_seq, runs_empty]
  by_cases empty : rest = []
  · subst empty
    rw [runs_blanks_refused fun c here => by cases here]
    rfl
  have blank := isBlank_blanksOf stops empty
  have refuses : ∀ k', Refuses (runs (litIgnoringCase "address") k') Text.isSpace := fun k' =>
    by simpa [alts] using refuses_keywords (k := k') onlyKeyword
  -- the continuation of the search from the word behind the first blanks
  have word : ∀ k', runs (plus space) (runs (litIgnoringCase "address") (runs (plus space) k'))
      ⟨first.reverse ++ seen, rest, groups⟩ =
      if spells "address" (wordOf rest) then runs (plus space) k'
        ⟨(wordOf rest).reverse ++ ((blanksOf rest).reverse ++ (first.reverse ++ seen)), afterWord rest, groups⟩
      else [] := by
    intro k'
    conv_lhs => rw [← blanksOf_append rest]
    rw [runs_blanks (refuses _) blank fun c here => head?_wordOf_append here]
    exact runs_keyword address needsBlank_space (fun c => wordOf_all) (stops_afterWord rest)
  rw [word]
  cases spelled_ : spells "address" (wordOf rest)
  · rw [leadsToAddress, spelled_]
    rfl
  rw [if_pos rfl]
  by_cases last : afterWord rest = []
  · rw [last, runs_blanks_refused fun c here => by cases here]
    rw [leadsToAddress, spelled_, last]
    rfl
  have further := isBlank_blanksOf (stops_afterWord rest) last
  have leads : leadsToAddress rest = true := by
    rw [leadsToAddress, spelled_]
    simp [last]
  rw [leads, if_neg (by decide)]
  have split : rest = blanksOf rest ++ (wordOf rest ++ (blanksOf (afterWord rest) ++
      (wordOf (afterWord rest) ++ afterWord (afterWord rest)))) := by
    rw [blanksOf_append, blanksOf_append]
  conv_lhs => rw [← blanksOf_append (afterWord rest)]
  refine head?_runs_blanks further (fun c here => head?_wordOf_append here) ?_
  refine head?_runs_line (fun here => oneLine ?_) ?_
  · rw [split]
    exact List.mem_append_right _ (List.mem_append_right _ (List.mem_append_right _ here))
  · have read : (wordOf (afterWord rest) ++ afterWord (afterWord rest)).reverse ++
        ((blanksOf (afterWord rest)).reverse ++ ((wordOf rest).reverse ++
          ((blanksOf rest).reverse ++ (first.reverse ++ seen)))) = rest.reverse ++ (first.reverse ++ seen) := by
      conv_rhs => rw [split]
      simp only [List.reverse_append, List.append_assoc]
    rw [read]
    dsimp only
    rw [captured_append, runs_end]
    rfl

/-- The next word is the secret; what follows it is read to the end of the line. -/
theorem head?_secretEnd {family : SecretFamily} {first : Text} (word : IsWord first) (stops : Stops rest)
    (oneLine : '\n' ∉ rest) : (secretEnd family ⟨seen, first ++ rest, groups⟩).head? =
      if family = .isakmpKey ∧ leadsToAddress rest = false then none
      else some ⟨rest.reverse ++ (first.reverse ++ seen), [],
        tailGroups family rest ++ (1, seen.reverse) :: groups⟩ := by
  have visible : ∀ c ∈ first, (!Text.isSpace c) = true := fun c here => by simp [word.2 c here]
  have stop : ∀ c ∈ rest.head?, (!Text.isSpace c) = false := fun c here => by simp [stops c here]
  have dropped : family.tail = .star true dot → family.wholeLine = true → family ≠ .isakmpKey →
      (secretEnd family ⟨seen, first ++ rest, groups⟩).head? =
        some ⟨rest.reverse ++ (first.reverse ++ seen), [], (1, seen.reverse) :: groups⟩ := by
    intro tail _ _
    rw [secretEnd, tail]
    refine head?_runs_plus visible word.1 stop (head?_runs_line oneLine ?_)
    rw [runs_end]
    rfl
  have kept : family.tail = .group 2 (.star true dot) →
      (secretEnd family ⟨seen, first ++ rest, groups⟩).head? =
        some ⟨rest.reverse ++ (first.reverse ++ seen), [], (2, rest) :: (1, seen.reverse) :: groups⟩ := by
    intro tail
    rw [secretEnd, tail]
    refine head?_runs_plus visible word.1 stop ?_
    rw [runs_group]
    refine head?_runs_line oneLine ?_
    dsimp only
    rw [captured_append, runs_end]
    rfl
  cases family
  case isakmpKey =>
    have refuses : ∀ k', NeedsBlank (runs SecretFamily.isakmpKey.tail k') := by
      intro k' seen c rest groups visible
      rw [SecretFamily.tail, runs_group]
      simp only [seqs, runs_seq, runs_empty]
      exact needsBlank_space _ _ _ _ visible
    have word_ := @runs_plus _ seen _ _ ((1, seen.reverse) :: groups) _
      (refuses (runs textEndOrNewline fun m => [m])) visible word.1 stop
    rw [secretEnd, nonSpace, word_, head?_runs_address stops oneLine]
    simp [tailGroups, SecretFamily.wholeLine]
  case snmpCommunity | ntpKey => simpa [tailGroups, SecretFamily.wholeLine] using kept rfl
  all_goals simpa [tailGroups, SecretFamily.wholeLine] using dropped rfl rfl (by decide)

/-- The words of a text without a first word are none. -/
theorem eq_blanksOf {t : Text} (none_ : wordOf t = []) : afterWord t = [] ∧ t = blanksOf t := by
  have nothing : afterWord t = [] := by
    by_contra some_
    obtain ⟨c, rest, eq⟩ := List.exists_cons_of_ne_nil some_
    have blank := stops_afterWord t c (by rw [eq]; rfl)
    have visible : Text.isSpace c = false := head?_wordOf_append (t := t) (by rw [none_, eq]; rfl)
    rw [visible] at blank
    cases blank
  refine ⟨nothing, ?_⟩
  conv_lhs => rw [← blanksOf_append t, none_, nothing]
  simp

/-- The word is no encryption type of what follows: it is no number, or no word follows. -/
theorem runs_type_refused {family : SecretFamily} {first : Text} (word : IsWord first) (stops : Stops rest)
    (untyped : first.all Text.isDecimal = true → wordOf rest = []) :
    runs (plus digit) (runs (plus space) (secretEnd family)) ⟨seen, first ++ rest, groups⟩ = [] := by
  have notDigit : ∀ c ∈ (first.dropWhile Text.isDecimal ++ rest).head?, Text.isDecimal c = false := by
    intro c here
    rw [← Bool.not_eq_true]
    intro digit
    cases behind : first.dropWhile Text.isDecimal with
    | nil =>
      rw [behind] at here
      have blank := stops c here
      rw [Text.isSpace_of_isDecimal digit] at blank
      cases blank
    | cons d t =>
      have first_ := List.head?_dropWhile_not Text.isDecimal first
      rw [behind] at first_ here
      obtain rfl : d = c := by simpa using here
      simp [digit] at first_
  rw [← List.takeWhile_append_dropWhile (p := Text.isDecimal) (l := first), List.append_assoc]
  by_cases digits : first.takeWhile Text.isDecimal = []
  · rw [digits]
    exact runs_plus_refused notDigit
  have refuses : Refuses (runs (plus space) (secretEnd family)) Text.isDecimal := fun seen c rest groups digit =>
    needsBlank_space _ _ _ _ (by simp [Text.isSpace_of_isDecimal digit])
  rw [digit, runs_plus refuses (fun c here => List.mem_takeWhile_imp here) digits notDigit]
  cases behind : first.dropWhile Text.isDecimal with
  | cons c t =>
    -- the number goes on with another character
    refine runs_blanks_refused fun d here => word.2 d ?_
    obtain rfl : c = d := by simpa using here
    exact List.dropWhile_subset Text.isDecimal (by rw [behind]; exact List.mem_cons_self)
  | nil =>
    have all : first.all Text.isDecimal = true := by
      rw [List.all_eq_true]
      exact fun c here => List.dropWhile_eq_nil_iff.mp behind c here
    obtain ⟨-, blanks⟩ := eq_blanksOf (untyped all)
    rw [List.nil_append]
    by_cases empty : rest = []
    · subst empty
      exact runs_blanks_refused fun c here => by cases here
    · rw [blanks, ← List.append_nil (blanksOf rest),
        runs_blanks (refuses_secretEnd family) (isBlank_blanksOf stops empty) fun c here => by cases here]
      exact runs_plus_refused fun c here => by cases here

theorem afterHead_eq {family : SecretFamily} {b first : Text} (blank : IsBlank b) (word : IsWord first)
    (stops : Stops rest) (untyped : family.typed = true → first.all Text.isDecimal = true → wordOf rest = []) :
    afterHead family ⟨seen, b ++ (first ++ rest), groups⟩ =
      secretEnd family ⟨b.reverse ++ seen, first ++ rest, groups⟩ := by
  have direct := @runs_blanks _ seen _ groups _ (refuses_secretEnd family) blank
    fun c here => word.head?_append (show c ∈ (first ++ rest).head? from here)
  rw [afterHead]
  split
  · next typed =>
    have digits : Refuses (runs (plus digit) (runs (plus space) (secretEnd family))) Text.isSpace :=
      refuses_plus fun c blank => by
        rw [← Bool.not_eq_true]
        intro digit
        rw [Text.isSpace_of_isDecimal digit] at blank
        cases blank
    simp only [List.cons_append, List.nil_append, seqs, runs_seq, runs_empty, runs_opt]
    rw [runs_blanks digits blank fun c here => word.head?_append here, runs_type_refused word stops (untyped typed),
      List.nil_append, direct]
  · simpa only [List.nil_append, seqs, runs_seq, runs_empty] using direct

theorem head?_afterHead_typed {family : SecretFamily} {b first : Text} (blank : IsBlank b) (word : IsWord first)
    (stops : Stops rest) (oneLine : '\n' ∉ rest) (typed : family.typed = true)
    (digits : first.all Text.isDecimal = true) (follows : wordOf rest ≠ []) :
    (afterHead family ⟨seen, b ++ (first ++ rest), groups⟩).head? =
      (secretEnd family ⟨(blanksOf rest).reverse ++ (first.reverse ++ (b.reverse ++ seen)),
        wordOf rest ++ afterWord rest, groups⟩).head? := by
  have second : IsWord (wordOf rest) := ⟨follows, fun c here => wordOf_all here⟩
  have notEmpty : rest ≠ [] := by
    rintro rfl
    exact follows rfl
  have within : '\n' ∉ afterWord rest := fun here => oneLine (by
    rw [← blanksOf_append rest]
    exact List.mem_append_right _ (List.mem_append_right _ here))
  obtain ⟨m', found⟩ : ∃ m', (secretEnd family ⟨(blanksOf rest).reverse ++ (first.reverse ++ (b.reverse ++ seen)),
      wordOf rest ++ afterWord rest, groups⟩).head? = some m' := by
    have other : family ≠ .isakmpKey := by
      rintro rfl
      cases typed
    rw [head?_secretEnd second (stops_afterWord rest) within, if_neg (by simp [other])]
    exact ⟨_, rfl⟩
  rw [found, afterHead, if_pos typed]
  simp only [List.cons_append, List.nil_append, seqs, runs_seq, runs_empty, runs_opt]
  have typeRead : (runs (plus space) (runs (plus digit) (runs (plus space) (secretEnd family)))
      ⟨seen, b ++ (first ++ rest), groups⟩).head? = some m' := by
    refine head?_runs_blanks blank (fun c here => word.head?_append here) ?_
    refine head?_runs_plus (fun c here => List.all_eq_true.mp digits c here) word.1 (fun c here => ?_) ?_
    · rw [← Bool.not_eq_true]
      intro digit
      have blank := stops c here
      rw [Text.isSpace_of_isDecimal digit] at blank
      cases blank
    · conv_lhs => rw [← blanksOf_append rest]
      exact head?_runs_blanks (isBlank_blanksOf stops notEmpty) (fun c here => head?_wordOf_append here) found
  rw [List.head?_append, typeRead]
  rfl

/-! ## A line of a family -/

namespace SecretFamily

/-- The keywords with which a line of the family begins. -/
def firstKeywords (family : SecretFamily) : List Text :=
  match family.words with
  | .oneOf keywords :: _ => keywords
  | _ => []

theorem words_eq (family : SecretFamily) : family.words = .oneOf family.firstKeywords :: family.words.tail := by
  cases family <;> rfl

theorem firstKeywords_plain (family : SecretFamily) : PlainKeywords family.firstKeywords := by
  cases family <;> decide

/-- No two families begin alike. -/
theorem eq_of_firstKeyword {family family' : SecretFamily} {keyword : Text} (h : keyword ∈ family.firstKeywords)
    (h' : keyword ∈ family'.firstKeywords) : family = family' := by
  have apart : ∀ family family' : SecretFamily, family ≠ family' →
      ∀ keyword ∈ family.firstKeywords, keyword ∉ family'.firstKeywords := by
    intro family family'
    cases family <;> cases family' <;> decide
  by_contra differ
  exact apart family family' differ keyword h h'

theorem words_plain {family : SecretFamily} (other : family ≠ .username) : ∀ x ∈ family.words, x.Plain := by
  have keywords : ∀ texts : List Text, PlainKeywords texts → (HeadWord.oneOf texts).Plain := fun _ plain => plain
  cases family
  case username => exact absurd rfl other
  all_goals
    simp only [words, List.forall_mem_cons, List.not_mem_nil, false_implies, implies_true, and_true]
    first
      | exact keywords _ (by decide)
      | exact ⟨keywords _ (by decide), keywords _ (by decide)⟩
      | exact ⟨keywords _ (by decide), keywords _ (by decide), keywords _ (by decide)⟩
      | exact ⟨keywords _ (by decide), keywords _ (by decide), trivial, trivial⟩

end SecretFamily

/-- The pattern of a family matches no line that begins with another word. -/
theorem matchStart_refused {family : SecretFamily} {indent : Text} (blanks : ∀ c ∈ indent, Text.isSpace c = true)
    (word : IsWord w) (stops : Stops rest) (other : ∀ keyword ∈ family.firstKeywords, spells keyword w = false) :
    matchStart family.pattern (indent ++ (w ++ rest)) = none := by
  have plain := family.firstKeywords_plain
  obtain ⟨k', first, needs⟩ := seqs_chain_cons (k := afterHead family) (.oneOf family.firstKeywords)
    family.words.tail
  rw [← family.words_eq] at first
  have refuses : Refuses (runs (alts (family.firstKeywords.map litIgnoringCase)) k') Text.isSpace :=
    refuses_keywords plain
  rw [matchStart, results_pattern, first, HeadWord.regex, space,
    runs_star refuses blanks fun c here => word.head?_append here,
    runs_word_refused plain (needs (needsBlank_afterHead family)) word stops other]
  rfl

/-- The blanks behind the last word. -/
def lastBlank (head : List (Text × Text)) : Text := (head.getLast?.map (·.2)).getD []

theorem spelled_append_lastBlank (head : List (Text × Text)) :
    spelled head ++ lastBlank head = head.flatMap fun entry => entry.1 ++ entry.2 := by
  induction head with
  | nil => rfl
  | cons entry head ih =>
    cases head with
    | nil => simp [spelled, lastBlank]
    | cons next head =>
      rw [List.flatMap_cons, ← ih, spelled]
      simp [lastBlank, List.getLast?_cons]

/-! ### The match of a line -/

/-- What a match of the family makes of its line. -/
def redactedBy (family : SecretFamily) (found : Cursor) : Text :=
  if family.wholeLine then (found.group 1).getD [] ++ "<redacted>"
  else (found.group 1).getD [] ++ "<redacted>" ++ (found.group 2).getD [] ++ found.rest

theorem redactedBy_eq (family : SecretFamily) (seen before rest : Text) :
    redactedBy family ⟨seen, [], tailGroups family rest ++ [(1, before)]⟩ =
      before ++ "<redacted>" ++ family.kept rest := by
  rw [redactedBy, tailGroups, SecretFamily.kept]
  split <;> simp [Cursor.group]

namespace SecretLine

variable (line : SecretLine)

/-- Where the blanks before the secret begin. -/
def words : Text := line.indent ++ spelled line.head

theorem words_append : line.words ++ lastBlank line.head = line.before := by
  rw [words, List.append_assoc, spelled_append_lastBlank, before]

theorem head_ne : line.head ≠ [] := by
  intro empty
  have aligned := line.head_words.length_eq
  rw [empty, line.family.words_eq] at aligned
  cases aligned

theorem lastBlank_blank : IsBlank (lastBlank line.head) := by
  obtain ⟨head, last, split⟩ := List.eq_nil_or_concat line.head |>.resolve_left line.head_ne
  have known := line.head_blanks last (by rw [split]; simp)
  rw [lastBlank, split]
  simpa using known

/-- The first word of the head is one of the keywords with which the family begins. -/
theorem exists_first : ∃ w t, spelled line.head = w ++ t ∧ IsWord w ∧ (∃ rest, (∀ t, Stops (rest ++ t)) ∧
    line.head.flatMap (fun entry => entry.1 ++ entry.2) = w ++ rest) ∧
    ∃ keyword ∈ line.family.firstKeywords, spells keyword w = true := by
  obtain ⟨entry, head, split⟩ := List.exists_cons_of_ne_nil line.head_ne
  have accepts := line.head_words
  rw [line.family.words_eq, split] at accepts
  obtain ⟨⟨word, keyword⟩, -⟩ := List.forall₂_cons.mp accepts
  have blank := line.head_blanks entry (by rw [split]; exact List.mem_cons_self)
  refine ⟨entry.1, ?_, ?_, word, ⟨entry.2 ++ head.flatMap fun entry => entry.1 ++ entry.2, fun t => ?_, ?_⟩, keyword⟩
  · exact (spelled line.head).drop entry.1.length
  · rw [split]
    cases head with
    | nil => simp [spelled]
    | cons next head => simp [spelled]
  · rw [List.append_assoc]
    exact blank.stops_append
  · rw [split, List.flatMap_cons, List.append_assoc]

theorem head?_spelled {t : Text} (c : Char) (here : c ∈ (spelled line.head ++ t).head?) : Text.isSpace c = false := by
  obtain ⟨w, t', split, word, -⟩ := line.exists_first
  rw [split, List.append_assoc] at here
  exact word.head?_append here

variable {line} {first rest : Text}

/-- Behind the words of the line, what the pattern makes of the secret. -/
theorem head?_afterHead (word : IsWord first) (stops : Stops rest) (oneLine : '\n' ∉ rest) (seen b : Text)
    (blank : IsBlank b) (family : SecretFamily) :
    ((afterHead family ⟨seen, b ++ (first ++ rest), []⟩).head?).map (redactedBy family) =
      if family = .isakmpKey ∧ leadsToAddress rest = false then none
      else some (family.redacted (seen.reverse ++ b) first rest) := by
  by_cases typed : family.typed = true ∧ first.all Text.isDecimal = true ∧ wordOf rest ≠ []
  · obtain ⟨typed, digits, follows⟩ := typed
    have other : family ≠ .isakmpKey := by
      rintro rfl
      cases typed
    have within : '\n' ∉ afterWord rest := fun here => oneLine (by
      rw [← blanksOf_append rest]
      exact List.mem_append_right _ (List.mem_append_right _ here))
    rw [head?_afterHead_typed blank word stops oneLine typed digits follows,
      head?_secretEnd ⟨follows, fun c here => wordOf_all here⟩ (stops_afterWord rest) within,
      if_neg (by simp [other]), if_neg (by simp [other]), Option.map_some, redactedBy_eq,
      SecretFamily.redacted, typed, digits]
    simp [follows]
  · have untyped : family.typed = true → first.all Text.isDecimal = true → wordOf rest = [] := by
      intro isTyped digits
      by_contra follows
      exact typed ⟨isTyped, digits, follows⟩
    rw [afterHead_eq blank word stops untyped, head?_secretEnd word stops oneLine]
    by_cases dead : family = .isakmpKey ∧ leadsToAddress rest = false
    · rw [if_pos dead, if_pos dead]
      rfl
    · rw [if_neg dead, if_neg dead, Option.map_some, redactedBy_eq, SecretFamily.redacted]
      have noType : (family.typed && first.all Text.isDecimal && !(wordOf rest).isEmpty) = false := by
        rw [← Bool.not_eq_true]
        simp only [Bool.and_eq_true, Bool.not_eq_true', List.isEmpty_eq_false_iff]
        exact fun h => typed ⟨h.1.1, h.1.2, h.2⟩
      have notDead : (decide (family = .isakmpKey) && !leadsToAddress rest) = false := by
        rw [← Bool.not_eq_true]
        simpa using dead
      rw [noType, notDead]
      simp

/-- The pattern of the family takes the word behind the head for the secret, or for an encryption type. -/
theorem matchStart_before (word : IsWord first) (stops : Stops rest)
    (oneLine : '\n' ∉ line.before ++ (first ++ rest)) :
    (matchStart line.family.pattern (line.before ++ (first ++ rest))).map (redactedBy line.family) =
      if line.family = .isakmpKey ∧ leadsToAddress rest = false then none
      else some (line.family.redacted line.before first rest) := by
  have within : '\n' ∉ rest := fun here => oneLine (List.mem_append_right _ (List.mem_append_right _ here))
  have behind := head?_afterHead word stops within line.words.reverse (lastBlank line.head) line.lastBlank_blank
    line.family
  rw [List.reverse_reverse, line.words_append] at behind
  rw [← behind, matchStart, results_pattern]
  congr 1
  -- the blanks before the line, then its words
  have plain := line.family.firstKeywords_plain
  have refuses : Refuses (runs (seqs (chain line.family.words)) (afterHead line.family)) Text.isSpace := by
    obtain ⟨k', first, -⟩ := seqs_chain_cons (k := afterHead line.family) (.oneOf line.family.firstKeywords)
      line.family.words.tail
    rw [line.family.words_eq, first]
    exact refuses_keywords plain
  have split : line.before ++ (first ++ rest) =
      line.indent ++ (spelled line.head ++ (lastBlank line.head ++ (first ++ rest))) := by
    rw [← line.words_append, words]
    simp only [List.append_assoc]
  have stopsHead : Stops (lastBlank line.head ++ (first ++ rest)) := line.lastBlank_blank.stops_append
  rw [split] at oneLine
  rw [split, space, runs_star refuses line.indent_blank line.head?_spelled]
  have seenWords : (spelled line.head).reverse ++ (line.indent.reverse ++ []) = line.words.reverse := by
    rw [words, List.reverse_append, List.append_nil]
  by_cases username : line.family = .username
  · rw [if_neg (by simp [username])] at behind
    obtain ⟨m', found, -⟩ := Option.map_eq_some_iff.mp behind
    have accepts := line.head_words
    rw [username] at accepts
    rw [found, show line.family.words = SecretFamily.username.words by rw [username]]
    refine head?_runs_username accepts line.head_blanks (needsBlank_afterHead _) stopsHead (fun here => oneLine ?_) ?_
    · exact List.mem_append_right _ (List.mem_append_left _ here)
    · rw [seenWords]
      exact found
  · rw [head?_runs_words (SecretFamily.words_plain username) line.head_words line.head_blanks
      (needsBlank_afterHead _) stopsHead, seenWords]

/-- The patterns of the other families do not match. -/
theorem matchStart_other {family : SecretFamily} (other : family ≠ line.family) (t : Text) :
    matchStart family.pattern (line.before ++ t) = none := by
  obtain ⟨w, -, -, word, ⟨rest, stops, split⟩, keyword, known, spelled_⟩ := line.exists_first
  rw [before, split, List.append_assoc, List.append_assoc]
  refine matchStart_refused line.indent_blank word (stops t) fun keyword' known' => ?_
  rw [← Bool.not_eq_true]
  intro spelled'
  have same := eq_of_spells (family.firstKeywords_plain.1 keyword' known') (line.family.firstKeywords_plain.1 keyword known)
    spelled' spelled_
  rw [same] at known'
  exact other (SecretFamily.eq_of_firstKeyword known' known)

/-- Of several families only the one of the line is found. -/
theorem findSome?_pattern (families : List SecretFamily) (t : Text) :
    (families.findSome? fun family => matchStart family.pattern (line.before ++ t)) =
      if line.family ∈ families then matchStart line.family.pattern (line.before ++ t) else none := by
  induction families with
  | nil => rfl
  | cons family families ih =>
    rw [List.findSome?_cons, ih]
    by_cases same : family = line.family
    · rw [same, if_pos List.mem_cons_self]
      cases here : matchStart line.family.pattern (line.before ++ t) with
      | none => simp
      | some found => rfl
    · rw [matchStart_other same]
      simp [Ne.symm same]

/-- What becomes of a line that holds a secret. -/
theorem redactLine_before (word : IsWord first) (stops : Stops rest)
    (oneLine : '\n' ∉ line.before ++ (first ++ rest)) :
    redactLine (line.before ++ (first ++ rest)) = line.family.redacted line.before first rest := by
  have matched := matchStart_before word stops oneLine
  have full : line.family ∈ fullLineSecretPatterns ↔ line.family.wholeLine = true := by
    cases line.family <;> decide
  have token : line.family ∈ tokenSecretPatterns ↔ line.family.wholeLine = false := by
    cases line.family <;> decide
  rw [redactLine, findSome?_pattern, findSome?_pattern]
  cases whole : line.family.wholeLine with
  | true =>
    rw [if_pos (full.mpr whole)]
    have other : line.family ≠ .isakmpKey := by
      intro same
      rw [same] at whole
      cases whole
    rw [if_neg (by simp [other])] at matched
    obtain ⟨found, here, by_⟩ := Option.map_eq_some_iff.mp matched
    rw [here, ← by_, redactedBy, if_pos whole]
  | false =>
    rw [if_neg (by simp [full, whole]), if_pos (token.mpr whole)]
    by_cases dead : line.family = .isakmpKey ∧ leadsToAddress rest = false
    · rw [if_pos dead, Option.map_eq_none_iff] at matched
      rw [matched]
      simp [SecretFamily.redacted, dead.1, dead.2, SecretFamily.typed]
    · rw [if_neg dead] at matched
      obtain ⟨found, here, by_⟩ := Option.map_eq_some_iff.mp matched
      rw [here, ← by_, redactedBy, whole]
      rfl

end SecretLine

end SwitchOps
