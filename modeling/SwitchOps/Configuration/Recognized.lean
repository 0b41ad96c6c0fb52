import SwitchOps.Configuration.Secrets

/-!
# What the patterns recognize

The converse of `Configuration.Secrets`: a line that a pattern matches is a `SecretLine` with some
secret (`exists_secretLine`), so that a line without a secret is left as it is (`redactLine_other`).
-/

namespace SwitchOps

open Regex

/-! ## The texts of the words -/

theorem denotes_litIgnoringCase {keyword w : Text} : Denotes (litIgnoringCase keyword) w ↔ spells keyword w = true := by
  induction keyword generalizing w with
  | nil => cases w <;> simp [litIgnoringCase, Denotes, spells]
  | cons a keyword ih =>
    constructor
    · rintro ⟨_, v, rfl, ⟨c, same, rfl⟩, later⟩
      rw [List.singleton_append, spells, same, ih.mp later]
      rfl
    · intro spelled
      cases w with
      | nil => cases spelled
      | cons c w =>
        rw [spells, Bool.and_eq_true] at spelled
        exact ⟨[c], w, rfl, ⟨c, spelled.1, rfl⟩, ih.mpr spelled.2⟩

theorem denotes_alts {rs : List Regex} {w : Text} (h : Denotes (alts rs) w) : ∃ r ∈ rs, Denotes r w := by
  induction rs with
  | nil =>
    obtain ⟨c, refused, -⟩ := h
    cases refused
  | cons r rs ih =>
    cases rs with
    | nil => exact ⟨r, List.mem_cons_self, h⟩
    | cons s rs =>
      rcases h with first | later
      · exact ⟨r, List.mem_cons_self, first⟩
      · obtain ⟨r', known, denotes⟩ := ih later
        exact ⟨r', List.mem_cons_of_mem _ known, denotes⟩

/-- A spelled keyword is a word. -/
theorem isWord_of_spells {keyword w : Text} (plain : keyword.all isKeywordChar = true) (ne : keyword ≠ [])
    (h : spells keyword w = true) : IsWord w := by
  constructor
  · rintro rfl
    cases keyword with
    | nil => exact ne rfl
    | cons a keyword => cases h
  · clear ne
    induction keyword generalizing w with
    | nil =>
      cases w with
      | nil => simp
      | cons c w => cases h
    | cons a keyword ih =>
      cases w with
      | nil => cases h
      | cons c w =>
        rw [List.all_cons, Bool.and_eq_true] at plain
        rw [spells, Bool.and_eq_true] at h
        rw [List.forall_mem_cons]
        exact ⟨(keyOf_eq plain.1 h.1).2, ih plain.2 h.2⟩

/-- A word that is read at its place is accepted there. -/
theorem HeadWord.accepts_of_denotes {x : HeadWord} {w : Text} (plain : x.Plain) (h : Denotes x.regex w) :
    x.Accepts w := by
  cases x with
  | oneOf keywords =>
    obtain ⟨r, known, denotes⟩ := denotes_alts h
    obtain ⟨keyword, isKeyword, rfl⟩ := List.mem_map.mp known
    have spelled := denotes_litIgnoringCase.mp denotes
    exact ⟨isWord_of_spells (plain.1 keyword isKeyword) (plain.2 keyword isKeyword) spelled, keyword, isKeyword,
      spelled⟩
  | number =>
    obtain ⟨ne, digits⟩ := denotes_plus_chr.mp h
    exact ⟨⟨ne, fun c here => Text.isSpace_of_isDecimal (digits c here)⟩, digits⟩
  | anyWord =>
    obtain ⟨ne, visible⟩ := denotes_plus_chr.mp h
    exact ⟨ne, fun c here => by simpa using visible c here⟩
  | nameAndMore => exact plain.elim

/-! ## The head of a line -/

/-- Words with the blanks behind them that stand for the words of a family. -/
structure IsHead (words : List HeadWord) (head : List (Text × Text)) : Prop where
  accepts : List.Forall₂ HeadWord.Accepts words (head.map (·.1))
  blanks : ∀ entry ∈ head, IsBlank entry.2

theorem IsHead.cons {x : HeadWord} {words : List HeadWord} {w b : Text} {head : List (Text × Text)}
    (accepts : x.Accepts w) (blank : IsBlank b) (h : IsHead words head) : IsHead (x :: words) ((w, b) :: head) :=
  ⟨.cons accepts h.accepts, List.forall_mem_cons.mpr ⟨blank, h.blanks⟩⟩

theorem IsHead.nil : IsHead [] [] := ⟨.nil, by simp⟩

theorem denotes_seqs_cons {r : Regex} {rs : List Regex} {w : Text} (h : Denotes (seqs (r :: rs)) w) :
    ∃ u v, w = u ++ v ∧ Denotes r u ∧ Denotes (seqs rs) v := h

theorem isBlank_of_denotes {b : Text} (h : Denotes (plus space) b) : IsBlank b := denotes_plus_chr.mp h

theorem exists_head {words : List HeadWord} {x : HeadWord} {w b : Text} (plain : ∀ y ∈ x :: words, y.Plain)
    (h : Denotes (seqs (chain (x :: words))) w) (blank : IsBlank b) :
    ∃ head, IsHead (x :: words) head ∧ (head.flatMap fun entry => entry.1 ++ entry.2) = w ++ b := by
  induction words generalizing x w with
  | nil =>
    obtain ⟨w, _, rfl, word, rfl⟩ := denotes_seqs_cons h
    exact ⟨[(w, b)], .cons (HeadWord.accepts_of_denotes (plain x List.mem_cons_self) word) blank .nil, by simp⟩
  | cons y words ih =>
    rw [chain, List.map_cons, List.map_cons, List.intersperse_cons_cons] at h
    obtain ⟨w, _, rfl, word, later⟩ := denotes_seqs_cons h
    obtain ⟨between, later, rfl, blanks, later⟩ := denotes_seqs_cons later
    obtain ⟨head, isHead, flat⟩ := ih (fun z known => plain z (List.mem_cons_of_mem _ known)) later
    refine ⟨(w, between) :: head, .cons (HeadWord.accepts_of_denotes (plain x List.mem_cons_self) word)
      (isBlank_of_denotes blanks) isHead, ?_⟩
    rw [List.flatMap_cons, flat]
    simp only [List.append_assoc]

/-! ### The name of a user -/

theorem afterWord_eq_nil {t : Text} (h : wordOf t = []) : afterWord t = [] := by
  cases here : afterWord t with
  | nil => rfl
  | cons c rest =>
    have blank := stops_afterWord t c (by simp [here])
    rw [head?_wordOf_append (c := c) (t := t) (by simp [h, here])] at blank
    cases blank

/-- What follows a blank begins with a word. -/
theorem wordOf_ne_nil {t : Text} {c : Char} (here : c ∈ t) (visible : Text.isSpace c = false) : wordOf t ≠ [] := by
  intro empty
  have whole := blanksOf_append t
  rw [empty, afterWord_eq_nil empty, List.append_nil, List.append_nil] at whole
  rw [← whole] at here
  rw [blanksOf_all here] at visible
  cases visible

/-- A text goes on with a keyword, and a word behind it. -/
def KeywordNext (t : Text) : Prop :=
  ∃ b w b' u, t = b ++ (w ++ (b' ++ u)) ∧ IsBlank b ∧
    (HeadWord.oneOf SecretFamily.secretOrPassword).Accepts w ∧ IsBlank b' ∧ wordOf u ≠ [] ∧
    ∀ c ∈ u.head?, Text.isSpace c = false

theorem KeywordNext.stops {t : Text} (h : KeywordNext t) : Stops t := by
  obtain ⟨b, w, b', u, rfl, blank, -⟩ := h
  exact blank.stops_append

/-- The first keyword in a text that has one. -/
theorem first_keyword {t : Text} (known : KeywordNext t) (y : Text) (stops : Stops y) :
    ∃ more t', Unspelled SecretFamily.secretOrPassword more ∧ KeywordNext t' ∧
      y ++ t = (more.flatMap fun entry => entry.1 ++ entry.2) ++ t' := by
  induction size : y.length using Nat.strong_induction_on generalizing y with
  | _ n ih =>
    by_cases empty : y = []
    · exact ⟨[], t, by simp [Unspelled], known, by simp [empty]⟩
    have blank := isBlank_blanksOf stops empty
    have split := blanksOf_append y
    by_cases ends : wordOf y = []
    · -- blanks only, which come before those of the keyword
      obtain ⟨b, w, b', u, rfl, isBlank, rest⟩ := known
      rw [ends, afterWord_eq_nil ends, List.append_nil, List.append_nil] at split
      rw [split] at blank
      refine ⟨[], y ++ (b ++ (w ++ (b' ++ u))), by simp [Unspelled], ⟨y ++ b, w, b', u, by simp, ?_, rest⟩, by simp⟩
      exact ⟨by simp [blank.1], fun c here => (List.mem_append.mp here).elim (blank.2 c) (isBlank.2 c)⟩
    · have word : IsWord (wordOf y) := ⟨ends, fun c here => wordOf_all here⟩
      by_cases spelled : ∃ keyword ∈ SecretFamily.secretOrPassword, spells keyword (wordOf y) = true
      · -- the text behind this keyword has a word, the keyword of `t` if no other
        have behind : Stops (afterWord y ++ t) := (stops_afterWord y).append known.stops
        have follows : wordOf (afterWord y ++ t) ≠ [] := by
          obtain ⟨b, w, b', u, rfl, -, ⟨isWord, -⟩, -⟩ := known
          obtain ⟨c, w, rfl⟩ := List.exists_cons_of_ne_nil isWord.1
          exact wordOf_ne_nil (c := c) (by simp) (isWord.2 c List.mem_cons_self)
        have notEmpty : afterWord y ++ t ≠ [] := fun nothing => follows (by rw [nothing]; rfl)
        refine ⟨[], y ++ t, by simp [Unspelled], ⟨blanksOf y, wordOf y, blanksOf (afterWord y ++ t),
          wordOf (afterWord y ++ t) ++ afterWord (afterWord y ++ t), ?_, blank, ⟨word, spelled⟩,
          isBlank_blanksOf behind notEmpty, ?_, fun c here => head?_wordOf_append here⟩, by simp⟩
        · rw [blanksOf_append, ← List.append_assoc, ← List.append_assoc, List.append_assoc (blanksOf y), split]
        · obtain ⟨c, w, here⟩ := List.exists_cons_of_ne_nil follows
          exact wordOf_ne_nil (c := c) (by simp [here]) (wordOf_all (by rw [here]; exact List.mem_cons_self))
      · have shorter : (afterWord y).length < n := by
          have lengths := congrArg List.length split
          rw [List.length_append, List.length_append, size] at lengths
          have some := List.length_pos_iff.mpr blank.1
          omega
        obtain ⟨more, t', unspelled, next, rest⟩ := ih _ shorter (afterWord y) (stops_afterWord y) rfl
        refine ⟨(blanksOf y, wordOf y) :: more, t', List.forall_mem_cons.mpr ⟨⟨blank, word, ?_⟩, unspelled⟩, next, ?_⟩
        · intro keyword isKeyword
          rw [← Bool.not_eq_true]
          exact fun here => spelled ⟨keyword, isKeyword, here⟩
        · rw [List.flatMap_cons, List.append_assoc, ← rest]
          conv_lhs => rw [← split]
          simp only [List.append_assoc]

theorem exists_username_head {w b u : Text} (h : Denotes (seqs (chain SecretFamily.username.words)) w)
    (blank : IsBlank b) (follows : wordOf u ≠ []) (visible : ∀ c ∈ u.head?, Text.isSpace c = false) :
    ∃ head u', IsHead SecretFamily.username.words head ∧ wordOf u' ≠ [] ∧
      (∀ c ∈ u'.head?, Text.isSpace c = false) ∧
      w ++ (b ++ u) = (head.flatMap fun entry => entry.1 ++ entry.2) ++ u' := by
  rw [chain, SecretFamily.words] at h
  simp only [List.map_cons, List.map_nil, List.intersperse_cons_cons, List.intersperse_singleton] at h
  obtain ⟨user, _, rfl, isUser, behind₁⟩ := denotes_seqs_cons h
  obtain ⟨b₁, _, rfl, blank₁, behind₂⟩ := denotes_seqs_cons behind₁
  obtain ⟨_, _, rfl, ⟨name, more, rfl, isName, -⟩, behind₃⟩ := denotes_seqs_cons behind₂
  obtain ⟨b₂, _, rfl, blank₂, behind₄⟩ := denotes_seqs_cons behind₃
  obtain ⟨keyword, _, rfl, isKeyword, rfl⟩ := denotes_seqs_cons behind₄
  have acceptsUser : (HeadWord.oneOf ["username"]).Accepts user := 
    HeadWord.accepts_of_denotes (show PlainKeywords ["username".toList] by decide) isUser
  have acceptsKeyword : (HeadWord.oneOf SecretFamily.secretOrPassword).Accepts keyword :=
    HeadWord.accepts_of_denotes (show PlainKeywords SecretFamily.secretOrPassword by decide) isKeyword
  obtain ⟨named, nameVisible⟩ := denotes_plus_chr.mp isName
  -- the name is the whole word that `\S+` begins
  have last : KeywordNext (b₂ ++ (keyword ++ (b ++ u))) :=
    ⟨b₂, keyword, b, u, rfl, isBlank_of_denotes blank₂, acceptsKeyword, blank, follows, visible⟩
  obtain ⟨others, t', unspelled, ⟨b₃, keyword', b₄, u', rfl, blank₃, accepts', blank₄, follows', visible'⟩, split⟩ :=
    first_keyword last (more.dropWhile (!Text.isSpace ·)) fun c here => by
      have first := List.head?_dropWhile_not (!Text.isSpace ·) more
      rw [Option.mem_def.mp here] at first
      simpa using first
  have word : IsWord (name ++ more.takeWhile (!Text.isSpace ·)) := by
    refine ⟨by simp [named], fun c here => ?_⟩
    rcases List.mem_append.mp here with here | here
    · simpa using nameVisible c here
    · simpa using List.mem_takeWhile_imp here
  refine ⟨[(user, b₁), (name ++ more.takeWhile (!Text.isSpace ·) ++ others.flatMap (fun entry => entry.1 ++ entry.2), b₃),
    (keyword', b₄)], u', ?_, follows', visible', ?_⟩
  · refine .cons acceptsUser (isBlank_of_denotes blank₁) (.cons ?_ blank₃ (.cons accepts' blank₄ .nil))
    exact ⟨_, others, word, unspelled, rfl⟩
  · have name : more.takeWhile (!Text.isSpace ·) ++ more.dropWhile (!Text.isSpace ·) = more :=
      List.takeWhile_append_dropWhile
    conv_lhs => rw [← name]
    simp only [List.append_assoc, List.append_nil, List.flatMap_cons, List.flatMap_nil] at split ⊢
    rw [split]

/-! ## Lines without a secret -/

/-- A line of a family, the secret included. -/
def HoldsSecret (text : Text) : Prop := ∃ (line : SecretLine) (secret : Secret), text = line.text secret

/-- A match begins with the blanks before a line, its head, and the word behind the head. -/
theorem denotes_pattern {family : SecretFamily} {w : Text} (h : Denotes family.pattern w) :
    ∃ indent head b u, w = indent ++ (head ++ (b ++ u)) ∧ (∀ c ∈ indent, Text.isSpace c = true) ∧
      Denotes (seqs (chain family.words)) head ∧ IsBlank b ∧ wordOf u ≠ [] ∧
      ∀ c ∈ u.head?, Text.isSpace c = false := by
  obtain ⟨_, _, rfl, rfl, behind₁⟩ := denotes_seqs_cons h
  obtain ⟨first, _, rfl, isFirst, behind₂⟩ := denotes_seqs_cons behind₁
  obtain ⟨secret, tail, rfl, isSecret, -⟩ := denotes_seqs_cons behind₂
  obtain ⟨indent, _, rfl, isIndent, behind₃⟩ := denotes_seqs_cons (id isFirst)
  obtain ⟨head, type, rfl, isHead, isType⟩ := denotes_seqs_cons behind₃
  have begins : ∀ {v : Text} (t : Text), IsWord v → wordOf (v ++ t) ≠ [] ∧ ∀ c ∈ (v ++ t).head?, Text.isSpace c = false := by
    intro v t isWord
    obtain ⟨c, v, rfl⟩ := List.exists_cons_of_ne_nil isWord.1
    exact ⟨wordOf_ne_nil (c := c) (by simp) (isWord.2 c List.mem_cons_self), fun d here => isWord.head?_append here⟩
  have word : IsWord secret := by
    obtain ⟨named, visible⟩ := denotes_plus_chr.mp isSecret
    exact ⟨named, fun c here => by simpa using visible c here⟩
  -- the word behind the head is an encryption type, or the secret
  obtain ⟨b, u, split, blank, follows⟩ : ∃ b u, type ++ (secret ++ tail) = b ++ u ∧ IsBlank b ∧
      wordOf u ≠ [] ∧ ∀ c ∈ u.head?, Text.isSpace c = false := by
    cases typed : family.typed with
    | false =>
      rw [typed] at isType
      obtain ⟨b, _, rfl, blank, rfl⟩ := denotes_seqs_cons isType
      exact ⟨b, secret ++ tail, by simp, isBlank_of_denotes blank, begins tail word⟩
    | true =>
      rw [typed] at isType
      obtain ⟨type, _, rfl, isOption, behind₄⟩ := denotes_seqs_cons isType
      obtain ⟨b, _, rfl, blank, rfl⟩ := denotes_seqs_cons behind₄
      rcases isOption with isNumber | rfl
      · obtain ⟨b', _, rfl, blank', behind₅⟩ := denotes_seqs_cons isNumber
        obtain ⟨number, _, rfl, digits, rfl⟩ := denotes_seqs_cons behind₅
        obtain ⟨some, digits⟩ := denotes_plus_chr.mp digits
        refine ⟨b', number ++ (b ++ (secret ++ tail)), by simp, isBlank_of_denotes blank', begins _ ?_⟩
        exact ⟨some, fun c here => Text.isSpace_of_isDecimal (digits c here)⟩
      · exact ⟨b, secret ++ tail, by simp, isBlank_of_denotes blank, begins tail word⟩
  refine ⟨indent, head, b, u, ?_, denotes_star_chr.mp isIndent, isHead, blank, follows⟩
  rw [← split]
  simp

/-- What a pattern matches is a line of its family. -/
theorem holdsSecret_of_match {family : SecretFamily} {text : Text} {found : Cursor}
    (h : matchStart family.pattern text = some found) : HoldsSecret text := by
  obtain ⟨w, ⟨whole, -⟩, denotes⟩ := results_denotes _ _ found (List.mem_of_head? h)
  have split : text = w ++ found.rest := whole
  obtain ⟨indent, headText, b, u, rfl, blanks, isHead, blank, follows, visible⟩ := denotes_pattern denotes
  -- the head as a list of words, and the text from the secret on
  obtain ⟨head, u', aligned, follows', visible', again⟩ : ∃ head u', IsHead family.words head ∧ wordOf u' ≠ [] ∧
      (∀ c ∈ u'.head?, Text.isSpace c = false) ∧
      headText ++ (b ++ u) = (head.flatMap fun entry => entry.1 ++ entry.2) ++ u' := by
    by_cases username : family = .username
    · rw [username] at isHead ⊢
      exact exists_username_head isHead blank follows visible
    · have plain := SecretFamily.words_plain username
      rw [family.words_eq] at isHead plain ⊢
      obtain ⟨head, aligned, flat⟩ := exists_head plain isHead blank
      exact ⟨head, u, aligned, follows, visible, by rw [flat, List.append_assoc]⟩
  obtain ⟨c, u', rfl⟩ := List.exists_cons_of_ne_nil (show u' ≠ [] by rintro rfl; exact follows' rfl)
  have first : Text.isSpace c = false := visible' c rfl
  have noBlanks : blanksOf (c :: u' ++ found.rest) = [] := by
    simp [blanksOf, first]
  have named : wordOf (c :: u' ++ found.rest) ≠ [] := wordOf_ne_nil (c := c) (by simp) first
  have remainder := blanksOf_append (c :: u' ++ found.rest)
  rw [noBlanks, List.nil_append] at remainder
  refine ⟨⟨family, indent, head, none, afterWord (c :: u' ++ found.rest), blanks, aligned.accepts, aligned.blanks,
    by simp, stops_afterWord _⟩, ⟨wordOf (c :: u' ++ found.rest), named, fun d here => wordOf_all here⟩, ?_⟩
  rw [SecretLine.text, SecretLine.before, SecretLine.type]
  simp only [Option.map_none, Option.getD_none, List.nil_append, remainder]
  rw [split, again]
  simp only [List.append_assoc, List.cons_append]

theorem redactLine_other {line : Text} (h : ¬ HoldsSecret line) : redactLine line = line := by
  have unmatched : ∀ family : SecretFamily, matchStart family.pattern line = none := fun family => by
    cases here : matchStart family.pattern line with
    | none => rfl
    | some found => exact absurd (holdsSecret_of_match here) h
  simp only [redactLine, unmatched, List.findSome?_eq_none_iff.mpr fun _ _ => rfl]

end SwitchOps
