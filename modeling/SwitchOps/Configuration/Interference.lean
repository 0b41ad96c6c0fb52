import SwitchOps.Configuration.Recognized

/-!
# Secrets that show

Two configurations differ in secrets only: line by line they are the same, or the same `SecretLine`
with two secrets. What the redaction shows then is the same exactly when every line `Hides` its two
secrets; other lines stay as they are in any case (`redactConfig_noninterfering_iff`).
-/

namespace SwitchOps

open Regex

/-! ## Two secrets on one line -/

theorem blanksOf_word {b w t : Text} (blank : IsBlank b) (word : IsWord w) : blanksOf (b ++ (w ++ t)) = b := by
  obtain ⟨c, w, rfl⟩ := List.exists_cons_of_ne_nil word.1
  have visible := word.2 c List.mem_cons_self
  rw [blanksOf, List.takeWhile_append_of_pos blank.2]
  simp [visible]

theorem dropWhile_word {b w t : Text} (blank : IsBlank b) (word : IsWord w) :
    (b ++ (w ++ t)).dropWhile Text.isSpace = w ++ t := by
  obtain ⟨c, w, rfl⟩ := List.exists_cons_of_ne_nil word.1
  have visible := word.2 c List.mem_cons_self
  rw [List.dropWhile_append_of_pos blank.2]
  simp [visible]

theorem wordOf_word {b w t : Text} (blank : IsBlank b) (word : IsWord w) (stops : Stops t) :
    wordOf (b ++ (w ++ t)) = w := by
  rw [wordOf, dropWhile_word blank word, List.takeWhile_append_of_pos fun c here => by simp [word.2 c here]]
  cases t with
  | nil => simp
  | cons c t => simp [stops c rfl]

theorem afterWord_word {b w t : Text} (blank : IsBlank b) (word : IsWord w) (stops : Stops t) :
    afterWord (b ++ (w ++ t)) = t := by
  rw [afterWord, dropWhile_word blank word, List.dropWhile_append_of_pos fun c here => by simp [word.2 c here]]
  cases t with
  | nil => rfl
  | cons c t => simp [stops c rfl]

namespace SecretFamily

variable {family : SecretFamily} {before first rest : Text}

/-- The word behind the head is taken for an encryption type. -/
theorem redacted_typed (typed : family.typed = true) (digits : first.all Text.isDecimal = true)
    (follows : wordOf rest ≠ []) : family.redacted before first rest =
      before ++ (first ++ (blanksOf rest ++ ("<redacted>" ++ family.kept (afterWord rest)))) := by
  rw [redacted, typed, digits]
  simp [follows]

/-- The word behind the head is redacted. -/
theorem redacted_secret (untyped : family.typed = true → first.all Text.isDecimal = true → wordOf rest = [])
    (alive : family = .isakmpKey → leadsToAddress rest = true) : family.redacted before first rest =
      before ++ ("<redacted>".toList ++ family.kept rest) := by
  have noType : (family.typed && first.all Text.isDecimal && !(wordOf rest).isEmpty) = false := by
    rw [← Bool.not_eq_true]
    simp only [Bool.and_eq_true, Bool.not_eq_true', List.isEmpty_eq_false_iff]
    exact fun h => h.2 (untyped h.1.1 h.1.2)
  have notDead : (decide (family = .isakmpKey) && !leadsToAddress rest) = false := by
    rw [← Bool.not_eq_true]
    simpa using alive
  rw [redacted, noType, notDead]
  simp

/-- The line is not recognized. -/
theorem redacted_unknown (leads : leadsToAddress rest = false) :
    SecretFamily.isakmpKey.redacted before first rest = before ++ (first ++ rest) := by
  rw [redacted, leads]
  simp [typed]

end SecretFamily

namespace SecretLine

variable (line : SecretLine) (s s' : Secret)

/-- Only digits. -/
def isNumber (secret : Secret) : Bool := secret.1.all Text.isDecimal

/-- What the redacted line shows of the secret is the same for the two. -/
def Hides : Prop :=
  s = s' ∨ match line.encryption with
    | some _ => line.family.typed = true
    | none =>
      (line.family.typed = true → wordOf line.trailing = [] ∨ (isNumber s = false ∧ isNumber s' = false)) ∧
      (line.family = .isakmpKey → leadsToAddress line.trailing = true)

instance : Decidable (line.Hides s s') := by
  unfold Hides
  cases line.encryption <;> infer_instance

/-- The redacted line. -/
def redactedText (secret : Secret) : Text :=
  match line.encryption with
  | none => line.family.redacted line.before secret.1 line.trailing
  | some (number, blanks) => line.family.redacted line.before number (blanks ++ (secret.1 ++ line.trailing))

variable {line s s'}

theorem redactLine_text (oneLine : '\n' ∉ line.text s) : redactLine (line.text s) = line.redactedText s := by
  rw [text, type] at *
  rw [redactedText]
  cases typed : line.encryption with
  | none =>
    rw [typed] at oneLine
    simp only [Option.map_none, Option.getD_none, List.nil_append] at oneLine ⊢
    exact redactLine_before s.2 line.trailing_stops oneLine
  | some entry =>
    obtain ⟨number, blanks⟩ := entry
    obtain ⟨word, -, blank⟩ := line.encryption_number (number, blanks) (by simp [typed])
    rw [typed] at oneLine
    simp only [Option.map_some, Option.getD_some, List.append_assoc] at oneLine ⊢
    exact redactLine_before word blank.stops_append oneLine

/-- No number begins as `<redacted>` does. -/
theorem redacted_ne_number {number before t t' : Text} (ne : number ≠ [])
    (digits : ∀ c ∈ number, Text.isDecimal c = true) :
    before ++ (number ++ t) ≠ before ++ ("<redacted>".toList ++ t') := by
  intro same
  obtain ⟨c, number, rfl⟩ := List.exists_cons_of_ne_nil ne
  have first : c = '<' := (List.cons.inj (List.append_cancel_left same)).1
  have digit := digits c List.mem_cons_self
  rw [first] at digit
  exact absurd digit (by decide)

theorem untyped_isakmpKey (same : line.family = .isakmpKey) : line.family.typed ≠ true := by
  rw [same]
  decide

/-- Without an encryption type the secret itself may be taken for one. -/
theorem redacted_eq_iff_of_typed (typed : line.family.typed = true) (follows : wordOf line.trailing ≠ []) :
    line.family.redacted line.before s.1 line.trailing = line.family.redacted line.before s'.1 line.trailing ↔
      s = s' ∨ (isNumber s = false ∧ isNumber s' = false) := by
  have plain : ∀ secret : Secret, isNumber secret = false → line.family.redacted line.before secret.1 line.trailing =
      line.before ++ ("<redacted>".toList ++ line.family.kept line.trailing) := fun secret word =>
    SecretFamily.redacted_secret (fun _ digits => absurd digits (by simpa [isNumber] using word))
      fun same => absurd typed (untyped_isakmpKey same)
  have number : ∀ secret : Secret, isNumber secret = true → line.family.redacted line.before secret.1 line.trailing =
      line.before ++ (secret.1 ++ (blanksOf line.trailing ++ ("<redacted>" ++ line.family.kept (afterWord line.trailing)))) :=
    fun secret digits => SecretFamily.redacted_typed typed digits follows
  cases first : isNumber s <;> cases second : isNumber s'
  · rw [plain s first, plain s' second]
    simp
  · rw [plain s first, number s' second]
    refine iff_of_false (fun same => ?_) ?_
    · exact redacted_ne_number s'.2.1 (fun c here => List.all_eq_true.mp second c here) same.symm
    · rintro (rfl | ⟨-, word⟩)
      · rw [first] at second
        cases second
      · cases word
  · rw [number s first, plain s' second]
    refine iff_of_false (redacted_ne_number s.2.1 fun c here => List.all_eq_true.mp first c here) ?_
    rintro (rfl | ⟨word, -⟩)
    · rw [first] at second
      cases second
    · cases word
  · rw [number s first, number s' second]
    simp only [List.append_cancel_left_eq, List.append_cancel_right_eq, Subtype.val_inj, Bool.true_eq_false, and_self,
      or_false]

/-- The type of a line without types is taken for the secret, or the line is not recognized. -/
theorem redacted_eq_iff_of_untyped (untyped : line.family.typed = false) {number : Text} (blanks : Text)
    (word : IsWord number) (digits : ∀ c ∈ number, Text.isDecimal c = true) :
    line.family.redacted line.before number (blanks ++ (s.1 ++ line.trailing)) =
      line.family.redacted line.before number (blanks ++ (s'.1 ++ line.trailing)) ↔ s = s' := by
  have secret : ∀ secret : Secret,
      (line.family = .isakmpKey → leadsToAddress (blanks ++ (secret.1 ++ line.trailing)) = true) →
      line.family.redacted line.before number (blanks ++ (secret.1 ++ line.trailing)) =
        line.before ++ ("<redacted>".toList ++ (blanks ++ (secret.1 ++ line.trailing))) := by
    intro secret alive
    have keeps : line.family.wholeLine = false := by
      revert untyped
      cases line.family <;> decide
    rw [SecretFamily.redacted_secret (fun typed => absurd typed (by simp [untyped])) alive, SecretFamily.kept, keeps]
    rfl
  by_cases isakmp : line.family = .isakmpKey
  · rw [isakmp] at secret ⊢
    cases first : leadsToAddress (blanks ++ (s.1 ++ line.trailing)) <;>
      cases second : leadsToAddress (blanks ++ (s'.1 ++ line.trailing))
    · rw [SecretFamily.redacted_unknown first, SecretFamily.redacted_unknown second]
      simp [Subtype.val_inj]
    · rw [SecretFamily.redacted_unknown first, secret s' fun _ => second]
      refine iff_of_false (redacted_ne_number word.1 digits) ?_
      rintro rfl
      rw [first] at second
      cases second
    · rw [secret s fun _ => first, SecretFamily.redacted_unknown second]
      refine iff_of_false (fun same => redacted_ne_number word.1 digits same.symm) ?_
      rintro rfl
      rw [first] at second
      cases second
    · rw [secret s fun _ => first, secret s' fun _ => second]
      simp [Subtype.val_inj]
  · rw [secret s fun same => absurd same isakmp, secret s' fun same => absurd same isakmp]
    simp [Subtype.val_inj]

theorem redactedText_eq_iff : line.redactedText s = line.redactedText s' ↔ line.Hides s s' := by
  rw [redactedText, redactedText, Hides]
  cases here : line.encryption with
  | none =>
    by_cases typed : line.family.typed = true
    · have other : line.family ≠ .isakmpKey := fun same => untyped_isakmpKey same typed
      simp only [typed, other, forall_const, false_implies, and_true]
      by_cases follows : wordOf line.trailing = []
      · have plain : ∀ secret : Secret, line.family.redacted line.before secret.1 line.trailing =
            line.before ++ ("<redacted>".toList ++ line.family.kept line.trailing) := fun secret =>
          SecretFamily.redacted_secret (fun _ _ => follows) fun same => absurd same other
        simp [plain, follows]
      · simpa only [follows, false_or] using redacted_eq_iff_of_typed typed follows
    · by_cases dead : line.family = .isakmpKey ∧ leadsToAddress line.trailing = false
      · rw [dead.1, SecretFamily.redacted_unknown dead.2, SecretFamily.redacted_unknown dead.2]
        simp [dead.2, Subtype.val_inj]
      · have alive : line.family = .isakmpKey → leadsToAddress line.trailing = true := by simpa using dead
        have plain : ∀ secret : Secret, line.family.redacted line.before secret.1 line.trailing =
            line.before ++ ("<redacted>".toList ++ line.family.kept line.trailing) := fun secret =>
          SecretFamily.redacted_secret (fun isTyped => absurd isTyped typed) alive
        rw [plain s, plain s']
        exact iff_of_true rfl (.inr ⟨fun isTyped => absurd isTyped typed, alive⟩)
  | some entry =>
    obtain ⟨number, blanks⟩ := entry
    obtain ⟨word, digits, blank⟩ := line.encryption_number (number, blanks) (by simp [here])
    by_cases typed : line.family.typed = true
    · -- the type is read, and the secret behind it is redacted
      have hidden : ∀ secret : Secret, line.family.redacted line.before number (blanks ++ (secret.1 ++ line.trailing)) =
          line.before ++ (number ++ (blanks ++ ("<redacted>" ++ line.family.kept line.trailing))) := by
        intro secret
        have follows : wordOf (blanks ++ (secret.1 ++ line.trailing)) ≠ [] := by
          rw [wordOf_word blank secret.2 line.trailing_stops]
          exact secret.2.1
        rw [SecretFamily.redacted_typed typed (List.all_eq_true.mpr fun c here => digits c here) follows,
          blanksOf_word blank secret.2, afterWord_word blank secret.2 line.trailing_stops]
      exact iff_of_true ((hidden s).trans (hidden s').symm) (.inr typed)
    · rw [Bool.not_eq_true] at typed
      refine (redacted_eq_iff_of_untyped typed blanks word digits).trans ?_
      simp [typed]

theorem redacted_oneLine {family : SecretFamily} {before first rest : Text}
    (oneLine : '\n' ∉ before ++ (first ++ rest)) : '\n' ∉ family.redacted before first rest := by
  have parts := blanksOf_append rest
  simp only [List.mem_append, not_or] at oneLine
  obtain ⟨inBefore, inFirst, inRest⟩ := oneLine
  have inParts := inRest
  rw [← parts] at inParts
  simp only [List.mem_append, not_or] at inParts
  have mark : '\n' ∉ "<redacted>".toList := by decide
  have kept : ∀ t : Text, '\n' ∉ t → '\n' ∉ family.kept t := by
    intro t absent
    rw [SecretFamily.kept]
    split
    · exact List.not_mem_nil
    · exact absent
  rw [SecretFamily.redacted]
  split
  · simp only [List.mem_append, not_or]
    exact ⟨⟨⟨⟨inBefore, inFirst⟩, inParts.1⟩, mark⟩, kept _ inParts.2.2⟩
  split
  · simp only [List.mem_append, not_or]
    exact ⟨⟨inBefore, inFirst⟩, inRest⟩
  · simp only [List.mem_append, not_or]
    exact ⟨⟨inBefore, mark⟩, kept _ inRest⟩

theorem redactedText_oneLine {secret : Secret} (oneLine : '\n' ∉ line.text secret) :
    '\n' ∉ line.redactedText secret := by
  rw [text, type] at oneLine
  rw [redactedText]
  cases here : line.encryption with
  | none =>
    rw [here] at oneLine
    simp only [Option.map_none, Option.getD_none, List.nil_append] at oneLine
    exact redacted_oneLine oneLine
  | some entry =>
    rw [here] at oneLine
    simp only [Option.map_some, Option.getD_some, List.append_assoc] at oneLine
    exact redacted_oneLine oneLine

end SecretLine

/-! ## Two configurations -/

/-- A line of two configurations that differ in secrets only. -/
inductive LinePair
  | same (line : Text)
  | secret (line : SecretLine) (s s' : Secret)

namespace LinePair

def left : LinePair → Text
  | same line => line
  | secret line s _ => line.text s

def right : LinePair → Text
  | same line => line
  | secret line _ s' => line.text s'

def Hides : LinePair → Prop
  | same _ => True
  | secret line s s' => line.Hides s s'

theorem redactLine_eq_iff {pair : LinePair} (left : '\n' ∉ pair.left) (right : '\n' ∉ pair.right) :
    redactLine pair.left = redactLine pair.right ↔ pair.Hides := by
  cases pair with
  | same line => exact iff_of_true rfl trivial
  | secret line s s' =>
    show redactLine (line.text s) = redactLine (line.text s') ↔ line.Hides s s'
    rw [SecretLine.redactLine_text left, SecretLine.redactLine_text right, SecretLine.redactedText_eq_iff]

theorem redactLine_oneLine {pair : LinePair} (left : '\n' ∉ pair.left) (right : '\n' ∉ pair.right) :
    redactLine pair.left = redactLine pair.right ∨
      ('\n' ∉ redactLine pair.left ∧ '\n' ∉ redactLine pair.right) := by
  cases pair with
  | same line => exact .inl rfl
  | secret line s s' =>
    refine .inr ?_
    show '\n' ∉ redactLine (line.text s) ∧ '\n' ∉ redactLine (line.text s')
    rw [SecretLine.redactLine_text left, SecretLine.redactLine_text right]
    exact ⟨SecretLine.redactedText_oneLine left, SecretLine.redactedText_oneLine right⟩

end LinePair

/-- **Where the redaction hides every secret**: two configurations that differ in secrets only look
the same after the redaction, and their other lines stay as they are, exactly when every pair of
lines `Hides` its secrets. -/
theorem redactConfig_noninterfering_iff {config config' : Text} {pairs : List LinePair}
    (left : config.splitlines = pairs.map LinePair.left) (right : config'.splitlines = pairs.map LinePair.right) :
    (redactConfig config = redactConfig config' ∧
      ∀ line ∈ config.splitlines ++ config'.splitlines, ¬ HoldsSecret line → redactLine line = line) ↔
    ∀ pair ∈ pairs, pair.Hides := by
  have others : ∀ line ∈ config.splitlines ++ config'.splitlines, ¬ HoldsSecret line → redactLine line = line :=
    fun line _ other => redactLine_other other
  have lefts : ∀ pair ∈ pairs, '\n' ∉ pair.left := fun pair here =>
    Text.newline_not_mem_of_mem_splitlines (by rw [left]; exact List.mem_map_of_mem here)
  have rights : ∀ pair ∈ pairs, '\n' ∉ pair.right := fun pair here =>
    Text.newline_not_mem_of_mem_splitlines (by rw [right]; exact List.mem_map_of_mem here)
  rw [and_iff_left others, redactConfig, redactConfig, left, right, List.map_map, List.map_map]
  refine (Text.join_map_eq_iff fun pair here => ?_).trans (forall₂_congr fun pair here => ?_)
  · exact LinePair.redactLine_oneLine (lefts pair here) (rights pair here)
  · exact LinePair.redactLine_eq_iff (lefts pair here) (rights pair here)

def alpha : Secret := ⟨"alpha".toList, by decide⟩
def bravo : Secret := ⟨"bravo".toList, by decide⟩

/-- `enable secret 5 …` -/
def enableSecret : SecretLine where
  family := .enable
  indent := []
  head := [("enable", " "), ("secret", " ")]
  encryption := some ("5", " ")
  trailing := []
  indent_blank := by simp
  head_words := .cons ⟨by decide, "enable", by decide, by decide⟩
    (.cons ⟨by decide, "secret", by decide, by decide⟩ .nil)
  head_blanks := by decide
  encryption_number := by decide
  trailing_stops := by decide

theorem redactConfig_noninterfering_iff_enableSecret :
    (redactConfig "hostname access\nenable secret 5 alpha" = redactConfig "hostname access\nenable secret 5 bravo" ∧
      ∀ line ∈ Text.splitlines "hostname access\nenable secret 5 alpha" ++
        Text.splitlines "hostname access\nenable secret 5 bravo", ¬ HoldsSecret line → redactLine line = line) ↔
    ∀ pair ∈ [.same "hostname access", .secret enableSecret alpha bravo], LinePair.Hides pair :=
  redactConfig_noninterfering_iff (by decide) (by decide)

/-- `crypto isakmp key 6 … address 10.0.0.1` -/
def isakmpKey : SecretLine where
  family := .isakmpKey
  indent := []
  head := [("crypto", " "), ("isakmp", " "), ("key", " ")]
  encryption := some ("6", " ")
  trailing := " address 10.0.0.1"
  indent_blank := by simp
  head_words := .cons ⟨by decide, "crypto", by decide, by decide⟩
    (.cons ⟨by decide, "isakmp", by decide, by decide⟩ (.cons ⟨by decide, "key", by decide, by decide⟩ .nil))
  head_blanks := by decide
  encryption_number := by decide
  trailing_stops := by decide

/-- An encrypted key is not recognized, and shows. -/
theorem not_redactConfig_noninterfering_isakmpKey : ¬ ∀ (config config' : Text) (pairs : List LinePair),
    config.splitlines = pairs.map LinePair.left → config'.splitlines = pairs.map LinePair.right →
      redactConfig config = redactConfig config' ∧
        ∀ line ∈ config.splitlines ++ config'.splitlines, ¬ HoldsSecret line → redactLine line = line := by
  intro claim
  have same := (claim "crypto isakmp key 6 alpha address 10.0.0.1" "crypto isakmp key 6 bravo address 10.0.0.1"
    [.secret isakmpKey alpha bravo] (by decide) (by decide)).1
  revert same
  decide +kernel

end SwitchOps
