import Mathlib.Data.List.Dedup
import Mathlib.Data.List.Infix
import Mathlib.Data.List.Sort
import Mathlib.Data.List.TakeWhile
import Mathlib.Tactic.Ring
import SwitchOps.Lib.Unicode

/-!
# Text, with the operations of Python's `str`

A text is its list of code points. The operations carry the names and the documented behaviour
of the `str` methods they stand for; string literals are coerced, so that a definition can be
read beside the program it models.
-/

/-- A Python `str`, as the list of its code points. -/
abbrev Text := List Char

instance : Coe String Text := ⟨String.toList⟩

-- named here, so that a definition does not carry a proof of it
instance : LawfulBEq Text := inferInstance

namespace Text

/-- What holds of the characters of a text is decided one character after the other, not for all there are. -/
instance (priority := high) decidableForallMem (p : Char → Prop) [DecidablePred p] (t : List Char) :
    Decidable (∀ c ∈ t, p c) :=
  List.decidableBAll p t

instance (priority := high) decidableExistsMem (p : Char → Prop) [DecidablePred p] (t : List Char) :
    Decidable (∃ c ∈ t, p c) :=
  List.decidableBEx p t

/-! ### Characters -/

/-- `c.isspace()`. -/
def isSpace (c : Char) : Bool :=
  if c.toNat < 128 then c == ' ' || (9 ≤ c.toNat && c.toNat ≤ 13) || (28 ≤ c.toNat && c.toNat ≤ 31)
  else Unicode.spaces.contains c.toNat

/-- A character at which `str.splitlines` ends a line. -/
def isLineBreak (c : Char) : Bool := Unicode.lineBreaks.contains c.toNat

/-- The value of a decimal digit, `none` for any other character. -/
def decimalValue (c : Char) : Option Nat :=
  if c.toNat < 128 then
    if 48 ≤ c.toNat && c.toNat ≤ 57 then some (c.toNat - 48) else none
  else
    (Unicode.zeros.find? fun z => z ≤ c.toNat && c.toNat < z + 10).map (c.toNat - ·)

/-- `c.isdecimal()`, the class `\d` of the `re` module. -/
def isDecimal (c : Char) : Bool := (decimalValue c).isSome

/-- `c.isdigit()`: the decimal digits and a few more, such as superscripts. -/
def isDigitChar (c : Char) : Bool :=
  isDecimal c || Unicode.otherDigits.any fun (first, last) => first ≤ c.toNat && c.toNat ≤ last

/-- `c.lower()`. (U+03A3 is always mapped to U+03C3, also at the end of a word.) -/
def lowerChar (c : Char) : Text :=
  if c.toNat < 128 then
    [if 65 ≤ c.toNat && c.toNat ≤ 90 then Char.ofNat (c.toNat + 32) else c]
  else if c.toNat == 304 then [Char.ofNat 105, Char.ofNat 775]
  else [Char.ofNat (Unicode.mapCase Unicode.lowerRuns c.toNat)]

/-- `c.upper()`. -/
def upperChar (c : Char) : Text :=
  if c.toNat < 128 then
    [if 97 ≤ c.toNat && c.toNat ≤ 122 then Char.ofNat (c.toNat - 32) else c]
  else match Unicode.upperSpecial.find? (·.1 == c.toNat) with
    | some (_, image) => image.map Char.ofNat
    | none => [Char.ofNat (Unicode.mapCase Unicode.upperRuns c.toNat)]

/-! ### Whole texts -/

/-- `c.casefold()`: for most characters what `lower` gives. -/
def casefoldChar (c : Char) : Text :=
  if c.toNat < 128 then lowerChar c
  else match Unicode.foldSpecial.find? (·.1 == c.toNat) with
    | some (_, image) => image.map Char.ofNat
    | none =>
      if Unicode.foldRuns.any fun (first, last, _) => first ≤ c.toNat && c.toNat ≤ last then
        [Char.ofNat (Unicode.mapCase Unicode.foldRuns c.toNat)]
      else lowerChar c

/-- `t.lower()`. -/
def lower (t : Text) : Text := t.flatMap lowerChar

/-- `t.casefold()`. -/
def casefold (t : Text) : Text := t.flatMap casefoldChar

/-- `t.upper()`. -/
def upper (t : Text) : Text := t.flatMap upperChar

/-- `t.lstrip()`. -/
def lstrip (t : Text) : Text := t.dropWhile isSpace

/-- `t.rstrip()`. -/
def rstrip (t : Text) : Text := (t.reverse.dropWhile isSpace).reverse

/-- `t.strip()`. -/
def strip (t : Text) : Text := rstrip (lstrip t)

/-- `t.startswith(prefix)`. -/
def startsWith (t pre : Text) : Bool := pre.isPrefixOf t

/-- `sub in t`. -/
def contains (t sub : Text) : Bool := t.tails.any (sub.isPrefixOf ·)

/-- The position of the first occurrence of `sub`, counting from `pos`. -/
def findFrom (sub : Text) : Nat → Text → Int
  | pos, [] => if sub.isEmpty then pos else -1
  | pos, c :: cs => if sub.isPrefixOf (c :: cs) then pos else findFrom sub (pos + 1) cs

/-- `t.find(sub)`: the position of the first occurrence, `-1` if there is none. -/
def find (t sub : Text) : Int := findFrom sub 0 t

/-- A slice bound, counted from the end when negative and clamped to the text. -/
def bound (t : Text) (i : Int) : Nat :=
  if i < 0 then (t.length + i).toNat else min i.toNat t.length

/-- `t[start:stop]`. -/
def slice (t : Text) (start stop : Int) : Text :=
  (t.take (bound t stop)).drop (bound t start)

/-- `t[start:]`. -/
def sliceFrom (t : Text) (start : Int) : Text := t.drop (bound t start)

/-- `splitlines`, with the characters of the current line so far, reversed. -/
def splitlinesFrom : Text → Text → List Text
  | [], [] => []
  | [], line => [line.reverse]
  | '\r' :: '\n' :: cs, line => line.reverse :: splitlinesFrom cs []
  | c :: cs, line =>
    if isLineBreak c then line.reverse :: splitlinesFrom cs [] else splitlinesFrom cs (c :: line)

/-- `t.splitlines()`. -/
def splitlines (t : Text) : List Text := splitlinesFrom t []

/-- `split()`, with the characters of the current word so far, reversed. -/
def splitFrom : Text → Text → List Text
  | [], [] => []
  | [], word => [word.reverse]
  | c :: cs, word =>
    if isSpace c then
      if word.isEmpty then splitFrom cs [] else word.reverse :: splitFrom cs []
    else splitFrom cs (c :: word)

/-- `t.split()`: the maximal runs of non-blank characters. -/
def split (t : Text) : List Text := splitFrom t []

/-- `sep.join(parts)`. -/
def join (sep : Text) (parts : List Text) : Text := sep.intercalate parts

/-- `replace`, `skip` characters of an occurrence of `old` still to be passed over. -/
def replaceFrom (old new : Text) : Nat → Text → Text
  | _, [] => []
  | 0, c :: cs =>
    if old.isPrefixOf (c :: cs) then new ++ replaceFrom old new (old.length - 1) cs
    else c :: replaceFrom old new 0 cs
  | skip + 1, _ :: cs => replaceFrom old new skip cs

/-- `t.replace(old, new)` for a non-empty `old`. -/
def replace (t old new : Text) : Text := replaceFrom old new 0 t

/-- `t.replace(old, new, 1)` for a non-empty `old`. -/
def replaceOnce (old new : Text) : Text → Text
  | [] => []
  | c :: cs =>
    if old.isPrefixOf (c :: cs) then new ++ (c :: cs).drop old.length
    else c :: replaceOnce old new cs

/-- `t.isdigit()`. -/
def isdigit (t : Text) : Bool := !t.isEmpty && t.all isDigitChar

/-- The number a list of decimal digits denotes, continuing from `acc`. -/
def valueFrom : Nat → Text → Option Nat
  | acc, [] => some acc
  | acc, c :: cs => (decimalValue c).bind fun d => valueFrom (10 * acc + d) cs

/-- The number of digits from which on `int` refuses a text. -/
def digitLimit : Nat := 4300

/-- `int(t)` for a text of digits: `none` where it raises `ValueError`, that is when a digit is
not decimal or there are too many of them. -/
def toInt (t : Text) : Option Nat :=
  if t.isEmpty || digitLimit < t.length then none else valueFrom 0 t

/-- The digits of an `int` literal, between which single underscores may stand. -/
def literalDigits : Text → Option Text
  | [] => none
  | [c] => if c == '_' then none else some [c]
  | c :: '_' :: cs => if c == '_' then none else (literalDigits cs).map (c :: ·)
  | c :: cs => if c == '_' then none else (literalDigits cs).map (c :: ·)

/-- `int(t)`: `none` where it raises `ValueError`. -/
def parseInt (t : Text) : Option Int :=
  match t.strip with
  | '-' :: cs => ((literalDigits cs).bind toInt).map fun n => -(n : Int)
  | '+' :: cs => ((literalDigits cs).bind toInt).map Int.ofNat
  | cs => ((literalDigits cs).bind toInt).map Int.ofNat

/-- `str(n)`. -/
def ofNat (n : Nat) : Text := Nat.toDigits 10 n

/-- One character of `repr`, for texts quoted with `quote`. -/
def reprChar (quote c : Char) : Text :=
  if c == quote || c == '\\' then ['\\', c]
  else if c == '\n' then "\\n" else if c == '\r' then "\\r" else if c == '\t' then "\\t"
  else if c.toNat < 32 || (127 ≤ c.toNat && c.toNat < 161) || c.toNat == 173 then
    let hex := Nat.toDigits 16 c.toNat
    "\\x" ++ List.replicate (2 - hex.length) '0' ++ hex
  else [c]

/-- `repr(t)`. (Code points above U+00FF are shown as they are.) -/
def repr (t : Text) : Text :=
  let quote := if t.any (· == '\'') && !t.any (· == '"') then '"' else '\''
  quote :: t.flatMap (reprChar quote) ++ [quote]

/-! ### Order -/

/-- `a <= b`: lexicographic by code point. -/
def le : Text → Text → Bool
  | [], _ => true
  | _ :: _, [] => false
  | a :: as, b :: bs => a.toNat < b.toNat || (a.toNat == b.toNat && le as bs)

/-- `sorted(set(ts))`. -/
def sortedSet (ts : List Text) : List Text := ts.dedup.insertionSort (le · ·)

theorem mem_sortedSet {ts : List Text} {t : Text} : t ∈ sortedSet ts ↔ t ∈ ts := by
  simp [sortedSet]

/-! ## Facts -/

section order

theorem le_total (a b : Text) : le a b = true ∨ le b a = true := by
  induction a generalizing b with
  | nil => exact .inl (by cases b <;> rfl)
  | cons c cs ih =>
    cases b with
    | nil => exact .inr rfl
    | cons d ds =>
      simp only [le, Bool.or_eq_true, Bool.and_eq_true, decide_eq_true_eq, beq_iff_eq]
      rcases Nat.lt_trichotomy c.toNat d.toNat with h | h | h
      · exact .inl (.inl h)
      · exact (ih ds).imp (fun hle => .inr ⟨h, hle⟩) fun hle => .inr ⟨h.symm, hle⟩
      · exact .inr (.inl h)

theorem le_antisymm {a b : Text} (hab : le a b = true) (hba : le b a = true) : a = b := by
  induction a generalizing b with
  | nil =>
    cases b with
    | nil => rfl
    | cons d ds => cases hba
  | cons c cs ih =>
    cases b with
    | nil => cases hab
    | cons d ds =>
      simp only [le, Bool.or_eq_true, Bool.and_eq_true, decide_eq_true_eq, beq_iff_eq] at hab hba
      have hhead : c.toNat = d.toNat := by
        rcases hab with hab | hab
        · omega
        · exact hab.1
      have htail : cs = ds :=
        ih (hab.resolve_left (by omega)).2 (hba.resolve_left (by omega)).2
      rw [htail, Char.toNat_inj.mp hhead]

theorem le_trans {a b c : Text} (hab : le a b = true) (hbc : le b c = true) : le a c = true := by
  induction a generalizing b c with
  | nil => rfl
  | cons x xs ih =>
    cases b with
    | nil => cases hab
    | cons y ys =>
      cases c with
      | nil => cases hbc
      | cons z zs =>
        simp only [le, Bool.or_eq_true, Bool.and_eq_true, decide_eq_true_eq, beq_iff_eq] at *
        rcases hab with hxy | ⟨hxy, htail⟩
        · exact .inl (by omega)
        · rcases hbc with hyz | ⟨hyz, htail'⟩
          · exact .inl (by omega)
          · exact .inr ⟨by omega, ih htail htail'⟩

instance : Std.Total (le · · : Text → Text → Prop) := ⟨le_total⟩

instance : IsTrans Text (le · ·) := ⟨fun _ _ _ => le_trans⟩

/-- The order in which texts are given does not matter once they are sorted. -/
theorem insertionSort_perm {s t : List Text} (h : s.Perm t) :
    s.insertionSort (le · ·) = t.insertionSort (le · ·) := by
  have hsorted := List.pairwise_insertionSort (le · · : Text → Text → Prop)
  refine List.Perm.eq_of_pairwise (fun a b _ _ => le_antisymm) (hsorted s) (hsorted t) ?_
  exact (List.perm_insertionSort _ s).trans (h.trans (List.perm_insertionSort _ t).symm)

theorem insertionSort_swap (a b : Text) :
    [a, b].insertionSort (le · ·) = [b, a].insertionSort (le · ·) :=
  insertionSort_perm (.swap b a [])

theorem sortedSet_perm {s t : List Text} (h : s.Perm t) : sortedSet s = sortedSet t :=
  insertionSort_perm (h.dedup)

end order

section strip

theorem mem_strip {t : Text} {c : Char} (h : c ∈ strip t) : c ∈ t := by
  have h₁ : c ∈ (lstrip t).reverse := List.dropWhile_subset _ (List.mem_reverse.mp h)
  exact List.dropWhile_subset _ (List.mem_reverse.mp h₁)

theorem lstrip_eq_self {t : Text} (h : ∀ c ∈ t.head?, isSpace c = false) : lstrip t = t := by
  cases t with
  | nil => rfl
  | cons c cs => simp [lstrip, h c (by simp)]

theorem rstrip_eq_self {t : Text} (h : ∀ c ∈ t.getLast?, isSpace c = false) : rstrip t = t := by
  have hr : t.reverse.dropWhile isSpace = t.reverse :=
    lstrip_eq_self (t := t.reverse) (by simpa [List.head?_reverse] using h)
  simp [rstrip, hr]

/-- The first character that `lstrip` leaves is not blank. -/
theorem head?_lstrip {t : Text} {c : Char} (h : c ∈ (lstrip t).head?) : isSpace c = false := by
  induction t with
  | nil => simp [lstrip] at h
  | cons a as ih =>
    by_cases ha : isSpace a
    · exact ih (by simpa [lstrip, List.dropWhile_cons, ha] using h)
    · have : c = a := by simpa [lstrip, List.dropWhile_cons, ha, eq_comm] using h
      simpa [this] using ha

theorem getLast?_rstrip {t : Text} {c : Char} (h : c ∈ (rstrip t).getLast?) :
    isSpace c = false :=
  head?_lstrip (t := t.reverse) (by simpa [rstrip, lstrip, List.getLast?_reverse] using h)

/-- Stripping on the right keeps the first character, if it leaves any. -/
theorem head?_rstrip {t : Text} {c : Char} (h : c ∈ (rstrip t).head?) : c ∈ t.head? := by
  have hp : rstrip t <+: t := by
    have hs : t.reverse.dropWhile isSpace <:+ t.reverse := List.dropWhile_suffix _
    simpa [rstrip] using List.reverse_prefix.mpr hs
  obtain ⟨u, hu⟩ := hp
  cases hr : rstrip t with
  | nil => simp [hr] at h
  | cons a as => rw [hr] at hu h; simpa [← hu] using h

/-- `strip` leaves no blank at the front. -/
theorem head?_strip {t : Text} {c : Char} (h : c ∈ (strip t).head?) : isSpace c = false :=
  head?_lstrip (head?_rstrip h)

/-- `strip` leaves no blank at the end. -/
theorem getLast?_strip {t : Text} {c : Char} (h : c ∈ (strip t).getLast?) : isSpace c = false :=
  getLast?_rstrip h

theorem rstrip_eq_nil_iff {t : Text} : rstrip t = [] ↔ ∀ c ∈ t, isSpace c = true := by
  simp [rstrip, List.dropWhile_eq_nil_iff]

/-- Only a text of blanks is stripped to nothing. -/
theorem strip_eq_nil_iff {t : Text} : strip t = [] ↔ ∀ c ∈ t, isSpace c = true := by
  constructor
  · intro h c hc
    by_contra hns
    have hmem : c ∈ lstrip t := by
      have hsplit := List.takeWhile_append_dropWhile (p := isSpace) (l := t)
      rw [← hsplit] at hc
      rcases List.mem_append.mp hc with hc | hc
      · exact absurd (List.mem_takeWhile_imp hc) hns
      · exact hc
    exact hns (rstrip_eq_nil_iff.mp h c hmem)
  · intro h
    have : lstrip t = [] := by simpa [lstrip, List.dropWhile_eq_nil_iff] using h
    simp [strip, this, rstrip]

/-- A text without blanks is stripped of nothing. -/
theorem strip_eq_self {t : Text} (h : ∀ c ∈ t, isSpace c = false) : strip t = t := by
  have hl : lstrip t = t := lstrip_eq_self fun c hc => h c (List.mem_of_mem_head? hc)
  rw [strip, hl]
  exact rstrip_eq_self fun c hc => h c (List.mem_of_mem_getLast? hc)

/-- What is left after stripping is stripped of nothing. -/
theorem strip_strip (t : Text) : strip (strip t) = strip t := by
  have hl : lstrip (strip t) = strip t := lstrip_eq_self fun _ hc => head?_strip hc
  have hr : rstrip (strip t) = strip t := rstrip_eq_self fun _ hc => getLast?_strip hc
  rw [strip, hl, hr]

/-- A text that does not end in a blank is not stripped to nothing. -/
theorem strip_ne_nil {t : Text} (hne : t ≠ []) (h : ∀ c ∈ t.getLast?, isSpace c = false) :
    strip t ≠ [] := by
  intro hnil
  have hlast := List.getLast?_eq_some_getLast hne
  have hblank := strip_eq_nil_iff.mp hnil _ (List.getLast_mem hne)
  rw [h _ hlast] at hblank
  exact absurd hblank (by decide)

end strip

section numerals

theorem isDigit_of_mem_ofNat {n : Nat} {c : Char} (h : c ∈ ofNat n) : c.isDigit = true :=
  Nat.isDigit_of_mem_toDigits (by decide) (by decide) h

/-- What an ASCII digit is, as a code point. -/
theorem toNat_of_isDigit {c : Char} (h : c.isDigit = true) : 48 ≤ c.toNat ∧ c.toNat ≤ 57 := by
  rw [Char.isDigit_iff_toNat] at h
  simpa using h

theorem toNat_of_isUpper {c : Char} (h : c.isUpper = true) : 65 ≤ c.toNat ∧ c.toNat ≤ 90 := by
  have range : c.val ≥ 'A'.val ∧ c.val ≤ 'Z'.val := of_decide_eq_true h
  exact ⟨UInt32.le_iff_toNat_le.mp range.1, UInt32.le_iff_toNat_le.mp range.2⟩

theorem toNat_of_isLower {c : Char} (h : c.isLower = true) : 97 ≤ c.toNat ∧ c.toNat ≤ 122 := by
  have range : (decide (c.val ≥ 'a'.val) && decide (c.val ≤ 'z'.val)) = true := h
  rw [Bool.and_eq_true, decide_eq_true_eq, decide_eq_true_eq] at range
  exact ⟨UInt32.le_iff_toNat_le.mp range.1, UInt32.le_iff_toNat_le.mp range.2⟩

theorem toNat_of_isAlpha {c : Char} (h : c.isAlpha = true) :
    65 ≤ c.toNat ∧ c.toNat ≤ 90 ∨ 97 ≤ c.toNat ∧ c.toNat ≤ 122 := by
  have either : (c.isUpper || c.isLower) = true := h
  rw [Bool.or_eq_true] at either
  exact either.imp toNat_of_isUpper toNat_of_isLower

theorem ofNat_ne_nil (n : Nat) : ofNat n ≠ [] := by
  rw [ofNat, Nat.toDigits_eq_if (by decide)]
  split <;> simp

theorem decimalValue_digitChar {d : Nat} (h : d < 10) : decimalValue d.digitChar = some d := by
  rw [decimalValue, Nat.toNat_digitChar_of_lt_ten h, if_pos (by omega), if_pos (by simp; omega)]
  congr 1
  omega

theorem valueFrom_append (acc : Nat) (s t : Text) :
    valueFrom acc (s ++ t) = (valueFrom acc s).bind fun a => valueFrom a t := by
  induction s generalizing acc with
  | nil => rfl
  | cons c cs ih =>
    rw [List.cons_append, valueFrom, valueFrom]
    cases decimalValue c with
    | none => rfl
    | some d => exact ih _

theorem valueFrom_ofNat (n : Nat) : valueFrom 0 (ofNat n) = some n := by
  induction n using Nat.strongRecOn with
  | _ n ih =>
    rw [ofNat, Nat.toDigits_eq_if (by decide)]
    split
    · next h => simp [valueFrom, decimalValue_digitChar h]
    · next h =>
      rw [valueFrom_append, ← ofNat, ih (n / 10) (by omega)]
      have hmod : n % 10 < 10 := Nat.mod_lt _ (by decide)
      simp [valueFrom, decimalValue_digitChar hmod]
      omega

theorem decimalValue_lt {c : Char} {d : Nat} (h : decimalValue c = some d) : d < 10 := by
  rw [decimalValue] at h
  split at h
  · split at h
    · next hc =>
      simp at hc h
      omega
    · cases h
  · cases hz : Unicode.zeros.find? fun z => z ≤ c.toNat && c.toNat < z + 10 with
    | none => rw [hz] at h; cases h
    | some z =>
      rw [hz] at h
      have hrange := List.find?_some hz
      simp at hrange h
      omega

/-- `k` digits denote a number below `10 ^ k`. -/
theorem valueFrom_lt {acc n : Nat} {t : Text} (h : valueFrom acc t = some n) :
    n < (acc + 1) * 10 ^ t.length := by
  induction t generalizing acc with
  | nil =>
    rw [valueFrom] at h
    cases h
    simp
  | cons c cs ih =>
    rw [valueFrom] at h
    cases hd : decimalValue c with
    | none => rw [hd] at h; cases h
    | some d =>
      rw [hd] at h
      have hlt : n < (10 * acc + d + 1) * 10 ^ cs.length := ih h
      have hd10 : d < 10 := decimalValue_lt hd
      have hle : (10 * acc + d + 1) * 10 ^ cs.length ≤ (10 * (acc + 1)) * 10 ^ cs.length :=
        Nat.mul_le_mul_right _ (by omega)
      calc n < (10 * acc + d + 1) * 10 ^ cs.length := hlt
        _ ≤ (10 * (acc + 1)) * 10 ^ cs.length := hle
        _ = (acc + 1) * 10 ^ (c :: cs).length := by
          rw [List.length_cons, Nat.pow_succ]
          ring

theorem length_ofNat_le {n k : Nat} (hk : 0 < k) (h : n < 10 ^ k) : (ofNat n).length ≤ k := by
  induction k generalizing n with
  | zero => omega
  | succ k ih =>
    rw [ofNat, Nat.toDigits_eq_if (by decide)]
    split
    · simp
    · next hn =>
      have hdiv : n / 10 < 10 ^ k := by
        rw [Nat.pow_succ] at h
        omega
      have hk' : 0 < k := by
        cases k with
        | zero => simp at h; omega
        | succ k => exact Nat.succ_pos k
      have := ih hk' hdiv
      rw [List.length_append, List.length_singleton, ← ofNat]
      omega

/-- A number that `int` returned is written within the limit. -/
theorem length_ofNat_of_toInt {t : Text} {n : Nat} (h : toInt t = some n) :
    (ofNat n).length ≤ digitLimit := by
  rw [toInt] at h
  split at h
  · cases h
  · next hlen =>
    simp at hlen
    have hlt : n < 10 ^ t.length := by simpa using valueFrom_lt h
    apply length_ofNat_le (by decide)
    exact Nat.lt_of_lt_of_le hlt (Nat.pow_le_pow_right (by decide) hlen.2)

/-- **Round trip**: `int(str(n)) == n`, within the limit. -/
theorem toInt_ofNat {n : Nat} (h : (ofNat n).length ≤ digitLimit) : toInt (ofNat n) = some n := by
  rw [toInt, if_neg (by simp [ofNat_ne_nil, h]), valueFrom_ofNat]

end numerals

section lower

theorem lowerChar_of_isDigit {c : Char} (h : c.isDigit = true) : lowerChar c = [c] := by
  obtain ⟨_, hle⟩ := toNat_of_isDigit h
  rw [lowerChar, if_pos (by omega), if_neg (by simp; omega)]

theorem lower_append (s t : Text) : lower (s ++ t) = lower s ++ lower t := List.flatMap_append

theorem lower_eq_self {t : Text} (h : ∀ c ∈ t, lowerChar c = [c]) : lower t = t := by
  induction t with
  | nil => rfl
  | cons c cs ih =>
    rw [lower, List.flatMap_cons, h c List.mem_cons_self]
    exact congrArg (c :: ·) (ih fun d hd => h d (List.mem_cons_of_mem _ hd))

/-! A text whose lower case is ASCII is itself ASCII, but for the Kelvin sign. -/

theorem lowerRuns_image : ∀ run ∈ Unicode.lowerRuns,
    (128 ≤ run.1 + run.2.2.2 ∧ (run.2.1 + run.2.2.2 < 55296 ∨
      57343 < run.1 + run.2.2.2 ∧ run.2.1 + run.2.2.2 < 1114112)) ∨
    run.1 = 8490 ∧ run.2.1 = 8490 := by decide +kernel

theorem toNat_of_lowerChar_ascii {c : Char} (h : ∀ a ∈ lowerChar c, a.toNat < 128) :
    c.toNat < 128 ∨ c.toNat = 8490 := by
  by_contra hc
  rw [not_or] at hc
  obtain ⟨hge, hkelvin⟩ := hc
  rw [lowerChar, if_neg hge] at h
  split at h
  · have hdot := h (Char.ofNat 775) (by simp)
    exact absurd hdot (by decide)
  · have hlt := h _ List.mem_cons_self
    unfold Unicode.mapCase at hlt
    split at hlt
    · next first last step offset hfind =>
      have hmem := List.mem_of_find?_eq_some hfind
      have hrange := List.find?_some hfind
      simp only [Bool.and_eq_true, decide_eq_true_eq] at hrange
      rcases lowerRuns_image _ hmem with ⟨h₁, h₂⟩ | ⟨h₁, h₂⟩
      · dsimp only at h₁ h₂
        have hvalid : (c.toNat + offset).toNat.isValidChar := by
          unfold Nat.isValidChar
          omega
        have hnat : (Char.ofNat (c.toNat + offset).toNat).toNat = (c.toNat + offset).toNat := by
          rw [Char.ofNat, dif_pos hvalid]
          rfl
        omega
      · dsimp only at h₁ h₂
        omega
    · rw [Char.ofNat_toNat] at hlt
      exact hge hlt

theorem exists_lowerChar {c : Char} (h : ∀ a ∈ lowerChar c, a.toNat < 128) :
    ∃ a, lowerChar c = [a] := by
  have hc := toNat_of_lowerChar_ascii h
  unfold lowerChar
  split
  · exact ⟨_, rfl⟩
  split
  · next heq =>
    rw [beq_iff_eq] at heq
    omega
  · exact ⟨_, rfl⟩

theorem eq_kelvin {c : Char} (h : c.toNat = 8490) : c = Char.ofNat 8490 := by
  rw [← h, Char.ofNat_toNat]

/-- Blanks have no case. -/
theorem lowerChar_of_isSpace {c : Char} (h : ∀ a ∈ lowerChar c, a.toNat < 128)
    (hc : isSpace c = true) : lowerChar c = [c] := by
  rcases toNat_of_lowerChar_ascii h with hlt | hkelvin
  · rw [isSpace, if_pos hlt] at hc
    rw [lowerChar, if_pos hlt, if_neg]
    intro hupper
    simp only [Bool.or_eq_true, Bool.and_eq_true, beq_iff_eq, decide_eq_true_eq] at hc hupper
    rcases hc with (rfl | hc) | hc
    · exact absurd hupper (by decide)
    · omega
    · omega
  · rw [eq_kelvin hkelvin] at hc
    exact absurd hc (by decide)

/-- Decimal digits have no case. -/
theorem lowerChar_of_isDecimal {c : Char} (h : ∀ a ∈ lowerChar c, a.toNat < 128)
    (hc : isDecimal c = true) : c.isDigit = true ∧ lowerChar c = [c] := by
  rcases toNat_of_lowerChar_ascii h with hlt | hkelvin
  · rw [isDecimal, decimalValue, if_pos hlt] at hc
    split at hc
    · next hrange =>
      simp only [Bool.and_eq_true, decide_eq_true_eq] at hrange
      have hdigit : c.isDigit = true := Char.isDigit_iff_toNat.mpr (by simpa using hrange)
      exact ⟨hdigit, lowerChar_of_isDigit hdigit⟩
    · exact absurd hc (by decide)
  · rw [eq_kelvin hkelvin] at hc
    exact absurd hc (by decide)

theorem lower_cons (c : Char) (t : Text) : lower (c :: t) = lowerChar c ++ lower t := rfl

theorem mem_lower {t : Text} {c a : Char} (hc : c ∈ t) (ha : a ∈ lowerChar c) : a ∈ lower t :=
  List.mem_flatMap.mpr ⟨c, hc, ha⟩

/-- Lowering to ASCII keeps positions. -/
theorem lower_drop {t : Text} (h : ∀ a ∈ lower t, a.toNat < 128) (n : Nat) :
    lower (t.drop n) = (lower t).drop n := by
  induction t generalizing n with
  | nil => simp [lower]
  | cons c cs ih =>
    cases n with
    | zero => rfl
    | succ n =>
      obtain ⟨a, ha⟩ := exists_lowerChar fun a ha => h a (mem_lower List.mem_cons_self ha)
      rw [lower_cons, ha] at h ⊢
      rw [List.drop_succ_cons, List.singleton_append, List.drop_succ_cons]
      exact ih (fun b hb => h b (List.mem_append_right _ hb)) n

/-- An ASCII beginning of a lowered text lowers that many characters of the text; an `i` at its end
may be half of a dotted capital. -/
theorem lower_eq_append {pre t rest : Text} (h : lower t = pre ++ rest) (ascii : ∀ a ∈ pre, a.toNat < 128)
    (last : pre.getLast? ≠ some 'i') : pre.length ≤ t.length ∧ lower (t.drop pre.length) = rest := by
  induction pre generalizing t with
  | nil => exact ⟨Nat.zero_le _, h⟩
  | cons a pre ih =>
    cases t with
    | nil => cases h
    | cons c t =>
      have further : pre.getLast? ≠ some 'i' := by
        intro ends
        refine last ?_
        rw [List.getLast?_cons, ends]
        rfl
      rw [lower_cons, List.cons_append] at h
      have one : ∀ b, lowerChar c = [b] → (a :: pre).length ≤ (c :: t).length ∧
          lower ((c :: t).drop (a :: pre).length) = rest := by
        intro b single
        rw [single, List.singleton_append] at h
        obtain ⟨longer, tail⟩ := ih (List.cons.inj h).2 (fun d hd => ascii d (List.mem_cons_of_mem _ hd)) further
        exact ⟨Nat.succ_le_succ longer, tail⟩
      unfold lowerChar at one h
      split at one
      · exact one _ rfl
      split at one
      · next special =>
        -- the dotted capital: `i` and a combining dot
        rw [if_neg (by assumption), if_pos special] at h
        obtain ⟨first, second⟩ := List.cons.inj h
        cases pre with
        | nil => exact absurd (by rw [← first]; rfl) last
        | cons b pre =>
          have dot : Char.ofNat 775 = b := (List.cons.inj second).1
          have small := ascii b (List.mem_cons_of_mem _ List.mem_cons_self)
          rw [← dot] at small
          exact absurd small (by decide)
      · exact one _ rfl

/-- An ASCII beginning of a lowered text lowers that many characters of the text. Only the dot of a dotted capital
may be left over. -/
theorem exists_lower_drop {pre t rest : Text} (h : lower t = pre ++ rest) (ascii : ∀ a ∈ pre, a.toNat < 128) :
    rest = lower (t.drop pre.length) ∨ rest = Char.ofNat 775 :: lower (t.drop pre.length) := by
  induction pre generalizing t with
  | nil => exact .inl h.symm
  | cons a pre ih =>
    cases t with
    | nil => cases h
    | cons c t =>
      rw [lower_cons, List.cons_append] at h
      have one : ∀ b, lowerChar c = [b] → rest = lower ((c :: t).drop (a :: pre).length) ∨
          rest = Char.ofNat 775 :: lower ((c :: t).drop (a :: pre).length) := by
        intro b single
        rw [single, List.singleton_append] at h
        exact ih (List.cons.inj h).2 fun d hd => ascii d (List.mem_cons_of_mem _ hd)
      unfold lowerChar at one h
      split at one
      · exact one _ rfl
      split at one
      · next special =>
        rw [if_neg (by assumption), if_pos special] at h
        have second := (List.cons.inj h).2
        cases pre with
        | nil => exact .inr second.symm
        | cons b pre =>
          have dot : Char.ofNat 775 = b := (List.cons.inj second).1
          have small := ascii b (List.mem_cons_of_mem _ List.mem_cons_self)
          rw [← dot] at small
          exact absurd small (by decide)
      · exact one _ rfl

/-- In lower case, a text that begins with a decimal digit begins with no letter. -/
theorem isAlpha_head_lower {c d : Char} {t : Text} (digit : isDecimal c = true) (head : d ∈ (lower (c :: t)).head?) :
    d.isAlpha = false := by
  rw [lower_cons] at head
  rw [Bool.eq_false_iff]
  intro letter
  have range := toNat_of_isAlpha letter
  by_cases ascii : ∀ a ∈ lowerChar c, a.toNat < 128
  · obtain ⟨isDigit, single⟩ := lowerChar_of_isDecimal ascii digit
    rw [single, List.singleton_append, List.head?_cons, Option.mem_some_iff] at head
    have digits := toNat_of_isDigit isDigit
    rw [← head] at range
    omega
  · unfold lowerChar at head ascii
    split at ascii
    · next small =>
      refine ascii fun a here => ?_
      rw [List.mem_singleton] at here
      rw [if_pos small, List.singleton_append, List.head?_cons, Option.mem_some_iff] at head
      rw [here, head]
      omega
    split at ascii
    · next special =>
      rw [beq_iff_eq] at special
      have dotted : c = Char.ofNat 304 := by rw [← special, Char.ofNat_toNat]
      rw [dotted] at digit
      exact absurd digit (by decide)
    · next large notSpecial =>
      refine ascii fun a here => ?_
      rw [List.mem_singleton] at here
      rw [if_neg large, if_neg notSpecial, List.singleton_append, List.head?_cons, Option.mem_some_iff] at head
      rw [here, head]
      omega

/-- Only a blank lowers to a blank. -/
theorem eq_blank_of_lowerChar {c : Char} (h : lowerChar c = [' ']) : c = ' ' := by
  rcases toNat_of_lowerChar_ascii (c := c) (by rw [h]; decide) with hlt | hkelvin
  · rw [lowerChar, if_pos hlt, List.singleton_inj] at h
    split at h
    · next upper =>
      simp only [Bool.and_eq_true, decide_eq_true_eq] at upper
      have value : (Char.ofNat (c.toNat + 32)).toNat = c.toNat + 32 := by
        have hvalid : (c.toNat + 32).isValidChar := by
          unfold Nat.isValidChar
          omega
        rw [Char.ofNat, dif_pos hvalid]
        rfl
      rw [h] at value
      have blank : (' ' : Char).toNat = 32 := rfl
      omega
    · exact h
  · rw [eq_kelvin hkelvin] at h
    exact absurd h (by decide)

end lower

/-! ### Occurrences -/

/-- Nothing is replaced in a text without the first character of `old`. -/
theorem replace_eq_self {t new as : Text} {a : Char} (h : a ∉ t) :
    replace t (a :: as) new = t := by
  unfold replace
  induction t with
  | nil => rfl
  | cons c cs ih =>
    have hc : (a == c) = false := by
      rw [beq_eq_false_iff_ne]
      rintro rfl
      exact h List.mem_cons_self
    have hprefix : (a :: as).isPrefixOf (c :: cs) = false := by
      rw [List.isPrefixOf, hc, Bool.false_and]
    rw [replaceFrom, hprefix, if_neg Bool.false_ne_true]
    rw [ih fun hmem => h (List.mem_cons_of_mem _ hmem)]

theorem contains_eq_false {t as : Text} {a : Char} (h : a ∉ t) : contains t (a :: as) = false := by
  unfold contains
  rw [List.any_eq_false]
  intro u hu
  cases u with
  | nil => simp
  | cons c cs =>
    have hmem : c ∈ t := ((List.mem_tails _ _).mp hu).subset List.mem_cons_self
    have hc : (a == c) = false := by
      rw [beq_eq_false_iff_ne]
      rintro rfl
      exact h hmem
    simp [List.isPrefixOf, hc]

/-! ### Lines and words -/

theorem isLineBreak_of_isSpace {c : Char} (h : isSpace c = false) : isLineBreak c = false := by
  unfold isSpace at h
  unfold isLineBreak
  by_contra hbreak
  rw [Bool.not_eq_false, List.contains_iff_mem] at hbreak
  -- every line break is blank
  have hall : ∀ n ∈ Unicode.lineBreaks, n < 128 ∧ (9 ≤ n ∧ n ≤ 13 ∨ 28 ≤ n ∧ n ≤ 31) ∨
      128 ≤ n ∧ n ∈ Unicode.spaces := by decide
  rcases hall _ hbreak with ⟨hlt, hrange⟩ | ⟨hge, hmem⟩
  · rw [if_pos hlt] at h
    rcases hrange with ⟨h₁, h₂⟩ | ⟨h₁, h₂⟩
    · simp [h₁, h₂] at h
    · simp [h₁, h₂] at h
  · rw [if_neg (by omega), List.contains_eq_mem] at h
    simp [hmem] at h

theorem splitlinesFrom_append {w : Text} (h : ∀ c ∈ w, isLineBreak c = false) (rest line : Text) :
    splitlinesFrom (w ++ rest) line = splitlinesFrom rest (w.reverse ++ line) := by
  induction w generalizing line with
  | nil => rfl
  | cons c cs ih =>
    have hc : isLineBreak c = false := h c List.mem_cons_self
    have hcr : c ≠ '\r' := by
      rintro rfl
      exact absurd hc (by decide)
    rw [List.cons_append, splitlinesFrom]
    · rw [if_neg (by rw [hc]; exact Bool.false_ne_true)]
      rw [ih fun d hd => h d (List.mem_cons_of_mem _ hd)]
      rw [List.reverse_cons, List.append_assoc, List.singleton_append]
    · rintro cs' rfl
      exact absurd rfl hcr

/-- A line, ended by a newline. -/
theorem splitlines_cons {w : Text} (h : ∀ c ∈ w, isLineBreak c = false) (rest : Text) :
    splitlines (w ++ '\n' :: rest) = w :: splitlines rest := by
  unfold splitlines
  rw [splitlinesFrom_append h, splitlinesFrom, if_pos (by decide)]
  · rw [List.append_nil, List.reverse_reverse]
  · rintro cs' hcr
    exact absurd hcr (by decide)

/-- The last line. -/
theorem splitlines_single {w : Text} (h : ∀ c ∈ w, isLineBreak c = false) (hne : w ≠ []) :
    splitlines w = [w] := by
  have happend := splitlinesFrom_append h [] []
  rw [List.append_nil, List.append_nil] at happend
  unfold splitlines
  rw [happend]
  cases hw : w.reverse with
  | nil => exact absurd (List.reverse_eq_nil_iff.mp hw) hne
  | cons c cs =>
    rw [splitlinesFrom, ← hw, List.reverse_reverse]
    exact List.cons_ne_nil c cs

/-- No line has a line break. -/
theorem isLineBreak_of_mem_splitlines {t line : Text} (h : line ∈ splitlines t) {c : Char} (here : c ∈ line) :
    isLineBreak c = false := by
  have whole : ∀ t open_ : Text, (∀ c ∈ open_, isLineBreak c = false) →
      ∀ line ∈ splitlinesFrom t open_, ∀ c ∈ line, isLineBreak c = false := by
    intro t open_
    fun_induction splitlinesFrom t open_ with
    | case1 => simp
    | case2 open_ ne =>
      intro plain line known
      rw [List.mem_singleton.mp known]
      simpa using plain
    | case3 open_ t ih =>
      intro plain
      rw [List.forall_mem_cons]
      exact ⟨by simpa using plain, ih (by simp)⟩
    | case4 open_ c t _ isBreak ih =>
      intro plain
      rw [List.forall_mem_cons]
      exact ⟨by simpa using plain, ih (by simp)⟩
    | case5 open_ c t _ notBreak ih =>
      intro plain
      exact ih (List.forall_mem_cons.mpr ⟨by simpa using notBreak, plain⟩)
  exact whole t [] (by simp) line h c here

theorem newline_not_mem_of_mem_splitlines {t line : Text} (h : line ∈ splitlines t) : '\n' ∉ line := fun here =>
  absurd (isLineBreak_of_mem_splitlines h here) (by decide)

/-- What stands before the first separator is determined. -/
theorem append_cons_inj {x : Char} {a b s t : Text} (ha : x ∉ a) (hb : x ∉ b) (h : a ++ x :: s = b ++ x :: t) :
    a = b ∧ s = t := by
  induction a generalizing b with
  | nil =>
    cases b with
    | nil => exact ⟨rfl, List.cons.inj h |>.2⟩
    | cons c b =>
      have first : x = c := (List.cons.inj h).1
      exact absurd (by rw [first]; exact List.mem_cons_self) hb
  | cons c a ih =>
    cases b with
    | nil =>
      have first : c = x := (List.cons.inj h).1
      exact absurd (by rw [first]; exact List.mem_cons_self) ha
    | cons d b =>
      obtain ⟨rfl, later⟩ := List.cons.inj h
      obtain ⟨rfl, rfl⟩ := ih (fun here => ha (List.mem_cons_of_mem _ here))
        (fun here => hb (List.mem_cons_of_mem _ here)) later
      exact ⟨rfl, rfl⟩

/-- What stands after the last separator is determined. -/
theorem append_cons_inj_last {x : Char} {a b s t : Text} (hs : x ∉ s) (ht : x ∉ t) (h : a ++ x :: s = b ++ x :: t) :
    a = b ∧ s = t := by
  have reversed : s.reverse ++ x :: a.reverse = t.reverse ++ x :: b.reverse := by
    simpa using congrArg List.reverse h
  obtain ⟨last, first⟩ := append_cons_inj (by simpa using hs) (by simpa using ht) reversed
  exact ⟨List.reverse_injective first, List.reverse_injective last⟩

/-- A text up to its first newline is determined. -/
theorem append_newline_inj {a b s t : Text} (ha : '\n' ∉ a) (hb : '\n' ∉ b)
    (h : a ++ ('\n' :: s) = b ++ ('\n' :: t)) : a = b ∧ s = t :=
  append_cons_inj ha hb h

/-- Lines that are the same or have no newline are determined by the text they are joined to. -/
theorem join_map_eq_iff {α : Type} {f g : α → Text} {xs : List α}
    (lines : ∀ x ∈ xs, f x = g x ∨ ('\n' ∉ f x ∧ '\n' ∉ g x)) :
    join "\n" (xs.map f) = join "\n" (xs.map g) ↔ ∀ x ∈ xs, f x = g x := by
  induction xs with
  | nil => simp
  | cons x xs ih =>
    have first := lines x List.mem_cons_self
    have later := ih fun y known => lines y (List.mem_cons_of_mem _ known)
    rw [List.forall_mem_cons]
    cases xs with
    | nil => simp [join]
    | cons y ys =>
      have step : ∀ h : α → Text, join "\n" ((x :: y :: ys).map h) = h x ++ ('\n' :: join "\n" ((y :: ys).map h)) := by
        intro h
        simp [join, List.intercalate_cons_cons]
      rw [step, step, ← later]
      constructor
      · intro same
        rcases first with first | ⟨left, right⟩
        · rw [first] at same
          exact ⟨first, (List.cons.inj (List.append_cancel_left same)).2⟩
        · exact append_newline_inj left right same
      · rintro ⟨here, rest⟩
        rw [here, rest]

/-- A word, ended by a blank. -/
theorem split_cons {w : Text} (h : ∀ c ∈ w, isSpace c = false) (hne : w ≠ []) (rest : Text) :
    split (w ++ ' ' :: rest) = w :: split rest := by
  have hword : ∀ (v word : Text), (∀ c ∈ v, isSpace c = false) →
      splitFrom (v ++ ' ' :: rest) word = splitFrom (' ' :: rest) (v.reverse ++ word) := by
    intro v
    induction v with
    | nil => intro word _; rfl
    | cons c cs ih =>
      intro word hv
      rw [List.cons_append, splitFrom, if_neg (by simp [hv c List.mem_cons_self])]
      rw [ih _ fun d hd => hv d (List.mem_cons_of_mem _ hd)]
      rw [List.reverse_cons, List.append_assoc, List.singleton_append]
  unfold split
  rw [hword w [] h, splitFrom, if_pos (by decide), List.append_nil]
  rw [if_neg (by simpa using hne), List.reverse_reverse]

end Text
