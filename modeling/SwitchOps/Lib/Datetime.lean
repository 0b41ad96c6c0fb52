import SwitchOps.Lib.Text

/-!
# Dates and times

Python's aware `datetime` with a fixed UTC offset: the Gregorian calendar, `isoformat`, and how the texts compare. Two
texts compare as the wall clocks do, whatever the offsets, and only equal wall clocks as the texts of the offsets
(`before_isoformat_iff`).
-/

namespace Datetime

open Text

/-! ## The calendar -/

/-- `_is_leap` -/
def isLeap (year : Nat) : Bool := year % 4 == 0 && (year % 100 != 0 || year % 400 == 0)

/-- `_days_in_month` -/
def daysInMonth (year month : Nat) : Nat :=
  if month = 2 then (if isLeap year then 29 else 28)
  else if month = 4 ∨ month = 6 ∨ month = 9 ∨ month = 11 then 30
  else 31

/-- `_days_before_month` -/
def daysBeforeMonth (year : Nat) : Nat → Nat
  | 0 | 1 => 0
  | month + 2 => daysBeforeMonth year (month + 1) + daysInMonth year (month + 1)

/-- `_days_before_year` -/
def daysBeforeYear (year : Nat) : Nat :=
  let y := year - 1
  y * 365 + y / 4 + y / 400 - y / 100

/-- A day of the years 1 to 9999. -/
structure Date where
  year : Nat
  month : Nat
  day : Nat
  year_range : 1 ≤ year ∧ year ≤ 9999
  month_range : 1 ≤ month ∧ month ≤ 12
  day_range : 1 ≤ day ∧ day ≤ daysInMonth year month
  deriving DecidableEq, Repr

theorem daysInMonth_pos (year month : Nat) : 1 ≤ daysInMonth year month := by
  unfold daysInMonth
  split
  · split <;> omega
  · split <;> omega

theorem daysInMonth_le (year month : Nat) : daysInMonth year month ≤ 31 := by
  unfold daysInMonth
  split
  · split <;> omega
  · split <;> omega

theorem daysBeforeMonth_succ (year : Nat) {month : Nat} (h : 1 ≤ month) :
    daysBeforeMonth year (month + 1) = daysBeforeMonth year month + daysInMonth year month := by
  obtain ⟨month, rfl⟩ := Nat.exists_eq_add_of_le' h
  rfl

/-- A month ends before the next ones begin. -/
theorem daysBeforeMonth_add_le (year : Nat) {month later : Nat} (first : 1 ≤ month) (h : month < later) :
    daysBeforeMonth year month + daysInMonth year month ≤ daysBeforeMonth year later := by
  induction later, h using Nat.le_induction with
  | base => rw [← daysBeforeMonth_succ year first]
  | succ later after ih =>
    rw [daysBeforeMonth_succ year (by omega)]
    omega

/-- The days of a year. -/
theorem daysBeforeYear_succ {year : Nat} (h : 1 ≤ year) :
    daysBeforeYear (year + 1) = daysBeforeYear year + daysBeforeMonth year 13 := by
  have months : daysBeforeMonth year 13 = 337 + if isLeap year then 29 else 28 := by
    simp [daysBeforeMonth, daysInMonth]
    omega
  obtain ⟨p, rfl⟩ := Nat.exists_eq_add_of_le' h
  have leap : isLeap (p + 1) = true ↔ 4 ∣ p + 1 ∧ (¬100 ∣ p + 1 ∨ 400 ∣ p + 1) := by
    simp [isLeap, Nat.dvd_iff_mod_eq_zero]
  have few : p / 100 ≤ p := Nat.div_le_self p 100
  have century (h : 100 ∣ p + 1) : 4 ∣ p + 1 := Dvd.dvd.trans (by decide) h
  have fourth (h : 400 ∣ p + 1) : 100 ∣ p + 1 := Dvd.dvd.trans (by decide) h
  rw [months, daysBeforeYear, daysBeforeYear, Nat.add_sub_cancel, Nat.add_sub_cancel, Nat.succ_div, Nat.succ_div,
    Nat.succ_div]
  simp only [leap]
  generalize p / 4 = fours at *
  generalize p / 100 = hundreds at *
  generalize p / 400 = others at *
  by_cases four : 4 ∣ p + 1
  · by_cases hundred : 100 ∣ p + 1
    · by_cases other : 400 ∣ p + 1
      · simp [four, hundred, other]
        omega
      · simp [four, hundred, other]
        omega
    · have other : ¬400 ∣ p + 1 := fun h => hundred (fourth h)
      simp [four, hundred, other]
      omega
  · have hundred : ¬100 ∣ p + 1 := fun h => four (century h)
    have other : ¬400 ∣ p + 1 := fun h => hundred (fourth h)
    simp [four, hundred, other]
    omega

/-- A year ends before the next ones begin. -/
theorem daysBeforeYear_add_le {year later : Nat} (first : 1 ≤ year) (h : year < later) :
    daysBeforeYear year + daysBeforeMonth year 13 ≤ daysBeforeYear later := by
  induction later, h using Nat.le_induction with
  | base => rw [← daysBeforeYear_succ first]
  | succ later after ih =>
    rw [daysBeforeYear_succ (by omega)]
    omega

namespace Date

/-- `toordinal` -/
def ordinal (date : Date) : Nat := daysBeforeYear date.year + daysBeforeMonth date.year date.month + date.day

/-- Year, month and day are compared one after the other. -/
def Before (a b : Date) : Prop :=
  a.year < b.year ∨ a.year = b.year ∧ (a.month < b.month ∨ a.month = b.month ∧ a.day < b.day)

theorem ordinal_lt_of_before {a b : Date} (h : a.Before b) : a.ordinal < b.ordinal := by
  have year := a.year_range
  have month := a.month_range
  have day := a.day_range
  have later := b.day_range
  have end_ : daysBeforeMonth a.year a.month + daysInMonth a.year a.month ≤ daysBeforeMonth a.year 13 :=
    daysBeforeMonth_add_le a.year month.1 (by omega)
  rw [ordinal, ordinal]
  rcases h with years | ⟨years, months | ⟨months, days⟩⟩
  · have whole := daysBeforeYear_add_le year.1 years
    omega
  · have whole := daysBeforeMonth_add_le a.year month.1 months
    rw [← years]
    omega
  · rw [← years, ← months]
    omega

theorem eq_of_not_before {a b : Date} (h : ¬a.Before b) (h' : ¬b.Before a) :
    a.year = b.year ∧ a.month = b.month ∧ a.day = b.day := by
  simp only [Before] at h h'
  omega

/-- The day before, unless it is the first day of the year 1. -/
def pred (date : Date) : Option Date :=
  if first : 1 < date.day then
    some { date with day := date.day - 1, day_range := by have := date.day_range; omega }
  else if january : 1 < date.month then
    some {
      year := date.year, month := date.month - 1, day := daysInMonth date.year (date.month - 1)
      year_range := date.year_range
      month_range := by have := date.month_range; omega
      day_range := ⟨daysInMonth_pos _ _, le_rfl⟩ }
  else if year : 1 < date.year then
    some {
      year := date.year - 1, month := 12, day := 31
      year_range := by have := date.year_range; omega
      month_range := by decide
      day_range := ⟨by decide, le_of_eq rfl⟩ }
  else none

theorem ordinal_pred {date earlier : Date} (h : date.pred = some earlier) : earlier.ordinal + 1 = date.ordinal := by
  have day := date.day_range
  have month := date.month_range
  have year := date.year_range
  unfold pred at h
  split at h
  · cases h
    simp only [ordinal]
    omega
  · split at h
    · cases h
      have months : daysBeforeMonth date.year (date.month - 1 + 1) =
          daysBeforeMonth date.year (date.month - 1) + daysInMonth date.year (date.month - 1) :=
        daysBeforeMonth_succ _ (by omega)
      rw [show date.month - 1 + 1 = date.month by omega] at months
      simp only [ordinal]
      omega
    · split at h
      · cases h
        have years : daysBeforeYear (date.year - 1 + 1) =
            daysBeforeYear (date.year - 1) + daysBeforeMonth (date.year - 1) 13 := daysBeforeYear_succ (by omega)
        have months : daysBeforeMonth (date.year - 1) 13 =
            daysBeforeMonth (date.year - 1) 12 + daysInMonth (date.year - 1) 12 := rfl
        have december : daysInMonth (date.year - 1) 12 = 31 := rfl
        have january : daysBeforeMonth date.year 1 = 0 := rfl
        rw [show date.year - 1 + 1 = date.year by omega] at years
        have only : date.month = 1 := by omega
        simp only [ordinal, only, january]
        omega
      · cases h

end Date

/-! ## Times -/

/-- A time of the day, to the microsecond. -/
structure Clock where
  hour : Nat
  minute : Nat
  second : Nat
  microsecond : Nat
  hour_lt : hour < 24
  minute_lt : minute < 60
  second_lt : second < 60
  microsecond_lt : microsecond < 1000000
  deriving DecidableEq, Repr

/-- The microseconds of a day. -/
def dayLength : Nat := 86400000000

/-- The microseconds since midnight. -/
def Clock.sinceMidnight (clock : Clock) : Nat :=
  ((clock.hour * 60 + clock.minute) * 60 + clock.second) * 1000000 + clock.microsecond

theorem Clock.sinceMidnight_lt (clock : Clock) : clock.sinceMidnight < dayLength := by
  have hour := clock.hour_lt
  have minute := clock.minute_lt
  have second := clock.second_lt
  have microsecond := clock.microsecond_lt
  rw [sinceMidnight, dayLength]
  omega

/-- A wall clock and its offset from UTC, in microseconds; an offset is less than a day. -/
structure Aware where
  date : Date
  clock : Clock
  offset : Int
  offset_range : -(dayLength : Int) < offset ∧ offset < dayLength
  deriving DecidableEq, Repr

namespace Aware

/-- What the wall clock shows, in microseconds. -/
def wall (a : Aware) : Int := a.date.ordinal * dayLength + a.clock.sinceMidnight

/-- The instant, in microseconds. -/
def instant (a : Aware) : Int := a.wall - a.offset

/-- `a - timedelta(days=n)`, which raises `OverflowError` before the year 1. -/
def minusDays (a : Aware) : Nat → Option Aware
  | 0 => some a
  | n + 1 => a.date.pred.bind fun earlier => minusDays { a with date := earlier } n

theorem minusDays_eq {a c : Aware} {n : Nat} (h : a.minusDays n = some c) :
    c.wall + n * dayLength = a.wall ∧ c.offset = a.offset := by
  induction n generalizing a with
  | zero =>
    cases h
    simp
  | succ n ih =>
    rw [minusDays, Option.bind_eq_some_iff] at h
    obtain ⟨earlier, pred, h⟩ := h
    obtain ⟨wall_eq, offset_eq⟩ := ih h
    have days := Date.ordinal_pred pred
    refine ⟨?_, offset_eq⟩
    simp only [wall, dayLength] at wall_eq ⊢
    push_cast at wall_eq ⊢
    omega

end Aware

/-! ## The order of texts -/

/-- `a < b`: texts are compared by code point. -/
def before (a b : Text) : Bool := !le b a

theorem before_cons (c d : Char) (s t : Text) :
    before (c :: s) (d :: t) = true ↔ c.toNat < d.toNat ∨ c = d ∧ before s t = true := by
  simp only [before, le, Bool.not_or, Bool.not_and, Bool.and_eq_true, Bool.or_eq_true, Bool.not_eq_true',
    decide_eq_false_iff_not, beq_eq_false_iff_ne]
  rw [← Char.toNat_inj]
  constructor
  · rintro ⟨below, other | rest⟩
    · exact .inl (by omega)
    · rcases Nat.lt_or_ge c.toNat d.toNat with less | same
      · exact .inl less
      · exact .inr ⟨by omega, rest⟩
  · rintro (less | ⟨same, rest⟩)
    · exact ⟨by omega, .inl (by omega)⟩
    · exact ⟨by omega, .inr rest⟩

theorem before_cons_self (c : Char) (s t : Text) : before (c :: s) (c :: t) = true ↔ before s t = true := by
  rw [before_cons]
  simp

theorem before_nil_cons (c : Char) (s : Text) : before [] (c :: s) = true := rfl

theorem not_before_nil (s : Text) : ¬before s [] = true := by
  cases s <;> simp [before, le]

/-- Texts that begin with as many characters are compared by these first. -/
theorem before_append {a b : Text} (h : a.length = b.length) (s t : Text) :
    before (a ++ s) (b ++ t) = true ↔ before a b = true ∨ a = b ∧ before s t = true := by
  induction a generalizing b with
  | nil =>
    rw [List.eq_nil_of_length_eq_zero h.symm]
    simp [not_before_nil]
  | cons c a ih =>
    cases b with
    | nil => cases h
    | cons d b =>
      rw [List.cons_append, List.cons_append, before_cons, before_cons, ih (Nat.succ.inj h), List.cons_eq_cons]
      tauto

/-! ## Numerals -/

/-- `f"{n:0{width}d}"`, of a number that fits. -/
def padded : Nat → Nat → Text
  | 0, _ => []
  | width + 1, n => padded width (n / 10) ++ [(n % 10).digitChar]

theorem length_padded (width n : Nat) : (padded width n).length = width := by
  induction width generalizing n with
  | zero => rfl
  | succ width ih => rw [padded, List.length_append, ih, List.length_singleton]

theorem toNat_digitChar {d : Nat} (h : d < 10) : d.digitChar.toNat = 48 + d := by
  have table : ∀ d : Fin 10, d.1.digitChar.toNat = 48 + d.1 := by decide
  exact table ⟨d, h⟩

/-- Numerals of one width are compared as their numbers. -/
theorem before_padded {width n m : Nat} (hn : n < 10 ^ width) (hm : m < 10 ^ width) :
    (before (padded width n) (padded width m) = true ↔ n < m) ∧ (padded width n = padded width m ↔ n = m) := by
  induction width generalizing n m with
  | zero =>
    obtain rfl := Nat.lt_one_iff.mp hn
    obtain rfl := Nat.lt_one_iff.mp hm
    exact ⟨iff_of_false (not_before_nil _) (lt_irrefl 0), iff_of_true rfl rfl⟩
  | succ width ih =>
    obtain ⟨less, same⟩ := ih (n := n / 10) (m := m / 10) (by omega) (by omega)
    have last : ∀ {a b : Nat}, a < 10 → b < 10 →
        (before [a.digitChar] [b.digitChar] = true ↔ a < b) ∧ (a.digitChar = b.digitChar ↔ a = b) := by
      intro a b ha hb
      rw [before_cons, ← Char.toNat_inj, toNat_digitChar ha, toNat_digitChar hb]
      have none := not_before_nil []
      constructor
      · constructor
        · rintro (less | ⟨-, rest⟩)
          · omega
          · exact absurd rest none
        · exact fun less => .inl (by omega)
      · omega
    obtain ⟨lastLess, lastSame⟩ := last (Nat.mod_lt n (by decide)) (Nat.mod_lt m (by decide))
    have lengths : (padded width (n / 10)).length = (padded width (m / 10)).length := by
      rw [length_padded, length_padded]
    rw [padded, padded]
    constructor
    · rw [before_append lengths, less, same, lastLess]
      omega
    · constructor
      · intro equal
        obtain ⟨first, second⟩ := List.append_inj equal lengths
        have high := same.mp first
        have low := lastSame.mp (List.singleton_inj.mp second)
        omega
      · intro equal
        rw [equal]

/-- A numeral is compared first, and what follows it where the numbers are equal. -/
theorem before_padded_append {width n m : Nat} (hn : n < 10 ^ width) (hm : m < 10 ^ width) (s t : Text) :
    before (padded width n ++ s) (padded width m ++ t) = true ↔ n < m ∨ n = m ∧ before s t = true := by
  have lengths : (padded width n).length = (padded width m).length := by
    rw [length_padded, length_padded]
  rw [before_append lengths, (before_padded hn hm).1, (before_padded hn hm).2]

/-! ## The ISO format -/

/-- `.ffffff`, unless there are no microseconds. -/
def fraction (microsecond : Nat) : Text := if microsecond = 0 then [] else '.' :: padded 6 microsecond

def Date.text (date : Date) (rest : Text) : Text :=
  padded 4 date.year ++ '-' :: (padded 2 date.month ++ '-' :: (padded 2 date.day ++ rest))

def Clock.text (clock : Clock) (rest : Text) : Text :=
  padded 2 clock.hour ++ ':' :: (padded 2 clock.minute ++ ':' :: (padded 2 clock.second ++
    (fraction clock.microsecond ++ rest)))

/-- `hh:mm[:ss[.ffffff]]` -/
def lengthText (n : Nat) : Text :=
  let seconds := n / 1000000
  padded 2 (seconds / 3600) ++ ':' :: (padded 2 (seconds / 60 % 60) ++
    if n % 60000000 = 0 then [] else ':' :: (padded 2 (seconds % 60) ++ fraction (n % 1000000)))

/-- `_format_offset` -/
def offsetText (offset : Int) : Text := (if offset < 0 then '-' else '+') :: lengthText offset.natAbs

/-- `isoformat` -/
def Aware.isoformat (a : Aware) : Text := a.date.text ('T' :: a.clock.text (offsetText a.offset))

/-- Is `s` the text of an offset that comes before that of the other one? -/
def OffsetBefore (a b : Int) : Prop := 0 ≤ a ∧ b < 0 ∨ 0 ≤ a ∧ 0 ≤ b ∧ a < b ∨ a < 0 ∧ b < a

instance (a b : Int) : Decidable (OffsetBefore a b) := inferInstanceAs (Decidable (_ ∨ _))

/-- A fraction is compared first, if what follows it begins with a sign or ends. -/
theorem before_fraction_append {u v : Nat} {s t : Text} (hu : u < 1000000) (hv : v < 1000000)
    (hs : ∀ c ∈ s.head?, c.toNat < 46) (ht : ∀ c ∈ t.head?, c.toNat < 46) :
    before (fraction u ++ s) (fraction v ++ t) = true ↔ u < v ∨ u = v ∧ before s t = true := by
  rw [fraction, fraction]
  by_cases none : u = 0
  · by_cases none' : v = 0
    · simp [none, none']
    · rw [if_pos none, if_neg none', List.nil_append, List.cons_append]
      apply iff_of_true _ (.inl (by omega))
      cases s with
      | nil => rfl
      | cons c s => exact (before_cons _ _ _ _).mpr (.inl (hs c rfl))
  · by_cases none' : v = 0
    · rw [if_neg none, if_pos none', List.nil_append, List.cons_append]
      apply iff_of_false _ (by omega)
      cases t with
      | nil => exact not_before_nil _
      | cons c t =>
        have sign := ht c rfl
        rw [before_cons]
        rintro (less | ⟨rfl, -⟩)
        · have point : ('.' : Char).toNat = 46 := rfl
          omega
        · exact absurd sign (by decide)
    · rw [if_neg none, if_neg none', List.cons_append, List.cons_append, before_cons_self, before_padded_append hu hv]

theorem before_lengthText {n m : Nat} (hn : n < dayLength) (hm : m < dayLength) :
    before (lengthText n) (lengthText m) = true ↔ n < m := by
  rw [dayLength] at hn hm
  rw [lengthText, lengthText, before_padded_append (by omega) (by omega), before_cons_self,
    before_padded_append (by omega) (by omega)]
  have tail : before (if n % 60000000 = 0 then [] else ':' :: (padded 2 (n / 1000000 % 60) ++ fraction (n % 1000000)))
      (if m % 60000000 = 0 then [] else ':' :: (padded 2 (m / 1000000 % 60) ++ fraction (m % 1000000))) = true ↔
      n % 60000000 < m % 60000000 := by
    split
    · split
      · exact iff_of_false (not_before_nil _) (by omega)
      · exact iff_of_true rfl (by omega)
    · split
      · exact iff_of_false (not_before_nil _) (by omega)
      · have fractions := before_fraction_append (u := n % 1000000) (v := m % 1000000) (s := []) (t := []) (by omega)
          (by omega) (by simp) (by simp)
        rw [List.append_nil, List.append_nil] at fractions
        rw [before_cons_self, before_padded_append (by omega) (by omega), fractions]
        have none := not_before_nil []
        constructor
        · rintro (less | ⟨same, less | ⟨-, rest⟩⟩)
          · omega
          · omega
          · exact absurd rest none
        · omega
  rw [tail]
  omega

/-- How the texts of offsets compare: the sign first, then how far they are from UTC. -/
theorem before_offsetText {a b : Int} (ha : -(dayLength : Int) < a ∧ a < dayLength)
    (hb : -(dayLength : Int) < b ∧ b < dayLength) : before (offsetText a) (offsetText b) = true ↔ OffsetBefore a b := by
  rw [offsetText, offsetText, before_cons, before_lengthText (by omega) (by omega), OffsetBefore]
  have signs : ('+' : Char).toNat = 43 ∧ ('-' : Char).toNat = 45 := ⟨rfl, rfl⟩
  by_cases west : a < 0
  · by_cases west' : b < 0
    · rw [if_pos west, if_pos west']
      simp only [lt_irrefl, true_and, false_or]
      omega
    · rw [if_pos west, if_neg west', signs.1, signs.2]
      simp
      omega
  · by_cases west' : b < 0
    · rw [if_neg west, if_pos west', signs.1, signs.2]
      exact iff_of_true (.inl (by decide)) (.inl ⟨by omega, west'⟩)
    · rw [if_neg west, if_neg west']
      simp only [lt_irrefl, true_and, false_or]
      omega

/-- **How the texts of datetimes compare**: by the wall clocks, and by the offsets where these show the same. -/
theorem before_isoformat_iff (a b : Aware) : before a.isoformat b.isoformat = true ↔
    a.wall < b.wall ∨ a.wall = b.wall ∧ OffsetBefore a.offset b.offset := by
  have sign : ∀ offset : Int, ∀ c ∈ (offsetText offset).head?, c.toNat < 46 := by
    intro offset c here
    rw [offsetText, List.head?_cons, Option.mem_some_iff] at here
    rw [← here]
    split <;> decide
  -- the fields are compared from left to right
  have time : before (a.clock.text (offsetText a.offset)) (b.clock.text (offsetText b.offset)) = true ↔
      a.clock.sinceMidnight < b.clock.sinceMidnight ∨
        a.clock.sinceMidnight = b.clock.sinceMidnight ∧ OffsetBefore a.offset b.offset := by
    have hour := a.clock.hour_lt
    have hour' := b.clock.hour_lt
    have minute := a.clock.minute_lt
    have minute' := b.clock.minute_lt
    have second := a.clock.second_lt
    have second' := b.clock.second_lt
    have micro := a.clock.microsecond_lt
    have micro' := b.clock.microsecond_lt
    rw [Clock.text, Clock.text, before_padded_append (by omega) (by omega), before_cons_self,
      before_padded_append (by omega) (by omega), before_cons_self, before_padded_append (by omega) (by omega),
      before_fraction_append micro micro' (sign _) (sign _), before_offsetText a.offset_range b.offset_range,
      Clock.sinceMidnight, Clock.sinceMidnight]
    by_cases offsets : OffsetBefore a.offset b.offset
    · simp only [offsets, and_true]
      omega
    · simp only [offsets, and_false, or_false]
      omega
  have fields : before a.isoformat b.isoformat = true ↔ a.date.Before b.date ∨
      (a.date.year = b.date.year ∧ a.date.month = b.date.month ∧ a.date.day = b.date.day) ∧
        (a.clock.sinceMidnight < b.clock.sinceMidnight ∨
          a.clock.sinceMidnight = b.clock.sinceMidnight ∧ OffsetBefore a.offset b.offset) := by
    have year := a.date.year_range
    have year' := b.date.year_range
    have month := a.date.month_range
    have month' := b.date.month_range
    have day := a.date.day_range.2.trans (daysInMonth_le _ _)
    have day' := b.date.day_range.2.trans (daysInMonth_le _ _)
    rw [Aware.isoformat, Aware.isoformat, Date.text, Date.text, before_padded_append (by omega) (by omega),
      before_cons_self, before_padded_append (by omega) (by omega), before_cons_self,
      before_padded_append (by omega) (by omega), before_cons_self, time, Date.Before]
    generalize (a.clock.sinceMidnight < b.clock.sinceMidnight ∨
      a.clock.sinceMidnight = b.clock.sinceMidnight ∧ OffsetBefore a.offset b.offset) = later
    simp only [and_or_left, or_assoc, and_assoc]
  have clock := a.clock.sinceMidnight_lt
  have clock' := b.clock.sinceMidnight_lt
  rw [dayLength] at clock clock'
  rw [fields, Aware.wall, Aware.wall, show (dayLength : Int) = 86400000000 from rfl]
  by_cases earlier : a.date.Before b.date
  · have days := Date.ordinal_lt_of_before earlier
    exact iff_of_true (.inl earlier) (.inl (by omega))
  · by_cases later : b.date.Before a.date
    · have days := Date.ordinal_lt_of_before later
      apply iff_of_false
      · rintro (first | ⟨same, -⟩)
        · exact earlier first
        · simp only [Date.Before] at later
          omega
      · rintro (first | ⟨same, -⟩)
        · omega
        · omega
    · have same := Date.eq_of_not_before earlier later
      have days : a.date.ordinal = b.date.ordinal := by
        rw [Date.ordinal, Date.ordinal, same.1, same.2.1, same.2.2]
      rw [days, or_iff_right earlier, and_iff_right same, Int.add_lt_add_iff_left, Int.add_right_inj, Int.ofNat_lt,
        Int.ofNat_inj]

namespace Aware

/-- The texts of `a` and `c` compare otherwise than their instants: the wall clock of `a` shows a time before that of
`c` by no more than the offsets differ, or after it by less, or the same one with another offset, none of both being
negative. -/
def Misplaced (a c : Aware) : Prop :=
  0 < c.wall - a.wall ∧ c.wall - a.wall ≤ c.offset - a.offset ∨
    0 < a.wall - c.wall ∧ a.wall - c.wall < a.offset - c.offset ∨
    a.wall = c.wall ∧ a.offset ≠ c.offset ∧ 0 ≤ a.offset ∧ 0 ≤ c.offset

instance (a c : Aware) : Decidable (Misplaced a c) := inferInstanceAs (Decidable (_ ∨ _))

/-- **When the texts compare as the instants do.** -/
theorem before_isoformat_iff_instant (a c : Aware) :
    (before a.isoformat c.isoformat = true ↔ a.instant < c.instant) ↔ ¬Misplaced a c := by
  rw [before_isoformat_iff, Misplaced, OffsetBefore, instant, instant]
  omega

/-- With one offset they do. -/
theorem not_misplaced_of_offset_eq {a c : Aware} (h : a.offset = c.offset) : ¬Misplaced a c := by
  rw [Misplaced]
  omega

end Aware

end Datetime
