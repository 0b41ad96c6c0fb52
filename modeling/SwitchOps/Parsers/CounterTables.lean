import Mathlib.Data.List.GetD
import SwitchOps.Assurance.Snapshot
import SwitchOps.InterfaceGrammar
import SwitchOps.Lib.Scanning

/-!
# The error counter and PoE tables

The tables as IOS prints them, and what `parse_interface_errors` and `parse_poe` make of them. Both parsers look at
lines that begin with `Gi` and a digit only, and the latter needs seven words, so the rows of all other families and
those without a device are passed over. `tablesRead_iff` says which tables are read whole.
-/

namespace List

variable {α β : Type}

/-- Some of the items are mapped to the values of all exactly if none is left out. -/
theorem map_filter_eq_map_iff {p : α → Bool} {f g : α → β} {l : List α} :
    (l.filter p).map f = l.map g ↔ ∀ a ∈ l, p a = true ∧ f a = g a := by
  constructor
  · intro same
    have length := congrArg List.length same
    rw [List.length_map, List.length_map] at length
    have all := List.length_filter_eq_length_iff.mp length
    rw [List.filter_eq_self.mpr all] at same
    exact fun a here => ⟨all a here, List.map_inj_left.mp same a here⟩
  · intro all
    rw [List.filter_eq_self.mpr fun a here => (all a here).1]
    exact List.map_congr_left fun a here => (all a here).2

end List

namespace SwitchOps

open Text

/-! ## Lines of interfaces -/

/-- Is the interface of the only family whose rows the parsers look at? -/
def PhysicalName.isGigabit (p : PhysicalName) : Bool := p.family = "GigabitEthernet".toList

theorem plain_gigabitLine : Regex.Plain gigabitLine := ⟨trivial, ⟨trivial, trivial, trivial⟩, trivial⟩

theorem not_isSpace_short (p : PhysicalName) (rest : Text) : ∀ c ∈ (p.short ++ rest).head?, isSpace c = false := by
  intro c head
  rw [List.head?_append_of_ne_nil _ p.isToken_short.ne_nil] at head
  exact p.isToken_short.solid c (List.mem_of_mem_head? head)

/-- A line that begins with the short name of an interface is looked at if that is a gigabit interface. -/
theorem matchStart_gigabitLine (p : PhysicalName) (rest : Text) :
    (Regex.matchStart gigabitLine (p.short ++ rest)).isSome = p.isGigabit := by
  rw [Bool.eq_iff_iff, Regex.matchStart_isSome_iff plain_gigabitLine, PhysicalName.isGigabit, decide_eq_true_eq]
  obtain ⟨abbreviation, listed, short⟩ := p.exists_short_eq
  constructor
  · rintro ⟨_, v, split, blanks, _, rfl, star, letters, _, rfl, name, d, digit, rfl⟩
    have none : blanks = [] := by
      cases blanks with
      | nil => rfl
      | cons b blanks =>
        have solid := not_isSpace_short p rest b (by rw [split]; rfl)
        rw [Regex.denotes_star_chr.mp star b List.mem_cons_self] at solid
        cases solid
    rw [none, Regex.denotes_lit.mp name, short, List.append_assoc] at split
    have table : ∀ entry ∈ shortPrefixes, 2 ≤ entry.2.length ∧
        (entry.2.take 2 = ['G', 'i'] → entry.1 = "GigabitEthernet".toList) := by decide
    obtain ⟨long, gigabit⟩ := table _ listed
    apply gigabit
    have start := congrArg (List.take 2) split
    rw [List.take_append_of_le_length long] at start
    exact start
  · intro gigabit
    obtain ⟨c, more, suffix, digit⟩ := p.head?_suffix
    have name : abbreviation = ['G', 'i'] := by
      have table : ∀ entry ∈ shortPrefixes, entry.1 = "GigabitEthernet".toList → entry.2 = ['G', 'i'] := by decide
      exact table _ listed gigabit
    rw [short, name, suffix]
    exact ⟨['G', 'i', c], more ++ rest, rfl, [], ['G', 'i', c], rfl, Regex.denotes_star_chr.mpr (by simp), ['G', 'i'],
      [c], rfl, Regex.denotes_lit.mpr rfl, c, isDecimal_of_isDigit digit, rfl⟩

theorem isLineBreak_of_mem_short {p : PhysicalName} {c : Char} (h : c ∈ p.short) : isLineBreak c = false :=
  isLineBreak_of_isSpace (p.isToken_short.solid c h)

/-! ## `show interfaces counters errors` -/

/-- The counters of a port, by block; a switch prints further ones after those that are read. -/
structure PortCounters where
  port : PhysicalName
  alignErr : Nat
  fcsErr : Nat
  xmitErr : Nat
  rcvErr : Nat
  underSize : Nat
  furtherFirst : List Nat := []
  singleCol : Nat
  multiCol : Nat
  lateCol : Nat
  excessCol : Nat
  furtherSecond : List Nat := []

namespace PortCounters

variable (row : PortCounters)

def first : List Nat := [row.alignErr, row.fcsErr, row.xmitErr, row.rcvErr, row.underSize] ++ row.furtherFirst

def second : List Nat := [row.singleCol, row.multiCol, row.lateCol, row.excessCol] ++ row.furtherSecond

/-- The counters that are read. -/
def counters : List Nat := [row.alignErr, row.fcsErr, row.xmitErr, row.rcvErr, row.underSize, row.singleCol,
  row.multiCol, row.lateCol, row.excessCol]

def total : Int := (row.counters.map Int.ofNat).sum

/-- The row of the port, with its nine counters and their sum. -/
def observed : InterfaceErrorCounters where
  port := row.port.short
  alignErr := row.alignErr
  fcsErr := row.fcsErr
  xmitErr := row.xmitErr
  rcvErr := row.rcvErr
  underSize := row.underSize
  singleCol := row.singleCol
  multiCol := row.multiCol
  lateCol := row.lateCol
  excessCol := row.excessCol
  total := row.total

/-- `int` can read the counters. -/
def Readable : Prop := row.port.isGigabit = true ∧ ∀ n ∈ row.counters, (ofNat n).length ≤ digitLimit

end PortCounters

/-- The error counters of several ports, and how wide the columns are. -/
structure ErrorTable where
  rows : List PortCounters
  portWidth : Nat
  width : Nat
  distinct : (rows.map (·.port)).Nodup

/-- A line of a table: the short name, and numbers in columns. -/
def portLine (portWidth width : Nat) (port : PhysicalName) (values : List Nat) : Text :=
  padRight portWidth port.short ++ columns width (values.map ofNat)

def firstHeader : Text := "Port        Align-Err     FCS-Err   Xmit-Err    Rcv-Err  UnderSize  OutDiscards"
def secondHeader : Text := "Port      Single-Col  Multi-Col   Late-Col  Excess-Col  Carri-Sen     Runts     Giants"

namespace ErrorTable

variable (table : ErrorTable)

def firstLine (row : PortCounters) : Text := portLine table.portWidth table.width row.port row.first
def secondLine (row : PortCounters) : Text := portLine table.portWidth table.width row.port row.second

def lines : List Text :=
  firstHeader :: table.rows.map table.firstLine ++ [] :: secondHeader :: table.rows.map table.secondLine

/-- The table as IOS prints it. -/
def text : Text := unlines table.lines

end ErrorTable

theorem mem_portLine {portWidth width : Nat} {port : PhysicalName} {values : List Nat} {c : Char}
    (h : c ∈ portLine portWidth width port values) : c = ' ' ∨ c ∈ port.short ∨ c.isDigit = true := by
  rcases List.mem_append.mp h with h | h
  · rcases List.mem_append.mp h with h | h
    · exact .inr (.inl h)
    · exact .inl (List.mem_replicate.mp h).2
  · rcases mem_columns h with h | ⟨cell, here, h⟩
    · exact .inl h
    · obtain ⟨n, -, rfl⟩ := List.mem_map.mp here
      exact .inr (.inr (isDigit_of_mem_ofNat h))

theorem isLineBreak_of_mem_portLine {portWidth width : Nat} {port : PhysicalName} {values : List Nat} {c : Char}
    (h : c ∈ portLine portWidth width port values) : isLineBreak c = false := by
  rcases mem_portLine h with rfl | h | h
  · decide
  · exact isLineBreak_of_mem_short h
  · exact isLineBreak_of_isSpace (isSpace_of_isDigit h)

theorem split_portLine (portWidth width : Nat) (port : PhysicalName) (values : List Nat) :
    (portLine portWidth width port values).split = port.short :: values.map ofNat := by
  rw [portLine, split_append_columns, split_padRight, split_word port.isToken_short, flatMap_split_words]
  · rfl
  · intro w here
    obtain ⟨n, -, rfl⟩ := List.mem_map.mp here
    exact isToken_ofNat n

/-- No title stands in the line of a port. -/
theorem not_header_portLine (portWidth width : Nat) (port : PhysicalName) (values : List Nat) :
    errorHeaderFirst.all (Text.contains (portLine portWidth width port values)) = false ∧
      errorHeaderSecond.all (Text.contains (portLine portWidth width port values)) = false := by
  have absent : ∀ a : Char, a.isDigit = false → a ≠ ' ' → a ≠ '/' → (∀ entry ∈ shortPrefixes, a ∉ entry.2) →
      a ∉ portLine portWidth width port values := by
    intro a noDigit noBlank noSlash noLetter here
    rcases mem_portLine here with h | h | h
    · exact noBlank h
    · obtain ⟨abbreviation, listed, short⟩ := port.exists_short_eq
      rw [short] at h
      rcases List.mem_append.mp h with h | h
      · exact noLetter _ listed h
      · rcases PhysicalName.suffix_char h with h | h
        · rw [noDigit] at h
          cases h
        · exact noSlash h
    · rw [noDigit] at h
      cases h
  have first : Text.contains (portLine portWidth width port values) "Align-Err" = false :=
    contains_eq_false (absent 'A' (by decide) (by decide) (by decide) (by decide))
  have second : Text.contains (portLine portWidth width port values) "Single-Col" = false :=
    contains_eq_false (absent 'S' (by decide) (by decide) (by decide) (by decide))
  constructor
  · rw [errorHeaderFirst, List.all_cons, first, Bool.false_and]
  · rw [errorHeaderSecond, List.all_cons, second, Bool.false_and]

/-- What the line of a port does. -/
theorem errorLine_portLine (state : Option ErrorBlock × Dict Text InterfaceErrorCounters) (portWidth width : Nat)
    (port : PhysicalName) (values : List Nat) :
    errorLine state (portLine portWidth width port values) =
      if port.isGigabit then
        (state.1, Dict.set state.2 port.short (((Dict.get? state.2 port.short).getD { port := port.short }).update
          state.1 (port.short :: values.map ofNat)))
      else state := by
  obtain ⟨first, second⟩ := not_header_portLine portWidth width port values
  have visible : (portLine portWidth width port values).strip.isEmpty = false := by
    rw [List.isEmpty_eq_false_iff]
    intro empty
    obtain ⟨c, rest, split⟩ := List.exists_cons_of_ne_nil port.isToken_short.ne_nil
    have here : c ∈ port.short := by
      rw [split]
      exact List.mem_cons_self
    have blank := strip_eq_nil_iff.mp empty c (List.mem_append_left _ (List.mem_append_left _ here))
    rw [port.isToken_short.solid c here] at blank
    cases blank
  have looked : (Regex.matchStart gigabitLine (portLine portWidth width port values)).isNone = !port.isGigabit := by
    rw [← Option.not_isSome, portLine, padRight, List.append_assoc, matchStart_gigabitLine]
  rw [errorLine, visible, first, second, looked, split_portLine]
  cases port.isGigabit <;> rfl

namespace PortCounters

variable (row : PortCounters)

/-- What is known of a port after its line of the first block. -/
def half : InterfaceErrorCounters :=
  ({ port := row.port.short } : InterfaceErrorCounters).update (some .first) (row.port.short :: row.first.map ofNat)

/-- What is read of a port. -/
def read : InterfaceErrorCounters := row.half.update (some .second) (row.port.short :: row.second.map ofNat)

theorem port_read : row.read.port = row.port.short := rfl

/-- A counter is read as it is, where `int` can read it. -/
theorem safeInt_ofNat (n : Nat) : safeInt (ofNat n) = n ↔ (ofNat n).length ≤ digitLimit := by
  rw [safeInt, parseInt_ofNat]
  by_cases short : (ofNat n).length ≤ digitLimit
  · rw [if_pos short, Option.getD_some]
    exact iff_of_true rfl short
  · rw [if_neg short, Option.getD_none]
    apply iff_of_false _ short
    intro zero
    have none : n = 0 := by omega
    rw [none] at short
    exact short (by decide)

/-- A port is read exactly if `int` can read its counters. -/
theorem read_eq_observed : row.read = row.observed ↔ ∀ n ∈ row.counters, (ofNat n).length ≤ digitLimit := by
  have fields : row.read = { row.observed with
      alignErr := safeInt (ofNat row.alignErr), fcsErr := safeInt (ofNat row.fcsErr),
      xmitErr := safeInt (ofNat row.xmitErr), rcvErr := safeInt (ofNat row.rcvErr),
      underSize := safeInt (ofNat row.underSize), singleCol := safeInt (ofNat row.singleCol),
      multiCol := safeInt (ofNat row.multiCol), lateCol := safeInt (ofNat row.lateCol),
      excessCol := safeInt (ofNat row.excessCol), total := (row.counters.map fun n => safeInt (ofNat n)).sum } := by
    simp [read, half, InterfaceErrorCounters.update, first, second, observed, counters, add_assoc]
  have eachOne : (∀ n ∈ row.counters, (ofNat n).length ≤ digitLimit) ↔
      ∀ n ∈ row.counters, safeInt (ofNat n) = (n : Int) :=
    forall₂_congr fun n _ => (safeInt_ofNat n).symm
  rw [eachOne, fields]
  constructor
  · intro same
    have align := congrArg InterfaceErrorCounters.alignErr same
    have fcs := congrArg InterfaceErrorCounters.fcsErr same
    have xmit := congrArg InterfaceErrorCounters.xmitErr same
    have rcv := congrArg InterfaceErrorCounters.rcvErr same
    have under := congrArg InterfaceErrorCounters.underSize same
    have single := congrArg InterfaceErrorCounters.singleCol same
    have multi := congrArg InterfaceErrorCounters.multiCol same
    have late := congrArg InterfaceErrorCounters.lateCol same
    have excess := congrArg InterfaceErrorCounters.excessCol same
    simp only [counters, List.forall_mem_cons]
    exact ⟨align, fcs, xmit, rcv, under, single, multi, late, excess, fun _ none => absurd none List.not_mem_nil⟩
  · intro all
    have sum : (row.counters.map fun n => safeInt (ofNat n)).sum = row.total :=
      congrArg List.sum (List.map_congr_left all)
    simp only [counters, List.forall_mem_cons] at all
    obtain ⟨align, fcs, xmit, rcv, under, single, multi, late, excess, -⟩ := all
    rw [sum, align, fcs, xmit, rcv, under, single, multi, late, excess]
    rfl

end PortCounters

namespace ErrorTable

variable (table : ErrorTable)

/-- The rows that are looked at. -/
def gigabit : List PortCounters := table.rows.filter (·.port.isGigabit)

theorem nodup_gigabit : (table.gigabit.map (·.port.short)).Nodup := by
  have all : (table.rows.map (·.port.short)).Nodup := by
    have shorts := table.distinct.map fun _ _ same => PhysicalName.short_injective same
    rwa [List.map_map] at shorts
  exact all.sublist (List.filter_sublist.map _)

/-- Lines of a block, those of other families aside. -/
theorem foldl_lines (line : PortCounters → Text) (values : PortCounters → List Nat)
    (render : ∀ row, line row = portLine table.portWidth table.width row.port (values row))
    (state : Option ErrorBlock × Dict Text InterfaceErrorCounters) :
    (table.rows.map line).foldl errorLine state = (table.gigabit.map line).foldl errorLine state := by
  rw [List.foldl_map, List.foldl_map, gigabit, List.foldl_filter]
  congr 1
  funext state row
  rw [render, errorLine_portLine]
  split
  · rfl
  · rfl

/-- After the first block every gigabit port has its first counters. -/
theorem foldl_first {rows : List PortCounters} {d : Dict Text InterfaceErrorCounters}
    (gigabit : ∀ row ∈ rows, row.port.isGigabit = true) (fresh : (Dict.keys d ++ rows.map (·.port.short)).Nodup) :
    (rows.map table.firstLine).foldl errorLine (some .first, d) =
      (some .first, d ++ rows.map fun row => (row.port.short, row.half)) := by
  induction rows generalizing d with
  | nil => simp
  | cons row rows ih =>
    have new : row.port.short ∉ Dict.keys d := fun old =>
      (List.disjoint_of_nodup_append fresh) old List.mem_cons_self
    have none : Dict.get? d row.port.short = none := by
      rw [← Option.not_isSome_iff_eq_none, Dict.get?_isSome_iff]
      exact new
    rw [List.map_cons, List.foldl_cons, firstLine, errorLine_portLine, if_pos (gigabit row List.mem_cons_self)]
    dsimp only
    rw [none, Option.getD_none, Dict.set_of_not_mem new, ih fun other here => gigabit other (List.mem_cons_of_mem _ here)]
    · rw [List.append_assoc]
      rfl
    · rw [Dict.keys, List.map_append, List.append_assoc]
      exact fresh

/-- After the second block the ports have all their counters. -/
theorem foldl_second {rows done : List PortCounters} (gigabit : ∀ row ∈ rows, row.port.isGigabit = true)
    (fresh : ((done ++ rows).map (·.port.short)).Nodup) :
    (rows.map table.secondLine).foldl errorLine
        (some .second, (done.map fun row => (row.port.short, row.read)) ++ rows.map fun row => (row.port.short, row.half)) =
      (some .second, (done ++ rows).map fun row => (row.port.short, row.read)) := by
  induction rows generalizing done with
  | nil => simp
  | cons row rows ih =>
    have earlier : row.port.short ∉ Dict.keys (done.map fun row => (row.port.short, row.read)) := by
      rw [Dict.keys, List.map_map]
      rw [List.map_append] at fresh
      exact fun old => (List.disjoint_of_nodup_append fresh) old List.mem_cons_self
    have known : Dict.get? ((done.map fun row => (row.port.short, row.read)) ++
        (row :: rows).map fun row => (row.port.short, row.half)) row.port.short = some row.half := by
      apply Dict.get?_of_mem
      · rw [Dict.keys, List.map_append, List.map_map, List.map_map]
        rw [List.map_append] at fresh
        exact fresh
      · exact List.mem_append_right _ List.mem_cons_self
    rw [List.map_cons] at known
    rw [List.map_cons, List.map_cons, List.foldl_cons, secondLine, errorLine_portLine,
      if_pos (gigabit row List.mem_cons_self)]
    dsimp only
    rw [known, Option.getD_some, Dict.set_append_cons earlier]
    have rest := @ih (done ++ [row]) (fun other here => gigabit other (List.mem_cons_of_mem _ here))
      (by rwa [List.append_assoc, List.singleton_append])
    rw [List.map_append, List.append_assoc, List.append_assoc] at rest
    exact rest

theorem isLineBreak_of_mem_lines : ∀ line ∈ table.lines, ∀ c ∈ line, isLineBreak c = false := by
  have headers : (∀ c ∈ firstHeader, isLineBreak c = false) ∧ ∀ c ∈ secondHeader, isLineBreak c = false := by
    decide +kernel
  intro line here
  rcases List.mem_cons.mp here with rfl | here
  · exact headers.1
  rcases List.mem_append.mp here with here | here
  · obtain ⟨row, -, rfl⟩ := List.mem_map.mp here
    exact fun c => isLineBreak_of_mem_portLine
  rcases List.mem_cons.mp here with rfl | here
  · exact fun c none => absurd none List.not_mem_nil
  rcases List.mem_cons.mp here with rfl | here
  · exact headers.2
  · obtain ⟨row, -, rfl⟩ := List.mem_map.mp here
    exact fun c => isLineBreak_of_mem_portLine

/-- **What is read of the table**: the gigabit ports, each with the counters that `int` can read. -/
theorem parseInterfaceErrors_text : parseInterfaceErrors table.text = table.gigabit.map PortCounters.read := by
  have gigabit : ∀ row ∈ table.gigabit, row.port.isGigabit = true := fun row here => (List.mem_filter.mp here).2
  have firstTitle : ∀ state, errorLine state firstHeader = (some .first, state.2) := by
    have titles : firstHeader.strip.isEmpty = false ∧ errorHeaderFirst.all (Text.contains firstHeader) = true := by
      decide +kernel
    intro state
    rw [errorLine, titles.1, titles.2]
    rfl
  have secondTitle : ∀ state, errorLine state secondHeader = (some .second, state.2) := by
    have titles : secondHeader.strip.isEmpty = false ∧ errorHeaderFirst.all (Text.contains secondHeader) = false ∧
        errorHeaderSecond.all (Text.contains secondHeader) = true := by decide +kernel
    intro state
    rw [errorLine, titles.1, titles.2.1, titles.2.2]
    rfl
  have blank : ∀ state, errorLine state [] = state := fun state => rfl
  rw [parseInterfaceErrors, text, splitlines_unlines table.isLineBreak_of_mem_lines, lines, List.cons_append,
    List.foldl_cons, firstTitle, List.foldl_append, table.foldl_lines table.firstLine PortCounters.first (fun _ => rfl),
    table.foldl_first gigabit (by simpa [Dict.keys] using table.nodup_gigabit), List.foldl_cons, blank, List.foldl_cons,
    secondTitle, table.foldl_lines table.secondLine PortCounters.second (fun _ => rfl), List.nil_append]
  have second := @foldl_second table table.gigabit [] gigabit table.nodup_gigabit
  rw [List.map_nil, List.nil_append, List.nil_append] at second
  rw [second, Dict.values, List.map_map]
  rfl

/-- The table is read whole exactly if all ports are gigabit ones and `int` can read their counters. -/
theorem parseInterfaceErrors_iff :
    parseInterfaceErrors table.text = table.rows.map PortCounters.observed ↔ ∀ row ∈ table.rows, row.Readable := by
  rw [parseInterfaceErrors_text, gigabit, List.map_filter_eq_map_iff]
  exact forall₂_congr fun row _ => and_congr_right' row.read_eq_observed

end ErrorTable

/-! ## `show power inline` -/

/-- A row of the table: words, and the device in free text. -/
structure PoeRow where
  port : PhysicalName
  admin : Text
  oper : Text
  power : Text
  device : Text
  poeClass : Text
  maximum : Text
  words : ∀ cell ∈ [admin, oper, power, poeClass, maximum], IsToken cell
  device_line : ∀ c ∈ device, isLineBreak c = false

/-- The rows of several ports, the budget above them, and how wide the columns are. -/
structure PoeTable where
  rows : List PoeRow
  available : Text
  used : Text
  remaining : Text
  portWidth : Nat
  adminWidth : Nat
  operWidth : Nat
  powerWidth : Nat
  deviceWidth : Nat
  classWidth : Nat
  distinct : (rows.map (·.port)).Nodup
  words : ∀ cell ∈ [available, used, remaining], IsToken cell

namespace PoeRow

variable (row : PoeRow)

/-- The row has seven words and is of a gigabit interface. -/
def isRead : Bool := row.port.isGigabit && !row.device.split.isEmpty

/-- What is read of the row. -/
def read : PoePort where
  interface := row.port.short
  admin := row.admin
  oper := row.oper
  device := if (Text.join " " row.device.split).isEmpty then "n/a" else Text.join " " row.device.split
  poeClass := row.poeClass

/-- The interface is a gigabit one, and the device is more than blanks. -/
def Readable : Prop := row.port.isGigabit = true ∧ ∃ c ∈ row.device, isSpace c = false

theorem isRead_iff : row.isRead = true ↔ row.Readable := by
  rw [isRead, Bool.and_eq_true, Bool.not_eq_true', List.isEmpty_eq_false_iff, Readable]
  apply and_congr_right'
  rw [Ne, split_eq_nil_iff]
  simp

end PoeRow

namespace PoeTable

variable (table : PoeTable)

def heading : List Text := [
  "Available:" ++ table.available ++ "(w)  Used:" ++ table.used ++ "(w)  Remaining:" ++ table.remaining ++ "(w)",
  "",
  "Interface Admin  Oper       Power   Device              Class Max",
  "                            (Watts)",
  "--------- ------ ---------- ------- ------------------- ----- ----"]

def line (row : PoeRow) : Text :=
  leftColumns [(table.portWidth, row.port.short), (table.adminWidth, row.admin), (table.operWidth, row.oper),
    (table.powerWidth, row.power), (table.deviceWidth, row.device), (table.classWidth, row.poeClass)] ++ row.maximum

/-- The table as IOS prints it. -/
def text : Text := unlines (table.heading ++ table.rows.map table.line)

theorem split_line (row : PoeRow) : (table.line row).split =
    [row.port.short, row.admin, row.oper, row.power] ++ row.device.split ++ [row.poeClass, row.maximum] := by
  have words := row.words
  simp only [List.forall_mem_cons] at words
  obtain ⟨admin, oper, power, poeClass, maximum, -⟩ := words
  rw [line, split_leftColumns_append]
  simp [split_word row.port.isToken_short, split_word admin, split_word oper, split_word power, split_word poeClass,
    split_word maximum]

/-- What the line of a port gives. -/
theorem poeLine_line (row : PoeRow) : poeLine (table.line row) = if row.isRead then some row.read else none := by
  have looked : (Regex.matchStart gigabitLine (table.line row)).isNone = !row.port.isGigabit := by
    rw [← Option.not_isSome, line, leftColumns, List.flatMap_cons, padRight, List.append_assoc, List.append_assoc,
      List.append_assoc, matchStart_gigabitLine]
  rw [poeLine, looked, split_line, PoeRow.isRead]
  cases row.port.isGigabit with
  | false => rfl
  | true =>
    cases words : row.device.split with
    | nil => rfl
    | cons w ws =>
      have device : ([row.port.short, row.admin, row.oper, row.power] ++ (w :: ws) ++ [row.poeClass, row.maximum]).take
          (([row.port.short, row.admin, row.oper, row.power] ++ (w :: ws) ++ [row.poeClass, row.maximum]).length - 2) =
          [row.port.short, row.admin, row.oper, row.power] ++ (w :: ws) := by
        rw [List.length_append]
        exact List.take_left
      have poeClass : ([row.port.short, row.admin, row.oper, row.power] ++ (w :: ws) ++ [row.poeClass, row.maximum]).getD
          (([row.port.short, row.admin, row.oper, row.power] ++ (w :: ws) ++ [row.poeClass, row.maximum]).length - 2) [] =
          row.poeClass := by
        rw [List.length_append]
        exact List.getD_append_right _ _ _ _ le_rfl |>.trans (by simp)
      rw [if_neg (by simp), if_neg (by simp), device, poeClass, PoeRow.read, words]
      rfl

/-- No line of the heading is read. -/
theorem poeLine_heading : ∀ line ∈ table.heading, poeLine line = none := by
  have refused : ∀ c : Char, ∀ line : Text, isSpace c = false → c ≠ 'G' → poeLine (c :: line) = none := by
    intro c line solid other
    have none : (Regex.matchStart gigabitLine (c :: line)).isSome = false := by
      rw [Bool.eq_false_iff]
      intro matched
      obtain ⟨_, v, split, blanks, _, rfl, star, letters, _, rfl, name, d, digit, rfl⟩ :=
        (Regex.matchStart_isSome_iff plain_gigabitLine).mp matched
      rw [Regex.denotes_lit.mp name] at split
      cases blanks with
      | nil => exact other (List.cons.inj split).1
      | cons b blanks =>
        have blank := Regex.denotes_star_chr.mp star b List.mem_cons_self
        rw [← (List.cons.inj split).1, solid] at blank
        cases blank
    rw [poeLine, if_pos]
    rw [← Option.not_isSome, none]
    rfl
  have fixed : poeLine "" = none ∧ poeLine "                            (Watts)" = none := by decide +kernel
  intro line here
  simp only [heading, List.mem_cons, List.not_mem_nil, or_false] at here
  rcases here with rfl | rfl | rfl | rfl | rfl
  · exact refused 'A' _ (by decide) (by decide)
  · exact fixed.1
  · exact refused 'I' _ (by decide) (by decide)
  · exact fixed.2
  · exact refused '-' _ (by decide) (by decide)

theorem isLineBreak_of_mem_line (row : PoeRow) : ∀ c ∈ table.line row, isLineBreak c = false := by
  have words := row.words
  simp only [List.forall_mem_cons] at words
  obtain ⟨admin, oper, power, poeClass, maximum, -⟩ := words
  have plain : ∀ {w : Text}, IsToken w → ∀ c ∈ w, isLineBreak c = false :=
    fun word c here => isLineBreak_of_isSpace (word.solid c here)
  have cells : ∀ cell ∈ [(table.portWidth, row.port.short), (table.adminWidth, row.admin), (table.operWidth, row.oper),
      (table.powerWidth, row.power), (table.deviceWidth, row.device), (table.classWidth, row.poeClass)],
      ∀ c ∈ cell.2, isLineBreak c = false := by
    simp only [List.forall_mem_cons]
    exact ⟨plain row.port.isToken_short, plain admin, plain oper, plain power, row.device_line, plain poeClass,
      fun _ none => absurd none List.not_mem_nil⟩
  intro c here
  rcases List.mem_append.mp here with here | here
  · rcases mem_leftColumns here with rfl | ⟨cell, known, here⟩
    · decide
    · exact cells cell known c here
  · exact plain maximum c here

theorem isLineBreak_of_mem_heading : ∀ line ∈ table.heading, ∀ c ∈ line, isLineBreak c = false := by
  have words := table.words
  simp only [List.forall_mem_cons] at words
  obtain ⟨available, used, remaining, -⟩ := words
  have plain : ∀ {w : Text}, IsToken w → ∀ c ∈ w, isLineBreak c = false :=
    fun word c here => isLineBreak_of_isSpace (word.solid c here)
  have fixed : ∀ part ∈ (["Available:", "(w)  Used:", "(w)  Remaining:", "(w)",
      "Interface Admin  Oper       Power   Device              Class Max", "                            (Watts)",
      "--------- ------ ---------- ------- ------------------- ----- ----"] : List Text),
      ∀ c ∈ part, isLineBreak c = false := by decide +kernel
  simp only [List.forall_mem_cons] at fixed
  obtain ⟨title, usedTitle, remainingTitle, watts, columns, unit, rule, -⟩ := fixed
  simp only [heading, List.forall_mem_cons, List.forall_mem_append]
  exact ⟨⟨⟨⟨⟨⟨⟨title, plain available⟩, usedTitle⟩, plain used⟩, remainingTitle⟩, plain remaining⟩, watts⟩,
    fun _ none => absurd none List.not_mem_nil, columns, unit, rule, fun _ none => absurd none List.not_mem_nil⟩

/-- **What is read of the table**: the gigabit ports that have a device. -/
theorem parsePoe_text : parsePoe table.text = (table.rows.filter PoeRow.isRead).map PoeRow.read := by
  have plain : ∀ line ∈ table.heading ++ table.rows.map table.line, ∀ c ∈ line, isLineBreak c = false := by
    rw [List.forall_mem_append]
    refine ⟨table.isLineBreak_of_mem_heading, ?_⟩
    intro line here
    obtain ⟨row, -, rfl⟩ := List.mem_map.mp here
    exact table.isLineBreak_of_mem_line row
  have none : table.heading.filterMap poeLine = [] := List.filterMap_eq_nil_iff.mpr table.poeLine_heading
  rw [parsePoe, text, splitlines_unlines plain, List.filterMap_append, none, List.nil_append]
  induction table.rows with
  | nil => rfl
  | cons row rows ih =>
    rw [List.map_cons, List.filterMap_cons, poeLine_line, ih, List.filter_cons]
    cases row.isRead <;> rfl

/-- The words of the table are read exactly if all ports are gigabit ones and have a device. -/
theorem parsePoe_iff :
    (parsePoe table.text).map (fun port => (port.interface, port.admin, port.oper)) =
      table.rows.map (fun row => (row.port.short, row.admin, row.oper)) ↔ ∀ row ∈ table.rows, row.Readable := by
  rw [parsePoe_text, List.map_map, List.map_filter_eq_map_iff]
  exact forall₂_congr fun row _ => (and_iff_left rfl).trans row.isRead_iff

end PoeTable

/-! ## Snapshots -/

/-- Both tables are read whole, and so are their rows in a snapshot. -/
structure TablesRead (errors : ErrorTable) (poe : PoeTable) : Prop where
  errorRows : parseInterfaceErrors errors.text = errors.rows.map PortCounters.observed
  poeRows : (parsePoe poe.text).map (fun port => (port.interface, port.admin, port.oper)) =
    poe.rows.map fun row => (row.port.short, row.admin, row.oper)
  snapshotErrors [Digest] : ∀ (seen : Observations) (item : InterfaceStatus) targetShort configState snapshot,
    seen.errors = parseInterfaceErrors errors.text → seen.interfaceSnapshot targetShort configState item = .ok snapshot →
      ∀ row ∈ errors.rows, item.port = row.port.short → snapshot.errorTotal = row.total
  snapshotPoe [Digest] : ∀ (seen : Observations) (item : InterfaceStatus) targetShort configState snapshot,
    seen.poe = parsePoe poe.text → seen.interfaceSnapshot targetShort configState item = .ok snapshot →
      ∀ row ∈ poe.rows, item.port = row.port.short → snapshot.poeOper = row.oper ∧
        (configState = none ∨ item.port.lower ≠ targetShort.lower → snapshot.poeAdmin = row.admin)

/-- The snapshot of an interface that is listed by its short name. -/
theorem interfaceSnapshot_short [Digest] {seen : Observations} {item : InterfaceStatus} {targetShort : Text}
    {configState : Option InterfaceConfig} {snapshot : AssuranceInterfaceSnapshot} {p : PhysicalName}
    (h : seen.interfaceSnapshot targetShort configState item = .ok snapshot) (listed : item.port = p.short) :
    snapshot.errorTotal = seen.errorByPort p.short ∧
      ∀ poe, seen.poeByPort p.short = some poe → snapshot.poeOper = poe.oper ∧
        (configState = none ∨ item.port.lower ≠ targetShort.lower → snapshot.poeAdmin = poe.admin) := by
  rw [Observations.interfaceSnapshot, listed, p.normalizeInterface_shortName] at h
  dsimp only [bind, Except.bind] at h
  rw [p.shortInterface_text] at h
  cases h
  refine ⟨rfl, fun poe found => ?_⟩
  rw [found, listed]
  refine ⟨rfl, fun notTarget => ?_⟩
  have policy : (if p.short.lower = targetShort.lower then configState else none) = none := by
    rcases notTarget with none | other
    · rw [none, ite_self]
    · exact if_neg other
  rw [policy]

theorem errorByPort_of_mem {seen : Observations} {errors : ErrorTable}
    (h : seen.errors = errors.rows.map PortCounters.observed) {row : PortCounters} (here : row ∈ errors.rows) :
    seen.errorByPort row.port.short = row.total := by
  have keys : (seen.errors.map fun item => (item.port.lower, item.total)) =
      errors.rows.map fun row => (row.port.short.lower, row.total) := by
    rw [h, List.map_map]
    rfl
  have nodup : (Dict.keys (errors.rows.map fun row => (row.port.short.lower, row.total))).Nodup := by
    rw [Dict.keys, List.map_map]
    exact PhysicalName.nodup_lower errors.distinct
  rw [Observations.errorByPort, keys, Dict.ofList_eq_self nodup,
    Dict.get?_of_mem nodup (List.mem_map_of_mem (f := fun row => (row.port.short.lower, row.total)) here)]
  rfl

theorem poeByPort_of_mem {seen : Observations} {poe : PoeTable} (h : seen.poe = poe.rows.map PoeRow.read)
    {row : PoeRow} (here : row ∈ poe.rows) : seen.poeByPort row.port.short = some row.read := by
  have keys : (seen.poe.map fun item => (item.interface.lower, item)) =
      poe.rows.map fun row => (row.port.short.lower, row.read) := by
    rw [h, List.map_map]
    rfl
  have nodup : (Dict.keys (poe.rows.map fun row => (row.port.short.lower, row.read))).Nodup := by
    rw [Dict.keys, List.map_map]
    exact PhysicalName.nodup_lower poe.distinct
  rw [Observations.poeByPort, keys, Dict.ofList_eq_self nodup]
  exact Dict.get?_of_mem nodup (List.mem_map_of_mem (f := fun row => (row.port.short.lower, row.read)) here)

/-- **The tables are read whole exactly if all their ports are gigabit ones, `int` can read the counters, and every
device is more than blanks.** -/
theorem tablesRead_iff (errors : ErrorTable) (poe : PoeTable) :
    TablesRead errors poe ↔ (∀ row ∈ errors.rows, row.Readable) ∧ ∀ row ∈ poe.rows, row.Readable := by
  constructor
  · intro read
    exact ⟨errors.parseInterfaceErrors_iff.mp read.errorRows, poe.parsePoe_iff.mp read.poeRows⟩
  · rintro ⟨counters, devices⟩
    have errorRows := errors.parseInterfaceErrors_iff.mpr counters
    refine ⟨errorRows, poe.parsePoe_iff.mpr devices, ?_, ?_⟩
    · intro _ seen item targetShort configState snapshot parsed ok row here listed
      rw [(interfaceSnapshot_short ok listed).1]
      exact errorByPort_of_mem (parsed.trans errorRows) here
    · intro _ seen item targetShort configState snapshot parsed ok row here listed
      have whole : parsePoe poe.text = poe.rows.map PoeRow.read := by
        rw [poe.parsePoe_text, List.map_filter_eq_map_iff]
        exact fun row here => ⟨row.isRead_iff.mpr (devices row here), rfl⟩
      exact (interfaceSnapshot_short ok listed).2 row.read (poeByPort_of_mem (parsed.trans whole) here)

/-- A port of the fast family with one error. -/
def fastErrors : ErrorTable where
  rows := [{
    port := ⟨"FastEthernet", [0, 1], by decide, .inl rfl, by decide⟩
    alignErr := 0, fcsErr := 1, xmitErr := 0, rcvErr := 0, underSize := 0
    singleCol := 0, multiCol := 0, lateCol := 0, excessCol := 0 }]
  portWidth := 9
  width := 10
  distinct := List.nodup_singleton _

theorem not_tablesRead_fast : ¬∀ (errors : ErrorTable) (poe : PoeTable), TablesRead errors poe := by
  intro claimed
  have poe : PoeTable := ⟨[], "124.0", "0.0", "124.0", 9, 6, 10, 7, 19, 5, List.nodup_nil, by
    simp only [List.forall_mem_cons]
    exact ⟨⟨by decide, by decide⟩, ⟨by decide, by decide⟩, ⟨by decide, by decide⟩, by simp⟩⟩
  have read : parseInterfaceErrors fastErrors.text = [] := by decide +kernel
  have rows := (claimed fastErrors poe).errorRows
  rw [read] at rows
  cases rows

end SwitchOps
