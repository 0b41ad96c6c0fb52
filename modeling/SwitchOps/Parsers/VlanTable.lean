import Mathlib.Data.List.Flatten
import SwitchOps.CommandRegistry
import SwitchOps.Lib.Continuations
import SwitchOps.Lib.Scanning
import SwitchOps.Lib.Tables

/-!
# The VLAN table

`parse_vlans`, and the table as IOS prints it: a VLAN with many ports goes on in further lines, which have no VLAN
number. The parser takes such a line by its first port, which has to begin with `Gi`, and a VLAN by the status, of
which it knows four. `vlansRead_iff` says which tables are read whole.
-/

namespace List

variable {α β γ : Type}

/-- Lists are put together the same without some of them exactly if none of these is left out. -/
theorem flatMap_filter_eq_iff {p : α → Bool} {f : α → List β} {l : List α} (some : ∀ a ∈ l, f a ≠ []) :
    (l.filter p).flatMap f = l.flatMap f ↔ ∀ a ∈ l, p a = true := by
  constructor
  · intro same
    induction l with
    | nil => exact fun a none => absurd none not_mem_nil
    | cons a l ih =>
      rw [filter_cons, flatMap_cons] at same
      rw [forall_mem_cons] at some ⊢
      cases taken : p a with
      | true =>
        rw [if_pos taken, flatMap_cons, append_cancel_left_eq] at same
        exact ⟨rfl, ih some.2 same⟩
      | false =>
        -- fewer items are left than the others give
        have fewer := ((filter_sublist (p := p) (l := l)).flatMap f).length_le
        rw [if_neg (by simp [taken])] at same
        have length := congrArg List.length same
        have nonempty := length_pos_of_ne_nil some.1
        rw [length_append] at length
        omega
  · intro all
    rw [filter_eq_self.mpr all]

/-- The items that some entries give are those of all exactly if each entry gives its own. -/
theorem map_filterMap_eq_map_iff {r : α → Option β} {f : β → γ} {g : α → γ} {l : List α} :
    (l.filterMap r).map f = l.map g ↔ ∀ a ∈ l, (r a).map f = some (g a) := by
  constructor
  · intro same
    induction l with
    | nil => exact fun a none => absurd none not_mem_nil
    | cons a l ih =>
      rw [filterMap_cons, map_cons] at same
      rw [forall_mem_cons]
      cases found : r a with
      | none =>
        rw [found] at same
        have length := congrArg List.length same
        have fewer := length_filterMap_le r l
        rw [length_cons, length_map, length_map] at length
        dsimp only at length
        omega
      | some b =>
        rw [found] at same
        obtain ⟨first, rest⟩ := cons.inj same
        exact ⟨congrArg some first, ih rest⟩
  · intro each
    induction l with
    | nil => rfl
    | cons a l ih =>
      rw [forall_mem_cons] at each
      obtain ⟨b, found, value⟩ := Option.map_eq_some_iff.mp each.1
      rw [filterMap_cons, found, map_cons, map_cons, ih each.2, value]

end List

namespace SwitchOps

open Regex Text

/-! ## `show vlan brief` -/

structure Vlan where
  id : Nat
  name : Text
  status : Text
  ports : List Text
  deriving DecidableEq, Repr

/-- The words that are known as a status. -/
def vlanStatuses : List Text := ["active", "act/unsup", "suspend", "shutdown"]

/-- `^\s*(\d+)\s+(\S+)\s+(active|act/unsup|suspend|shutdown)\s*(.*)$` -/
def vlanLine : Regex :=
  .seq (.star true space) (.seq (.group 1 (plus digit)) (.seq (plus space) (.seq (.group 2 (plus nonSpace))
    (.seq (plus space) (.seq (.group 3 (alts (vlanStatuses.map litIgnoringCase))) (.seq (.star true space)
      (.seq (.group 4 (.star true (.chr (· != '\n')))) textEndOrNewline)))))))

/-- `^\s+Gi\S+` -/
def wrappedLine : Regex := .seq (plus space) (.seq (litIgnoringCase "Gi") (plus nonSpace))

/-- The VLANs so far, `current` (the last one) apart. -/
structure VlanState where
  earlier : List Vlan
  current : Option Vlan
  deriving DecidableEq, Repr

def VlanState.vlans (state : VlanState) : List Vlan := state.earlier ++ state.current.toList

/-- One line of `parse_vlans`. -/
def VlanState.read (state : VlanState) (line : Text) : Except Exn VlanState :=
  match matchStart vlanLine line with
  | some m =>
    match toInt ((m.group 1).getD []) with
    | some id => .ok ⟨state.vlans, some {
        id, name := (m.group 2).getD [], status := (m.group 3).getD [], ports := items ((m.group 4).getD []) }⟩
    | none => .error .valueError
  | none =>
    if (matchStart wrappedLine line).isSome then
      .ok { state with current := state.current.map fun vlan => { vlan with ports := vlan.ports ++ items line } }
    else .ok state

def parseVlans (text : Text) : Except Exn (List Vlan) :=
  (text.splitlines.foldlM VlanState.read ⟨[], none⟩).map VlanState.vlans

/-! ## The table -/

/-- A port that belongs to a VLAN: an interface of any family, by its short name. -/
structure MemberPort where
  family : Text
  number : Text
  letters : 2 ≤ family.length ∧ ∀ c ∈ family, c.isAlpha = true
  numerals : number ≠ [] ∧ ∀ c ∈ number, c.isDigit = true ∨ c = '/' ∨ c = '.'

namespace MemberPort

def text (port : MemberPort) : Text := port.family ++ port.number

/-- The name begins with `Gi`, ignoring case. -/
def isGigabit (port : MemberPort) : Bool := spells "Gi" (port.family.take 2)

end MemberPort

/-- A line of ports; where the ports go on in a further line, it may end with a comma. -/
structure PortLine where
  first : MemberPort
  others : List MemberPort
  comma : Bool

namespace PortLine

def text (line : PortLine) : Text := listed line.first.text (line.others.map MemberPort.text) line.comma

def members (line : PortLine) : List Text := line.first.text :: line.others.map MemberPort.text

end PortLine

/-- What IOS prints as the status of a VLAN. -/
def iosVlanStatuses : List Text := [
  "active", "suspended", "act/lshut", "sus/lshut", "act/ishut", "sus/ishut", "act/unsup"]

/-- A VLAN as the table shows it, with any name. -/
structure VlanEntry where
  id : Nat
  name : Text
  status : Text
  lines : List PortLine
  id_range : 1 ≤ id ∧ id ≤ 4094
  status_known : status ∈ iosVlanStatuses

namespace VlanEntry

def members (row : VlanEntry) : List Text := row.lines.flatMap PortLine.members

/-- The ports in the line of the VLAN itself. -/
def cell (row : VlanEntry) : Text := (row.lines.head?.map PortLine.text).getD []

/-- The name is one word, the status is known to the parser, and every further line begins with a gigabit port. -/
structure Readable (row : VlanEntry) : Prop where
  name : IsToken row.name
  status : row.status = "active".toList ∨ row.status = "act/unsup".toList
  wrapped : ∀ line ∈ row.lines.tail, line.first.isGigabit = true

end VlanEntry

/-- The VLANs, and how wide the columns are. -/
structure VlanTable where
  rows : List VlanEntry
  idWidth : Nat
  nameWidth : Nat
  statusWidth : Nat
  indent : Nat
  indent_pos : 0 < indent

namespace VlanTable

variable (table : VlanTable)

def heading : List Text := [
  "VLAN Name                             Status    Ports",
  "---- -------------------------------- --------- -------------------------------"]

def headLine (row : VlanEntry) : Text :=
  leftColumns [(table.idWidth, ofNat row.id), (table.nameWidth, row.name), (table.statusWidth, row.status)] ++ row.cell

def wrapped (line : PortLine) : Text := List.replicate table.indent ' ' ++ line.text

def linesOf (row : VlanEntry) : List Text := table.headLine row :: row.lines.tail.map table.wrapped

/-- The table as IOS prints it. -/
def text : Text := unlines (heading ++ table.rows.flatMap table.linesOf)

end VlanTable

/-- Every VLAN is read once, in order, with exactly its ports. -/
def VlansRead (table : VlanTable) : Prop :=
  ∃ vlans, parseVlans table.text = .ok vlans ∧
    vlans.map (fun vlan => (vlan.id, vlan.name, vlan.ports)) =
      table.rows.map fun row => (row.id, row.name, row.members)

/-! ## Lines of ports -/

namespace MemberPort

variable (port : MemberPort)

theorem isToken_text : IsToken port.text where
  ne_nil := List.append_ne_nil_of_right_ne_nil _ port.numerals.1
  solid := by
    intro c here
    rcases List.mem_append.mp here with here | here
    · exact isSpace_of_isAlpha (port.letters.2 c here)
    · rcases port.numerals.2 c here with digit | rfl | rfl
      · exact isSpace_of_isDigit digit
      · decide
      · decide

theorem comma_not_mem_text : ',' ∉ port.text := by
  intro here
  rcases List.mem_append.mp here with here | here
  · exact absurd (port.letters.2 _ here) (by decide)
  · exact absurd (port.numerals.2 _ here) (by decide)

/-- The first two letters, and what follows them. -/
theorem exists_text : ∃ a b rest, port.text = a :: b :: rest ∧ port.family.take 2 = [a, b] ∧ a.isAlpha = true ∧
    rest ≠ [] ∧ ∀ c ∈ rest, isSpace c = false := by
  have long := port.letters.1
  have alpha := port.letters.2
  have solid := port.isToken_text.solid
  rw [text] at solid ⊢
  cases split : port.family with
  | nil =>
    rw [split] at long
    cases long
  | cons a tail =>
    cases tail with
    | nil =>
      rw [split] at long
      exact absurd long (Nat.not_le.mpr Nat.one_lt_two)
    | cons b tail =>
      rw [split] at alpha solid
      refine ⟨a, b, tail ++ port.number, rfl, rfl, alpha a List.mem_cons_self, ?_, ?_⟩
      · exact List.append_ne_nil_of_right_ne_nil _ port.numerals.1
      · exact fun c here => solid c (List.mem_cons_of_mem _ (List.mem_cons_of_mem _ here))

end MemberPort

namespace PortLine

variable (line : PortLine)

theorem comma_not_mem : ∀ t ∈ line.members, ',' ∉ t := by
  intro t here
  rcases List.mem_cons.mp here with rfl | here
  · exact line.first.comma_not_mem_text
  · obtain ⟨port, -, rfl⟩ := List.mem_map.mp here
    exact port.comma_not_mem_text

theorem isToken_of_mem : ∀ t ∈ line.members, IsToken t := by
  intro t here
  rcases List.mem_cons.mp here with rfl | here
  · exact line.first.isToken_text
  · obtain ⟨port, -, rfl⟩ := List.mem_map.mp here
    exact port.isToken_text

/-- The ports of a line are read again; what stands before the first is read with it. -/
theorem items_append_text {before : Text} (free : ',' ∉ before) :
    items (before ++ line.text) = strip (before ++ line.first.text) :: line.others.map MemberPort.text := by
  apply items_append_listed
  · exact List.forall_mem_cons.mpr ⟨free, line.comma_not_mem⟩
  · rw [Ne, strip_eq_nil_iff]
    intro blank
    obtain ⟨c, rest, split⟩ := List.exists_cons_of_ne_nil line.first.isToken_text.ne_nil
    have here : c ∈ line.first.text := by
      rw [split]
      exact List.mem_cons_self
    have space := blank c (List.mem_append_right _ here)
    rw [line.first.isToken_text.solid c here] at space
    cases space
  · exact fun t here => line.isToken_of_mem t (List.mem_cons_of_mem _ here)

theorem items_blanks_append {blanks : Text} (blank : ∀ c ∈ blanks, isSpace c = true) :
    items (blanks ++ line.text) = line.members := by
  rw [items_append_text, strip_blanks_append blank, strip_eq_self line.first.isToken_text.solid]
  · rfl
  · exact fun here => absurd (blank _ here) (by decide)

theorem isLineBreak_of_mem_text : ∀ c ∈ line.text, isLineBreak c = false := by
  have solid : ∀ t ∈ line.members, ∀ c ∈ t, isLineBreak c = false :=
    fun t here c mem => isLineBreak_of_isSpace ((line.isToken_of_mem t here).solid c mem)
  intro c here
  rw [text, listed, List.append_assoc, List.mem_append, List.mem_append, List.mem_flatMap] at here
  rcases here with here | ⟨t, known, here⟩ | here
  · exact solid _ List.mem_cons_self c here
  · rcases List.mem_append.mp here with here | here
    · have fixed : ∀ c ∈ [',', ' '], isLineBreak c = false := by decide
      exact fixed c here
    · exact solid t (List.mem_cons_of_mem _ known) c here
  · split at here
    · rw [List.mem_singleton.mp here]
      decide
    · cases here

end PortLine

/-! ## Further lines -/

/-- A letter of a keyword is no blank. -/
theorem not_same_of_isSpace {a c : Char} (plain : isKeywordChar a = true) (blank : isSpace c = true) :
    sameIgnoringCase a c = false := by
  rw [← Bool.not_eq_true]
  intro same
  rw [(keyOf_eq plain same).2] at blank
  cases blank

namespace VlanTable

variable (table : VlanTable)

theorem blank_indent : ∀ c ∈ List.replicate table.indent ' ', isSpace c = true := fun _ => isSpace_of_mem_replicate

/-- `Gi` and a blank part. -/
theorem refuses_gigabit (k : Cursor → List Cursor) : Refuses (runs (litIgnoringCase "Gi") k) isSpace := by
  intro seen c rest groups blank
  have same : sameIgnoringCase 'G' c = false := not_same_of_isSpace (a := 'g') (by decide) blank
  have parted : parts "Gi" [c] = true := by simp [parts, same]
  exact runs_lit_of_parts parted seen rest

/-- A further line is taken if its first port is a gigabit one. -/
theorem matchStart_wrapped (line : PortLine) :
    (matchStart wrappedLine (table.wrapped line)).isSome = line.first.isGigabit := by
  obtain ⟨a, b, rest, name, letters, alpha, more, solid⟩ := line.first.exists_text
  have split : line.text = [a, b] ++ (rest ++ ((line.others.map MemberPort.text).flatMap ([',', ' '] ++ ·) ++
      if line.comma then [','] else [])) := by
    rw [PortLine.text, listed, name]
    simp
  have indented : List.replicate table.indent ' ' ≠ [] := by
    have pos := table.indent_pos
    rw [Ne, List.replicate_eq_nil_iff]
    omega
  have visible : ∀ c ∈ line.text.head?, isSpace c = false := by
    intro c head
    rw [split] at head
    obtain rfl : a = c := Option.some.inj head
    exact isSpace_of_isAlpha alpha
  rw [matchStart, results_eq_runs, wrapped, wrappedLine, runs_seq, runs_seq, space,
    runs_plus (refuses_gigabit _) table.blank_indent indented visible, split, MemberPort.isGigabit, letters]
  cases spelled : spells "Gi" [a, b] with
  | true =>
    obtain ⟨c, cs, rfl⟩ := List.exists_cons_of_ne_nil more
    have first : (!isSpace c) = true := by
      rw [solid c List.mem_cons_self]
      rfl
    rw [runs_lit_of_spells spelled, plus, runs_seq, List.cons_append, nonSpace, runs_chr_cons first,
      ← results_eq_runs, List.isSome_head?]
    exact results_star_ne_nil _ _
  | false =>
    have parted : parts "Gi" [a, b] = true := by
      rw [parts_eq_not_spells (show [a, b].length = "Gi".toList.length from rfl), spelled]
      rfl
    rw [runs_lit_of_parts parted]
    rfl

/-- It has no VLAN number. -/
theorem matchStart_vlanLine_wrapped (line : PortLine) : matchStart vlanLine (table.wrapped line) = none := by
  obtain ⟨a, b, rest, name, letters, alpha, -⟩ := line.first.exists_text
  have head : line.text.head? = some a := by
    rw [PortLine.text, listed, name]
    rfl
  have visible : ∀ c ∈ line.text.head?, isSpace c = false := by
    intro c here
    obtain rfl := Option.some.inj (head.symm.trans here)
    exact isSpace_of_isAlpha alpha
  have noDigit : ∀ c ∈ line.text.head?, isDecimal c = false := by
    intro c here
    obtain rfl := Option.some.inj (head.symm.trans here)
    exact not_isDecimal_of_isAlpha alpha
  rw [matchStart, results_eq_runs, vlanLine, runs_seq, runs_seq, space, wrapped,
    runs_star (fun _ _ _ _ blank => ?_) table.blank_indent visible, runs_group, digit, runs_plus_refused noDigit]
  · rfl
  · rw [runs_group]
    apply runs_plus_refused
    intro d hd
    obtain rfl := Option.some.inj hd
    exact isSpace_not_isDecimal blank

end VlanTable

/-! ## Lines of VLANs -/

/-- What follows the status and blanks is read up to the end. -/
theorem head?_runs_ports {seen blanks rest : Text} {groups : List (Nat × Text)} (blank : ∀ c ∈ blanks, isSpace c = true)
    (visible : ∀ c ∈ rest.head?, isSpace c = false) (line : '\n' ∉ rest) :
    (runs (.star true space) (runs (.group 4 (.star true (.chr (· != '\n'))))
      (runs textEndOrNewline fun m => [m])) ⟨seen, blanks ++ rest, groups⟩).head? =
      some ⟨rest.reverse ++ (blanks.reverse ++ seen), [], (4, rest) :: groups⟩ := by
  have plain : ∀ c ∈ rest, (c != '\n') = true := by
    intro c here
    rw [bne_iff_ne]
    rintro rfl
    exact line here
  have whole : (runs (.star true (.chr (· != '\n'))) (fun m' => runs textEndOrNewline (fun m => [m])
      { m' with groups := (4, Cursor.captured ⟨blanks.reverse ++ seen, rest, groups⟩ m') :: m'.groups })
      ⟨blanks.reverse ++ seen, rest ++ [], groups⟩).head? =
      some ⟨rest.reverse ++ (blanks.reverse ++ seen), [], (4, rest) :: groups⟩ := by
    apply head?_runs_star plain (by simp)
    rw [captured_append, textEndOrNewline, runs_here]
    rfl
  rw [List.append_nil] at whole
  apply head?_runs_star blank visible
  rw [runs_group]
  exact whole

/-- No status begins with a blank. -/
theorem refuses_statuses (k : Cursor → List Cursor) :
    Refuses (runs (.group 3 (alts (vlanStatuses.map litIgnoringCase))) k) isSpace := by
  intro seen c rest groups blank
  have first : sameIgnoringCase 'a' c = false ∧ sameIgnoringCase 's' c = false :=
    ⟨not_same_of_isSpace (by decide) blank, not_same_of_isSpace (by decide) blank⟩
  rw [runs_group]
  apply runs_alts_of_parts (w := [c])
  simp [vlanStatuses, parts, first]

/-- A line is followed up to the status. -/
theorem runs_vlanLine {id : Nat} {name before after rest : Text} {k : Cursor → List Cursor} (word : IsToken name)
    (before_ne : before ≠ []) (before_blank : ∀ c ∈ before, isSpace c = true)
    (after_ne : after ≠ []) (after_blank : ∀ c ∈ after, isSpace c = true)
    (visible : ∀ c ∈ rest.head?, isSpace c = false) :
    runs vlanLine k ⟨[], ofNat id ++ (before ++ (name ++ (after ++ rest))), []⟩ =
      runs (.group 3 (alts (vlanStatuses.map litIgnoringCase))) (runs (.star true space)
        (runs (.group 4 (.star true (.chr (· != '\n')))) (runs textEndOrNewline k)))
        ⟨after.reverse ++ (name.reverse ++ (before.reverse ++ ((ofNat id).reverse ++ []))), rest,
          [(2, name), (1, ofNat id)]⟩ := by
  have digits : ∀ c ∈ ofNat id, isDecimal c = true := fun c here => isDecimal_of_isDigit (isDigit_of_mem_ofNat here)
  have head {w t : Text} {p : Char → Bool} {b : Bool} (ne : w ≠ []) (all : ∀ c ∈ w, p c = b) :
      ∀ c ∈ (w ++ t).head?, p c = b := by
    intro c here
    rw [List.head?_append_of_ne_nil _ ne] at here
    exact all c (List.mem_of_mem_head? here)
  have solid : ∀ c ∈ name, (!isSpace c) = true := by
    intro c here
    rw [word.solid c here]
    rfl
  have blanks : ∀ c ∈ after, (!isSpace c) = false := by
    intro c here
    rw [after_blank c here]
    rfl
  simp only [vlanLine, runs_seq, space, digit, nonSpace]
  -- from left to right, each run ends where the next part begins
  rw [runs_star_none (head (ofNat_ne_nil id) fun c here => isSpace_of_isDecimal (digits c here)),
    runs_group_plus 1 (refuses_plus fun c => isSpace_of_isDecimal) digits (ofNat_ne_nil id)
      (head before_ne fun c here => isSpace_not_isDecimal (before_blank c here)),
    runs_plus (refuses_group_plus 2 fun c blank => by rw [blank]; rfl) before_blank before_ne
      (head word.ne_nil word.solid),
    runs_group_plus 2 (refuses_plus fun c visible => by simpa using visible) solid word.ne_nil (head after_ne blanks),
    runs_plus (refuses_statuses _) after_blank after_ne visible]

/-! ### The status -/

/-- The status as the parser reads it, and what it leaves of it. -/
def statusRead (status : Text) : Option (Text × Text) :=
  if status = "active" then some ("active", [])
  else if status = "act/unsup" then some ("act/unsup", [])
  else if status = "suspended" then some ("suspend", "ed")
  else none

/-- A status is spelled by one of the known words, which all words before it part from, or parts from all. -/
theorem statusRead_cases {status : Text} (known : status ∈ iosVlanStatuses) :
    (∃ keyword rest before after, statusRead status = some (keyword, rest) ∧ status = keyword ++ rest ∧
      vlanStatuses = before ++ keyword :: after ∧ spells keyword keyword = true ∧
      ∀ other ∈ before, parts other keyword = true) ∨
    (statusRead status = none ∧ ∀ keyword ∈ vlanStatuses, parts keyword status = true) := by
  simp only [iosVlanStatuses, List.mem_cons, List.not_mem_nil, or_false] at known
  rcases known with rfl | rfl | rfl | rfl | rfl | rfl | rfl
  · exact .inl ⟨"active", [], [], _, rfl, rfl, rfl, by decide +kernel, by decide +kernel⟩
  · exact .inl ⟨"suspend", "ed", ["active", "act/unsup"], _, rfl, rfl, rfl, by decide +kernel, by decide +kernel⟩
  · exact .inr (by decide +kernel)
  · exact .inr (by decide +kernel)
  · exact .inr (by decide +kernel)
  · exact .inr (by decide +kernel)
  · exact .inl ⟨"act/unsup", [], ["active"], _, rfl, rfl, rfl, by decide +kernel, by decide +kernel⟩

/-! ### What is read of a VLAN -/

/-- The blanks behind a cell. -/
def gap (width : Nat) (cell : Text) : Text := List.replicate (width - cell.length) ' ' ++ [' ']

theorem gap_ne_nil (width : Nat) (cell : Text) : gap width cell ≠ [] :=
  List.append_ne_nil_of_right_ne_nil _ (List.cons_ne_nil _ _)

theorem isSpace_of_mem_gap {width : Nat} {cell : Text} {c : Char} (h : c ∈ gap width cell) : isSpace c = true := by
  rcases List.mem_append.mp h with h | h
  · exact isSpace_of_mem_replicate h
  · rw [List.mem_singleton.mp h]
    decide

namespace VlanEntry

variable (row : VlanEntry)

/-- The ports in the line of the VLAN itself. -/
def firstPorts : List Text := (row.lines.head?.map PortLine.members).getD []

/-- The ports of the further lines that are taken. -/
def furtherPorts : List Text := (row.lines.tail.filter (·.first.isGigabit)).flatMap PortLine.members

theorem members_eq : row.members = row.firstPorts ++ row.lines.tail.flatMap PortLine.members := by
  rw [members, firstPorts]
  cases row.lines with
  | nil => rfl
  | cons line lines => rfl

theorem items_cell : items row.cell = row.firstPorts := by
  rw [cell, firstPorts]
  cases row.lines with
  | nil => rfl
  | cons line lines =>
    have none : ∀ c ∈ ([] : Text), isSpace c = true := fun _ none => absurd none List.not_mem_nil
    exact line.items_blanks_append none

theorem not_isSpace_cell : ∀ c ∈ row.cell.head?, isSpace c = false := by
  intro c head
  rw [cell] at head
  cases split : row.lines with
  | nil =>
    rw [split] at head
    cases head
  | cons line lines =>
    obtain ⟨a, b, rest, name, -, alpha, -⟩ := line.first.exists_text
    rw [split] at head
    have start : (line.text).head? = some c := head
    rw [PortLine.text, listed, name] at start
    obtain rfl := Option.some.inj start
    exact isSpace_of_isAlpha alpha

theorem isLineBreak_of_mem_cell : ∀ c ∈ row.cell, isLineBreak c = false := by
  rw [cell]
  cases row.lines with
  | nil => exact fun c none => absurd none List.not_mem_nil
  | cons line lines => exact line.isLineBreak_of_mem_text

end VlanEntry

theorem isLineBreak_of_mem_gap {width : Nat} {cell : Text} {c : Char} (h : c ∈ gap width cell) :
    isLineBreak c = false := by
  have blank : c = ' ' := by
    rcases List.mem_append.mp h with h | h
    · exact (List.mem_replicate.mp h).2
    · exact List.mem_singleton.mp h
  rw [blank]
  decide

namespace VlanTable

variable (table : VlanTable) (row : VlanEntry)

/-- What is read as the ports of the line, if the status leaves `rest` of itself. -/
def readPorts (rest : Text) : List Text :=
  if rest = [] then row.firstPorts else items (rest ++ (gap table.statusWidth row.status ++ row.cell))

/-- The VLAN that its lines give, if its status is known. -/
def readRow : Option Vlan :=
  (statusRead row.status).map fun status => {
    id := row.id, name := row.name, status := status.1, ports := table.readPorts row status.2 ++ row.furtherPorts }

theorem headLine_eq : table.headLine row =
    ofNat row.id ++ (gap table.idWidth (ofNat row.id) ++ (row.name ++ (gap table.nameWidth row.name ++
      (row.status ++ (gap table.statusWidth row.status ++ row.cell))))) := by
  simp [headLine, leftColumns, padRight, gap]

theorem newline_not_mem {t : Text} (plain : ∀ c ∈ t, isLineBreak c = false) : '\n' ∉ t := fun here =>
  absurd (plain _ here) (by decide)

/-- The line is followed up to the status. -/
theorem matchStart_headLine (word : IsToken row.name) : ∃ seen, matchStart vlanLine (table.headLine row) =
    (runs (.group 3 (alts (vlanStatuses.map litIgnoringCase))) (runs (.star true space)
      (runs (.group 4 (.star true (.chr (· != '\n')))) (runs textEndOrNewline fun m => [m])))
      ⟨seen, row.status ++ (gap table.statusWidth row.status ++ row.cell),
        [(2, row.name), (1, ofNat row.id)]⟩).head? := by
  have visible : ∀ c ∈ (row.status ++ (gap table.statusWidth row.status ++ row.cell)).head?, isSpace c = false := by
    have solid : ∀ s ∈ iosVlanStatuses, s ≠ [] ∧ (s.head?.all fun c => !isSpace c) = true := by decide +kernel
    obtain ⟨ne, first⟩ := solid _ row.status_known
    rw [List.head?_append_of_ne_nil _ ne]
    intro c here
    rw [Option.mem_def.mp here] at first
    simpa using first
  rw [matchStart, results_eq_runs, headLine_eq, runs_vlanLine word (gap_ne_nil _ _) (fun _ => isSpace_of_mem_gap)
    (gap_ne_nil _ _) (fun _ => isSpace_of_mem_gap) visible]
  exact ⟨_, rfl⟩

/-- What follows a status that is read: the rest of its word, if it leaves one, and the ports. -/
theorem exists_runs_ports {rest : Text} (solid : ∀ c ∈ rest, isSpace c = false) (seen : Text)
    (groups : List (Nat × Text)) :
    ∃ m ports, (runs (.star true space) (runs (.group 4 (.star true (.chr (· != '\n'))))
      (runs textEndOrNewline fun m => [m]))
      ⟨seen, rest ++ (gap table.statusWidth row.status ++ row.cell), groups⟩).head? = some m ∧
      items ports = table.readPorts row rest ∧ m.groups = (4, ports) :: groups := by
  by_cases empty : rest = []
  · rw [readPorts, if_pos empty, empty, List.nil_append]
    exact ⟨_, row.cell, head?_runs_ports (fun _ => isSpace_of_mem_gap) row.not_isSpace_cell
      (newline_not_mem row.isLineBreak_of_mem_cell), row.items_cell, rfl⟩
  · have visible : ∀ c ∈ (rest ++ (gap table.statusWidth row.status ++ row.cell)).head?, isSpace c = false := by
      intro c head
      rw [List.head?_append_of_ne_nil _ empty] at head
      exact solid c (List.mem_of_mem_head? head)
    have line : ∀ c ∈ rest ++ (gap table.statusWidth row.status ++ row.cell), isLineBreak c = false := by
      rw [List.forall_mem_append, List.forall_mem_append]
      exact ⟨fun c here => isLineBreak_of_isSpace (solid c here), fun _ => isLineBreak_of_mem_gap,
        row.isLineBreak_of_mem_cell⟩
    rw [readPorts, if_neg empty]
    exact ⟨_, _, @head?_runs_ports seen [] _ groups (fun _ none => absurd none List.not_mem_nil) visible
      (newline_not_mem line), rfl, rfl⟩

/-- A known status is read. -/
theorem exists_matchStart_headLine (word : IsToken row.name) {keyword rest : Text}
    (known : statusRead row.status = some (keyword, rest)) :
    ∃ m ports, matchStart vlanLine (table.headLine row) = some m ∧ items ports = table.readPorts row rest ∧
      m.groups = [(4, ports), (3, keyword), (2, row.name), (1, ofNat row.id)] := by
  obtain ⟨seen, followed⟩ := table.matchStart_headLine row word
  rcases statusRead_cases row.status_known with ⟨keyword', rest', before, after, read, split, listed, spelled, parted⟩ |
    ⟨none, -⟩
  · obtain ⟨rfl, rfl⟩ := Prod.mk.inj (Option.some.inj (read.symm.trans known))
    have word : ∀ s ∈ iosVlanStatuses, ∀ c ∈ s, isSpace c = false := by decide +kernel
    have solid : ∀ c ∈ rest', isSpace c = false := by
      intro c here
      apply word _ row.status_known
      rw [split]
      exact List.mem_append_right _ here
    obtain ⟨m, ports, found, read, groups⟩ := table.exists_runs_ports row solid (keyword'.reverse ++ seen)
      [(3, keyword'), (2, row.name), (1, ofNat row.id)]
    refine ⟨m, ports, ?_, read, groups⟩
    generalize gap table.statusWidth row.status ++ row.cell = tail at followed found
    rw [followed, runs_group, listed, split, List.append_assoc]
    apply head?_runs_alts_of_spells parted spelled
    rw [captured_append]
    exact found
  · rw [none] at known
    cases known

/-- The line of a VLAN of another status is passed over. -/
theorem matchStart_headLine_none (word : IsToken row.name) (unknown : statusRead row.status = none) :
    matchStart vlanLine (table.headLine row) = none := by
  obtain ⟨seen, followed⟩ := table.matchStart_headLine row word
  rcases statusRead_cases row.status_known with ⟨_, _, _, _, read, -⟩ | ⟨-, parted⟩
  · rw [unknown] at read
    cases read
  · rw [followed, runs_group, runs_alts_of_parts parted]
    rfl

/-- What the line of a VLAN gives. -/
theorem read_headLine (word : IsToken row.name) (state : VlanState) :
    state.read (table.headLine row) = .ok (((statusRead row.status).map fun status => ⟨state.vlans, some {
      id := row.id, name := row.name, status := status.1, ports := table.readPorts row status.2 }⟩).getD state) := by
  cases known : statusRead row.status with
  | none =>
    have number : (matchStart wrappedLine (table.headLine row)).isSome = false := by
      have digit : ∀ c ∈ (table.headLine row).head?, isSpace c = false := by
        intro c head
        rw [headLine_eq, List.head?_append_of_ne_nil _ (ofNat_ne_nil row.id)] at head
        exact (isToken_ofNat row.id).solid c (List.mem_of_mem_head? head)
      rw [matchStart, results_eq_runs, wrappedLine, runs_seq, space, runs_plus_refused digit]
      rfl
    rw [VlanState.read, table.matchStart_headLine_none row word known]
    dsimp only
    rw [number]
    rfl
  | some status =>
    have number : toInt (ofNat row.id) = some row.id := by
      have range := row.id_range.2
      have short := length_ofNat_le (n := row.id) (k := 4) (by omega) (by omega)
      exact toInt_ofNat (short.trans (by decide))
    obtain ⟨m, ports, matched, read, groups⟩ := table.exists_matchStart_headLine row word known
    have first : m.group 1 = some (ofNat row.id) := by rw [Cursor.group, groups]; rfl
    have second : m.group 2 = some row.name := by rw [Cursor.group, groups]; rfl
    have third : m.group 3 = some status.1 := by rw [Cursor.group, groups]; rfl
    have fourth : m.group 4 = some ports := by rw [Cursor.group, groups]; rfl
    rw [VlanState.read, matched]
    dsimp only
    rw [first, second, third, fourth, Option.getD_some, number]
    dsimp only [Option.getD_some, Option.map_some]
    rw [read]

/-- What the further lines give. -/
theorem foldlM_wrapped (lines : List PortLine) (state : VlanState) :
    (lines.map table.wrapped).foldlM VlanState.read state = .ok { state with current := state.current.map fun vlan =>
      { vlan with ports := vlan.ports ++ (lines.filter (·.first.isGigabit)).flatMap PortLine.members } } := by
  induction lines generalizing state with
  | nil => simp [pure, Except.pure]
  | cons line lines ih =>
    have read : state.read (table.wrapped line) = .ok (if line.first.isGigabit then
        { state with current := state.current.map fun vlan => { vlan with ports := vlan.ports ++ line.members } }
        else state) := by
      rw [VlanState.read, table.matchStart_vlanLine_wrapped]
      dsimp only
      rw [table.matchStart_wrapped, wrapped, line.items_blanks_append table.blank_indent]
      split <;> rfl
    rw [List.map_cons, List.foldlM_cons, read]
    dsimp only [bind, Except.bind]
    rw [ih, List.filter_cons]
    split
    · simp [Function.comp_def]
    · rfl

theorem isLineBreak_of_mem_linesOf (word : IsToken row.name) :
    ∀ line ∈ table.linesOf row, ∀ c ∈ line, isLineBreak c = false := by
  rw [linesOf, List.forall_mem_cons, List.forall_mem_map]
  constructor
  · have status : ∀ s ∈ iosVlanStatuses, ∀ c ∈ s, isLineBreak c = false := by decide +kernel
    rw [headLine_eq]
    simp only [List.forall_mem_append]
    exact ⟨fun c here => isLineBreak_of_isSpace ((isToken_ofNat row.id).solid c here), fun _ => isLineBreak_of_mem_gap,
      fun c here => isLineBreak_of_isSpace (word.solid c here), fun _ => isLineBreak_of_mem_gap,
      status _ row.status_known, fun _ => isLineBreak_of_mem_gap, row.isLineBreak_of_mem_cell⟩
  · intro line here
    rw [wrapped, List.forall_mem_append]
    refine ⟨fun c blank => ?_, line.isLineBreak_of_mem_text⟩
    rw [(List.mem_replicate.mp blank).2]
    decide

/-- What the lines of a VLAN give. -/
theorem foldlM_linesOf (word : IsToken row.name) (state : VlanState) :
    ∃ next, (table.linesOf row).foldlM VlanState.read state = .ok next ∧
      (∀ vlan, table.readRow row = some vlan → next.vlans = state.vlans ++ [vlan]) ∧
      (table.readRow row = none → next.vlans.length = state.vlans.length) := by
  rw [linesOf, List.foldlM_cons, table.read_headLine row word]
  dsimp only [bind, Except.bind]
  rw [table.foldlM_wrapped]
  refine ⟨_, rfl, ?_, ?_⟩
  · intro vlan read
    rw [readRow] at read
    obtain ⟨status, known, rfl⟩ := Option.map_eq_some_iff.mp read
    rw [known]
    rfl
  · intro none
    rw [readRow, Option.map_eq_none_iff] at none
    rw [none, Option.map_none, Option.getD_none, VlanState.vlans, VlanState.vlans, List.length_append,
      List.length_append]
    dsimp only
    cases state.current with
    | none => rfl
    | some vlan => rfl

/-- **What the lines of the VLANs give**: as many VLANs as have a known status, these if all have. -/
theorem foldlM_rows {rows : List VlanEntry} (words : ∀ row ∈ rows, IsToken row.name) (state : VlanState) :
    ∃ next, (rows.flatMap table.linesOf).foldlM VlanState.read state = .ok next ∧
      next.vlans.length = state.vlans.length + (rows.filterMap table.readRow).length ∧
      ((∀ row ∈ rows, table.readRow row ≠ none) → next.vlans = state.vlans ++ rows.filterMap table.readRow) := by
  induction rows generalizing state with
  | nil => exact ⟨state, rfl, rfl, fun _ => (List.append_nil _).symm⟩
  | cons row rows ih =>
    obtain ⟨first, read, known, unknown⟩ := table.foldlM_linesOf row (words row List.mem_cons_self) state
    obtain ⟨last, rest, count, all⟩ := ih (fun other here => words other (List.mem_cons_of_mem _ here)) first
    refine ⟨last, ?_, ?_, ?_⟩
    · rw [List.flatMap_cons, List.foldlM_append, read]
      exact rest
    · rw [count, List.filterMap_cons]
      cases found : table.readRow row with
      | none => rw [unknown found]
      | some vlan =>
        rw [known vlan found, List.length_append, List.length_singleton, List.length_cons]
        omega
    · intro some
      rw [all fun other here => some other (List.mem_cons_of_mem _ here), List.filterMap_cons]
      cases found : table.readRow row with
      | none => exact absurd found (some row List.mem_cons_self)
      | some vlan => rw [known vlan found, List.append_assoc, List.singleton_append]

/-- What is read of a whole table. -/
theorem parseVlans_text (words : ∀ row ∈ table.rows, IsToken row.name) :
    ∃ vlans, parseVlans table.text = .ok vlans ∧ vlans.length = (table.rows.filterMap table.readRow).length ∧
      ((∀ row ∈ table.rows, table.readRow row ≠ none) → vlans = table.rows.filterMap table.readRow) := by
  have plain : ∀ line ∈ heading ++ table.rows.flatMap table.linesOf, ∀ c ∈ line, isLineBreak c = false := by
    rw [List.forall_mem_append]
    refine ⟨by decide +kernel, fun line here => ?_⟩
    obtain ⟨row, known, here⟩ := List.mem_flatMap.mp here
    exact table.isLineBreak_of_mem_linesOf row (words row known) line here
  have head : heading.foldlM VlanState.read ⟨[], none⟩ = .ok ⟨[], none⟩ := by decide +kernel
  obtain ⟨last, read, count, all⟩ := table.foldlM_rows words ⟨[], none⟩
  refine ⟨last.vlans, ?_, ?_, all⟩
  · rw [parseVlans, text, splitlines_unlines plain, List.foldlM_append, head]
    show Except.map _ ((table.rows.flatMap table.linesOf).foldlM VlanState.read ⟨[], none⟩) = _
    rw [read]
    rfl
  · rw [count]
    exact Nat.zero_add _

end VlanTable

/-! ## Names -/

/-- The name that a line gives is one word. -/
theorem isToken_group_name {line : Text} {m : Cursor} (h : matchStart vlanLine line = some m) :
    IsToken ((m.group 2).getD []) := by
  have always : Always 2 vlanLine := .inr (.inr (.inr (.inl (.inl rfl))))
  have groups : groupsOf vlanLine = [(1, plus digit), (2, plus nonSpace),
      (3, alts (vlanStatuses.map litIgnoringCase)), (4, .star true (.chr (· != '\n')))] := rfl
  obtain ⟨s, known, word⟩ := denotes_group always h
  have name : s = plus nonSpace := by
    rw [groups] at known
    simpa using known
  rw [name, nonSpace, denotes_plus_chr] at word
  exact ⟨word.1, fun c here => by simpa using word.2 c here⟩

namespace VlanState

theorem isToken_of_read {state next : VlanState} {line : Text} (h : state.read line = .ok next)
    (before : ∀ vlan ∈ state.vlans, IsToken vlan.name) : ∀ vlan ∈ next.vlans, IsToken vlan.name := by
  rw [read] at h
  split at h
  · next m matched =>
    split at h
    · cases h
      rw [vlans, List.forall_mem_append]
      refine ⟨before, fun vlan here => ?_⟩
      rw [List.mem_singleton.mp here]
      exact isToken_group_name matched
    · cases h
  · split at h
    · cases h
      rw [vlans, List.forall_mem_append] at before ⊢
      refine ⟨before.1, fun vlan here => ?_⟩
      cases current : state.current with
      | none =>
        rw [current] at here
        cases here
      | some last =>
        rw [current] at here before
        rw [List.mem_singleton.mp here]
        exact before.2 last List.mem_cons_self
    · cases h
      exact before

theorem isToken_of_foldlM {lines : List Text} {state last : VlanState} (h : lines.foldlM read state = .ok last)
    (before : ∀ vlan ∈ state.vlans, IsToken vlan.name) : ∀ vlan ∈ last.vlans, IsToken vlan.name := by
  induction lines generalizing state with
  | nil =>
    cases h
    exact before
  | cons line lines ih =>
    rw [List.foldlM_cons] at h
    cases found : state.read line with
    | error e =>
      rw [found] at h
      cases h
    | ok next =>
      rw [found] at h
      exact ih h (isToken_of_read found before)

end VlanState

/-- Every name that is read is one word. -/
theorem isToken_of_parseVlans {t : Text} {vlans : List Vlan} (h : parseVlans t = .ok vlans) :
    ∀ vlan ∈ vlans, IsToken vlan.name := by
  rw [parseVlans] at h
  cases found : t.splitlines.foldlM VlanState.read ⟨[], none⟩ with
  | error e =>
    rw [found] at h
    cases h
  | ok last =>
    rw [found] at h
    cases h
    exact VlanState.isToken_of_foldlM found fun _ none => absurd none List.not_mem_nil

/-! ## Which tables are read -/

namespace VlanTable

variable (table : VlanTable) (row : VlanEntry)

/-- The ports are read exactly if every further line is taken. -/
theorem ports_eq_members_iff :
    row.firstPorts ++ row.furtherPorts = row.members ↔ ∀ line ∈ row.lines.tail, line.first.isGigabit = true := by
  rw [row.members_eq, List.append_cancel_left_eq]
  apply List.flatMap_filter_eq_iff
  exact fun line _ => List.cons_ne_nil _ _

/-- What a status leaves of itself is read as a port, or with the first one. -/
theorem readPorts_ne_members {rest : Text} (token : IsToken rest) (free : ',' ∉ rest) :
    table.readPorts row rest ++ row.furtherPorts ≠ row.members := by
  have freeGap : ',' ∉ gap table.statusWidth row.status := fun here => absurd (isSpace_of_mem_gap here) (by decide)
  have visible {t : Text} : strip (rest ++ t) ≠ [] := by
    rw [Ne, strip_eq_nil_iff]
    intro blank
    obtain ⟨c, more, rfl⟩ := List.exists_cons_of_ne_nil token.ne_nil
    have space := blank c (List.mem_append_left _ List.mem_cons_self)
    rw [token.solid c List.mem_cons_self] at space
    cases space
  intro same
  rw [readPorts, if_neg token.ne_nil, VlanEntry.cell, VlanEntry.members] at same
  cases split : row.lines with
  | nil =>
    have single : items (rest ++ listed (gap table.statusWidth row.status) [] false) =
        strip (rest ++ gap table.statusWidth row.status) :: [] := by
      apply items_append_listed
      · simp [free, freeGap]
      · exact visible
      · exact fun _ none => absurd none List.not_mem_nil
    rw [listed, List.flatMap_nil, if_neg Bool.false_ne_true, List.append_nil, List.append_nil] at single
    rw [split, List.head?_nil, Option.map_none, Option.getD_none, List.append_nil, single] at same
    cases same
  | cons line lines =>
    rw [split, List.head?_cons, Option.map_some, Option.getD_some, ← List.append_assoc, line.items_append_text,
      List.flatMap_cons] at same
    · -- the first port that is read is of two words
      have first : strip (rest ++ gap table.statusWidth row.status ++ line.first.text) = line.first.text :=
        (List.cons.inj same).1
      have parted : rest ++ gap table.statusWidth row.status ++ line.first.text =
          (rest ++ List.replicate (table.statusWidth - row.status.length) ' ') ++ ' ' :: line.first.text := by
        simp [gap]
      have words := congrArg Text.split first
      rw [split_strip, parted, split_append_blank (by decide), split_append_blanks fun _ => isSpace_of_mem_replicate,
        split_word token, split_word line.first.isToken_text] at words
      cases words
    · rw [List.mem_append]
      exact not_or.mpr ⟨free, freeGap⟩

theorem readRow_iff (word : IsToken row.name) :
    (table.readRow row).map (fun vlan => (vlan.id, vlan.name, vlan.ports)) = some (row.id, row.name, row.members) ↔
      row.Readable := by
  have taken {keyword : Text} (known : statusRead row.status = some (keyword, []))
      (status : row.status = "active".toList ∨ row.status = "act/unsup".toList) :
      (table.readRow row).map (fun vlan => (vlan.id, vlan.name, vlan.ports)) = some (row.id, row.name, row.members) ↔
        row.Readable := by
    rw [readRow, known, Option.map_some, Option.map_some, Option.some.injEq, Prod.mk.injEq, Prod.mk.injEq, readPorts,
      if_pos rfl, ports_eq_members_iff]
    exact ⟨fun same => ⟨word, status, same.2.2⟩, fun readable => ⟨rfl, rfl, readable.wrapped⟩⟩
  by_cases active : row.status = "active".toList
  · exact taken (by rw [statusRead, if_pos active]) (.inl active)
  by_cases unsupported : row.status = "act/unsup".toList
  · exact taken (by rw [statusRead, if_neg active, if_pos unsupported]) (.inr unsupported)
  apply iff_of_false _ fun readable => readable.status.elim active unsupported
  rw [readRow, statusRead, if_neg active, if_neg unsupported]
  split
  · intro same
    have ports := (Prod.mk.inj (Prod.mk.inj (Option.some.inj same)).2).2
    exact table.readPorts_ne_members row ⟨by decide, by decide⟩ (by decide) ports
  · intro none
    cases none

end VlanTable

/-- **A table is read whole exactly if every name is one word, every status is `active` or `act/unsup`, and every
further line begins with a gigabit port.** -/
theorem vlansRead_iff (table : VlanTable) : VlansRead table ↔ ∀ row ∈ table.rows, row.Readable := by
  constructor
  · rintro ⟨vlans, read, same⟩
    have words : ∀ row ∈ table.rows, IsToken row.name := by
      intro row here
      have known : (row.id, row.name, row.members) ∈ vlans.map fun vlan => (vlan.id, vlan.name, vlan.ports) := by
        rw [same]
        exact List.mem_map_of_mem (f := fun row : VlanEntry => (row.id, row.name, row.members)) here
      obtain ⟨vlan, listed, equal⟩ := List.mem_map.mp known
      rw [← (Prod.mk.inj (Prod.mk.inj equal).2).1]
      exact isToken_of_parseVlans read vlan listed
    obtain ⟨vlans', read', count, all⟩ := table.parseVlans_text words
    obtain rfl := Except.ok.inj (read.symm.trans read')
    have length := congrArg List.length same
    rw [List.length_map, List.length_map, count] at length
    have known : ∀ row ∈ table.rows, table.readRow row ≠ none := by
      intro row here
      have some := List.filterMap_length_eq_length.mp length row here
      exact Option.isSome_iff_ne_none.mp some
    rw [all known, List.map_filterMap_eq_map_iff] at same
    exact fun row here => (table.readRow_iff row (words row here)).mp (same row here)
  · intro readable
    obtain ⟨vlans, read, -, all⟩ := table.parseVlans_text fun row here => (readable row here).name
    have each := fun row here => (table.readRow_iff row (readable row here).name).mpr (readable row here)
    refine ⟨vlans, read, ?_⟩
    rw [all, List.map_filterMap_eq_map_iff]
    · exact each
    · intro row here none
      have found := each row here
      rw [none] at found
      cases found

/-- A VLAN with two ports of ten gigabits, the second one in a further line. -/
def wrappedVlan : VlanTable where
  rows := [{
    id := 10
    name := "USERS"
    status := "active"
    lines := [⟨⟨"Te", "1/0/1", by decide, by decide⟩, [], false⟩, ⟨⟨"Te", "1/0/2", by decide, by decide⟩, [], false⟩]
    id_range := by decide
    status_known := by decide }]
  idWidth := 4
  nameWidth := 32
  statusWidth := 9
  indent := 48
  indent_pos := by decide

theorem not_vlansRead_tenGigabit : ¬∀ table : VlanTable, VlansRead table := by
  intro claimed
  obtain ⟨vlans, read, same⟩ := claimed wrappedVlan
  have first : parseVlans wrappedVlan.text = .ok [⟨10, "USERS", "active", ["Te1/0/1"]⟩] := by decide +kernel
  rw [first] at read
  obtain rfl := Except.ok.inj read
  exact absurd same (by decide +kernel)

end SwitchOps
