import Mathlib.Data.List.GetD
import SwitchOps.InterfaceGrammar
import SwitchOps.Operations

/-!
# The interface status table

The table as IOS prints it, in fixed columns, and what `parse_interface_status` makes of it. The parser looks for the
first word that is a status and takes what stands before it for the name, so a description with such a word is read
as a status. Only where nothing follows the speed are the columns read instead. `statusRead_iff` says which tables are
read exactly.
-/

namespace SwitchOps

open Text

/-- A port as the table shows it: its name is a description. -/
structure PortStatus where
  port : PhysicalName
  name : Text
  status : Text
  vlan : Text
  duplex : Text
  speed : Text
  type : Text
  described : ∃ value, sanitizeDescription value = .ok name
  status_known : status.lower ∈ statusValues
  words : ∀ cell ∈ [status, vlan, duplex, speed], IsToken cell
  port_fits : port.short.length ≤ 9
  status_fits : status.length ≤ 12
  vlan_fits : vlan.length ≤ 10
  duplex_fits : duplex.length ≤ 6
  speed_fits : speed.length ≤ 6
  type_line : ∀ c ∈ type, isLineBreak c = false

structure StatusTable where
  rows : List PortStatus
  distinct : (rows.map (·.port)).Nodup

def statusHeader : Text := "Port      Name               Status       Vlan       Duplex  Speed Type"

namespace PortStatus

variable (row : PortStatus)

/-- The name, cut to its column. -/
def nameColumn : Text := row.name.take 18

/-- The name as it stands out from its column. -/
def cell : Text := row.nameColumn.strip

def line : Text :=
  leftColumns [(9, row.port.short), (18, row.nameColumn), (12, row.status), (10, row.vlan)] ++
    (padLeft 6 row.duplex ++ ' ' :: (padLeft 6 row.speed ++ ' ' :: row.type))

/-- The row that is shown. -/
def observed : InterfaceStatus where
  port := row.port.short
  name := row.cell
  status := row.status
  vlan := row.vlan
  duplex := row.duplex
  speed := row.speed
  type := row.type

/-- What is read of the line. -/
def read : InterfaceStatus := statusRow statusHeader row.line

/-- No word of the name is a status, and the type has single blanks between its words; where there is a type, so
has the name, and where there is none, the speed does not fill its column. -/
structure Readable : Prop where
  name : ∀ w ∈ row.cell.split, w.lower ∉ statusValues
  type : Text.join " " row.type.split = row.type
  blanks : row.type ≠ [] → Text.join " " row.cell.split = row.cell
  speed : row.type = [] → row.speed.length ≤ 5

end PortStatus

namespace StatusTable

/-- The table as IOS prints it. -/
def text (table : StatusTable) : Text := unlines (statusHeader :: table.rows.map PortStatus.line)

end StatusTable

/-! ## The words of a line -/

namespace PortStatus

variable (row : PortStatus)

theorem status_word : IsToken row.status := row.words _ (by simp)
theorem vlan_word : IsToken row.vlan := row.words _ (by simp)
theorem duplex_word : IsToken row.duplex := row.words _ (by simp)
theorem speed_word : IsToken row.speed := row.words _ (by simp)

theorem split_line : row.line.split = row.port.short :: (row.cell.split ++
    row.status :: row.vlan :: row.duplex :: row.speed :: row.type.split) := by
  have blank : isSpace ' ' = true := by decide
  rw [line, split_leftColumns_append, split_append_blank blank, split_append_blank blank, split_padLeft, split_padLeft,
    split_word row.duplex_word, split_word row.speed_word, cell, split_strip]
  simp [split_word row.port.isToken_short, split_word row.status_word, split_word row.vlan_word]

/-- Is the word a status? -/
def isStatus (w : Text) : Bool := statusValues.elem w.lower

theorem isStatus_status : isStatus row.status = true := List.elem_eq_true_of_mem row.status_known

/-- The first status word of the line. -/
theorem statusIndex_line : statusIndex row.line.split =
    some ((row.cell.split.findIdx? isStatus).getD row.cell.split.length + 1) := by
  rw [split_line, statusIndex, List.drop_succ_cons, List.drop_zero, List.findIdx?_append, List.findIdx?_cons]
  have status := row.isStatus_status
  rw [isStatus] at status
  rw [status]
  show ((row.cell.split.findIdx? isStatus).or (some (0 + row.cell.split.length))).map (· + 1) = _
  rw [Nat.zero_add]
  cases row.cell.split.findIdx? isStatus <;> rfl

/-- A status word in the name cuts the name. -/
theorem read_of_status {j : Nat} (found : row.cell.split.findIdx? isStatus = some j) :
    row.read.port = row.port.short ∧ row.read.name = Text.join " " (row.cell.split.take j) := by
  have within : j < row.cell.split.length := (List.findIdx?_eq_some_iff_getElem.mp found).1
  rw [read, statusRow, statusIndex_line, found]
  dsimp only [Option.getD_some]
  rw [if_pos]
  · dsimp only
    rw [split_line, List.take_succ_cons, List.drop_succ_cons, List.drop_zero,
      List.take_append_of_le_length (Nat.le_of_lt within)]
    exact ⟨rfl, rfl⟩
  · rw [split_line, List.length_cons, List.length_append]
    simp only [List.length_cons]
    omega

/-- The fields of a line by its words. -/
theorem statusRow_of_words {header line port status vlan duplex speed : Text} {name type : List Text}
    (words : line.split = port :: (name ++ status :: vlan :: duplex :: speed :: type))
    (index : statusIndex line.split = some (name.length + 1)) (nonempty : type ≠ []) :
    statusRow header line = {
      port := port, name := Text.join " " name, status := status, vlan := vlan, duplex := duplex, speed := speed
      type := Text.join " " type } := by
  have field (i : Nat) : line.split.getD (name.length + 1 + i) [] =
      (status :: vlan :: duplex :: speed :: type).getD i [] := by
    have later : name.length + 1 + i = name.length + i + 1 := by omega
    rw [words, later, List.getD_cons_succ, List.getD_append_right _ _ _ _ (by omega), Nat.add_sub_cancel_left]
  have named : (line.split.take (name.length + 1)).drop 1 = name := by
    rw [words, List.take_succ_cons, List.drop_succ_cons, List.drop_zero, List.take_left]
  have rest : line.split.drop (name.length + 1 + 4) = type := by
    have later : name.length + 1 + 4 = name.length + 4 + 1 := by omega
    rw [words, later, List.drop_succ_cons, List.drop_length_add_append]
    rfl
  have long : name.length + 1 + 5 ≤ line.split.length := by
    have some_ := List.length_pos_iff.mpr nonempty
    rw [words, List.length_cons, List.length_append]
    simp only [List.length_cons]
    omega
  have first : line.split.getD 0 [] = port := by
    rw [words]
    rfl
  rw [statusRow, index]
  dsimp only
  rw [if_pos long, first, named, rest, field 1, field 2, field 3]
  have statusField := field 0
  rw [Nat.add_zero] at statusField
  rw [statusField]
  rfl

/-- Without a status word in the name, where something follows the speed, the fields stand by their words. -/
theorem read_of_type (none : row.cell.split.findIdx? isStatus = none) (type : row.type.split ≠ []) :
    row.read = { row.observed with
      name := Text.join " " row.cell.split, type := Text.join " " row.type.split } := by
  have index := row.statusIndex_line
  rw [none] at index
  exact statusRow_of_words row.split_line index type

/-! ## The columns of a line -/

/-- A column, where the titles stand where it begins and ends. -/
theorem sliceCol_of {header line a b c : Text} {idx : Nat} {next : Text} (parts : line = a ++ b ++ c)
    (title : statusColumns[idx + 1]? = some next) (begins : Text.find header (statusColumns.getD idx []) = a.length)
    (ends : Text.find header next = (a ++ b).length) : sliceCol header line idx = b.strip := by
  rw [sliceCol, title, if_neg (by omega), parts]
  dsimp only
  rw [slice_middle begins ends]

/-- Where nothing follows the speed, the columns are read. The first character of the speed stands under no title
of its own. -/
theorem read_of_columns (none : row.cell.split.findIdx? isStatus = none) (type : row.type.split = [])
    {x : Char} {speed : Text} (padded : padLeft 6 row.speed = x :: speed) :
    row.read = { row.observed with
      duplex := (padLeft 6 row.duplex ++ [' ', x]).strip, speed := (speed ++ [' ']).strip, type := row.type.strip } := by
  have index := row.statusIndex_line
  rw [none] at index
  have short : ¬row.cell.split.length + 1 + 5 ≤ row.line.split.length := by
    rw [split_line, type, List.length_cons, List.length_append]
    simp only [List.length_cons, List.length_nil]
    omega
  have blank : ∀ c ∈ [' '], isSpace c = true := by decide
  have title : Text.find statusHeader "Port" = 0 ∧ Text.find statusHeader "Name" = 10 ∧
      Text.find statusHeader "Status" = 29 ∧ Text.find statusHeader "Vlan" = 42 ∧ Text.find statusHeader "Duplex" = 53 ∧
      Text.find statusHeader "Speed" = 61 ∧ Text.find statusHeader "Type" = 67 := by decide +kernel
  obtain ⟨portAt, nameAt, statusAt, vlanAt, duplexAt, speedAt, typeAt⟩ := title
  have portLength := length_padRight row.port_fits
  have nameLength : (padRight 18 row.nameColumn).length = 18 := length_padRight (List.length_take_le 18 row.name)
  have statusLength := length_padRight row.status_fits
  have vlanLength := length_padRight row.vlan_fits
  have duplexLength := length_padLeft row.duplex_fits
  have speedLength := length_padLeft row.speed_fits
  rw [padded, List.length_cons] at speedLength
  have whole : row.line = padRight 9 row.port.short ++ [' '] ++ (padRight 18 row.nameColumn ++ [' ']) ++
      (padRight 12 row.status ++ [' ']) ++ (padRight 10 row.vlan ++ [' ']) ++ (padLeft 6 row.duplex ++ [' ', x]) ++
      (speed ++ [' ']) ++ row.type := by
    rw [line, padded]
    simp [leftColumns]
  have column (t : Text) : (t ++ [' ']).strip = t.strip := strip_append_blanks blank t
  have port := @sliceCol_of statusHeader row.line [] (padRight 9 row.port.short ++ [' '])
    ((padRight 18 row.nameColumn ++ [' ']) ++ (padRight 12 row.status ++ [' ']) ++ (padRight 10 row.vlan ++ [' ']) ++
      (padLeft 6 row.duplex ++ [' ', x]) ++ (speed ++ [' ']) ++ row.type) 0 "Name"
    (by simp [whole]) rfl portAt (by rw [nameAt]; simp [portLength])
  have name := @sliceCol_of statusHeader row.line (padRight 9 row.port.short ++ [' '])
    (padRight 18 row.nameColumn ++ [' ']) ((padRight 12 row.status ++ [' ']) ++ (padRight 10 row.vlan ++ [' ']) ++
      (padLeft 6 row.duplex ++ [' ', x]) ++ (speed ++ [' ']) ++ row.type) 1 "Status"
    (by simp [whole]) rfl (by rw [show statusColumns.getD 1 [] = "Name".toList from rfl, nameAt]; simp [portLength])
    (by rw [statusAt]; simp [portLength, nameLength])
  have status := @sliceCol_of statusHeader row.line
    (padRight 9 row.port.short ++ [' '] ++ (padRight 18 row.nameColumn ++ [' '])) (padRight 12 row.status ++ [' '])
    ((padRight 10 row.vlan ++ [' ']) ++ (padLeft 6 row.duplex ++ [' ', x]) ++ (speed ++ [' ']) ++ row.type) 2 "Vlan"
    (by simp [whole]) rfl
    (by rw [show statusColumns.getD 2 [] = "Status".toList from rfl, statusAt]; simp [portLength, nameLength])
    (by rw [vlanAt]; simp [portLength, nameLength, statusLength])
  have vlan := @sliceCol_of statusHeader row.line
    (padRight 9 row.port.short ++ [' '] ++ (padRight 18 row.nameColumn ++ [' ']) ++ (padRight 12 row.status ++ [' ']))
    (padRight 10 row.vlan ++ [' ']) ((padLeft 6 row.duplex ++ [' ', x]) ++ (speed ++ [' ']) ++ row.type) 3 "Duplex"
    (by simp [whole]) rfl
    (by rw [show statusColumns.getD 3 [] = "Vlan".toList from rfl, vlanAt]; simp [portLength, nameLength, statusLength])
    (by rw [duplexAt]; simp [portLength, nameLength, statusLength, vlanLength])
  have duplex := @sliceCol_of statusHeader row.line
    (padRight 9 row.port.short ++ [' '] ++ (padRight 18 row.nameColumn ++ [' ']) ++ (padRight 12 row.status ++ [' ']) ++
      (padRight 10 row.vlan ++ [' '])) (padLeft 6 row.duplex ++ [' ', x]) ((speed ++ [' ']) ++ row.type) 4 "Speed"
    (by simp [whole]) rfl
    (by rw [show statusColumns.getD 4 [] = "Duplex".toList from rfl, duplexAt]
        simp [portLength, nameLength, statusLength, vlanLength])
    (by rw [speedAt]; simp [portLength, nameLength, statusLength, vlanLength, duplexLength])
  have speed' := @sliceCol_of statusHeader row.line
    (padRight 9 row.port.short ++ [' '] ++ (padRight 18 row.nameColumn ++ [' ']) ++ (padRight 12 row.status ++ [' ']) ++
      (padRight 10 row.vlan ++ [' ']) ++ (padLeft 6 row.duplex ++ [' ', x])) (speed ++ [' ']) row.type 5 "Type"
    whole rfl
    (by rw [show statusColumns.getD 5 [] = "Speed".toList from rfl, speedAt]
        simp [portLength, nameLength, statusLength, vlanLength, duplexLength])
    (by rw [typeAt]; simp [portLength, nameLength, statusLength, vlanLength, duplexLength]; omega)
  have type : sliceCol statusHeader row.line 6 = row.type.strip := by
    have lastTitle : statusColumns[6 + 1]? = Option.none := rfl
    have title : Text.find statusHeader (statusColumns.getD 6 []) = 67 := typeAt
    rw [sliceCol, lastTitle, title, whole, if_neg (by decide), sliceFrom_last]
    simp [portLength, nameLength, statusLength, vlanLength, duplexLength]
    omega
  have word {t : Text} (solid : IsToken t) : t.strip = t := strip_eq_self solid.solid
  rw [read, statusRow, index]
  dsimp only [Option.getD_none]
  rw [if_neg short, port, name, status, vlan, duplex, speed', type, column, column, column, column, strip_padRight,
    strip_padRight, strip_padRight, strip_padRight, word row.port.isToken_short, word row.status_word, word row.vlan_word]
  rfl

/-- A speed that does not fill its column has a blank before it. -/
theorem padLeft_speed (short : row.speed.length ≤ 5) : padLeft 6 row.speed = ' ' :: padLeft 5 row.speed := by
  have one : 6 - row.speed.length = 5 - row.speed.length + 1 := by omega
  rw [padLeft, one, List.replicate_succ]
  rfl

/-- **A line is read exactly if it is readable.** -/
theorem read_eq_observed : row.read = row.observed ↔ row.Readable := by
  have blank : ∀ c ∈ [' '], isSpace c = true := by decide
  constructor
  · intro same
    cases found : row.cell.split.findIdx? isStatus with
    | some j =>
      have within : j < row.cell.split.length := (List.findIdx?_eq_some_iff_getElem.mp found).1
      have name := congrArg InterfaceStatus.name same
      rw [(row.read_of_status found).2] at name
      have words := congrArg (fun t : Text => t.split.length) name
      rw [split_join_words fun w here => isToken_of_mem_split (List.mem_of_mem_take here), List.length_take] at words
      have whole : row.observed.name = row.cell := rfl
      rw [whole] at words
      omega
    | none =>
      have name : ∀ w ∈ row.cell.split, w.lower ∉ statusValues := by
        intro w here known
        have no := List.findIdx?_eq_none_iff.mp found w here
        rw [isStatus, List.elem_eq_true_of_mem known] at no
        cases no
      by_cases type : row.type.split = []
      · obtain ⟨x, speed, padded⟩ := List.exists_cons_of_length_pos
          (show 0 < (padLeft 6 row.speed).length by rw [length_padLeft row.speed_fits]; decide)
        rw [row.read_of_columns found type padded] at same
        have typed : row.type.strip = row.type := congrArg InterfaceStatus.type same
        have none : row.type = [] := by
          rw [← typed, strip_eq_nil_iff]
          exact split_eq_nil_iff.mp type
        refine ⟨name, ?_, fun some => absurd none some, fun _ => ?_⟩
        · rw [none]
          rfl
        · -- a full column begins with the first character of the speed
          by_contra long
          have fits := row.speed_fits
          have full : padLeft 6 row.speed = row.speed := by
            have zero : 6 - row.speed.length = 0 := by omega
            rw [padLeft, zero]
            rfl
          rw [full] at padded
          have solid : ∀ c ∈ speed, isSpace c = false := fun c here =>
            row.speed_word.solid c (by rw [padded]; exact List.mem_cons_of_mem _ here)
          have sped : Text.strip (speed ++ [' ']) = row.speed := congrArg InterfaceStatus.speed same
          rw [strip_append_blanks blank, strip_eq_self solid, padded] at sped
          exact absurd (congrArg List.length sped) (by simp)
      · rw [row.read_of_type found type] at same
        refine ⟨name, congrArg InterfaceStatus.type same, fun _ => congrArg InterfaceStatus.name same, fun none => ?_⟩
        rw [none] at type
        exact absurd rfl type
  · intro readable
    have found : row.cell.split.findIdx? isStatus = none := by
      rw [List.findIdx?_eq_none_iff]
      intro w here
      rw [isStatus, Bool.eq_false_iff]
      exact fun known => readable.name w here (List.mem_of_elem_eq_true known)
    by_cases type : row.type.split = []
    · have none : row.type = [] := by
        have typed := readable.type
        rw [type] at typed
        exact typed.symm
      have blanks : ∀ c ∈ [' ', ' '], isSpace c = true := by decide
      rw [row.read_of_columns found type (row.padLeft_speed (readable.speed none)), strip_append_blanks blank,
        strip_append_blanks blanks, strip_padLeft, strip_padLeft, strip_eq_self row.duplex_word.solid,
        strip_eq_self row.speed_word.solid, none]
      rw [observed, none]
      rfl
    · have some_ : row.type ≠ [] := by
        intro none
        rw [none] at type
        exact type rfl
      rw [row.read_of_type found type, readable.type, readable.blanks some_]
      rfl

theorem read_port : row.read.port = row.port.short := by
  cases found : row.cell.split.findIdx? isStatus with
  | some j => exact (row.read_of_status found).1
  | none =>
    by_cases type : row.type.split = []
    · obtain ⟨x, speed, padded⟩ := List.exists_cons_of_length_pos
        (show 0 < (padLeft 6 row.speed).length by rw [length_padLeft row.speed_fits]; decide)
      rw [row.read_of_columns found type padded]
      rfl
    · rw [row.read_of_type found type]
      rfl

/-! ## The table -/

/-- Every line of a port gives a row. -/
theorem statusLine_line : statusLine statusHeader row.line = .ok (some row.read) := by
  have first : ∃ c rest, row.line = c :: rest ∧ c.isAlpha = true ∧ isSpace c = false := by
    obtain ⟨abbreviation, listed, short⟩ := row.port.exists_short_eq
    have table : ∀ entry ∈ shortPrefixes, ∃ c cs, entry.2 = c :: cs ∧ c.isAlpha = true ∧ isSpace c = false := by
      simp [shortPrefixes]
      decide
    obtain ⟨c, cs, split, letter, solid⟩ := table _ listed
    dsimp only at split
    exact ⟨c, _, by rw [line, leftColumns, List.flatMap_cons, padRight, short, split]; rfl, letter, solid⟩
  obtain ⟨c, rest, begins, letter, solid⟩ := first
  have visible : row.line.strip.isEmpty = false := by
    rw [List.isEmpty_eq_false_iff]
    intro empty
    have blank := strip_eq_nil_iff.mp empty c (by rw [begins]; exact List.mem_cons_self)
    rw [solid] at blank
    cases blank
  have lettered : (Regex.matchStart (.chr fun c => c.isAlpha) row.line).isNone = false := by
    rw [Regex.matchStart, begins, Regex.results_chr_cons letter]
    rfl
  have port : row.read.port.isEmpty = false := by
    rw [row.read_port, List.isEmpty_eq_false_iff]
    exact row.port.isToken_short.ne_nil
  have fold : statusRow statusHeader row.line = row.read := rfl
  rw [statusLine, visible, lettered, if_neg Bool.false_ne_true, if_neg Bool.false_ne_true]
  dsimp only
  rw [fold, port, if_neg Bool.false_ne_true, row.read_port, row.port.normalizeInterface_shortName]
  dsimp only
  rw [isPhysicalInterface_text]
  rfl

end PortStatus

namespace PortStatus

variable (row : PortStatus)

theorem isLineBreak_of_mem_line {c : Char} (h : c ∈ row.line) : isLineBreak c = false := by
  have plain {w : Text} (word : IsToken w) {c : Char} (here : c ∈ w) : isLineBreak c = false :=
    isLineBreak_of_isSpace (word.solid c here)
  have name {c : Char} (here : c ∈ row.nameColumn) : isLineBreak c = false := by
    obtain ⟨value, described⟩ := row.described
    obtain ⟨-, -, -, chars⟩ := sanitizeDescription_ok_iff.mp described
    have table : ∀ c ∈ descriptionOk, isLineBreak c = false := by decide +kernel
    exact table c (chars c (List.mem_of_mem_take here))
  have padded {n : Nat} {w : Text} {c : Char} (here : c ∈ padLeft n w) : c = ' ' ∨ c ∈ w :=
    (List.mem_append.mp here).imp (fun blank => (List.mem_replicate.mp blank).2) id
  have blank : isLineBreak ' ' = false := by decide
  rcases List.mem_append.mp h with h | h
  · rcases mem_leftColumns h with rfl | ⟨cell, known, here⟩
    · exact blank
    · simp only [List.mem_cons, List.not_mem_nil, or_false] at known
      rcases known with rfl | rfl | rfl | rfl
      · exact plain row.port.isToken_short here
      · exact name here
      · exact plain row.status_word here
      · exact plain row.vlan_word here
  · rcases List.mem_append.mp h with h | h
    · rcases padded h with rfl | h
      · exact blank
      · exact plain row.duplex_word h
    · rcases List.mem_cons.mp h with rfl | h
      · exact blank
      rcases List.mem_append.mp h with h | h
      · rcases padded h with rfl | h
        · exact blank
        · exact plain row.speed_word h
      · rcases List.mem_cons.mp h with rfl | h
        · exact blank
        · exact row.type_line c h

end PortStatus

namespace StatusTable

variable (table : StatusTable)

/-- What is read of the table: a row for every port. -/
theorem parseInterfaceStatus_text : parseInterfaceStatus table.text = .ok (table.rows.map PortStatus.read) := by
  have header : isStatusHeader statusHeader = true ∧ ∀ c ∈ statusHeader, isLineBreak c = false := by decide +kernel
  have plain : ∀ line ∈ statusHeader :: table.rows.map PortStatus.line, ∀ c ∈ line, isLineBreak c = false := by
    rw [List.forall_mem_cons]
    refine ⟨header.2, fun line here => ?_⟩
    obtain ⟨row, -, rfl⟩ := List.mem_map.mp here
    exact fun c => row.isLineBreak_of_mem_line
  have lines : ∀ rows : List PortStatus, (rows.map PortStatus.line).mapM (statusLine statusHeader) =
      .ok (rows.map fun row => some row.read) := by
    intro rows
    induction rows with
    | nil => rfl
    | cons row rows ih =>
      rw [List.map_cons, List.mapM_cons, row.statusLine_line, ih]
      rfl
  have all : ∀ rows : List PortStatus, (rows.map fun row => some row.read).filterMap id = rows.map PortStatus.read := by
    intro rows
    induction rows with
    | nil => rfl
    | cons row rows ih => exact congrArg (row.read :: ·) ih
  have begins : (statusHeader :: table.rows.map PortStatus.line).dropWhile (fun line => !isStatusHeader line) =
      statusHeader :: table.rows.map PortStatus.line := by
    rw [List.dropWhile_cons_of_neg]
    rw [header.1]
    decide
  rw [parseInterfaceStatus, text, splitlines_unlines plain, begins]
  show Except.map _ ((table.rows.map PortStatus.line).mapM (statusLine statusHeader)) = _
  rw [lines, Except.map, all]

/-- The row of a port is found under its name. -/
theorem find_observed {row : PortStatus} (here : row ∈ table.rows) :
    (table.rows.map PortStatus.observed).find? (fun item => item.port.lower = row.port.short.lower) =
      some row.observed := by
  have lowers := PhysicalName.nodup_lower table.distinct
  generalize table.rows = rows at here lowers
  induction rows with
  | nil => cases here
  | cons other rows ih =>
    rw [List.map_cons, List.nodup_cons] at lowers
    rcases List.mem_cons.mp here with rfl | here
    · exact List.find?_cons_of_pos (decide_eq_true rfl)
    · have differ : ¬other.port.short.lower = row.port.short.lower := by
        intro same
        rw [same] at lowers
        exact lowers.1 (List.mem_map_of_mem (f := fun row : PortStatus => row.port.short.lower) here)
      rw [List.map_cons, List.find?_cons_of_neg, ih here lowers.2]
      rw [decide_eq_true_eq]
      exact differ

end StatusTable

/-- The table is read exactly, and the administrative state of every port is judged by its status. -/
structure StatusRead (table : StatusTable) : Prop where
  rows : parseInterfaceStatus table.text = .ok (table.rows.map PortStatus.observed)
  admin : ∀ row ∈ table.rows, ∀ parsed poeAdmin value configState, parseInterfaceStatus table.text = .ok parsed →
    let found := parsed.find? fun item => item.port.lower = row.port.short.lower
    (postconditionMet .adminDown found poeAdmin value configState).1 = decide (row.status.lower = "disabled") ∧
      (postconditionMet .adminUp found poeAdmin value configState).1 = decide (row.status.lower ≠ "disabled")

/-- **The table is read exactly if all its rows are readable.** -/
theorem statusRead_iff (table : StatusTable) : StatusRead table ↔ ∀ row ∈ table.rows, row.Readable := by
  have exact_ : parseInterfaceStatus table.text = .ok (table.rows.map PortStatus.observed) ↔
      ∀ row ∈ table.rows, row.Readable := by
    rw [table.parseInterfaceStatus_text, Except.ok.injEq, List.map_inj_left]
    exact forall₂_congr fun row _ => row.read_eq_observed
  constructor
  · exact fun read => exact_.mp read.rows
  · intro readable
    have rows := exact_.mpr readable
    refine ⟨rows, fun row here parsed poeAdmin value configState read => ?_⟩
    rw [rows] at read
    obtain rfl := Except.ok.inj read
    have status : row.observed.status.strip.lower = row.status.lower := by
      show row.status.strip.lower = _
      rw [strip_eq_self row.status_word.solid]
    dsimp only
    rw [table.find_observed here, postconditionMet, postconditionMet, status]
    by_cases disabled : row.status.lower = "disabled".toList
    · rw [disabled]
      exact ⟨rfl, rfl⟩
    · rw [if_neg disabled, if_pos disabled, decide_eq_false disabled, decide_eq_true disabled]
      exact ⟨rfl, rfl⟩

/-- A connected port whose description is `disabled printer`. -/
def dockedPort : PortStatus where
  port := ⟨"GigabitEthernet", [0, 5], by decide, .inl rfl, by decide⟩
  name := "disabled printer"
  status := "connected"
  vlan := "1"
  duplex := "a-full"
  speed := "a-1000"
  type := "10/100/1000BaseTX"
  described := ⟨"disabled printer", by decide +kernel⟩
  status_known := by decide
  words := by
    simp only [List.forall_mem_cons]
    exact ⟨⟨by decide, by decide⟩, ⟨by decide, by decide⟩, ⟨by decide, by decide⟩, ⟨by decide, by decide⟩, by simp⟩
  port_fits := by decide
  status_fits := by decide
  vlan_fits := by decide
  duplex_fits := by decide
  speed_fits := by decide
  type_line := by decide +kernel

theorem not_statusRead_docked : ¬∀ table : StatusTable, StatusRead table := by
  intro claimed
  let table : StatusTable := ⟨[dockedPort], List.nodup_singleton _⟩
  have read : parseInterfaceStatus table.text = .ok [{ dockedPort.observed with
      name := "", status := "disabled", vlan := "printer", duplex := "connected", speed := "1"
      type := "a-full a-1000 10/100/1000BaseTX" }] := by decide +kernel
  have rows := (claimed table).rows
  rw [read] at rows
  exact absurd (Except.ok.inj rows) (by decide +kernel)

end SwitchOps
