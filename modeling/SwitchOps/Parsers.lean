import SwitchOps.CommandRegistry
import SwitchOps.Lib.Dict

/-!
# Parsers of IOS tables

The parsers of `parsers/` that the write path and the assurance snapshots read: the interface
status, Power over Ethernet, error counter and MAC address tables. Each is total on arbitrary
text; a line it cannot make sense of is skipped.
-/

namespace SwitchOps

/-! ## `show interfaces status` -/

/-- `_STATUS_VALUES`. -/
def statusValues : List Text := [
  "connected", "notconnect", "disabled", "err-disabled", "inactive", "monitoring", "suspended",
  "faulty", "sfpabsent"]

/-- The column titles, from left to right. -/
def statusColumns : List Text := ["Port", "Name", "Status", "Vlan", "Duplex", "Speed", "Type"]

/-- Is this the title line of the table? -/
def isStatusHeader (line : Text) : Bool :=
  Text.startsWith line.strip "Port" && Text.contains line "Name" && Text.contains line "Status"

/-- `slice_col`: the text of `line` under the `idx`-th title of `header`. -/
def sliceCol (header line : Text) (idx : Nat) : Text :=
  let start := Text.find header (statusColumns.getD idx [])
  if start < 0 then []
  else match statusColumns[idx + 1]? with
    | some next => (Text.slice line start (Text.find header next)).strip
    | none => (Text.sliceFrom line start).strip

/-- The position in `parts`, the first entry aside, of the first status word. -/
def statusIndex (parts : List Text) : Option Nat :=
  ((parts.drop 1).findIdx? fun token => statusValues.elem token.lower).map (· + 1)

/-- The fields of one line: by position of the status word, else by the title columns. -/
def statusRow (header line : Text) : InterfaceStatus :=
  let parts := line.split
  let byColumns : InterfaceStatus :=
    { port := sliceCol header line 0, name := sliceCol header line 1,
      status := sliceCol header line 2, vlan := sliceCol header line 3,
      duplex := sliceCol header line 4, speed := sliceCol header line 5,
      type := sliceCol header line 6 }
  match statusIndex parts with
  | none => byColumns
  | some i =>
    if i + 5 ≤ parts.length then
      { port := parts.getD 0 [], name := Text.join " " ((parts.take i).drop 1),
        status := parts.getD i [], vlan := parts.getD (i + 1) [],
        duplex := parts.getD (i + 2) [], speed := parts.getD (i + 3) [],
        type := Text.join " " (parts.drop (i + 4)) }
    else byColumns

/-- The row a line contributes, if any. -/
def statusLine (header line : Text) : Except Exn (Option InterfaceStatus) :=
  if line.strip.isEmpty then .ok none
  else if (Regex.matchStart (.chr fun c => c.isAlpha) line).isNone then .ok none
  else
    let row := statusRow header line
    if row.port.isEmpty then .ok none
    else match normalizeInterface row.port with
      | .error _ => .ok none
      | .ok canonical => (isPhysicalInterface canonical).map fun physical =>
          if physical then some row else none

/-- `parse_interface_status`. -/
def parseInterfaceStatus (text : Text) : Except Exn (List InterfaceStatus) :=
  match text.splitlines.dropWhile fun line => !isStatusHeader line with
  | [] => .ok []
  | header :: rows => (rows.mapM (statusLine header)).map fun rows => rows.filterMap id

/-! ## `show power inline` -/

/-- `^\s*Gi\d`. -/
def gigabitLine : Regex :=
  .seq (.star true Regex.space) (.seq (Regex.lit "Gi") Regex.digit)

/-- The row a line contributes: the class is the last but one field, the device lies between. -/
def poeLine (line : Text) : Option PoePort :=
  if (Regex.matchStart gigabitLine line).isNone then none
  else
    let parts := line.split
    if parts.length < 7 then none
    else
      let device := Text.join " " ((parts.take (parts.length - 2)).drop 4)
      some {
        interface := parts.getD 0 [], admin := parts.getD 1 [], oper := parts.getD 2 [],
        device := if device.isEmpty then "n/a" else device,
        poeClass := parts.getD (parts.length - 2) [] }

/-- `parse_poe(text).ports`. -/
def parsePoe (text : Text) : List PoePort := text.splitlines.filterMap poeLine

/-! ## `show interfaces counters errors` -/

/-- `_safe_int`. -/
def safeInt (t : Text) : Int := (Text.parseInt t).getD 0

/-- Which of the two blocks of the table is being read. -/
inductive ErrorBlock
  | first
  | second
  deriving DecidableEq, Repr

def errorHeaderFirst : List Text := ["Align-Err", "FCS-Err", "Xmit-Err", "Rcv-Err"]
def errorHeaderSecond : List Text := ["Single-Col", "Multi-Col", "Late-Col", "Excess-Col"]

/-- The counters of `row` after a line of the given block, with their sum. -/
def InterfaceErrorCounters.update (row : InterfaceErrorCounters) (mode : Option ErrorBlock)
    (parts : List Text) : InterfaceErrorCounters :=
  let field (i : Nat) : Int := safeInt (parts.getD i "0")
  let row := match mode with
    | some .first =>
      { row with alignErr := field 1, fcsErr := field 2, xmitErr := field 3, rcvErr := field 4,
                 underSize := field 5 }
    | some .second =>
      { row with singleCol := field 1, multiCol := field 2, lateCol := field 3,
                 excessCol := field 4 }
    | none => row
  { row with total :=
      row.alignErr + row.fcsErr + row.xmitErr + row.rcvErr + row.underSize + row.singleCol
        + row.multiCol + row.lateCol + row.excessCol }

/-- One line of `parse_interface_errors`. -/
def errorLine (state : Option ErrorBlock × Dict Text InterfaceErrorCounters) (line : Text) :
    Option ErrorBlock × Dict Text InterfaceErrorCounters :=
  if line.strip.isEmpty then state
  else if errorHeaderFirst.all (Text.contains line) then (some .first, state.2)
  else if errorHeaderSecond.all (Text.contains line) then (some .second, state.2)
  else if (Regex.matchStart gigabitLine line).isNone then state
  else
    let parts := line.split
    let port := parts.getD 0 []
    let row := (Dict.get? state.2 port).getD { port := port }
    (state.1, Dict.set state.2 port (row.update state.1 parts))

/-- `parse_interface_errors`. -/
def parseInterfaceErrors (text : Text) : List InterfaceErrorCounters :=
  Dict.values (text.splitlines.foldl errorLine (none, [])).2

/-! ## `show mac address-table` -/

/-- `^\s*(\d+|All)\s+([0-9a-fA-F.]{14})\s+(\S+)\s+(\S.*)$`. -/
def macLinePattern : Regex :=
  let hexOrDot : Regex := .chr fun c =>
    ('0' ≤ c && c ≤ '9') || ('a' ≤ c && c ≤ 'f') || ('A' ≤ c && c ≤ 'F') || c == '.'
  Regex.seqs [
    Regex.textStart, .star true Regex.space,
    .group 1 (.alt (Regex.plus Regex.digit) (Regex.lit "All")), Regex.plus Regex.space,
    .group 2 (Regex.seqs (List.replicate 14 hexOrDot)), Regex.plus Regex.space,
    .group 3 (Regex.plus Regex.nonSpace), Regex.plus Regex.space,
    .group 4 (.seq Regex.nonSpace (.star true (.chr (· != '\n')))), Regex.textEndOrNewline]

def macLine (line : Text) : Option MacTableEntry :=
  (Regex.matchStart macLinePattern line).map fun m =>
    { vlan := (m.group 1).getD [], mac := (m.group 2).getD [], type := (m.group 3).getD [],
      port := ((m.group 4).getD []).strip }

/-- `parse_mac_table`. -/
def parseMacTable (text : Text) : List MacTableEntry := text.splitlines.filterMap macLine

end SwitchOps
