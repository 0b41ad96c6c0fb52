import SwitchOps.Lib.Blocks
import SwitchOps.Lib.Dict
import SwitchOps.Parsers.VlanLists

/-!
# Switchports

`parse_switchports`, and the output of `show interfaces switchport` as IOS prints it: a block for each port, of lines
with a label, a list of VLANs going on in lines without one. What is read of a block is what the first line of each
label says (`parseSwitchports_text`).
-/

namespace SwitchOps

open Regex Text

/-! ## `parse_switchports` -/

inductive SwitchportField
  | name
  | switchport
  | operationalMode
  | administrativeMode
  | accessVlan
  | nativeVlan
  | allowedVlans
  deriving DecidableEq, Repr

namespace SwitchportField

def label : SwitchportField → Text
  | name => "Name:"
  | switchport => "Switchport:"
  | operationalMode => "Operational Mode:"
  | administrativeMode => "Administrative Mode:"
  | accessVlan => "Access Mode VLAN:"
  | nativeVlan => "Trunking Native Mode VLAN:"
  | allowedVlans => "Trunking VLANs Enabled:"

/-- `(\S+)`, `(.+?)\s*$` or `(\d+)` -/
def value : SwitchportField → Regex
  | name | switchport => .group 1 (plus nonSpace)
  | operationalMode | administrativeMode | allowedVlans => phrase
  | accessVlan | nativeVlan => .group 1 (plus digit)

end SwitchportField

/-- `re.search(r"^label\s*value", block, re.MULTILINE | re.IGNORECASE)` -/
def fieldOf (block : Text) (field : SwitchportField) : Option Text :=
  (search (.seq lineStart (labelled field.label field.value)) block).bind (·.group 1)

/-- An item of `parse_switchports`. -/
structure Switchport where
  name : Text
  switchport : Option Bool
  mode : Text
  accessVlan : Option Nat
  nativeVlan : Option Nat
  allowedVlans : List Nat
  deriving DecidableEq, Repr

/-- The mode in operation, or the configured one where it says nothing. -/
def switchportMode (switchport : Option Bool) (operational administrative : Option Text) : Text :=
  let operationalMode := (operational.map lower).getD []
  let administrativeMode := (administrative.map lower).getD []
  let known : List Text := ["trunk", "access", "static", "dynamic", "routed"]
  let mode := if known.any (contains operationalMode ·) then operationalMode else administrativeMode
  if contains mode "trunk" then "TRUNK"
  else if contains mode "access" || contains mode "static" then "ACCESS"
  else if switchport = some false then "ROUTED"
  else if contains mode "dynamic" then "DYNAMIC"
  else "UNKNOWN"

/-- `int(found.group(1)) if found else None` -/
def numberOf (found : Option Text) : Except Exn (Option Nat) :=
  match found with
  | none => .ok none
  | some value =>
    match toInt value with
    | some n => .ok (some n)
    | none => .error .valueError

/-- `parse_vlan_list(found.group(1)) if found else []` -/
def vlansOf (found : Option Text) : Except Exn (List Nat) :=
  match found with
  | none => .ok []
  | some value => parseVlanList value

/-- The item of a block, by what is found in it. -/
def Switchport.read (name : Text) (found : SwitchportField → Option Text) : Except Exn Switchport := do
  let switchport := (found .switchport).map fun value => value.lower == ("enabled" : Text)
  let accessVlan ← numberOf (found .accessVlan)
  let nativeVlan ← numberOf (found .nativeVlan)
  let allowedVlans ← vlansOf (found .allowedVlans)
  return {
    name, switchport, accessVlan, nativeVlan, allowedVlans,
    mode := switchportMode switchport (found .operationalMode) (found .administrativeMode) }

/-- `(?=^Name:\s*)` -/
def switchportStart : Regex := aheadLine (.seq (litIgnoringCase "Name:") (.star true space))

/-- One block of `parse_switchports`. -/
def readSwitchport (result : Dict Text Switchport) (block : Text) : Except Exn (Dict Text Switchport) :=
  match fieldOf block .name with
  | none => .ok result
  | some name => (Switchport.read name (fieldOf block)).map fun item => Dict.set result item.name item

def parseSwitchports (text : Text) : Except Exn (Dict Text Switchport) :=
  (cut switchportStart text).foldlM readSwitchport []

/-! ## The output -/

namespace SwitchportField

/-- The value and what follows it are what the field takes. -/
def Fits : SwitchportField → Text → Text → Prop
  | name, value, remark | switchport, value, remark => IsToken value ∧ ∀ c ∈ remark.head?, isSpace c = true
  | operationalMode, value, remark | administrativeMode, value, remark | allowedVlans, value, remark =>
    IsPhrase value ∧ ∀ c ∈ remark, isSpace c = true
  | accessVlan, value, remark | nativeVlan, value, remark =>
    (∃ vlan ≤ 4094, value = Text.ofNat vlan) ∧ ∀ c ∈ remark.head?, isDecimal c = false

end SwitchportField

/-- A line with a label, such as `Access Mode VLAN: 10 (USERS)`. -/
structure FieldLine where
  field : SwitchportField
  value : Text
  remark : Text
  fits : field.Fits value remark
  plain : '\n' ∉ value ++ remark

/-- A line without one of the labels. -/
structure OtherLine where
  text : Text
  plain : '\n' ∉ text
  unlabelled : ∀ field : SwitchportField, begins field.label text = false

inductive SwitchportLine
  | labelled (line : FieldLine)
  | other (line : OtherLine)

namespace SwitchportLine

def text : SwitchportLine → Text
  | labelled line => line.field.label ++ ' ' :: (line.value ++ line.remark)
  | other line => line.text

/-- What the line says of a field. -/
def found (field : SwitchportField) : SwitchportLine → Option Text
  | labelled line => if line.field = field then some line.value else none
  | other _ => none

end SwitchportLine

namespace AllowedVlans

/-- What stands after the label of the list. -/
def firstText : AllowedVlans → Text
  | all => "ALL"
  | none => "NONE"
  | listed first _ => first.text

/-- The lines in which the list goes on. -/
def furtherLines : AllowedVlans → List VlanLine
  | all | none => []
  | listed _ further => further

theorem isToken_firstText (allowed : AllowedVlans) : IsToken allowed.firstText := by
  cases allowed with
  | all => exact ⟨by decide, by decide⟩
  | none => exact ⟨by decide, by decide⟩
  | listed first further => exact first.isToken_text

/-- What stands there is read as what is kept. -/
theorem parseVlanList_firstText (allowed : AllowedVlans) : parseVlanList allowed.firstText = .ok allowed.kept := by
  cases allowed with
  | all => decide +kernel
  | none => decide +kernel
  | listed first further => exact first.parseVlanList_text

end AllowedVlans

/-! ## Labels -/

namespace SwitchportField

variable (field : SwitchportField)

theorem label_plain : field.label.all fun a => !sameIgnoringCase a '\n' := by
  cases field <;> decide +kernel

theorem label_ne_nil : field.label ≠ [] := by
  cases field <;> decide

theorem newline_not_mem_label : '\n' ∉ field.label := by
  cases field <;> decide

theorem spells_label : spells field.label field.label = true := by
  cases field <;> decide +kernel

theorem parts_label {field other : SwitchportField} (h : other ≠ field) : parts field.label other.label = true := by
  cases field <;> cases other <;> first | exact absurd rfl h | decide +kernel

/-- A value that the field takes is found after a blank. -/
theorem finds_value {value remark : Text} (h : field.Fits value remark) :
    Finds field.value (value ++ remark) (some value) := by
  have token : IsToken value ∧ (∀ c ∈ remark.head?, isSpace c = true) →
      Finds (.group 1 (plus nonSpace)) (value ++ remark) (some value) := by
    rintro ⟨token, stop⟩
    apply finds_group_plus _ token.ne_nil
    · intro c here
      rw [stop c here]
      rfl
    · decide
    · intro c here
      rw [token.solid c here]
      rfl
  have number : (∃ vlan ≤ 4094, value = Text.ofNat vlan) ∧ (∀ c ∈ remark.head?, isDecimal c = false) →
      Finds (.group 1 (plus digit)) (value ++ remark) (some value) := by
    rintro ⟨⟨vlan, -, rfl⟩, stop⟩
    apply finds_group_plus _ (ofNat_ne_nil vlan) stop
    · decide
    · exact fun c here => isDecimal_of_isDigit (isDigit_of_mem_ofNat here)
  cases field with
  | name => exact token h
  | switchport => exact token h
  | operationalMode => exact finds_phrase h.1 h.2
  | administrativeMode => exact finds_phrase h.1 h.2
  | allowedVlans => exact finds_phrase h.1 h.2
  | accessVlan => exact number h
  | nativeVlan => exact number h

/-- A value begins with something visible. -/
theorem visible_value {value remark : Text} (h : field.Fits value remark) :
    value ≠ [] ∧ ∀ c ∈ value.head?, isSpace c = false := by
  have token : IsToken value → value ≠ [] ∧ ∀ c ∈ value.head?, isSpace c = false :=
    fun token => ⟨token.ne_nil, fun c here => token.solid c (List.mem_of_head? here)⟩
  have phrase_ : IsPhrase value → value ≠ [] ∧ ∀ c ∈ value.head?, isSpace c = false := by
    intro phrase
    obtain ⟨c, first, visible⟩ := phrase.first
    refine ⟨fun empty => absurd first (by simp [empty]), fun d here => ?_⟩
    rw [Option.mem_unique here first]
    exact visible
  cases field with
  | name => exact token h.1
  | switchport => exact token h.1
  | operationalMode => exact phrase_ h.1
  | administrativeMode => exact phrase_ h.1
  | allowedVlans => exact phrase_ h.1
  | accessVlan =>
    obtain ⟨⟨vlan, -, rfl⟩, -⟩ := h
    exact token (isToken_ofNat vlan)
  | nativeVlan =>
    obtain ⟨⟨vlan, -, rfl⟩, -⟩ := h
    exact token (isToken_ofNat vlan)

end SwitchportField

/-! ## Lines -/

namespace SwitchportLine

variable (line : SwitchportLine) (field : SwitchportField)

theorem plain : '\n' ∉ line.text := by
  cases line with
  | labelled line =>
    rw [text, List.mem_append, List.mem_cons]
    rintro (label | blank | value)
    · exact line.field.newline_not_mem_label label
    · exact absurd blank (by decide)
    · exact line.plain value
  | other line => exact line.plain

/-- A line that says nothing of a field does not begin with its label. -/
theorem not_begins {line : SwitchportLine} {field : SwitchportField} (h : line.found field = none) :
    begins field.label line.text = false := by
  cases line with
  | labelled line =>
    apply not_begins_of_parts
    apply SwitchportField.parts_label
    rintro rfl
    rw [found, if_pos rfl] at h
    cases h
  | other line => exact line.unlabelled field

/-- What a line says of a field is what the search for the field finds there. -/
theorem finds : Finds (Regex.labelled field.label field.value) line.text (line.found field) := by
  cases given : line.found field with
  | none => exact finds_labelled_none field.label_plain (not_begins given)
  | some value =>
    cases line with
    | other line => cases given
    | labelled line =>
      rw [found] at given
      split at given
      · next same =>
        subst same
        obtain rfl := Option.some.inj given
        have blank : ∀ c ∈ [' '], isSpace c = true := by decide
        obtain ⟨some_, visible⟩ := line.field.visible_value line.fits
        apply finds_labelled line.field.spells_label blank
        · show ∀ c ∈ (line.value ++ line.remark).head?, isSpace c = false
          rwa [List.head?_append_of_ne_nil _ some_]
        · exact List.append_ne_nil_of_left_ne_nil some_ _
        · exact line.field.finds_value line.fits
      · cases given

/-- A line that tells no name begins no block. -/
theorem finds_none_of_name (line : SwitchportLine) (h : line.found .name = none) :
    Finds (.seq (litIgnoringCase "Name:") (.star true space)) line.text none := by
  apply finds_none
  intro seen rest
  rw [results_eq_runs, runs_seq]
  exact runs_lit_of_not_begins SwitchportField.name.label_plain (not_begins h) seen rest

end SwitchportLine

/-- The search for a field gives what the first line says that says something of it. -/
theorem fieldOf_unlines (lines : List SwitchportLine) (field : SwitchportField) :
    fieldOf (unlines (lines.map SwitchportLine.text)) field = lines.findSome? (SwitchportLine.found field) := by
  have pairs : lines.map SwitchportLine.text =
      (lines.map fun line => (line.text, line.found field)).map (·.1) := by
    rw [List.map_map]
    rfl
  rw [fieldOf, pairs, search_unlines]
  · rw [List.findSome?_map]
    rfl
  · rw [List.forall_mem_map]
    exact fun line _ => line.plain
  · rw [List.forall_mem_map]
    exact fun line _ => line.finds field
  · exact results_labelled_nil field.label_ne_nil

/-! ## Blocks -/

/-- A line of one word after its label. -/
def wordLine (field : SwitchportField) (value : Text) (isToken : IsToken value) (fits : field.Fits value []) :
    SwitchportLine :=
  .labelled ⟨field, value, [], fits, by rw [List.append_nil]; exact (IsPhrase.of_isToken isToken).line⟩

/-- A line in which a list of VLANs goes on. -/
def wrappedVlans (line : VlanLine) : SwitchportLine :=
  .other {
    text := List.replicate 5 ' ' ++ line.text
    plain := by
      intro here
      rcases List.mem_append.mp here with blank | here
      · exact absurd (List.mem_replicate.mp blank).2 (by decide)
      · exact (IsPhrase.of_isToken line.isToken_text).line here
    unlabelled := by
      intro field
      have blank : parts field.label (List.replicate 5 ' ') = true := by cases field <;> decide +kernel
      exact not_begins_of_parts blank line.text }

/-- What is printed of a list of VLANs. -/
def AllowedVlans.lines (allowed : AllowedVlans) : List SwitchportLine :=
  wordLine .allowedVlans allowed.firstText allowed.isToken_firstText
    ⟨.of_isToken allowed.isToken_firstText, fun _ none => absurd none List.not_mem_nil⟩ ::
  allowed.furtherLines.map wrappedVlans

/-- What is printed of a port: its name, and lines among which its list of VLANs stands, if it has one. -/
structure SwitchportBlock where
  name : Text
  isToken : IsToken name
  before : List SwitchportLine
  allowed : Option AllowedVlans
  after : List SwitchportLine
  apart : ∀ line ∈ before ++ after, line.found .name = none ∧ line.found .allowedVlans = none

namespace SwitchportBlock

variable (block : SwitchportBlock)

def nameLine : SwitchportLine := wordLine .name block.name block.isToken ⟨block.isToken, fun _ none => by cases none⟩

/-- The lines after the name. -/
def furtherLines : List SwitchportLine :=
  block.before ++ ((block.allowed.map AllowedVlans.lines).getD [] ++ block.after)

def lines : List SwitchportLine := block.nameLine :: block.furtherLines

/-- What the first line says that says something of the field. -/
def field (field : SwitchportField) : Option Text := block.lines.findSome? (SwitchportLine.found field)

/-- The block as lines of text. -/
def printed : Block := ⟨block.nameLine.text, block.furtherLines.map SwitchportLine.text⟩

/-- What is read of the block. -/
def item : Switchport where
  name := block.name
  switchport := (block.field .switchport).map fun value => value.lower == ("enabled" : Text)
  mode := switchportMode ((block.field .switchport).map fun value => value.lower == ("enabled" : Text))
    (block.field .operationalMode) (block.field .administrativeMode)
  accessVlan := (block.field .accessVlan).bind toInt
  nativeVlan := (block.field .nativeVlan).bind toInt
  allowedVlans := (block.allowed.map AllowedVlans.kept).getD []

theorem field_name : block.field .name = some block.name := rfl

theorem field_allowedVlans : block.field .allowedVlans = block.allowed.map AllowedVlans.firstText := by
  have other : ∀ lines : List SwitchportLine, (∀ line ∈ lines, line ∈ block.before ++ block.after) →
      lines.findSome? (SwitchportLine.found .allowedVlans) = none := by
    intro lines known
    rw [List.findSome?_eq_none_iff]
    exact fun line here => (block.apart line (known line here)).2
  have before := other block.before fun _ => List.mem_append_left _
  have after := other block.after fun _ => List.mem_append_right _
  rw [field, lines, List.findSome?_cons]
  show block.furtherLines.findSome? _ = _
  rw [furtherLines, List.findSome?_append, List.findSome?_append, before, after, Option.none_or, Option.or_none]
  cases block.allowed with
  | none => rfl
  | some allowed => rfl

/-- A number of a field is read. -/
theorem numberOf_field {field : SwitchportField} (numeric : field = .accessVlan ∨ field = .nativeVlan) :
    numberOf (block.field field) = .ok ((block.field field).bind toInt) := by
  cases found : block.field field with
  | none => rfl
  | some value =>
    obtain ⟨line, -, given⟩ := List.exists_of_findSome?_eq_some found
    have number : ∃ vlan ≤ 4094, value = Text.ofNat vlan := by
      cases line with
      | other line => cases given
      | labelled line =>
        rw [SwitchportLine.found] at given
        split at given
        · next same =>
          obtain rfl := Option.some.inj given
          have fits := line.fits
          rw [same] at fits
          rcases numeric with rfl | rfl
          · exact fits.1
          · exact fits.1
        · cases given
    obtain ⟨vlan, small, rfl⟩ := number
    rw [numberOf, Option.bind_some, toInt_ofNat (VlanItem.short small)]

theorem read_field : Switchport.read block.name block.field = .ok block.item := by
  have allowed : vlansOf (block.field .allowedVlans) = .ok ((block.allowed.map AllowedVlans.kept).getD []) := by
    rw [field_allowedVlans]
    cases block.allowed with
    | none => rfl
    | some allowed => exact allowed.parseVlanList_firstText
  rw [Switchport.read, block.numberOf_field (.inl rfl), block.numberOf_field (.inr rfl), allowed]
  rfl

/-- Only the first line tells a name. -/
theorem found_name_of_mem_furtherLines {line : SwitchportLine} (h : line ∈ block.furtherLines) :
    line.found .name = none := by
  rcases List.mem_append.mp h with before | h
  · exact (block.apart line (List.mem_append_left _ before)).1
  · rcases List.mem_append.mp h with allowed | after
    · cases list : block.allowed with
      | none =>
        rw [list] at allowed
        cases allowed
      | some vlans =>
        rw [list] at allowed
        rcases List.mem_cons.mp allowed with rfl | further
        · rfl
        · obtain ⟨wrapped, -, rfl⟩ := List.mem_map.mp further
          rfl
    · exact (block.apart line (List.mem_append_right _ after)).1

/-- The lines of a block are those that its name begins. -/
theorem headed : block.printed.Headed (.seq (litIgnoringCase "Name:") (.star true space)) where
  plain := by
    intro line here
    have known : line ∈ block.lines.map SwitchportLine.text := here
    obtain ⟨line, -, rfl⟩ := List.mem_map.mp known
    exact line.plain
  head := by
    intro seen rest
    have head : block.printed.head ++ '\n' :: rest =
        SwitchportField.name.label ++ (' ' :: (block.name ++ '\n' :: rest)) := by
      show (SwitchportField.name.label ++ ' ' :: (block.name ++ [])) ++ '\n' :: rest = _
      simp
    rw [head, results_eq_runs, runs_seq, show ("Name:" : Text) = SwitchportField.name.label from rfl,
      runs_lit_of_spells SwitchportField.name.spells_label, ← results_eq_runs]
    exact results_star_ne_nil true _
  others := by
    intro line here
    obtain ⟨line, known, rfl⟩ := List.mem_map.mp here
    exact line.finds_none_of_name (block.found_name_of_mem_furtherLines known)

theorem text_printed : block.printed.text = unlines (block.lines.map SwitchportLine.text) := rfl

/-- One block is read as its item. -/
theorem readSwitchport_text (result : Dict Text Switchport) :
    readSwitchport result block.printed.text = .ok (Dict.set result block.name block.item) := by
  have found : fieldOf block.printed.text = block.field := by
    funext field
    rw [text_printed, fieldOf_unlines, SwitchportBlock.field]
  rw [readSwitchport, found, field_name]
  dsimp only
  rw [read_field]
  rfl

end SwitchportBlock

/-! ## The whole output -/

/-- The output: blocks, after lines that belong to none. -/
structure SwitchportOutput where
  before : List OtherLine
  blocks : List SwitchportBlock

namespace SwitchportOutput

variable (output : SwitchportOutput)

def text : Text := unlines (output.before.map (·.text)) ++ output.blocks.flatMap fun block => block.printed.text

/-- **What is read of the output**: the item of each block, under its name. -/
theorem parseSwitchports_text :
    parseSwitchports output.text = .ok (Dict.ofList (output.blocks.map fun block => (block.name, block.item))) := by
  have cuts : cut switchportStart output.text =
      unlines (output.before.map (·.text)) :: (output.blocks.map (·.printed)).map Block.text := by
    have whole : output.text =
        unlines (output.before.map (·.text)) ++ (output.blocks.map (·.printed)).flatMap Block.text := by
      rw [List.flatMap_map]
      rfl
    rw [whole, switchportStart, cut_blocks]
    · rw [List.forall_mem_map]
      exact fun line _ => line.plain
    · rw [List.forall_mem_map]
      exact fun line _ => SwitchportLine.finds_none_of_name (.other line) rfl
    · rw [List.forall_mem_map]
      exact fun block _ => block.headed
    · intro seen
      rw [results_eq_runs, runs_seq]
      exact runs_lit_nil SwitchportField.name.label_ne_nil
  have none : fieldOf (unlines (output.before.map (·.text))) .name = none := by
    have found := fieldOf_unlines (output.before.map .other) .name
    rw [List.map_map, List.findSome?_map] at found
    exact found.trans (List.findSome?_eq_none_iff.mpr fun _ _ => rfl)
  have blocks : ∀ result, (output.blocks.map (·.printed.text)).foldlM readSwitchport result =
      .ok ((output.blocks.map fun block => (block.name, block.item)).foldl
        (fun result entry => Dict.set result entry.1 entry.2) result) := by
    induction output.blocks with
    | nil => exact fun result => rfl
    | cons block blocks ih =>
      intro result
      rw [List.map_cons, List.foldlM_cons, block.readSwitchport_text, List.map_cons, List.foldl_cons]
      exact ih _
  rw [parseSwitchports, cuts, List.foldlM_cons, readSwitchport, none, List.map_map]
  exact blocks []

end SwitchportOutput

end SwitchOps
