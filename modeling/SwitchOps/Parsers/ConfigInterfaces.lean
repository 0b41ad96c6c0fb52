import SwitchOps.Lib.Blocks
import SwitchOps.Lib.Dict
import SwitchOps.Operations
import SwitchOps.Parsers.VlanLists

/-!
# Interfaces of a configuration

What `parse_running_config` makes of the interfaces, as far as their trunk and mode lines go, and the configuration as
IOS prints it: a section for each interface, up to a line with an exclamation mark, in which a long list of VLANs takes
several lines. Of these the first is read (`configInterfaces_text`).
-/

namespace SwitchOps

open Regex Text

/-! ## `parse_running_config` -/

/-- `^interface\s+(\S+)\s*$\n(?P<body>.*?)(?=^!\s*$|^interface\s+|\Z)`, with the flags `MULTILINE`, `DOTALL` and
`IGNORECASE`. -/
def interfaceSection : Regex :=
  .seq lineStart (.seq (litIgnoringCase "interface") (.seq (plus space) (.seq (.group 1 (plus nonSpace))
    (.seq blankToEnd (.seq (.chr (· == '\n')) (.seq (.group 2 (.star false (.chr fun _ => true))) (.ahead blockEnd)))))))

/-- `(?:\s+add)?\s+(.+?)\s*$` -/
def allowedVlansTail : Regex :=
  .seq (opt (.seq (plus space) (litIgnoringCase "add"))) (.seq (plus space) phrase)

/-- `^\s*switchport trunk allowed vlan(?:\s+add)?\s+(.+?)\s*$` -/
def allowedVlansLine : Regex := .seq lineStart (indented "switchport trunk allowed vlan" allowedVlansTail)

/-- `access|trunk|dynamic\s+\S+` -/
def modeValue : Regex :=
  alts [litIgnoringCase "access", litIgnoringCase "trunk",
    .seq (litIgnoringCase "dynamic") (.seq (plus space) (plus nonSpace))]

/-- `^\s*switchport mode\s+(access|trunk|dynamic\s+\S+)\s*$` -/
def modeLine : Regex :=
  .seq lineStart (indented "switchport mode" (.seq (plus space) (.seq (.group 1 modeValue) blankToEnd)))

/-- `^\s*no switchport\s*$` -/
def routedLine : Regex := .seq lineStart (indented "no switchport" blankToEnd)

/-- The policy of an interface, as far as it is used of a trunk. -/
structure ConfigInterface where
  allowedVlans : Option Text
  mode : Option Text
  deriving DecidableEq, Repr

/-- `item["mode"]` -/
def configMode (body : Text) : Option Text :=
  match (search modeLine body).bind (·.group 1) with
  | some mode => some (replace (upper mode) " " "_")
  | none => if (search routedLine body).isSome then some "ROUTED" else none

def ConfigInterface.read (body : Text) : ConfigInterface where
  allowedVlans := (search allowedVlansLine body).bind (·.group 1)
  mode := configMode body

/-- `parse_running_config(text)["interfaces"]` -/
def configInterfaces (text : Text) : Dict Text ConfigInterface :=
  (finditer interfaceSection text).foldl (fun result m =>
    Dict.set result ((m.group 1).getD []) (ConfigInterface.read ((m.group 2).getD []))) []

/-! ## The configuration -/

inductive PortMode
  | access
  | trunk
  | dynamic (word : Text) (isToken : IsToken word)

def PortMode.text : PortMode → Text
  | access => "access"
  | trunk => "trunk"
  | dynamic word _ => "dynamic " ++ word

/-- A line of a section, after the blank that begins it. -/
inductive BodyLine
  | allowed (adds : Bool) (value : Text) (isToken : IsToken value) (apart : parts "add" value = true)
  | mode (mode : PortMode)
  | routed
  | other (content : Text) (plain : '\n' ∉ content) (visible : ∃ c ∈ content.head?, isSpace c = false)
    (apart : ∀ keyword ∈ (["switchport trunk allowed vlan", "switchport mode", "no switchport"] : List String).map
      String.toList, begins keyword content = false)

/-- What a further line of a list has before it. -/
def adding (adds : Bool) : Text := if adds then " add" else []

namespace BodyLine

def content : BodyLine → Text
  | allowed adds value _ _ => "switchport trunk allowed vlan" ++ (adding adds ++ (" " ++ value))
  | mode value => "switchport mode" ++ (" " ++ value.text)
  | routed => "no switchport"
  | other content _ _ _ => content

def text (line : BodyLine) : Text := [' '] ++ line.content

/-- The VLANs that the line lists. -/
def vlans : BodyLine → Option Text
  | allowed _ value _ _ => some value
  | mode _ | routed | other _ _ _ _ => none

def portMode : BodyLine → Option Text
  | mode value => some value.text
  | allowed _ _ _ _ | routed | other _ _ _ _ => none

end BodyLine

/-! ## Lines -/

namespace BodyLine

theorem not_begins_of_ne {keyword keyword' : Text} {content : Text} (h : parts keyword keyword' = true) :
    begins keyword (keyword' ++ content) = false := not_begins_of_parts h content

variable (line : BodyLine)

theorem visible_content : ∃ c ∈ line.content.head?, isSpace c = false := by
  cases line with
  | allowed adds value isToken apart => exact ⟨'s', rfl, by decide⟩
  | mode value => exact ⟨'s', rfl, by decide⟩
  | routed => exact ⟨'n', rfl, by decide⟩
  | other content plain visible apart => exact visible

theorem plain_modeText (mode : PortMode) : '\n' ∉ mode.text := by
  cases mode with
  | access => decide
  | trunk => decide
  | dynamic word isToken =>
    show '\n' ∉ ("dynamic " ++ word : Text)
    rw [List.mem_append]
    rintro (here | here)
    · exact absurd here (by decide)
    · exact (IsPhrase.of_isToken isToken).line here

theorem plain : '\n' ∉ line.text := by
  rw [text, List.singleton_append, List.mem_cons, not_or]
  refine ⟨by decide, ?_⟩
  cases line with
  | allowed adds value isToken apart =>
    show '\n' ∉ ("switchport trunk allowed vlan" ++ (adding adds ++ (" " ++ value)) : Text)
    rw [List.mem_append, List.mem_append, List.mem_append]
    rintro (here | here | here | here)
    · exact absurd here (by decide)
    · exact absurd here (by cases adds <;> decide)
    · exact absurd here (by decide)
    · exact (IsPhrase.of_isToken isToken).line here
  | mode value =>
    show '\n' ∉ ("switchport mode" ++ (" " ++ value.text) : Text)
    rw [List.mem_append, List.mem_append]
    rintro (here | here | here)
    · exact absurd here (by decide)
    · exact absurd here (by decide)
    · exact plain_modeText value here
  | routed => decide
  | other content plain visible apart => exact plain

theorem finds_phrase_after_blank {value : Text} (isToken : IsToken value) :
    Finds (.seq (plus space) phrase) (" " ++ value) (some value) := by
  intro seen rest
  have found := finds_phrase (t := []) (IsPhrase.of_isToken isToken) (fun _ none => absurd none List.not_mem_nil)
  obtain ⟨m, head, group⟩ := Option.map_eq_some_iff.mp (found (' ' :: seen) rest)
  rw [List.append_nil] at head
  apply Option.map_eq_some_iff.mpr
  refine ⟨m, ?_, group⟩
  rw [results_eq_runs, runs_seq, List.append_assoc]
  apply head?_runs_plus
  · decide
  · decide
  · obtain ⟨c, first, visible⟩ := (IsPhrase.of_isToken isToken).first
    intro d here
    rw [List.head?_append_of_ne_nil _ isToken.ne_nil] at here
    rw [Option.mem_unique here first]
    exact visible
  · rw [← results_eq_runs]
    exact head

/-- The list is found with `add` and without. -/
theorem finds_allowedVlansTail (adds : Bool) {value : Text} (isToken : IsToken value) (apart : parts "add" value = true) :
    Finds allowedVlansTail (adding adds ++ (" " ++ value)) (some value) := by
  have blank : ∀ c ∈ [' '], isSpace c = true := by decide
  have refuses : ∀ k : Cursor → List Cursor, Refuses (runs (litIgnoringCase "add") k) isSpace :=
    fun k => refuses_lit ⟨'a', rfl, by decide⟩
  have visible : ∀ more, ∀ c ∈ (value ++ more).head?, isSpace c = false := by
    obtain ⟨c, first, visible⟩ := (IsPhrase.of_isToken isToken).first
    intro more d here
    rw [List.head?_append_of_ne_nil _ isToken.ne_nil] at here
    rw [Option.mem_unique here first]
    exact visible
  intro seen rest
  rw [allowedVlansTail, results_eq_runs, runs_seq, runs_opt, runs_seq]
  apply Option.map_eq_some_iff.mpr
  cases adds with
  | false =>
    -- the blank is read, but no `add` follows
    have none : ∀ k, runs (plus space) (runs (litIgnoringCase "add") k) ⟨seen, " " ++ value ++ '\n' :: rest, []⟩ = [] := by
      intro k
      rw [List.append_assoc]
      exact (runs_plus (refuses k) blank (List.cons_ne_nil _ _) (visible _)).trans (runs_lit_of_parts apart _ _)
    obtain ⟨m, head, group⟩ := Option.map_eq_some_iff.mp (finds_phrase_after_blank isToken seen rest)
    refine ⟨m, ?_, group⟩
    rw [show adding false = [] from rfl, List.nil_append, none, List.nil_append, ← results_eq_runs]
    exact head
  | true =>
    obtain ⟨m, head, group⟩ := Option.map_eq_some_iff.mp
      (finds_phrase_after_blank isToken (("add" : Text).reverse ++ ([' '].reverse ++ seen)) rest)
    refine ⟨m, ?_, group⟩
    have read : ∀ k, runs (plus space) (runs (litIgnoringCase "add") k)
        ⟨seen, adding true ++ (" " ++ value) ++ '\n' :: rest, []⟩ =
        k ⟨("add" : Text).reverse ++ ([' '].reverse ++ seen), " " ++ value ++ '\n' :: rest, []⟩ := by
      intro k
      have stop : ∀ c ∈ (("add" : Text) ++ (" " ++ value ++ '\n' :: rest)).head?, isSpace c = false := by
        intro c here
        rw [← Option.some.inj here]
        decide
      exact (runs_plus (refuses k) blank (List.cons_ne_nil _ _) stop).trans (runs_lit_of_spells (by decide +kernel) _ _)
    rw [read, List.head?_append, ← results_eq_runs, head]
    rfl

/-- The mode is read up to the end of the line. -/
theorem head?_runs_modeValue (value : PortMode) {k : Cursor → List Cursor} {seen rest : Text}
    {groups : List (Nat × Text)} {m : Cursor}
    (found : (k ⟨value.text.reverse ++ seen, '\n' :: rest, groups⟩).head? = some m) :
    (runs modeValue k ⟨seen, value.text ++ '\n' :: rest, groups⟩).head? = some m := by
  cases value with
  | access =>
    have spelled : spells "access" PortMode.access.text = true := by decide +kernel
    rw [modeValue, runs_alts_cons, runs_lit_of_spells spelled, List.head?_append, found]
    rfl
  | trunk =>
    have parted : parts "access" PortMode.trunk.text = true := by decide +kernel
    have spelled : spells "trunk" PortMode.trunk.text = true := by decide +kernel
    rw [modeValue, runs_alts_cons, runs_lit_of_parts parted, List.nil_append, runs_alts_cons,
      runs_lit_of_spells spelled, List.head?_append, found]
    rfl
  | dynamic word isToken =>
    have text : (PortMode.dynamic word isToken).text = ("dynamic" : Text) ++ ([' '] ++ word) := rfl
    have newline : ∀ c ∈ ('\n' :: rest).head?, (!isSpace c) = false := by
      intro c here
      rw [← Option.some.inj here]
      decide
    have visible : ∀ c ∈ (word ++ '\n' :: rest).head?, isSpace c = false := by
      intro c here
      rw [List.head?_append_of_ne_nil _ isToken.ne_nil] at here
      exact isToken.solid c (List.mem_of_head? here)
    have solid : ∀ c ∈ word, (!isSpace c) = true := by
      intro c here
      rw [isToken.solid c here]
      rfl
    rw [text, List.reverse_append, List.reverse_append, List.append_assoc, List.append_assoc] at found
    rw [text, List.append_assoc, List.append_assoc, modeValue, runs_alts_cons, runs_lit_of_parts (by decide +kernel),
      List.nil_append, runs_alts_cons, runs_lit_of_parts (by decide +kernel), List.nil_append, alts, runs_seq,
      runs_lit_of_spells (by decide +kernel), runs_seq]
    apply head?_runs_plus (by decide) (List.cons_ne_nil _ _) visible
    exact head?_runs_plus solid isToken.ne_nil newline found

theorem visible_modeText (value : PortMode) : ∃ c ∈ value.text.head?, isSpace c = false := by
  cases value with
  | access => exact ⟨'a', by decide, by decide⟩
  | trunk => exact ⟨'t', by decide, by decide⟩
  | dynamic word isToken => exact ⟨'d', rfl, by decide⟩

/-- The mode is found. -/
theorem finds_modeTail (value : PortMode) :
    Finds (.seq (plus space) (.seq (.group 1 modeValue) blankToEnd)) (" " ++ value.text) (some value.text) := by
  intro seen rest
  obtain ⟨m, head, groups⟩ := head?_results_blankToEnd (t := []) (fun _ none => absurd none List.not_mem_nil)
    (value.text.reverse ++ ([' '].reverse ++ seen)) rest [(1, value.text)]
  have visible : ∀ c ∈ (value.text ++ '\n' :: rest).head?, isSpace c = false := by
    obtain ⟨c, first, visible⟩ := visible_modeText value
    obtain ⟨more, same⟩ := List.head?_eq_some_iff.mp first
    intro d here
    rw [same] at here
    rw [← Option.some.inj here]
    exact visible
  apply Option.map_eq_some_iff.mpr
  refine ⟨m, ?_, ?_⟩
  · rw [results_eq_runs, runs_seq, List.append_assoc]
    apply head?_runs_plus (by decide) (by decide) visible
    rw [runs_seq, runs_group]
    apply head?_runs_modeValue
    rw [captured_append, ← results_eq_runs]
    exact head
  · rw [Cursor.group, groups]
    rfl

/-! ### Sections -/

theorem blank_indent : ∀ c ∈ [' '], isSpace c = true := by decide

/-- A line of another keyword gives nothing. -/
theorem finds_none {keyword : Text} {tail : Regex} (plain : ∃ a ∈ keyword.head?, isKeywordChar a = true)
    (label : keyword.all fun a => !sameIgnoringCase a '\n') (h : begins keyword line.content = false) :
    Finds (indented keyword tail) line.text none :=
  finds_indented_none plain label blank_indent line.visible_content h

/-- The list that a line gives. -/
theorem finds_allowedVlans : Finds (indented "switchport trunk allowed vlan" allowedVlansTail) line.text line.vlans := by
  have plain : ∃ a ∈ ("switchport trunk allowed vlan" : Text).head?, isKeywordChar a = true :=
    ⟨'s', by decide, by decide⟩
  have label : ("switchport trunk allowed vlan" : Text).all fun a => !sameIgnoringCase a '\n' := by decide +kernel
  cases line with
  | allowed adds value isToken apart =>
    apply finds_indented plain blank_indent
    · exact ⟨'s', rfl, by decide⟩
    · decide +kernel
    · exact finds_allowedVlansTail adds isToken apart
  | mode value =>
    apply finds_none _ plain label
    exact not_begins_of_parts (by decide +kernel) _
  | routed =>
    apply finds_none _ plain label
    decide +kernel
  | other content plain_ visible apart =>
    apply finds_none _ plain label
    exact apart _ (by simp)

/-- The mode that a line gives. -/
theorem finds_mode : Finds (indented "switchport mode" (.seq (plus space) (.seq (.group 1 modeValue) blankToEnd)))
    line.text line.portMode := by
  have plain : ∃ a ∈ ("switchport mode" : Text).head?, isKeywordChar a = true := ⟨'s', by decide, by decide⟩
  have label : ("switchport mode" : Text).all fun a => !sameIgnoringCase a '\n' := by decide +kernel
  cases line with
  | allowed adds value isToken apart =>
    apply finds_none _ plain label
    exact not_begins_of_parts (by decide +kernel) _
  | mode value =>
    apply finds_indented plain blank_indent
    · exact ⟨'s', rfl, by decide⟩
    · decide +kernel
    · exact finds_modeTail value
  | routed =>
    apply finds_none _ plain label
    decide +kernel
  | other content plain_ visible apart =>
    apply finds_none _ plain label
    exact apart _ (by simp)

end BodyLine

/-! ## Sections -/

theorem sameIgnoringCase_digit {c : Char} (h : c.isDigit = true) : sameIgnoringCase 'a' c = false := by
  rw [← Bool.not_eq_true]
  intro same
  have key := (keyOf_eq (show isKeywordChar 'a' = true by decide) same).1
  obtain ⟨low, high⟩ := toNat_of_isDigit h
  rw [keyOf, if_neg (by omega), if_neg (by omega), if_neg (by omega), lowerChar_of_isDigit h] at key
  obtain rfl : c = 'a' := key
  exact absurd h (by decide)

namespace VlanLine

theorem parts_add (line : VlanLine) : parts "add" line.text = true := by
  obtain ⟨c, rest, whole, digit⟩ := line.exists_text
  rw [whole, show ("add" : Text) = 'a' :: "dd" by decide, parts, sameIgnoringCase_digit digit]
  rfl

/-- A line of a section that lists VLANs. -/
def bodyLine (adds : Bool) (line : VlanLine) : BodyLine := .allowed adds line.text line.isToken_text line.parts_add

end VlanLine

namespace AllowedVlans

theorem isToken_none : IsToken ("none" : Text) := ⟨by decide, by decide⟩

theorem parts_add_none : parts ("add" : Text) ("none" : Text) = true := by decide +kernel

/-- What is printed of the list: nothing, if all VLANs are allowed. -/
def bodyLines : AllowedVlans → List BodyLine
  | all => []
  | none => [.allowed false "none" isToken_none parts_add_none]
  | listed first further => first.bodyLine false :: further.map (VlanLine.bodyLine true)

/-- What the first line of it lists. -/
def configText : AllowedVlans → Option Text
  | all => .none
  | none => some "none"
  | listed first _ => some first.text

/-- What is listed there is read as what is kept. -/
theorem parseVlanList_configText {allowed : AllowedVlans} {text : Text} (h : allowed.configText = some text) :
    parseVlanList text = .ok allowed.kept := by
  cases allowed with
  | all => cases h
  | none =>
    obtain rfl := Option.some.inj h
    decide +kernel
  | listed first further =>
    obtain rfl := Option.some.inj h
    exact first.parseVlanList_text

/-- Where nothing is listed, nothing is kept. -/
theorem kept_of_configText {allowed : AllowedVlans} (h : allowed.configText = .none) : allowed.kept = [] := by
  cases allowed with
  | all => rfl
  | none => cases h
  | listed first further => cases h

theorem findSome?_bodyLines (allowed : AllowedVlans) : allowed.bodyLines.findSome? BodyLine.vlans = allowed.configText := by
  cases allowed with
  | all => rfl
  | none => rfl
  | listed first further => rfl

end AllowedVlans

/-- What is printed of an interface: lines among which its list of VLANs stands. -/
structure ConfigSection where
  name : Text
  isToken : IsToken name
  before : List BodyLine
  allowed : AllowedVlans
  after : List BodyLine
  apart : ∀ line ∈ before ++ after, line.vlans = none

namespace ConfigSection

variable (section_ : ConfigSection)

def lines : List BodyLine := section_.before ++ (section_.allowed.bodyLines ++ section_.after)

def body : Text := unlines (section_.lines.map BodyLine.text)

def text : Text := "interface" ++ ([' '] ++ (section_.name ++ '\n' :: (section_.body ++ ['!', '\n'])))

/-- The first line of the list is read. -/
theorem allowedVlans_read : (ConfigInterface.read section_.body).allowedVlans = section_.allowed.configText := by
  have pairs : section_.lines.map BodyLine.text = (section_.lines.map fun line => (line.text, line.vlans)).map (·.1) := by
    rw [List.map_map]
    rfl
  have other : ∀ lines : List BodyLine, (∀ line ∈ lines, line ∈ section_.before ++ section_.after) →
      lines.findSome? BodyLine.vlans = none := by
    intro lines known
    rw [List.findSome?_eq_none_iff]
    exact fun line here => section_.apart line (known line here)
  have before := other section_.before fun _ => List.mem_append_left _
  have after := other section_.after fun _ => List.mem_append_right _
  have found : (search allowedVlansLine section_.body).bind (·.group 1) = section_.lines.findSome? BodyLine.vlans := by
    rw [allowedVlansLine, body, pairs, search_unlines]
    · rw [List.findSome?_map]
      rfl
    · rw [List.forall_mem_map]
      exact fun line _ => line.plain
    · rw [List.forall_mem_map]
      exact fun line _ => line.finds_allowedVlans
    · exact results_indented_nil (by decide)
  rw [ConfigInterface.read, found, lines, List.findSome?_append, List.findSome?_append, before, after, Option.none_or,
    Option.or_none, AllowedVlans.findSome?_bodyLines]

/-- The mode that is configured. -/
def portMode : Option Text := section_.lines.findSome? BodyLine.portMode

theorem search_modeLine : (search modeLine section_.body).bind (·.group 1) = section_.portMode := by
  have pairs : section_.lines.map BodyLine.text =
      (section_.lines.map fun line => (line.text, line.portMode)).map (·.1) := by
    rw [List.map_map]
    rfl
  rw [modeLine, body, pairs, search_unlines]
  · rw [List.findSome?_map]
    rfl
  · rw [List.forall_mem_map]
    exact fun line _ => line.plain
  · rw [List.forall_mem_map]
    exact fun line _ => line.finds_mode
  · exact results_indented_nil (by decide)

/-- A mode that is configured is read. -/
theorem mode_read {mode : Text} (h : section_.portMode = some mode) :
    (ConfigInterface.read section_.body).mode = some (replace (upper mode) " " "_") := by
  rw [ConfigInterface.read, configMode, search_modeLine, h]

/-- Where none is configured, and the port is not a routed one, none is read. -/
theorem mode_read_none (h : section_.portMode = none) (switched : .routed ∉ section_.lines) :
    (ConfigInterface.read section_.body).mode = none := by
  have none : search routedLine section_.body = none := by
    rw [routedLine, body, search_unlines_eq_none]
    · rw [List.forall_mem_map]
      exact fun line _ => line.plain
    · rw [List.forall_mem_map]
      intro line here
      have plain : ∃ a ∈ ("no switchport" : Text).head?, isKeywordChar a = true := ⟨'n', by decide, by decide⟩
      have label : ("no switchport" : Text).all fun a => !sameIgnoringCase a '\n' := by decide +kernel
      apply line.finds_none plain label
      cases line with
      | allowed adds value isToken apart => exact not_begins_of_parts (by decide +kernel) _
      | mode value => exact not_begins_of_parts (by decide +kernel) _
      | routed => exact absurd here switched
      | other content plain_ visible apart => exact apart _ (by simp)
    · exact results_indented_nil (by decide)
  rw [ConfigInterface.read, configMode, search_modeLine, h, none]
  rfl

end ConfigSection

/-! ## Finding the sections -/

/-- No line begins after a text that has no newline. -/
theorem not_atLine_append {u seen : Text} (some_ : u ≠ []) (line : '\n' ∉ u) : ¬AtLine (u.reverse ++ seen) := by
  intro start
  cases reversed : u.reverse with
  | nil => exact some_ (List.reverse_eq_nil_iff.mp reversed)
  | cons c more =>
    have newline : c = '\n' := start c (by rw [reversed]; rfl)
    apply line
    rw [← newline, ← List.mem_reverse, reversed]
    exact List.mem_cons_self

/-- Where a line begins within lines that are indented, a blank stands. -/
theorem head?_of_atLine_indented {lines : List Text} {seen u v : Text} (plain : ∀ line ∈ lines, '\n' ∉ line)
    (split : unlines (lines.map ([' '] ++ ·)) = u ++ v) (some_ : v ≠ []) (start : AtLine (u.reverse ++ seen)) :
    ∃ w, v = ' ' :: w := by
  induction lines generalizing seen u with
  | nil => exact absurd (List.append_eq_nil_iff.mp split.symm).2 some_
  | cons line lines ih =>
    rw [List.forall_mem_cons] at plain
    have first : unlines ((line :: lines).map ([' '] ++ ·)) =
        (' ' :: line) ++ '\n' :: unlines (lines.map ([' '] ++ ·)) := by simp [unlines]
    have lineless : '\n' ∉ ' ' :: line := by
      rw [List.mem_cons, not_or]
      exact ⟨by decide, plain.1⟩
    rw [first] at split
    rcases List.append_eq_append_iff.mp split with ⟨more, rfl, tail⟩ | ⟨more, whole, rfl⟩
    · cases more with
      | nil =>
        rw [List.append_nil] at start
        exact absurd start (not_atLine_append (List.cons_ne_nil ' ' line) lineless)
      | cons c more =>
        -- the position is in a later line
        have later : AtLine (more.reverse ++ (c :: ((' ' :: line).reverse ++ seen))) := by simpa using start
        exact ih plain.2 (List.cons.inj tail).2 later
    · cases u with
      | nil =>
        rw [List.nil_append] at whole
        rw [← whole, List.cons_append]
        exact ⟨_, rfl⟩
      | cons c u =>
        rw [whole, List.mem_append, not_or] at lineless
        exact absurd start (not_atLine_append (List.cons_ne_nil c u) lineless.1)

/-- A section does not end where an indented line begins, nor within a line. -/
theorem results_blockEnd_eq_nil {seen v : Text} (some_ : v ≠ []) (indented_ : AtLine seen → ∃ w, v = ' ' :: w)
    (groups : List (Nat × Text)) : results blockEnd ⟨seen, v, groups⟩ = [] := by
  have starts : ∀ k : Cursor → List Cursor, (∀ w, k ⟨seen, ' ' :: w, groups⟩ = []) →
      runs lineStart k ⟨seen, v, groups⟩ = [] := by
    intro k refused
    by_cases start : AtLine seen
    · obtain ⟨w, rfl⟩ := indented_ start
      rw [runs_lineStart start, refused]
    · cases seen with
      | nil => exact absurd atLine_nil start
      | cons c seen =>
        apply runs_lineStart_inside
        rintro rfl
        exact start (atLine_newline seen)
  have blank : ∀ {p : Char → Bool} {w : Text}, p ' ' = false → ∀ c ∈ (' ' :: w : Text).head?, p c = false := by
    intro p w other c here
    rw [← Option.some.inj here]
    exact other
  have mark : runs (seqs [lineStart, lit "!", .star true space, lineEnd]) (fun m => [m]) ⟨seen, v, groups⟩ = [] := by
    rw [seqs, runs_seq]
    apply starts
    intro w
    rw [seqs, runs_seq, show lit "!" = .seq (.chr (· == '!')) .empty from rfl, runs_seq]
    apply runs_chr_refused
    exact blank (by decide)
  have interface_ : runs (seqs [lineStart, litIgnoringCase "interface", plus space]) (fun m => [m]) ⟨seen, v, groups⟩ =
      [] := by
    rw [seqs, runs_seq]
    apply starts
    intro w
    rw [seqs, runs_seq, show ("interface" : Text) = 'i' :: "nterface" by decide, litIgnoringCase, runs_seq]
    apply runs_chr_refused
    exact blank (by decide)
  have ended : runs textEnd (fun m => [m]) ⟨seen, v, groups⟩ = [] := by
    rw [textEnd, runs_here, if_neg]
    rwa [List.isEmpty_iff]
  rw [results_eq_runs, blockEnd, runs_alts_cons, mark, List.nil_append, runs_alts_cons, interface_, List.nil_append,
    alts, ended]

/-- It ends at a line with an exclamation mark. -/
theorem results_blockEnd_ne_nil {seen : Text} (start : AtLine seen) (rest : Text) (groups : List (Nat × Text)) :
    results blockEnd ⟨seen, '!' :: '\n' :: rest, groups⟩ ≠ [] := by
  obtain ⟨m, head, -⟩ := head?_results_blankToEnd (t := []) (fun _ none => absurd none List.not_mem_nil)
    ('!' :: seen) rest groups
  have mark : runs (seqs [lineStart, lit "!", .star true space, lineEnd]) (fun m => [m])
      ⟨seen, '!' :: '\n' :: rest, groups⟩ = results blankToEnd ⟨'!' :: seen, '\n' :: rest, groups⟩ := by
    rw [seqs, runs_seq, runs_lineStart start, seqs, runs_seq, show lit "!" = .seq (.chr (· == '!')) .empty from rfl,
      runs_seq, runs_chr_cons (p := (· == '!')) (by decide), runs_empty, seqs, runs_seq, seqs, runs_seq, seqs, runs_empty,
      blankToEnd, results_eq_runs, runs_seq]
  rw [results_eq_runs, blockEnd, runs_alts_cons, mark]
  apply List.append_ne_nil_of_left_ne_nil
  exact List.ne_nil_of_mem (List.mem_of_head? head)

/-- The body of a section is read up to the exclamation mark. -/
theorem head?_runs_body {lines : List Text} {seen : Text} (start : AtLine seen) (plain : ∀ line ∈ lines, '\n' ∉ line)
    (rest : Text) (groups : List (Nat × Text)) :
    (results (.seq (.group 2 (.star false (.chr fun _ => true))) (.ahead blockEnd))
      ⟨seen, unlines (lines.map ([' '] ++ ·)) ++ '!' :: '\n' :: rest, groups⟩).head? =
      some ⟨(unlines (lines.map ([' '] ++ ·))).reverse ++ seen, '!' :: '\n' :: rest,
        (2, unlines (lines.map ([' '] ++ ·))) :: groups⟩ := by
  rw [results_eq_runs, runs_seq, runs_group]
  apply head?_runs_lazy
  · exact fun _ _ => rfl
  · intro u v split more
    have none : ∀ groups, results blockEnd ⟨u.reverse ++ seen, v ++ '!' :: '\n' :: rest, groups⟩ = [] := by
      apply results_blockEnd_eq_nil (List.append_ne_nil_of_left_ne_nil more _)
      intro begins_
      obtain ⟨w, rfl⟩ := head?_of_atLine_indented plain split more begins_
      exact ⟨_, rfl⟩
    dsimp only
    rw [runs, results_ahead_none (none _)]
    rfl
  · have ends : ∀ groups, results (.ahead blockEnd)
        ⟨(unlines (lines.map ([' '] ++ ·))).reverse ++ seen, '!' :: '\n' :: rest, groups⟩ =
        [⟨(unlines (lines.map ([' '] ++ ·))).reverse ++ seen, '!' :: '\n' :: rest, groups⟩] := by
      intro groups
      have some_ := results_blockEnd_ne_nil
        (atLine_unlines start : AtLine ((unlines (lines.map ([' '] ++ ·))).reverse ++ seen)) rest groups
      rw [results, if_neg]
      rwa [List.isEmpty_iff]
    dsimp only
    rw [captured_append, ← results_eq_runs, ends]
    rfl

/-! ## The whole configuration -/

/-- A line that belongs to no interface, or a section. -/
inductive ConfigEntry
  | line (text : Text) (plain : '\n' ∉ text) (apart : begins "interface" text = false)
  | interface (section_ : ConfigSection)

def ConfigEntry.text : ConfigEntry → Text
  | line text _ _ => text ++ ['\n']
  | interface section_ => section_.text

def ConfigEntry.section? : ConfigEntry → Option ConfigSection
  | line _ _ _ => none
  | interface section_ => some section_

/-- What is read of a section. -/
def ConfigSection.item (section_ : ConfigSection) : Text × ConfigInterface :=
  (section_.name, ConfigInterface.read section_.body)

namespace ConfigSection

variable (section_ : ConfigSection) {seen : Text}

theorem body_eq : section_.body = unlines ((section_.lines.map BodyLine.content).map ([' '] ++ ·)) := by
  rw [body, List.map_map]
  rfl

theorem plain_content : ∀ line ∈ section_.lines.map BodyLine.content, '\n' ∉ line := by
  rw [List.forall_mem_map]
  intro line _ here
  exact line.plain (List.mem_append_right _ here)

/-- After the name of the interface comes a line with something visible. -/
theorem exists_first_line (rest : Text) : ∃ w more, section_.body ++ '!' :: rest = w ++ more ∧ '\n' ∉ w ∧
    ∃ c ∈ w, isSpace c = false := by
  rw [body]
  cases section_.lines with
  | nil => exact ⟨['!'], rest, rfl, by decide, '!', List.mem_singleton_self _, by decide⟩
  | cons line lines =>
    obtain ⟨c, first, visible⟩ := line.visible_content
    refine ⟨line.text, '\n' :: (unlines (lines.map BodyLine.text) ++ '!' :: rest), ?_, line.plain, c, ?_, visible⟩
    · simp [unlines]
    · exact List.mem_append_right _ (List.mem_of_head? first)

/-- The section is found: its name, and its body. -/
theorem exists_results (start : AtLine seen) (rest : Text) :
    ∃ m, (results interfaceSection ⟨seen, section_.text ++ rest, []⟩).head? = some m ∧ m.rest = '!' :: '\n' :: rest ∧
      AtLine m.seen ∧ m.groups = [(2, section_.body), (1, section_.name)] := by
  have split : ∀ word : Text, word ++ ([' '] ++ (section_.name ++ '\n' :: (section_.body ++ ['!', '\n']))) ++ rest =
      word ++ ([' '] ++ (section_.name ++ '\n' :: (section_.body ++ '!' :: '\n' :: rest))) := by
    intro word
    simp
  have whole : section_.text ++ rest = ("interface" : Text) ++
      ([' '] ++ (section_.name ++ '\n' :: (section_.body ++ '!' :: '\n' :: rest))) := split _
  have spelled : spells "interface" "interface" = true := by decide +kernel
  have blank : ∀ c ∈ [' '], isSpace c = true := by decide
  have visible : ∀ more, ∀ c ∈ (section_.name ++ more).head?, isSpace c = false := by
    intro more c here
    rw [List.head?_append_of_ne_nil _ section_.isToken.ne_nil] at here
    exact section_.isToken.solid c (List.mem_of_head? here)
  have solid : ∀ c ∈ section_.name, (!isSpace c) = true := by
    intro c here
    rw [section_.isToken.solid c here]
    rfl
  have newline : ∀ more, ∀ c ∈ ('\n' :: more : Text).head?, (!isSpace c) = false := by
    intro more c here
    rw [← Option.some.inj here]
    decide
  obtain ⟨w, more, first, plain, shown⟩ := section_.exists_first_line ('\n' :: rest)
  let named : Text := section_.name.reverse ++ ([' '].reverse ++ (("interface" : Text).reverse ++ seen))
  refine ⟨⟨section_.body.reverse ++ '\n' :: named, '!' :: '\n' :: rest, [(2, section_.body), (1, section_.name)]⟩, ?_, rfl,
    atLine_unlines (atLine_newline named), rfl⟩
  rw [whole, interfaceSection, results_eq_runs, runs_seq, runs_lineStart start, runs_seq, runs_lit_of_spells spelled,
    runs_seq]
  apply head?_runs_plus blank (List.cons_ne_nil _ _) (visible _)
  rw [runs_seq]
  apply head?_runs_group_plus 1 solid section_.isToken.ne_nil (newline _)
  rw [runs_seq, first, runs_blankToEnd_newline plain shown, runs_seq,
    runs_chr_cons (p := (· == '\n')) (beq_self_eq_true '\n'), ← first, body_eq, ← results_eq_runs]
  exact head?_runs_body (atLine_newline _) section_.plain_content rest _

/-- The line that ends a section begins none. -/
theorem scan_mark {seen : Text} (start : AtLine seen) (rest : Text) :
    scan interfaceSection seen ('!' :: '\n' :: rest) = scan interfaceSection ('\n' :: '!' :: seen) rest := by
  have line : '\n' ∉ ['!'] := by decide
  apply scan_line start line
  rw [results_eq_runs, runs_seq, show ("interface" : Text) = 'i' :: "nterface" by decide, litIgnoringCase, runs_seq]
  apply runs_chr_refused
  intro c here
  rw [← Option.some.inj here]
  decide

/-- The scan goes on after the line that ends the section. -/
theorem scan_text (start : AtLine seen) (rest : Text) :
    ∃ m, m.2.group 1 = some section_.name ∧ m.2.group 2 = some section_.body ∧ ∃ seen', AtLine seen' ∧
      scan interfaceSection seen (section_.text ++ rest) = m :: scan interfaceSection seen' rest := by
  obtain ⟨m, head, ahead, ends, groups⟩ := section_.exists_results start rest
  have reads : m.rest.length < (section_.text ++ rest).length := by
    have longer : ∀ word : Text, rest.length + 2 <
        (word ++ ([' '] ++ (section_.name ++ '\n' :: (section_.body ++ ['!', '\n']))) ++ rest).length := by
      intro word
      simp only [List.length_append, List.length_cons, List.length_nil]
      omega
    rw [ahead]
    exact longer _
  refine ⟨(⟨seen, section_.text ++ rest, []⟩, m), ?_, ?_, '\n' :: '!' :: m.seen, atLine_newline _, ?_⟩
  · rw [Cursor.group, groups]
    rfl
  · rw [Cursor.group, groups]
    rfl
  · rw [scan_of_head head reads, ahead, scan_mark ends]

end ConfigSection

/-- The sections of a configuration, in order. -/
def sectionsOf (entries : List ConfigEntry) : List ConfigSection := entries.filterMap ConfigEntry.section?

/-- Every section is found once, in order. -/
theorem scan_entries (entries : List ConfigEntry) {seen : Text} (start : AtLine seen) :
    (scan interfaceSection seen (entries.flatMap ConfigEntry.text)).map (fun m => (m.2.group 1, m.2.group 2)) =
      (sectionsOf entries).map fun section_ => (some section_.name, some section_.body) := by
  induction entries generalizing seen with
  | nil =>
    rw [List.flatMap_nil, scan_nil]
    rfl
  | cons entry entries ih =>
    rw [List.flatMap_cons]
    cases entry with
    | line text plain apart =>
      have skipped : scan interfaceSection seen (text ++ '\n' :: entries.flatMap ConfigEntry.text) =
          scan interfaceSection ('\n' :: (text.reverse ++ seen)) (entries.flatMap ConfigEntry.text) := by
        apply scan_line start plain
        rw [results_eq_runs, runs_seq]
        exact runs_lit_of_not_begins (by decide +kernel) apart _ _
      rw [ConfigEntry.text, List.append_assoc, List.singleton_append, skipped, ih (atLine_newline _)]
      rfl
    | interface section_ =>
      obtain ⟨m, name, body, seen', start', found⟩ := section_.scan_text start (entries.flatMap ConfigEntry.text)
      rw [ConfigEntry.text, found, List.map_cons, name, body, ih start']
      rfl

/-- **What is read of a configuration**: what is read of each section, under the name of its interface. -/
theorem configInterfaces_text (entries : List ConfigEntry) :
    configInterfaces (entries.flatMap ConfigEntry.text) = Dict.ofList ((sectionsOf entries).map ConfigSection.item) := by
  have found := scan_entries entries atLine_nil
  have step : ∀ (ms : List (Cursor × Cursor)) (sections : List ConfigSection) (result : Dict Text ConfigInterface),
      ms.map (fun m => (m.2.group 1, m.2.group 2)) = sections.map (fun s => (some s.name, some s.body)) →
      (ms.map (·.2)).foldl (fun result m =>
        Dict.set result ((m.group 1).getD []) (ConfigInterface.read ((m.group 2).getD []))) result =
      (sections.map ConfigSection.item).foldl (fun result entry => Dict.set result entry.1 entry.2) result := by
    intro ms
    induction ms with
    | nil =>
      intro sections result same
      rw [List.map_eq_nil_iff.mp same.symm]
      rfl
    | cons m ms ih =>
      intro sections result same
      cases sections with
      | nil => cases same
      | cons s sections =>
        rw [List.map_cons, List.map_cons] at same
        obtain ⟨first, rest⟩ := List.cons.inj same
        obtain ⟨name, body⟩ := Prod.mk.inj first
        rw [List.map_cons, List.foldl_cons, List.map_cons, List.foldl_cons, name, body]
        exact ih sections _ rest
  rw [configInterfaces, finditer_eq_scan]
  exact step _ _ [] found

end SwitchOps
