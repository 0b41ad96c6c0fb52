import SwitchOps.InterfaceNames
import SwitchOps.Lib.Records
import SwitchOps.Parsers.Discovery

/-!
# The output of `show cdp neighbors detail`

The output as IOS prints it: a record for each neighbour under a rule, of lines in any order. Some are read, the others
only may not hold one of the labels. What `parse_cdp` reads of a record is what the first line of each kind says, and
a record is a neighbour if a line names its device (`parseCdp_text`).
-/

namespace SwitchOps.Topology

open Regex Text

/-! ## Addresses -/

/-- An IPv4 address. -/
structure Quad where
  first : Fin 256
  second : Fin 256
  third : Fin 256
  fourth : Fin 256

namespace Quad

def octet (n : Fin 256) : Text := Text.ofNat n

def text (q : Quad) : Text :=
  octet q.first ++ '.' :: (octet q.second ++ '.' :: (octet q.third ++ '.' :: octet q.fourth))

section octets

variable {p : Char → Bool} {k : Cursor → List Cursor} {seen rest : Text} {groups : List (Nat × Text)}

/-- An octet is read up to where its digits end. -/
theorem head?_runs_octet (n : Fin 256) (digits : ∀ c : Char, c.isDigit = true → p c = true)
    (stop : ∀ c ∈ rest.head?, p c = false) {m' : Cursor}
    (found : (k ⟨(octet n).reverse ++ seen, rest, groups⟩).head? = some m') :
    (runs (between 1 2 (.chr p)) k ⟨seen, octet n ++ rest, groups⟩).head? = some m' := by
  apply head?_runs_between_one (ofNat_ne_nil n) _ _ stop found
  · have small := n.isLt
    exact length_ofNat_le (by decide) (by omega)
  · exact fun c here => digits c (isDigit_of_mem_ofNat here)

/-- A dot, and the next octet. -/
theorem head?_runs_dot (n : Fin 256) (digits : ∀ c : Char, c.isDigit = true → p c = true)
    (stop : ∀ c ∈ rest.head?, p c = false) {m' : Cursor}
    (found : (k ⟨(octet n).reverse ++ '.' :: seen, rest, groups⟩).head? = some m') :
    (runs (.seq (.chr (· == '.')) (between 1 2 (.chr p))) k ⟨seen, '.' :: (octet n ++ rest), groups⟩).head? =
      some m' := by
  rw [runs_seq, runs_chr_cons (p := (· == '.')) rfl]
  exact head?_runs_octet n digits stop found

end octets

/-- An address is captured as a whole. -/
theorem finds_text {p : Char → Bool} {t : Text} (q : Quad) (digits : ∀ c : Char, c.isDigit = true → p c = true)
    (dot : p '.' = false) (ended : p '\n' = false) (stop : ∀ c ∈ t.head?, p c = false) :
    Finds (.seq (.group 1 (dottedQuad (.chr p))) .empty) (q.text ++ t) (some q.text) := by
  intro seen rest
  have last : ∀ c ∈ (t ++ '\n' :: rest).head?, p c = false := by
    cases t with
    | nil =>
      intro c here
      rw [← Option.some.inj here]
      exact ended
    | cons d t => exact stop
  have dots : ∀ rest : Text, ∀ c ∈ ('.' :: rest).head?, p c = false := by
    intro rest c here
    rw [← Option.some.inj here]
    exact dot
  apply Option.map_eq_some_iff.mpr
  refine ⟨⟨q.text.reverse ++ seen, t ++ '\n' :: rest, [(1, q.text)]⟩, ?_, rfl⟩
  have whole : q.text ++ t ++ '\n' :: rest = octet q.first ++ ('.' :: (octet q.second ++ ('.' :: (octet q.third ++
      ('.' :: (octet q.fourth ++ (t ++ '\n' :: rest))))))) := by
    simp [text]
  rw [results_eq_runs, runs_seq, runs_group, dottedQuad, runs_seq, whole]
  apply head?_runs_octet q.first digits (dots _)
  rw [List.replicate_succ, List.replicate_succ, List.replicate_one, seqs, runs_seq]
  apply head?_runs_dot q.second digits (dots _)
  rw [seqs, runs_seq]
  apply head?_runs_dot q.third digits (dots _)
  rw [seqs, runs_seq]
  apply head?_runs_dot q.fourth digits last
  rw [seqs, runs_empty, ← whole, List.append_assoc]
  have seen_ : (octet q.fourth).reverse ++ '.' :: ((octet q.third).reverse ++ '.' :: ((octet q.second).reverse ++
      '.' :: ((octet q.first).reverse ++ seen))) = q.text.reverse ++ seen := by
    simp [text]
  rw [seen_, captured_append]
  rfl

theorem visible_text (q : Quad) : ∃ c ∈ q.text.head?, isSpace c = false := by
  obtain ⟨c, w, split⟩ := List.exists_cons_of_ne_nil (ofNat_ne_nil q.first)
  refine ⟨c, ?_, ?_⟩
  · rw [text, octet, split]
    rfl
  · apply isSpace_of_isDigit
    exact isDigit_of_mem_ofNat (split ▸ List.mem_cons_self)

/-- The characters of an address. -/
theorem mem_text {q : Quad} {c : Char} (h : c ∈ q.text) : c.isDigit = true ∨ c = '.' := by
  have digits : ∀ n, ∀ c ∈ octet n, c.isDigit = true := fun n c here => isDigit_of_mem_ofNat here
  simp only [text, List.mem_append, List.mem_cons] at h
  rcases h with h | rfl | h | rfl | h | rfl | h
  · exact .inl (digits _ c h)
  · exact .inr rfl
  · exact .inl (digits _ c h)
  · exact .inr rfl
  · exact .inl (digits _ c h)
  · exact .inr rfl
  · exact .inl (digits _ c h)

theorem newline_not_mem_text (q : Quad) : '\n' ∉ q.text := by
  intro here
  rcases mem_text here with digit | dot
  · exact absurd digit (by decide)
  · exact absurd dot (by decide)

end Quad

/-! ## Labels -/

/-- A name, and what it is said to be. -/
def entry (name value : Text) : Text := name ++ ':' :: ' ' :: value

/-- A label that is read wherever it stands in a line. -/
inductive CdpLabel
  | remote
  | capabilities
  | ip
  | ipv4
  deriving DecidableEq

namespace CdpLabel

/-- The label without its colon. -/
def stem : CdpLabel → Text
  | remote => "Port ID (outgoing port)"
  | capabilities => "Capabilities"
  | ip => "IP address"
  | ipv4 => "IPv4 address"

def text (label : CdpLabel) : Text := label.stem ++ [':']

variable (label : CdpLabel)

theorem once : label.stem.all fun a => !sameIgnoringCase a ':' := by
  cases label <;> decide +kernel

theorem inLine : label.text.all fun a => !sameIgnoringCase a '\n' := by
  cases label <;> decide +kernel

theorem noComma : label.text.all fun a => !sameIgnoringCase a ',' := by
  cases label <;> decide +kernel

theorem text_ne_nil : label.text ≠ [] := List.append_ne_nil_of_right_ne_nil _ (List.cons_ne_nil _ _)

theorem spells_text : spells label.text label.text = true := by
  cases label <;> decide +kernel

/-- No label begins with punctuation or a blank. -/
theorem lacks_punctuation {w : Text} (h : ∀ c ∈ w, c = ':' ∨ c = ' ' ∨ c = ',') (rest : Text) :
    Lacks label.text w rest := by
  have foreign : ∀ first : Char, sameIgnoringCase first ':' = false → sameIgnoringCase first ' ' = false →
      sameIgnoringCase first ',' = false → ∀ c ∈ w, sameIgnoringCase first c = false := by
    intro first colon blank comma c here
    rcases h c here with rfl | rfl | rfl
    · exact colon
    · exact blank
    · exact comma
  cases label <;> exact lacks_of_foreign (foreign _ (by decide) (by decide) (by decide))

/-- No label begins within an address. -/
theorem lacks_quad (q : Quad) : Lacks label.text q.text [] := by
  have digits : ∀ n < 58, 48 ≤ n → Char.ofNat n ∈ ("0123456789." : Text) := by decide
  have foreign : ∀ first : Char, (∀ d ∈ ("0123456789." : Text), sameIgnoringCase first d = false) →
      ∀ c ∈ q.text, sameIgnoringCase first c = false := by
    intro first other c here
    apply other
    rcases Quad.mem_text here with digit | rfl
    · obtain ⟨low, high⟩ := toNat_of_isDigit digit
      rw [← Char.ofNat_toNat c]
      exact digits c.toNat (by omega) low
    · decide
  cases label <;> exact lacks_of_foreign (foreign _ (by decide +kernel))

/-- Before a value no label begins, if none is spelled there. -/
theorem lacks_before {before : Text} (first : before.all fun c => !sameIgnoringCase ':' c)
    (other : ∀ t ∈ before.tails, t ≠ [] → spells label.stem t = false) {value rest : Text}
    (h : Lacks label.text value rest) : Lacks label.text (entry before value) rest := by
  have colon : Lacks label.text (':' :: ' ' :: value) rest := by
    apply lacks_append (a := [':', ' ']) h
    apply label.lacks_punctuation
    decide
  exact lacks_append colon (lacks_colon label.once first other _)

end CdpLabel

/-- A title that is read at the beginning of a line. -/
inductive CdpTitle
  | device
  | interface
  | platform
  deriving DecidableEq

namespace CdpTitle

/-- The title without its colon. -/
def stem : CdpTitle → Text
  | device => "Device ID"
  | interface => "Interface"
  | platform => "Platform"

def text (title : CdpTitle) : Text := title.stem ++ [':']

variable (title : CdpTitle)

theorem solid_text : Solid title.text := by
  cases title with
  | device => exact solid_of_letter 'd' (by decide) fun c => by rfl
  | interface => exact solid_of_letter 'i' (by decide) fun c => by rfl
  | platform => exact solid_of_letter 'p' (by decide) fun c => by rfl

theorem inLine : title.text.all fun a => !sameIgnoringCase a '\n' := by
  cases title <;> decide +kernel

theorem spells_text : spells title.text title.text = true := by
  cases title <;> decide +kernel

end CdpTitle

/-! ## Lines -/

/-- What stands after a label or a title. -/
structure CdpValue where
  text : Text
  phrase : IsPhrase text
  unlabelled : ∀ label : CdpLabel, Lacks label.text text []

/-- A value that more follows, after a comma. -/
structure CdpCell extends CdpValue where
  comma : ',' ∉ text

/-- Words, and the blanks after them. Without a word the expression would go on to the next line. -/
structure CdpCapabilities where
  words : List Text
  after : Text
  some : words ≠ []
  tokens : ∀ word ∈ words, IsToken word
  blank : ∀ c ∈ after, c = ' '
  unlabelled : ∀ label : CdpLabel, Lacks label.text (join " " words ++ after) []

def CdpCapabilities.text (capabilities : CdpCapabilities) : Text := join " " capabilities.words ++ capabilities.after

/-- A line that is not read. -/
structure CdpOther where
  text : Text
  noRule : NoRule text
  unlabelled : ∀ label : CdpLabel, Lacks label.text text []
  untitled : ∀ title : CdpTitle, begins title.text (lstrip text) = false

inductive CdpLine
  | device (name : CdpValue)
  | address (v4 : Bool) (ip : Quad)
  | platform (name : CdpCell) (capabilities : CdpCapabilities)
  | interface (name : CdpCell) (port : CdpValue)
  | other (line : CdpOther)

namespace CdpLine

def text : CdpLine → Text
  | device name => entry "Device ID" name.text
  | address v4 ip => entry (if v4 then "  IPv4 address" else "  IP address") ip.text
  | platform name capabilities =>
    entry "Platform" (name.text ++ ',' :: entry "  Capabilities" capabilities.text)
  | interface name port => entry "Interface" (name.text ++ ',' :: entry "  Port ID (outgoing port)" port.text)
  | other line => line.text

/-! What a line says. -/

def deviceOf : CdpLine → Option Text
  | device name => some name.text
  | _ => none

def ipOf : CdpLine → Option Text
  | address _ ip => some ip.text
  | _ => none

def platformOf : CdpLine → Option Text
  | platform name _ => some name.text
  | _ => none

def capabilitiesOf : CdpLine → Option CdpCapabilities
  | platform _ capabilities => some capabilities
  | _ => none

def interfaceOf : CdpLine → Option Text
  | interface name _ => some name.text
  | _ => none

def portOf : CdpLine → Option Text
  | interface _ port => some port.text
  | _ => none

/-! Where labels and titles stand. -/

def labels : CdpLine → List CdpLabel
  | address v4 _ => [if v4 then .ipv4 else .ip]
  | platform _ _ => [.capabilities]
  | interface _ _ => [.remote]
  | _ => []

def titles : CdpLine → List CdpTitle
  | device _ => [.device]
  | platform _ _ => [.platform]
  | interface _ _ => [.interface]
  | _ => []

/-- What stands before the label of a line with two values. -/
theorem lacks_cell {label : CdpLabel} {before after rest : Text} (cell : CdpCell)
    (first : before.all fun c => !sameIgnoringCase ':' c)
    (other : ∀ t ∈ before.tails, t ≠ [] → spells label.stem t = false)
    (h : Lacks label.text (',' :: after) rest) :
    Lacks label.text (entry before (cell.text ++ ',' :: after)) rest :=
  label.lacks_before first other (lacks_append h (lacks_of_stop label.noComma (cell.unlabelled label)))

/-- A line has no labels but its own. -/
theorem lacks_text {label : CdpLabel} (line : CdpLine) (h : label ∉ line.labels) : Lacks label.text line.text [] := by
  cases line with
  | device name =>
    apply label.lacks_before (by decide) _ (name.unlabelled label)
    cases label <;> decide +kernel
  | address v4 ip =>
    apply label.lacks_before _ _ (label.lacks_quad ip)
    · cases v4 <;> decide
    · cases v4 <;> cases label <;> first | exact absurd (List.mem_singleton_self _) h | decide +kernel
  | platform name capabilities =>
    apply lacks_cell name (by decide)
    · cases label <;> decide +kernel
    · apply @CdpLabel.lacks_before label (',' :: "  Capabilities") (by decide) _ _ _ (capabilities.unlabelled label)
      cases label with
      | capabilities => exact absurd (List.mem_singleton_self _) h
      | remote => decide +kernel
      | ip => decide +kernel
      | ipv4 => decide +kernel
  | interface name port =>
    apply lacks_cell name (by decide)
    · cases label <;> decide +kernel
    · apply @CdpLabel.lacks_before label (',' :: "  Port ID (outgoing port)") (by decide) _ _ _ (port.unlabelled label)
      cases label with
      | remote => exact absurd (List.mem_singleton_self _) h
      | capabilities => decide +kernel
      | ip => decide +kernel
      | ipv4 => decide +kernel
  | other line => exact line.unlabelled label

theorem newline_not_mem_entry {name value : Text} (plain : '\n' ∉ name) (plain' : '\n' ∉ value) :
    '\n' ∉ entry name value := by
  rw [entry, List.mem_append, List.mem_cons, List.mem_cons]
  rintro (here | here | here | here)
  · exact plain here
  · exact absurd here (by decide)
  · exact absurd here (by decide)
  · exact plain' here

/-- Both values of a line. -/
theorem newline_not_mem_cell {name value : Text} (cell : CdpCell) (plain : '\n' ∉ name) (plain' : '\n' ∉ value) :
    '\n' ∉ cell.text ++ ',' :: entry name value := by
  rw [List.mem_append, List.mem_cons]
  rintro (here | here | here)
  · exact cell.phrase.line here
  · exact absurd here (by decide)
  · exact newline_not_mem_entry plain plain' here

/-- The words are within their line. -/
theorem newline_not_mem_capabilities (capabilities : CdpCapabilities) : '\n' ∉ capabilities.text := by
  intro here
  rcases List.mem_append.mp here with here | here
  · rcases PhysicalName.mem_join here with blank | ⟨word, member, here⟩
    · exact absurd blank (by decide)
    · exact absurd ((capabilities.tokens word member).solid _ here) (by decide)
  · exact absurd (capabilities.blank _ here) (by decide)

theorem noRule_entry {name value : Text} (first : ∃ c ∈ name.head?, c ≠ '-') (plain : '\n' ∉ name)
    (plain' : '\n' ∉ value) : NoRule (entry name value) := by
  apply noRule_of_head (newline_not_mem_entry plain plain')
  obtain ⟨c, first, other⟩ := first
  obtain ⟨name, rfl⟩ := List.head?_eq_some_iff.mp first
  intro dash
  exact other (Option.some.inj dash)

/-- No line is a rule. -/
theorem noRule_text (line : CdpLine) : NoRule line.text := by
  cases line with
  | device name => exact noRule_entry ⟨'D', rfl, by decide⟩ (by decide) name.phrase.line
  | address v4 ip =>
    cases v4 with
    | false => exact noRule_entry ⟨' ', rfl, by decide⟩ (by decide) ip.newline_not_mem_text
    | true => exact noRule_entry ⟨' ', rfl, by decide⟩ (by decide) ip.newline_not_mem_text
  | platform name capabilities =>
    have second := newline_not_mem_capabilities capabilities
    exact noRule_entry ⟨'P', rfl, by decide⟩ (by decide) (newline_not_mem_cell name (by decide) second)
  | interface name port =>
    exact noRule_entry ⟨'I', rfl, by decide⟩ (by decide) (newline_not_mem_cell name (by decide) port.phrase.line)
  | other line => exact line.noRule

/-- A line without anything. -/
def blank : CdpLine := other {
  text := []
  noRule := noRule_of_head List.not_mem_nil (by decide)
  unlabelled label := by cases label <;> decide
  untitled title := by cases title <;> decide }

/-! ### Labels -/

theorem findsWithin_label {label : CdpLabel} {tail : Regex} {found : CdpLine → Option Text}
    (own : ∀ line : CdpLine, label ∈ line.labels → FindsWithin (.seq (litIgnoringCase label.text) tail) line.text (found line))
    (other : ∀ line : CdpLine, label ∉ line.labels → found line = none) (line : CdpLine) :
    FindsWithin (.seq (litIgnoringCase label.text) tail) line.text (found line) := by
  by_cases here : label ∈ line.labels
  · exact own line here
  · rw [other line here]
    exact findsWithin_none label.inLine label.text_ne_nil (line.lacks_text here)

/-- The second value of a line. -/
theorem findsWithin_second {label : CdpLabel} {before value v : Text} {tail : Regex} {cell : CdpCell} {gap : Text}
    (first : before.all fun c => !sameIgnoringCase ':' c)
    (other : ∀ t ∈ before.tails, t ≠ [] → spells label.stem t = false) (blank : ∀ c ∈ gap, c = ' ')
    (finds : Finds tail (' ' :: value) (some v)) :
    FindsWithin (.seq (litIgnoringCase label.text) tail)
      (entry before (cell.text ++ ',' :: entry (gap ++ label.stem) value)) (some v) := by
  have split : entry before (cell.text ++ ',' :: entry (gap ++ label.stem) value) =
      entry before (cell.text ++ ',' :: gap) ++ (label.text ++ ' ' :: value) := by
    simp [entry, CdpLabel.text]
  rw [split]
  apply findsWithin_some label.inLine _ label.spells_text finds
  apply label.lacks_before first other
  apply lacks_append
  · apply label.lacks_punctuation
    intro c here
    rcases List.mem_cons.mp here with rfl | here
    · exact .inr (.inr rfl)
    · exact .inr (.inl (blank c here))
  · exact lacks_of_stop label.noComma (cell.unlabelled label)

/-- A value of a line is found up to the end of the line. -/
theorem finds_rest (value : CdpValue) : Finds (.seq (.star true space) (.seq (.group 1 (plus notNewline)) .empty))
    (' ' :: value.text) (some value.text) := by
  have found : Finds (.group 1 (plus notNewline)) (value.text ++ []) (some value.text) := by
    apply finds_group_plus _ _ (fun c none => by cases none) (by decide)
    · intro c here
      rw [bne_iff_ne]
      rintro rfl
      exact value.phrase.line here
    · obtain ⟨c, first, -⟩ := value.phrase.first
      exact List.ne_nil_of_mem (List.mem_of_head? first)
  rw [List.append_nil] at found
  exact @finds_spaced _ _ [' '] _ (by decide) value.phrase.first (finds_seq_empty found)

theorem findsWithin_remote (line : CdpLine) : FindsWithin cdpRemote line.text line.portOf := by
  refine @findsWithin_label .remote _ _ ?_ ?_ line
  · intro line own
    cases line with
    | interface name port =>
      exact @findsWithin_second .remote _ _ _ _ _ ("  ") (by decide) (by decide +kernel) (by decide) (finds_rest port)
    | address v4 ip => cases v4 <;> exact absurd (List.mem_singleton.mp own) (by decide)
    | platform name capabilities => exact absurd (List.mem_singleton.mp own) (by decide)
    | device name => cases own
    | other line => cases own
  · intro line other
    cases line with
    | interface name port => exact absurd (List.mem_singleton_self _) other
    | address v4 ip => rfl
    | platform name capabilities => rfl
    | device name => rfl
    | other line => rfl

/-- The words of a line are found, with what follows them. -/
theorem finds_capabilities (capabilities : CdpCapabilities) :
    Finds (.seq (.star true space) (.seq (.group 1 (.star true notNewline)) .empty))
      (' ' :: capabilities.text) (some capabilities.text) := by
  have inline : ∀ c ∈ capabilities.text, (c != '\n') = true := by
    intro c here
    rw [bne_iff_ne]
    rintro rfl
    exact newline_not_mem_capabilities capabilities here
  have visible : ∃ c ∈ capabilities.text.head?, isSpace c = false := by
    obtain ⟨word, words, split⟩ := List.exists_cons_of_ne_nil capabilities.some
    have token := capabilities.tokens word (split ▸ List.mem_cons_self)
    obtain ⟨c, w, rfl⟩ := List.exists_cons_of_ne_nil token.ne_nil
    refine ⟨c, ?_, token.solid c List.mem_cons_self⟩
    rw [CdpCapabilities.text, split]
    cases words <;> rfl
  refine @finds_spaced _ _ [' '] _ (by decide) visible (finds_seq_empty ?_)
  intro seen rest
  apply Option.map_eq_some_iff.mpr
  refine ⟨⟨capabilities.text.reverse ++ seen, '\n' :: rest, [(1, capabilities.text)]⟩, ?_, rfl⟩
  rw [results_eq_runs, runs_group]
  apply head?_runs_star inline
  · intro c here
    rw [← Option.some.inj here]
    rfl
  · rw [captured_append]
    rfl

theorem findsWithin_capabilities (line : CdpLine) :
    FindsWithin cdpCapabilities line.text (line.capabilitiesOf.map CdpCapabilities.text) := by
  refine @findsWithin_label .capabilities _ (fun line => line.capabilitiesOf.map CdpCapabilities.text) ?_ ?_ line
  · intro line own
    cases line with
    | platform name capabilities =>
      exact @findsWithin_second .capabilities _ _ _ _ _ ("  ") (by decide) (by decide +kernel) (by decide)
        (finds_capabilities capabilities)
    | address v4 ip => cases v4 <;> exact absurd (List.mem_singleton.mp own) (by decide)
    | interface name port => exact absurd (List.mem_singleton.mp own) (by decide)
    | device name => cases own
    | other line => cases own
  · intro line other
    cases line with
    | platform name capabilities => exact absurd (List.mem_singleton_self _) other
    | address v4 ip => rfl
    | interface name port => rfl
    | device name => rfl
    | other line => rfl

/-! ### Addresses -/

def ipValue : Regex := .seq (.group 1 (dottedQuad (.chr fun c => '0' ≤ c && c ≤ '9'))) .empty

/-- Where `v4` may stand, two labels are tried. -/
theorem results_cdpIp (m : Cursor) : results cdpIp m =
    results (labelled CdpLabel.ipv4.text ipValue) m ++
      results (labelled CdpLabel.ip.text ipValue) m := by
  have long : CdpLabel.ipv4.text = "IP" ++ ("v4" ++ " address:") := rfl
  have short : CdpLabel.ip.text = "IP" ++ " address:" := rfl
  have whole : cdpIp = .seq (litIgnoringCase "IP") (.seq (opt (litIgnoringCase "v4"))
      (labelled " address:" ipValue)) := rfl
  rw [whole, long, short]
  simp only [results_eq_runs, labelled, runs_seq, runs_lit_append]
  exact runs_lit_opt _ m

theorem finds_cdpIp_left {t : Text} {found : Option Text} (finds : Finds (labelled CdpLabel.ipv4.text ipValue) t found)
    (none : Finds (labelled CdpLabel.ip.text ipValue) t none) : Finds cdpIp t found := by
  intro seen rest
  rw [results_cdpIp, none.results_eq_nil, List.append_nil]
  exact finds seen rest

theorem finds_cdpIp_right {t : Text} {found : Option Text} (finds : Finds (labelled CdpLabel.ip.text ipValue) t found)
    (none : Finds (labelled CdpLabel.ipv4.text ipValue) t none) : Finds cdpIp t found := by
  intro seen rest
  rw [results_cdpIp, none.results_eq_nil, List.nil_append]
  exact finds seen rest

/-- Where one of the labels is absent, the other one counts. -/
theorem findsWithin_cdpIp {line : Text} {found : Option Text}
    (one : (FindsWithin (labelled CdpLabel.ipv4.text ipValue) line found ∧
        FindsWithin (labelled CdpLabel.ip.text ipValue) line none) ∨
      (FindsWithin (labelled CdpLabel.ipv4.text ipValue) line none ∧
        FindsWithin (labelled CdpLabel.ip.text ipValue) line found)) : FindsWithin cdpIp line found := by
  rcases one with ⟨finds, absent⟩ | ⟨absent, finds⟩
  · exact findsWithin_of_alternative finds_cdpIp_left finds absent
  · exact findsWithin_of_alternative finds_cdpIp_right finds absent

/-- An address is found after its label. -/
theorem findsWithin_entry {label : CdpLabel} (q : Quad) :
    FindsWithin (labelled label.text ipValue) (entry ("  " ++ label.stem) q.text) (some q.text) := by
  have split : entry ("  " ++ label.stem) q.text = "  " ++ (label.text ++ ' ' :: q.text) := by
    simp [entry, CdpLabel.text]
  rw [split]
  apply findsWithin_some label.inLine (label.lacks_punctuation (by decide) _) label.spells_text
  apply @finds_spaced _ _ [' '] _ (by decide) q.visible_text
  have digits : ∀ c : Char, c.isDigit = true → ('0' ≤ c && c ≤ '9') = true := by
    intro c digit
    simpa [Char.isDigit, Char.le_def] using digit
  have found := q.finds_text (t := []) digits (by decide) (by decide) fun c none => by cases none
  rwa [List.append_nil] at found

theorem findsWithin_ip (line : CdpLine) : FindsWithin cdpIp line.text line.ipOf := by
  have none : ∀ label, label ∉ line.labels → FindsWithin (labelled label.text ipValue) line.text none :=
    fun label other => findsWithin_none label.inLine label.text_ne_nil (line.lacks_text other)
  apply findsWithin_cdpIp
  cases line with
  | address v4 q =>
    cases v4 with
    | false => exact .inr ⟨none .ipv4 (by simp [labels]), findsWithin_entry q⟩
    | true => exact .inl ⟨findsWithin_entry q, none .ip (by simp [labels])⟩
  | platform name capabilities => exact .inl ⟨none .ipv4 (by simp [labels]), none .ip (by simp [labels])⟩
  | interface name port => exact .inl ⟨none .ipv4 (by simp [labels]), none .ip (by simp [labels])⟩
  | device name => exact .inl ⟨none .ipv4 List.not_mem_nil, none .ip List.not_mem_nil⟩
  | other line => exact .inl ⟨none .ipv4 List.not_mem_nil, none .ip List.not_mem_nil⟩

/-! ### Titles -/

/-- A line that begins with another name than the title. -/
theorem entitles_entry {title : CdpTitle} {tail : Regex} {blanks name : Text} (blank : ∀ c ∈ blanks, isSpace c = true)
    (visible : ∃ c ∈ name.head?, isSpace c = false) (other : parts title.text name = true) (value : Text) :
    Entitles title.text tail (entry (blanks ++ name) value) none := by
  obtain ⟨c, first, visible⟩ := visible
  obtain ⟨rest, rfl⟩ := List.head?_eq_some_iff.mp first
  rw [entry, List.append_assoc]
  refine .inr ⟨⟨c, by simp, visible⟩, ?_⟩
  exact finds_titled_none title.solid_text title.inLine blank ⟨c, by simp, visible⟩ (not_begins_of_parts other _)

theorem entitles_none {title : CdpTitle} {tail : Regex} (line : CdpLine) (h : title ∉ line.titles) :
    Entitles title.text tail line.text none := by
  have noBlank : ∀ c ∈ ([] : Text), isSpace c = true := fun c none => by cases none
  cases line with
  | device name =>
    cases title with
    | device => exact absurd (List.mem_singleton_self _) h
    | interface => exact entitles_entry noBlank ⟨_, rfl, by decide⟩ (by decide) _
    | platform => exact entitles_entry noBlank ⟨_, rfl, by decide⟩ (by decide) _
  | address v4 ip =>
    cases v4 with
    | false =>
      apply @entitles_entry _ _ ("  ") ("IP address") (by decide) ⟨_, rfl, by decide⟩
      cases title <;> decide
    | true =>
      apply @entitles_entry _ _ ("  ") ("IPv4 address") (by decide) ⟨_, rfl, by decide⟩
      cases title <;> decide
  | platform name capabilities =>
    cases title with
    | platform => exact absurd (List.mem_singleton_self _) h
    | device => exact entitles_entry noBlank ⟨_, rfl, by decide⟩ (by decide) _
    | interface => exact entitles_entry noBlank ⟨_, rfl, by decide⟩ (by decide) _
  | interface name port =>
    cases title with
    | interface => exact absurd (List.mem_singleton_self _) h
    | device => exact entitles_entry noBlank ⟨_, rfl, by decide⟩ (by decide) _
    | platform => exact entitles_entry noBlank ⟨_, rfl, by decide⟩ (by decide) _
  | other line =>
    by_cases blank : ∀ c ∈ line.text, isSpace c = true
    · exact .inl ⟨blank, rfl⟩
    · have visible : ∃ c ∈ line.text, isSpace c = false := by simpa using blank
      have parted : line.text = line.text.takeWhile isSpace ++ lstrip line.text :=
        (List.takeWhile_append_dropWhile).symm
      refine .inr ⟨visible, ?_⟩
      rw [CdpLine.text, parted]
      apply finds_titled_none title.solid_text title.inLine
      · exact fun c here => List.mem_takeWhile_imp here
      · cases rest : lstrip line.text with
        | nil =>
          rw [rest, List.append_nil] at parted
          exact absurd (fun c here => List.mem_takeWhile_imp (parted ▸ here)) blank
        | cons c w => exact ⟨c, rfl, head?_lstrip (t := line.text) (by rw [rest]; rfl)⟩
      · exact line.untitled title

/-- What stands under a title that the line has. -/
theorem entitles_some {title : CdpTitle} {tail : Regex} {value found : Text}
    (finds : Finds tail (' ' :: value) (some found)) :
    Entitles title.text tail (entry title.stem value) (some found) := by
  have split : entry title.stem value = title.text ++ ' ' :: value := by
    simp [entry, CdpTitle.text]
  have titled := @finds_titled _ _ title.solid_text [] _ _ _ (fun c none => by cases none) title.spells_text finds
  refine .inr ⟨⟨':', ?_, by decide⟩, ?_⟩
  · simp [entry]
  · rw [split]
    exact titled

/-- A value is found up to the comma. -/
theorem finds_cell (cell : CdpCell) (after : Text) :
    Finds (.seq (.star true space) (.seq (.group 1 (plus notCommaOrNewline)) .empty))
      (' ' :: (cell.text ++ ',' :: after)) (some cell.text) := by
  obtain ⟨c, first, visible⟩ := cell.phrase.first
  have found : Finds (.group 1 (plus notCommaOrNewline)) (cell.text ++ ',' :: after) (some cell.text) := by
    apply finds_group_plus _ (List.ne_nil_of_mem (List.mem_of_head? first)) _ (by decide)
    · intro d here
      have comma : d ≠ ',' := fun same => cell.comma (same ▸ here)
      have newline : d ≠ '\n' := fun same => cell.phrase.line (same ▸ here)
      simp [comma, newline]
    · intro d here
      rw [← Option.some.inj here]
      rfl
  refine @finds_spaced _ _ [' '] _ (by decide) ⟨c, ?_, visible⟩ (finds_seq_empty found)
  obtain ⟨w, split⟩ := List.head?_eq_some_iff.mp first
  rw [split]
  rfl

/-- The name of a device is found up to the end of the line. -/
theorem finds_device (name : CdpValue) :
    Finds (.seq (.star true space) (.seq (.group 1 (.seq notNewline (.star false notNewline)))
      (.seq (.star true space) (.seq lineEnd .empty)))) (' ' :: name.text) (some name.text) := by
  have found := @finds_spaced _ _ [' '] (name.text ++ []) (by decide) (by simpa using name.phrase.first)
    (finds_phrase name.phrase fun c none => by cases none)
  rw [List.append_nil] at found
  intro seen rest
  have here := found seen rest
  simp only [results_eq_runs, runs_seq, phrase, blankToEnd, runs_empty] at here ⊢
  exact here

/-- A title is read on the lines that have it. -/
theorem entitles_of_own {title : CdpTitle} {tail : Regex} {found : CdpLine → Option Text}
    (own : ∀ line : CdpLine, title ∈ line.titles → Entitles title.text tail line.text (found line))
    (other : ∀ line : CdpLine, title ∉ line.titles → found line = none) (line : CdpLine) :
    Entitles title.text tail line.text (found line) := by
  by_cases here : title ∈ line.titles
  · exact own line here
  · rw [other line here]
    exact line.entitles_none here

end CdpLine

/-! ## Records -/

/-- A record: a rule, and lines of which the first is not blank. -/
structure CdpRecord where
  dashes : Nat
  lines : List CdpLine
  long : 3 ≤ dashes
  opens : ∃ line ∈ lines.head?, ∃ c ∈ line.text, isSpace c = false

namespace CdpRecord

def toRecord (record : CdpRecord) : Record where
  dashes := record.dashes
  lines := record.lines.map CdpLine.text
  long := record.long
  opens := by
    obtain ⟨line, first, visible⟩ := record.opens
    refine ⟨line.text, ?_, visible⟩
    rw [List.head?_map, Option.mem_def.mp first]
    rfl
  rules := by
    intro text here
    obtain ⟨line, -, rfl⟩ := List.mem_map.mp here
    exact line.noRule_text

def text (record : CdpRecord) : Text := unlines (rule record.dashes :: record.lines.map CdpLine.text)

end CdpRecord

section fields

variable (lines : List CdpLine)

/-- The lines, with what each of them gives. -/
def given (found : CdpLine → Option Text) : List (Text × Option Text) := lines.map fun line => (line.text, found line)

theorem map_given (found : CdpLine → Option Text) : (given lines found).map (·.1) = lines.map CdpLine.text := by
  rw [given, List.map_map]
  rfl

theorem findSome?_given (found : CdpLine → Option Text) : (given lines found).findSome? (·.2) = lines.findSome? found := by
  rw [given, List.findSome?_map]
  rfl

theorem forall_mem_given {found : CdpLine → Option Text} {P : Text × Option Text → Prop}
    (h : ∀ line : CdpLine, P (line.text, found line)) : ∀ line ∈ given lines found, P line := by
  intro line here
  obtain ⟨line, -, rfl⟩ := List.mem_map.mp here
  exact h line

/-- What a label captures in lines. -/
theorem field_within {r : Regex} {found : CdpLine → Option Text} (always : Always 1 r)
    (finds : ∀ line : CdpLine, FindsWithin r line.text (found line)) (ended : ∀ seen, results r ⟨seen, [], []⟩ = []) :
    field r (unlines (lines.map CdpLine.text)) = lines.findSome? found := by
  rw [field, search_group always, ← map_given lines found, search_unlines_within _ ended, findSome?_given]
  exact forall_mem_given lines finds

/-- What a title captures in lines. -/
theorem field_titled {title : CdpTitle} {tail : Regex} {found : CdpLine → Option Text} (always : Always 1 tail)
    (entitles : ∀ line : CdpLine, Entitles title.text tail line.text (found line)) :
    field (.seq lineStart (indented title.text tail)) (unlines (lines.map CdpLine.text)) = lines.findSome? found := by
  have always_ : Always 1 (.seq lineStart (indented title.text tail)) := .inr (.inr (.inr always))
  rw [field, search_group always_, ← map_given lines found, search_titled title.solid_text, findSome?_given]
  · exact forall_mem_given lines fun line => line.noRule_text.plain
  · exact forall_mem_given lines entitles

theorem field_device : field (titled "Device ID:") (unlines (lines.map CdpLine.text)) = lines.findSome? CdpLine.deviceOf := by
  refine @field_titled lines .device _ _ (.inr (.inl (.inl rfl))) ?_
  apply CdpLine.entitles_of_own
  · intro line own
    cases line with
    | device name => exact @CdpLine.entitles_some .device _ _ _ (CdpLine.finds_device name)
    | platform name capabilities => exact absurd (List.mem_singleton.mp own) (by decide)
    | interface name port => exact absurd (List.mem_singleton.mp own) (by decide)
    | address v4 ip => cases own
    | other line => cases own
  · intro line other
    cases line with
    | device name => exact absurd (List.mem_singleton_self _) other
    | platform name capabilities => rfl
    | interface name port => rfl
    | address v4 ip => rfl
    | other line => rfl

theorem field_interface : field cdpLocal (unlines (lines.map CdpLine.text)) = lines.findSome? CdpLine.interfaceOf := by
  refine @field_titled lines .interface _ _ (.inr (.inl (.inl rfl))) ?_
  apply CdpLine.entitles_of_own
  · intro line own
    cases line with
    | interface name port => exact @CdpLine.entitles_some .interface _ _ _ (CdpLine.finds_cell name _)
    | device name => exact absurd (List.mem_singleton.mp own) (by decide)
    | platform name capabilities => exact absurd (List.mem_singleton.mp own) (by decide)
    | address v4 ip => cases own
    | other line => cases own
  · intro line other
    cases line with
    | interface name port => exact absurd (List.mem_singleton_self _) other
    | device name => rfl
    | platform name capabilities => rfl
    | address v4 ip => rfl
    | other line => rfl

theorem field_platform : field cdpPlatform (unlines (lines.map CdpLine.text)) = lines.findSome? CdpLine.platformOf := by
  refine @field_titled lines .platform _ _ (.inr (.inl (.inl rfl))) ?_
  apply CdpLine.entitles_of_own
  · intro line own
    cases line with
    | platform name capabilities => exact @CdpLine.entitles_some .platform _ _ _ (CdpLine.finds_cell name _)
    | device name => exact absurd (List.mem_singleton.mp own) (by decide)
    | interface name port => exact absurd (List.mem_singleton.mp own) (by decide)
    | address v4 ip => cases own
    | other line => cases own
  · intro line other
    cases line with
    | platform name capabilities => exact absurd (List.mem_singleton_self _) other
    | device name => rfl
    | interface name port => rfl
    | address v4 ip => rfl
    | other line => rfl

theorem field_remote : field cdpRemote (unlines (lines.map CdpLine.text)) = lines.findSome? CdpLine.portOf :=
  field_within lines (.inr (.inr (.inl (.inl rfl)))) CdpLine.findsWithin_remote
    fun seen => results_labelled_nil CdpLabel.remote.text_ne_nil seen

theorem field_capabilities : field cdpCapabilities (unlines (lines.map CdpLine.text)) =
    (lines.findSome? CdpLine.capabilitiesOf).map CdpCapabilities.text := by
  rw [List.map_findSome?]
  exact field_within lines (.inr (.inr (.inl (.inl rfl)))) CdpLine.findsWithin_capabilities
    fun seen => results_labelled_nil CdpLabel.capabilities.text_ne_nil seen

theorem field_ip : field cdpIp (unlines (lines.map CdpLine.text)) = lines.findSome? CdpLine.ipOf := by
  refine field_within (r := cdpIp) lines (.inr (.inr (.inr (.inr (.inl (.inl rfl)))))) CdpLine.findsWithin_ip ?_
  intro seen
  rw [CdpLine.results_cdpIp]
  exact List.append_eq_nil_iff.mpr ⟨results_labelled_nil CdpLabel.ipv4.text_ne_nil seen,
    results_labelled_nil CdpLabel.ip.text_ne_nil seen⟩

/-- The neighbour of which lines speak. -/
def neighborOf : Option CdpNeighbor :=
  (lines.findSome? CdpLine.deviceOf).map fun name => {
    remoteName := name
    localInterface := ((lines.findSome? CdpLine.interfaceOf).map shortCdpInterface).getD []
    remoteInterface := lines.findSome? CdpLine.portOf
    platform := lines.findSome? CdpLine.platformOf
    capabilities := ((lines.findSome? CdpLine.capabilitiesOf).map CdpCapabilities.words).getD []
    ip := lines.findSome? CdpLine.ipOf }

/-- What lines give has no blanks around it. -/
theorem map_strip_findSome? {found : CdpLine → Option Text} (phrases : ∀ line, ∀ value ∈ found line, IsPhrase value) :
    (lines.findSome? found).map strip = lines.findSome? found := by
  rw [List.map_findSome?]
  congr 1
  funext line
  cases here : found line with
  | none => simp [here]
  | some value => simp [here, (phrases line value here).strip_eq]

theorem split_text (capabilities : CdpCapabilities) : Text.split capabilities.text = capabilities.words := by
  have blank : ∀ c ∈ capabilities.after, isSpace c = true := fun c here => capabilities.blank c here ▸ by decide
  rw [CdpCapabilities.text, split_append_blanks blank, split_join_words capabilities.tokens]

/-- A block is read as its lines say. -/
theorem cdpBlock_lines : cdpBlock (unlines (lines.map CdpLine.text)) = neighborOf lines := by
  have devices : ∀ line, ∀ value ∈ CdpLine.deviceOf line, IsPhrase value := by
    intro line value here
    cases line with
    | device name => exact Option.some.inj here ▸ name.phrase
    | _ => cases here
  have ports : ∀ line, ∀ value ∈ CdpLine.portOf line, IsPhrase value := by
    intro line value here
    cases line with
    | interface name port => exact Option.some.inj here ▸ port.phrase
    | _ => cases here
  have platforms : ∀ line, ∀ value ∈ CdpLine.platformOf line, IsPhrase value := by
    intro line value here
    cases line with
    | platform name capabilities => exact Option.some.inj here ▸ name.phrase
    | _ => cases here
  rw [cdpBlock, field_device, field_interface, field_remote, field_platform, field_capabilities, field_ip,
    Option.map_map, map_strip_findSome? lines ports, map_strip_findSome? lines platforms, neighborOf]
  have words : Text.split ∘ CdpCapabilities.text = CdpCapabilities.words := funext split_text
  have device := map_strip_findSome? lines devices
  rw [words]
  cases named : lines.findSome? CdpLine.deviceOf with
  | none => rfl
  | some name =>
    rw [named] at device
    rw [Option.map_some, Option.map_some, Option.some.inj device]

end fields

/-- **What is read of the output**: the neighbour of each record that names a device, and so of what stands before
the first rule. -/
theorem parseCdp_text (header : List CdpLine) (records : List CdpRecord) :
    parseCdp (unlines (header.map CdpLine.text) ++ records.flatMap CdpRecord.text) =
      (header :: records.map CdpRecord.lines).filterMap neighborOf := by
  have pieces : split ruleLine (unlines (header.map CdpLine.text) ++ records.flatMap CdpRecord.text) =
      (header :: records.map fun record => .blank :: record.lines).map fun lines => unlines (lines.map CdpLine.text) := by
    have cut := @split_records (header.map CdpLine.text) (records.map CdpRecord.toRecord) ?_
    · rw [List.flatMap_map, List.map_map] at cut
      rw [List.map_cons, List.map_map]
      exact cut
    · intro text here
      obtain ⟨line, -, rfl⟩ := List.mem_map.mp here
      exact line.noRule_text
  have blocks : (split ruleLine (unlines (header.map CdpLine.text) ++ records.flatMap CdpRecord.text)).filterMap cdpBlock =
      (header :: records.map CdpRecord.lines).filterMap neighborOf := by
    rw [pieces, List.filterMap_map, List.filterMap_cons, List.filterMap_cons, List.filterMap_map, List.filterMap_map]
    simp only [Function.comp_def, cdpBlock_lines]
    rfl
  rw [parseCdp]
  split
  · next empty =>
    rw [List.isEmpty_iff.mp empty] at blocks
    exact blocks
  · exact blocks

/-- A neighbour as IOS prints it. -/
example : ∃ record : CdpRecord,
    record.text = ("-------------------------\nDevice ID: Core-SW2\nEntry address(es):\n  IP address: 192.0.2.2\n" ++
      "Interface: GigabitEthernet0/9,  Port ID (outgoing port): GigabitEthernet0/1\n" : String).toList ∧
    (neighborOf record.lines).map (·.localInterface) = some ("Gi0/9" : Text) := by
  let device : CdpValue := {
    text := "Core-SW2"
    phrase := ⟨by decide, ⟨'C', rfl, by decide⟩, ⟨'2', rfl, by decide⟩⟩
    unlabelled := fun label => by cases label <;> decide +kernel }
  let entries : CdpOther := {
    text := "Entry address(es):"
    noRule := noRule_of_head (by decide) (by decide)
    unlabelled := fun label => by cases label <;> decide +kernel
    untitled := fun title => by cases title <;> decide +kernel }
  let interface : CdpCell := {
    text := "GigabitEthernet0/9"
    phrase := ⟨by decide, ⟨'G', rfl, by decide⟩, ⟨'9', rfl, by decide⟩⟩
    unlabelled := fun label => by cases label <;> decide +kernel
    comma := by decide }
  let port : CdpValue := {
    text := "GigabitEthernet0/1"
    phrase := ⟨by decide, ⟨'G', rfl, by decide⟩, ⟨'1', rfl, by decide⟩⟩
    unlabelled := fun label => by cases label <;> decide +kernel }
  let record : CdpRecord := {
    dashes := 25
    lines := [.device device, .other entries, .address false ⟨192, 0, 2, 2⟩, .interface interface port]
    long := by decide
    opens := ⟨_, rfl, 'D', List.mem_cons_self, by decide⟩ }
  exact ⟨record, by decide +kernel, by decide +kernel⟩

end SwitchOps.Topology
