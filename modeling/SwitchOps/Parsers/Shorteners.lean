import SwitchOps.InterfaceGrammar
import SwitchOps.Lib.Continuations
import SwitchOps.Operations.BlankDescription
import SwitchOps.Parsers.Discovery

/-!
# Short names of interfaces

The name of an interface is shortened in four places: `short_interface`, the readers of `operations.py`, and the
parsers of CDP and LLDP. The readers replace `GigabitEthernet` only, wherever it stands, and the CDP parser does not
know the third number of a gigabit interface. So the four agree on gigabit interfaces with two numbers and nowhere
else: `shortenersAgree_iff`.
-/

namespace SwitchOps.Topology

open Regex

/-! ## Reading a name and a number -/

theorem same_of_denotes_litIgnoringCase {name w : Text} (h : Denotes (litIgnoringCase name) w) :
    w.length = name.length ∧ ∀ c a, c ∈ name.head? → a ∈ w.head? → sameIgnoringCase c a = true := by
  induction name generalizing w with
  | nil =>
    obtain rfl : w = [] := h
    exact ⟨rfl, fun c a none => by cases none⟩
  | cons c name ih =>
    obtain ⟨_, v, rfl, ⟨a, same, rfl⟩, rest⟩ := h
    refine ⟨by simp [(ih rest).1], ?_⟩
    rintro _ _ ⟨⟩ ⟨⟩
    exact same

/-- A name without blanks that is shortened is that of the family, in any case, and a number. -/
theorem denotes_of_shortened {value name abbreviation : Text} {number : Regex}
    (h : (shortened value name number abbreviation).isSome = true) (solid : ∀ c ∈ value, Text.isSpace c = false) :
    ∃ letters w, value = letters ++ w ∧ Denotes (litIgnoringCase name) letters ∧ Denotes number w := by
  rw [shortened, Option.isSome_map] at h
  obtain ⟨m, matched⟩ := Option.isSome_iff_exists.mp h
  obtain ⟨letters, _, rfl, name, blanks, _, rfl, star, w, _, rfl, number, rfl⟩ := fullmatch_denotes matched
  have none : blanks = [] := by
    apply List.eq_nil_iff_forall_not_mem.mpr
    intro c here
    have solid := solid c (List.mem_append_right _ (List.mem_append_left _ here))
    rw [denotes_star_chr.mp star c here] at solid
    cases solid
  rw [none, List.nil_append, List.append_nil]
  exact ⟨letters, w, rfl, name, number⟩

/-- A name that is read, and then a number, are shortened. -/
theorem shortened_of_denotes {value name abbreviation seen w : Text} {number : Regex}
    (read : results (litIgnoringCase name) ⟨[], value, []⟩ = [⟨seen, w, []⟩])
    (solid : ∀ c ∈ w.head?, Text.isSpace c = false) (plain : Plain number) (h : Denotes number w) :
    shortened value name number abbreviation = some (abbreviation ++ w) := by
  have blank : results space ⟨seen, w, []⟩ = [] := by
    cases w with
    | nil => rfl
    | cons c w =>
      rw [space, results]
      simp [solid c rfl]
  have all : results (seqs [litIgnoringCase name, .star true space, .group 1 number]) ⟨[], value, []⟩ =
      results (.group 1 number) ⟨seen, w, []⟩ := by
    rw [seqs, results_seq_of read, seqs, results_seq_of (results_star_stop blank true), seqs, seqs, results_seq]
    simp [results]
  rw [shortened, fullmatch, all]
  obtain ⟨m, member, finished⟩ := results_of_denotes (r := .group 1 number) plain h ⟨seen, w, []⟩ [] (by simp)
  have found : ((results (.group 1 number) ⟨seen, w, []⟩).find? (·.rest.isEmpty)).isSome = true := by
    rw [List.find?_isSome]
    exact ⟨m, member, by simp [finished]⟩
  obtain ⟨m, first⟩ := Option.isSome_iff_exists.mp found
  have ended : m.rest = [] := by simpa using List.find?_some first
  have member := List.mem_of_find?_eq_some first
  rw [results] at member
  obtain ⟨m', within, rfl⟩ := List.mem_map.mp member
  obtain ⟨word, ⟨rest, seenEq⟩, -⟩ := results_denotes number _ m' within
  obtain ⟨seen', rest', groups'⟩ := m'
  dsimp only at rest seenEq ended
  rw [ended, List.append_nil] at rest
  rw [first, Option.map_some, Cursor.group, List.find?_cons_of_pos (by rfl), Option.map_some, Option.getD_some, seenEq,
    Cursor.captured_append, rest]

theorem denotes_slashed {w : Text} : Denotes slashed w ↔
    ∃ a b, (a ≠ [] ∧ ∀ c ∈ a, Text.isDecimal c = true) ∧ (b ≠ [] ∧ ∀ c ∈ b, Text.isDecimal c = true) ∧
      w = a ++ '/' :: b := by
  constructor
  · rintro ⟨a, _, rfl, ha, _, _, rfl, ⟨c, slash, rfl⟩, b, _, rfl, hb, rfl⟩
    obtain rfl : c = '/' := by simpa using slash
    exact ⟨a, b, denotes_plus_chr.mp ha, denotes_plus_chr.mp hb, by simp⟩
  · rintro ⟨a, b, ha, hb, rfl⟩
    exact ⟨a, '/' :: b, rfl, denotes_plus_chr.mpr ha, ['/'], b, rfl, ⟨'/', rfl, rfl⟩, b, [], by simp,
      denotes_plus_chr.mpr hb, rfl⟩

end SwitchOps.Topology

namespace SwitchOps

open Regex Topology

/-- The four short names of an interface agree, and the rows of a port are found under its short name. -/
structure ShortenersAgree (p : PhysicalName) (short : Text) : Prop where
  reader : readerName p.text = short
  cdp : shortCdpInterface p.text = short
  lldp : shortLldpInterface p.text = short
  statusRow : ∀ rows : List InterfaceStatus, (∃ row ∈ rows, row.port.lower = short.lower) →
    (rows.find? fun row => row.port.lower = (readerName p.text).lower).isSome = true
  poeRow : ∀ ports : List PoePort, (∃ port ∈ ports, port.interface.lower = short.lower) →
    (ports.find? fun port => port.interface.lower = (readerName p.text).lower).isSome = true
  cdpRow : ∀ block neighbor, field cdpLocal block = some p.text → cdpBlock block = some neighbor →
    neighbor.localInterface = short
  lldpRow : ∀ block neighbor, field lldpLocal block = some p.text → lldpBlock block = some neighbor →
    neighbor.localInterface = short

/-- The rows are found wherever the names agree. -/
theorem ShortenersAgree.of_names {p : PhysicalName} {short : Text} (reader : readerName p.text = short)
    (cdp : shortCdpInterface p.text = short) (lldp : shortLldpInterface p.text = short) : ShortenersAgree p short := by
  refine ⟨reader, cdp, lldp, ?_, ?_, ?_, ?_⟩
  · rintro rows ⟨row, here, port⟩
    rw [List.find?_isSome]
    exact ⟨row, here, by rw [reader]; exact decide_eq_true port⟩
  · rintro ports ⟨port, here, interface⟩
    rw [List.find?_isSome]
    exact ⟨port, here, by rw [reader]; exact decide_eq_true interface⟩
  · intro block neighbor listed read
    rw [cdpBlock] at read
    obtain ⟨device, -, rfl⟩ := Option.map_eq_some_iff.mp read
    show ((field cdpLocal block).map shortCdpInterface).getD [] = short
    rw [listed, Option.map_some, Option.getD_some, cdp]
  · intro block neighbor listed read
    rw [lldpBlock, listed, Option.bind_some] at read
    obtain ⟨name, -, rfl⟩ := Option.map_eq_some_iff.mp read
    exact lldp

namespace PhysicalName

variable {p : PhysicalName}

theorem isSpace_of_mem {c : Char} (h : c ∈ p.text) : Text.isSpace c = false := isSpace_of_nameChar (nameChar_of_mem h)

theorem isSpace_head_suffix : ∀ c ∈ p.suffix.head?, Text.isSpace c = false := by
  intro c here
  exact isSpace_of_mem (List.mem_append_right _ (List.mem_of_mem_head? here))

/-- A suffix is two numbers and a slash exactly if there are two numbers. -/
theorem denotes_slashed_suffix : Denotes slashed p.suffix ↔ p.numbers.length = 2 := by
  rw [denotes_slashed]
  constructor
  · rintro ⟨a, b, ha, hb, split⟩
    have parts : (Text.join "/" [a, b]).splitOn '/' = [a, b] :=
      splitOn_join (.inl rfl) (by simpa using ⟨ha, hb⟩)
    have whole : Text.join "/" [a, b] = p.suffix := by
      rw [split]
      simp [Text.join]
    rw [whole, p.splitOn_suffix] at parts
    simpa using congrArg List.length parts
  · intro two
    obtain ⟨m, n, numbers⟩ := List.length_eq_two.mp two
    have digits : ∀ n, Text.ofNat n ≠ [] ∧ ∀ c ∈ Text.ofNat n, Text.isDecimal c = true :=
      fun n => ⟨Text.ofNat_ne_nil n, fun c here => Text.isDecimal_of_isDigit (Text.isDigit_of_mem_ofNat here)⟩
    exact ⟨_, _, digits m, digits n, by rw [suffix, numbers]; simp [Text.join]⟩

theorem results_gigabit (gigabit : p.family = "GigabitEthernet".toList) :
    results (litIgnoringCase "gigabitethernet") ⟨[], p.text, []⟩ =
      [⟨"GigabitEthernet".toList.reverse ++ [], p.suffix, []⟩] := by
  have spelled : spells "gigabitethernet" "GigabitEthernet" = true := by decide +kernel
  rw [text, gigabit]
  exact results_litIgnoringCase_of_spells spelled [] p.suffix []

/-- The name of another family is not read. -/
theorem shortened_other (gigabit : p.family = "GigabitEthernet".toList) {name abbreviation : Text} {number : Regex}
    {c : Char} (head : c ∈ name.head?) (differs : sameIgnoringCase c 'G' = false) :
    shortened p.text name number abbreviation = none := by
  rw [← Option.not_isSome_iff_eq_none]
  intro matched
  obtain ⟨letters, w, split, spelled, -⟩ := denotes_of_shortened matched fun c => isSpace_of_mem
  obtain ⟨length, same⟩ := same_of_denotes_litIgnoringCase spelled
  cases letters with
  | nil =>
    cases name with
    | nil => cases head
    | cons a name => cases length
  | cons a letters =>
    have first : 'G' = a := by
      rw [text, gigabit] at split
      exact (List.cons.inj split).1
    rw [first, same c a head rfl] at differs
    cases differs

/-- The CDP parser shortens a gigabit interface with two numbers, and leaves one with three. -/
theorem shortCdpInterface_gigabit (gigabit : p.family = "GigabitEthernet".toList) :
    shortCdpInterface p.text = "Gi".toList ++ p.suffix ↔ p.numbers.length = 2 := by
  have fast : ∀ number abbreviation, shortened p.text "fastethernet" number abbreviation = none :=
    fun _ _ => shortened_other gigabit (c := 'f') rfl (by decide)
  have ten : ∀ number abbreviation, shortened p.text "tengigabitethernet" number abbreviation = none :=
    fun _ _ => shortened_other gigabit (c := 't') rfl (by decide)
  rw [shortCdpInterface, p.text_strip, fast, ten, Option.or_none, Option.or_none, ← denotes_slashed_suffix]
  constructor
  · intro short
    by_contra refused
    have unread : shortened p.text "gigabitethernet" slashed "Gi" = none := by
      rw [← Option.not_isSome_iff_eq_none]
      intro matched
      obtain ⟨letters, w, split, spelled, number⟩ := denotes_of_shortened matched fun c => isSpace_of_mem
      rw [text, gigabit] at split
      have size : "GigabitEthernet".toList.length = letters.length := by
        rw [(same_of_denotes_litIgnoringCase spelled).1]
        decide
      obtain ⟨-, rest⟩ := List.append_inj split size
      rw [rest] at refused
      exact refused number
    rw [unread, Option.getD_none, text, gigabit] at short
    exact absurd (List.append_cancel_right short) (by decide)
  · intro two
    rw [shortened_of_denotes (results_gigabit gigabit) isSpace_head_suffix _ two, Option.getD_some]
    simp [slashed, Plain, seqs, plus, digit]

theorem shortLldpInterface_gigabit (gigabit : p.family = "GigabitEthernet".toList) (two : p.numbers.length = 2) :
    shortLldpInterface p.text = "Gi".toList ++ p.suffix := by
  rw [shortLldpInterface, p.text_strip, shortened_of_denotes (results_gigabit gigabit) isSpace_head_suffix, Option.some_or, Option.getD_some]
  · simp [slashed, Plain, seqs, plus, opt, digit]
  · exact ⟨p.suffix, [], by simp, denotes_slashed_suffix.mpr two, .inr rfl⟩

end PhysicalName

/-- **The shorteners agree on gigabit interfaces with two numbers only.** -/
theorem shortenersAgree_iff (p : PhysicalName) :
    (∃ short, shortInterface p.text = .ok short ∧ ShortenersAgree p short) ↔
      p.family = "GigabitEthernet".toList ∧ p.numbers.length = 2 := by
  constructor
  · rintro ⟨short, ok, agree⟩
    obtain ⟨abbreviation, listed⟩ := exists_short p.family_mem
    rw [p.shortInterface_text, PhysicalName.short_eq listed] at ok
    have shortened := Except.ok.inj ok
    have reader := agree.reader
    rw [p.readerName_text, ← shortened] at reader
    have table : ∀ entry ∈ shortPrefixes, PhysicalName.readerFamily entry.1 = entry.2 →
        entry.1 = "GigabitEthernet".toList ∧ entry.2 = "Gi".toList := by decide
    obtain ⟨gigabit, abbreviated⟩ := table _ listed (List.append_cancel_right reader)
    dsimp only at gigabit abbreviated
    have cdp := agree.cdp
    rw [← shortened, abbreviated] at cdp
    exact ⟨gigabit, (PhysicalName.shortCdpInterface_gigabit gigabit).mp cdp⟩
  · rintro ⟨gigabit, two⟩
    have listed : (p.family, "Gi".toList) ∈ shortPrefixes := by
      rw [gigabit]
      decide
    refine ⟨p.short, p.shortInterface_text, ?_⟩
    rw [PhysicalName.short_eq listed]
    refine .of_names ?_ ?_ ?_
    · rw [p.readerName_text, gigabit]
      rfl
    · exact (PhysicalName.shortCdpInterface_gigabit gigabit).mpr two
    · exact PhysicalName.shortLldpInterface_gigabit gigabit two

theorem gigabitEthernet_mem : ("GigabitEthernet" : Text) ∈ families := by decide

/-- A gigabit interface of a stack member. -/
def stackPort : PhysicalName where
  family := "GigabitEthernet"
  numbers := [1, 0, 5]
  family_mem := gigabitEthernet_mem
  levels := .inr rfl
  bounded := by decide

theorem not_shortenersAgree_stackPort :
    ¬∀ p : PhysicalName, ∃ short, shortInterface p.text = .ok short ∧ ShortenersAgree p short := by
  intro claimed
  obtain ⟨short, ok, agree⟩ := claimed stackPort
  have named : shortInterface stackPort.text = .ok "Gi1/0/5".toList := by decide +kernel
  have cdp : shortCdpInterface stackPort.text ≠ "Gi1/0/5".toList := by decide +kernel
  rw [named] at ok
  exact cdp (agree.cdp.trans (Except.ok.inj ok).symm)

end SwitchOps
