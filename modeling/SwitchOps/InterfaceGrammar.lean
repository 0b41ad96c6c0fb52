import Mathlib.Data.List.Find
import SwitchOps.InterfaceNames
import SwitchOps.Lib.Tables

/-!
# The grammar of interface names

`Spells` says which names are spellings of a port: the letters of a family, in any case, and its numbers in decimal
digits of any script. `normalize_interface` hands the numbers of such a name to `int` (`normalizeInterface_of_spells`),
which refuses a digit that is not decimal and a number of more than 4300 digits. Nothing catches that, so
`normalizesWell_iff`: the function is total, canonical and inverse to the shortener exactly on the names whose
numbers `int` can read.
-/

namespace SwitchOps

/-! ## The grammar -/

/-- No character is a control character. -/
def PrintableName (name : Text) : Prop := name.any (fun c => c.toNat < 32 || c.toNat == 127) = false

/-- A name spells a family and numerals. -/
inductive Spells (name : Text) : Text → List Text → Prop
  | physical {pre family : Text} {numerals : List Text} : (pre, family) ∈ physicalPrefixes →
      Text.startsWith name.strip.lower pre = true → name.strip.drop pre.length = Text.join "/" numerals →
      numerals.length = 2 ∨ numerals.length = 3 →
      (∀ numeral ∈ numerals, numeral ≠ [] ∧ ∀ c ∈ numeral, Text.isDecimal c = true) → Spells name family numerals
  | vlan {numeral : Text} : name.strip.lower = "vlan" ++ numeral → Text.isdigit numeral = true →
      Spells name "Vlan" [numeral]

/-- The canonical grammar: a family in full, and plain numbers. -/
inductive Canonical : Text → Prop
  | physical {family : Text} {numbers : List Nat} : family ∈ families → numbers.length = 2 ∨ numbers.length = 3 →
      Canonical (family ++ Text.join "/" (numbers.map Text.ofNat))
  | vlan (number : Nat) : Canonical ("Vlan" ++ Text.ofNat number)

/-- Two spellings of one port: the same family and numbers of the same values. -/
def SamePort (name other : Text) : Prop :=
  ∃ family numerals others, Spells name family numerals ∧ Spells other family others ∧
    numerals.map (Text.valueFrom 0) = others.map (Text.valueFrom 0)

/-- `int` can read the numeral. -/
def ReadableNumeral (numeral : Text) : Prop :=
  (∀ c ∈ numeral, Text.isDecimal c = true) ∧ numeral.length ≤ Text.digitLimit

/-- `normalize_interface` accepts exactly its grammar and is canonical, at one name. -/
structure NormalizesWell (name : Text) : Prop where
  total : (∃ message, normalizeInterface name = .error (.commandNotAllowed message)) ∨
    ∃ canonical, normalizeInterface name = .ok canonical ∧ Canonical canonical
  accepts : (∃ canonical, normalizeInterface name = .ok canonical) ↔
    PrintableName name ∧ ∃ family numerals, Spells name family numerals
  idempotent : ∀ canonical, normalizeInterface name = .ok canonical → normalizeInterface canonical = .ok canonical
  agrees : ∀ other canonical others, SamePort name other → normalizeInterface name = .ok canonical →
    normalizeInterface other = .ok others → canonical = others
  inverse : Canonical name → (shortInterface name).bind normalizeInterface = .ok name

/-! ## Numerals -/

theorem valueFrom_isSome {numeral : Text} {acc : Nat} :
    (Text.valueFrom acc numeral).isSome = true ↔ ∀ c ∈ numeral, Text.isDecimal c = true := by
  induction numeral generalizing acc with
  | nil => exact ⟨fun _ c here => absurd here List.not_mem_nil, fun _ => rfl⟩
  | cons c numeral ih =>
    rw [Text.valueFrom, List.forall_mem_cons, Text.isDecimal]
    cases Text.decimalValue c with
    | none => exact ⟨fun some => absurd some Bool.false_ne_true, fun all => absurd all.1 Bool.false_ne_true⟩
    | some d =>
      rw [Option.bind_some, ih]
      exact (and_iff_right rfl).symm

theorem toInt_isSome {numeral : Text} (nonempty : numeral ≠ []) :
    (Text.toInt numeral).isSome = true ↔ ReadableNumeral numeral := by
  rw [Text.toInt, ReadableNumeral]
  by_cases long : Text.digitLimit < numeral.length
  · rw [if_pos (by simp [long])]
    exact ⟨fun some => absurd some Bool.false_ne_true, fun readable => absurd readable.2 (Nat.not_le.mpr long)⟩
  · rw [if_neg (by simpa [nonempty] using long), valueFrom_isSome]
    exact (and_iff_left (Nat.not_lt.mp long)).symm

/-- `int` reads all of several texts, or raises at one of them. -/
theorem mapM_toInt_isSome {numerals : List Text} (nonempty : ∀ numeral ∈ numerals, numeral ≠ []) :
    (numerals.mapM Text.toInt).isSome = true ↔ ∀ numeral ∈ numerals, ReadableNumeral numeral := by
  induction numerals with
  | nil => exact ⟨fun _ numeral here => absurd here List.not_mem_nil, fun _ => rfl⟩
  | cons numeral numerals ih =>
    obtain ⟨first, others⟩ := List.forall_mem_cons.mp nonempty
    rw [List.mapM_cons, List.forall_mem_cons, ← ih others, ← toInt_isSome first]
    cases Text.toInt numeral with
    | none => exact ⟨fun some => absurd some Bool.false_ne_true, fun all => absurd all.1 Bool.false_ne_true⟩
    | some n =>
      cases numerals.mapM Text.toInt with
      | none => exact ⟨fun some => absurd some Bool.false_ne_true, fun all => absurd all.2 Bool.false_ne_true⟩
      | some ns => exact ⟨fun _ => ⟨rfl, rfl⟩, fun _ => rfl⟩

theorem valueFrom_of_toInt {numeral : Text} {n : Nat} (h : Text.toInt numeral = some n) :
    Text.valueFrom 0 numeral = some n := by
  rw [Text.toInt] at h
  split at h
  · cases h
  · exact h

/-- What `int` reads is the value. -/
theorem map_valueFrom_of_mapM_toInt {numerals : List Text} {numbers : List Nat}
    (h : numerals.mapM Text.toInt = some numbers) : numerals.map (Text.valueFrom 0) = numbers.map some := by
  induction numerals generalizing numbers with
  | nil =>
    cases h
    rfl
  | cons numeral numerals ih =>
    rw [List.mapM_cons] at h
    cases first : Text.toInt numeral with
    | none => rw [first] at h; cases h
    | some n =>
      cases rest : numerals.mapM Text.toInt with
      | none => rw [first, rest] at h; cases h
      | some ns =>
        rw [first, rest] at h
        cases h
        rw [List.map_cons, List.map_cons, valueFrom_of_toInt first, ih rest]

/-! ## Spellings -/

theorem isAlpha_of_mem_physicalPrefixes {entry : Text × Text} (h : entry ∈ physicalPrefixes) :
    ∀ c ∈ entry.1, c.isAlpha = true := by
  have all : ∀ entry ∈ physicalPrefixes, ∀ c ∈ entry.1, c.isAlpha = true := by decide
  exact all entry h

/-- Of letters and something else, letters are a beginning only if they are one of the letters. -/
theorem startsWith_append {letters rest pre : Text} (alpha : ∀ c ∈ pre, c.isAlpha = true)
    (head : ∀ c ∈ rest.head?, c.isAlpha = false) :
    Text.startsWith (letters ++ rest) pre = Text.startsWith letters pre := by
  rw [Text.startsWith, Text.startsWith, Bool.eq_iff_iff, List.isPrefixOf_iff_prefix, List.isPrefixOf_iff_prefix]
  constructor
  · intro begins
    obtain ⟨after, whole⟩ := begins
    rcases List.append_eq_append_iff.mp whole with ⟨within, rfl, -⟩ | ⟨longer, rfl, more⟩
    · exact List.prefix_append _ _
    · cases longer with
      | nil => rw [List.append_nil]
      | cons c longer =>
        have letter := alpha c (List.mem_append_right _ List.mem_cons_self)
        rw [head c (by rw [more]; rfl)] at letter
        cases letter
  · intro within
    exact within.trans (List.prefix_append _ _)

/-- The longest spelling that a name begins with, where no letter follows. -/
theorem find_spelling {entry : Text × Text} (h : entry ∈ physicalPrefixes) {rest : Text}
    (head : ∀ c ∈ rest.head?, c.isAlpha = false) :
    (physicalPrefixes.insertionSort fun a b => b.1.length ≤ a.1.length).find?
      (fun candidate => Text.startsWith (entry.1 ++ rest) candidate.1) = some entry := by
  have table : ∀ entry ∈ physicalPrefixes,
      (physicalPrefixes.insertionSort fun a b => b.1.length ≤ a.1.length).find?
        (fun candidate => Text.startsWith entry.1 candidate.1) = some entry := by decide +kernel
  rw [← table entry h]
  apply List.find?_congr
  intro candidate here
  exact startsWith_append (isAlpha_of_mem_physicalPrefixes ((List.perm_insertionSort _ _).mem_iff.mp here)) head

theorem startsWith_vlan_of_mem {entry : Text × Text} (h : entry ∈ physicalPrefixes) (rest : Text) :
    Text.startsWith (entry.1 ++ rest) "vlan" = false := by
  have first : ∀ entry ∈ physicalPrefixes, ∃ c cs, entry.1 = c :: cs ∧ c ≠ 'v' := by
    simp [physicalPrefixes]
  obtain ⟨c, cs, split, other⟩ := first entry h
  rw [split]
  simp [Text.startsWith, List.isPrefixOf, other.symm]

theorem fullmatch_join {numerals : List Text} (levels : numerals.length = 2 ∨ numerals.length = 3)
    (decimal : ∀ numeral ∈ numerals, numeral ≠ [] ∧ ∀ c ∈ numeral, Text.isDecimal c = true) :
    (Regex.fullmatch suffixPattern (Text.join "/" numerals)).isSome = true :=
  (Regex.fullmatch_isSome_iff plain_suffixPattern).mpr (denotes_suffixPattern.mpr ⟨numerals, levels, decimal, rfl⟩)

theorem splitOn_join {numerals : List Text} (levels : numerals.length = 2 ∨ numerals.length = 3)
    (decimal : ∀ numeral ∈ numerals, numeral ≠ [] ∧ ∀ c ∈ numeral, Text.isDecimal c = true) :
    (Text.join "/" numerals).splitOn '/' = numerals := by
  apply List.splitOn_intercalate '/'
  · intro numeral here slash
    have digit := (decimal numeral here).2 '/' slash
    rw [not_isDecimal_slash] at digit
    cases digit
  · rintro rfl
    simp at levels

/-- What follows the letters of a spelling begins with no letter, also in lower case. -/
theorem exists_lower_of_startsWith {name : Text} {numerals : List Text} {entry : Text × Text}
    (h : entry ∈ physicalPrefixes) (begins : Text.startsWith name.lower entry.1 = true)
    (suffix : name.drop entry.1.length = Text.join "/" numerals)
    (levels : numerals.length = 2 ∨ numerals.length = 3)
    (decimal : ∀ numeral ∈ numerals, numeral ≠ [] ∧ ∀ c ∈ numeral, Text.isDecimal c = true) :
    ∃ rest, name.lower = entry.1 ++ rest ∧ ∀ c ∈ rest.head?, c.isAlpha = false := by
  obtain ⟨rest, whole⟩ := List.isPrefixOf_iff_prefix.mp begins
  have ascii : ∀ a ∈ entry.1, a.toNat < 128 := by
    intro a here
    have range := Text.toNat_of_isAlpha (isAlpha_of_mem_physicalPrefixes h a here)
    omega
  refine ⟨rest, whole.symm, ?_⟩
  rcases Text.exists_lower_drop whole.symm ascii with lowered | lowered
  · rw [lowered, suffix]
    obtain ⟨numeral, others, rfl⟩ : ∃ numeral others, numerals = numeral :: others := by
      cases numerals with
      | nil => simp at levels
      | cons numeral others => exact ⟨numeral, others, rfl⟩
    obtain ⟨nonempty, digits⟩ := decimal numeral List.mem_cons_self
    obtain ⟨d, ds, rfl⟩ := List.exists_cons_of_ne_nil nonempty
    have joined : ∃ more, Text.join "/" ((d :: ds) :: others) = d :: more := by
      cases others with
      | nil => exact ⟨ds, by simp [Text.join]⟩
      | cons second others => exact ⟨_, by rw [Text.join, List.intercalate_cons_cons]; rfl⟩
    obtain ⟨more, joined⟩ := joined
    rw [joined]
    intro c head
    exact Text.isAlpha_head_lower (digits d List.mem_cons_self) head
  · rw [lowered]
    rintro c ⟨⟩
    decide

/-- **What is read of a spelling**: its numbers, where `int` reads them all. -/
theorem normalizeInterface_of_spells {name family : Text} {numerals : List Text} (printable : PrintableName name)
    (h : Spells name family numerals) :
    normalizeInterface name = match numerals.mapM Text.toInt with
      | none => .error .valueError
      | some numbers => .ok (family ++ Text.join "/" (numbers.map Text.ofNat)) := by
  have nonempty : name.isEmpty = false := by
    rw [List.isEmpty_eq_false_iff]
    rintro rfl
    cases h with
    | physical listed begins => 
      have none : ∀ entry ∈ physicalPrefixes, Text.startsWith [] entry.1 = false := by decide
      have impossible := none _ listed
      rw [show Text.startsWith [] _ = true from begins] at impossible
      cases impossible
    | vlan spelled => cases spelled
  unfold normalizeInterface
  rw [if_neg (by rw [nonempty]; exact Bool.false_ne_true), if_neg (by rw [printable]; exact Bool.false_ne_true)]
  dsimp only
  cases h with
  | physical listed begins suffix levels decimal =>
    obtain ⟨rest, lowered, head⟩ := exists_lower_of_startsWith listed begins suffix levels decimal
    rw [lowered, startsWith_vlan_of_mem listed, if_neg Bool.false_ne_true, find_spelling listed head]
    dsimp only
    have matched : ¬(Regex.fullmatch suffixPattern (Text.join "/" numerals)).isNone = true := by
      rw [Option.isNone_iff_eq_none, ← Option.not_isSome_iff_eq_none, not_not]
      exact fullmatch_join levels decimal
    rw [suffix, if_neg matched]
    have parts := splitOn_join levels decimal
    cases numbers : numerals.mapM Text.toInt with
    | none => rw [parts, numbers]
    | some read => rw [parts, numbers]
  | @vlan numeral spelled digits =>
    have begins : Text.startsWith ("vlan".toList ++ numeral) "vlan" = true := rfl
    have rest : ("vlan".toList ++ numeral).drop 4 = numeral := rfl
    rw [spelled, begins, if_pos rfl, rest, digits, List.mapM_cons, List.mapM_nil]
    cases Text.toInt numeral with
    | none => rfl
    | some n => simp [Text.join]

/-- What is not refused as a command is a spelling. -/
theorem spells_of_normalizeInterface {name : Text}
    (h : ∀ message, normalizeInterface name ≠ .error (.commandNotAllowed message)) :
    PrintableName name ∧ ∃ family numerals, Spells name family numerals := by
  unfold normalizeInterface at h
  split at h
  · exact absurd rfl (h _)
  split at h
  · exact absurd rfl (h _)
  next printable =>
  refine ⟨(Bool.not_eq_true _).mp printable, ?_⟩
  dsimp only at h
  split at h
  · next begins =>
    split at h
    · exact absurd rfl (h _)
    · next digits =>
      obtain ⟨numeral, whole⟩ := List.isPrefixOf_iff_prefix.mp begins
      have rest : name.strip.lower.drop 4 = numeral := by
        rw [← whole]
        rfl
      rw [rest] at digits
      exact ⟨_, _, .vlan whole.symm (by simpa using digits)⟩
  · split at h
    · exact absurd rfl (h _)
    next pre family found =>
    split at h
    · exact absurd rfl (h _)
    next suffix =>
    rw [Bool.not_eq_true, Option.isNone_eq_false_iff] at suffix
    obtain ⟨numerals, levels, decimal, joined⟩ :=
      denotes_suffixPattern.mp ((Regex.fullmatch_isSome_iff plain_suffixPattern).mp suffix)
    have listed : (pre, family) ∈ physicalPrefixes :=
      (List.perm_insertionSort _ _).mem_iff.mp (List.mem_of_find?_eq_some found)
    have begins : Text.startsWith name.strip.lower pre = true := by simpa using List.find?_some found
    exact ⟨family, numerals, .physical listed begins joined levels decimal⟩

theorem Spells.ne_nil {name family : Text} {numerals : List Text} (h : Spells name family numerals) :
    ∀ numeral ∈ numerals, numeral ≠ [] := by
  cases h with
  | physical _ _ _ _ decimal => exact fun numeral here => (decimal numeral here).1
  | vlan _ digits =>
    intro numeral here
    rw [List.mem_singleton] at here
    rintro rfl
    rw [← here] at digits
    exact absurd digits (by decide)

/-- A spelling is read exactly if `int` can read its numerals. -/
theorem isOk_iff_of_spells {name family : Text} {numerals : List Text} (printable : PrintableName name)
    (h : Spells name family numerals) :
    (∃ canonical, normalizeInterface name = .ok canonical) ↔ ∀ numeral ∈ numerals, ReadableNumeral numeral := by
  rw [normalizeInterface_of_spells printable h, ← mapM_toInt_isSome h.ne_nil]
  cases numerals.mapM Text.toInt with
  | none =>
    constructor
    · rintro ⟨canonical, ok⟩
      cases ok
    · exact fun some => absurd some Bool.false_ne_true
  | some numbers => exact ⟨fun _ => rfl, fun _ => ⟨_, rfl⟩⟩

/-- Two spellings of one port that are read are read alike. -/
theorem eq_of_samePort {name other canonical others : Text} (same : SamePort name other)
    (h : normalizeInterface name = .ok canonical) (h' : normalizeInterface other = .ok others) : canonical = others := by
  obtain ⟨family, numerals, numerals', spells, spells', values⟩ := same
  have printable := (spells_of_normalizeInterface fun message refused => by rw [h] at refused; cases refused).1
  have printable' := (spells_of_normalizeInterface fun message refused => by rw [h'] at refused; cases refused).1
  rw [normalizeInterface_of_spells printable spells] at h
  rw [normalizeInterface_of_spells printable' spells'] at h'
  cases read : numerals.mapM Text.toInt with
  | none => rw [read] at h; cases h
  | some numbers =>
    cases read' : numerals'.mapM Text.toInt with
    | none => rw [read'] at h'; cases h'
    | some numbers' =>
      rw [map_valueFrom_of_mapM_toInt read, map_valueFrom_of_mapM_toInt read'] at values
      have numbersEq : numbers = numbers' := List.map_injective_iff.mpr (Option.some_injective _) values
      rw [read] at h
      rw [read'] at h'
      rw [← Except.ok.inj h, ← Except.ok.inj h', numbersEq]

/-! ## Canonical names -/

theorem printableName_of_nameChar {name : Text} (h : ∀ c ∈ name, PhysicalName.nameChar c = true) : PrintableName name := by
  rw [PrintableName, List.any_eq_false]
  intro c here
  obtain ⟨low, high⟩ := PhysicalName.toNat_of_nameChar (h c here)
  simp
  omega

/-- A canonical name of a physical interface spells itself. -/
theorem spells_physical {family : Text} {numbers : List Nat} (known : family ∈ families)
    (levels : numbers.length = 2 ∨ numbers.length = 3) :
    PrintableName (family ++ Text.join "/" (numbers.map Text.ofNat)) ∧
      Spells (family ++ Text.join "/" (numbers.map Text.ofNat)) family (numbers.map Text.ofNat) := by
  have suffix : ∀ c ∈ Text.join "/" (numbers.map Text.ofNat), c.isDigit = true ∨ c = '/' := by
    intro c here
    rcases PhysicalName.mem_join here with slash | ⟨part, listed, digit⟩
    · exact .inr (by simpa using slash)
    · obtain ⟨n, _, rfl⟩ := List.mem_map.mp listed
      exact .inl (Text.isDigit_of_mem_ofNat digit)
  have chars : ∀ c ∈ family ++ Text.join "/" (numbers.map Text.ofNat), PhysicalName.nameChar c = true := by
    intro c here
    rcases List.mem_append.mp here with here | here
    · rw [PhysicalName.nameChar, PhysicalName.isAlphanum_of_mem_families known c here, Bool.true_or]
    · rcases suffix c here with digit | rfl
      · rw [PhysicalName.nameChar, Char.isAlphanum, digit, Bool.or_true, Bool.true_or]
      · decide
  have stripped := Text.strip_eq_self fun c here => PhysicalName.isSpace_of_nameChar (chars c here)
  have table : ∀ family ∈ families, (family.lower, family) ∈ physicalPrefixes ∧
      family.lower.length = family.length := by decide
  obtain ⟨listed, length⟩ := table family known
  refine ⟨printableName_of_nameChar chars, .physical listed ?_ ?_ ?_ ?_⟩
  · rw [stripped, Text.lower_append]
    exact List.isPrefixOf_iff_prefix.mpr (List.prefix_append _ _)
  · rw [stripped, length, List.drop_left]
  · rwa [List.length_map]
  · intro numeral here
    obtain ⟨n, _, rfl⟩ := List.mem_map.mp here
    exact ⟨Text.ofNat_ne_nil n, fun c digit => Text.isDecimal_of_isDigit (Text.isDigit_of_mem_ofNat digit)⟩

theorem spells_vlan (n : Nat) :
    PrintableName ("Vlan" ++ Text.ofNat n) ∧ Spells ("Vlan" ++ Text.ofNat n) "Vlan" [Text.ofNat n] := by
  refine ⟨printableName_of_nameChar fun c here => nameChar_of_mem_vlan here, .vlan ?_ (Text.isdigit_ofNat n)⟩
  rw [strip_vlan, lower_vlan]

theorem canonical_of_ok {name canonical : Text} (h : normalizeInterface name = .ok canonical) : Canonical canonical := by
  rcases normalizeInterface_ok h with ⟨n, rfl⟩ | ⟨p, rfl⟩
  · exact .vlan n
  · exact .physical p.family_mem p.levels

/-! ## The shortener -/

/-- The short spelling of a family. -/
theorem shortenCanonical_append {entry : Text × Text} (h : entry ∈ shortPrefixes) (rest : Text) :
    shortenCanonical (entry.1 ++ rest) = entry.2 ++ rest := by
  simp only [shortPrefixes, List.mem_cons, List.not_mem_nil, or_false] at h
  rcases h with rfl | rfl | rfl | rfl | rfl | rfl <;> rfl

theorem exists_short {family : Text} (h : family ∈ families) : ∃ short, (family, short) ∈ shortPrefixes := by
  have table : ∀ family ∈ families, ∃ entry ∈ shortPrefixes, entry.1 = family := by decide
  obtain ⟨entry, listed, rfl⟩ := table family h
  exact ⟨entry.2, listed⟩

theorem isAlpha_of_isDigit {c : Char} (h : c.isDigit = true) : c.isAlpha = false := by
  rw [Bool.eq_false_iff]
  intro letter
  have letters := Text.toNat_of_isAlpha letter
  have digits := Text.toNat_of_isDigit h
  omega

/-- A short name is read as the name it is short for. -/
theorem normalizeInterface_shorten {p : PhysicalName} {short : Text} (h : (p.family, short) ∈ shortPrefixes) :
    normalizeInterface (short ++ p.suffix) = .ok p.text := by
  have table : ∀ entry ∈ shortPrefixes, (entry.2.lower, entry.1) ∈ physicalPrefixes ∧
      entry.2.lower.length = entry.2.length ∧ entry.2 ≠ [] ∧ ∀ c ∈ entry.2, PhysicalName.nameChar c = true := by decide
  obtain ⟨listed, length, nonempty, chars⟩ := table _ h
  obtain ⟨c, rest, suffix, digit⟩ := p.head?_suffix
  apply normalizeInterface_of_spelling p nonempty chars length (startsWith_vlan_of_mem listed _)
  apply find_spelling listed
  rw [suffix]
  rintro d ⟨⟩
  exact isAlpha_of_isDigit digit

/-! ## The names that IOS lists -/

theorem ofNat_injective : Function.Injective Text.ofNat := by
  intro m n same
  have values := congrArg (Text.valueFrom 0) same
  rw [Text.valueFrom_ofNat, Text.valueFrom_ofNat] at values
  exact Option.some.inj values

namespace PhysicalName

variable {p q : PhysicalName}

/-- The name under which the tables of IOS list an interface. -/
def short (p : PhysicalName) : Text := shortenCanonical p.text

theorem short_eq {abbreviation : Text} (listed : (p.family, abbreviation) ∈ shortPrefixes) :
    p.short = abbreviation ++ p.suffix :=
  shortenCanonical_append listed _

theorem exists_short_eq (p : PhysicalName) :
    ∃ abbreviation, (p.family, abbreviation) ∈ shortPrefixes ∧ p.short = abbreviation ++ p.suffix := by
  obtain ⟨abbreviation, listed⟩ := exists_short p.family_mem
  exact ⟨abbreviation, listed, short_eq listed⟩

theorem nameChar_of_mem_short {c : Char} (h : c ∈ p.short) : nameChar c = true := by
  obtain ⟨abbreviation, listed, short⟩ := p.exists_short_eq
  have table : ∀ entry ∈ shortPrefixes, ∀ c ∈ entry.2, nameChar c = true := by decide
  rw [short] at h
  rcases List.mem_append.mp h with h | h
  · exact table _ listed c h
  · exact nameChar_of_mem (List.mem_append_right _ h)

theorem isToken_short (p : PhysicalName) : Text.IsToken p.short where
  ne_nil := by
    obtain ⟨abbreviation, listed, short⟩ := p.exists_short_eq
    have table : ∀ entry ∈ shortPrefixes, entry.2 ≠ [] := by decide
    rw [short]
    exact List.append_ne_nil_of_left_ne_nil (table _ listed) _
  solid _ here := isSpace_of_nameChar (nameChar_of_mem_short here)

theorem normalizeInterface_shortName (p : PhysicalName) : normalizeInterface p.short = .ok p.text := by
  obtain ⟨abbreviation, listed, short⟩ := p.exists_short_eq
  rw [short]
  exact normalizeInterface_shorten listed

theorem shortInterface_text (p : PhysicalName) : shortInterface p.text = .ok p.short := by
  rw [shortInterface, normalizeInterface_text]
  rfl

/-- A short name is read in lower case as well. -/
theorem normalizeInterface_short_lower (p : PhysicalName) : normalizeInterface p.short.lower = .ok p.text := by
  obtain ⟨abbreviation, listed, short⟩ := p.exists_short_eq
  have table : ∀ entry ∈ shortPrefixes, (entry.2.lower, entry.1) ∈ physicalPrefixes ∧
      entry.2.lower.lower = entry.2.lower ∧ entry.2.lower ≠ [] ∧ ∀ c ∈ entry.2.lower, nameChar c = true := by decide
  obtain ⟨spelled, idem, nonempty, chars⟩ := table _ listed
  obtain ⟨c, rest, suffix, digit⟩ := p.head?_suffix
  rw [short, Text.lower_append, p.suffix_lower]
  apply normalizeInterface_of_spelling p nonempty chars rfl
  · rw [idem]
    exact startsWith_vlan_of_mem spelled _
  · rw [idem]
    apply find_spelling spelled
    rw [suffix]
    rintro d ⟨⟩
    exact isAlpha_of_isDigit digit

theorem text_injective (same : p.text = q.text) : p = q := by
  have head : ∀ p : PhysicalName, ∀ c ∈ p.suffix.head?, c.isDigit = true := by
    intro p c here
    obtain ⟨d, rest, suffix, digit⟩ := p.head?_suffix
    rw [suffix, List.head?_cons, Option.mem_some_iff] at here
    rwa [← here]
  have letters : ∀ family ∈ families, ∀ c ∈ family, c.isAlpha = true := by decide
  have family : p.family = q.family :=
    letters_eq (letters _ p.family_mem) (letters _ q.family_mem) (head p) (head q) same
  have suffix : p.suffix = q.suffix := by
    rw [text, text, family] at same
    exact List.append_cancel_left same
  have numbers : p.numbers = q.numbers := by
    have parts := congrArg (List.splitOn '/') suffix
    rw [p.splitOn_suffix, q.splitOn_suffix] at parts
    exact List.map_injective_iff.mpr ofNat_injective parts
  cases p
  cases q
  cases family
  cases numbers
  rfl

/-- Short names that differ only in case are of one interface. -/
theorem short_lower_injective (same : p.short.lower = q.short.lower) : p = q := by
  have read := p.normalizeInterface_short_lower
  rw [same, q.normalizeInterface_short_lower] at read
  exact text_injective (Except.ok.inj read).symm

theorem short_injective (same : p.short = q.short) : p = q := short_lower_injective (congrArg Text.lower same)

/-- Several ports are told apart by their names in lower case. -/
theorem nodup_lower {α : Type} {rows : List α} {port : α → PhysicalName} (distinct : (rows.map port).Nodup) :
    (rows.map fun row => (port row).short.lower).Nodup := by
  have lowers := distinct.map fun _ _ same => short_lower_injective same
  rwa [List.map_map] at lowers

end PhysicalName

/-! ## The whole function -/

/-- **Names are read well exactly if `int` can read their numbers.** -/
theorem normalizesWell_iff {name : Text} :
    NormalizesWell name ↔ (PrintableName name →
      ∀ family numerals, Spells name family numerals → ∀ numeral ∈ numerals, ReadableNumeral numeral) := by
  constructor
  · intro well printable family numerals spells
    rw [← isOk_iff_of_spells printable spells]
    rcases well.total with ⟨message, refused⟩ | ⟨canonical, ok, -⟩
    · rw [normalizeInterface_of_spells printable spells] at refused
      cases read : numerals.mapM Text.toInt with
      | none => rw [read] at refused; cases refused
      | some numbers => rw [read] at refused; cases refused
    · exact ⟨canonical, ok⟩
  · intro readable
    have accepts : (∃ canonical, normalizeInterface name = .ok canonical) ↔
        PrintableName name ∧ ∃ family numerals, Spells name family numerals := by
      constructor
      · rintro ⟨canonical, ok⟩
        exact spells_of_normalizeInterface fun message refused => by rw [ok] at refused; cases refused
      · rintro ⟨printable, family, numerals, spells⟩
        exact (isOk_iff_of_spells printable spells).mpr (readable printable family numerals spells)
    refine ⟨?_, accepts, fun _ ok => normalizeInterface_idem ok, fun _ _ _ => eq_of_samePort, ?_⟩
    · by_cases refused : ∃ message, normalizeInterface name = .error (.commandNotAllowed message)
      · exact .inl refused
      · obtain ⟨canonical, ok⟩ := accepts.mpr (spells_of_normalizeInterface (not_exists.mp refused))
        exact .inr ⟨canonical, ok, canonical_of_ok ok⟩
    · rintro (@⟨family, numbers, known, levels⟩ | n)
      · obtain ⟨printable, spells⟩ := spells_physical known levels
        have bounded : ∀ n ∈ numbers, (Text.ofNat n).length ≤ Text.digitLimit :=
          fun n here => (readable printable _ _ spells _ (List.mem_map_of_mem here)).2
        obtain ⟨short, listed⟩ := exists_short known
        let p : PhysicalName := ⟨family, numbers, known, levels, bounded⟩
        have read : normalizeInterface p.text = .ok p.text := normalizeInterface_text p
        have shortened : shortenCanonical p.text = short ++ p.suffix := shortenCanonical_append listed _
        show (shortInterface p.text).bind normalizeInterface = .ok p.text
        rw [shortInterface, read, Except.map, shortened]
        exact normalizeInterface_shorten listed
      · obtain ⟨printable, spells⟩ := spells_vlan n
        have bounded := (readable printable _ _ spells _ List.mem_cons_self).2
        have read := normalizeInterface_vlan bounded
        have shortened : shortenCanonical ("Vlan" ++ Text.ofNat n) = "Vlan" ++ Text.ofNat n := rfl
        rw [shortInterface, read, Except.map, shortened]
        exact read

theorem not_normalizesWell_superscript : ¬∀ name, NormalizesWell name := by
  intro claimed
  have read : normalizeInterface "Vlan²" = .error .valueError := by decide +kernel
  rcases (claimed "Vlan²").total with ⟨message, refused⟩ | ⟨canonical, ok, -⟩
  · rw [read] at refused
    cases refused
  · rw [read] at ok
    cases ok

end SwitchOps
