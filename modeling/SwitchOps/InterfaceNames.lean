import SwitchOps.CommandRegistry

/-!
# Canonical interface names

A physical name that `normalize_interface` returns is the rendering of a `PhysicalName`: one of
six families and two or three numbers. What is true of every rendering, such as its alphabet, is
therefore true of every interface that can reach a configuration command; and a rendering is
accepted again and returned as it is (`normalizeInterface_text`).
-/

namespace SwitchOps

/-! ## Physical names -/

/-- The canonical spellings of the interface families. -/
def families : List Text := [
  "FastEthernet", "GigabitEthernet", "TenGigabitEthernet", "TwentyFiveGigE",
  "FortyGigabitEthernet", "HundredGigE"]

/-- A physical interface: its family, and the numbers of its slots and port. -/
structure PhysicalName where
  family : Text
  numbers : List Nat
  family_mem : family ∈ families
  levels : numbers.length = 2 ∨ numbers.length = 3
  bounded : ∀ n ∈ numbers, (Text.ofNat n).length ≤ Text.digitLimit

namespace PhysicalName

/-- The numbers, between slashes. -/
def suffix (p : PhysicalName) : Text := Text.join "/" (p.numbers.map Text.ofNat)

/-- The canonical name. -/
def text (p : PhysicalName) : Text := p.family ++ p.suffix

/-- The alphabet of canonical names. -/
def nameChar (c : Char) : Bool := c.isAlphanum || c == '/'

theorem isAlphanum_of_mem_families {family : Text} (h : family ∈ families) :
    ∀ c ∈ family, c.isAlphanum = true := by
  have hall : ∀ family ∈ families, family.all Char.isAlphanum = true := by decide
  exact List.all_eq_true.mp (hall family h)

theorem mem_join {sep : Text} {parts : List Text} {c : Char} (h : c ∈ Text.join sep parts) :
    c ∈ sep ∨ ∃ part ∈ parts, c ∈ part := by
  induction parts with
  | nil => simp [Text.join] at h
  | cons part parts ih =>
    cases parts with
    | nil =>
      right
      exact ⟨part, List.mem_cons_self, by simpa [Text.join] using h⟩
    | cons next parts =>
      rw [Text.join, List.intercalate_cons_cons] at h
      simp only [List.mem_append] at h
      rcases h with (h | h) | h
      · exact .inr ⟨part, List.mem_cons_self, h⟩
      · exact .inl h
      · rcases ih h with h | ⟨p, hp, hc⟩
        · exact .inl h
        · exact .inr ⟨p, List.mem_cons_of_mem _ hp, hc⟩

/-- A suffix has only ASCII digits and slashes. -/
theorem suffix_char {p : PhysicalName} {c : Char} (h : c ∈ p.suffix) :
    c.isDigit = true ∨ c = '/' := by
  rcases mem_join h with h | ⟨part, hpart, hc⟩
  · right
    simpa using h
  · left
    obtain ⟨n, _, rfl⟩ := List.mem_map.mp hpart
    exact Text.isDigit_of_mem_ofNat hc

/-- Every character of a canonical name is a letter, a digit or a slash. -/
theorem nameChar_of_mem {p : PhysicalName} {c : Char} (h : c ∈ p.text) : nameChar c = true := by
  rcases List.mem_append.mp h with h | h
  · rw [nameChar, isAlphanum_of_mem_families p.family_mem c h, Bool.true_or]
  · rcases suffix_char h with h | rfl
    · rw [nameChar, Char.isAlphanum, h, Bool.or_true, Bool.true_or]
    · decide

theorem toNat_of_nameChar {c : Char} (h : nameChar c = true) : 47 ≤ c.toNat ∧ c.toNat ≤ 122 := by
  simp only [nameChar, Char.isAlphanum, Bool.or_eq_true, beq_iff_eq] at h
  rcases h with (h | h) | rfl
  · have range := Text.toNat_of_isAlpha h
    omega
  · have range := Text.toNat_of_isDigit h
    omega
  · decide

/-- No blank, control character, brace or line break occurs in a canonical name. -/
theorem isSpace_of_nameChar {c : Char} (h : nameChar c = true) : Text.isSpace c = false := by
  obtain ⟨h₁, h₂⟩ := toNat_of_nameChar h
  rw [Text.isSpace, if_pos (by omega)]
  simp only [Bool.or_eq_false_iff, Bool.and_eq_false_iff, decide_eq_false_iff_not, beq_eq_false_iff_ne]
  refine ⟨⟨?_, ?_⟩, ?_⟩
  · rintro rfl
    exact absurd h₁ (by decide)
  · omega
  · omega

end PhysicalName

/-! ## The suffix grammar -/

theorem not_isDecimal_slash : Text.isDecimal '/' = false := by decide

theorem denotes_part {w : Text} :
    Regex.Denotes (.seq (Regex.lit "/") (Regex.plus Regex.digit)) w ↔
      ∃ u, w = '/' :: u ∧ u ≠ [] ∧ ∀ c ∈ u, Text.isDecimal c = true := by
  constructor
  · rintro ⟨_, u, rfl, hslash, hu⟩
    rw [Regex.denotes_lit.mp hslash]
    exact ⟨u, rfl, Regex.denotes_plus_chr.mp hu⟩
  · rintro ⟨u, rfl, hu⟩
    exact ⟨['/'], u, rfl, Regex.denotes_lit.mpr rfl, Regex.denotes_plus_chr.mpr hu⟩

/-- The suffix grammar: two or three runs of decimal digits, joined by slashes. -/
theorem denotes_suffixPattern {w : Text} :
    Regex.Denotes suffixPattern w ↔
      ∃ parts : List Text, (parts.length = 2 ∨ parts.length = 3) ∧
        (∀ part ∈ parts, part ≠ [] ∧ ∀ c ∈ part, Text.isDecimal c = true) ∧
        w = Text.join "/" parts := by
  constructor
  · rintro ⟨u, _, rfl, hu, v, v', rfl, hv, hv'⟩
    have hu := Regex.denotes_plus_chr.mp hu
    obtain ⟨d, rfl, hd⟩ := denotes_part.mp hv
    rcases hv' with hv' | rfl
    · obtain ⟨e, rfl, he⟩ := denotes_part.mp hv'
      refine ⟨[u, d, e], .inr rfl, by simpa using ⟨hu, hd, he⟩, ?_⟩
      simp [Text.join]
    · refine ⟨[u, d], .inl rfl, by simpa using ⟨hu, hd⟩, ?_⟩
      simp [Text.join]
  · rintro ⟨parts, hlen, hparts, rfl⟩
    rcases hlen with hlen | hlen
    · obtain ⟨u, d, rfl⟩ := List.length_eq_two.mp hlen
      have hu := hparts u (by simp)
      have hd := hparts d (by simp)
      exact ⟨u, '/' :: d, by simp [Text.join], Regex.denotes_plus_chr.mpr hu, '/' :: d, [], by simp,
        denotes_part.mpr ⟨d, rfl, hd⟩, .inr rfl⟩
    · obtain ⟨u, d, e, rfl⟩ := List.length_eq_three.mp hlen
      have hu := hparts u (by simp)
      have hd := hparts d (by simp)
      have he := hparts e (by simp)
      exact ⟨u, '/' :: d ++ '/' :: e, by simp [Text.join], Regex.denotes_plus_chr.mpr hu, '/' :: d,
        '/' :: e, rfl, denotes_part.mpr ⟨d, rfl, hd⟩, .inl (denotes_part.mpr ⟨e, rfl, he⟩)⟩

theorem plain_suffixPattern : Regex.Plain suffixPattern := by
  simp [suffixPattern, Regex.Plain, Regex.plus, Regex.opt, Regex.digit, Regex.lit]

/-- Splitting a text of the suffix grammar at its slashes gives its runs of digits. -/
theorem splitOn_of_suffix {w : Text} (h : (Regex.fullmatch suffixPattern w).isSome) :
    ∃ parts : List Text, (parts.length = 2 ∨ parts.length = 3) ∧ w.splitOn '/' = parts := by
  obtain ⟨parts, hlen, hparts, rfl⟩ :=
    denotes_suffixPattern.mp ((Regex.fullmatch_isSome_iff plain_suffixPattern).mp h)
  refine ⟨parts, hlen, List.splitOn_intercalate '/' ?_ ?_⟩
  · intro part hpart hmem
    have := (hparts part hpart).2 '/' hmem
    rw [not_isDecimal_slash] at this
    cases this
  · rintro rfl
    simp at hlen

/-! ## Reading and rendering the numbers -/

/-- `int` on each of several texts reads as many numbers, each within the limit. -/
theorem mapM_toInt {parts : List Text} {numbers : List Nat}
    (h : parts.mapM Text.toInt = some numbers) :
    numbers.length = parts.length ∧ ∀ n ∈ numbers, (Text.ofNat n).length ≤ Text.digitLimit := by
  induction parts generalizing numbers with
  | nil =>
    rw [List.mapM_nil] at h
    cases h
    simp
  | cons part parts ih =>
    rw [List.mapM_cons] at h
    cases hn : Text.toInt part with
    | none => rw [hn] at h; cases h
    | some n =>
      cases hrest : parts.mapM Text.toInt with
      | none => rw [hn, hrest] at h; cases h
      | some rest =>
        rw [hn, hrest] at h
        cases h
        obtain ⟨hlen, hbound⟩ := ih hrest
        refine ⟨by simp [hlen], ?_⟩
        intro m hm
        rcases List.mem_cons.mp hm with rfl | hm
        · exact Text.length_ofNat_of_toInt hn
        · exact hbound m hm

/-- Rendered numbers are read back. -/
theorem mapM_toInt_map_ofNat {numbers : List Nat}
    (h : ∀ n ∈ numbers, (Text.ofNat n).length ≤ Text.digitLimit) :
    (numbers.map Text.ofNat).mapM Text.toInt = some numbers := by
  induction numbers with
  | nil => rfl
  | cons n numbers ih =>
    rw [List.map_cons, List.mapM_cons, Text.toInt_ofNat (h n List.mem_cons_self),
      ih fun m hm => h m (List.mem_cons_of_mem _ hm)]
    rfl

/-! ## What `normalize_interface` returns -/

theorem mem_families_of_mem_physicalPrefixes {entry : Text × Text}
    (h : entry ∈ physicalPrefixes) : entry.2 ∈ families := by
  have hall : ∀ entry ∈ physicalPrefixes, entry.2 ∈ families := by decide
  exact hall entry h

/-- **The names that are accepted**: a VLAN interface, or a physical one. -/
theorem normalizeInterface_ok {name canonical : Text} (h : normalizeInterface name = .ok canonical) :
    (∃ n, canonical = "Vlan" ++ Text.ofNat n) ∨ ∃ p : PhysicalName, canonical = p.text := by
  unfold normalizeInterface at h
  split at h
  · cases h
  split at h
  · cases h
  dsimp only at h
  split at h
  · -- a VLAN name
    split at h
    · cases h
    split at h
    · cases h
    · next n _ =>
      left
      cases h
      exact ⟨n, rfl⟩
  · -- a physical name
    split at h
    · cases h
    next pre family hfind =>
    split at h
    · cases h
    next hmatch =>
    split at h
    · cases h
    next numbers hnumbers =>
    right
    cases h
    have hmem : (pre, family) ∈ physicalPrefixes :=
      (List.perm_insertionSort _ _).mem_iff.mp (List.mem_of_find?_eq_some hfind)
    rw [Bool.not_eq_true, Option.isNone_eq_false_iff] at hmatch
    obtain ⟨parts, hlen, hsplit⟩ := splitOn_of_suffix hmatch
    rw [hsplit] at hnumbers
    obtain ⟨hlen', hbound⟩ := mapM_toInt hnumbers
    refine ⟨⟨family, numbers, mem_families_of_mem_physicalPrefixes hmem, ?_, hbound⟩, rfl⟩
    rw [hlen']
    exact hlen

/-! ## Canonical names are accepted as they are -/

/-- The spelling `normalize_interface` recognizes a name of each family by. -/
theorem find_candidate {family : Text} (h : family ∈ families) (rest : Text) :
    (physicalPrefixes.insertionSort fun a b => b.1.length ≤ a.1.length).find?
        (fun candidate => Text.startsWith (family.lower ++ rest) candidate.1)
      = some (family.lower, family) := by
  simp only [families, List.mem_cons, List.not_mem_nil, or_false] at h
  rcases h with rfl | rfl | rfl | rfl | rfl | rfl <;> rfl

namespace PhysicalName

variable (p : PhysicalName)

theorem suffix_lower : Text.lower p.suffix = p.suffix := by
  apply Text.lower_eq_self
  intro c hc
  rcases suffix_char hc with h | rfl
  · exact Text.lowerChar_of_isDigit h
  · decide

theorem text_lower : Text.lower p.text = p.family.lower ++ p.suffix := by
  rw [text, Text.lower_append, suffix_lower]

theorem text_ne_nil : p.text ≠ [] := by
  have hne : ∀ family ∈ families, family ≠ [] := by decide
  intro h
  exact hne p.family p.family_mem (List.append_eq_nil_iff.mp h).1

theorem text_strip : Text.strip p.text = p.text :=
  Text.strip_eq_self fun _ hc => isSpace_of_nameChar (nameChar_of_mem hc)

theorem startsWith_vlan (rest : Text) :
    Text.startsWith (p.family.lower ++ rest) "vlan" = false := by
  have h := p.family_mem
  simp only [families, List.mem_cons, List.not_mem_nil, or_false] at h
  rcases h with h | h | h | h | h | h <;> rw [h] <;> rfl

theorem fullmatch_suffix : (Regex.fullmatch suffixPattern p.suffix).isSome := by
  apply (Regex.fullmatch_isSome_iff plain_suffixPattern).mpr
  apply denotes_suffixPattern.mpr
  refine ⟨p.numbers.map Text.ofNat, by simpa using p.levels, ?_, rfl⟩
  intro part hpart
  obtain ⟨n, _, rfl⟩ := List.mem_map.mp hpart
  refine ⟨Text.ofNat_ne_nil n, fun c hc => ?_⟩
  obtain ⟨h₁, h₂⟩ := Text.toNat_of_isDigit (Text.isDigit_of_mem_ofNat hc)
  rw [Text.isDecimal, Text.decimalValue, if_pos (by omega), if_pos (by simp; omega)]
  rfl

theorem splitOn_suffix : p.suffix.splitOn '/' = p.numbers.map Text.ofNat := by
  apply List.splitOn_intercalate '/'
  · intro part hpart hmem
    obtain ⟨n, _, rfl⟩ := List.mem_map.mp hpart
    exact absurd (Text.isDigit_of_mem_ofNat hmem) (by decide)
  · intro h
    have := p.levels
    rw [List.map_eq_nil_iff] at h
    simp [h] at this

end PhysicalName

/-- A name whose spelling of the family is recognized is read as the canonical one. -/
theorem normalizeInterface_of_spelling (p : PhysicalName) {spelling pre : Text}
    (hne : spelling ≠ []) (hspelling : ∀ c ∈ spelling, PhysicalName.nameChar c = true)
    (hlen : pre.length = spelling.length)
    (hvlan : Text.startsWith (spelling.lower ++ p.suffix) "vlan" = false)
    (hfind : (physicalPrefixes.insertionSort fun a b => b.1.length ≤ a.1.length).find?
        (fun candidate => Text.startsWith (spelling.lower ++ p.suffix) candidate.1)
      = some (pre, p.family)) :
    normalizeInterface (spelling ++ p.suffix) = .ok p.text := by
  have hchar : ∀ c ∈ spelling ++ p.suffix, PhysicalName.nameChar c = true := by
    intro c hc
    rcases List.mem_append.mp hc with hc | hc
    · exact hspelling c hc
    · exact PhysicalName.nameChar_of_mem (List.mem_append_right _ hc)
  have hcontrol : (spelling ++ p.suffix).any (fun c => c.toNat < 32 || c.toNat == 127) = false := by
    rw [List.any_eq_false]
    intro c hc
    obtain ⟨h₁, h₂⟩ := PhysicalName.toNat_of_nameChar (hchar c hc)
    simp
    omega
  have hstrip : Text.strip (spelling ++ p.suffix) = spelling ++ p.suffix :=
    Text.strip_eq_self fun c hc => PhysicalName.isSpace_of_nameChar (hchar c hc)
  have hlower : Text.lower (spelling ++ p.suffix) = spelling.lower ++ p.suffix := by
    rw [Text.lower_append, p.suffix_lower]
  have hdrop : (spelling ++ p.suffix).drop pre.length = p.suffix := by
    rw [hlen, List.drop_left]
  unfold normalizeInterface
  rw [if_neg (by simp [hne]), if_neg (by simpa using hcontrol)]
  dsimp only
  rw [hstrip, hlower, hvlan, hfind]
  simp only [Bool.false_eq_true, if_false, hdrop]
  rw [if_neg (by simpa [Option.isSome_iff_ne_none] using p.fullmatch_suffix), p.splitOn_suffix,
    mapM_toInt_map_ofNat p.bounded]
  rfl

/-- **Canonical names are fixed points** of `normalize_interface`. -/
theorem normalizeInterface_text (p : PhysicalName) : normalizeInterface p.text = .ok p.text := by
  have hlower : p.family.lower.length = p.family.length := by
    have hall : ∀ family ∈ families, family.lower.length = family.length := by decide
    exact hall p.family p.family_mem
  have hne : p.family ≠ [] := by
    have hall : ∀ family ∈ families, family ≠ [] := by decide
    exact hall p.family p.family_mem
  apply normalizeInterface_of_spelling p hne _ hlower (p.startsWith_vlan _)
    (find_candidate p.family_mem _)
  intro c hc
  exact PhysicalName.nameChar_of_mem (List.mem_append_left _ hc)

theorem isPhysicalInterface_text (p : PhysicalName) : isPhysicalInterface p.text = .ok true := by
  rw [isPhysicalInterface, normalizeInterface_text]
  have h := p.family_mem
  simp only [families, List.mem_cons, List.not_mem_nil, or_false] at h
  rcases h with h | h | h | h | h | h <;> rw [PhysicalName.text, h] <;> rfl

theorem nameChar_of_mem_vlan {n : Nat} {c : Char} (h : c ∈ ("Vlan" ++ Text.ofNat n : Text)) :
    PhysicalName.nameChar c = true := by
  rcases List.mem_append.mp h with h | h
  · have hall : ∀ c ∈ "Vlan".toList, PhysicalName.nameChar c = true := by decide
    exact hall c h
  · rw [PhysicalName.nameChar, Char.isAlphanum, Text.isDigit_of_mem_ofNat h, Bool.or_true,
      Bool.true_or]

theorem strip_vlan (n : Nat) : Text.strip ("Vlan" ++ Text.ofNat n) = "Vlan" ++ Text.ofNat n :=
  Text.strip_eq_self fun _ hc => PhysicalName.isSpace_of_nameChar (nameChar_of_mem_vlan hc)

theorem lower_vlan (n : Nat) : Text.lower ("Vlan" ++ Text.ofNat n) = "vlan" ++ Text.ofNat n := by
  have hdigits : Text.lower (Text.ofNat n) = Text.ofNat n :=
    Text.lower_eq_self fun _ hc => Text.lowerChar_of_isDigit (Text.isDigit_of_mem_ofNat hc)
  rw [Text.lower_append, hdigits]
  rfl

/-- A VLAN name is never physical. -/
theorem isPhysicalInterface_vlan (n : Nat) :
    isPhysicalInterface ("Vlan" ++ Text.ofNat n) ≠ .ok true := by
  have hlower : Text.startsWith (Text.lower ("Vlan" ++ Text.ofNat n)) "vlan" = true := rfl
  intro h
  rw [isPhysicalInterface] at h
  split at h
  · next canonical hok =>
    unfold normalizeInterface at hok
    split at hok
    · cases hok
    split at hok
    · cases hok
    dsimp only at hok
    rw [strip_vlan, hlower, if_pos rfl] at hok
    split at hok
    · cases hok
    split at hok
    · cases hok
    · cases hok
      cases h
  · cases h
  · cases h

theorem normalizeInterface_vlan {n : Nat} (h : (Text.ofNat n).length ≤ Text.digitLimit) :
    normalizeInterface ("Vlan" ++ Text.ofNat n) = .ok ("Vlan" ++ Text.ofNat n) := by
  have hcontrol : ("Vlan" ++ Text.ofNat n : Text).any (fun c => c.toNat < 32 || c.toNat == 127)
      = false := by
    rw [List.any_eq_false]
    intro c hc
    obtain ⟨h₁, h₂⟩ := PhysicalName.toNat_of_nameChar (nameChar_of_mem_vlan hc)
    simp
    omega
  have hdigits : Text.isdigit (Text.ofNat n) = true := by
    have hne := Text.ofNat_ne_nil n
    simp only [Text.isdigit, Bool.and_eq_true, Bool.not_eq_true', List.isEmpty_eq_false_iff,
      List.all_eq_true]
    refine ⟨hne, fun c hc => ?_⟩
    obtain ⟨h₁, h₂⟩ := Text.toNat_of_isDigit (Text.isDigit_of_mem_ofNat hc)
    have hdecimal : Text.isDecimal c = true := by
      rw [Text.isDecimal, Text.decimalValue, if_pos (by omega), if_pos (by simp; omega)]
      rfl
    rw [Text.isDigitChar, hdecimal, Bool.true_or]
  have hvlan : Text.startsWith ("vlan" ++ Text.ofNat n) "vlan" = true := rfl
  have hdrop : ("vlan" ++ Text.ofNat n : Text).drop 4 = Text.ofNat n := rfl
  unfold normalizeInterface
  rw [if_neg (by simp), if_neg (by simpa using hcontrol)]
  dsimp only
  rw [strip_vlan, lower_vlan, if_pos hvlan, hdrop, if_neg (by simp [hdigits]), Text.toInt_ofNat h]

/-- **What is accepted is accepted again**: `normalize_interface` is idempotent. -/
theorem normalizeInterface_idem {name canonical : Text}
    (h : normalizeInterface name = .ok canonical) :
    normalizeInterface canonical = .ok canonical := by
  by_cases hphys : ∃ p : PhysicalName, canonical = p.text
  · obtain ⟨p, rfl⟩ := hphys
    exact normalizeInterface_text p
  · -- only the branch of VLAN names is left, where the number has been read by `int`
    have hkind := normalizeInterface_ok h
    unfold normalizeInterface at h
    split at h
    · cases h
    split at h
    · cases h
    dsimp only at h
    split at h
    · split at h
      · cases h
      split at h
      · cases h
      · next n hn =>
        cases h
        exact normalizeInterface_vlan (Text.length_ofNat_of_toInt hn)
    · obtain ⟨n, rfl⟩ := hkind.resolve_right hphys
      split at h
      · cases h
      next pre family hfind =>
      split at h
      · cases h
      split at h
      · cases h
      next numbers _ =>
      exfalso
      have hmem : (pre, family) ∈ physicalPrefixes :=
        (List.perm_insertionSort _ _).mem_iff.mp (List.mem_of_find?_eq_some hfind)
      have hne : ∀ family ∈ families, family.head? ≠ some 'V' ∧ family ≠ [] := by decide
      obtain ⟨hhead, hnil⟩ := hne family (mem_families_of_mem_physicalPrefixes hmem)
      have heq := Except.ok.inj h
      apply hhead
      rw [← List.head?_append_of_ne_nil family hnil, heq]
      rfl

theorem assertInterfaceWritable_of_ok {name canonical : Text}
    (h : normalizeInterface name = .ok canonical) :
    assertInterfaceWritable name = match isPhysicalInterface canonical with
      | .ok true => .ok canonical
      | .ok false => .error (.commandNotAllowed
          ("Interface " ++ canonical ++ " is not a supported physical write target."))
      | .error e => .error e := by
  unfold assertInterfaceWritable
  rw [h]
  cases hphys : isPhysicalInterface canonical with
  | error e => simp [bind, Except.bind, hphys]
  | ok b => cases b <;> simp [bind, Except.bind, hphys] <;> rfl

/-- **Write targets**: `assert_interface_writable` accepts a name exactly when it normalizes to a
physical one, and returns that. -/
theorem assertInterfaceWritable_ok_iff {name canonical : Text} :
    assertInterfaceWritable name = .ok canonical ↔
      normalizeInterface name = .ok canonical ∧ ∃ p : PhysicalName, canonical = p.text := by
  constructor
  · intro h
    cases hname : normalizeInterface name with
    | error e =>
      unfold assertInterfaceWritable at h
      rw [hname] at h
      cases h
    | ok c =>
      rw [assertInterfaceWritable_of_ok hname] at h
      rcases normalizeInterface_ok hname with ⟨n, rfl⟩ | ⟨p, rfl⟩
      · split at h
        · next hphys => exact absurd hphys (isPhysicalInterface_vlan n)
        · cases h
        · cases h
      · rw [isPhysicalInterface_text] at h
        cases h
        exact ⟨rfl, p, rfl⟩
  · rintro ⟨hname, p, rfl⟩
    rw [assertInterfaceWritable_of_ok hname, isPhysicalInterface_text]

/-! ## Other spellings -/

/-- A suffix begins with a digit. -/
theorem PhysicalName.head?_suffix (p : PhysicalName) :
    ∃ c rest, p.suffix = c :: rest ∧ c.isDigit = true := by
  have hlevels := p.levels
  unfold PhysicalName.suffix
  cases hnumbers : p.numbers with
  | nil => simp [hnumbers] at hlevels
  | cons n ns =>
    cases hn : Text.ofNat n with
    | nil => exact absurd hn (Text.ofNat_ne_nil n)
    | cons c rest =>
      have hdigit : c.isDigit = true := by
        apply Text.isDigit_of_mem_ofNat (n := n)
        rw [hn]
        exact List.mem_cons_self
      cases ns with
      | nil => exact ⟨c, rest, by simp [Text.join, hn], hdigit⟩
      | cons m ms =>
        exact ⟨c, rest ++ ("/".toList ++ Text.join "/" ((m :: ms).map Text.ofNat)),
          by simp [Text.join, List.intercalate, hn], hdigit⟩

/-- The short spelling of a gigabit interface, as IOS prints it. -/
theorem normalizeInterface_short {p : PhysicalName} (hfamily : p.family = "GigabitEthernet".toList) :
    normalizeInterface ("Gi".toList ++ p.suffix) = .ok p.text := by
  obtain ⟨c, rest, hsuffix, hdigit⟩ := p.head?_suffix
  have hg : ('g' == c) = false := by
    rw [beq_eq_false_iff_ne]
    rintro rfl
    exact absurd hdigit (by decide)
  have hlower : Text.lower "Gi" = "gi".toList := rfl
  -- the longer spelling of the family would go on with a letter
  have hlong : Text.startsWith ("gi".toList ++ (c :: rest)) "gigabitethernet" = false := by
    simp [Text.startsWith, List.isPrefixOf, hg]
  have hsorted : physicalPrefixes.insertionSort (fun a b => b.1.length ≤ a.1.length) = [
      ("fortygigabitethernet".toList, "FortyGigabitEthernet".toList),
      ("tengigabitethernet".toList, "TenGigabitEthernet".toList),
      ("gigabitethernet".toList, "GigabitEthernet".toList),
      ("twentyfivegige".toList, "TwentyFiveGigE".toList),
      ("fastethernet".toList, "FastEthernet".toList), ("hundredgige".toList, "HundredGigE".toList),
      ("twe".toList, "TwentyFiveGigE".toList), ("fa".toList, "FastEthernet".toList),
      ("gi".toList, "GigabitEthernet".toList), ("te".toList, "TenGigabitEthernet".toList),
      ("tw".toList, "TwentyFiveGigE".toList), ("fo".toList, "FortyGigabitEthernet".toList),
      ("hu".toList, "HundredGigE".toList)] := rfl
  refine @normalizeInterface_of_spelling p "Gi" "gi" (by decide) (by decide) rfl rfl ?_
  rw [hfamily, hsuffix, hlower, hsorted]
  rw [List.find?_cons_of_neg (by exact Bool.false_ne_true)]
  rw [List.find?_cons_of_neg (by exact Bool.false_ne_true)]
  rw [List.find?_cons_of_neg (by rw [hlong]; exact Bool.false_ne_true)]
  rfl

/-- Letters followed by a digit are separated in one way only. -/
theorem letters_eq {a b u v : Text} (ha : ∀ c ∈ a, c.isAlpha = true)
    (hb : ∀ c ∈ b, c.isAlpha = true) (hu : ∀ c ∈ u.head?, c.isDigit = true)
    (hv : ∀ c ∈ v.head?, c.isDigit = true) (h : a ++ u = b ++ v) : a = b := by
  have hstop {w : Text} (hw : ∀ c ∈ w.head?, c.isDigit = true) : w.takeWhile Char.isAlpha = [] := by
    cases w with
    | nil => rfl
    | cons c cs =>
      have hdigit := hw c rfl
      have hletter : c.isAlpha = false := by
        have := Text.toNat_of_isDigit hdigit
        rw [Bool.eq_false_iff]
        intro halpha
        have range := Text.toNat_of_isAlpha halpha
        omega
      rw [List.takeWhile_cons, hletter]
      rfl
  have hletters := congrArg (List.takeWhile Char.isAlpha) h
  rw [List.takeWhile_append_of_pos ha, List.takeWhile_append_of_pos hb, hstop hu, hstop hv] at hletters
  simpa using hletters

/-- **What an accepted name spells**: a name that reads, in lower case, as letters and then a
suffix spells a family by these letters. -/
theorem spelling_of_normalizeInterface {name canonical letters s : Text}
    (hlower : name.lower = letters ++ s) (hletters : ∀ c ∈ letters, c.isAlpha = true)
    (hs : ∀ c ∈ s, PhysicalName.nameChar c = true) (hhead : ∀ c ∈ s.head?, c.isDigit = true)
    (hvlan : Text.startsWith (letters ++ s) "vlan" = false)
    (h : normalizeInterface name = .ok canonical) :
    ∃ family, (letters, family) ∈ physicalPrefixes := by
  have hname : ∀ c ∈ name.lower, PhysicalName.nameChar c = true := by
    intro c hc
    rw [hlower] at hc
    rcases List.mem_append.mp hc with hc | hc
    · simp [PhysicalName.nameChar, Char.isAlphanum, hletters c hc]
    · exact hs c hc
  have hascii : ∀ c ∈ name.lower, c.toNat < 128 := by
    intro c hc
    have := PhysicalName.toNat_of_nameChar (hname c hc)
    omega
  -- a blank would still be there in lower case
  have hstrip : name.strip = name := by
    apply Text.strip_eq_self
    intro c hc
    by_contra hspace
    rw [Bool.not_eq_false] at hspace
    have hkept := Text.lowerChar_of_isSpace (fun a ha => hascii a (Text.mem_lower hc ha)) hspace
    have hmem : c ∈ name.lower := Text.mem_lower hc (by rw [hkept]; exact List.mem_cons_self)
    rw [PhysicalName.isSpace_of_nameChar (hname c hmem)] at hspace
    exact Bool.false_ne_true hspace
  unfold normalizeInterface at h
  split at h
  · cases h
  split at h
  · cases h
  dsimp only at h
  rw [hstrip, hlower, hvlan, if_neg Bool.false_ne_true] at h
  split at h
  · cases h
  next pre family hfind =>
  split at h
  · cases h
  next hmatch =>
  have hmem : (pre, family) ∈ physicalPrefixes :=
    (List.perm_insertionSort _ _).mem_iff.mp (List.mem_of_find?_eq_some hfind)
  -- what follows the spelling is a decimal digit, also in lower case
  rw [Bool.not_eq_true, Option.isNone_eq_false_iff] at hmatch
  obtain ⟨u, _, hsuffix, hu, -⟩ := (Regex.fullmatch_isSome_iff plain_suffixPattern).mp hmatch
  obtain ⟨hne, hdecimal⟩ := Regex.denotes_plus_chr.mp hu
  obtain ⟨d, ds, rfl⟩ := List.exists_cons_of_ne_nil hne
  have hdrop : (letters ++ s).drop pre.length = Text.lower (name.drop pre.length) := by
    rw [← hlower, Text.lower_drop hascii]
  rw [hsuffix, List.cons_append, Text.lower_cons] at hdrop
  have hd : ∀ a ∈ Text.lowerChar d, a.toNat < 128 := by
    intro a ha
    have hdname : d ∈ name := by
      apply List.mem_of_mem_drop (i := pre.length)
      rw [hsuffix]
      exact List.mem_cons_self
    exact hascii a (Text.mem_lower hdname ha)
  obtain ⟨hdigit, hkept⟩ := Text.lowerChar_of_isDecimal hd (hdecimal d List.mem_cons_self)
  rw [hkept, List.singleton_append] at hdrop
  have hstarts : Text.startsWith (letters ++ s) pre = true := by
    simpa using List.find?_some hfind
  obtain ⟨w, hw⟩ := List.isPrefixOf_iff_prefix.mp hstarts
  rw [← hw, List.drop_left] at hdrop
  have hpre : ∀ entry ∈ physicalPrefixes, ∀ c ∈ entry.1, c.isAlpha = true := by decide
  have hspelled : letters = pre := by
    apply letters_eq hletters (hpre _ hmem) hhead _ hw.symm
    rw [hdrop]
    rintro c ⟨⟩
    exact hdigit
  rw [hspelled]
  exact ⟨family, hmem⟩

/-! ## Descriptions -/

/-- **Accepted descriptions**: the stripped text, bounded in length and alphabet. Emptiness is
tested before stripping. -/
theorem sanitizeDescription_ok_iff {value description : Text} :
    sanitizeDescription value = .ok description ↔
      value ≠ [] ∧ description = value.strip ∧ description.length ≤ 64 ∧
        ∀ c ∈ description, c ∈ descriptionOk := by
  unfold sanitizeDescription
  constructor
  · intro h
    split at h
    · cases h
    next hne =>
    dsimp only at h
    split at h
    · cases h
    next hlen =>
    split at h
    · cases h
    next hbad =>
    cases h
    refine ⟨by simpa using hne, rfl, by omega, ?_⟩
    have hall : ∀ c ∈ value.strip, c ∈ descriptionOk := by simpa using hbad
    intro c hc
    exact hall c hc
  · rintro ⟨hne, rfl, hlen, hchars⟩
    rw [if_neg (by simpa using hne)]
    dsimp only
    rw [if_neg (by omega), if_neg]
    simp only [Bool.not_eq_true', Bool.not_eq_false, List.isEmpty_iff]
    apply List.filter_eq_nil_iff.mpr
    intro c hc
    simpa using hchars c hc

end SwitchOps
