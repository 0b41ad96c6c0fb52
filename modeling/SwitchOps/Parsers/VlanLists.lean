import Mathlib.Data.List.Dedup
import Mathlib.Data.List.Sort
import Mathlib.Data.Set.Basic
import SwitchOps.InterfaceNames
import SwitchOps.Lib.LineSearch

/-!
# VLAN lists

`parse_vlan_list`, and the lists as IOS prints them: single VLANs and ranges between commas, in as many lines as it
takes. A line by itself is read exactly (`parseVlanList_line`).
-/

namespace List

/-- Each of several things gives something. -/
theorem mapM_eq_ok {α β ε : Type} {f : α → Except ε β} {g : α → β} {l : List α} (h : ∀ a ∈ l, f a = .ok (g a)) :
    l.mapM f = .ok (l.map g) := by
  induction l with
  | nil => rfl
  | cons a l ih =>
    rw [forall_mem_cons] at h
    rw [mapM_cons, h.1, ih h.2]
    rfl

end List

namespace SwitchOps

open Regex Text

/-! ## `parse_vlan_list` -/

/-- `(\d+)-(\d+)` -/
def vlanRange : Regex := .seq (.group 1 (plus digit)) (.seq (.chr (· == '-')) (.group 2 (plus digit)))

/-- The VLANs that a token stands for; one that is neither a number nor a range stands for none. -/
def vlansOfToken (token : Text) : Except Exn (List Nat) :=
  match fullmatch vlanRange token with
  | some m =>
    match toInt ((m.group 1).getD []), toInt ((m.group 2).getD []) with
    | some start, some stop =>
      .ok (if 1 ≤ start ∧ start ≤ stop ∧ stop ≤ 4094 ∧ stop - start ≤ 4094 then List.range' start (stop + 1 - start)
        else [])
    | _, _ => .error .valueError
  | none =>
    if token.isdigit then
      match toInt token with
      | some vlan => .ok (if 1 ≤ vlan ∧ vlan ≤ 4094 then [vlan] else [])
      | none => .error .valueError
    else .ok []

/-- `sorted(set(vlans))` -/
def sortedVlans (vlans : List Nat) : List Nat := vlans.dedup.insertionSort (· ≤ ·)

/-- `parse_vlan_list` -/
def parseVlanList (value : Text) : Except Exn (List Nat) :=
  let value := value.strip.lower
  if value = [] ∨ value = "none" ∨ value = "all" then .ok []
  else do
    let vlans ← (value.splitOn ',').mapM fun token => vlansOfToken (strip token)
    return sortedVlans vlans.flatten

theorem mem_sortedVlans {vlans : List Nat} {vlan : Nat} : vlan ∈ sortedVlans vlans ↔ vlan ∈ vlans := by
  rw [sortedVlans, List.mem_insertionSort, List.mem_dedup]

/-! ## The lists of IOS -/

/-- An item of a list: some VLANs from `first` to `last`. -/
structure VlanItem where
  first : Nat
  last : Nat
  valid : 1 ≤ first ∧ first ≤ last ∧ last ≤ 4094
  deriving DecidableEq, Repr

namespace VlanItem

variable (item : VlanItem)

/-- A single VLAN is printed as a number. -/
def text : Text := if item.first = item.last then ofNat item.first else ofNat item.first ++ "-" ++ ofNat item.last

def vlans : List Nat := List.range' item.first (item.last + 1 - item.first)

end VlanItem

/-- A line of a list; where the list goes on in a further line, it may end with a comma. -/
structure VlanLine where
  items : List VlanItem
  some : items ≠ []
  comma : Bool
  deriving DecidableEq, Repr

namespace VlanLine

variable (line : VlanLine)

/-- The items, and after a comma at the end nothing. -/
def cells : List Text := line.items.map VlanItem.text ++ if line.comma then [[]] else []

def text : Text := join "," line.cells

def vlans : List Nat := line.items.flatMap VlanItem.vlans

end VlanLine

/-! ## Items -/

namespace VlanItem

variable (item : VlanItem)

theorem mem_vlans {vlan : Nat} : vlan ∈ item.vlans ↔ item.first ≤ vlan ∧ vlan ≤ item.last := by
  have valid := item.valid
  rw [vlans, List.mem_range'_1]
  omega

theorem short {n : Nat} (h : n ≤ 4094) : (ofNat n).length ≤ digitLimit := by
  have few : (ofNat n).length ≤ 4 := length_ofNat_le (by decide) (by omega)
  exact few.trans (by decide)

theorem toInt_first : toInt (ofNat item.first) = some item.first := by
  have valid := item.valid
  exact toInt_ofNat (short (by omega))

theorem toInt_last : toInt (ofNat item.last) = some item.last := toInt_ofNat (short item.valid.2.2)

theorem isDecimal_of_mem_ofNat {n : Nat} {c : Char} (h : c ∈ ofNat n) : isDecimal c = true :=
  isDecimal_of_isDigit (isDigit_of_mem_ofNat h)

theorem mem_text {c : Char} (h : c ∈ item.text) : c.isDigit = true ∨ c = '-' := by
  rw [text] at h
  split at h
  · exact .inl (isDigit_of_mem_ofNat h)
  · rcases List.mem_append.mp h with h | h
    · rcases List.mem_append.mp h with h | h
      · exact .inl (isDigit_of_mem_ofNat h)
      · exact .inr (List.mem_singleton.mp h)
    · exact .inl (isDigit_of_mem_ofNat h)

theorem isToken_text : IsToken item.text where
  ne_nil := by
    rw [text]
    split
    · exact ofNat_ne_nil _
    · exact List.append_ne_nil_of_right_ne_nil _ (ofNat_ne_nil _)
  solid := by
    intro c here
    rcases item.mem_text here with digit | rfl
    · exact isSpace_of_isDigit digit
    · decide

/-- A run of digits is no range. -/
theorem fullmatch_vlanRange_ofNat (n : Nat) : fullmatch vlanRange (ofNat n) = none := by
  rw [← Option.not_isSome_iff_eq_none]
  intro found
  obtain ⟨m, found⟩ := Option.isSome_iff_exists.mp found
  obtain ⟨u, v, whole, -, w, x, rfl, ⟨c, hyphen, rfl⟩, -⟩ := fullmatch_denotes found
  obtain rfl := eq_of_beq hyphen
  have here : '-' ∈ ofNat n := by
    rw [whole]
    simp
  exact absurd (isDigit_of_mem_ofNat here) (by decide)

/-- The two numbers of a range. -/
theorem fullmatch_vlanRange (a b : Nat) : ∃ m, fullmatch vlanRange (ofNat a ++ "-" ++ ofNat b) = some m ∧
    m.group 1 = some (ofNat a) ∧ m.group 2 = some (ofNat b) := by
  have digits : ∀ n, ∀ c ∈ ofNat n, isDecimal c = true := fun n c here => isDecimal_of_mem_ofNat here
  have hyphen : ∀ c ∈ ('-' :: (ofNat b ++ []) : Text).head?, isDecimal c = false := by
    intro c here
    rw [← Option.some.inj here]
    decide
  have ended : ∀ c ∈ ([] : Text).head?, isDecimal c = false := by
    intro c none
    cases none
  have whole : ofNat a ++ "-" ++ ofNat b = ofNat a ++ ('-' :: (ofNat b ++ [])) := by simp
  refine ⟨⟨(ofNat b).reverse ++ '-' :: ((ofNat a).reverse ++ []), [], [(2, ofNat b), (1, ofNat a)]⟩, ?_, rfl, rfl⟩
  apply fullmatch_of_head _ rfl
  rw [vlanRange, results_eq_runs, runs_seq, runs_seq, whole]
  apply head?_runs_group_plus 1 (digits a) (ofNat_ne_nil a) hyphen
  rw [runs_chr_cons (p := (· == '-')) (beq_self_eq_true '-')]
  exact head?_runs_group_plus 2 (digits b) (ofNat_ne_nil b) ended rfl

theorem vlansOfToken_text : vlansOfToken item.text = .ok item.vlans := by
  have valid := item.valid
  rw [text]
  split
  · next single =>
    rw [vlansOfToken, fullmatch_vlanRange_ofNat]
    dsimp only
    rw [if_pos (isdigit_ofNat item.first), toInt_first]
    dsimp only
    rw [if_pos (by omega), vlans, ← single, Nat.add_sub_cancel_left]
    rfl
  · obtain ⟨m, found, one, two⟩ := fullmatch_vlanRange item.first item.last
    rw [vlansOfToken, found]
    dsimp only
    rw [one, two, Option.getD_some, Option.getD_some, toInt_first, toInt_last]
    dsimp only
    rw [if_pos (by omega), vlans]

end VlanItem

/-! ## Lines -/

namespace VlanLine

variable (line : VlanLine)

theorem cells_ne_nil : line.cells ≠ [] :=
  List.append_ne_nil_of_left_ne_nil (mt List.map_eq_nil_iff.mp line.some) _

theorem mem_cells {cell : Text} (h : cell ∈ line.cells) : (∃ item ∈ line.items, cell = item.text) ∨ cell = [] := by
  rcases List.mem_append.mp h with h | h
  · obtain ⟨item, here, rfl⟩ := List.mem_map.mp h
    exact .inl ⟨item, here, rfl⟩
  · split at h
    · exact .inr (List.mem_singleton.mp h)
    · cases h

theorem splitOn_text : line.text.splitOn ',' = line.cells := by
  apply List.splitOn_intercalate ',' _ line.cells_ne_nil
  intro cell here comma
  rcases line.mem_cells here with ⟨item, -, rfl⟩ | rfl
  · rcases item.mem_text comma with digit | hyphen
    · exact absurd digit (by decide)
    · exact absurd hyphen (by decide)
  · cases comma

theorem mem_text {c : Char} (h : c ∈ line.text) : c.isDigit = true ∨ c = '-' ∨ c = ',' := by
  rcases PhysicalName.mem_join h with comma | ⟨cell, here, h⟩
  · exact .inr (.inr (List.mem_singleton.mp comma))
  · rcases line.mem_cells here with ⟨item, -, rfl⟩ | rfl
    · exact (item.mem_text h).imp_right .inl
    · cases h

/-- A line begins with the digit of a VLAN. -/
theorem exists_text : ∃ c rest, line.text = c :: rest ∧ c.isDigit = true := by
  obtain ⟨item, items, cons⟩ := List.exists_cons_of_ne_nil line.some
  obtain ⟨c, digits, number⟩ := List.exists_cons_of_ne_nil (ofNat_ne_nil item.first)
  have digit : c.isDigit = true := isDigit_of_mem_ofNat (by rw [number]; exact List.mem_cons_self)
  have first : ∃ rest, item.text = c :: rest := by
    rw [VlanItem.text]
    split
    · exact ⟨digits, number⟩
    · rw [number]
      exact ⟨_, rfl⟩
  obtain ⟨rest, first⟩ := first
  obtain ⟨more, whole⟩ : ∃ more, line.text = item.text ++ more := by
    rw [text, cells, cons, List.map_cons, List.cons_append, join]
    cases items.map VlanItem.text ++ if line.comma then [[]] else [] with
    | nil => exact ⟨[], by rw [List.intercalate_singleton, List.append_nil]⟩
    | cons next cells => exact ⟨_, by rw [List.intercalate_cons_cons, List.append_assoc]⟩
  exact ⟨c, rest ++ more, by rw [whole, first, List.cons_append], digit⟩

theorem isToken_text : IsToken line.text where
  ne_nil := by
    obtain ⟨c, rest, whole, -⟩ := line.exists_text
    rw [whole]
    exact List.cons_ne_nil c rest
  solid := by
    intro c here
    rcases line.mem_text here with digit | rfl | rfl
    · exact isSpace_of_isDigit digit
    · decide
    · decide

theorem lower_text : lower line.text = line.text := by
  apply lower_eq_self
  intro c here
  rcases line.mem_text here with digit | rfl | rfl
  · exact lowerChar_of_isDigit digit
  · decide
  · decide

theorem vlansOfToken_nil : vlansOfToken [] = .ok [] := by decide

/-- Every item is read, and after a comma at the end nothing. -/
theorem mapM_cells : ∃ found, line.cells.mapM (fun token => vlansOfToken (strip token)) = .ok found ∧
    found.flatten = line.vlans := by
  have items : line.items.mapM ((fun token => vlansOfToken (strip token)) ∘ VlanItem.text) =
      .ok (line.items.map VlanItem.vlans) := by
    apply List.mapM_eq_ok
    intro item _
    show vlansOfToken (strip item.text) = .ok item.vlans
    rw [strip_eq_self item.isToken_text.solid, item.vlansOfToken_text]
  rw [cells, List.mapM_append, List.mapM_map, items]
  cases line.comma with
  | true =>
    refine ⟨line.items.map VlanItem.vlans ++ [[]], rfl, ?_⟩
    rw [List.flatten_append, List.flatten_singleton, List.append_nil]
    rfl
  | false =>
    refine ⟨line.items.map VlanItem.vlans ++ [], rfl, ?_⟩
    rw [List.append_nil]
    rfl

/-- **A line of a list is read exactly.** -/
theorem parseVlanList_text : parseVlanList line.text = .ok (sortedVlans line.vlans) := by
  obtain ⟨c, rest, whole, digit⟩ := line.exists_text
  have other : ∀ keyword : Text, (∀ d ∈ keyword.head?, d.isDigit = false) → line.text ≠ keyword := by
    intro keyword first same
    rw [← same, whole] at first
    rw [first c rfl] at digit
    cases digit
  obtain ⟨found, read, flat⟩ := line.mapM_cells
  rw [parseVlanList, strip_eq_self line.isToken_text.solid, line.lower_text, if_neg, line.splitOn_text, read]
  · rw [← flat]
    rfl
  · rintro (none | none | all)
    · exact line.isToken_text.ne_nil none
    · apply other _ _ none
      intro d first
      cases first
      rfl
    · apply other _ _ all
      intro d first
      cases first
      rfl

theorem mem_parsed {vlan : Nat} : vlan ∈ sortedVlans line.vlans ↔ vlan ∈ line.vlans := mem_sortedVlans

end VlanLine

/-! ## What a trunk allows -/

/-- The VLANs that a trunk allows, as IOS prints them: all, none, or a list in one line or more. -/
inductive AllowedVlans
  | all
  | none
  | listed (first : VlanLine) (further : List VlanLine)
  deriving DecidableEq, Repr

/-- The VLANs that a list on a port stands for: an empty one stands for all. -/
def denotedVlans (list : List Nat) : Set Nat := {vlan | 1 ≤ vlan ∧ vlan ≤ 4094 ∧ (list = [] ∨ vlan ∈ list)}

namespace AllowedVlans

def vlans : AllowedVlans → Set Nat
  | all => {vlan | 1 ≤ vlan ∧ vlan ≤ 4094}
  | none => ∅
  | listed first further => {vlan | ∃ line ∈ first :: further, vlan ∈ line.vlans}

/-- What is kept of it: the first line of a list. -/
def kept : AllowedVlans → List Nat
  | all | none => []
  | listed first _ => sortedVlans first.vlans

/-- The first line of a list says all, and not every VLAN is refused. -/
def Whole : AllowedVlans → Prop
  | all => True
  | none => False
  | listed first further => ∀ line ∈ further, ∀ vlan ∈ line.vlans, vlan ∈ first.vlans

end AllowedVlans

theorem VlanLine.valid_of_mem {line : VlanLine} {vlan : Nat} (h : vlan ∈ line.vlans) : 1 ≤ vlan ∧ vlan ≤ 4094 := by
  obtain ⟨item, -, h⟩ := List.mem_flatMap.mp h
  have valid := item.valid
  have range := item.mem_vlans.mp h
  omega

theorem VlanLine.exists_mem (line : VlanLine) : ∃ vlan, vlan ∈ line.vlans := by
  obtain ⟨item, items, cons⟩ := List.exists_cons_of_ne_nil line.some
  refine ⟨item.first, List.mem_flatMap.mpr ⟨item, ?_, item.mem_vlans.mpr ⟨le_rfl, item.valid.2.1⟩⟩⟩
  rw [cons]
  exact List.mem_cons_self

theorem VlanLine.sortedVlans_ne_nil (line : VlanLine) : sortedVlans line.vlans ≠ [] := by
  obtain ⟨vlan, here⟩ := line.exists_mem
  exact List.ne_nil_of_mem (mem_sortedVlans.mpr here)

namespace AllowedVlans

open Classical in
/-- Every set of VLANs is allowed by some trunk. -/
theorem exists_vlans (set : Set Nat) (valid : ∀ vlan ∈ set, 1 ≤ vlan ∧ vlan ≤ 4094) :
    ∃ allowed : AllowedVlans, allowed.vlans = set := by
  let members := (List.range' 1 4094).filter (· ∈ set)
  have mem_members : ∀ vlan, vlan ∈ members ↔ vlan ∈ set := by
    intro vlan
    rw [List.mem_filter, List.mem_range'_1, decide_eq_true_iff]
    refine and_iff_right_of_imp fun here => ?_
    have range := valid vlan here
    omega
  have single : ∀ vlan ∈ members, 1 ≤ vlan ∧ vlan ≤ vlan ∧ vlan ≤ 4094 := by
    intro vlan here
    have range := valid vlan ((mem_members vlan).mp here)
    exact ⟨range.1, le_rfl, range.2⟩
  by_cases empty : members = []
  · refine ⟨none, Set.ext fun vlan => ?_⟩
    rw [← mem_members, empty]
    exact iff_of_false id List.not_mem_nil
  · let items : List VlanItem := members.attach.map fun vlan => ⟨vlan.1, vlan.1, single vlan.1 vlan.2⟩
    have some : items ≠ [] := by
      intro none
      rw [List.map_eq_nil_iff, List.attach_eq_nil_iff] at none
      exact empty none
    refine ⟨listed ⟨items, some, false⟩ [], Set.ext fun vlan => ?_⟩
    rw [← mem_members]
    constructor
    · rintro ⟨line, only, here⟩
      obtain rfl := List.mem_singleton.mp only
      obtain ⟨item, known, here⟩ := List.mem_flatMap.mp here
      obtain ⟨member, -, rfl⟩ := List.mem_map.mp known
      obtain ⟨low, high⟩ := (VlanItem.mem_vlans _).mp here
      rw [Nat.le_antisymm high low]
      exact member.2
    · intro here
      refine ⟨⟨items, some, false⟩, List.mem_singleton_self _, List.mem_flatMap.mpr ?_⟩
      refine ⟨⟨vlan, vlan, single vlan here⟩, ?_, (VlanItem.mem_vlans _).mpr ⟨le_rfl, le_rfl⟩⟩
      exact List.mem_map.mpr ⟨⟨vlan, here⟩, List.mem_attach _ _, rfl⟩

/-- What is kept stands for what is allowed, exactly if the first line says all and something is allowed. -/
theorem denotedVlans_kept_iff (allowed : AllowedVlans) : denotedVlans allowed.kept = allowed.vlans ↔ allowed.Whole := by
  cases allowed with
  | all =>
    refine iff_of_true (Set.ext fun vlan => ?_) trivial
    exact and_congr_right fun _ => and_iff_left (.inl rfl)
  | none =>
    refine iff_of_false (fun same => ?_) id
    have one : 1 ∈ denotedVlans (kept none) := ⟨le_rfl, by decide, .inl rfl⟩
    rw [same] at one
    exact one
  | listed first further =>
    have listed_ : ∀ vlan, vlan ∈ denotedVlans (kept (listed first further)) ↔ vlan ∈ first.vlans := by
      intro vlan
      constructor
      · rintro ⟨-, -, none | here⟩
        · exact absurd none first.sortedVlans_ne_nil
        · exact mem_sortedVlans.mp here
      · intro here
        obtain ⟨low, high⟩ := VlanLine.valid_of_mem here
        exact ⟨low, high, .inr (mem_sortedVlans.mpr here)⟩
    constructor
    · intro same line here vlan mem
      rw [← listed_, same]
      exact ⟨line, List.mem_cons_of_mem _ here, mem⟩
    · intro whole
      refine Set.ext fun vlan => (listed_ vlan).trans ⟨fun here => ⟨first, List.mem_cons_self, here⟩, ?_⟩
      rintro ⟨line, here, mem⟩
      rcases List.mem_cons.mp here with rfl | here
      · exact mem
      · exact whole line here vlan mem

end AllowedVlans

end SwitchOps
