import SwitchOps.Operations.Commands

/-!
# How exact a rollback is

The parser reduces an interface block to three fields, and the restore line is made of them. Whether
it brings back the line that was there is told by the block alone: an engine knows three properties,
of each the last line of the block counts, and `restores_iff` says how that line has to be written.
-/

namespace SwitchOps

/-! ## The lines of a property -/

/-- The properties of an interface that an operation changes. -/
inductive InterfaceProperty
  | shutdown
  | powerInline
  | description
  deriving DecidableEq, Repr

def OperationKind.property : OperationKind → InterfaceProperty
  | .adminUp | .adminDown => .shutdown
  | .poeAuto | .poeNever => .powerInline
  | .setDescription => .description

namespace InterfaceProperty

/-- A line that gives the property a value. The keywords are read in any case. -/
def sets (p : InterfaceProperty) (line : Text) : Bool :=
  match p with
  | .shutdown => line.strip.lower = "shutdown".toList
  | .powerInline => Text.startsWith line.strip.lower "power inline "
  | .description => Text.startsWith line.strip.lower "description "

/-- A line that removes the property. -/
def clears (p : InterfaceProperty) (line : Text) : Bool :=
  match p with
  | .shutdown => line.strip.lower = "no shutdown".toList
  | .powerInline => false
  | .description => line.strip.lower = "no description".toList

def concerns (p : InterfaceProperty) (line : Text) : Bool := p.sets line || p.clears line

/-- What holds where no line says otherwise. -/
def unsaid : InterfaceProperty → Option Text
  | .powerInline => some "power inline auto".toList
  | .shutdown | .description => none

variable (p : InterfaceProperty) (block : List Text)

/-- The last line that concerns the property. -/
def lastConcern : Option Text := (block.filter p.concerns).getLast?

/-- The last line that gives the property a value. -/
def lastSet : Option Text := (block.filter p.sets).getLast?

/-- The line of the property, without its indentation: the last one, unless it removes the property. -/
def line : Option Text :=
  match p.lastConcern block with
  | some last => if p.sets last then some last.strip else p.unsaid
  | none => p.unsaid

/-- The lines of the block that are not of the property. -/
def others : List Text := block.filter fun line => !p.concerns line

/-- A line is entered: it replaces the lines of its property, or removes them. Any other line, such
as an incomplete one, leaves the property alone. -/
def enter (entered : Text) : List Text :=
  if p.sets entered then p.others block ++ [entered]
  else if p.clears entered then p.others block
  else block

/-- The lines of a command sequence are entered in turn. -/
def enterAll (commands : List Text) : List Text := commands.foldl p.enter block

end InterfaceProperty

/-! ## What is asked of a rollback -/

/-- The lines of the interface block that `_interface_config` reads. -/
def interfaceLines (config canonical : Text) : Option (List Text) :=
  (Regex.search (interfaceBlock canonical) config).map fun blockMatch =>
    ((blockMatch.group 1).getD []).splitlines

/-- What is read from these lines. -/
def configOf (block : List Text) : InterfaceConfig :=
  block.foldl InterfaceConfig.readLine ⟨[], false, "auto"⟩

theorem interfaceConfig_eq (config canonical : Text) :
    interfaceConfig config canonical = (interfaceLines config canonical).map configOf := by
  rw [interfaceConfig, interfaceLines, Option.map_map]
  rfl

/-- A change followed by the restore sequence brings back the line of the property, and leaves all
other lines alone; and there is no such sequence when no line of the vocabulary can do that. -/
structure Restores (kind : OperationKind) (canonical : Text) (value : Option Text) (block : List Text) :
    Prop where
  exact_ : ∀ commands, rollbackCommands kind canonical (configOf block) = some commands →
    let changed := kind.property.enterAll block (renderCommands (operationSpec kind) canonical value)
    kind.property.line (kind.property.enterAll changed commands) = kind.property.line block ∧
      kind.property.others (kind.property.enterAll changed commands) = kind.property.others block
  impossible : (∀ line, CatalogueLine line → kind.property.line (kind.property.enter block line) ≠
      kind.property.line block) → rollbackCommands kind canonical (configOf block) = none

/-- A rollback counts as verified only if the line of the property is back. -/
def Verifies (kind : OperationKind) (block restored : List Text) (row : Option InterfaceStatus)
    (poe : Option Text) : Prop :=
  rollbackVerified kind (configOf block) row poe (some (configOf restored)) = true →
    kind.property.line restored = kind.property.line block

/-! ## The block as it is parsed -/

theorem configOf_concat (block : List Text) (line : Text) :
    configOf (block ++ [line]) = (configOf block).readLine line := by
  rw [configOf, List.foldl_concat, ← configOf]

/-- A property that the `power inline` lines of a block do not touch keeps what it was. -/
theorem getLast?_filter_concat (f : Text → Bool) (block : List Text) (line : Text) :
    ((block ++ [line]).filter f).getLast? = if f line then some line else (block.filter f).getLast? := by
  rw [List.filter_append]
  cases here : f line <;> simp [here]

namespace InterfaceProperty

theorem sets_description {line : Text} (h : description.sets line = true) :
    ∃ rest, line.strip.lower = "description ".toList ++ rest := by
  obtain ⟨rest, eq⟩ := List.isPrefixOf_iff_prefix.mp h
  exact ⟨rest, eq.symm⟩

theorem sets_powerInline {line : Text} (h : powerInline.sets line = true) :
    ∃ rest, line.strip.lower = "power inline ".toList ++ rest := by
  obtain ⟨rest, eq⟩ := List.isPrefixOf_iff_prefix.mp h
  exact ⟨rest, eq.symm⟩

/-- The first letter of a property's keyword. -/
def initial : InterfaceProperty → Char
  | .shutdown => 's'
  | .powerInline => 'p'
  | .description => 'd'

/-- The first letter of a line, behind a `no`. -/
def initialOf (line : Text) : Option Char := if line.head? = some 'n' then (line)[3]? else line.head?

theorem initialOf_concerned {p : InterfaceProperty} {line : Text} (h : p.concerns line = true) :
    initialOf line.strip.lower = some p.initial := by
  rw [concerns, Bool.or_eq_true] at h
  cases p with
  | shutdown =>
    rcases h with sets | clears
    · rw [of_decide_eq_true sets]; rfl
    · rw [of_decide_eq_true clears]; rfl
  | powerInline =>
    obtain ⟨rest, eq⟩ := sets_powerInline (h.resolve_right (by simp [clears]))
    rw [eq]; rfl
  | description =>
    rcases h with sets | clears
    · obtain ⟨rest, eq⟩ := sets_description sets
      rw [eq]; rfl
    · rw [of_decide_eq_true clears]; rfl

/-- A line concerns one property at most. -/
theorem concerns_unique {p q : InterfaceProperty} {line : Text} (hp : p.concerns line = true)
    (hq : q.concerns line = true) : p = q := by
  have same := (initialOf_concerned hp).symm.trans (initialOf_concerned hq)
  cases p <;> cases q <;> first | rfl | exact absurd same (by decide)

theorem not_clears_of_sets {p : InterfaceProperty} {line : Text} (h : p.sets line = true) :
    p.clears line = false := by
  cases p with
  | shutdown => simp [clears, of_decide_eq_true h]
  | powerInline => rfl
  | description =>
    obtain ⟨rest, eq⟩ := sets_description h
    simp [clears, eq]

end InterfaceProperty

open InterfaceProperty

variable {block : List Text} {line : Text} {config : InterfaceConfig}

/-- What a line does to the parsed fields, by the property it concerns. -/
theorem readLine_eq : config.readLine line =
    { description := if description.sets line then line.strip.drop 12 else config.description
      shutdown := shutdown.sets line || (!shutdown.clears line && config.shutdown)
      poeAdmin := if powerInline.sets line then (Text.split (line.strip.lower.drop 13)).headD []
        else config.poeAdmin } := by
  have other : ∀ {p q : InterfaceProperty}, p.concerns line = true → p ≠ q → q.sets line = false ∧
      q.clears line = false := by
    intro p q hp differ
    by_contra concerned
    refine differ (concerns_unique hp ?_)
    rw [concerns, Bool.or_eq_true]
    rcases not_and_or.mp concerned with sets | clears
    · exact .inl (by simpa using sets)
    · exact .inr (by simpa using clears)
  rw [InterfaceConfig.readLine]
  by_cases describes : Text.startsWith line.strip.lower "description " = true
  · have here : description.sets line = true := describes
    have concerned : description.concerns line = true := by simp [concerns, here]
    rw [if_pos describes, here, (other concerned (by decide : description ≠ .shutdown)).1,
      (other concerned (by decide : description ≠ .shutdown)).2,
      (other concerned (by decide : description ≠ .powerInline)).1]
    rfl
  have notDescribes : description.sets line = false := by simpa [sets] using describes
  rw [if_neg describes, notDescribes]
  by_cases shuts : line.strip.lower = "shutdown".toList
  · have here : shutdown.sets line = true := decide_eq_true shuts
    have concerned : shutdown.concerns line = true := by simp [concerns, here]
    rw [if_pos shuts, here, (other concerned (by decide : shutdown ≠ .powerInline)).1]
    rfl
  have notShuts : shutdown.sets line = false := decide_eq_false shuts
  rw [if_neg shuts, notShuts]
  by_cases opens : line.strip.lower = "no shutdown".toList
  · have here : shutdown.clears line = true := decide_eq_true opens
    have concerned : shutdown.concerns line = true := by simp [concerns, here]
    rw [if_pos opens, here, (other concerned (by decide : shutdown ≠ .powerInline)).1]
    rfl
  have notOpens : shutdown.clears line = false := decide_eq_false opens
  rw [if_neg opens, notOpens]
  by_cases powers : Text.startsWith line.strip.lower "power inline " = true
  · have here : powerInline.sets line = true := powers
    rw [if_pos powers, here]
    rfl
  · have here : powerInline.sets line = false := by simpa [sets] using powers
    rw [if_neg powers, here]
    rfl

theorem lastConcern_concat (p : InterfaceProperty) :
    p.lastConcern (block ++ [line]) = if p.concerns line then some line else p.lastConcern block :=
  getLast?_filter_concat _ _ _

theorem lastSet_concat (p : InterfaceProperty) :
    p.lastSet (block ++ [line]) = if p.sets line then some line else p.lastSet block :=
  getLast?_filter_concat _ _ _

/-- An interface is read as shut down when the last line of this property says so. -/
theorem configOf_shutdown (block : List Text) :
    (configOf block).shutdown = (shutdown.lastConcern block).any shutdown.sets := by
  induction block using List.reverseRecOn with
  | nil => rfl
  | append_singleton block line ih =>
    rw [configOf_concat, readLine_eq, lastConcern_concat, concerns]
    cases sets_ : shutdown.sets line
    · cases shutdown.clears line <;> simp [ih, sets_]
    · simp [sets_]

/-- The first word of the last `power inline` line. -/
def poeWord (block : List Text) : Text :=
  ((powerInline.lastSet block).map fun line => (Text.split (line.strip.lower.drop 13)).headD []).getD "auto"

theorem configOf_poeAdmin (block : List Text) : (configOf block).poeAdmin = poeWord block := by
  induction block using List.reverseRecOn with
  | nil => rfl
  | append_singleton block line ih =>
    rw [configOf_concat, readLine_eq, poeWord, lastSet_concat]
    dsimp only
    split
    · rfl
    · exact ih

/-- The text of the last `description` line. -/
def describedText (block : List Text) : Text :=
  ((description.lastSet block).map fun line => line.strip.drop 12).getD []

theorem configOf_description (block : List Text) : (configOf block).description = describedText block := by
  induction block using List.reverseRecOn with
  | nil => rfl
  | append_singleton block line ih =>
    rw [configOf_concat, readLine_eq, describedText, lastSet_concat]
    dsimp only
    split
    · rfl
    · exact ih

/-! ## Entering lines -/

variable {p : InterfaceProperty} {entered : Text}

theorem others_enter : p.others (p.enter block entered) = p.others block := by
  rw [InterfaceProperty.enter]
  split
  · next sets => simp [InterfaceProperty.others, concerns, sets]
  split
  · simp [InterfaceProperty.others]
  · rfl

theorem others_enterAll (commands : List Text) : p.others (p.enterAll block commands) = p.others block := by
  induction commands generalizing block with
  | nil => rfl
  | cons command commands ih => exact ih.trans others_enter

/-- What a line of the property leaves of it. -/
theorem line_enter (h : p.concerns entered = true) :
    p.line (p.enter block entered) = if p.sets entered then some entered.strip else p.unsaid := by
  have none_ : p.lastConcern (p.others block) = none := by
    simp [InterfaceProperty.lastConcern, InterfaceProperty.others]
  rw [InterfaceProperty.enter]
  cases sets : p.sets entered
  · rw [concerns, sets, Bool.false_or] at h
    simp [h, InterfaceProperty.line, none_]
  · simp [InterfaceProperty.line, lastConcern_concat, h, sets]

theorem enter_of_not_concerns (h : p.concerns entered = false) : p.enter block entered = block := by
  obtain ⟨sets, clears⟩ := Bool.or_eq_false_iff.mp h
  simp [InterfaceProperty.enter, sets, clears]

/-- The lines that lead to an interface and away from it are of no property. -/
theorem not_concerns_of_head {c : Char} {rest : Text} (visible : Text.isSpace c = false)
    (low : Text.lowerChar c = [c]) (other : c ∉ ("nspd".toList : Text)) : p.concerns (c :: rest) = false := by
  rw [← Bool.not_eq_true]
  intro concerned
  have head : (Text.lower (Text.strip (c :: rest))).head? = some c := by
    have left : Text.lstrip (c :: rest) = c :: rest := Text.lstrip_eq_self (by simpa using visible)
    cases stripped : Text.strip (c :: rest) with
    | nil =>
      have blank := Text.strip_eq_nil_iff.mp stripped c List.mem_cons_self
      rw [visible] at blank
      cases blank
    | cons a t =>
      have same : a ∈ (c :: rest).head? := by
        refine Text.head?_rstrip ?_
        rw [← left, ← Text.strip, stripped]
        rfl
      obtain rfl : c = a := by simpa using same
      rw [Text.lower_cons, low]
      rfl
  have marked := initialOf_concerned concerned
  have notNo : c ≠ 'n' := fun same => other (by simp [same])
  rw [initialOf, head, if_neg (by simpa using notNo)] at marked
  refine other ?_
  rw [Option.some.inj marked]
  cases p <;> decide

theorem enterAll_configSequence (canonical : Text) :
    p.enterAll block (configSequence canonical entered) = p.enter block entered := by
  have configure : p.concerns "configure terminal" = false :=
    not_concerns_of_head (by decide) (by decide) (by decide)
  have interface : p.concerns ("interface " ++ canonical) = false :=
    not_concerns_of_head (by decide) (by decide) (by decide)
  have end_ : p.concerns "end" = false := not_concerns_of_head (by decide) (by decide) (by decide)
  rw [configSequence, InterfaceProperty.enterAll]
  simp only [List.foldl_cons, List.foldl_nil, enter_of_not_concerns configure, enter_of_not_concerns interface,
    enter_of_not_concerns end_]

/-! ## When the line is brought back -/

/-- The line of a description that ends where its last word does. -/
theorem strip_described {text : Text} (nonempty : text ≠ []) (last : ∀ c ∈ text.getLast?, Text.isSpace c = false) :
    Text.strip ("description " ++ text) = "description " ++ text := by
  have left : Text.lstrip ("description " ++ text) = "description " ++ text :=
    Text.lstrip_eq_self (by simp; decide)
  rw [Text.strip, left]
  refine Text.rstrip_eq_self fun c here => last c ?_
  rwa [List.getLast?_append_of_ne_nil _ nonempty] at here

theorem sets_described {text : Text} (nonempty : text ≠ []) (last : ∀ c ∈ text.getLast?, Text.isSpace c = false) :
    description.sets ("description " ++ text) = true := by
  rw [sets, strip_described nonempty last, Text.lower_append]
  exact List.isPrefixOf_iff_prefix.mpr ⟨Text.lower text, rfl⟩

/-- A text follows the keyword, since the line does not end in a blank. -/
theorem described_ne_nil {line : Text} (h : description.sets line = true) : line.strip.drop 12 ≠ [] := by
  obtain ⟨rest, eq⟩ := sets_description h
  intro nothing
  obtain ⟨long, rest_⟩ := Text.lower_eq_append eq (by decide) (by decide)
  have twelve : ("description ".toList : Text).length = 12 := rfl
  rw [twelve] at long rest_
  rw [nothing] at rest_
  subst rest_
  -- one character is left behind the letters of the keyword, and it is a blank
  obtain ⟨c, single⟩ : ∃ c, line.strip.drop 11 = [c] := by
    have short := congrArg List.length nothing
    rw [List.length_drop, List.length_nil] at short
    refine List.length_eq_one_iff.mp ?_
    rw [List.length_drop]
    omega
  have blank : Text.lower (line.strip.drop 11) = [' '] :=
    (@Text.lower_eq_append ("description".toList) _ _ eq (by decide) (by decide)).2
  rw [single, Text.lower_cons] at blank
  obtain rfl := Text.eq_blank_of_lowerChar ((List.append_nil _).symm.trans blank)
  have last : ' ' ∈ line.strip.getLast? := by
    rw [← List.take_append_drop 11 line.strip, single]
    simp
  exact absurd (Text.getLast?_strip last) (by decide)

/-- The text behind the keyword does not end in a blank. -/
theorem getLast?_described {line : Text} {c : Char} (h : c ∈ (line.strip.drop 12).getLast?) :
    Text.isSpace c = false := by
  apply Text.getLast?_strip (t := line)
  rw [List.getLast?_drop] at h
  split at h
  · cases h
  · exact h

theorem strip_ne_nil_of_described {line : Text} (nonempty : line.strip.drop 12 ≠ []) :
    Text.strip (line.strip.drop 12) ≠ [] :=
  Text.strip_ne_nil nonempty fun _ h => getLast?_described h

/-- What a change followed by the restore line leaves of the property. -/
def restored (kind : OperationKind) (block : List Text) : Option (Option Text) :=
  (restoreLine kind (configOf block)).map fun line =>
    if kind.property.sets line then some line.strip else kind.property.unsaid

theorem restoreLine_concerns {kind : OperationKind} {line : Text}
    (h : restoreLine kind (configOf block) = some line) : kind.property.concerns line = true := by
  have admin : restoreLine .adminUp (configOf block) = some line → shutdown.concerns line = true := by
    intro h
    obtain rfl := Option.some.inj h
    split <;> rfl
  have poe : restoreLine .poeAuto (configOf block) = some line → powerInline.concerns line = true := by
    intro h
    simp only [restoreLine] at h
    split at h
    · next word =>
      cases h
      rcases word with word | word <;> rw [word] <;> rfl
    · cases h
  cases kind with
  | adminUp => exact admin h
  | adminDown => exact admin h
  | poeAuto => exact poe h
  | poeNever => exact poe h
  | setDescription =>
    simp only [restoreLine] at h
    split at h
    · cases h; rfl
    next nonempty =>
    split at h
    · next old sanitized =>
      cases h
      obtain ⟨-, rfl, -, -⟩ := sanitizeDescription_ok_iff.mp sanitized
      rw [configOf_description, describedText] at nonempty ⊢
      cases seen : description.lastSet block with
      | none => simp [seen] at nonempty
      | some x =>
        rw [seen] at nonempty
        have ne : x.strip.drop 12 ≠ [] := by simpa using nonempty
        rw [OperationKind.property, concerns, Option.map_some, Option.getD_some,
          sets_described (strip_ne_nil_of_described ne) fun c h => Text.getLast?_strip h]
        rfl
    · cases h

/-- A restore sequence is exact when the line it leaves is the one that was there. -/
theorem exact_iff (kind : OperationKind) (canonical : Text) (value : Option Text) :
    (∀ commands, rollbackCommands kind canonical (configOf block) = some commands →
      let changed := kind.property.enterAll block (renderCommands (operationSpec kind) canonical value)
      kind.property.line (kind.property.enterAll changed commands) = kind.property.line block ∧
        kind.property.others (kind.property.enterAll changed commands) = kind.property.others block) ↔
      ∀ line ∈ restored kind block, line = kind.property.line block := by
  rw [rollbackCommands, restored]
  cases restore : restoreLine kind (configOf block) with
  | none => simp
  | some line =>
    simp only [Option.map_some, Option.some.injEq, forall_eq', Option.mem_def, enterAll_configSequence,
      line_enter (restoreLine_concerns restore), others_enterAll, and_true]

/-- The last line of the property is written as the engine writes it, or the vocabulary has no word for it. -/
def Rewritable (kind : OperationKind) (block : List Text) : Prop :=
  match kind.property with
  | .shutdown => ∀ line ∈ shutdown.line block, line = "shutdown".toList
  | .powerInline => (poeWord block ≠ "auto".toList ∧ poeWord block ≠ "never".toList) ∨
      powerInline.line block = some "power inline auto".toList ∨
      powerInline.line block = some "power inline never".toList
  | .description => ∀ line ∈ description.lastSet block,
      (64 < (Text.strip (line.strip.drop 12)).length ∨ ∃ c ∈ Text.strip (line.strip.drop 12), c ∉ descriptionOk) ∨
      (description.lastConcern block = some line ∧ line.strip.take 12 = "description ".toList ∧
        ∀ c ∈ (line.strip.drop 12).head?, Text.isSpace c = false)

theorem line_shutdown (block : List Text) :
    shutdown.line block = ((shutdown.lastConcern block).filter shutdown.sets).map Text.strip := by
  rw [InterfaceProperty.line]
  cases shutdown.lastConcern block with
  | none => rfl
  | some last => cases here : shutdown.sets last <;> simp [here, unsaid, Option.filter]

theorem restored_shutdown_iff {kind : OperationKind} (admin : kind.property = .shutdown) :
    (∀ line ∈ restored kind block, line = kind.property.line block) ↔ Rewritable kind block := by
  have restore : restored kind block =
      some (if (shutdown.lastConcern block).any shutdown.sets then some "shutdown".toList else none) := by
    have shut := configOf_shutdown block
    rw [restored]
    cases kind
    case adminUp | adminDown =>
      rw [restoreLine, shut]
      cases (shutdown.lastConcern block).any shutdown.sets <;> rfl
    all_goals cases admin
  rw [Rewritable, admin, restore, line_shutdown]
  cases shutdown.lastConcern block with
  | none => simp
  | some last => cases here : shutdown.sets last <;> simp [here, Option.filter, eq_comm]

theorem lastConcern_powerInline (block : List Text) : powerInline.lastConcern block = powerInline.lastSet block := by
  have same : powerInline.concerns = powerInline.sets := by
    funext line
    exact Bool.or_false _
  rw [InterfaceProperty.lastConcern, same, InterfaceProperty.lastSet]

theorem sets_of_lastSet {line : Text} (h : p.lastSet block = some line) : p.sets line = true :=
  (List.mem_filter.mp (List.mem_of_getLast? h)).2

/-- The `power inline` line and its first word. -/
theorem line_powerInline (block : List Text) :
    (powerInline.lastSet block = none ∧ powerInline.line block = some "power inline auto".toList ∧
      poeWord block = "auto".toList) ∨
    ∃ last, powerInline.lastSet block = some last ∧ powerInline.line block = some last.strip ∧
      poeWord block = (Text.split (last.strip.lower.drop 13)).headD [] := by
  rw [InterfaceProperty.line, lastConcern_powerInline, poeWord]
  cases seen : powerInline.lastSet block with
  | none => exact .inl ⟨rfl, rfl, rfl⟩
  | some last => exact .inr ⟨last, rfl, if_pos (sets_of_lastSet seen), rfl⟩

theorem restored_powerInline_iff {kind : OperationKind} (poe : kind.property = .powerInline) :
    (∀ line ∈ restored kind block, line = kind.property.line block) ↔ Rewritable kind block := by
  have restore : restored kind block =
      if poeWord block = "auto".toList ∨ poeWord block = "never".toList then
        some (some ("power inline ".toList ++ poeWord block)) else none := by
    have word := configOf_poeAdmin block
    rw [restored]
    cases kind
    case poeAuto | poeNever =>
      rw [restoreLine, word]
      split
      · next known => rcases known with known | known <;> rw [known] <;> rfl
      · rfl
    all_goals cases poe
  have wordOf : ∀ word ∈ ["auto".toList, "never".toList],
      powerInline.line block = some ("power inline ".toList ++ word) → poeWord block = word := by
    intro word known written
    rcases line_powerInline block with ⟨-, line_, word_⟩ | ⟨last, -, line_, word_⟩
    · rw [line_] at written
      rw [word_]
      exact @List.append_cancel_left _ "power inline ".toList _ _ (Option.some.inj written)
    · rw [line_] at written
      rw [word_, Option.some.inj written]
      rcases List.mem_pair.mp known with rfl | rfl <;> rfl
  rw [Rewritable, poe, restore]
  by_cases auto : poeWord block = "auto".toList
  · have notNever : powerInline.line block ≠ some "power inline never".toList := fun written => by
      have word := wordOf "never".toList (by decide) written
      rw [auto] at word
      revert word
      decide
    simp only [auto, true_or, if_true, Option.mem_def, Option.some.injEq, forall_eq', ne_eq, not_true_eq_false,
      false_and, false_or, notNever, or_false]
    exact eq_comm
  by_cases never : poeWord block = "never".toList
  · have notAuto : powerInline.line block ≠ some "power inline auto".toList := fun written =>
      auto (wordOf "auto".toList (by decide) written)
    rw [never] at auto
    simp only [never, or_true, if_true, Option.mem_def, Option.some.injEq, forall_eq', ne_eq, not_true_eq_false,
      and_false, false_or, notAuto]
    exact eq_comm
  · rw [if_neg (not_or.mpr ⟨auto, never⟩)]
    exact ⟨fun _ => .inl ⟨auto, never⟩, fun _ _ none_ => by cases none_⟩

/-- A line of the description, as its keyword and the text behind it. -/
theorem described_eq_iff {line text : Text} :
    line.strip = "description ".toList ++ text ↔
      line.strip.take 12 = "description ".toList ∧ line.strip.drop 12 = text := by
  constructor
  · intro eq
    rw [eq]
    exact ⟨rfl, rfl⟩
  · rintro ⟨keyword, rfl⟩
    rw [← keyword, List.take_append_drop]

/-- A last line that gives the description is the last one to do so. -/
theorem lastSet_of_lastConcern {line : Text} (last : p.lastConcern block = some line) (h : p.sets line = true) :
    p.lastSet block = some line := by
  induction block using List.reverseRecOn with
  | nil => cases last
  | append_singleton block entered ih =>
    rw [lastConcern_concat] at last
    rw [lastSet_concat]
    split at last
    · obtain rfl := Option.some.inj last
      rw [if_pos h]
    · next apart =>
      have notSet : p.sets entered = false := by
        simp only [concerns, Bool.or_eq_true, not_or] at apart
        simpa using apart.1
      rw [notSet]
      exact ih last

/-- The line of the description is its last line, or there is none. -/
theorem line_description {line : Text} (seen : description.lastSet block = some line) :
    (description.lastConcern block = some line ∧ description.line block = some line.strip) ∨
      (description.lastConcern block ≠ some line ∧ description.line block = none) := by
  rw [InterfaceProperty.line]
  cases last : description.lastConcern block with
  | none => exact .inr ⟨by simp, rfl⟩
  | some x =>
    cases here : description.sets x with
    | true =>
      obtain rfl : line = x := Option.some.inj (seen.symm.trans (lastSet_of_lastConcern last here))
      exact .inl ⟨rfl, by simp [here]⟩
    | false =>
      refine .inr ⟨fun same => ?_, by simp [here, unsaid]⟩
      rw [Option.some.inj same, sets_of_lastSet seen] at here
      cases here

theorem line_of_not_described (unseen : description.lastSet block = none) : description.line block = none := by
  rw [InterfaceProperty.line]
  cases last : description.lastConcern block with
  | none => rfl
  | some x =>
    have notSet : description.sets x = false := by
      have absent := List.filter_eq_nil_iff.mp (List.getLast?_eq_none_iff.mp unseen) x
        (List.mem_filter.mp (List.mem_of_getLast? last)).1
      simpa using absent
    simp [notSet, unsaid]

theorem restored_description_iff {kind : OperationKind} (describes : kind.property = .description) :
    (∀ line ∈ restored kind block, line = kind.property.line block) ↔ Rewritable kind block := by
  obtain rfl : kind = .setDescription := by
    cases kind
    all_goals first | rfl | cases describes
  have text := configOf_description block
  rw [Rewritable, restored, restoreLine, text, describedText]
  dsimp only [OperationKind.property]
  cases seen : description.lastSet block with
  | none =>
    -- nothing is described: the property is removed, as it was before
    rw [line_of_not_described seen]
    refine ⟨fun _ line absent => (by cases absent), fun _ line here => ?_⟩
    exact (Option.some.inj here).symm
  | some last =>
    have nonempty := described_ne_nil (sets_of_lastSet seen)
    have stripped := strip_ne_nil_of_described nonempty
    simp only [Option.map_some, Option.getD_some, List.isEmpty_iff, nonempty, if_false, Option.mem_def,
      Option.some.injEq, forall_eq']
    cases sanitized : sanitizeDescription (last.strip.drop 12) with
    | error exc =>
      refine ⟨fun _ => .inl ?_, fun _ line absent => (by cases absent)⟩
      by_contra fits
      rw [not_or] at fits
      have accepted := sanitizeDescription_ok_iff.mpr ⟨nonempty, rfl, not_lt.mp fits.1, by simpa using fits.2⟩
      rw [sanitized] at accepted
      cases accepted
    | ok old =>
      obtain ⟨-, rfl, short, clean⟩ := sanitizeDescription_ok_iff.mp sanitized
      have fits : ¬ (64 < (Text.strip (last.strip.drop 12)).length ∨
          ∃ c ∈ Text.strip (last.strip.drop 12), c ∉ descriptionOk) := by
        rw [not_or]
        exact ⟨not_lt.mpr short, by simpa using clean⟩
      have ends : ∀ c ∈ (Text.strip (last.strip.drop 12)).getLast?, Text.isSpace c = false := fun c h =>
        Text.getLast?_strip h
      simp only [Option.map_some, Option.some.injEq, forall_eq', sets_described stripped ends, if_true,
        strip_described stripped ends, fits, false_or]
      rcases line_description seen with ⟨concern, line_⟩ | ⟨concern, line_⟩
      · rw [line_, Option.some.injEq, eq_comm, described_eq_iff]
        simp only [concern, true_and, and_congr_right_iff]
        intro _
        constructor
        · intro same c first
          rw [same] at first
          exact Text.head?_strip first
        · intro first
          have left := Text.lstrip_eq_self first
          exact ((congrArg Text.rstrip left).trans (Text.rstrip_eq_self fun c h => getLast?_described h)).symm
      · simp [line_, concern]

theorem restored_iff (kind : OperationKind) (block : List Text) :
    (∀ line ∈ restored kind block, line = kind.property.line block) ↔ Rewritable kind block := by
  cases kind with
  | adminUp => exact restored_shutdown_iff rfl
  | adminDown => exact restored_shutdown_iff rfl
  | poeAuto => exact restored_powerInline_iff rfl
  | poeNever => exact restored_powerInline_iff rfl
  | setDescription => exact restored_description_iff rfl

theorem restoreLine_vocabulary {kind : OperationKind} {line : Text}
    (h : restoreLine kind (configOf block) = some line) : CatalogueLine line := by
  refine restoreLine_catalogue_of (fun c last => ?_) h
  rw [configOf_description, describedText] at last
  cases seen : description.lastSet block with
  | none => simp [seen] at last
  | some described =>
    rw [seen] at last
    exact getLast?_described last

/-- **When a change is undone exactly.** -/
theorem restores_iff (kind : OperationKind) (canonical : Text) (value : Option Text) (block : List Text) :
    Restores kind canonical value block ↔ Rewritable kind block := by
  rw [← restored_iff]
  constructor
  · intro h
    exact (exact_iff kind canonical value).mp h.exact_
  · intro h
    refine ⟨(exact_iff kind canonical value).mpr h, fun impossible => ?_⟩
    rw [rollbackCommands]
    cases restore : restoreLine kind (configOf block) with
    | none => rfl
    | some line =>
      -- the restore line would be possible
      refine absurd ?_ (impossible line (restoreLine_vocabulary restore))
      rw [line_enter (restoreLine_concerns restore)]
      exact h _ (by simp [restored, restore])

/-! ## When a rollback is verified -/

/-- The two lines differ in what is compared of them, or agree in the rest as well. -/
def Discerned (kind : OperationKind) (block after : List Text) (poe : Option Text) : Prop :=
  match kind.property with
  | .shutdown => ∀ line ∈ shutdown.line block, ∀ line' ∈ shutdown.line after, line' = line
  | .powerInline => (poe.getD []).strip.lower = poeWord block → poeWord after = poeWord block →
      powerInline.line after = powerInline.line block
  | .description => ∀ line ∈ description.lastSet block, ∀ line' ∈ description.lastSet after,
      line'.strip.drop 12 = line.strip.drop 12 →
        (description.lastConcern after = some line' ↔ description.lastConcern block = some line) ∧
        (description.lastConcern block = some line → line'.strip.take 12 = line.strip.take 12)

theorem isSome_line_shutdown (block : List Text) :
    (shutdown.line block).isSome = (shutdown.lastConcern block).any shutdown.sets := by
  rw [line_shutdown]
  cases shutdown.lastConcern block with
  | none => rfl
  | some last => cases here : shutdown.sets last <;> simp [here, Option.filter]

theorem verifies_shutdown_iff {after : List Text} :
    ((configOf after).shutdown = (configOf block).shutdown → shutdown.line after = shutdown.line block) ↔
      ∀ line ∈ shutdown.line block, ∀ line' ∈ shutdown.line after, line' = line := by
  rw [configOf_shutdown, configOf_shutdown, ← isSome_line_shutdown, ← isSome_line_shutdown]
  cases shutdown.line block <;> cases shutdown.line after <;> simp

theorem verifies_description_iff {after : List Text} :
    ((configOf after).description = (configOf block).description → description.line after = description.line block) ↔
      ∀ line ∈ description.lastSet block, ∀ line' ∈ description.lastSet after,
        line'.strip.drop 12 = line.strip.drop 12 →
          (description.lastConcern after = some line' ↔ description.lastConcern block = some line) ∧
          (description.lastConcern block = some line → line'.strip.take 12 = line.strip.take 12) := by
  rw [configOf_description, configOf_description, describedText, describedText]
  cases seen : description.lastSet block with
  | none =>
    cases seen' : description.lastSet after with
    | none => simp [line_of_not_described seen, line_of_not_described seen']
    | some line' => simp [described_ne_nil (sets_of_lastSet seen')]
  | some line =>
    cases seen' : description.lastSet after with
    | none => simp [(described_ne_nil (sets_of_lastSet seen)).symm]
    | some line' =>
      simp only [Option.map_some, Option.getD_some, Option.mem_def, Option.some.injEq, forall_eq']
      refine imp_congr_right fun text => ?_
      rcases line_description seen with ⟨concern, line_⟩ | ⟨concern, line_⟩ <;>
        rcases line_description seen' with ⟨concern', line_'⟩ | ⟨concern', line_'⟩
      · -- both descriptions hold
        simp only [line_, line_', concern, concern', Option.some.injEq, true_and, forall_const]
        constructor
        · intro same
          rw [same]
        · intro keyword
          rw [← List.take_append_drop 12 line'.strip, keyword, text, List.take_append_drop]
      · simp [line_, line_', concern, concern']
      · simp [line_, line_', concern, concern']
      · simp [line_, line_', concern, concern']

/-- **When only an exact restoration is verified.** -/
theorem verifies_iff (kind : OperationKind) (block after : List Text) (row : Option InterfaceStatus)
    (poe : Option Text) :
    Verifies kind block after row poe ↔ row = none ∨ Discerned kind block after poe := by
  rw [Verifies]
  cases row with
  | none => exact ⟨fun _ => .inl rfl, fun _ verified => (by cases verified)⟩
  | some row =>
    rw [or_iff_right (by simp)]
    cases kind
    case adminUp | adminDown =>
      refine (imp_congr_left ?_).trans verifies_shutdown_iff
      exact beq_iff_eq
    case poeAuto | poeNever =>
      refine (imp_congr_left ?_).trans and_imp
      rw [← configOf_poeAdmin, ← configOf_poeAdmin]
      exact Bool.and_eq_true_iff.trans (and_congr beq_iff_eq beq_iff_eq)
    case setDescription =>
      refine (imp_congr_left ?_).trans verifies_description_iff
      exact beq_iff_eq

/-! ## Over configuration texts -/

/-- What is asked of an operation, of every interface block that is parsed. -/
def RollsBackExactly (kind : OperationKind) (canonical : Text) (value : Option Text) (config after : Text)
    (row : Option InterfaceStatus) (poe : Option Text) : Prop :=
  ∀ block, interfaceLines config canonical = some block →
    Restores kind canonical value block ∧
      ∀ restored, interfaceLines after canonical = some restored → Verifies kind block restored row poe

/-- **When the rollback of an operation is exact.** -/
theorem rollsBackExactly_iff (kind : OperationKind) (canonical : Text) (value : Option Text) (config after : Text)
    (row : Option InterfaceStatus) (poe : Option Text) :
    RollsBackExactly kind canonical value config after row poe ↔
      ∀ block, interfaceLines config canonical = some block →
        Rewritable kind block ∧ ∀ restored, interfaceLines after canonical = some restored →
          row = none ∨ Discerned kind block restored poe := by
  simp only [RollsBackExactly, restores_iff, verifies_iff]

/-- A port whose power is limited. -/
def limitedPower : Text := "interface GigabitEthernet1/0/5\n power inline auto max 15400\n!\n"

/-- The limit is gone after the rollback. -/
theorem not_rollsBackExactly_limited :
    ¬ ∀ kind canonical value config after row poe,
      RollsBackExactly kind canonical value config after row poe := by
  intro claimed
  have lines : interfaceLines limitedPower "GigabitEthernet1/0/5" =
      some [" power inline auto max 15400".toList] := by
    decide +kernel
  have back := ((claimed .poeNever "GigabitEthernet1/0/5" none limitedPower [] none none) _ lines).1.exact_ _ rfl
  revert back
  decide +kernel

end SwitchOps
