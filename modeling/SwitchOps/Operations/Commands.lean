import SwitchOps.InterfaceNames
import SwitchOps.Operations.Frame

/-!
# The commands of an operation

Two untrusted texts end up in a configuration command: the operator's strings, and the value that
a rollback restores from the running configuration of the device. `InjectionSafe` is the shape
every command list must have. What an operation may send is described by `Transmits`, and has this
shape unless the operator's description is blank (`injectionSafe_of_transmits`).
-/

namespace SwitchOps

open Effects Effects.Program

/-! ## Safe command lists -/

/-- The fixed catalogue of lines that change or restore a property of an interface. -/
inductive CatalogueLine : Text → Prop
  | shutdown : CatalogueLine "shutdown"
  | noShutdown : CatalogueLine "no shutdown"
  | powerInlineAuto : CatalogueLine "power inline auto"
  | powerInlineNever : CatalogueLine "power inline never"
  | noDescription : CatalogueLine "no description"
  /-- Between 1 and 64 characters of the alphabet, no blank at either end. -/
  | description (value : Text) (nonempty : 1 ≤ value.length) (bounded : value.length ≤ 64)
      (alphabet : ∀ c ∈ value, c ∈ descriptionOk) (stripped : value.strip = value) :
      CatalogueLine ("description " ++ value)

/-- A control character or a line separator. -/
def isControl (c : Char) : Bool :=
  c.toNat < 32 || (127 ≤ c.toNat && c.toNat < 160) || Text.isLineBreak c

/-- What a command list for `interface` must look like. -/
structure InjectionSafe (interface : Text) (commands : List Text) : Prop where
  sequence : ∃ (name : PhysicalName) (line : Text), normalizeInterface interface = .ok name.text ∧
    CatalogueLine line ∧ commands = configSequence name.text line
  clean : ∀ command ∈ commands, ∀ c ∈ command, isControl c = false

theorem isControl_of_printable {c : Char} (h : 32 ≤ c.toNat ∧ c.toNat ≤ 126) :
    isControl c = false := by
  have hbreak : Text.isLineBreak c = false := by
    unfold Text.isLineBreak
    rw [List.contains_eq_mem, decide_eq_false_iff_not]
    intro hmem
    have hall : ∀ n ∈ Unicode.lineBreaks, n < 32 ∨ 126 < n := by decide
    have := hall _ hmem
    omega
  unfold isControl
  rw [hbreak, Bool.or_false, Bool.or_eq_false_iff]
  constructor
  · simp; omega
  · simp; omega

theorem printable_of_nameChar {c : Char} (h : PhysicalName.nameChar c = true) :
    32 ≤ c.toNat ∧ c.toNat ≤ 126 := by
  have := PhysicalName.toNat_of_nameChar h
  omega

theorem printable_of_descriptionOk {c : Char} (h : c ∈ descriptionOk) :
    32 ≤ c.toNat ∧ c.toNat ≤ 126 := by
  have hall : ∀ d ∈ descriptionOk, 32 ≤ d.toNat ∧ d.toNat ≤ 126 := by decide
  exact hall c h

theorem CatalogueLine.printable {line : Text} (h : CatalogueLine line) :
    ∀ c ∈ line, 32 ≤ c.toNat ∧ c.toNat ≤ 126 := by
  cases h with
  | shutdown => decide
  | noShutdown => decide
  | powerInlineAuto => decide
  | powerInlineNever => decide
  | noDescription => decide
  | description value _ _ alphabet _ =>
    intro c hc
    rcases List.mem_append.mp hc with hc | hc
    · have hall : ∀ d ∈ "description ".toList, 32 ≤ d.toNat ∧ d.toNat ≤ 126 := by decide
      exact hall c hc
    · exact printable_of_descriptionOk (alphabet c hc)

/-- A sequence around a line of the catalogue is safe: nothing in it can end a line. -/
theorem injectionSafe_of_catalogue {interface line : Text} {name : PhysicalName}
    (hname : normalizeInterface interface = .ok name.text) (hline : CatalogueLine line) :
    InjectionSafe interface (configSequence name.text line) := by
  refine ⟨⟨name, line, hname, hline, rfl⟩, ?_⟩
  intro command hcommand c hc
  apply isControl_of_printable
  simp only [configSequence, List.mem_cons, List.not_mem_nil, or_false] at hcommand
  rcases hcommand with rfl | rfl | rfl | rfl
  · have hall : ∀ d ∈ "configure terminal".toList, 32 ≤ d.toNat ∧ d.toNat ≤ 126 := by decide
    exact hall c hc
  · rcases List.mem_append.mp hc with hc | hc
    · have hall : ∀ d ∈ "interface ".toList, 32 ≤ d.toNat ∧ d.toNat ≤ 126 := by decide
      exact hall c hc
    · exact printable_of_nameChar (PhysicalName.nameChar_of_mem hc)
  · exact hline.printable c hc
  · have hall : ∀ d ∈ "end".toList, 32 ≤ d.toNat ∧ d.toNat ≤ 126 := by decide
    exact hall c hc

/-! ## The change -/

/-- The line that a catalogue entry changes the property with. -/
def changeLine (kind : OperationKind) (value : Text) : Text :=
  match kind with
  | .adminUp => "no shutdown"
  | .adminDown => "shutdown"
  | .poeAuto => "power inline auto"
  | .poeNever => "power inline never"
  | .setDescription => "description " ++ value

/-- Rendering a catalogue entry fills the name and the value in, and nothing else: a name has no
placeholder in it, and the value is filled in last. -/
theorem renderCommands_eq (kind : OperationKind) {canonical : Text} (h : '{' ∉ canonical)
    (safeValue : Option Text) :
    renderCommands (operationSpec kind) canonical safeValue =
      configSequence canonical (changeLine kind (safeValue.getD [])) := by
  have hinterface : Text.replace "interface {iface}" "{iface}" canonical =
      "interface ".toList ++ canonical := by
    show "interface ".toList ++ (canonical ++ []) = _
    rw [List.append_nil]
  have hname : Text.contains ("interface ".toList ++ canonical) "{value}" = false := by
    apply Text.contains_eq_false
    rw [List.mem_append, not_or]
    exact ⟨by decide, h⟩
  have hvalue (v : Text) : Text.replace "description {value}" "{value}" v =
      "description ".toList ++ v := by
    show "description ".toList ++ (v ++ []) = _
    rw [List.append_nil]
  -- a line without a placeholder is left alone
  have hfixed (line : Text) (hline : '{' ∉ line) : Text.replace line "{iface}" canonical = line ∧
      Text.contains line "{value}" = false :=
    ⟨Text.replace_eq_self hline, Text.contains_eq_false hline⟩
  unfold renderCommands
  cases kind with
  | adminUp =>
    obtain ⟨hreplace, hcontains⟩ := hfixed "no shutdown" (by decide)
    simp only [operationSpec, List.map_cons, List.map_nil, hinterface, hname, hreplace, hcontains]
    rfl
  | adminDown =>
    obtain ⟨hreplace, hcontains⟩ := hfixed "shutdown" (by decide)
    simp only [operationSpec, List.map_cons, List.map_nil, hinterface, hname, hreplace, hcontains]
    rfl
  | poeAuto =>
    obtain ⟨hreplace, hcontains⟩ := hfixed "power inline auto" (by decide)
    simp only [operationSpec, List.map_cons, List.map_nil, hinterface, hname, hreplace, hcontains]
    rfl
  | poeNever =>
    obtain ⟨hreplace, hcontains⟩ := hfixed "power inline never" (by decide)
    simp only [operationSpec, List.map_cons, List.map_nil, hinterface, hname, hreplace, hcontains]
    rfl
  | setDescription =>
    have hreplace : Text.replace "description {value}" "{iface}" canonical =
        "description {value}".toList := rfl
    have hcontains : Text.contains "description {value}" "{value}" = true := rfl
    simp only [operationSpec, List.map_cons, List.map_nil, hinterface, hname, hreplace, hcontains,
      if_true, hvalue]
    rfl

/-! ## The rollback -/

/-- The description of a block does not end in a blank: it ends where its stripped line does. -/
theorem readLine_description {config : InterfaceConfig} {line : Text}
    (h : ∀ c ∈ config.description.getLast?, Text.isSpace c = false) :
    ∀ c ∈ (config.readLine line).description.getLast?, Text.isSpace c = false := by
  unfold InterfaceConfig.readLine
  dsimp only
  split
  · intro c hc
    apply Text.getLast?_strip (t := line)
    rw [List.getLast?_drop] at hc
    split at hc
    · simp at hc
    · exact hc
  split
  · exact h
  split
  · exact h
  split
  · exact h
  · exact h

theorem interfaceConfig_description {configText canonical : Text} {config : InterfaceConfig}
    (h : interfaceConfig configText canonical = some config) :
    ∀ c ∈ config.description.getLast?, Text.isSpace c = false := by
  obtain ⟨blockMatch, -, rfl⟩ := Option.map_eq_some_iff.mp h
  -- induction on the lines of the block, from an empty description
  have hfold : ∀ (lines : List Text) (config : InterfaceConfig),
      (∀ c ∈ config.description.getLast?, Text.isSpace c = false) →
      ∀ c ∈ (lines.foldl InterfaceConfig.readLine config).description.getLast?,
        Text.isSpace c = false := by
    intro lines
    induction lines with
    | nil => intro config hconfig; exact hconfig
    | cons line lines ih => intro config hconfig; exact ih _ (readLine_description hconfig)
  apply hfold
  simp

/-- A sanitized description that is not blank is a line of the catalogue. -/
theorem catalogueLine_of_sanitized {raw value : Text} (h : sanitizeDescription raw = .ok value)
    (hblank : raw.strip ≠ []) : CatalogueLine ("description " ++ value) := by
  obtain ⟨-, rfl, hlen, hchars⟩ := sanitizeDescription_ok_iff.mp h
  have hpos : 1 ≤ raw.strip.length := List.length_pos_iff.mpr hblank
  exact .description _ hpos hlen hchars (Text.strip_strip raw)

/-- The restore lines are of the catalogue, when the description does not end in a blank. -/
theorem restoreLine_catalogue_of {kind : OperationKind} {line : Text} {config : InterfaceConfig}
    (hlast : ∀ c ∈ config.description.getLast?, Text.isSpace c = false)
    (h : restoreLine kind config = some line) : CatalogueLine line := by
  have hadmin : restoreLine .adminUp config = some line → CatalogueLine line := by
    intro h
    simp only [restoreLine, Option.some.injEq] at h
    split at h
    · subst h; exact .shutdown
    · subst h; exact .noShutdown
  have hpoe : restoreLine .poeAuto config = some line → CatalogueLine line := by
    intro h
    simp only [restoreLine] at h
    split at h
    · next hword =>
      cases h
      rcases hword with hword | hword
      · rw [hword]; exact .powerInlineAuto
      · rw [hword]; exact .powerInlineNever
    · cases h
  cases kind with
  | adminUp => exact hadmin h
  | adminDown => exact hadmin h
  | poeAuto => exact hpoe h
  | poeNever => exact hpoe h
  | setDescription =>
    simp only [restoreLine] at h
    split at h
    · cases h; exact .noDescription
    next hne =>
    split at h
    · next old hold =>
      cases h
      apply catalogueLine_of_sanitized hold
      exact Text.strip_ne_nil (by simpa using hne) hlast
    · cases h

/-- **The restore lines are of the catalogue**, whatever the running configuration was. -/
theorem restoreLine_catalogue {kind : OperationKind} {configText canonical line : Text}
    {config : InterfaceConfig} (hconfig : interfaceConfig configText canonical = some config)
    (h : restoreLine kind config = some line) : CatalogueLine line :=
  restoreLine_catalogue_of (interfaceConfig_description hconfig) h

/-! ## Every run -/

/-- The value is not empty, but nothing is left of it once it is stripped. -/
def BlankDescription (kind : OperationKind) (value : Option Text) : Prop :=
  kind = .setDescription ∧ value.getD [] ≠ [] ∧ (value.getD []).strip = []

instance (kind : OperationKind) (value : Option Text) : Decidable (BlankDescription kind value) :=
  inferInstanceAs (Decidable (_ ∧ _ ∧ _))

section operation

variable {S : Type} {call : OperationCall S}

theorem not_mem_brace (name : PhysicalName) : '{' ∉ name.text := by
  intro hmem
  have := PhysicalName.toNat_of_nameChar (PhysicalName.nameChar_of_mem hmem)
  exact absurd this.2 (by decide)

theorem changeLine_catalogue {safeValue : Option Text}
    (hvalue : Transaction.SafeValue call safeValue)
    (hblank : ¬ BlankDescription call.kind call.value) :
    CatalogueLine (changeLine call.kind (safeValue.getD [])) := by
  unfold Transaction.SafeValue at hvalue
  unfold BlankDescription at hblank
  cases hkind : call.kind with
  | adminUp => exact .noShutdown
  | adminDown => exact .shutdown
  | poeAuto => exact .powerInlineAuto
  | poeNever => exact .powerInlineNever
  | setDescription =>
    rw [hkind] at hvalue
    obtain ⟨value, hsafe, rfl⟩ : ∃ value, sanitizeDescription (call.value.getD []) = .ok value ∧
      safeValue = some value := hvalue
    apply catalogueLine_of_sanitized hsafe
    intro hnil
    exact hblank ⟨hkind, (sanitizeDescription_ok_iff.mp hsafe).1, hnil⟩

/-- What an operation may send is safe, unless its description is blank. -/
theorem injectionSafe_of_transmits {commands : List Text} (h : Transmits call commands)
    (hblank : ¬ BlankDescription call.kind call.value) : InjectionSafe call.interface commands := by
  obtain ⟨canonical, safeValue, hwritable, -, hvalue, hsend⟩ := h
  obtain ⟨hname, name, rfl⟩ := assertInterfaceWritable_ok_iff.mp hwritable
  rcases hsend with rfl | ⟨configText, config, hconfig, hrollback⟩
  · rw [renderCommands_eq _ (not_mem_brace name)]
    exact injectionSafe_of_catalogue hname (changeLine_catalogue hvalue hblank)
  · obtain ⟨line, hline, rfl⟩ := Option.map_eq_some_iff.mp hrollback
    exact injectionSafe_of_catalogue hname (restoreLine_catalogue hconfig hline)

/-- Only what `Transmits` describes is ever sent. -/
theorem transmits_of_sent [Digest] {listener : S} {client : Client} {commands : List Text}
    (h : CanPerform (runOperation call listener) (.runRawAction client commands)) :
    client = call.client ∧ Transmits call commands := by
  let sentFrom (effect : Effect) : Prop := ∀ client commands,
    effect = .runRawAction client commands → client = call.client ∧ Transmits call commands
  have hgates : CoversGates sentFrom := by
    constructor <;> (intros; rintro client commands ⟨⟩)
  have hcovers : Covers sentFrom call (Transmits call) := by
    constructor
    · rintro symbol client commands ⟨⟩
    · rintro commands hcommands client commands' ⟨⟩
      exact ⟨rfl, hcommands⟩
    · rintro text client commands ⟨⟩
    · rintro entry client commands ⟨⟩
    · rintro client commands ⟨⟩
    · intro listener stages
      apply (call.listens listener stages).mono
      rintro effect hbook client commands rfl
      cases hbook
  have honly := runOperation_only hgates hcovers (by rintro client commands ⟨⟩)
    (by rintro client commands ⟨⟩) (by rintro client commands ⟨⟩) listener
  exact honly.canPerform h client commands rfl

end operation

end SwitchOps
