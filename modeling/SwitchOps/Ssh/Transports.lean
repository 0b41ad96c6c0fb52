import SwitchOps.Ssh.LegacyShell

/-!
# The two transports

`switch_client.py`: Netmiko leaves and enters configuration mode itself, so that `run_raw_action` cuts a command
list into the blocks that it configures and the lines it sends directly, where the legacy shell sends line after
line. Both deliver the same lines exactly for the lists that are `Bracketed` (`deliveredLines_iff`), and every list
that the backend sends is one (`bracketed_of_transmits`).
-/

namespace SwitchOps

open Text

def configureTerminal : Text := "configure terminal"
def endConfiguration : Text := "end"

/-- The connection of Netmiko, as far as an action uses it. -/
structure NetmikoConnection (σ : Type) where
  sendConfigSet : List Text → σ → Text × σ
  sendCommandTiming : Text → σ → Text × σ

namespace NetmikoConnection

variable {σ : Type} (connection : NetmikoConnection σ)

/-- The loop of `run_raw_action`. -/
structure RawAction (σ : Type) where
  outputs : List Text := []
  inConfig : Bool := false
  configBuffer : List Text := []
  state : σ

/-- What is buffered is configured, if there is anything. -/
def RawAction.flush (loop : RawAction σ) : RawAction σ :=
  if loop.inConfig && !loop.configBuffer.isEmpty then
    let (output, state) := connection.sendConfigSet loop.configBuffer loop.state
    { loop with outputs := loop.outputs ++ [output], state := state }
  else loop

/-- One command. -/
def RawAction.command (loop : RawAction σ) (cmd : Text) : RawAction σ :=
  if cmd = configureTerminal then { loop with inConfig := true }
  else if cmd = endConfiguration then { loop.flush connection with inConfig := false, configBuffer := [] }
  else if loop.inConfig then { loop with configBuffer := loop.configBuffer ++ [cmd] }
  else
    let (output, state) := connection.sendCommandTiming cmd loop.state
    { loop with outputs := loop.outputs ++ [output], state := state }

/-- All commands, and what is buffered after them. -/
def RawAction.run (commands : List Text) (loop : RawAction σ) : RawAction σ :=
  RawAction.flush connection (commands.foldl (RawAction.command connection) loop)

/-- `NetmikoSwitchClient.run_raw_action`, until the prompt is captured again. -/
def runRawAction (commands : List Text) (state : σ) : Text × σ :=
  let loop := RawAction.run connection commands { state := state }
  (Text.join "\n" (loop.outputs.filter (!·.isEmpty)), loop.state)

/-- What Netmiko documents of the lines that it delivers: a set of configuration commands is sent between entering
configuration mode and leaving it. -/
structure Delivers (delivered : σ → List Text) : Prop where
  configSet : ∀ lines state, delivered (connection.sendConfigSet lines state).2 =
    delivered state ++ (configureTerminal :: lines ++ [endConfiguration])
  timing : ∀ line state, delivered (connection.sendCommandTiming line state).2 = delivered state ++ [line]

end NetmikoConnection

/-! ## Bracketed lists -/

/-- A line that neither enters nor leaves configuration mode. -/
def IsInner (line : Text) : Prop := line ≠ configureTerminal ∧ line ≠ endConfiguration

/-- Lines that are sent as they are, and blocks of at least one that are configured. -/
inductive Bracketed : List Text → Prop
  | nil : Bracketed []
  | line {line : Text} {rest : List Text} (inner : IsInner line) (more : Bracketed rest) : Bracketed (line :: rest)
  | block {lines rest : List Text} (some_ : lines ≠ []) (inner : ∀ line ∈ lines, IsInner line) (more : Bracketed rest) :
      Bracketed (configureTerminal :: (lines ++ endConfiguration :: rest))

/-- The lines of a block, if there are any. -/
def blockLines (lines : List Text) : List Text :=
  if lines = [] then [] else configureTerminal :: (lines ++ [endConfiguration])

/-- The lines that are delivered outside of a block. -/
def deliveredLines : Bool → List Text → List Text → List Text
  | inConfig, buffer, [] => if inConfig then blockLines buffer else []
  | inConfig, buffer, cmd :: commands =>
    if cmd = configureTerminal then deliveredLines true buffer commands
    else if cmd = endConfiguration then
      (if inConfig then blockLines buffer else []) ++ deliveredLines false [] commands
    else if inConfig then deliveredLines true (buffer ++ [cmd]) commands
    else cmd :: deliveredLines false buffer commands

namespace NetmikoConnection

variable {σ : Type} {connection : NetmikoConnection σ} {delivered : σ → List Text}

theorem delivered_flush (delivers : connection.Delivers delivered) (loop : RawAction σ) :
    delivered (loop.flush connection).state =
      delivered loop.state ++ (if loop.inConfig then blockLines loop.configBuffer else []) := by
  unfold RawAction.flush blockLines
  cases loop.inConfig with
  | false => simp
  | true =>
    by_cases none_ : loop.configBuffer = []
    · simp [none_]
    · simp [none_, delivers.configSet]

theorem delivered_run (delivers : connection.Delivers delivered) (commands : List Text) (loop : RawAction σ) :
    delivered (RawAction.run connection commands loop).state =
      delivered loop.state ++ deliveredLines loop.inConfig loop.configBuffer commands := by
  induction commands generalizing loop with
  | nil => exact delivered_flush delivers loop
  | cons cmd commands ih =>
    show delivered (RawAction.run connection commands (loop.command connection cmd)).state = _
    rw [ih, deliveredLines]
    unfold RawAction.command
    split
    · rfl
    · split
      · show delivered (loop.flush connection).state ++ deliveredLines false [] commands = _
        rw [delivered_flush delivers, List.append_assoc]
      · split
        · next config => simp only [config]
        · next config =>
          have outside : loop.inConfig = false := by simpa using config
          show delivered (connection.sendCommandTiming cmd loop.state).2 ++ deliveredLines loop.inConfig _ commands = _
          rw [delivers.timing, outside, List.append_assoc]
          rfl

end NetmikoConnection

/-! ## When the transports agree -/

/-- What is left of the lines of a block: configuration mode is entered only once. -/
theorem deliveredLines_block {lines : List Text} (open_ : endConfiguration ∉ lines) (buffer rest : List Text) :
    deliveredLines true buffer (lines ++ endConfiguration :: rest) =
      blockLines (buffer ++ lines.filter (· ≠ configureTerminal)) ++ deliveredLines false [] rest := by
  induction lines generalizing buffer with
  | nil =>
    show deliveredLines true buffer (endConfiguration :: rest) = _
    rw [deliveredLines, if_neg (by decide), if_pos rfl, if_pos rfl, List.filter_nil, List.append_nil]
  | cons cmd lines ih =>
    obtain ⟨first, later⟩ := not_or.mp (List.mem_cons.not.mp open_)
    show deliveredLines true buffer (cmd :: (lines ++ endConfiguration :: rest)) = _
    rw [deliveredLines]
    by_cases enters : cmd = configureTerminal
    · rw [if_pos enters, ih later, List.filter_cons_of_neg (by simpa using enters)]
    · rw [if_neg enters, if_neg (Ne.symm first), if_pos rfl, ih later, List.filter_cons_of_pos (by simpa using enters),
        List.append_assoc, List.singleton_append]

/-- A block that is not closed is closed after the last command. -/
theorem deliveredLines_unclosed {lines : List Text} (open_ : endConfiguration ∉ lines) (buffer : List Text) :
    deliveredLines true buffer lines = blockLines (buffer ++ lines.filter (· ≠ configureTerminal)) := by
  induction lines generalizing buffer with
  | nil => simp [deliveredLines]
  | cons cmd lines ih =>
    obtain ⟨first, later⟩ := not_or.mp (List.mem_cons.not.mp open_)
    rw [deliveredLines]
    by_cases enters : cmd = configureTerminal
    · rw [if_pos enters, ih later, List.filter_cons_of_neg (by simpa using enters)]
    · rw [if_neg enters, if_neg (Ne.symm first), if_pos rfl, ih later, List.filter_cons_of_pos (by simpa using enters),
        List.append_assoc, List.singleton_append]

theorem length_blockLines_le (lines : List Text) : (blockLines lines).length ≤ lines.length + 2 := by
  unfold blockLines
  split
  · exact Nat.zero_le _
  · simp

/-- At most one line more is delivered than there are: an `end`. -/
theorem length_deliveredLines_le (inConfig : Bool) (buffer commands : List Text) :
    (deliveredLines inConfig buffer commands).length ≤
      buffer.length + commands.length + (if inConfig then 2 else 1) := by
  induction commands generalizing inConfig buffer with
  | nil =>
    have block := length_blockLines_le buffer
    cases inConfig with
    | false => simp [deliveredLines]
    | true => simpa [deliveredLines] using block
  | cons cmd commands ih =>
    have entered : (deliveredLines true buffer commands).length ≤ buffer.length + commands.length + 2 := ih true buffer
    have after : (deliveredLines false [] commands).length ≤ 0 + commands.length + 1 := ih false []
    have inner : (deliveredLines true (buffer ++ [cmd]) commands).length
        ≤ (buffer ++ [cmd]).length + commands.length + 2 := ih true (buffer ++ [cmd])
    have outer : (deliveredLines false buffer commands).length ≤ buffer.length + commands.length + 1 := ih false buffer
    have block := length_blockLines_le buffer
    rw [List.length_append, List.length_singleton] at inner
    rw [deliveredLines, List.length_cons]
    split
    · split <;> omega
    · split
      · rw [List.length_append]
        split
        · omega
        · rw [List.length_nil]
          omega
      · split
        · omega
        · rw [List.length_cons]
          omega

/-- The first block of a list whose lines are delivered as they are. -/
theorem block_of_delivered {lines rest : List Text} (open_ : endConfiguration ∉ lines)
    (same : deliveredLines true [] (lines ++ endConfiguration :: rest) =
      configureTerminal :: (lines ++ endConfiguration :: rest)) :
    lines ≠ [] ∧ (∀ line ∈ lines, IsInner line) ∧ deliveredLines false [] rest = rest := by
  let isInside (line : Text) : Bool := line ≠ endConfiguration
  have inside {lines : List Text} (h : endConfiguration ∉ lines) (rest : List Text) :
      (lines ++ endConfiguration :: rest).takeWhile isInside = lines := by
    rw [List.takeWhile_append_of_pos, List.takeWhile_cons_of_neg (by simp [isInside]), List.append_nil]
    intro line here
    simpa [isInside] using fun last : line = endConfiguration => h (last ▸ here)
  rw [deliveredLines_block open_, List.nil_append] at same
  have some_ : lines.filter (· ≠ configureTerminal) ≠ [] := by
    intro none_
    -- nothing would be delivered of the block, and no more than one line is added to the rest
    have short : (deliveredLines false [] rest).length ≤ 0 + rest.length + 1 := length_deliveredLines_le false [] rest
    have long := congrArg List.length same
    rw [none_, blockLines, if_pos rfl, List.nil_append, List.length_cons, List.length_append, List.length_cons] at long
    omega
  rw [blockLines, if_neg some_] at same
  have same : lines.filter (· ≠ configureTerminal) ++ endConfiguration :: deliveredLines false [] rest
      = lines ++ endConfiguration :: rest := by simpa using same
  have all : lines.filter (· ≠ configureTerminal) = lines := by
    have := congrArg (List.takeWhile isInside) same
    rwa [inside open_, inside fun here => open_ (List.mem_of_mem_filter here)] at this
  rw [all] at same some_
  refine ⟨some_, fun line here => ⟨?_, fun last => open_ (last ▸ here)⟩, ?_⟩
  · simpa using List.filter_eq_self.mp all line here
  · exact (List.cons.inj (List.append_cancel_left same)).2

theorem head?_blockLines (lines : List Text) : (blockLines lines).head? ≠ some endConfiguration := by
  unfold blockLines
  split
  · simp
  · rw [List.head?_cons]
    decide

/-- No `end` is delivered before anything else. -/
theorem head?_deliveredLines (inConfig : Bool) (buffer commands : List Text) :
    (deliveredLines inConfig buffer commands).head? ≠ some endConfiguration := by
  induction commands generalizing inConfig buffer with
  | nil =>
    rw [deliveredLines]
    split
    · exact head?_blockLines buffer
    · simp
  | cons cmd commands ih =>
    rw [deliveredLines]
    split
    · exact ih true buffer
    · next outside =>
      split
      · split
        · rw [List.head?_append]
          have block := head?_blockLines buffer
          cases first : (blockLines buffer).head? with
          | none => exact ih false []
          | some line => rwa [first] at block
        · exact ih false []
      · next inner =>
        split
        · exact ih true _
        · rw [List.head?_cons]
          exact fun same => inner (Option.some.inj same)

theorem bracketed_of_delivered {commands : List Text} (same : deliveredLines false [] commands = commands) :
    Bracketed commands := by
  induction length : commands.length using Nat.strong_induction_on generalizing commands with
  | _ n ih =>
    cases commands with
    | nil => exact .nil
    | cons cmd commands =>
      rw [deliveredLines] at same
      by_cases enters : cmd = configureTerminal
      · subst enters
        rw [if_pos rfl] at same
        by_cases closed : endConfiguration ∈ commands
        · obtain ⟨lines, rest, rfl, open_⟩ := List.eq_append_cons_of_mem closed
          obtain ⟨some_, inner, later⟩ := block_of_delivered open_ same
          refine .block some_ inner (ih rest.length ?_ later rfl)
          rw [← length, List.length_cons, List.length_append, List.length_cons]
          omega
        · -- an `end` would be added, or the block left out
          exfalso
          rw [deliveredLines_unclosed closed, List.nil_append] at same
          unfold blockLines at same
          split at same
          · cases same
          · apply closed
            rw [← (List.cons.inj same).2]
            exact List.mem_append_right _ (List.mem_singleton.mpr rfl)
      · rw [if_neg enters] at same
        by_cases leaves : cmd = endConfiguration
        · exfalso
          rw [if_pos leaves, if_neg (by simp), List.nil_append] at same
          apply head?_deliveredLines false [] commands
          rw [same, leaves, List.head?_cons]
        · rw [if_neg leaves, if_neg (by simp)] at same
          refine .line ⟨enters, leaves⟩ (ih commands.length ?_ (List.cons.inj same).2 rfl)
          rw [← length, List.length_cons]
          omega

theorem delivered_of_bracketed {commands : List Text} (h : Bracketed commands) :
    deliveredLines false [] commands = commands := by
  induction h with
  | nil => rfl
  | line inner _ ih => rw [deliveredLines, if_neg inner.1, if_neg inner.2, if_neg (by simp), ih]
  | @block lines rest some_ inner _ ih =>
    have open_ : endConfiguration ∉ lines := fun here => (inner _ here).2 rfl
    have all : lines.filter (· ≠ configureTerminal) = lines :=
      List.filter_eq_self.mpr fun line here => by simpa using (inner line here).1
    rw [deliveredLines, if_pos rfl, deliveredLines_block open_, all, List.nil_append, ih, blockLines, if_neg some_]
    simp

/-- **The transports agree.** Over Netmiko, exactly the bracketed lists are delivered as they are, which is how the
legacy shell sends every list. -/
theorem delivered_runRawAction_iff {σ : Type} {connection : NetmikoConnection σ} {delivered : σ → List Text}
    (delivers : connection.Delivers delivered) (commands : List Text) (state : σ) :
    delivered (connection.runRawAction commands state).2 = delivered state ++ commands ↔ Bracketed commands := by
  have lines : delivered (connection.runRawAction commands state).2 =
      delivered state ++ deliveredLines false [] commands :=
    NetmikoConnection.delivered_run delivers commands { state := state }
  rw [lines, List.append_cancel_left_eq]
  exact ⟨bracketed_of_delivered, delivered_of_bracketed⟩

theorem isInner_append {label : Text} (head : (label.head?.any fun c => c != 'c' && c != 'e') = true) (rest : Text) :
    IsInner (label ++ rest) := by
  cases label with
  | nil => cases head
  | cons c label =>
    rw [List.head?_cons, Option.any_some, Bool.and_eq_true, bne_iff_ne, bne_iff_ne] at head
    exact ⟨fun same => head.1 (List.cons.inj same).1, fun same => head.2 (List.cons.inj same).1⟩

theorem bracketed_configSequence (canonical : Text) {line : Text} (inner : IsInner line) :
    Bracketed (configSequence canonical line) := by
  have interface : IsInner ("interface ".toList ++ canonical) := isInner_append (by decide) _
  exact @Bracketed.block ["interface ".toList ++ canonical, line] [] (List.cons_ne_nil _ _)
    (List.forall_mem_cons.mpr ⟨interface, List.forall_mem_singleton.mpr inner⟩) .nil

theorem isInner_of_catalogueLine {line : Text} (h : CatalogueLine line) : IsInner line := by
  cases h with
  | shutdown => exact ⟨by decide, by decide⟩
  | noShutdown => exact ⟨by decide, by decide⟩
  | powerInlineAuto => exact ⟨by decide, by decide⟩
  | powerInlineNever => exact ⟨by decide, by decide⟩
  | noDescription => exact ⟨by decide, by decide⟩
  | description value _ _ _ _ => exact isInner_append (by decide) value

theorem isInner_changeLine (kind : OperationKind) (value : Text) : IsInner (changeLine kind value) := by
  cases kind with
  | adminUp => exact isInner_of_catalogueLine .noShutdown
  | adminDown => exact isInner_of_catalogueLine .shutdown
  | poeAuto => exact isInner_of_catalogueLine .powerInlineAuto
  | poeNever => exact isInner_of_catalogueLine .powerInlineNever
  | setDescription => exact isInner_append (by decide) value

/-- What an operation may send is delivered as it is. -/
theorem bracketed_of_transmits {S : Type} {call : OperationCall S} {commands : List Text}
    (transmits : Transmits call commands) : Bracketed commands := by
  obtain ⟨canonical, safeValue, writable, -, -, sent⟩ := transmits
  obtain ⟨-, name, rfl⟩ := assertInterfaceWritable_ok_iff.mp writable
  rcases sent with rfl | ⟨configText, config, configured, rollback⟩
  · rw [renderCommands_eq _ (not_mem_brace name)]
    exact bracketed_configSequence _ (isInner_changeLine _ _)
  · obtain ⟨line, restores, rfl⟩ := Option.map_eq_some_iff.mp rollback
    exact bracketed_configSequence _ (isInner_of_catalogueLine (restoreLine_catalogue configured restores))

/-- A connection that remembers the lines that it delivers. -/
def recordingConnection : NetmikoConnection (List Text) where
  sendConfigSet := fun lines sent => ("", sent ++ (configureTerminal :: lines ++ [endConfiguration]))
  sendCommandTiming := fun line sent => ("", sent ++ [line])

/-- A block that is not closed. -/
def unclosedBlock : List Text := ["configure terminal", "lldp run"]

theorem delivered_runRawAction_iff_unclosed :
    (recordingConnection.runRawAction unclosedBlock []).2 = [] ++ unclosedBlock ↔ Bracketed unclosedBlock :=
  @delivered_runRawAction_iff _ recordingConnection id ⟨fun _ _ => rfl, fun _ _ => rfl⟩ unclosedBlock []

end SwitchOps
