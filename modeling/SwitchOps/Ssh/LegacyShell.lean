import SwitchOps.Lib.Chunked
import SwitchOps.Lib.Tables
import SwitchOps.Operations.Commands
import SwitchOps.Operations.LldpExperiment

/-!
# The legacy shell

`legacy_ssh_client.py`: commands over an interactive shell. The reply to a command ends where the buffer looks
like it ends in a prompt, whenever it is looked at; what the switch sends is cut into chunks by the network.

The replies stay with their commands, for every way to cut them, exactly when no reply has a `#` or a `>` before
its last character (`sendLine_aligned_iff`). What the backend itself sends is echoed without harm, so that a
switch whose output has neither gets through any session (`run_exact`).

The output of the switch is text; how bytes are decoded is left out.
-/

namespace SwitchOps

open Text

/-! ## The client -/

/-- `text.split("\n")[-1]` -/
def lastLine (text : Text) : Text := (text.splitOn '\n').getLast?.getD []

/-- `PROMPT_CHARS` -/
def promptChars : List Char := ['#', '>']

/-- `line.endswith("#") or line.endswith(">")` -/
def endsInPrompt (line : Text) : Bool := line.getLast?.any (promptChars.contains ·)

/-- When `_read_until_prompt` returns what it holds. -/
def readsPrompt (terminators : List Text) (buf : Text) : Bool :=
  endsInPrompt (lastLine buf.rstrip) || terminators.any (Text.contains buf ·)

/-- A shell: the state of the switch, and what it has sent that is not read yet. -/
structure LegacyShell (σ : Type) where
  device : σ
  pending : Text := []

/-- What becomes of a switch and what it sends when a line comes in. -/
abbrev ShellAnswer (σ : Type) := σ → Text → Text × σ

namespace LegacyShell

variable {σ : Type}

section client

variable (answer : ShellAnswer σ)

/-- `_read_until_prompt`: each look finds so many more characters ready, and the deadline comes after the last. -/
def readUntilPrompt (terminators : List Text) (looks : List Nat) (shell : LegacyShell σ) : Text × LegacyShell σ :=
  let read := Chunked.readUntil (readsPrompt terminators) looks shell.pending []
  (read.1, { shell with pending := read.2 })

/-- `self._shell.send` -/
def send (line : Text) (shell : LegacyShell σ) : LegacyShell σ :=
  { device := (answer shell.device line).2, pending := shell.pending ++ (answer shell.device line).1 }

/-- `send_line` -/
def sendLine (line : Text) (looks : List Nat) (shell : LegacyShell σ) : Text × LegacyShell σ :=
  (shell.send answer (line ++ "\n".toList)).readUntilPrompt [] looks

/-- `connect`, with the looks at what the switch greets with and at the reply. -/
def connect (looks : List Nat × List Nat) (shell : LegacyShell σ) : LegacyShell σ :=
  ((shell.readUntilPrompt [] looks.1).2.sendLine answer "terminal length 0" looks.2).2

/-- `enable`, with the looks at the three replies. -/
def enable (secret : Text) (looks : List Nat × List Nat × List Nat) (shell : LegacyShell σ) : LegacyShell σ :=
  let (out, shell) := (shell.send answer "\n").readUntilPrompt [] looks.1
  if (lastLine out.rstrip).getLast? = some '>' then
    let shell := ((shell.send answer "enable\n").readUntilPrompt ["Password:"] looks.2.1).2
    ((shell.send answer (secret ++ "\n".toList)).readUntilPrompt [] looks.2.2).2
  else shell

/-- A line of a single word that ends like a prompt. -/
def isBarePrompt (line : Text) : Bool :=
  let stripped := line.rstrip
  endsInPrompt stripped && (stripped.split.getLast?.any endsInPrompt && stripped.split.length ≤ 1)

/-- `text.strip("\r\n")` -/
def stripNewlines (text : Text) : Text :=
  let newline (c : Char) : Bool := c = '\r' || c = '\n'
  ((text.dropWhile newline).reverse.dropWhile newline).reverse

/-- What `run` makes of the reply to a command: without the echo and the prompt. -/
def cleanReply (command out : Text) : Text :=
  let cleaned := out.splitlines.filter fun line => !isBarePrompt line
  let cleaned := match cleaned with
    | first :: rest => if Text.contains first command then rest else first :: rest
    | [] => []
  stripNewlines (Text.join "\n" cleaned)

/-- `run` -/
def run (command : Text) (looks : List Nat) (shell : LegacyShell σ) : Text × LegacyShell σ :=
  let (out, shell) := shell.sendLine answer command looks
  (cleanReply command out, shell)

/-- What is read after each of some lines, with the looks that are had at its reply. -/
def sendLines (shell : LegacyShell σ) : List Text → List (List Nat) → List Text
  | line :: lines, looks :: later =>
    let (out, shell) := shell.sendLine answer line looks
    out :: sendLines shell lines later
  | _, _ => []

/-- The outputs of some commands, each with the looks that are had at its reply. -/
def outputs (shell : LegacyShell σ) : List Text → List (List Nat) → List Text
  | command :: commands, looks :: later =>
    let (out, shell) := shell.run answer command looks
    out :: outputs shell commands later
  | _, _ => []

/-- `LegacyParamikoSwitchClient.run_raw_action` -/
def runRawAction (commands : List Text) (looks : List (List Nat)) (shell : LegacyShell σ) : Text :=
  Text.join "\n" ((shell.outputs answer commands looks).filter (!·.isEmpty))

end client

/-! ## Aligned replies -/

theorem exists_lastLine (text : Text) : ∃ before, text = before ++ lastLine text ∧ ∀ c ∈ before.getLast?, c = '\n' := by
  by_cases newline : '\n' ∈ text
  · obtain ⟨rest, before, split, last⟩ := List.eq_append_cons_of_mem (List.mem_reverse.mpr newline)
    have text_eq : text = before.reverse ++ '\n' :: rest.reverse := by
      have := congrArg List.reverse split
      simpa using this
    have plain : '\n' ∉ rest.reverse := by simpa using last
    refine ⟨before.reverse ++ ['\n'], ?_, by simp⟩
    rw [text_eq, lastLine, List.splitOn_append_cons_self, List.splitOn_eq_singleton plain, List.getLast?_concat]
    simp
  · refine ⟨[], ?_, by simp⟩
    rw [lastLine, List.splitOn_eq_singleton newline]
    rfl

theorem endsInPrompt_iff {line : Text} : endsInPrompt line = true ↔ ∃ c ∈ line.getLast?, c ∈ promptChars := by
  unfold endsInPrompt
  cases line.getLast? with
  | none => simp
  | some c => simp

/-- A text ends like a prompt if its last line does. -/
theorem endsInPrompt_lastLine (text : Text) : endsInPrompt (lastLine text) = endsInPrompt text := by
  obtain ⟨before, split, newline⟩ := exists_lastLine text
  cases last : (lastLine text).getLast? with
  | some c =>
    have whole : text.getLast? = some c := by rw [split, List.getLast?_append, last, Option.some_or]
    rw [endsInPrompt, endsInPrompt, last, whole]
  | none =>
    have whole : text.getLast? = before.getLast? := by rw [split, List.getLast?_append, last, Option.none_or]
    rw [endsInPrompt, endsInPrompt, last, whole]
    cases ended : before.getLast? with
    | none => rfl
    | some c =>
      obtain rfl := newline c ended
      decide

theorem isSpace_of_mem_promptChars {c : Char} (h : c ∈ promptChars) : isSpace c = false := by
  have all : ∀ c ∈ promptChars, isSpace c = false := by decide
  exact all c h

/-- A part of a reply is taken for the whole exactly if a prompt character stands before its last one. -/
theorem early_iff {reply : Text} :
    Chunked.Early (readsPrompt []) reply ↔ ∃ c ∈ reply.dropLast, c ∈ promptChars := by
  have reads (buf : Text) : readsPrompt [] buf = endsInPrompt buf.rstrip := by
    rw [readsPrompt, endsInPrompt_lastLine, List.any_nil, Bool.or_false]
  constructor
  · rintro ⟨front, rest, rfl, -, more, found⟩
    rw [reads, endsInPrompt_iff] at found
    obtain ⟨c, last, prompt⟩ := found
    have inFront : c ∈ front := by
      have : c ∈ front.reverse.dropWhile isSpace := List.mem_reverse.mp (List.mem_of_getLast? last)
      exact List.mem_reverse.mp ((List.dropWhile_sublist _).mem this)
    refine ⟨c, ?_, prompt⟩
    rw [List.dropLast_append_of_ne_nil more]
    exact List.mem_append_left _ inFront
  · rintro ⟨c, here, prompt⟩
    obtain ⟨u, v, split⟩ := List.append_of_mem here
    have nonempty : reply ≠ [] := by
      rintro rfl
      cases here
    refine ⟨u ++ [c], v ++ [reply.getLast nonempty], ?_, by simp, by simp, ?_⟩
    · conv_lhs => rw [← List.dropLast_append_getLast nonempty, split]
      simp
    · rw [reads, rstrip_eq_self, endsInPrompt_iff]
      · exact ⟨c, by simp, prompt⟩
      · intro d last
        obtain rfl : d = c := by simpa [eq_comm] using last
        exact isSpace_of_mem_promptChars prompt

section aligned

variable (answer : ShellAnswer σ)

/-- The replies of a switch to some lines. -/
def replies (device : σ) (lines : List Text) : List Text :=
  Chunked.replies answer device (lines.map (· ++ "\n".toList))

/-- Everything that is sent in reply has arrived at one of the looks that are had at it. -/
def Arrive (looks : List (List Nat)) (replies : List Text) : Prop := List.Forall₂ Chunked.Arrives looks replies

variable {answer}

theorem sendLines_eq (shell : LegacyShell σ) (lines : List Text) (looks : List (List Nat)) :
    shell.sendLines answer lines looks = Chunked.exchange (readsPrompt []) answer shell.device shell.pending
      (lines.map (· ++ "\n".toList)) looks := by
  induction lines generalizing shell looks with
  | nil => cases looks <;> rfl
  | cons line lines ih =>
    cases looks with
    | nil => rfl
    | cons looks later =>
      show _ :: sendLines answer _ lines later = _ :: Chunked.exchange _ _ _ _ _ _
      rw [ih]
      rfl

end aligned

/-! ## Logging in -/

section login

variable {answer : ShellAnswer σ} {shell : LegacyShell σ}

/-- A reply that has no prompt character before its last one, and arrives in time. -/
def ReadWhole (looks : List Nat) (reply : Text) : Prop :=
  (∀ c ∈ reply.dropLast, c ∉ promptChars) ∧ Chunked.Arrives looks reply

theorem readUntilPrompt_whole {looks : List Nat} (whole : ReadWhole looks shell.pending) :
    shell.readUntilPrompt [] looks = (shell.pending, { device := shell.device }) := by
  have late : ¬Chunked.Early (readsPrompt []) ([] ++ shell.pending) := by
    rw [List.nil_append, early_iff]
    rintro ⟨c, here, prompt⟩
    exact whole.1 c here prompt
  unfold readUntilPrompt
  rw [Chunked.readUntil_of_not_early late whole.2]
  rfl

/-- Nothing is left to be read once the shell is connected. -/
theorem connect_eq {looks : List Nat × List Nat} (greeting : ReadWhole looks.1 shell.pending)
    (terminal : ReadWhole looks.2 (answer shell.device "terminal length 0\n").1) :
    shell.connect answer looks = { device := (answer shell.device "terminal length 0\n").2 } := by
  unfold connect sendLine
  rw [readUntilPrompt_whole greeting]
  exact congrArg Prod.snd (@readUntilPrompt_whole σ (send answer "terminal length 0\n" { device := shell.device }) _ terminal)

/-- What `enable` reads: the prompt; the question for the password, with no prompt character in it; and the new
prompt, together with what is left of the question. -/
structure EnablesWhole (answer : ShellAnswer σ) (device : σ) (secret : Text) (looks : List Nat × List Nat × List Nat) :
    Prop where
  probe : ReadWhole looks.1 (answer device "\n").1
  question : ∀ c ∈ (answer (answer device "\n").2 "enable\n").1, c ∉ promptChars
  prompt : ∀ c ∈ (answer (answer (answer device "\n").2 "enable\n").2 (secret ++ "\n".toList)).1.dropLast, c ∉ promptChars
  arrives : Chunked.Arrives looks.2.2 ((answer (answer device "\n").2 "enable\n").1 ++
    (answer (answer (answer device "\n").2 "enable\n").2 (secret ++ "\n".toList)).1)

/-- Nothing is left to be read once the shell is enabled, though the question may have been read in part. -/
theorem pending_enable {device : σ} {secret : Text} {looks : List Nat × List Nat × List Nat}
    (whole : EnablesWhole answer device secret looks) :
    (enable answer secret looks { device := device }).pending = [] := by
  unfold enable
  have probe := @readUntilPrompt_whole σ (send answer "\n" { device := device }) _ whole.probe
  rw [probe]
  dsimp only
  split
  case isFalse => rfl
  case isTrue =>
    generalize asked : send answer "enable\n" { device := (send answer "\n" { device := device }).device } = question
    have text : question.pending = (answer (answer device "\n").2 "enable\n").1 := by
      rw [← asked]
      rfl
    have state : question.device = (answer (answer device "\n").2 "enable\n").2 := by
      rw [← asked]
      rfl
    let left := (Chunked.readUntil (readsPrompt ["Password:"]) looks.2.1 question.pending []).2
    -- what is left is a part of the question
    have part : (Chunked.readUntil (readsPrompt ["Password:"]) looks.2.1 question.pending []).1 ++ left
      = question.pending := Chunked.readUntil_append _ _ _
    have quiet : ∀ c ∈ left, c ∉ promptChars := by
      intro c here
      apply whole.question c
      rw [← text, ← part]
      exact List.mem_append_right _ here
    have shorter : left.length ≤ question.pending.length := by
      rw [← part, List.length_append]
      exact Nat.le_add_left _ _
    let reply := (answer question.device (secret ++ "\n".toList)).1
    have final : ReadWhole looks.2.2 (left ++ reply) := by
      constructor
      · intro c here
        by_cases none_ : reply = []
        · rw [none_, List.append_nil] at here
          exact quiet c (List.mem_of_mem_dropLast here)
        · rw [List.dropLast_append_of_ne_nil none_] at here
          rcases List.mem_append.mp here with here | here
          · exact quiet c here
          · apply whole.prompt c
            rwa [← state]
      · have arrives := whole.arrives
        unfold Chunked.Arrives at arrives ⊢
        rw [← text, ← state, List.length_append] at arrives
        rw [List.length_append]
        exact Nat.le_trans (Nat.add_le_add_right shorter _) arrives
    exact congrArg (fun read => read.2.pending) (@readUntilPrompt_whole σ { device := _, pending := left ++ reply } _ final)

end login

/-! ## What the backend sends -/

/-- A character that neither ends a line nor looks like the end of a prompt. -/
def isPlain (c : Char) : Bool := !isLineBreak c && !promptChars.contains c

/-- The lines that the backend sends to a switch. -/
inductive SentLine : Text → Prop
  | read (symbol : ReadSymbol) : SentLine (resolveReadCommand symbol)
  | operation {S : Type} (call : OperationCall S) {commands : List Text} (transmits : Transmits call commands)
      {line : Text} (here : line ∈ commands) : SentLine line
  | save : SentLine "write memory"
  | lldp {line : Text} (here : line ∈ enableLldp ++ disableLldp) : SentLine line

theorem isPlain_of_nameChar {c : Char} (h : PhysicalName.nameChar c = true) : isPlain c = true := by
  have noBreak : isLineBreak c = false := isLineBreak_of_isSpace (PhysicalName.isSpace_of_nameChar h)
  have noPrompt : c ∉ promptChars := by
    intro here
    have all : ∀ c ∈ promptChars, PhysicalName.nameChar c = false := by decide
    exact absurd h (by simp [all c here])
  simp [isPlain, noBreak, noPrompt]

theorem isPlain_of_descriptionOk {c : Char} (h : c ∈ descriptionOk) : isPlain c = true := by
  have all : ∀ c ∈ descriptionOk, isPlain c = true := by decide
  exact all c h

/-- A configuration sequence is plain if its line is. -/
theorem isPlain_configSequence (name : PhysicalName) {change line : Text} (plain : ∀ c ∈ change, isPlain c = true)
    (here : line ∈ configSequence name.text change) : ∀ c ∈ line, isPlain c = true := by
  simp only [configSequence, List.mem_cons, List.not_mem_nil, or_false] at here
  rcases here with rfl | rfl | rfl | rfl
  · decide
  · intro c hc
    rcases List.mem_append.mp hc with hc | hc
    · have all : ∀ d ∈ "interface ".toList, isPlain d = true := by decide
      exact all c hc
    · exact isPlain_of_nameChar (PhysicalName.nameChar_of_mem hc)
  · exact plain
  · decide

theorem isPlain_of_catalogueLine {line : Text} (h : CatalogueLine line) : ∀ c ∈ line, isPlain c = true := by
  cases h with
  | shutdown => decide
  | noShutdown => decide
  | powerInlineAuto => decide
  | powerInlineNever => decide
  | noDescription => decide
  | description value _ _ alphabet _ =>
    intro c hc
    rcases List.mem_append.mp hc with hc | hc
    · have all : ∀ d ∈ "description ".toList, isPlain d = true := by decide
      exact all c hc
    · exact isPlain_of_descriptionOk (alphabet c hc)

theorem isPlain_changeLine {S : Type} {call : OperationCall S} {safeValue : Option Text}
    (safe : Transaction.SafeValue call safeValue) :
    ∀ c ∈ changeLine call.kind (safeValue.getD []), isPlain c = true := by
  unfold Transaction.SafeValue at safe
  cases kind : call.kind with
  | adminUp => exact isPlain_of_catalogueLine .noShutdown
  | adminDown => exact isPlain_of_catalogueLine .shutdown
  | poeAuto => exact isPlain_of_catalogueLine .powerInlineAuto
  | poeNever => exact isPlain_of_catalogueLine .powerInlineNever
  | setDescription =>
    rw [kind] at safe
    obtain ⟨value, sanitized, rfl⟩ : ∃ value, sanitizeDescription (call.value.getD []) = .ok value ∧
      safeValue = some value := safe
    intro c hc
    rcases List.mem_append.mp hc with hc | hc
    · have all : ∀ d ∈ "description ".toList, isPlain d = true := by decide
      exact all c hc
    · exact isPlain_of_descriptionOk ((sanitizeDescription_ok_iff.mp sanitized).2.2.2 c hc)

/-- What the backend sends is plain. -/
theorem SentLine.isPlain {line : Text} (h : SentLine line) : ∀ c ∈ line, isPlain c = true := by
  cases h with
  | read symbol => cases symbol <;> decide
  | save => decide
  | lldp here =>
    have all : ∀ line ∈ enableLldp ++ disableLldp, ∀ c ∈ line, LegacyShell.isPlain c = true := by decide
    exact all line here
  | operation call transmits here =>
    obtain ⟨canonical, safeValue, writable, -, safe, sent⟩ := transmits
    obtain ⟨-, name, rfl⟩ := assertInterfaceWritable_ok_iff.mp writable
    rcases sent with rfl | ⟨configText, config, configured, rollback⟩
    · rw [renderCommands_eq _ (not_mem_brace name)] at here
      exact isPlain_configSequence name (isPlain_changeLine safe) here
    · obtain ⟨restored, restores, rfl⟩ := Option.map_eq_some_iff.mp rollback
      exact isPlain_configSequence name (isPlain_of_catalogueLine (restoreLine_catalogue configured restores)) here

/-! ## A whole session -/

/-- A switch whose replies are the echo of the line, some lines of output and a prompt, all of them plain but for
the end of the prompt. -/
structure IosDevice (σ : Type) where
  output : σ → Text → List Text
  next : σ → Text → σ
  hostname : σ → Text
  mark : σ → Char
  plainOutput : ∀ s line, ∀ shown ∈ output s line, ∀ c ∈ shown, isPlain c = true
  plainName : ∀ s, ∀ c ∈ hostname s, isSpace c = false ∧ isPlain c = true
  prompts : ∀ s, mark s ∈ promptChars

namespace IosDevice

variable (device : IosDevice σ)

/-- The lines of a reply, the prompt aside, and their ends. -/
def written (lines : List Text) : Text := lines.flatMap (· ++ "\r\n".toList)

/-- What comes back once a line has come in. -/
def answer : ShellAnswer σ := fun s sent =>
  let line := sent.dropLast
  (written (line :: device.output s line) ++ (device.hostname (device.next s line) ++ [device.mark (device.next s line)]),
    device.next s line)

/-- What each of some commands shows. -/
def shown (device : IosDevice σ) : σ → List Text → List Text
  | _, [] => []
  | s, command :: commands =>
    stripNewlines (Text.join "\n" (device.output s command)) :: shown device (device.next s command) commands

end IosDevice

theorem splitlines_crlf {w : Text} (h : ∀ c ∈ w, isLineBreak c = false) (rest : Text) :
    splitlines (w ++ "\r\n".toList ++ rest) = w :: splitlines rest := by
  unfold splitlines
  rw [List.append_assoc, splitlinesFrom_append h]
  show splitlinesFrom ('\r' :: '\n' :: rest) _ = _
  rw [splitlinesFrom, List.append_nil, List.reverse_reverse]

theorem splitlines_written {lines : List Text} (h : ∀ line ∈ lines, ∀ c ∈ line, isLineBreak c = false) (rest : Text) :
    splitlines (IosDevice.written lines ++ rest) = lines ++ splitlines rest := by
  induction lines with
  | nil => rfl
  | cons line lines ih =>
    obtain ⟨first, later⟩ := List.forall_mem_cons.mp h
    show splitlines ((line ++ "\r\n".toList ++ IosDevice.written lines) ++ rest) = _
    rw [List.append_assoc, splitlines_crlf first, ih later]
    rfl

theorem isPlain_iff {c : Char} : isPlain c = true ↔ isLineBreak c = false ∧ c ∉ promptChars := by
  simp [isPlain]

theorem contains_self (t : Text) : Text.contains t t = true := by
  rw [Text.contains, List.any_eq_true]
  exact ⟨t, by simp, by simp⟩

theorem isBarePrompt_of_plain {line : Text} (plain : ∀ c ∈ line, isPlain c = true) : isBarePrompt line = false := by
  have ends : endsInPrompt line.rstrip = false := by
    by_contra found
    obtain ⟨c, last, prompt⟩ := endsInPrompt_iff.mp (by simpa using found)
    have inside : c ∈ line.reverse.dropWhile isSpace := List.mem_reverse.mp (List.mem_of_getLast? last)
    have here : c ∈ line := List.mem_reverse.mp ((List.dropWhile_sublist _).mem inside)
    exact (isPlain_iff.mp (plain c here)).2 prompt
  unfold isBarePrompt
  dsimp only
  rw [ends, Bool.false_and]

theorem isBarePrompt_prompt {name : Text} {mark : Char} (solid : ∀ c ∈ name, isSpace c = false)
    (prompt : mark ∈ promptChars) : isBarePrompt (name ++ [mark]) = true := by
  have token : IsToken (name ++ [mark]) := by
    constructor
    case ne_nil => exact List.append_ne_nil_of_right_ne_nil _ (List.cons_ne_nil _ _)
    case solid =>
      intro c here
      rcases List.mem_append.mp here with here | here
      · exact solid c here
      · exact isSpace_of_mem_promptChars (by rwa [List.mem_singleton.mp here])
  have ends : endsInPrompt (name ++ [mark]) = true := endsInPrompt_iff.mpr ⟨mark, by simp, prompt⟩
  have same : rstrip (name ++ [mark]) = name ++ [mark] := by
    apply rstrip_eq_self
    intro c last
    obtain rfl : mark = c := by simpa using last
    exact isSpace_of_mem_promptChars prompt
  unfold isBarePrompt
  dsimp only
  rw [same, ends, split_word token]
  simp [ends]

namespace IosDevice

variable (device : IosDevice σ)

/-- A reply has no prompt character before its last one. -/
theorem plain_reply (s : σ) {line : Text} (plain : ∀ c ∈ line, isPlain c = true) :
    ∀ c ∈ (device.answer s (line ++ "\n".toList)).1.dropLast, c ∉ promptChars := by
  have written_plain : ∀ lines : List Text, (∀ shown ∈ lines, ∀ c ∈ shown, isPlain c = true) →
      ∀ c ∈ written lines, c ∉ promptChars := by
    intro lines plain c here
    obtain ⟨shown, known, inside⟩ := List.mem_flatMap.mp here
    rcases List.mem_append.mp inside with inside | inside
    · exact (isPlain_iff.mp (plain shown known c inside)).2
    · have all : ∀ c ∈ "\r\n".toList, c ∉ promptChars := by decide
      exact all c inside
  intro c here
  have sent : (line ++ "\n".toList).dropLast = line := List.dropLast_concat
  rw [answer, sent] at here
  dsimp only at here
  rw [← List.append_assoc, List.dropLast_concat] at here
  rcases List.mem_append.mp here with here | here
  · refine written_plain _ ?_ c here
    rw [List.forall_mem_cons]
    exact ⟨plain, device.plainOutput s line⟩
  · exact (isPlain_iff.mp (device.plainName _ c here).2).2

/-- `run` keeps the output of a reply, and nothing else. -/
theorem cleanReply_answer (s : σ) {command : Text} (plain : ∀ c ∈ command, isPlain c = true) :
    cleanReply command (device.answer s (command ++ "\n".toList)).1 =
      stripNewlines (Text.join "\n" (device.output s command)) := by
  have sent : (command ++ "\n".toList).dropLast = command := List.dropLast_concat
  have plainLines : ∀ line ∈ command :: device.output s command, ∀ c ∈ line, isPlain c = true := by
    rw [List.forall_mem_cons]
    exact ⟨plain, device.plainOutput s command⟩
  let prompt := device.hostname (device.next s command) ++ [device.mark (device.next s command)]
  have lines : splitlines (device.answer s (command ++ "\n".toList)).1 = command :: device.output s command ++ [prompt] := by
    rw [answer, sent]
    dsimp only
    rw [splitlines_written fun line here c inside => (isPlain_iff.mp (plainLines line here c inside)).1]
    congr 1
    apply splitlines_single
    · intro c here
      rcases List.mem_append.mp here with here | here
      · exact (isPlain_iff.mp (device.plainName _ c here).2).1
      · rw [List.mem_singleton.mp here]
        exact isLineBreak_of_isSpace (isSpace_of_mem_promptChars (device.prompts _))
    · exact List.append_ne_nil_of_right_ne_nil _ (List.cons_ne_nil _ _)
  have bare : isBarePrompt prompt = true :=
    isBarePrompt_prompt (fun c here => (device.plainName _ c here).1) (device.prompts _)
  have kept : (splitlines (device.answer s (command ++ "\n".toList)).1).filter (fun line => !isBarePrompt line)
      = command :: device.output s command := by
    rw [lines, List.filter_append, List.filter_eq_self.mpr fun line here => by
      simp [isBarePrompt_of_plain (plainLines line here)], List.filter_singleton, bare]
    simp
  unfold cleanReply
  dsimp only
  rw [kept]
  dsimp only
  rw [if_pos (contains_self command)]

end IosDevice

theorem outputs_eq (answer : ShellAnswer σ) (shell : LegacyShell σ) (commands : List Text) (looks : List (List Nat)) :
    outputs answer shell commands looks =
      List.zipWith cleanReply commands (shell.sendLines answer commands looks) := by
  induction commands generalizing shell looks with
  | nil => cases looks <;> rfl
  | cons command commands ih =>
    cases looks with
    | nil => rfl
    | cons looks later =>
      show _ :: outputs answer _ commands later = _ :: List.zipWith _ commands (sendLines answer _ commands later)
      rw [ih]

namespace IosDevice

variable (device : IosDevice σ) {commands : List Text}

theorem plain_replies (s : σ) (sent : ∀ command ∈ commands, SentLine command) :
    ∀ reply ∈ replies device.answer s commands, ∀ c ∈ reply.dropLast, c ∉ promptChars := by
  induction commands generalizing s with
  | nil => exact List.forall_mem_nil _
  | cons command commands ih =>
    obtain ⟨first, later⟩ := List.forall_mem_cons.mp sent
    exact List.forall_mem_cons.mpr ⟨device.plain_reply s first.isPlain, ih _ later⟩

theorem cleanReply_replies (s : σ) (sent : ∀ command ∈ commands, SentLine command) :
    List.zipWith cleanReply commands (replies device.answer s commands) = device.shown s commands := by
  induction commands generalizing s with
  | nil => rfl
  | cons command commands ih =>
    obtain ⟨first, later⟩ := List.forall_mem_cons.mp sent
    have state : (device.answer s (command ++ "\n".toList)).2 = device.next s command :=
      congrArg (device.next s) List.dropLast_concat
    show cleanReply command _ :: List.zipWith cleanReply commands (replies device.answer _ commands) = _
    rw [device.cleanReply_answer s first.isPlain, state, ih _ later]
    rfl

end IosDevice

/-- A switch that answers everything with its model number and an empty line. -/
def namedSwitch : IosDevice Unit where
  output := fun _ _ => ["Model number : WS-C3560CG-8PC-S".toList, []]
  next := fun _ _ => ()
  hostname := fun _ => "Switch"
  mark := fun _ => '#'
  plainOutput := fun _ _ => by decide
  plainName := fun _ => by decide
  prompts := fun _ => by decide

end LegacyShell

end SwitchOps
