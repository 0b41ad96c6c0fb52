import SwitchOps.Operations.Commands

/-!
# Blank descriptions

`sanitize_description` tests for emptiness before it strips, so a description of blanks is accepted
as the empty one and the line `description ` is sent. This is the only way an operation can leave
the catalogue: `runOperation_sendsSafely_iff`.

The defect needs an interface that the precheck can find. `_read_interface` looks for it under a
name made by `replace("GigabitEthernet", "Gi")`, which no status table shows for two of the
families: `listable_iff`.
-/

namespace SwitchOps

open Effects Effects.Program

/-! ## Interfaces the precheck can find -/

namespace PhysicalName

/-- The status table can show the interface under the name it is looked for by. -/
def Listed (name : PhysicalName) : Prop :=
  name.family ≠ "TenGigabitEthernet".toList ∧ name.family ≠ "FortyGigabitEthernet".toList

/-- The family in the name `_read_interface` looks for. -/
def readerFamily (family : Text) : Text :=
  if family = "GigabitEthernet".toList then "Gi"
  else if family = "TenGigabitEthernet".toList then "TenGi"
  else if family = "FortyGigabitEthernet".toList then "FortyGi"
  else family

theorem readerName_text (name : PhysicalName) :
    readerName name.text = readerFamily name.family ++ name.suffix := by
  have hsuffix : Text.replaceFrom "GigabitEthernet" "Gi" 0 name.suffix = name.suffix := by
    apply Text.replace_eq_self (a := 'G')
    intro hmem
    rcases suffix_char hmem with hdigit | hslash
    · exact absurd hdigit (by decide)
    · exact absurd hslash (by decide)
  have hfamily := name.family_mem
  have hreader (family : Text) (h : family ∈ families) :
      Text.replace (family ++ name.suffix) "GigabitEthernet" "Gi" =
        readerFamily family ++ Text.replaceFrom "GigabitEthernet" "Gi" 0 name.suffix := by
    simp only [families, List.mem_cons, List.not_mem_nil, or_false] at h
    rcases h with rfl | rfl | rfl | rfl | rfl | rfl <;> rfl
  unfold readerName text
  rw [hreader _ hfamily, hsuffix]

end PhysicalName

theorem mem_of_mapM_ok {α β : Type} {f : α → Except Exn β} {items : List α} {results : List β}
    (h : items.mapM f = .ok results) {result : β} (hresult : result ∈ results) :
    ∃ item ∈ items, f item = .ok result := by
  induction items generalizing results with
  | nil =>
    cases h
    cases hresult
  | cons item items ih =>
    rw [List.mapM_cons] at h
    cases hitem : f item with
    | error e => rw [hitem] at h; cases h
    | ok first =>
      cases hrest : items.mapM f with
      | error e => rw [hitem, hrest] at h; cases h
      | ok rest =>
        rw [hitem, hrest] at h
        cases h
        rcases List.mem_cons.mp hresult with rfl | hresult
        · exact ⟨item, List.mem_cons_self, hitem⟩
        · obtain ⟨found, hfound, hf⟩ := ih hrest hresult
          exact ⟨found, List.mem_cons_of_mem _ hfound, hf⟩

/-- Every row of a status table carries a name of the grammar. -/
theorem normalizeInterface_of_row {output : Text} {rows : List InterfaceStatus}
    (h : parseInterfaceStatus output = .ok rows) {row : InterfaceStatus} (hrow : row ∈ rows) :
    ∃ canonical, normalizeInterface row.port = .ok canonical := by
  unfold parseInterfaceStatus at h
  split at h
  · cases h
    cases hrow
  next header lines _ =>
  cases hlines : lines.mapM (statusLine header) with
  | error e => rw [hlines] at h; cases h
  | ok results =>
    rw [hlines] at h
    cases h
    have hmem : some row ∈ results := by
      obtain ⟨found, hfound, hsome⟩ := List.mem_filterMap.mp hrow
      have : found = some row := hsome
      exact this ▸ hfound
    obtain ⟨line, -, hline⟩ := mem_of_mapM_ok hlines hmem
    unfold statusLine at hline
    split at hline
    · cases hline
    split at hline
    · cases hline
    dsimp only at hline
    split at hline
    · cases hline
    split at hline
    · cases hline
    next canonical hcanonical =>
    cases hphysical : isPhysicalInterface canonical with
    | error e => rw [hphysical] at hline; cases hline
    | ok physical =>
      rw [hphysical] at hline
      cases physical with
      | false => cases hline
      | true =>
        cases hline
        exact ⟨canonical, hcanonical⟩

/-- A name that is looked for in vain: no accepted name spells it. -/
theorem listed_of_listable {name : PhysicalName} (h : Listable name.text) : name.Listed := by
  obtain ⟨output, rows, hparse, row, hrow, hport⟩ := h
  obtain ⟨canonical, hcanonical⟩ := normalizeInterface_of_row hparse hrow
  have hsuffix : ∀ c ∈ name.suffix, PhysicalName.nameChar c = true := fun c hc =>
    PhysicalName.nameChar_of_mem (List.mem_append_right _ hc)
  have hhead : ∀ c ∈ name.suffix.head?, c.isDigit = true := by
    obtain ⟨d, rest, hcons, hdigit⟩ := name.head?_suffix
    rw [hcons]
    rintro c ⟨⟩
    exact hdigit
  rw [name.readerName_text, Text.lower_append, name.suffix_lower] at hport
  constructor
  · intro hfamily
    rw [hfamily] at hport
    have hspelled : row.port.lower = "tengi".toList ++ name.suffix := hport
    obtain ⟨family, hmem⟩ := spelling_of_normalizeInterface hspelled
      (by decide) hsuffix hhead rfl hcanonical
    have hall : ∀ entry ∈ physicalPrefixes, entry.1 ≠ "tengi".toList := by decide
    exact hall _ hmem rfl
  · intro hfamily
    rw [hfamily] at hport
    have hspelled : row.port.lower = "fortygi".toList ++ name.suffix := hport
    obtain ⟨family, hmem⟩ := spelling_of_normalizeInterface hspelled
      (by decide) hsuffix hhead rfl hcanonical
    have hall : ∀ entry ∈ physicalPrefixes, entry.1 ≠ "fortygi".toList := by decide
    exact hall _ hmem rfl

/-! A status table with one row, for the other direction. -/

/-- The row of a connected port. -/
def connectedRow (port : Text) : InterfaceStatus :=
  { port := port, name := [], status := "connected", vlan := "1", duplex := "full", speed := "1000",
    type := "TX" }

theorem statusLine_connected {header port : Text} {name : PhysicalName}
    (hport : ∀ c ∈ port, PhysicalName.nameChar c = true) (hhead : ∃ c cs, port = c :: cs ∧ c.isAlpha)
    (hname : normalizeInterface port = .ok name.text) :
    statusLine header (port ++ " connected 1 full 1000 TX".toList) =
      .ok (some (connectedRow port)) := by
  obtain ⟨c, cs, hcons, halpha⟩ := hhead
  have hstrip : (port ++ " connected 1 full 1000 TX".toList).strip ≠ [] := by
    apply Text.strip_ne_nil (by simp)
    rw [List.getLast?_append]
    rintro d ⟨⟩
    decide
  have hmatch : (Regex.matchStart (.chr fun c => c.isAlpha)
      (port ++ " connected 1 full 1000 TX".toList)).isNone = false := by
    rw [hcons]
    show (Option.isNone (List.head? (if c.isAlpha then _ else _))) = false
    rw [if_pos halpha]
    rfl
  have hsplit : Text.split (port ++ " connected 1 full 1000 TX".toList) =
      [port, "connected", "1", "full", "1000", "TX"] := by
    have hblank : ∀ c ∈ port, Text.isSpace c = false := fun c hc =>
      PhysicalName.isSpace_of_nameChar (hport c hc)
    have hne : port ≠ [] := by
      rw [hcons]
      exact List.cons_ne_nil c cs
    exact Text.split_cons hblank hne "connected 1 full 1000 TX".toList
  have hrow : statusRow header (port ++ " connected 1 full 1000 TX".toList) = connectedRow port := by
    unfold statusRow
    rw [hsplit]
    rfl
  unfold statusLine
  rw [if_neg (by simpa using hstrip), hmatch, if_neg Bool.false_ne_true, hrow]
  dsimp only [connectedRow]
  rw [if_neg (by simp [hcons]), hname]
  dsimp only
  rw [isPhysicalInterface_text]
  rfl

theorem listable_of_listed {name : PhysicalName} (h : name.Listed) : Listable name.text := by
  have hsuffix : ∀ c ∈ name.suffix, PhysicalName.nameChar c = true := fun c hc =>
    PhysicalName.nameChar_of_mem (List.mem_append_right _ hc)
  -- the port as the table shows it: short for the gigabit family, else in full
  obtain ⟨port, hreader, hport, hhead, hname⟩ : ∃ port, readerName name.text = port ∧
      (∀ c ∈ port, PhysicalName.nameChar c = true) ∧ (∃ c cs, port = c :: cs ∧ c.isAlpha) ∧
      normalizeInterface port = .ok name.text := by
    by_cases hgigabit : name.family = "GigabitEthernet".toList
    · refine ⟨"Gi".toList ++ name.suffix, ?_, ?_, ⟨'G', _, rfl, by decide⟩,
        normalizeInterface_short hgigabit⟩
      · rw [name.readerName_text, hgigabit]
        rfl
      · intro c hc
        rcases List.mem_append.mp hc with hc | hc
        · have hall : ∀ d ∈ "Gi".toList, PhysicalName.nameChar d = true := by decide
          exact hall c hc
        · exact hsuffix c hc
    · have hfull : PhysicalName.readerFamily name.family = name.family := by
        rw [PhysicalName.readerFamily, if_neg hgigabit, if_neg h.1, if_neg h.2]
      have hletters : ∀ family ∈ families, ∃ c cs, family = c :: cs ∧ c.isAlpha = true := by
        simp [families]
      obtain ⟨c, cs, hcons, halpha⟩ := hletters _ name.family_mem
      refine ⟨name.text, ?_, fun _ => PhysicalName.nameChar_of_mem, ⟨c, cs ++ name.suffix, ?_, halpha⟩,
        normalizeInterface_text name⟩
      · rw [name.readerName_text, hfull]
        rfl
      · rw [PhysicalName.text, hcons]
        rfl
  let header : Text := "Port Name Status"
  refine ⟨header ++ '\n' :: (port ++ " connected 1 full 1000 TX".toList), [connectedRow port], ?_,
    connectedRow port, List.mem_singleton.mpr rfl, by rw [hreader]; rfl⟩
  have hbreak : ∀ c ∈ port ++ " connected 1 full 1000 TX".toList, Text.isLineBreak c = false := by
    intro c hc
    rcases List.mem_append.mp hc with hc | hc
    · exact Text.isLineBreak_of_isSpace (PhysicalName.isSpace_of_nameChar (hport c hc))
    · have hall : ∀ d ∈ " connected 1 full 1000 TX".toList, Text.isLineBreak d = false := by decide
      exact hall c hc
  unfold parseInterfaceStatus
  rw [Text.splitlines_cons (by decide), Text.splitlines_single hbreak (by simp)]
  have hheader : isStatusHeader header = true := by decide
  rw [List.dropWhile_cons_of_neg (by simp [hheader])]
  dsimp only
  rw [List.mapM_cons, statusLine_connected hport hhead hname]
  rfl

/-- **The interfaces the precheck can find.** -/
theorem listable_iff {name : PhysicalName} : Listable name.text ↔ name.Listed :=
  ⟨listed_of_listable, listable_of_listed⟩

/-! ## What the device shows

A running configuration in which the interface has the description `x`. -/

/-- The block of an interface with a description. -/
def describedBlock (canonical : Text) : Text :=
  "interface".toList ++ (' ' :: (canonical ++ ('\n' :: "description x".toList)))

/-- No block ends within a line. -/
theorem results_blockEnd {seen u v : Text} (hsplit : "description x".toList = u ++ v) (hne : v ≠ [])
    (groups : List (Nat × Text)) :
    Regex.results blockEnd ⟨u.reverse ++ '\n' :: seen, v, groups⟩ = [] := by
  cases hu : u.reverse with
  | nil =>
    have hv : v = "description x".toList := by
      rw [hsplit, List.reverse_eq_nil_iff.mp hu]
      rfl
    rw [hv]
    rfl
  | cons d ds =>
    have hd : (d == '\n') = false := by
      have hmem : d ∈ "description x".toList := by
        rw [hsplit]
        apply List.mem_append_left
        rw [← List.mem_reverse, hu]
        exact List.mem_cons_self
      have hall : ∀ d ∈ "description x".toList, (d == '\n') = false := by decide
      exact hall d hmem
    have hstart : Regex.results Regex.lineStart ⟨d :: ds ++ '\n' :: seen, v, groups⟩ = [] := by
      simp only [Regex.results, Regex.lineStart, List.cons_append, List.isEmpty_cons, List.head?_cons,
        Option.some_beq_some, hd, Bool.or_false, Bool.false_eq_true, if_false]
    have hend : Regex.results Regex.textEnd ⟨d :: ds ++ '\n' :: seen, v, groups⟩ = [] := by
      simp [Regex.results, Regex.textEnd, hne]
    show (Regex.results Regex.lineStart _).flatMap _ ++
      ((Regex.results Regex.lineStart _).flatMap _ ++ Regex.results Regex.textEnd _) = []
    rw [hstart, hend]
    rfl

theorem interfaceConfig_describedBlock {canonical : Text} (hne : canonical ≠ [])
    (hspace : ∀ c ∈ canonical, Text.isSpace c = false) :
    interfaceConfig (describedBlock canonical) canonical = some ⟨"x", false, "auto"⟩ := by
  obtain ⟨c, cs, hcons⟩ := List.exists_cons_of_ne_nil hne
  have hstop (seen rest : Text) :
      Regex.results (.star true Regex.space) ⟨seen, canonical ++ rest, []⟩ =
        [⟨seen, canonical ++ rest, []⟩] := by
    apply Regex.results_star_stop
    simp [Regex.results, Regex.space, hcons, hspace c (by simp [hcons])]
  have hplus (seen rest : Text) :
      Regex.results (Regex.plus Regex.space) ⟨seen, ' ' :: (canonical ++ rest), []⟩ =
        [⟨' ' :: seen, canonical ++ rest, []⟩] := by
    rw [Regex.plus, Regex.results_seq_of (r := Regex.space) rfl, hstop]
  have hcapture : ∀ m : Regex.Cursor, Regex.results (.group 1 (.star false (.chr fun _ => true))) m =
      (Regex.results (.star false (.chr fun _ => true)) m).map
        fun m' => { m' with groups := (1, m.captured m') :: m'.groups } := fun _ => rfl
  have hsearch : ∃ seen, Regex.search (interfaceBlock canonical) (describedBlock canonical) =
      some ⟨seen, [], [(1, "description x".toList)]⟩ := by
    let before : Text := canonical.reverse ++ ' ' :: ("interface".toList.reverse ++ [])
    refine ⟨"description x".toList.reverse ++ '\n' :: before, Regex.searchFrom_of_head ?_⟩
    unfold interfaceBlock describedBlock
    simp only [Regex.seqs]
    -- the first line is read in one way
    rw [Regex.results_seq_of (r := Regex.lineStart) rfl,
      Regex.results_seq_of (Regex.results_litIgnoringCase _ _ _ _),
      Regex.results_seq_of (r := Regex.plus Regex.space) (hplus _ _),
      Regex.results_seq_of (Regex.results_litIgnoringCase _ _ _ _)]
    -- the blanks at its end may include the newline, but not if a newline is to follow
    have hblanks : Regex.results (.star true Regex.space) ⟨before, '\n' :: "description x".toList, []⟩ =
        [⟨'\n' :: before, "description x".toList, []⟩,
          ⟨before, '\n' :: "description x".toList, []⟩] := rfl
    rw [Regex.results_seq, hblanks, List.flatMap_cons, List.flatMap_singleton]
    have hnewline (r : Regex) : Regex.results (.seq Regex.lineEnd r)
        ⟨'\n' :: before, "description x".toList, []⟩ = [] := rfl
    rw [hnewline, List.nil_append, Regex.results_seq_of (r := Regex.lineEnd) rfl,
      Regex.results_seq_of (r := Regex.lit "\n") rfl, Regex.results_seq, hcapture,
      List.flatMap_map, Regex.head?_lazy]
    · rw [Regex.Cursor.captured_append]
      rfl
    · intro u v hsplit hne
      rw [Regex.results_seq, Regex.results_ahead_none (results_blockEnd hsplit hne _)]
      rfl
  obtain ⟨seen, hsearch⟩ := hsearch
  rw [interfaceConfig, hsearch]
  rfl
/-! ## What the policy store shows -/

theorem CanReturn.withLock {α : Type} {lock : Lock} {body : Proc α} {a : α}
    (h : CanReturn body a) : CanReturn (withLock lock body) a := by
  unfold SwitchOps.withLock
  refine (canReturn_perform _ ()).bind (h.bind ?_)
  exact (canReturn_perform _ ()).bind (canReturn_pure a)

theorem CanPerform.withLock {α : Type} {lock : Lock} {body : Proc α} {effect : Effect}
    (h : CanPerform body effect) : CanPerform (withLock lock body) effect := by
  unfold SwitchOps.withLock
  exact (canReturn_perform _ ()).canPerform (h.bind _)

theorem CanReturn.quietly {α : Type} {p : Proc α} {a : α} (h : CanReturn p a) :
    CanReturn (quietly p) (.ok a) := by
  show CanReturn (p >>= fun a => .pure (Except.ok a)) _
  exact h.bind (canReturn_pure _)

section policy

variable [Digest]

/-- A policy under which one interface of one host may be changed. -/
def singlePolicy (host canonical : Text) : InterfacePolicy :=
  ⟨true, [(deviceKey host, [(canonical, .operable)])]⟩

theorem load_singlePolicy (host : Text) (name : PhysicalName) :
    (PolicyFile.document (singlePolicy host name.text).toJson).load =
      some (singlePolicy host name.text) := by
  have hentry : InterfacePolicy.validateEntry
      (name.text, .string (PolicyState.text .operable)) = some (name.text, .operable) := by
    have hstate : InterfacePolicy.parseState (.string (PolicyState.text .operable)) =
        some .operable := by decide
    unfold InterfacePolicy.validateEntry
    dsimp only
    rw [normalizeInterface_text, hstate]
    dsimp only
    rw [isPhysicalInterface_text, if_neg (by simp)]
  have hdevice : InterfacePolicy.validateDevice (deviceKey host,
      .object [("interfaces", .object [(name.text, .string (PolicyState.text .operable))])]) =
      some (deviceKey host, [(name.text, .operable)]) := by
    have hkey : InterfacePolicy.isDeviceKey (deviceKey host) = true :=
      Digest.isHexDigest_sha256 _
    unfold InterfacePolicy.validateDevice
    dsimp only
    rw [hkey]
    show (List.mapM InterfacePolicy.validateEntry [_]).map _ = _
    rw [List.mapM_cons, hentry]
    rfl
  show (List.mapM InterfacePolicy.validateDevice [(deviceKey host,
    .object [("interfaces", .object [(name.text, .string (PolicyState.text .operable))])])]).map _ = _
  rw [List.mapM_cons, hdevice]
  rfl

theorem stateOf_singlePolicy (host canonical : Text) :
    (singlePolicy host canonical).stateOf host canonical = .operable := by
  simp [InterfacePolicy.stateOf, singlePolicy, Dict.get?]

/-- An environment in which the gates are open can find the interface operable. -/
theorem canReturn_assertOperable {interface : Text} {name : PhysicalName}
    (h : assertInterfaceWritable interface = .ok name.text) {host : Text} (hhost : host ≠ []) :
    CanReturn (InterfacePolicyStore.assertOperable (some host) interface) (.ok name.text) := by
  unfold InterfacePolicyStore.assertOperable
  refine CanReturn.raising_bind (a := name.text) (by rw [h]; exact canReturn_pure _) ?_
  dsimp only
  rw [if_neg (by simpa [noHost] using hhost)]
  refine CanReturn.withLock (CanReturn.raising_bind (a := some (singlePolicy host name.text)) ?_ ?_)
  · refine CanReturn.op (PolicyFile.document (singlePolicy host name.text).toJson) ?_
    rw [← load_singlePolicy]
    exact canReturn_pure _
  · dsimp only [Option.getD_some]
    rw [stateOf_singlePolicy]
    exact canReturn_pure _

end policy

/-! ## The run -/

section run

variable {S : Type}

theorem canReturn_runAndAudit (client : Client) (symbol : ReadSymbol) (actor output : Text) :
    CanReturn (runAndAudit client symbol actor) (.ok output) := by
  unfold runAndAudit
  refine CanReturn.raising_bind (CanReturn.quietly (canReturn_perform _ (0 : Nat))) ?_
  refine CanReturn.raising_bind (CanReturn.quietly (canReturn_perform _ (.ok output))) ?_
  refine CanReturn.raising_bind (CanReturn.quietly (canReturn_perform _ (0 : Nat))) ?_
  refine CanReturn.raising_bind (a := ()) (CanReturn.op (.ok ()) (canReturn_pure _)) ?_
  exact canReturn_pure _

/-- Reporting progress ends, whatever the listener does. -/
theorem canReturn_emit (call : OperationCall S) (stages : List OperationStage)
    (progress : Stages S) : ∃ progress', CanReturn ((call.emit stages).run progress) ((), progress') := by
  obtain ⟨⟨⟨⟩, progress'⟩, h⟩ := exists_canReturn ((call.emit stages).run progress)
  exact ⟨progress', h⟩

variable {run : Transaction S} {name : PhysicalName}

theorem Transaction.canReturn_observe (hkind : run.kind = .setDescription)
    (h : Listable name.text) :
    ∃ row, CanReturn (run.observe name.text) (.ok (some row, none)) := by
  obtain ⟨output, rows, hparse, row, hrow, hport⟩ := h
  have hfound : (rows.find? fun item =>
      item.port.lower = (readerName name.text).lower).isSome := by
    rw [List.find?_isSome]
    exact ⟨row, hrow, by simpa using hport⟩
  obtain ⟨found, hfind⟩ := Option.isSome_iff_exists.mp hfound
  refine ⟨found, ?_⟩
  unfold Transaction.observe
  refine CanReturn.raising_bind (a := some found) ?_ ?_
  · unfold readInterface
    refine CanReturn.raising_bind (canReturn_runAndAudit _ _ _ output) ?_
    rw [hparse]
    refine CanReturn.raising_bind (canReturn_pure _) ?_
    rw [hfind]
    exact canReturn_pure _
  · dsimp only
    rw [hkind, if_neg (by decide)]
    exact CanReturn.raising_bind (canReturn_pure _) (canReturn_pure _)

/-- From the stage `execute` on, the change is sent. -/
theorem Transaction.executeChange_sends (original : Original run.kind) (backupPath : Option Text)
    (progress : Stages S) :
    CanPerform ((run.executeChange original backupPath).run progress)
      (.runRawAction run.client
        (renderCommands (operationSpec run.kind) original.canonical original.safeValue)) := by
  unfold Transaction.executeChange OperationCall.begin
  obtain ⟨progress', hemit⟩ := canReturn_emit run.toOperationCall
    (progress.stages ++ [⟨.execute, .running, []⟩]) progress
  refine CanReturn.state_canPerform hemit ?_
  exact CanPerform.state_bind (CanPerform.lift (canPerform_perform _) _) _

theorem Transaction.applyChange_sends (original : Original run.kind) (progress : Stages S) :
    CanPerform ((run.applyChange original).run progress)
      (.runRawAction run.client
        (renderCommands (operationSpec run.kind) original.canonical original.safeValue)) := by
  unfold Transaction.applyChange OperationCall.skip OperationCall.begin OperationCall.finish
  split
  · obtain ⟨progress', hemit⟩ := canReturn_emit run.toOperationCall
      (progress.stages ++ [⟨.backup, .skipped, _⟩]) progress
    refine CanReturn.state_canPerform hemit ?_
    exact executeChange_sends original none _
  · obtain ⟨progress', hemit⟩ := canReturn_emit run.toOperationCall
      (progress.stages ++ [⟨.backup, .running, []⟩]) progress
    refine CanReturn.state_canPerform hemit ?_
    refine CanReturn.state_canPerform (CanReturn.lift (a := .ok ⟨[], []⟩) ?_ _) ?_
    · unfold backupRunningConfig
      refine CanReturn.raising_bind (CanReturn.quietly (canReturn_perform _ (0 : Nat))) ?_
      refine CanReturn.raising_bind (a := .ok []) (CanReturn.quietly (canReturn_perform _ _)) ?_
      refine CanReturn.raising_bind (a := ⟨[], []⟩) (canReturn_perform _ _) ?_
      refine CanReturn.raising_bind (CanReturn.quietly (canReturn_perform _ (0 : Nat))) ?_
      refine CanReturn.raising_bind (a := ()) (CanReturn.op (.ok ()) (canReturn_pure _)) ?_
      exact canReturn_pure _
    · obtain ⟨progress'', hemit⟩ := canReturn_emit run.toOperationCall _ progress'
      refine CanReturn.state_canPerform hemit ?_
      exact executeChange_sends original _ _

/-- The description `x` is not the empty one. -/
theorem postconditionMet_empty {kind : OperationKind} (hkind : kind = .setDescription)
    (row : InterfaceStatus) (poe : Option Text) :
    (postconditionMet kind (some row) poe (some []) (some ⟨"x", false, "auto"⟩)).1 = false := by
  rw [hkind]
  rfl

theorem Transaction.decideChange_sends (hkind : run.kind = .setDescription)
    (original : Original run.kind) (hvalue : original.safeValue = some [])
    (hconfig : original.config = ⟨"x", false, "auto"⟩) (progress : Stages S) :
    CanPerform ((run.decideChange original).run progress)
      (.runRawAction run.client
        (renderCommands (operationSpec run.kind) original.canonical original.safeValue)) := by
  unfold Transaction.decideChange OperationCall.finish
  obtain ⟨progress', hemit⟩ := canReturn_emit run.toOperationCall _ progress
  refine CanReturn.state_canPerform hemit ?_
  have hmet : (postconditionMet run.kind (some original.interface) original.poe original.safeValue
      (some original.config)).1 = false := by
    rw [hvalue, hconfig]
    exact postconditionMet_empty hkind _ _
  dsimp only
  rw [if_neg (by rw [hmet]; exact Bool.false_ne_true)]
  exact applyChange_sends original _

theorem Transaction.readOriginal_sends (hkind : run.kind = .setDescription)
    (hlistable : Listable name.text) (progress : Stages S) :
    CanPerform ((run.readOriginal name.text (some [])).run progress)
      (.runRawAction run.client (configSequence name.text "description ")) := by
  obtain ⟨row, hobserve⟩ := canReturn_observe hkind hlistable
  have hconfig : interfaceConfig (describedBlock name.text) name.text =
      some ⟨"x", false, "auto"⟩ :=
    interfaceConfig_describedBlock name.text_ne_nil fun c hc =>
      PhysicalName.isSpace_of_nameChar (PhysicalName.nameChar_of_mem hc)
  have hrollback : rollbackCommands run.kind name.text ⟨"x", false, "auto"⟩ =
      some (configSequence name.text "description x") := by
    rw [hkind]
    rfl
  have hcommands : renderCommands (operationSpec run.kind) name.text (some []) =
      configSequence name.text "description " := by
    rw [renderCommands_eq _ (not_mem_brace name), hkind]
    rfl
  unfold Transaction.readOriginal
  refine CanReturn.state_canPerform (CanReturn.lift hobserve _) ?_
  refine CanReturn.state_canPerform (CanReturn.lift
    (canReturn_runAndAudit _ _ _ (describedBlock name.text)) _) ?_
  dsimp only
  split
  · next hnone => rw [hconfig] at hnone; cases hnone
  next config hsome =>
  rw [hconfig] at hsome
  cases hsome
  split
  · next hnone => rw [hrollback] at hnone; cases hnone
  next rollback representable =>
  rw [← hcommands]
  exact decideChange_sends hkind {
    canonical := name.text, safeValue := some [], interface := row, poe := none,
    config := ⟨"x", false, "auto"⟩, configText := describedBlock name.text, rollback := rollback,
    representable := representable } rfl rfl progress

variable [Digest]

theorem Transaction.precheck_sends (hkind : run.kind = .setDescription)
    (hname : assertInterfaceWritable run.interface = .ok name.text)
    (hvalue : sanitizeDescription (run.value.getD []) = .ok [])
    (hlistable : Listable name.text) (progress : Stages S) :
    CanPerform (run.precheck.run progress)
      (.runRawAction run.client (configSequence name.text "description ")) := by
  unfold Transaction.precheck OperationCall.begin
  obtain ⟨progress', hemit⟩ := canReturn_emit run.toOperationCall
    (progress.stages ++ [⟨.precheck, .running, []⟩]) progress
  refine CanReturn.state_canPerform hemit ?_
  have hoperable : CanReturn (assertInterfaceOperable run.interface) (.ok name.text) := by
    unfold assertInterfaceOperable
    refine CanReturn.raising_bind (CanReturn.quietly
      (canReturn_perform _ (some "switch".toList))) ?_
    exact canReturn_assertOperable hname (by decide)
  refine CanReturn.state_canPerform (CanReturn.lift hoperable _) ?_
  have hneeds : (operationSpec run.kind).needsValue = true := by
    rw [hkind]
    rfl
  dsimp only
  rw [if_pos hneeds, hvalue]
  exact CanPerform.state_bind (readOriginal_sends hkind hlistable _) _

/-- **The defect**: the line `description ` can be sent. -/
theorem runOperation_sends {call : OperationCall S} (hkind : call.kind = .setDescription)
    (hname : assertInterfaceWritable call.interface = .ok name.text)
    (hvalue : sanitizeDescription (call.value.getD []) = .ok [])
    (hlistable : Listable name.text) (listener : S) :
    CanPerform (runOperation call listener)
      (.runRawAction call.client (configSequence name.text "description ")) := by
  have hauthorized (progress : Stages S) : CanPerform ((runOperationAuthorized call).run progress)
      (.runRawAction call.client (configSequence name.text "description ")) := by
    unfold runOperationAuthorized
    refine CanReturn.state_canPerform (CanReturn.lift (canReturn_perform _ (0 : Nat)) _) ?_
    refine CanReturn.state_canPerform (CanReturn.lift (canReturn_perform _ (0 : Nat)) _) ?_
    refine CanReturn.state_canPerform (CanReturn.lift (canReturn_perform _ ([] : Text)) _) ?_
    exact Transaction.precheck_sends hkind hname hvalue hlistable _
  let policy : PolicyFile := .document (singlePolicy "switch" name.text).toJson
  have hload : CanReturn loadPolicy (some (singlePolicy "switch" name.text)) := by
    refine CanReturn.op policy ?_
    rw [← load_singlePolicy]
    exact canReturn_pure _
  unfold runOperation
  refine CanReturn.canPerform (canReturn_perform _ ()) ?_
  refine CanReturn.canPerform (canReturn_perform _ (some "switch".toList)) ?_
  refine CanPerform.bind ?_ _
  -- the session is unlocked
  refine CanPerform.withLock ?_
  refine CanReturn.raising_canPerform (CanReturn.quietly (canReturn_perform _ true)) ?_
  refine CanReturn.raising_canPerform (a := true) (CanReturn.quietly (CanReturn.withLock ?_)) ?_
  · exact hload.bind (canReturn_pure _)
  -- and the policy authorizes the interface
  refine CanPerform.withLock ?_
  refine CanReturn.raising_canPerform (CanReturn.quietly hload) ?_
  refine CanReturn.raising_canPerform (canReturn_assertOperable hname (by decide)) ?_
  refine CanReturn.raising_canPerform (CanReturn.quietly (canReturn_perform _ ())) ?_
  exact ((hauthorized _).bind _).bind _

end run

/-! ## The property -/

section property

variable {S : Type}

/-- Whatever the environment answers, every command list that is sent is safe. -/
def SendsSafely [Digest] (call : OperationCall S) (listener : S) : Prop :=
  ∀ client commands, CanPerform (runOperation call listener) (.runRawAction client commands) →
    InjectionSafe call.interface commands

/-- `description ` is no line of the catalogue. -/
theorem not_injectionSafe_empty {interface : Text} {name : PhysicalName} :
    ¬ InjectionSafe interface (configSequence name.text "description ") := by
  rintro ⟨⟨_, line, _, hline, hsequence⟩, _⟩
  have hempty : line = "description ".toList := by
    unfold configSequence at hsequence
    simp only [List.cons.injEq, and_true] at hsequence
    exact hsequence.2.2.symm
  generalize hl : line = l at hline
  cases hline with
  | shutdown => rw [hl] at hempty; exact absurd hempty (by decide)
  | noShutdown => rw [hl] at hempty; exact absurd hempty (by decide)
  | powerInlineAuto => rw [hl] at hempty; exact absurd hempty (by decide)
  | powerInlineNever => rw [hl] at hempty; exact absurd hempty (by decide)
  | noDescription => rw [hl] at hempty; exact absurd hempty (by decide)
  | description value nonempty _ _ _ =>
    rw [hl] at hempty
    have hnil : value = [] := List.append_cancel_left (by rw [hempty, List.append_nil])
    rw [hnil] at nonempty
    exact absurd nonempty (by decide)

/-- **Command injection safety**, with its exact condition: all that an operation can send is
safe, but for a blank description on an interface that the precheck can find. -/
theorem runOperation_sendsSafely_iff [Digest] (call : OperationCall S) (listener : S) :
    SendsSafely call listener ↔
      ¬ (BlankDescription call.kind call.value ∧
        ∃ name : PhysicalName, normalizeInterface call.interface = .ok name.text ∧ name.Listed) := by
  constructor
  · rintro hsafe ⟨⟨hkind, hne, hstrip⟩, name, hname, hlisted⟩
    have hwritable := assertInterfaceWritable_ok_iff.mpr ⟨hname, name, rfl⟩
    have hvalue : sanitizeDescription (call.value.getD []) = .ok [] :=
      sanitizeDescription_ok_iff.mpr ⟨hne, hstrip.symm, by decide, by simp⟩
    exact not_injectionSafe_empty
      (hsafe _ _ (runOperation_sends hkind hwritable hvalue (listable_of_listed hlisted) listener))
  · intro hcondition client commands hsent
    obtain ⟨-, htransmits⟩ := transmits_of_sent hsent
    apply injectionSafe_of_transmits htransmits
    intro hblank
    obtain ⟨canonical, safeValue, hwritable, hlistable, -, -⟩ := htransmits
    obtain ⟨hname, name, rfl⟩ := assertInterfaceWritable_ok_iff.mp hwritable
    exact hcondition ⟨hblank, name, hname, listed_of_listable hlistable⟩

end property

/-- A description of two blanks for an ordinary port. -/
def blankCall : OperationCall Unit where
  client := ⟨sampleHost⟩
  kind := .setDescription
  interface := "Gi1/0/6"
  value := some "  "
  actor := "operator"
  onProgress _ _ := .pure ()
  listens _ _ := trivial

theorem not_sendsSafely_blankCall : ¬ @SendsSafely Unit sampleDigest blankCall () := by
  let name : PhysicalName :=
    ⟨"GigabitEthernet".toList, [1, 0, 6], by decide, by decide, by decide⟩
  have hname : assertInterfaceWritable "Gi1/0/6" = .ok name.text := by decide
  have hlisted : name.Listed := ⟨by decide, by decide⟩
  intro hsafe
  have hsent := @runOperation_sends Unit name sampleDigest blankCall rfl hname (by decide)
    (listable_of_listed hlisted) ()
  exact not_injectionSafe_empty (hsafe _ _ hsent)

end SwitchOps
