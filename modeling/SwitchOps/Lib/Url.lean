import SwitchOps.Lib.Text

/-!
# URLs, as `urllib.parse` takes them apart

`urlparse` and `parse_qsl`, after their documented behaviour. What `urlparse` finds in a URL that
has a scheme and a host is what the URL spells, read from left to right (`spells_of_parse`).
-/

namespace Url

/-- What `urlsplit` finds wrong with a host that has brackets or characters beyond ASCII: then it
raises. -/
class HostRules where
  rejects : Text → Bool

/-- What `urlparse` returns, the parameters of the last segment and the fragment aside. -/
structure Parsed where
  scheme : Text
  netloc : Text
  path : Text
  query : Text
  deriving DecidableEq, Repr

/-! ## Taking a URL apart -/

/-- Leading control characters and spaces go, and so does every tab, carriage return and line feed. -/
def clean (url : Text) : Text :=
  (url.dropWhile fun c => c.toNat ≤ 32).filter fun c => !(c == '\t' || c == '\r' || c == '\n')

def isAsciiLetter (c : Char) : Bool := ('a' ≤ c && c ≤ 'z') || ('A' ≤ c && c ≤ 'Z')

/-- `scheme_chars`. -/
def isSchemeChar (c : Char) : Bool :=
  isAsciiLetter c || ('0' ≤ c && c ≤ '9') || c == '+' || c == '-' || c == '.'

/-- The scheme before the first colon, if that is one, and what follows. -/
def splitScheme (url : Text) : Text × Text :=
  let scheme := url.takeWhile (· != ':')
  match url.dropWhile (· != ':') with
  | _ :: rest =>
    if scheme.head?.any isAsciiLetter && scheme.all isSchemeChar then (Text.lower scheme, rest)
    else ([], url)
  | [] => ([], url)

def endsNetloc (c : Char) : Bool := c == '/' || c == '?' || c == '#'

/-- `_splitnetloc`. -/
def splitNetloc : Text → Text × Text
  | '/' :: '/' :: rest => (rest.takeWhile (!endsNetloc ·), rest.dropWhile (!endsNetloc ·))
  | url => ([], url)

/-- `text.split(c, 1)`, with an empty second part if there is none. -/
def cutAt (c : Char) (text : Text) : Text × Text :=
  (text.takeWhile (· != c), (text.dropWhile (· != c)).tail)

/-- `uses_params`. -/
def usesParams : List Text :=
  ["", "ftp", "hdl", "prospero", "http", "https", "shttp", "rtsp", "rtsps", "rtspu", "sip", "sips",
    "mms", "sftp", "tel"]

/-- `_splitparams`: what follows the first semicolon in the last segment goes. -/
def withoutParams (path : Text) : Text :=
  let last := (path.reverse.takeWhile (· != '/')).reverse
  path.take (path.length - last.length) ++ last.takeWhile (· != ';')

/-- `urlparse`; `none` where it raises a `ValueError`. -/
def parse [HostRules] (url : Text) : Option Parsed :=
  let (scheme, rest) := splitScheme (clean url)
  let (netloc, rest) := splitNetloc rest
  if netloc.any (fun c => c == '[' || c == ']' || 128 ≤ c.toNat) && HostRules.rejects netloc then none
  else
    let (rest, _fragment) := cutAt '#' rest
    let (path, query) := cutAt '?' rest
    some {
      scheme := scheme, netloc := netloc, query := query
      path := if usesParams.contains scheme then withoutParams path else path }

/-! ## Query strings -/

def hexDigit (c : Char) : Option Nat :=
  if '0' ≤ c ∧ c ≤ '9' then some (c.toNat - '0'.toNat)
  else if 'a' ≤ c ∧ c ≤ 'f' then some (c.toNat - 'a'.toNat + 10)
  else if 'A' ≤ c ∧ c ≤ 'F' then some (c.toNat - 'A'.toNat + 10)
  else none

/-- `unquote_to_bytes`, of an ASCII text. -/
def unquoteToBytes : Text → List Nat
  | '%' :: a :: b :: rest =>
    match hexDigit a, hexDigit b with
    | some high, some low => (16 * high + low) :: unquoteToBytes rest
    | _, _ => '%'.toNat :: unquoteToBytes (a :: b :: rest)
  | c :: rest => c.toNat :: unquoteToBytes rest
  | [] => []

/-- The first and the last byte that may follow a leading byte, and how many follow. -/
def utf8Lead (lead : Nat) : Option (Nat × Nat × Nat) :=
  if 0xC2 ≤ lead ∧ lead ≤ 0xDF then some (0x80, 0xBF, 1)
  else if lead = 0xE0 then some (0xA0, 0xBF, 2)
  else if lead = 0xED then some (0x80, 0x9F, 2)
  else if 0xE1 ≤ lead ∧ lead ≤ 0xEF then some (0x80, 0xBF, 2)
  else if lead = 0xF0 then some (0x90, 0xBF, 3)
  else if 0xF1 ≤ lead ∧ lead ≤ 0xF3 then some (0x80, 0xBF, 3)
  else if lead = 0xF4 then some (0x80, 0x8F, 3)
  else none

/-- A character under way: its bits so far, and how many bytes are missing between which bounds. -/
structure Utf8Pending where
  bits : Nat
  missing : Nat
  first : Nat := 0x80
  last : Nat := 0xBF

/-- A byte with which a character begins, or which is none. -/
def utf8Begin (byte : Nat) : Text × Option Utf8Pending :=
  if byte < 0x80 then ([Char.ofNat byte], none)
  else match utf8Lead byte with
    | some (first, last, missing) =>
      ([], some ⟨byte % (if missing = 1 then 32 else if missing = 2 then 16 else 8), missing, first, last⟩)
    | none => ([Char.ofNat 0xFFFD], none)

/-- `bytes.decode("utf-8", "replace")`. -/
def decodeUtf8 : Option Utf8Pending → List Nat → Text
  | none, [] => []
  | some _, [] => [Char.ofNat 0xFFFD]
  | none, byte :: rest => (utf8Begin byte).1 ++ decodeUtf8 (utf8Begin byte).2 rest
  | some pending, byte :: rest =>
    if pending.first ≤ byte ∧ byte ≤ pending.last then
      let bits := pending.bits * 64 + byte % 64
      if pending.missing = 1 then Char.ofNat bits :: decodeUtf8 none rest
      else decodeUtf8 (some ⟨bits, pending.missing - 1, 0x80, 0xBF⟩) rest
    else
      -- the character under way is replaced, and this byte may begin another
      Char.ofNat 0xFFFD :: (utf8Begin byte).1 ++ decodeUtf8 (utf8Begin byte).2 rest

/-- `unquote`: every run of ASCII characters is decoded by itself. -/
def unquoteFrom : Text → Text → Text
  | run, [] => decodeUtf8 none (unquoteToBytes run.reverse)
  | run, c :: rest =>
    if c.toNat < 128 then unquoteFrom (c :: run) rest
    else decodeUtf8 none (unquoteToBytes run.reverse) ++ c :: unquoteFrom [] rest

def unquote (text : Text) : Text := if text.elem '%' then unquoteFrom [] text else text

/-- A name or a value of a query string. -/
def unquotePlus (text : Text) : Text := unquote (text.map fun c => if c == '+' then ' ' else c)

/-- `parse_qsl`, with blank values. -/
def parseQsl (query : Text) : List (Text × Text) :=
  ((query.splitOn '&').filter (!·.isEmpty)).map fun pair =>
    (unquotePlus (cutAt '=' pair).1, unquotePlus (cutAt '=' pair).2)

/-! ## What a URL spells -/

section spelling

theorem cutAt_prefix (c : Char) (text : Text) : ∃ rest, text = (cutAt c text).1 ++ rest :=
  ⟨_, (List.takeWhile_append_dropWhile).symm⟩

/-- Only the last segment is cut. -/
theorem withoutParams_eq (path : Text) : ∃ front last, path = front ++ last ∧
    withoutParams path = front ++ last.takeWhile (· != ';') := by
  let last := (path.reverse.takeWhile (· != '/')).reverse
  have suffix : last <:+ path := by
    have := (path.reverse.takeWhile_prefix (· != '/')).reverse
    simpa using this
  obtain ⟨front, whole⟩ := suffix
  refine ⟨front, last, whole.symm, ?_⟩
  have taken : path.take (path.length - last.length) = front := by
    rw [← whole]
    simp
  show path.take (path.length - last.length) ++ last.takeWhile (· != ';') = _
  rw [taken]

theorem withoutParams_prefix (path : Text) : ∃ rest, path = withoutParams path ++ rest := by
  obtain ⟨front, last, whole, cut⟩ := withoutParams_eq path
  refine ⟨last.dropWhile (· != ';'), ?_⟩
  rw [cut, List.append_assoc, List.takeWhile_append_dropWhile, whole]

theorem splitScheme_spells {url : Text} (h : (splitScheme url).1 ≠ []) :
    ∃ scheme, Text.lower scheme = (splitScheme url).1 ∧ url = scheme ++ ':' :: (splitScheme url).2 := by
  unfold splitScheme at h ⊢
  cases after : url.dropWhile (· != ':') with
  | nil => simp [after] at h
  | cons c rest =>
    have colon : c = ':' := by
      have := List.head_dropWhile_not (p := (· != ':')) (l := url) (by simp [after])
      simpa [after] using this
    subst colon
    simp only [after] at h ⊢
    split at h
    · next found =>
      rw [if_pos found]
      exact ⟨_, rfl, by rw [← after, List.takeWhile_append_dropWhile]⟩
    · exact absurd rfl h

theorem splitNetloc_spells {url : Text} (h : (splitNetloc url).1 ≠ []) :
    url = '/' :: '/' :: (splitNetloc url).1 ++ (splitNetloc url).2 := by
  unfold splitNetloc at h ⊢
  split at h
  · simp [List.takeWhile_append_dropWhile]
  · exact absurd rfl h

/-- **What is parsed is what is spelled**: the scheme in any case, the host and the path stand in
the URL one after the other. -/
theorem spells_of_parse [HostRules] {url : Text} {parsed : Parsed} (h : parse url = some parsed)
    (hscheme : parsed.scheme ≠ []) (hnetloc : parsed.netloc ≠ []) :
    ∃ scheme rest, Text.lower scheme = parsed.scheme ∧
      clean url = scheme ++ ':' :: '/' :: '/' :: parsed.netloc ++ parsed.path ++ rest := by
  simp only [parse] at h
  generalize hparts : splitScheme (clean url) = parts at h
  generalize hlocated : splitNetloc parts.2 = located at h
  generalize hwhole : cutAt '#' located.2 = whole at h
  generalize hquery : cutAt '?' whole.1 = page at h
  split at h
  · cases h
  obtain rfl := Option.some.inj h
  obtain ⟨scheme, lowered, spelled⟩ := @splitScheme_spells (clean url) (by rwa [hparts])
  have host := @splitNetloc_spells parts.2 (by rwa [hlocated])
  obtain ⟨fragment, hfragment⟩ := cutAt_prefix '#' located.2
  obtain ⟨asked, hasked⟩ := cutAt_prefix '?' whole.1
  obtain ⟨params, hparams⟩ : ∃ rest, page.1 = (if usesParams.contains parts.1
      then withoutParams page.1 else page.1) ++ rest := by
    split
    · exact withoutParams_prefix page.1
    · exact ⟨[], (List.append_nil _).symm⟩
  rw [hparts] at lowered spelled
  rw [hlocated] at host
  rw [hwhole] at hfragment
  rw [hquery] at hasked
  refine ⟨scheme, params ++ asked ++ fragment, lowered, ?_⟩
  rw [spelled, host, hfragment, hasked]
  nth_rewrite 1 [hparams]
  simp

end spelling

/-! ## A plain URL -/

section plain

/-- A character that stands for itself wherever it is. -/
def isPlain (c : Char) : Bool :=
  isAsciiLetter c || ('0' ≤ c && c ≤ '9') || c == '_' || c == '-' || c == '.' || c == '/'

theorem ne_of_isPlain {c d : Char} (h : isPlain c = true) (hd : isPlain d = false) : c ≠ d := by
  rintro rfl
  rw [h] at hd
  cases hd

theorem toNat_of_isPlain {c : Char} (h : isPlain c = true) : c.toNat < 128 := by
  simp only [isPlain, isAsciiLetter, Bool.or_eq_true, Bool.and_eq_true, decide_eq_true_eq,
    beq_iff_eq, Char.le_def, UInt32.le_iff_toNat_le] at h
  rcases h with ((((((⟨-, h⟩ | ⟨-, h⟩) | ⟨-, h⟩) | rfl) | rfl) | rfl) | rfl)
  · exact h.trans_lt (by decide)
  · exact h.trans_lt (by decide)
  · exact h.trans_lt (by decide)
  all_goals decide

theorem takeWhile_ne_of_isPlain {text : Text} (h : ∀ c ∈ text, isPlain c = true) {d : Char}
    (hd : isPlain d = false) : text.takeWhile (· != d) = text := by
  apply List.takeWhile_eq_self_iff.mpr
  intro c hc
  simpa using ne_of_isPlain (h c hc) hd

theorem cutAt_of_isPlain {text : Text} (h : ∀ c ∈ text, isPlain c = true) {d : Char}
    (hd : isPlain d = false) : cutAt d text = (text, []) := by
  have none : text.dropWhile (· != d) = [] := by
    apply List.dropWhile_eq_nil_iff.mpr
    intro c hc
    simpa using ne_of_isPlain (h c hc) hd
  simp [cutAt, takeWhile_ne_of_isPlain h hd, none]

theorem withoutParams_of_isPlain {path : Text} (h : ∀ c ∈ path, isPlain c = true) :
    withoutParams path = path := by
  obtain ⟨front, last, whole, cut⟩ := withoutParams_eq path
  have plain : ∀ c ∈ last, isPlain c = true := by
    intro c hc
    exact h c (whole ▸ List.mem_append_right front hc)
  rw [cut, takeWhile_ne_of_isPlain plain (by decide), whole]

/-- A plain host and a plain path are parsed as they are. -/
theorem parse_of_isPlain [HostRules] {netloc path : Text}
    (hnetloc : ∀ c ∈ netloc, isPlain c = true ∧ c ≠ '/') (hpath : ∀ c ∈ path, isPlain c = true) :
    parse ("https://".toList ++ netloc ++ '/' :: path)
      = some { scheme := "https", netloc := netloc, path := '/' :: path, query := [] } := by
  have hwhole : ∀ c ∈ '/' :: path, isPlain c = true := by
    intro c hc
    rcases List.mem_cons.mp hc with rfl | hc
    · decide
    · exact hpath c hc
  have cleaned : clean ("https://".toList ++ netloc ++ '/' :: path)
      = "https://".toList ++ netloc ++ '/' :: path := by
    show List.filter _ ("https://".toList ++ netloc ++ '/' :: path) = _
    apply List.filter_eq_self.mpr
    intro c hc
    have visible : isPlain c = true ∨ c = ':' := by
      rcases List.mem_append.mp hc with hc | hc
      · rcases List.mem_append.mp hc with hc | hc
        · exact (by decide : ∀ c ∈ "https://".toList, isPlain c = true ∨ c = ':') c hc
        · exact .inl (hnetloc c hc).1
      · exact .inl (hwhole c hc)
    rcases visible with visible | rfl
    · have tab := ne_of_isPlain visible (d := '\t') (by decide)
      have carriage := ne_of_isPlain visible (d := '\r') (by decide)
      have line := ne_of_isPlain visible (d := '\n') (by decide)
      simp [tab, carriage, line]
    · decide
  have schemed : splitScheme ("https://".toList ++ netloc ++ '/' :: path)
      = ("https".toList, "//".toList ++ netloc ++ '/' :: path) := rfl
  have stays : ∀ c ∈ netloc, (!endsNetloc c) = true := by
    intro c hc
    have question := ne_of_isPlain (hnetloc c hc).1 (d := '?') (by decide)
    have hash := ne_of_isPlain (hnetloc c hc).1 (d := '#') (by decide)
    simp [endsNetloc, (hnetloc c hc).2, question, hash]
  have located : splitNetloc ("//".toList ++ netloc ++ '/' :: path) = (netloc, '/' :: path) := by
    show (List.takeWhile _ (netloc ++ '/' :: path), List.dropWhile _ (netloc ++ '/' :: path)) = _
    rw [List.takeWhile_append_of_pos stays, List.dropWhile_append_of_pos stays]
    simp [endsNetloc]
  have ordinary : netloc.any (fun c => c == '[' || c == ']' || 128 ≤ c.toNat) = false := by
    apply List.any_eq_false.mpr
    intro c hc
    have opening := ne_of_isPlain (hnetloc c hc).1 (d := '[') (by decide)
    have closing := ne_of_isPlain (hnetloc c hc).1 (d := ']') (by decide)
    have ascii := toNat_of_isPlain (hnetloc c hc).1
    simp [opening, closing, ascii]
  have params : usesParams.contains "https".toList = true := by decide
  unfold parse
  rw [cleaned, schemed]
  dsimp only
  rw [located]
  dsimp only
  rw [if_neg (by simp [ordinary]), cutAt_of_isPlain hwhole (by decide)]
  dsimp only
  rw [cutAt_of_isPlain hwhole (by decide), if_pos params, withoutParams_of_isPlain hwhole]

end plain

end Url
