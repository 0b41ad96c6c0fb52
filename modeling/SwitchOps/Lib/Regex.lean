import SwitchOps.Lib.Text

/-!
# Backtracking regular expressions

The expressions of Python's `re` module, with its semantics: a match is looked for by
backtracking, alternatives from left to right, greedy repetitions longest first and lazy ones
shortest first. `results r m` lists the cursors `r` can leave from the cursor `m`, in the order
the search tries them, so `head?` is the match that `re` reports.

`Denotes` is the language of an expression, look-around aside; every result consumes a word of
it (`results_denotes`).
-/

/-- Where a match stands: the text read (last character first), the text ahead, and the groups
captured so far (the latest first). -/
structure Regex.Cursor where
  seen : Text
  rest : Text
  groups : List (Nat × Text)
  deriving DecidableEq, Repr

/-- A regular expression. `here` is a zero-width test of the text before (reversed) and after
the position; `ahead` is a positive lookahead. -/
inductive Regex
  | empty
  | chr (accepts : Char → Bool)
  | seq (r s : Regex)
  | alt (r s : Regex)
  | star (greedy : Bool) (r : Regex)
  | group (index : Nat) (r : Regex)
  | here (test : Text → Text → Bool)
  | ahead (r : Regex)

namespace Regex

/-! ### Matching -/

/-- Repeat `step` as long as it makes progress, at most `fuel` times. -/
def iterate (step : Cursor → List Cursor) (greedy : Bool) : Nat → Cursor → List Cursor
  | 0, m => [m]
  | fuel + 1, m =>
    let longer := ((step m).filter (·.rest.length < m.rest.length)).flatMap
      (iterate step greedy fuel)
    if greedy then longer ++ [m] else m :: longer

/-- What was read between two cursors. -/
def Cursor.captured (m m' : Cursor) : Text :=
  (m'.seen.take (m'.seen.length - m.seen.length)).reverse

/-- The cursors `r` can leave from `m`, in the order of the search. -/
def results : Regex → Cursor → List Cursor
  | .empty, m => [m]
  | .chr accepts, m =>
    match m.rest with
    | [] => []
    | c :: cs => if accepts c then [⟨c :: m.seen, cs, m.groups⟩] else []
  | .seq r s, m => (results r m).flatMap (results s)
  | .alt r s, m => results r m ++ results s m
  | .star greedy r, m => iterate (results r) greedy m.rest.length m
  | .group n r, m =>
    (results r m).map fun m' => { m' with groups := (n, m.captured m') :: m'.groups }
  | .here test, m => if test m.seen m.rest then [m] else []
  | .ahead r, m => if (results r m).isEmpty then [] else [m]

/-- `re.match`: the first match at the start of the text. -/
def matchStart (r : Regex) (t : Text) : Option Cursor := (results r ⟨[], t, []⟩).head?

/-- `re.fullmatch`: the first match that reaches the end of the text. -/
def fullmatch (r : Regex) (t : Text) : Option Cursor :=
  (results r ⟨[], t, []⟩).find? (·.rest.isEmpty)

/-- The first match at or after the position between `seen` and the rest. -/
def searchFrom (r : Regex) : Text → Text → Option Cursor
  | seen, [] => (results r ⟨seen, [], []⟩).head?
  | seen, c :: cs =>
    match (results r ⟨seen, c :: cs, []⟩).head? with
    | some m => some m
    | none => searchFrom r (c :: seen) cs

/-- `re.search`: the leftmost match. -/
def search (r : Regex) (t : Text) : Option Cursor := searchFrom r [] t

/-- `match.group(n)`. -/
def Cursor.group (m : Cursor) (n : Nat) : Option Text := (m.groups.find? (·.1 == n)).map (·.2)

/-! ### Building blocks -/

/-- The characters that match the ASCII letter `a` under `re.IGNORECASE`. -/
def sameIgnoringCase (a c : Char) : Bool :=
  Text.lowerChar a == Text.lowerChar c ||
    ((a == 'i' || a == 'I') && (c.toNat == 304 || c.toNat == 305)) ||
    ((a == 's' || a == 'S') && c.toNat == 383) || ((a == 'k' || a == 'K') && c.toNat == 8490)

/-- The text itself, escaped. -/
def lit : Text → Regex
  | [] => .empty
  | c :: cs => .seq (.chr (· == c)) (lit cs)

/-- The text itself, under `re.IGNORECASE`. -/
def litIgnoringCase : Text → Regex
  | [] => .empty
  | c :: cs => .seq (.chr (sameIgnoringCase c)) (litIgnoringCase cs)

/-- The alternatives in order; `alts []` never matches. -/
def alts : List Regex → Regex
  | [] => .chr fun _ => false
  | [r] => r
  | r :: rs => .alt r (alts rs)

/-- The expressions one after the other. -/
def seqs : List Regex → Regex
  | [] => .empty
  | r :: rs => .seq r (seqs rs)

/-- `r+`. -/
def plus (r : Regex) : Regex := .seq r (.star true r)

/-- `r?`. -/
def opt (r : Regex) : Regex := .alt r .empty

/-- `\s`, `\d` and `\S`. -/
def space : Regex := .chr Text.isSpace
def digit : Regex := .chr Text.isDecimal
def nonSpace : Regex := .chr fun c => !Text.isSpace c

/-- `^` under `re.MULTILINE`. -/
def lineStart : Regex := .here fun seen _ => seen.isEmpty || seen.head? == some '\n'

/-- `$` under `re.MULTILINE`. -/
def lineEnd : Regex := .here fun _ rest => rest.isEmpty || rest.head? == some '\n'

/-- `^` without flags, and `\A`. -/
def textStart : Regex := .here fun seen _ => seen.isEmpty

/-- `\Z`. -/
def textEnd : Regex := .here fun _ rest => rest.isEmpty

/-- `$` without flags: the end of the text, or before a newline that ends it. -/
def textEndOrNewline : Regex := .here fun _ rest => rest.isEmpty || rest == ['\n']

/-- `\w`: a letter, a digit or an underscore. -/
def isWordChar (c : Char) : Bool :=
  if c.toNat < 128 then c.isAlphanum || c == '_'
  else Unicode.wordRuns.any fun (first, last) => first ≤ c.toNat && c.toNat ≤ last

/-- `\b`: a word begins or ends here. -/
def wordBoundary : Regex := .here fun seen rest =>
  (seen.head?.map isWordChar).getD false != (rest.head?.map isWordChar).getD false

/-- A character class of the ASCII characters `cs`, under `re.IGNORECASE`. -/
def oneOfIgnoringCase (cs : Text) : Regex := .chr fun c => cs.any (sameIgnoringCase · c)

/-- `\d{2,3}` and the like: at least `least` and at most `least + more` of `r`. -/
def between (least more : Nat) (r : Regex) : Regex :=
  seqs (List.replicate least r ++ [(List.range more).foldr (fun _ rest => opt (.seq r rest)) .empty])

/-! ### The language of an expression -/

/-- `Denotes r w`: `r` can consume `w`, its zero-width tests aside. -/
def Denotes : Regex → Text → Prop
  | .empty, w => w = []
  | .chr accepts, w => ∃ c, accepts c = true ∧ w = [c]
  | .seq r s, w => ∃ u v, w = u ++ v ∧ Denotes r u ∧ Denotes s v
  | .alt r s, w => Denotes r w ∨ Denotes s w
  | .star _ r, w => ∃ ws : List Text, w = ws.flatten ∧ ∀ u ∈ ws, Denotes r u
  | .group _ r, w => Denotes r w
  | .here _, w => w = []
  | .ahead _, w => w = []

/-- `m'` is `m` after reading `w`. -/
def Cursor.Reads (m : Cursor) (w : Text) (m' : Cursor) : Prop :=
  m.rest = w ++ m'.rest ∧ m'.seen = w.reverse ++ m.seen

theorem Cursor.Reads.refl (m : Cursor) : m.Reads [] m := ⟨rfl, rfl⟩

theorem Cursor.Reads.trans {m m' m'' : Cursor} {u v : Text} (h : m.Reads u m')
    (h' : m'.Reads v m'') : m.Reads (u ++ v) m'' := by
  refine ⟨?_, ?_⟩
  · rw [h.1, h'.1, List.append_assoc]
  · rw [h'.2, h.2, List.reverse_append, List.append_assoc]

/-- Greedy or lazy, a repetition stays where it is or goes on after one more step. -/
theorem mem_iterate_succ {step : Cursor → List Cursor} {greedy : Bool} {fuel : Nat} {m m' : Cursor}
    (h : m' ∈ iterate step greedy (fuel + 1) m) :
    m' = m ∨ ∃ next ∈ step m, m' ∈ iterate step greedy fuel next := by
  have longer : m' = m ∨ m' ∈ ((step m).filter (·.rest.length < m.rest.length)).flatMap
      (iterate step greedy fuel) := by
    rw [iterate] at h
    cases greedy with
    | true => exact (List.mem_append.mp h).symm.imp_left List.mem_singleton.mp
    | false => exact List.mem_cons.mp h
  apply longer.imp_right
  intro beyond
  obtain ⟨next, here, h⟩ := List.mem_flatMap.mp beyond
  exact ⟨next, List.mem_of_mem_filter here, h⟩

/-- If every result of `step` reads a word of `P`, a repetition reads a sequence of them. -/
theorem iterate_reads {step : Cursor → List Cursor} {P : Text → Prop} {greedy : Bool}
    (hstep : ∀ m, ∀ m' ∈ step m, ∃ w, m.Reads w m' ∧ P w) :
    ∀ (fuel : Nat) (m : Cursor), ∀ m' ∈ iterate step greedy fuel m,
      ∃ ws : List Text, m.Reads ws.flatten m' ∧ ∀ u ∈ ws, P u := by
  intro fuel
  induction fuel with
  | zero =>
    intro m m' hm
    rw [iterate, List.mem_singleton] at hm
    subst hm
    exact ⟨[], .refl m', by simp⟩
  | succ fuel ih =>
    intro m m' hm
    rcases mem_iterate_succ hm with rfl | ⟨n, hn, hm'⟩
    · exact ⟨[], .refl m', by simp⟩
    · obtain ⟨w, hw, hPw⟩ := hstep m n hn
      obtain ⟨ws, hws, hPws⟩ := ih n m' hm'
      refine ⟨w :: ws, hw.trans hws, ?_⟩
      intro u hu
      rcases List.mem_cons.mp hu with rfl | hu
      · exact hPw
      · exact hPws u hu

/-- **Soundness of matching**: a result of `r` has read a word of its language. -/
theorem results_denotes (r : Regex) :
    ∀ m, ∀ m' ∈ results r m, ∃ w, m.Reads w m' ∧ Denotes r w := by
  induction r with
  | empty =>
    intro m m' h
    rw [results, List.mem_singleton] at h
    subst h
    exact ⟨[], .refl m', rfl⟩
  | chr accepts =>
    intro m m' h
    rw [results] at h
    split at h
    · simp at h
    · next c cs hrest =>
      split at h
      · next hc =>
        rw [List.mem_singleton] at h
        subst h
        exact ⟨[c], ⟨hrest, rfl⟩, c, hc, rfl⟩
      · simp at h
  | seq r s ihr ihs =>
    intro m m' h
    rw [results] at h
    obtain ⟨n, hn, hm'⟩ := List.mem_flatMap.mp h
    obtain ⟨u, hu, hdu⟩ := ihr m n hn
    obtain ⟨v, hv, hdv⟩ := ihs n m' hm'
    exact ⟨u ++ v, hu.trans hv, u, v, rfl, hdu, hdv⟩
  | alt r s ihr ihs =>
    intro m m' h
    rw [results] at h
    rcases List.mem_append.mp h with h | h
    · obtain ⟨w, hw, hd⟩ := ihr m m' h
      exact ⟨w, hw, .inl hd⟩
    · obtain ⟨w, hw, hd⟩ := ihs m m' h
      exact ⟨w, hw, .inr hd⟩
  | star greedy r ih =>
    intro m m' h
    rw [results] at h
    obtain ⟨ws, hws, hd⟩ := iterate_reads ih _ m m' h
    exact ⟨ws.flatten, hws, ws, rfl, hd⟩
  | group n r ih =>
    intro m m' h
    rw [results] at h
    obtain ⟨m₁, h₁, rfl⟩ := List.mem_map.mp h
    obtain ⟨w, hw, hd⟩ := ih m m₁ h₁
    exact ⟨w, hw, hd⟩
  | here test =>
    intro m m' h
    rw [results] at h
    split at h
    · rw [List.mem_singleton] at h
      subst h
      exact ⟨[], .refl m', rfl⟩
    · simp at h
  | ahead r _ =>
    intro m m' h
    rw [results] at h
    split at h
    · simp at h
    · rw [List.mem_singleton] at h
      subst h
      exact ⟨[], .refl m', rfl⟩

/-- A full match consumes the whole text. -/
theorem fullmatch_denotes {r : Regex} {t : Text} {m : Cursor} (h : fullmatch r t = some m) :
    Denotes r t := by
  obtain ⟨w, hw, hd⟩ := results_denotes r _ m (List.mem_of_find?_eq_some h)
  have hend : m.rest = [] := by
    have := List.find?_some h
    simpa using this
  have ht : t = w := by simpa [hend] using hw.1
  rw [ht]
  exact hd

/-! ### Completeness

For an expression without zero-width tests the search is also complete: it tries every way of
reading a word of the language. -/

/-- No zero-width tests. -/
def Plain : Regex → Prop
  | .empty => True
  | .chr _ => True
  | .seq r s => Plain r ∧ Plain s
  | .alt r s => Plain r ∧ Plain s
  | .star _ r => Plain r
  | .group _ r => Plain r
  | .here _ => False
  | .ahead _ => False

/-- If `step` can read each word of `ws`, a repetition can read them one after the other. -/
theorem mem_iterate {step : Cursor → List Cursor} {greedy : Bool} {v : Text} (ws : List Text)
    (hstep : ∀ u ∈ ws, ∀ m v, m.rest = u ++ v → ∃ m' ∈ step m, m'.rest = v) :
    ∀ (fuel : Nat) (m : Cursor), m.rest = ws.flatten ++ v → m.rest.length ≤ fuel →
      ∃ m' ∈ iterate step greedy fuel m, m'.rest = v := by
  induction ws with
  | nil =>
    intro fuel m hm _
    refine ⟨m, ?_, by simpa using hm⟩
    -- stopping at once is always among the results
    cases fuel with
    | zero => simp [iterate]
    | succ fuel => cases greedy <;> simp [iterate]
  | cons u ws ih =>
    intro fuel m hm hfuel
    have ih' := ih fun w hw => hstep w (List.mem_cons_of_mem _ hw)
    rw [List.flatten_cons, List.append_assoc] at hm
    by_cases hu : u = []
    · subst hu
      exact ih' fuel m hm hfuel
    · obtain ⟨n, hn, hrest⟩ := hstep u List.mem_cons_self m _ hm
      have hlt : n.rest.length < m.rest.length := by
        have hpos : 0 < u.length := List.length_pos_iff.mpr hu
        rw [hrest, hm]
        simp only [List.length_append]
        omega
      cases fuel with
      | zero => omega
      | succ fuel =>
        obtain ⟨m', hm', hv⟩ := ih' fuel n hrest (by omega)
        have hlonger : m' ∈ ((step m).filter (·.rest.length < m.rest.length)).flatMap
            (iterate step greedy fuel) :=
          List.mem_flatMap.mpr ⟨n, List.mem_filter.mpr ⟨hn, by simpa using hlt⟩, hm'⟩
        refine ⟨m', ?_, hv⟩
        rw [iterate]
        cases greedy
        · exact List.mem_cons_of_mem _ hlonger
        · exact List.mem_append_left _ hlonger

/-- **Completeness of matching**: a word of the language that lies ahead can be read. -/
theorem results_of_denotes {r : Regex} (hr : Plain r) :
    ∀ {w : Text}, Denotes r w → ∀ m v, m.rest = w ++ v → ∃ m' ∈ results r m, m'.rest = v := by
  induction r with
  | empty =>
    rintro w rfl m v hm
    exact ⟨m, by simp [results], hm⟩
  | chr accepts =>
    rintro w ⟨c, hc, rfl⟩ m v hm
    obtain ⟨seen, rest, groups⟩ := m
    simp only [List.singleton_append] at hm
    subst hm
    refine ⟨⟨c :: seen, v, groups⟩, ?_, rfl⟩
    rw [results]
    simp [hc]
  | seq r s ihr ihs =>
    rintro w ⟨u, v', rfl, hu, hv'⟩ m v hm
    rw [List.append_assoc] at hm
    obtain ⟨n, hn, hrest⟩ := ihr hr.1 hu m _ hm
    obtain ⟨m', hm', hv⟩ := ihs hr.2 hv' n v hrest
    exact ⟨m', List.mem_flatMap.mpr ⟨n, hn, hm'⟩, hv⟩
  | alt r s ihr ihs =>
    intro w h m v hm
    rcases h with h | h
    · obtain ⟨m', hm', hv⟩ := ihr hr.1 h m v hm
      exact ⟨m', List.mem_append_left _ hm', hv⟩
    · obtain ⟨m', hm', hv⟩ := ihs hr.2 h m v hm
      exact ⟨m', List.mem_append_right _ hm', hv⟩
  | star greedy r ih =>
    rintro w ⟨ws, rfl, hws⟩ m v hm
    refine mem_iterate ws ?_ m.rest.length m hm le_rfl
    intro u hu m v hm
    exact ih hr (hws u hu) m v hm
  | group n r ih =>
    intro w h m v hm
    obtain ⟨m', hm', hv⟩ := ih hr h m v hm
    exact ⟨_, List.mem_map.mpr ⟨m', hm', rfl⟩, hv⟩
  | here test => exact absurd hr id
  | ahead r _ => exact absurd hr id

/-- `re.fullmatch` decides the language of an expression without zero-width tests. -/
theorem fullmatch_isSome_iff {r : Regex} (hr : Plain r) {t : Text} :
    (fullmatch r t).isSome ↔ Denotes r t := by
  constructor
  · intro h
    obtain ⟨m, hm⟩ := Option.isSome_iff_exists.mp h
    exact fullmatch_denotes hm
  · intro h
    obtain ⟨m, hm, hend⟩ := results_of_denotes hr h ⟨[], t, []⟩ [] (by simp)
    rw [fullmatch, List.find?_isSome]
    exact ⟨m, hm, by simp [hend]⟩

/-! ### The languages of the building blocks -/

theorem denotes_lit {t w : Text} : Denotes (lit t) w ↔ w = t := by
  induction t generalizing w with
  | nil => exact Iff.rfl
  | cons c cs ih =>
    constructor
    · rintro ⟨_, v, rfl, ⟨c', hc, rfl⟩, hv⟩
      have hcc : c' = c := by simpa using hc
      rw [ih.mp hv, hcc]
      rfl
    · rintro rfl
      exact ⟨[c], cs, rfl, ⟨c, by simp, rfl⟩, ih.mpr rfl⟩

theorem denotes_star_chr {greedy : Bool} {accepts : Char → Bool} {w : Text} :
    Denotes (.star greedy (.chr accepts)) w ↔ ∀ c ∈ w, accepts c = true := by
  constructor
  · rintro ⟨ws, rfl, hws⟩ c hc
    obtain ⟨u, hu, hcu⟩ := List.mem_flatten.mp hc
    obtain ⟨c', hc', rfl⟩ := hws u hu
    rw [List.mem_singleton.mp hcu]
    exact hc'
  · intro h
    refine ⟨w.map fun c => [c], by rw [← List.flatMap_def, List.flatMap_singleton'], ?_⟩
    intro u hu
    obtain ⟨c, hc, rfl⟩ := List.mem_map.mp hu
    exact ⟨c, h c hc, rfl⟩

theorem denotes_plus_chr {accepts : Char → Bool} {w : Text} :
    Denotes (plus (.chr accepts)) w ↔ w ≠ [] ∧ ∀ c ∈ w, accepts c = true := by
  constructor
  · rintro ⟨_, v, rfl, ⟨c, hc, rfl⟩, hv⟩
    refine ⟨by simp, ?_⟩
    intro d hd
    rcases List.mem_cons.mp hd with rfl | hd
    · exact hc
    · exact denotes_star_chr.mp hv d hd
  · rintro ⟨hne, hw⟩
    cases w with
    | nil => exact absurd rfl hne
    | cons c cs =>
      refine ⟨[c], cs, rfl, ⟨c, hw c List.mem_cons_self, rfl⟩, ?_⟩
      exact denotes_star_chr.mpr fun d hd => hw d (List.mem_cons_of_mem _ hd)

/-! ### Matching known text -/

@[simp] theorem results_seq (r s : Regex) (m : Cursor) :
    results (.seq r s) m = (results r m).flatMap (results s) := rfl

@[simp] theorem results_chr_cons {accepts : Char → Bool} {c : Char} {seen cs : Text}
    {groups : List (Nat × Text)} (h : accepts c = true) :
    results (.chr accepts) ⟨seen, c :: cs, groups⟩ = [⟨c :: seen, cs, groups⟩] := by
  rw [results]
  simp [h]

/-- Text that spells a literal is read by it, whatever follows. -/
theorem results_litIgnoringCase (w : Text) (seen rest : Text) (groups : List (Nat × Text)) :
    results (litIgnoringCase w) ⟨seen, w ++ rest, groups⟩ = [⟨w.reverse ++ seen, rest, groups⟩] := by
  induction w generalizing seen with
  | nil => rfl
  | cons c cs ih =>
    have hc : sameIgnoringCase c c = true := by simp [sameIgnoringCase]
    rw [litIgnoringCase, results_seq, List.cons_append, results_chr_cons hc]
    simp [ih (c :: seen)]

/-- A match at the position searched is the one reported. -/
theorem searchFrom_of_head {r : Regex} {seen t : Text} {m : Cursor}
    (h : (results r ⟨seen, t, []⟩).head? = some m) : searchFrom r seen t = some m := by
  cases t with
  | nil => exact h
  | cons c cs =>
    rw [searchFrom]
    simp [h]

theorem results_seq_of {r s : Regex} {m m' : Cursor} (h : results r m = [m']) :
    results (.seq r s) m = results s m' := by
  rw [results_seq, h, List.flatMap_singleton]

theorem results_ahead_none {r : Regex} {m : Cursor} (h : results r m = []) :
    results (.ahead r) m = [] := by
  rw [results, h]
  rfl

/-- A repetition that cannot begin is empty. -/
theorem results_star_stop {r : Regex} {m : Cursor} (h : results r m = []) (greedy : Bool) :
    results (.star greedy r) m = [m] := by
  rw [results]
  cases m.rest.length with
  | zero => rfl
  | succ n => cases greedy <;> simp [iterate, h]

/-- A lazy `.*` goes on to the end of the text, if what follows matches nowhere before. -/
theorem head?_lazy {f : Cursor → List Cursor} {seen w : Text} {groups : List (Nat × Text)}
    (h : ∀ u v, w = u ++ v → v ≠ [] → f ⟨u.reverse ++ seen, v, groups⟩ = []) :
    ((results (.star false (.chr fun _ => true)) ⟨seen, w, groups⟩).flatMap f).head? =
      (f ⟨w.reverse ++ seen, [], groups⟩).head? := by
  induction w generalizing seen with
  | nil => simp [results, iterate]
  | cons c cs ih =>
    have hstep : results (.star false (.chr fun _ => true)) ⟨seen, c :: cs, groups⟩ =
        ⟨seen, c :: cs, groups⟩ ::
          results (.star false (.chr fun _ => true)) ⟨c :: seen, cs, groups⟩ := by
      simp [results, iterate]
    have hhere : f ⟨seen, c :: cs, groups⟩ = [] := h [] (c :: cs) rfl (List.cons_ne_nil c cs)
    rw [hstep, List.flatMap_cons, hhere, List.nil_append, ih]
    · rw [List.reverse_cons, List.append_assoc, List.singleton_append]
    · intro u v hsplit hne
      have := h (c :: u) v (by rw [hsplit]; rfl) hne
      rwa [List.reverse_cons, List.append_assoc, List.singleton_append] at this

/-- A greedy repetition of characters first tries to read as many as it can. -/
theorem head?_greedy {accepts : Char → Bool} (seen w : Text) (groups : List (Nat × Text)) :
    (results (.star true (.chr accepts)) ⟨seen, w, groups⟩).head?
      = some ⟨(w.takeWhile accepts).reverse ++ seen, w.dropWhile accepts, groups⟩ := by
  induction w generalizing seen with
  | nil => rfl
  | cons c cs ih =>
    by_cases here : accepts c = true
    · have hstep : results (.star true (.chr accepts)) ⟨seen, c :: cs, groups⟩ =
          results (.star true (.chr accepts)) ⟨c :: seen, cs, groups⟩ ++ [⟨seen, c :: cs, groups⟩] := by
        simp [results, iterate, here]
      rw [hstep, List.head?_append, ih, List.takeWhile_cons_of_pos here, List.dropWhile_cons_of_pos here, List.reverse_cons,
        List.append_assoc]
      rfl
    · have hstep : results (.chr accepts) ⟨seen, c :: cs, groups⟩ = [] := by simp [results, here]
      rw [results_star_stop hstep, List.takeWhile_cons_of_neg here, List.dropWhile_cons_of_neg here]
      rfl

/-- A literal does not match at a text that differs from it. -/
theorem results_litIgnoringCase_other {t w : Text} (other : ((t.zip w).any fun p => !sameIgnoringCase p.1 p.2) = true)
    (seen rest : Text) (groups : List (Nat × Text)) : results (litIgnoringCase t) ⟨seen, w ++ rest, groups⟩ = [] := by
  induction t generalizing w seen with
  | nil => cases other
  | cons c t ih =>
    cases w with
    | nil => cases other
    | cons d w =>
      rw [litIgnoringCase, results_seq, List.cons_append]
      by_cases same : sameIgnoringCase c d = true
      · rw [List.zip_cons_cons, List.any_cons, same] at other
        rw [results_chr_cons same, List.flatMap_singleton]
        exact ih other (d :: seen)
      · have here : results (.chr (sameIgnoringCase c)) ⟨seen, d :: (w ++ rest), groups⟩ = [] := by simp [results, same]
        rw [here, List.flatMap_nil]

/-- What a group captures is what was read. -/
theorem Cursor.captured_append {seen w rest rest' : Text} {groups groups' : List (Nat × Text)} :
    Cursor.captured ⟨seen, rest, groups⟩ ⟨w.reverse ++ seen, rest', groups'⟩ = w := by
  simp [Cursor.captured]

end Regex
