import SwitchOps.Lib.LineSearch

/-!
# Texts of blocks

A text whose lines form blocks, each begun by a line of its own: `re.split` for an expression that reads nothing cuts it
where the blocks begin (`cut_blocks`), and `re.finditer` goes from one block to the next (`scan_line`, `scan_of_head`).
-/

namespace Regex

open Text

variable {r s : Regex} {seen rest piece w : Text}

/-! ### Cutting -/

/-- The pieces of a text that is cut wherever the expression matches, which reads nothing; `piece` is what was read
since the last cut, last character first. -/
def cutFrom (r : Regex) : Text → Text → Text → List Text
  | seen, piece, [] => if (results r ⟨seen, [], []⟩).isEmpty then [piece.reverse] else [piece.reverse, []]
  | seen, piece, c :: rest =>
    if (results r ⟨seen, c :: rest, []⟩).isEmpty then cutFrom r (c :: seen) (c :: piece) rest
    else piece.reverse :: cutFrom r (c :: seen) [c] rest

/-- `re.split`, for an expression that reads nothing. -/
def cut (r : Regex) (t : Text) : List Text := cutFrom r [] [] t

/-- `s` matches at the beginning of a line of this text. -/
def Heads (s : Regex) (line : Text) : Prop := ∀ seen rest, results s ⟨seen, line ++ '\n' :: rest, []⟩ ≠ []

/-- `(?=^s)` -/
def aheadLine (s : Regex) : Regex := .ahead (.seq lineStart s)

theorem results_aheadLine_eq_nil_iff (start : AtLine seen) :
    results (aheadLine s) ⟨seen, rest, []⟩ = [] ↔ results s ⟨seen, rest, []⟩ = [] := by
  have inner : results (.seq lineStart s) ⟨seen, rest, []⟩ = results s ⟨seen, rest, []⟩ := by
    rw [results_eq_runs, runs_seq, runs_lineStart start, ← results_eq_runs]
  rw [aheadLine, results, inner]
  cases results s ⟨seen, rest, []⟩ with
  | nil => simp
  | cons m more => simp

theorem results_aheadLine_inside {c : Char} (inside : c ≠ '\n') : results (aheadLine s) ⟨c :: seen, rest, []⟩ = [] := by
  rw [aheadLine, results, results_eq_runs, runs_seq, runs_lineStart_inside inside]
  rfl

theorem cutFrom_cons_of_nil {c : Char} (h : results r ⟨seen, c :: rest, []⟩ = []) :
    cutFrom r seen piece (c :: rest) = cutFrom r (c :: seen) (c :: piece) rest := by
  rw [cutFrom, h, if_pos List.isEmpty_nil]

/-- There is no cut within a line. -/
theorem cutFrom_inside {c : Char} (inside : c ≠ '\n') (line : '\n' ∉ w) :
    cutFrom (aheadLine s) (c :: seen) piece (w ++ '\n' :: rest) =
      cutFrom (aheadLine s) ('\n' :: (w.reverse ++ c :: seen)) ('\n' :: (w.reverse ++ piece)) rest := by
  induction w generalizing c seen piece with
  | nil => exact cutFrom_cons_of_nil (results_aheadLine_inside inside)
  | cons d w ih =>
    rw [List.mem_cons, not_or] at line
    rw [List.cons_append, cutFrom_cons_of_nil (results_aheadLine_inside inside), ih (Ne.symm line.1) line.2]
    simp only [List.reverse_cons, List.append_assoc, List.singleton_append]

/-- A line that is no head goes to the piece. -/
theorem cutFrom_line (start : AtLine seen) (line : '\n' ∉ w) (other : results s ⟨seen, w ++ '\n' :: rest, []⟩ = []) :
    cutFrom (aheadLine s) seen piece (w ++ '\n' :: rest) =
      cutFrom (aheadLine s) ('\n' :: (w.reverse ++ seen)) ('\n' :: (w.reverse ++ piece)) rest := by
  have none := (results_aheadLine_eq_nil_iff start).mpr other
  cases w with
  | nil => exact cutFrom_cons_of_nil none
  | cons c w =>
    rw [List.mem_cons, not_or] at line
    rw [List.cons_append] at none ⊢
    rw [cutFrom_cons_of_nil none, cutFrom_inside (Ne.symm line.1) line.2]
    simp only [List.reverse_cons, List.append_assoc, List.singleton_append]

/-- A head begins a new piece. -/
theorem cutFrom_head (start : AtLine seen) (line : '\n' ∉ w) (head : Heads s w) :
    cutFrom (aheadLine s) seen piece (w ++ '\n' :: rest) =
      piece.reverse :: cutFrom (aheadLine s) ('\n' :: (w.reverse ++ seen)) ('\n' :: w.reverse) rest := by
  have some : results (aheadLine s) ⟨seen, w ++ '\n' :: rest, []⟩ ≠ [] := by
    rw [Ne, results_aheadLine_eq_nil_iff start]
    exact head seen rest
  cases w with
  | nil =>
    rw [List.nil_append] at some ⊢
    rw [cutFrom, if_neg (by rwa [List.isEmpty_iff])]
    rfl
  | cons c w =>
    rw [List.mem_cons, not_or] at line
    rw [List.cons_append] at some ⊢
    rw [cutFrom, if_neg (by rwa [List.isEmpty_iff]), cutFrom_inside (Ne.symm line.1) line.2]
    simp only [List.reverse_cons, List.append_assoc, List.singleton_append]

/-- Lines that are no heads go to the piece. -/
theorem cutFrom_unlines {lines : List Text} (start : AtLine seen) (plain : ∀ line ∈ lines, '\n' ∉ line)
    (other : ∀ line ∈ lines, Finds s line none) (piece rest : Text) : ∃ seen', AtLine seen' ∧
      cutFrom (aheadLine s) seen piece (unlines lines ++ rest) =
        cutFrom (aheadLine s) seen' ((unlines lines).reverse ++ piece) rest := by
  induction lines generalizing seen piece with
  | nil => exact ⟨seen, start, rfl⟩
  | cons line lines ih =>
    rw [List.forall_mem_cons] at plain other
    have first : unlines (line :: lines) = line ++ '\n' :: unlines lines := by simp [unlines]
    obtain ⟨seen', start', cut⟩ := ih (atLine_newline (line.reverse ++ seen)) plain.2 other.2
      ('\n' :: (line.reverse ++ piece))
    refine ⟨seen', start', ?_⟩
    rw [first, List.append_assoc, List.cons_append, cutFrom_line start plain.1 (other.1.results_eq_nil _ _), cut]
    simp

/-- A block: a line that begins it, and further lines. -/
structure Block where
  head : Text
  lines : List Text

def Block.text (block : Block) : Text := unlines (block.head :: block.lines)

/-- The lines of a block, of which only the first is a head. -/
structure Block.Headed (s : Regex) (block : Block) : Prop where
  plain : ∀ line ∈ block.head :: block.lines, '\n' ∉ line
  head : Heads s block.head
  others : ∀ line ∈ block.lines, Finds s line none

/-- **Where a text is cut**: before each of its blocks. -/
theorem cut_blocks {before : List Text} {blocks : List Block} (plain : ∀ line ∈ before, '\n' ∉ line)
    (other : ∀ line ∈ before, Finds s line none) (headed : ∀ block ∈ blocks, block.Headed s)
    (ended : ∀ seen, results s ⟨seen, [], []⟩ = []) :
    cut (aheadLine s) (unlines before ++ blocks.flatMap Block.text) = unlines before :: blocks.map Block.text := by
  have from_ : ∀ seen piece, AtLine seen → cutFrom (aheadLine s) seen piece (blocks.flatMap Block.text) =
      piece.reverse :: blocks.map Block.text := by
    induction blocks with
    | nil =>
      intro seen piece start
      rw [List.flatMap_nil, cutFrom, if_pos]
      · rfl
      · rw [List.isEmpty_iff]
        exact (results_aheadLine_eq_nil_iff start).mpr (ended seen)
    | cons block blocks ih =>
      intro seen piece start
      rw [List.forall_mem_cons] at headed
      have first : (block :: blocks).flatMap Block.text =
          block.head ++ '\n' :: (unlines block.lines ++ blocks.flatMap Block.text) := by
        simp [Block.text, unlines]
      have line := headed.1.plain block.head List.mem_cons_self
      obtain ⟨seen', start', cut⟩ := cutFrom_unlines (atLine_newline (block.head.reverse ++ seen))
        (fun other here => headed.1.plain other (List.mem_cons_of_mem _ here)) headed.1.others
        ('\n' :: block.head.reverse) (blocks.flatMap Block.text)
      rw [first, cutFrom_head start line headed.1.head, cut, ih headed.2 _ _ start']
      simp [Block.text, unlines]
  obtain ⟨seen, start, passed⟩ := cutFrom_unlines atLine_nil plain other [] (blocks.flatMap Block.text)
  rw [cut, passed, from_ _ _ start, List.append_nil, List.reverse_reverse]

/-! ### Scanning -/

/-- The matches of `re.finditer` from a position on. -/
def scan (r : Regex) (seen rest : Text) : List (Cursor × Cursor) := matchesFrom r (rest.length + 1) seen rest

/-- No match reads something at the end. -/
theorem matchesFrom_nil (fuel : Nat) : matchesFrom r fuel seen [] = [] := by
  cases fuel with
  | zero => rfl
  | succ fuel =>
    rw [matchesFrom]
    cases (results r ⟨seen, [], []⟩).head? with
    | none => rfl
    | some m =>
      dsimp only
      rw [if_neg (by simp)]

theorem matchesFrom_cons_of_none {fuel : Nat} {c : Char} (h : (results r ⟨seen, c :: rest, []⟩).head? = none) :
    matchesFrom r (fuel + 1) seen (c :: rest) = matchesFrom r fuel (c :: seen) rest := by
  rw [matchesFrom, h]

theorem matchesFrom_cons_of_some {fuel : Nat} {c : Char} {m : Cursor}
    (h : (results r ⟨seen, c :: rest, []⟩).head? = some m) :
    matchesFrom r (fuel + 1) seen (c :: rest) =
      if m.rest.length < (c :: rest).length then (⟨seen, c :: rest, []⟩, m) :: matchesFrom r fuel m.seen m.rest
      else matchesFrom r fuel (c :: seen) rest := by
  rw [matchesFrom, h]

/-- The positions that are left are fuel enough. -/
theorem matchesFrom_eq_of_lt {fuel fuel' : Nat} (enough : rest.length < fuel) (enough' : rest.length < fuel') :
    matchesFrom r fuel seen rest = matchesFrom r fuel' seen rest := by
  induction fuel generalizing fuel' seen rest with
  | zero => exact absurd enough (Nat.not_lt_zero _)
  | succ fuel ih =>
    obtain ⟨fuel', rfl⟩ := Nat.exists_eq_add_one_of_ne_zero (Nat.ne_zero_of_lt enough')
    cases rest with
    | nil => rw [matchesFrom_nil, matchesFrom_nil]
    | cons c rest =>
      rw [List.length_cons] at enough enough'
      have next : matchesFrom r fuel (c :: seen) rest = matchesFrom r fuel' (c :: seen) rest :=
        ih (by omega) (by omega)
      cases head : (results r ⟨seen, c :: rest, []⟩).head? with
      | none => rw [matchesFrom_cons_of_none head, matchesFrom_cons_of_none head, next]
      | some m =>
        rw [matchesFrom_cons_of_some head, matchesFrom_cons_of_some head, next]
        split
        · next reads =>
          rw [List.length_cons] at reads
          have more : matchesFrom r fuel m.seen m.rest = matchesFrom r fuel' m.seen m.rest :=
            ih (by omega) (by omega)
          rw [more]
        · rfl

theorem finditer_eq_scan (r : Regex) (t : Text) : finditer r t = (scan r [] t).map (·.2) := rfl

theorem scan_cons_of_nil {c : Char} (h : results r ⟨seen, c :: rest, []⟩ = []) :
    scan r seen (c :: rest) = scan r (c :: seen) rest := by
  rw [scan, List.length_cons, matchesFrom_cons_of_none (by rw [h]; rfl)]
  rfl

theorem scan_nil : scan r seen [] = [] := matchesFrom_nil _

/-- A match is followed by those after it. -/
theorem scan_of_head {m : Cursor} (h : (results r ⟨seen, rest, []⟩).head? = some m) (reads : m.rest.length < rest.length) :
    scan r seen rest = (⟨seen, rest, []⟩, m) :: scan r m.seen m.rest := by
  cases rest with
  | nil => exact absurd reads (Nat.not_lt_zero _)
  | cons c rest =>
    rw [scan, matchesFrom_cons_of_some h, if_pos reads, scan]
    rw [matchesFrom_eq_of_lt reads (Nat.lt_succ_self _)]

/-- A scan from within a line goes on at the next one. -/
theorem scan_inside {c : Char} (inside : c ≠ '\n') (line : '\n' ∉ w) :
    scan (.seq lineStart s) (c :: seen) (w ++ '\n' :: rest) =
      scan (.seq lineStart s) ('\n' :: (w.reverse ++ c :: seen)) rest := by
  have none : ∀ {c seen rest}, c ≠ '\n' → results (.seq lineStart s) ⟨c :: seen, rest, []⟩ = [] := by
    intro c seen rest inside
    rw [results_eq_runs, runs_seq, runs_lineStart_inside inside]
  induction w generalizing c seen with
  | nil => exact scan_cons_of_nil (none inside)
  | cons d w ih =>
    rw [List.mem_cons, not_or] at line
    rw [List.cons_append, scan_cons_of_nil (none inside), ih (Ne.symm line.1) line.2]
    simp only [List.reverse_cons, List.append_assoc, List.singleton_append]

/-- A line where the expression does not match is passed over. -/
theorem scan_line (start : AtLine seen) (line : '\n' ∉ w) (skipped : results s ⟨seen, w ++ '\n' :: rest, []⟩ = []) :
    scan (.seq lineStart s) seen (w ++ '\n' :: rest) = scan (.seq lineStart s) ('\n' :: (w.reverse ++ seen)) rest := by
  have none : results (.seq lineStart s) ⟨seen, w ++ '\n' :: rest, []⟩ = [] := by
    rw [results_eq_runs, runs_seq, runs_lineStart start, ← results_eq_runs, skipped]
  cases w with
  | nil => exact scan_cons_of_nil none
  | cons c w =>
    rw [List.mem_cons, not_or] at line
    rw [List.cons_append] at none ⊢
    rw [scan_cons_of_nil none, scan_inside (Ne.symm line.1) line.2]
    simp only [List.reverse_cons, List.append_assoc, List.singleton_append]

end Regex
