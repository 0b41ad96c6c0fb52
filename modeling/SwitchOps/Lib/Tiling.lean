import Mathlib.Data.Finset.Card
import Mathlib.Data.Finset.Image
import Mathlib.Data.List.Sort

/-!
# Replacing words one after the other

Words of a set `σ` occur in a text, and a run goes through a list of them: for each word it replaces, from left to
right, the occurrences that are still whole. Nothing is known of the text but where the words occur. A run leaves
disjoint blocks (`Run.blocks`). If the words come from the shortest to the longest, no occurrence is properly inside a
block (`Run.eq_of_inside`), and so no other blocks with the same cells are as many (`card_le_of_cells`): runs that
replace all occurrences and leave equally many blocks leave the same ones.
-/

namespace Tiling

variable {σ : Type} {len : σ → Nat} {occurs : σ → Nat → Prop}

/-- The cells of a word that starts at a place. -/
def Covers (len : σ → Nat) (block : σ × Nat) (p : Nat) : Prop := block.2 ≤ p ∧ p < block.2 + len block.1

/-- Two blocks have no cell in common. -/
def Apart (len : σ → Nat) (b c : σ × Nat) : Prop := ∀ p, Covers len b p → ¬Covers len c p

theorem apart_iff {b c : σ × Nat} (hb : 0 < len b.1) (hc : 0 < len c.1) :
    Apart len b c ↔ b.2 + len b.1 ≤ c.2 ∨ c.2 + len c.1 ≤ b.2 := by
  constructor
  · intro apart
    by_contra! overlap
    rcases Nat.le_total b.2 c.2 with before | after
    · exact apart c.2 ⟨before, overlap.1⟩ ⟨le_rfl, by omega⟩
    · exact apart b.2 ⟨le_rfl, by omega⟩ ⟨after, overlap.2⟩
  · rintro (before | after) p ⟨lower, upper⟩ ⟨lower', upper'⟩ <;> omega

theorem Apart.symm {b c : σ × Nat} (apart : Apart len b c) : Apart len c b := fun p inC inB => apart p inB inC

/-! ### One word -/

/-- The places that a scan from left to right picks for a word of length `n`: each is taken that does not overlap the
pick before it. -/
structure Picks (fits : Nat → Prop) (n : Nat) (P : Finset Nat) : Prop where
  whole : ∀ i ∈ P, fits i
  apart : ∀ i ∈ P, ∀ j ∈ P, i < j → i + n ≤ j
  found : ∀ i, fits i → ∃ j ∈ P, j ≤ i ∧ i < j + n

theorem Picks.subset {fits : Nat → Prop} {n : Nat} {P Q : Finset Nat} (hP : Picks fits n P) (hQ : Picks fits n Q) :
    P ⊆ Q := by
  intro i
  induction i using Nat.strong_induction_on with
  | _ i ih =>
    intro picked
    obtain ⟨j, known, before, overlaps⟩ := hQ.found i (hP.whole i picked)
    rcases before.lt_or_eq with before | rfl
    · -- what the other scan picked before is picked here, too, and overlaps
      obtain ⟨k, known', before', overlaps'⟩ := hP.found j (hQ.whole j known)
      have := hP.apart k known' i picked (by omega)
      have again : k ∈ Q := ih k (by omega) known'
      rcases before'.lt_or_eq with before' | rfl
      · have := hQ.apart k again j known before'
        omega
      · omega
    · exact known

/-- The scan is determined. -/
theorem Picks.unique {fits : Nat → Prop} {n : Nat} {P Q : Finset Nat} (hP : Picks fits n P) (hQ : Picks fits n Q) :
    P = Q :=
  Finset.Subset.antisymm (hP.subset hQ) (hQ.subset hP)

theorem Picks.congr {fits fits' : Nat → Prop} {n : Nat} {P : Finset Nat} (picks : Picks fits n P)
    (same : ∀ i, fits' i ↔ fits i) : Picks fits' n P :=
  ⟨fun i picked => (same i).mpr (picks.whole i picked), picks.apart, fun i here => picks.found i ((same i).mp here)⟩

/-- Behind the first place the scan goes on after the word. -/
theorem Picks.insert {fits : Nat → Prop} {n i : Nat} {P : Finset Nat} (here : fits i) (first : ∀ j, fits j → i ≤ j)
    (picks : Picks (fun j => i + n ≤ j ∧ fits j) n P) : Picks fits n (insert i P) := by
  refine ⟨fun j picked => ?_, fun j hj k hk before => ?_, fun j fit => ?_⟩
  · rcases Finset.mem_insert.mp picked with rfl | later
    · exact here
    · exact (picks.whole j later).2
  · rcases Finset.mem_insert.mp hk with rfl | later
    · have := first j (by
        rcases Finset.mem_insert.mp hj with rfl | hj
        · exact here
        · exact (picks.whole j hj).2)
      omega
    · rcases Finset.mem_insert.mp hj with rfl | hj
      · exact (picks.whole k later).1
      · exact picks.apart j hj k later before
  · by_cases behind : i + n ≤ j
    · obtain ⟨k, picked, before, overlaps⟩ := picks.found j ⟨behind, fit⟩
      exact ⟨k, Finset.mem_insert_of_mem picked, before, overlaps⟩
    · exact ⟨i, Finset.mem_insert_self _ _, first j fit, by omega⟩

/-! ### Runs -/

/-- Blocks are occurrences without a common cell. -/
structure Blocks (len : σ → Nat) (occurs : σ → Nat → Prop) (blocks : Finset (σ × Nat)) : Prop where
  words : ∀ b ∈ blocks, occurs b.1 b.2
  apart : ∀ b ∈ blocks, ∀ c ∈ blocks, b ≠ c → Apart len b c

theorem blocks_empty : Blocks len occurs (∅ : Finset (σ × Nat)) := ⟨by simp, by simp⟩

theorem Blocks.eq_of_covers {blocks : Finset (σ × Nat)} (h : Blocks len occurs blocks) {b c : σ × Nat} {p : Nat}
    (hb : b ∈ blocks) (hc : c ∈ blocks) (inB : Covers len b p) (inC : Covers len c p) : b = c := by
  by_contra other
  exact h.apart b hb c hc other p inB inC

section run

variable [DecidableEq σ]

/-- No block has a cell of the word. -/
def Free (len : σ → Nat) (blocks : Finset (σ × Nat)) (s : σ) (i : Nat) : Prop := ∀ b ∈ blocks, Apart len b (s, i)

/-- The words are replaced in the order of the list. -/
inductive Run (len : σ → Nat) (occurs : σ → Nat → Prop) : List σ → Finset (σ × Nat) → Finset (σ × Nat) → Prop
  | nil (blocks : Finset (σ × Nat)) : Run len occurs [] blocks blocks
  | cons {s : σ} {order : List σ} {blocks blocks' : Finset (σ × Nat)} {P : Finset Nat}
      (picks : Picks (fun i => occurs s i ∧ Free len blocks s i) (len s) P)
      (run : Run len occurs order (blocks ∪ P.image (s, ·)) blocks') : Run len occurs (s :: order) blocks blocks'

theorem Blocks.step {blocks : Finset (σ × Nat)} (h : Blocks len occurs blocks) {s : σ} {P : Finset Nat}
    (picks : Picks (fun i => occurs s i ∧ Free len blocks s i) (len s) P) :
    Blocks len occurs (blocks ∪ P.image (s, ·)) := by
  refine ⟨fun b member => ?_, fun b hb c hc other => ?_⟩
  · rcases Finset.mem_union.mp member with known | new
    · exact h.words b known
    · obtain ⟨i, picked, rfl⟩ := Finset.mem_image.mp new
      exact (picks.whole i picked).1
  · rcases Finset.mem_union.mp hb with hb | hb <;> rcases Finset.mem_union.mp hc with hc | hc
    · exact h.apart b hb c hc other
    · obtain ⟨i, picked, rfl⟩ := Finset.mem_image.mp hc
      exact (picks.whole i picked).2 b hb
    · obtain ⟨i, picked, rfl⟩ := Finset.mem_image.mp hb
      exact ((picks.whole i picked).2 c hc).symm
    · obtain ⟨i, picked, rfl⟩ := Finset.mem_image.mp hb
      obtain ⟨j, picked', rfl⟩ := Finset.mem_image.mp hc
      have other : i ≠ j := fun same => other (by rw [same])
      rintro p ⟨lower, upper⟩ ⟨lower', upper'⟩
      dsimp only at lower upper lower' upper'
      rcases other.lt_or_gt with before | after
      · have := picks.apart i picked j picked' before
        omega
      · have := picks.apart j picked' i picked after
        omega

/-- **Step**: a run keeps the blocks disjoint. -/
theorem Run.blocks {order : List σ} {blocks blocks' : Finset (σ × Nat)} (run : Run len occurs order blocks blocks')
    (h : Blocks len occurs blocks) : Blocks len occurs blocks' := by
  induction run with
  | nil => exact h
  | cons picks _ ih => exact ih (h.step picks)

theorem Run.subset {order : List σ} {blocks blocks' : Finset (σ × Nat)} (run : Run len occurs order blocks blocks') :
    blocks ⊆ blocks' := by
  induction run with
  | nil => exact Finset.Subset.refl _
  | cons _ _ ih => exact Finset.union_subset_left ih

/-- What a run adds are blocks of its words. -/
theorem Run.mem_or {order : List σ} {blocks blocks' : Finset (σ × Nat)} (run : Run len occurs order blocks blocks')
    {b : σ × Nat} (member : b ∈ blocks') : b ∈ blocks ∨ b.1 ∈ order := by
  induction run with
  | nil => exact .inl member
  | @cons s order blocks blocks' P _ _ ih =>
    rcases ih member with known | later
    · rcases Finset.mem_union.mp known with known | new
      · exact .inl known
      · obtain ⟨i, -, rfl⟩ := Finset.mem_image.mp new
        exact .inr List.mem_cons_self
    · exact .inr (List.mem_cons_of_mem _ later)

theorem Run.append {first second : List σ} {blocks blocks' : Finset (σ × Nat)}
    (run : Run len occurs (first ++ second) blocks blocks') :
    ∃ between, Run len occurs first blocks between ∧ Run len occurs second between blocks' := by
  induction first generalizing blocks with
  | nil => exact ⟨blocks, .nil _, run⟩
  | cons s first ih =>
    cases run with
    | cons picks run =>
      obtain ⟨between, before, after⟩ := ih run
      exact ⟨between, .cons picks before, after⟩

/-- The words are looked for in the text, do not have length zero, and two of one length do not start at one place. -/
structure Words (len : σ → Nat) (occurs : σ → Nat → Prop) (order : List σ) : Prop where
  distinct : order.Nodup
  pos : ∀ s ∈ order, 0 < len s
  same : ∀ s t i, occurs s i → occurs t i → len s = len t → s = t

variable {order : List σ} {blocks : Finset (σ × Nat)}

/-- A word that is free in its turn has a block over its first cell. -/
theorem Run.found {second : List σ} {s : σ} {between : Finset (σ × Nat)} {i : Nat}
    (run : Run len occurs (s :: second) between blocks) (whole : occurs s i) (free : Free len between s i) :
    ∃ j, (s, j) ∈ blocks ∧ j ≤ i ∧ i < j + len s := by
  cases run with
  | cons picks run =>
    obtain ⟨j, picked, before, overlaps⟩ := picks.found i ⟨whole, free⟩
    exact ⟨j, run.subset (Finset.mem_union_right _ (Finset.mem_image_of_mem _ picked)), before, overlaps⟩

/-- From the shortest to the longest word: no occurrence is properly inside a block. -/
theorem Run.eq_of_inside (words : Words len occurs order) (ascending : order.Pairwise fun s t => len s ≤ len t)
    (run : Run len occurs order ∅ blocks) {a c : σ × Nat} (block : a ∈ blocks) (known : c.1 ∈ order)
    (whole : occurs c.1 c.2) (starts : a.2 ≤ c.2) (ends : c.2 + len c.1 ≤ a.2 + len a.1) : c = a := by
  have disjoint := run.blocks blocks_empty
  obtain ⟨s, i⟩ := c
  dsimp only at known whole starts ends
  have known' : a.1 ∈ order := (run.mem_or block).resolve_left (Finset.notMem_empty a)
  rcases (show len s ≤ len a.1 by omega).lt_or_eq with shorter | long
  · -- the shorter word had its turn before
    obtain ⟨first, second, rfl⟩ := List.append_of_mem known
    obtain ⟨between, before, after⟩ := run.append
    obtain ⟨-, ordered, earlier⟩ := List.pairwise_append.mp ascending
    have later : a.1 ∉ first := by
      intro inFirst
      have := earlier a.1 inFirst s List.mem_cons_self
      omega
    have free : Free len between s i := by
      intro b member p inB inside
      have other : b ≠ a := by
        rintro rfl
        exact later ((before.mem_or member).resolve_left (Finset.notMem_empty b))
      refine disjoint.apart b (after.subset member) a block other p inB ⟨?_, ?_⟩
      · exact starts.trans inside.1
      · exact inside.2.trans_le ends
    obtain ⟨j, picked, before', overlaps⟩ := after.found whole free
    have same : (s, j) = a := by
      refine disjoint.eq_of_covers picked block (p := i) ⟨before', overlaps⟩ ⟨starts, ?_⟩
      have : 0 < len s := words.pos s known
      omega
    rw [← same] at shorter
    exact absurd shorter (lt_irrefl _)
  · have same : i = a.2 := by omega
    subst same
    have : s = a.1 := words.same s a.1 a.2 whole (disjoint.words a block) long
    rw [this]

/-- The text is covered by the same cells. -/
def SameCells (len : σ → Nat) (A C : Finset (σ × Nat)) : Prop :=
  ∀ p, (∃ a ∈ A, Covers len a p) ↔ ∃ c ∈ C, Covers len c p

/-- **Domination**: the blocks that the run from the shortest to the longest word leaves are the most that there can be
on these cells, and no others are as many. -/
theorem Run.card_le_of_cells (words : Words len occurs order) (ascending : order.Pairwise fun s t => len s ≤ len t)
    (run : Run len occurs order ∅ blocks) {C : Finset (σ × Nat)} (others : Blocks len occurs C)
    (known : ∀ c ∈ C, c.1 ∈ order) (cells : SameCells len blocks C) :
    C.card ≤ blocks.card ∧ (C.card = blocks.card → C = blocks) := by
  have disjoint := run.blocks blocks_empty
  have inside {a c : σ × Nat} (block : a ∈ blocks) (other : c ∈ C) :=
    run.eq_of_inside words ascending block (known c other) (others.words c other)
  have lastIn (c : σ × Nat) (other : c ∈ C) : Covers len c (c.2 + len c.1 - 1) := by
    have := words.pos c.1 (known c other)
    exact ⟨by omega, by omega⟩
  -- to each of the others belongs the block over its last cell
  have exists_above (c : {c // c ∈ C}) : ∃ a ∈ blocks, Covers len a (c.1.2 + len c.1.1 - 1) :=
    (cells _).mpr ⟨c.1, c.2, lastIn c.1 c.2⟩
  choose above member covers using exists_above
  have injective (c : σ × Nat) (hc : c ∈ C) (d : σ × Nat) (hd : d ∈ C) (same : above ⟨c, hc⟩ = above ⟨d, hd⟩)
      (before : c.2 + len c.1 ≤ d.2) : False := by
    have first := covers ⟨c, hc⟩
    have second := covers ⟨d, hd⟩
    rw [← same] at second
    have := words.pos c.1 (known c hc)
    have eq : d = above ⟨c, hc⟩ := inside (member ⟨c, hc⟩) hd (by have := first.1; dsimp only at *; omega)
      (by have := second.2; dsimp only at *; omega)
    rw [← eq] at first
    have := first.1
    dsimp only at this
    omega
  have injOn : Set.InjOn above (C.attach : Set {c // c ∈ C}) := by
    rintro ⟨c, hc⟩ - ⟨d, hd⟩ - same
    by_contra other
    have other : c ≠ d := fun eq => other (Subtype.ext eq)
    rcases (apart_iff (words.pos c.1 (known c hc)) (words.pos d.1 (known d hd))).mp (others.apart c hc d hd other)
      with before | after
    · exact injective c hc d hd same before
    · exact injective d hd c hc same.symm after
  have maps : Set.MapsTo above (C.attach : Set {c // c ∈ C}) (blocks : Set (σ × Nat)) := fun c _ => member c
  refine ⟨by simpa using Finset.card_le_card_of_injOn above maps injOn, fun same => ?_⟩
  have onto := Finset.surjOn_of_injOn_of_card_le above maps injOn (by rw [Finset.card_attach, same])
  -- from left to right, each block is one of the others
  have listed (n : Nat) : ∀ a ∈ blocks, a.2 = n → a ∈ C := by
    induction n using Nat.strong_induction_on with
    | _ n ih =>
      intro a block start
      obtain ⟨⟨c, hc⟩, -, image⟩ := onto block
      have last := covers ⟨c, hc⟩
      rw [image] at last
      dsimp only at last
      by_cases starts : a.2 ≤ c.2
      · rw [← inside block hc starts (by have := last.2; have := words.pos c.1 (known c hc); omega)]
        exact hc
      · -- the cell before the block belongs to a block before
        have before : Covers len c (a.2 - 1) := by
          have := last.1
          exact ⟨by omega, by omega⟩
        obtain ⟨a', block', covers'⟩ := (cells _).mpr ⟨c, hc, before⟩
        have earlier : a' ∈ C := ih a'.2 (by have := covers'.1; omega) a' block' rfl
        have eq : a' = c := others.eq_of_covers earlier hc covers' before
        subst eq
        have eq : a' = a := disjoint.eq_of_covers block' block (lastIn a' hc) last
        subst eq
        exact absurd le_rfl starts
  exact (Finset.eq_of_subset_of_card_le (fun a block => listed a.2 a block rfl) same.le).symm

/-! ### Runs in any order -/

variable {picks : σ → Finset Nat}

/-- What a scan picks in the untouched text does not overlap what the scans for other words pick there. -/
def Compatible (len : σ → Nat) (order : List σ) (picks : σ → Finset Nat) : Prop :=
  ∀ s ∈ order, ∀ t ∈ order, s ≠ t → ∀ i ∈ picks s, ∀ j ∈ picks t, Apart len (s, i) (t, j)

theorem Run.mem_iff_of_apart {blocks' : Finset (σ × Nat)} (scans : ∀ s ∈ order, Picks (occurs s) (len s) (picks s))
    (compatible : Compatible len order picks) (distinct : order.Nodup) (run : Run len occurs order blocks blocks')
    (apart : ∀ b ∈ blocks, ∀ s ∈ order, ∀ i ∈ picks s, Apart len b (s, i)) (b : σ × Nat) :
    b ∈ blocks' ↔ b ∈ blocks ∨ b.1 ∈ order ∧ b.2 ∈ picks b.1 := by
  induction run with
  | nil => simp
  | @cons s order blocks blocks' P scan run ih =>
    obtain ⟨fresh, distinct⟩ := List.nodup_cons.mp distinct
    -- the picks of this word are still whole
    have scanned : Picks (fun i => occurs s i ∧ Free len blocks s i) (len s) (picks s) := by
      obtain ⟨whole, behind, found⟩ := scans s List.mem_cons_self
      refine ⟨fun i picked => ⟨whole i picked, fun b member => ?_⟩, behind, fun i here => found i here.1⟩
      exact apart b member s List.mem_cons_self i picked
    obtain rfl : P = picks s := scan.unique scanned
    rw [ih (fun t here => scans t (List.mem_cons_of_mem _ here))
      (fun t ht u hu => compatible t (List.mem_cons_of_mem _ ht) u (List.mem_cons_of_mem _ hu)) distinct,
      Finset.mem_union, Finset.mem_image, List.mem_cons, or_assoc]
    · refine or_congr_right ?_
      constructor
      · rintro (⟨i, picked, rfl⟩ | ⟨here, picked⟩)
        · exact ⟨.inl rfl, picked⟩
        · exact ⟨.inr here, picked⟩
      · rintro ⟨same | here, picked⟩
        · obtain ⟨t, i⟩ := b
          subst same
          exact .inl ⟨i, picked, rfl⟩
        · exact .inr ⟨here, picked⟩
    · intro c member t here i picked
      rcases Finset.mem_union.mp member with known | new
      · exact apart c known t (List.mem_cons_of_mem _ here) i picked
      · obtain ⟨j, picked', rfl⟩ := Finset.mem_image.mp new
        have other : s ≠ t := fun same => fresh (by rw [same]; exact here)
        exact compatible s List.mem_cons_self t (List.mem_cons_of_mem _ here) other j picked' i picked

/-- **Compatible words**: every order replaces just the picks. -/
theorem Run.mem_iff (scans : ∀ s ∈ order, Picks (occurs s) (len s) (picks s)) (compatible : Compatible len order picks)
    (distinct : order.Nodup) (run : Run len occurs order ∅ blocks) (b : σ × Nat) :
    b ∈ blocks ↔ b.1 ∈ order ∧ b.2 ∈ picks b.1 := by
  rw [run.mem_iff_of_apart scans compatible distinct (by simp)]
  simp

/-- Every cell of every occurrence has been replaced. -/
def Replaced (len : σ → Nat) (occurs : σ → Nat → Prop) (order : List σ) (blocks : Finset (σ × Nat)) : Prop :=
  ∀ s ∈ order, ∀ i, occurs s i → ∀ p, Covers len (s, i) p → ∃ b ∈ blocks, Covers len b p

/-- Runs over the same words that replace all occurrences cover the same cells. -/
theorem Run.sameCells {order' : List σ} {blocks' : Finset (σ × Nat)} {all : List σ} (perm : order.Perm all)
    (perm' : order'.Perm all) (run : Run len occurs order ∅ blocks) (run' : Run len occurs order' ∅ blocks')
    (replaced : Replaced len occurs all blocks) (replaced' : Replaced len occurs all blocks') :
    SameCells len blocks blocks' := by
  have covered {order : List σ} {A C : Finset (σ × Nat)} (perm : order.Perm all) (run : Run len occurs order ∅ A)
      (replaced : Replaced len occurs all C) (p : Nat) (here : ∃ a ∈ A, Covers len a p) : ∃ c ∈ C, Covers len c p := by
    obtain ⟨a, member, covers⟩ := here
    have known := perm.mem_iff.mp ((run.mem_or member).resolve_left (Finset.notMem_empty a))
    exact replaced a.1 known a.2 ((run.blocks blocks_empty).words a member) p covers
  exact fun p => ⟨covered perm run replaced' p, covered perm' run' replaced p⟩

/-- **Necessity**: if every order replaces all occurrences, in equally many blocks, then the words are compatible. -/
theorem compatible_of_runs {n : Nat} (words : Words len occurs order)
    (scans : ∀ s ∈ order, Picks (occurs s) (len s) (picks s))
    (runs : ∀ order', order'.Perm order →
      ∃ blocks, Run len occurs order' ∅ blocks ∧ Replaced len occurs order blocks ∧ blocks.card = n) :
    Compatible len order picks := by
  -- from the shortest to the longest word
  let shorter (s t : σ) : Prop := len s ≤ len t
  have total : Std.Total shorter := ⟨fun s t => Nat.le_total _ _⟩
  have transitive : IsTrans σ shorter := ⟨fun _ _ _ => Nat.le_trans⟩
  classical
  have sorted := List.perm_insertionSort shorter order
  obtain ⟨best, run, replaced, count⟩ := runs _ sorted
  have ascending := List.pairwise_insertionSort shorter order
  have words' : Words len occurs (order.insertionSort shorter) :=
    ⟨sorted.nodup_iff.mpr words.distinct, fun s here => words.pos s (sorted.mem_iff.mp here), words.same⟩
  -- every word may come first, and leaves the same blocks
  have first (s : σ) (here : s ∈ order) (i : Nat) (picked : i ∈ picks s) : (s, i) ∈ best := by
    have perm := (List.perm_cons_erase here).symm
    obtain ⟨blocks, run', replaced', count'⟩ := runs _ perm
    have cells := run.sameCells sorted perm run' replaced replaced'
    have known (c : σ × Nat) (member : c ∈ blocks) : c.1 ∈ order.insertionSort shorter :=
      sorted.mem_iff.mpr (perm.mem_iff.mp ((run'.mem_or member).resolve_left (Finset.notMem_empty c)))
    have same := (run.card_le_of_cells words' ascending (run'.blocks blocks_empty) known cells).2
      (count'.trans count.symm)
    rw [← same]
    cases run' with
    | @cons _ _ _ _ P scan run' =>
      have untouched : P = picks s := by
        refine scan.unique ?_
        obtain ⟨whole, behind, found⟩ := scans s here
        exact ⟨fun i picked => ⟨whole i picked, by simp [Free]⟩, behind, fun i here => found i here.1⟩
      rw [untouched] at run'
      exact run'.subset (Finset.mem_union_right _ (Finset.mem_image_of_mem _ picked))
  intro s hs t ht other i picked j picked'
  exact (run.blocks blocks_empty).apart _ (first s hs i picked) _ (first t ht j picked') fun same =>
    other (congrArg Prod.fst same)

end run

end Tiling
