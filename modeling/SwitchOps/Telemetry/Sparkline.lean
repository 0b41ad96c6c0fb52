import Mathlib.Algebra.BigOperators.Group.List.Basic
import Mathlib.Algebra.Order.Floor.Ring
import Mathlib.Data.List.Sort
import Mathlib.Data.List.SplitBy
import Mathlib.Data.Rat.Floor
import Mathlib.Order.Bounds.Basic
import SwitchOps.Lib.Dict
import SwitchOps.Lib.Text

/-!
# The sparkline of a record

`sparkline.ts` of the frontend: observations are validated, sorted and freed of duplicates, split into runs where the
record is silent for too long, and reduced to one bucket for each column of pixels. Times are integers, values and
settings are rationals, and `toFixed` stands for `Number.prototype.toFixed(2)`.
-/

namespace SwitchOps.Sparkline

/-! ## Records -/

/-- A value as it arrives. -/
inductive RawValue
  | missing
  | nonFinite
  | finite (v : Rat)
  deriving DecidableEq

/-- `time` is `new Date(timestamp).getTime()`, and `none` where that is not finite. -/
structure RawObservation where
  time : Option Int
  value : RawValue
  deriving DecidableEq

structure CleanPoint where
  t : Int
  v : Rat
  deriving DecidableEq

structure SparkBucket where
  x : Int
  yMin : Rat
  yMax : Rat
  yLast : Rat
  vMin : Rat
  vMax : Rat
  vLast : Rat
  tFirst : Int
  tLast : Int
  count : Nat
  deriving DecidableEq

structure SparkSegment where
  buckets : List SparkBucket
  path : Option Text
  deriving DecidableEq

structure SparklineModel where
  segments : List SparkSegment
  spikes : List SparkBucket
  buckets : List SparkBucket
  width : Int
  height : Int
  gapMs : Rat
  usable : Nat
  dropped : Nat
  tStart : Int
  tEnd : Int
  deriving DecidableEq

structure SparklineOptions where
  width : Rat
  height : Rat
  ceiling : Rat
  padding : Option Rat := none
  gapFactor : Option Rat := none
  minGapMs : Option Rat := none
  maxGapMs : Option Rat := none

/-! ## The points -/

/-- An observation with a time and a value. -/
def RawObservation.point? (item : RawObservation) : Option CleanPoint :=
  match item.time, item.value with
  | some t, .finite v => some ⟨t, v⟩
  | _, _ => none

/-- Of two points at one time the later one is kept. -/
def keepLater (state : List CleanPoint × Nat) (point : CleanPoint) : List CleanPoint × Nat :=
  match state.1.getLast? with
  | none => (state.1 ++ [point], state.2)
  | some previous =>
    if previous.t = point.t then (state.1.dropLast ++ [point], state.2 + 1) else (state.1 ++ [point], state.2)

/-- The order in which the points are sorted. -/
def notAfter (a b : CleanPoint) : Prop := a.t ≤ b.t

instance : DecidableRel notAfter := fun a b => inferInstanceAs (Decidable (a.t ≤ b.t))

/-- `normaliseObservations`: the points, and the number of the observations that are dropped. -/
def normaliseObservations (raw : List RawObservation) : List CleanPoint × Nat :=
  let clean := raw.filterMap RawObservation.point?
  let dropped := raw.countP fun item => item.point?.isNone
  (clean.insertionSort notAfter).foldl keepLater ([], dropped)

/-! ## The gap -/

def medianInterval (points : List CleanPoint) : Rat :=
  let gaps : List Rat := (points.zipWith (fun previous point => (point.t - previous.t : Rat)) points.tail).filter (0 < ·)
  let sorted := gaps.insertionSort (· ≤ ·)
  let middle := sorted.length / 2
  if sorted.isEmpty then 0
  else if sorted.length % 2 = 1 then sorted.getD middle 0
  else (sorted.getD (middle - 1) 0 + sorted.getD middle 0) / 2

def gapThreshold (points : List CleanPoint) (options : SparklineOptions) : Rat :=
  let factor := options.gapFactor.getD 4
  let minimum := options.minGapMs.getD 90000
  let maximum := options.maxGapMs.getD 1800000
  let median := medianInterval points
  if median = 0 then maximum else min maximum (max minimum (median * factor))

/-! ## The plot -/

/-- `Math.round` -/
def round (x : Rat) : Int := ⌊x + 1 / 2⌋

/-- Where a value and a time are plotted. -/
structure Frame where
  width : Int
  height : Int
  padding : Rat
  ceiling : Rat
  tStart : Int
  tEnd : Int

namespace Frame

variable (frame : Frame)

def yOf (value : Rat) : Rat :=
  let usableHeight := max 1 (frame.height - frame.padding * 2)
  let ratio := max 0 (min 1 (value / frame.ceiling))
  frame.height - frame.padding - ratio * usableHeight

def xOf (t : Int) : Rat :=
  let span : Rat := frame.tEnd - frame.tStart
  if span ≤ 0 then (frame.width : Rat) / 2 else (t - frame.tStart : Rat) / span * ((frame.width : Rat) - 1)

def column (t : Int) : Int := round (frame.xOf t)

/-- A bucket of one point. -/
def bucketOf (point : CleanPoint) : SparkBucket where
  x := frame.column point.t
  yMin := frame.yOf point.v
  yMax := frame.yOf point.v
  yLast := frame.yOf point.v
  vMin := point.v
  vMax := point.v
  vLast := point.v
  tFirst := point.t
  tLast := point.t
  count := 1

/-- A bucket with one point more. -/
def extend (existing : SparkBucket) (point : CleanPoint) : SparkBucket :=
  { existing with
    yMin := min existing.yMin (frame.yOf point.v)
    yMax := max existing.yMax (frame.yOf point.v)
    yLast := frame.yOf point.v
    vMin := min existing.vMin point.v
    vMax := max existing.vMax point.v
    vLast := point.v
    tLast := point.t
    count := existing.count + 1 }

def addPoint (byColumn : Dict Int SparkBucket) (point : CleanPoint) : Dict Int SparkBucket :=
  match Dict.get? byColumn (frame.column point.t) with
  | none => Dict.set byColumn (frame.column point.t) (frame.bucketOf point)
  | some existing => Dict.set byColumn (frame.column point.t) (frame.extend existing point)

def bucketsOf (run : List CleanPoint) : List SparkBucket :=
  (Dict.values (run.foldl frame.addPoint [])).insertionSort fun a b => a.x ≤ b.x

end Frame

/-- The path through the buckets. -/
def pathOf (toFixed : Rat → Text) (buckets : List SparkBucket) : Option Text :=
  if 1 < buckets.length then
    some (Text.join " " (buckets.mapIdx fun index bucket =>
      (if index = 0 then "M " else "L ") ++ toFixed bucket.x ++ (" " : Text) ++ toFixed bucket.yLast))
  else none

def segmentOf (toFixed : Rat → Text) (frame : Frame) (run : List CleanPoint) : SparkSegment where
  buckets := frame.bucketsOf run
  path := pathOf toFixed (frame.bucketsOf run)

/-- The runs of points that are close enough in time to join. -/
def runsOf (gapMs : Rat) (points : List CleanPoint) : List (List CleanPoint) :=
  points.splitBy fun previous point => !(gapMs < point.t - previous.t)

/-- `buildSparkline` -/
def buildSparkline (toFixed : Rat → Text) (raw : List RawObservation) (options : SparklineOptions) : SparklineModel :=
  let width := max 1 ⌊options.width⌋
  let height := max 1 ⌊options.height⌋
  let (points, dropped) := normaliseObservations raw
  match points with
  | [] => {
    segments := [], spikes := [], buckets := [], width := width, height := height, gapMs := 0, usable := 0
    dropped := dropped, tStart := 0, tEnd := 0 }
  | first :: rest =>
    let frame : Frame := {
      width := width
      height := height
      padding := options.padding.getD 3
      ceiling := if 0 < options.ceiling then options.ceiling else 1
      tStart := first.t
      tEnd := ((first :: rest).getLast (List.cons_ne_nil _ _)).t }
    let gapMs := gapThreshold points options
    let segments := (runsOf gapMs points).map (segmentOf toFixed frame)
    let buckets := segments.flatMap (·.buckets)
    { segments := segments
      spikes := buckets.filter fun bucket => bucket.vMin ≠ bucket.vMax
      buckets := buckets
      width := width
      height := height
      gapMs := gapMs
      usable := points.length
      dropped := dropped
      tStart := frame.tStart
      tEnd := frame.tEnd }

/-! ## Validation, sorting and duplicates -/

section normalise

variable {raw : List RawObservation}

/-- The observations with a time and a value. -/
def cleanPoints (raw : List RawObservation) : List CleanPoint := raw.filterMap RawObservation.point?

/-- What the loop over the sorted points keeps. -/
structure Deduped (sorted points : List CleanPoint) : Prop where
  increasing : points.Pairwise fun p q => p.t < q.t
  last : points.getLast? = sorted.getLast?
  kept : ∀ p, p ∈ points ↔ (sorted.filter (·.t = p.t)).getLast? = some p

instance : Std.Total notAfter := ⟨fun a b => Int.le_total a.t b.t⟩

instance : IsTrans CleanPoint notAfter := ⟨fun _ _ _ => Int.le_trans⟩

/-- Sorting is stable: it keeps the order of the points of one time. -/
theorem filter_insertionSort (clean : List CleanPoint) (t : Int) :
    (clean.insertionSort notAfter).filter (·.t = t) = clean.filter (·.t = t) := by
  have together : (clean.filter (·.t = t)).Pairwise notAfter := by
    refine List.pairwise_of_forall_mem_list fun a first b second => ?_
    have first : a.t = t := by simpa using (List.mem_filter.mp first).2
    have second : b.t = t := by simpa using (List.mem_filter.mp second).2
    exact (first.trans second.symm).le
  have kept := (List.sublist_insertionSort together List.filter_sublist).filter (·.t = t)
  rw [List.filter_filter] at kept
  simp only [Bool.and_self] at kept
  exact (kept.eq_of_length ((List.perm_insertionSort notAfter clean).filter _).length_eq.symm).symm

theorem getLast?_filter_concat {sorted : List CleanPoint} {point p : CleanPoint} :
    ((sorted ++ [point]).filter (·.t = p.t)).getLast? = some p ↔
      p = point ∨ p.t ≠ point.t ∧ (sorted.filter (·.t = p.t)).getLast? = some p := by
  rw [List.filter_append]
  by_cases same : point.t = p.t
  · rw [List.filter_cons_of_pos (by simpa using same), List.filter_nil, List.getLast?_concat]
    simp [same, eq_comm]
  · rw [List.filter_cons_of_neg (by simpa using same), List.filter_nil, List.append_nil]
    constructor
    · exact fun last => .inr ⟨Ne.symm same, last⟩
    · rintro (rfl | ⟨-, last⟩)
      · exact absurd rfl same
      · exact last

/-- One point more, which is not earlier than those before it. -/
theorem Deduped.keepLater {sorted points : List CleanPoint} {point : CleanPoint} (deduped : Deduped sorted points)
    (latest : ∀ p ∈ points, p.t ≤ point.t) (dropped : Nat) :
    Deduped (sorted ++ [point]) (keepLater (points, dropped) point).1 ∧
      (Sparkline.keepLater (points, dropped) point).1.length + (Sparkline.keepLater (points, dropped) point).2
        = points.length + dropped + 1 := by
  obtain ⟨increasing, last, kept⟩ := deduped
  unfold Sparkline.keepLater
  rcases List.eq_nil_or_concat points with rfl | ⟨earlier, previous, rfl⟩
  · -- the first point
    refine ⟨⟨List.pairwise_singleton _ _, ?_, fun p => ?_⟩, ?_⟩
    · rw [List.getLast?_concat]
      rfl
    · rw [getLast?_filter_concat, ← kept]
      simp
    · simp only [List.getLast?_nil, List.nil_append, List.length_singleton, List.length_nil]
      omega
  · rw [List.concat_eq_append] at *
    obtain ⟨before, -, below⟩ := List.pairwise_append.mp increasing
    have below (p : CleanPoint) (here : p ∈ earlier) : p.t < previous.t := below p here previous (List.mem_singleton_self _)
    have notAfter : previous.t ≤ point.t := latest previous (List.mem_append_right _ (List.mem_singleton_self _))
    simp only [List.getLast?_concat, List.dropLast_concat]
    split
    · next same =>
      refine ⟨⟨?_, by rw [List.getLast?_concat, List.getLast?_concat], fun p => ?_⟩, ?_⟩
      · refine List.pairwise_append.mpr ⟨before, List.pairwise_singleton _ _, fun p here q only => ?_⟩
        rw [List.mem_singleton.mp only, ← same]
        exact below p here
      · rw [getLast?_filter_concat, ← kept, List.mem_append, List.mem_append, List.mem_singleton, List.mem_singleton]
        constructor
        · rintro (here | rfl)
          · exact .inr ⟨by have := below p here; omega, .inl here⟩
          · exact .inl rfl
        · rintro (rfl | ⟨other, here | rfl⟩)
          · exact .inr rfl
          · exact .inl here
          · exact absurd same other
      · simp only [List.length_append, List.length_singleton]
        omega
    · next other =>
      have later : previous.t < point.t := by omega
      refine ⟨⟨?_, by rw [List.getLast?_concat, List.getLast?_concat], fun p => ?_⟩, ?_⟩
      · refine List.pairwise_append.mpr ⟨increasing, List.pairwise_singleton _ _, fun p here q only => ?_⟩
        rw [List.mem_singleton.mp only]
        rcases List.mem_append.mp here with here | here
        · exact (below p here).trans later
        · rwa [List.mem_singleton.mp here]
      · rw [getLast?_filter_concat, ← kept, List.mem_append (t := [point]), List.mem_singleton]
        constructor
        · rintro (here | rfl)
          · refine .inr ⟨?_, here⟩
            rcases List.mem_append.mp here with here | here
            · have := below p here
              omega
            · rw [List.mem_singleton.mp here]
              exact other
          · exact .inl rfl
        · rintro (rfl | ⟨-, here⟩)
          · exact .inr rfl
          · exact .inl here
      · simp only [List.length_append, List.length_singleton]
        omega

/-- **Duplicates**: of the points of one time the last one is kept, and the others are counted. -/
theorem foldl_keepLater {sorted : List CleanPoint} (ordered : sorted.Pairwise fun p q => p.t ≤ q.t) (dropped : Nat) :
    Deduped sorted (sorted.foldl keepLater ([], dropped)).1 ∧
      (sorted.foldl keepLater ([], dropped)).1.length + (sorted.foldl keepLater ([], dropped)).2 = sorted.length + dropped := by
  induction sorted using List.reverseRecOn with
  | nil => exact ⟨⟨.nil, rfl, by simp⟩, rfl⟩
  | append_singleton sorted point ih =>
    obtain ⟨earlier, -, later⟩ := List.pairwise_append.mp ordered
    obtain ⟨deduped, count⟩ := ih earlier
    have latest (p : CleanPoint) (here : p ∈ (sorted.foldl keepLater ([], dropped)).1) : p.t ≤ point.t := by
      have listed := List.mem_of_mem_filter (List.mem_of_getLast? ((deduped.kept p).mp here))
      exact later p listed point (List.mem_singleton_self _)
    rw [List.foldl_append, List.foldl_cons, List.foldl_nil, List.length_append, List.length_singleton]
    obtain ⟨extended, counted⟩ := deduped.keepLater latest (sorted.foldl keepLater ([], dropped)).2
    refine ⟨extended, counted.trans ?_⟩
    omega

theorem length_cleanPoints (raw : List RawObservation) :
    (cleanPoints raw).length + (raw.countP fun item => item.point?.isNone) = raw.length := by
  induction raw with
  | nil => rfl
  | cons item raw ih =>
    rw [cleanPoints] at ih ⊢
    rw [List.length_cons, ← ih]
    cases usable : item.point? with
    | none =>
      rw [List.filterMap_cons_none usable, List.countP_cons_of_pos (by rw [usable]; rfl)]
      omega
    | some point =>
      rw [List.filterMap_cons_some usable, List.countP_cons_of_neg (by rw [usable]; simp), List.length_cons]
      omega

/-- **Validation**: the points are in the order of time, the last usable observation of each time, and every other
observation is counted. -/
theorem normaliseObservations_spec (raw : List RawObservation) :
    ((normaliseObservations raw).1.Pairwise fun p q => p.t < q.t) ∧
      (∀ p, p ∈ (normaliseObservations raw).1 ↔ ((cleanPoints raw).filter (·.t = p.t)).getLast? = some p) ∧
      (normaliseObservations raw).1.length + (normaliseObservations raw).2 = raw.length := by
  have sorted := List.pairwise_insertionSort notAfter (cleanPoints raw)
  obtain ⟨deduped, counted⟩ := foldl_keepLater sorted (raw.countP fun item => item.point?.isNone)
  refine ⟨deduped.increasing, fun p => (deduped.kept p).trans ?_, counted.trans ?_⟩
  · rw [filter_insertionSort]
  · rw [List.length_insertionSort]
    exact length_cleanPoints raw

/-- Observations of distinct times may come in any order. -/
theorem normaliseObservations_perm {raw raw' : List RawObservation} (perm : raw.Perm raw')
    (distinct : ((cleanPoints raw).map (·.t)).Nodup) : normaliseObservations raw' = normaliseObservations raw := by
  have clean : (cleanPoints raw).Perm (cleanPoints raw') := perm.filterMap _
  have increasing {points : List CleanPoint} (nodup : (points.map (·.t)).Nodup) :
      (points.insertionSort notAfter).Pairwise fun p q => p.t < q.t := by
    have apart : ((points.insertionSort notAfter).map (·.t)).Nodup :=
      (((List.perm_insertionSort notAfter points).map _).nodup_iff).mpr nodup
    have apart := List.pairwise_map.mp apart
    exact (List.pairwise_insertionSort notAfter points).imp₂ (fun _ _ le ne => lt_of_le_of_ne le ne) apart
  have here := increasing distinct
  have there := increasing ((clean.map (·.t)).nodup_iff.mp distinct)
  have same : (cleanPoints raw').insertionSort notAfter = (cleanPoints raw).insertionSort notAfter := by
    refine List.Perm.eq_of_pairwise ?_ there here ?_
    · intro p q _ _ before after
      omega
    · exact (List.perm_insertionSort _ _).trans (clean.symm.trans (List.perm_insertionSort _ _).symm)
  rw [cleanPoints, cleanPoints] at same
  rw [normaliseObservations, normaliseObservations, same, perm.countP_eq]

end normalise

/-! ## Columns -/

namespace Frame

variable {frame : Frame}

/-- Later times are plotted no further to the left. -/
theorem column_mono (wide : 1 ≤ frame.width) {s t : Int} (le : s ≤ t) : frame.column s ≤ frame.column t := by
  have plotted : frame.xOf s ≤ frame.xOf t := by
    rw [xOf, xOf]
    split
    · exact le_rfl
    · next span =>
      have wide : (0 : Rat) ≤ frame.width - 1 := by
        have : (1 : Rat) ≤ frame.width := by exact_mod_cast wide
        linarith
      have le : (s : Rat) ≤ t := by exact_mod_cast le
      have span : (0 : Rat) ≤ frame.tEnd - frame.tStart := (not_le.mp span).le
      gcongr
  exact Int.floor_le_floor (by linarith)

/-- The times from the first to the last are plotted inside the width. -/
theorem column_mem {t : Int} (wide : 1 ≤ frame.width) (first : frame.tStart ≤ t) (last : t ≤ frame.tEnd) :
    0 ≤ frame.column t ∧ frame.column t ≤ frame.width := by
  have wide : (1 : Rat) ≤ frame.width := by exact_mod_cast wide
  have plotted : 0 ≤ frame.xOf t ∧ frame.xOf t ≤ frame.width - 1 / 2 := by
    rw [xOf]
    split
    · constructor <;> linarith
    · next span =>
      have span : (0 : Rat) < frame.tEnd - frame.tStart := not_le.mp span
      have first : (frame.tStart : Rat) ≤ t := by exact_mod_cast first
      have last : (t : Rat) ≤ frame.tEnd := by exact_mod_cast last
      have ratio : 0 ≤ (t - frame.tStart : Rat) / (frame.tEnd - frame.tStart) := div_nonneg (by linarith) span.le
      have ratio' : (t - frame.tStart : Rat) / (frame.tEnd - frame.tStart) ≤ 1 := (div_le_one span).mpr (by linarith)
      constructor
      · exact mul_nonneg ratio (by linarith)
      · nlinarith
  constructor
  · exact Int.floor_nonneg.mpr (by linarith [plotted.1])
  · have := Int.floor_le (frame.xOf t + 1 / 2)
    have : ((frame.column t : Int) : Rat) ≤ frame.width := by
      rw [column, round]
      linarith [plotted.2]
    exact_mod_cast this

/-! ## Buckets -/

end Frame

/-- The values of some points. -/
def values (points : List CleanPoint) : Set Rat := {v | ∃ p ∈ points, p.v = v}

/-- A bucket counts its points and keeps their first and last times, their last value and their extremes. -/
structure Reduces (bucket : SparkBucket) (part : List CleanPoint) : Prop where
  count : bucket.count = part.length
  first : part.head?.map (·.t) = some bucket.tFirst
  last : part.getLast?.map (·.t) = some bucket.tLast
  lastValue : part.getLast?.map (·.v) = some bucket.vLast
  least : IsLeast (values part) bucket.vMin
  greatest : IsGreatest (values part) bucket.vMax

theorem values_singleton (point : CleanPoint) : values [point] = {point.v} := by
  ext v
  simp [values, eq_comm]

theorem values_concat {part : List CleanPoint} {point : CleanPoint} :
    values (part ++ [point]) = insert point.v (values part) := by
  ext v
  simp only [values, List.mem_append, List.mem_singleton, Set.mem_ofPred_eq, Set.mem_insert_iff]
  constructor
  · rintro ⟨p, here | rfl, value⟩
    · exact .inr ⟨p, here, value⟩
    · exact .inl value.symm
  · rintro (rfl | ⟨p, here, value⟩)
    · exact ⟨point, .inr rfl, rfl⟩
    · exact ⟨p, .inl here, value⟩

namespace Frame

variable {frame : Frame}

theorem reduces_bucketOf (point : CleanPoint) : Reduces (frame.bucketOf point) [point] where
  count := rfl
  first := rfl
  last := rfl
  lastValue := rfl
  least := by
    rw [values_singleton]
    exact isLeast_singleton
  greatest := by
    rw [values_singleton]
    exact isGreatest_singleton

theorem reduces_extend {bucket : SparkBucket} {part : List CleanPoint} (reduces : Reduces bucket part)
    (point : CleanPoint) : Reduces (frame.extend bucket point) (part ++ [point]) where
  count := by
    rw [List.length_append, List.length_singleton, ← reduces.count]
    rfl
  first := by
    have := reduces.first
    cases part with
    | nil => cases this
    | cons p part => exact this
  last := by
    rw [List.getLast?_concat]
    rfl
  lastValue := by
    rw [List.getLast?_concat]
    rfl
  least := by
    have least : (frame.extend bucket point).vMin = min point.v bucket.vMin := min_comm _ _
    rw [values_concat, least]
    exact reduces.least.insert _
  greatest := by
    have greatest : (frame.extend bucket point).vMax = max point.v bucket.vMax := max_comm _ _
    rw [values_concat, greatest]
    exact reduces.greatest.insert _

/-- The buckets of a run, each with its points: they part the run, and their columns increase. -/
structure Ledger (frame : Frame) (run : List CleanPoint) (parts : List (SparkBucket × List CleanPoint)) : Prop where
  points : parts.flatMap (·.2) = run
  reduced : ∀ q ∈ parts, Reduces q.1 q.2
  columns : ∀ q ∈ parts, ∀ p ∈ q.2, frame.column p.t = q.1.x
  increasing : parts.Pairwise fun q r => q.1.x < r.1.x

/-- What the loop over a run holds for a ledger. -/
def entries (parts : List (SparkBucket × List CleanPoint)) : Dict Int SparkBucket := parts.map fun q => (q.1.x, q.1)

theorem keys_entries (parts : List (SparkBucket × List CleanPoint)) : Dict.keys (entries parts) = parts.map (·.1.x) := by
  rw [entries, Dict.keys, List.map_map]
  rfl

theorem entries_concat (parts : List (SparkBucket × List CleanPoint)) (q : SparkBucket × List CleanPoint) :
    entries (parts ++ [q]) = entries parts ++ [(q.1.x, q.1)] := List.map_append

/-- A point that is not left of the others is put into the last bucket, or into one of its own behind it. -/
theorem Ledger.addPoint {run : List CleanPoint} {parts : List (SparkBucket × List CleanPoint)} {point : CleanPoint}
    (ledger : Ledger frame run parts) (rightmost : ∀ p ∈ run, frame.column p.t ≤ frame.column point.t) :
    ∃ parts', frame.addPoint (entries parts) point = entries parts' ∧ Ledger frame (run ++ [point]) parts' := by
  have left (q : SparkBucket × List CleanPoint) (here : q ∈ parts) : q.1.x ≤ frame.column point.t := by
    obtain ⟨p, inPart, -⟩ := (ledger.reduced q here).least.1
    rw [← ledger.columns q here p inPart]
    refine rightmost p ?_
    rw [← ledger.points]
    exact List.mem_flatMap.mpr ⟨q, here, inPart⟩
  by_cases known : frame.column point.t ∈ Dict.keys (entries parts)
  · -- the column of the last bucket
    rw [keys_entries, List.mem_map] at known
    obtain ⟨⟨bucket, part⟩, here, column⟩ := known
    have column : frame.column point.t = bucket.x := column.symm
    obtain ⟨earlier, later, rfl⟩ := List.append_of_mem here
    obtain ⟨beforeEarlier, beforeLater, between⟩ := List.pairwise_append.mp ledger.increasing
    have below (q : SparkBucket × List CleanPoint) (early : q ∈ earlier) : q.1.x < bucket.x :=
      between q early _ List.mem_cons_self
    have final : later = [] := by
      refine List.eq_nil_iff_forall_not_mem.mpr fun q late => ?_
      have above : bucket.x < q.1.x := (List.pairwise_cons.mp beforeLater).1 q late
      have := left q (List.mem_append_right _ (List.mem_cons_of_mem _ late))
      omega
    subst final
    have fresh : bucket.x ∉ Dict.keys (entries earlier) := by
      rw [keys_entries]
      intro early
      obtain ⟨q, early, same⟩ := List.mem_map.mp early
      exact (below q early).ne same
    have found : Dict.get? (entries (earlier ++ [(bucket, part)])) bucket.x = some bucket := by
      refine Dict.get?_of_mem ?_ ?_
      · rw [keys_entries]
        exact List.pairwise_map.mpr (ledger.increasing.imp ne_of_lt)
      · rw [entries_concat]
        exact List.mem_append_right _ (List.mem_singleton_self _)
    refine ⟨earlier ++ [(frame.extend bucket point, part ++ [point])], ?_, ?_, fun q member => ?_, fun q member => ?_, ?_⟩
    · rw [Frame.addPoint, column, found]
      dsimp only
      rw [entries_concat, entries_concat, Dict.set_append_cons fresh]
      rfl
    · rw [← ledger.points, List.flatMap_append, List.flatMap_append, List.append_assoc]
      simp
    · rcases List.mem_append.mp member with early | only
      · exact ledger.reduced q (List.mem_append_left _ early)
      · rw [List.mem_singleton.mp only]
        exact reduces_extend (ledger.reduced _ here) point
    · rcases List.mem_append.mp member with early | only
      · exact ledger.columns q (List.mem_append_left _ early)
      · rw [List.mem_singleton.mp only]
        intro p inPart
        rcases List.mem_append.mp inPart with inPart | last
        · exact ledger.columns _ here p inPart
        · rw [List.mem_singleton.mp last]
          exact column
    · refine List.pairwise_append.mpr ⟨beforeEarlier, List.pairwise_singleton _ _, fun q early r only => ?_⟩
      rw [List.mem_singleton.mp only]
      exact below q early
  · -- a column of its own
    have missing : Dict.get? (entries parts) (frame.column point.t) = none := by
      rw [← Option.not_isSome_iff_eq_none, Dict.get?_isSome_iff]
      exact known
    refine ⟨parts ++ [(frame.bucketOf point, [point])], ?_, ?_, fun q member => ?_, fun q member => ?_, ?_⟩
    · rw [Frame.addPoint, missing]
      dsimp only
      rw [Dict.set_of_not_mem known, entries_concat]
      rfl
    · rw [List.flatMap_append, ledger.points]
      simp
    · rcases List.mem_append.mp member with here | only
      · exact ledger.reduced q here
      · rw [List.mem_singleton.mp only]
        exact reduces_bucketOf point
    · rcases List.mem_append.mp member with here | only
      · exact ledger.columns q here
      · rw [List.mem_singleton.mp only]
        intro p last
        rw [List.mem_singleton.mp last]
        rfl
    · refine List.pairwise_append.mpr ⟨ledger.increasing, List.pairwise_singleton _ _, fun q here r only => ?_⟩
      rw [List.mem_singleton.mp only]
      refine lt_of_le_of_ne (left q here) fun same => known ?_
      have same : q.1.x = frame.column point.t := same
      rw [keys_entries, ← same]
      exact List.mem_map_of_mem here

/-- **Buckets** of a run in the order of time. -/
theorem exists_ledger (wide : 1 ≤ frame.width) {run : List CleanPoint} (increasing : run.Pairwise fun p q => p.t < q.t) :
    ∃ parts, frame.bucketsOf run = parts.map (·.1) ∧ Ledger frame run parts := by
  have looped : ∃ parts, run.foldl frame.addPoint [] = entries parts ∧ Ledger frame run parts := by
    induction run using List.reverseRecOn with
    | nil => exact ⟨[], rfl, rfl, by simp, by simp, .nil⟩
    | append_singleton run point ih =>
      obtain ⟨earlier, -, later⟩ := List.pairwise_append.mp increasing
      obtain ⟨parts, held, ledger⟩ := ih earlier
      rw [List.foldl_append, List.foldl_cons, List.foldl_nil, held]
      exact ledger.addPoint fun p here => column_mono wide (later p here point (List.mem_singleton_self _)).le
  obtain ⟨parts, held, ledger⟩ := looped
  have stored : Dict.values (entries parts) = parts.map (·.1) := by
    rw [entries, Dict.values, List.map_map]
    rfl
  -- the sort finds the buckets in order
  have columns : (parts.map (·.1)).Pairwise fun b c => b.x ≤ c.x :=
    List.pairwise_map.mpr (ledger.increasing.imp fun less => less.le)
  refine ⟨parts, ?_, ledger⟩
  rw [bucketsOf, held, stored]
  exact columns.insertionSort_eq

end Frame

/-! ## Segments -/

/-- The least of the least values of some sets is the least value of all. -/
theorem isLeast_iUnion {ι α : Type} [PartialOrder α] {S : ι → Set α} {m : ι → α} {v : α}
    (least : ∀ i, IsLeast (S i) (m i)) : IsLeast (⋃ i, S i) v ↔ IsLeast (Set.range m) v := by
  constructor
  · rintro ⟨member, bound⟩
    obtain ⟨i, inside⟩ := Set.mem_iUnion.mp member
    have same : m i = v := le_antisymm ((least i).2 inside) (bound (Set.mem_iUnion.mpr ⟨i, (least i).1⟩))
    refine ⟨⟨i, same⟩, ?_⟩
    rintro w ⟨j, rfl⟩
    exact bound (Set.mem_iUnion.mpr ⟨j, (least j).1⟩)
  · rintro ⟨⟨i, rfl⟩, bound⟩
    refine ⟨Set.mem_iUnion.mpr ⟨i, (least i).1⟩, ?_⟩
    intro w member
    obtain ⟨j, inside⟩ := Set.mem_iUnion.mp member
    exact (bound ⟨j, rfl⟩).trans ((least j).2 inside)

/-- A segment shows a run: its buckets part the points, from left to right, and the extremes of the run are those of
the buckets. -/
structure Summarises (segment : SparkSegment) (run : List CleanPoint) : Prop where
  parts : ∃ parts : List (SparkBucket × List CleanPoint),
    segment.buckets = parts.map (·.1) ∧ parts.flatMap (·.2) = run ∧ ∀ q ∈ parts, Reduces q.1 q.2
  increasing : segment.buckets.Pairwise fun b c => b.x < c.x
  least : ∀ v, IsLeast (values run) v ↔ IsLeast {w | ∃ b ∈ segment.buckets, b.vMin = w} v
  greatest : ∀ v, IsGreatest (values run) v ↔ IsGreatest {w | ∃ b ∈ segment.buckets, b.vMax = w} v

theorem values_flatMap (parts : List (SparkBucket × List CleanPoint)) :
    values (parts.flatMap (·.2)) = ⋃ q : {q // q ∈ parts}, values q.1.2 := by
  ext v
  simp only [values, List.mem_flatMap, Set.mem_iUnion, Set.mem_ofPred_eq, Subtype.exists, exists_prop]
  constructor
  · rintro ⟨p, ⟨q, member, here⟩, value⟩
    exact ⟨q, member, p, here, value⟩
  · rintro ⟨q, member, p, here, value⟩
    exact ⟨p, ⟨q, member, here⟩, value⟩

theorem range_kept (parts : List (SparkBucket × List CleanPoint)) (f : SparkBucket → Rat) :
    {w | ∃ b ∈ parts.map (·.1), f b = w} = Set.range fun q : {q // q ∈ parts} => f q.1.1 := by
  ext w
  simp [eq_comm]

theorem summarises_segmentOf {frame : Frame} (toFixed : Rat → Text) (wide : 1 ≤ frame.width) {run : List CleanPoint}
    (increasing : run.Pairwise fun p q => p.t < q.t) : Summarises (segmentOf toFixed frame run) run := by
  obtain ⟨parts, buckets, ledger⟩ := frame.exists_ledger wide increasing
  have buckets : (segmentOf toFixed frame run).buckets = parts.map (·.1) := buckets
  refine ⟨⟨parts, buckets, ledger.points, ledger.reduced⟩, ?_, fun v => ?_, fun v => ?_⟩
  · rw [buckets]
    exact List.pairwise_map.mpr ledger.increasing
  · rw [buckets, range_kept, ← ledger.points, values_flatMap]
    exact isLeast_iUnion fun q => (ledger.reduced q.1 q.2).least
  · rw [buckets, range_kept, ← ledger.points, values_flatMap]
    exact @isLeast_iUnion _ Ratᵒᵈ _ _ _ v fun q => (ledger.reduced q.1 q.2).greatest

theorem Frame.exists_mem_of_bucketsOf {frame : Frame} (wide : 1 ≤ frame.width) {run : List CleanPoint}
    (increasing : run.Pairwise fun p q => p.t < q.t) {bucket : SparkBucket} (here : bucket ∈ frame.bucketsOf run) :
    ∃ p ∈ run, frame.column p.t = bucket.x := by
  obtain ⟨parts, buckets, ledger⟩ := frame.exists_ledger wide increasing
  rw [buckets] at here
  obtain ⟨q, member, rfl⟩ := List.mem_map.mp here
  obtain ⟨p, inPart, -⟩ := (ledger.reduced q member).least.1
  refine ⟨p, ?_, ledger.columns q member p inPart⟩
  rw [← ledger.points]
  exact List.mem_flatMap.mpr ⟨q, member, inPart⟩

/-- The counts of a segment add up to its points. -/
theorem Summarises.sum_count {segment : SparkSegment} {run : List CleanPoint} (summarises : Summarises segment run) :
    (segment.buckets.map (·.count)).sum = run.length := by
  obtain ⟨parts, buckets, points, reduced⟩ := summarises.parts
  rw [buckets, ← points, List.length_flatMap, List.map_map]
  exact congrArg List.sum (List.map_congr_left fun q here => (reduced q here).count)

theorem runsOf_spec (gapMs : Rat) (points : List CleanPoint) :
    (runsOf gapMs points).flatten = points ∧
      (∀ run ∈ runsOf gapMs points, run ≠ [] ∧ run.IsChain fun p q => (q.t - p.t : Rat) ≤ gapMs) ∧
      (runsOf gapMs points).IsChain fun before after =>
        ∃ p q, before.getLast? = some p ∧ after.head? = some q ∧ gapMs < (q.t - p.t : Rat) := by
  refine ⟨List.flatten_splitBy _ _, fun run here => ⟨List.ne_nil_of_mem_splitBy here, ?_⟩, ?_⟩
  · refine (List.isChain_of_mem_splitBy here).imp fun p q joined => ?_
    simpa using joined
  · refine (List.isChain_getLast_head_splitBy _ points).imp fun before after apart => ?_
    obtain ⟨some', some'', far⟩ := apart
    exact ⟨_, _, List.getLast?_eq_getLast_of_ne_nil some', List.head?_eq_some_head some'', by simpa using far⟩

/-! ## The model -/

/-- The samples are parted into runs at the gaps, and each segment shows a run. -/
structure Parted (raw : List RawObservation) (model : SparklineModel) (runs : List (List CleanPoint)) : Prop where
  increasing : runs.flatten.Pairwise fun p q => p.t < q.t
  points : ∀ p, p ∈ runs.flatten ↔ ((cleanPoints raw).filter (·.t = p.t)).getLast? = some p
  usable : model.usable = runs.flatten.length
  joined : ∀ run ∈ runs, run ≠ [] ∧ run.IsChain fun p q => (q.t - p.t : Rat) ≤ model.gapMs
  split : runs.IsChain fun before after =>
    ∃ p q, before.getLast? = some p ∧ after.head? = some q ∧ model.gapMs < (q.t - p.t : Rat)
  shown : List.Forall₂ Summarises model.segments runs

/-- What a sparkline conserves of the observations. -/
structure Conserves (raw : List RawObservation) (model : SparklineModel) : Prop where
  parted : ∃ runs, Parted raw model runs
  total : model.usable + model.dropped = raw.length
  counts : (model.buckets.map (·.count)).sum = model.usable
  listed : model.buckets = model.segments.flatMap (·.buckets)
  ordered : model.buckets.Pairwise fun b c => b.x ≤ c.x
  inside : ∀ b ∈ model.buckets, 0 ≤ b.x ∧ b.x ≤ model.width

/-- Every time is between the first and the last one. -/
theorem between_ends {first : CleanPoint} {rest : List CleanPoint}
    (increasing : (first :: rest).Pairwise fun p q => p.t < q.t) {p : CleanPoint} (here : p ∈ first :: rest) :
    first.t ≤ p.t ∧ p.t ≤ ((first :: rest).getLast (List.cons_ne_nil _ _)).t := by
  constructor
  · rcases List.mem_cons.mp here with rfl | later
    · exact le_rfl
    · exact ((List.pairwise_cons.mp increasing).1 p later).le
  · rw [← List.dropLast_concat_getLast (List.cons_ne_nil first rest)] at increasing here
    rcases List.mem_append.mp here with earlier | last
    · exact ((List.pairwise_append.mp increasing).2.2 p earlier _ (List.mem_singleton_self _)).le
    · rw [← List.mem_singleton.mp last]

theorem buildSparkline_conserves (toFixed : Rat → Text) (raw : List RawObservation) (options : SparklineOptions) :
    Conserves raw (buildSparkline toFixed raw options) := by
  obtain ⟨increasing, kept, counted⟩ := normaliseObservations_spec raw
  rw [buildSparkline]
  rcases loaded : normaliseObservations raw with ⟨points, dropped⟩
  rw [loaded] at increasing counted
  simp only [loaded] at kept
  dsimp only at increasing counted ⊢
  cases points with
  | nil => exact ⟨⟨[], .nil, kept, rfl, by simp, .nil, .nil⟩, counted, rfl, rfl, .nil, by simp⟩
  | cons first rest =>
    dsimp only
    set points := first :: rest
    set gapMs := gapThreshold points options
    set frame : Frame := ⟨max 1 ⌊options.width⌋, max 1 ⌊options.height⌋, options.padding.getD 3,
      if 0 < options.ceiling then options.ceiling else 1, first.t, (points.getLast (List.cons_ne_nil _ _)).t⟩
    have wide : 1 ≤ frame.width := le_max_left 1 _
    obtain ⟨flat, joined, split⟩ := runsOf_spec gapMs points
    -- the runs, too, are in the order of time
    rw [← flat] at increasing
    obtain ⟨within, between⟩ := List.pairwise_flatten.mp increasing
    have shown (run : List CleanPoint) (here : run ∈ runsOf gapMs points) : Summarises (segmentOf toFixed frame run) run :=
      summarises_segmentOf toFixed wide (within run here)
    have plotted (run : List CleanPoint) (here : run ∈ runsOf gapMs points) (b : SparkBucket)
        (listed : b ∈ (segmentOf toFixed frame run).buckets) : ∃ p ∈ run, frame.column p.t = b.x :=
      Frame.exists_mem_of_bucketsOf wide (within run here) listed
    refine ⟨⟨runsOf gapMs points, increasing, ?_, ?_, joined, split, ?_⟩, counted, ?_, rfl, ?_, ?_⟩
    · rw [flat]
      exact kept
    · rw [flat]
    · rw [List.forall₂_map_left_iff]
      exact List.forall₂_same.mpr shown
    · refine Eq.trans ?_ (congrArg List.length flat)
      rw [List.flatMap_map, List.map_flatMap, List.flatMap_def, List.sum_flatten, List.map_map, List.length_flatten]
      exact congrArg List.sum (List.map_congr_left fun run here => (shown run here).sum_count)
    · rw [List.flatMap_map]
      refine List.pairwise_flatMap.mpr ⟨fun run here => (shown run here).increasing.imp fun less => less.le, ?_⟩
      refine between.imp_of_mem fun {run run'} here there earlier b listed c listed' => ?_
      obtain ⟨p, inRun, left⟩ := plotted run here b listed
      obtain ⟨q, inRun', right⟩ := plotted run' there c listed'
      rw [← left, ← right]
      exact Frame.column_mono wide (earlier p inRun q inRun').le
    · intro b listed
      rw [List.flatMap_map] at listed
      obtain ⟨run, here, listed⟩ := List.mem_flatMap.mp listed
      obtain ⟨p, inRun, column⟩ := plotted run here b listed
      rw [← column]
      rw [flat] at increasing
      have known : p ∈ points := by
        rw [← flat]
        exact List.mem_flatten.mpr ⟨run, here, inRun⟩
      obtain ⟨after, before⟩ := between_ends increasing known
      exact Frame.column_mem wide after before

/-- **Conservation**: the sparkline keeps the samples, their order, their gaps and their extremes, whatever the
settings are, and the order of observations of distinct times does not matter. -/
theorem buildSparkline_sound (toFixed : Rat → Text) (raw : List RawObservation) (options : SparklineOptions) :
    Conserves raw (buildSparkline toFixed raw options) ∧
      ∀ raw', raw.Perm raw' → ((cleanPoints raw).map (·.t)).Nodup →
        buildSparkline toFixed raw' options = buildSparkline toFixed raw options := by
  refine ⟨buildSparkline_conserves toFixed raw options, fun raw' perm distinct => ?_⟩
  rw [buildSparkline, buildSparkline, normaliseObservations_perm perm distinct]

end SwitchOps.Sparkline
