import Mathlib.Data.Sym.Sym2
import SwitchOps.Lab.GraphIds
import SwitchOps.Lib.Reorder

/-!
# Cables and physical edges

A cable joins two ports, and is reported from one of its ends or from both. An edge is keyed by its two devices, the
near port, and the far port as the report spells it. So the two reports of a cable share an edge only if both ports
are named alike, and a cable that is reported from both ends has two edges otherwise. `cabling_exact` counts the edges
of every cable.
-/

namespace SwitchOps

/-! ## Ends and cables -/

/-- A port of a device; the port is unknown where a report leaves it out. -/
abbrev CableEnd := Text × Option Text

/-- The ends that an edge joins, in no order. -/
def LabEdge.cable (edge : LabEdge) : Sym2 CableEnd :=
  s((edge.fromNodeId, edge.fromInterface), (edge.toNodeId, edge.toInterface))

namespace PendingEdge

def near (report : PendingEdge) : CableEnd := (report.source, some report.localPort)

def far (report : PendingEdge) : CableEnd := (report.target, (given report.remotePort).map shortName)

def ends (report : PendingEdge) : List CableEnd := [report.near, report.far]

def cable (report : PendingEdge) : Sym2 CableEnd := s(report.near, report.far)

/-- The far port, as it is spelled. -/
def spelled (report : PendingEdge) : Text := report.remotePort.getD []

/-- Two reports of opposite directions name the same ports, so that they have one key. -/
def Mirrored (report other : PendingEdge) : Prop :=
  report.source = other.target ∧ report.target = other.source ∧ report.localPort = other.localPort ∧
    readPart report.spelled = readPart other.spelled

instance (report other : PendingEdge) : Decidable (report.Mirrored other) :=
  inferInstanceAs (Decidable (_ ∧ _ ∧ _ ∧ _))

theorem cable_physical [Digest] (pending : List PendingEdge) (report : PendingEdge) :
    (report.physical pending).cable = report.cable := rfl

/-- The report that the other end makes of the cable. -/
def Returns (report other : PendingEdge) : Prop := other.near = report.far ∧ other.far = report.near

instance (report other : PendingEdge) : Decidable (report.Returns other) :=
  inferInstanceAs (Decidable (_ ∧ _))

theorem cable_eq_of_returns {report other : PendingEdge} (h : report.Returns other) : other.cable = report.cable := by
  rw [cable, cable, h.1, h.2]
  exact Sym2.eq_swap

end PendingEdge

open PendingEdge

section cables

variable [Digest] {observations : List ParsedObservation}

/-- The neighbour tables report a cabling: every port has at most one cable, the far ports are told, and what names
devices and ports differs in more than case. -/
structure CabledLab (observations : List ParsedObservation) : Prop where
  told : ∀ report ∈ pendingEdges observations, (given report.remotePort).isSome
  /-- A port has one neighbour. -/
  once : ∀ report ∈ pendingEdges observations, ∀ other ∈ pendingEdges observations, report.near = other.near →
    report = other
  plugged : ∀ report ∈ pendingEdges observations, ∀ other ∈ pendingEdges observations, ∀ end_ ∈ report.ends,
    end_ ∈ other.ends → report.cable = other.cable
  noLoop : ∀ report ∈ pendingEdges observations, report.source ≠ report.target
  /-- The short names of the near ports are short. -/
  short : ∀ report ∈ pendingEdges observations, shortName report.localPort = report.localPort
  devices : ∀ report ∈ pendingEdges observations, ∀ other ∈ pendingEdges observations,
    ∀ id ∈ [report.source, report.target], ∀ id' ∈ [other.source, other.target], readPart id = readPart id' → id = id'
  ports : ∀ report ∈ pendingEdges observations, ∀ other ∈ pendingEdges observations,
    readPart report.localPort = readPart other.localPort → report.localPort = other.localPort
  /-- Ids and near ports are free of what separates the parts of a key. -/
  unbarred : ∀ report ∈ pendingEdges observations, ∀ part ∈ [report.source, report.target, report.localPort],
    '|' ∉ readPart part
  tokens : TokensApart observations

/-! ## Keys -/

omit [Digest] in
/-- Two ids, sorted. -/
theorem sorted_pair (a b : Text) : [a, b].insertionSort (Text.le · ·) = if Text.le a b then [a, b] else [b, a] := by
  simp [List.insertionSort, List.orderedInsert]

omit [Digest] in
theorem sorted_pair_swap (a b : Text) :
    [a, b].insertionSort (Text.le · ·) = [b, a].insertionSort (Text.le · ·) :=
  List.Perm.insertionSort_eq (List.Perm.swap b a []) fun _ _ _ _ => Text.le_antisymm

omit [Digest] in
/-- The parts of a key, but for the order of the two ids. -/
theorem exists_reading_key (report : PendingEdge) : ∃ a b,
    (a = report.source ∧ b = report.target ∨ a = report.target ∧ b = report.source) ∧
      reading report.key = readPart a ++ '|' :: (readPart b ++ '|' ::
        (readPart report.localPort ++ '|' :: readPart report.spelled)) := by
  rw [PendingEdge.key, sorted_pair]
  split
  · exact ⟨_, _, .inl ⟨rfl, rfl⟩, by
      simp only [List.cons_append, List.nil_append, reading_cons_cons, reading_singleton, PendingEdge.spelled]⟩
  · exact ⟨_, _, .inr ⟨rfl, rfl⟩, by
      simp only [List.cons_append, List.nil_append, reading_cons_cons, reading_singleton, PendingEdge.spelled]⟩

namespace CabledLab

variable (lab : CabledLab observations) {report other : PendingEdge}
include lab

/-- What two reports of one key have in common. -/
theorem parts_of_reading (here : report ∈ pendingEdges observations) (there : other ∈ pendingEdges observations)
    (same : reading report.key = reading other.key) :
    (report.source = other.source ∧ report.target = other.target ∨
        report.source = other.target ∧ report.target = other.source) ∧
      report.localPort = other.localPort ∧ readPart report.spelled = readPart other.spelled := by
  obtain ⟨a, b, ends, read⟩ := exists_reading_key report
  obtain ⟨a', b', ends', read'⟩ := exists_reading_key other
  have known : a ∈ [report.source, report.target] ∧ b ∈ [report.source, report.target] := by
    obtain ⟨rfl, rfl⟩ | ⟨rfl, rfl⟩ := ends <;> simp
  have known' : a' ∈ [other.source, other.target] ∧ b' ∈ [other.source, other.target] := by
    obtain ⟨rfl, rfl⟩ | ⟨rfl, rfl⟩ := ends' <;> simp
  have bar : ∀ id ∈ [report.source, report.target], '|' ∉ readPart id := fun id mem =>
    lab.unbarred report here id (List.mem_append_left [report.localPort] mem)
  have bar' : ∀ id ∈ [other.source, other.target], '|' ∉ readPart id := fun id mem =>
    lab.unbarred other there id (List.mem_append_left [other.localPort] mem)
  rw [read, read'] at same
  obtain ⟨first, same⟩ := Text.append_cons_inj (bar a known.1) (bar' a' known'.1) same
  obtain ⟨second, same⟩ := Text.append_cons_inj (bar b known.2) (bar' b' known'.2) same
  obtain ⟨near, far⟩ := Text.append_cons_inj (lab.unbarred report here _ (by simp))
    (lab.unbarred other there _ (by simp)) same
  have first := lab.devices report here other there a known.1 a' known'.1 first
  have second := lab.devices report here other there b known.2 b' known'.2 second
  refine ⟨?_, lab.ports report here other there near, far⟩
  obtain ⟨rfl, rfl⟩ | ⟨rfl, rfl⟩ := ends <;> obtain ⟨rfl, rfl⟩ | ⟨rfl, rfl⟩ := ends' <;> simp_all

/-- Two reports share a key just if they are one, or are mirrored. -/
theorem token_eq_iff (here : report ∈ pendingEdges observations) (there : other ∈ pendingEdges observations) :
    labToken report.key = labToken other.key ↔ report = other ∨ report.Mirrored other := by
  have digested : ∀ cable ∈ pendingEdges observations, cable.key ∈ digestedKeys observations :=
    fun cable known => mem_digestedKeys.mpr (.inl (.inl ⟨cable, known, rfl⟩))
  rw [labToken_eq_iff lab.tokens (digested report here) (digested other there)]
  constructor
  · intro same
    obtain ⟨⟨source, -⟩ | ⟨source, target⟩, port, spelling⟩ := lab.parts_of_reading here there same
    · exact .inl (lab.once report here other there (by simp [near, source, port]))
    · exact .inr ⟨source, target, port, spelling⟩
  · rintro (rfl | ⟨source, target, port, spelling⟩)
    · rfl
    · have read (x : PendingEdge) : reading x.key = Text.join "|"
          (([x.source, x.target].insertionSort (Text.le · ·)).map readPart
            ++ [readPart x.localPort, readPart x.spelled]) := by
        simp [reading, PendingEdge.key, PendingEdge.spelled]
      rw [read, read, source, target, port, spelling, sorted_pair_swap]

/-- The reports of a cable: from one end, or from the other. -/
theorem cable_eq_iff (here : report ∈ pendingEdges observations) (there : other ∈ pendingEdges observations) :
    other.cable = report.cable ↔ other = report ∨ report.Returns other := by
  constructor
  · intro same
    rw [cable, cable, Sym2.eq_iff] at same
    obtain ⟨near, -⟩ | crossed := same
    · exact .inl (lab.once other there report here near)
    · exact .inr crossed
  · rintro (rfl | returns)
    · rfl
    · exact cable_eq_of_returns returns

theorem ne_of_returns (here : report ∈ pendingEdges observations) (returns : report.Returns other) :
    report ≠ other := by
  rintro rfl
  exact lab.noLoop report here (congrArg Prod.fst returns.1)

/-- A report is called reciprocal just if the other end reports the cable too. -/
theorem reciprocal_iff (here : report ∈ pendingEdges observations) :
    report.reciprocal (pendingEdges observations) = true ↔ ∃ other ∈ pendingEdges observations, report.Returns other := by
  obtain ⟨remote, told⟩ := Option.isSome_iff_exists.mp (lab.told report here)
  simp only [PendingEdge.reciprocal, told, List.any_eq_true, Bool.and_eq_true, decide_eq_true_eq, Option.all_some]
  constructor
  · rintro ⟨other, there, ⟨source, target⟩, port⟩
    rw [lab.short other there] at port
    have near : other.near = report.far := by simp [near, far, source, port, told]
    have same := lab.plugged other there report here other.near (by simp [ends]) (by simp [ends, near])
    obtain rfl | returns := (lab.cable_eq_iff here there).mp same
    · exact absurd source (lab.noLoop _ here)
    · exact ⟨other, there, returns⟩
  · rintro ⟨other, there, near, far⟩
    refine ⟨other, there, ⟨congrArg Prod.fst near, congrArg Prod.fst far⟩, ?_⟩
    have port := congrArg Prod.snd near
    simp only [PendingEdge.near, PendingEdge.far, told, Option.map_some, Option.some.injEq] at port
    rw [lab.short other there, port]

/-- The ids of the edges of a cable. -/
theorem countP_cable (uncrossed : ∀ report ∈ pendingEdges observations, ∀ other ∈ pendingEdges observations,
      report.Mirrored other → report.cable = other.cable)
    {c : Sym2 CableEnd} {keys : List Text} (distinct : keys.Nodup)
    (these : ∀ k, k ∈ keys ↔ ∃ other ∈ pendingEdges observations, other.cable = c ∧ "edge-" ++ labToken other.key = k) :
    (physicalEdges (pendingEdges observations)).countP (·.cable = c) = keys.length := by
  refine Fresh.countP_addAll ?decided distinct ?these
  case decided =>
    simp only [List.forall_mem_map]
    intro report here other there same
    obtain rfl | mirrored := (lab.token_eq_iff here there).mp (append_labToken_inj.mp same)
    · rfl
    · exact uncrossed report here other there mirrored
  case these =>
    intro k
    rw [these]
    constructor
    · rintro ⟨other, there, same, rfl⟩
      exact ⟨_, List.mem_map_of_mem there, same, rfl⟩
    · rintro ⟨edge, known, same, rfl⟩
      obtain ⟨other, there, rfl⟩ := List.mem_map.mp known
      exact ⟨other, there, same, rfl⟩

end CabledLab

/-! ## The edges of a cable -/

theorem countP_labGraph (c : Sym2 CableEnd) :
    (labGraph observations).edges.countP (fun edge => edge.kind = .physical ∧ edge.cable = c)
      = (physicalEdges (pendingEdges observations)).countP (·.cable = c) := by
  have physical : ∀ edge ∈ physicalEdges (pendingEdges observations), edge.kind = .physical := by
    intro edge here
    obtain none_ | some_ := Fresh.mem_of_mem_addAll here
    · cases none_
    · obtain ⟨report, -, rfl⟩ := List.mem_map.mp some_
      rfl
  have others : ∀ edge ∈ uncheckedEdges observations, edge.kind ≠ .physical := by
    intro edge here
    simp only [uncheckedEdges, List.mem_append, List.mem_map] at here
    obtain ((⟨_, -, rfl⟩ | ⟨_, -, rfl⟩) | ⟨_, -, rfl⟩) | ⟨_, -, rfl⟩ := here <;> exact fun same => by cases same
  rw [labGraph, List.countP_append]
  have none_ : (uncheckedEdges observations).countP (fun edge => edge.kind = .physical ∧ edge.cable = c) = 0 :=
    List.countP_eq_zero.mpr fun edge here => by simp [others edge here]
  rw [none_, Nat.add_zero]
  exact List.countP_congr fun edge here => by simp [physical edge here]

/-- **Cables and edges**: where no two cables run crosswise between ports of the same names, every physical edge is a
reported cable and is reciprocal just if both ends report it, and every reported cable has one edge, or two if its
ends report it by different names. -/
theorem cabling_exact (lab : CabledLab observations)
    (uncrossed : ∀ report ∈ pendingEdges observations, ∀ other ∈ pendingEdges observations,
      report.Mirrored other → report.cable = other.cable) :
    (∀ edge ∈ (labGraph observations).edges, edge.kind = .physical →
      ∃ report ∈ pendingEdges observations, edge.cable = report.cable ∧
        (edge.reciprocal = true ↔ ∃ other ∈ pendingEdges observations, report.Returns other)) ∧
    ∀ report ∈ pendingEdges observations,
      (labGraph observations).edges.countP (fun edge => edge.kind = .physical ∧ edge.cable = report.cable)
        = if ∃ other ∈ pendingEdges observations, report.Returns other ∧ ¬report.Mirrored other then 2 else 1 := by
  constructor
  · intro edge here kind
    obtain physical | unchecked := List.mem_append.mp here
    · obtain none_ | some_ := Fresh.mem_of_mem_addAll physical
      · cases none_
      · obtain ⟨report, known, rfl⟩ := List.mem_map.mp some_
        exact ⟨report, known, rfl, lab.reciprocal_iff known⟩
    · simp only [uncheckedEdges, List.mem_append, List.mem_map] at unchecked
      obtain ((⟨_, -, rfl⟩ | ⟨_, -, rfl⟩) | ⟨_, -, rfl⟩) | ⟨_, -, rfl⟩ := unchecked <;> cases kind
  · intro report here
    rw [countP_labGraph]
    split
    case isTrue twice =>
      obtain ⟨other, there, returns, differ⟩ := twice
      have apart : labToken report.key ≠ labToken other.key := fun same =>
        ((lab.token_eq_iff here there).mp same).elim (lab.ne_of_returns here returns) differ
      have distinct : ["edge-".toList ++ labToken report.key, "edge-" ++ labToken other.key].Nodup := by
        simpa using apart
      refine lab.countP_cable uncrossed distinct fun k => ⟨fun mem => ?_, ?_⟩
      · obtain rfl | mem := List.mem_cons.mp mem
        · exact ⟨report, here, rfl, rfl⟩
        · exact ⟨other, there, cable_eq_of_returns returns, (List.mem_singleton.mp mem).symm⟩
      · rintro ⟨third, known, same, rfl⟩
        obtain rfl | returns' := (lab.cable_eq_iff here known).mp same
        · exact List.mem_cons_self
        · obtain rfl := lab.once third known other there (returns'.1.trans returns.1.symm)
          exact List.mem_cons_of_mem _ List.mem_cons_self
    case isFalse once =>
      refine lab.countP_cable uncrossed (List.nodup_singleton ("edge-" ++ labToken report.key)) fun k => ?_
      rw [List.mem_singleton]
      constructor
      · rintro rfl
        exact ⟨report, here, rfl, rfl⟩
      · rintro ⟨other, there, same, rfl⟩
        obtain rfl | returns := (lab.cable_eq_iff here there).mp same
        · rfl
        · have mirrored : report.Mirrored other := by
            by_contra differ
            exact once ⟨other, there, returns, differ⟩
          rw [append_labToken_inj, eq_comm]
          exact (lab.token_eq_iff here there).mpr (.inr mirrored)

end cables

/-! ## Two switches and a cable -/

/-- The digests of the two reports. -/
@[reducible] def cableDigest : Digest :=
  .ofTable [
      ("lab-1|lab-2|gi1/0/1|gigabitethernet1/0/2", "fc1a74b1c2097bc9deacc869fd815705551dbd93e429545504b533df2e53f2c4"),
      ("lab-1|lab-2|gi1/0/2|gigabitethernet1/0/1", "354743be8d51a8c22e93c87918bf1afea5ada0fa5c9258635268b520c52e9d43")]
    (by decide) fun _ _ => []

/-- A switch that hears its neighbour by CDP. -/
def cabledSwitch (deviceId hostname port neighbor remotePort : Text) : ParsedObservation where
  deviceId := deviceId
  configuredLabel := hostname
  primary := false
  parts := {
    configHostname := some hostname
    cdp := [{ localInterface := port, remoteName := neighbor, remoteInterface := some remotePort }] }

/-- Both ends report the cable between them. -/
def cabledPair : List ParsedObservation := [
  cabledSwitch "lab-1" "core" "Gi1/0/1" "access" "GigabitEthernet1/0/2",
  cabledSwitch "lab-2" "access" "Gi1/0/2" "core" "GigabitEthernet1/0/1"]

theorem cabledLab_cabledPair : @CabledLab cableDigest cabledPair :=
  @CabledLab.mk cableDigest cabledPair (by decide +kernel) (by decide +kernel) (by decide +kernel)
    (by decide +kernel) (by decide +kernel) (by decide +kernel) (by decide +kernel) (by decide +kernel)
    (by decide +kernel)

theorem cabling_exact_cabledPair :
    (∀ edge ∈ (@labGraph cableDigest cabledPair).edges, edge.kind = .physical →
      ∃ report ∈ @pendingEdges cableDigest cabledPair, edge.cable = report.cable ∧
        (edge.reciprocal = true ↔ ∃ other ∈ @pendingEdges cableDigest cabledPair, report.Returns other)) ∧
    ∀ report ∈ @pendingEdges cableDigest cabledPair,
      (@labGraph cableDigest cabledPair).edges.countP
          (fun edge => edge.kind = .physical ∧ edge.cable = report.cable)
        = if ∃ other ∈ @pendingEdges cableDigest cabledPair, report.Returns other ∧ ¬report.Mirrored other
          then 2 else 1 :=
  @cabling_exact cableDigest cabledPair cabledLab_cabledPair (by decide +kernel)

end SwitchOps
