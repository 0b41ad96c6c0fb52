import SwitchOps.Reconciliation.Events
import SwitchOps.Reconciliation.Reconciler

/-!
# Reconciliation signatures

`reconciliation_signature` joins a status, a kind of drift and two labels by bars, a dash standing for a label that is
missing. A label may hold bars itself, or be a dash. `faithful_iff` says which pairs of reconciliations are then taken
for one another.
-/

namespace SwitchOps.Topology

/-- `reconciliation_signature` -/
def InterfaceReconciliation.signature (result : InterfaceReconciliation) : Text := result.situation.signature

/-- Two reconciliations have one signature just if they agree in what they are told apart by. -/
def Faithful (a b : InterfaceReconciliation) : Prop := a.signature = b.signature ↔ a.situation = b.situation

/-- The labels as they are shown in a signature. -/
def Situation.observedText (situation : Situation) : Text := situation.observed.getD "-"

def Situation.expectedText (situation : Situation) : Text := situation.expected.getD "-"

/-- The observed label of `b` begins with that of `a`, and what follows there follows in `a` as well. -/
def Situation.Shifted (a b : Situation) : Prop :=
  ∃ moved : Text, b.observedText = a.observedText ++ '|' :: moved ∧ a.expectedText = moved ++ '|' :: b.expectedText

/-- Situations that are taken for one another. -/
structure Situation.Confusable (a b : Situation) : Prop where
  status : a.status = b.status
  driftKind : a.driftKind = b.driftKind
  labels :
    -- a label that is a dash, for one that is missing
    (a.observedText = b.observedText ∧ a.expectedText = b.expectedText ∧
      (a.observed ≠ b.observed ∨ a.expected ≠ b.expected)) ∨
    -- a bar inside of a label, for the one between them
    a.Shifted b ∨ b.Shifted a

/-- Two texts around a separator, read in two ways. -/
theorem append_cons_eq_iff {x : Char} {a b s t : Text} : a ++ x :: s = b ++ x :: t ↔
    (a = b ∧ s = t) ∨ (∃ moved, b = a ++ x :: moved ∧ s = moved ++ x :: t) ∨
      ∃ moved, a = b ++ x :: moved ∧ t = moved ++ x :: s := by
  rw [List.append_eq_append_iff]
  constructor
  · rintro (⟨between, rfl, later⟩ | ⟨between, rfl, later⟩)
    · cases between with
      | nil => exact .inl ⟨(List.append_nil a).symm, (List.cons.inj later).2⟩
      | cons c moved =>
        obtain ⟨rfl, rfl⟩ := List.cons.inj later
        exact .inr (.inl ⟨moved, rfl, rfl⟩)
    · cases between with
      | nil => exact .inl ⟨List.append_nil b, (List.cons.inj later).2.symm⟩
      | cons c moved =>
        obtain ⟨rfl, rfl⟩ := List.cons.inj later
        exact .inr (.inr ⟨moved, rfl, rfl⟩)
  · rintro (⟨rfl, rfl⟩ | ⟨moved, rfl, rfl⟩ | ⟨moved, rfl, rfl⟩)
    · exact .inl ⟨[], (List.append_nil a).symm, rfl⟩
    · exact .inl ⟨x :: moved, rfl, rfl⟩
    · exact .inr ⟨x :: moved, rfl, rfl⟩

section signatures

variable {a b : Situation}

theorem Situation.signature_eq_iff : a.signature = b.signature ↔ a.status = b.status ∧ a.driftKind = b.driftKind ∧
    ((a.observedText = b.observedText ∧ a.expectedText = b.expectedText) ∨ a.Shifted b ∨ b.Shifted a) := by
  constructor
  · intro same
    obtain ⟨status, same⟩ := append_bar_inj a.status.text_plain b.status.text_plain same
    obtain ⟨kind, same⟩ := append_bar_inj a.driftKind.text_plain b.driftKind.text_plain same
    exact ⟨ReconciliationStatus.text_inj status, DriftKind.text_inj kind, append_cons_eq_iff.mp same⟩
  · rintro ⟨status, kind, labels⟩
    have same : a.observedText ++ '|' :: a.expectedText = b.observedText ++ '|' :: b.expectedText :=
      append_cons_eq_iff.mpr labels
    rw [Situation.observedText, Situation.expectedText, Situation.observedText, Situation.expectedText] at same
    rw [Situation.signature, Situation.signature, status, kind, same]

theorem Situation.Shifted.ne (h : a.Shifted b) : a ≠ b := by
  rintro rfl
  obtain ⟨moved, same, -⟩ := h
  have length := congrArg List.length same
  rw [List.length_append, List.length_cons] at length
  omega

/-- **Signatures**: they tell two reconciliations apart just if these are not confusable. -/
theorem faithful_iff (a b : InterfaceReconciliation) : Faithful a b ↔ ¬a.situation.Confusable b.situation := by
  rw [Faithful, InterfaceReconciliation.signature, InterfaceReconciliation.signature]
  constructor
  · intro faithful confusable
    obtain ⟨status, kind, labels⟩ := confusable
    rcases labels with ⟨observed, expected, differ⟩ | shifted
    · have same := faithful.mp (Situation.signature_eq_iff.mpr ⟨status, kind, .inl ⟨observed, expected⟩⟩)
      rw [same] at differ
      simp at differ
    · have same := faithful.mp (Situation.signature_eq_iff.mpr ⟨status, kind, .inr shifted⟩)
      rcases shifted with forth | back
      · exact forth.ne same
      · exact back.ne same.symm
  · intro apart
    constructor
    · intro signature
      obtain ⟨status, kind, labels⟩ := Situation.signature_eq_iff.mp signature
      by_contra differ
      refine apart ⟨status, kind, ?_⟩
      rcases labels with ⟨observed, expected⟩ | shifted
      · refine .inl ⟨observed, expected, ?_⟩
        by_contra same
        push Not at same
        cases ha : a.situation
        cases hb : b.situation
        rw [ha, hb] at differ status kind same
        simp only [Situation.mk.injEq, not_and] at differ
        exact differ status kind same.1 same.2
      · exact .inr shifted
    · intro same
      rw [same]

end signatures

/-! ## A bar in a label -/

/-- A name that is observed or expected on a port. -/
def namedNeighbor (label : Text) (evidenceClass : EvidenceClass) : TopologyAssertion where
  subject := "Gi1/0/1"
  relationship := .directNeighbour
  objectLabel := label
  objectIdentified := true
  evidenceClass := evidenceClass
  source := .cdp
  confidence := .high
  detail := []

def connectedPort : InterfaceStatus where
  port := "Gi1/0/1"
  name := []
  status := "connected"
  vlan := "trunk"
  duplex := "a-full"
  speed := "a-1000"
  type := "10/100/1000BaseTX"

/-- A neighbour that is not the expected one. -/
def misplaced (observed expected : Text) : InterfaceReconciliation :=
  reconcileInterface connectedPort (some (namedNeighbor observed .observed)) (some (namedNeighbor expected .expected))
    none [] [] false

theorem not_faithful_bar : ¬∀ (interface interface' : InterfaceStatus)
    (observed expected historical observed' expected' historical' : Option TopologyAssertion)
    (inferred inferred' : List TopologyAssertion) (sightings sightings' : List ExternalSighting)
    (suppressed suppressed' : Bool),
    Faithful (reconcileInterface interface observed expected historical inferred sightings suppressed)
      (reconcileInterface interface' observed' expected' historical' inferred' sightings' suppressed') := by
  intro claimed
  have faithful : Faithful (misplaced "core|east" "lab") (misplaced "core" "east|lab") :=
    claimed _ _ _ _ _ _ _ _ _ _ _ _ _ _
  have confused := faithful.mp (by decide +kernel)
  revert confused
  decide +kernel

end SwitchOps.Topology
