import Mathlib.Logic.Function.Basic
import SwitchOps.Lib.Machine
import SwitchOps.Models

/-!
# The registry of the lab devices

`LabDeviceStore`: the registry file lists the opaque ids of the devices, the vault of the operating
system holds their credentials under these ids. A call updates the vault first and the file second,
and every access to either may fail. `registry_consistent` says which failures leave the two apart.
-/

namespace SwitchOps

open Machines

/-- The registry file, if it is there, the vault, and (a ghost) the ids given so far. -/
structure LabDeviceStore where
  registry : Option (List Text) := none
  vault : Text → Option Text := fun _ => none
  issued : List Text := []

/-- How writing the registry file may fail: before the file is replaced, or after. -/
inductive RegistryFault
  | unwritten
  | written
  deriving DecidableEq, Repr

/-- What fails in a call. -/
structure LabFaults where
  unavailable : Bool := false
  saveEntry : Bool := false
  deleteEntry : Bool := false
  /-- The registry file cannot be read: the first time, and again. -/
  read : Bool := false
  reread : Bool := false
  write : Option RegistryFault := none
  deriving DecidableEq, Repr

inductive LabDeviceCall
  /-- `add`, with the id that `uuid4` gives. -/
  | add (token payload : Text) (faults : LabFaults)
  | remove (deviceId : Text) (faults : LabFaults)
  deriving DecidableEq, Repr

def labDeviceId (token : Text) : Text := "lab-".toList ++ token

/-- The id that a call adds or removes. -/
def LabDeviceCall.deviceId : LabDeviceCall → Text
  | .add token _ _ => labDeviceId token
  | .remove deviceId _ => deviceId

def runtimeError (message : Text) : Exn := .other "RuntimeError" message

namespace LabDeviceStore

variable (s : LabDeviceStore)

/-- The ids in the registry file. -/
def listed : List Text := s.registry.getD []

/-- `_ids`; a registry that cannot be read counts as empty. -/
def ids (unreadable : Bool) : List Text :=
  if unreadable then [] else s.listed.filter fun value => value.startsWith "lab-"

/-- `_write_ids` -/
def writeIds (values : List Text) : Option RegistryFault → Except Exn Unit × LabDeviceStore
  | none => (.ok (), { s with registry := some values })
  | some .unwritten => (.error (.other "OSError" []), s)
  | some .written => (.error (.other "OSError" []), { s with registry := some values })

def setEntry (deviceId : Text) (payload : Option Text) : LabDeviceStore :=
  { s with vault := Function.update s.vault deviceId payload }

/-- `delete_lab_device`: whether it succeeds; there is nothing to delete where there is no entry. -/
def deletes (deviceId : Text) (faults : LabFaults) : Bool :=
  !faults.deleteEntry && (s.vault deviceId).isSome

def add (deviceId payload : Text) (faults : LabFaults) : Except Exn Bool × LabDeviceStore :=
  if faults.unavailable then
    (.error (runtimeError "Windows Credential Manager is unavailable; the device was not saved."), s)
  else if faults.saveEntry then
    (.error (runtimeError "Windows Credential Manager refused the device credentials."), s)
  else
    let stored := s.setEntry deviceId (some payload)
    match stored.writeIds (stored.ids faults.read ++ [deviceId]) faults.write with
    | (.ok (), written) => (.ok true, written)
    | (.error exc, written) =>
      (.error exc, if written.deletes deviceId faults then written.setEntry deviceId none else written)

def remove (deviceId : Text) (faults : LabFaults) : Except Exn Bool × LabDeviceStore :=
  if deviceId ∉ s.ids faults.read then (.ok false, s)
  else if faults.unavailable then
    (.error (runtimeError "Windows Credential Manager is unavailable; the device was not removed."), s)
  else if !s.deletes deviceId faults then
    (.error (runtimeError "Windows Credential Manager refused to remove the device."), s)
  else
    let deleted := s.setEntry deviceId none
    match deleted.writeIds ((deleted.ids faults.reread).filter (· ≠ deviceId)) faults.write with
    | (.ok (), written) => (.ok true, written)
    | (.error exc, written) => (.error exc, written)

def call : LabDeviceCall → Except Exn Bool × LabDeviceStore
  | .add token payload faults => s.add (labDeviceId token) payload faults
  | .remove deviceId faults => s.remove deviceId faults

/-- A call, whose outcome is of no interest here; `uuid4` gives no id twice. -/
def step (s : LabDeviceStore) : LabDeviceCall → Option LabDeviceStore
  | .add token payload faults =>
    if labDeviceId token ∈ s.issued then none
    else some { (s.call (.add token payload faults)).2 with issued := labDeviceId token :: s.issued }
  | .remove deviceId faults => some (s.call (.remove deviceId faults)).2

/-! ## What is asked of a call -/

/-- The ids in the registry are those with an entry in the vault. -/
structure Consistent : Prop where
  entries : ∀ id, id ∈ s.listed ↔ (s.vault id).isSome
  lab : ∀ id ∈ s.listed, id.startsWith "lab-" = true
  issued : ∀ id ∈ s.listed, id ∈ s.issued

/-- The call leaves the store consistent, touches no other id, and if it raises nothing at all. -/
structure Transacted (outcome : Except Exn Bool) (after : LabDeviceStore) (deviceId : Text) : Prop where
  entries : ∀ id, id ∈ after.listed ↔ (after.vault id).isSome
  others : ∀ id ≠ deviceId, (id ∈ after.listed ↔ id ∈ s.listed) ∧ after.vault id = s.vault id
  raised : ∀ exc, outcome = .error exc → after.registry = s.registry ∧ after.vault = s.vault

/-- Nothing fails between the two writes, or what fails can be made undone. -/
def Sound : LabDeviceCall → Prop
  | .add _ _ faults => faults.unavailable = true ∨ faults.saveEntry = true ∨
      (faults.write = none ∧ (faults.read = false ∨ s.listed = [])) ∨
      (faults.write = some .unwritten ∧ faults.deleteEntry = false)
  | .remove deviceId faults => deviceId ∉ s.ids faults.read ∨ faults.unavailable = true ∨
      faults.deleteEntry = true ∨
      (faults.write = none ∧ (faults.reread = false ∨ ∀ id ∈ s.listed, id = deviceId))

instance (c : LabDeviceCall) : Decidable (s.Sound c) := by
  unfold Sound
  split <;> infer_instance

/-! ## What a call does -/

theorem labDeviceId_startsWith (token : Text) : (labDeviceId token).startsWith "lab-" = true := by
  simp [labDeviceId, Text.startsWith]

variable {s} {deviceId payload token : Text} {faults : LabFaults}

@[simp] theorem listed_setEntry (value : Option Text) : (s.setEntry deviceId value).listed = s.listed := rfl

@[simp] theorem vault_setEntry_self (value : Option Text) :
    (s.setEntry deviceId value).vault deviceId = value := by
  simp [setEntry]

@[simp] theorem vault_setEntry_other (value : Option Text) {id : Text} (other : id ≠ deviceId) :
    (s.setEntry deviceId value).vault id = s.vault id := by
  simp [setEntry, other]

theorem setEntry_setEntry (free : s.vault deviceId = none) :
    (s.setEntry deviceId (some payload)).setEntry deviceId none = s := by
  simp [setEntry, ← free]

/-- A registry that is read and lists ids of lab devices only is read as it is. -/
theorem Consistent.ids_eq (known : s.Consistent) (unreadable : Bool) :
    s.ids unreadable = if unreadable then [] else s.listed := by
  rw [ids, List.filter_eq_self.mpr known.lab]

/-- A call that raises and leaves everything as it was. -/
theorem transacted_unchanged (known : s.Consistent) (outcome : Except Exn Bool) :
    s.Transacted outcome s deviceId :=
  ⟨known.entries, fun _ _ => ⟨Iff.rfl, rfl⟩, fun _ _ => ⟨rfl, rfl⟩⟩

/-- What `add` does with a new id: nothing, or the entry is there and it depends on the file. -/
theorem add_cases (free : s.vault deviceId = none) :
    ((faults.unavailable = true ∨ faults.saveEntry = true) ∧
      ∃ exc, s.add deviceId payload faults = (.error exc, s)) ∨
    (faults.unavailable = false ∧ faults.saveEntry = false ∧
      ((faults.write = none ∧ s.add deviceId payload faults =
          (.ok true, { s.setEntry deviceId (some payload) with
            registry := some (s.ids faults.read ++ [deviceId]) })) ∨
        (faults.write = some .unwritten ∧ faults.deleteEntry = false ∧
          ∃ exc, s.add deviceId payload faults = (.error exc, s)) ∨
        (faults.write = some .unwritten ∧ faults.deleteEntry = true ∧
          ∃ exc, s.add deviceId payload faults = (.error exc, s.setEntry deviceId (some payload))) ∨
        (faults.write = some .written ∧ ∃ exc entry, s.add deviceId payload faults =
          (.error exc, { s.setEntry deviceId entry with
            registry := some (s.ids faults.read ++ [deviceId]) })))) := by
  by_cases unavailable : faults.unavailable = true
  · exact .inl ⟨.inl unavailable, _, if_pos unavailable⟩
  by_cases saveEntry : faults.saveEntry = true
  · exact .inl ⟨.inr saveEntry, _, by rw [add, if_neg unavailable, if_pos saveEntry]⟩
  refine .inr ⟨by simpa using unavailable, by simpa using saveEntry, ?_⟩
  rw [add, if_neg unavailable, if_neg saveEntry]
  cases write : faults.write with
  | none => exact .inl ⟨rfl, rfl⟩
  | some fault =>
    cases fault with
    | unwritten =>
      cases deleteEntry : faults.deleteEntry with
      | false =>
        refine .inr (.inl ⟨rfl, rfl, .other "OSError" [], ?_⟩)
        simp [writeIds, deletes, deleteEntry, setEntry_setEntry free]
      | true =>
        refine .inr (.inr (.inl ⟨rfl, rfl, .other "OSError" [], ?_⟩))
        simp [writeIds, deletes, deleteEntry]
    | written =>
      -- the entry may be deleted or not, the file lists the id
      refine .inr (.inr (.inr ⟨rfl, .other "OSError" [], if faults.deleteEntry then some payload else none, ?_⟩))
      cases deleteEntry : faults.deleteEntry <;> simp [writeIds, deletes, deleteEntry, setEntry, ids, listed]

theorem remove_cases (known : s.Consistent) :
    (deviceId ∉ s.ids faults.read ∧ s.remove deviceId faults = (.ok false, s)) ∨
    (deviceId ∈ s.ids faults.read ∧ (faults.unavailable = true ∨ faults.deleteEntry = true) ∧
      ∃ exc, s.remove deviceId faults = (.error exc, s)) ∨
    (deviceId ∈ s.ids faults.read ∧ faults.unavailable = false ∧ faults.deleteEntry = false ∧
      ((faults.write = none ∧ s.remove deviceId faults =
          (.ok true, { s.setEntry deviceId none with
            registry := some ((s.ids faults.reread).filter (· ≠ deviceId)) })) ∨
        (faults.write ≠ none ∧ ∃ exc after, s.remove deviceId faults = (.error exc, after) ∧
          after.vault deviceId = none))) := by
  by_cases here : deviceId ∈ s.ids faults.read
  swap
  · exact .inl ⟨here, if_pos here⟩
  by_cases unavailable : faults.unavailable = true
  · exact .inr (.inl ⟨here, .inl unavailable, _, by rw [remove, if_neg (not_not.mpr here), if_pos unavailable]⟩)
  have entry : (s.vault deviceId).isSome := by
    rw [known.ids_eq] at here
    refine (known.entries deviceId).mp ?_
    split at here
    · cases here
    · exact here
  by_cases deleteEntry : faults.deleteEntry = true
  · refine .inr (.inl ⟨here, .inr deleteEntry, runtimeError
      "Windows Credential Manager refused to remove the device.", ?_⟩)
    simp [remove, here, unavailable, deletes, deleteEntry]
  have deleted : s.deletes deviceId faults = true := by
    simp [deletes, deleteEntry, entry]
  refine .inr (.inr ⟨here, by simpa using unavailable, by simpa using deleteEntry, ?_⟩)
  rw [remove, if_neg (not_not.mpr here), if_neg unavailable, deleted]
  cases write : faults.write with
  | none => exact .inl ⟨rfl, rfl⟩
  | some fault =>
    refine .inr ⟨by simp, .other "OSError" [], ?_⟩
    cases fault with
    | unwritten => exact ⟨_, rfl, by simp⟩
    | written => exact ⟨_, rfl, by simp [setEntry]⟩

/-! ## When a call is sound -/

/-- The registry was read as it is: its ids are the ones listed. -/
theorem Consistent.ids_eq_listed_iff (known : s.Consistent) (unreadable : Bool) :
    s.ids unreadable = s.listed ↔ unreadable = false ∨ s.listed = [] := by
  rw [known.ids_eq]
  cases unreadable with
  | false => simp
  | true => exact ⟨fun empty => .inr empty.symm, fun either => by simpa using either.symm⟩

theorem add_transacted_iff (known : s.Consistent) (fresh : deviceId ∉ s.issued) :
    s.Transacted (s.add deviceId payload faults).1 (s.add deviceId payload faults).2 deviceId ↔
      faults.unavailable = true ∨ faults.saveEntry = true ∨
        (faults.write = none ∧ (faults.read = false ∨ s.listed = [])) ∨
        (faults.write = some .unwritten ∧ faults.deleteEntry = false) := by
  have unlisted : deviceId ∉ s.listed := fun listed => fresh (known.issued _ listed)
  have free : s.vault deviceId = none := by
    simpa using (known.entries deviceId).not.mp unlisted
  rcases @add_cases _ _ payload faults free with ⟨early, exc, raised⟩ |
    ⟨available, saved, ⟨write, made⟩ | ⟨write, deletes, exc, raised⟩ | ⟨write, stays, exc, raised⟩ |
      ⟨write, exc, entry, raised⟩⟩
  · rw [raised]
    exact ⟨fun _ => early.imp_right .inl, fun _ => transacted_unchanged known _⟩
  · -- the entry and the file are written
    rw [made]
    simp only [available, saved, write, Bool.false_eq_true, false_or, true_and, reduceCtorEq, false_and,
      or_false, ← known.ids_eq_listed_iff]
    constructor
    · intro done
      rw [known.ids_eq] at done ⊢
      split
      · -- an unreadable registry loses every id it listed
        rename_i unreadable
        refine (List.eq_nil_iff_forall_not_mem.mpr fun id listed => ?_).symm
        have other : id ≠ deviceId := fun same => unlisted (same ▸ listed)
        have kept : id ∈ (if faults.read = true then [] else s.listed) ++ [deviceId] :=
          ((done.others id other).1).mpr listed
        simp [unreadable, other] at kept
      · rfl
    · intro same
      rw [same]
      have written : ∀ id, id ∈ s.listed ++ [deviceId] ↔ id ∈ s.listed ∨ id = deviceId := by simp
      refine ⟨fun id => (written id).trans ?_, fun id other => ⟨(written id).trans (or_iff_left other), ?_⟩,
        fun exc raised => by cases raised⟩
      · by_cases this : id = deviceId
        · subst this
          simp [setEntry]
        · simpa [setEntry, this] using known.entries id
      · simp [setEntry, other]
  · rw [raised]
    exact ⟨fun _ => .inr (.inr (.inr ⟨write, deletes⟩)), fun _ => transacted_unchanged known _⟩
  · -- the entry stays although the call raises
    rw [raised]
    simp only [available, saved, write, stays, Bool.false_eq_true, false_or, reduceCtorEq, false_and, and_false,
      iff_false, Bool.true_eq_false]
    intro done
    have kept := congrFun (done.raised exc rfl).2 deviceId
    simp [free] at kept
  · -- the file stays although the call raises
    rw [raised]
    simp only [available, saved, write, Bool.false_eq_true, false_or, reduceCtorEq, false_and, iff_false,
      Option.some.injEq]
    intro done
    have kept := (done.raised exc rfl).1
    refine unlisted ?_
    rw [LabDeviceStore.listed, ← kept]
    simp

theorem remove_transacted_iff (known : s.Consistent) :
    s.Transacted (s.remove deviceId faults).1 (s.remove deviceId faults).2 deviceId ↔
      deviceId ∉ s.ids faults.read ∨ faults.unavailable = true ∨ faults.deleteEntry = true ∨
        (faults.write = none ∧ (faults.reread = false ∨ ∀ id ∈ s.listed, id = deviceId)) := by
  have ofIds : deviceId ∈ s.ids faults.read → deviceId ∈ s.listed := by
    intro here
    rw [known.ids_eq] at here
    split at here
    · cases here
    · exact here
  rcases @remove_cases _ _ faults known with ⟨absent, refused⟩ | ⟨here, early, exc, raised⟩ |
    ⟨here, available, deletes, ⟨write, made⟩ | ⟨write, exc, after, raised, gone⟩⟩
  · rw [refused]
    exact ⟨fun _ => .inl absent, fun _ => transacted_unchanged known _⟩
  · rw [raised]
    exact ⟨fun _ => .inr (early.imp_right .inl), fun _ => transacted_unchanged known _⟩
  · rw [made]
    simp only [here, available, deletes, write, not_true_eq_false, Bool.false_eq_true, false_or, true_and]
    constructor
    · intro done
      cases unreadable : faults.reread with
      | false => exact .inl rfl
      | true =>
        refine .inr fun id listed => ?_
        by_contra other
        have kept := ((done.others id other).1).mpr listed
        simp [LabDeviceStore.listed, ids, unreadable] at kept
    · intro readable
      have written : ∀ id, id ∈ (s.ids faults.reread).filter (· ≠ deviceId) ↔ id ∈ s.listed ∧ id ≠ deviceId := by
        intro id
        rcases readable with readable | alone
        · simp [known.ids_eq, readable]
        · rw [known.ids_eq]
          split
          · simpa using alone id
          · simp
      refine ⟨fun id => ?_, fun id other => ?_, fun exc raised => by cases raised⟩
      · refine (written id).trans ?_
        by_cases this : id = deviceId
        · subst this
          simp [setEntry]
        · simpa [setEntry, this] using known.entries id
      · exact ⟨(written id).trans (and_iff_left other), by simp [setEntry, other]⟩
  · -- the entry is gone although the call raises
    rw [raised]
    simp only [here, available, deletes, write, not_true_eq_false, Bool.false_eq_true, false_or, false_and, iff_false]
    intro done
    have kept := congrFun (done.raised exc rfl).2 deviceId
    have entry := (known.entries deviceId).mp (ofIds here)
    rw [← kept, gone] at entry
    cases entry

/-! ## Along a run -/

theorem issued_remove : (s.remove deviceId faults).2.issued = s.issued := by
  have kept : ∀ (t : LabDeviceStore) values fault, (t.writeIds values fault).2.issued = t.issued := by
    intro t values fault
    rcases fault with - | - | - <;> rfl
  rw [remove]
  dsimp only
  split_ifs with absent unavailable refused
  · rfl
  · rfl
  · have written := kept (s.setEntry deviceId none)
      (((s.setEntry deviceId none).ids faults.reread).filter (· ≠ deviceId)) faults.write
    split
    all_goals
      rename_i outcome
      rw [outcome] at written
      exact written
  · rfl

/-- A call lists no id but its own that was not listed before. -/
theorem Consistent.of_transacted {t : LabDeviceStore} {outcome : Except Exn Bool} (known : s.Consistent)
    (done : s.Transacted outcome t deviceId) (grows : ∀ id ∈ s.issued, id ∈ t.issued)
    (own : deviceId ∈ t.listed → deviceId.startsWith "lab-" = true ∧ deviceId ∈ t.issued) : t.Consistent := by
  have before : ∀ id ∈ t.listed, id ≠ deviceId → id ∈ s.listed := fun id listed other =>
    ((done.others id other).1).mp listed
  refine ⟨done.entries, fun id listed => ?_, fun id listed => ?_⟩
  · by_cases this : id = deviceId
    · exact this ▸ (own (this ▸ listed)).1
    · exact known.lab id (before id listed this)
  · by_cases this : id = deviceId
    · exact this ▸ (own (this ▸ listed)).2
    · exact grows id (known.issued id (before id listed this))

/-- A device that is removed was listed, or it is not listed now. -/
theorem listed_of_remove (known : s.Consistent) (done : s.Transacted (s.remove deviceId faults).1
    (s.remove deviceId faults).2 deviceId) (listed : deviceId ∈ (s.remove deviceId faults).2.listed) :
    deviceId ∈ s.listed := by
  rcases @remove_cases _ _ faults known with ⟨-, refused⟩ | ⟨-, -, exc, raised⟩ |
    ⟨-, -, -, ⟨-, made⟩ | ⟨-, exc, after, raised, gone⟩⟩
  · rwa [refused] at listed
  · rwa [raised] at listed
  · rw [made] at listed
    simp [LabDeviceStore.listed] at listed
  · rw [raised] at done listed
    rw [LabDeviceStore.listed, (done.raised exc rfl).1] at listed
    exact listed

theorem step_transacted_iff {t u : LabDeviceStore} {c : LabDeviceCall} (known : t.Consistent)
    (taken : step t c = some u) : t.Transacted (t.call c).1 u c.deviceId ↔ t.Sound c := by
  cases c with
  | add token payload faults =>
    simp only [step] at taken
    split at taken
    · cases taken
    · rename_i fresh
      obtain rfl := Option.some.inj taken
      have same : ∀ after : LabDeviceStore, t.Transacted (t.call (.add token payload faults)).1
          { after with issued := labDeviceId token :: t.issued } (labDeviceId token) ↔
          t.Transacted (t.call (.add token payload faults)).1 after (labDeviceId token) := fun after =>
        ⟨fun done => ⟨done.entries, done.others, done.raised⟩, fun done => ⟨done.entries, done.others, done.raised⟩⟩
      exact (same _).trans (add_transacted_iff known fresh)
  | remove deviceId faults =>
    obtain rfl := Option.some.inj taken
    exact remove_transacted_iff known

theorem step_consistent {t u : LabDeviceStore} {c : LabDeviceCall} (known : t.Consistent) (sound : t.Sound c)
    (taken : step t c = some u) : u.Consistent := by
  have done := (step_transacted_iff known taken).mpr sound
  cases c with
  | add token payload faults =>
    simp only [step] at taken
    split at taken
    · cases taken
    · obtain rfl := Option.some.inj taken
      exact known.of_transacted done (fun id issued => List.mem_cons_of_mem _ issued)
        fun _ => ⟨labDeviceId_startsWith token, List.mem_cons_self⟩
  | remove deviceId faults =>
    obtain rfl := Option.some.inj taken
    refine known.of_transacted done (fun id issued => ?_) fun listed => ?_
    · rwa [call, issued_remove]
    · have before := listed_of_remove known done listed
      exact ⟨known.lab _ before, by rw [call, issued_remove]; exact known.issued _ before⟩

end LabDeviceStore

/-- **The registry and the vault stay together** as long as every call is sound; and a call of which this
is asked is all or nothing just when it is sound. -/
theorem registry_consistent {t : LabDeviceStore} (h : Reaches LabDeviceStore.step LabDeviceStore.Sound {} t) :
    t.Consistent ∧ ∀ c u, LabDeviceStore.step t c = some u →
      (t.Transacted (t.call c).1 u c.deviceId ↔ t.Sound c) := by
  have known : t.Consistent := h.invariant (I := fun s => s.Consistent)
    ⟨by simp [LabDeviceStore.listed], by simp [LabDeviceStore.listed], by simp [LabDeviceStore.listed]⟩
    fun _ _ _ known sound taken => LabDeviceStore.step_consistent known sound taken
  exact ⟨known, fun c u taken => LabDeviceStore.step_transacted_iff known taken⟩

/-- Two devices are added and one is removed; then the file cannot be replaced and the entry is deleted again. -/
theorem registry_consistent_twoDevices :
    ∃ t, t.listed = [labDeviceId "2"] ∧ t.Consistent ∧ ∀ c u, LabDeviceStore.step t c = some u →
      (t.Transacted (t.call c).1 u c.deviceId ↔ t.Sound c) := by
  obtain ⟨t, reached, listed⟩ := exists_reaches_of_run_guarded LabDeviceStore.step LabDeviceStore.Sound {}
    [.add "1" "device" {}, .add "2" "device" {}, .remove (labDeviceId "1") {},
      .add "3" "device" { write := some .unwritten }]
    (fun t => decide (t.listed = [labDeviceId "2"])) (by decide +kernel)
  exact ⟨t, of_decide_eq_true listed, registry_consistent reached⟩

/-- The entry of a removed device is deleted, and the registry that still lists it cannot be written. -/
theorem not_registry_consistent_unwritten :
    ¬ ∀ t, Reaches LabDeviceStore.step Always {} t → t.Consistent := by
  intro claimed
  obtain ⟨t, reached, apart⟩ := exists_reaches_of_run LabDeviceStore.step {}
    [.add "1" "device" {}, .remove (labDeviceId "1") { write := some .unwritten }]
    (fun t => decide (t.listed = [labDeviceId "1"] ∧ t.vault (labDeviceId "1") = none)) (by decide +kernel)
  obtain ⟨listed, gone⟩ := of_decide_eq_true apart
  have entry := ((claimed t reached).entries (labDeviceId "1")).mp (by simp [listed])
  rw [gone] at entry
  cases entry

end SwitchOps
