import SwitchOps.Credentials.Store

/-!
# Saving credentials, all or nothing

`save` writes the keyring entry by entry and falls back to the file when a write fails, but leaves the
entries that were written where `load` looks first. `saves_iff` says exactly when the credentials that
are loaded afterwards are those that were saved, or, if `save` raised, those of before.
-/

namespace SwitchOps

/-! ## What a failing write leaves behind -/

/-- The entries that are written. -/
def CredentialFaults.written (faults : CredentialFaults) : List AccountKey :=
  accountKeys.takeWhile fun k => !faults.setPassword k

/-- The entries that stay as they were. -/
def CredentialFaults.stale (faults : CredentialFaults) : List AccountKey :=
  accountKeys.dropWhile fun k => !faults.setPassword k

/-- The entries after the writes. -/
def overwritten (creds : SwitchCredentials) (faults : CredentialFaults) (entries : KeyringEntries) :
    KeyringEntries :=
  fun k => if k ∈ faults.written then some (creds.field k) else entries k

variable {creds old : SwitchCredentials} {faults : CredentialFaults} {entries : KeyringEntries}
  {b : CredentialBackends}

theorem saveKeyring_eq (keys : List AccountKey) (entries : KeyringEntries) :
    saveKeyring creds faults keys entries =
      (fun k => if k ∈ keys.takeWhile (fun k => !faults.setPassword k) then some (creds.field k)
        else entries k, (keys.dropWhile fun k => !faults.setPassword k).isEmpty) := by
  induction keys generalizing entries with
  | nil => simp [saveKeyring]
  | cons k rest ih =>
    by_cases fails : faults.setPassword k = true
    · simp [saveKeyring, fails]
    · simp only [saveKeyring, fails, Bool.false_eq_true, if_false, ih, List.takeWhile_cons,
        List.dropWhile_cons, Bool.not_false, if_true, Prod.mk.injEq, and_true]
      funext k'
      by_cases same : k' = k
      · simp [same]
      · simp [same, List.mem_cons]

/-- An entry is written or stays as it was; and they are written in order. -/
theorem mem_stale_iff (k : AccountKey) : k ∈ faults.stale ↔ k ∉ faults.written := by
  unfold CredentialFaults.stale CredentialFaults.written accountKeys
  -- at most six entries can be the first that fails
  cases k <;> cases h₁ : faults.setPassword .switchHost <;>
    cases h₂ : faults.setPassword .switchUsername <;>
    cases h₃ : faults.setPassword .switchPassword <;>
    cases h₄ : faults.setPassword .switchEnableSecret <;>
    cases h₅ : faults.setPassword .switchDeviceType <;>
    simp [List.takeWhile, List.dropWhile, h₁, h₂, h₃, h₄, h₅]

theorem written_order :
    (.switchPassword ∈ faults.written → .switchUsername ∈ faults.written) ∧
      (.switchUsername ∈ faults.written → .switchHost ∈ faults.written) := by
  unfold CredentialFaults.written accountKeys
  cases h₁ : faults.setPassword .switchHost <;>
    cases h₂ : faults.setPassword .switchUsername <;>
    cases h₃ : faults.setPassword .switchPassword <;>
    simp [List.takeWhile, h₁, h₂, h₃]

/-- The device type comes last. -/
theorem deviceType_mem_stale (h : faults.stale ≠ []) : .switchDeviceType ∈ faults.stale := by
  unfold CredentialFaults.stale at h ⊢
  obtain ⟨before, all⟩ := List.dropWhile_suffix (fun k => !faults.setPassword k) (l := accountKeys)
  have last := congrArg List.getLast? all
  rw [List.getLast?_append_of_ne_nil _ h] at last
  exact List.mem_of_getLast? last

theorem readEntry_overwritten (k : AccountKey) :
    readEntry (overwritten creds faults entries) k =
      if k ∈ faults.written then readEntry (fun k => some (creds.field k)) k else readEntry entries k := by
  by_cases written : k ∈ faults.written
  · cases k <;> simp [readEntry, overwritten, written]
  · cases k <;> simp [readEntry, overwritten, written]

/-- A field that was written is read as it was written, but for an empty device type. -/
theorem readEntry_field {k : AccountKey} (h : k = .switchDeviceType → creds.switchDeviceType ≠ []) :
    readEntry (fun k => some (creds.field k)) k = creds.field k := by
  cases k with
  | switchDeviceType =>
    cases type : creds.switchDeviceType with
    | nil => exact absurd type (h rfl)
    | cons c rest => simp [readEntry, SwitchCredentials.field, type]
  | _ => rfl

/-! ## Which backend is loaded -/

/-- `load` takes what the keyring holds. -/
def Readable (entries : KeyringEntries) : Prop :=
  readEntry entries .switchPassword ≠ [] ∧ (readEntry entries .switchUsername).strip ≠ [] ∧
    (readEntry entries .switchHost).strip ≠ []

/-- What `load` takes where the keyring holds nothing complete. -/
def CredentialBackends.loadBeyond (b : CredentialBackends) : Option SwitchCredentials :=
  [b.loadFile, b.loadEnv].findSome? fun candidate => candidate.filter (·.complete)

theorem load_of_readable (keyring : b.keyring = some entries) (readable : Readable entries) :
    b.load = some (.ofFields (readEntry entries)) := by
  obtain ⟨password, username, host⟩ := readable
  simp [CredentialBackends.load, CredentialBackends.loadKeyring, keyring, password,
    SwitchCredentials.complete, SwitchCredentials.ofFields, username, host]

theorem load_of_not_readable (keyring : b.keyring = some entries) (readable : ¬ Readable entries) :
    b.load = b.loadBeyond := by
  have nothing : (b.loadKeyring.filter (·.complete)) = none := by
    by_cases password : readEntry entries .switchPassword = []
    · simp [CredentialBackends.loadKeyring, keyring, password]
    · have incomplete : (SwitchCredentials.ofFields (readEntry entries)).complete = false := by
        by_contra complete
        simp only [SwitchCredentials.complete, SwitchCredentials.ofFields, Bool.not_eq_false,
          Bool.and_eq_true, Bool.not_eq_true', List.isEmpty_eq_false_iff] at complete
        exact readable ⟨complete.2, complete.1.2, complete.1.1⟩
      simp [CredentialBackends.loadKeyring, keyring, password, incomplete]
  rw [CredentialBackends.load, List.findSome?_cons, nothing]
  rfl

/-! ## The condition -/

/-- `load` passes over a keyring whose password was not written and is missing, or whose user name or
host is. -/
def PassedOver (entries : KeyringEntries) (faults : CredentialFaults) : Prop :=
  .switchPassword ∈ faults.stale ∧ (readEntry entries .switchPassword = [] ∨
    (.switchUsername ∈ faults.stale ∧ (readEntry entries .switchUsername).strip = []) ∨
    (.switchHost ∈ faults.stale ∧ (readEntry entries .switchHost).strip = []))

/-- No write fails that is not made good: `save` returns. -/
def Made (b : CredentialBackends) (faults : CredentialFaults) : Prop :=
  (faults.stale = [] ∧ (b.file = .absent ∨ faults.unlink = false)) ∨
    (faults.writeTemporary = false ∧ faults.replaceFile = false)

/-- Where `load` does not pass over the keyring, the entries that were not written already read as the
new fields, if `save` returns; and if it raises, what was loaded before reads as the entries written and
those not written. -/
def Settles (b : CredentialBackends) (creds : SwitchCredentials) (faults : CredentialFaults) : Prop :=
  creds.complete = true → ∀ entries ∈ b.keyring,
    PassedOver entries faults ∨
    (Made b faults ∧ (∀ k ∈ faults.stale, readEntry entries k = creds.field k) ∧
      (faults.stale = [] → creds.switchDeviceType ≠ [])) ∨
    (¬ Made b faults ∧ ∃ old, b.load = some old ∧
      (∀ k ∈ faults.written, old.field k = readEntry (fun k => some (creds.field k)) k) ∧
      ∀ k ∈ faults.stale, old.field k = readEntry entries k)

/-- A save that returns is what is loaded from then on, and one that raises changes nothing that is
loaded. -/
def SavesOrKeeps (b : CredentialBackends) (creds : SwitchCredentials) (faults : CredentialFaults) : Prop :=
  (b.save creds faults).2.load =
    if (b.save creds faults).1.isOk then some creds else b.load

theorem readable_overwritten (complete : creds.complete = true) :
    Readable (overwritten creds faults entries) ↔ ¬ PassedOver entries faults := by
  simp only [SwitchCredentials.complete, Bool.and_eq_true, Bool.not_eq_true',
    List.isEmpty_eq_false_iff] at complete
  obtain ⟨⟨host, username⟩, password⟩ := complete
  obtain ⟨passwordAfter, usernameAfter⟩ := @written_order faults
  simp only [Readable, PassedOver, readEntry_overwritten, mem_stale_iff]
  by_cases passwordWritten : .switchPassword ∈ faults.written
  · have usernameWritten := passwordAfter passwordWritten
    have hostWritten := usernameAfter usernameWritten
    simp [passwordWritten, usernameWritten, hostWritten, readEntry, SwitchCredentials.field, host,
      username, password]
  · by_cases usernameWritten : .switchUsername ∈ faults.written
    · have hostWritten := usernameAfter usernameWritten
      simp [passwordWritten, usernameWritten, hostWritten, readEntry, SwitchCredentials.field, host,
        username]
    · by_cases hostWritten : .switchHost ∈ faults.written
      · simp [passwordWritten, usernameWritten, hostWritten, readEntry, SwitchCredentials.field, host]
      · simp [passwordWritten, usernameWritten, hostWritten, not_or]

/-- Where `load` passes over the keyring after the writes, it did so before. -/
theorem not_readable_of_passedOver (h : PassedOver entries faults) : ¬ Readable entries := by
  rintro ⟨password, username, host⟩
  obtain ⟨-, none | ⟨-, none⟩ | ⟨-, none⟩⟩ := h
  · exact password none
  · exact username none
  · exact host none

/-- What `save` does where there is a keyring. -/
theorem save_cases (complete : creds.complete = true) (keyring : b.keyring = some entries) :
    (Made b faults ∧ ∃ storage after, b.save creds faults = (.ok storage, after) ∧
      after.keyring = some (overwritten creds faults entries) ∧
      (faults.stale = [] ∨ after.file = .document creds)) ∨
    (¬ Made b faults ∧ ∃ exc, b.save creds faults =
      (.error exc, { b with keyring := some (overwritten creds faults entries) })) := by
  have wrote : saveKeyring creds faults accountKeys entries =
      (overwritten creds faults entries, faults.stale.isEmpty) := saveKeyring_eq accountKeys entries
  simp only [CredentialBackends.save, complete, keyring, wrote, Bool.not_true, Bool.false_eq_true,
    if_false, CredentialBackends.saveFile, Made]
  cases stale : faults.stale with
  | nil =>
    by_cases absent : b.file = .absent
    · simp [absent]
    · cases unlink : faults.unlink with
      | false => simp [absent]
      | true => cases write : faults.writeTemporary <;> cases replace : faults.replaceFile <;> simp [absent]
  | cons k rest =>
    cases write : faults.writeTemporary <;> cases replace : faults.replaceFile <;> simp

/-- What is read of the entries after the writes, field by field. -/
theorem ofFields_overwritten_eq_iff :
    SwitchCredentials.ofFields (readEntry (overwritten creds faults entries)) = old ↔
      (∀ k ∈ faults.written, old.field k = readEntry (fun k => some (creds.field k)) k) ∧
        ∀ k ∈ faults.stale, old.field k = readEntry entries k := by
  simp only [SwitchCredentials.ofFields_eq_iff, readEntry_overwritten, mem_stale_iff]
  constructor
  · intro same
    exact ⟨fun k written => by rw [← same k, if_pos written], fun k stale => by rw [← same k, if_neg stale]⟩
  · intro same k
    by_cases written : k ∈ faults.written
    · rw [if_pos written, same.1 k written]
    · rw [if_neg written, same.2 k written]

theorem readEntry_deviceType (h : creds.switchDeviceType = []) :
    readEntry (fun k => some (creds.field k)) .switchDeviceType = defaultDeviceType := by
  simp [readEntry, SwitchCredentials.field, h]

/-- The entries written read as they were written exactly if a device type was written, or none was. -/
theorem written_readEntry_iff :
    (∀ k ∈ faults.written, creds.field k = readEntry (fun k => some (creds.field k)) k) ↔
      (faults.stale = [] → creds.switchDeviceType ≠ []) := by
  constructor
  · intro same all none
    have written : .switchDeviceType ∈ faults.written := by
      by_contra stale
      rw [← mem_stale_iff, all] at stale
      cases stale
    have default : creds.switchDeviceType = defaultDeviceType := by
      rw [← readEntry_deviceType none]
      exact same _ written
    rw [none] at default
    exact absurd default (by decide)
  · intro given k written
    refine (readEntry_field fun last => given ?_).symm
    by_contra some
    rw [last] at written
    exact (mem_stale_iff _).mp (deviceType_mem_stale some) written

/-- Without a keyring there is only the file, which is written whole. -/
theorem savesOrKeeps_fileOnly (complete : creds.complete = true) (keyring : b.keyring = none) :
    SavesOrKeeps b creds faults := by
  have saved : b.save creds faults = b.saveFile creds faults := by
    simp [CredentialBackends.save, complete, keyring]
  rw [SavesOrKeeps, saved, CredentialBackends.saveFile]
  by_cases fails : (faults.writeTemporary || faults.replaceFile) = true
  · rw [if_pos fails]
    rfl
  · rw [if_neg fails]
    simp [Except.isOk, Except.toBool, CredentialBackends.load, CredentialBackends.loadKeyring, CredentialBackends.loadFile,
      keyring, complete]

/-- **When saving is all or nothing.** -/
theorem savesOrKeeps_iff (b : CredentialBackends) (creds : SwitchCredentials) (faults : CredentialFaults) :
    SavesOrKeeps b creds faults ↔ Settles b creds faults := by
  by_cases complete : creds.complete = true
  swap
  · simp [SavesOrKeeps, CredentialBackends.save, complete, Settles, Except.isOk, Except.toBool]
  cases keyring : b.keyring with
  | none => simp [savesOrKeeps_fileOnly complete keyring, Settles, keyring]
  | some entries =>
    simp only [Settles, complete, keyring, Option.mem_some_iff, forall_eq', forall_const]
    rcases save_cases complete keyring with ⟨made, storage, after, saved, entriesAfter, fileAfter⟩ |
      ⟨failed, exc, saved⟩
    · have keeps : SavesOrKeeps b creds faults ↔ after.load = some creds := by
        rw [SavesOrKeeps, saved]
        exact Iff.rfl
      simp only [keeps, made, true_and, not_true_eq_false, false_and, or_false]
      by_cases passed : PassedOver entries faults
      · -- the file is loaded
        have file : after.file = .document creds := by
          refine fileAfter.resolve_left fun all => ?_
          rw [PassedOver, all] at passed
          cases passed.1
        have beyond := load_of_not_readable entriesAfter ((readable_overwritten complete).not.mpr (not_not.mpr passed))
        rw [beyond]
        simp [CredentialBackends.loadBeyond, CredentialBackends.loadFile, file, complete, passed]
      · rw [load_of_readable entriesAfter ((readable_overwritten complete).mpr passed), Option.some_inj,
          ofFields_overwritten_eq_iff, written_readEntry_iff]
        simp only [passed, false_or, and_comm, eq_comm]
    · have keeps : SavesOrKeeps b creds faults ↔
          ({ b with keyring := some (overwritten creds faults entries) } : CredentialBackends).load =
            b.load := by
        rw [SavesOrKeeps, saved]
        exact Iff.rfl
      simp only [keeps, failed, false_and, not_false_eq_true, true_and, false_or]
      by_cases passed : PassedOver entries faults
      · have before := load_of_not_readable keyring (not_readable_of_passedOver passed)
        rw [before, load_of_not_readable rfl ((readable_overwritten complete).not.mpr (not_not.mpr passed))]
        simp only [passed, true_or, iff_true]
        rfl
      · rw [load_of_readable rfl ((readable_overwritten complete).mpr passed)]
        simp only [passed, false_or]
        constructor
        · intro same
          exact ⟨_, same.symm, ofFields_overwritten_eq_iff.mp rfl⟩
        · rintro ⟨old, loaded, agrees⟩
          rw [loaded, ofFields_overwritten_eq_iff.mpr agrees]

/-- The login of a switch that is replaced by another one. -/
def formerCredentials : SwitchCredentials where
  switchHost := "192.0.2.1"
  switchUsername := "admin"
  switchPassword := "former"
  switchEnableSecret := "former"

def nextCredentials : SwitchCredentials where
  switchHost := "192.0.2.2"
  switchUsername := "operator"
  switchPassword := "next"
  switchEnableSecret := "next"

/-- The host is written and the user name is not: the old login is loaded for the new host. -/
theorem not_savesOrKeeps_partial :
    ¬ ∀ b creds faults, SavesOrKeeps b creds faults := by
  intro claimed
  have mixed : (CredentialBackends.save { keyring := some fun k => some (formerCredentials.field k) }
      nextCredentials { setPassword := fun k => decide (k = .switchUsername) }).2.load =
        some { formerCredentials with switchHost := "192.0.2.2" } := by
    decide +kernel
  have kept := claimed { keyring := some fun k => some (formerCredentials.field k) } nextCredentials
    { setPassword := fun k => decide (k = .switchUsername) }
  rw [SavesOrKeeps, mixed] at kept
  revert kept
  decide +kernel

end SwitchOps
