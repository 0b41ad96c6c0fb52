import Mathlib.Logic.Function.Basic
import SwitchOps.Lib.Machine
import SwitchOps.Ssh.HostKeys

/-!
# Trust on first use under concurrent connections

Any number of threads, each of which makes one connection after another to hosts that present
whatever keys they like. Every operation is a step, and several first connections to a host may be
under way at once. What is in the trust file stays in it, and every connection that succeeds
presented a key that is in it (`trustedOnFirstUse`).
-/

namespace SwitchOps

open Effects Effects.Program Machines

/-! ## What a program knows of the trust file -/

/-- Whether a program holds the lock, the pins it has loaded since it took it, and the pins it has
seen last. All three are ghosts. -/
structure HostKeyHold where
  holding : Bool := false
  loaded : Option HostKeys := none
  seen : HostKeys := []

namespace HostKeyHold

def Released (g : HostKeyHold) : Prop := g.holding = false ∧ g.loaded = none

def next (g : HostKeyHold) : (effect : SshEffect) → effect.Answer → HostKeyHold
  | .acquire, _ => { g with holding := true, loaded := none }
  | .release, _ => { g with holding := false, loaded := none }
  | .load, file =>
    match TrustFile.content file with
    | some keys => { g with loaded := some keys, seen := keys }
    | none => g
  | .replace keys, outcome =>
    match (outcome : Except Exn Unit) with
    | .ok _ => { g with loaded := some keys, seen := keys }
    | .error _ => { g with loaded := none }
  | _, _ => g

end HostKeyHold

/-- The file is replaced only by the pins loaded under the same lock, with one key of a host that had
none. -/
def pinning : Discipline SshEffect SshEffect.Answer HostKeyHold where
  allowed g
    | .acquire => g.Released
    | .release | .load => g.holding = true
    | .replace keys => ∃ old host key, g.loaded = some old ∧ HostKeys.lookup old host = none ∧
        keys = HostKeys.add old host key
    | _ => True
  answers _ _ _ := True
  next := HostKeyHold.next

/-- The key of a host is one of its pins. -/
def HostKeys.Pins (keys : HostKeys) (host : Text) (key : PKey) : Prop :=
  ∃ pins, keys.lookup host = some pins ∧ pins.get? key.name = some key

section programs

variable {α : Type} {g : HostKeyHold} {host : Text} {key : PKey}

theorem meets_withHostKeyLock {body : SshAction α} {Q : Except Exn α → HostKeyHold → Prop}
    (released : g.Released)
    (h : Meets pinning body.run { g with holding := true } fun r g' =>
      g'.holding = true ∧ Q r { g' with holding := false, loaded := none }) :
    Meets pinning (withHostKeyLock body) g Q := by
  have taken : { g with holding := true, loaded := none } = { g with holding := true } := by
    rw [← released.2]
  refine meets_bind.mpr (meets_perform.mpr ⟨released, fun _ _ => meets_bind.mpr ?_⟩)
  rw [show pinning.next g .acquire _ = _ from taken]
  refine h.mono fun r g' after => ?_
  exact meets_bind.mpr (meets_perform.mpr ⟨after.1, fun _ _ => after.2⟩)

theorem meets_loadHostKeys {Q : Except Exn HostKeys → HostKeyHold → Prop} (holding : g.holding = true)
    (loaded : ∀ keys, Q (.ok keys) { g with loaded := some keys, seen := keys })
    (invalid : ∀ exc, Q (.error exc) g) : Meets pinning loadHostKeys g Q := by
  refine meets_bind.mpr (meets_perform.mpr ⟨holding, fun file _ => ?_⟩)
  cases content : TrustFile.content file with
  | none =>
    rw [show pinning.next g .load file = g by simp [pinning, HostKeyHold.next, content]]
    exact invalid _
  | some keys =>
    rw [show pinning.next g .load file = { g with loaded := some keys, seen := keys } by
      simp [pinning, HostKeyHold.next, content]]
    exact loaded keys

theorem meets_isHostPinned {Q : Except Exn Bool → HostKeyHold → Prop} (released : g.Released)
    (h : ∀ r g', g'.Released → Q r g') : Meets pinning (isHostPinned host) g Q := by
  refine meets_withHostKeyLock released (meets_raising_bind.mpr (meets_loadHostKeys rfl ?_ ?_))
  · intro keys
    exact ⟨rfl, h _ _ ⟨rfl, rfl⟩⟩
  · intro exc
    exact ⟨rfl, h _ _ ⟨rfl, rfl⟩⟩

theorem meets_verifyOrPin {keys : HostKeys} (loaded : g.loaded = some keys) (seen : g.seen = keys)
    (holding : g.holding = true) :
    Meets pinning (verifyOrPin host key keys) g fun r g' =>
      g'.holding = true ∧ ∀ new, r = .ok new → g'.seen.Pins host key := by
  unfold verifyOrPin
  cases known : keys.lookup host with
  | some existing =>
    dsimp only
    split
    · next same => exact ⟨holding, fun _ _ => ⟨existing, by rw [seen, known], same⟩⟩
    · exact ⟨holding, fun new other => by cases other⟩
  | none =>
    refine ⟨trivial, fun saved _ => ?_⟩
    cases saved with
    | error exc => exact ⟨holding, fun new other => by cases other⟩
    | ok _ =>
      refine ⟨⟨keys, host, key, loaded, known, rfl⟩, fun replaced _ => ?_⟩
      cases replaced with
      | error exc => exact ⟨holding, fun new other => by cases other⟩
      | ok _ =>
        refine ⟨holding, fun _ _ => ⟨[(key.name, key)], HostKeys.lookup_add_self known key, ?_⟩⟩
        simp [Dict.get?]

theorem meets_verifyAndPinHostKey {Q : Except Exn Bool → HostKeyHold → Prop} (released : g.Released)
    (h : ∀ r g', g'.Released → (∀ new, r = .ok new → g'.seen.Pins host key) → Q r g') :
    Meets pinning (verifyAndPinHostKey host key) g Q := by
  refine meets_withHostKeyLock released (meets_raising_bind.mpr (meets_loadHostKeys rfl ?_ ?_))
  · intro keys
    refine (meets_verifyOrPin (g := { g with holding := true, loaded := some keys, seen := keys })
      rfl rfl rfl).mono fun r g' after => ?_
    exact ⟨after.1, h _ _ ⟨rfl, rfl⟩ after.2⟩
  · intro exc
    exact ⟨rfl, h _ _ ⟨rfl, rfl⟩ fun new other => by cases other⟩

/-- What a connection owes: it has released the lock, and a key it succeeded with is pinned. -/
def Verified (host : Text) (r : Except Exn PKey) (g : HostKeyHold) : Prop :=
  g.Released ∧ ∀ key, r = .ok key → g.seen.Pins host key

/-- What follows a handshake, whatever is made of its exceptions. -/
theorem meets_established {client : SshClientKind} {key : PKey} (released : g.Released) :
    Meets pinning (do
      let _ ← verifyAndPinHostKey host key
      let _ ← (ExceptT.mk (askSsh (.openSession client)) : SshAction Unit)
      return key : SshAction PKey) g (Verified host) := by
  refine meets_raising_bind.mpr (meets_verifyAndPinHostKey released ?_)
  intro r g' released pinned
  cases r with
  | error exc => exact ⟨released, fun key other => by cases other⟩
  | ok new =>
    refine meets_raising_bind.mpr ⟨trivial, fun outcome _ => ?_⟩
    cases outcome with
    | error exc => exact ⟨released, fun key other => by cases other⟩
    | ok _ =>
      refine ⟨released, fun key' same => ?_⟩
      cases same
      exact pinned new rfl

theorem meets_connectNetmiko (released : g.Released) :
    Meets pinning (connectNetmiko host) g (Verified host) := by
  refine meets_raising_bind.mpr (meets_isHostPinned released ?_)
  intro r g' released
  cases r with
  | error exc => exact ⟨released, fun key other => by cases other⟩
  | ok pinned =>
    refine Meets.bind (P := Verified host) (meets_raising_bind.mpr ⟨trivial, fun outcome _ => ?_⟩) ?_
    · cases outcome with
      | error failure => exact ⟨released, fun key other => by cases other⟩
      | ok key => exact meets_established released
    · intro r g'' verified
      refine ⟨verified.1, fun key same => ?_⟩
      cases r with
      | error exc => cases same
      | ok key' => exact verified.2 key (by cases same; rfl)

theorem meets_connectLegacy (released : g.Released) :
    Meets pinning (connectLegacy host) g (Verified host) := by
  refine meets_raising_bind.mpr (Meets.mono (Q := fun _ g' => g'.Released) ?_ ?_)
  · refine meets_raising_bind.mpr (meets_isHostPinned released ?_)
    intro r g' released
    rcases r with exc | _ | _
    · exact released
    · exact released
    · refine meets_raising_bind.mpr ⟨trivial, fun file _ => ?_⟩
      rcases file with _ | _ | keys <;> exact released
  · intro r g' released
    cases r with
    | error exc => exact ⟨released, fun key other => by cases other⟩
    | ok strict =>
      refine meets_raising_bind.mpr ⟨trivial, fun outcome _ => ?_⟩
      cases outcome with
      | error failure => exact ⟨released, fun key other => by cases other⟩
      | ok key => exact meets_established released

theorem meets_connectSwitchClient {legacySsh : Bool} (released : g.Released) :
    Meets pinning (connectSwitchClient legacySsh host) g (Verified host) := by
  refine (meets_connectNetmiko released).bind fun r g' verified => ?_
  split
  · split
    · exact meets_connectLegacy verified.1
    · exact ⟨verified.1, fun key other => by cases other⟩
  · exact verified

end programs

/-! ## Connections under way -/

/-- The ways to connect. -/
inductive SshCall
  | netmiko (host : Text)
  | legacy (host : Text)
  | switchClient (legacySsh : Bool) (host : Text)
  deriving DecidableEq, Repr

def SshCall.host : SshCall → Text
  | .netmiko host | .legacy host | .switchClient _ host => host

def SshCall.program : SshCall → SshProc (Except Exn PKey)
  | .netmiko host => (connectNetmiko host).run
  | .legacy host => (connectLegacy host).run
  | .switchClient legacySsh host => (connectSwitchClient legacySsh host).run

/-- A connection under way; what it knows is a ghost. -/
structure SshThread where
  host : Text
  program : SshProc (Except Exn PKey)
  hold : HostKeyHold := {}

/-- The trust file, its lock, and the threads by their names `ι`. The connections that succeeded, with
the keys they were presented, are a ghost. -/
structure SshSystem (ι : Type) where
  file : TrustFile
  lock : Option ι := none
  threads : ι → Option SshThread := fun _ => none
  succeeded : List (Text × PKey) := []

inductive SshMove (ι : Type)
  | connect (t : ι) (call : SshCall)
  /-- The next operation of a connection. A trust file that raised when it was replaced may still have
  been replaced. -/
  | work (t : ι) (answers : (effect : SshEffect) → effect.Answer) (replaced : Bool)
  | finish (t : ι)

namespace SshSystem

variable {ι : Type}

/-- The trust file answers what is asked of it. -/
def answer (s : SshSystem ι) (answers : (effect : SshEffect) → effect.Answer) :
    (effect : SshEffect) → effect.Answer
  | .load | .loadForClient => s.file
  | effect => answers effect

variable [DecidableEq ι]

/-- What an operation does to the file and its lock, unless the thread has to wait. -/
def affect (s : SshSystem ι) (t : ι) (replaced : Bool) :
    (effect : SshEffect) → effect.Answer → Option (SshSystem ι)
  | .acquire, _ => if s.lock = none then some { s with lock := some t } else none
  | .release, _ => if s.lock = some t then some { s with lock := none } else none
  | .replace keys, outcome =>
    if (outcome : Except Exn Unit).isOk || replaced then some { s with file := .pins keys }
    else some s
  | _, _ => some s

def step (s : SshSystem ι) : SshMove ι → Option (SshSystem ι)
  | .connect t call =>
    match s.threads t with
    | none => some { s with
        threads := Function.update s.threads t (some { host := call.host, program := call.program }) }
    | some _ => none
  | .work t answers replaced =>
    match s.threads t with
    | some ⟨host, .op effect k, hold⟩ =>
      (s.affect t replaced effect (s.answer answers effect)).map fun s' => { s' with
        threads := Function.update s.threads t (some ⟨host, k (s.answer answers effect),
          hold.next effect (s.answer answers effect)⟩) }
    | _ => none
  | .finish t =>
    match s.threads t with
    | some ⟨host, .pure outcome, _⟩ => some { s with
        threads := Function.update s.threads t none
        succeeded := match outcome with
          | .ok key => s.succeeded ++ [(host, key)]
          | .error _ => s.succeeded }
    | _ => none

/-- The pins of a host in the trust file. -/
def pins (s : SshSystem ι) (host : Text) : Option (Dict Text PKey) :=
  s.file.content.bind fun keys => keys.lookup host

/-- What is pinned stays pinned, and a host that had no pin gets one key at most. -/
structure Grows (s s' : SshSystem ι) : Prop where
  kept : ∀ host pins, s.pins host = some pins → s'.pins host = some pins
  fresh : ∀ host pins, s.pins host = none → s'.pins host = some pins → ∃ key, pins = [(PKey.name key, key)]

/-- What a connection knows of the file is true. -/
structure Knows (s : SshSystem ι) (t : ι) (g : HostKeyHold) : Prop where
  locked : g.holding = true → s.lock = some t
  loaded : ∀ keys, g.loaded = some keys → g.holding = true ∧ s.file.content = some keys
  seen : ∀ host pins, g.seen.lookup host = some pins → s.pins host = some pins

variable {s s' u : SshSystem ι} {t : ι} {g : HostKeyHold}

omit [DecidableEq ι] in
theorem Grows.of_file (h : s'.file = s.file) : Grows s s' where
  kept host pins known := by
    rw [SshSystem.pins, h]
    exact known
  fresh host pins none some := by
    rw [SshSystem.pins, h] at some
    rw [SshSystem.pins, some] at none
    cases none

omit [DecidableEq ι] in
/-- Adding a key of a host that had none. -/
theorem Grows.of_add {old : HostKeys} {host : Text} {key : PKey} (before : s.file.content = some old)
    (unknown : old.lookup host = none) (after : s'.file = .pins (old.add host key)) : Grows s s' := by
  have there : ∀ other, s.pins other = old.lookup other := fun other => by simp [pins, before]
  have here : ∀ other, s'.pins other = (old.add host key).lookup other := fun other => by
    simp [pins, after, TrustFile.content]
  constructor
  · intro other pins known
    have different : host ≠ other := by
      rintro rfl
      rw [there, unknown] at known
      cases known
    rw [here, HostKeys.lookup_add_ne old different, ← there, known]
  · intro other pins none some
    by_cases same : host = other
    · subst same
      rw [here, HostKeys.lookup_add_self unknown] at some
      exact ⟨key, (Option.some.inj some).symm⟩
    · rw [here, HostKeys.lookup_add_ne old same, ← there, none] at some
      cases some

/-- Only a connection that holds the lock replaces the file, by pins that grow. -/
theorem affect_grows {replaced : Bool} {effect : SshEffect} {answer : effect.Answer}
    (knows : s.Knows t g) (allowed : pinning.allowed g effect)
    (affected : s.affect t replaced effect answer = some s') :
    Grows s s' ∧ (s'.file = s.file ∨ s.lock = some t) := by
  cases effect with
  | acquire =>
    obtain ⟨-, affected⟩ := Option.ite_none_right_eq_some.mp affected
    obtain rfl := Option.some.inj affected
    exact ⟨.of_file rfl, .inl rfl⟩
  | release =>
    obtain ⟨-, affected⟩ := Option.ite_none_right_eq_some.mp affected
    obtain rfl := Option.some.inj affected
    exact ⟨.of_file rfl, .inl rfl⟩
  | replace keys =>
    obtain ⟨old, host, key, loaded, unknown, rfl⟩ := allowed
    obtain ⟨holding, content⟩ := knows.loaded old loaded
    simp only [affect] at affected
    split at affected
    · obtain rfl := Option.some.inj affected
      exact ⟨.of_add content unknown rfl, .inr (knows.locked holding)⟩
    · obtain rfl := Option.some.inj affected
      exact ⟨.of_file rfl, .inl rfl⟩
  | _ =>
    obtain rfl := Option.some.inj affected
    exact ⟨.of_file rfl, .inl rfl⟩

/-- What a connection knows is still true after a step of another one. -/
theorem Knows.of_other {other : ι} {replaced : Bool} {effect : SshEffect} {answer : effect.Answer}
    {g' : HostKeyHold} (h : s.Knows t g) (different : t ≠ other) (knows : s.Knows other g')
    (allowed : pinning.allowed g' effect) (affected : s.affect other replaced effect answer = some s') :
    s'.Knows t g := by
  obtain ⟨grows, file⟩ := affect_grows knows allowed affected
  have lock : s.lock = some t → s'.lock = some t := by
    intro mine
    cases effect with
    | acquire =>
      obtain ⟨free, -⟩ := Option.ite_none_right_eq_some.mp affected
      rw [mine] at free
      cases free
    | release =>
      obtain ⟨theirs, -⟩ := Option.ite_none_right_eq_some.mp affected
      rw [mine] at theirs
      exact absurd (Option.some.inj theirs) different
    | replace keys =>
      simp only [affect] at affected
      split at affected <;> (obtain rfl := Option.some.inj affected; exact mine)
    | _ =>
      obtain rfl := Option.some.inj affected
      exact mine
  refine ⟨fun holding => lock (h.locked holding), fun keys loaded => ?_,
    fun host pins seen => grows.kept host pins (h.seen host pins seen)⟩
  obtain ⟨holding, content⟩ := h.loaded keys loaded
  rcases file with same | theirs
  · exact ⟨holding, by rw [same, content]⟩
  · -- the file is replaced under the lock, which is held here
    rw [h.locked holding] at theirs
    exact absurd (Option.some.inj theirs) different

/-- What a connection knows after a step of its own. -/
theorem Knows.next {replaced : Bool} {effect : SshEffect}
    {answers : (effect : SshEffect) → effect.Answer} (h : s.Knows t g)
    (allowed : pinning.allowed g effect)
    (affected : s.affect t replaced effect (s.answer answers effect) = some s') :
    s'.Knows t (g.next effect (s.answer answers effect)) := by
  cases effect with
  | acquire =>
    obtain ⟨-, affected⟩ := Option.ite_none_right_eq_some.mp affected
    obtain rfl := Option.some.inj affected
    exact ⟨fun _ => rfl, fun keys other => (by cases other), h.seen⟩
  | release =>
    obtain ⟨-, affected⟩ := Option.ite_none_right_eq_some.mp affected
    obtain rfl := Option.some.inj affected
    exact ⟨fun other => (by cases other), fun keys other => (by cases other), h.seen⟩
  | load =>
    obtain rfl := Option.some.inj affected
    cases content : s.file.content with
    | none => simpa [HostKeyHold.next, answer, content] using h
    | some keys =>
      simp only [HostKeyHold.next, answer, content]
      refine ⟨h.locked, fun keys' same => ?_, fun host held known => ?_⟩
      · obtain rfl := Option.some.inj same
        exact ⟨allowed, content⟩
      · simpa [pins, content] using known
  | replace keys =>
    have grows := (affect_grows h allowed affected).1
    obtain ⟨old, host, key, loaded, unknown, rfl⟩ := allowed
    obtain ⟨holding, content⟩ := h.loaded old loaded
    have mine := h.locked holding
    cases outcome : (s.answer answers (.replace (old.add host key)) : Except Exn Unit) with
    | ok done =>
      simp only [affect, outcome, Except.isOk, Except.toBool, Bool.true_or, if_true] at affected
      obtain rfl := Option.some.inj affected
      simp only [HostKeyHold.next]
      refine ⟨fun _ => mine, fun keys' same => ?_, fun host held known => ?_⟩
      · obtain rfl := Option.some.inj same
        exact ⟨holding, rfl⟩
      · simpa [pins, TrustFile.content] using known
    | error exc =>
      simp only [HostKeyHold.next]
      refine ⟨fun _ => ?_, fun keys' other => (by cases other),
        fun host held known => grows.kept host held (h.seen host held known)⟩
      simp only [affect] at affected
      split at affected <;> (obtain rfl := Option.some.inj affected; exact mine)
  | loadForClient | save keys | handshake client host strict | openSession client =>
    obtain rfl := Option.some.inj affected
    exact h

/-! ## Every run -/

/-- What every connection under way knows is true, it obeys the discipline, and the keys that
connections succeeded with are pinned. -/
structure Trusting (s : SshSystem ι) : Prop where
  knows : ∀ t th, s.threads t = some th → s.Knows t th.hold
  obeys : ∀ t th, s.threads t = some th → Meets pinning th.program th.hold (Verified th.host)
  succeeded : ∀ host key, (host, key) ∈ s.succeeded →
    ∃ pins, s.pins host = some pins ∧ pins.get? key.name = some key

theorem SshCall.meets (call : SshCall) :
    Meets pinning call.program {} (Verified call.host) := by
  cases call with
  | netmiko host => exact meets_connectNetmiko ⟨rfl, rfl⟩
  | legacy host => exact meets_connectLegacy ⟨rfl, rfl⟩
  | switchClient legacySsh host => exact meets_connectSwitchClient ⟨rfl, rfl⟩

/-- What a step can do. -/
theorem step_cases {a : SshMove ι} (taken : s.step a = some s') :
    (∃ t call, s' = { s with
      threads := Function.update s.threads t
        (some { host := SshCall.host call, program := call.program }) }) ∨
    (∃ t answers replaced host effect k hold s₁, s.threads t = some ⟨host, .op effect k, hold⟩ ∧
      s.affect t replaced effect (s.answer answers effect) = some s₁ ∧
      s' = { s₁ with threads := Function.update s.threads t (some ⟨host, k (s.answer answers effect),
        hold.next effect (s.answer answers effect)⟩) }) ∨
    ∃ t host outcome hold, s.threads t = some ⟨host, .pure outcome, hold⟩ ∧
      s' = { s with
        threads := Function.update s.threads t none
        succeeded := match outcome with
          | .ok key => s.succeeded ++ [(host, key)]
          | .error _ => s.succeeded } := by
  cases a with
  | connect t call =>
    simp only [step] at taken
    split at taken
    · exact .inl ⟨t, call, (Option.some.inj taken).symm⟩
    · cases taken
  | work t answers replaced =>
    simp only [step] at taken
    split at taken
    · next host effect k hold here =>
      obtain ⟨s₁, affected, rfl⟩ := Option.map_eq_some_iff.mp taken
      exact .inr (.inl ⟨t, answers, replaced, host, effect, k, hold, s₁, here, affected, rfl⟩)
    · cases taken
  | finish t =>
    simp only [step] at taken
    split at taken
    · next host outcome hold here =>
      exact .inr (.inr ⟨t, host, outcome, hold, here, (Option.some.inj taken).symm⟩)
    · cases taken

/-- An operation leaves the list of successes alone. -/
theorem affect_succeeded {replaced : Bool} {effect : SshEffect} {answer : effect.Answer}
    (affected : s.affect t replaced effect answer = some s') : s'.succeeded = s.succeeded := by
  cases effect with
  | acquire | release =>
    obtain ⟨-, affected⟩ := Option.ite_none_right_eq_some.mp affected
    obtain rfl := Option.some.inj affected
    rfl
  | replace keys =>
    simp only [affect] at affected
    split at affected <;> (obtain rfl := Option.some.inj affected; rfl)
  | _ =>
    obtain rfl := Option.some.inj affected
    rfl

theorem Trusting.keep {a : SshMove ι} (h : s.Trusting) (taken : s.step a = some s') :
    s'.Trusting ∧ Grows s s' := by
  obtain ⟨t, call, rfl⟩ | ⟨t, answers, replaced, host, effect, k, hold, s₁, here, affected, rfl⟩ |
    ⟨t, host, outcome, hold, here, rfl⟩ := step_cases taken
  · refine ⟨⟨fun t' th there => ?_, fun t' th there => ?_, h.succeeded⟩, .of_file rfl⟩
    · rcases update_cases there with ⟨rfl, same⟩ | ⟨different, there⟩
      · obtain rfl := Option.some.inj same
        exact ⟨fun other => (by cases other), fun keys other => (by cases other),
          fun host held other => (by cases other)⟩
      · have known := h.knows t' th there
        exact ⟨known.locked, known.loaded, known.seen⟩
    · rcases update_cases there with ⟨rfl, same⟩ | ⟨different, there⟩
      · obtain rfl := Option.some.inj same
        exact SshCall.meets call
      · exact h.obeys t' th there
  · have knows := h.knows t _ here
    obtain ⟨allowed, continues⟩ := h.obeys t _ here
    obtain ⟨grows, -⟩ := affect_grows knows allowed affected
    refine ⟨⟨fun t' th there => ?_, fun t' th there => ?_, fun host' key mem => ?_⟩,
      ⟨grows.kept, grows.fresh⟩⟩
    · rcases update_cases there with ⟨rfl, same⟩ | ⟨different, there⟩
      · obtain rfl := Option.some.inj same
        have known := knows.next allowed affected
        exact ⟨known.locked, known.loaded, known.seen⟩
      · have known := (h.knows t' th there).of_other different knows allowed affected
        exact ⟨known.locked, known.loaded, known.seen⟩
    · rcases update_cases there with ⟨rfl, same⟩ | ⟨different, there⟩
      · obtain rfl := Option.some.inj same
        exact continues _ trivial
      · exact h.obeys t' th there
    · have before : (host', key) ∈ s.succeeded := by
        rw [← affect_succeeded affected]
        exact mem
      obtain ⟨held, known, pinned⟩ := h.succeeded host' key before
      exact ⟨held, grows.kept host' held known, pinned⟩
  · refine ⟨⟨fun t' th there => ?_, fun t' th there => ?_, fun host' key mem => ?_⟩, .of_file rfl⟩
    · rcases update_cases there with ⟨rfl, other⟩ | ⟨different, there⟩
      · cases other
      · have known := h.knows t' th there
        exact ⟨known.locked, known.loaded, known.seen⟩
    · rcases update_cases there with ⟨rfl, other⟩ | ⟨different, there⟩
      · cases other
      · exact h.obeys t' th there
    · cases outcome with
      | error exc => exact h.succeeded host' key mem
      | ok presented =>
        rcases List.mem_append.mp mem with mem | mem
        · exact h.succeeded host' key mem
        · -- the connection ends with a key that it has seen pinned
          obtain ⟨rfl, rfl⟩ : host' = host ∧ key = presented := by simpa using mem
          obtain ⟨held, known, pinned⟩ := (h.obeys t _ here).2 key rfl
          exact ⟨held, (h.knows t _ here).seen host' held known, pinned⟩

variable {file : TrustFile}

omit [DecidableEq ι] in
theorem trusting_start : ({ file } : SshSystem ι).Trusting where
  knows _ _ none := by cases none
  obeys _ _ none := by cases none
  succeeded _ _ none := by cases none

theorem Trusting.along (h : s.Trusting) (later : Reaches step Always s u) : u.Trusting ∧ Grows s u := by
  refine later.invariant (I := fun u => u.Trusting ∧ Grows s u) ⟨h, .of_file rfl⟩ ?_
  intro v a w before _ taken
  obtain ⟨trusting, grows⟩ := before.1.keep taken
  refine ⟨trusting, fun host held known => grows.kept host held (before.2.kept host held known), ?_⟩
  intro host held none known
  cases between : v.pins host with
  | none => exact grows.fresh host held between known
  | some held' =>
    rw [grows.kept host held' between] at known
    obtain rfl := Option.some.inj known
    exact before.2.fresh host held' none between

/-- **Host keys are trusted on first use, for good**: from any state that a run reaches, every pin stays
as it is, every connection that succeeds presents a pinned key, and a host that the file did not know
has one key, which all its connections present. -/
theorem trustedOnFirstUse (start : Reaches step Always ({ file } : SshSystem ι) s)
    (later : Reaches step Always s u) :
    (∀ host held, s.pins host = some held → u.pins host = some held) ∧
    (∀ host key, (host, key) ∈ u.succeeded →
      ∃ held, u.pins host = some held ∧ held.get? key.name = some key) ∧
    ∀ host held, ({ file } : SshSystem ι).pins host = none → s.pins host = some held →
      ∃ key, held = [(key.name, key)] ∧ ∀ key', (host, key') ∈ u.succeeded → key' = key := by
  obtain ⟨trusting, fresh⟩ := trusting_start.along start
  obtain ⟨trusting', grows⟩ := trusting.along later
  refine ⟨grows.kept, trusting'.succeeded, fun host held unknown known => ?_⟩
  obtain ⟨key, rfl⟩ := fresh.fresh host held unknown known
  refine ⟨key, rfl, fun key' succeeded => ?_⟩
  obtain ⟨held, known', pinned⟩ := trusting'.succeeded host key' succeeded
  rw [grows.kept host _ known] at known'
  obtain rfl := Option.some.inj known'
  by_cases same : key.name = key'.name
  · simpa [Dict.get?, same, eq_comm] using pinned
  · simp [Dict.get?, same] at pinned

/-- A host that presents `key` and accepts the connection. -/
def presenting (key : PKey) : (effect : SshEffect) → effect.Answer
  | .acquire | .release => ()
  | .load | .loadForClient => .absent
  | .save _ | .replace _ | .openSession _ => .ok ()
  | .handshake _ _ _ => .ok key

def firstKey : PKey := ⟨"ssh-rsa", "first"⟩

def otherKey : PKey := ⟨"ssh-ed25519", "other"⟩

/-- Two first connections at once: the second is presented another key, of another type. -/
theorem trustedOnFirstUse_atOnce :
    ∃ s u : SshSystem (Fin 2), Reaches step Always { file := .absent } s ∧ Reaches step Always s u ∧
      u.succeeded = [("192.0.2.1".toList, firstKey)] ∧ u.threads 1 = none ∧
      ∀ key, ("192.0.2.1".toList, key) ∈ u.succeeded → key = firstKey := by
  let work (t : Fin 2) (key : PKey) : SshMove (Fin 2) := .work t (presenting key) false
  obtain ⟨s, u, start, later, ends⟩ := exists_reaches_of_runs step ({ file := .absent } : SshSystem (Fin 2))
    ([.connect 0 (.netmiko "192.0.2.1"), .connect 1 (.legacy "192.0.2.1")] ++
      List.replicate 4 (work 0 firstKey) ++ List.replicate 4 (work 1 otherKey) ++
      List.replicate 6 (work 0 firstKey))
    ([.finish 0] ++ List.replicate 3 (work 1 otherKey) ++ [.finish 1])
    (fun s u => decide (s.pins "192.0.2.1" = some [("ssh-rsa".toList, firstKey)]) &&
      decide (u.succeeded = [("192.0.2.1".toList, firstKey)]) && (u.threads 1).isNone)
    (by decide +kernel)
  simp only [Bool.and_eq_true, decide_eq_true_eq, Option.isNone_iff_eq_none] at ends
  obtain ⟨⟨pinned, succeeded⟩, idle⟩ := ends
  obtain ⟨key, same, only⟩ := (trustedOnFirstUse start later).2.2 _ _ rfl pinned
  refine ⟨s, u, start, later, succeeded, idle, fun key' mem => ?_⟩
  rw [only key' mem]
  exact (Prod.mk.inj (List.cons.inj same).1).2.symm

end SshSystem

end SwitchOps
