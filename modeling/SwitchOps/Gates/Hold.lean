import SwitchOps.Assurance.Frame
import SwitchOps.Operations.Commands

/-!
# What a thread holds

The discipline of the two locks, for every program of the write path: what is behind a lock is
touched only under it, the write lock is not taken while the policy lock is held unless it is
held already, and commands are sent only in a state in which all three gates are known to be open
(`Hold.Permits`). What a thread has read under a lock stays known until it releases the lock.
-/

namespace SwitchOps

open Effects Effects.Program

/-- How often a thread holds the two locks, what it has read or written under them, which guards
let it pass since it has held both, and the device that its plan is bound to. -/
structure Hold where
  write : Nat := 0
  policy : Nat := 0
  unlocked : Option Bool := none
  file : Option PolicyFile := none
  authorized : List (Option Text × Text) := []
  plan : Option Text := none

/-- The hosts that may be configured while a thread runs, and the clients that it sends through. -/
structure Reach where
  hosts : Option Text → Prop
  clients : Client → Prop

namespace Hold

def depth (g : Hold) : Lock → Nat
  | .write => g.write
  | .policy => g.policy

def acquire (g : Hold) : Lock → Hold
  | .write => { g with write := g.write + 1 }
  | .policy => { g with policy := g.policy + 1 }

/-- What was known under a lock is forgotten when it is released for good, and no guard has let the
thread pass any more. -/
def release (g : Hold) : Lock → Hold
  | .write =>
    if g.write = 1 then { g with write := 0, unlocked := none, authorized := [] }
    else { g with write := g.write - 1 }
  | .policy =>
    if g.policy = 1 then { g with policy := 0, file := none, authorized := [] }
    else { g with policy := g.policy - 1 }

def next (g : Hold) : (effect : Effect) → Answer effect → Hold
  | .acquire lock, _ => g.acquire lock
  | .release lock, _ => g.release lock
  | .readUnlocked, value => { g with unlocked := some value }
  | .writeUnlocked value, _ => { g with unlocked := some value }
  | .readPolicy, file => { g with file := some file }
  | .writePolicy policy, outcome =>
    -- a write that fails may have replaced the file, or not
    { g with file := match (outcome : Except Exn Unit) with
        | .ok _ => some (.document policy.toJson)
        | .error _ => none }
  | .mark (.authorized host canonical), _ =>
    { g with authorized := (host, canonical) :: g.authorized }
  | .storeGet _, found =>
    { g with plan := (found : Option ChangeSession).map (·.plan.deviceId) }
  | _, _ => g

/-- The thread knows the policy exactly while it holds its lock. -/
def KnowsPolicy (g : Hold) : Prop :=
  (g.file = none ↔ g.policy = 0) ∧ (g.policy = 0 → g.authorized = [])

def KnowsUnlocked (g : Hold) : Prop :=
  (g.unlocked = none ↔ g.write = 0) ∧ (g.write = 0 → g.authorized = [])

/-- A section that only reads the policy changes nothing. -/
theorem KnowsPolicy.release_read {g : Hold} (h : g.KnowsPolicy) {file : PolicyFile}
    (agrees : ∀ known ∈ g.file, file = known) :
    ({ g.acquire .policy with file := some file } : Hold).release .policy = g := by
  obtain ⟨write, policy, unlocked, known, authorized, plan⟩ := g
  cases known with
  | none =>
    obtain rfl : policy = 0 := h.1.mp rfl
    obtain rfl : authorized = [] := h.2 rfl
    rfl
  | some known =>
    obtain rfl := agrees known rfl
    have held : policy ≠ 0 := fun free => by cases h.1.mpr free
    simp [Hold.acquire, Hold.release, held]

theorem KnowsUnlocked.release_read {g : Hold} (h : g.KnowsUnlocked) {value : Bool}
    (agrees : ∀ known ∈ g.unlocked, value = known) :
    ({ g.acquire .write with unlocked := some value } : Hold).release .write = g := by
  obtain ⟨write, policy, unlocked, known, authorized, plan⟩ := g
  cases unlocked with
  | none =>
    obtain rfl : write = 0 := h.1.mp rfl
    obtain rfl : authorized = [] := h.2 rfl
    rfl
  | some known =>
    obtain rfl := agrees known rfl
    have held : write ≠ 0 := fun free => by cases h.1.mpr free
    simp [Hold.acquire, Hold.release, held]

theorem KnowsPolicy.of_release {g : Hold} (h : g.KnowsPolicy) {file : PolicyFile}
    (agrees : ∀ known ∈ g.file, file = known) {P : Hold → Prop} (hP : P g) :
    P (({ g.acquire .policy with file := some file } : Hold).release .policy) := by
  rw [h.release_read agrees]
  exact hP

theorem KnowsUnlocked.of_release {g : Hold} (h : g.KnowsUnlocked) {value : Bool}
    (agrees : ∀ known ∈ g.unlocked, value = known) {P : Hold → Prop} (hP : P g) :
    P (({ g.acquire .write with unlocked := some value } : Hold).release .write) := by
  rw [h.release_read agrees]
  exact hP

/-- The commands are for an interface that a guard has authorized, and all gates are open for it. -/
structure Permits [Digest] (g : Hold) (commands : List Text) : Prop where
  unlocked : g.unlocked = some true
  operable : ∃ file data host canonical line, g.file = some file ∧ file.load = some data ∧
    data.controlledWritesEnabled = true ∧ (some host, canonical) ∈ g.authorized ∧
    commands = configSequence canonical line ∧ data.stateOf host canonical = .operable

/-- What a thread may do within its reach. -/
def allowed [Digest] (reach : Reach) (g : Hold) : Effect → Prop
  | .acquire .write => g.policy = 0 ∨ 0 < g.write
  | .release lock => 0 < g.depth lock
  | .readUnlocked => 0 < g.write
  | .readPolicy => 0 < g.policy
  -- no thread changes a gate that has let it pass
  | .writeUnlocked _ => 0 < g.write ∧ g.authorized = []
  | .writePolicy _ => 0 < g.policy ∧ g.authorized = []
  | .mark (.authorized host _) => reach.hosts host ∧ noHost host = false ∧ 0 < g.write ∧ 0 < g.policy
  | .runRawAction client commands => reach.clients client ∧ g.Permits commands ∧
      ∀ device ∈ g.plan, ∃ host, reach.hosts (some host) ∧ deviceIdOf host = device
  | _ => True

end Hold

/-- The discipline of the gates: what is known under a lock is what is read there. -/
def gated [Digest] (reach : Reach) : Discipline Effect Answer Hold where
  allowed := Hold.allowed reach
  answers g effect answer :=
    match effect, answer with
    | .switchHost, host => reach.hosts host
    | .readUnlocked, value => ∀ known ∈ g.unlocked, value = known
    | .readPolicy, file => ∀ known ∈ g.file, file = known
    | _, _ => True
  next := Hold.next

/-- The operations that have nothing to do with the gates. -/
def Effect.ungated : Effect → Bool
  | .switchHost | .acquire _ | .release _ | .readUnlocked | .writeUnlocked _ | .readPolicy |
    .writePolicy _ | .storeGet _ | .runRawAction _ _ | .mark (.authorized _ _) => false
  | _ => true

section gated

variable [Digest] {reach : Reach} {g : Hold} {α : Type}

theorem gated_ungated {effect : Effect} (h : effect.ungated = true) (g : Hold) :
    (gated reach).allowed g effect ∧ ∀ answer, (gated reach).next g effect answer = g := by
  cases effect with
  | mark mark =>
    cases mark with
    | authorized _ _ => cases h
    | _ => exact ⟨trivial, fun _ => rfl⟩
  | switchHost | acquire _ | release _ | readUnlocked | writeUnlocked _ | readPolicy
  | writePolicy _ | storeGet _ | runRawAction _ _ => cases h
  | _ => exact ⟨trivial, fun _ => rfl⟩

/-- A program that has nothing to do with the gates leaves what is held alone. -/
theorem ungated_gated {p : Proc α} (hp : Only (fun effect => effect.ungated = true) p) :
    Meets (gated reach) p g fun _ g' => g' = g :=
  hp.meets (fun _ h => ⟨(gated_ungated h g).1, fun answer _ => (gated_ungated h g).2 answer⟩)
    fun _ => rfl

theorem perform_ungated {effect : Effect} (h : effect.ungated = true)
    {Q : Answer effect → Hold → Prop} (hQ : ∀ answer, Q answer g) :
    Meets (gated reach) (perform effect) g Q := by
  refine meets_perform.mpr ⟨(gated_ungated h g).1, fun answer _ => ?_⟩
  rw [(gated_ungated h g).2 answer]
  exact hQ answer

/-! ### Under a lock -/

/-- `with lock: body`. -/
theorem withLock_gated {lock : Lock} {body : Proc α} {Q : α → Hold → Prop}
    (order : lock = .write → g.policy = 0 ∨ 0 < g.write)
    (hbody : Meets (gated reach) body (g.acquire lock) fun a g' =>
      0 < g'.depth lock ∧ Q a (g'.release lock)) :
    Meets (gated reach) (withLock lock body) g Q := by
  have may : (gated reach).allowed g (.acquire lock) := by
    cases lock with
    | write => exact order rfl
    | policy => trivial
  unfold withLock
  rw [meets_bind]
  refine meets_perform.mpr ⟨may, fun _ _ => ?_⟩
  rw [meets_bind]
  refine hbody.mono fun a g' h => ?_
  rw [meets_bind]
  exact meets_perform.mpr ⟨h.1, fun _ _ => h.2⟩

theorem locked_gated {lock : Lock} {body : Action α} {Q : Except Exn α → Hold → Prop}
    (order : lock = .write → g.policy = 0 ∨ 0 < g.write)
    (hbody : Meets (gated reach) body (g.acquire lock) fun a g' =>
      0 < g'.depth lock ∧ Q a (g'.release lock)) :
    Meets (gated reach) (locked lock body) g Q := withLock_gated order hbody

theorem loadPolicy_gated {Q : Option InterfacePolicy → Hold → Prop} (held : 0 < g.policy)
    (h : ∀ file, (∀ known ∈ g.file, file = known) → Q file.load { g with file := some file }) :
    Meets (gated reach) loadPolicy g Q := by
  unfold loadPolicy
  exact meets_bind.mpr (meets_perform.mpr ⟨held, h⟩)

theorem readUnlocked_gated {Q : Bool → Hold → Prop} (held : 0 < g.write)
    (h : ∀ value, (∀ known ∈ g.unlocked, value = known) → Q value { g with unlocked := some value }) :
    Meets (gated reach) readUnlocked g Q :=
  meets_perform.mpr ⟨held, h⟩

/-- A section that reads the policy, and returns. -/
theorem policySection_gated {body : Option InterfacePolicy → Proc α} {Q : α → Hold → Prop}
    (knows : g.KnowsPolicy) (F : Option InterfacePolicy → α) (hbody : ∀ data, body data = .pure (F data))
    (hQ : ∀ file, (∀ known ∈ g.file, file = known) → Q (F file.load) g) :
    Meets (gated reach) (withLock .policy (loadPolicy >>= body)) g Q := by
  refine withLock_gated (by simp) ?_
  rw [meets_bind]
  refine loadPolicy_gated (Nat.succ_pos _) fun file agrees => ?_
  rw [hbody, meets_pure]
  refine ⟨Nat.succ_pos _, ?_⟩
  exact knows.of_release agrees (hQ file agrees)

/-! ## The methods that read the gates -/

theorem controlledWritesEnabled_gated {Q : Bool → Hold → Prop} (knows : g.KnowsPolicy)
    (hQ : ∀ enabled, (enabled = true → ∀ file ∈ g.file,
      ∃ data, file.load = some data ∧ data.controlledWritesEnabled = true) → Q enabled g) :
    Meets (gated reach) InterfacePolicyStore.controlledWritesEnabled g Q := by
  let enabled (data : Option InterfacePolicy) : Bool :=
    (data.map (·.controlledWritesEnabled)).getD false
  refine policySection_gated knows enabled (fun data => by cases data <;> rfl) fun file agrees => ?_
  refine hQ _ fun on file' here => ?_
  obtain rfl := agrees file' here
  cases loaded : file.load with
  | none => simp [enabled, loaded] at on
  | some data => exact ⟨data, rfl, by simpa [enabled, loaded] using on⟩

theorem stateFor_gated {Q : Except Exn PolicyState → Hold → Prop} (knows : g.KnowsPolicy)
    (host : Option Text) (interface : Text) (hQ : ∀ outcome, Q outcome g) :
    Meets (gated reach) (InterfacePolicyStore.stateFor host interface) g Q := by
  unfold InterfacePolicyStore.stateFor
  split
  · exact hQ _
  cases normalizeInterface interface with
  | error exc => exact hQ _
  | ok canonical =>
    refine locked_gated (by simp) (meets_quietly_bind.mpr ?_)
    refine loadPolicy_gated (Nat.succ_pos _) fun file agrees => ?_
    cases file.load with
    | none => exact ⟨Nat.succ_pos _, knows.of_release agrees (hQ _)⟩
    | some data => exact ⟨Nat.succ_pos _, knows.of_release agrees (hQ _)⟩

/-- What `assert_operable` finds operable is so in the policy that the thread holds. -/
theorem assertOperable_gated {Q : Except Exn Text → Hold → Prop} (knows : g.KnowsPolicy)
    (host : Option Text) (interface : Text) (hrefused : ∀ exc, Q (.error exc) g)
    (hoperable : ∀ canonical, assertInterfaceWritable interface = .ok canonical →
      noHost host = false → (∀ file ∈ g.file, ∃ data, file.load = some data ∧
        data.stateOf (host.getD []) canonical = .operable) → Q (.ok canonical) g) :
    Meets (gated reach) (InterfacePolicyStore.assertOperable host interface) g Q := by
  unfold InterfacePolicyStore.assertOperable
  cases writable : assertInterfaceWritable interface with
  | error exc => exact hrefused exc
  | ok canonical =>
    show Meets (gated reach) (if noHost host = true then _ else _) g Q
    cases named : noHost host with
    | true => exact hrefused _
    | false =>
      refine locked_gated (by simp) (meets_quietly_bind.mpr ?_)
      refine loadPolicy_gated (Nat.succ_pos _) fun file agrees => ?_
      cases loaded : file.load with
      | none => exact ⟨Nat.succ_pos _, knows.of_release agrees (hrefused _)⟩
      | some data =>
        dsimp only
        cases state : data.stateOf (host.getD []) canonical with
        | isProtected => exact ⟨Nat.succ_pos _, knows.of_release agrees (hrefused _)⟩
        | unmanaged => exact ⟨Nat.succ_pos _, knows.of_release agrees (hrefused _)⟩
        | operable =>
          refine ⟨Nat.succ_pos _, knows.of_release agrees (hoperable canonical writable named fun file' here => ?_)⟩
          obtain rfl := agrees file' here
          exact ⟨data, loaded, state⟩

/-- `unlocked` may be read while the policy lock is free, or under the write lock. -/
theorem unlocked_gated {Q : Bool → Hold → Prop} (knowsPolicy : g.KnowsPolicy)
    (knowsUnlocked : g.KnowsUnlocked) (order : g.policy = 0 ∨ 0 < g.write)
    (hQ : ∀ value, Q value g) : Meets (gated reach) WriteLock.unlocked g Q := by
  unfold WriteLock.unlocked
  refine withLock_gated (fun _ => order) (meets_bind.mpr ?_)
  refine readUnlocked_gated (Nat.succ_pos _) fun value agrees => ?_
  cases value with
  | false => exact ⟨Nat.succ_pos _, knowsUnlocked.of_release agrees (hQ false)⟩
  | true =>
    refine controlledWritesEnabled_gated knowsPolicy fun enabled _ => ?_
    exact ⟨Nat.succ_pos _, knowsUnlocked.of_release agrees (hQ enabled)⟩

/-! ## The guards -/

theorem writeGuard_gated {body : Action α} {Q : Except Exn α → Hold → Prop}
    (knowsPolicy : g.KnowsPolicy) (knowsUnlocked : g.KnowsUnlocked)
    (order : g.policy = 0 ∨ 0 < g.write) (hrefused : ∀ exc, Q (.error exc) g)
    (hbody : (∀ known ∈ g.unlocked, true = known) →
      Meets (gated reach) body { g with write := g.write + 1, unlocked := some true }
        fun a g' => 0 < g'.write ∧ Q a (g'.release .write)) :
    Meets (gated reach) (WriteLock.operationGuard body) g Q := by
  unfold WriteLock.operationGuard
  refine locked_gated (fun _ => order) (meets_quietly_bind.mpr ?_)
  refine readUnlocked_gated (Nat.succ_pos _) fun value agrees => ?_
  cases value with
  | false => exact ⟨Nat.succ_pos _, knowsUnlocked.of_release agrees (hrefused _)⟩
  | true =>
    refine meets_quietly_bind.mpr (controlledWritesEnabled_gated knowsPolicy fun enabled _ => ?_)
    cases enabled with
    | false => exact ⟨Nat.succ_pos _, knowsUnlocked.of_release agrees (hrefused _)⟩
    | true => exact hbody agrees

theorem policyGuard_gated {host : Option Text} {interface : Text} {body : Text → Action α}
    {Q : Except Exn α → Hold → Prop} (knows : g.KnowsPolicy) (held : 0 < g.write)
    (admitted : reach.hosts host) (hrefused : ∀ exc, Q (.error exc) g)
    (hbody : ∀ canonical file data, (∀ known ∈ g.file, file = known) →
      assertInterfaceWritable interface = .ok canonical → noHost host = false →
      file.load = some data → data.controlledWritesEnabled = true →
      data.stateOf (host.getD []) canonical = .operable →
      Meets (gated reach) (body canonical) { g with
        policy := g.policy + 1
        file := some file
        authorized := (host, canonical) :: g.authorized }
      fun a g' => 0 < g'.policy ∧ Q a (g'.release .policy)) :
    Meets (gated reach) (InterfacePolicyStore.operationGuard host interface body) g Q := by
  unfold InterfacePolicyStore.operationGuard
  refine locked_gated (by simp) (meets_quietly_bind.mpr ?_)
  refine loadPolicy_gated (Nat.succ_pos _) fun file agrees => ?_
  cases loaded : file.load with
  | none => exact ⟨Nat.succ_pos _, knows.of_release agrees (hrefused _)⟩
  | some data =>
    dsimp only
    cases enabled : data.controlledWritesEnabled with
    | false => exact ⟨Nat.succ_pos _, knows.of_release agrees (hrefused _)⟩
    | true =>
      rw [Bool.not_true, if_neg Bool.false_ne_true, meets_raising_bind]
      have knows' : ({ g.acquire .policy with file := some file } : Hold).KnowsPolicy := by
        simp [Hold.KnowsPolicy, Hold.acquire]
      refine assertOperable_gated knows' host interface (fun exc => ?_) ?_
      · exact ⟨Nat.succ_pos _, knows.of_release agrees (hrefused exc)⟩
      · intro canonical writable named operable
        obtain ⟨data', loaded', state⟩ := operable file rfl
        obtain rfl := Option.some.inj (loaded.symm.trans loaded')
        rw [continues_ok, meets_quietly_bind]
        refine meets_perform.mpr ⟨⟨admitted, named, held, Nat.succ_pos _⟩, fun _ _ => ?_⟩
        exact hbody canonical file data agrees writable named loaded enabled state

/-- A thread that both guards have let pass, for an interface of the given name. -/
structure Hold.Inside (g : Hold) (canonical : Text) : Prop where
  write : 0 < g.write
  knowsPolicy : g.KnowsPolicy
  knowsUnlocked : g.KnowsUnlocked
  permits : ∀ line, g.Permits (configSequence canonical line)

/-- **Both guards**: what runs inside knows that the gates are open, and what was held before is
held again afterwards. -/
theorem guards_gated {host : Option Text} {interface : Text} {body : Text → Action α}
    (knowsPolicy : g.KnowsPolicy) (knowsUnlocked : g.KnowsUnlocked)
    (order : g.policy = 0 ∨ 0 < g.write) (admitted : reach.hosts host)
    (hbody : ∀ canonical inside, assertInterfaceWritable interface = .ok canonical →
      noHost host = false → inside.Inside canonical → inside.plan = g.plan →
      Meets (gated reach) (body canonical) inside fun _ g' =>
        ∃ authorized, g' = { inside with authorized := authorized }) :
    Meets (gated reach) (WriteLock.operationGuard
      (InterfacePolicyStore.operationGuard host interface body)) g fun _ g' =>
        ∃ authorized, g' = { g with authorized := authorized } := by
  refine writeGuard_gated knowsPolicy knowsUnlocked order (fun _ => ⟨_, rfl⟩) fun wasUnlocked => ?_
  -- once the guards are left, only the authorizations may differ
  have leave (authorized : List (Option Text × Text)) : ∃ authorized',
      ({ g with write := g.write + 1, unlocked := some true, authorized := authorized } :
        Hold).release .write = { g with authorized := authorized' } := by
    by_cases free : g.write = 0
    · exact ⟨[], by simp [Hold.release, free, knowsUnlocked.1.mpr free]⟩
    · obtain ⟨known, here⟩ := Option.ne_none_iff_exists'.mp (mt knowsUnlocked.1.mp free)
      exact ⟨authorized, by simp [Hold.release, free, here, ← wasUnlocked known here]⟩
  refine policyGuard_gated (g := { g with write := g.write + 1, unlocked := some true })
    ⟨knowsPolicy.1, knowsPolicy.2⟩ (Nat.succ_pos _) admitted (fun _ => ⟨Nat.succ_pos _, leave _⟩) ?_
  intro canonical file data wasFile writable named loaded enabled state
  have back (authorized : List (Option Text × Text)) : ∃ authorized', ({ g with
        write := g.write + 1
        unlocked := some true
        policy := g.policy + 1
        file := some file
        authorized := authorized } : Hold).release .policy =
      { g with write := g.write + 1, unlocked := some true, authorized := authorized' } := by
    by_cases free : g.policy = 0
    · exact ⟨[], by simp [Hold.release, free, knowsPolicy.1.mpr free]⟩
    · obtain ⟨known, here⟩ := Option.ne_none_iff_exists'.mp (mt knowsPolicy.1.mp free)
      exact ⟨authorized, by simp [Hold.release, free, here, wasFile known here]⟩
  obtain ⟨name, rfl⟩ : ∃ name, host = some name := by
    cases host with
    | none => cases named
    | some name => exact ⟨name, rfl⟩
  have inside : ({ g with
      write := g.write + 1
      unlocked := some true
      policy := g.policy + 1
      file := some file
      authorized := (some name, canonical) :: g.authorized } : Hold).Inside canonical :=
    { write := Nat.succ_pos _
      knowsPolicy := by simp [Hold.KnowsPolicy]
      knowsUnlocked := by simp [Hold.KnowsUnlocked]
      permits := fun line =>
        ⟨rfl, file, data, name, canonical, line, rfl, loaded, enabled, List.mem_cons_self, rfl, state⟩ }
  refine (hbody canonical _ writable named inside rfl).mono ?_
  rintro a g' ⟨authorized, rfl⟩
  obtain ⟨authorized', left⟩ := back authorized
  refine ⟨Nat.succ_pos _, ?_⟩
  rw [left]
  exact ⟨Nat.succ_pos _, leave authorized'⟩

end gated

end SwitchOps
