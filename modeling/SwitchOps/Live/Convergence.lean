import SwitchOps.Live.Channel

/-!
# What the pages show comes to be what the live state holds

A page shows the present interfaces as soon as nothing is under way to it any more: whatever
interleaving of samples, subscriptions, other events, requests and reconnections came before
(`live_converges`). A page may show something older for two reasons only: the answer to a request of
its own came last, or more than `maxPending` messages came to its queue after the last message with
interfaces. What a stream loses is decided by the queue alone (`stream_conveys`).
-/

namespace SwitchOps

open Machines DropOldest

variable {ι δ : Type}

/-! ## A stream -/

namespace LiveStream

/-- What was addressed to the queue of a stream. -/
def addressed (stream : LiveStream δ) : List (HubMessage δ) := stream.offered ++ stream.scheduled

/-- The events that a stream has sent to its page. -/
def passed (stream : LiveStream δ) : List (StreamEvent δ) :=
  (stream.opening.map .snapshot).toList ++ stream.taken.map .message

/-- Nothing is under way to the page. -/
def Drained (stream : LiveStream δ) : Prop :=
  stream.scheduled = [] ∧ stream.queue = [] ∧ stream.sent = []

instance [DecidableEq δ] (stream : LiveStream δ) : Decidable stream.Drained :=
  inferInstanceAs (Decidable (_ ∧ _ ∧ _))

/-- The queue loses its oldest messages only, and the page handles in order what was sent. -/
structure Sound (stream : LiveStream δ) : Prop where
  conveyed : Conveyed maxPending stream.offered stream.taken stream.queue
  inOrder : stream.handled ++ stream.sent = stream.passed
  begun : stream.opening = none → stream.taken = []

/-- What a stream leads its page to show, once everything under way has arrived. -/
def leadsTo (stream : LiveStream δ) : Option (List LiveInterface) :=
  (lastWrite HubMessage.shows stream.addressed).or (stream.opening.map (·.interfaces))

theorem sound_new : Sound ({} : LiveStream δ) where
  conveyed := .start _
  inOrder := rfl
  begun := fun _ => rfl

/-- The interfaces of the events that were sent. -/
theorem lastWrite_passed (stream : LiveStream δ) :
    lastWrite StreamEvent.shows stream.passed =
      (lastWrite HubMessage.shows stream.taken).or (stream.opening.map (·.interfaces)) := by
  have messages : lastWrite StreamEvent.shows (stream.taken.map .message)
      = lastWrite HubMessage.shows stream.taken := by
    simp only [lastWrite, List.filterMap_map]
    rfl
  rw [passed, lastWrite_append, messages]
  congr 1
  cases stream.opening <;> rfl

/-- A drained stream, whose last interfaces were not overtaken by too many messages, has led its page
where it leads. -/
theorem Sound.lastWrite_handled {stream : LiveStream δ} (h : stream.Sound) (drained : stream.Drained)
    (lately : WrittenLately maxPending HubMessage.shows stream.offered) :
    lastWrite StreamEvent.shows stream.handled = stream.leadsTo := by
  obtain ⟨scheduled, queue, sent⟩ := drained
  have all : stream.handled = stream.passed := by simpa [sent] using h.inOrder
  have taken := h.conveyed.lastWrite_eq lately
  rw [queue, List.append_nil] at taken
  rw [all, lastWrite_passed, leadsTo, addressed, scheduled, List.append_nil, taken]

end LiveStream

/-! ## A page -/

/-- The worker has yet to schedule the message of its sample for the page. -/
def Publishing.Awaited (worker : Publishing ι δ) (p : ι) (generation : Nat) : Prop :=
  match worker with
  | .idle => False
  | .merged _ => True
  | .publishing _ remaining => (p, generation) ∈ remaining

/-- What holds of a page while the live state holds the given interfaces. -/
structure LivePage.Fits (interfaces : List LiveInterface) (worker : Publishing ι δ)
    (subscribers : List (ι × Nat)) (p : ι) (page : LivePage δ) : Prop where
  sound : ∀ stream, page.stream = some stream → stream.Sound
  shown : page.streamed = true → ∃ stream, page.stream = some stream ∧
    lastWrite StreamEvent.shows stream.handled = some page.view.interfaces
  subscribed : ∀ stream, page.stream = some stream → (p, page.generation) ∈ subscribers
  upToDate : ∀ stream, page.stream = some stream → ¬worker.Awaited p page.generation →
    ∀ shown ∈ stream.leadsTo, shown = interfaces

namespace LivePage.Fits

variable {interfaces : List LiveInterface} {worker : Publishing ι δ} {subscribers : List (ι × Nat)}
  {p : ι} {page : LivePage δ} {stream stream' : LiveStream δ}

/-- A page without a stream fits. -/
theorem of_none (closed : page.stream = none) (streamed : page.streamed = false) :
    page.Fits interfaces worker subscribers p := by
  have absent : ∀ stream, page.stream ≠ some stream := by simp [closed]
  exact ⟨fun stream here => absurd here (absent stream), fun true_ => absurd true_ (by simp [streamed]),
    fun stream here => absurd here (absent stream), fun stream here => absurd here (absent stream)⟩

/-- A step of the stream that handles nothing. -/
theorem step_stream (h : page.Fits interfaces worker subscribers p)
    (here : page.stream = some stream) (sound : stream'.Sound) (handled : stream'.handled = stream.handled)
    (leads : ¬worker.Awaited p page.generation → ∀ shown ∈ stream'.leadsTo, shown = interfaces) :
    Fits interfaces worker subscribers p { page with stream := some stream' } := by
  constructor
  case sound =>
    intro stream same
    cases same
    exact sound
  case shown =>
    intro streamed
    obtain ⟨stream, here', shows_⟩ := h.shown streamed
    rw [here] at here'
    cases here'
    exact ⟨stream', rfl, by rw [handled]; exact shows_⟩
  case subscribed => exact fun _ _ => h.subscribed stream here
  case upToDate =>
    intro stream same free
    cases same
    exact leads free

theorem step_offer {message : HubMessage δ} {scheduled : List (HubMessage δ)}
    (h : page.Fits interfaces worker subscribers p) (here : page.stream = some stream)
    (next : stream.scheduled = message :: scheduled) :
    Fits interfaces worker subscribers p { page with stream := some { stream with
      scheduled := scheduled
      queue := DropOldest.offer maxPending stream.queue message
      offered := stream.offered ++ [message] } } := by
  have sound := h.sound stream here
  apply h.step_stream here
  case sound =>
    constructor
    case conveyed => exact sound.conveyed.offer (by decide) message
    case inOrder => exact sound.inOrder
    case begun => exact sound.begun
  case handled => rfl
  case leads =>
    have same := h.upToDate stream here
    simpa [LiveStream.leadsTo, LiveStream.addressed, next] using same

theorem step_pass {message : HubMessage δ} {queue : List (HubMessage δ)}
    (h : page.Fits interfaces worker subscribers p) (here : page.stream = some stream)
    (opened : stream.opening ≠ none) (next : stream.queue = message :: queue) :
    Fits interfaces worker subscribers p { page with stream := some { stream with
      queue := queue
      sent := stream.sent ++ [.message message]
      taken := stream.taken ++ [message] } } := by
  have sound := h.sound stream here
  apply h.step_stream here
  case sound =>
    constructor
    case conveyed => exact (next ▸ sound.conveyed).take
    case inOrder =>
      have before := sound.inOrder
      simp only [LiveStream.passed] at before ⊢
      rw [← List.append_assoc, before]
      simp
    case begun => exact fun none_ => absurd none_ opened
  case handled => rfl
  case leads => exact h.upToDate stream here

theorem step_begin {snapshot : StateSnapshot δ} (h : page.Fits interfaces worker subscribers p)
    (here : page.stream = some stream) (closed : stream.opening = none)
    (present : snapshot.interfaces = interfaces) :
    Fits interfaces worker subscribers p { page with stream := some { stream with
      opening := some snapshot
      sent := [.snapshot snapshot] } } := by
  have sound := h.sound stream here
  have nothing : stream.handled = [] ∧ stream.taken = [] := by
    have order := sound.inOrder
    rw [LiveStream.passed, closed, sound.begun closed] at order
    exact ⟨(List.append_eq_nil_iff.mp order).1, sound.begun closed⟩
  apply h.step_stream here
  case sound =>
    constructor
    case conveyed => exact sound.conveyed
    case inOrder => simp [LiveStream.passed, nothing]
    case begun => exact fun none_ => absurd none_ (by simp)
  case handled => rfl
  case leads =>
    intro free shown leads
    have before := h.upToDate stream here free
    simp only [LiveStream.leadsTo, closed, Option.map_none, Option.or_none] at before
    simp only [LiveStream.leadsTo, LiveStream.addressed, Option.map_some] at leads before
    obtain messages | ⟨-, opening⟩ := Option.or_eq_some_iff.mp leads
    · exact before shown messages
    · cases opening
      exact present

/-- The message of another thread carries no interfaces, and changes nothing. -/
theorem step_other {message : HubMessage δ} (h : page.Fits interfaces worker subscribers p)
    (here : page.stream = some stream) (silent : message.shows = none) :
    Fits interfaces worker subscribers p { page with stream := some { stream with
      scheduled := stream.scheduled ++ [message] } } := by
  have sound := h.sound stream here
  apply h.step_stream here
  case sound => exact ⟨sound.conveyed, sound.inOrder, sound.begun⟩
  case handled => rfl
  case leads =>
    have same : lastWrite HubMessage.shows (stream.offered ++ (stream.scheduled ++ [message]))
        = lastWrite HubMessage.shows stream.addressed := by
      rw [← List.append_assoc, lastWrite_concat_of_none silent, LiveStream.addressed]
    simpa [LiveStream.leadsTo, LiveStream.addressed, same] using h.upToDate stream here

/-- The message of the worker brings the stream up to date. -/
theorem step_scheduled {message : HubMessage δ} (h : page.Fits interfaces worker subscribers p)
    (here : page.stream = some stream) (carried : message.shows = some interfaces)
    (worker' : Publishing ι δ) :
    Fits interfaces worker' subscribers p { page with stream := some { stream with
      scheduled := stream.scheduled ++ [message] } } := by
  have sound := h.sound stream here
  constructor
  case sound =>
    intro stream' same
    cases same
    exact ⟨sound.conveyed, sound.inOrder, sound.begun⟩
  case shown =>
    intro streamed
    obtain ⟨stream', here', shows_⟩ := h.shown streamed
    rw [here] at here'
    cases here'
    exact ⟨_, rfl, shows_⟩
  case subscribed => exact fun _ _ => h.subscribed stream here
  case upToDate =>
    intro stream' same _ shown leads
    cases same
    have last : lastWrite HubMessage.shows (stream.offered ++ (stream.scheduled ++ [message]))
        = some interfaces := by
      rw [← List.append_assoc, lastWrite_concat_of_some carried]
    simp only [LiveStream.leadsTo, LiveStream.addressed, last, Option.some_or, Option.mem_def,
      Option.some.injEq] at leads
    exact leads.symm

theorem step_handle {event : StreamEvent δ} {sent : List (StreamEvent δ)}
    (h : page.Fits interfaces worker subscribers p) (here : page.stream = some stream)
    (next : stream.sent = event :: sent) :
    Fits interfaces worker subscribers p { page with
      view := page.view.handle event
      stream := some { stream with sent := sent, handled := stream.handled ++ [event] }
      streamed := page.streamed || event.shows.isSome } := by
  have sound := h.sound stream here
  constructor
  case sound =>
    intro stream' same
    cases same
    refine ⟨sound.conveyed, ?_, sound.begun⟩
    have order := sound.inOrder
    rw [next] at order
    simpa [LiveStream.passed] using order
  case shown =>
    intro streamed
    refine ⟨_, rfl, ?_⟩
    cases carried : event.shows with
    | some shown =>
      rw [lastWrite_concat_of_some carried]
      simp [LiveView.interfaces_handle, carried]
    | none =>
      have earlier : page.streamed = true := by simpa [carried] using streamed
      obtain ⟨stream', here', shows_⟩ := h.shown earlier
      rw [here] at here'
      cases here'
      rw [lastWrite_concat_of_none carried, shows_]
      simp [LiveView.interfaces_handle, carried]
  case subscribed => exact fun _ _ => h.subscribed stream here
  case upToDate =>
    intro stream' same free
    cases same
    exact h.upToDate stream here free

/-- What a page does without its stream. -/
theorem step_aside (h : page.Fits interfaces worker subscribers p) (view : LiveView δ)
    (fetching : Option (StateSnapshot δ)) :
    Fits interfaces worker subscribers p
      { page with view := view, fetching := fetching, streamed := false } :=
  ⟨h.sound, fun streamed => absurd streamed (by simp), h.subscribed, h.upToDate⟩

theorem step_request (h : page.Fits interfaces worker subscribers p)
    (fetching : Option (StateSnapshot δ)) :
    Fits interfaces worker subscribers p { page with fetching := fetching } :=
  ⟨h.sound, h.shown, h.subscribed, h.upToDate⟩

end LivePage.Fits

/-! ## The channel -/

namespace LiveChannel

variable [DecidableEq ι] {s t : LiveChannel ι δ} {p : ι}

/-- The pages fit the live state, and what the worker publishes are the present interfaces. -/
structure Consistent (s : LiveChannel ι δ) : Prop where
  fits : ∀ p, (s.pages p).Fits s.interfaces.values s.worker s.subscribers p
  carried : ∀ message remaining, s.worker = .publishing message remaining →
    message.shows = some s.interfaces.values

theorem Consistent.setPage (h : s.Consistent) {page : LivePage δ}
    (fits : page.Fits s.interfaces.values s.worker s.subscribers p) : (s.setPage p page).Consistent := by
  refine ⟨fun q => ?_, h.carried⟩
  by_cases same : q = p
  · subst same
    simpa [LiveChannel.setPage] using fits
  · simpa [LiveChannel.setPage, same] using h.fits q

/-- A step of a stream leads to a page that fits. -/
theorem Consistent.withStream (h : s.Consistent) {f : LiveStream δ → Option (LiveStream δ)}
    (fits : ∀ stream stream', (s.pages p).stream = some stream → f stream = some stream' →
      LivePage.Fits s.interfaces.values s.worker s.subscribers p
        { s.pages p with stream := some stream' })
    (taken : s.withStream p f = some t) : t.Consistent := by
  obtain ⟨stream, here, rest⟩ := Option.bind_eq_some_iff.mp taken
  obtain ⟨stream', moved, rfl⟩ := Option.map_eq_some_iff.mp rest
  exact h.setPage (fits stream stream' here moved)

omit [DecidableEq ι] in
/-- The streams are not concerned by how the worker goes on, unless it stops waiting for one. -/
theorem Consistent.onWorker (h : s.Consistent) (interfaces : Interfaces) (freshness : Freshness)
    (worker : Publishing ι δ)
    (waiting : ∀ p stream, (s.pages p).stream = some stream →
      ¬worker.Awaited p (s.pages p).generation →
        ¬s.worker.Awaited p (s.pages p).generation ∧ interfaces = s.interfaces)
    (carried : ∀ message remaining, worker = .publishing message remaining →
      message.shows = some interfaces.values) :
    Consistent { s with interfaces := interfaces, freshness := freshness, worker := worker } := by
  refine ⟨fun p => ?_, carried⟩
  have fits := h.fits p
  refine ⟨fits.sound, fits.shown, fits.subscribed, fun stream here free shown leads => ?_⟩
  obtain ⟨free', same⟩ := waiting p stream here free
  rw [same]
  exact fits.upToDate stream here free' shown leads

theorem scheduled_of_stream {generation : Nat} {message : HubMessage δ} {stream : LiveStream δ}
    (same : (s.pages p).generation = generation) (here : (s.pages p).stream = some stream) :
    s.scheduled p generation message = s.setPage p { s.pages p with
      stream := some { stream with scheduled := stream.scheduled ++ [message] } } := by
  simp [scheduled, LiveChannel.withStream, same, here]

theorem scheduled_of_none {generation : Nat} {message : HubMessage δ}
    (here : (s.pages p).stream = none) : s.scheduled p generation message = s := by
  simp [scheduled, LiveChannel.withStream, here]

theorem scheduled_of_ne {generation : Nat} {message : HubMessage δ}
    (other : (s.pages p).generation ≠ generation) : s.scheduled p generation message = s := by
  simp [scheduled, other]

/-- One message of the worker is scheduled. -/
theorem Consistent.schedule (h : s.Consistent) {message : HubMessage δ} {generation : Nat}
    {remaining : List (ι × Nat)} (here : s.worker = .publishing message ((p, generation) :: remaining)) :
    Consistent { s.scheduled p generation message with worker := .publishing message remaining } := by
  have carried := h.carried _ _ here
  -- where nothing is scheduled, the page was not waited for
  have unchanged : ((s.pages p).generation ≠ generation ∨ (s.pages p).stream = none) →
      Consistent { s with worker := .publishing message remaining } := by
    intro skipped
    apply h.onWorker s.interfaces s.freshness
    case waiting =>
      intro q stream live free
      refine ⟨fun awaited => ?_, rfl⟩
      rw [here] at awaited
      obtain first | later := List.mem_cons.mp awaited
      · cases first
        obtain other | gone := skipped
        · exact other rfl
        · rw [gone] at live
          cases live
      · exact free later
    case carried =>
      intro m r same
      cases same
      exact carried
  by_cases same : (s.pages p).generation = generation
  · cases live : (s.pages p).stream with
    | none => rw [scheduled_of_none live]; exact unchanged (.inr live)
    | some stream =>
      rw [scheduled_of_stream same live]
      refine ⟨fun q => ?_, fun m r eq => by cases eq; exact carried⟩
      by_cases this : q = p
      · subst this
        simpa [LiveChannel.setPage] using (h.fits q).step_scheduled live carried _
      · have fits := h.fits q
        have elsewhere : ∀ g, (q, g) ∈ (p, generation) :: remaining → (q, g) ∈ remaining := by
          intro g mem
          obtain first | later := List.mem_cons.mp mem
          · cases first
            exact absurd rfl this
          · exact later
        simp only [LiveChannel.setPage, Function.update_of_ne this]
        refine ⟨fits.sound, fits.shown, fits.subscribed, fun stream' live' free => ?_⟩
        refine fits.upToDate stream' live' fun awaited => free ?_
        rw [here] at awaited
        exact elsewhere _ awaited
  · rw [scheduled_of_ne same]
    exact unchanged (.inl same)

theorem Consistent.subscribe (h : s.Consistent) :
    Consistent { s.setPage p { s.pages p with
        stream := some {}, generation := (s.pages p).generation + 1, streamed := false } with
      subscribers := s.subscribers ++ [(p, (s.pages p).generation + 1)] } := by
  refine ⟨fun q => ?_, h.carried⟩
  by_cases same : q = p
  · subst same
    simp only [LiveChannel.setPage, Function.update_self]
    constructor
    case sound =>
      intro stream new
      cases new
      exact LiveStream.sound_new
    case shown => exact fun streamed => by cases streamed
    case subscribed => exact fun _ _ => List.mem_append_right _ (List.mem_singleton.mpr rfl)
    case upToDate =>
      intro stream new _ shown leads
      cases new
      cases leads
  · have fits := h.fits q
    simp only [LiveChannel.setPage, Function.update_of_ne same]
    exact ⟨fits.sound, fits.shown,
      fun stream here => List.mem_append_left _ (fits.subscribed stream here), fits.upToDate⟩

theorem Consistent.disconnect (h : s.Consistent) :
    Consistent { s.setPage p { s.pages p with stream := none, streamed := false } with
      subscribers := s.subscribers.filter fun subscriber =>
        subscriber ≠ (p, (s.pages p).generation) } := by
  refine ⟨fun q => ?_, h.carried⟩
  by_cases same : q = p
  · subst same
    simp only [LiveChannel.setPage, Function.update_self]
    exact .of_none rfl rfl
  · have fits := h.fits q
    simp only [LiveChannel.setPage, Function.update_of_ne same]
    refine ⟨fits.sound, fits.shown, fun stream here => ?_, fits.upToDate⟩
    exact List.mem_filter.mpr ⟨fits.subscribed stream here, by simp [same]⟩

/-- The invariant is kept by every step. -/
theorem Consistent.step (h : s.Consistent) {action : ChannelAction ι δ} (taken : s.step action = some t) :
    t.Consistent := by
  cases action with
  | applyInterfaces switch rows at_ =>
    simp only [LiveChannel.step] at taken
    split at taken
    · cases taken
      exact h.onWorker _ _ _ (fun _ _ _ free => absurd trivial free) fun _ _ other => by cases other
    · cases taken
  | applyPoe switch ports at_ =>
    simp only [LiveChannel.step] at taken
    split at taken
    · cases taken
      exact h.onWorker _ _ _ (fun _ _ _ free => absurd trivial free) fun _ _ other => by cases other
    · cases taken
  | publish =>
    simp only [LiveChannel.step] at taken
    split at taken
    case h_1 tier merged =>
      cases taken
      apply h.onWorker s.interfaces s.freshness
      case waiting => exact fun p stream here free => absurd ((h.fits p).subscribed stream here) free
      case carried =>
        intro message remaining same
        cases same
        cases tier <;> rfl
    case h_2 => cases taken
  | schedule =>
    simp only [LiveChannel.step] at taken
    split at taken
    case h_1 message q generation remaining here =>
      cases taken
      exact h.schedule here
    case h_2 => cases taken
  | finish =>
    simp only [LiveChannel.step] at taken
    split at taken
    case h_1 message here =>
      cases taken
      apply h.onWorker s.interfaces s.freshness
      case waiting =>
        intro p stream live _
        refine ⟨fun awaited => ?_, rfl⟩
        rw [here] at awaited
        cases awaited
      case carried => exact fun _ _ other => by cases other
    case h_2 => cases taken
  | update freshness operation lldp topology connection =>
    cases taken
    exact ⟨h.fits, h.carried⟩
  | publishOther q message =>
    simp only [LiveChannel.step] at taken
    split at taken
    case isTrue silent =>
      cases taken
      cases live : (s.pages q).stream with
      | none => rw [scheduled_of_none live]; exact h
      | some stream =>
        rw [scheduled_of_stream rfl live]
        exact h.setPage ((h.fits q).step_other live silent)
    case isFalse => cases taken
  | subscribe q =>
    simp only [LiveChannel.step] at taken
    split at taken
    · cases taken
      exact h.subscribe
    · cases taken
  | begin_ q =>
    refine h.withStream (fun stream stream' here moved => ?_) taken
    split at moved
    · next closed =>
      cases moved
      exact (h.fits q).step_begin here closed rfl
    · cases moved
  | offer q =>
    refine h.withStream (fun stream stream' here moved => ?_) taken
    split at moved
    · cases moved
    · next next_ =>
      cases moved
      exact (h.fits q).step_offer here next_
  | pass q =>
    refine h.withStream (fun stream stream' here moved => ?_) taken
    split at moved
    · next opened next_ =>
      cases moved
      exact (h.fits q).step_pass here (by simp [opened]) next_
    · cases moved
  | disconnect q =>
    cases taken
    exact h.disconnect
  | handle q =>
    obtain ⟨stream, here, moved⟩ := Option.bind_eq_some_iff.mp taken
    split at moved
    · cases moved
    · next next_ =>
      cases moved
      exact h.setPage ((h.fits q).step_handle here next_)
  | request q =>
    simp only [LiveChannel.step] at taken
    split at taken
    · cases taken
      exact h.setPage ((h.fits q).step_request _)
    · cases taken
  | settle q =>
    simp only [LiveChannel.step] at taken
    split at taken
    · cases taken
      exact h.setPage ((h.fits q).step_aside _ _)
    · cases taken

/-- Nothing was collected, and no page is open. -/
def start (lldp connection : δ) : LiveChannel ι δ := { lldp := lldp, connection := connection }

omit [DecidableEq ι] in
theorem consistent_start (lldp connection : δ) : (start lldp connection : LiveChannel ι δ).Consistent where
  fits := fun _ => .of_none rfl rfl
  carried := fun _ _ other => by cases other

theorem consistent_of_reaches {lldp connection : δ} (h : Reaches step Always (start lldp connection) s) :
    s.Consistent :=
  h.invariant (consistent_start lldp connection) fun _ _ _ known _ taken => known.step taken

/-- **Convergence**: once the worker is idle and nothing is under way to a page, the page shows the
interfaces of the live state, if what it shows came through its stream and the last message with
interfaces was followed by fewer than `maxPending` messages. -/
theorem live_converges {lldp connection : δ} (h : Reaches step Always (start lldp connection) s)
    {stream : LiveStream δ} (live : (s.pages p).stream = some stream) (drained : stream.Drained)
    (idle : s.worker = .idle) (streamed : (s.pages p).streamed = true)
    (lately : WrittenLately maxPending HubMessage.shows stream.offered) :
    (s.pages p).view.interfaces = s.interfaces.values := by
  have fits := (consistent_of_reaches h).fits p
  obtain ⟨stream', live', shows_⟩ := fits.shown streamed
  rw [live] at live'
  cases live'
  have free : ¬s.worker.Awaited p (s.pages p).generation := by
    rw [idle]
    exact id
  rw [(fits.sound stream live).lastWrite_handled drained lately] at shows_
  exact fits.upToDate stream live free _ shows_

/-- A page opens its stream, and a fast sample with one port reaches it. -/
def onePortRun : List (ChannelAction (Fin 1) Unit) := [
  .subscribe 0, .begin_ 0, .handle 0,
  .applyInterfaces "10.0.0.2" [{
    port := "Gi0/1", name := [], status := "connected", vlan := "1", duplex := "a-full"
    speed := "a-1000", type := "10/100/1000BaseTX" }] "09:30",
  .publish, .schedule, .finish, .offer 0, .pass 0, .handle 0]

/-- The page is open, and it will hear of nothing any more. -/
def settledOnOnePort (s : LiveChannel (Fin 1) Unit) : Bool :=
  (s.pages 0).stream.any fun stream : LiveStream Unit => decide (stream.Drained ∧ s.worker = .idle ∧
    (s.pages 0).streamed = true ∧ WrittenLately maxPending HubMessage.shows stream.offered ∧
    s.interfaces.length = 1)

theorem exists_onePortRun : ∃ (s : LiveChannel (Fin 1) Unit) (stream : LiveStream Unit),
    Reaches step Always (start () ()) s ∧ (s.pages 0).stream = some stream ∧ stream.Drained ∧
      s.worker = .idle ∧ (s.pages 0).streamed = true ∧
      WrittenLately maxPending HubMessage.shows stream.offered ∧ s.interfaces.length = 1 := by
  obtain ⟨s, reached, test⟩ :=
    exists_reaches_of_run step (start () ()) onePortRun settledOnOnePort (by decide +kernel)
  obtain ⟨stream, live, holds⟩ := (Option.any_eq_true _ _).mp test
  exact ⟨s, stream, reached, live, of_decide_eq_true holds⟩

theorem live_converges_onePort : ∃ s : LiveChannel (Fin 1) Unit,
    Reaches step Always (start () ()) s ∧ s.interfaces.length = 1 ∧
      (s.pages 0).view.interfaces = s.interfaces.values := by
  obtain ⟨s, stream, reached, live, drained, idle, streamed, lately, one⟩ := exists_onePortRun
  exact ⟨s, reached, one, live_converges reached live drained idle streamed lately⟩

/-- **What a stream conveys**: its queue is bounded, the events reach the page in the order in which
they were published and none of them twice, the snapshot first, and of the last `maxPending`
messages that came to the queue none is lost. -/
theorem stream_conveys {lldp connection : δ} (h : Reaches step Always (start lldp connection) s)
    {stream : LiveStream δ} (live : (s.pages p).stream = some stream) :
    stream.queue.length ≤ maxPending ∧
      stream.handled ++ stream.sent = stream.passed ∧
      (stream.taken ++ stream.queue).Sublist stream.offered ∧
      stream.offered.rtake maxPending <:+ stream.taken ++ stream.queue := by
  have sound := ((consistent_of_reaches h).fits p).sound stream live
  refine ⟨sound.conveyed.bounded, sound.inOrder, sound.conveyed.inOrder, ?_⟩
  exact sound.conveyed.newest _ (List.drop_suffix _ _) (by simp [List.rtake]; omega)

theorem stream_conveys_onePort : ∃ (s : LiveChannel (Fin 1) Unit) (stream : LiveStream Unit),
    Reaches step Always (start () ()) s ∧ (s.pages 0).stream = some stream ∧
      (stream.queue.length ≤ maxPending ∧
        stream.handled ++ stream.sent = stream.passed ∧
        (stream.taken ++ stream.queue).Sublist stream.offered ∧
        stream.offered.rtake maxPending <:+ stream.taken ++ stream.queue) := by
  obtain ⟨s, stream, reached, live, -⟩ := exists_onePortRun
  exact ⟨s, stream, reached, live, stream_conveys reached live⟩

end LiveChannel

end SwitchOps
