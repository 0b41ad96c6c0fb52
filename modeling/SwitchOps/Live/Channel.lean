import Mathlib.Logic.Function.Basic
import SwitchOps.Lib.DropOldest
import SwitchOps.Lib.Machine
import SwitchOps.Live.State

/-!
# The live event channel

How the live state reaches the pages: the worker merges a sample and publishes the interfaces to the
queues subscribed at that moment, one after the other; the event loop puts the messages into the
bounded queues; the stream of a page sends a snapshot first and then what it takes from its queue;
and the page applies what it reads, next to the answer of a request that it made on its own. Every
one of these is a step, so a run is one interleaving of the worker, the other threads, the event
loop, the streams and the pages.

`δ` stands for the documents that the channel passes on without reading them.
-/

namespace SwitchOps

open Machines DropOldest

/-! ## Messages and pages -/

/-- `Freshness`: when each class of data was last collected. -/
structure Freshness where
  fast : Option Text := none
  medium : Option Text := none
  slow : Option Text := none
  deep : Option Text := none
  deriving DecidableEq, Repr

/-- An event of the hub. -/
inductive HubMessage (δ : Type)
  | interfaceState (interfaces : List LiveInterface) (freshness : Freshness)
  | poeState (interfaces : List LiveInterface)
  | freshness (freshness : Freshness)
  | connectionState (status : δ)
  | operationProgress (progress : δ)
  | operationComplete (result : δ)
  | changeSession (session : δ)
  | controlLock (status : δ)
  | configState (state : δ)
  | discoveryState (lldp : δ)
  | topologyState (topology : δ)
  | networkEvent (event : δ)
  deriving DecidableEq

/-- The interfaces that a message carries. -/
def HubMessage.shows {δ : Type} : HubMessage δ → Option (List LiveInterface)
  | .interfaceState interfaces _ => some interfaces
  | .poeState interfaces => some interfaces
  | _ => none

/-- `snapshot`, with the connection that is added to it. -/
structure StateSnapshot (δ : Type) where
  interfaces : List LiveInterface
  freshness : Freshness
  operationInProgress : Option Text
  lldp : δ
  topology : Option δ
  connection : δ
  deriving DecidableEq

/-- What a stream sends. -/
inductive StreamEvent (δ : Type)
  | snapshot (snapshot : StateSnapshot δ)
  | message (message : HubMessage δ)
  deriving DecidableEq

def StreamEvent.shows {δ : Type} : StreamEvent δ → Option (List LiveInterface)
  | .snapshot whole => some whole.interfaces
  | .message single => single.shows

/-- The operation that a page shows. -/
inductive OperationView (δ : Type)
  | running (kind interface : Text)
  | progress (progress : δ)
  | completed (result : δ)
  deriving DecidableEq

/-- The state of `useLiveOperations`; where nothing was received yet its defaults are shown. -/
structure LiveView (δ : Type) where
  interfaces : List LiveInterface := []
  freshness : Freshness := {}
  connection : Option δ := none
  operation : Option (OperationView δ) := none
  changeSession : Option δ := none
  lock : Option δ := none
  config : Option δ := none
  lldp : Option δ := none
  topology : Option δ := none
  deriving DecidableEq

namespace LiveView

variable {δ : Type}

/-- `snapshot.operationInProgress.split(":", 2)` -/
def ofMarker (marker : Text) : OperationView δ :=
  let parts := marker.splitOn ':'
  .running (parts.head?.getD []) ((parts[1]?).getD [])

/-- `applySnapshot` -/
def applySnapshot (view : LiveView δ) (snapshot : StateSnapshot δ) : LiveView δ :=
  { view with
    interfaces := snapshot.interfaces
    freshness := snapshot.freshness
    connection := some snapshot.connection
    lldp := some snapshot.lldp
    topology := snapshot.topology.or view.topology
    operation := (snapshot.operationInProgress.map ofMarker).or view.operation }

/-- The listeners of the page. Nobody listens to network events. -/
def hear (view : LiveView δ) : HubMessage δ → LiveView δ
  | .interfaceState interfaces freshness => { view with interfaces := interfaces, freshness := freshness }
  | .poeState interfaces => { view with interfaces := interfaces }
  | .freshness freshness => { view with freshness := freshness }
  | .connectionState status => { view with connection := some status }
  | .operationProgress progress => { view with operation := some (.progress progress) }
  | .operationComplete result => { view with operation := some (.completed result) }
  | .changeSession session => { view with changeSession := some session }
  | .controlLock status => { view with lock := some status }
  | .configState state => { view with config := some state }
  | .discoveryState lldp => { view with lldp := some lldp }
  | .topologyState topology => { view with topology := some topology }
  | .networkEvent _ => view

def handle (view : LiveView δ) : StreamEvent δ → LiveView δ
  | .snapshot snapshot => view.applySnapshot snapshot
  | .message message => view.hear message

/-- An event replaces the interfaces of a page by its own, if it carries any. -/
theorem interfaces_handle (view : LiveView δ) (event : StreamEvent δ) :
    (view.handle event).interfaces = event.shows.getD view.interfaces := by
  cases event with
  | snapshot snapshot => rfl
  | message message => cases message <;> rfl

end LiveView

/-! ## The parties -/

/-- `maxsize` of the queue of a stream. -/
def maxPending : Nat := 64

/-- One subscription: the callbacks that wait for the event loop, the queue, and the events that
are on their way to the page. `opening` is the snapshot that the stream began with, if it has begun.
The last three fields are ghosts: all that came to the queue, all that was taken from it, and what
the page has handled. -/
structure LiveStream (δ : Type) where
  scheduled : List (HubMessage δ) := []
  queue : List (HubMessage δ) := []
  sent : List (StreamEvent δ) := []
  opening : Option (StateSnapshot δ) := none
  offered : List (HubMessage δ) := []
  taken : List (HubMessage δ) := []
  handled : List (StreamEvent δ) := []
  deriving DecidableEq

/-- A page, with the answer to its request that is still under way. A new stream has a new
generation. `streamed` is a ghost: the interfaces shown came through the present stream. -/
structure LivePage (δ : Type) where
  view : LiveView δ := {}
  stream : Option (LiveStream δ) := none
  generation : Nat := 0
  fetching : Option (StateSnapshot δ) := none
  streamed : Bool := false
  deriving DecidableEq

/-- The tiers that change interfaces. -/
inductive SampleTier
  | fast
  | poe
  deriving DecidableEq

/-- Where the worker stands in a job: it has merged a sample and not published it, or publishes a
message to the subscriptions that it read from the hub. -/
inductive Publishing (ι δ : Type)
  | idle
  | merged (tier : SampleTier)
  | publishing (message : HubMessage δ) (remaining : List (ι × Nat))
  deriving DecidableEq

/-- The live state, the hub with its subscriptions, and the pages by their names `ι`. -/
structure LiveChannel (ι δ : Type) where
  interfaces : Interfaces := []
  freshness : Freshness := {}
  operationInProgress : Option Text := none
  lldp : δ
  topology : Option δ := none
  connection : δ
  worker : Publishing ι δ := .idle
  subscribers : List (ι × Nat) := []
  pages : ι → LivePage δ := fun _ => {}

inductive ChannelAction (ι δ : Type)
  /-- A sample of a tier is merged into the live state. -/
  | applyInterfaces (switch : Text) (rows : List InterfaceStatus) (at_ : Text)
  | applyPoe (switch : Text) (ports : List PoePort) (at_ : Text)
  /-- `publish` reads the subscriptions, and schedules its message for one after the other. -/
  | publish
  | schedule
  | finish
  /-- Whatever else is written to the live state, and published by any thread. -/
  | update (freshness : Freshness) (operationInProgress : Option Text) (lldp : δ)
      (topology : Option δ) (connection : δ)
  | publishOther (page : ι) (message : HubMessage δ)
  /-- A stream subscribes, begins, and passes on a message of its queue; the event loop runs the
  next callback. -/
  | subscribe (page : ι)
  | begin_ (page : ι)
  | offer (page : ι)
  | pass (page : ι)
  | disconnect (page : ι)
  /-- The page handles the next event, requests the live state, and applies the answer. -/
  | handle (page : ι)
  | request (page : ι)
  | settle (page : ι)

namespace LiveChannel

variable {ι δ : Type} [DecidableEq ι]

/-- `snapshot` -/
def snapshot (s : LiveChannel ι δ) : StateSnapshot δ where
  interfaces := s.interfaces.values
  freshness := s.freshness
  operationInProgress := s.operationInProgress
  lldp := s.lldp
  topology := s.topology
  connection := s.connection

/-- The message of a tier. -/
def sample (s : LiveChannel ι δ) : SampleTier → HubMessage δ
  | .fast => .interfaceState s.interfaces.values s.freshness
  | .poe => .poeState s.interfaces.values

def setPage (s : LiveChannel ι δ) (p : ι) (page : LivePage δ) : LiveChannel ι δ :=
  { s with pages := Function.update s.pages p page }

/-- The stream of a page takes a step of its own. -/
def withStream (s : LiveChannel ι δ) (p : ι)
    (f : LiveStream δ → Option (LiveStream δ)) : Option (LiveChannel ι δ) :=
  (s.pages p).stream.bind fun stream =>
    (f stream).map fun stream => s.setPage p { s.pages p with stream := some stream }

/-- `call_soon_threadsafe`, where the queue is still the one of the page. -/
def scheduled (s : LiveChannel ι δ) (p : ι) (generation : Nat) (message : HubMessage δ) :
    LiveChannel ι δ :=
  if (s.pages p).generation = generation then
    (s.withStream p fun stream =>
      some { stream with scheduled := stream.scheduled ++ [message] }).getD s
  else s

def step (s : LiveChannel ι δ) : ChannelAction ι δ → Option (LiveChannel ι δ)
  | .applyInterfaces switch rows at_ =>
    match s.worker with
    | .idle => some { s with
        interfaces := (s.interfaces.applyInterfaces switch rows).1
        freshness := { s.freshness with fast := some at_ }
        worker := .merged .fast }
    | _ => none
  | .applyPoe switch ports at_ =>
    match s.worker with
    | .idle => some { s with
        interfaces := (s.interfaces.applyPoe switch ports).1
        freshness := { s.freshness with medium := some at_ }
        worker := .merged .poe }
    | _ => none
  | .publish =>
    match s.worker with
    | .merged tier => some { s with worker := .publishing (s.sample tier) s.subscribers }
    | _ => none
  | .schedule =>
    match s.worker with
    | .publishing message ((p, generation) :: remaining) =>
      some { s.scheduled p generation message with worker := .publishing message remaining }
    | _ => none
  | .finish =>
    match s.worker with
    | .publishing _ [] => some { s with worker := .idle }
    | _ => none
  | .update freshness operationInProgress lldp topology connection => some { s with
      freshness := freshness
      operationInProgress := operationInProgress
      lldp := lldp
      topology := topology
      connection := connection }
  | .publishOther p message =>
    if message.shows = none then some (s.scheduled p (s.pages p).generation message) else none
  | .subscribe p =>
    match (s.pages p).stream with
    | none =>
      let generation := (s.pages p).generation + 1
      some { s.setPage p { s.pages p with
          stream := some {}, generation := generation, streamed := false } with
        subscribers := s.subscribers ++ [(p, generation)] }
    | some _ => none
  | .begin_ p => s.withStream p fun stream =>
      match stream.opening with
      | none => some { stream with opening := some s.snapshot, sent := [.snapshot s.snapshot] }
      | some _ => none
  | .offer p => s.withStream p fun stream =>
      match stream.scheduled with
      | [] => none
      | message :: scheduled => some { stream with
          scheduled := scheduled
          queue := DropOldest.offer maxPending stream.queue message
          offered := stream.offered ++ [message] }
  | .pass p => s.withStream p fun stream =>
      match stream.opening, stream.queue with
      | some _, message :: queue => some { stream with
          queue := queue
          sent := stream.sent ++ [.message message]
          taken := stream.taken ++ [message] }
      | _, _ => none
  | .disconnect p =>
    some { s.setPage p { s.pages p with stream := none, streamed := false } with
      subscribers := s.subscribers.filter fun subscriber =>
        subscriber ≠ (p, (s.pages p).generation) }
  | .handle p =>
    let page := s.pages p
    page.stream.bind fun stream =>
      match stream.sent with
      | [] => none
      | event :: sent => some (s.setPage p { page with
          view := page.view.handle event
          stream := some { stream with sent := sent, handled := stream.handled ++ [event] }
          streamed := page.streamed || event.shows.isSome })
  | .request p =>
    match (s.pages p).fetching with
    | none => some (s.setPage p { s.pages p with fetching := some s.snapshot })
    | some _ => none
  | .settle p =>
    match (s.pages p).fetching with
    | some answer => some (s.setPage p { s.pages p with
        view := (s.pages p).view.applySnapshot answer, fetching := none, streamed := false })
    | none => none

end LiveChannel

end SwitchOps
