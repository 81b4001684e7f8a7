import Xrpc.Registry.Segments

/-! The threads that use one `ZookeeperClient`, with its two mutexes. Any number of
threads call its members; beside them run the heartbeat and the callbacks of
ZooKeeper. A section under `cache_mutex_` reads the tables when it begins and writes
them when it ends, so without the mutex it could undo what others do in between. -/

namespace Xrpc

open Support ZookeeperClient

/-- A member function that a thread calls. -/
inductive Request where
  | discovery (call : DiscoveryCall)
  | watch (path : Bytes) (callback : Nat)

/-- Where a thread is in a call. It waits for `mutex_` where it is `blocked`, and
has it from `entered` to `leaving`. -/
inductive ThreadStage where
  | idle
  | blocked (request : Request)
  | entered (request : Request)
  | calling (request : DiscoveryCall) (call : OwnCall)
  | storing (path : Bytes) (callback : Nat)
  | watching (path : Bytes)
  | leaving

namespace ThreadStage

def ownCall : ThreadStage → Option OwnCall
  | .calling _ call => some call
  | _ => none

def watchedPath : ThreadStage → Option Bytes
  | .watching path => some path
  | _ => none

/-- Between locking and unlocking `mutex_`. -/
def inside : ThreadStage → Bool
  | .idle | .blocked _ => false
  | _ => true

end ThreadStage

/-- Those who lock `cache_mutex_`. -/
inductive Actor where
  | thread (index : Nat)
  | heartbeat
  | events
  deriving DecidableEq

/-- What `cache_mutex_` protects. -/
structure Tables where
  serviceCache : ServiceCache
  watchers : Table Bytes Nat

/-- `base` is the client but for the calls of its threads. `mutex` has the thread that
has locked `mutex_`, and `holding` who has locked `cache_mutex_` and the tables it has
read. The heartbeat has `checked` its loop condition, and a callback has marked the
session as lost while `expiring`. `answers` are what the threads were answered with. -/
structure ThreadedClient (Store : Type) where
  base : WatchedClient Store
  threads : Nat → ThreadStage := fun _ => .idle
  mutex : Option Nat := none
  holding : Option (Actor × Tables) := none
  checked : Bool := false
  expiring : Bool := false
  answers : List (Nat × List (Bytes × Bytes)) := []

inductive ThreadedEvent (Store : Type) where
  | call (index : Nat) (request : Request)
  | lock (index : Nat)
  | unlock (index : Nat)
  | enter (actor : Actor)
  | leave (actor : Actor)
  /-- What needs no section under `cache_mutex_`. -/
  | act (actor : Actor)
  | check
  | change (store : Store)
  | fire (event : NodeEvent) (path : Bytes)
  | deliver
  | session (state : SessionState)

namespace WatchedClient
variable {Store : Type}

/-- The client as it is for a thread at `stage`. -/
def focus (watched : WatchedClient Store) (stage : ThreadStage) : WatchedClient Store :=
  { watched with shared.call := stage.ownCall, watching := stage.watchedPath }

def tables (watched : WatchedClient Store) : Tables :=
  ⟨watched.registry.client.serviceCache, watched.registry.client.watchers⟩

def load (watched : WatchedClient Store) (tables : Tables) : WatchedClient Store :=
  { watched with
    shared.registry.client.serviceCache := tables.serviceCache
    shared.registry.client.watchers := tables.watchers }

/-- The heartbeat lists the cached services. -/
def snapshot (watched : WatchedClient Store) : WatchedClient Store :=
  { watched with shared.services := watched.registry.client.serviceCache.keys }

/-- `Watch` stores its callback. -/
def subscribe (watched : WatchedClient Store) (path : Bytes) (callback : Nat) :
    WatchedClient Store :=
  { watched with
    shared.registry.client.watchers := watched.registry.client.watchers.insert path callback
    watching := some path }

end WatchedClient

/-- What the last step of a call returns, if it returns instances. The first step is
the last where it finds them in the cache. -/
def OwnCall.answer (cache : ServiceCache) : DiscoveryCall → Option OwnCall → Option (List (Bytes × Bytes))
  | .discover path, none =>
    (serviceSegment path).bind fun service =>
      (((cache.find? service).getD []).find? fun entry => entry.1 = path).map ([·])
  | .discoverService service, none => cache.find? service
  | .discover _, some (.caching path data) => (serviceSegment path).map fun _ => [(path, data)]
  | .discoverService _, some (.reading _ [] found) => some found
  | _, _ => none

/-- The sections of the handler under `cache_mutex_`. -/
def HandlerStage.locks : HandlerStage → Bool
  | .lookup _ | .storing _ _ | .forgetting _ | .clearing => true
  | .reading _ | .calling _ _ _ | .arming _ => false

/-- The sections of a thread under `cache_mutex_`. -/
def ThreadStage.locks : ThreadStage → Bool
  | .entered (.discovery (.discover _)) | .entered (.discovery (.discoverService _)) => true
  | .calling _ (.caching _ _) | .calling _ (.reading _ [] _) | .calling _ (.forgetting _) => true
  | .storing _ _ => true
  | _ => false

namespace ThreadedClient
variable {Store : Type} (zk : ZooKeeper Store)

def goto (client : ThreadedClient Store) (index : Nat) (stage : ThreadStage) :
    ThreadedClient Store :=
  { client with threads := Function.update client.threads index stage }

/-- Whether the actor goes on with a section under `cache_mutex_`. -/
def locks (client : ThreadedClient Store) : Actor → Bool
  | .thread index => (client.threads index).locks
  | .heartbeat =>
    client.base.shared.answer.isSome || (client.base.shared.services.isEmpty && client.checked)
  | .events => client.expiring || client.base.handler.any (·.stage.locks)

/-- A call goes on, or is over. -/
def resume (client : ThreadedClient Store) (index : Nat) (request : DiscoveryCall)
    (answer : Option (List (Bytes × Bytes))) (next : WatchedClient Store) : ThreadedClient Store :=
  match next.shared.call with
  | some call =>
    { client.goto index (.calling request call) with base := next.focus .idle }
  | none =>
    { client.goto index .leaving with
      base := next.focus .idle
      answers := client.answers ++ (answer.map (index, ·)).toList }

/-- What a thread does next. -/
def proceed (client : ThreadedClient Store) (base : WatchedClient Store) (index : Nat) :
    Option (ThreadedClient Store) :=
  let stage := client.threads index
  match stage with
  | .entered (.discovery request) =>
    ((base.focus stage).step zk (.client (.begin request))).map fun next =>
      client.resume index request (OwnCall.answer base.registry.client.serviceCache request none) next
  | .calling request call =>
    ((base.focus stage).step zk (.client .advance)).map fun next =>
      client.resume index request
        (OwnCall.answer base.registry.client.serviceCache request (some call)) next
  | .entered (.watch path callback) =>
    -- the check at the top of `Watch`
    some (client.goto index (if base.registry.client.connected then .storing path callback else .leaving))
  | .storing path callback =>
    some { client.goto index (.watching path) with base := (base.subscribe path callback).focus .idle }
  | .watching _ =>
    ((base.focus stage).step zk .arm).map fun next =>
      { client.goto index .leaving with base := next.focus .idle }
  | .idle | .blocked _ | .leaving => none

/-- What an actor does next, with the tables it has read. -/
def work (client : ThreadedClient Store) (actor : Actor) (tables : Tables) :
    Option (ThreadedClient Store) :=
  let base := client.base.load tables
  match actor with
  | .thread index => client.proceed zk base index
  | .heartbeat =>
    match base.shared.answer, base.shared.services with
    | some _, _ => (base.step zk (.client .reconcile)).map ({ client with base := · })
    | none, _ :: _ => (base.step zk (.client .listChildren)).map ({ client with base := · })
    | none, [] =>
      if client.checked then some { client with base := base.snapshot, checked := false } else none
  | .events =>
    if client.expiring then
      (base.step zk (.session .expired)).map ({ client with base := ·, expiring := false })
    else (base.step zk .handle).map ({ client with base := · })

def step (client : ThreadedClient Store) (event : ThreadedEvent Store) : Option (ThreadedClient Store) :=
  if client.base.terminated then none
  else
    match event with
    | .call index request =>
      match client.threads index with
      | .idle => some (client.goto index (.blocked request))
      | _ => none
    | .lock index =>
      match client.threads index, client.mutex with
      | .blocked request, none => some { client.goto index (.entered request) with mutex := some index }
      | _, _ => none
    | .unlock index =>
      match client.threads index with
      | .leaving => some { client.goto index .idle with mutex := none }
      | _ => none
    | .enter actor =>
      if client.locks actor ∧ client.holding.isNone then
        some { client with holding := some (actor, client.base.tables) }
      else none
    | .leave actor =>
      match client.holding with
      | some (holder, tables) =>
        if holder = actor then (client.work zk actor tables).map ({ · with holding := none }) else none
      | none => none
    | .act actor => if client.locks actor then none else client.work zk actor client.base.tables
    | .check =>
      if client.base.shared.services.isEmpty ∧ client.base.shared.answer.isNone ∧
          client.base.registry.client.running ∧ client.base.registry.client.connected then
        some { client with checked := true }
      else none
    | .change store => (client.base.step zk (.client (.change store))).map ({ client with base := · })
    | .fire event path => (client.base.step zk (.fire event path)).map ({ client with base := · })
    | .deliver =>
      if client.expiring then none else (client.base.step zk .deliver).map ({ client with base := · })
    | .session state =>
      if client.expiring then none
      else
        match state with
        | .expired =>
          -- the session is marked as lost before the cache is cleared
          (client.base.step zk (.session .connecting)).map
            ({ client with base := ·, expiring := client.base.listening })
        | _ => (client.base.step zk (.session state)).map ({ client with base := · })

/-- The ways in which `step` can go. -/
inductive Transition (client : ThreadedClient Store) : ThreadedEvent Store → ThreadedClient Store → Prop
  | call {index : Nat} {request : Request} (idle : client.threads index = .idle) :
      Transition client (.call index request) (client.goto index (.blocked request))
  | lock {index : Nat} {request : Request} (blocked : client.threads index = .blocked request)
      (free : client.mutex = none) :
      Transition client (.lock index) { client.goto index (.entered request) with mutex := some index }
  | unlock {index : Nat} (leaving : client.threads index = .leaving) :
      Transition client (.unlock index) { client.goto index .idle with mutex := none }
  | enter {actor : Actor} (locked : client.locks actor = true) (free : client.holding = none) :
      Transition client (.enter actor) { client with holding := some (actor, client.base.tables) }
  | leave {actor : Actor} {tables : Tables} {next : ThreadedClient Store}
      (held : client.holding = some (actor, tables)) (went : client.work zk actor tables = some next) :
      Transition client (.leave actor) { next with holding := none }
  | act {actor : Actor} {next : ThreadedClient Store} (unlocked : client.locks actor = false)
      (went : client.work zk actor client.base.tables = some next) : Transition client (.act actor) next
  | check (rested : client.base.shared.services = []) :
      Transition client .check { client with checked := true }
  | change {store : Store} {base : WatchedClient Store}
      (moved : client.base.step zk (.client (.change store)) = some base) :
      Transition client (.change store) { client with base }
  | fire {event : NodeEvent} {path : Bytes} {base : WatchedClient Store}
      (moved : client.base.step zk (.fire event path) = some base) :
      Transition client (.fire event path) { client with base }
  | deliver {base : WatchedClient Store} (settled : client.expiring = false)
      (moved : client.base.step zk .deliver = some base) : Transition client .deliver { client with base }
  | expire {base : WatchedClient Store} (settled : client.expiring = false)
      (moved : client.base.step zk (.session .connecting) = some base) :
      Transition client (.session .expired)
        { client with base, expiring := client.base.listening }
  | session {state : SessionState} {base : WatchedClient Store} (settled : client.expiring = false)
      (known : state ≠ .expired) (moved : client.base.step zk (.session state) = some base) :
      Transition client (.session state) { client with base }

variable {zk} in
theorem transition_of_step {client next : ThreadedClient Store} {event : ThreadedEvent Store}
    (taken : client.step zk event = some next) : client.Transition zk event next := by
  unfold step at taken
  split at taken
  · cases taken
  cases event with
  | call index request =>
    dsimp only at taken
    split at taken
    next idle =>
      cases taken
      exact .call idle
    · cases taken
  | lock index =>
    dsimp only at taken
    split at taken
    next request blocked free =>
      cases taken
      exact .lock blocked free
    · cases taken
  | unlock index =>
    dsimp only at taken
    split at taken
    next leaving =>
      cases taken
      exact .unlock leaving
    · cases taken
  | enter actor =>
    dsimp only at taken
    split at taken
    next ready =>
      cases taken
      exact .enter ready.1 (Option.isNone_iff_eq_none.mp ready.2)
    · cases taken
  | leave actor =>
    dsimp only at taken
    split at taken
    next holder tables held =>
      split at taken
      next same =>
        subst holder
        obtain ⟨next, went, rfl⟩ := Option.map_eq_some_iff.mp taken
        exact .leave held went
      · cases taken
    · cases taken
  | act actor =>
    dsimp only at taken
    split at taken
    · cases taken
    next unlocked => exact .act (Bool.eq_false_of_not_eq_true unlocked) taken
  | check =>
    dsimp only at taken
    split at taken
    next rested =>
      cases taken
      exact .check (List.isEmpty_iff.mp rested.1)
    · cases taken
  | change store =>
    obtain ⟨base, moved, rfl⟩ := Option.map_eq_some_iff.mp taken
    exact .change moved
  | fire event path =>
    obtain ⟨base, moved, rfl⟩ := Option.map_eq_some_iff.mp taken
    exact .fire moved
  | deliver =>
    dsimp only at taken
    split at taken
    · cases taken
    next settled =>
      obtain ⟨base, moved, rfl⟩ := Option.map_eq_some_iff.mp taken
      exact .deliver (Bool.eq_false_of_not_eq_true settled) moved
  | session state =>
    dsimp only at taken
    split at taken
    · cases taken
    next settled =>
      have calm := Bool.eq_false_of_not_eq_true settled
      split at taken
      · obtain ⟨base, moved, rfl⟩ := Option.map_eq_some_iff.mp taken
        exact .expire calm moved
      next known =>
        obtain ⟨base, moved, rfl⟩ := Option.map_eq_some_iff.mp taken
        exact .session calm known moved

end ThreadedClient

section Background
variable {Store : Type} {zk : ZooKeeper Store}

/-- Steps of the heartbeat, the callbacks and the other clients. -/
def Background : WatchEvent Store → Prop
  | .client .listChildren | .client .reconcile | .client (.change _) => True
  | .fire _ _ | .deliver | .handle | .session _ => True
  | .client (.begin _) | .client .advance | .client .snapshot | .watch _ _ | .arm => False

namespace WatchedClient
variable {watched next : WatchedClient Store}

@[simp] theorem registry_focus (stage : ThreadStage) :
    (watched.focus stage).registry = watched.registry := rfl

theorem focus_perform {α : Type} {body : Effect (Registry Store) α} {guarded : Bool}
    {next : α → WatchedClient Store → WatchedClient Store} (stage : ThreadStage)
    (same : ∀ value after, next value (focus after stage) = (next value after).focus stage) :
    (watched.focus stage).perform zk body guarded next =
      (watched.perform zk body guarded next).focus stage := by
  rw [perform, perform, registry_focus]
  cases body.run watched.registry with
  | ok value registry => exact same value (watched.update zk { watched.shared with registry })
  | error exit registry => rfl

theorem focus_handle (stage : ThreadStage) (path : Bytes) (handling : HandlerStage) :
    (watched.focus stage).handle zk path handling =
      (watched.handle zk path handling).focus stage := by
  cases handling with
  | lookup event =>
    rw [handle, handle, registry_focus]
    cases watched.registry.client.watchers.find? path with
    | none => rfl
    | some callback => rfl
  | reading callback =>
    rw [handle, handle]
    exact focus_perform stage fun _ _ => rfl
  | storing callback data =>
    rw [handle, handle]
    exact focus_perform stage fun _ _ => rfl
  | calling callback data guarded => rfl
  | forgetting callback =>
    rw [handle, handle]
    exact focus_perform stage fun _ _ => rfl
  | arming guarded =>
    rw [handle, handle]
    refine focus_perform stage ?_
    intro sets after
    cases sets with
    | false => rfl
    | true => rfl
  | clearing =>
    rw [handle, handle]
    exact focus_perform stage fun _ _ => rfl

theorem focus_interleave {machine : SharedClient Store} {event : SharedEvent Store}
    (background : Background (.client event)) (call : Option OwnCall) :
    interleave zk { machine with call } event =
      (interleave zk machine event).map ({ · with call }) := by
  cases event with
  | listChildren =>
    simp only [interleave]
    split
    next service rest services answer =>
      refine congrArg some ?_
      unfold SharedClient.listNext
      dsimp only
      split
      · rfl
      · rfl
      · rfl
    · rfl
  | reconcile =>
    simp only [interleave]
    cases machine.answer with
    | none => rfl
    | some answer => rfl
  | change store => rfl
  | _ => exact background.elim

/-- What is done in the background does not depend on the call under way. -/
theorem focus_step {event : WatchEvent Store} (background : Background event) (stage : ThreadStage) :
    (watched.focus stage).step zk event = (watched.step zk event).map (·.focus stage) := by
  have ended : (watched.focus stage).terminated = watched.terminated := rfl
  rw [step.eq_def, step.eq_def, ended]
  cases watched.terminated with
  | true => rfl
  | false =>
    cases event with
    | client event =>
      have moved : interleave zk { watched.shared with call := stage.ownCall } event =
          (interleave zk watched.shared event).map ({ · with call := stage.ownCall }) :=
        focus_interleave background stage.ownCall
      have stepped : ((interleave zk (watched.focus stage).shared event).map
          ((watched.focus stage).update zk)) =
          ((interleave zk watched.shared event).map (watched.update zk)).map (·.focus stage) := by
        rw [focus, moved, Option.map_map, Option.map_map]
        rfl
      cases event with
      | begin call => exact background.elim
      | advance => exact background.elim
      | snapshot => exact background.elim
      | listChildren => exact stepped
      | reconcile => exact stepped
      | change store => exact stepped
    | fire event path => rfl
    | deliver =>
      have handler : (watched.focus stage).handler = watched.handler := rfl
      have queue : (watched.focus stage).queue = watched.queue := rfl
      have listening : (watched.focus stage).listening = watched.listening := rfl
      simp only [handler, queue, listening, Bool.false_eq_true, if_false]
      split
      · split
        · rfl
        · rfl
      · rfl
    | handle =>
      have handler : (watched.focus stage).handler = watched.handler := rfl
      simp only [handler, focus_handle, Option.map_map, Bool.false_eq_true, if_false]
      rfl
    | session state =>
      have handler : (watched.focus stage).handler = watched.handler := rfl
      simp only [handler, Bool.false_eq_true, if_false]
      cases watched.handler with
      | none => rfl
      | some handler => rfl
    | _ => exact background.elim

end WatchedClient

end Background

end Xrpc
