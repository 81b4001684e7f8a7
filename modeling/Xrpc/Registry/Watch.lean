import Xrpc.Registry.Interleaving

/-! `Watch` and the node events of `WatcherCallback`, step by step, beside the calls
of the client, the heartbeat and other clients. -/

namespace Xrpc

open Support ZookeeperClient

inductive NodeEvent where
  | created | changed | deleted | child
  deriving DecidableEq

/-- What the handler of a node event does next. `guarded` tells whether it is
inside the `try` block. -/
inductive HandlerStage where
  | lookup (event : NodeEvent)
  | reading (callback : Nat)
  | storing (callback : Nat) (data : Bytes)
  | calling (callback : Nat) (data : Bytes) (guarded : Bool)
  | forgetting (callback : Nat)
  | arming (guarded : Bool)
  | clearing
  deriving DecidableEq

structure Handler where
  path : Bytes
  stage : HandlerStage
  deriving DecidableEq

/-- A callback was called with the data of the node at `path`. -/
structure Notice where
  path : Bytes
  callback : Nat
  data : Bytes
  deriving DecidableEq

/-- A client with its watches. `watching` is the path of a call of `Watch` that has
stored its callback; `armed` has the paths watched at ZooKeeper, and `queue` the
events that wait for the thread of the callbacks. -/
structure WatchedClient (Store : Type) where
  shared : SharedClient Store
  watching : Option Bytes := none
  armed : List Bytes := []
  queue : List (NodeEvent × Bytes) := []
  handler : Option Handler := none
  told : List Notice := []
  terminated : Bool := false

/-- `fire` is an event that ZooKeeper sends for whatever reason. -/
inductive WatchEvent (Store : Type) where
  | client (event : SharedEvent Store)
  | watch (path : Bytes) (callback : Nat)
  | arm
  | fire (event : NodeEvent) (path : Bytes)
  | deliver
  | handle
  | session (state : SessionState)

/-- What a watch set on a node reports of a change. -/
def NodeEvent.ofChange : Option Znode → Option Znode → Option NodeEvent
  | none, none => none
  | none, some _ => some .created
  | some _, none => some .deleted
  | some old, some new => if old = new then none else some .changed

/-- What the handler does when it has found the callback. -/
def NodeEvent.first (callback : Nat) : NodeEvent → HandlerStage
  | .created | .changed => .reading callback
  | .deleted => .forgetting callback
  | .child => .clearing

namespace ZookeeperClient
variable {Store : Type} (zk : ZooKeeper Store)

/-- Whether `zoo_wexists` has set a watch. -/
def registerWatcher (path : Bytes) : Effect (Registry Store) Bool := do
  if (← get).client.connected then
    match ← request (zk.zooExists · (cString path)) with
    | .ok _ | .error .noNode => return true
    | .error ret => raise (runtimeError (text "Failed to set watch: " ++ zk.zerror ret))
  else return false

/-- `Watch` up to the call of `RegisterWatcher`. -/
def beginWatch (path : Bytes) (callback : Nat) : Effect (Registry Store) Unit := do
  checkConnected
  modifyWatchers (·.insert path callback)

def watch (path : Bytes) (callback : Nat) : Effect (Registry Store) Bool := do
  beginWatch path callback
  registerWatcher zk path

/-- A child event drops the list of the service. -/
def forgetService (path : Bytes) : Effect (Registry Store) Unit := do
  let service ← serviceOf path
  modifyCache (·.erase service)

end ZookeeperClient

namespace WatchedClient
variable {Store : Type} (zk : ZooKeeper Store)

def registry (watched : WatchedClient Store) : Registry Store := watched.shared.registry

def contents (watched : WatchedClient Store) : ZooKeeper.Contents := held zk watched.registry

/-- Watches go off where the new store differs from the old one. -/
def update (watched : WatchedClient Store) (shared : SharedClient Store) : WatchedClient Store :=
  let change (path : Bytes) := NodeEvent.ofChange (watched.contents zk path) (held zk shared.registry path)
  { watched with
    shared
    armed := watched.armed.filter fun path => change path = none
    queue := watched.queue ++ watched.armed.filterMap fun path => (change path).map (·, path) }

def goto (watched : WatchedClient Store) (path : Bytes) (stage : HandlerStage) :
    WatchedClient Store := { watched with handler := some ⟨path, stage⟩ }

def arm (watched : WatchedClient Store) (path : Bytes) (sets : Bool) : WatchedClient Store :=
  if sets then { watched with armed := watched.armed.insert (cString path) } else watched

/-- A step of the handler. What is not caught leaves `WatcherCallback` and ends the process. -/
def perform {α : Type} (watched : WatchedClient Store) (body : Effect (Registry Store) α)
    (guarded : Bool) (next : α → WatchedClient Store → WatchedClient Store) : WatchedClient Store :=
  match body.run watched.registry with
  | .ok value registry => next value (watched.update zk { watched.shared with registry })
  | .error _ registry =>
    { watched.update zk { watched.shared with registry } with
      handler := none, terminated := !guarded }

/-- `WatcherCallback` for a node event, one access to the store or to a table at a time. -/
def handle (watched : WatchedClient Store) (path : Bytes) : HandlerStage → WatchedClient Store
  | .lookup event =>
    match watched.registry.client.watchers.find? path with
    | none => { watched with handler := none }
    | some callback => watched.goto path (event.first callback)
  | .reading callback =>
    watched.perform zk (getNodeData zk path) true fun data next =>
      next.goto path (.storing callback data)
  | .storing callback data =>
    watched.perform zk (cacheInstance path data) true fun _ next =>
      next.goto path (.calling callback data true)
  | .calling callback data guarded =>
    let told : WatchedClient Store := { watched with told := watched.told ++ [⟨path, callback, data⟩] }
    told.goto path (.arming guarded)
  | .forgetting callback =>
    watched.perform zk (forgetInstance path) false fun _ next =>
      next.goto path (.calling callback [] false)
  | .arming guarded =>
    watched.perform zk (registerWatcher zk path) guarded fun sets next =>
      { next.arm path sets with handler := none }
  | .clearing =>
    watched.perform zk (forgetService path) false fun _ next => { next with handler := none }

/-- `Watch` from the call of `RegisterWatcher` on. -/
def finishWatch (watched : WatchedClient Store) (path : Bytes) : WatchedClient Store :=
  match (registerWatcher zk path).run watched.registry with
  | .ok sets registry =>
    { (watched.update zk { watched.shared with registry }).arm path sets with watching := none }
  | .error _ registry => { watched.update zk { watched.shared with registry } with watching := none }

/-- The check at the top of `WatcherCallback`. -/
def listening (watched : WatchedClient Store) : Bool :=
  watched.registry.client.zkHandle.isSome && watched.registry.client.running

/-- `Watch` and the other calls exclude each other, and so do the callbacks. -/
def step (watched : WatchedClient Store) (event : WatchEvent Store) : Option (WatchedClient Store) :=
  if watched.terminated then none
  else
    match event with
    | .client event =>
      match event, watched.watching with
      | .begin _, some _ => none
      | _, _ => (interleave zk watched.shared event).map (watched.update zk)
    | .watch path callback =>
      if watched.shared.call.isSome ∨ watched.watching.isSome then none
      else
        match (beginWatch path callback).run watched.registry with
        | .ok _ registry => some { watched with shared.registry := registry, watching := some path }
        | .error _ registry => some { watched with shared.registry := registry }
    | .arm => watched.watching.map (watched.finishWatch zk)
    | .fire event path => some { watched with queue := watched.queue ++ [(event, path)] }
    | .deliver =>
      match watched.handler, watched.queue with
      | none, (event, path) :: rest =>
        let taken := { watched with queue := rest }
        some (if watched.listening then taken.goto path (.lookup event) else taken)
      | _, _ => none
    | .handle => watched.handler.map fun handler => watched.handle zk handler.path handler.stage
    | .session state =>
      match watched.handler with
      | some _ => none
      | none => some { watched with
          shared.registry.client := watched.registry.client.handleSessionEvent state }

/-- The ways in which `step` can go. -/
inductive Transition (watched : WatchedClient Store) : WatchEvent Store → WatchedClient Store → Prop
  | client {event : SharedEvent Store} {shared : SharedClient Store}
      (apart : ∀ call, event = .begin call → watched.watching = none)
      (moved : interleave zk watched.shared event = some shared) :
      Transition watched (.client event) (watched.update zk shared)
  | watch {path : Bytes} {callback : Nat} {registry : Registry Store}
      (idle : watched.shared.call = none ∧ watched.watching = none)
      (stored : (beginWatch path callback).run watched.registry = .ok () registry) :
      Transition watched (.watch path callback)
        { watched with shared.registry := registry, watching := some path }
  | refuse {path : Bytes} {callback : Nat} {exit : Exit} {registry : Registry Store}
      (idle : watched.shared.call = none ∧ watched.watching = none)
      (thrown : (beginWatch path callback).run watched.registry = .error exit registry) :
      Transition watched (.watch path callback) { watched with shared.registry := registry }
  | arm {path : Bytes} (watching : watched.watching = some path) :
      Transition watched .arm (watched.finishWatch zk path)
  | fire (event : NodeEvent) (path : Bytes) :
      Transition watched (.fire event path) { watched with queue := watched.queue ++ [(event, path)] }
  | deliver {event : NodeEvent} {path : Bytes} {rest : List (NodeEvent × Bytes)}
      (idle : watched.handler = none) (queued : watched.queue = (event, path) :: rest)
      (listening : watched.listening = true) :
      Transition watched .deliver
        (WatchedClient.goto { watched with queue := rest } path (.lookup event))
  | skip {entry : NodeEvent × Bytes} {rest : List (NodeEvent × Bytes)}
      (idle : watched.handler = none) (queued : watched.queue = entry :: rest)
      (unheard : watched.listening = false) :
      Transition watched .deliver { watched with queue := rest }
  | handle {path : Bytes} {stage : HandlerStage} (handling : watched.handler = some ⟨path, stage⟩) :
      Transition watched .handle (watched.handle zk path stage)
  | session (state : SessionState) (idle : watched.handler = none) :
      Transition watched (.session state) { watched with
        shared.registry.client := watched.registry.client.handleSessionEvent state }

variable {zk} in
theorem transition_of_step {watched next : WatchedClient Store} {event : WatchEvent Store}
    (taken : watched.step zk event = some next) : watched.Transition zk event next := by
  unfold step at taken
  split at taken
  · cases taken
  cases event with
  | client event =>
    dsimp only at taken
    split at taken
    · cases taken
    next unblocked =>
      obtain ⟨shared, moved, rfl⟩ := Option.map_eq_some_iff.mp taken
      refine .client ?_ moved
      rintro call rfl
      exact Option.eq_none_iff_forall_ne_some.mpr fun path watching => unblocked call path rfl watching
  | watch path callback =>
    dsimp only at taken
    split at taken
    · cases taken
    next free =>
      have idle : watched.shared.call = none ∧ watched.watching = none := by simpa using free
      split at taken
      next stored =>
        cases taken
        exact .watch idle stored
      next thrown =>
        cases taken
        exact .refuse idle thrown
  | arm =>
    obtain ⟨path, watching, rfl⟩ := Option.map_eq_some_iff.mp taken
    exact .arm watching
  | fire event path =>
    cases taken
    exact .fire event path
  | deliver =>
    dsimp only at taken
    split at taken
    next idle queued =>
      cases taken
      split
      next listening => exact .deliver idle queued listening
      next unheard => exact .skip idle queued (Bool.eq_false_of_not_eq_true unheard)
    · cases taken
  | handle =>
    obtain ⟨handler, handling, rfl⟩ := Option.map_eq_some_iff.mp taken
    exact .handle handling
  | session state =>
    dsimp only at taken
    split at taken
    · cases taken
    next idle =>
      cases taken
      exact .session state idle

end WatchedClient

end Xrpc
