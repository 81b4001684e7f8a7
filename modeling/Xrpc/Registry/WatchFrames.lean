import Xrpc.Registry.CallFrames
import Xrpc.Registry.Watch

/-! What `Watch` and the steps of the handler leave alone. -/

namespace Xrpc

open Support ZookeeperClient

namespace ZookeeperClient
variable {Store : Type} {zk : ZooKeeper Store}

theorem run_beginWatch {state : Registry Store} (connected : state.client.connected = true)
    (path : Bytes) (callback : Nat) :
    (beginWatch path callback).run state = .ok () { state with
      client.watchers := state.client.watchers.insert path callback } := by
  rw [beginWatch, EStateM.run_bind, run_checkConnected connected]
  rfl

theorem refused_beginWatch {state : Registry Store} (unconnected : state.client.connected = false)
    (path : Bytes) (callback : Nat) :
    (beginWatch path callback).run state =
      .error (runtimeError (text "ZooKeeper not connected")) state := by
  simp [beginWatch, checkConnected, EStateM.run_bind, unconnected]

theorem cache_beginWatch (path : Bytes) (callback : Nat) :
    Keeps (fun state : Registry Store => state.client.serviceCache) (beginWatch path callback) :=
  keeps_checkConnected.bind fun _ _ => rfl

theorem keeps_registerWatcher {β : Type} {view : Registry Store → β} {path : Bytes}
    (zooExists : Keeps view (request (zk.zooExists · (cString path)))) :
    Keeps view (registerWatcher zk path) := by
  refine Keeps.get.bind fun state => ?_
  split
  · refine zooExists.bind fun answer => ?_
    split
    · exact Keeps.pure _
    · exact Keeps.pure _
    · exact Keeps.raise _
  · exact Keeps.pure _

theorem client_registerWatcher (zk : ZooKeeper Store) (path : Bytes) :
    Keeps Registry.client (registerWatcher zk path) := keeps_registerWatcher (client_request _)

theorem keeps_forgetInstance {β : Type} {view : Registry Store → β} (unseen : Unseen zk view)
    (path : Bytes) : Keeps view (forgetInstance path) :=
  (keeps_serviceOf path).bind fun _ => (unseen.cache _).bind fun _ => unseen.watchers _

theorem keeps_forgetService {β : Type} {view : Registry Store → β} (unseen : Unseen zk view)
    (path : Bytes) : Keeps view (forgetService path) :=
  (keeps_serviceOf path).bind fun _ => unseen.cache _

end ZookeeperClient

namespace WatchedClient
variable {Store : Type} {zk : ZooKeeper Store} {watched : WatchedClient Store}

/-- Where nothing has changed, no watch goes off. -/
theorem update_of_held {shared : SharedClient Store}
    (same : held zk shared.registry = watched.contents zk) :
    watched.update zk shared = { watched with shared } := by
  have unchanged : ∀ node : Option Znode, NodeEvent.ofChange node node = none := by
    intro node
    cases node with
    | none => rfl
    | some node => exact if_pos rfl
  simp [update, same, unchanged]

/-- The registry after a step of the handler is that after its body. -/
theorem shared_perform {α : Type} {body : Effect (Registry Store) α} {guarded : Bool}
    {next : α → WatchedClient Store → WatchedClient Store}
    (kept : ∀ value after, (next value after).shared = after.shared) :
    (watched.perform zk body guarded next).shared =
      { watched.shared with registry := stateAfter (body.run watched.registry) } := by
  unfold perform
  cases body.run watched.registry with
  | ok value after => exact kept value _
  | error exit after => rfl

theorem shared_arm (path : Bytes) (sets : Bool) : (watched.arm path sets).shared = watched.shared := by
  cases sets with
  | false => rfl
  | true => rfl

theorem client_perform {α : Type} {body : Effect (Registry Store) α} {guarded : Bool}
    {next : α → WatchedClient Store → WatchedClient Store}
    (kept : ∀ value after, (next value after).shared = after.shared) :
    (watched.perform zk body guarded next).registry.client =
      (stateAfter (body.run watched.registry)).client := by
  rw [registry, shared_perform kept]

theorem apart_perform {α : Type} {body : Effect (Registry Store) α} {guarded : Bool}
    {next : α → WatchedClient Store → WatchedClient Store}
    (kept : ∀ value after, (next value after).shared = after.shared) :
    (watched.perform zk body guarded next).shared =
      { watched.shared with registry := (watched.perform zk body guarded next).registry } := by
  rw [registry, shared_perform kept]

/-- A step of the handler leaves the calls and the heartbeat where they are. -/
theorem shared_handle (path : Bytes) (stage : HandlerStage) :
    (watched.handle zk path stage).shared =
      { watched.shared with registry := (watched.handle zk path stage).registry } := by
  cases stage with
  | lookup event =>
    rw [handle]
    split
    · rfl
    · rfl
  | reading callback => exact apart_perform fun _ _ => rfl
  | storing callback data => exact apart_perform fun _ _ => rfl
  | calling callback data guarded => rfl
  | forgetting callback => exact apart_perform fun _ _ => rfl
  | arming guarded => exact apart_perform fun sets after => shared_arm path sets
  | clearing => exact apart_perform fun _ _ => rfl

/-- What a step of the handler does to the client. -/
theorem client_handle (zk : ZooKeeper Store) (watched : WatchedClient Store) (path : Bytes)
    (stage : HandlerStage) :
    (watched.handle zk path stage).registry.client = watched.registry.client ∨
    (∃ callback data service, stage = .storing callback data ∧ serviceSegment path = some service ∧
      (watched.handle zk path stage).registry.client = { watched.registry.client with
        serviceCache := watched.registry.client.serviceCache.setInstance service path data }) ∨
    (∃ callback service, stage = .forgetting callback ∧ serviceSegment path = some service ∧
      (watched.handle zk path stage).registry.client = { watched.registry.client with
        serviceCache := watched.registry.client.serviceCache.retain service (· ≠ path)
        watchers := watched.registry.client.watchers.erase path }) ∨
    ∃ service, stage = .clearing ∧ serviceSegment path = some service ∧
      (watched.handle zk path stage).registry.client = { watched.registry.client with
        serviceCache := watched.registry.client.serviceCache.erase service } := by
  cases stage with
  | lookup event =>
    refine .inl ?_
    rw [handle]
    split
    · rfl
    · rfl
  | reading callback =>
    refine .inl ?_
    rw [handle, client_perform (by exact fun _ _ => rfl)]
    exact client_getNodeData path _
  | calling callback data guarded => exact .inl rfl
  | arming guarded =>
    refine .inl ?_
    rw [handle, client_perform (by exact fun sets after => shared_arm path sets)]
    exact client_registerWatcher zk path _
  | storing callback data =>
    rw [handle, client_perform (by exact fun _ _ => rfl)]
    cases segment : serviceSegment path with
    | none =>
      refine .inl ?_
      simp only [cacheInstance, serviceOf, segment, EStateM.run_bind, run_raise, stateAfter_error]
    | some service =>
      refine .inr (.inl ⟨callback, data, service, rfl, rfl, ?_⟩)
      rw [run_cacheInstance segment, stateAfter_ok]
  | forgetting callback =>
    rw [handle, client_perform (by exact fun _ _ => rfl)]
    cases segment : serviceSegment path with
    | none =>
      refine .inl ?_
      simp only [forgetInstance, serviceOf, segment, EStateM.run_bind, run_raise, stateAfter_error]
    | some service =>
      refine .inr (.inr (.inl ⟨callback, service, rfl, rfl, ?_⟩))
      rw [run_forgetInstance segment, stateAfter_ok]
  | clearing =>
    rw [handle, client_perform (by exact fun _ _ => rfl)]
    cases segment : serviceSegment path with
    | none =>
      refine .inl ?_
      simp only [forgetService, serviceOf, segment, EStateM.run_bind, run_raise, stateAfter_error]
    | some service =>
      refine .inr (.inr (.inr ⟨service, rfl, rfl, ?_⟩))
      simp [forgetService, serviceOf, segment, modifyCache]

/-- A step that leaves the store alone sets no watch off. -/
theorem perform_of_kept {α : Type} {body : Effect (Registry Store) α}
    (kept : Keeps (held zk) body) (guarded : Bool)
    (next : α → WatchedClient Store → WatchedClient Store) :
    watched.perform zk body guarded next =
      match body.run watched.registry with
      | .ok value registry => next value { watched with shared.registry := registry }
      | .error _ registry =>
        { watched with shared.registry := registry, handler := none, terminated := !guarded } := by
  have same := kept watched.registry
  unfold perform
  cases ran : body.run watched.registry with
  | ok value registry =>
    rw [ran, stateAfter_ok] at same
    exact congrArg (next value) (update_of_held same)
  | error exit registry =>
    rw [ran, stateAfter_error] at same
    dsimp only
    rw [update_of_held same]

/-- The end of `Watch` may set a watch, and changes nothing else. -/
theorem finishWatch_eq (lawful : zk.Lawful) (path : Bytes) :
    ∃ registry sets, registry.client = watched.registry.client ∧
      held zk registry = watched.contents zk ∧
      watched.finishWatch zk path =
        { ({ watched with shared.registry := registry } : WatchedClient Store).arm path sets with
          watching := none } := by
  have client := client_registerWatcher zk path watched.registry
  have same : held zk _ = watched.contents zk :=
    keeps_registerWatcher ((unseen_held lawful).zooExists (cString path)) watched.registry
  unfold finishWatch
  cases ran : (registerWatcher zk path).run watched.registry with
  | ok sets registry =>
    rw [ran, stateAfter_ok] at client same
    refine ⟨registry, sets, client, same, ?_⟩
    dsimp only
    rw [update_of_held same]
  | error exit registry =>
    rw [ran, stateAfter_error] at client same
    refine ⟨registry, false, client, same, ?_⟩
    dsimp only
    rw [update_of_held same]
    rfl

/-- What a step of the handler for `path` can change. -/
structure HandlerFrame (zk : ZooKeeper Store) (path : Bytes) (stage : HandlerStage)
    (watched next : WatchedClient Store) : Prop where
  contents : next.contents zk = watched.contents zk
  queue : next.queue = watched.queue
  armed : next.armed = watched.armed ∨ next.armed = watched.armed.insert (cString path)
  told : next.told = watched.told ∨ ∃ notice, notice.path = path ∧ next.told = watched.told ++ [notice]
  handler : ∀ handler ∈ next.handler, handler.path = path ∧
    (∀ event, handler.stage ≠ .lookup event) ∧ (handler.stage = .clearing → stage = .lookup .child)

theorem frame_perform {path : Bytes} {stage : HandlerStage} {α : Type}
    {body : Effect (Registry Store) α} (kept : Keeps (held zk) body) (guarded : Bool)
    {next : α → WatchedClient Store → WatchedClient Store}
    (frame : ∀ value registry, held zk registry = watched.contents zk →
      HandlerFrame zk path stage watched (next value { watched with shared.registry := registry })) :
    HandlerFrame zk path stage watched (watched.perform zk body guarded next) := by
  have same := kept watched.registry
  rw [perform_of_kept kept]
  cases ran : body.run watched.registry with
  | ok value registry =>
    rw [ran, stateAfter_ok] at same
    exact frame value registry same
  | error exit registry =>
    rw [ran, stateAfter_error] at same
    exact ⟨same, rfl, .inl rfl, .inl rfl, nofun⟩

theorem handle_frame (lawful : zk.Lawful) (path : Bytes) (stage : HandlerStage) :
    HandlerFrame zk path stage watched (watched.handle zk path stage) := by
  have goes : ∀ next : HandlerStage, (∀ event, next ≠ .lookup event) →
      (next = .clearing → stage = .lookup .child) → ∀ registry : Registry Store,
      held zk registry = watched.contents zk → HandlerFrame zk path stage watched
        (WatchedClient.goto { watched with shared.registry := registry } path next) := by
    intro next notLookup clears registry same
    refine ⟨same, rfl, .inl rfl, .inl rfl, ?_⟩
    rintro _ ⟨rfl⟩
    exact ⟨rfl, notLookup, clears⟩
  have unseen := unseen_held lawful
  cases stage with
  | lookup event =>
    rw [handle]
    split
    · exact ⟨rfl, rfl, .inl rfl, .inl rfl, nofun⟩
    next callback found =>
      refine goes (event.first callback) ?_ ?_ watched.registry rfl
      · cases event <;> exact nofun
      · cases event with
        | child => exact fun _ => rfl
        | created => exact nofun
        | changed => exact nofun
        | deleted => exact nofun
  | reading callback =>
    rw [handle]
    refine frame_perform (keeps_getNodeData (unseen.zooGet _)) _ ?_
    intro data registry same
    exact goes (.storing callback data) nofun nofun registry same
  | storing callback data =>
    rw [handle]
    refine frame_perform (keeps_cacheInstance unseen path data) _ ?_
    intro _ registry same
    exact goes (.calling callback data true) nofun nofun registry same
  | calling callback data guarded =>
    refine ⟨rfl, rfl, .inl rfl, .inr ⟨⟨path, callback, data⟩, rfl, rfl⟩, ?_⟩
    rintro _ ⟨rfl⟩
    exact ⟨rfl, nofun, nofun⟩
  | forgetting callback =>
    rw [handle]
    refine frame_perform (keeps_forgetInstance unseen path) _ ?_
    intro _ registry same
    exact goes (.calling callback [] false) nofun nofun registry same
  | arming guarded =>
    rw [handle]
    refine frame_perform (keeps_registerWatcher (unseen.zooExists _)) _ ?_
    intro sets registry same
    cases sets with
    | false => exact ⟨same, rfl, .inl rfl, .inl rfl, nofun⟩
    | true => exact ⟨same, rfl, .inr rfl, .inl rfl, nofun⟩
  | clearing =>
    rw [handle]
    refine frame_perform (keeps_forgetService unseen path) _ ?_
    intro _ registry same
    exact ⟨same, rfl, .inl rfl, .inl rfl, nofun⟩

theorem shared_finishWatch (path : Bytes) :
    (watched.finishWatch zk path).shared =
      { watched.shared with registry := (watched.finishWatch zk path).registry } := by
  have done : ∀ shared sets, ((watched.update zk shared).arm path sets).shared = shared :=
    fun shared sets => shared_arm path sets
  unfold finishWatch registry
  split
  · simp only [done]
  · rfl

/-- Only its own steps take a call further. -/
theorem shared_step {next : WatchedClient Store} {event : WatchEvent Store}
    (taken : watched.step zk event = some next) :
    (∃ shared action, event = .client action ∧ interleave zk watched.shared action = some shared ∧
      next.shared = shared) ∨
      (∀ action, event ≠ .client action) ∧
        next.shared = { watched.shared with registry := next.registry } := by
  cases transition_of_step taken with
  | client apart moved => exact .inl ⟨_, _, rfl, moved, rfl⟩
  | watch idle stored => exact .inr ⟨nofun, rfl⟩
  | refuse idle thrown => exact .inr ⟨nofun, rfl⟩
  | arm watching => exact .inr ⟨nofun, shared_finishWatch _⟩
  | fire event path => exact .inr ⟨nofun, rfl⟩
  | deliver idle queued listening => exact .inr ⟨nofun, rfl⟩
  | skip idle queued unheard => exact .inr ⟨nofun, rfl⟩
  | handle handling => exact .inr ⟨nofun, shared_handle _ _⟩
  | session state idle => exact .inr ⟨nofun, rfl⟩

end WatchedClient

end Xrpc
