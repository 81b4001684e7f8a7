import Xrpc.Registry.Attendance
import Xrpc.Registry.NodeView

/-! How each step of a client with watches shows in what it has to do with one node. -/

namespace Xrpc

open Support ZookeeperClient

/-- A client and the contents of one path after each change. -/
structure ObservedClient (Store : Type) where
  client : WatchedClient Store
  changes : List (Option Znode) := []

namespace ObservedClient
variable {Store : Type} (zk : ZooKeeper Store) (path : Bytes)

def record (observed : ObservedClient Store) (client : WatchedClient Store) :
    ObservedClient Store where
  client
  changes :=
    if client.contents zk path = observed.client.contents zk path then observed.changes
    else observed.changes ++ [client.contents zk path]

def step (observed : ObservedClient Store) (event : WatchEvent Store) :
    Option (ObservedClient Store) :=
  (observed.client.step zk event).map (observed.record zk path)

def view (observed : ObservedClient Store) : NodeView where
  node := observed.client.contents zk path
  armed := path ∈ observed.client.armed
  waiting := (observed.client.queue.filter fun entry => entry.2 = path).map Prod.fst
  stage := (observed.client.handler.filter fun handler => handler.path = path).map Handler.stage
  watcher := observed.client.registry.client.watchers.find? path
  told := (observed.client.told.filter fun notice => notice.path = path).map fun notice =>
    (notice.callback, notice.data)
  cached := observed.client.registry.client.serviceCache.dataOf path
  changes := observed.changes

end ObservedClient

/-- The events that a change of the watched nodes causes, for one of them. -/
theorem notified_at {armed : List Bytes} (distinct : armed.Nodup) (path : Bytes)
    (change : Bytes → Option NodeEvent) :
    ((armed.filterMap fun other => (change other).map (·, other)).filter fun entry =>
        entry.2 = path).map Prod.fst =
      if path ∈ armed then (change path).toList else [] := by
  induction armed with
  | nil => rfl
  | cons first rest ih =>
    obtain ⟨absent, distinct⟩ := List.nodup_cons.mp distinct
    have later := ih distinct
    by_cases same : first = path
    · subst first
      rw [if_neg absent] at later
      cases changed : change path with
      | none => simpa [List.filterMap_cons, changed] using later
      | some event => simpa [List.filterMap_cons, changed] using later
    · have other : path ≠ first := fun equal => same equal.symm
      cases changed : change first with
      | none => simpa [List.filterMap_cons, changed, other] using later
      | some event => simpa [List.filterMap_cons, changed, same, other] using later

section Update
variable {Store : Type} {zk : ZooKeeper Store} {path : Bytes} {observed : ObservedClient Store}

theorem record_of_held {client : WatchedClient Store}
    (same : client.contents zk path = observed.client.contents zk path) :
    observed.record zk path client = { client, changes := observed.changes } := by
  rw [ObservedClient.record, if_pos same]

theorem mem_armed_update {watched : WatchedClient Store} {shared : SharedClient Store} :
    path ∈ (watched.update zk shared).armed ↔
      path ∈ watched.armed ∧ held zk shared.registry path = watched.contents zk path := by
  rw [← NodeEvent.ofChange_eq_none_iff]
  simp [WatchedClient.update]

theorem waiting_update (zk : ZooKeeper Store) {watched : WatchedClient Store}
    (distinct : watched.armed.Nodup) (path : Bytes) (shared : SharedClient Store) :
    ((watched.update zk shared).queue.filter fun entry => entry.2 = path).map Prod.fst =
      (watched.queue.filter fun entry => entry.2 = path).map Prod.fst ++
        if path ∈ watched.armed then
          (NodeEvent.ofChange (watched.contents zk path) (held zk shared.registry path)).toList
        else [] := by
  rw [← notified_at distinct path fun other =>
    NodeEvent.ofChange (watched.contents zk other) (held zk shared.registry other)]
  simp only [WatchedClient.update, List.filter_append, List.map_append]

/-- Whatever changes the store shows as a change of the node. -/
theorem view_update (distinct : observed.client.armed.Nodup) (shared : SharedClient Store) :
    (observed.record zk path (observed.client.update zk shared)).view zk path =
      { (observed.view zk path).change (held zk shared.registry path) with
        watcher := shared.registry.client.watchers.find? path
        cached := shared.registry.client.serviceCache.dataOf path } := by
  have waiting := waiting_update zk distinct path shared
  have armed : path ∈ (observed.client.update zk shared).armed ↔ _ := mem_armed_update
  have after : (observed.client.update zk shared).contents zk path = held zk shared.registry path :=
    rfl
  by_cases same : held zk shared.registry path = observed.client.contents zk path
  · rw [NodeEvent.ofChange_eq_none_iff.mpr same, Option.toList_none, ite_self,
      List.append_nil] at waiting
    rw [record_of_held (after.trans same), NodeView.change_of_eq same, ObservedClient.view,
      ObservedClient.view, after, waiting]
    simp only [armed, same, and_true]
    rfl
  · obtain ⟨event, changed⟩ := Option.ne_none_iff_exists'.mp
      (mt NodeEvent.ofChange_eq_none_iff.mp same)
    rw [changed, Option.toList_some] at waiting
    have moved : NodeEvent.ofChange (observed.view zk path).node (held zk shared.registry path) =
        some event := changed
    rw [NodeView.change_of_event moved, ObservedClient.record, after, if_neg same,
      ObservedClient.view, ObservedClient.view, after, waiting]
    simp only [armed, same, and_false, decide_false]
    by_cases watched : path ∈ observed.client.armed
    · simp only [watched, if_true, decide_true]
      rfl
    · simp only [watched, if_false, decide_false, List.append_nil]
      rfl

end Update

section Handling
variable {Store : Type} {zk : ZooKeeper Store} {path : Bytes} {observed : ObservedClient Store}

/-- The handler reads the node, or gives up where there is none. -/
theorem view_reading (lawful : zk.Lawful) (reliable : zk.Reliable) (watchable : Watchable zk path)
    (attending : Attending observed.client) (callback : Nat) :
    ({ client := observed.client.handle zk path (.reading callback), changes := observed.changes } :
      ObservedClient Store).view zk path = (observed.view zk path).handle (.reading callback) := by
  have frame : WatchedClient.HandlerFrame zk path (.reading callback) observed.client _ :=
    WatchedClient.handle_frame lawful path (.reading callback)
  have node := congrFun frame.contents path
  rw [WatchedClient.handle,
    WatchedClient.perform_of_kept (keeps_getNodeData ((unseen_held lawful).zooGet _))] at node ⊢
  have read := run_reading lawful reliable watchable attending.connected
  cases found : held zk observed.client.registry path with
  | some held =>
    rw [found] at read
    obtain ⟨store, ran⟩ := read
    rw [ran] at node ⊢
    refine NodeView.ext node rfl rfl ?_ rfl rfl rfl rfl
    simp [ObservedClient.view, NodeView.handle, WatchedClient.goto, WatchedClient.contents, found]
  | none =>
    rw [found] at read
    obtain ⟨exit, after, ran⟩ := read
    have client : (stateAfter ((getNodeData zk path).run observed.client.registry)).client = _ :=
      client_getNodeData path observed.client.registry
    rw [ran, stateAfter_error] at client
    rw [ran] at node ⊢
    refine NodeView.ext node rfl rfl ?_ ?_ rfl ?_ rfl
    · simp [ObservedClient.view, NodeView.handle, WatchedClient.contents, found]
    · exact congrArg (·.watchers.find? path) client
    · exact congrArg (·.serviceCache.dataOf path) client

/-- A step of the handler of the node. -/
theorem view_handle (lawful : zk.Lawful) (reliable : zk.Reliable) (watchable : Watchable zk path)
    (attending : Attending observed.client) (stage : HandlerStage) :
    (observed.record zk path (observed.client.handle zk path stage)).view zk path =
      (observed.view zk path).handle stage := by
  obtain ⟨service, segment⟩ := exists_serviceSegment watchable.nonempty
  have unseen := unseen_held lawful
  have frame : WatchedClient.HandlerFrame zk path stage observed.client _ :=
    WatchedClient.handle_frame lawful path stage
  have node := congrFun frame.contents path
  have goes : ∀ next : HandlerStage, (some (⟨path, next⟩ : Handler)).filter
      (fun handler => handler.path = path) = some ⟨path, next⟩ := by
    intro next
    simp
  rw [record_of_held node]
  cases stage with
  | lookup event =>
    rw [WatchedClient.handle]
    cases found : observed.client.registry.client.watchers.find? path with
    | none =>
      refine NodeView.ext rfl rfl rfl ?_ rfl rfl rfl rfl
      simp [ObservedClient.view, NodeView.handle, found]
    | some callback =>
      refine NodeView.ext rfl rfl rfl ?_ rfl rfl rfl rfl
      simp [ObservedClient.view, NodeView.handle, WatchedClient.goto, found]
  | reading callback => exact view_reading lawful reliable watchable attending callback
  | storing callback data =>
    rw [WatchedClient.handle, WatchedClient.perform_of_kept (keeps_cacheInstance unseen path data),
      run_cacheInstance segment]
    refine NodeView.ext rfl rfl rfl ?_ rfl rfl (dataOf_setInstance segment data) rfl
    exact congrArg (·.map Handler.stage) (goes _)
  | calling callback data guarded =>
    refine NodeView.ext rfl rfl rfl ?_ rfl ?_ rfl rfl
    · exact congrArg (·.map Handler.stage) (goes _)
    · simp [WatchedClient.handle, ObservedClient.view, NodeView.handle, WatchedClient.goto]
  | forgetting callback =>
    rw [WatchedClient.handle, WatchedClient.perform_of_kept (keeps_forgetInstance unseen path),
      run_forgetInstance segment]
    refine NodeView.ext rfl rfl rfl ?_ ?_ rfl ?_ rfl
    · exact congrArg (·.map Handler.stage) (goes _)
    · exact Table.find?_erase _ path
    · exact (dataOf_retain _ path service _).trans (by simp [segment, NodeView.handle])
  | arming guarded =>
    obtain ⟨store, same, ran⟩ := run_registerWatcher lawful watchable attending.connected
    rw [WatchedClient.handle,
      WatchedClient.perform_of_kept (keeps_registerWatcher (unseen.zooExists _)), ran] at node ⊢
    refine NodeView.ext node ?_ rfl rfl rfl rfl rfl rfl
    simp [ObservedClient.view, NodeView.handle, WatchedClient.arm,
      cString_of_terminated watchable.terminated]
  | clearing =>
    rw [WatchedClient.handle, WatchedClient.perform_of_kept (keeps_forgetService unseen path)]
    have ran : (forgetService path).run observed.client.registry = .ok () { observed.client.registry with
        client.serviceCache := observed.client.registry.client.serviceCache.erase service } := by
      simp [forgetService, serviceOf, segment, modifyCache]
    rw [ran]
    exact NodeView.ext rfl rfl rfl rfl rfl rfl (dataOf_erase segment) rfl

/-- A step of the handler of another node. -/
theorem view_handle_ne (lawful : zk.Lawful) (attending : Attending observed.client) {other : Bytes}
    (different : other ≠ path) {stage : HandlerStage}
    (handling : observed.client.handler = some ⟨other, stage⟩) :
    (observed.record zk path (observed.client.handle zk other stage)).view zk path =
      observed.view zk path := by
  obtain ⟨terminated, notClearing, -⟩ := attending.handler _ handling
  have frame : WatchedClient.HandlerFrame zk other stage observed.client _ :=
    WatchedClient.handle_frame lawful other stage
  have client := WatchedClient.client_handle zk observed.client other stage
  generalize observed.client.handle zk other stage = next at frame client ⊢
  have node := congrFun frame.contents path
  rw [record_of_held node]
  refine NodeView.ext node ?_ ?_ ?_ ?_ ?_ ?_ rfl
  · rcases frame.armed with same | inserted
    · simp only [ObservedClient.view, same]
    · simp [ObservedClient.view, inserted, cString_of_terminated terminated, different.symm]
  · simp only [ObservedClient.view, frame.queue]
  · have elsewhere : (observed.client.handler.filter fun handler => handler.path = path) = none := by
      simp [handling, different]
    have still : (next.handler.filter fun handler => handler.path = path) = none := by
      rw [Option.filter_eq_none_iff]
      intro handler member
      simpa [(frame.handler handler member).1] using different
    simp only [ObservedClient.view, elsewhere, still]
  · rcases client with same | ⟨_, _, service, -, -, same⟩ | ⟨_, service, -, -, same⟩ | ⟨_, clearing, -⟩
    · simp only [ObservedClient.view, same]
    · simp only [ObservedClient.view, same]
    · simp only [ObservedClient.view, same, Table.find?_erase_ne _ different.symm]
    · exact absurd clearing notClearing
  · rcases frame.told with same | ⟨notice, elsewhere, same⟩
    · simp only [ObservedClient.view, same]
    · simp [ObservedClient.view, same, elsewhere, different]
  · rcases client with same | ⟨_, _, service, -, -, same⟩ | ⟨_, service, -, -, same⟩ | ⟨_, clearing, -⟩
    · simp only [ObservedClient.view, same]
    · simp only [ObservedClient.view, same, dataOf_setInstance_ne different.symm]
    · simp [ObservedClient.view, same, dataOf_retain, different.symm]
    · exact absurd clearing notClearing

end Handling

section Steps
variable {Store : Type} {zk : ZooKeeper Store} {path : Bytes} {observed next : ObservedClient Store}

/-- A step of the client has been taken, and the node looked at. -/
theorem recorded_of_step {event : WatchEvent Store}
    (taken : observed.step zk path event = some next) :
    ∃ client, observed.client.step zk event = some client ∧
      next = observed.record zk path client := by
  obtain ⟨client, moved, rfl⟩ := Option.map_eq_some_iff.mp taken
  exact ⟨client, moved, rfl⟩

theorem attending_of_step (lawful : zk.Lawful) (attending : Attending observed.client)
    {event : WatchEvent Store} (ordinary : Ordinary event)
    (taken : observed.step zk path event = some next) : Attending next.client := by
  obtain ⟨client, moved, rfl⟩ := recorded_of_step taken
  exact attending.step lawful ordinary moved

theorem view_client (attending : Attending observed.client) {event : SharedEvent Store}
    (taken : observed.step zk path (.client event) = some next) :
    ∃ shared, interleave zk observed.client.shared event = some shared ∧
      next.client = observed.client.update zk shared ∧
      next.view zk path = { (observed.view zk path).change (held zk shared.registry path) with
        watcher := shared.registry.client.watchers.find? path
        cached := shared.registry.client.serviceCache.dataOf path } := by
  obtain ⟨client, moved, rfl⟩ := recorded_of_step taken
  cases WatchedClient.transition_of_step moved with
  | @client _ shared apart interleaved =>
    exact ⟨shared, interleaved, rfl, view_update attending.distinct shared⟩

/-- The client is as it was, whatever has become of the store. -/
theorem view_client_same {shared : SharedClient Store}
    (client : shared.registry.client = observed.client.registry.client) :
    ({ (observed.view zk path).change (held zk shared.registry path) with
      watcher := shared.registry.client.watchers.find? path
      cached := shared.registry.client.serviceCache.dataOf path } : NodeView) =
      (observed.view zk path).change (held zk shared.registry path) := by
  rw [client]
  exact NodeView.change_with _ _

/-- Other clients change the store. -/
theorem view_change (attending : Attending observed.client) {store : Store}
    (taken : observed.step zk path (.client (.change store)) = some next) :
    next.view zk path = (observed.view zk path).change (zk.contents store path) := by
  obtain ⟨shared, moved, -, view⟩ := view_client attending taken
  cases moved
  exact view.trans (view_client_same rfl)

theorem view_deliver (attending : Attending observed.client)
    (taken : observed.step zk path .deliver = some next) :
    next.view zk path = observed.view zk path ∨
      (observed.view zk path).stage = none ∧
        next.view zk path = (observed.view zk path).deliver := by
  obtain ⟨client, moved, rfl⟩ := recorded_of_step taken
  cases WatchedClient.transition_of_step moved with
  | @deliver event other rest idle queued listening =>
    have unhandled : (observed.view zk path).stage = none := by
      simp [ObservedClient.view, idle]
    have node : (WatchedClient.goto { observed.client with queue := rest } other
        (.lookup event)).contents zk path = observed.client.contents zk path := rfl
    rw [record_of_held node]
    by_cases same : other = path
    · subst other
      have waiting : (observed.view zk path).waiting =
          event :: (rest.filter fun entry => entry.2 = path).map Prod.fst := by
        simp [ObservedClient.view, queued]
      refine .inr ⟨unhandled, ?_⟩
      rw [NodeView.deliver, waiting]
      refine NodeView.ext rfl rfl rfl ?_ rfl rfl rfl rfl
      simp [ObservedClient.view, WatchedClient.goto]
    · refine .inl (NodeView.ext rfl rfl ?_ ?_ rfl rfl rfl rfl)
      · simp [ObservedClient.view, WatchedClient.goto, queued, same]
      · rw [unhandled]
        simp [ObservedClient.view, WatchedClient.goto, same]
  | skip idle queued unheard =>
    -- the check at the top of `WatcherCallback` passes while the session is there
    obtain ⟨session, opened⟩ := exists_session attending.connected
    rw [WatchedClient.listening, opened, attending.running] at unheard
    cases unheard

theorem view_handled (lawful : zk.Lawful) (reliable : zk.Reliable) (watchable : Watchable zk path)
    (attending : Attending observed.client)
    (taken : observed.step zk path .handle = some next) :
    next.view zk path = observed.view zk path ∨
      ∃ stage, (observed.view zk path).stage = some stage ∧
        next.view zk path = (observed.view zk path).handle stage := by
  obtain ⟨client, moved, rfl⟩ := recorded_of_step taken
  cases WatchedClient.transition_of_step moved with
  | @handle other stage handling =>
    by_cases same : other = path
    · subst other
      refine .inr ⟨stage, ?_, view_handle lawful reliable watchable attending stage⟩
      simp [ObservedClient.view, handling]
    · exact .inl (view_handle_ne lawful attending same handling)

/-- What the delivery of an event of the node keeps, every delivery keeps. -/
theorem holds_delivered {P : NodeView → Prop} (attending : Attending observed.client)
    (taken : observed.step zk path .deliver = some next) (before : P (observed.view zk path))
    (delivers : (observed.view zk path).stage = none → P (observed.view zk path).deliver) :
    P (next.view zk path) := by
  rcases view_deliver attending taken with same | ⟨idle, delivered⟩
  · rw [same]
    exact before
  · rw [delivered]
    exact delivers idle

/-- What the handler of the node keeps, every step of the handler keeps. -/
theorem holds_handled {P : NodeView → Prop} (lawful : zk.Lawful) (reliable : zk.Reliable)
    (watchable : Watchable zk path) (attending : Attending observed.client)
    (taken : observed.step zk path .handle = some next) (before : P (observed.view zk path))
    (handles : ∀ stage, (observed.view zk path).stage = some stage →
      P ((observed.view zk path).handle stage)) : P (next.view zk path) := by
  rcases view_handled lawful reliable watchable attending taken with same | ⟨stage, handling, done⟩
  · rw [same]
    exact before
  · rw [done]
    exact handles stage handling

/-- `Watch` on another path. -/
theorem view_watch {other : Bytes} {callback : Nat} (different : other ≠ path)
    (taken : observed.step zk path (.watch other callback) = some next) :
    next.view zk path = observed.view zk path := by
  obtain ⟨client, moved, rfl⟩ := recorded_of_step taken
  cases WatchedClient.transition_of_step moved with
  | watch idle stored =>
    cases connected : observed.client.registry.client.connected with
    | true =>
      rw [run_beginWatch connected] at stored
      cases stored
      rw [record_of_held (by rfl)]
      exact NodeView.ext rfl rfl rfl rfl (Table.find?_insert_ne _ different.symm callback) rfl rfl rfl
    | false =>
      rw [refused_beginWatch connected] at stored
      cases stored
  | refuse idle thrown =>
    cases connected : observed.client.registry.client.connected with
    | true =>
      rw [run_beginWatch connected] at thrown
      cases thrown
    | false =>
      rw [refused_beginWatch connected] at thrown
      cases thrown
      rw [record_of_held (by rfl)]
      rfl

theorem view_arm (lawful : zk.Lawful) (taken : observed.step zk path .arm = some next) :
    next.view zk path = observed.view zk path ∨
      next.view zk path = { observed.view zk path with armed := true } := by
  obtain ⟨client, moved, rfl⟩ := recorded_of_step taken
  cases WatchedClient.transition_of_step moved with
  | @arm other watching =>
    obtain ⟨registry, sets, client, same, done⟩ := observed.client.finishWatch_eq lawful other
    have node : zk.contents registry.store path = observed.client.contents zk path :=
      congrFun same path
    have watcher := congrArg (·.watchers.find? path) client
    have cached := congrArg (·.serviceCache.dataOf path) client
    rw [done]
    cases sets with
    | false =>
      refine .inl ?_
      rw [record_of_held (by exact node)]
      exact NodeView.ext node rfl rfl rfl watcher rfl cached rfl
    | true =>
      rw [record_of_held (by exact node)]
      by_cases same : path = cString other
      · refine .inr (NodeView.ext node ?_ rfl rfl watcher rfl cached rfl)
        simp [ObservedClient.view, WatchedClient.arm, same]
      · refine .inl (NodeView.ext node ?_ rfl rfl watcher rfl cached rfl)
        simp [ObservedClient.view, WatchedClient.arm, same]

end Steps

end Xrpc
