import Xrpc.Registry.Observation
import Xrpc.Registry.Reconciliation

/-! What a watch tells of a node that other clients create and overwrite. -/

namespace Xrpc

open Support ZookeeperClient

/-- A client that has called `Watch(path, callback)` and been told nothing yet. -/
structure Watching {Store : Type} (zk : ZooKeeper Store) (path : Bytes) (callback : Nat)
    (start : WatchedClient Store) : Prop where
  attending : Attending start
  calm : (ObservedClient.view zk path { client := start }).Calm
  watcher : start.registry.client.watchers.find? path = some callback
  armed : path ∈ start.armed
  untold : ∀ notice ∈ start.told, notice.path ≠ path

/-- The handler has not yet asked for the data of the node. -/
def HandlerStage.unread : HandlerStage → Bool
  | .lookup _ | .reading _ => true
  | _ => false

/-- An event after which the handler reads the node. -/
def NodeEvent.reads : NodeEvent → Bool
  | .created | .changed => true
  | .deleted | .child => false

theorem NodeEvent.first_of_reads {event : NodeEvent} (reads : event.reads = true) (callback : Nat) :
    event.first callback = .reading callback := by
  cases event with
  | created => rfl
  | changed => rfl
  | deleted => cases reads
  | child => cases reads

theorem NodeEvent.reads_of_some {before : Option Znode} {node : Znode} {event : NodeEvent}
    (changed : NodeEvent.ofChange before (some node) = some event) : event.reads = true := by
  cases before with
  | none =>
    cases changed
    rfl
  | some old =>
    rw [NodeEvent.ofChange] at changed
    split at changed
    · cases changed
    · cases changed
      rfl

namespace NodeView

/-- The node is there, and a reader gets its data whole. -/
def Holds (view : NodeView) (node : Znode) : Prop :=
  view.node = some node ∧ node.data.length ≤ 512

def Informed (callback : Nat) (view : NodeView) : Prop :=
  ∃ node, view.Holds node ∧ view.told.getLast? = some (callback, node.data) ∧
    view.cached = some node.data

/-- The node has changed, and the handler is yet to read it. -/
structure Unread (view : NodeView) : Prop where
  unarmed : view.armed = false
  present : ∃ node, view.Holds node

/-- The callback has been called with the present data, or is going to be. -/
def Current (callback : Nat) (view : NodeView) : Prop :=
  view.watcher = some callback ∧
  match view.stage with
  | none =>
    (view.waiting = [] ∧ view.armed = true ∧ (view.changes ≠ [] → view.Informed callback)) ∨
      ∃ event, view.waiting = [event] ∧ event.reads ∧ view.Unread
  | some (.lookup event) => view.waiting = [] ∧ event.reads ∧ view.Unread
  | some (.reading found) => view.waiting = [] ∧ found = callback ∧ view.Unread
  | some (.storing found data) =>
    view.waiting = [] ∧ found = callback ∧ ∃ node, view.Holds node ∧ data = node.data
  | some (.calling found data _) =>
    view.waiting = [] ∧ found = callback ∧ view.cached = some data ∧
      ∃ node, view.Holds node ∧ data = node.data
  | some (.arming _) => view.waiting = [] ∧ view.Informed callback
  | some (.forgetting _) | some .clearing => False

variable {callback : Nat} {view : NodeView}

theorem Current.change (current : view.Current callback) {node : Znode} (small : node.data.length ≤ 512)
    (prompt : ∀ stage ∈ view.stage, stage.unread) : (view.change (some node)).Current callback := by
  cases changed : NodeEvent.ofChange view.node (some node) with
  | none =>
    rw [NodeView.change, changed]
    exact current
  | some event =>
    have reads := NodeEvent.reads_of_some changed
    rw [change_of_event changed]
    obtain ⟨watcher, current⟩ := current
    refine ⟨watcher, ?_⟩
    cases handling : view.stage with
    | none =>
      rw [handling] at current
      refine .inr ?_
      rcases current with ⟨waiting, armed, -⟩ | ⟨event, waiting, reads, unread⟩
      · refine ⟨event, ?_, reads, rfl, node, rfl, small⟩
        simp [waiting, armed]
      · refine ⟨event, ?_, reads, rfl, node, rfl, small⟩
        simp [waiting, unread.unarmed]
    | some stage =>
      rw [handling] at current prompt
      have before := prompt stage rfl
      cases stage with
      | lookup event =>
        obtain ⟨waiting, reads, unread⟩ := current
        refine ⟨?_, reads, rfl, node, rfl, small⟩
        simp [waiting, unread.unarmed]
      | reading found =>
        obtain ⟨waiting, same, unread⟩ := current
        refine ⟨?_, same, rfl, node, rfl, small⟩
        simp [waiting, unread.unarmed]
      | _ => cases before

theorem Current.deliver (current : view.Current callback) (idle : view.stage = none) :
    view.deliver.Current callback := by
  have before := current
  obtain ⟨watcher, current⟩ := current
  rw [idle] at current
  rcases current with ⟨waiting, -, -⟩ | ⟨event, waiting, reads, unread⟩
  · rw [NodeView.deliver, waiting]
    exact before
  · rw [NodeView.deliver, waiting]
    exact ⟨watcher, rfl, reads, unread.unarmed, unread.present⟩

theorem Current.handle (current : view.Current callback) {stage : HandlerStage}
    (handling : view.stage = some stage) : (view.handle stage).Current callback := by
  obtain ⟨watcher, current⟩ := current
  rw [handling] at current
  cases stage with
  | lookup event =>
    obtain ⟨waiting, reads, unread⟩ := current
    rw [NodeView.handle, watcher, Option.map_some, NodeEvent.first_of_reads reads]
    exact ⟨rfl, waiting, rfl, unread.unarmed, unread.present⟩
  | reading found =>
    obtain ⟨waiting, same, unread⟩ := current
    obtain ⟨node, here, small⟩ := unread.present
    rw [NodeView.handle, here, Option.map_some, List.take_of_length_le small]
    exact ⟨watcher, waiting, same, node, ⟨rfl, small⟩, rfl⟩
  | storing found data =>
    obtain ⟨waiting, same, held⟩ := current
    exact ⟨watcher, waiting, same, rfl, held⟩
  | calling found data guarded =>
    obtain ⟨waiting, rfl, cached, node, held, rfl⟩ := current
    exact ⟨watcher, waiting, node, held, List.getLast?_concat, cached⟩
  | arming guarded =>
    obtain ⟨waiting, informed⟩ := current
    exact ⟨watcher, .inl ⟨waiting, rfl, fun _ => informed⟩⟩
  | forgetting found => exact current.elim
  | clearing => exact current.elim

end NodeView

section Runs
variable {Store : Type} {zk : ZooKeeper Store} {path : Bytes} {callback : Nat}

/-- Other clients create and overwrite the node, beside the steps of `WatcherCallback`. -/
def Overwrites (zk : ZooKeeper Store) (path : Bytes) (observed : ObservedClient Store) :
    WatchEvent Store → Prop
  | .client (.change store) => zk.contents store path = observed.client.contents zk path ∨
      ∃ node ∈ zk.contents store path, node.data.length ≤ 512
  | .deliver | .handle => True
  | _ => False

/-- The node does not change from the time the handler has read it until the watch
is set again. -/
def Prompt (zk : ZooKeeper Store) (path : Bytes) (observed : ObservedClient Store) :
    WatchEvent Store → Prop
  | .client (.change store) => zk.contents store path = observed.client.contents zk path ∨
      ∀ stage ∈ (observed.view zk path).stage, stage.unread
  | _ => True

theorem ordinary_of_overwrites {observed : ObservedClient Store} {event : WatchEvent Store}
    (overwrites : Overwrites zk path observed event) : Ordinary event := by
  cases event with
  | fire event path => exact overwrites.elim
  | session state => exact overwrites.elim
  | _ => exact trivial

theorem current_step (lawful : zk.Lawful) (reliable : zk.Reliable) (watchable : Watchable zk path)
    {observed next : ObservedClient Store} {event : WatchEvent Store}
    (attending : Attending observed.client) (current : (observed.view zk path).Current callback)
    (overwrites : Overwrites zk path observed event) (prompt : Prompt zk path observed event)
    (taken : observed.step zk path event = some next) :
    Attending next.client ∧ (next.view zk path).Current callback := by
  refine ⟨attending_of_step lawful attending (ordinary_of_overwrites overwrites) taken, ?_⟩
  cases event with
  | client event =>
    cases event with
    | change store =>
      rw [view_change attending taken]
      have unmoved : zk.contents store path = observed.client.contents zk path →
          ((observed.view zk path).change (zk.contents store path)).Current callback := by
        intro same
        rw [NodeView.change_of_eq same]
        exact current
      rcases overwrites with same | ⟨node, here, small⟩
      · exact unmoved same
      · rcases prompt with same | unread
        · exact unmoved same
        · rw [here]
          exact current.change small unread
    | _ => exact overwrites.elim
  | deliver => exact holds_delivered attending taken current current.deliver
  | handle =>
    refine holds_handled lawful reliable watchable attending taken current ?_
    intro stage handling
    exact current.handle handling
  | _ => exact overwrites.elim

/-- If no change falls between a read of the handler and the setting of the watch,
the callback knows the last of the changes when nothing is left to handle. -/
theorem last_update_told (lawful : zk.Lawful) (reliable : zk.Reliable)
    (watchable : Watchable zk path) {start : WatchedClient Store} {final : ObservedClient Store}
    {events : List (WatchEvent Store)} (watching : Watching zk path callback start)
    (overwrites : Along (ObservedClient.step zk path) (Overwrites zk path) { client := start } events)
    (prompt : Along (ObservedClient.step zk path) (Prompt zk path) { client := start } events)
    (reached : run (ObservedClient.step zk path) { client := start } events = some final)
    (calm : (final.view zk path).Calm) (changed : final.changes ≠ []) :
    ∃ node, final.client.contents zk path = some node ∧
      (final.view zk path).told.getLast? = some (callback, node.data) ∧
      final.client.registry.client.serviceCache.dataOf path = some node.data := by
  have initial : Attending start ∧
      (ObservedClient.view zk path { client := start }).Current callback := by
    refine ⟨watching.attending, watching.watcher, ?_⟩
    rw [watching.calm.2]
    exact .inl ⟨watching.calm.1, decide_eq_true watching.armed, fun changed => absurd rfl changed⟩
  have kept : ∀ before event after, Attending before.client ∧
      (ObservedClient.view zk path before).Current callback →
      Overwrites zk path before event ∧ Prompt zk path before event →
      before.step zk path event = some after →
      Attending after.client ∧ (ObservedClient.view zk path after).Current callback := by
    intro before event after ⟨attending, current⟩ ⟨overwrites, prompt⟩ taken
    exact current_step lawful reliable watchable attending current overwrites prompt taken
  obtain ⟨-, -, current⟩ := run_preserves kept initial (overwrites.and prompt) reached
  rw [calm.2] at current
  rcases current with ⟨-, -, informed⟩ | ⟨event, waiting, -, -⟩
  · obtain ⟨node, ⟨here, -⟩, told, cached⟩ := informed changed
    exact ⟨node, here, told, cached⟩
  · rw [calm.1] at waiting
    cases waiting

theorem view_untold {start : WatchedClient Store} (watching : Watching zk path callback start) :
    (ObservedClient.view zk path { client := start }).told = [] := by
  have none : (start.told.filter fun notice => notice.path = path) = [] := by
    rw [List.filter_eq_nil_iff]
    intro notice member
    simpa using watching.untold notice member
  simp [ObservedClient.view, none]

/-- `Watch` that nothing interrupts leaves such a client. -/
theorem watching_of_watch (lawful : zk.Lawful) (watchable : Watchable zk path)
    {client : WatchedClient Store} (attending : Attending client)
    (calm : (ObservedClient.view zk path { client }).Calm)
    (untold : ∀ notice ∈ client.told, notice.path ≠ path) (alive : client.terminated = false)
    (idle : client.shared.call = none) (unwatching : client.watching = none) (callback : Nat) :
    ∃ start, run (WatchedClient.step zk) client [.watch path callback, .arm] = some start ∧
      Watching zk path callback start := by
  let between : WatchedClient Store := { client with
    shared.registry.client.watchers := client.registry.client.watchers.insert path callback
    watching := some path }
  have begun : client.step zk (.watch path callback) = some between := by
    rw [WatchedClient.step.eq_def, if_neg (by simp [alive])]
    dsimp only
    rw [if_neg (by simp [idle, unwatching]), run_beginWatch attending.connected]
    rfl
  have beside : Attending between := attending.step lawful (by exact trivial) begun
  obtain ⟨store, same, ran⟩ := run_registerWatcher lawful watchable beside.connected
  have finished : between.step zk .arm = some (between.finishWatch zk path) := by
    rw [WatchedClient.step.eq_def, if_neg (by simp [between, alive])]
    rfl
  have done : between.finishWatch zk path = { between with
      shared.registry.store := store
      armed := between.armed.insert path
      watching := none } := by
    have unchanged : held zk { between.registry with store } = between.contents zk := same
    rw [WatchedClient.finishWatch, ran]
    dsimp only
    rw [WatchedClient.update_of_held unchanged, WatchedClient.arm, if_pos rfl,
      cString_of_terminated watchable.terminated]
    rfl
  have after := beside.step lawful (by exact trivial) finished
  refine ⟨_, by rw [run, begun, Option.bind_some, run, finished, Option.bind_some, run], ?_⟩
  rw [done] at after ⊢
  exact {
    attending := after
    calm := calm
    watcher := Table.find?_insert _ path callback
    armed := List.mem_insert_self
    untold := untold }

end Runs

section UserService
variable {Store : Type}

instance (view : NodeView) : Decidable view.Calm := inferInstanceAs (Decidable (_ ∧ _))

instance (zk : ZooKeeper Store) (path : Bytes) (observed : ObservedClient Store)
    (event : WatchEvent Store) : Decidable (Overwrites zk path observed event) :=
  match event with
  | .client (.change store) =>
    inferInstanceAs (Decidable (zk.contents store path = observed.client.contents zk path ∨
      ∃ node ∈ zk.contents store path, node.data.length ≤ 512))
  | .deliver | .handle => inferInstanceAs (Decidable True)
  | .client (.begin _) | .client .advance | .client .snapshot | .client .listChildren
  | .client .reconcile | .watch _ _ | .arm | .fire _ _ | .session _ =>
    inferInstanceAs (Decidable False)

instance (zk : ZooKeeper Store) (path : Bytes) (observed : ObservedClient Store)
    (event : WatchEvent Store) : Decidable (Prompt zk path observed event) :=
  match event with
  | .client (.change store) =>
    inferInstanceAs (Decidable (zk.contents store path = observed.client.contents zk path ∨
      ∀ stage ∈ (observed.view zk path).stage, stage.unread))
  | .client (.begin _) | .client .advance | .client .snapshot | .client .listChildren
  | .client .reconcile | .watch _ _ | .arm | .fire _ _ | .deliver | .handle | .session _ =>
    inferInstanceAs (Decidable True)

def watchedPath : Bytes := userServicePath "10.0.0.1:80"

/-- The client of `sharedClient`, which watches the instance of the other server. -/
def watchingClient : WatchedClient ZooTree where
  shared := { sharedClient with
    registry.client.watchers := (∅ : Table Bytes Nat).insert watchedPath 4 }
  armed := [watchedPath]

theorem watchable_watchedPath : Watchable zooTree watchedPath where
  nonempty := by decide +kernel
  terminated := by decide +kernel
  answered session store := by
    have valid : validPath watchedPath = true := by decide +kernel
    change (∃ version, (store.lookup watchedPath).map (·.version) = .ok version) ∨
      (store.lookup watchedPath).map (·.version) = .error .noNode
    cases found : store.nodes.find? watchedPath with
    | some node =>
      rw [ZooTree.lookup_ok.mpr found]
      exact .inl ⟨node.version, rfl⟩
    | none => exact .inr (by simp [ZooTree.lookup, found, valid, Except.map])

theorem watching_watchingClient : Watching zooTree watchedPath 4 watchingClient where
  attending := {
    connected := rfl
    running := rfl
    distinct := List.nodup_singleton _
    armed := List.forall_mem_singleton.mpr watchable_watchedPath.terminated
    queue := nofun
    handler := nofun }
  calm := ⟨rfl, rfl⟩
  watcher := Table.find?_insert _ _ _
  armed := List.mem_singleton_self _
  untold := nofun

/-- The other server sets its data for the first, and for the second time. -/
def firstUpdate : ZooTree := (otherServer.zooSet watchedPath (text "methods=Logout") 0).2

def secondUpdate : ZooTree := (firstUpdate.zooSet watchedPath (text "methods=Ping") 1).2

/-- The second change comes before the handler of the first reads the node. -/
def updatesInTime : List (WatchEvent ZooTree) :=
  [.client (.change firstUpdate), .deliver, .handle, .client (.change secondUpdate), .handle,
    .handle, .handle, .handle]

/-- The second change comes after the handler of the first has read the node. -/
def updateTooLate : List (WatchEvent ZooTree) :=
  [.client (.change firstUpdate), .deliver, .handle, .handle, .client (.change secondUpdate),
    .handle, .handle, .handle]

theorem updates_in_time_told : ∃ final,
    run (ObservedClient.step zooTree watchedPath) { client := watchingClient } updatesInTime =
      some final ∧
    ∃ node, final.client.contents zooTree watchedPath = some node ∧
      (final.view zooTree watchedPath).told.getLast? = some (4, node.data) ∧
      final.client.registry.client.serviceCache.dataOf watchedPath = some node.data := by
  have ran : (run (ObservedClient.step zooTree watchedPath) { client := watchingClient }
      updatesInTime).any fun final =>
        (final.view zooTree watchedPath).Calm ∧ final.changes ≠ [] := by decide +kernel
  obtain ⟨final, reached, quiet⟩ := (Option.any_eq_true _ _).mp ran
  obtain ⟨calm, changed⟩ := of_decide_eq_true quiet
  exact ⟨final, reached, last_update_told ZooTree.lawful ZooTree.reliable watchable_watchedPath
    watching_watchingClient (by decide +kernel) (by decide +kernel) reached calm changed⟩

/-- The callback and the cache are left with the first data. -/
theorem late_update_missed : ∃ final,
    run (ObservedClient.step zooTree watchedPath) { client := watchingClient } updateTooLate =
      some final ∧
    Along (ObservedClient.step zooTree watchedPath) (Overwrites zooTree watchedPath)
      { client := watchingClient } updateTooLate ∧
    final.client.queue = [] ∧ final.client.handler = none ∧ final.changes ≠ [] ∧
    (final.client.contents zooTree watchedPath).map (·.data) = some (text "methods=Ping") ∧
    (final.view zooTree watchedPath).told = [(4, text "methods=Logout")] ∧
    final.client.registry.client.serviceCache.dataOf watchedPath = some (text "methods=Logout") := by
  have ran : (run (ObservedClient.step zooTree watchedPath) { client := watchingClient }
      updateTooLate).any fun final =>
        final.client.queue = [] ∧ final.client.handler = none ∧ final.changes ≠ [] ∧
        (final.client.contents zooTree watchedPath).map (·.data) = some (text "methods=Ping") ∧
        (final.view zooTree watchedPath).told = [(4, text "methods=Logout")] ∧
        final.client.registry.client.serviceCache.dataOf watchedPath =
          some (text "methods=Logout") := by decide +kernel
  obtain ⟨final, reached, missed⟩ := (Option.any_eq_true _ _).mp ran
  exact ⟨final, reached, by decide +kernel, of_decide_eq_true missed⟩

end UserService

end Xrpc
