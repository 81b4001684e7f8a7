import Xrpc.Registry.Watch

/-! What a client with watches has to do with one node, as a machine of its own. -/

namespace Xrpc

open Support ZookeeperClient

/-- The node, whether it is watched, its events that wait for the handler, what the
handler does with one of them, and the callback. `told` has what the callbacks were
called with, `cached` what `Discover` finds in the cache, and `changes` the node
after each change. -/
@[ext] structure NodeView where
  node : Option Znode
  armed : Bool
  waiting : List NodeEvent
  stage : Option HandlerStage
  watcher : Option Nat
  told : List (Nat × Bytes)
  cached : Option Bytes
  changes : List (Option Znode)

theorem NodeEvent.ofChange_eq_none_iff {before after : Option Znode} :
    NodeEvent.ofChange before after = none ↔ after = before := by
  cases before with
  | none =>
    cases after with
    | none => simp [NodeEvent.ofChange]
    | some new => simp [NodeEvent.ofChange]
  | some old =>
    cases after with
    | none => simp [NodeEvent.ofChange]
    | some new => simp [NodeEvent.ofChange, eq_comm]

namespace NodeView

/-- A watch goes off once. -/
def change (view : NodeView) (node : Option Znode) : NodeView :=
  match NodeEvent.ofChange view.node node with
  | none => view
  | some event => { view with
      node
      armed := false
      waiting := if view.armed then view.waiting ++ [event] else view.waiting
      changes := view.changes ++ [node] }

def deliver (view : NodeView) : NodeView :=
  match view.waiting with
  | [] => view
  | event :: rest => { view with waiting := rest, stage := some (.lookup event) }

def handle (view : NodeView) : HandlerStage → NodeView
  | .lookup event => { view with stage := view.watcher.map event.first }
  | .reading callback =>
    { view with stage := view.node.map fun node => .storing callback (node.data.take 512) }
  | .storing callback data =>
    { view with cached := some data, stage := some (.calling callback data true) }
  | .calling callback data guarded =>
    { view with told := view.told ++ [(callback, data)], stage := some (.arming guarded) }
  | .forgetting callback =>
    { view with cached := none, watcher := none, stage := some (.calling callback [] false) }
  | .arming _ => { view with armed := true, stage := none }
  | .clearing => { view with cached := none, stage := none }

theorem change_of_eq {view : NodeView} {node : Option Znode} (same : node = view.node) :
    view.change node = view := by
  rw [change, NodeEvent.ofChange_eq_none_iff.mpr same]

theorem change_of_event {view : NodeView} {node : Option Znode} {event : NodeEvent}
    (changed : NodeEvent.ofChange view.node node = some event) :
    view.change node = { view with
      node
      armed := false
      waiting := if view.armed then view.waiting ++ [event] else view.waiting
      changes := view.changes ++ [node] } := by
  rw [change, changed]

@[simp] theorem deliver_node (view : NodeView) : view.deliver.node = view.node := by
  rw [deliver]
  split
  · rfl
  · rfl

@[simp] theorem deliver_watcher (view : NodeView) : view.deliver.watcher = view.watcher := by
  rw [deliver]
  split
  · rfl
  · rfl

@[simp] theorem deliver_told (view : NodeView) : view.deliver.told = view.told := by
  rw [deliver]
  split
  · rfl
  · rfl

@[simp] theorem handle_node (view : NodeView) (stage : HandlerStage) :
    (view.handle stage).node = view.node := by
  cases stage with
  | _ => rfl

theorem change_with (view : NodeView) (node : Option Znode) :
    { view.change node with watcher := view.watcher, cached := view.cached } = view.change node := by
  rw [change]
  split
  · rfl
  · rfl

@[simp] theorem change_watcher (view : NodeView) (node : Option Znode) :
    (view.change node).watcher = view.watcher := by
  rw [← change_with]

/-- No event of the node waits or is handled. -/
def Calm (view : NodeView) : Prop := view.waiting = [] ∧ view.stage = none

end NodeView

/-- The data of the instance at `path`, where `Discover` looks for it. -/
def ServiceCache.dataOf (cache : ServiceCache) (path : Bytes) : Option Bytes :=
  (serviceSegment path).bind fun service =>
    (((cache.find? service).getD []).find? fun entry => entry.1 = path).map Prod.snd

theorem dataOf_setInstance {cache : ServiceCache} {path service : Bytes}
    (segment : serviceSegment path = some service) (data : Bytes) :
    (cache.setInstance service path data).dataOf path = some data := by
  have found : ∀ instances, (setInstance path data instances).find? (fun entry => entry.1 = path) =
      some (path, data) := by
    intro instances
    induction instances with
    | nil => simp [setInstance]
    | cons first rest ih =>
      rw [setInstance]
      split
      · simp
      next different => simpa [different] using ih
  simp [ServiceCache.dataOf, segment, ServiceCache.find?_setInstance, found]

theorem dataOf_setInstance_ne {cache : ServiceCache} {path other : Bytes} (different : path ≠ other)
    (service data : Bytes) : (cache.setInstance service other data).dataOf path = cache.dataOf path := by
  have found : ∀ instances, (setInstance other data instances).find? (fun entry => entry.1 = path) =
      instances.find? (fun entry => entry.1 = path) := by
    intro instances
    induction instances with
    | nil => simp [setInstance, different.symm]
    | cons first rest ih =>
      rw [setInstance]
      split
      next same => simp [same, different.symm]
      · by_cases here : first.1 = path
        · simp [here]
        · simpa [here] using ih
  cases segment : serviceSegment path with
  | none => simp [ServiceCache.dataOf, segment]
  | some own =>
    by_cases same : own = service
    · subst own
      simp [ServiceCache.dataOf, segment, ServiceCache.find?_setInstance, found]
    · simp [ServiceCache.dataOf, segment, ServiceCache.find?_setInstance_ne same]

theorem getD_retain (cache : ServiceCache) (service : Bytes) (keep : Bytes → Bool) :
    ((cache.retain service keep).find? service).getD [] =
      ((cache.find? service).getD []).filter fun entry => keep entry.1 := by
  rw [ServiceCache.find?_retain]
  cases cache.find? service with
  | none => rfl
  | some instances =>
    rw [Option.bind_some]
    dsimp only
    split
    next emptied => exact emptied.symm
    · rfl

theorem find?_filter_path (instances : List (Bytes × Bytes)) (path : Bytes) (keep : Bytes → Bool) :
    (instances.filter fun entry => keep entry.1).find? (fun entry => entry.1 = path) =
      if keep path then instances.find? (fun entry => entry.1 = path) else none := by
  induction instances with
  | nil => simp
  | cons first rest ih =>
    by_cases here : first.1 = path
    · cases kept : keep path with
      | true => simp [here, kept]
      | false => simpa [List.filter_cons, here, kept] using ih
    · cases kept : keep first.1 with
      | true => simpa [List.filter_cons, here, kept] using ih
      | false => simpa [List.filter_cons, here, kept] using ih

theorem dataOf_retain (cache : ServiceCache) (path service : Bytes) (keep : Bytes → Bool) :
    (cache.retain service keep).dataOf path =
      if serviceSegment path = some service ∧ keep path = false then none else cache.dataOf path := by
  cases segment : serviceSegment path with
  | none => simp [ServiceCache.dataOf, segment]
  | some own =>
    by_cases same : own = service
    · subst own
      rw [ServiceCache.dataOf, segment, Option.bind_some, getD_retain, find?_filter_path]
      cases keep path with
      | true => simp [ServiceCache.dataOf, segment]
      | false => simp
    · have other : ¬ some own = some service := by simpa using same
      rw [if_neg fun both => other both.1]
      simp [ServiceCache.dataOf, segment, ServiceCache.find?_retain_ne same]

theorem dataOf_erase {cache : ServiceCache} {path service : Bytes}
    (segment : serviceSegment path = some service) :
    ServiceCache.dataOf (cache.erase service) path = none := by
  simp [ServiceCache.dataOf, segment]

/-- What `Discover` returns from the cache. -/
theorem discover_dataOf {Store : Type} {zk : ZooKeeper Store} {state : Registry Store}
    {path data : Bytes} (cached : state.client.serviceCache.dataOf path = some data) :
    (discover zk path).run state = .ok data state := by
  obtain ⟨service, segment, found⟩ := Option.bind_eq_some_iff.mp cached
  obtain ⟨entry, listed, rfl⟩ := Option.map_eq_some_iff.mp found
  rw [discover, EStateM.run_bind, serviceOf, segment]
  simp [listed]

end Xrpc
