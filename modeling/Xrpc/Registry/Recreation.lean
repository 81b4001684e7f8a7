import Xrpc.Registry.Updates

/-! What a watch tells of a node that is created, set and deleted, one change at a
time. -/

namespace Xrpc

open Support ZookeeperClient

/-- The path that a call is about to delete or to forget. -/
def OwnCall.deletes : OwnCall → Option Bytes
  | .deleting path | .forgetting path => some path
  | _ => none

section Deletes
variable {Store : Type} {zk : ZooKeeper Store}

theorem deletes_begun {call : DiscoveryCall} {path : Bytes}
    (deletes : (begun call).deletes = some path) : call = .delete path := by
  cases call with
  | delete other =>
    cases deletes
    rfl
  | _ => cases deletes

theorem deletes_advance (call : OwnCall) :
    Yields (fun next => ∀ later ∈ next, later.deletes = call.deletes) (advance zk call) := by
  cases call with
  | reading service unread found =>
    cases unread with
    | nil => exact .bind fun _ => .pure (by simp)
    | cons path rest => exact .bind fun _ => .pure (by simp [OwnCall.deletes])
  | finding path data ephemeral => exact .bind fun _ => .pure (by simp [OwnCall.deletes])
  | writing path data ephemeral stat => exact .bind fun _ => .pure (by simp [OwnCall.deletes])
  | caching path data => exact .bind fun _ => .pure (by simp)
  | fetching path => exact .bind fun _ => .pure (by simp [OwnCall.deletes])
  | listing service => exact .bind fun _ => .pure (by simp [OwnCall.deletes])
  | deleting path => exact .bind fun _ => .pure (by simp [OwnCall.deletes])
  | forgetting path => exact .bind fun _ => .pure (by simp)

/-- A call deletes what it was begun to delete. -/
theorem deletes_interleave {machine next : SharedClient Store} {event : SharedEvent Store}
    (taken : interleave zk machine event = some next) {path : Bytes}
    (other : event ≠ .begin (.delete path))
    (spared : ∀ call ∈ machine.call, call.deletes ≠ some path) :
    ∀ call ∈ next.call, call.deletes ≠ some path := by
  refine call_interleave taken ?_ ?_ spared
  · intro call same state value after returned later member deletes
    rw [beginCall_begun call _ _ _ returned later member] at deletes
    exact other (same.trans (congrArg _ (deletes_begun deletes)))
  · intro call waiting unmarked state value after returned later member deletes
    rw [deletes_advance call _ _ _ returned later member] at deletes
    exact unmarked deletes

end Deletes

/-- What the callback is to be told of a change. -/
def notice (callback : Nat) (node : Option Znode) : Nat × Bytes :=
  (callback, (node.map (·.data)).getD [])

/-- The event that a change to `node` causes. -/
def NodeEvent.Tells (node : Option Znode) (event : NodeEvent) : Prop :=
  match node with
  | some _ => event.reads
  | none => event = .deleted

theorem NodeEvent.tells_of_change {before after : Option Znode} {event : NodeEvent}
    (changed : NodeEvent.ofChange before after = some event) : event.Tells after := by
  cases after with
  | some node => exact NodeEvent.reads_of_some changed
  | none =>
    cases before with
    | none => cases changed
    | some old =>
      cases changed
      rfl

namespace NodeView

/-- The last change is still to be told. -/
structure Owes (callback : Nat) (node : Option Znode) (view : NodeView) : Prop where
  holds : view.node = node
  small : ∀ found ∈ node, found.data.length ≤ 512
  earlier : ∃ changes, view.changes = changes ++ [node] ∧ none ∉ changes ∧
    view.told = changes.map (notice callback)

/-- All changes have been told, and a deletion only as the last of them. -/
structure Told (callback : Nat) (view : NodeView) : Prop where
  told : view.told = view.changes.map (notice callback)
  earlier : none ∉ view.changes.dropLast
  watcher : view.watcher = if none ∈ view.changes then none else some callback

def Served (callback : Nat) (view : NodeView) : Prop :=
  match view.stage with
  | none =>
    (view.waiting = [] ∧ view.Told callback ∧ (none ∉ view.changes → view.armed = true)) ∨
      ∃ event node, view.waiting = [event] ∧ event.Tells node ∧ view.watcher = some callback ∧
        view.Owes callback node
  | some (.lookup event) =>
    view.waiting = [] ∧ view.watcher = some callback ∧
      ∃ node, event.Tells node ∧ view.Owes callback node
  | some (.reading found) =>
    view.waiting = [] ∧ view.watcher = some callback ∧ found = callback ∧
      ∃ node, view.Owes callback (some node)
  | some (.storing found data) =>
    view.waiting = [] ∧ view.watcher = some callback ∧ found = callback ∧
      ∃ node : Znode, data = node.data ∧ view.Owes callback (some node)
  | some (.forgetting found) =>
    view.waiting = [] ∧ found = callback ∧ view.Owes callback none
  | some (.calling found data _) =>
    view.waiting = [] ∧ ∃ node, (found, data) = notice callback node ∧
      view.watcher = (if node = none then none else some callback) ∧ view.Owes callback node
  | some (.arming _) => view.waiting = [] ∧ view.Told callback
  | some .clearing => False

/-- The callback is gone, and a change after the deletion has not been told. -/
structure Lost (view : NodeView) : Prop where
  watcher : view.watcher = none
  deleted : none ∈ view.changes.dropLast
  untold : view.told.length < view.changes.length
  stage : ∀ stage ∈ view.stage, ∃ event, stage = .lookup event

variable {callback : Nat} {view : NodeView}

theorem Lost.change (lost : view.Lost) (node : Option Znode) : (view.change node).Lost := by
  rw [NodeView.change]
  split
  · exact lost
  · refine ⟨lost.watcher, ?_, ?_, lost.stage⟩
    · rw [List.dropLast_concat]
      exact List.dropLast_subset _ lost.deleted
    · have shorter := lost.untold
      simp only [List.length_append, List.length_singleton]
      omega

theorem Lost.deliver (lost : view.Lost) : view.deliver.Lost := by
  rw [NodeView.deliver]
  split
  · exact lost
  next event rest _ =>
    refine ⟨lost.watcher, lost.deleted, lost.untold, ?_⟩
    rintro _ ⟨rfl⟩
    exact ⟨event, rfl⟩

theorem Lost.handle (lost : view.Lost) {stage : HandlerStage} (handling : view.stage = some stage) :
    (view.handle stage).Lost := by
  obtain ⟨event, rfl⟩ := lost.stage stage handling
  rw [NodeView.handle, lost.watcher]
  refine ⟨rfl, lost.deleted, lost.untold, ?_⟩
  rintro other ⟨⟩

/-- A change of the node, all changes before having been told. -/
theorem Served.change (served : view.Served callback) (calm : view.Calm) {node : Option Znode}
    (small : ∀ found ∈ node, found.data.length ≤ 512) :
    (view.change node).Served callback ∨ (view.change node).Lost := by
  cases changed : NodeEvent.ofChange view.node node with
  | none =>
    rw [NodeView.change, changed]
    exact .inl served
  | some event =>
    rw [change_of_event changed]
    rw [Served, calm.2] at served
    rcases served with ⟨waiting, told, armed⟩ | ⟨event, _, waiting, -⟩
    · by_cases deleted : none ∈ view.changes
      · refine .inr ⟨?_, ?_, ?_, ?_⟩
        · rw [told.watcher, if_pos deleted]
        · rw [List.dropLast_concat]
          exact deleted
        · simp [told.told]
        · rw [calm.2]
          rintro stage ⟨⟩
      · refine .inl ?_
        rw [Served, calm.2]
        refine .inr ⟨event, node, ?_, NodeEvent.tells_of_change changed, ?_, ?_⟩
        · simp [waiting, armed deleted]
        · rw [told.watcher, if_neg deleted]
        · exact ⟨rfl, small, view.changes, rfl, deleted, told.told⟩
    · rw [calm.1] at waiting
      cases waiting

theorem Served.deliver (served : view.Served callback) (idle : view.stage = none) :
    view.deliver.Served callback := by
  have before := served
  rw [Served, idle] at served
  rcases served with ⟨waiting, -⟩ | ⟨event, node, waiting, tells, watcher, owes⟩
  · rw [NodeView.deliver, waiting]
    exact before
  · rw [NodeView.deliver, waiting]
    exact ⟨rfl, watcher, node, tells, owes.holds, owes.small, owes.earlier⟩

/-- The callback has been called. -/
theorem Owes.told {node : Option Znode} (owes : view.Owes callback node)
    (watcher : view.watcher = if node = none then none else some callback) {stage : Option HandlerStage} :
    ({ view with told := view.told ++ [notice callback node], stage } : NodeView).Told callback := by
  obtain ⟨changes, all, earlier, told⟩ := owes.earlier
  have last : none ∈ view.changes ↔ node = none := by
    rw [all, List.mem_append, List.mem_singleton]
    constructor
    · intro member
      exact member.elim (absurd · earlier) Eq.symm
    · intro none
      exact .inr none.symm
  refine ⟨?_, ?_, ?_⟩
  · change view.told ++ [notice callback node] = view.changes.map (notice callback)
    simp [all, told]
  · change none ∉ view.changes.dropLast
    rw [all, List.dropLast_concat]
    exact earlier
  · simp only [last]
    exact watcher

theorem Served.handle (served : view.Served callback) {stage : HandlerStage}
    (handling : view.stage = some stage) : (view.handle stage).Served callback := by
  rw [Served, handling] at served
  cases stage with
  | lookup event =>
    obtain ⟨waiting, watcher, node, tells, owes⟩ := served
    rw [NodeView.handle, watcher, Option.map_some]
    cases node with
    | some node =>
      rw [NodeEvent.first_of_reads tells]
      exact ⟨waiting, rfl, rfl, node, owes.holds, owes.small, owes.earlier⟩
    | none =>
      cases tells
      exact ⟨waiting, rfl, owes.holds, owes.small, owes.earlier⟩
  | reading found =>
    obtain ⟨waiting, watcher, same, node, owes⟩ := served
    rw [NodeView.handle, owes.holds, Option.map_some, List.take_of_length_le (owes.small node rfl)]
    exact ⟨waiting, watcher, same, node, rfl, rfl, owes.small, owes.earlier⟩
  | storing found data =>
    obtain ⟨waiting, watcher, rfl, node, rfl, owes⟩ := served
    exact ⟨waiting, some node, rfl, watcher, owes.holds, owes.small, owes.earlier⟩
  | forgetting found =>
    obtain ⟨waiting, rfl, owes⟩ := served
    exact ⟨waiting, none, rfl, rfl, owes.holds, owes.small, owes.earlier⟩
  | calling found data guarded =>
    obtain ⟨waiting, node, same, watcher, owes⟩ := served
    rw [NodeView.handle, same]
    exact ⟨waiting, owes.told watcher⟩
  | arming guarded =>
    obtain ⟨waiting, told⟩ := served
    exact .inl ⟨waiting, ⟨told.told, told.earlier, told.watcher⟩, fun _ => rfl⟩
  | clearing => exact served.elim

/-- What is cached does not matter, nor does a watch set once more. -/
theorem Served.congr (served : view.Served callback) {armed : Bool}
    (keeps : view.armed = true → armed = true) (cached : Option Bytes) :
    ({ view with armed, cached } : NodeView).Served callback := by
  have owed : ∀ {node : Option Znode}, view.Owes callback node →
      ({ view with armed, cached } : NodeView).Owes callback node :=
    fun owes => ⟨owes.holds, owes.small, owes.earlier⟩
  have told : view.Told callback → ({ view with armed, cached } : NodeView).Told callback :=
    fun told => ⟨told.told, told.earlier, told.watcher⟩
  rw [Served] at served ⊢
  dsimp only at served ⊢
  split at served
  · rcases served with ⟨waiting, done, still⟩ | ⟨event, node, waiting, tells, watcher, owes⟩
    · exact .inl ⟨waiting, told done, fun here => keeps (still here)⟩
    · exact .inr ⟨event, node, waiting, tells, watcher, owed owes⟩
  · obtain ⟨waiting, watcher, node, tells, owes⟩ := served
    exact ⟨waiting, watcher, node, tells, owed owes⟩
  · obtain ⟨waiting, watcher, same, node, owes⟩ := served
    exact ⟨waiting, watcher, same, node, owed owes⟩
  · obtain ⟨waiting, watcher, same, node, data, owes⟩ := served
    exact ⟨waiting, watcher, same, node, data, owed owes⟩
  · obtain ⟨waiting, same, owes⟩ := served
    exact ⟨waiting, same, owed owes⟩
  · obtain ⟨waiting, node, same, watcher, owes⟩ := served
    exact ⟨waiting, node, same, watcher, owed owes⟩
  · obtain ⟨waiting, done⟩ := served
    exact ⟨waiting, told done⟩
  · exact served

theorem Lost.congr (lost : view.Lost) (armed : Bool) (cached : Option Bytes) :
    ({ view with armed, cached } : NodeView).Lost :=
  ⟨lost.watcher, lost.deleted, lost.untold, lost.stage⟩

end NodeView

section Runs
variable {Store : Type} {zk : ZooKeeper Store} {path : Bytes} {callback : Nat}

/-- This client neither deletes the node nor watches it anew, and stays connected. -/
def LeavesAlone (path : Bytes) : WatchEvent Store → Prop
  | .client (.begin (.delete other)) | .watch other _ => other ≠ path
  | .fire _ _ | .session _ => False
  | _ => True

/-- The node changes only when the changes before have been handled. -/
def Spaced (zk : ZooKeeper Store) (path : Bytes) (observed : ObservedClient Store)
    (event : WatchEvent Store) : Prop :=
  ∀ next ∈ observed.step zk path event,
    next.client.contents zk path = observed.client.contents zk path ∨
      (observed.view zk path).Calm ∧
        ∀ node ∈ next.client.contents zk path, node.data.length ≤ 512

structure Serving (zk : ZooKeeper Store) (path : Bytes) (callback : Nat)
    (observed : ObservedClient Store) : Prop where
  attending : Attending observed.client
  spared : ∀ call ∈ observed.client.shared.call, call.deletes ≠ some path
  served : (observed.view zk path).Served callback ∨ (observed.view zk path).Lost

theorem spared_step {observed next : ObservedClient Store} {event : WatchEvent Store}
    (spared : ∀ call ∈ observed.client.shared.call, call.deletes ≠ some path)
    (leaves : LeavesAlone path event) (taken : observed.step zk path event = some next) :
    ∀ call ∈ next.client.shared.call, call.deletes ≠ some path := by
  obtain ⟨client, moved, rfl⟩ := recorded_of_step taken
  rcases WatchedClient.shared_step moved with ⟨shared, action, rfl, interleaved, same⟩ | ⟨-, same⟩
  · have other : action ≠ .begin (.delete path) := by
      rintro rfl
      exact leaves rfl
    rw [ObservedClient.record, same]
    exact deletes_interleave interleaved other spared
  · rw [ObservedClient.record, same]
    exact spared

theorem serving_step (lawful : zk.Lawful) (reliable : zk.Reliable) (watchable : Watchable zk path)
    {observed next : ObservedClient Store} {event : WatchEvent Store}
    (serving : Serving zk path callback observed) (leaves : LeavesAlone path event)
    (spaced : Spaced zk path observed event) (taken : observed.step zk path event = some next) :
    Serving zk path callback next := by
  have attending := serving.attending
  have ordinary : Ordinary event := by
    cases event with
    | fire event path => exact leaves.elim
    | session state => exact leaves.elim
    | _ => exact trivial
  refine ⟨attending_of_step lawful attending ordinary taken,
    spared_step serving.spared leaves taken, ?_⟩
  cases event with
  | client event =>
    obtain ⟨shared, interleaved, left, view⟩ := view_client attending taken
    have watcher : shared.registry.client.watchers.find? path =
        observed.client.registry.client.watchers.find? path := by
      refine watcher_interleave interleaved ?_
      rintro rfl forgetting
      exact serving.spared _ forgetting rfl
    have node : held zk shared.registry path = next.client.contents zk path :=
      (congrFun (congrArg (WatchedClient.contents zk) left) path).symm
    have kept := NodeView.change_watcher (observed.view zk path) (held zk shared.registry path)
    have moves : ((observed.view zk path).change (held zk shared.registry path)).Served callback ∨
        ((observed.view zk path).change (held zk shared.registry path)).Lost := by
      rcases serving.served with served | lost
      · rcases spaced _ taken with same | ⟨calm, small⟩
        · rw [NodeView.change_of_eq (node.trans same)]
          exact .inl served
        · rw [← node] at small
          exact served.change calm small
      · exact .inr (lost.change _)
    have whole : next.view zk path =
        { (observed.view zk path).change (held zk shared.registry path) with
          cached := shared.registry.client.serviceCache.dataOf path } := by
      rw [view, watcher]
      exact NodeView.ext rfl rfl rfl rfl kept.symm rfl rfl rfl
    rw [whole]
    exact moves.imp (·.congr id _) (·.congr _ _)
  | watch other callback =>
    rw [view_watch leaves taken]
    exact serving.served
  | arm =>
    rcases view_arm lawful taken with same | armed
    · rw [same]
      exact serving.served
    · rw [armed]
      exact serving.served.imp (·.congr (fun _ => rfl) _) (·.congr _ _)
  | deliver =>
    refine holds_delivered (P := fun view => view.Served callback ∨ view.Lost) attending taken
      serving.served ?_
    intro idle
    exact serving.served.imp (·.deliver idle) (·.deliver)
  | handle =>
    refine holds_handled (P := fun view => view.Served callback ∨ view.Lost) lawful reliable watchable
      attending taken serving.served ?_
    intro stage handling
    exact serving.served.imp (·.handle handling) (·.handle handling)
  | fire event path => exact leaves.elim
  | session state => exact leaves.elim

/-- The callback is told of every change, once and in order, unless the node is
created again after a deletion: the deletion has taken the callback away. -/
theorem changes_told_iff (lawful : zk.Lawful) (reliable : zk.Reliable)
    (watchable : Watchable zk path) {start : WatchedClient Store} {final : ObservedClient Store}
    {events : List (WatchEvent Store)} (watching : Watching zk path callback start)
    (spared : ∀ call ∈ start.shared.call, call.deletes ≠ some path)
    (leaves : ∀ event ∈ events, LeavesAlone path event)
    (spaced : Along (ObservedClient.step zk path) (Spaced zk path) { client := start } events)
    (reached : run (ObservedClient.step zk path) { client := start } events = some final)
    (calm : (final.view zk path).Calm) :
    (final.view zk path).told = final.changes.map (notice callback) ↔
      none ∉ final.changes.dropLast := by
  have initial : Serving zk path callback { client := start } := by
    refine ⟨watching.attending, spared, .inl ?_⟩
    have untold : (ObservedClient.view zk path { client := start }).told = [] := view_untold watching
    rw [NodeView.Served, watching.calm.2]
    refine .inl ⟨watching.calm.1, ⟨untold, ?_, watching.watcher⟩, fun _ => decide_eq_true watching.armed⟩
    exact List.not_mem_nil
  have kept : ∀ before event after, Serving zk path callback before →
      LeavesAlone path event ∧ Spaced zk path before event → before.step zk path event = some after →
      Serving zk path callback after := by
    intro before event after serving ⟨leaves, spaced⟩ taken
    exact serving_step lawful reliable watchable serving leaves spaced taken
  have serving := run_preserves kept initial ((along_of_forall leaves _).and spaced) reached
  rcases serving.served with served | lost
  · rw [NodeView.Served, calm.2] at served
    rcases served with ⟨-, told, -⟩ | ⟨event, node, waiting, -⟩
    · exact iff_of_true told.told told.earlier
    · rw [calm.1] at waiting
      cases waiting
  · refine iff_of_false ?_ fun never => never lost.deleted
    intro told
    have untold := lost.untold
    rw [told, List.length_map] at untold
    exact lt_irrefl _ untold

end Runs

section UserService
variable {Store : Type}

instance (path : Bytes) (event : WatchEvent Store) : Decidable (LeavesAlone path event) :=
  match event with
  | .client (.begin (.delete other)) | .watch other _ => inferInstanceAs (Decidable (other ≠ path))
  | .client (.begin (.register _ _ _)) | .client (.begin (.discover _))
  | .client (.begin (.discoverService _)) | .client .advance | .client .snapshot
  | .client .listChildren | .client .reconcile | .client (.change _) | .arm | .deliver | .handle =>
    inferInstanceAs (Decidable True)
  | .fire _ _ | .session _ => inferInstanceAs (Decidable False)

instance (zk : ZooKeeper Store) (path : Bytes) (observed : ObservedClient Store)
    (event : WatchEvent Store) : Decidable (Spaced zk path observed event) :=
  inferInstanceAs (Decidable (∀ next ∈ observed.step zk path event, _))

def deletedInstance : ZooTree := (firstUpdate.zooDelete watchedPath).2

def recreatedInstance : ZooTree :=
  (deletedInstance.zooCreate 7 watchedPath (text "methods=Ping") true).2

/-- The instance is updated and deleted. -/
def updateAndDeletion : List (WatchEvent ZooTree) :=
  .client (.change firstUpdate) :: .deliver :: List.replicate 5 .handle ++
    .client (.change deletedInstance) :: .deliver :: List.replicate 4 .handle

theorem update_and_deletion_told : ∃ final,
    run (ObservedClient.step zooTree watchedPath) { client := watchingClient } updateAndDeletion =
      some final ∧
    (final.view zooTree watchedPath).told = final.changes.map (notice 4) := by
  have ran : (run (ObservedClient.step zooTree watchedPath) { client := watchingClient }
      updateAndDeletion).any fun final =>
        (final.view zooTree watchedPath).Calm ∧ none ∉ final.changes.dropLast := by decide +kernel
  obtain ⟨final, reached, outcome⟩ := (Option.any_eq_true _ _).mp ran
  obtain ⟨calm, last⟩ := of_decide_eq_true outcome
  exact ⟨final, reached, (changes_told_iff ZooTree.lawful ZooTree.reliable watchable_watchedPath
    watching_watchingClient nofun (by decide +kernel) (by decide +kernel) reached calm).mpr last⟩

/-- The instance is created again: the callback is told of the deletion only. -/
theorem recreation_missed : ∃ final,
    run (ObservedClient.step zooTree watchedPath) { client := watchingClient }
      (updateAndDeletion ++ [.client (.change recreatedInstance), .deliver, .handle]) = some final ∧
    Along (ObservedClient.step zooTree watchedPath) (Spaced zooTree watchedPath)
      { client := watchingClient }
      (updateAndDeletion ++ [.client (.change recreatedInstance), .deliver, .handle]) ∧
    (final.view zooTree watchedPath).Calm ∧
    final.changes.map (Option.map (·.data)) =
      [some (text "methods=Logout"), none, some (text "methods=Ping")] ∧
    (final.view zooTree watchedPath).told = [(4, text "methods=Logout"), (4, [])] := by
  have ran : (run (ObservedClient.step zooTree watchedPath) { client := watchingClient }
      (updateAndDeletion ++ [.client (.change recreatedInstance), .deliver, .handle])).any fun final =>
        (final.view zooTree watchedPath).Calm ∧
        final.changes.map (Option.map (·.data)) =
          [some (text "methods=Logout"), none, some (text "methods=Ping")] ∧
        (final.view zooTree watchedPath).told = [(4, text "methods=Logout"), (4, [])] := by
    decide +kernel
  obtain ⟨final, reached, outcome⟩ := (Option.any_eq_true _ _).mp ran
  exact ⟨final, reached, by decide +kernel, of_decide_eq_true outcome⟩

end UserService

end Xrpc
