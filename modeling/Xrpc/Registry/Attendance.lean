import Xrpc.Registry.WatchFrames

/-! A client whose session stays connected, and which ZooKeeper sends only the events
of its watches. -/

namespace Xrpc

open Support ZookeeperClient

/-- A node path that ZooKeeper accepts: it is told whether there is a node. -/
structure Watchable {Store : Type} (zk : ZooKeeper Store) (path : Bytes) : Prop where
  nonempty : path ≠ []
  terminated : 0 ∉ path
  answered : ∀ session store, (∃ version, (zk.zooExists session path store).1 = .ok version) ∨
    (zk.zooExists session path store).1 = .error .noNode

/-- The session is connected, and only events of watched nodes are under way. -/
structure Attending {Store : Type} (watched : WatchedClient Store) : Prop where
  connected : watched.registry.client.connected = true
  running : watched.registry.client.running = true
  distinct : watched.armed.Nodup
  armed : ∀ path ∈ watched.armed, 0 ∉ path
  queue : ∀ entry ∈ watched.queue, 0 ∉ entry.2 ∧ entry.1 ≠ .child
  handler : ∀ handler ∈ watched.handler, 0 ∉ handler.path ∧ handler.stage ≠ .clearing ∧
    handler.stage ≠ .lookup .child

section Answers
variable {Store : Type} {zk : ZooKeeper Store} {path : Bytes}

theorem run_registerWatcher (lawful : zk.Lawful) (watchable : Watchable zk path)
    {state : Registry Store} (connected : state.client.connected = true) :
    ∃ store, zk.contents store = held zk state ∧
      (registerWatcher zk path).run state = .ok true { state with store } := by
  obtain ⟨session, opened⟩ := exists_session connected
  refine ⟨(zk.zooExists session path state.store).2, lawful.exists_contents _ _ _, ?_⟩
  rw [registerWatcher, EStateM.run_bind, EStateM.run_get]
  simp only [connected, if_true]
  rw [EStateM.run_bind, run_request opened, cString_of_terminated watchable.terminated]
  rcases watchable.answered session state.store with ⟨version, answer⟩ | answer
  · rw [answer]
    rfl
  · rw [answer]
    rfl

/-- The handler reads the node if it is there. -/
theorem run_reading (lawful : zk.Lawful) (reliable : zk.Reliable) (watchable : Watchable zk path)
    {state : Registry Store} (connected : state.client.connected = true) :
    match held zk state path with
    | some node => ∃ store, (getNodeData zk path).run state =
        .ok (node.data.take 512) { state with store }
    | none => ∃ exit after, (getNodeData zk path).run state = .error exit after := by
  cases found : held zk state path with
  | some node =>
    obtain ⟨same, store, here, -, ran⟩ := run_getNodeData lawful reliable connected
      (Option.isSome_iff_exists.mpr ⟨node, found⟩)
    rw [found, Option.some.injEq] at here
    subst same
    exact ⟨store, ran⟩
  | none =>
    cases ran : (getNodeData zk path).run state with
    | error exit after => exact ⟨exit, after, rfl⟩
    | ok data after =>
      obtain ⟨node, here, -⟩ := getNodeData_returned lawful ran
      rw [cString_of_terminated watchable.terminated, found] at here
      cases here

end Answers

section Attendance
variable {Store : Type} {zk : ZooKeeper Store} {watched next : WatchedClient Store}

/-- The session is left to the session events. -/
theorem flags_interleave {machine after : SharedClient Store} {event : SharedEvent Store}
    (taken : interleave zk machine event = some after) :
    after.registry.client.connected = machine.registry.client.connected ∧
      after.registry.client.running = machine.registry.client.running := by
  rcases client_interleave taken with same | ⟨call, -, -, same⟩ | ⟨answer, -, -, same⟩
  · rw [same]
    exact ⟨rfl, rfl⟩
  · rw [same]
    rcases client_advance zk call machine.registry with same | ⟨_, _, _, -, -, same⟩ |
      ⟨_, _, -, same⟩ | ⟨_, _, -, -, same⟩
    · rw [same]
      exact ⟨rfl, rfl⟩
    · rw [same]
      exact ⟨rfl, rfl⟩
    · rw [same]
      exact ⟨rfl, rfl⟩
    · rw [same]
      exact ⟨rfl, rfl⟩
  · rw [same]
    exact ⟨rfl, rfl⟩

/-- Only the end of `Delete` takes a callback away. -/
theorem watcher_interleave {machine after : SharedClient Store} {event : SharedEvent Store}
    (taken : interleave zk machine event = some after) {path : Bytes}
    (kept : event = .advance → machine.call ≠ some (.forgetting path)) :
    after.registry.client.watchers.find? path = machine.registry.client.watchers.find? path := by
  rcases client_interleave taken with same | ⟨call, rfl, waiting, same⟩ | ⟨answer, -, -, same⟩
  · rw [same]
  · rw [same]
    rcases client_advance zk call machine.registry with same | ⟨_, _, _, -, -, same⟩ |
      ⟨_, _, -, same⟩ | ⟨other, service, rfl, -, same⟩
    · rw [same]
    · rw [same]
    · rw [same]
    · rw [same]
      refine Table.find?_erase_ne _ ?_
      rintro rfl
      exact kept rfl waiting
  · rw [same]

theorem not_mem_cString (path : Bytes) : 0 ∉ cString path := by
  intro member
  have kept := List.mem_takeWhile_imp member
  simp at kept

theorem Attending.update (attending : Attending watched) {shared : SharedClient Store}
    (connected : shared.registry.client.connected = true)
    (running : shared.registry.client.running = true) : Attending (watched.update zk shared) where
  connected := connected
  running := running
  distinct := attending.distinct.sublist List.filter_sublist
  armed path member := attending.armed path (List.mem_of_mem_filter member)
  queue entry member := by
    rcases List.mem_append.mp member with waiting | fired
    · exact attending.queue entry waiting
    · obtain ⟨path, armed, changed⟩ := List.mem_filterMap.mp fired
      obtain ⟨event, changed, rfl⟩ := Option.map_eq_some_iff.mp changed
      refine ⟨attending.armed path armed, ?_⟩
      rintro rfl
      cases before : watched.contents zk path with
      | none =>
        cases after : held zk shared.registry path with
        | none => simp [NodeEvent.ofChange, before, after] at changed
        | some new => simp [NodeEvent.ofChange, before, after] at changed
      | some old =>
        cases after : held zk shared.registry path with
        | none => simp [NodeEvent.ofChange, before, after] at changed
        | some new => simp [NodeEvent.ofChange, before, after] at changed
  handler := attending.handler

theorem Attending.armed_insert (attending : Attending watched) {armed : List Bytes} {path : Bytes}
    (inserted : armed = watched.armed ∨ armed = watched.armed.insert (cString path)) :
    armed.Nodup ∧ ∀ other ∈ armed, 0 ∉ other := by
  rcases inserted with rfl | rfl
  · exact ⟨attending.distinct, attending.armed⟩
  · refine ⟨attending.distinct.insert, ?_⟩
    intro other member
    rcases List.mem_insert_iff.mp member with rfl | listed
    · exact not_mem_cString path
    · exact attending.armed other listed

theorem Attending.handle (lawful : zk.Lawful) (attending : Attending watched) {path : Bytes}
    {stage : HandlerStage} (handling : watched.handler = some ⟨path, stage⟩) :
    Attending (watched.handle zk path stage) := by
  obtain ⟨terminated, notClearing, notChild⟩ := attending.handler _ handling
  have frame : WatchedClient.HandlerFrame zk path stage watched _ :=
    WatchedClient.handle_frame lawful path stage
  have flags : (watched.handle zk path stage).registry.client.connected =
        watched.registry.client.connected ∧
      (watched.handle zk path stage).registry.client.running = watched.registry.client.running := by
    rcases WatchedClient.client_handle zk watched path stage with same | ⟨_, _, _, -, -, same⟩ |
      ⟨_, _, -, -, same⟩ | ⟨_, -, -, same⟩
    · rw [same]
      exact ⟨rfl, rfl⟩
    · rw [same]
      exact ⟨rfl, rfl⟩
    · rw [same]
      exact ⟨rfl, rfl⟩
    · rw [same]
      exact ⟨rfl, rfl⟩
  obtain ⟨distinct, armed⟩ := attending.armed_insert frame.armed
  refine ⟨flags.1.trans attending.connected, flags.2.trans attending.running, distinct, armed, ?_, ?_⟩
  · rw [frame.queue]
    exact attending.queue
  · intro handler member
    obtain ⟨same, notLookup, clears⟩ := frame.handler handler member
    refine ⟨same ▸ terminated, ?_, notLookup .child⟩
    intro clearing
    exact notChild (by rw [clears clearing])

/-- ZooKeeper sends only what the watches ask for, and the session stays as it is. -/
def Ordinary : WatchEvent Store → Prop
  | .fire _ _ | .session _ => False
  | _ => True

theorem Attending.step (lawful : zk.Lawful) (attending : Attending watched) {event : WatchEvent Store}
    (ordinary : Ordinary event) (taken : watched.step zk event = some next) : Attending next := by
  cases WatchedClient.transition_of_step taken with
  | client apart moved =>
    obtain ⟨connected, running⟩ := flags_interleave moved
    exact attending.update (connected.trans attending.connected) (running.trans attending.running)
  | watch idle stored =>
    rw [run_beginWatch attending.connected] at stored
    cases stored
    exact ⟨attending.connected, attending.running, attending.distinct, attending.armed,
      attending.queue, attending.handler⟩
  | refuse idle thrown =>
    rw [run_beginWatch attending.connected] at thrown
    cases thrown
  | @arm path watching =>
    obtain ⟨registry, sets, client, -, done⟩ := watched.finishWatch_eq lawful path
    rw [done]
    have connected : registry.client.connected = true := client ▸ attending.connected
    have running : registry.client.running = true := client ▸ attending.running
    cases sets with
    | false =>
      exact ⟨connected, running, attending.distinct, attending.armed, attending.queue,
        attending.handler⟩
    | true =>
      obtain ⟨distinct, armed⟩ := attending.armed_insert (.inr rfl)
      exact ⟨connected, running, distinct, armed, attending.queue, attending.handler⟩
  | fire event path => exact ordinary.elim
  | deliver idle queued listening =>
    have listed := attending.queue
    rw [queued, List.forall_mem_cons] at listed
    obtain ⟨⟨terminated, notChild⟩, later⟩ := listed
    refine ⟨attending.connected, attending.running, attending.distinct, attending.armed, later, ?_⟩
    rintro _ ⟨rfl⟩
    refine ⟨terminated, nofun, ?_⟩
    rintro ⟨rfl⟩
    exact notChild rfl
  | skip idle queued unheard =>
    have listed := attending.queue
    rw [queued, List.forall_mem_cons] at listed
    exact ⟨attending.connected, attending.running, attending.distinct, attending.armed, listed.2,
      attending.handler⟩
  | handle handling => exact attending.handle lawful handling
  | session state idle => exact ordinary.elim

end Attendance

end Xrpc
