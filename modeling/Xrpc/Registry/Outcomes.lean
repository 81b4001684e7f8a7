import Xrpc.Registry.Frames

/-! What the members of `ZookeeperClient` have done when they return or throw. -/

namespace Xrpc

open Support

namespace ZookeeperClient
variable {Store : Type} {zk : ZooKeeper Store} {state : Registry Store}

/-- What a successful write has done, by the answer of `zoo_exists` before it. -/
def Wrote (session : Nat) (path data : Bytes) (ephemeral : Bool) (stat : Except ZooCode Nat)
    (before after : ZooKeeper.Contents) : Prop :=
  match stat with
  | .ok version => ZooKeeper.Updated path data version before after
  | .error _ => ZooKeeper.Created session path data ephemeral before after

theorem writeNode_returned (lawful : zk.Lawful) {state after : Registry Store}
    {path data : Bytes} {ephemeral : Bool} {stat : Except ZooCode Nat}
    (returned : (writeNode zk path data ephemeral stat).run state = .ok () after) :
    ∃ session, state.client.zkHandle = some session ∧ after.client = state.client ∧
      Wrote session (cString path) data ephemeral stat (held zk state) (held zk after) := by
  cases stat with
  | ok version =>
    obtain ⟨session, opened, answer, left⟩ := attempt_returned returned
    subst after
    exact ⟨session, opened, rfl, lawful.set_ok _ _ _ _ _ answer⟩
  | error code =>
    obtain ⟨session, opened, answer, left⟩ := attempt_returned returned
    subst after
    exact ⟨session, opened, rfl, lawful.create_ok _ _ _ _ _ answer⟩

theorem run_cacheInstance {path service : Bytes} (segment : serviceSegment path = some service)
    (data : Bytes) (state : Registry Store) :
    (cacheInstance path data).run state = .ok () { state with
      client.serviceCache := state.client.serviceCache.setInstance service path data } := by
  simp [cacheInstance, serviceOf, segment, modifyCache]

theorem finishRegister_returned (lawful : zk.Lawful) {state after : Registry Store}
    {path data : Bytes} {ephemeral : Bool} {stat : Except ZooCode Nat}
    (returned : (finishRegister zk path data ephemeral stat).run state = .ok () after) :
    ∃ session service, state.client.zkHandle = some session ∧
      serviceSegment path = some service ∧
      after.client = { state.client with
        serviceCache := state.client.serviceCache.setInstance service path data } ∧
      Wrote session (cString path) data ephemeral stat (held zk state) (held zk after) := by
  rw [finishRegister, EStateM.run_bind] at returned
  cases wrote : (writeNode zk path data ephemeral stat).run state with
  | error what between => simp [wrote] at returned
  | ok done between =>
    obtain ⟨session, opened, sameClient, effect⟩ := writeNode_returned lawful wrote
    simp only [wrote] at returned
    cases segment : serviceSegment path with
    | none => simp [cacheInstance, serviceOf, segment] at returned
    | some service =>
      rw [run_cacheInstance segment, EStateM.Result.ok.injEq] at returned
      obtain ⟨-, returned⟩ := returned
      subst after
      exact ⟨session, service, opened, rfl, by rw [sameClient], effect⟩

theorem writeNode_refused (reliable : zk.Reliable) {after : Registry Store}
    {path data : Bytes} {ephemeral : Bool} {stat : Except ZooCode Nat} {exit : Exit}
    (refused : (writeNode zk path data ephemeral stat).run state = .error exit after) :
    held zk after = held zk state := by
  cases stat with
  | ok version =>
    rcases attempt_refused refused with same | ⟨session, ret, answer, left⟩
    · rw [same]
    · subst after
      exact reliable.set_refused _ _ _ _ _ _ answer
  | error code =>
    rcases attempt_refused refused with same | ⟨session, ret, answer, left⟩
    · rw [same]
    · subst after
      exact reliable.create_refused _ _ _ _ _ _ answer

/-- The node that a successful write leaves. -/
theorem Wrote.found {session : Nat} {path data : Bytes} {ephemeral : Bool}
    {stat : Except ZooCode Nat} {before after : ZooKeeper.Contents}
    (wrote : Wrote session path data ephemeral stat before after) :
    ∃ node, node.data = data ∧ after = Function.update before path (some node) := by
  cases stat with
  | ok version =>
    obtain ⟨node, -, -, same⟩ := wrote
    exact ⟨_, rfl, same⟩
  | error code => exact ⟨_, rfl, wrote.2⟩

/-- `Register` after its first part. -/
theorem run_register (lawful : zk.Lawful) {path : Bytes} {between : Registry Store}
    (begun : (beginRegister zk path).run state = .ok () between) (data : Bytes)
    (ephemeral : Bool) :
    ∃ stat store, zk.contents store = held zk between ∧
      (register zk path data ephemeral).run state =
        (finishRegister zk path data ephemeral stat).run { between with store } := by
  have asked : ∃ stat store, zk.contents store = held zk between ∧
      (findNode zk path).run between = .ok stat { between with store } := by
    cases opened : between.client.zkHandle with
    | none => exact ⟨_, _, rfl, run_request_closed opened _⟩
    | some session => exact ⟨_, _, lawful.exists_contents _ _ _, run_request opened _⟩
  obtain ⟨stat, store, same, asked⟩ := asked
  refine ⟨stat, store, same, ?_⟩
  rw [register, EStateM.run_bind, begun]
  dsimp only
  rw [EStateM.run_bind, asked]

theorem register_returned (lawful : zk.Lawful) {path data : Bytes} {ephemeral : Bool}
    {after : Registry Store}
    (returned : (register zk path data ephemeral).run state = .ok () after) :
    ∃ service, serviceSegment path = some service ∧
      after.client = { state.client with
        serviceCache := state.client.serviceCache.setInstance service path data } ∧
      (∃ node, node.data = data ∧ held zk after (cString path) = some node) ∧
      ∀ other, other ≠ cString path → other ≠ cString (parentOf path) →
        held zk after other = held zk state other := by
  cases begun : (beginRegister zk path).run state with
  | error exit between => simp [register, EStateM.run_bind, begun] at returned
  | ok done between =>
    have client : (stateAfter ((beginRegister zk path).run state)).client = state.client :=
      client_beginRegister path state
    rw [begun, stateAfter_ok] at client
    obtain ⟨stat, store, same, rest⟩ := run_register lawful begun data ephemeral
    rw [rest] at returned
    obtain ⟨session, service, -, segment, cached, wrote⟩ := finishRegister_returned lawful returned
    obtain ⟨node, sameData, changed⟩ := wrote.found
    refine ⟨service, segment, by rw [cached, client], ⟨node, sameData, ?_⟩, ?_⟩
    · rw [changed]
      exact Function.update_self _ _ _
    · intro other notPath notParent
      have untouched := others_beginRegister lawful notParent state
      rw [begun, stateAfter_ok] at untouched
      rw [changed, Function.update_of_ne notPath]
      exact (congrFun same other).trans untouched

theorem register_refused (lawful : zk.Lawful) (reliable : zk.Reliable) {path service data : Bytes}
    (segment : serviceSegment path = some service) {ephemeral : Bool} {exit : Exit}
    {after : Registry Store}
    (refused : (register zk path data ephemeral).run state = .error exit after) :
    after.client = state.client ∧
      ∀ other, other ≠ cString (parentOf path) → held zk after other = held zk state other := by
  have client : (stateAfter ((beginRegister zk path).run state)).client = state.client :=
    client_beginRegister path state
  have others : ∀ other, other ≠ cString (parentOf path) →
      held zk (stateAfter ((beginRegister zk path).run state)) other = held zk state other :=
    fun other notParent => others_beginRegister lawful notParent state
  cases begun : (beginRegister zk path).run state with
  | error exit between =>
    rw [register, EStateM.run_bind, begun] at refused
    rw [begun] at client others
    cases refused
    exact ⟨client, others⟩
  | ok done between =>
    rw [begun] at client others
    obtain ⟨stat, store, same, rest⟩ := run_register lawful begun data ephemeral
    rw [rest, finishRegister, EStateM.run_bind] at refused
    cases wrote : (writeNode zk path data ephemeral stat).run { between with store } with
    | ok done last => simp [wrote, run_cacheInstance segment] at refused
    | error exit last =>
      have kept : (stateAfter ((writeNode zk path data ephemeral stat).run
          { between with store })).client = between.client :=
        client_writeNode path data ephemeral stat { between with store }
      have unchanged := writeNode_refused reliable wrote
      rw [wrote] at refused kept
      cases refused
      refine ⟨kept.trans client, ?_⟩
      intro other notParent
      rw [unchanged]
      exact (congrFun same other).trans (others other notParent)

theorem getNodeData_returned (lawful : zk.Lawful) {path data : Bytes} {after : Registry Store}
    (returned : (getNodeData zk path).run state = .ok data after) :
    ∃ node, held zk state (cString path) = some node ∧ data = node.data.take 512 := by
  rw [getNodeData, EStateM.run_bind] at returned
  cases checked : checkConnected.run state with
  | error exit between => simp [checked] at returned
  | ok done between =>
    have same : between = state := by
      cases connected : state.client.connected with
      | true =>
        rw [run_checkConnected connected] at checked
        cases checked
        rfl
      | false => simp [checkConnected, connected] at checked
    subst between
    simp only [checked] at returned
    obtain ⟨session, -, answer, -⟩ := attempt_returned returned
    exact lawful.get_ok _ _ _ _ _ answer

/-- The outcomes of `Discover`. -/
theorem discover_cases (lawful : zk.Lawful) {path service : Bytes}
    (segment : serviceSegment path = some service) (state : Registry Store) :
    (stateAfter ((discover zk path).run state)).client = state.client ∨
      ∃ node, held zk state (cString path) = some node ∧
        (stateAfter ((discover zk path).run state)).client = { state.client with
          serviceCache :=
            state.client.serviceCache.setInstance service path (node.data.take 512) } := by
  have named : (serviceOf path).run state = .ok service state := by
    simp [serviceOf, segment]
  rw [discover, EStateM.run_bind, named]
  dsimp only
  rw [EStateM.run_bind, EStateM.run_get]
  dsimp only
  cases cached : ((state.client.serviceCache.find? service).getD []).find?
      fun entry => entry.1 = path with
  | some entry => exact .inl rfl
  | none =>
    have client : (stateAfter ((getNodeData zk path).run state)).client = state.client :=
      keeps_getNodeData (client_request _) state
    dsimp only
    rw [EStateM.run_bind]
    cases read : (getNodeData zk path).run state with
    | error exit after =>
      rw [read] at client
      exact .inl client
    | ok data after =>
      rw [read, stateAfter_ok] at client
      obtain ⟨node, found, same⟩ := getNodeData_returned lawful read
      refine .inr ⟨node, found, ?_⟩
      dsimp only
      rw [EStateM.run_bind, run_cacheInstance segment]
      simp [client, same]

theorem exists_serviceSegment {path : Bytes} (nonempty : path ≠ []) :
    ∃ service, serviceSegment path = some service := by
  have positive := List.length_pos_of_ne_nil nonempty
  unfold serviceSegment
  split
  · exact ⟨_, if_pos positive⟩
  · exact ⟨_, if_pos positive⟩

theorem run_forgetInstance {path service : Bytes} (segment : serviceSegment path = some service)
    (state : Registry Store) :
    (forgetInstance path).run state = .ok () { state with
      client := { state.client with
        serviceCache := state.client.serviceCache.retain service (· ≠ path)
        watchers := state.client.watchers.erase path } } := by
  simp [forgetInstance, serviceOf, segment, modifyCache, modifyWatchers]

/-- The outcomes of `Delete`. -/
theorem delete_cases (lawful : zk.Lawful) (reliable : zk.Reliable) (path : Bytes)
    (state : Registry Store) :
    (stateAfter ((delete zk path).run state)).client = state.client ∧
        held zk (stateAfter ((delete zk path).run state)) = held zk state ∨
      ∃ service, serviceSegment path = some service ∧
        held zk (stateAfter ((delete zk path).run state)) =
          Function.update (held zk state) (cString path) none ∧
        (stateAfter ((delete zk path).run state)).client = { state.client with
          serviceCache := state.client.serviceCache.retain service (· ≠ path)
          watchers := state.client.watchers.erase path } := by
  cases opened : state.client.zkHandle with
  | none => exact .inl (by simp [delete, checkStarted, opened])
  | some session =>
    have checked : (checkStarted : Effect (Registry Store) Unit).run state = .ok () state := by
      simp [checkStarted, opened]
    rw [delete, EStateM.run_bind, checked]
    dsimp only
    rw [EStateM.run_bind, run_request opened]
    have looked := lawful.exists_contents session (cString path) state.store
    have present := lawful.exists_ok session (cString path) state.store
    generalize zk.zooExists session (cString path) state.store = answer at *
    obtain ⟨answer, store⟩ := answer
    dsimp only at looked present ⊢
    split
    · exact .inl ⟨rfl, looked⟩
    · exact .inl ⟨rfl, looked⟩
    next version =>
      have stillOpened : ({ state with store } : Registry Store).client.zkHandle = some session :=
        opened
      rw [EStateM.run_bind, run_attempt stillOpened]
      cases deleted : (zk.zooDelete session (cString path) store).1 with
      | error ret =>
        have refused := reliable.delete_refused _ _ _ _ deleted
        exact .inl ⟨rfl, refused.trans looked⟩
      | ok done =>
        have removed : _ = _ := lawful.delete_ok _ _ _ deleted
        obtain ⟨node, found, -⟩ := present version rfl
        have nonempty : path ≠ [] := by
          intro empty
          have absolute := lawful.absolute _ _ (Option.isSome_iff_exists.mpr ⟨node, found⟩)
          simp [empty, cString] at absolute
        obtain ⟨service, segment⟩ := exists_serviceSegment nonempty
        refine .inr ⟨service, segment, ?_, ?_⟩
        · simp [run_forgetInstance segment, held, removed, looked]
        · simp [run_forgetInstance segment]

end ZookeeperClient

end Xrpc
