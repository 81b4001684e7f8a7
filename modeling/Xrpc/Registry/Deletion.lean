import Xrpc.Registry.Purge
import Xrpc.Registry.ReadBack
import Xrpc.Registry.Segments

/-! When a path can no longer be discovered after `Delete`. -/

namespace Xrpc

open Support ZookeeperClient

namespace ZookeeperClient
variable {Store : Type} {zk : ZooKeeper Store} {state after : Registry Store} {path : Bytes}

/-- What `Delete` found, and what it has done when it returns. -/
theorem delete_returned (lawful : zk.Lawful) (returned : (delete zk path).run state = .ok () after) :
    held zk state (cString path) = none ∧
        after.client = state.client ∧ held zk after = held zk state ∨
      (held zk state (cString path)).isSome ∧ ∃ service, serviceSegment path = some service ∧
        held zk after = Function.update (held zk state) (cString path) none ∧
        after.client.serviceCache = state.client.serviceCache.retain service (· ≠ path) := by
  cases opened : state.client.zkHandle with
  | none => simp [delete, checkStarted, opened] at returned
  | some session =>
    have checked : (checkStarted : Effect (Registry Store) Unit).run state = .ok () state := by
      simp [checkStarted, opened]
    rw [delete, EStateM.run_bind, checked] at returned
    dsimp only at returned
    rw [EStateM.run_bind, run_request opened] at returned
    have looked := lawful.exists_contents session (cString path) state.store
    have present := lawful.exists_ok session (cString path) state.store
    have absent := lawful.exists_noNode session (cString path) state.store
    generalize zk.zooExists session (cString path) state.store = answer at *
    obtain ⟨answer, store⟩ := answer
    dsimp only at looked present absent returned
    split at returned
    · cases returned
      exact .inl ⟨absent rfl, rfl, looked⟩
    · cases returned
    next version =>
      obtain ⟨node, found, -⟩ := present version rfl
      have here : (held zk state (cString path)).isSome := Option.isSome_iff_exists.mpr ⟨node, found⟩
      rw [EStateM.run_bind] at returned
      cases tried : (attempt zk (zk.zooDelete · (cString path))
          "ZookeeperClient::Delete - Failed to delete node: ").run { state with store } with
      | error exit between => simp [tried] at returned
      | ok done between =>
        obtain ⟨same, -, answer, left⟩ := attempt_returned tried
        simp only [tried] at returned
        have removed := lawful.delete_ok _ _ _ answer
        cases segment : serviceSegment path with
        | none => simp [forgetInstance, serviceOf, segment] at returned
        | some service =>
          rw [run_forgetInstance segment, EStateM.Result.ok.injEq] at returned
          obtain ⟨-, returned⟩ := returned
          subst after between
          refine .inr ⟨here, service, rfl, ?_, rfl⟩
          exact removed.trans (by rw [looked])

/-- A node that is not there cannot be read. -/
theorem getNodeData_missing (lawful : zk.Lawful) (missing : held zk state (cString path) = none) :
    ∃ what left, (getNodeData zk path).run state = .error (.exception what) left := by
  cases connected : state.client.connected with
  | false =>
    have thrown : (checkConnected : Effect (Registry Store) Unit).run state =
        .error (runtimeError (text "ZooKeeper not connected")) state := by
      simp [checkConnected, connected]
    exact ⟨_, state, bind_error thrown _⟩
  | true =>
    obtain ⟨session, opened⟩ := exists_session connected
    rw [getNodeData, EStateM.run_bind, run_checkConnected connected]
    dsimp only
    rw [run_attempt opened]
    cases answer : (zk.zooGet session (cString path) 512 state.store).1 with
    | ok data =>
      obtain ⟨node, found, -⟩ := lawful.get_ok _ _ _ _ _ answer
      cases missing.symm.trans found
    | error ret => exact ⟨_, _, rfl⟩

theorem uncached_of_absent {client : ZookeeperClient}
    (absent : ∀ service, ¬ client.serviceCache.Has service path) : Uncached client path := by
  intro service _
  rw [List.find?_eq_none]
  intro entry listed same
  cases cached : client.serviceCache.find? service with
  | none => simp [cached] at listed
  | some instances =>
    rw [cached, Option.getD_some] at listed
    refine absent service ⟨instances, cached, ?_⟩
    rw [← of_decide_eq_true same]
    exact List.mem_map_of_mem listed

/-- `Discover` throws where nothing is cached and nothing stored. -/
theorem discover_missing (lawful : zk.Lawful) (missing : held zk state (cString path) = none)
    (uncached : Uncached state.client path) :
    ∃ what left, (discover zk path).run state = .error (.exception what) left := by
  cases segment : serviceSegment path with
  | none =>
    have thrown : (serviceOf path).run state = .error (.exception
        (text "basic_string::substr: __pos (which is 1) > this->size() (which is 0)")) state := by
      simp [serviceOf, segment]
    exact ⟨_, state, bind_error thrown _⟩
  | some service =>
    obtain ⟨what, left, thrown⟩ := getNodeData_missing lawful missing
    have named : (serviceOf path).run state = .ok service state := by simp [serviceOf, segment]
    refine ⟨what, left, ?_⟩
    rw [discover, EStateM.run_bind, named]
    dsimp only
    rw [EStateM.run_bind, EStateM.run_get]
    simp only [uncached service segment]
    exact bind_error thrown _

/-- Nothing is cached for `path`, and `Discover` of it throws. -/
def Forgotten (zk : ZooKeeper Store) (state : Registry Store) (path : Bytes) : Prop :=
  (∀ service, ¬ state.client.serviceCache.Has service path) ∧
    ∃ what left, (discover zk path).run state = .error (.exception what) left

/-- After `Delete` has returned, a path that is not cached is forgotten. -/
theorem forgotten_iff_absent (lawful : zk.Lawful)
    (returned : (delete zk path).run state = .ok () after) :
    Forgotten zk after path ↔ ∀ service, ¬ after.client.serviceCache.Has service path := by
  have missing : held zk after (cString path) = none := by
    rcases delete_returned lawful returned with ⟨missing, -, same⟩ | ⟨-, service, -, removed, -⟩
    · rw [same]
      exact missing
    · rw [removed]
      exact Function.update_self _ _ _
  constructor
  · exact And.left
  · intro absent
    exact ⟨absent, discover_missing lawful missing (uncached_of_absent absent)⟩

/-- The entries that `Delete` leaves behind. -/
theorem has_delete_iff (lawful : zk.Lawful)
    (returned : (delete zk path).run state = .ok () after) (service : Bytes) :
    after.client.serviceCache.Has service path ↔ state.client.serviceCache.Has service path ∧
      ¬ (serviceSegment path = some service ∧ (held zk state (cString path)).isSome) := by
  rcases delete_returned lawful returned with ⟨missing, same, -⟩ | ⟨here, own, segment, -, retained⟩
  · rw [same, missing]
    simp
  · rw [retained, ServiceCache.has_retain_iff, segment, here]
    simp [eq_comm]

/-- `Delete` takes effect if and only if every cached entry for the path is in the list
that `Delete` looks into, and the node was still there for it to delete. -/
theorem delete_forgets_iff (lawful : zk.Lawful)
    (returned : (delete zk path).run state = .ok () after) :
    Forgotten zk after path ↔ ∀ service, state.client.serviceCache.Has service path →
      serviceSegment path = some service ∧ (held zk state (cString path)).isSome := by
  rw [forgotten_iff_absent lawful returned]
  refine forall_congr' fun service => ?_
  rw [has_delete_iff lawful returned, not_and, not_not]

end ZookeeperClient

/-- Services without a slash are listed where `Delete` looks: then only the node counts. -/
theorem WatchedClient.forgotten_reached {Store : Type} {zk : ZooKeeper Store}
    (lawful : zk.Lawful) (distinct : DistinctChildren zk) {start watched : WatchedClient Store}
    {events : List (WatchEvent Store)} (uncached : start.registry.client.serviceCache = ∅)
    (idle : start.shared.call = none) (flat : ∀ event ∈ events, Flat event)
    (reached : run (step zk) start events = some watched) {store : Store} {path : Bytes}
    {after : Registry Store}
    (returned : (delete zk path).run { watched.registry with store } = .ok () after)
    (present : (zk.contents store (cString path)).isSome) : Forgotten zk after path := by
  rw [forgotten_iff_absent lawful returned]
  intro service left
  obtain ⟨⟨instances, cached, member⟩, elsewhere⟩ := (has_delete_iff lawful returned service).mp left
  obtain ⟨entry, listed, same⟩ := List.mem_map.mp member
  have proper := cache_proper distinct uncached idle flat reached service instances cached
  have segment := proper.segment entry listed
  rw [same] at segment
  exact elsewhere ⟨segment, present⟩

def otherPath : Bytes := userServicePath "10.0.0.1:80"

/-- A client that has discovered the instance of the other server. -/
def discoveredOther : Registry ZooTree :=
  stateAfter ((discover zooTree otherPath).run { store := otherServer, client := ownClient })

theorem deleted_instance_forgotten : ∃ after,
    (delete zooTree otherPath).run discoveredOther = .ok () after ∧
      Forgotten zooTree after otherPath := by
  have ran : returns ((delete zooTree otherPath).run discoveredOther) := by decide +kernel
  obtain ⟨done, after, returned⟩ := exists_of_returns ran
  refine ⟨after, returned, (delete_forgets_iff ZooTree.lawful returned).mpr ?_⟩
  rintro service ⟨instances, cached, -⟩
  have keys : discoveredOther.client.serviceCache.keys = [text "UserService"] := by decide +kernel
  have listed := Table.mem_keys_iff.mpr ⟨instances, cached⟩
  rw [keys, List.mem_singleton] at listed
  subst listed
  decide +kernel

/-- The same client, after the other server has removed its instance. -/
def removedOther : Registry ZooTree :=
  { discoveredOther with store := (otherServer.zooDelete otherPath).2 }

/-- An instance that its own server has removed stays cached, although `Delete` returns. -/
theorem removed_instance_stays :
    ¬ ∀ (calls : List DiscoveryCall) (state after : Registry ZooTree) (store : ZooTree)
      (path : Bytes),
      run (ZookeeperClient.step zooTree) { store := otherServer, client := ownClient } calls =
          some state →
        (delete zooTree path).run { state with store } = .ok () after →
        Forgotten zooTree after path := by
  intro forgets
  have ran : returns ((delete zooTree otherPath).run removedOther) := by decide +kernel
  obtain ⟨done, after, returned⟩ := exists_of_returns ran
  have cached : removedOther.client.serviceCache.find? (text "UserService") =
      some [(otherPath, text "methods=Login")] := by decide +kernel
  have listed : removedOther.client.serviceCache.Has (text "UserService") otherPath :=
    ⟨_, cached, List.mem_cons_self⟩
  have removed : ¬ (held zooTree removedOther (cString otherPath)).isSome := by decide +kernel
  have reached : run (ZookeeperClient.step zooTree) { store := otherServer, client := ownClient }
      [.discover otherPath] = some discoveredOther := by
    simp only [run, ZookeeperClient.step, discoveredOther, Option.bind_some]
  obtain ⟨absent, -⟩ := forgets _ _ after _ otherPath reached returned
  refine absent (text "UserService") ((has_delete_iff ZooTree.lawful returned _).mpr ?_)
  refine ⟨listed, ?_⟩
  rintro ⟨-, present⟩
  exact removed present

end Xrpc
