import Xrpc.Registry.Frames
import Mathlib.Data.Set.Basic

/-! The instances of a service, and what a client that has not cached them reads. -/

namespace Xrpc

open Support

/-- A name of one part of a path. -/
structure ProperName (name : Bytes) : Prop where
  named : name ≠ []
  flat : 47 ∉ name
  terminated : 0 ∉ name

instance (name : Bytes) : Decidable (ProperName name) :=
  decidable_of_iff (name ≠ [] ∧ 47 ∉ name ∧ 0 ∉ name)
    ⟨fun ⟨named, flat, terminated⟩ => ⟨named, flat, terminated⟩,
      fun proper => ⟨proper.named, proper.flat, proper.terminated⟩⟩

open ZookeeperClient (instancePath)

theorem childPath_instancePath {service : Bytes} (named : service ≠ []) (name : Bytes) :
    childPath (47 :: service) name = instancePath service name := by
  simp [childPath, instancePath, named]

theorem parentOf_instancePath {name : Bytes} (last : 47 ∉ name) (service : Bytes) :
    parentOf (instancePath service name) = 47 :: service := parentOf_append last _

theorem serviceSegment_instancePath {service : Bytes} (flat : 47 ∉ service) (name : Bytes) :
    serviceSegment (instancePath service name) = some service := by
  have slash : find (instancePath service name) 47 1 = some (service.length + 1) :=
    find_skip flat 47 name
  rw [serviceSegment, slash]
  simp [instancePath, substr]

theorem serviceSegment_service {service : Bytes} (flat : 47 ∉ service) :
    serviceSegment (47 :: service) = some service := by
  rw [serviceSegment, find_skip_absent flat]
  simp [substr, List.take_of_length_le]

theorem instancePath_injective (service : Bytes) :
    Function.Injective (instancePath service) := by
  intro name other same
  simpa [instancePath] using same

/-- The path of a service is read whole when its name has no NUL byte. -/
theorem cString_servicePath {service : Bytes} (terminated : 0 ∉ service) :
    cString (47 :: service) = 47 :: service := by
  refine cString_of_terminated ?_
  simp [terminated]

theorem ProperName.cString_instancePath {service name : Bytes} (proper : ProperName service)
    (properName : ProperName name) : cString (instancePath service name) = instancePath service name := by
  refine cString_of_terminated ?_
  simp [instancePath, proper.terminated, properName.terminated]

section Instances

/-- Without duplicates, `setInstance` makes its instance the only one at its path. -/
theorem mem_setInstance {instances : List (Bytes × Bytes)}
    (distinct : (instances.map Prod.fst).Nodup) (path data : Bytes) (entry : Bytes × Bytes) :
    entry ∈ setInstance path data instances ↔
      entry = (path, data) ∨ entry.1 ≠ path ∧ entry ∈ instances := by
  induction instances with
  | nil => simp [setInstance]
  | cons first rest ih =>
    rw [List.map_cons, List.nodup_cons] at distinct
    obtain ⟨absent, distinct⟩ := distinct
    rw [setInstance]
    split
    next same =>
      have later : entry ∈ rest → entry.1 ≠ path := by
        intro member clash
        exact absent (List.mem_map.mpr ⟨entry, member, clash.trans same.symm⟩)
      rw [List.mem_cons, List.mem_cons]
      constructor
      · intro member
        exact member.imp_right fun listed => ⟨later listed, .inr listed⟩
      · intro member
        rcases member with set | ⟨different, replaced | listed⟩
        · exact .inl set
        · exact absurd (replaced ▸ same) different
        · exact .inr listed
    next different =>
      rw [List.mem_cons, List.mem_cons, ih distinct]
      constructor
      · intro member
        rcases member with here | set | ⟨other, listed⟩
        · exact .inr ⟨here ▸ different, .inl here⟩
        · exact .inl set
        · exact .inr ⟨other, .inr listed⟩
      · intro member
        rcases member with set | ⟨other, here | listed⟩
        · exact .inr (.inl set)
        · exact .inl here
        · exact .inr (.inr ⟨other, listed⟩)

theorem nodup_setInstance {path data : Bytes} {instances : List (Bytes × Bytes)}
    (distinct : (instances.map Prod.fst).Nodup) :
    ((setInstance path data instances).map Prod.fst).Nodup := by
  induction instances with
  | nil => simp [setInstance]
  | cons first rest ih =>
    have members := mem_setInstance (List.nodup_cons.mp distinct).2 path data
    rw [List.map_cons, List.nodup_cons] at distinct
    rw [setInstance]
    split
    next same =>
      rw [List.map_cons, List.nodup_cons]
      exact ⟨same ▸ distinct.1, distinct.2⟩
    next different =>
      rw [List.map_cons, List.nodup_cons]
      refine ⟨?_, ih distinct.2⟩
      intro clash
      obtain ⟨entry, member, same⟩ := List.mem_map.mp clash
      rcases (members entry).mp member with set | ⟨-, listed⟩
      · exact different (same.symm.trans (congrArg Prod.fst set))
      · exact distinct.1 (List.mem_map.mpr ⟨entry, listed, same⟩)

end Instances

namespace ZooKeeper

/-- A path of an instance of `service`. -/
def InstanceOf (service path : Bytes) : Prop :=
  ∃ name, name ≠ [] ∧ 47 ∉ name ∧ path = instancePath service name

instance (service path : Bytes) : Decidable (InstanceOf service path) :=
  decidable_of_iff (path.drop (service.length + 2) ≠ [] ∧ 47 ∉ path.drop (service.length + 2) ∧
      path = instancePath service (path.drop (service.length + 2)))
    ⟨fun met => ⟨_, met⟩, by
      intro ⟨name, named, flat, same⟩
      have left : path.drop (service.length + 2) = name := by simp [same, instancePath]
      rw [left]
      exact ⟨named, flat, same⟩⟩

/-- A service with an instance has a node. -/
theorem InstanceOf.service_present {Store : Type} {zk : ZooKeeper Store} (lawful : zk.Lawful)
    {store : Store} {service path : Bytes} (here : InstanceOf service path)
    (present : (zk.contents store path).isSome) : (zk.contents store (47 :: service)).isSome := by
  obtain ⟨name, -, flat, same⟩ := here
  subst path
  have rooted := lawful.rooted _ _ present
  rw [parentOf_instancePath flat] at rooted
  exact rooted.resolve_left (List.cons_ne_nil _ _)

/-- The instances of a service with their data, of which a reader gets 512 bytes. -/
def instancesOf (contents : Contents) (service : Bytes) : Set (Bytes × Bytes) :=
  { entry | InstanceOf service entry.1 ∧
    ∃ node, contents entry.1 = some node ∧ entry.2 = node.data.take 512 }

/-- `instances` lists all instances of `service`, each once. -/
structure Listing (contents : Contents) (service : Bytes) (instances : List (Bytes × Bytes)) :
    Prop where
  present : (contents (47 :: service)).isSome
  distinct : (instances.map Prod.fst).Nodup
  complete : ∀ entry, entry ∈ instances ↔ entry ∈ instancesOf contents service

/-- A listing holds on in a store in which no instance of the service has changed. -/
theorem Listing.congr {before after : Contents} {service : Bytes}
    {instances : List (Bytes × Bytes)} (listing : Listing before service instances)
    (present : (after (47 :: service)).isSome)
    (same : ∀ path, InstanceOf service path → after path = before path) :
    Listing after service instances := by
  refine ⟨present, listing.distinct, ?_⟩
  intro entry
  rw [listing.complete]
  constructor
  · intro ⟨path, node, found, data⟩
    exact ⟨path, node, (same _ path).trans found, data⟩
  · intro ⟨path, node, found, data⟩
    exact ⟨path, node, (same _ path).symm.trans found, data⟩

/-- A list that is complete but for one instance becomes a listing when this is set. -/
theorem listing_setInstance {before after : Contents} {service path data : Bytes}
    {instances : List (Bytes × Bytes)} (distinct : (instances.map Prod.fst).Nodup)
    (others : ∀ entry, entry.1 ≠ path → (entry ∈ instances ↔ entry ∈ instancesOf before service))
    (proper : InstanceOf service path) (present : (after (47 :: service)).isSome)
    (same : ∀ other, InstanceOf service other → other ≠ path → after other = before other)
    (found : ∃ node, after path = some node ∧ data = node.data.take 512) :
    Listing after service (setInstance path data instances) := by
  refine ⟨present, nodup_setInstance distinct, ?_⟩
  intro entry
  rw [mem_setInstance distinct]
  obtain ⟨node, there, sameData⟩ := found
  by_cases here : entry.1 = path
  · constructor
    · intro member
      rcases member with set | ⟨different, -⟩
      · subst entry
        exact ⟨proper, node, there, sameData⟩
      · exact absurd here different
    · intro ⟨_, other, otherThere, otherData⟩
      rw [here, there, Option.some.injEq] at otherThere
      subst other
      exact .inl (Prod.ext here (otherData.trans sameData.symm))
  · have unset : entry ≠ (path, data) := fun set => here (congrArg Prod.fst set)
    simp only [unset, false_or, ne_eq, here, not_false_eq_true, true_and, others entry here]
    constructor
    · intro ⟨isInstance, old, held, oldData⟩
      exact ⟨isInstance, old, (same _ isInstance here).trans held, oldData⟩
    · intro ⟨isInstance, old, held, oldData⟩
      exact ⟨isInstance, old, (same _ isInstance here).symm.trans held, oldData⟩

/-- The instances read at the paths of all children are a listing. -/
theorem listing_of_children {contents : Contents} {service : Bytes} {names : List Bytes}
    {instances : List (Bytes × Bytes)} (named : service ≠ [])
    (present : (contents (47 :: service)).isSome) (distinct : names.Nodup)
    (children : ∀ name, name ∈ names ↔
      name ≠ [] ∧ 47 ∉ name ∧ (contents (childPath (47 :: service) name)).isSome)
    (paths : instances.map Prod.fst = names.map (instancePath service))
    (datas : ∀ entry ∈ instances, ∃ node, contents entry.1 = some node ∧
      entry.2 = node.data.take 512) : Listing contents service instances := by
  refine ⟨present, ?_, ?_⟩
  · rw [paths]
    exact distinct.map (instancePath_injective service)
  intro entry
  constructor
  · intro member
    have listed : entry.1 ∈ names.map (instancePath service) := by
      rw [← paths]
      exact List.mem_map_of_mem member
    obtain ⟨name, listed, path⟩ := List.mem_map.mp listed
    obtain ⟨proper, flat, -⟩ := (children name).mp listed
    exact ⟨⟨name, proper, flat, path.symm⟩, datas entry member⟩
  · intro ⟨⟨name, proper, flat, path⟩, node, found, data⟩
    have listed : name ∈ names := by
      refine (children name).mpr ⟨proper, flat, ?_⟩
      rw [childPath_instancePath named, ← path, found]
      rfl
    have member : entry.1 ∈ instances.map Prod.fst := by
      rw [paths, path]
      exact List.mem_map_of_mem listed
    obtain ⟨other, member, same⟩ := List.mem_map.mp member
    obtain ⟨otherNode, otherFound, otherData⟩ := datas other member
    rw [same, found, Option.some.injEq] at otherFound
    subst otherNode
    have equal : other = entry := Prod.ext same (otherData.trans data.symm)
    exact equal ▸ member

end ZooKeeper

namespace ZookeeperClient
variable {Store : Type} {zk : ZooKeeper Store} {state : Registry Store}

theorem exists_session {client : ZookeeperClient} (connected : client.connected = true) :
    ∃ session, client.zkHandle = some session := by
  rw [ZookeeperClient.connected, Bool.and_eq_true] at connected
  exact Option.isSome_iff_exists.mp connected.2

theorem run_getNodeData (lawful : zk.Lawful) (reliable : zk.Reliable)
    (connected : state.client.connected = true) {path : Bytes}
    (present : (held zk state path).isSome) :
    ∃ node store, held zk state path = some node ∧ zk.contents store = held zk state ∧
      (getNodeData zk path).run state = .ok (node.data.take 512) { state with store } := by
  obtain ⟨session, opened⟩ := exists_session connected
  obtain ⟨data, answer⟩ := reliable.get_answered session path 512 state.store present
  obtain ⟨node, found, same⟩ := lawful.get_ok _ _ _ _ _ answer
  refine ⟨node, (zk.zooGet session path 512 state.store).2, found,
    lawful.get_contents session path 512 state.store, ?_⟩
  rw [getNodeData, EStateM.run_bind, run_checkConnected connected]
  simp only [run_attempt opened, cString_of_terminated (lawful.terminated _ _ present), answer, same]

theorem run_readInstances (lawful : zk.Lawful) (reliable : zk.Reliable)
    (connected : state.client.connected = true) {paths : List Bytes}
    (present : ∀ path ∈ paths, (held zk state path).isSome) :
    ∃ instances store, zk.contents store = held zk state ∧
      (readInstances zk paths).run state = .ok instances { state with store } ∧
      instances.map Prod.fst = paths ∧
      ∀ entry ∈ instances, ∃ node, held zk state entry.1 = some node ∧
        entry.2 = node.data.take 512 := by
  induction paths generalizing state with
  | nil => exact ⟨[], state.store, rfl, rfl, rfl, by simp⟩
  | cons path rest ih =>
    obtain ⟨node, store, found, same, read⟩ :=
      run_getNodeData lawful reliable connected (present path List.mem_cons_self)
    have others : ∀ other ∈ rest, (zk.contents store other).isSome := by
      intro other member
      rw [same]
      exact present other (List.mem_cons_of_mem path member)
    have reader : ({ state with store } : Registry Store).client.connected = true := connected
    obtain ⟨instances, final, unchanged, ran, paths, datas⟩ :=
      ih reader others
    refine ⟨(path, node.data.take 512) :: instances, final, unchanged.trans same, ?_, ?_, ?_⟩
    · have caught : (catchStd (do return [(path, ← getNodeData zk path)]) fun _ => pure []).run
          state = .ok [(path, node.data.take 512)] { state with store } := by
        refine catchStd_ok ?_ _
        rw [EStateM.run_bind, read]
        rfl
      rw [readInstances, EStateM.run_bind, caught]
      dsimp only
      rw [EStateM.run_bind, ran]
      rfl
    · simp [paths]
    · intro entry member
      rcases List.mem_cons.mp member with first | later
      · subst entry
        exact ⟨node, found, rfl⟩
      · obtain ⟨other, there, data⟩ := datas entry later
        exact ⟨other, (congrFun same entry.1).symm.trans there, data⟩

theorem discoverService_cached {service : Bytes} {instances : List (Bytes × Bytes)}
    (cached : state.client.serviceCache.find? service = some instances) :
    (discoverService zk service).run state = .ok instances state := by
  rw [discoverService, EStateM.run_bind, EStateM.run_get]
  simp [cached]

/-- A service that is not cached is listed, and cached. -/
theorem discoverService_listed (lawful : zk.Lawful) (reliable : zk.Reliable)
    (connected : state.client.connected = true) {service : Bytes} (named : service ≠ [])
    (uncached : state.client.serviceCache.find? service = none)
    (present : (held zk state (47 :: service)).isSome) :
    ∃ instances store, zk.contents store = held zk state ∧
      ZooKeeper.Listing (held zk state) service instances ∧
      (discoverService zk service).run state = .ok instances {
        store
        client := { state.client with
          serviceCache := state.client.serviceCache.insert service instances } } := by
  obtain ⟨session, opened⟩ := exists_session connected
  have terminated := cString_of_terminated (lawful.terminated _ _ present)
  obtain ⟨names, answer⟩ :=
    reliable.getChildren_answered session (47 :: service) state.store present
  obtain ⟨-, distinct, children⟩ := lawful.getChildren_ok _ _ _ _ answer
  have unchanged := lawful.getChildren_contents session (47 :: service) state.store
  generalize asked : zk.zooGetChildren session (47 :: service) state.store = reply at *
  obtain ⟨result, after⟩ := reply
  dsimp only at answer unchanged
  subst result
  have there : ∀ path ∈ names.map (instancePath service), (zk.contents after path).isSome := by
    intro path member
    obtain ⟨name, listed, same⟩ := List.mem_map.mp member
    subst path
    rw [unchanged, ← childPath_instancePath named]
    exact ((children name).mp listed).2.2
  have reader : ({ state with store := after } : Registry Store).client.connected = true :=
    connected
  obtain ⟨instances, store, same, ran, paths, datas⟩ :=
    run_readInstances lawful reliable reader there
  refine ⟨instances, store, same.trans unchanged, ?_, ?_⟩
  · refine ZooKeeper.listing_of_children named present distinct children paths ?_
    intro entry member
    obtain ⟨node, found, data⟩ := datas entry member
    exact ⟨node, (congrFun unchanged entry.1).symm.trans found, data⟩
  · rw [discoverService, EStateM.run_bind, EStateM.run_get]
    simp only [uncached]
    rw [EStateM.run_bind, run_attempt opened, terminated, asked]
    dsimp only
    rw [EStateM.run_bind, ran]
    rfl

/-- A service without a node cannot be discovered. -/
theorem discoverService_missing (lawful : zk.Lawful) {session : Nat}
    (opened : state.client.zkHandle = some session)
    {service : Bytes} (uncached : state.client.serviceCache.find? service = none)
    (missing : held zk state (cString (47 :: service)) = none) :
    ∃ ret store, zk.contents store = held zk state ∧
      (zk.zooGetChildren session (cString (47 :: service)) state.store).1 = .error ret ∧
      (discoverService zk service).run state =
        .error (runtimeError (text "Failed to get children: " ++ zk.zerror ret))
          { state with store } := by
  rw [discoverService, EStateM.run_bind, EStateM.run_get]
  simp only [uncached]
  rw [EStateM.run_bind, run_attempt opened]
  cases answer : (zk.zooGetChildren session (cString (47 :: service)) state.store).1 with
  | ok names =>
    have present := (lawful.getChildren_ok _ _ _ _ answer).1
    exact absurd missing (Option.isSome_iff_ne_none.mp present)
  | error ret =>
    exact ⟨ret, _, lawful.getChildren_contents session (cString (47 :: service)) state.store, rfl,
      rfl⟩

end ZookeeperClient

end Xrpc
