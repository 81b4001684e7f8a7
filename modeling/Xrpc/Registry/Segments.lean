import Xrpc.Registry.Reconciliation
import Xrpc.Registry.WatchFrames

/-! The lists of `service_cache_` hold each path once, under its own service, at
whatever point the calls, the heartbeat and the handler of the events stand. -/

namespace Xrpc

open Support ZookeeperClient

/-- A list of instances of `service`. -/
structure ProperList (service : Bytes) (instances : List (Bytes × Bytes)) : Prop where
  distinct : (instances.map Prod.fst).Nodup
  segment : ∀ entry ∈ instances, serviceSegment entry.1 = some service

theorem ProperList.nil (service : Bytes) : ProperList service [] where
  distinct := List.nodup_nil
  segment _ member := nomatch member

theorem ProperList.setInstance {service path : Bytes} {instances : List (Bytes × Bytes)}
    (proper : ProperList service instances) (segment : serviceSegment path = some service)
    (data : Bytes) : ProperList service (setInstance path data instances) where
  distinct := nodup_setInstance proper.distinct
  segment entry member := by
    rcases (mem_setInstance proper.distinct path data entry).mp member with rfl | ⟨-, listed⟩
    · exact segment
    · exact proper.segment entry listed

theorem ProperList.filter {service : Bytes} {instances : List (Bytes × Bytes)}
    (proper : ProperList service instances) (keep : Bytes × Bytes → Bool) :
    ProperList service (instances.filter keep) where
  distinct := proper.distinct.sublist (List.filter_sublist.map Prod.fst)
  segment entry member := proper.segment entry (List.mem_of_mem_filter member)

namespace ServiceCache

def Proper (cache : ServiceCache) : Prop :=
  ∀ service instances, cache.find? service = some instances → ProperList service instances

variable {cache : ServiceCache} {service : Bytes}

theorem proper_empty : Proper ∅ := by
  intro service instances cached
  rw [Table.find?_empty] at cached
  cases cached

theorem Proper.insert (proper : cache.Proper) {instances : List (Bytes × Bytes)}
    (list : ProperList service instances) : Proper (cache.insert service instances) := by
  intro other found cached
  by_cases same : other = service
  · subst other
    rw [Table.find?_insert] at cached
    cases cached
    exact list
  · rw [Table.find?_insert_ne _ same] at cached
    exact proper other found cached

theorem Proper.erase (proper : cache.Proper) (service : Bytes) : Proper (cache.erase service) := by
  intro other found cached
  by_cases same : other = service
  · subst other
    rw [Table.find?_erase] at cached
    cases cached
  · rw [Table.find?_erase_ne _ same] at cached
    exact proper other found cached

theorem Proper.setInstance (proper : cache.Proper) {path : Bytes}
    (segment : serviceSegment path = some service) (data : Bytes) :
    (cache.setInstance service path data).Proper := by
  refine proper.insert (ProperList.setInstance ?_ segment data)
  cases cached : cache.find? service with
  | none => exact ProperList.nil service
  | some instances => exact proper service instances cached

theorem Proper.retain (proper : cache.Proper) (service : Bytes) (keep : Bytes → Bool) :
    (cache.retain service keep).Proper := by
  unfold ServiceCache.retain
  split
  · exact proper
  next instances cached =>
    dsimp only
    split
    · exact proper.erase service
    · exact proper.insert ((proper service instances cached).filter _)

end ServiceCache

/-- What a call under way goes on to cache is a list of its service. -/
def OwnCall.Proper : OwnCall → Prop
  | .listing service => 47 ∉ service
  | .reading service unread found =>
    (found.map Prod.fst ++ unread).Nodup ∧
      ∀ path ∈ found.map Prod.fst ++ unread, serviceSegment path = some service
  | _ => True

/-- ZooKeeper lists no child twice. -/
def DistinctChildren {Store : Type} (zk : ZooKeeper Store) : Prop :=
  ∀ session path store names, (zk.zooGetChildren session path store).1 = .ok names → names.Nodup

section Calls
variable {Store : Type} {zk : ZooKeeper Store}

theorem proper_beginCall {call : DiscoveryCall}
    (flat : ∀ service, call = .discoverService service → 47 ∉ service) :
    Yields (fun next => ∀ later ∈ next, later.Proper) (beginCall zk call) := by
  intro state value after returned later member
  rw [beginCall_begun call _ _ _ returned later member]
  cases call with
  | discoverService service => exact flat service rfl
  | _ => exact trivial

/-- An instance that is read is read at its path. -/
theorem readInstance_returned (path : Bytes) :
    Yields (fun found => found = [] ∨ ∃ data, found = [(path, data)]) (readInstance zk path) := by
  intro state value after returned
  rw [readInstance] at returned
  cases read : (do return [(path, ← getNodeData zk path)] :
      Effect (Registry Store) (List (Bytes × Bytes))).run state with
  | ok found between =>
    rw [catchStd_ok read] at returned
    cases returned
    rw [EStateM.run_bind] at read
    cases fetched : (getNodeData zk path).run state with
    | ok data last =>
      rw [fetched] at read
      cases read
      exact .inr ⟨data, rfl⟩
    | error exit last =>
      rw [fetched] at read
      cases read
  | error exit between =>
    cases exit with
    | exception what =>
      rw [catchStd_exception read] at returned
      cases returned
      exact .inl rfl
    | hang =>
      rw [catchStd_hang read] at returned
      cases returned

theorem proper_advance (distinct : DistinctChildren zk) {call : OwnCall} (proper : call.Proper) :
    Yields (fun next => ∀ later ∈ next, later.Proper) (advance zk call) := by
  cases call with
  | finding path data ephemeral => exact .bind fun _ => .pure (by simp [OwnCall.Proper])
  | writing path data ephemeral stat => exact .bind fun _ => .pure (by simp [OwnCall.Proper])
  | caching path data => exact .bind fun _ => .pure (by simp)
  | fetching path => exact .bind fun _ => .pure (by simp [OwnCall.Proper])
  | deleting path => exact .bind fun _ => .pure (by simp [OwnCall.Proper])
  | forgetting path => exact .bind fun _ => .pure (by simp)
  | listing service =>
    intro state value after returned
    rw [advance, EStateM.run_bind] at returned
    cases listed : (attempt zk (zk.zooGetChildren · (cString (47 :: service)))
        "Failed to get children: ").run state with
    | error exit between =>
      rw [listed] at returned
      cases returned
    | ok children between =>
      obtain ⟨session, -, answer, -⟩ := attempt_returned listed
      rw [listed] at returned
      cases returned
      rintro _ ⟨rfl⟩
      refine ⟨(distinct _ _ _ _ answer).map (instancePath_injective service), ?_⟩
      intro path member
      obtain ⟨name, -, rfl⟩ := List.mem_map.mp member
      exact serviceSegment_instancePath proper name
  | reading service unread found =>
    cases unread with
    | nil => exact .bind fun _ => .pure (by simp)
    | cons path rest =>
      intro state value after returned
      rw [advance, EStateM.run_bind] at returned
      cases read : (readInstance zk path).run state with
      | error exit between =>
        rw [read] at returned
        cases returned
      | ok instances between =>
        rw [read] at returned
        cases returned
        rintro _ ⟨rfl⟩
        obtain ⟨nodup, segment⟩ := proper
        rcases readInstance_returned path _ _ _ read with rfl | ⟨data, rfl⟩
        · -- the path that cannot be read is left out
          have fewer : (found.map Prod.fst ++ rest).Sublist (found.map Prod.fst ++ path :: rest) :=
            (List.sublist_cons_self path rest).append_left _
          rw [OwnCall.Proper, List.append_nil]
          exact ⟨nodup.sublist fewer, fun other member => segment other (fewer.subset member)⟩
        · simpa [OwnCall.Proper] using And.intro nodup segment

end Calls

namespace WatchedClient
variable {Store : Type} {zk : ZooKeeper Store} {watched next : WatchedClient Store}

structure Proper (watched : WatchedClient Store) : Prop where
  cache : watched.registry.client.serviceCache.Proper
  call : ∀ call ∈ watched.shared.call, call.Proper

/-- Services are asked for by names without a slash. -/
def Flat : WatchEvent Store → Prop
  | .client (.begin (.discoverService service)) => 47 ∉ service
  | _ => True

theorem proper_interleave (distinct : DistinctChildren zk) (proper : watched.Proper)
    {event : SharedEvent Store} (flat : Flat (.client event)) {shared : SharedClient Store}
    (taken : interleave zk watched.shared event = some shared) :
    shared.registry.client.serviceCache.Proper ∧ ∀ call ∈ shared.call, call.Proper := by
  constructor
  · rcases client_interleave taken with same | ⟨call, rfl, waiting, same⟩ | ⟨answer, rfl, -, same⟩
    · rw [same]
      exact proper.cache
    · rw [same]
      have list := proper.call call waiting
      rcases client_advance zk call watched.shared.registry with same |
        ⟨path, data, service, rfl, segment, same⟩ | ⟨service, found, rfl, same⟩ |
        ⟨path, service, rfl, segment, same⟩
      · rw [same]
        exact proper.cache
      · rw [same]
        exact proper.cache.setInstance segment data
      · rw [same]
        rw [OwnCall.Proper, List.append_nil] at list
        refine proper.cache.insert ⟨list.1, ?_⟩
        intro entry member
        exact list.2 entry.1 (List.mem_map_of_mem member)
      · rw [same]
        exact proper.cache.retain service _
    · rw [same]
      exact proper.cache.retain answer.1 _
  · refine call_interleave taken ?_ (fun _ _ => proper_advance distinct) proper.call
    rintro call rfl
    refine proper_beginCall ?_
    rintro service rfl
    exact flat

theorem Proper.of_shared (proper : watched.Proper)
    (cache : next.registry.client.serviceCache = watched.registry.client.serviceCache)
    (call : next.shared.call = watched.shared.call) : next.Proper where
  cache := by
    rw [cache]
    exact proper.cache
  call := by
    rw [call]
    exact proper.call

theorem Proper.handle (proper : watched.Proper) (path : Bytes) (stage : HandlerStage) :
    (watched.handle zk path stage).Proper where
  cache := by
    rcases client_handle zk watched path stage with same |
      ⟨callback, data, service, -, segment, same⟩ | ⟨callback, service, -, segment, same⟩ |
      ⟨service, -, segment, same⟩
    · rw [same]
      exact proper.cache
    · rw [same]
      exact proper.cache.setInstance segment data
    · rw [same]
      exact proper.cache.retain service _
    · rw [same]
      exact proper.cache.erase service
  call := by
    rw [shared_handle]
    exact proper.call

theorem Proper.finishWatch (proper : watched.Proper) (path : Bytes) :
    (watched.finishWatch zk path).Proper := by
  have client := client_registerWatcher zk path watched.registry
  unfold WatchedClient.finishWatch
  split
  next sets after ran =>
    rw [ran] at client
    refine proper.of_shared ?_ ?_
    · rw [registry, shared_arm]
      exact congrArg ZookeeperClient.serviceCache client
    · rw [shared_arm]
      rfl
  next exit after ran =>
    rw [ran] at client
    exact proper.of_shared (congrArg ZookeeperClient.serviceCache client) rfl

theorem Proper.session (proper : watched.Proper) (state : SessionState) :
    (watched.registry.client.handleSessionEvent state).serviceCache.Proper := by
  unfold handleSessionEvent
  split
  · exact proper.cache
  · split
    · exact proper.cache
    · exact ServiceCache.proper_empty
    · exact proper.cache
    · exact proper.cache

theorem Proper.step (distinct : DistinctChildren zk) (proper : watched.Proper)
    {event : WatchEvent Store} (flat : Flat event) (taken : watched.step zk event = some next) :
    next.Proper := by
  cases transition_of_step taken with
  | client apart moved =>
    obtain ⟨cache, call⟩ := proper_interleave distinct proper flat moved
    exact ⟨cache, call⟩
  | @watch path callback registry idle stored =>
    have cache := cache_beginWatch path callback watched.registry
    rw [stored] at cache
    exact proper.of_shared cache rfl
  | @refuse path callback exit registry idle thrown =>
    have cache := cache_beginWatch path callback watched.registry
    rw [thrown] at cache
    exact proper.of_shared cache rfl
  | arm watching => exact proper.finishWatch _
  | fire event path => exact proper.of_shared rfl rfl
  | deliver idle queued listening => exact proper.of_shared rfl rfl
  | skip idle queued unheard => exact proper.of_shared rfl rfl
  | handle handling => exact proper.handle _ _
  | session state idle => exact ⟨proper.session state, proper.call⟩

/-- From a client that has nothing cached and no call under way. -/
theorem cache_proper (distinct : DistinctChildren zk) {start : WatchedClient Store}
    {events : List (WatchEvent Store)} (uncached : start.registry.client.serviceCache = ∅)
    (idle : start.shared.call = none) (flat : ∀ event ∈ events, Flat event)
    (reached : run (step zk) start events = some watched) :
    watched.registry.client.serviceCache.Proper := by
  have initial : start.Proper := by
    refine ⟨?_, ?_⟩
    · rw [uncached]
      exact ServiceCache.proper_empty
    · intro call waiting
      rw [idle] at waiting
      cases waiting
  have kept : ∀ before event after, Proper before → Flat event →
      step zk before event = some after → Proper after :=
    fun _ _ _ proper flat taken => proper.step distinct flat taken
  exact (run_preserves kept initial (along_of_forall flat start) reached).cache

instance (event : WatchEvent Store) : Decidable (Flat event) :=
  match event with
  | .client (.begin (.discoverService service)) => inferInstanceAs (Decidable (47 ∉ service))
  | .client (.begin (.register _ _ _)) | .client (.begin (.discover _))
  | .client (.begin (.delete _)) | .client .advance | .client .snapshot | .client .listChildren
  | .client .reconcile | .client (.change _) | .watch _ _ | .arm | .fire _ _ | .deliver | .handle
  | .session _ => inferInstanceAs (Decidable True)

/-- The client of `sharedClient`, without a watch. -/
def unwatched : WatchedClient ZooTree := { shared := sharedClient }

/-- An instance is found by the service, and read again by the handler of its event. -/
def watchedDiscovery : List (WatchEvent ZooTree) :=
  [.watch (userServicePath "10.0.0.1:80") 4, .arm,
    .client (.begin (.discoverService (text "UserService"))), .client .advance, .client .advance,
    .client (.change
      (otherServer.zooSet (userServicePath "10.0.0.1:80") (text "methods=Logout") 0).2),
    .deliver, .handle, .handle, .handle, .client .advance]

/-- The handler and the call have both cached the instance. -/
theorem discovered_instance_proper : ∃ watched,
    run (step zooTree) unwatched watchedDiscovery = some watched ∧
    watched.registry.client.serviceCache.Proper := by
  have ran : (run (step zooTree) unwatched watchedDiscovery).isSome := by decide +kernel
  obtain ⟨watched, reached⟩ := Option.isSome_iff_exists.mp ran
  have distinct : DistinctChildren zooTree := by
    intro session path store names answered
    exact (ZooTree.lawful.getChildren_ok session path store names answered).2.1
  exact ⟨watched, reached, cache_proper distinct rfl rfl (by decide +kernel) reached⟩

end WatchedClient

end Xrpc
