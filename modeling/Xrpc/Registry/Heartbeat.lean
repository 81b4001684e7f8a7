import Xrpc.Registry.Cache

/-! What a heartbeat round does for instances that other clients registered. -/

namespace Xrpc

open Support ZookeeperClient

namespace ZooKeeper

/-- An instance that is registered. -/
def Live (contents : Contents) (service path : Bytes) : Prop :=
  InstanceOf service path ∧ (contents path).isSome

instance (contents : Contents) (service path : Bytes) : Decidable (Live contents service path) :=
  inferInstanceAs (Decidable (_ ∧ _))

/-- ZooKeeper lists this instance when it is asked for the children of the service. -/
def ListedAt (contents : Contents) (service path : Bytes) : Prop :=
  InstanceOf service path ∧
    (contents (childPath (cString (47 :: service)) (path.drop (service.length + 2)))).isSome

instance (contents : Contents) (service path : Bytes) :
    Decidable (ListedAt contents service path) := inferInstanceAs (Decidable (_ ∧ _))

theorem drop_instancePath (service name : Bytes) :
    (instancePath service name).drop (service.length + 2) = name := by
  simp [instancePath]

/-- These are the live instances, but for odd names of services. -/
theorem listedAt_iff_live {contents : Contents} {service : Bytes} (named : service ≠ [])
    (terminated : 0 ∉ service) (path : Bytes) :
    ListedAt contents service path ↔ Live contents service path := by
  apply and_congr_right
  rintro ⟨name, -, -, same⟩
  subst path
  rw [cString_servicePath terminated, drop_instancePath, childPath_instancePath named]

theorem mem_paths_iff_listed {contents : Contents} {service : Bytes} {names : List Bytes}
    (children : ∀ name, name ∈ names ↔
      name ≠ [] ∧ 47 ∉ name ∧ (contents (childPath (cString (47 :: service)) name)).isSome)
    (path : Bytes) : path ∈ names.map (instancePath service) ↔ ListedAt contents service path := by
  rw [List.mem_map]
  constructor
  · intro ⟨name, listed, same⟩
    obtain ⟨proper, flat, there⟩ := (children name).mp listed
    refine ⟨⟨name, proper, flat, same.symm⟩, ?_⟩
    rwa [← same, drop_instancePath]
  · intro ⟨⟨name, proper, flat, same⟩, there⟩
    rw [same, drop_instancePath] at there
    exact ⟨name, (children name).mpr ⟨proper, flat, there⟩, same.symm⟩

end ZooKeeper

namespace ZookeeperClient
variable {Store : Type} {zk : ZooKeeper Store} {state : Registry Store} {service : Bytes}

/-- A service with a live instance has a node and a name that ZooKeeper can read. -/
theorem live_service (lawful : zk.Lawful) {path : Bytes}
    (live : ZooKeeper.Live (held zk state) service path) :
    service ≠ [] ∧ 0 ∉ service ∧ (held zk state (47 :: service)).isSome := by
  obtain ⟨isInstance, present⟩ := live
  refine ⟨?_, ?_, isInstance.service_present lawful present⟩
  · intro empty
    obtain ⟨name, -, -, same⟩ := isInstance
    subst service path
    exact lawful.named _ _ present ⟨[], name, rfl⟩
  · intro zero
    obtain ⟨name, -, -, same⟩ := isInstance
    subst path
    refine lawful.terminated _ _ present ?_
    simp [instancePath, zero]

/-- What `reconcile` leaves of a list: the instances listed, unless there are
none. Without an answer it leaves the list alone. -/
def reconciled (contents : ZooKeeper.Contents) (service : Bytes)
    (instances : List (Bytes × Bytes)) : Option (List (Bytes × Bytes)) :=
  if (contents (cString (47 :: service))).isSome then
    let kept := instances.filter fun entry => ZooKeeper.ListedAt contents service entry.1
    if kept = [] then none else some kept
  else some instances

/-- In the list of a service with a live instance, the live instances are left. -/
def pruned (contents : ZooKeeper.Contents) (service : Bytes)
    (instances : List (Bytes × Bytes)) : Option (List (Bytes × Bytes)) :=
  let kept := instances.filter fun entry => ZooKeeper.Live contents service entry.1
  if kept = [] then none else some kept

theorem reconciled_eq_pruned (lawful : zk.Lawful) {path : Bytes}
    (live : ZooKeeper.Live (held zk state) service path) :
    reconciled (held zk state) service = pruned (held zk state) service := by
  obtain ⟨named, terminated, present⟩ := live_service lawful live
  funext instances
  rw [reconciled, cString_servicePath terminated, if_pos present, pruned]
  simp only [ZooKeeper.listedAt_iff_live named terminated]

/-- One service of a round: its list is reconciled, and no other list changes. -/
theorem run_reconcile (lawful : zk.Lawful) (reliable : zk.Reliable)
    (connected : state.client.connected = true) (service : Bytes) :
    ∃ store cache, zk.contents store = held zk state ∧
      (reconcile zk service).run state =
        .ok () { store, client := { state.client with serviceCache := cache } } ∧
      (∀ other, other ≠ service →
        cache.find? other = state.client.serviceCache.find? other) ∧
      cache.find? service =
        (state.client.serviceCache.find? service).bind (reconciled (held zk state) service) := by
  obtain ⟨session, opened⟩ := exists_session connected
  have unchanged := lawful.getChildren_contents session (cString (47 :: service)) state.store
  rw [reconcile, EStateM.run_bind, run_request opened]
  cases answer : (zk.zooGetChildren session (cString (47 :: service)) state.store).1 with
  | error ret =>
    have absent : ¬ (held zk state (cString (47 :: service))).isSome := by
      intro present
      obtain ⟨names, listed⟩ := reliable.getChildren_answered session _ _ present
      exact nomatch answer.symm.trans listed
    refine ⟨_, state.client.serviceCache, unchanged, rfl, fun _ _ => rfl, ?_⟩
    cases state.client.serviceCache.find? service with
    | none => rfl
    | some instances => rw [Option.bind_some, reconciled, if_neg absent]
  | ok names =>
    obtain ⟨present, -, children⟩ := lawful.getChildren_ok _ _ _ _ answer
    refine ⟨_, _, unchanged, rfl, fun other different => ServiceCache.find?_retain_ne different _, ?_⟩
    have kept : (fun path => decide (path ∈ names.map (instancePath service))) =
        fun path => decide (ZooKeeper.ListedAt (held zk state) service path) :=
      funext fun path => decide_eq_decide.mpr (ZooKeeper.mem_paths_iff_listed children path)
    rw [kept, ServiceCache.find?_retain]
    refine congrArg (Option.bind _) (funext fun instances => ?_)
    rw [reconciled, if_pos present]

/-- A round over distinct services reconciles the list of each. -/
theorem run_reconciles (lawful : zk.Lawful) (reliable : zk.Reliable)
    (connected : state.client.connected = true) {services : List Bytes} (distinct : services.Nodup) :
    ∃ store cache, zk.contents store = held zk state ∧
      (services.forM (reconcile zk)).run state =
        .ok () { store, client := { state.client with serviceCache := cache } } ∧
      ∀ service, cache.find? service =
        if service ∈ services then
          (state.client.serviceCache.find? service).bind (reconciled (held zk state) service)
        else state.client.serviceCache.find? service := by
  induction services generalizing state with
  | nil => exact ⟨state.store, state.client.serviceCache, rfl, rfl, fun _ => rfl⟩
  | cons first rest ih =>
    rw [List.nodup_cons] at distinct
    obtain ⟨store, cache, same, ran, others, own⟩ := run_reconcile lawful reliable connected first
    have stillConnected : ({ store, client := { state.client with serviceCache := cache } } :
        Registry Store).client.connected = true := connected
    obtain ⟨final, last, sameLater, ranLater, lists⟩ := ih stillConnected distinct.2
    refine ⟨final, last, sameLater.trans same, ?_, ?_⟩
    · change (reconcile zk first >>= fun _ => rest.forM (reconcile zk)).run state = _
      rw [EStateM.run_bind, ran]
      exact ranLater
    · intro service
      rw [lists service]
      by_cases here : service = first
      · subst first
        rw [if_neg distinct.1, if_pos List.mem_cons_self]
        exact own
      · simp only [List.mem_cons, here, false_or, others service here, held, same]

/-- A heartbeat round reconciles every list. -/
theorem run_heartbeatRound (lawful : zk.Lawful) (reliable : zk.Reliable)
    (connected : state.client.connected = true) :
    ∃ store cache, zk.contents store = held zk state ∧
      (heartbeatRound zk).run state =
        .ok () { store, client := { state.client with serviceCache := cache } } ∧
      ∀ service, cache.find? service =
        (state.client.serviceCache.find? service).bind (reconciled (held zk state) service) := by
  obtain ⟨store, cache, same, ran, lists⟩ :=
    run_reconciles lawful reliable connected state.client.serviceCache.nodup_keys
  refine ⟨store, cache, same, ?_, ?_⟩
  · rw [heartbeatRound, EStateM.run_bind, EStateM.run_get]
    exact ran
  · intro service
    rw [lists service]
    split
    next => rfl
    next absent => rw [Table.find?_eq_none_iff.mpr absent, Option.bind_none]

/-- A service that is not cached is listed with all its live instances. -/
theorem live_listed (lawful : zk.Lawful) (reliable : zk.Reliable)
    (connected : state.client.connected = true)
    (uncached : state.client.serviceCache.find? service = none) {path : Bytes}
    (live : ZooKeeper.Live (held zk state) service path) :
    ∃ instances after, (discoverService zk service).run state = .ok instances after ∧
      path ∈ instances.map Prod.fst := by
  obtain ⟨named, -, present⟩ := live_service lawful live
  obtain ⟨instances, store, -, listing, ran⟩ :=
    discoverService_listed lawful reliable connected named uncached present
  refine ⟨instances, _, ran, ?_⟩
  obtain ⟨here, there⟩ := live
  obtain ⟨node, found⟩ := Option.isSome_iff_exists.mp there
  have member := (listing.complete (path, node.data.take 512)).mpr ⟨here, node, found, rfl⟩
  exact List.mem_map_of_mem member

theorem mem_kept_iff {contents : ZooKeeper.Contents} {instances : List (Bytes × Bytes)}
    {path : Bytes} (live : ZooKeeper.Live contents service path) :
    path ∈ (instances.filter fun entry => ZooKeeper.Live contents service entry.1).map Prod.fst ↔
      path ∈ instances.map Prod.fst := by
  simp only [List.mem_map, List.mem_filter]
  constructor
  · intro ⟨found, ⟨here, _⟩, same⟩
    exact ⟨found, here, same⟩
  · intro ⟨found, here, same⟩
    exact ⟨found, ⟨here, decide_eq_true (same ▸ live)⟩, same⟩

/-- `DiscoverService` after a heartbeat round returns every live instance. -/
def VisibleAfterRound (zk : ZooKeeper Store) (state : Registry Store) (service : Bytes) : Prop :=
  ∀ path, ZooKeeper.Live (held zk state) service path → ∃ instances after,
    (discoverService zk service).run (stateAfter ((heartbeatRound zk).run state)) =
      .ok instances after ∧ path ∈ instances.map Prod.fst

section Round
variable {store : Store} {cache : ServiceCache}

/-- If the round has dropped the list, the service is listed again. -/
theorem visible_of_dropped (lawful : zk.Lawful) (reliable : zk.Reliable)
    (connected : state.client.connected = true) (same : zk.contents store = held zk state)
    (ran : (heartbeatRound zk).run state =
      .ok () { store, client := { state.client with serviceCache := cache } })
    (dropped : cache.find? service = none) : VisibleAfterRound zk state service := by
  intro path live
  have stillConnected : ({ store, client := { state.client with serviceCache := cache } } :
      Registry Store).client.connected = true := connected
  have liveLater : ZooKeeper.Live (zk.contents store) service path := by rwa [same]
  rw [ran, stateAfter_ok]
  exact live_listed lawful reliable stillConnected dropped liveLater

/-- If the round has left live instances in the list, they are all that is returned. -/
theorem visible_iff_of_kept {instances : List (Bytes × Bytes)}
    (ran : (heartbeatRound zk).run state =
      .ok () { store, client := { state.client with serviceCache := cache } })
    (kept : cache.find? service = some (instances.filter fun entry =>
      ZooKeeper.Live (held zk state) service entry.1)) :
    VisibleAfterRound zk state service ↔
      ∀ path, ZooKeeper.Live (held zk state) service path → path ∈ instances.map Prod.fst := by
  constructor
  · intro visible path live
    obtain ⟨result, after, found, shown⟩ := visible path live
    rw [ran, stateAfter_ok, discoverService_cached kept] at found
    cases found
    exact (mem_kept_iff live).mp shown
  · intro all path live
    rw [ran, stateAfter_ok]
    exact ⟨_, _, discoverService_cached kept, (mem_kept_iff live).mpr (all path live)⟩

end Round

/-- A round only removes instances from a list, so all are visible after it if and
only if the list has none or all of them. -/
theorem visible_iff_of_connected (lawful : zk.Lawful) (reliable : zk.Reliable)
    (connected : state.client.connected = true) (service : Bytes) :
    VisibleAfterRound zk state service ↔
      ∀ instances, state.client.serviceCache.find? service = some instances →
        (∀ entry ∈ instances, ¬ ZooKeeper.Live (held zk state) service entry.1) ∨
        ∀ path, ZooKeeper.Live (held zk state) service path → path ∈ instances.map Prod.fst := by
  by_cases any : ∃ path, ZooKeeper.Live (held zk state) service path
  case neg =>
    constructor
    · intro _ instances _
      exact .inr fun path live => absurd ⟨path, live⟩ any
    · intro _ path live
      exact absurd ⟨path, live⟩ any
  obtain ⟨first, firstLive⟩ := any
  obtain ⟨store, cache, same, ran, lists⟩ := run_heartbeatRound lawful reliable connected
  have reconciled := lists service
  rw [reconciled_eq_pruned lawful firstLive] at reconciled
  cases cached : state.client.serviceCache.find? service with
  | none =>
    rw [cached] at reconciled
    have visible := visible_of_dropped lawful reliable connected same ran reconciled
    exact iff_of_true visible fun instances found => nomatch found
  | some instances =>
    simp only [cached, Option.bind_some, pruned] at reconciled
    split at reconciled
    next emptied =>
      have visible := visible_of_dropped lawful reliable connected same ran reconciled
      refine iff_of_true visible ?_
      intro found here
      cases here
      refine .inl fun entry member live => ?_
      exact absurd (decide_eq_true live) (List.filter_eq_nil_iff.mp emptied entry member)
    next kept =>
      obtain ⟨entry, member⟩ := List.exists_mem_of_ne_nil _ kept
      obtain ⟨listed, entryLive⟩ := List.mem_filter.mp member
      rw [visible_iff_of_kept ran reconciled]
      constructor
      · intro all found here
        cases here
        exact .inr all
      · intro condition
        rcases condition instances rfl with none | all
        · exact absurd (of_decide_eq_true entryLive) (none entry listed)
        · exact all

/-- What happens between `Start` and `Stop`. The handler of an event of a watched
node may leave any cache, and other clients any store. -/
inductive RegistryEvent (Store : Type) where
  | call (call : DiscoveryCall)
  | heartbeatRound
  | sessionEvent (state : SessionState)
  | nodeEvent (cache : ServiceCache)
  | change (store : Store)

def react (zk : ZooKeeper Store) (state : Registry Store) :
    RegistryEvent Store → Option (Registry Store)
  | .call call => step zk state call
  | .heartbeatRound => some (stateAfter ((heartbeatRound zk).run state))
  | .sessionEvent session => some { state with client := state.client.handleSessionEvent session }
  | .nodeEvent cache => some { state with client.serviceCache := cache }
  | .change store => some { state with store }

/-- The handle stays open. -/
theorem handle_react {event : RegistryEvent Store} {next : Registry Store}
    (taken : react zk state event = some next) : next.client.zkHandle = state.client.zkHandle := by
  cases event with
  | call call =>
    cases call with
    | register path data ephemeral =>
      cases taken
      exact handle_register path data ephemeral state
    | discover path =>
      cases taken
      exact keeps_discover unseen_handle path state
    | discoverService service =>
      cases taken
      exact keeps_discoverService unseen_handle service state
    | delete path =>
      cases taken
      exact keeps_delete unseen_handle ((client_request _).observe (·.zkHandle)) state
  | heartbeatRound =>
    cases taken
    exact keeps_heartbeatRound unseen_handle state
  | sessionEvent session =>
    cases taken
    unfold handleSessionEvent
    split
    · rfl
    · cases session
      · rfl
      · rfl
      · rfl
      · rfl
  | nodeEvent cache =>
    cases taken
    rfl
  | change store =>
    cases taken
    rfl

/-- In every state that a started client reaches, a heartbeat round makes the live
instances of a service visible if and only if its list has none or all of them. -/
theorem visible_after_round_iff (lawful : zk.Lawful) (reliable : zk.Reliable) {store : Store}
    {client : ZookeeperClient} (started : client.zkHandle.isSome)
    {events : List (RegistryEvent Store)}
    (reached : run (react zk) { store, client } events = some state)
    (connected : state.client.isConnected = true) (service : Bytes) :
    VisibleAfterRound zk state service ↔
      ∀ instances, state.client.serviceCache.find? service = some instances →
        (∀ entry ∈ instances, ¬ ZooKeeper.Live (held zk state) service entry.1) ∨
        ∀ path, ZooKeeper.Live (held zk state) service path → path ∈ instances.map Prod.fst := by
  have kept : ∀ (before : Registry Store) event next, before.client.zkHandle.isSome →
      react zk before event = some next → next.client.zkHandle.isSome := by
    intro before event next opened taken
    rw [handle_react taken]
    exact opened
  have start : ({ store, client } : Registry Store).client.zkHandle.isSome := started
  have opened := run_invariant kept start reached
  refine visible_iff_of_connected lawful reliable ?_ service
  rw [ZookeeperClient.connected, connected, opened]
  rfl

end ZookeeperClient

section UserService

/-- The other server is gone, and a third one has registered. -/
def replacedServer : ZooTree :=
  ((otherServer.endSession 7).zooCreate 8 (userServicePath "10.0.0.3:80") (text "methods=Login")
    true).2

theorem replaced_server_visible : ∃ state,
    run (react zooTree) { store := otherServer, client := ownClient }
      [.call (.discoverService (text "UserService")), .change replacedServer] = some state ∧
    VisibleAfterRound zooTree state (text "UserService") := by
  have ran : (run (react zooTree) { store := otherServer, client := ownClient }
      [.call (.discoverService (text "UserService")), .change replacedServer]).any fun state =>
        state.client.isConnected ∧ (state.client.serviceCache.find? (text "UserService")).all
          fun instances => ∀ entry ∈ instances,
            ¬ ZooKeeper.Live (held zooTree state) (text "UserService") entry.1 := by decide +kernel
  obtain ⟨state, reached, outcome⟩ := (Option.any_eq_true _ _).mp ran
  obtain ⟨connected, dead⟩ := of_decide_eq_true outcome
  refine ⟨state, reached, (visible_after_round_iff ZooTree.lawful ZooTree.reliable rfl reached
    connected _).mpr ?_⟩
  intro instances cached
  rw [cached] at dead
  exact .inl (of_decide_eq_true dead)

/-- A third server has registered beside the other. -/
def grownService : ZooTree :=
  (otherServer.zooCreate 8 (userServicePath "10.0.0.3:80") (text "methods=Login") true).2

theorem new_server_invisible : ∃ state,
    run (react zooTree) { store := otherServer, client := ownClient }
      [.call (.discoverService (text "UserService")), .change grownService] = some state ∧
    state.client.isConnected = true ∧ state.client.running = true ∧
    ¬ VisibleAfterRound zooTree state (text "UserService") := by
  have ran : (run (react zooTree) { store := otherServer, client := ownClient }
      [.call (.discoverService (text "UserService")), .change grownService]).any fun state =>
        state.client.isConnected ∧ state.client.running ∧
        ZooKeeper.Live (held zooTree state) (text "UserService") (userServicePath "10.0.0.3:80") ∧
        instancesOf? ((discoverService zooTree (text "UserService")).run
          (stateAfter ((heartbeatRound zooTree).run state))) =
            some [(userServicePath "10.0.0.1:80", text "methods=Login")] := by decide +kernel
  obtain ⟨state, reached, outcome⟩ := (Option.any_eq_true _ _).mp ran
  obtain ⟨connected, running, live, returned⟩ := of_decide_eq_true outcome
  refine ⟨state, reached, connected, running, ?_⟩
  intro visible
  obtain ⟨instances, after, found, member⟩ := visible _ live
  rw [found, instancesOf?, Option.some.injEq] at returned
  subst instances
  exact absurd member (by decide +kernel)

end UserService

end Xrpc
