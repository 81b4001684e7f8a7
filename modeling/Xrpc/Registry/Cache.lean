import Xrpc.Registry.Discovery
import Xrpc.Registry.Outcomes
import Xrpc.Registry.Tree
import Xrpc.Support.Run

/-! When the cache of a client gives the same instances as the store. -/

namespace Xrpc

open Support ZookeeperClient

namespace ZooKeeper

/-- No other instance of `service` than the one at `path`. -/
def Sole (contents : Contents) (service path : Bytes) : Prop :=
  ∀ entry ∈ instancesOf contents service, entry.1 = path

theorem not_instanceOf_parent {service other : Bytes} (flat : 47 ∉ service) :
    ¬ InstanceOf other (47 :: service) := by
  intro ⟨name, _, _, same⟩
  have split : service = other ++ 47 :: name := by simpa [instancePath] using same
  exact flat (by simp [split])

theorem eq_of_instanceOf {service other name : Bytes} (flat : 47 ∉ service)
    (otherFlat : 47 ∉ other) (isInstance : InstanceOf other (instancePath service name)) :
    other = service := by
  obtain ⟨otherName, -, -, same⟩ := isInstance
  have segments := congrArg serviceSegment same
  rw [serviceSegment_instancePath flat, serviceSegment_instancePath otherFlat] at segments
  exact (Option.some.inj segments).symm

end ZooKeeper

namespace ZookeeperClient
variable {Store : Type} {zk : ZooKeeper Store} {state : Registry Store}

/-- Every list cached for a service is a listing of its instances. -/
structure Synced (zk : ZooKeeper Store) (state : Registry Store) : Prop where
  connected : state.client.connected = true
  listed : ∀ service instances, ProperName service →
    state.client.serviceCache.find? service = some instances →
      ZooKeeper.Listing (held zk state) service instances

section Steps
variable {service name data : Bytes}

/-- An instance that is set in the cache as it is in the store keeps the lists
complete, when its service is cached or has no other instance. -/
theorem Synced.setInstance (lawful : zk.Lawful) {after : Registry Store} (synced : Synced zk state)
    (proper : ProperName service) (properName : ProperName name)
    (covered : state.client.serviceCache.find? service = none →
      ZooKeeper.Sole (held zk state) service (instancePath service name))
    (cached : after.client = { state.client with
      serviceCache := state.client.serviceCache.setInstance service (instancePath service name) data })
    (found : ∃ node, held zk after (instancePath service name) = some node ∧
      data = node.data.take 512)
    (others : ∀ other, other ≠ instancePath service name → other ≠ 47 :: service →
      held zk after other = held zk state other)
    (persists : ZooKeeper.Persists (held zk state) (held zk after)) : Synced zk after := by
  refine ⟨by rw [cached]; exact synced.connected, ?_⟩
  intro other instances properOther hit
  rw [cached] at hit
  have unchanged : ∀ path, ZooKeeper.InstanceOf other path → path ≠ instancePath service name →
      held zk after path = held zk state path := by
    intro path isInstance different
    refine others path different ?_
    intro parent
    subst path
    exact ZooKeeper.not_instanceOf_parent proper.flat isInstance
  by_cases same : other = service
  · subst other
    rw [ServiceCache.find?_setInstance, Option.some.injEq] at hit
    subst instances
    have here : ZooKeeper.InstanceOf service (instancePath service name) :=
      ⟨name, properName.named, properName.flat, rfl⟩
    have present : (held zk after (47 :: service)).isSome := by
      obtain ⟨node, there, -⟩ := found
      exact here.service_present lawful (Option.isSome_iff_exists.mpr ⟨node, there⟩)
    cases before : state.client.serviceCache.find? service with
    | none =>
      refine ZooKeeper.listing_setInstance List.nodup_nil ?_ here present unchanged found
      intro entry different
      exact ⟨fun member => absurd member List.not_mem_nil,
        fun member => absurd (covered before entry member) different⟩
    | some old =>
      have listing := synced.listed service old proper before
      exact ZooKeeper.listing_setInstance listing.distinct
        (fun entry _ => listing.complete entry) here present unchanged found
  · rw [ServiceCache.find?_setInstance_ne same] at hit
    have listing := synced.listed other instances properOther hit
    refine listing.congr (persists.isSome listing.present) ?_
    intro path isInstance
    refine unchanged path isInstance ?_
    intro clash
    subst path
    exact same (ZooKeeper.eq_of_instanceOf proper.flat properOther.flat isInstance)

/-- Nothing that concerns the lists has changed. -/
theorem Synced.unchanged {after : Registry Store} (synced : Synced zk state)
    (client : after.client = state.client)
    (same : ∀ service path, ProperName service → ZooKeeper.InstanceOf service path →
      held zk after path = held zk state path)
    (persists : ZooKeeper.Persists (held zk state) (held zk after)) : Synced zk after := by
  refine ⟨by rw [client]; exact synced.connected, ?_⟩
  intro service instances proper cached
  rw [client] at cached
  have listing := synced.listed service instances proper cached
  exact listing.congr (persists.isSome listing.present) fun path => same service path proper

theorem Synced.of_held_eq {after : Registry Store} (synced : Synced zk state)
    (client : after.client = state.client) (same : held zk after = held zk state) :
    Synced zk after := by
  refine synced.unchanged client (fun _ path _ _ => congrFun same path) ?_
  rw [same]
  exact ZooKeeper.Persists.refl _

theorem Synced.register (lawful : zk.Lawful) (reliable : zk.Reliable) (synced : Synced zk state)
    (proper : ProperName service) (properName : ProperName name) (short : data.length ≤ 512)
    (covered : state.client.serviceCache.find? service = none →
      ZooKeeper.Sole (held zk state) service (instancePath service name)) (ephemeral : Bool) :
    Synced zk (stateAfter
      ((register zk (instancePath service name) data ephemeral).run state)) := by
  have segment := serviceSegment_instancePath proper.flat name
  have terminated := proper.cString_instancePath properName
  have parent : cString (parentOf (instancePath service name)) = 47 :: service := by
    rw [parentOf_instancePath properName.flat]
    exact cString_servicePath proper.terminated
  have persists := persists_register lawful (instancePath service name) data ephemeral state
  cases ran : (ZookeeperClient.register zk (instancePath service name) data ephemeral).run state with
  | ok done after =>
    rw [ran, stateAfter_ok] at persists
    obtain ⟨found, foundSegment, client, ⟨node, sameData, there⟩, others⟩ :=
      register_returned lawful ran
    rw [segment, Option.some.injEq] at foundSegment
    subst found
    rw [terminated] at there others
    rw [parent] at others
    refine synced.setInstance lawful proper properName covered client ⟨node, there, ?_⟩ others
      persists
    rw [sameData, List.take_of_length_le short]
  | error exit after =>
    rw [ran, stateAfter_error] at persists
    obtain ⟨client, others⟩ := register_refused lawful reliable segment ran
    rw [parent] at others
    refine synced.unchanged client ?_ persists
    intro other path _ isInstance
    refine others path ?_
    intro clash
    subst path
    exact ZooKeeper.not_instanceOf_parent proper.flat isInstance

theorem Synced.discover (lawful : zk.Lawful) (synced : Synced zk state)
    (proper : ProperName service) (properName : ProperName name)
    (covered : state.client.serviceCache.find? service = none →
      ZooKeeper.Sole (held zk state) service (instancePath service name)) :
    Synced zk (stateAfter ((discover zk (instancePath service name)).run state)) := by
  have terminated := proper.cString_instancePath properName
  have kept := keeps_discover (unseen_held lawful) (instancePath service name) state
  rcases discover_cases lawful (serviceSegment_instancePath proper.flat name) state with
    client | ⟨node, found, client⟩
  · exact synced.of_held_eq client kept
  · rw [terminated] at found
    exact synced.setInstance lawful proper properName covered client
      ⟨node, (congrFun kept _).trans found, rfl⟩ (fun other _ _ => congrFun kept other)
      (persists_of_keeps (keeps_discover (unseen_held lawful) _) state)

theorem Synced.discover_absent (lawful : zk.Lawful) (synced : Synced zk state) {path : Bytes}
    (absent : held zk state (cString path) = none) :
    Synced zk (stateAfter ((ZookeeperClient.discover zk path).run state)) := by
  have kept := keeps_discover (unseen_held lawful) path state
  cases segment : serviceSegment path with
  | none =>
    have ran : (ZookeeperClient.discover zk path).run state = .error _ state :=
      bind_error (by simp [serviceOf, segment]; rfl) _
    rw [ran]
    exact synced
  | some service =>
    rcases discover_cases lawful segment state with client | ⟨node, found, -⟩
    · exact synced.of_held_eq client kept
    · cases absent.symm.trans found

theorem Synced.discoverService (lawful : zk.Lawful) (reliable : zk.Reliable)
    (synced : Synced zk state) (proper : ProperName service) :
    Synced zk (stateAfter ((discoverService zk service).run state)) := by
  cases cached : state.client.serviceCache.find? service with
  | some instances =>
    rw [discoverService_cached cached]
    exact synced
  | none =>
    cases present : (held zk state (47 :: service)).isSome with
    | true =>
      obtain ⟨instances, store, same, listing, ran⟩ :=
        discoverService_listed lawful reliable synced.connected proper.named cached present
      rw [ran, stateAfter_ok]
      refine ⟨synced.connected, ?_⟩
      intro other found properOther hit
      rw [held, same]
      by_cases here : other = service
      · subst other
        rw [Table.find?_insert, Option.some.injEq] at hit
        exact hit ▸ listing
      · rw [Table.find?_insert_ne _ here] at hit
        exact synced.listed other found properOther hit
    | false =>
      have missing : held zk state (cString (47 :: service)) = none := by
        rw [cString_servicePath proper.terminated]
        exact Option.not_isSome_iff_eq_none.mp (by simp [present])
      obtain ⟨session, opened⟩ := exists_session synced.connected
      obtain ⟨ret, store, same, -, ran⟩ := discoverService_missing lawful opened cached missing
      rw [ran, stateAfter_error]
      exact synced.of_held_eq rfl same

/-- The list of a service loses the instance that its store loses. -/
theorem listing_filter (lawful : zk.Lawful) {after : Registry Store} {path : Bytes}
    {instances : List (Bytes × Bytes)}
    (listing : ZooKeeper.Listing (held zk state) service instances)
    (deleted : held zk after = Function.update (held zk state) path none)
    (left : (instances.filter fun entry => decide (entry.1 ≠ path)) ≠ []) :
    ZooKeeper.Listing (held zk after) service
      (instances.filter fun entry => decide (entry.1 ≠ path)) := by
  have complete : ∀ entry, entry ∈ instances.filter (fun entry => decide (entry.1 ≠ path)) ↔
      entry ∈ ZooKeeper.instancesOf (held zk after) service := by
    intro entry
    rw [List.mem_filter, listing.complete, decide_eq_true_eq]
    constructor
    · intro ⟨⟨here, node, found, data⟩, different⟩
      refine ⟨here, node, ?_, data⟩
      rw [deleted, Function.update_of_ne different]
      exact found
    · intro ⟨here, node, found, data⟩
      have different : entry.1 ≠ path := by
        intro clash
        rw [deleted, clash, Function.update_self] at found
        cases found
      rw [deleted, Function.update_of_ne different] at found
      exact ⟨⟨here, node, found, data⟩, different⟩
  refine ⟨?_, listing.distinct.sublist (List.filter_sublist.map _), complete⟩
  obtain ⟨entry, member⟩ := List.exists_mem_of_ne_nil _ left
  obtain ⟨here, node, found, -⟩ := (complete entry).mp member
  exact here.service_present lawful (Option.isSome_iff_exists.mpr ⟨node, found⟩)

theorem Synced.delete (lawful : zk.Lawful) (reliable : zk.Reliable)
    (synced : Synced zk state) {path : Bytes} (terminated : 0 ∉ path) :
    Synced zk (stateAfter ((delete zk path).run state)) := by
  rcases delete_cases lawful reliable path state with
    ⟨client, same⟩ | ⟨segment, isSegment, deleted, client⟩
  · exact synced.of_held_eq client same
  · rw [cString_of_terminated terminated] at deleted
    refine ⟨by rw [client]; exact synced.connected, ?_⟩
    intro other instances properOther hit
    rw [client] at hit
    by_cases here : other = segment
    · subst other
      rw [ServiceCache.find?_retain, Option.bind_eq_some_iff] at hit
      obtain ⟨old, cached, hit⟩ := hit
      dsimp only at hit
      split at hit
      · cases hit
      next left =>
        rw [Option.some.injEq] at hit
        subst instances
        exact listing_filter lawful (synced.listed segment old properOther cached) deleted left
    · rw [ServiceCache.find?_retain_ne here] at hit
      have elsewhere : ∀ kept, serviceSegment kept = some other →
          held zk (stateAfter ((ZookeeperClient.delete zk path).run state)) kept =
            held zk state kept := by
        intro kept keptSegment
        rw [deleted]
        refine Function.update_of_ne ?_ _ _
        intro clash
        rw [clash, isSegment, Option.some.injEq] at keptSegment
        exact here keptSegment.symm
      have listing := synced.listed other instances properOther hit
      refine listing.congr ?_ ?_
      · rw [elsewhere _ (serviceSegment_service properOther.flat)]
        exact listing.present
      · rintro kept ⟨name, -, -, same⟩
        refine elsewhere kept ?_
        rw [same]
        exact serviceSegment_instancePath properOther.flat name

end Steps

/-- Two outcomes of `DiscoverService`: the same set of instances, or the same exception. -/
def SameOutcome {σ : Type} :
    EStateM.Result Exit σ (List (Bytes × Bytes)) → EStateM.Result Exit σ (List (Bytes × Bytes)) → Prop
  | .ok found _, .ok read _ => ∀ entry, entry ∈ found ↔ entry ∈ read
  | .error exit _, .error other _ => exit = other
  | _, _ => False

def instancesOf? {σ : Type} :
    EStateM.Result Exit σ (List (Bytes × Bytes)) → Option (List (Bytes × Bytes))
  | .ok instances _ => some instances
  | .error _ _ => none

theorem SameOutcome.mem_iff {σ : Type}
    {one other : EStateM.Result Exit σ (List (Bytes × Bytes))} {found read : List (Bytes × Bytes)}
    (same : SameOutcome one other) (foundBy : instancesOf? one = some found)
    (readBy : instancesOf? other = some read) (entry : Bytes × Bytes) :
    entry ∈ found ↔ entry ∈ read := by
  cases one with
  | error exit after => cases foundBy
  | ok instances after =>
    cases other with
    | error exit store => cases readBy
    | ok fresh store =>
      cases foundBy
      cases readBy
      exact same entry

/-- The same registry, with nothing cached. -/
def emptied (state : Registry Store) : Registry Store :=
  { state with client.serviceCache := ∅ }

/-- What `DiscoverService` returns is what it would read. -/
theorem Synced.transparent (lawful : zk.Lawful) (reliable : zk.Reliable)
    (synced : Synced zk state) {service : Bytes} (proper : ProperName service) :
    SameOutcome ((ZookeeperClient.discoverService zk service).run state)
      ((ZookeeperClient.discoverService zk service).run (emptied state)) := by
  have uncached : (emptied state).client.serviceCache.find? service = none := Table.find?_empty _
  have connected : (emptied state).client.connected = true := synced.connected
  have read := fun present => discoverService_listed lawful reliable connected proper.named uncached
    (show (held zk (emptied state) (47 :: service)).isSome from present)
  cases cached : state.client.serviceCache.find? service with
  | some instances =>
    have listing := synced.listed service instances proper cached
    obtain ⟨fresh, store, -, fromStore, ran⟩ := read listing.present
    rw [discoverService_cached cached, ran]
    exact fun entry => (listing.complete entry).trans (fromStore.complete entry).symm
  | none =>
    cases present : (held zk state (47 :: service)).isSome with
    | true =>
      obtain ⟨fresh, store, -, fromStore, ran⟩ := read present
      obtain ⟨instances, after, -, listing, found⟩ :=
        discoverService_listed lawful reliable synced.connected proper.named cached present
      rw [found, ran]
      exact fun entry => (listing.complete entry).trans (fromStore.complete entry).symm
    | false =>
      have missing : held zk state (cString (47 :: service)) = none := by
        rw [cString_servicePath proper.terminated]
        exact Option.not_isSome_iff_eq_none.mp (by simp [present])
      obtain ⟨session, opened⟩ := exists_session synced.connected
      obtain ⟨ret, after, -, asked, found⟩ := discoverService_missing lawful opened cached missing
      have openedToo : (emptied state).client.zkHandle = some session := opened
      obtain ⟨other, store, -, askedToo, ran⟩ :=
        discoverService_missing lawful openedToo uncached missing
      rw [found, ran]
      have same : ret = other := Except.error.inj (asked.symm.trans askedToo)
      rw [SameOutcome, same]

/-- A client's own calls. -/
inductive DiscoveryCall where
  | register (path data : Bytes) (ephemeral : Bool)
  | discover (path : Bytes)
  | discoverService (service : Bytes)
  | delete (path : Bytes)
  deriving DecidableEq

/-- A call returns or throws. -/
def step (zk : ZooKeeper Store) (state : Registry Store) : DiscoveryCall → Option (Registry Store)
  | .register path data ephemeral =>
    some (stateAfter ((register zk path data ephemeral).run state))
  | .discover path => some (stateAfter ((discover zk path).run state))
  | .discoverService service => some (stateAfter ((discoverService zk service).run state))
  | .delete path => some (stateAfter ((delete zk path).run state))

/-- `path` is `/service/instance`, and if the list of the service is not cached it
has no other instance. -/
def CoveredPath (zk : ZooKeeper Store) (state : Registry Store) (path : Bytes) : Prop :=
  ∃ service ∈ serviceSegment path, ProperName service ∧ ProperName (path.drop (service.length + 2)) ∧
    path = instancePath service (path.drop (service.length + 2)) ∧
    (state.client.serviceCache.find? service = none → ZooKeeper.Sole (held zk state) service path)

/-- A `Discover` of a node that is not there throws before it comes to the cache. -/
def Covered (zk : ZooKeeper Store) (state : Registry Store) : DiscoveryCall → Prop
  | .register path data _ => CoveredPath zk state path ∧ data.length ≤ 512
  | .discover path => (held zk state (cString path)).isSome → CoveredPath zk state path
  | .discoverService service => ProperName service
  | .delete path => 0 ∉ path

theorem Synced.step (lawful : zk.Lawful) (reliable : zk.Reliable) {call : DiscoveryCall}
    {next : Registry Store} (synced : Synced zk state) (covered : Covered zk state call)
    (taken : ZookeeperClient.step zk state call = some next) : Synced zk next := by
  cases call with
  | register path data ephemeral =>
    cases taken
    obtain ⟨⟨service, -, proper, properName, same, sole⟩, short⟩ := covered
    generalize path.drop (service.length + 2) = name at properName same
    subst path
    exact synced.register lawful reliable proper properName short sole ephemeral
  | discover path =>
    cases taken
    by_cases present : (held zk state (cString path)).isSome
    · obtain ⟨service, -, proper, properName, same, sole⟩ := covered present
      generalize path.drop (service.length + 2) = name at properName same
      subst path
      exact synced.discover lawful proper properName sole
    · exact synced.discover_absent lawful (by simpa using present)
  | discoverService service =>
    cases taken
    exact synced.discoverService lawful reliable covered
  | delete path =>
    cases taken
    exact synced.delete lawful reliable covered

/-- The cache is transparent while every service it comes to hold has its list
made by `DiscoverService`, or is first met when it has no other instance. -/
theorem cache_transparent (lawful : zk.Lawful) (reliable : zk.Reliable) {store : Store}
    {client : ZookeeperClient} (connected : client.connected = true)
    (empty : client.serviceCache = ∅) {calls : List DiscoveryCall}
    (covered : Along (ZookeeperClient.step zk) (Covered zk) { store, client } calls)
    (reached : run (ZookeeperClient.step zk) { store, client } calls = some state) {service : Bytes}
    (proper : ProperName service) :
    SameOutcome ((discoverService zk service).run state)
      ((discoverService zk service).run (emptied state)) := by
  have start : Synced zk { store, client } := by
    refine ⟨connected, ?_⟩
    intro other instances _ cached
    rw [empty, Table.find?_empty] at cached
    cases cached
  have kept : ∀ before call next, Synced zk before → Covered zk before call →
      ZookeeperClient.step zk before call = some next → Synced zk next :=
    fun _ _ _ synced good taken => synced.step lawful reliable good taken
  exact (run_preserves kept start covered reached).transparent lawful reliable proper

end ZookeeperClient

section UserService

instance (tree : ZooTree) (service path : Bytes) :
    Decidable (ZooKeeper.Sole (zooTree.contents tree) service path) :=
  decidable_of_iff (∀ key ∈ tree.nodes.keys, ZooKeeper.InstanceOf service key → key = path) <| by
    constructor
    · intro sole entry ⟨here, node, found, _⟩
      exact sole entry.1 (Table.mem_keys_iff.mpr ⟨node, found⟩) here
    · intro sole key listed here
      obtain ⟨node, found⟩ := Table.mem_keys_iff.mp listed
      exact sole (key, node.data.take 512) ⟨here, node, found, rfl⟩

instance (state : Registry ZooTree) : ∀ call, Decidable (Covered zooTree state call)
  | .register path data _ => inferInstanceAs (Decidable ((∃ service ∈ serviceSegment path, _) ∧
      data.length ≤ 512))
  | .discover path => inferInstanceAs (Decidable ((zooTree.contents state.store _).isSome →
      ∃ service ∈ serviceSegment path, _))
  | .discoverService service => inferInstanceAs (Decidable (ProperName service))
  | .delete path => inferInstanceAs (Decidable (0 ∉ path))

def userServicePath (server : String) : Bytes := text ("/UserService/" ++ server)

/-- A store with an instance that another server registered in session 7. -/
def otherServer : ZooTree :=
  let parent := (ZooTree.empty.zooCreate 7 (text "/UserService") [] false).2
  (parent.zooCreate 7 (userServicePath "10.0.0.1:80") (text "methods=Login") true).2

def ownClient : ZookeeperClient := { zkHandle := some 1, isConnected := true, running := true }

def discoveredFirst : List DiscoveryCall :=
  [.discoverService (text "UserService"),
    .register (userServicePath "10.0.0.2:80") (text "methods=Login") true,
    .discover (userServicePath "10.0.0.2:80"), .delete (userServicePath "10.0.0.1:80")]

/-- The client discovers the service, adds its own instance and deletes the other. -/
theorem discovered_first_transparent : ∃ state,
    run (ZookeeperClient.step zooTree) { store := otherServer, client := ownClient }
      discoveredFirst = some state ∧
    SameOutcome ((discoverService zooTree (text "UserService")).run state)
      ((discoverService zooTree (text "UserService")).run (emptied state)) := by
  have ran : (run (ZookeeperClient.step zooTree) { store := otherServer, client := ownClient }
      discoveredFirst).isSome := by decide +kernel
  obtain ⟨state, reached⟩ := Option.isSome_iff_exists.mp ran
  exact ⟨state, reached, cache_transparent ZooTree.lawful ZooTree.reliable rfl rfl
    (by decide +kernel) reached (by decide +kernel)⟩

/-- The client registers its instance before it discovers the service: the other
instance is never found. -/
theorem registered_first_incomplete : ∃ state,
    run (ZookeeperClient.step zooTree) { store := otherServer, client := ownClient }
      [.register (userServicePath "10.0.0.2:80") (text "methods=Login") true] = some state ∧
    ¬ SameOutcome ((discoverService zooTree (text "UserService")).run state)
      ((discoverService zooTree (text "UserService")).run (emptied state)) := by
  have ran : (run (ZookeeperClient.step zooTree) { store := otherServer, client := ownClient }
      [.register (userServicePath "10.0.0.2:80") (text "methods=Login") true]).any fun state =>
        instancesOf? ((discoverService zooTree (text "UserService")).run state) =
          some [(userServicePath "10.0.0.2:80", text "methods=Login")] ∧
        instancesOf? ((discoverService zooTree (text "UserService")).run (emptied state)) =
          some [(userServicePath "10.0.0.2:80", text "methods=Login"),
            (userServicePath "10.0.0.1:80", text "methods=Login")] := by decide +kernel
  obtain ⟨state, reached, outcomes⟩ := (Option.any_eq_true _ _).mp ran
  obtain ⟨found, read⟩ := of_decide_eq_true outcomes
  refine ⟨state, reached, ?_⟩
  intro same
  have missed := (same.mem_iff found read (userServicePath "10.0.0.1:80", text "methods=Login")).mpr
    (List.mem_cons_of_mem _ List.mem_cons_self)
  exact absurd missed (by decide +kernel)

end UserService

end Xrpc
