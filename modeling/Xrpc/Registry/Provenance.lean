import Xrpc.Registry.Methods
import Xrpc.Registry.Segments

/-! Where the data come from that a client caches, tells its callbacks and answers
with: each was in the node of its path at some time of the run. -/

namespace Xrpc

open Support ZookeeperClient

namespace ServiceCache

/-- Every cached instance meets `met`. -/
def All (met : Bytes → Bytes → Prop) (cache : ServiceCache) : Prop :=
  ∀ service instances, cache.find? service = some instances →
    ∀ entry ∈ instances, met entry.1 entry.2

variable {met more : Bytes → Bytes → Prop} {cache : ServiceCache}

theorem all_empty : All met ∅ := by
  intro service instances cached
  rw [Table.find?_empty] at cached
  cases cached

theorem All.mono (all : cache.All met) (weaker : ∀ path data, met path data → more path data) :
    cache.All more :=
  fun service instances cached entry member =>
    weaker _ _ (all service instances cached entry member)

theorem All.insert (all : cache.All met) {service : Bytes} {instances : List (Bytes × Bytes)}
    (listed : ∀ entry ∈ instances, met entry.1 entry.2) :
    All met (cache.insert service instances) := by
  intro other found cached
  by_cases same : other = service
  · subst other
    rw [Table.find?_insert] at cached
    cases cached
    exact listed
  · rw [Table.find?_insert_ne _ same] at cached
    exact all other found cached

theorem All.erase (all : cache.All met) (service : Bytes) : All met (cache.erase service) := by
  intro other found cached
  by_cases same : other = service
  · subst other
    rw [Table.find?_erase] at cached
    cases cached
  · rw [Table.find?_erase_ne _ same] at cached
    exact all other found cached

theorem mem_of_mem_setInstance {path data : Bytes} {instances : List (Bytes × Bytes)}
    {entry : Bytes × Bytes} (member : entry ∈ Xrpc.setInstance path data instances) :
    entry = (path, data) ∨ entry ∈ instances := by
  induction instances with
  | nil => exact .inl (List.mem_singleton.mp member)
  | cons first rest ih =>
    rw [Xrpc.setInstance] at member
    split at member
    · exact (List.mem_cons.mp member).imp_right (List.mem_cons_of_mem _)
    · rcases List.mem_cons.mp member with rfl | later
      · exact .inr List.mem_cons_self
      · exact (ih later).imp_right (List.mem_cons_of_mem _)

theorem All.setInstance (all : cache.All met) {path data : Bytes} (set : met path data)
    (service : Bytes) : (cache.setInstance service path data).All met := by
  refine all.insert ?_
  intro entry member
  rcases mem_of_mem_setInstance member with rfl | before
  · exact set
  · cases cached : cache.find? service with
    | none => simp [cached] at before
    | some instances => exact all service instances cached entry (by simpa [cached] using before)

theorem All.retain (all : cache.All met) (service : Bytes) (keep : Bytes → Bool) :
    (cache.retain service keep).All met := by
  unfold ServiceCache.retain
  split
  · exact all
  next instances cached =>
    dsimp only
    split
    · exact all.erase service
    · exact all.insert fun entry member => all service instances cached entry (List.mem_of_mem_filter member)

end ServiceCache

section Reads
variable {Store : Type} {zk : ZooKeeper Store} {state after : Registry Store}

/-- `data` is what a reader gets of the node at `path`. -/
def Shown (contents : ZooKeeper.Contents) (path data : Bytes) : Prop :=
  ∃ node, contents (cString path) = some node ∧ data = node.data.take 512

/-- An instance that is read is as the node shows it. -/
theorem readInstance_shown (lawful : zk.Lawful) {path : Bytes} {found : List (Bytes × Bytes)}
    (returned : (readInstance zk path).run state = .ok found after) :
    ∀ entry ∈ found, Shown (held zk state) entry.1 entry.2 := by
  rw [readInstance] at returned
  cases fetched : (getNodeData zk path).run state with
  | ok data between =>
    have read : (do return [(path, ← getNodeData zk path)] :
        Effect (Registry Store) (List (Bytes × Bytes))).run state = .ok [(path, data)] between := by
      rw [EStateM.run_bind, fetched]
      rfl
    rw [catchStd_ok read] at returned
    cases returned
    intro entry member
    rw [List.mem_singleton.mp member]
    exact getNodeData_returned lawful fetched
  | error exit between =>
    have thrown : (do return [(path, ← getNodeData zk path)] :
        Effect (Registry Store) (List (Bytes × Bytes))).run state = .error exit between := by
      rw [EStateM.run_bind, fetched]
    cases exit with
    | exception what =>
      rw [catchStd_exception thrown] at returned
      cases returned
      intro entry member
      cases member
    | hang =>
      rw [catchStd_hang thrown] at returned
      cases returned

theorem held_readInstance (lawful : zk.Lawful) (path : Bytes) :
    Keeps (held zk) (readInstance zk path) :=
  fun state => (view_catchStd (fun _ => Keeps.pure _) state).trans
    ((keeps_getNodeData ((unseen_held lawful).zooGet _)).bind (fun _ => Keeps.pure _) state)

theorem readInstances_shown (lawful : zk.Lawful) {paths : List Bytes}
    {instances : List (Bytes × Bytes)}
    (returned : (readInstances zk paths).run state = .ok instances after) :
    ∀ entry ∈ instances, Shown (held zk state) entry.1 entry.2 := by
  induction paths generalizing state instances with
  | nil =>
    cases returned
    intro entry member
    cases member
  | cons path rest ih =>
    rw [readInstances_cons, EStateM.run_bind] at returned
    cases read : (readInstance zk path).run state with
    | error exit between => simp [read] at returned
    | ok found between =>
      have same := (held_readInstance lawful path).of_ok read
      simp only [read, EStateM.run_bind] at returned
      cases others : (readInstances zk rest).run between with
      | error exit last => simp [others] at returned
      | ok later last =>
        rw [others] at returned
        cases returned
        intro entry member
        rcases List.mem_append.mp member with here | there
        · exact readInstance_shown lawful read entry here
        · rw [← same]
          exact ih others entry there

/-- `Discover` answers with what is cached, or with what the node shows. -/
theorem discover_answer (lawful : zk.Lawful) {path data : Bytes}
    (returned : (discover zk path).run state = .ok data after) :
    (∃ service instances, serviceSegment path = some service ∧
      state.client.serviceCache.find? service = some instances ∧ (path, data) ∈ instances) ∨
      Shown (held zk state) path data := by
  cases segment : serviceSegment path with
  | none => simp [discover, serviceOf, segment, EStateM.run_bind] at returned
  | some service =>
    have named : (serviceOf path).run state = .ok service state := by
      simp [serviceOf, segment]
    rw [discover, EStateM.run_bind, named] at returned
    dsimp only at returned
    rw [EStateM.run_bind, EStateM.run_get] at returned
    dsimp only at returned
    cases cached : ((state.client.serviceCache.find? service).getD []).find?
        fun entry => entry.1 = path with
    | some entry =>
      rw [cached] at returned
      cases returned
      have here : entry.1 = path := by simpa using List.find?_some cached
      have member := List.mem_of_find?_eq_some cached
      cases listed : state.client.serviceCache.find? service with
      | none => simp [listed] at member
      | some instances =>
        refine .inl ⟨service, instances, rfl, listed, ?_⟩
        rw [← here]
        simpa [listed] using member
    | none =>
      rw [cached] at returned
      dsimp only at returned
      rw [EStateM.run_bind] at returned
      cases read : (getNodeData zk path).run state with
      | error exit between => simp [read] at returned
      | ok found between =>
        simp only [read, EStateM.run_bind, run_cacheInstance segment] at returned
        cases returned
        exact .inr (getNodeData_returned lawful read)

/-- `DiscoverService` answers with the cached list, or with what the nodes show. -/
theorem discoverService_answer (lawful : zk.Lawful) {service : Bytes}
    {instances : List (Bytes × Bytes)}
    (returned : (discoverService zk service).run state = .ok instances after) :
    state.client.serviceCache.find? service = some instances ∨
      ∀ entry ∈ instances, Shown (held zk state) entry.1 entry.2 := by
  rw [discoverService, EStateM.run_bind, EStateM.run_get] at returned
  dsimp only at returned
  cases cached : state.client.serviceCache.find? service with
  | some listed =>
    rw [cached] at returned
    cases returned
    exact .inl rfl
  | none =>
    have kept : Keeps (held zk) (attempt zk (zk.zooGetChildren · (cString (47 :: service)))
        "Failed to get children: ") := keeps_attempt ((unseen_held lawful).zooGetChildren _) _
    rw [cached] at returned
    dsimp only at returned
    rw [EStateM.run_bind] at returned
    cases asked : (attempt zk (zk.zooGetChildren · (cString (47 :: service)))
        "Failed to get children: ").run state with
    | error exit between => simp [asked] at returned
    | ok children between =>
      have same := kept.of_ok asked
      simp only [asked, EStateM.run_bind] at returned
      cases read : (readInstances zk (children.map (instancePath service))).run between with
      | error exit last => simp [read] at returned
      | ok found last =>
        rw [read] at returned
        cases returned
        rw [← same]
        exact .inr (readInstances_shown lawful read)

/-- `FindInstancesByMethod` names those of the instances that offer the method. -/
theorem findInstancesByMethod_answer {service method : Bytes} {names : List Bytes}
    (returned : (findInstancesByMethod zk service method).run state = .ok names after) :
    ∃ instances, (discoverService zk service).run state = .ok instances after ∧
      ∀ name ∈ names, ∃ entry ∈ instances, name = instanceName entry.1 ∧ offersMethod entry.2 method := by
  rw [findInstancesByMethod, EStateM.run_bind] at returned
  cases discovered : (discoverService zk service).run state with
  | error exit between => simp [discovered] at returned
  | ok instances between =>
    rw [discovered] at returned
    cases returned
    refine ⟨instances, rfl, ?_⟩
    intro name member
    obtain ⟨entry, kept, rfl⟩ := List.mem_map.mp member
    obtain ⟨here, offers⟩ := List.mem_filter.mp kept
    exact ⟨entry, here, rfl, offers⟩

end Reads

namespace WatchedClient
variable {Store : Type}

/-- At some time of the past the node at `path` held these data, of which a reader
gets 512 bytes. -/
def Genuine (zk : ZooKeeper Store) (past : WatchedClient Store → Prop) (path data : Bytes) : Prop :=
  Once past fun watched => ∃ node, watched.contents zk (cString path) = some node ∧
    (data = node.data ∨ data = node.data.take 512)

/-- The callback stands in `watchers_` under the path. -/
def Stored (path : Bytes) (callback : Nat) (watched : WatchedClient Store) : Prop :=
  watched.registry.client.watchers.find? path = some callback

def Subscribed (past : WatchedClient Store → Prop) (path : Bytes) (callback : Nat) : Prop :=
  Once past (Stored path callback)

/-- An event of the node has waited for the thread of the callbacks. -/
def Announced (past : WatchedClient Store → Prop) (event : NodeEvent) (path : Bytes) : Prop :=
  Once past fun watched => (event, path) ∈ watched.queue

/-- What a call under way goes on to cache is genuine. -/
def GenuineCall (zk : ZooKeeper Store) (past : WatchedClient Store → Prop) : OwnCall → Prop
  | .caching path data => Genuine zk past path data
  | .reading _ _ found => ∀ entry ∈ found, Genuine zk past entry.1 entry.2
  | _ => True

/-- A callback is told data of its node, or that the node was deleted. -/
def GenuineNotice (zk : ZooKeeper Store) (past : WatchedClient Store → Prop) (path : Bytes)
    (callback : Nat) (data : Bytes) : Prop :=
  Subscribed past path callback ∧
    (Genuine zk past path data ∨ data = [] ∧ Announced past .deleted path)

def GenuineStage (zk : ZooKeeper Store) (past : WatchedClient Store → Prop) (path : Bytes) :
    HandlerStage → Prop
  | .lookup event => Announced past event path
  | .reading callback => Subscribed past path callback
  | .storing callback data => Subscribed past path callback ∧ Genuine zk past path data
  | .calling callback data _ => GenuineNotice zk past path callback data
  | .forgetting callback => Subscribed past path callback ∧ Announced past .deleted path
  | .arming _ | .clearing => True

/-- Whatever the client has to pass on is genuine. -/
structure Truthful (zk : ZooKeeper Store) (past : WatchedClient Store → Prop)
    (watched : WatchedClient Store) : Prop where
  cache : watched.registry.client.serviceCache.All (Genuine zk past)
  call : ∀ call ∈ watched.shared.call, GenuineCall zk past call
  handler : ∀ handler ∈ watched.handler, GenuineStage zk past handler.path handler.stage
  told : ∀ notice ∈ watched.told, GenuineNotice zk past notice.path notice.callback notice.data

section Memory
variable {zk : ZooKeeper Store} {past more : WatchedClient Store → Prop}
  (grown : ∀ watched, past watched → more watched)
include grown

theorem Genuine.mono {path data : Bytes} (genuine : Genuine zk past path data) :
    Genuine zk more path data := Once.mono genuine grown

theorem GenuineCall.mono {call : OwnCall} (genuine : GenuineCall zk past call) :
    GenuineCall zk more call := by
  cases call with
  | caching path data => exact Genuine.mono grown genuine
  | reading service unread found => exact fun entry member => Genuine.mono grown (genuine entry member)
  | _ => exact trivial

theorem GenuineNotice.mono {path data : Bytes} {callback : Nat}
    (genuine : GenuineNotice zk past path callback data) :
    GenuineNotice zk more path callback data :=
  ⟨genuine.1.mono grown, genuine.2.imp (Genuine.mono grown) fun deleted =>
    ⟨deleted.1, deleted.2.mono grown⟩⟩

theorem GenuineStage.mono {path : Bytes} {stage : HandlerStage}
    (genuine : GenuineStage zk past path stage) : GenuineStage zk more path stage := by
  cases stage with
  | lookup event => exact Once.mono genuine grown
  | reading callback => exact Once.mono genuine grown
  | storing callback data => exact ⟨genuine.1.mono grown, Genuine.mono grown genuine.2⟩
  | calling callback data guarded => exact GenuineNotice.mono grown genuine
  | forgetting callback => exact ⟨genuine.1.mono grown, genuine.2.mono grown⟩
  | arming guarded => exact trivial
  | clearing => exact trivial

theorem Truthful.mono {watched : WatchedClient Store} (truthful : Truthful zk past watched) :
    Truthful zk more watched where
  cache := truthful.cache.mono fun _ _ => Genuine.mono grown
  call call waiting := GenuineCall.mono grown (truthful.call call waiting)
  handler handler handling := GenuineStage.mono grown (truthful.handler handler handling)
  told notice member := GenuineNotice.mono grown (truthful.told notice member)

end Memory

section Steps
variable {zk : ZooKeeper Store} {past : WatchedClient Store → Prop} {watched next : WatchedClient Store}

theorem genuine_of_shown (now : past watched) {path data : Bytes}
    (shown : Shown (watched.contents zk) path data) : Genuine zk past path data := by
  obtain ⟨node, here, same⟩ := shown
  exact ⟨watched, now, node, here, .inr same⟩

/-- What a call goes on with is genuine, once it has written or read it. -/
theorem genuine_advance (lawful : zk.Lawful) (now : past watched) {call : OwnCall}
    (genuine : GenuineCall zk past call) {value : Option OwnCall} {after : Registry Store}
    (ran : (advance zk call).run watched.registry = .ok value after)
    (same : next.contents zk = held zk after) :
    ∀ later ∈ value, GenuineCall zk (fun earlier => past earlier ∨ earlier = next) later := by
  have plain : Yields (fun value => ∀ later ∈ value, GenuineCall zk
      (fun earlier => past earlier ∨ earlier = next) later) (advance zk call) →
      ∀ later ∈ value, GenuineCall zk (fun earlier => past earlier ∨ earlier = next) later :=
    fun yields => yields _ _ _ ran
  cases call with
  | finding path data ephemeral => exact plain (.bind fun _ => .pure (by simp [GenuineCall]))
  | caching path data => exact plain (.bind fun _ => .pure (by simp))
  | listing service => exact plain (.bind fun _ => .pure (by simp [GenuineCall]))
  | deleting path => exact plain (.bind fun _ => .pure (by simp [GenuineCall]))
  | forgetting path => exact plain (.bind fun _ => .pure (by simp))
  | writing path data ephemeral stat =>
    rw [advance, EStateM.run_bind] at ran
    cases wrote : (writeNode zk path data ephemeral stat).run watched.registry with
    | error exit between => simp [wrote] at ran
    | ok done between =>
      obtain ⟨session, -, -, effect⟩ := writeNode_returned lawful wrote
      obtain ⟨node, data_eq, changed⟩ := effect.found
      rw [wrote] at ran
      cases ran
      rintro _ ⟨rfl⟩
      refine ⟨next, .inr rfl, node, ?_, .inl data_eq.symm⟩
      rw [same, changed, Function.update_self]
  | fetching path =>
    rw [advance, EStateM.run_bind] at ran
    cases read : (getNodeData zk path).run watched.registry with
    | error exit between => simp [read] at ran
    | ok data between =>
      rw [read] at ran
      cases ran
      rintro _ ⟨rfl⟩
      exact genuine_of_shown (.inl now) (getNodeData_returned lawful read)
  | reading service unread found =>
    cases unread with
    | nil => exact plain (.bind fun _ => .pure (by simp))
    | cons path rest =>
      rw [advance, EStateM.run_bind] at ran
      cases read : (readInstance zk path).run watched.registry with
      | error exit between => simp [read] at ran
      | ok more between =>
        rw [read] at ran
        cases ran
        rintro _ ⟨rfl⟩
        intro entry member
        rcases List.mem_append.mp member with before | new
        · exact (genuine entry before).mono fun _ => .inl
        · exact genuine_of_shown (.inl now) (readInstance_shown lawful read entry new)

theorem genuine_interleave (lawful : zk.Lawful) (now : past watched)
    (genuine : ∀ call ∈ watched.shared.call, GenuineCall zk past call) {event : SharedEvent Store}
    {shared : SharedClient Store} (moved : interleave zk watched.shared event = some shared)
    (same : next.contents zk = held zk shared.registry) :
    ∀ call ∈ shared.call, GenuineCall zk (fun earlier => past earlier ∨ earlier = next) call := by
  have grown : ∀ earlier, past earlier → past earlier ∨ earlier = next := fun _ => .inl
  cases SharedClient.transition_of_interleave moved with
  | @begin call idle =>
    refine call_perform ?_
    intro state value after returned later member
    rw [beginCall_begun call _ _ _ returned later member]
    cases call with
    | _ => exact trivial
  | @advance call waiting =>
    cases ran : (advance zk call).run watched.shared.registry with
    | ok value after =>
      rw [SharedClient.perform, ran] at same ⊢
      exact genuine_advance lawful now (genuine call waiting) ran same
    | error exit after =>
      rw [SharedClient.perform, ran]
      intro later none
      cases none
  | snapshot rested up => exact fun call waiting => (genuine call waiting).mono grown
  | listChildren services answer =>
    rw [call_listNext]
    exact fun call waiting => (genuine call waiting).mono grown
  | reconcile answer => exact fun call waiting => (genuine call waiting).mono grown
  | change store => exact fun call waiting => (genuine call waiting).mono grown

theorem cache_interleave (truthful : Truthful zk past watched) {event : SharedEvent Store}
    {shared : SharedClient Store} (moved : interleave zk watched.shared event = some shared) :
    shared.registry.client.serviceCache.All (Genuine zk past) := by
  rcases client_interleave moved with same | ⟨call, rfl, waiting, same⟩ | ⟨answer, rfl, -, same⟩
  · rw [same]
    exact truthful.cache
  · rw [same]
    have genuine := truthful.call call waiting
    rcases client_advance zk call watched.shared.registry with same |
      ⟨path, data, service, rfl, -, same⟩ | ⟨service, found, rfl, same⟩ |
      ⟨path, service, rfl, -, same⟩
    · rw [same]
      exact truthful.cache
    · rw [same]
      exact truthful.cache.setInstance genuine service
    · rw [same]
      exact truthful.cache.insert genuine
    · rw [same]
      exact truthful.cache.retain service _
  · rw [same]
    exact truthful.cache.retain answer.1 _

/-- Beyond the cache, a step of the handler passes on what it has. -/
theorem stage_handle (lawful : zk.Lawful) (now : past watched) {path : Bytes} {stage : HandlerStage}
    (genuine : GenuineStage zk past path stage) :
    (∀ handler ∈ (watched.handle zk path stage).handler,
      GenuineStage zk past handler.path handler.stage) ∧
    ∀ notice ∈ (watched.handle zk path stage).told, notice ∈ watched.told ∨
      GenuineNotice zk past notice.path notice.callback notice.data := by
  have told : ∀ {α : Type} {body : Effect (Registry Store) α} {guarded : Bool}
      {next : α → WatchedClient Store → WatchedClient Store},
      (∀ value after, (next value after).told = after.told) →
      (watched.perform zk body guarded next).told = watched.told := by
    intro α body guarded next kept
    unfold perform
    split
    · exact kept _ _
    · rfl
  have unhandled : ∀ handler ∈ (none : Option Handler), GenuineStage zk past handler.path handler.stage := by
    intro handler none
    cases none
  have unseen := unseen_held lawful
  cases stage with
  | lookup event =>
    rw [handle]
    split
    · exact ⟨unhandled, fun notice => .inl⟩
    next callback found =>
      refine ⟨?_, fun notice => .inl⟩
      rintro _ ⟨rfl⟩
      have subscribed : Subscribed past path callback := ⟨watched, now, found⟩
      cases event with
      | created => exact subscribed
      | changed => exact subscribed
      | deleted => exact ⟨subscribed, genuine⟩
      | child => exact trivial
  | reading callback =>
    refine ⟨?_, ?_⟩
    · rw [handle, perform_of_kept (keeps_getNodeData (unseen.zooGet _))]
      cases read : (getNodeData zk path).run watched.registry with
      | error exit after => exact unhandled
      | ok data after =>
        rintro _ ⟨rfl⟩
        exact ⟨genuine, genuine_of_shown now (getNodeData_returned lawful read)⟩
    · rw [handle, told (by exact fun _ _ => rfl)]
      exact fun notice => .inl
  | storing callback data =>
    refine ⟨?_, ?_⟩
    · rw [handle, perform_of_kept (keeps_cacheInstance unseen path data)]
      split
      · rintro _ ⟨rfl⟩
        exact ⟨genuine.1, .inl genuine.2⟩
      · exact unhandled
    · rw [handle, told (by exact fun _ _ => rfl)]
      exact fun notice => .inl
  | calling callback data guarded =>
    refine ⟨?_, ?_⟩
    · rintro _ ⟨rfl⟩
      exact trivial
    · intro notice member
      rcases List.mem_append.mp member with before | new
      · exact .inl before
      · rw [List.mem_singleton.mp new]
        exact .inr genuine
  | forgetting callback =>
    refine ⟨?_, ?_⟩
    · rw [handle, perform_of_kept (keeps_forgetInstance unseen path)]
      split
      · rintro _ ⟨rfl⟩
        exact ⟨genuine.1, .inr ⟨rfl, genuine.2⟩⟩
      · exact unhandled
    · rw [handle, told (by exact fun _ _ => rfl)]
      exact fun notice => .inl
  | arming guarded =>
    refine ⟨?_, ?_⟩
    · rw [handle, perform_of_kept (keeps_registerWatcher (unseen.zooExists _))]
      split
      · exact unhandled
      · exact unhandled
    · rw [handle, told]
      · exact fun notice => .inl
      · intro sets after
        cases sets with
        | false => rfl
        | true => rfl
  | clearing =>
    refine ⟨?_, ?_⟩
    · rw [handle, perform_of_kept (keeps_forgetService unseen path)]
      split
      · exact unhandled
      · exact unhandled
    · rw [handle, told (by exact fun _ _ => rfl)]
      exact fun notice => .inl

theorem Truthful.handle (lawful : zk.Lawful) (now : past watched)
    (truthful : Truthful zk past watched) {path : Bytes} {stage : HandlerStage}
    (handling : watched.handler = some ⟨path, stage⟩) :
    Truthful zk past (watched.handle zk path stage) := by
  have genuine : GenuineStage zk past path stage := truthful.handler ⟨path, stage⟩ handling
  obtain ⟨handler, told⟩ := stage_handle lawful now genuine
  refine ⟨?_, ?_, handler, ?_⟩
  · rcases client_handle zk watched path stage with same |
      ⟨callback, data, service, rfl, -, same⟩ | ⟨callback, service, rfl, -, same⟩ |
      ⟨service, rfl, -, same⟩
    · rw [same]
      exact truthful.cache
    · rw [same]
      exact truthful.cache.setInstance genuine.2 service
    · rw [same]
      exact truthful.cache.retain service _
    · rw [same]
      exact truthful.cache.erase service
  · rw [shared_handle]
    exact truthful.call
  · intro notice member
    exact (told notice member).elim (truthful.told notice) id

theorem Truthful.session (truthful : Truthful zk past watched) (state : SessionState) :
    (watched.registry.client.handleSessionEvent state).serviceCache.All (Genuine zk past) := by
  unfold handleSessionEvent
  split
  · exact truthful.cache
  · split
    · exact truthful.cache
    · exact ServiceCache.all_empty
    · exact truthful.cache
    · exact truthful.cache

theorem Truthful.of_same (truthful : Truthful zk past watched)
    (cache : next.registry.client.serviceCache = watched.registry.client.serviceCache)
    (call : next.shared.call = watched.shared.call) (handler : next.handler = watched.handler)
    (told : next.told = watched.told) : Truthful zk past next where
  cache := by
    rw [cache]
    exact truthful.cache
  call := by
    rw [call]
    exact truthful.call
  handler := by
    rw [handler]
    exact truthful.handler
  told := by
    rw [told]
    exact truthful.told

theorem finishWatch_same (lawful : zk.Lawful) (path : Bytes) :
    (watched.finishWatch zk path).registry.client = watched.registry.client ∧
      (watched.finishWatch zk path).shared.call = watched.shared.call ∧
      (watched.finishWatch zk path).handler = watched.handler ∧
      (watched.finishWatch zk path).told = watched.told := by
  obtain ⟨registry, sets, client, -, finished⟩ := @finishWatch_eq Store zk watched lawful path
  rw [finished]
  cases sets with
  | false => exact ⟨client, rfl, rfl, rfl⟩
  | true => exact ⟨client, rfl, rfl, rfl⟩

theorem Truthful.step (lawful : zk.Lawful) (now : past watched) (truthful : Truthful zk past watched)
    {event : WatchEvent Store} (taken : watched.step zk event = some next) :
    Truthful zk (fun earlier => past earlier ∨ earlier = next) next := by
  have grown : ∀ earlier, past earlier → past earlier ∨ earlier = next := fun _ => .inl
  have remembered := truthful.mono grown
  cases transition_of_step taken with
  | client apart moved =>
    exact ⟨(cache_interleave truthful moved).mono fun _ _ => Genuine.mono grown,
      genuine_interleave lawful now truthful.call moved rfl, remembered.handler, remembered.told⟩
  | @watch path callback registry idle stored =>
    exact remembered.of_same ((cache_beginWatch path callback).of_ok stored) rfl rfl rfl
  | @refuse path callback exit registry idle thrown =>
    exact remembered.of_same ((cache_beginWatch path callback).of_error thrown) rfl rfl rfl
  | @arm path watching =>
    obtain ⟨client, call, handler, told⟩ := @finishWatch_same Store zk watched lawful path
    exact remembered.of_same (congrArg ZookeeperClient.serviceCache client) call handler told
  | fire event path => exact remembered.of_same rfl rfl rfl rfl
  | @deliver event path rest idle queued listening =>
    refine ⟨remembered.cache, remembered.call, ?_, remembered.told⟩
    have waiting : (event, path) ∈ watched.queue := by
      rw [queued]
      exact List.mem_cons_self
    rintro _ ⟨rfl⟩
    exact ⟨watched, .inl now, waiting⟩
  | skip idle queued unheard => exact remembered.of_same rfl rfl rfl rfl
  | handle handling => exact (truthful.handle lawful now handling).mono grown
  | session state idle =>
    exact ⟨(truthful.session state).mono fun _ _ => Genuine.mono grown, remembered.call,
      remembered.handler, remembered.told⟩

theorem watchers_interleave {machine after : SharedClient Store} {event : SharedEvent Store}
    (moved : interleave zk machine event = some after) :
    after.registry.client.watchers = machine.registry.client.watchers ∨
      ∃ path, after.registry.client.watchers = machine.registry.client.watchers.erase path := by
  rcases client_interleave moved with same | ⟨call, -, -, same⟩ | ⟨answer, -, -, same⟩
  · exact .inl (by rw [same])
  · rw [same]
    rcases client_advance zk call machine.registry with kept | ⟨_, _, _, -, -, kept⟩ |
      ⟨_, _, -, kept⟩ | ⟨path, _, -, -, kept⟩
    · exact .inl (by rw [kept])
    · exact .inl (by rw [kept])
    · exact .inl (by rw [kept])
    · exact .inr ⟨path, by rw [kept]⟩
  · exact .inl (by rw [same])

/-- Only `Watch` adds to `watchers_`; `Delete` and the handler of a deletion take away. -/
theorem watchers_step (lawful : zk.Lawful) {event : WatchEvent Store}
    (taken : watched.step zk event = some next) :
    next.registry.client.watchers = watched.registry.client.watchers ∨
    (∃ path, next.registry.client.watchers = watched.registry.client.watchers.erase path) ∨
    ∃ path callback, event = .watch path callback ∧
      next.registry.client.watchers = watched.registry.client.watchers.insert path callback := by
  cases transition_of_step taken with
  | client apart moved =>
    rcases watchers_interleave moved with same | ⟨path, same⟩
    · exact .inl same
    · exact .inr (.inl ⟨path, same⟩)
  | @watch path callback registry idle stored =>
    cases connected : watched.registry.client.connected with
    | false => cases (refused_beginWatch connected path callback).symm.trans stored
    | true =>
      cases (run_beginWatch connected path callback).symm.trans stored
      exact .inr (.inr ⟨path, callback, rfl, rfl⟩)
  | @refuse path callback exit registry idle thrown =>
    cases connected : watched.registry.client.connected with
    | false =>
      cases (refused_beginWatch connected path callback).symm.trans thrown
      exact .inl rfl
    | true => cases (run_beginWatch connected path callback).symm.trans thrown
  | @arm path watching =>
    obtain ⟨client, -⟩ := @finishWatch_same Store zk watched lawful path
    exact .inl (by rw [client])
  | fire event path => exact .inl rfl
  | deliver idle queued listening => exact .inl rfl
  | skip idle queued unheard => exact .inl rfl
  | @handle path stage handling =>
    rcases client_handle zk watched path stage with same | ⟨_, _, _, -, -, same⟩ |
      ⟨_, _, -, -, same⟩ | ⟨_, -, -, same⟩
    · exact .inl (by rw [same])
    · exact .inl (by rw [same])
    · exact .inr (.inl ⟨path, by rw [same]⟩)
    · exact .inl (by rw [same])
  | session state idle =>
    refine .inl ?_
    change (watched.registry.client.handleSessionEvent state).watchers = _
    unfold handleSessionEvent
    split
    · rfl
    · cases state with
      | connected => rfl
      | connecting => rfl
      | expired => rfl
      | other => rfl

/-- A callback comes to stand in `watchers_` by the `Watch` that names it. -/
theorem watch_of_stored (lawful : zk.Lawful) {event : WatchEvent Store}
    (taken : watched.step zk event = some next) {path : Bytes} {callback : Nat}
    (absent : ¬ Stored path callback watched) (standing : Stored path callback next) :
    event = .watch path callback := by
  rw [Stored] at absent standing
  rcases watchers_step lawful taken with same | ⟨other, same⟩ | ⟨other, stored, rfl, same⟩
  · exact absurd (same ▸ standing) absent
  · rw [same] at standing
    by_cases here : other = path
    · subst here
      rw [Table.find?_erase] at standing
      cases standing
    · rw [Table.find?_erase_ne _ (Ne.symm here)] at standing
      exact absurd standing absent
  · rw [same] at standing
    by_cases here : other = path
    · subst here
      rw [Table.find?_insert] at standing
      cases standing
      rfl
    · rw [Table.find?_insert_ne _ (Ne.symm here)] at standing
      exact absurd standing absent

end Steps

section Runs
variable {zk : ZooKeeper Store} {start final : WatchedClient Store} {events : List (WatchEvent Store)}

/-- Nothing is cached or told, and no call and no event is under way. -/
structure Fresh (watched : WatchedClient Store) : Prop where
  uncached : watched.registry.client.serviceCache = ∅
  idle : watched.shared.call = none
  calm : watched.handler = none
  untold : watched.told = []

theorem Fresh.truthful (fresh : start.Fresh) (past : WatchedClient Store → Prop) :
    Truthful zk past start where
  cache := by
    rw [fresh.uncached]
    exact ServiceCache.all_empty
  call call waiting := by
    rw [fresh.idle] at waiting
    cases waiting
  handler handler handling := by
    rw [fresh.calm] at handling
    cases handling
  told notice member := by
    rw [fresh.untold] at member
    cases member

theorem truthful_run (lawful : zk.Lawful) (fresh : start.Fresh)
    (reached : run (step zk) start events = some final) :
    Truthful zk (Visited (step zk) start events) final :=
  run_remembers (fun grown truthful => truthful.mono grown)
    (fun _ _ _ _ now truthful taken => truthful.step lawful now taken) (fresh.truthful _) reached

/-- The run takes a `Watch` of the path that stores the callback. -/
def Registered (zk : ZooKeeper Store) (start : WatchedClient Store) (events : List (WatchEvent Store))
    (path : Bytes) (callback : Nat) : Prop :=
  ∃ earlier later before after, events = earlier ++ .watch path callback :: later ∧
    run (step zk) start earlier = some before ∧
    before.step zk (.watch path callback) = some after ∧ Stored path callback after

theorem Subscribed.registered (lawful : zk.Lawful) {path : Bytes} {callback : Nat}
    (subscribed : Subscribed (Visited (step zk) start events) path callback) :
    Stored path callback start ∨ Registered zk start events path callback := by
  obtain ⟨watched, ⟨before, after, rfl, sofar⟩, standing⟩ := subscribed
  rcases exists_cause sofar standing with initial |
    ⟨earlier, event, later, state, next, rfl, reached, taken, absent, stored⟩
  · exact .inl initial
  · cases watch_of_stored lawful taken absent stored
    exact .inr ⟨earlier, later ++ after, state, next, by simp, reached, taken, stored⟩

/-- Whatever the calls, the heartbeat, the other clients and the session do in
between, a callback is told only what its node has held, or that the node was deleted,
and only where a `Watch` has registered it for that node. -/
theorem notices_genuine (lawful : zk.Lawful) (fresh : start.Fresh)
    (reached : run (step zk) start events = some final) :
    ∀ notice ∈ final.told,
      (Stored notice.path notice.callback start ∨
        Registered zk start events notice.path notice.callback) ∧
        (Genuine zk (Visited (step zk) start events) notice.path notice.data ∨
          notice.data = [] ∧ Announced (Visited (step zk) start events) .deleted notice.path) := by
  intro notice member
  obtain ⟨subscribed, genuine⟩ := (truthful_run lawful fresh reached).told notice member
  exact ⟨subscribed.registered lawful, genuine⟩

/-- The answer that a call gets after any run, be it cached or read, is what the node at
the path has held at some time of the run. -/
theorem answers_genuine (lawful : zk.Lawful) (fresh : start.Fresh)
    (reached : run (step zk) start events = some final) :
    (∀ path data after, (discover zk path).run final.registry = .ok data after →
      Genuine zk (Visited (step zk) start events) path data) ∧
    (∀ service instances after, (discoverService zk service).run final.registry =
      .ok instances after → ∀ entry ∈ instances,
        Genuine zk (Visited (step zk) start events) entry.1 entry.2) ∧
    ∀ service method names after, (findInstancesByMethod zk service method).run final.registry =
      .ok names after → ∀ name ∈ names, ∃ path data, name = instanceName path ∧
        offersMethod data method ∧ Genuine zk (Visited (step zk) start events) path data := by
  have truthful := truthful_run lawful fresh reached
  have now := visited_final reached
  have listed : ∀ service instances after, (discoverService zk service).run final.registry =
      .ok instances after → ∀ entry ∈ instances,
        Genuine zk (Visited (step zk) start events) entry.1 entry.2 := by
    intro service instances after returned
    rcases discoverService_answer lawful returned with cached | shown
    · exact truthful.cache service instances cached
    · exact fun entry member => genuine_of_shown now (shown entry member)
  refine ⟨?_, listed, ?_⟩
  · intro path data after returned
    rcases discover_answer lawful returned with ⟨service, instances, -, cached, member⟩ | shown
    · exact truthful.cache service instances cached (path, data) member
    · exact genuine_of_shown now shown
  · intro service method names after returned name member
    obtain ⟨instances, discovered, named⟩ := findInstancesByMethod_answer returned
    obtain ⟨entry, here, same, offers⟩ := named name member
    exact ⟨entry.1, entry.2, same, offers, listed service instances after discovered entry here⟩

/-- The handler goes on to the callback. -/
def toldDiscovery : List (WatchEvent ZooTree) := watchedDiscovery ++ [.handle]

theorem unwatched_fresh : (unwatched : WatchedClient ZooTree).Fresh := ⟨rfl, rfl, rfl, rfl⟩

theorem discovery_notice_genuine : ∃ final,
    run (step zooTree) unwatched toldDiscovery = some final ∧ final.told ≠ [] ∧
    ∀ notice ∈ final.told, Registered zooTree unwatched toldDiscovery notice.path notice.callback ∧
      (Genuine zooTree (Visited (step zooTree) unwatched toldDiscovery) notice.path notice.data ∨
        notice.data = [] ∧
          Announced (Visited (step zooTree) unwatched toldDiscovery) .deleted notice.path) := by
  have ran : (run (step zooTree) unwatched toldDiscovery).any fun final => final.told ≠ [] := by
    decide +kernel
  obtain ⟨final, reached, told⟩ := (Option.any_eq_true _ _).mp ran
  refine ⟨final, reached, of_decide_eq_true told, ?_⟩
  intro notice member
  obtain ⟨initial | registered, genuine⟩ :=
    notices_genuine ZooTree.lawful unwatched_fresh reached notice member
  · cases (Table.find?_empty notice.path).symm.trans initial
  · exact ⟨registered, genuine⟩

theorem discovery_answers_genuine : ∃ final,
    run (step zooTree) unwatched toldDiscovery = some final ∧
    ∀ path data after, (discover zooTree path).run final.registry = .ok data after →
      Genuine zooTree (Visited (step zooTree) unwatched toldDiscovery) path data := by
  have ran : (run (step zooTree) unwatched toldDiscovery).isSome := by decide +kernel
  obtain ⟨final, reached⟩ := Option.isSome_iff_exists.mp ran
  exact ⟨final, reached, (answers_genuine ZooTree.lawful unwatched_fresh reached).1⟩

end Runs

end WatchedClient

end Xrpc
