import Xrpc.Registry.Renewal

/-! What is left of a client whose session has expired: nothing in the code opens a new
one, so the client stays cut off until it is stopped and started again. -/

namespace Xrpc

open Support ZookeeperClient

/-- What ZooKeeper does with the calls of an expired session. -/
structure ZooKeeper.Refuses {Store : Type} (zk : ZooKeeper Store) (session : Nat) : Prop where
  zooExists : ∀ path store, ∃ code, code ≠ .noNode ∧ (zk.zooExists session path store).1 = .error code
  zooGetChildren : ∀ path store, ∃ code, (zk.zooGetChildren session path store).1 = .error code

/-- Nothing that the call has at hand gets into the cache. -/
def OwnCall.Fruitless : OwnCall → Prop
  | .fetching _ | .listing _ => True
  | _ => False

def HandlerStage.Fruitless : HandlerStage → Prop
  | .storing _ _ => False
  | _ => True

section Members
variable {Store : Type} {zk : ZooKeeper Store} {session : Nat} {state : Registry Store}

/-- The client of an expired session. -/
structure Expired (session : Nat) (client : ZookeeperClient) : Prop where
  handle : client.zkHandle = some session
  lost : client.isConnected = false
  uncached : ∀ service, client.serviceCache.find? service = none

theorem Expired.disconnected {client : ZookeeperClient} (expired : Expired session client) :
    client.connected = false := by
  rw [ZookeeperClient.connected, expired.lost]
  rfl

theorem run_checkConnected_lost (expired : Expired session state.client) :
    (checkConnected : Effect (Registry Store) Unit).run state =
      .error (runtimeError (text "ZooKeeper not connected")) state := by
  simp [checkConnected, expired.disconnected]

theorem run_getNodeData_lost (expired : Expired session state.client) (path : Bytes) :
    (getNodeData zk path).run state =
      .error (runtimeError (text "ZooKeeper not connected")) state :=
  bind_error (run_checkConnected_lost expired) _

theorem run_getChildren_refused (refuses : zk.Refuses session) (expired : Expired session state.client)
    (path : Bytes) (failure : String) : ∃ exit after, after.client = state.client ∧
      (attempt zk (zk.zooGetChildren · path) failure).run state = .error exit after := by
  obtain ⟨code, refused⟩ := refuses.zooGetChildren path state.store
  rw [run_attempt expired.handle, refused]
  exact ⟨_, { state with store := (zk.zooGetChildren session path state.store).2 }, rfl, rfl⟩

theorem run_zooExists_refused (refuses : zk.Refuses session) (expired : Expired session state.client)
    (path : Bytes) : ∃ code after, code ≠ .noNode ∧ after.client = state.client ∧
      (request (zk.zooExists · path)).run state = .ok (.error code) after := by
  obtain ⟨code, other, refused⟩ := refuses.zooExists path state.store
  rw [run_request expired.handle, refused]
  exact ⟨code, { state with store := (zk.zooExists session path state.store).2 }, other, rfl, rfl⟩

theorem run_checkStarted (expired : Expired session state.client) :
    (checkStarted : Effect (Registry Store) Unit).run state = .ok () state := by
  simp [checkStarted, expired.handle]

/-- No call that begins then goes further than its first step. -/
theorem beginCall_lost (refuses : zk.Refuses session) (expired : Expired session state.client)
    (call : DiscoveryCall) {later : Option OwnCall} {after : Registry Store}
    (begun : (beginCall zk call).run state = .ok later after) :
    ∀ next ∈ later, next.Fruitless := by
  cases call with
  | register path data ephemeral =>
    have thrown : (beginRegister zk path).run state =
        .error (runtimeError (text "ZooKeeper not connected")) state :=
      bind_error (run_checkConnected_lost expired) _
    rw [beginCall, bind_error thrown] at begun
    cases begun
  | discover path =>
    intro next member
    rw [beginCall_begun (.discover path) _ _ _ begun next member]
    exact trivial
  | discoverService service =>
    intro next member
    rw [beginCall_begun (.discoverService service) _ _ _ begun next member]
    exact trivial
  | delete path =>
    obtain ⟨code, between, other, -, asked⟩ := run_zooExists_refused refuses expired (cString path)
    rw [beginCall, EStateM.run_bind, run_checkStarted expired] at begun
    dsimp only at begun
    rw [EStateM.run_bind, asked] at begun
    cases code with
    | noNode => exact absurd rfl other
    | _ => cases begun

theorem advance_lost (refuses : zk.Refuses session) (expired : Expired session state.client)
    {call : OwnCall} (fruitless : call.Fruitless) :
    ∃ exit after, after.client = state.client ∧ (advance zk call).run state = .error exit after := by
  cases call with
  | fetching path => exact ⟨_, state, rfl, bind_error (run_getNodeData_lost expired path) _⟩
  | listing service =>
    obtain ⟨exit, after, client, thrown⟩ := run_getChildren_refused refuses expired
      (cString (47 :: service)) "Failed to get children: "
    exact ⟨exit, after, client, bind_error thrown _⟩
  | _ => exact fruitless.elim

/-- Every member function throws. -/
structure AllThrow (zk : ZooKeeper Store) (state : Registry Store) : Prop where
  register : ∀ path data ephemeral, returns ((register zk path data ephemeral).run state) = false
  discover : ∀ path, returns ((discover zk path).run state) = false
  discoverService : ∀ service, returns ((discoverService zk service).run state) = false
  findInstancesByMethod : ∀ service method,
    returns ((findInstancesByMethod zk service method).run state) = false
  delete : ∀ path, returns ((delete zk path).run state) = false
  watch : ∀ path callback, returns ((watch zk path callback).run state) = false

theorem allThrow_of_expired (refuses : zk.Refuses session) (expired : Expired session state.client) :
    AllThrow zk state := by
  have returns_error : ∀ {α : Type} {body : Effect (Registry Store) α} {exit : Exit}
      {after : Registry Store}, body.run state = .error exit after →
        returns (body.run state) = false := by
    intro α body exit after thrown
    rw [thrown]
    rfl
  have listing : ∀ service, ∃ exit after,
      (ZookeeperClient.discoverService zk service).run state = .error exit after := by
    intro service
    obtain ⟨exit, after, -, thrown⟩ := run_getChildren_refused refuses expired
      (cString (47 :: service)) "Failed to get children: "
    refine ⟨exit, after, ?_⟩
    rw [ZookeeperClient.discoverService, EStateM.run_bind, EStateM.run_get]
    simp only [expired.uncached service]
    exact bind_error thrown _
  refine ⟨?_, ?_, ?_, ?_, ?_, ?_⟩
  · intro path data ephemeral
    exact returns_error (bind_error (bind_error (run_checkConnected_lost expired) _) _)
  · intro path
    cases segment : serviceSegment path with
    | none =>
      have unnamed : (serviceOf path).run state = .error (.exception
          (text "basic_string::substr: __pos (which is 1) > this->size() (which is 0)")) state := by
        simp [serviceOf, segment]
      exact returns_error (bind_error unnamed _)
    | some service =>
      have named : (serviceOf path).run state = .ok service state := by simp [serviceOf, segment]
      have thrown : (ZookeeperClient.discover zk path).run state =
          .error (runtimeError (text "ZooKeeper not connected")) state := by
        rw [ZookeeperClient.discover, EStateM.run_bind, named]
        dsimp only
        rw [EStateM.run_bind, EStateM.run_get]
        simp only [expired.uncached service, Option.getD_none, List.find?_nil]
        exact bind_error (run_getNodeData_lost expired path) _
      exact returns_error thrown
  · intro service
    obtain ⟨exit, after, thrown⟩ := listing service
    exact returns_error thrown
  · intro service method
    obtain ⟨exit, after, thrown⟩ := listing service
    exact returns_error (bind_error thrown _)
  · intro path
    obtain ⟨code, between, other, -, asked⟩ := run_zooExists_refused refuses expired (cString path)
    rw [ZookeeperClient.delete, EStateM.run_bind, run_checkStarted expired]
    dsimp only
    rw [EStateM.run_bind, asked]
    cases code with
    | noNode => exact absurd rfl other
    | _ => rfl
  · intro path callback
    exact returns_error (bind_error (bind_error (run_checkConnected_lost expired) _) _)

theorem Expired.of_cache {client next : ZookeeperClient} (expired : Expired session client)
    (handle : next.zkHandle = client.zkHandle) (lost : next.isConnected = client.isConnected)
    (uncached : ∀ service, next.serviceCache.find? service = none) : Expired session next :=
  ⟨handle.trans expired.handle, lost.trans expired.lost, uncached⟩

theorem uncached_retain {cache : ServiceCache} (uncached : ∀ service, cache.find? service = none)
    (service : Bytes) (keep : Bytes → Bool) (other : Bytes) :
    (cache.retain service keep).find? other = none := by
  rw [ServiceCache.retain, uncached service]
  exact uncached other

theorem uncached_erase {cache : ServiceCache} (uncached : ∀ service, cache.find? service = none)
    (service other : Bytes) : Table.find? (cache.erase service) other = none := by
  by_cases same : other = service
  · rw [same]
    exact Table.find?_erase _ service
  · rw [Table.find?_erase_ne _ same]
    exact uncached other

/-- Other session events than a new connection leave the session lost. -/
theorem Expired.handleSessionEvent {client : ZookeeperClient} (expired : Expired session client)
    {state : SessionState} (unconnected : state ≠ .connected) :
    Expired session (client.handleSessionEvent state) := by
  unfold ZookeeperClient.handleSessionEvent
  split
  · exact expired
  · cases state with
    | connected => exact absurd rfl unconnected
    | expired => exact ⟨expired.handle, rfl, Table.find?_empty⟩
    | connecting => exact ⟨expired.handle, rfl, expired.uncached⟩
    | other => exact expired

end Members

namespace WatchedClient
variable {Store : Type} {zk : ZooKeeper Store} {session : Nat}

/-- The session is lost, and nobody has anything to cache. -/
structure CutOff (session : Nat) (watched : WatchedClient Store) : Prop where
  expired : Expired session watched.registry.client
  call : ∀ call ∈ watched.shared.call, call.Fruitless
  handler : ∀ handler ∈ watched.handler, handler.stage.Fruitless

section Steps
variable {watched next : WatchedClient Store}

theorem CutOff.client (refuses : zk.Refuses session) (cut : CutOff session watched)
    {event : SharedEvent Store} {shared : SharedClient Store}
    (moved : interleave zk watched.shared event = some shared) :
    CutOff session (watched.update zk shared) := by
  refine ⟨?_, ?_, cut.handler⟩
  · change Expired session shared.registry.client
    rcases client_interleave moved with same | ⟨call, -, waiting, same⟩ | ⟨answer, -, -, same⟩
    · rw [same]
      exact cut.expired
    · obtain ⟨exit, after, client, thrown⟩ :=
        advance_lost refuses cut.expired (cut.call call waiting)
      have left : stateAfter ((advance zk call).run watched.shared.registry) = after := by
        rw [show (advance zk call).run watched.shared.registry = _ from thrown, stateAfter_error]
      rw [same, left, client]
      exact cut.expired
    · rw [same]
      exact cut.expired.of_cache rfl rfl (uncached_retain cut.expired.uncached _ _)
  · change ∀ call ∈ shared.call, call.Fruitless
    cases SharedClient.transition_of_interleave moved with
    | @begin call idle =>
      unfold SharedClient.perform
      split
      next later after begun => exact beginCall_lost refuses cut.expired call begun
      · intro later none
        cases none
    | @advance call waiting =>
      obtain ⟨exit, after, client, thrown⟩ :=
        advance_lost refuses cut.expired (cut.call call waiting)
      have ran : (advance zk call).run watched.shared.registry = .error exit after := thrown
      rw [SharedClient.perform, ran]
      intro later none
      cases none
    | snapshot rested up => exact cut.call
    | listChildren services answer =>
      rw [call_listNext]
      exact cut.call
    | reconcile answer => exact cut.call
    | change store => exact cut.call

theorem CutOff.handle (cut : CutOff session watched) {path : Bytes} {stage : HandlerStage}
    (handling : watched.handler = some ⟨path, stage⟩) :
    CutOff session (watched.handle zk path stage) := by
  have fruitless : stage.Fruitless := cut.handler ⟨path, stage⟩ handling
  refine ⟨?_, ?_, ?_⟩
  · rcases client_handle zk watched path stage with same | ⟨callback, data, service, rfl, -, -⟩ |
      ⟨callback, service, -, -, same⟩ | ⟨service, -, -, same⟩
    · rw [same]
      exact cut.expired
    · exact fruitless.elim
    · rw [same]
      exact cut.expired.of_cache rfl rfl (uncached_retain cut.expired.uncached _ _)
    · rw [same]
      exact cut.expired.of_cache rfl rfl (uncached_erase cut.expired.uncached _)
  · rw [shared_handle]
    exact cut.call
  · have unhandled : ∀ handler ∈ (none : Option Handler), handler.stage.Fruitless := by
      intro handler none
      cases none
    have onward : ∀ {α : Type} {body : Effect (Registry Store) α} {guarded : Bool}
        {then_ : α → WatchedClient Store → WatchedClient Store},
        (∀ value after, ∀ handler ∈ (then_ value after).handler, handler.stage.Fruitless) →
        ∀ handler ∈ (watched.perform zk body guarded then_).handler, handler.stage.Fruitless := by
      intro α body guarded then_ met
      unfold perform
      split
      · exact met _ _
      · exact unhandled
    cases stage with
    | lookup event =>
      rw [WatchedClient.handle]
      split
      · exact unhandled
      · rintro _ ⟨rfl⟩
        cases event with
        | _ => exact trivial
    | reading callback =>
      have thrown := @run_getNodeData_lost Store zk session watched.registry cut.expired path
      rw [WatchedClient.handle, perform, thrown]
      exact unhandled
    | storing callback data => exact fruitless.elim
    | calling callback data guarded =>
      rintro _ ⟨rfl⟩
      exact trivial
    | forgetting callback =>
      refine onward ?_
      rintro value after _ ⟨rfl⟩
      exact trivial
    | arming guarded => exact onward fun _ _ => unhandled
    | clearing => exact onward fun _ _ => unhandled

/-- A `Watch` that is under way finds the client disconnected. -/
theorem CutOff.arm (cut : CutOff session watched) (path : Bytes) :
    CutOff session (watched.finishWatch zk path) := by
  have unset : (registerWatcher zk path).run watched.registry = .ok false watched.registry := by
    rw [registerWatcher, EStateM.run_bind, EStateM.run_get]
    dsimp only
    rw [cut.expired.disconnected]
    rfl
  rw [finishWatch, unset]
  exact ⟨cut.expired, cut.call, cut.handler⟩

theorem CutOff.step (refuses : zk.Refuses session) {event : WatchEvent Store}
    (cut : CutOff session watched) (unconnected : event ≠ .session .connected)
    (taken : watched.step zk event = some next) : CutOff session next := by
  cases transition_of_step taken with
  | client apart moved => exact cut.client refuses moved
  | @watch path callback registry idle stored =>
    have thrown : (beginWatch path callback).run watched.registry =
        .error (runtimeError (text "ZooKeeper not connected")) watched.registry :=
      bind_error (run_checkConnected_lost cut.expired) _
    rw [thrown] at stored
    cases stored
  | @refuse path callback exit registry idle thrown =>
    have same : (beginWatch path callback).run watched.registry =
        .error (runtimeError (text "ZooKeeper not connected")) watched.registry :=
      bind_error (run_checkConnected_lost cut.expired) _
    rw [same] at thrown
    cases thrown
    exact ⟨cut.expired, cut.call, cut.handler⟩
  | @arm path watching => exact cut.arm path
  | fire event path => exact ⟨cut.expired, cut.call, cut.handler⟩
  | deliver idle queued listening =>
    refine ⟨cut.expired, cut.call, ?_⟩
    rintro _ ⟨rfl⟩
    exact trivial
  | skip idle queued unheard => exact ⟨cut.expired, cut.call, cut.handler⟩
  | handle handling => exact cut.handle handling
  | session state idle =>
    refine ⟨cut.expired.handleSessionEvent ?_, cut.call, cut.handler⟩
    rintro rfl
    exact unconnected rfl

end Steps

section Runs
variable {start expired final : WatchedClient Store} {later : List (WatchEvent Store)}

theorem cutOff_expired (opened : start.registry.client.zkHandle = some session)
    (running : start.registry.client.running = true) (calm : start.shared.call = none)
    (taken : start.step zk (.session .expired) = some expired) : CutOff session expired := by
  cases transition_of_step taken with
  | session state idle =>
    refine ⟨?_, ?_, ?_⟩
    · have handled : start.registry.client.handleSessionEvent .expired =
          { start.registry.client with isConnected := false, serviceCache := ∅ } := by
        simp [handleSessionEvent, opened, running]
      change Expired session (start.registry.client.handleSessionEvent .expired)
      rw [handled]
      exact ⟨opened, rfl, Table.find?_empty⟩
    · intro call waiting
      exact nomatch calm.symm.trans waiting
    · intro handler handling
      exact nomatch idle.symm.trans handling

/-- After its session has expired, a client neither answers anything nor caches anything,
whatever is called and whatever happens, until ZooKeeper reports a connection again. -/
theorem expired_stays_out (refuses : zk.Refuses session)
    (opened : start.registry.client.zkHandle = some session)
    (running : start.registry.client.running = true) (calm : start.shared.call = none)
    (taken : start.step zk (.session .expired) = some expired)
    (unconnected : ∀ event ∈ later, event ≠ .session .connected)
    (reached : run (step zk) expired later = some final) :
    AllThrow zk final.registry ∧
      ∀ service, final.registry.client.serviceCache.find? service = none := by
  have cut : CutOff session final :=
    run_preserves (fun _ _ _ cut allowed taken => cut.step refuses allowed taken)
      (cutOff_expired opened running calm taken) (along_of_forall unconnected expired) reached
  exact ⟨allThrow_of_expired refuses cut.expired, cut.expired.uncached⟩

end Runs

section UserService

/-- The calls of an expired session fail before anything is sent. -/
def expiredTree (gone : Nat) : ZooKeeper ZooTree :=
  { zooTree with
    zooExists session path store :=
      if session = gone then (.error .invalidState, store) else zooTree.zooExists session path store
    zooGetChildren session path store :=
      if session = gone then (.error .invalidState, store)
      else zooTree.zooGetChildren session path store }

theorem expiredTree_refuses (gone : Nat) : (expiredTree gone).Refuses gone where
  zooExists path store := ⟨.invalidState, nofun, by simp [expiredTree]⟩
  zooGetChildren path store := ⟨.invalidState, by simp [expiredTree]⟩

/-- A watcher is told of the instance while the client asks for the service. -/
def watchedExpiry : WatchedClient ZooTree :=
  { staleWatched with
    shared.registry.client.watchers :=
      (∅ : Table Bytes Nat).insert (userServicePath "10.0.0.1:80") 3 }

def lateEvents : List (WatchEvent ZooTree) :=
  [.fire .created (userServicePath "10.0.0.1:80"), .deliver, .handle,
    .client (.begin (.discoverService (text "UserService"))), .handle, .client .advance]

/-- Neither of them gets the instance back into the cache. -/
theorem late_event_lost : ∃ expired final,
    watchedExpiry.step (expiredTree 1) (.session .expired) = some expired ∧
    run (step (expiredTree 1)) expired lateEvents = some final ∧
    AllThrow (expiredTree 1) final.registry ∧
      ∀ service, final.registry.client.serviceCache.find? service = none := by
  have ran : (watchedExpiry.step (expiredTree 1) (.session .expired)).any fun expired =>
      (run (step (expiredTree 1)) expired lateEvents).isSome := by decide +kernel
  obtain ⟨expired, taken, ran⟩ := (Option.any_eq_true _ _).mp ran
  obtain ⟨final, reached⟩ := Option.isSome_iff_exists.mp ran
  have unconnected : ∀ event ∈ lateEvents, event ≠ .session .connected := by
    simp [lateEvents]
  exact ⟨expired, final, taken, reached,
    expired_stays_out (expiredTree_refuses 1) rfl rfl rfl taken unconnected reached⟩

end UserService

end WatchedClient

end Xrpc
