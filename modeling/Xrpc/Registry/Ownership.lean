import Xrpc.Registry.CallFrames
import Xrpc.Registry.Tree

/-! Which registrations outlive the sessions of other clients. -/

namespace Xrpc

open Support ZookeeperClient

/-- The next step of the call writes the node of an ephemeral `Register`. -/
def OwnCall.registers : OwnCall → Bool
  | .writing _ _ ephemeral _ => ephemeral
  | _ => false

/-- A call in progress; `wrote` if it is an ephemeral `Register` that has written its node. -/
structure ClusterCall where
  stage : OwnCall
  wrote : Bool := false

/-- The node that the call has written. -/
def ClusterCall.written : ClusterCall → Option Bytes
  | ⟨.caching path _, true⟩ => some (cString path)
  | _ => none

/-- The clients of one store. Sessions are numbered as they are opened.
`registered` has a path and a session for each ephemeral `Register` that returned
while its session was alive, until that session ends or `Delete` is called on the path. -/
structure Cluster (Store : Type) where
  store : Store
  clients : Nat → ZookeeperClient := fun _ => {}
  /-- The calls that wait for `mutex_`. -/
  waiting : List (Nat × DiscoveryCall) := []
  calls : Table Nat ClusterCall := ∅
  sessions : Nat := 0
  ended : List Nat := []
  registered : List (Bytes × Nat) := []

inductive ClusterEvent where
  /-- `Start`, and the connection it waits for. -/
  | start (client : Nat)
  | stop (client : Nat)
  | expire (session : Nat)
  | sessionEvent (client : Nat) (state : SessionState)
  /-- A thread calls the client. -/
  | call (client : Nat) (call : DiscoveryCall)
  /-- The call gets `mutex_`. -/
  | begin (client : Nat) (call : DiscoveryCall)
  /-- The next step of the call in progress. -/
  | advance (client : Nat)
  | heartbeatRound (client : Nat)

namespace Cluster
variable {Store α : Type}

/-- The store and one client. -/
def view (cluster : Cluster Store) (client : Nat) : Registry Store :=
  ⟨cluster.store, cluster.clients client⟩

def leave (cluster : Cluster Store) (client : Nat) (after : Registry Store) : Cluster Store :=
  { cluster with
    store := after.store
    clients := Function.update cluster.clients client after.client }

/-- The call of a client goes on with `stage`. -/
def goOn (cluster : Cluster Store) (client : Nat) (call : ClusterCall) : Cluster Store :=
  { cluster with calls := cluster.calls.insert client call }

/-- The call of a client is over. -/
def settle (cluster : Cluster Store) (client : Nat) : Cluster Store :=
  { cluster with calls := cluster.calls.erase client }

/-- A `Register` that has written the node at `path` returns. -/
def returned (cluster : Cluster Store) (client : Nat) (path : Bytes) : Cluster Store :=
  match (cluster.clients client).zkHandle with
  | some session =>
    if session ∈ cluster.ended then cluster
    else { cluster with registered := (path, session) :: cluster.registered }
  | none => cluster

/-- A client runs a part of a call. -/
def perform (cluster : Cluster Store) (client : Nat) (wrote : Bool) (written : Option Bytes)
    (body : Effect (Registry Store) (Option OwnCall)) : Cluster Store :=
  match body.run (cluster.view client) with
  | .ok (some stage) after => (cluster.leave client after).goOn client ⟨stage, wrote⟩
  | .ok none after =>
    let settled := (cluster.leave client after).settle client
    written.elim settled (settled.returned client)
  | .error _ after => (cluster.leave client after).settle client

/-- `Delete` is called. -/
def called (cluster : Cluster Store) : DiscoveryCall → Cluster Store
  | .delete path =>
    { cluster with
      registered := cluster.registered.filter fun entry => entry.1 ≠ cString path }
  | _ => cluster

variable (zk : ZooKeeper Store)

def endSession (cluster : Cluster Store) (session : Nat) : Cluster Store :=
  { cluster with
    store := zk.endSession session cluster.store
    ended := session :: cluster.ended
    registered := cluster.registered.filter fun entry => entry.2 ≠ session }

/-- `Start` and the calls lock `mutex_`, `Stop` does not. -/
def step (cluster : Cluster Store) : ClusterEvent → Option (Cluster Store)
  | .start client =>
    if cluster.calls.find? client = none ∧ (cluster.clients client).zkHandle = none then
      some { cluster with
        clients := Function.update cluster.clients client { cluster.clients client with
          zkHandle := some cluster.sessions, isConnected := true, running := true }
        sessions := cluster.sessions + 1 }
    else none
  | .stop client =>
    match (cluster.clients client).zkHandle with
    | none => none
    | some session =>
      some { cluster.endSession zk session with
        clients := Function.update cluster.clients client (cluster.clients client).stopped }
  | .expire session =>
    if session < cluster.sessions then some (cluster.endSession zk session) else none
  | .sessionEvent client state =>
    some { cluster with
      clients := Function.update cluster.clients client
        ((cluster.clients client).handleSessionEvent state) }
  | .call client call =>
    some { cluster.called call with waiting := (client, call) :: cluster.waiting }
  | .begin client call =>
    if (client, call) ∈ cluster.waiting ∧ cluster.calls.find? client = none then
      let begun := { cluster with waiting := cluster.waiting.erase (client, call) }
      some (begun.perform client false none (beginCall zk call))
    else none
  | .advance client =>
    (cluster.calls.find? client).map fun call =>
      cluster.perform client call.stage.registers call.written (advance zk call.stage)
  | .heartbeatRound client =>
    some (cluster.leave client (stateAfter ((heartbeatRound zk).run (cluster.view client))))

/-- An ephemeral `Register` does not update the ephemeral node of another session, and
`zoo_delete` meets no node that such a `Register` has written or returned with since
`Delete` was called. -/
def Uncontested (cluster : Cluster Store) (client : Nat) : OwnCall → Prop
  | .writing path _ true (.ok _) => ∀ node ∈ zk.contents cluster.store (cString path),
      node.owner = none ∨ node.owner = (cluster.clients client).zkHandle
  | .deleting path => (∀ entry ∈ cluster.registered, entry.1 ≠ cString path) ∧
      ∀ other ∈ cluster.calls.keys, ∀ call ∈ cluster.calls.find? other,
        call.written ≠ some (cString path)
  | _ => True

def Undisputed (cluster : Cluster Store) : ClusterEvent → Prop
  | .advance client => ∀ call ∈ cluster.calls.find? client,
      cluster.Uncontested zk client call.stage
  | _ => True

instance (cluster : Cluster Store) (client : Nat) :
    ∀ stage, Decidable (cluster.Uncontested zk client stage)
  | .writing path _ true (.ok _) =>
    inferInstanceAs (Decidable (∀ node ∈ zk.contents cluster.store (cString path),
      node.owner = none ∨ node.owner = (cluster.clients client).zkHandle))
  | .deleting path => inferInstanceAs (Decidable ((∀ entry ∈ cluster.registered,
      entry.1 ≠ cString path) ∧ ∀ other ∈ cluster.calls.keys,
        ∀ call ∈ cluster.calls.find? other, call.written ≠ some (cString path)))
  | .writing _ _ true (.error _) | .writing _ _ false _ | .finding _ _ _ | .caching _ _
  | .fetching _ | .listing _ | .reading _ _ _ | .forgetting _ => .isTrue trivial

instance (cluster : Cluster Store) : ∀ event, Decidable (cluster.Undisputed zk event)
  | .advance client => inferInstanceAs (Decidable (∀ call ∈ cluster.calls.find? client,
      cluster.Uncontested zk client call.stage))
  | .start _ | .stop _ | .expire _ | .sessionEvent _ _ | .call _ _ | .begin _ _ |
    .heartbeatRound _ => .isTrue trivial

end Cluster

namespace ZookeeperClient
variable {Store : Type} {zk : ZooKeeper Store}

theorem persists_beginCall (lawful : zk.Lawful) (call : DiscoveryCall) :
    Evolves ZooKeeper.Persists (held zk) (beginCall zk call) := by
  have unseen := unseen_held lawful
  cases call with
  | register path data ephemeral =>
    exact (persists_beginRegister lawful path).bind ZooKeeper.Persists.trans fun _ =>
      persists_of_keeps (Keeps.pure _)
  | discover path =>
    refine persists_of_keeps ((keeps_serviceOf path).bind fun _ => Keeps.get.bind fun _ => ?_)
    dsimp only
    split
    · exact Keeps.pure _
    · exact Keeps.pure _
  | discoverService service =>
    refine persists_of_keeps (Keeps.get.bind fun _ => ?_)
    split
    · exact Keeps.pure _
    · exact Keeps.pure _
  | delete path =>
    refine persists_of_keeps (keeps_checkStarted.bind fun _ => (unseen.zooExists _).bind ?_)
    intro found
    split
    · exact Keeps.pure _
    · exact Keeps.raise _
    · exact Keeps.pure _

/-- No step of a call but `zoo_delete` takes a node away. -/
theorem persists_advance (lawful : zk.Lawful) {stage : OwnCall}
    (other : ∀ path, stage ≠ .deleting path) :
    Evolves ZooKeeper.Persists (held zk) (advance zk stage) := by
  have unseen := unseen_held lawful
  cases stage with
  | finding path data ephemeral =>
    exact persists_of_keeps ((unseen.zooExists _).bind fun _ => Keeps.pure _)
  | writing path data ephemeral stat =>
    exact (evolves_writeNode ZooKeeper.Persists.refl ZooKeeper.Persists.trans
      (persists_zooSet lawful _ _) (persists_zooCreate lawful _ _ _) stat).bind
      ZooKeeper.Persists.trans fun _ => persists_of_keeps (Keeps.pure _)
  | caching path data =>
    exact persists_of_keeps ((keeps_cacheInstance unseen path data).bind fun _ => Keeps.pure _)
  | fetching path =>
    exact persists_of_keeps ((keeps_getNodeData (unseen.zooGet _)).bind fun _ => Keeps.pure _)
  | listing service =>
    exact persists_of_keeps
      ((keeps_attempt (unseen.zooGetChildren _) _).bind fun _ => Keeps.pure _)
  | reading service unread found =>
    cases unread with
    | nil => exact persists_of_keeps ((unseen.cache _).bind fun _ => Keeps.pure _)
    | cons path rest =>
      have read : Keeps (held zk) (readInstance zk path) := fun state =>
        (view_catchStd (fun _ => Keeps.pure _) state).trans
          ((keeps_getNodeData (unseen.zooGet _)).bind (fun _ => Keeps.pure _) state)
      exact persists_of_keeps (read.bind fun _ => Keeps.pure _)
  | deleting path => exact absurd rfl (other path)
  | forgetting path =>
    exact persists_of_keeps (((keeps_serviceOf path).bind fun _ =>
      (unseen.cache _).bind fun _ => unseen.watchers _).bind fun _ => Keeps.pure _)

theorem others_deleting (lawful : zk.Lawful) (path : Bytes) {other : Bytes}
    (different : other ≠ cString path) :
    Keeps (fun state => held zk state other) (advance zk (.deleting path)) :=
  (keeps_attempt (others_zooDelete lawful path different) _).bind fun _ => Keeps.pure _

theorem handle_advance (stage : OwnCall) :
    Keeps (fun state => state.client.zkHandle) (advance zk stage) := by
  intro state
  have changed := client_advance zk stage state
  dsimp only at changed ⊢
  rcases changed with same | ⟨_, _, _, -, -, same⟩ | ⟨_, _, -, same⟩ | ⟨_, _, -, -, same⟩
  · rw [same]
  · rw [same]
  · rw [same]
  · rw [same]

end ZookeeperClient

namespace Cluster
variable {Store : Type} {zk : ZooKeeper Store} {cluster next : Cluster Store} {path : Bytes}
  {session client : Nat}

/-- The node at `path` is there, and does not go with another session. -/
def Holds (zk : ZooKeeper Store) (cluster : Cluster Store) (path : Bytes) (session : Nat) : Prop :=
  ∃ node, zk.contents cluster.store path = some node ∧
    (node.owner = none ∨ node.owner = some session)

/-- An ephemeral `Register` in a live session has returned, or has written its node. -/
def Stands (cluster : Cluster Store) (path : Bytes) (session : Nat) : Prop :=
  (path, session) ∈ cluster.registered ∨
    session ∉ cluster.ended ∧ ∃ client call, cluster.calls.find? client = some call ∧
      call.written = some path ∧ (cluster.clients client).zkHandle = some session

def Owned (zk : ZooKeeper Store) (cluster : Cluster Store) : Prop :=
  ∀ path session, cluster.Stands path session → cluster.Holds zk path session

theorem Owned.persists (owned : cluster.Owned zk)
    (kept : ZooKeeper.Persists (zk.contents cluster.store) (zk.contents next.store))
    (stood : ∀ path session, next.Stands path session → cluster.Stands path session) :
    next.Owned zk := by
  intro path session stands
  obtain ⟨node, found, owner⟩ := owned path session (stood path session stands)
  obtain ⟨after, present, same⟩ := kept path node found
  exact ⟨after, present, by rwa [same]⟩

/-- What stands has stood before, unless a call has written its node meanwhile or a client has
another session. -/
theorem Stands.of_calls (stands : next.Stands path session)
    (registered : ∀ entry ∈ next.registered, entry ∈ cluster.registered)
    (ended : ∀ other ∈ cluster.ended, other ∈ next.ended)
    (calls : ∀ client call, next.calls.find? client = some call → call.written = some path →
      (next.clients client).zkHandle = some session →
      cluster.calls.find? client = some call ∧ (cluster.clients client).zkHandle = some session) :
    cluster.Stands path session := by
  rcases stands with listed | ⟨alive, client, call, found, written, handle⟩
  · exact .inl (registered _ listed)
  · obtain ⟨before, same⟩ := calls client call found written handle
    exact .inr ⟨fun gone => alive (ended session gone), client, call, before, written, same⟩

theorem handle_update {clients : Nat → ZookeeperClient} {after : ZookeeperClient}
    (kept : after.zkHandle = (clients client).zkHandle) (other : Nat) :
    (Function.update clients client after other).zkHandle = (clients other).zkHandle := by
  by_cases same : other = client
  · subst other
    rw [Function.update_self, kept]
  · rw [Function.update_of_ne same]

theorem handle_sessionEvent (state : SessionState) (client : ZookeeperClient) :
    (client.handleSessionEvent state).zkHandle = client.zkHandle := by
  unfold handleSessionEvent
  split
  · rfl
  · cases state <;> rfl

/-- A change to the clients that leaves them their sessions. -/
theorem Owned.update (owned : cluster.Owned zk) {after : Registry Store}
    (kept : ZooKeeper.Persists (zk.contents cluster.store) (zk.contents after.store))
    (handle : after.client.zkHandle = (cluster.clients client).zkHandle) :
    (cluster.leave client after).Owned zk := by
  refine owned.persists kept fun path session stands => ?_
  refine stands.of_calls (fun _ listed => listed) (fun _ gone => gone) ?_
  intro other call found _ opened
  exact ⟨found, (handle_update handle other).symm.trans opened⟩

section Sessions

theorem Owned.endSession (lawful : zk.Lawful) (owned : cluster.Owned zk) (session : Nat)
    (stood : ∀ path other, next.Stands path other →
      other ≠ session ∧ cluster.Stands path other)
    (store : next.store = zk.endSession session cluster.store) : next.Owned zk := by
  intro path other stands
  obtain ⟨different, before⟩ := stood path other stands
  obtain ⟨node, found, owner⟩ := owned path other before
  have survives : node.owner ≠ some session := by
    intro same
    rcases owner with nobody | mine
    · cases nobody.symm.trans same
    · exact different (Option.some.inj (mine.symm.trans same))
  refine ⟨node, ?_, owner⟩
  rw [store, lawful.endSession_contents, found, Option.filter_some]
  simp [survives]

theorem stands_endSession {clients : Nat → ZookeeperClient} {other : Nat}
    (handles : ∀ client, (clients client).zkHandle = some other →
      (cluster.clients client).zkHandle = some other)
    (stands : { cluster.endSession zk session with clients }.Stands path other) :
    other ≠ session ∧ cluster.Stands path other := by
  constructor
  · rcases stands with listed | ⟨alive, -⟩
    · exact of_decide_eq_true (List.mem_filter.mp listed).2
    · exact fun same => alive (same ▸ List.mem_cons_self)
  · refine stands.of_calls (fun _ listed => List.mem_of_mem_filter listed)
      (fun _ gone => List.mem_cons_of_mem _ gone) ?_
    exact fun client call found _ opened => ⟨found, handles client opened⟩

end Sessions

/-- What is said to be written has been written by the call in progress. -/
def Wrote (cluster : Cluster Store) (client : Nat) (written : Option Bytes) : Prop :=
  ∀ done ∈ written, ∃ call, cluster.calls.find? client = some call ∧ call.written = some done

theorem wrote_none : cluster.Wrote client none := by
  intro done none
  cases none

section Calls
variable {wrote : Bool} {written : Option Bytes}
  {body : Effect (Registry Store) (Option OwnCall)}

theorem stands_settle {after : Registry Store}
    (handle : after.client.zkHandle = (cluster.clients client).zkHandle)
    (stands : ((cluster.leave client after).settle client).Stands path session) :
    cluster.Stands path session := by
  refine stands.of_calls (fun _ listed => listed) (fun _ gone => gone) ?_
  intro other call found _ opened
  have different : other ≠ client := by
    intro same
    rw [settle, same, Table.find?_erase] at found
    cases found
  rw [settle, Table.find?_erase_ne _ different] at found
  exact ⟨found, (handle_update handle other).symm.trans opened⟩

theorem stands_goOn {after : Registry Store} {call : ClusterCall}
    (handle : after.client.zkHandle = (cluster.clients client).zkHandle)
    (stands : ((cluster.leave client after).goOn client call).Stands path session) :
    cluster.Stands path session ∨
      call.written = some path ∧ (cluster.clients client).zkHandle = some session := by
  rcases stands with listed | ⟨alive, other, current, found, written, opened⟩
  · exact .inl (.inl listed)
  · have before : (cluster.clients other).zkHandle = some session :=
      (handle_update handle other).symm.trans opened
    by_cases same : other = client
    · subst other
      rw [goOn, Table.find?_insert] at found
      cases found
      exact .inr ⟨written, before⟩
    · rw [goOn, Table.find?_insert_ne _ same] at found
      exact .inl (.inr ⟨alive, other, current, found, written, before⟩)

/-- What a `Register` records when it returns is what it has written. -/
theorem stands_returned {written : Bytes}
    (stands : (cluster.returned client written).Stands path session) :
    cluster.Stands path session ∨ written = path ∧ session ∉ cluster.ended ∧
      (cluster.clients client).zkHandle = some session := by
  unfold returned at stands
  split at stands
  next own opened =>
    split at stands
    · exact .inl stands
    next alive =>
      rcases stands with listed | waiting
      · rcases List.mem_cons.mp listed with new | old
        · cases new
          exact .inr ⟨rfl, alive, opened⟩
        · exact .inl (.inl old)
      · exact .inl (.inr waiting)
  · exact .inl stands

/-- Only a step that writes the node of a `Register` lets more stand. -/
theorem stands_perform (handle : Keeps (fun state => state.client.zkHandle) body)
    (current : cluster.Wrote client written)
    (stands : (cluster.perform client wrote written body).Stands path session) :
    cluster.Stands path session ∨ ∃ stage after,
      body.run (cluster.view client) = .ok (some stage) after ∧
      (ClusterCall.mk stage wrote).written = some path ∧
      (cluster.clients client).zkHandle = some session := by
  have kept := handle (cluster.view client)
  unfold perform at stands
  cases ran : body.run (cluster.view client) with
  | error exit after =>
    rw [ran] at stands kept
    exact .inl (stands_settle kept stands)
  | ok outcome after =>
    rw [ran] at stands kept
    cases outcome with
    | some stage =>
      rcases stands_goOn kept stands with before | ⟨now, opened⟩
      · exact .inl before
      · exact .inr ⟨stage, after, rfl, now, opened⟩
    | none =>
      cases written with
      | none => exact .inl (stands_settle kept stands)
      | some done =>
        rcases stands_returned stands with before | ⟨same, alive, opened⟩
        · exact .inl (stands_settle kept before)
        · subst same
          obtain ⟨call, found, written⟩ := current done rfl
          have before : (cluster.clients client).zkHandle = some session :=
            (handle_update kept client).symm.trans opened
          exact .inl (.inr ⟨alive, client, call, found, written, before⟩)

theorem store_perform : (cluster.perform client wrote written body).store =
    (stateAfter (body.run (cluster.view client))).store := by
  unfold perform
  cases body.run (cluster.view client) with
  | error exit after => rfl
  | ok outcome after =>
    cases outcome with
    | some stage => rfl
    | none =>
      cases written with
      | none => rfl
      | some done =>
        dsimp only [Option.elim_some]
        unfold returned
        split
        · split
          · rfl
          · rfl
        · rfl

theorem persists_perform (kept : Evolves ZooKeeper.Persists (held zk) body) :
    ZooKeeper.Persists (zk.contents cluster.store)
      (zk.contents (cluster.perform client wrote written body).store) := by
  rw [store_perform]
  exact kept (cluster.view client)

theorem written_false (stage : OwnCall) : (ClusterCall.mk stage false).written = none := by
  cases stage <;> rfl

/-- A part of a call that neither writes the node of a `Register` nor takes one away. -/
theorem Owned.perform (owned : cluster.Owned zk)
    (handle : Keeps (fun state => state.client.zkHandle) body)
    (kept : Evolves ZooKeeper.Persists (held zk) body)
    (current : cluster.Wrote client written) :
    (cluster.perform client false written body).Owned zk := by
  refine owned.persists (persists_perform kept) fun path session stands => ?_
  rcases stands_perform handle current stands with before | ⟨stage, after, -, now, -⟩
  · exact before
  · rw [written_false] at now
    cases now

end Calls

section Steps
variable {call : ClusterCall}

/-- What a `Register` has written is there, and nobody else's. -/
theorem owned_write (lawful : zk.Lawful) {path data : Bytes} {stat : Except ZooCode Nat}
    (uncontested : cluster.Uncontested zk client (.writing path data true stat))
    {stage : OwnCall} {after : Registry Store}
    (ran : (advance zk (.writing path data true stat)).run (cluster.view client) =
      .ok (some stage) after)
    (opened : (cluster.clients client).zkHandle = some session) :
    stage = .caching path data ∧ ∃ node, held zk after (cString path) = some node ∧
      (node.owner = none ∨ node.owner = some session) := by
  rw [advance, EStateM.run_bind] at ran
  cases answered : (writeNode zk path data true stat).run (cluster.view client) with
  | error exit between => simp [answered] at ran
  | ok done between =>
    rw [answered] at ran
    cases ran
    obtain ⟨own, handle, -, wrote⟩ := writeNode_returned lawful answered
    have same : own = session := Option.some.inj (handle.symm.trans opened)
    subst own
    refine ⟨rfl, ?_⟩
    cases stat with
    | ok version =>
      obtain ⟨node, found, -, changed⟩ := wrote
      have owner := uncontested node found
      rw [opened] at owner
      exact ⟨_, (congrFun changed _).trans (Function.update_self _ _ _), owner⟩
    | error code =>
      obtain ⟨-, changed⟩ := wrote
      exact ⟨_, (congrFun changed _).trans (Function.update_self _ _ _), .inr rfl⟩

theorem Owned.write (lawful : zk.Lawful) (owned : cluster.Owned zk) {path data : Bytes}
    {ephemeral : Bool} {stat : Except ZooCode Nat} {written : Option Bytes}
    (uncontested : cluster.Uncontested zk client (.writing path data ephemeral stat))
    (current : cluster.Wrote client written) :
    (cluster.perform client ephemeral written
      (advance zk (.writing path data ephemeral stat))).Owned zk := by
  have handle : Keeps _ (advance zk (.writing path data ephemeral stat)) := handle_advance _
  have kept : Evolves _ _ (advance zk (.writing path data ephemeral stat)) :=
    persists_advance lawful fun _ => OwnCall.noConfusion
  cases ephemeral with
  | false => exact owned.perform handle kept current
  | true =>
    intro other session stands
    rcases stands_perform handle current stands with before | ⟨stage, after, ran, now, opened⟩
    · obtain ⟨node, found, owner⟩ := owned other session before
      obtain ⟨same, present, sameOwner⟩ := persists_perform kept other node found
      exact ⟨same, present, by rwa [sameOwner]⟩
    · obtain ⟨caching, node, found, owner⟩ := owned_write lawful uncontested ran opened
      subst caching
      cases now
      refine ⟨node, ?_, owner⟩
      rw [store_perform, ran]
      exact found

theorem Owned.delete (lawful : zk.Lawful) (owned : cluster.Owned zk) {path : Bytes}
    {written : Option Bytes} (uncontested : cluster.Uncontested zk client (.deleting path))
    (current : cluster.Wrote client written) :
    (cluster.perform client false written (advance zk (.deleting path))).Owned zk := by
  obtain ⟨unregistered, unwritten⟩ := uncontested
  intro other session stands
  have before : cluster.Stands other session := by
    rcases stands_perform (handle_advance _) current stands with before | ⟨stage, _, -, now, -⟩
    · exact before
    · rw [written_false] at now
      cases now
  have different : other ≠ cString path := by
    rintro rfl
    rcases before with listed | ⟨-, registrant, call, found, written, -⟩
    · exact unregistered _ listed rfl
    · exact unwritten registrant (Table.mem_keys_iff.mpr ⟨call, found⟩) call found written
  obtain ⟨node, found, owner⟩ := owned other session before
  refine ⟨node, ?_, owner⟩
  rw [store_perform]
  exact (others_deleting lawful path different (cluster.view client)).trans found

theorem Owned.advance (lawful : zk.Lawful) (owned : cluster.Owned zk)
    (undisputed : cluster.Undisputed zk (.advance client))
    (taken : cluster.step zk (.advance client) = some next) : next.Owned zk := by
  obtain ⟨⟨stage, wrote⟩, found, rfl⟩ := Option.map_eq_some_iff.mp taken
  have uncontested := undisputed _ found
  have current : cluster.Wrote client (ClusterCall.mk stage wrote).written :=
    fun done written => ⟨_, found, written⟩
  cases stage with
  | writing path data ephemeral stat => exact owned.write lawful uncontested current
  | deleting path => exact owned.delete lawful uncontested current
  | _ =>
    exact owned.perform (handle_advance _)
      (persists_advance lawful fun _ => OwnCall.noConfusion) current

theorem Owned.step (lawful : zk.Lawful) {event : ClusterEvent} (owned : cluster.Owned zk)
    (undisputed : cluster.Undisputed zk event)
    (taken : cluster.step zk event = some next) : next.Owned zk := by
  cases event with
  | start client =>
    simp only [Cluster.step, Option.ite_none_right_eq_some, Option.some.injEq] at taken
    obtain ⟨⟨idle, -⟩, rfl⟩ := taken
    refine owned.persists (ZooKeeper.Persists.refl _) fun path session stands => ?_
    refine stands.of_calls (fun _ listed => listed) (fun _ gone => gone) ?_
    intro other call found _ opened
    have different : other ≠ client := by
      rintro rfl
      cases idle.symm.trans found
    dsimp only at opened
    rw [Function.update_of_ne different] at opened
    exact ⟨found, opened⟩
  | stop client =>
    cases opened : (cluster.clients client).zkHandle with
    | none => simp [Cluster.step, opened] at taken
    | some session =>
      simp only [Cluster.step, opened, Option.some.injEq] at taken
      subst next
      refine owned.endSession lawful session (fun path other stands => ?_) rfl
      refine stands_endSession (fun registrant handle => ?_) stands
      have different : registrant ≠ client := by
        rintro rfl
        rw [Function.update_self] at handle
        cases handle
      rwa [Function.update_of_ne different] at handle
  | expire session =>
    simp only [Cluster.step, Option.ite_none_right_eq_some, Option.some.injEq] at taken
    obtain ⟨-, rfl⟩ := taken
    exact owned.endSession lawful session
      (fun path other stands => stands_endSession (fun _ handle => handle) stands) rfl
  | sessionEvent client state =>
    cases taken
    have same := handle_sessionEvent state (cluster.clients client)
    have left : (cluster.leave client ⟨cluster.store, _⟩).Owned zk :=
      owned.update (ZooKeeper.Persists.refl _) same
    exact left
  | call client call =>
    cases taken
    cases call with
    | delete path =>
      refine owned.persists (ZooKeeper.Persists.refl _) fun path session stands => ?_
      exact stands.of_calls (fun _ listed => List.mem_of_mem_filter listed) (fun _ gone => gone)
        fun _ _ found _ opened => ⟨found, opened⟩
    | _ => exact owned
  | begin client call =>
    simp only [Cluster.step, Option.ite_none_right_eq_some, Option.some.injEq] at taken
    obtain ⟨-, rfl⟩ := taken
    have begun : { cluster with waiting := cluster.waiting.erase (client, call) }.Owned zk := owned
    exact begun.perform ((client_beginCall call).observe (·.zkHandle))
      (persists_beginCall lawful call) wrote_none
  | advance client => exact owned.advance lawful undisputed taken
  | heartbeatRound client =>
    cases taken
    have kept : Keeps (held zk) (ZookeeperClient.heartbeatRound zk) :=
      keeps_heartbeatRound (unseen_held lawful)
    exact owned.update (persists_of_keeps kept (cluster.view client))
      (keeps_heartbeatRound unseen_handle _)

/-- A registration without dispute lasts as long as its session, whatever other
sessions do. -/
theorem registered_present (lawful : zk.Lawful) {store : Store} {events : List ClusterEvent}
    (undisputed : Along (Cluster.step zk) (Cluster.Undisputed zk) { store } events)
    (reached : run (Cluster.step zk) { store } events = some cluster) :
    ∀ entry ∈ cluster.registered, (zk.contents cluster.store entry.1).isSome := by
  have start : Owned zk { store } := by
    rintro path session (listed | ⟨-, client, call, found, -⟩)
    · cases listed
    · cases found
  have kept : ∀ (before : Cluster Store) event next, Owned zk before →
      before.Undisputed zk event → before.step zk event = some next → Owned zk next :=
    fun _ _ _ owned good taken => owned.step lawful good taken
  have owned := run_preserves kept start undisputed reached
  intro entry listed
  obtain ⟨node, found, -⟩ := owned entry.1 entry.2 (.inl listed)
  exact Option.isSome_iff_exists.mpr ⟨node, found⟩

end Steps

end Cluster

section Takeover

def userService : Bytes := text "/UserService/127.0.0.1:8080"

/-- A client registers the service with all the steps of the call. -/
def registration (client : Nat) : List ClusterEvent :=
  let call := .register userService (text "methods=Login") true
  .call client call :: .begin client call :: List.replicate 3 (.advance client)

/-- A server registers, and is started again before its old session expires. -/
def restart : List ClusterEvent :=
  .start 0 :: registration 0 ++ .start 1 :: registration 1 ++ [.expire 0]

/-- The old session expires first. -/
def orderlyRestart : List ClusterEvent :=
  .start 0 :: registration 0 ++ [.expire 0, .start 1] ++ registration 1

theorem restarted_server_vanishes : ¬ ∀ events cluster,
    run (Cluster.step zooTree) { store := ZooTree.empty } events = some cluster →
      ∀ entry ∈ cluster.registered, (zooTree.contents cluster.store entry.1).isSome := by
  intro present
  have vanished : (run (Cluster.step zooTree) { store := ZooTree.empty } restart).any
      fun cluster => (userService, 1) ∈ cluster.registered ∧
        zooTree.contents cluster.store userService = none := by decide +kernel
  obtain ⟨cluster, reached, gone⟩ := (Option.any_eq_true _ _).mp vanished
  obtain ⟨listed, missing⟩ := of_decide_eq_true gone
  have found := present restart cluster reached _ listed
  rw [missing] at found
  cases found

/-- A `Delete` of client 1, called before client 0 registers again, ends after that. -/
example : (run (Cluster.step zooTree) { store := ZooTree.empty }
    (.start 0 :: registration 0 ++
      [.start 1, .call 1 (.delete userService), .begin 1 (.delete userService)] ++
      registration 0 ++ [.advance 1])).any fun cluster =>
    (userService, 0) ∈ cluster.registered ∧
      zooTree.contents cluster.store userService = none := by decide +kernel

theorem orderly_restart_present : ∃ cluster,
    run (Cluster.step zooTree) { store := ZooTree.empty } orderlyRestart = some cluster ∧
      cluster.registered = [(userService, 1)] ∧
      ∀ entry ∈ cluster.registered, (zooTree.contents cluster.store entry.1).isSome := by
  have ran : (run (Cluster.step zooTree) { store := ZooTree.empty } orderlyRestart).any
      fun cluster => cluster.registered = [(userService, 1)] := by decide +kernel
  obtain ⟨cluster, reached, listed⟩ := (Option.any_eq_true _ _).mp ran
  exact ⟨cluster, reached, of_decide_eq_true listed,
    Cluster.registered_present ZooTree.lawful (by decide +kernel) reached⟩

end Takeover

end Xrpc
