import Xrpc.Registry.Purge
import Mathlib.Data.Prod.Lex

/-! The heartbeat thread beside the calls of the client. The calls exclude each
other, so at most one of them is under way between two steps of the heartbeat. -/

namespace Xrpc

open Support ZookeeperClient

/-- A call under way, by what it does next. -/
inductive OwnCall where
  | finding (path data : Bytes) (ephemeral : Bool)
  | writing (path data : Bytes) (ephemeral : Bool) (stat : Except ZooCode Nat)
  | caching (path data : Bytes)
  | fetching (path : Bytes)
  | listing (service : Bytes)
  | reading (service : Bytes) (unread : List Bytes) (found : List (Bytes × Bytes))
  | deleting (path : Bytes)
  | forgetting (path : Bytes)

/-- `services` is what is left of the snapshot of the round, and `answer` a
service with the paths of its children, not yet compared with the cache. -/
structure SharedClient (Store : Type) where
  registry : Registry Store
  call : Option OwnCall := none
  services : List Bytes := []
  answer : Option (Bytes × List Bytes) := none

/-- The store changes at the hands of other clients. -/
inductive SharedEvent (Store : Type) where
  | begin (call : DiscoveryCall)
  | advance
  | snapshot
  | listChildren
  | reconcile
  | change (store : Store)

namespace ZookeeperClient
variable {Store : Type} (zk : ZooKeeper Store)

/-- A child that cannot be read is skipped. -/
def readInstance (path : Bytes) : Effect (Registry Store) (List (Bytes × Bytes)) :=
  catchStd (do return [(path, ← getNodeData zk path)]) fun _ => pure []

/-- A call up to its first access to the store that can be followed by another. -/
def beginCall : DiscoveryCall → Effect (Registry Store) (Option OwnCall)
  | .register path data ephemeral => do
    beginRegister zk path
    return some (.finding path data ephemeral)
  | .discover path => do
    let service ← serviceOf path
    let cached := ((← get).client.serviceCache.find? service).getD []
    match cached.find? fun entry => entry.1 = path with
    | some _ => return none
    | none => return some (.fetching path)
  | .discoverService service => do
    match (← get).client.serviceCache.find? service with
    | some _ => return none
    | none => return some (.listing service)
  | .delete path => do
    checkStarted
    match ← request (zk.zooExists · (cString path)) with
    | .error .noNode => return none
    | .error ret => raise (runtimeError
        (text "ZookeeperClient::Delete - Error checking node existence: " ++ zk.zerror ret))
    | .ok _ => return some (.deleting path)

/-- One access to the store or one section under the mutex of the cache. -/
def advance : OwnCall → Effect (Registry Store) (Option OwnCall)
  | .finding path data ephemeral => do
    return some (.writing path data ephemeral (← findNode zk path))
  | .writing path data ephemeral stat => do
    writeNode zk path data ephemeral stat
    return some (.caching path data)
  | .caching path data => do
    cacheInstance path data
    return none
  | .fetching path => do return some (.caching path (← getNodeData zk path))
  | .listing service => do
    let children ← attempt zk (zk.zooGetChildren · (cString (47 :: service)))
      "Failed to get children: "
    return some (.reading service (children.map (instancePath service)) [])
  | .reading service (path :: unread) found => do
    return some (.reading service unread (found ++ (← readInstance zk path)))
  | .reading service [] found => do
    modifyCache (·.insert service found)
    return none
  | .deleting path => do
    attempt zk (zk.zooDelete · (cString path)) "ZookeeperClient::Delete - Failed to delete node: "
    return some (.forgetting path)
  | .forgetting path => do
    forgetInstance path
    return none

end ZookeeperClient

namespace SharedClient
variable {Store : Type}

/-- A call that throws is over. -/
def perform (machine : SharedClient Store) (body : Effect (Registry Store) (Option OwnCall)) :
    SharedClient Store :=
  match body.run machine.registry with
  | .ok call registry => { machine with registry, call }
  | .error _ registry => { machine with registry, call := none }

/-- The heartbeat asks for the children of the next service, and goes on to the
one after it if there is no answer. -/
def listNext (zk : ZooKeeper Store) (machine : SharedClient Store) (service : Bytes)
    (rest : List Bytes) : SharedClient Store :=
  match (request (zk.zooGetChildren · (cString (47 :: service)))).run machine.registry with
  | .ok (.ok children) registry =>
    { machine with registry, services := rest, answer := some (service, children.map (instancePath service)) }
  | .ok (.error _) registry | .error _ registry => { machine with registry, services := rest }

def reconcile (machine : SharedClient Store) (service : Bytes) (currentPaths : List Bytes) :
    SharedClient Store :=
  { machine with
    registry.client.serviceCache :=
      machine.registry.client.serviceCache.retain service (· ∈ currentPaths)
    answer := none }

end SharedClient

def interleave {Store : Type} (zk : ZooKeeper Store) (machine : SharedClient Store) :
    SharedEvent Store → Option (SharedClient Store)
  | .begin call =>
    match machine.call with
    | none => some (machine.perform (beginCall zk call))
    | some _ => none
  | .advance => machine.call.map fun call => machine.perform (advance zk call)
  | .snapshot =>
    if machine.services = [] ∧ machine.answer = none ∧ machine.registry.client.running ∧
        machine.registry.client.connected then
      some { machine with services := machine.registry.client.serviceCache.keys }
    else none
  | .listChildren =>
    match machine.services, machine.answer with
    | service :: rest, none => some (machine.listNext zk service rest)
    | _, _ => none
  | .reconcile => machine.answer.map fun answer => machine.reconcile answer.1 answer.2
  | .change store => some { machine with registry.store := store }

/-- The ways in which `interleave` can go. -/
inductive SharedClient.Transition {Store : Type} (zk : ZooKeeper Store) (machine : SharedClient Store) :
    SharedEvent Store → SharedClient Store → Prop
  | begin {call : DiscoveryCall} (idle : machine.call = none) :
      Transition zk machine (.begin call) (machine.perform (beginCall zk call))
  | advance {call : OwnCall} (waiting : machine.call = some call) :
      Transition zk machine .advance (machine.perform (advance zk call))
  | snapshot (rested : machine.services = [] ∧ machine.answer = none)
      (up : machine.registry.client.running ∧ machine.registry.client.connected) :
      Transition zk machine .snapshot
        { machine with services := machine.registry.client.serviceCache.keys }
  | listChildren {service : Bytes} {rest : List Bytes} (services : machine.services = service :: rest)
      (answer : machine.answer = none) :
      Transition zk machine .listChildren (machine.listNext zk service rest)
  | reconcile {service : Bytes} {currentPaths : List Bytes}
      (answer : machine.answer = some (service, currentPaths)) :
      Transition zk machine .reconcile (machine.reconcile service currentPaths)
  | change (store : Store) :
      Transition zk machine (.change store) { machine with registry.store := store }

theorem SharedClient.transition_of_interleave {Store : Type} {zk : ZooKeeper Store}
    {machine next : SharedClient Store} {event : SharedEvent Store}
    (taken : interleave zk machine event = some next) : machine.Transition zk event next := by
  cases event with
  | begin call =>
    rw [interleave] at taken
    split at taken
    next idle =>
      cases taken
      exact .begin idle
    · cases taken
  | advance =>
    obtain ⟨call, waiting, rfl⟩ := Option.map_eq_some_iff.mp taken
    exact .advance waiting
  | snapshot =>
    rw [interleave] at taken
    split at taken
    next ready =>
      cases taken
      exact .snapshot ⟨ready.1, ready.2.1⟩ ready.2.2
    · cases taken
  | listChildren =>
    rw [interleave] at taken
    split at taken
    next services answer =>
      cases taken
      exact .listChildren services answer
    · cases taken
  | reconcile =>
    obtain ⟨⟨service, currentPaths⟩, answer, rfl⟩ := Option.map_eq_some_iff.mp taken
    exact .reconcile answer
  | change store =>
    cases taken
    exact .change store

section Uninterrupted
variable {Store : Type} {zk : ZooKeeper Store} {machine : SharedClient Store}

namespace ZookeeperClient

/-- What is left to do of a call. -/
def finish (zk : ZooKeeper Store) : Option OwnCall → Effect (Registry Store) Unit
  | none => pure ()
  | some (.finding path data ephemeral) => do
    finishRegister zk path data ephemeral (← findNode zk path)
  | some (.writing path data ephemeral stat) => finishRegister zk path data ephemeral stat
  | some (.caching path data) => cacheInstance path data
  | some (.fetching path) => do cacheInstance path (← getNodeData zk path)
  | some (.listing service) => do
    let children ← attempt zk (zk.zooGetChildren · (cString (47 :: service)))
      "Failed to get children: "
    let found ← readInstances zk (children.map (instancePath service))
    modifyCache (·.insert service found)
  | some (.reading service unread found) => do
    let later ← readInstances zk unread
    modifyCache (·.insert service (found ++ later))
  | some (.deleting path) => do
    attempt zk (zk.zooDelete · (cString path)) "ZookeeperClient::Delete - Failed to delete node: "
    forgetInstance path
  | some (.forgetting path) => forgetInstance path

theorem readInstances_cons (path : Bytes) (rest : List Bytes) :
    readInstances zk (path :: rest) = do
      let found ← readInstance zk path
      return found ++ (← readInstances zk rest) := rfl

theorem finish_advance (call : OwnCall) :
    finish zk (some call) = advance zk call >>= finish zk := by
  cases call with
  | reading service unread found =>
    cases unread with
    | nil => simp [finish, advance, readInstances]
    | cons path rest => simp [finish, advance, readInstances_cons]
  | finding path data ephemeral => simp [finish, advance]
  | writing path data ephemeral stat => simp [finish, advance, finishRegister]
  | caching path data => simp [finish, advance]
  | fetching path => simp [finish, advance]
  | listing service => simp [finish, advance]
  | deleting path => simp [finish, advance]
  | forgetting path => simp [finish, advance]

/-- The call that is begun and finished. -/
theorem finish_begin (call : DiscoveryCall) (registry : Registry Store) :
    step zk registry call =
      some (stateAfter ((beginCall zk call >>= finish zk).run registry)) := by
  have discarded : ∀ {α : Type} (body : Effect (Registry Store) α),
      stateAfter (body.run registry) = stateAfter ((body >>= fun _ => pure ()).run registry) := by
    intro α body
    have same : id (stateAfter ((body >>= fun _ => pure ()).run registry)) =
        id (stateAfter (body.run registry)) := view_bind (fun _ => Keeps.pure ()) registry
    exact same.symm
  cases call with
  | register path data ephemeral => simp [step, register, beginCall, finish]
  | discover path =>
    have same : (discover zk path >>= fun _ => pure ()) =
        beginCall zk (.discover path) >>= finish zk := by
      simp only [discover, beginCall, bind_assoc]
      refine bind_congr fun service => bind_congr fun registry => ?_
      cases ((registry.client.serviceCache.find? service).getD []).find? (·.1 = path) with
      | some entry => simp [finish]
      | none => simp [finish]
    rw [step, discarded, same]
  | discoverService service =>
    have same : (discoverService zk service >>= fun _ => pure ()) =
        beginCall zk (.discoverService service) >>= finish zk := by
      simp only [discoverService, beginCall, bind_assoc]
      refine bind_congr fun registry => ?_
      cases registry.client.serviceCache.find? service with
      | some instances => simp [finish]
      | none => simp [finish]
    rw [step, discarded, same]
  | delete path =>
    have same : delete zk path = beginCall zk (.delete path) >>= finish zk := by
      simp only [delete, beginCall, bind_assoc]
      refine bind_congr fun started => bind_congr fun found => ?_
      split
      next => simp [finish]
      next ret other => cases ret <;> first | exact absurd rfl other | rfl
      next => simp [finish]
    rw [step, same]

/-- How far a call is from its end: the stage, and what is left to read. -/
def rank : OwnCall → Nat ×ₗ Nat
  | .finding _ _ _ => toLex (3, 0)
  | .writing _ _ _ _ => toLex (2, 0)
  | .fetching _ => toLex (2, 0)
  | .listing _ => toLex (2, 0)
  | .deleting _ => toLex (2, 0)
  | .caching _ _ => toLex (1, 0)
  | .reading _ unread _ => toLex (1, unread.length)
  | .forgetting _ => toLex (1, 0)

theorem rank_advance (call : OwnCall) :
    Yields (fun next => ∀ later ∈ next, rank later < rank call) (advance zk call) := by
  cases call with
  | reading service unread found =>
    cases unread with
    | nil => exact .bind fun _ => .pure (by simp)
    | cons path rest => exact .bind fun _ => .pure (by simp [rank, Prod.Lex.toLex_lt_toLex])
  | caching path data => exact .bind fun _ => .pure (by simp)
  | forgetting path => exact .bind fun _ => .pure (by simp)
  | finding path data ephemeral =>
    exact .bind fun _ => .pure (by simp [rank, Prod.Lex.toLex_lt_toLex])
  | writing path data ephemeral stat =>
    exact .bind fun _ => .pure (by simp [rank, Prod.Lex.toLex_lt_toLex])
  | fetching path => exact .bind fun _ => .pure (by simp [rank, Prod.Lex.toLex_lt_toLex])
  | listing service => exact .bind fun _ => .pure (by simp [rank, Prod.Lex.toLex_lt_toLex])
  | deleting path => exact .bind fun _ => .pure (by simp [rank, Prod.Lex.toLex_lt_toLex])

/-- A call that nothing interrupts is finished in finitely many steps. -/
theorem run_advance (call : OwnCall) : ∀ machine : SharedClient Store, machine.call = some call →
    ∃ count, run (interleave zk) machine (List.replicate count .advance) = some { machine with
      registry := stateAfter ((finish zk (some call)).run machine.registry), call := none } := by
  induction call using (InvImage.wf rank wellFounded_lt).induction with
  | _ call ih =>
    intro machine waiting
    have stepped : interleave zk machine .advance = some (machine.perform (advance zk call)) := by
      simp [interleave, waiting]
    rw [finish_advance, EStateM.run_bind]
    cases advanced : (advance zk call).run machine.registry with
    | error exit after =>
      refine ⟨1, ?_⟩
      simp [run, stepped, SharedClient.perform, advanced]
    | ok next after =>
      cases next with
      | none =>
        refine ⟨1, ?_⟩
        simp [run, stepped, SharedClient.perform, advanced, finish]
      | some next =>
        obtain ⟨count, rest⟩ := ih next (rank_advance call _ _ _ advanced next rfl)
          { machine with registry := after, call := some next } rfl
        refine ⟨count + 1, ?_⟩
        simp [List.replicate_succ, run, stepped, SharedClient.perform, advanced, rest]

/-- It ends as the call does on its own. -/
theorem uninterrupted_call (idle : machine.call = none) (call : DiscoveryCall) :
    ∃ count registry, step zk machine.registry call = some registry ∧
      run (interleave zk) machine (.begin call :: List.replicate count .advance) =
        some { machine with registry } := by
  have stepped : interleave zk machine (.begin call) =
      some (machine.perform (beginCall zk call)) := by simp [interleave, idle]
  have unchanged : ∀ registry : Registry Store, { machine with registry, call := none } =
      { machine with registry } := by
    intro registry
    rw [idle]
  rw [finish_begin, EStateM.run_bind]
  cases begun : (beginCall zk call).run machine.registry with
  | error exit after =>
    refine ⟨0, _, rfl, ?_⟩
    simp [run, stepped, SharedClient.perform, begun, unchanged]
  | ok next after =>
    cases next with
    | none =>
      refine ⟨0, _, rfl, ?_⟩
      simp [run, stepped, SharedClient.perform, begun, finish, unchanged]
    | some next =>
      obtain ⟨count, rest⟩ : ∃ count, run (interleave zk)
          { machine with registry := after, call := some next } (List.replicate count .advance) =
            some { machine with
              registry := stateAfter ((finish zk (some next)).run after), call := none } :=
        run_advance next _ rfl
      refine ⟨count, _, rfl, ?_⟩
      simp [run, stepped, SharedClient.perform, begun, rest, unchanged]

/-- Both steps for one service, or the first alone if there is no answer. -/
theorem uninterrupted_service {service : Bytes} {rest : List Bytes}
    (left : machine.services = service :: rest) (free : machine.answer = none) :
    ∃ events : List (SharedEvent Store),
      (∀ event ∈ events, event = .listChildren ∨ event = .reconcile) ∧
      ∃ registry, (ZookeeperClient.reconcile zk service).run machine.registry = .ok () registry ∧
        run (interleave zk) machine events = some { machine with registry, services := rest } := by
  have stepped : interleave zk machine .listChildren =
      some (machine.listNext zk service rest) := by simp [interleave, left, free]
  rw [ZookeeperClient.reconcile, EStateM.run_bind]
  cases listed : (request (zk.zooGetChildren · (cString (47 :: service)))).run machine.registry with
  | error exit after =>
    exfalso
    cases opened : machine.registry.client.zkHandle with
    | none => simp [run_request_closed opened] at listed
    | some session => simp [run_request opened] at listed
  | ok answer after =>
    cases answer with
    | error ret =>
      refine ⟨[.listChildren], by simp, _, rfl, ?_⟩
      simp [run, stepped, SharedClient.listNext, listed, free]
    | ok children =>
      refine ⟨[.listChildren, .reconcile], by simp, _, rfl, ?_⟩
      rw [run, stepped]
      simp only [SharedClient.listNext, listed, Option.bind_some, run, interleave, Option.map_some,
        SharedClient.reconcile, free]

theorem uninterrupted_services {services : List Bytes} (left : machine.services = services)
    (free : machine.answer = none) :
    ∃ events : List (SharedEvent Store),
      (∀ event ∈ events, event = .listChildren ∨ event = .reconcile) ∧
      run (interleave zk) machine events = some { machine with
        registry := stateAfter
          ((services.forM (ZookeeperClient.reconcile zk)).run machine.registry)
        services := [] } := by
  induction services generalizing machine with
  | nil =>
    refine ⟨[], by simp, ?_⟩
    have same : { machine with services := [] } = machine := by rw [← left]
    exact congrArg some same.symm
  | cons service rest ih =>
    obtain ⟨first, firstParts, registry, reconciled, ranFirst⟩ : ∃ events : List (SharedEvent Store),
        (∀ event ∈ events, event = .listChildren ∨ event = .reconcile) ∧
        ∃ registry, (ZookeeperClient.reconcile zk service).run machine.registry = .ok () registry ∧
          run (interleave zk) machine events = some { machine with registry, services := rest } :=
      uninterrupted_service left free
    have continues : ({ machine with registry, services := rest } : SharedClient Store).services =
        rest := rfl
    obtain ⟨later, laterParts, ranLater⟩ := ih continues free
    refine ⟨first ++ later, ?_, ?_⟩
    · intro event member
      rcases List.mem_append.mp member with early | late
      · exact firstParts event early
      · exact laterParts event late
    · rw [run_append, ranFirst, Option.bind_some, ranLater]
      have continued : (((service :: rest).forM (ZookeeperClient.reconcile zk)).run machine.registry) =
          (rest.forM (ZookeeperClient.reconcile zk)).run registry := by
        change (ZookeeperClient.reconcile zk service >>= fun _ =>
          rest.forM (ZookeeperClient.reconcile zk)).run machine.registry = _
        rw [EStateM.run_bind, reconciled]
      rw [continued]

/-- A round that nothing interrupts is `heartbeatRound`. -/
theorem uninterrupted_round (between : machine.services = []) (free : machine.answer = none)
    (running : machine.registry.client.running = true)
    (connected : machine.registry.client.connected = true) :
    ∃ events : List (SharedEvent Store),
      (∀ event ∈ events, event = .listChildren ∨ event = .reconcile) ∧
      run (interleave zk) machine (.snapshot :: events) = some { machine with
        registry := stateAfter ((heartbeatRound zk).run machine.registry) } := by
  have stepped : interleave zk machine .snapshot =
      some { machine with services := machine.registry.client.serviceCache.keys } := by
    simp [interleave, between, free, running, connected]
  obtain ⟨events, parts, ran⟩ : ∃ events : List (SharedEvent Store),
      (∀ event ∈ events, event = .listChildren ∨ event = .reconcile) ∧
      run (interleave zk) { machine with services := machine.registry.client.serviceCache.keys }
        events = some { machine with
          registry := stateAfter ((machine.registry.client.serviceCache.keys.forM
            (ZookeeperClient.reconcile zk)).run machine.registry)
          services := [] } := uninterrupted_services rfl free
  refine ⟨events, parts, ?_⟩
  rw [run, stepped, Option.bind_some, ran, heartbeatRound, EStateM.run_bind, EStateM.run_get]
  simp [between]

end ZookeeperClient

end Uninterrupted

end Xrpc
