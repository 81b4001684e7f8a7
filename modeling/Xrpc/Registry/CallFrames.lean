import Xrpc.Registry.Interleaving

/-! What the steps of the calls and of the heartbeat leave alone. -/

namespace Xrpc

open Support ZookeeperClient

section Steps
variable {Store : Type} {zk : ZooKeeper Store} {machine next : SharedClient Store}

theorem registry_perform (body : Effect (Registry Store) (Option OwnCall)) :
    (machine.perform body).registry = stateAfter (body.run machine.registry) := by
  unfold SharedClient.perform
  split
  next ran => rw [ran, stateAfter_ok]
  next ran => rw [ran, stateAfter_error]

theorem answer_perform (body : Effect (Registry Store) (Option OwnCall)) :
    (machine.perform body).answer = machine.answer := by
  unfold SharedClient.perform
  split
  · rfl
  · rfl

theorem services_perform (body : Effect (Registry Store) (Option OwnCall)) :
    (machine.perform body).services = machine.services := by
  unfold SharedClient.perform
  split
  · rfl
  · rfl

/-- A call that goes on is what its last step has returned. -/
theorem call_perform {expected : OwnCall → Prop} {body : Effect (Registry Store) (Option OwnCall)}
    (yields : Yields (fun next => ∀ later ∈ next, expected later) body) :
    ∀ later ∈ (machine.perform body).call, expected later := by
  unfold SharedClient.perform
  cases ran : body.run machine.registry with
  | ok call registry => exact yields _ _ _ ran
  | error exit registry =>
    intro later none
    cases none

theorem client_getNodeData (path : Bytes) : Keeps Registry.client (getNodeData zk path) :=
  keeps_getNodeData (client_request _)

theorem client_readInstance (path : Bytes) : Keeps Registry.client (readInstance zk path) :=
  fun registry => (view_catchStd (fun _ => Keeps.pure _) registry).trans
    ((client_getNodeData path).bind (fun _ => Keeps.pure _) registry)

theorem client_beginCall (call : DiscoveryCall) : Keeps Registry.client (beginCall zk call) := by
  cases call with
  | register path data ephemeral => exact (client_beginRegister path).bind fun _ => Keeps.pure _
  | discover path =>
    refine (keeps_serviceOf path).bind fun service => Keeps.get.bind fun registry => ?_
    dsimp only
    split
    · exact Keeps.pure _
    · exact Keeps.pure _
  | discoverService service =>
    refine Keeps.get.bind fun registry => ?_
    split
    · exact Keeps.pure _
    · exact Keeps.pure _
  | delete path =>
    refine keeps_checkStarted.bind fun _ => (client_request _).bind fun found => ?_
    split
    · exact Keeps.pure _
    · exact Keeps.raise _
    · exact Keeps.pure _

/-- What a call does first after its beginning. -/
def begun : DiscoveryCall → OwnCall
  | .register path data ephemeral => .finding path data ephemeral
  | .discover path => .fetching path
  | .discoverService service => .listing service
  | .delete path => .deleting path

theorem beginCall_begun (call : DiscoveryCall) :
    Yields (fun next => ∀ later ∈ next, later = begun call) (beginCall zk call) := by
  cases call with
  | register path data ephemeral => exact .bind fun _ => .pure (by simp [begun])
  | discover path =>
    refine .bind fun service => .bind fun registry => ?_
    dsimp only
    split
    · exact .pure (by simp)
    · exact .pure (by simp [begun])
  | discoverService service =>
    refine .bind fun registry => ?_
    split
    · exact .pure (by simp)
    · exact .pure (by simp [begun])
  | delete path =>
    refine .bind fun started => .bind fun found => ?_
    split
    · exact .pure (by simp)
    · intro state value after returned
      cases returned
    · exact .pure (by simp [begun])

/-- What a step of a call does to the client. -/
theorem client_advance (zk : ZooKeeper Store) (call : OwnCall) (registry : Registry Store) :
    let after := (stateAfter ((advance zk call).run registry)).client
    after = registry.client ∨
    (∃ path data service, call = .caching path data ∧ serviceSegment path = some service ∧
      after = { registry.client with
        serviceCache := registry.client.serviceCache.setInstance service path data }) ∨
    (∃ service found, call = .reading service [] found ∧
      after = { registry.client with
        serviceCache := registry.client.serviceCache.insert service found }) ∨
    ∃ path service, call = .forgetting path ∧ serviceSegment path = some service ∧
      after = { registry.client with
        serviceCache := registry.client.serviceCache.retain service (· ≠ path)
        watchers := registry.client.watchers.erase path } := by
  have quiet : ∀ {body : Effect (Registry Store) (Option OwnCall)}, Keeps Registry.client body →
      (stateAfter (body.run registry)).client = registry.client := fun kept => kept registry
  cases call with
  | finding path data ephemeral => exact .inl (quiet ((client_request _).bind fun _ => Keeps.pure _))
  | writing path data ephemeral stat =>
    exact .inl (quiet ((client_writeNode _ _ _ _).bind fun _ => Keeps.pure _))
  | fetching path => exact .inl (quiet ((client_getNodeData _).bind fun _ => Keeps.pure _))
  | listing service =>
    exact .inl (quiet ((keeps_attempt (client_request _) _).bind fun _ => Keeps.pure _))
  | deleting path =>
    exact .inl (quiet ((keeps_attempt (client_request _) _).bind fun _ => Keeps.pure _))
  | caching path data =>
    cases segment : serviceSegment path with
    | none =>
      refine .inl ?_
      simp only [advance, cacheInstance, serviceOf, segment, EStateM.run_bind, run_raise,
        stateAfter_error]
    | some service =>
      refine .inr (.inl ⟨path, data, service, rfl, segment, ?_⟩)
      rw [advance, EStateM.run_bind, run_cacheInstance segment]
      rfl
  | reading service unread found =>
    cases unread with
    | nil => exact .inr (.inr (.inl ⟨service, found, rfl, rfl⟩))
    | cons path rest => exact .inl (quiet ((client_readInstance path).bind fun _ => Keeps.pure _))
  | forgetting path =>
    cases segment : serviceSegment path with
    | none =>
      refine .inl ?_
      simp only [advance, forgetInstance, serviceOf, segment, EStateM.run_bind, run_raise,
        stateAfter_error]
    | some service =>
      refine .inr (.inr (.inr ⟨path, service, rfl, segment, ?_⟩))
      rw [advance, EStateM.run_bind, run_forgetInstance segment]
      rfl

/-- What a step does to the client. -/
theorem client_interleave {event : SharedEvent Store} (taken : interleave zk machine event = some next) :
    next.registry.client = machine.registry.client ∨
    (∃ call, event = .advance ∧ machine.call = some call ∧
      next.registry.client = (stateAfter ((advance zk call).run machine.registry)).client) ∨
    ∃ answer, event = .reconcile ∧ machine.answer = some answer ∧
      next.registry.client = { machine.registry.client with
        serviceCache := machine.registry.client.serviceCache.retain answer.1 (· ∈ answer.2) } := by
  cases SharedClient.transition_of_interleave taken with
  | @begin call idle =>
    rw [registry_perform]
    exact .inl (client_beginCall call machine.registry)
  | @advance call waiting =>
    rw [registry_perform]
    exact .inr (.inl ⟨call, rfl, waiting, rfl⟩)
  | snapshot rested up => exact .inl rfl
  | @listChildren service rest services answer =>
    have client := client_request (zk.zooGetChildren · (cString (47 :: service))) machine.registry
    refine .inl ?_
    unfold SharedClient.listNext
    split
    next listed => rwa [listed] at client
    next refused => rwa [refused] at client
    next refused => rwa [refused] at client
  | reconcile answer => exact .inr (.inr ⟨_, rfl, answer, rfl⟩)
  | change store => exact .inl rfl

theorem call_listNext (service : Bytes) (rest : List Bytes) :
    (machine.listNext zk service rest).call = machine.call := by
  unfold SharedClient.listNext
  split
  · rfl
  · rfl
  · rfl

/-- What holds of the call under way, whatever is done beside it. -/
theorem call_interleave {expected : OwnCall → Prop} {event : SharedEvent Store}
    (taken : interleave zk machine event = some next)
    (begins : ∀ call, event = .begin call →
      Yields (fun next => ∀ later ∈ next, expected later) (beginCall zk call))
    (advances : ∀ call ∈ machine.call, expected call →
      Yields (fun next => ∀ later ∈ next, expected later) (advance zk call))
    (kept : ∀ call ∈ machine.call, expected call) : ∀ call ∈ next.call, expected call := by
  cases SharedClient.transition_of_interleave taken with
  | @begin call idle => exact call_perform (begins call rfl)
  | @advance call waiting => exact call_perform (advances call waiting (kept call waiting))
  | snapshot rested up => exact kept
  | listChildren services answer =>
    rw [call_listNext]
    exact kept
  | reconcile answer => exact kept
  | change store => exact kept

end Steps

end Xrpc
