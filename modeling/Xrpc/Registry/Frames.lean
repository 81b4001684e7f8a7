import Xrpc.Registry.Client

/-! What the members of `ZookeeperClient` leave as it is. -/

namespace Xrpc

open Support

namespace ZooKeeper

/-- Every node stays, with its owner. -/
def Persists (before after : Contents) : Prop :=
  ∀ path node, before path = some node → ∃ same, after path = some same ∧ same.owner = node.owner

theorem Persists.refl (contents : Contents) : Persists contents contents :=
  fun _ node found => ⟨node, found, rfl⟩

theorem Persists.trans {first second third : Contents} (early : Persists first second)
    (late : Persists second third) : Persists first third := by
  intro path node found
  obtain ⟨between, present, owner⟩ := early path node found
  obtain ⟨same, present, later⟩ := late path between present
  exact ⟨same, present, later.trans owner⟩

theorem Persists.isSome {before after : Contents} (persists : Persists before after) {path : Bytes}
    (present : (before path).isSome) : (after path).isSome := by
  obtain ⟨node, found⟩ := Option.isSome_iff_exists.mp present
  obtain ⟨same, there, -⟩ := persists path node found
  exact Option.isSome_iff_exists.mpr ⟨same, there⟩

theorem Created.persists {session : Nat} {path data : Bytes} {ephemeral : Bool}
    {before after : Contents} (created : Created session path data ephemeral before after) :
    Persists before after := by
  obtain ⟨fresh, same⟩ := created
  subst after
  intro other node found
  have different : other ≠ path := by
    intro same
    rw [same, fresh] at found
    cases found
  exact ⟨node, (Function.update_of_ne different _ _).trans found, rfl⟩

theorem Updated.persists {path data : Bytes} {version : Nat} {before after : Contents}
    (updated : Updated path data version before after) : Persists before after := by
  obtain ⟨old, present, -, same⟩ := updated
  subst after
  intro other node found
  by_cases same : other = path
  · subst other
    cases present.symm.trans found
    exact ⟨_, Function.update_self _ _ _, rfl⟩
  · exact ⟨node, (Function.update_of_ne same _ _).trans found, rfl⟩

end ZooKeeper

namespace ZookeeperClient
variable {Store α : Type} {zk : ZooKeeper Store}

theorem run_request {state : Registry Store} {session : Nat}
    (opened : state.client.zkHandle = some session)
    (call : Nat → Store → Except ZooCode α × Store) :
    (request call).run state =
      .ok (call session state.store).1 { state with store := (call session state.store).2 } := by
  simp [request, EStateM.run, opened]

theorem run_request_closed {state : Registry Store} (closed : state.client.zkHandle = none)
    (call : Nat → Store → Except ZooCode α × Store) :
    (request call).run state = .ok (.error .badArguments) state := by
  simp [request, EStateM.run, closed]

theorem run_attempt {state : Registry Store} {session : Nat}
    (opened : state.client.zkHandle = some session)
    (call : Nat → Store → Except ZooCode α × Store) (failure : String) :
    (attempt zk call failure).run state =
      match (call session state.store).1 with
      | .ok value => .ok value { state with store := (call session state.store).2 }
      | .error ret => .error (runtimeError (text failure ++ zk.zerror ret))
          { state with store := (call session state.store).2 } := by
  rw [attempt, EStateM.run_bind, run_request opened]
  cases (call session state.store).1 with
  | ok value => rfl
  | error ret => rfl

/-- A call returns only if it was made and answered with `ZOK`. -/
theorem attempt_returned {state after : Registry Store}
    {call : Nat → Store → Except ZooCode α × Store} {failure : String} {value : α}
    (returned : (attempt zk call failure).run state = .ok value after) :
    ∃ session, state.client.zkHandle = some session ∧ (call session state.store).1 = .ok value ∧
      after = { state with store := (call session state.store).2 } := by
  cases opened : state.client.zkHandle with
  | none =>
    rw [attempt, EStateM.run_bind, run_request_closed opened] at returned
    cases returned
  | some session =>
    rw [run_attempt opened] at returned
    cases answer : (call session state.store).1 with
    | error ret => simp [answer] at returned
    | ok found =>
      simp only [answer, EStateM.Result.ok.injEq] at returned
      obtain ⟨same, left⟩ := returned
      subst found after
      exact ⟨session, rfl, answer, rfl⟩

theorem attempt_refused {state after : Registry Store}
    {call : Nat → Store → Except ZooCode α × Store} {failure : String} {exit : Exit}
    (refused : (attempt zk call failure).run state = .error exit after) :
    after = state ∨ ∃ session ret, (call session state.store).1 = .error ret ∧
      after = { state with store := (call session state.store).2 } := by
  cases opened : state.client.zkHandle with
  | none =>
    rw [attempt, EStateM.run_bind, run_request_closed opened] at refused
    cases refused
    exact .inl rfl
  | some session =>
    rw [run_attempt opened] at refused
    cases answer : (call session state.store).1 with
    | ok value => simp [answer] at refused
    | error ret =>
      simp only [answer, EStateM.Result.error.injEq] at refused
      obtain ⟨-, left⟩ := refused
      subst after
      exact .inr ⟨session, ret, answer, rfl⟩

theorem run_checkConnected {state : Registry Store} (connected : state.client.connected = true) :
    (checkConnected : Effect (Registry Store) Unit).run state = .ok () state := by
  simp [checkConnected, connected]

/-- What the store holds. -/
abbrev held (zk : ZooKeeper Store) (state : Registry Store) : ZooKeeper.Contents :=
  zk.contents state.store

theorem client_request (call : Nat → Store → Except ZooCode α × Store) :
    Keeps Registry.client (request call) := by
  intro state
  cases opened : state.client.zkHandle with
  | none => rw [run_request_closed opened, stateAfter_ok]
  | some session => rw [run_request opened, stateAfter_ok]

/-- A call that may change the store. -/
theorem evolves_request {call : Nat → Store → Except ZooCode α × Store}
    {related : ZooKeeper.Contents → ZooKeeper.Contents → Prop}
    (reflexive : ∀ contents, related contents contents)
    (effect : ∀ session store, related (zk.contents store) (zk.contents (call session store).2)) :
    Evolves related (held zk) (request call) := by
  intro state
  cases opened : state.client.zkHandle with
  | none =>
    rw [run_request_closed opened]
    exact reflexive _
  | some session =>
    rw [run_request opened]
    exact effect session state.store

theorem held_request {call : Nat → Store → Except ZooCode α × Store}
    (reads : ∀ session store, zk.contents (call session store).2 = zk.contents store) :
    Keeps (held zk) (request call) :=
  keeps_iff_evolves.mpr
    (evolves_request Eq.refl fun session store => (reads session store).symm)

section Changes
variable {β : Type} {related : β → β → Prop} {view : Registry Store → β}
  (reflexive : ∀ value, related value value)
  (transitive : ∀ {first second third}, related first second → related second third →
    related first third)
include reflexive transitive

theorem evolves_createParent {path : Bytes}
    (created : Evolves related view (request (zk.zooCreate · (cString (parentOf path)) [] false))) :
    Evolves related view (createParent zk path) := by
  have silent : Evolves related view (pure () : Effect (Registry Store) Unit) :=
    (Keeps.pure ()).evolves reflexive
  unfold createParent
  unfold parentOf at created
  split
  · exact silent
  next slash last =>
    simp only [last] at created
    dsimp only
    split
    · exact silent
    · refine created.bind transitive ?_
      intro answer
      split
      · exact silent
      · exact silent
      · exact (Keeps.raise _).evolves reflexive

theorem evolves_attempt {call : Nat → Store → Except ZooCode α × Store}
    (called : Evolves related view (request call)) (failure : String) :
    Evolves related view (attempt zk call failure) := by
  refine called.bind transitive ?_
  intro answer
  cases answer with
  | ok value => exact (Keeps.pure _).evolves reflexive
  | error ret => exact (Keeps.raise _).evolves reflexive

theorem evolves_writeNode {path data : Bytes} {ephemeral : Bool}
    (set : ∀ version, Evolves related view (request (zk.zooSet · (cString path) data version)))
    (created : Evolves related view (request (zk.zooCreate · (cString path) data ephemeral)))
    (stat : Except ZooCode Nat) :
    Evolves related view (writeNode zk path data ephemeral stat) := by
  cases stat with
  | ok version => exact evolves_attempt reflexive transitive (set version) _
  | error code => exact evolves_attempt reflexive transitive created _

end Changes

/-- A view of the registry that does not show reads of the store nor the cache. -/
structure Unseen {β : Type} (zk : ZooKeeper Store) (view : Registry Store → β) : Prop where
  zooExists : ∀ path, Keeps view (request (zk.zooExists · path))
  zooGet : ∀ path, Keeps view (request (zk.zooGet · path 512))
  zooGetChildren : ∀ path, Keeps view (request (zk.zooGetChildren · path))
  cache : ∀ change, Keeps view (modifyCache change)
  watchers : ∀ change, Keeps view (modifyWatchers change)

theorem unseen_held (lawful : zk.Lawful) : Unseen zk (held zk) where
  zooExists path := held_request fun session => lawful.exists_contents session path
  zooGet path := held_request fun session => lawful.get_contents session path 512
  zooGetChildren path := held_request fun session => lawful.getChildren_contents session path
  cache _ _ := rfl
  watchers _ _ := rfl

theorem unseen_handle : Unseen zk (fun state => state.client.zkHandle) where
  zooExists _ := (client_request _).observe (·.zkHandle)
  zooGet _ := (client_request _).observe (·.zkHandle)
  zooGetChildren _ := (client_request _).observe (·.zkHandle)
  cache _ _ := rfl
  watchers _ _ := rfl

section Reads
variable {β : Type} {view : Registry Store → β}

theorem Unseen.observe {γ : Type} (unseen : Unseen zk view) (observe : β → γ) :
    Unseen zk (fun state => observe (view state)) where
  zooExists path := (unseen.zooExists path).observe observe
  zooGet path := (unseen.zooGet path).observe observe
  zooGetChildren path := (unseen.zooGetChildren path).observe observe
  cache change := (unseen.cache change).observe observe
  watchers change := (unseen.watchers change).observe observe

theorem keeps_checkConnected : Keeps view checkConnected := by
  refine Keeps.get.bind ?_
  intro state
  cases state.client.connected
  · exact Keeps.raise _
  · exact Keeps.pure _

theorem keeps_checkStarted : Keeps view checkStarted := by
  refine Keeps.get.bind ?_
  intro state
  cases state.client.zkHandle.isSome
  · exact Keeps.raise _
  · exact Keeps.pure _

theorem keeps_serviceOf (path : Bytes) : Keeps view (serviceOf path) := by
  unfold serviceOf
  cases serviceSegment path with
  | some service => exact Keeps.pure _
  | none => exact Keeps.raise _

theorem keeps_cacheInstance (unseen : Unseen zk view) (path data : Bytes) :
    Keeps view (cacheInstance path data) :=
  (keeps_serviceOf path).bind fun _ => unseen.cache _

theorem keeps_attempt {call : Nat → Store → Except ZooCode α × Store}
    (kept : Keeps view (request call)) (failure : String) :
    Keeps view (attempt zk call failure) :=
  keeps_iff_evolves.mpr (evolves_attempt Eq.refl Eq.trans (keeps_iff_evolves.mp kept) failure)

theorem keeps_getNodeData {path : Bytes}
    (zooGet : Keeps view (request (zk.zooGet · (cString path) 512))) :
    Keeps view (getNodeData zk path) :=
  keeps_checkConnected.bind fun _ => keeps_attempt zooGet _

theorem keeps_readInstances (unseen : Unseen zk view) (paths : List Bytes) :
    Keeps view (readInstances zk paths) := by
  induction paths with
  | nil => exact Keeps.pure _
  | cons path rest ih =>
    have read : Keeps view (catchStd (do return [(path, ← getNodeData zk path)])
        fun _ => pure []) := fun state =>
      (view_catchStd (fun _ => Keeps.pure _) state).trans
        ((keeps_getNodeData (unseen.zooGet _)).bind (fun _ => Keeps.pure _) state)
    exact read.bind fun _ => ih.bind fun _ => Keeps.pure _

theorem keeps_discover (unseen : Unseen zk view) (path : Bytes) :
    Keeps view (discover zk path) := by
  refine (keeps_serviceOf path).bind fun service => Keeps.get.bind fun state => ?_
  dsimp only
  split
  · exact Keeps.pure _
  · exact (keeps_getNodeData (unseen.zooGet _)).bind fun data =>
      (keeps_cacheInstance unseen path data).bind fun _ => Keeps.pure _

theorem keeps_discoverService (unseen : Unseen zk view) (service : Bytes) :
    Keeps view (discoverService zk service) := by
  refine Keeps.get.bind fun state => ?_
  split
  · exact Keeps.pure _
  · exact (keeps_attempt (unseen.zooGetChildren _) _).bind fun children =>
      (keeps_readInstances unseen _).bind fun instances =>
        (unseen.cache _).bind fun _ => Keeps.pure _

theorem keeps_delete (unseen : Unseen zk view) {path : Bytes}
    (zooDelete : Keeps view (request (zk.zooDelete · (cString path)))) :
    Keeps view (delete zk path) := by
  refine keeps_checkStarted.bind fun _ => (unseen.zooExists _).bind ?_
  intro found
  split
  · exact Keeps.pure _
  · exact Keeps.raise _
  · exact (keeps_attempt zooDelete _).bind fun _ =>
      (keeps_serviceOf path).bind fun _ => (unseen.cache _).bind fun _ => unseen.watchers _

theorem keeps_reconcile (unseen : Unseen zk view) (service : Bytes) :
    Keeps view (reconcile zk service) := by
  refine (unseen.zooGetChildren _).bind ?_
  intro answer
  cases answer with
  | error ret => exact Keeps.pure _
  | ok children => exact unseen.cache _

theorem keeps_heartbeatRound (unseen : Unseen zk view) : Keeps view (heartbeatRound zk) := by
  refine Keeps.get.bind fun state => ?_
  induction state.client.serviceCache.keys with
  | nil => exact Keeps.pure _
  | cons service rest ih => exact (keeps_reconcile unseen service).bind fun _ => ih

end Reads

theorem client_beginRegister (path : Bytes) : Keeps Registry.client (beginRegister zk path) :=
  keeps_checkConnected.bind fun _ => keeps_iff_evolves.mpr
    (evolves_createParent Eq.refl Eq.trans (keeps_iff_evolves.mp (client_request _)))

theorem client_writeNode (path data : Bytes) (ephemeral : Bool) (stat : Except ZooCode Nat) :
    Keeps Registry.client (writeNode zk path data ephemeral stat) :=
  keeps_iff_evolves.mpr (evolves_writeNode Eq.refl Eq.trans
    (fun _ => keeps_iff_evolves.mp (client_request _)) (keeps_iff_evolves.mp (client_request _))
    stat)

theorem handle_register (path data : Bytes) (ephemeral : Bool) :
    Keeps (fun state => state.client.zkHandle) (register zk path data ephemeral) := by
  have unseen : Unseen zk fun state => state.client.zkHandle := unseen_handle
  refine ((client_beginRegister path).observe (·.zkHandle)).bind fun _ => ?_
  refine (unseen.zooExists _).bind fun stat => ?_
  refine ((client_writeNode path data ephemeral stat).observe (·.zkHandle)).bind fun _ => ?_
  exact keeps_cacheInstance unseen path data

/-- Code that only reads the store. -/
theorem persists_of_keeps {body : Effect (Registry Store) α}
    (kept : Keeps (held zk) body) : Evolves ZooKeeper.Persists (held zk) body :=
  kept.evolves ZooKeeper.Persists.refl

theorem persists_zooCreate (lawful : zk.Lawful) (path data : Bytes) (ephemeral : Bool) :
    Evolves ZooKeeper.Persists (held zk) (request (zk.zooCreate · path data ephemeral)) := by
  refine evolves_request ZooKeeper.Persists.refl ?_
  intro session store
  rcases lawful.create_effect session path data ephemeral store with same | created
  · rw [same]
    exact ZooKeeper.Persists.refl _
  · exact created.persists

theorem persists_zooSet (lawful : zk.Lawful) (path data : Bytes) (version : Nat) :
    Evolves ZooKeeper.Persists (held zk) (request (zk.zooSet · path data version)) := by
  refine evolves_request ZooKeeper.Persists.refl ?_
  intro session store
  rcases lawful.set_effect session path data version store with same | updated
  · rw [same]
    exact ZooKeeper.Persists.refl _
  · exact updated.persists

theorem persists_beginRegister (lawful : zk.Lawful) (path : Bytes) :
    Evolves ZooKeeper.Persists (held zk) (beginRegister zk path) :=
  (persists_of_keeps keeps_checkConnected).bind ZooKeeper.Persists.trans fun _ =>
    evolves_createParent ZooKeeper.Persists.refl ZooKeeper.Persists.trans
      (persists_zooCreate lawful _ _ _)

theorem persists_finishRegister (lawful : zk.Lawful) (path data : Bytes) (ephemeral : Bool)
    (stat : Except ZooCode Nat) :
    Evolves ZooKeeper.Persists (held zk) (finishRegister zk path data ephemeral stat) :=
  (evolves_writeNode ZooKeeper.Persists.refl ZooKeeper.Persists.trans
    (persists_zooSet lawful _ _) (persists_zooCreate lawful _ _ _) stat).bind
    ZooKeeper.Persists.trans fun _ => persists_of_keeps (keeps_cacheInstance (unseen_held lawful) path data)

theorem persists_register (lawful : zk.Lawful) (path data : Bytes) (ephemeral : Bool) :
    Evolves ZooKeeper.Persists (held zk) (register zk path data ephemeral) :=
  (persists_beginRegister lawful path).bind ZooKeeper.Persists.trans fun _ =>
    (persists_of_keeps ((unseen_held lawful).zooExists _)).bind ZooKeeper.Persists.trans fun stat =>
      persists_finishRegister lawful path data ephemeral stat

theorem others_beginRegister (lawful : zk.Lawful) {path other : Bytes}
    (different : other ≠ cString (parentOf path)) :
    Keeps (fun state => held zk state other) (beginRegister zk path) := by
  have created : Evolves (fun before after => before other = after other) (held zk)
      (request (zk.zooCreate · (cString (parentOf path)) [] false)) := by
    refine evolves_request (fun _ => rfl) ?_
    intro session store
    rcases lawful.create_effect session (cString (parentOf path)) [] false store with
      same | ⟨-, created⟩
    · exact (congrFun same other).symm
    · rw [created]
      exact (Function.update_of_ne different _ _).symm
  exact keeps_checkConnected.bind fun _ => keeps_iff_evolves.mpr
    (evolves_createParent (fun _ => rfl) Eq.trans created)

/-- Deleting a path leaves every other. -/
theorem others_zooDelete (lawful : zk.Lawful) (path : Bytes) {other : Bytes}
    (different : other ≠ cString path) :
    Keeps (fun state => held zk state other) (request (zk.zooDelete · (cString path))) := by
  have deleted : Evolves (fun before after => before other = after other) (held zk)
      (request (zk.zooDelete · (cString path))) := by
    refine evolves_request (fun _ => rfl) ?_
    intro session store
    rcases lawful.delete_effect session (cString path) store with same | deleted
    · exact (congrFun same other).symm
    · rw [deleted]
      exact (Function.update_of_ne different _ _).symm
  exact keeps_iff_evolves.mpr deleted

end ZookeeperClient

end Xrpc
