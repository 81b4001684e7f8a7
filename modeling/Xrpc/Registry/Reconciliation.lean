import Xrpc.Registry.CallFrames

/-! Which live instances the heartbeat drops when calls of the client come
between its listing and its reconciliation. -/

namespace Xrpc

open Support ZookeeperClient

namespace OwnCall

/-- The paths that the next step of a call puts in the cache, with their services. -/
def caches : OwnCall → List (Bytes × Bytes)
  | .caching path _ => (serviceSegment path).toList.map (·, path)
  | .reading service [] found => found.map fun entry => (service, entry.1)
  | _ => []

end OwnCall

namespace SharedClient
variable {Store : Type}

def Has (machine : SharedClient Store) (service path : Bytes) : Prop :=
  machine.registry.client.serviceCache.Has service path

/-- A listing of `service` waits to be compared, and leaves `path` out. -/
def Omits (machine : SharedClient Store) (service path : Bytes) : Prop :=
  ∃ answer ∈ machine.answer, answer.1 = service ∧ path ∉ answer.2

/-- An instance that the heartbeat will not take for a dead one. -/
def Safe (machine : SharedClient Store) (service path : Bytes) : Prop :=
  ZooKeeper.InstanceOf service path ∧ ¬ machine.Omits service path

def caches (machine : SharedClient Store) : SharedEvent Store → List (Bytes × Bytes)
  | .advance => machine.call.elim [] OwnCall.caches
  | _ => []

end SharedClient

section Steps
variable {Store : Type} {zk : ZooKeeper Store} {machine next : SharedClient Store}
  {service path : Bytes}

/-- The event creates a node at `path`. -/
def Creates (zk : ZooKeeper Store) (machine : SharedClient Store) (event : SharedEvent Store)
    (path : Bytes) : Prop :=
  held zk machine.registry path = none ∧
    ∃ next ∈ interleave zk machine event, (held zk next.registry path).isSome

/-- Neither is a live instance cached nor a cached one created that the heartbeat
would take for dead. -/
structure Undisturbed (zk : ZooKeeper Store) (machine : SharedClient Store)
    (event : SharedEvent Store) : Prop where
  cached : ∀ entry ∈ machine.caches event, (held zk machine.registry entry.2).isSome →
    machine.Safe entry.1 entry.2
  created : ∀ service path, machine.Has service path → Creates zk machine event path →
    machine.Safe service path

/-- Every live instance in the cache is safe. -/
def AllSafe (zk : ZooKeeper Store) (machine : SharedClient Store) : Prop :=
  ∀ service path, machine.Has service path → (held zk machine.registry path).isSome →
    machine.Safe service path

/-- A step of a call removes instances from the cache, or adds those of `caches`. -/
theorem has_advance {call : OwnCall} {registry : Registry Store}
    (has : (stateAfter ((advance zk call).run registry)).client.serviceCache.Has service path) :
    registry.client.serviceCache.Has service path ∨ (service, path) ∈ call.caches := by
  rcases client_advance zk call registry with same | ⟨cached, data, found, rfl, segment, same⟩ |
    ⟨read, found, rfl, same⟩ | ⟨forgotten, found, rfl, segment, same⟩
  · rw [same] at has
    exact .inl has
  · rw [same] at has
    refine (ServiceCache.has_setInstance has).imp_right ?_
    rintro ⟨rfl, rfl⟩
    simp [OwnCall.caches, segment]
  · rw [same] at has
    refine (ServiceCache.has_insert has).imp_right ?_
    rintro ⟨rfl, member⟩
    obtain ⟨entry, listed, rfl⟩ := List.mem_map.mp member
    exact List.mem_map_of_mem listed
  · rw [same] at has
    exact .inl (ServiceCache.has_retain_iff.mp has).1

theorem held_of_caches {call : OwnCall} (caching : call.caches ≠ []) :
    Keeps (held zk) (advance zk call) := by
  cases call with
  | caching path data =>
    exact ((keeps_serviceOf path).bind fun _ _ => rfl).bind fun _ => Keeps.pure _
  | reading read unread found =>
    cases unread with
    | nil =>
      intro registry
      rfl
    | cons path rest => exact absurd rfl caching
  | _ => exact absurd rfl caching

/-- What keeps the cached instances safe: each that is live afterwards was cached
and live before, or is safe. -/
theorem AllSafe.carry (safe : AllSafe zk machine) (answer : next.answer = machine.answer)
    (arrived : ∀ service path, next.Has service path → (held zk next.registry path).isSome →
      (machine.Has service path ∧ (held zk machine.registry path).isSome) ∨
        machine.Safe service path) : AllSafe zk next := by
  intro service path has live
  have before : machine.Safe service path := by
    rcases arrived service path has live with ⟨had, lived⟩ | safeBefore
    · exact safe service path had lived
    · exact safeBefore
  rwa [SharedClient.Safe, SharedClient.Omits, answer]

theorem AllSafe.unchanged (safe : AllSafe zk machine) (answer : next.answer = machine.answer)
    (client : next.registry.client = machine.registry.client)
    (contents : held zk next.registry = held zk machine.registry) : AllSafe zk next := by
  refine safe.carry answer ?_
  intro service path has live
  rw [SharedClient.Has, client] at has
  rw [contents] at live
  exact .inl ⟨has, live⟩

/-- ZooKeeper lists every live instance of the service it is asked for. -/
theorem mem_listed (lawful : zk.Lawful) {registry after : Registry Store} {children : List Bytes}
    (listed : (request (zk.zooGetChildren · (cString (47 :: service)))).run registry =
      .ok (.ok children) after)
    (live : ZooKeeper.Live (held zk registry) service path) :
    path ∈ children.map (instancePath service) := by
  cases opened : registry.client.zkHandle with
  | none => simp [run_request_closed opened] at listed
  | some session =>
    rw [run_request opened, EStateM.Result.ok.injEq] at listed
    obtain ⟨-, -, complete⟩ := lawful.getChildren_ok _ _ _ _ listed.1
    obtain ⟨named, terminated, -⟩ := live_service lawful live
    rw [ZooKeeper.mem_paths_iff_listed complete, ZooKeeper.listedAt_iff_live named terminated]
    exact live

theorem AllSafe.listNext (lawful : zk.Lawful) (safe : AllSafe zk machine) (asked : Bytes)
    (rest : List Bytes) : AllSafe zk (machine.listNext zk asked rest) := by
  have contents : held zk _ = held zk machine.registry := held_request
    (fun session => lawful.getChildren_contents session (cString (47 :: asked))) machine.registry
  have client := client_request (zk.zooGetChildren · (cString (47 :: asked))) machine.registry
  unfold SharedClient.listNext
  split
  next children after listed =>
    rw [listed, stateAfter_ok] at contents client
    intro service path has live
    rw [contents] at live
    rw [SharedClient.Has, client] at has
    obtain ⟨isInstance, -⟩ := safe service path has live
    refine ⟨isInstance, ?_⟩
    rintro ⟨_, ⟨rfl⟩, rfl, omitted⟩
    exact omitted (mem_listed lawful listed ⟨isInstance, live⟩)
  next after refused =>
    rw [refused, stateAfter_ok] at contents client
    exact safe.unchanged rfl client contents
  next after refused =>
    rw [refused, stateAfter_error] at contents client
    exact safe.unchanged rfl client contents

/-- A step that is not disturbed keeps the cached instances safe. -/
theorem AllSafe.step (lawful : zk.Lawful) (safe : AllSafe zk machine) {event : SharedEvent Store}
    (undisturbed : Undisturbed zk machine event)
    (taken : interleave zk machine event = some next) : AllSafe zk next := by
  -- an instance that stays in the cache is live already, or the event creates it
  have stays : ∀ service path, machine.Has service path → (held zk next.registry path).isSome →
      (machine.Has service path ∧ (held zk machine.registry path).isSome) ∨
        machine.Safe service path := by
    intro service path had live
    cases before : held zk machine.registry path with
    | some node => exact .inl ⟨had, rfl⟩
    | none =>
      exact .inr (undisturbed.created service path had ⟨before, next, taken, live⟩)
  cases SharedClient.transition_of_interleave taken with
  | @begin call idle =>
    refine safe.carry (answer_perform _) ?_
    intro service path has live
    refine stays service path ?_ live
    rwa [SharedClient.Has, registry_perform, client_beginCall call machine.registry] at has
  | @advance call waiting =>
    refine safe.carry (answer_perform _) ?_
    intro service path has live
    rw [SharedClient.Has, registry_perform] at has
    rcases has_advance has with had | cached
    · exact stays service path had live
    · refine .inr (undisturbed.cached (service, path) ?_ ?_)
      · simpa [SharedClient.caches, waiting] using cached
      · rwa [registry_perform, held_of_caches (List.ne_nil_of_mem cached)] at live
  | snapshot rested up => exact safe
  | listChildren services answer => exact safe.listNext lawful _ _
  | reconcile answer =>
    intro service path has live
    have had := (ServiceCache.has_retain_iff.mp has).1
    refine ⟨(safe service path had live).1, ?_⟩
    rintro ⟨_, none, -⟩
    cases none
  | change store => exact safe.carry rfl stays

/-- The reconciliation drops no live instance. -/
def KeepsLive (zk : ZooKeeper Store) (machine : SharedClient Store) : Prop :=
  ∀ next, interleave zk machine .reconcile = some next → ∀ service path,
    machine.Has service path → (held zk machine.registry path).isSome → next.Has service path

theorem AllSafe.keepsLive (safe : AllSafe zk machine) : KeepsLive zk machine := by
  intro next taken service path has live
  obtain ⟨answer, waiting, rfl⟩ := Option.map_eq_some_iff.mp taken
  refine ServiceCache.has_retain_iff.mpr ⟨has, ?_⟩
  intro same
  by_contra omitted
  refine (safe service path has live).2 ⟨answer, waiting, same.symm, ?_⟩
  simpa using omitted

/-- In a run without disturbances, from an idle client whose live instances are
cached for their services, no reconciliation drops a live instance. -/
theorem live_instances_kept (lawful : zk.Lawful) {start : SharedClient Store}
    {events : List (SharedEvent Store)} (free : start.answer = none)
    (shaped : ∀ service path, start.Has service path → (held zk start.registry path).isSome →
      ZooKeeper.InstanceOf service path)
    (undisturbed : Along (interleave zk) (Undisturbed zk) start events)
    (reached : run (interleave zk) start events = some machine) : KeepsLive zk machine := by
  have initial : AllSafe zk start := by
    intro service path has live
    refine ⟨shaped service path has live, ?_⟩
    rintro ⟨answer, waiting, -⟩
    rw [free] at waiting
    cases waiting
  have kept : ∀ before event after, AllSafe zk before → Undisturbed zk before event →
      interleave zk before event = some after → AllSafe zk after :=
    fun _ _ _ safe good taken => safe.step lawful good taken
  exact (run_preserves kept initial undisturbed reached).keepsLive

end Steps

section UserService
variable {Store : Type}

instance (machine : SharedClient Store) (service path : Bytes) :
    Decidable (machine.Safe service path) :=
  inferInstanceAs (Decidable (_ ∧ ¬ ∃ answer ∈ machine.answer, answer.1 = service ∧ path ∉ answer.2))

instance (zk : ZooKeeper Store) (machine : SharedClient Store) (event : SharedEvent Store)
    (path : Bytes) : Decidable (Creates zk machine event path) :=
  inferInstanceAs (Decidable (_ ∧ ∃ next ∈ interleave zk machine event, _))

instance (zk : ZooKeeper Store) (machine : SharedClient Store) (event : SharedEvent Store) :
    Decidable (Undisturbed zk machine event) :=
  decidable_of_iff ((∀ entry ∈ machine.caches event, (held zk machine.registry entry.2).isSome →
      machine.Safe entry.1 entry.2) ∧
    ∀ service ∈ machine.registry.client.serviceCache.keys,
      ∀ instances ∈ machine.registry.client.serviceCache.find? service,
        ∀ path ∈ instances.map Prod.fst, Creates zk machine event path →
          machine.Safe service path) <| by
    constructor
    · intro ⟨cached, created⟩
      refine ⟨cached, ?_⟩
      intro service path ⟨instances, found, member⟩
      exact created service (Table.mem_keys_iff.mpr ⟨instances, found⟩) instances found path member
    · intro ⟨cached, created⟩
      refine ⟨cached, ?_⟩
      intro service _ instances found path member
      exact created service path ⟨instances, found, member⟩

def sharedClient : SharedClient ZooTree :=
  { registry := { store := otherServer, client := ownClient } }

def discoverUserService : List (SharedEvent ZooTree) :=
  [.begin (.discoverService (text "UserService")), .advance, .advance, .advance]

def registerUserService : List (SharedEvent ZooTree) :=
  [.begin (.register (userServicePath "10.0.0.2:80") (text "methods=Login") true), .advance,
    .advance, .advance]

/-- The client registers its instance before the heartbeat asks for the instances. -/
theorem registered_before_listing : ∃ machine,
    run (interleave zooTree) sharedClient
      (discoverUserService ++ .snapshot :: registerUserService ++ [.listChildren]) = some machine ∧
    KeepsLive zooTree machine := by
  have ran : (run (interleave zooTree) sharedClient
      (discoverUserService ++ .snapshot :: registerUserService ++ [.listChildren])).isSome := by
    decide +kernel
  obtain ⟨machine, reached⟩ := Option.isSome_iff_exists.mp ran
  refine ⟨machine, reached, live_instances_kept ZooTree.lawful rfl ?_ (by decide +kernel) reached⟩
  intro service path ⟨instances, cached, _⟩
  have none : sharedClient.registry.client.serviceCache.find? service = none := Table.find?_empty _
  exact nomatch none.symm.trans cached

/-- Registered between the listing and the reconciliation, it is dropped. -/
theorem registered_after_listing : ∃ machine,
    run (interleave zooTree) sharedClient
      (discoverUserService ++ [.snapshot, .listChildren] ++ registerUserService) = some machine ∧
    ¬ KeepsLive zooTree machine := by
  have ran : (run (interleave zooTree) sharedClient
      (discoverUserService ++ [.snapshot, .listChildren] ++ registerUserService)).any fun machine =>
        (held zooTree machine.registry (userServicePath "10.0.0.2:80")).isSome ∧
        (machine.registry.client.serviceCache.find? (text "UserService")).any (fun instances =>
          userServicePath "10.0.0.2:80" ∈ instances.map Prod.fst) ∧
        (interleave zooTree machine .reconcile).any fun next =>
          (next.registry.client.serviceCache.find? (text "UserService")).all fun instances =>
            userServicePath "10.0.0.2:80" ∉ instances.map Prod.fst := by decide +kernel
  obtain ⟨machine, reached, outcome⟩ := (Option.any_eq_true _ _).mp ran
  obtain ⟨live, had, dropped⟩ := of_decide_eq_true outcome
  refine ⟨machine, reached, ?_⟩
  intro keeps
  obtain ⟨instances, cached, member⟩ := (Option.any_eq_true _ _).mp had
  obtain ⟨next, taken, gone⟩ := (Option.any_eq_true _ _).mp dropped
  obtain ⟨left, found, stays⟩ := keeps next taken (text "UserService")
    (userServicePath "10.0.0.2:80") ⟨instances, cached, of_decide_eq_true member⟩ live
  rw [found] at gone
  exact of_decide_eq_true gone stays

end UserService

end Xrpc
