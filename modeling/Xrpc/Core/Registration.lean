import Xrpc.Core.Server
import Xrpc.Registry.Methods
import Xrpc.Registry.ReadBack
import Mathlib.Data.List.TakeDrop

/-! `RegisterService`: the service table of the server and its node in ZooKeeper, and
what other clients read of the node. -/

namespace Xrpc

open Support ZookeeperClient

/-- A server with its `zk_client_` and the address that it registers. -/
structure RegisteringServer (Store Msg : Type) where
  server : XrpcServer Msg
  serverIp : Bytes
  serverPort : Int
  registry : Registry Store

variable {Store Msg α : Type}

def inRegistry (member : Effect (Registry Store) α) : Effect (RegisteringServer Store Msg) α :=
  fun host =>
    match member.run host.registry with
    | .ok value registry => .ok value { host with registry }
    | .error exit registry => .error exit { host with registry }

theorem run_inRegistry (member : Effect (Registry Store) α) (host : RegisteringServer Store Msg) :
    (inRegistry member).run host =
      match member.run host.registry with
      | .ok value registry => .ok value { host with registry }
      | .error exit registry => .error exit { host with registry } := rfl

namespace RegisteringServer

def registerService (zk : ZooKeeper Store) (service : Service Msg) :
    Effect (RegisteringServer Store Msg) Unit := do
  modify fun host => { host with server := host.server.addService service }
  let host ← get
  let path := registeredPath service.name host.serverIp host.serverPort
  let data := registeredData (service.methods.map Method.name)
  inRegistry (register zk path data true)

/-- The parts of the host that an atomic `RegisterService` leaves as they were. -/
structure Unchanged (before after : RegisteringServer Store Msg) : Prop where
  services : after.server.services.find? = before.server.services.find?
  cache : after.registry.client.serviceCache = before.registry.client.serviceCache

end RegisteringServer

section Atomicity
variable {zk : ZooKeeper Store} {host after : RegisteringServer Store Msg} {service : Service Msg}

/-- `Register` touches the client in its last step only, which does not throw once it has. -/
theorem client_of_register_thrown {state left : Registry Store} {path data : Bytes}
    {ephemeral : Bool} {exit : Exit}
    (thrown : (register zk path data ephemeral).run state = .error exit left) :
    left.client = state.client := by
  have asks : Keeps Registry.client (findNode zk path) := client_request _
  rcases bind_error_cases thrown with early | ⟨_, begun, first, thrown⟩
  · exact (client_beginRegister path).of_error early
  have same : begun.client = state.client := (client_beginRegister path).of_ok first
  rcases bind_error_cases thrown with early | ⟨stat, asked, second, thrown⟩
  · exact (asks.of_error early).trans same
  have still : asked.client = begun.client := asks.of_ok second
  rcases bind_error_cases thrown with early | ⟨_, written, third, thrown⟩
  · exact ((client_writeNode path data ephemeral stat).of_error early).trans (still.trans same)
  have kept : written.client = asked.client :=
    (client_writeNode path data ephemeral stat).of_ok third
  have last : left.client = written.client := by
    cases segment : serviceSegment path with
    | none =>
      simp [cacheInstance, serviceOf, segment] at thrown
      rw [← thrown.2]
    | some service => simp [run_cacheInstance segment] at thrown
  rw [last, kept, still, same]

theorem run_registerService (zk : ZooKeeper Store) (host : RegisteringServer Store Msg)
    (service : Service Msg) :
    (RegisteringServer.registerService zk service).run host =
      (inRegistry (register zk (registeredPath service.name host.serverIp host.serverPort)
        (registeredData (service.methods.map Method.name)) true)).run
          { host with server := host.server.addService service } := rfl

/-- `services_` is changed before anything can fail, and `Register` alone can throw. -/
theorem registerService_thrown {exit : Exit}
    (thrown : (RegisteringServer.registerService zk service).run host = .error exit after) :
    after.server = host.server.addService service ∧
      after.registry.client = host.registry.client := by
  rw [run_registerService, run_inRegistry] at thrown
  cases ran : (register zk (registeredPath service.name host.serverIp host.serverPort)
      (registeredData (service.methods.map Method.name)) true).run host.registry with
  | ok done registry => simp [ran] at thrown
  | error other registry =>
    simp only [ran, EStateM.Result.error.injEq] at thrown
    obtain ⟨-, left⟩ := thrown
    subst after
    exact ⟨rfl, client_of_register_thrown ran⟩

/-- A `RegisterService` that throws leaves the tables as they were if and only if the
service was registered under its name before. -/
theorem registerService_atomic_iff {exit : Exit}
    (thrown : (RegisteringServer.registerService zk service).run host = .error exit after) :
    RegisteringServer.Unchanged host after ↔
      host.server.services.find? service.name = some service := by
  obtain ⟨added, client⟩ := registerService_thrown thrown
  have inserted : after.server.services = host.server.services.insert service.name service := by
    rw [added]
    rfl
  constructor
  · rintro ⟨same, -⟩
    rw [← same, inserted, Table.find?_insert]
  · intro registered
    refine ⟨?_, by rw [client]⟩
    rw [inserted, Table.find?_insert_update, ← registered, Function.update_eq_self]

end Atomicity

/-- A server whose ZooKeeper client has no connection. -/
def offlineServer (services : Table Bytes (Service Bytes)) : RegisteringServer ZooTree Bytes where
  server := { codec := pingCodec, services }
  serverIp := text "10.0.0.1"
  serverPort := 80
  registry := { store := .empty, client := {} }

theorem reregistered_unchanged :
    let host := offlineServer (Table.insert ∅ pingService.name pingService)
    ∃ exit after,
      (RegisteringServer.registerService zooTree pingService).run host = .error exit after ∧
      RegisteringServer.Unchanged host after := by
  intro host
  have thrown : (RegisteringServer.registerService zooTree pingService).run host =
      .error (runtimeError (text "ZooKeeper not connected"))
        { host with server := host.server.addService pingService } := rfl
  exact ⟨_, _, thrown, (registerService_atomic_iff thrown).mpr (Table.find?_insert _ _ _)⟩

/-- Without a connection `RegisterService` throws, and the server answers for the service. -/
theorem offline_service_added :
    ¬ ∀ (host after : RegisteringServer ZooTree Bytes) (service : Service Bytes) (exit : Exit),
      (RegisteringServer.registerService zooTree service).run host = .error exit after →
      RegisteringServer.Unchanged host after := by
  intro atomic
  obtain ⟨services, -⟩ := atomic (offlineServer ∅) _ pingService _ rfl
  have added : some pingService = none :=
    (Table.find?_insert ∅ pingService.name pingService).symm.trans (congrFun services pingService.name)
  cases added

section ReadBack
variable {zk : ZooKeeper Store}

/-- `path` was registered with `data`, by a client of its own or by a server. -/
inductive Registered (zk : ZooKeeper Store) (Msg : Type) : Bytes → Bytes → Registry Store → Prop
  | client {writer after : Registry Store} {path data : Bytes} {ephemeral : Bool}
      (returned : (register zk path data ephemeral).run writer = .ok () after) :
      Registered zk Msg path data after
  | service {host after : RegisteringServer Store Msg} {service : Service Msg}
      (returned : (RegisteringServer.registerService zk service).run host = .ok () after) :
      Registered zk Msg (registeredPath service.name host.serverIp host.serverPort)
        (registeredData (service.methods.map Method.name)) after.registry

theorem Registered.register {path data : Bytes} {after : Registry Store}
    (registered : Registered zk Msg path data after) :
    ∃ writer ephemeral, (register zk path data ephemeral).run writer = .ok () after := by
  cases registered with
  | client returned => exact ⟨_, _, returned⟩
  | @service host left service returned =>
    rw [run_registerService, run_inRegistry] at returned
    cases ran : (ZookeeperClient.register zk
        (registeredPath service.name host.serverIp host.serverPort)
        (registeredData (service.methods.map Method.name)) true).run host.registry with
    | error exit registry => simp [ran] at returned
    | ok done registry =>
      simp only [ran, EStateM.Result.ok.injEq] at returned
      obtain ⟨-, same⟩ := returned
      subst left
      exact ⟨_, _, ran⟩

/-- What was registered comes back whole, from each of the three readers, if and only if
it fits into the buffer. -/
theorem read_back_iff (lawful : zk.Lawful) (reliable : zk.Reliable) {after reader : Registry Store}
    {path data : Bytes} (registered : Registered zk Msg path data after)
    (unchanged : held zk reader (cString path) = held zk after (cString path))
    (connected : reader.client.connected = true) :
    (Uncached reader.client path →
      ((∃ left, (discover zk path).run reader = .ok data left) ↔ data.length ≤ 512)) ∧
    (∀ (watched : WatchedClient Store) callback, watched.registry = reader →
      ((watched.handle zk (cString path) (.reading callback)).handler =
        some ⟨cString path, .storing callback data⟩ ↔ data.length ≤ 512)) ∧
    ∀ service, ZooKeeper.InstanceOf service (cString path) →
      reader.client.serviceCache.find? service = none →
      ((∃ instances left, (discoverService zk service).run reader = .ok instances left ∧
        (cString path, data) ∈ instances) ↔ data.length ≤ 512) := by
  obtain ⟨writer, ephemeral, returned⟩ := registered.register
  obtain ⟨service, segment, -, ⟨node, same, found⟩, -⟩ := register_returned lawful returned
  have holds : Holds zk reader path data := ⟨node, unchanged.trans found, same⟩
  refine ⟨?_, ?_, ?_⟩
  · intro uncached
    obtain ⟨left, ran⟩ := discover_reads lawful reliable connected holds segment
      (uncached service segment)
    rw [← List.take_eq_self_iff data]
    constructor
    · rintro ⟨other, whole⟩
      have equal := ran.symm.trans whole
      injection equal
    · intro whole
      exact ⟨left, by rw [ran, whole]⟩
  · intro watched callback same
    rw [handler_reads lawful reliable connected holds callback same,
      ← List.take_eq_self_iff data]
    simp
  · intro service member uncached
    obtain ⟨instances, left, ran, listed⟩ :=
      discoverService_reads lawful reliable connected holds member uncached
    rw [← List.take_eq_self_iff data]
    constructor
    · rintro ⟨others, other, again, whole⟩
      have equal := ran.symm.trans again
      injection equal with sameInstances
      subst sameInstances
      exact ((listed data).mp whole).symm
    · intro whole
      exact ⟨instances, left, ran, (listed data).mpr whole.symm⟩

/-- A client of one of several processes. -/
def clientOf (session : Nat) (store : ZooTree) : Registry ZooTree :=
  { store, client := { zkHandle := some session, isConnected := true } }

theorem registers (data : Bytes)
    (returned : returns ((register zooTree (text "/User/a") data).run (clientOf 0 .empty))) :
    ∃ after : Registry ZooTree, Registered zooTree Bytes (text "/User/a") data after := by
  obtain ⟨done, after, ran⟩ := exists_of_returns returned
  exact ⟨after, .client ran⟩

/-- A client that has not cached anything. -/
theorem uncached_clientOf (session : Nat) (store : ZooTree) (path : Bytes) :
    Uncached (clientOf session store).client path := by
  intro service _
  simp [clientOf, Table.find?_empty]

theorem login_read_back :
    ∃ (after : Registry ZooTree) (left : Registry ZooTree),
      Registered zooTree Bytes (text "/User/a") (text "methods=Login") after ∧
      (discover zooTree (text "/User/a")).run (clientOf 1 after.store) =
        .ok (text "methods=Login") left := by
  obtain ⟨after, registered⟩ := registers (text "methods=Login") (by decide +kernel)
  have fits := read_back_iff ZooTree.lawful ZooTree.reliable registered
    (rfl : held zooTree (clientOf 1 after.store) (cString (text "/User/a")) = _) rfl
  obtain ⟨left, ran⟩ := (fits.1 (uncached_clientOf 1 after.store _)).mpr (by decide)
  exact ⟨after, left, registered, ran⟩

/-- Of 513 bytes that were registered 512 are discovered. -/
theorem long_data_cut :
    ¬ ∀ (path data : Bytes) (after reader : Registry ZooTree),
      Registered zooTree Bytes path data after →
      held zooTree reader (cString path) = held zooTree after (cString path) →
      reader.client.connected = true → Uncached reader.client path →
      ∃ left, (discover zooTree path).run reader = .ok data left := by
  intro whole
  obtain ⟨after, registered⟩ := registers (List.replicate 513 97) (by decide +kernel)
  obtain ⟨left, ran⟩ := whole _ _ after (clientOf 1 after.store) registered rfl rfl
    (uncached_clientOf 1 after.store _)
  obtain ⟨writer, ephemeral, returned⟩ := registered.register
  obtain ⟨service, segment, -, ⟨node, same, found⟩, -⟩ :=
    register_returned ZooTree.lawful returned
  have holds : Holds zooTree (clientOf 1 after.store) (text "/User/a") (List.replicate 513 97) :=
    ⟨node, found, same⟩
  obtain ⟨other, cut⟩ := discover_reads ZooTree.lawful ZooTree.reliable rfl holds segment
    (uncached_clientOf 1 after.store _ service segment)
  have equal := cut.symm.trans ran
  injection equal with shorter
  have lengths := congrArg List.length shorter
  rw [List.length_take, List.length_replicate] at lengths
  omega

end ReadBack

end Xrpc
