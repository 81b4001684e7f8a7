import Xrpc.Core.Addresses
import Xrpc.Core.Dispatch
import Xrpc.Core.Registration
import Xrpc.Core.Startup

/-! From the configuration file of a server to the calls that reach the services it has
registered. -/

namespace Xrpc

open Support ZookeeperClient

variable {Store Msg : Type} {zk : ZooKeeper Store}

/-- A server that is up, before it registers its services. -/
def ServerBoot.hosting (boot : ServerBoot) (codec : XrpcCodec) (store : Store) :
    RegisteringServer Store Msg where
  server := { codec }
  serverIp := boot.serverIp
  serverPort := boot.serverPort
  registry := { store, client := boot.zkClient }

namespace RegisteringServer
variable {host after : RegisteringServer Store Msg} {service : Service Msg}

/-- The calls of `RegisterService`, one after the other. -/
def registerAll (zk : ZooKeeper Store) :
    List (Service Msg) → Effect (RegisteringServer Store Msg) Unit
  | [] => pure ()
  | service :: rest => do
    registerService zk service
    registerAll zk rest

/-- The path of a service of this server. -/
def pathOf (host : RegisteringServer Store Msg) (name : Bytes) : Bytes :=
  registeredPath name host.serverIp host.serverPort

/-- An address that has neither a slash nor a zero byte. -/
structure Plain (host : RegisteringServer Store Msg) : Prop where
  flat : 47 ∉ host.serverIp
  terminated : 0 ∉ host.serverIp

theorem Plain.address (plain : host.Plain) :
    ProperName (host.serverIp ++ 58 :: toDecimal host.serverPort) := by
  refine ⟨by simp, ?_, ?_⟩
  · rw [List.mem_append, List.mem_cons, not_or, not_or]
    exact ⟨plain.flat, by decide, not_mem_toDecimal (by decide) (by decide)⟩
  · rw [List.mem_append, List.mem_cons, not_or, not_or]
    exact ⟨plain.terminated, by decide, not_mem_toDecimal (by decide) (by decide)⟩

theorem pathOf_eq (host : RegisteringServer Store Msg) (name : Bytes) :
    host.pathOf name = instancePath name (host.serverIp ++ 58 :: toDecimal host.serverPort) := by
  simp [pathOf, registeredPath, instancePath]

theorem Plain.cString_pathOf (plain : host.Plain) {name : Bytes} (proper : ProperName name) :
    cString (host.pathOf name) = host.pathOf name := by
  rw [pathOf_eq]
  exact proper.cString_instancePath plain.address

theorem Plain.parent_pathOf (plain : host.Plain) {name : Bytes} (proper : ProperName name) :
    cString (parentOf (host.pathOf name)) = 47 :: name := by
  rw [pathOf_eq, parentOf_instancePath plain.address.flat]
  exact cString_servicePath proper.terminated

theorem pathOf_injective {name other : Bytes} (same : host.pathOf name = host.pathOf other) :
    name = other := by
  rw [pathOf_eq, pathOf_eq, instancePath, instancePath] at same
  simpa using same

/-- What a registration that returns has done. -/
theorem registerService_returned (lawful : zk.Lawful)
    (returned : (registerService zk service).run host = .ok () after) :
    after.server = host.server.addService service ∧ after.serverIp = host.serverIp ∧
      after.serverPort = host.serverPort ∧
      Holds zk after.registry (host.pathOf service.name)
        (registeredData (service.methods.map Method.name)) ∧
      ∀ other, other ≠ cString (host.pathOf service.name) →
        other ≠ cString (parentOf (host.pathOf service.name)) →
        held zk after.registry other = held zk host.registry other := by
  rw [run_registerService, run_inRegistry] at returned
  cases ran : (register zk (registeredPath service.name host.serverIp host.serverPort)
      (registeredData (service.methods.map Method.name)) true).run host.registry with
  | error exit registry => simp [ran] at returned
  | ok done registry =>
    simp only [ran, EStateM.Result.ok.injEq] at returned
    obtain ⟨-, same⟩ := returned
    subst after
    obtain ⟨_, _, _, ⟨node, data, found⟩, others⟩ := register_returned lawful ran
    exact ⟨rfl, rfl, rfl, ⟨node, found, data⟩, others⟩

/-- The node of every service that the server answers for lists its methods. -/
structure Advertised (zk : ZooKeeper Store) (host : RegisteringServer Store Msg) : Prop where
  plain : host.Plain
  named : ∀ name service, host.server.services.find? name = some service → ProperName name
  listed : ∀ name service, host.server.services.find? name = some service →
    Holds zk host.registry (host.pathOf name) (registeredData (service.methods.map Method.name))

theorem Advertised.registerService (lawful : zk.Lawful) (advertised : host.Advertised zk)
    (proper : ProperName service.name)
    (returned : (registerService zk service).run host = .ok () after) : after.Advertised zk := by
  have plain := advertised.plain
  obtain ⟨server, ip, port, holds, others⟩ := registerService_returned lawful returned
  have added : after.server.services.find? service.name = some service := by
    rw [server]
    exact Table.find?_insert _ _ _
  have kept : ∀ {name}, name ≠ service.name →
      after.server.services.find? name = host.server.services.find? name := by
    intro name different
    rw [server]
    exact Table.find?_insert_ne _ different _
  refine ⟨⟨ip ▸ plain.flat, ip ▸ plain.terminated⟩, ?_, ?_⟩
  · intro name found hit
    by_cases same : name = service.name
    · exact same ▸ proper
    · exact advertised.named name found ((kept same).symm.trans hit)
  · intro name found hit
    have path : after.pathOf name = host.pathOf name := by rw [pathOf, ip, port, pathOf]
    rw [path]
    by_cases same : name = service.name
    · subst name
      cases added.symm.trans hit
      exact holds
    · rw [kept same] at hit
      have properName := advertised.named name found hit
      obtain ⟨node, there, data⟩ := advertised.listed name found hit
      refine ⟨node, ?_, data⟩
      refine (others _ ?_ ?_).trans there
      · rw [plain.cString_pathOf properName, plain.cString_pathOf proper]
        exact fun clash => same (pathOf_injective clash)
      · rw [plain.cString_pathOf properName, plain.parent_pathOf proper, pathOf_eq]
        intro clash
        have inside : ZooKeeper.InstanceOf name (47 :: service.name) :=
          ⟨_, plain.address.named, plain.address.flat, clash.symm⟩
        exact ZooKeeper.not_instanceOf_parent proper.flat inside

theorem Advertised.registerAll (lawful : zk.Lawful) {services : List (Service Msg)}
    (advertised : host.Advertised zk) (proper : ∀ service ∈ services, ProperName service.name)
    (returned : (registerAll zk services).run host = .ok () after) :
    after.Advertised zk ∧ after.server = services.foldl XrpcServer.addService host.server ∧
      after.serverIp = host.serverIp ∧ after.serverPort = host.serverPort := by
  induction services generalizing host with
  | nil =>
    cases returned
    exact ⟨advertised, rfl, rfl, rfl⟩
  | cons service rest ih =>
    rw [RegisteringServer.registerAll, EStateM.run_bind] at returned
    cases ran : (RegisteringServer.registerService zk service).run host with
    | error exit between => simp [ran] at returned
    | ok done between =>
      simp only [ran] at returned
      obtain ⟨server, ip, port, -, -⟩ := registerService_returned lawful ran
      have next := advertised.registerService lawful (proper service List.mem_cons_self) ran
      obtain ⟨last, offers, sameIp, samePort⟩ := ih next
        (fun other member => proper other (List.mem_cons_of_mem service member)) returned
      refine ⟨last, ?_, sameIp.trans ip, samePort.trans port⟩
      rw [offers, server, List.foldl_cons]

end RegisteringServer

/-- A method that was registered is found, whatever the others are called. -/
theorem offersMethod_of_mem {methods : List Bytes} {method : Bytes} (member : method ∈ methods) :
    offersMethod (registeredData methods) method = true := by
  obtain ⟨before, after, rfl⟩ := List.append_of_mem member
  have first : method <+: join 44 (method :: after) := prefix_join_cons method after
  simp only [offersMethod, Bool.or_eq_true, findStr_isSome_iff]
  by_cases none : before = []
  · subst before
    refine .inl (.inl (List.IsPrefix.isInfix ?_))
    rw [registeredData, List.nil_append, List.prefix_append_right_inj]
    exact first
  · obtain ⟨more, joined⟩ := first
    refine .inr ⟨registeredData before, more, ?_⟩
    rw [registeredData, registeredData, join_append none (List.cons_ne_nil _ _), ← joined]
    simp [text]

section Calls
variable {site : Site} {configFile : Bytes} {boot : ServerBoot} {codec : XrpcCodec} {store : Store}
  {services : List (Service Msg)} {service : Service Msg} {method : Method Msg}
  {after : RegisteringServer Store Msg} {reader : Registry Store}

theorem advertised_hosting (zk : ZooKeeper Store) (boot : ServerBoot) (codec : XrpcCodec)
    (store : Store) (flat : 47 ∉ boot.serverIp) (terminated : 0 ∉ boot.serverIp) :
    (boot.hosting codec store : RegisteringServer Store Msg).Advertised zk := by
  refine ⟨⟨flat, terminated⟩, ?_, ?_⟩
  · intro name service hit
    cases hit
  · intro name service hit
    cases hit

/-- Other clients find the server by each method that it has registered. -/
theorem hosted_found (lawful : zk.Lawful) (reliable : zk.Reliable) (advertised : after.Advertised zk)
    (offered : after.server.services.find? service.name = some service)
    (member : method ∈ service.methods)
    (short : (registeredData (service.methods.map Method.name)).length ≤ 512)
    (connected : reader.client.connected = true)
    (unchanged : held zk reader (after.pathOf service.name) =
      held zk after.registry (after.pathOf service.name))
    (uncached : reader.client.serviceCache.find? service.name = none) :
    ∃ addresses left, (findInstancesByMethod zk service.name method.name).run reader =
        .ok addresses left ∧
      after.serverIp ++ 58 :: toDecimal after.serverPort ∈ addresses := by
  have proper := advertised.named _ _ offered
  have path := advertised.plain.cString_pathOf proper
  obtain ⟨node, found, data⟩ := advertised.listed _ _ offered
  have holds : Holds zk reader (after.pathOf service.name)
      (registeredData (service.methods.map Method.name)) := by
    refine ⟨node, ?_, data⟩
    rw [path] at found ⊢
    exact unchanged.trans found
  have here : ZooKeeper.InstanceOf service.name (cString (after.pathOf service.name)) := by
    rw [path, RegisteringServer.pathOf_eq]
    exact ⟨_, advertised.plain.address.named, advertised.plain.address.flat, rfl⟩
  obtain ⟨instances, left, ran, listed⟩ :=
    discoverService_reads lawful reliable connected holds here uncached
  have answer : (findInstancesByMethod zk service.name method.name).run reader =
      .ok ((instances.filter fun entry => offersMethod entry.2 method.name).map fun entry =>
        instanceName entry.1) left := by
    rw [findInstancesByMethod, EStateM.run_bind, ran]
    rfl
  refine ⟨_, left, answer, ?_⟩
  have entry := (listed _).mpr rfl
  rw [List.take_of_length_le short, path] at entry
  have offers := offersMethod_of_mem (List.mem_map_of_mem (f := Method.name) member)
  refine List.mem_map.mpr ⟨_, List.mem_filter.mpr ⟨entry, offers⟩, ?_⟩
  exact instanceName_registeredPath advertised.plain.flat service.name after.serverPort

theorem stoi_fits {s : Bytes} {n : Int} (parsed : stoi s = some n) :
    -2147483648 ≤ n ∧ n ≤ 2147483647 := by
  simp only [stoi, Option.ite_none_right_eq_some, Option.some.injEq] at parsed
  obtain ⟨⟨-, low, high⟩, rfl⟩ := parsed
  exact ⟨low, high⟩

/-- What a server registers leads every call to it: other clients find its address, the address
leads to the endpoint at which it listens, and there the method is found. -/
theorem hosted_method_reached (lawful : zk.Lawful) (reliable : zk.Reliable)
    (built : (ServerBoot.construct site configFile).run {} = .ok () boot)
    (plain : 47 ∉ boot.serverIp ∧ 58 ∉ boot.serverIp ∧ 0 ∉ boot.serverIp)
    (proper : ∀ service ∈ services, ProperName service.name)
    (registered : (RegisteringServer.registerAll zk services).run (boot.hosting codec store) =
      .ok () after)
    (offered : XrpcServer.lastRegistered services service.name = some service)
    (member : method ∈ service.methods)
    (short : (registeredData (service.methods.map Method.name)).length ≤ 512)
    (connected : reader.client.connected = true)
    (unchanged : held zk reader (after.pathOf service.name) =
      held zk after.registry (after.pathOf service.name))
    (uncached : reader.client.serviceCache.find? service.name = none) :
    ∃ addresses left address endpoint,
      (findInstancesByMethod zk service.name method.name).run reader = .ok addresses left ∧
      address ∈ addresses ∧ boot.listening = some endpoint ∧
      (∀ outside others transport, outside.instances = .ok (address :: others) →
        transport.isOpen = false → site.network.connects endpoint = true →
        ∃ ip port, XrpcChannel.locate outside = .ok (ip, port) ∧
          (AsioClient.connect site.network ip port).run transport =
            .ok () (transport.connectTo endpoint)) ∧
      ∀ decoded request, decoded.accepted = true → decoded.header.cancelled = false →
        decoded.header.serviceName = service.name → decoded.header.methodName = method.name →
        method.requestType.parseFromString decoded.body = (true, request) →
        after.server.route decoded = .ok (method, request) := by
  obtain ⟨flat, single, terminated⟩ := plain
  obtain ⟨session, config, -, up, -⟩ :=
    (ServerBoot.construct_ends site configFile).of_ok ServerBoot.vacant_empty built
  obtain ⟨endpointAddress, parsed, listening⟩ := up.listening
  obtain ⟨advertised, server, ip, port⟩ :=
    (advertised_hosting zk boot codec store flat terminated).registerAll lawful proper registered
  have services_eq : after.server = XrpcServer.offering codec services := server
  have offers : after.server.services.find? service.name = some service := by
    rw [services_eq, XrpcServer.find?_offering, offered]
  obtain ⟨addresses, left, ran, found⟩ := hosted_found lawful reliable advertised offers member
    short connected unchanged uncached
  refine ⟨addresses, left, _, _, ran, found, listening, ?_, ?_⟩
  · intro outside others transport given closed connects
    refine ⟨boot.serverIp, boot.serverPort, ?_, AsioClient.connect_closed closed parsed connects⟩
    refine (XrpcChannel.locate_eq_ok_iff given).mpr ⟨toDecimal boot.serverPort, ?_, single, ?_⟩
    · rw [ip, port]
      rfl
    · have fits := stoi_fits up.serverPort
      exact stoi_toDecimal fits.1 fits.2
  · intro decoded request accepted active toService toMethod asked
    rw [services_eq]
    refine XrpcServer.route_eq_ok_iff.mpr ⟨accepted, active, ⟨service, ?_, member⟩,
      toMethod.symm, asked⟩
    rw [toService, offered]

end Calls

section Ping

/-- A host with the configuration of a server, whose ZooKeeper answers at the first poll. -/
def loopbackSite : Site where
  files name :=
    if name = ServerBoot.zkConfigFile then some []
    else if name = text "server.conf" then
      some (text "server_ip=127.0.0.1" ++ 10 :: text "server_port=8080")
    else none
  network :=
    { fromString := fun ip =>
        if ip = text "127.0.0.1" then .ok [127, 0, 0, 1] else .error (text "Invalid argument")
      connects := fun endpoint => endpoint.port = 8080 }
  binds _ := .ok ()
  zookeeperInit _ _ := some 0
  polls := [true]

theorem ping_hosted : ∃ boot after addresses left address endpoint,
    (ServerBoot.construct loopbackSite (text "server.conf")).run {} = .ok () boot ∧
      (RegisteringServer.registerAll zooTree [pingService]).run
        (boot.hosting pingCodec .empty) = .ok () after ∧
      (findInstancesByMethod zooTree (text "Ping") (text "Do")).run
        (clientOf 1 after.registry.store) = .ok addresses left ∧
      address ∈ addresses ∧ boot.listening = some endpoint := by
  have returned : returns
      ((ServerBoot.construct loopbackSite (text "server.conf")).run {}) = true := by decide +kernel
  obtain ⟨_, boot, built⟩ := exists_of_returns returned
  have ip : boot.serverIp = text "127.0.0.1" := by
    have same : (stateAfter ((ServerBoot.construct loopbackSite (text "server.conf")).run
        {})).serverIp = text "127.0.0.1" := by decide +kernel
    rwa [built] at same
  have registers : returns ((RegisteringServer.registerAll zooTree [pingService]).run
      ((stateAfter ((ServerBoot.construct loopbackSite (text "server.conf")).run {})).hosting
        pingCodec ZooTree.empty)) = true := by decide +kernel
  rw [built, stateAfter_ok] at registers
  obtain ⟨_, after, registered⟩ := exists_of_returns registers
  have offered : XrpcServer.lastRegistered [pingService] pingService.name = some pingService := rfl
  have member : pingMethod ∈ pingService.methods := List.mem_singleton.mpr rfl
  have unchanged : held zooTree (clientOf 1 after.registry.store) (after.pathOf pingService.name) =
      held zooTree after.registry (after.pathOf pingService.name) := rfl
  obtain ⟨addresses, left, address, endpoint, found, listed, listening, -, -⟩ :=
    hosted_method_reached ZooTree.lawful ZooTree.reliable built (by rw [ip]; decide) (by decide)
      registered offered member (by decide) rfl unchanged rfl
  exact ⟨boot, after, addresses, left, address, endpoint, built, registered, found, listed, listening⟩

end Ping

end Xrpc
