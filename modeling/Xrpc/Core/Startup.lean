import Xrpc.Core.Config
import Xrpc.Registry.Lifecycle
import Xrpc.Support.Triple
import Xrpc.Transport.Client

/-! How an `XrpcServer` comes up from its configuration file, and what is left of it when it
does not, or is destroyed. -/

namespace Xrpc

open Support

/-- What a server meets where it is started: the files, the parser of addresses, whether an
acceptor can be bound, the handle that `zookeeper_init` returns, and whether `zoo_state` is
connected each time that `Start` asks for it. -/
structure Site where
  files : Bytes → Option Bytes
  network : Network
  binds : Endpoint → Except Bytes Unit
  zookeeperInit : Bytes → Int → Option Nat
  polls : List Bool

/-- An `XrpcServer`, with the ZooKeeper sessions that are open for it and the endpoint at
which its acceptor listens. -/
structure ServerBoot where
  zkClient : ZookeeperClient := {}
  sessions : List Nat := []
  listening : Option Endpoint := none
  serverIp : Bytes := []
  serverPort : Int := 0

namespace ServerBoot

/-- The file that every `ZookeeperClient` loads. -/
def zkConfigFile : Bytes := text "/home/tan/program/CppWorkSpace/xrpc/configs/xrpc.conf"

/-- The loop of `Start`, with `left` rounds to go. -/
def retry : Nat → List Bool → ZookeeperClient → ZookeeperClient
  | 0, _, client => client
  | left + 1, polls, client =>
    if client.isConnected then client
    else if polls.headD false then { client with isConnected := true }
    else retry left polls.tail client

/-- `zookeeper_close(zk_handle_)` -/
def close (boot : ServerBoot) : ServerBoot :=
  match boot.zkClient.zkHandle with
  | none => boot
  | some session =>
    { boot with sessions := boot.sessions.erase session, zkClient.zkHandle := none }

/-- `ZookeeperClient::Stop` -/
def stopClient (boot : ServerBoot) : ServerBoot :=
  { boot.close with zkClient := boot.zkClient.stopped }

/-- `AsioTransport::Stop` -/
def stopTransport (boot : ServerBoot) : ServerBoot := { boot with listening := none }

/-- `~XrpcServer`. A constructor that throws destroys the same two members, the last first. -/
def destroy (boot : ServerBoot) : ServerBoot := boot.stopTransport.stopClient

def opened (session : Nat) (boot : ServerBoot) : ServerBoot :=
  { boot with zkClient.zkHandle := some session, sessions := session :: boot.sessions }

def load (site : Site) (file : Bytes) : Effect ServerBoot XrpcConfig := fun boot =>
  match (XrpcConfig.load site.files file).run {} with
  | .ok () config => .ok config boot
  | .error exit _ => .error exit boot

/-- `ZookeeperClient::Start` -/
def start (site : Site) (config : XrpcConfig) : Effect ServerBoot Unit :=
  let host := config.get (text "zookeeper_ip") (text "127.0.0.1") ++ text ":" ++
    config.get (text "zookeeper_port") (text "2181")
  match stoi (config.get (text "zookeeper_timeout_ms") (text "6000")) with
  | none => raise (.exception (text "stoi"))
  | some timeoutMs =>
    match site.zookeeperInit (cString host) timeoutMs with
    | none => do
      modify fun boot => { boot with zkClient.zkHandle := none }
      raise (runtimeError (text "Failed to initialize ZooKeeper client"))
    | some session => do
      modify (opened session)
      modify fun boot => { boot with zkClient := retry 3 site.polls boot.zkClient }
      if (← get).zkClient.isConnected then
        modify fun boot => { boot with zkClient.running := true }
      else
        modify close
        raise (runtimeError (text "Failed to connect to ZooKeeper"))

/-- `AsioTransport::StartServer` -/
def startServer (site : Site) (ip : Bytes) (port : Int) : Effect ServerBoot Unit := do
  let address ← ofThrowing (site.network.fromString ip)
  -- the port is an `unsigned short`
  let endpoint : Endpoint := ⟨address, UInt16.ofInt port⟩
  ofThrowing (site.binds endpoint)
  modify fun boot => { boot with listening := some endpoint }

/-- `XrpcServer::Init` -/
def init (site : Site) (zkConfig config : XrpcConfig) : Effect ServerBoot Unit := do
  start site zkConfig
  let serverIp := config.get (text "server_ip") (text "0.0.0.0")
  modify fun boot => { boot with serverIp }
  match stoi (config.get (text "server_port") (text "8080")) with
  | none => raise (.exception (text "stoi"))
  | some serverPort =>
    modify fun boot => { boot with serverPort }
    startServer site serverIp serverPort

/-- `XrpcServer::XrpcServer` -/
def construct (site : Site) (configFile : Bytes) : Effect ServerBoot Unit := do
  let zkConfig ← load site zkConfigFile
  onThrow destroy do
    let config ← load site configFile
    init site zkConfig config

/-- `XrpcChannel::XrpcChannel`, which has the same members but for the acceptor. It loads its
configuration and does not look at it. -/
def constructChannel (site : Site) (configFile : Bytes) : Effect ServerBoot Unit := do
  let zkConfig ← load site zkConfigFile
  onThrow destroy do
    let _ ← load site configFile
    start site zkConfig

/-- Nothing is open for the server. -/
structure Vacant (boot : ServerBoot) : Prop where
  handle : boot.zkClient.zkHandle = none
  sessions : boot.sessions = []
  listening : boot.listening = none

/-- The session is open, and its handle is that of the client. -/
structure Holds (session : Nat) (boot : ServerBoot) : Prop where
  handle : boot.zkClient.zkHandle = some session
  sessions : boot.sessions = [session]

/-- One session at most is open, which the client will close. -/
def Owned (boot : ServerBoot) : Prop :=
  (boot.zkClient.zkHandle = none ∧ boot.sessions = []) ∨ ∃ session, Holds session boot

/-- The server is up: its session is open, and it listens at the endpoint that its
configuration names. -/
structure Up (site : Site) (config : XrpcConfig) (session : Nat) (boot : ServerBoot) : Prop where
  holds : Holds session boot
  isConnected : boot.zkClient.isConnected = true
  running : boot.zkClient.running = true
  serverIp : boot.serverIp = config.get (text "server_ip") (text "0.0.0.0")
  serverPort : stoi (config.get (text "server_port") (text "8080")) = some boot.serverPort
  listening : ∃ address, site.network.fromString boot.serverIp = .ok address ∧
    boot.listening = some ⟨address, UInt16.ofInt boot.serverPort⟩

variable {site : Site} {boot after : ServerBoot} {session : Nat} {config zkConfig : XrpcConfig}

theorem retry_handle (left : Nat) (polls : List Bool) (client : ZookeeperClient) :
    (retry left polls client).zkHandle = client.zkHandle := by
  induction left generalizing polls with
  | zero => rfl
  | succ left ih =>
    rw [retry]
    split
    · rfl
    · split
      · rfl
      · exact ih polls.tail

theorem Holds.close (holds : Holds session boot) :
    boot.close.zkClient.zkHandle = none ∧ boot.close.sessions = [] := by
  obtain ⟨handle, sessions⟩ := holds
  simp [ServerBoot.close, handle, sessions]

theorem Owned.destroy (owned : Owned boot) : Vacant boot.destroy := by
  rcases owned with ⟨handle, sessions⟩ | ⟨session, handle, sessions⟩
  · constructor
    · rfl
    · simp [ServerBoot.destroy, stopClient, stopTransport, ServerBoot.close, handle, sessions]
    · simp [ServerBoot.destroy, stopClient, stopTransport, ServerBoot.close, handle]
  · constructor
    · rfl
    · simp [ServerBoot.destroy, stopClient, stopTransport, ServerBoot.close, handle, sessions]
    · simp [ServerBoot.destroy, stopClient, stopTransport, ServerBoot.close, handle]

/-- The client as `Start` leaves it where it returns. -/
structure Started (session : Nat) (boot : ServerBoot) : Prop where
  holds : Holds session boot
  isConnected : boot.zkClient.isConnected = true
  running : boot.zkClient.running = true

/-- `Start` opens one session, or leaves none. -/
theorem start_ends (site : Site) (config : XrpcConfig) :
    Triple Vacant (start site config) (fun _ boot => ∃ session, Started session boot)
      (fun _ boot => Owned boot) := by
  rw [start]
  dsimp only
  split
  · refine Triple.raise ?_
    intro boot vacant
    exact .inl ⟨vacant.handle, vacant.sessions⟩
  · split
    · have cleared : Triple Vacant (modify fun boot => { boot with zkClient.zkHandle := none })
          (fun _ boot => Owned boot) (fun _ boot => Owned boot) :=
        Triple.modify fun boot vacant => .inl ⟨rfl, vacant.sessions⟩
      exact cleared.bind fun _ => Triple.raise fun _ owned => owned
    · rename_i session opening
      have opens : Triple Vacant (modify (opened session)) (fun _ boot => Holds session boot)
          (fun _ boot => Owned boot) := by
        refine Triple.modify ?_
        intro boot vacant
        exact ⟨rfl, by rw [opened, vacant.sessions]⟩
      have retries : Triple (Holds session)
          (modify fun boot => { boot with zkClient := retry 3 site.polls boot.zkClient })
          (fun _ boot => Holds session boot) (fun _ boot => Owned boot) := by
        refine Triple.modify ?_
        intro boot holds
        exact ⟨(retry_handle 3 site.polls boot.zkClient).trans holds.handle, holds.sessions⟩
      refine opens.bind fun _ => retries.bind fun _ => Triple.get_bind ?_
      intro here holds
      refine Triple.ite ?_ ?_
      · intro isConnected
        refine Triple.modify ?_
        rintro boot rfl
        exact ⟨session, ⟨holds.handle, holds.sessions⟩, isConnected, rfl⟩
      · intro apart
        have closes : Triple (· = here) (modify close) (fun _ boot => Owned boot)
            (fun _ boot => Owned boot) := by
          refine Triple.modify ?_
          rintro boot rfl
          exact .inl holds.close
        exact closes.bind fun _ => Triple.raise fun _ owned => owned

theorem Started.owned (started : Started session boot) : Owned boot := .inr ⟨session, started.holds⟩

theorem run_load (site : Site) (file : Bytes) (boot : ServerBoot) :
    (load site file).run boot =
      match (XrpcConfig.load site.files file).run {} with
      | .ok () config => .ok config boot
      | .error exit _ => .error exit boot := rfl

theorem load_ends (site : Site) (file : Bytes) (met : ServerBoot → Prop) :
    Triple met (load site file)
      (fun config boot => (XrpcConfig.load site.files file).run {} = .ok () config ∧ met boot)
      (fun _ boot => met boot) := by
  intro boot holds
  rw [run_load]
  cases loaded : (XrpcConfig.load site.files file).run {} with
  | ok done config => exact ⟨rfl, holds⟩
  | error exit config => exact holds

/-- Nothing that `StartServer` does concerns the session. -/
theorem startServer_ends (site : Site) {config : XrpcConfig} {serverIp : Bytes} {serverPort : Int}
    (ip : serverIp = config.get (text "server_ip") (text "0.0.0.0"))
    (port : stoi (config.get (text "server_port") (text "8080")) = some serverPort) :
    Triple (fun boot => Started session boot ∧ boot.serverIp = serverIp ∧
        boot.serverPort = serverPort)
      (startServer site serverIp serverPort) (fun _ boot => Up site config session boot)
      (fun _ boot => Owned boot) := by
  have parses : Triple (fun boot => Started session boot ∧ boot.serverIp = serverIp ∧
        boot.serverPort = serverPort) (ofThrowing (site.network.fromString serverIp))
      (fun address boot => site.network.fromString serverIp = .ok address ∧
        Started session boot ∧ boot.serverIp = serverIp ∧ boot.serverPort = serverPort)
      (fun _ boot => Owned boot) :=
    Triple.ofThrowing (fun address parsed boot ready => ⟨parsed, ready⟩)
      fun _ _ boot ready => ready.1.owned
  refine parses.bind fun address => ?_
  have binds : Triple (fun boot => site.network.fromString serverIp = .ok address ∧
        Started session boot ∧ boot.serverIp = serverIp ∧ boot.serverPort = serverPort)
      (ofThrowing (site.binds ⟨address, UInt16.ofInt serverPort⟩))
      (fun _ boot => site.network.fromString serverIp = .ok address ∧
        Started session boot ∧ boot.serverIp = serverIp ∧ boot.serverPort = serverPort)
      (fun _ boot => Owned boot) :=
    Triple.ofThrowing (fun _ _ boot ready => ready) fun _ _ boot ready => ready.2.1.owned
  refine binds.bind fun _ => Triple.modify ?_
  rintro boot ⟨parsed, ⟨⟨handle, sessions⟩, isConnected, running⟩, rfl, rfl⟩
  exact ⟨⟨handle, sessions⟩, isConnected, running, ip, port, address, parsed, rfl⟩

theorem init_ends (site : Site) (zkConfig config : XrpcConfig) :
    Triple Vacant (init site zkConfig config) (fun _ boot => ∃ session, Up site config session boot)
      (fun _ boot => Owned boot) := by
  refine (start_ends site zkConfig).bind fun _ => ?_
  rintro state ⟨session, started⟩
  have named : Triple (Started session) (modify fun boot => { boot with
        serverIp := config.get (text "server_ip") (text "0.0.0.0") })
      (fun _ boot => Started session boot ∧
        boot.serverIp = config.get (text "server_ip") (text "0.0.0.0"))
      (fun _ boot => Owned boot) := by
    refine Triple.modify ?_
    rintro boot ⟨⟨handle, sessions⟩, isConnected, running⟩
    exact ⟨⟨⟨handle, sessions⟩, isConnected, running⟩, rfl⟩
  refine named.bind (fun _ => ?_) state started
  cases port : stoi (config.get (text "server_port") (text "8080")) with
  | none => exact Triple.raise fun boot ready => ready.1.owned
  | some serverPort =>
    have numbered : Triple (fun boot => Started session boot ∧
          boot.serverIp = config.get (text "server_ip") (text "0.0.0.0"))
        (modify fun boot => { boot with serverPort })
        (fun _ boot => Started session boot ∧
          boot.serverIp = config.get (text "server_ip") (text "0.0.0.0") ∧
          boot.serverPort = serverPort)
        (fun _ boot => Owned boot) := by
      refine Triple.modify ?_
      rintro boot ⟨⟨⟨handle, sessions⟩, isConnected, running⟩, ip⟩
      exact ⟨⟨⟨handle, sessions⟩, isConnected, running⟩, ip, rfl⟩
    refine numbered.bind fun _ => ?_
    exact (startServer_ends site rfl port).consequence (fun _ ready => ready)
      (fun _ boot up => ⟨session, up⟩) fun _ _ owned => owned

theorem vacant_empty : Vacant {} := ⟨rfl, rfl, rfl⟩

theorem construct_ends (site : Site) (configFile : Bytes) :
    Triple Vacant (construct site configFile)
      (fun _ boot => ∃ session config,
        (XrpcConfig.load site.files configFile).run {} = .ok () config ∧
        Up site config session boot ∧ Vacant boot.destroy)
      (fun _ boot => Vacant boot) := by
  refine (load_ends site zkConfigFile Vacant).bind fun zkConfig => ?_
  refine Triple.onThrow ?_ fun exit boot owned => Owned.destroy owned
  have loads := (load_ends site configFile Vacant).consequence
    (fun _ (ready : (XrpcConfig.load site.files zkConfigFile).run {} = .ok () zkConfig ∧ Vacant _) =>
      ready.2) (fun _ _ loaded => loaded)
    (fun _ boot vacant => (.inl ⟨vacant.handle, vacant.sessions⟩ : Owned boot))
  refine loads.bind fun config => ?_
  rintro boot ⟨loaded, vacant⟩
  refine ((init_ends site zkConfig config).consequence (fun _ vacant => vacant) ?_
    fun _ _ owned => owned) boot vacant
  rintro _ after ⟨session, up⟩
  exact ⟨session, config, loaded, up, Owned.destroy (.inr ⟨session, up.holds⟩)⟩

/-- A server that is constructed is up, with one session and one acceptor, which its destructor
closes; a constructor that throws has closed what it had opened. -/
theorem construct_balanced (site : Site) (configFile : Bytes) :
    (∀ boot, (construct site configFile).run {} = .ok () boot → ∃ session config,
      (XrpcConfig.load site.files configFile).run {} = .ok () config ∧
      Up site config session boot ∧ Vacant boot.destroy) ∧
    ∀ exit boot, (construct site configFile).run {} = .error exit boot → Vacant boot :=
  ⟨fun _ returned => (construct_ends site configFile).of_ok vacant_empty returned,
    fun _ _ thrown => (construct_ends site configFile).of_error vacant_empty thrown⟩

/-- A channel is constructed with its session or without any, and `~XrpcChannel` closes it. -/
theorem constructChannel_ends (site : Site) (configFile : Bytes) :
    Triple Vacant (constructChannel site configFile)
      (fun _ boot => ∃ session, Started session boot ∧ Vacant boot.destroy)
      (fun _ boot => Vacant boot) := by
  refine (load_ends site zkConfigFile Vacant).bind fun zkConfig => ?_
  refine Triple.onThrow ?_ fun exit boot owned => Owned.destroy owned
  have loads := (load_ends site configFile Vacant).consequence
    (fun _ (ready : (XrpcConfig.load site.files zkConfigFile).run {} = .ok () zkConfig ∧ Vacant _) =>
      ready.2) (fun _ _ loaded => loaded.2)
    (fun _ boot vacant => (.inl ⟨vacant.handle, vacant.sessions⟩ : Owned boot))
  refine loads.bind fun _ => (start_ends site zkConfig).consequence (fun _ vacant => vacant) ?_
    fun _ _ owned => owned
  rintro _ boot ⟨session, started⟩
  exact ⟨session, started, Owned.destroy started.owned⟩

section Machine
variable {Store : Type} {zk : ZooKeeper Store} {life : Lifecycle Store}

/-- The rounds of the loop are steps of the machine of `Start` and `Stop`. -/
theorem retry_simulated (zk : ZooKeeper Store) (polls : List Bool) {left : Nat}
    (retrying : life.stage = .retrying left) :
    ∃ events next after, run (Lifecycle.step zk) life events = some next ∧
      next.stage = .retrying after ∧ (next.registry.client.isConnected = true ∨ after = 0) ∧
      next.registry.client = retry left polls life.registry.client := by
  induction left generalizing life polls with
  | zero => exact ⟨[], life, 0, rfl, retrying, .inr rfl, rfl⟩
  | succ left ih =>
    rw [retry]
    by_cases connected : life.registry.client.isConnected = true
    · exact ⟨[], life, left + 1, rfl, retrying, .inl connected, by rw [if_pos connected]⟩
    · have taken : life.step zk (.poll (polls.headD false)) =
          some (life.poll left (polls.headD false)) := by
        simp [Lifecycle.step, retrying, connected]
      rw [if_neg connected]
      by_cases answer : polls.headD false = true
      · refine ⟨[.poll true], life.poll left true, left, ?_, rfl, .inl rfl, ?_⟩
        · rw [run, ← answer, taken]
          rfl
        · rw [if_pos answer]
          rfl
      · rw [Bool.not_eq_true] at answer
        rw [answer] at taken
        obtain ⟨events, next, after, reached, stage, ended, same⟩ :=
          ih polls.tail (show (life.poll left false).stage = .retrying left from rfl)
        refine ⟨.poll false :: events, next, after, ?_, stage, ended, ?_⟩
        · rw [run, taken]
          exact reached
        · rw [answer, if_neg Bool.false_ne_true]
          exact same

/-- `Start`, where there is no handle. -/
theorem run_start_unopened {timeoutMs : Int}
    (timeout : stoi (config.get (text "zookeeper_timeout_ms") (text "6000")) = some timeoutMs)
    (opening : site.zookeeperInit (cString (config.get (text "zookeeper_ip") (text "127.0.0.1") ++
      text ":" ++ config.get (text "zookeeper_port") (text "2181"))) timeoutMs = none)
    (boot : ServerBoot) :
    (start site config).run boot =
      .error (runtimeError (text "Failed to initialize ZooKeeper client"))
        { boot with zkClient.zkHandle := none } := by
  rw [start]
  dsimp only
  rw [timeout]
  dsimp only
  rw [opening]
  rfl

/-- `Start`, where it gets to its loop. -/
theorem run_start_opened {timeoutMs : Int} {session : Nat}
    (timeout : stoi (config.get (text "zookeeper_timeout_ms") (text "6000")) = some timeoutMs)
    (opening : site.zookeeperInit (cString (config.get (text "zookeeper_ip") (text "127.0.0.1") ++
      text ":" ++ config.get (text "zookeeper_port") (text "2181"))) timeoutMs = some session)
    (boot : ServerBoot) :
    (start site config).run boot =
      let client := retry 3 site.polls { boot.zkClient with zkHandle := some session }
      if client.isConnected then
        .ok () { opened session boot with zkClient := { client with running := true } }
      else
        .error (runtimeError (text "Failed to connect to ZooKeeper"))
          (close { opened session boot with zkClient := client }) := by
  rw [start]
  dsimp only
  rw [timeout]
  dsimp only
  rw [opening]
  dsimp only
  rw [EStateM.run_bind, EStateM.run_modify]
  dsimp only
  rw [EStateM.run_bind, EStateM.run_modify]
  dsimp only
  rw [EStateM.run_bind, EStateM.run_get]
  dsimp only [opened]
  split
  · rfl
  · rfl

/-- `Start` as a whole is a run of the machine of `Start` and `Stop`, which leaves the same
client and agrees on whether it has returned. -/
theorem start_simulated (zk : ZooKeeper Store) (store : Store) (site : Site) (config : XrpcConfig) :
    ∃ events life, run (Lifecycle.step zk) (Lifecycle.fresh store) events = some life ∧
      life.registry.client = (stateAfter ((start site config).run {})).zkClient ∧
      life.stage = if returns ((start site config).run {}) then .started else .idle := by
  cases timeout : stoi (config.get (text "zookeeper_timeout_ms") (text "6000")) with
  | none =>
    refine ⟨[.start (config.get (text "zookeeper_timeout_ms") (text "6000")) none], _, rfl, ?_, ?_⟩
    · simp [start, Lifecycle.start, timeout, Lifecycle.ended, Lifecycle.fresh]
    · simp [start, Lifecycle.start, timeout, Lifecycle.ended, returns]
  | some timeoutMs =>
    cases opening : site.zookeeperInit (cString (config.get (text "zookeeper_ip")
        (text "127.0.0.1") ++ text ":" ++ config.get (text "zookeeper_port") (text "2181")))
        timeoutMs with
    | none =>
      refine ⟨[.start (config.get (text "zookeeper_timeout_ms") (text "6000")) none], _, rfl, ?_⟩
      rw [run_start_unopened timeout opening]
      simp [Lifecycle.start, timeout, Lifecycle.ended, Lifecycle.fresh, returns]
    | some session =>
      let retrying : Lifecycle Store := { Lifecycle.fresh store with
        registry.client.zkHandle := some session, observed := false, stage := .retrying 3 }
      have first : (Lifecycle.fresh store).step zk (.start (config.get (text "zookeeper_timeout_ms")
          (text "6000")) (some session)) = some retrying := by
        simp [Lifecycle.step, Lifecycle.fresh, Lifecycle.start, timeout, retrying]
      obtain ⟨events, next, after, reached, stage, ended, same⟩ :=
        retry_simulated zk site.polls (show retrying.stage = .retrying 3 from rfl)
      have last : next.step zk .leave = some next.leave := by
        simp [Lifecycle.step, stage, ended]
      refine ⟨.start (config.get (text "zookeeper_timeout_ms") (text "6000")) (some session) ::
        (events ++ [.leave]), next.leave, ?_, ?_⟩
      · rw [run, first, Option.bind_some, run_append, reached, Option.bind_some, run, last]
        rfl
      · have client : next.registry.client =
            retry 3 site.polls { ({} : ServerBoot).zkClient with zkHandle := some session } := same
        rw [run_start_opened timeout opening]
        dsimp only
        rw [← client, Lifecycle.leave]
        by_cases connected : next.registry.client.isConnected = true
        · rw [if_pos connected, if_pos connected]
          exact ⟨rfl, rfl⟩
        · have handle : next.registry.client.zkHandle = some session := by
            rw [client, retry_handle]
          rw [if_neg connected, if_neg connected]
          refine ⟨?_, rfl⟩
          simp [Lifecycle.ended, close, handle]

end Machine

end ServerBoot

end Xrpc
