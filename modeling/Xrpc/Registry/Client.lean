import Xrpc.Registry.ZooKeeper
import Xrpc.Support.Table

/-! `ZookeeperClient`: registration and discovery of service instances, with a
cache of the instances of each service. -/

namespace Xrpc

open Support

abbrev ServiceCache := Table Bytes (List (Bytes × Bytes))

/-- `zkHandle` is the session of the open handle; a callback of `watchers` is
known by a number. -/
structure ZookeeperClient where
  zkHandle : Option Nat := none
  isConnected : Bool := false
  running : Bool := false
  serviceCache : ServiceCache := ∅
  watchers : Table Bytes Nat := ∅

/-- A client and the store that it talks to. -/
structure Registry (Store : Type) where
  store : Store
  client : ZookeeperClient

/-- `path.substr(1, path.find('/', 1) - 1)`. -/
def serviceSegment (path : Bytes) : Option Bytes :=
  -- the position may be npos
  match find path 47 1 with
  | some slash => substr path 1 (slash - 1)
  | none => substr path 1 path.length

/-- The data of the first instance at `path` is replaced, or the instance is appended. -/
def setInstance (path data : Bytes) : List (Bytes × Bytes) → List (Bytes × Bytes)
  | [] => [(path, data)]
  | entry :: rest =>
    if entry.1 = path then (path, data) :: rest else entry :: setInstance path data rest

namespace ServiceCache

def setInstance (cache : ServiceCache) (service path data : Bytes) : ServiceCache :=
  cache.insert service (Xrpc.setInstance path data ((cache.find? service).getD []))

/-- The instances of a service whose path is not kept are removed, and the list
with the last of them. -/
def retain (cache : ServiceCache) (service : Bytes) (keep : Bytes → Bool) : ServiceCache :=
  match cache.find? service with
  | none => cache
  | some instances =>
    let kept := instances.filter fun entry => keep entry.1
    if kept = [] then cache.erase service else cache.insert service kept

variable {cache : ServiceCache} {service other : Bytes}

theorem find?_setInstance (path data : Bytes) :
    (cache.setInstance service path data).find? service =
      some (Xrpc.setInstance path data ((cache.find? service).getD [])) :=
  Table.find?_insert _ _ _

theorem find?_setInstance_ne (different : other ≠ service) (path data : Bytes) :
    (cache.setInstance service path data).find? other = cache.find? other :=
  Table.find?_insert_ne _ different _

theorem find?_retain (keep : Bytes → Bool) :
    (cache.retain service keep).find? service =
      (cache.find? service).bind fun instances =>
        let kept := instances.filter fun entry => keep entry.1
        if kept = [] then none else some kept := by
  cases cached : cache.find? service with
  | none => simp [retain, cached]
  | some instances =>
    by_cases emptied : (instances.filter fun entry => keep entry.1) = []
    · simp only [retain, cached, emptied, if_true, Table.find?_erase, Option.bind_some]
    · simp only [retain, cached, emptied, if_false, Table.find?_insert, Option.bind_some]

theorem find?_retain_ne (different : other ≠ service) (keep : Bytes → Bool) :
    (cache.retain service keep).find? other = cache.find? other := by
  unfold retain
  split
  · rfl
  · dsimp only
    split
    · exact Table.find?_erase_ne _ different
    · exact Table.find?_insert_ne _ different _

end ServiceCache

/-- The states that a session event reports; `WatcherCallback` knows three of them. -/
inductive SessionState where
  | connected | connecting | expired | other
  deriving DecidableEq

namespace ZookeeperClient

/-- `WatcherCallback` for a `ZOO_SESSION_EVENT`. -/
def handleSessionEvent (state : SessionState) (client : ZookeeperClient) : ZookeeperClient :=
  if client.zkHandle = none ∨ ¬ client.running then client
  else
    match state with
    | .connected => { client with isConnected := true }
    | .expired => { client with isConnected := false, serviceCache := ∅ }
    | .connecting => { client with isConnected := false }
    | .other => client

/-- What `Stop` leaves of the client. -/
def stopped (client : ZookeeperClient) : ZookeeperClient :=
  { client with running := false, watchers := ∅, serviceCache := ∅, zkHandle := none }

/-- `is_connected_ && zk_handle_`. -/
def connected (client : ZookeeperClient) : Bool := client.isConnected && client.zkHandle.isSome

section Calls
variable {Store α : Type}

/-- A call of the C client through `zk_handle_`. -/
def request (call : Nat → Store → Except ZooCode α × Store) :
    Effect (Registry Store) (Except ZooCode α) := fun state =>
  match state.client.zkHandle with
  | none => .ok (.error .badArguments) state
  | some session =>
    .ok (call session state.store).1 { state with store := (call session state.store).2 }

def modifyCache (change : ServiceCache → ServiceCache) : Effect (Registry Store) Unit :=
  modify fun state =>
    { state with client.serviceCache := change state.client.serviceCache }

def modifyWatchers (change : Table Bytes Nat → Table Bytes Nat) : Effect (Registry Store) Unit :=
  modify fun state => { state with client.watchers := change state.client.watchers }

def checkConnected : Effect (Registry Store) Unit := do
  unless (← get).client.connected do
    raise (runtimeError (text "ZooKeeper not connected"))

/-- The service of a path; only the empty path has no position 1. -/
def serviceOf (path : Bytes) : Effect (Registry Store) Bytes :=
  match serviceSegment path with
  | some service => pure service
  | none => raise (.exception
      (text "basic_string::substr: __pos (which is 1) > this->size() (which is 0)"))

def cacheInstance (path data : Bytes) : Effect (Registry Store) Unit := do
  let service ← serviceOf path
  modifyCache (ServiceCache.setInstance · service path data)

variable (zk : ZooKeeper Store)

/-- The node above is created unless it is there. -/
def createParent (path : Bytes) : Effect (Registry Store) Unit :=
  match rfind path 47 with
  | none => pure ()
  | some lastSlash => do
    let parent := path.take lastSlash
    if parent = [] then pure ()
    else
      match ← request (zk.zooCreate · (cString parent) [] false) with
      | .ok () | .error .nodeExists => pure ()
      | .error ret => raise (runtimeError (text "Failed to create parent node: " ++ zk.zerror ret))

def findNode (path : Bytes) : Effect (Registry Store) (Except ZooCode Nat) :=
  request (zk.zooExists · (cString path))

/-- A call whose return code must be `ZOK`. -/
def attempt (call : Nat → Store → Except ZooCode α × Store) (failure : String) :
    Effect (Registry Store) α := do
  match ← request call with
  | .ok value => pure value
  | .error ret => raise (runtimeError (text failure ++ zk.zerror ret))

/-- With the answer of `zoo_exists`. -/
def writeNode (path data : Bytes) (ephemeral : Bool) :
    Except ZooCode Nat → Effect (Registry Store) Unit
  | .ok version => attempt zk (zk.zooSet · (cString path) data version) "Failed to update node: "
  | .error _ =>
    attempt zk (zk.zooCreate · (cString path) data ephemeral) "Failed to create node: "

def beginRegister (path : Bytes) : Effect (Registry Store) Unit := do
  checkConnected
  createParent zk path

def finishRegister (path data : Bytes) (ephemeral : Bool) (stat : Except ZooCode Nat) :
    Effect (Registry Store) Unit := do
  writeNode zk path data ephemeral stat
  cacheInstance path data

def register (path data : Bytes) (ephemeral : Bool := false) : Effect (Registry Store) Unit := do
  beginRegister zk path
  let stat ← findNode zk path
  finishRegister zk path data ephemeral stat

def getNodeData (path : Bytes) : Effect (Registry Store) Bytes := do
  checkConnected
  attempt zk (zk.zooGet · (cString path) 512) "Failed to get node: "

def discover (path : Bytes) : Effect (Registry Store) Bytes := do
  let service ← serviceOf path
  let cached := ((← get).client.serviceCache.find? service).getD []
  match cached.find? fun entry => entry.1 = path with
  | some entry => pure entry.2
  | none =>
    let data ← getNodeData zk path
    cacheInstance path data
    pure data

/-- The loop over the children: an instance that cannot be read is skipped. -/
def readInstances : List Bytes → Effect (Registry Store) (List (Bytes × Bytes))
  | [] => pure []
  | path :: rest => do
    let found ← catchStd (do return [(path, ← getNodeData zk path)]) fun _ => pure []
    return found ++ (← readInstances rest)

/-- `"/" + service + "/" + name`. -/
def instancePath (service name : Bytes) : Bytes := (47 :: service) ++ 47 :: name

def discoverService (service : Bytes) : Effect (Registry Store) (List (Bytes × Bytes)) := do
  match (← get).client.serviceCache.find? service with
  | some instances => pure instances
  | none =>
    let children ← attempt zk (zk.zooGetChildren · (cString (47 :: service)))
      "Failed to get children: "
    let instances ← readInstances zk (children.map (instancePath service))
    modifyCache (·.insert service instances)
    pure instances

/-- The cache update of `Delete`. -/
def forgetInstance (path : Bytes) : Effect (Registry Store) Unit := do
  let service ← serviceOf path
  modifyCache (·.retain service (· ≠ path))
  modifyWatchers (·.erase path)

def checkStarted : Effect (Registry Store) Unit := do
  unless (← get).client.zkHandle.isSome do
    raise (runtimeError (text "ZookeeperClient::Delete - ZooKeeper client not started"))

def delete (path : Bytes) : Effect (Registry Store) Unit := do
  checkStarted
  match ← request (zk.zooExists · (cString path)) with
  | .error .noNode => pure ()
  | .error ret => raise (runtimeError
      (text "ZookeeperClient::Delete - Error checking node existence: " ++ zk.zerror ret))
  | .ok _ =>
    attempt zk (zk.zooDelete · (cString path)) "ZookeeperClient::Delete - Failed to delete node: "
    forgetInstance path

/-- What the heartbeat does for one service of its snapshot. -/
def reconcile (service : Bytes) : Effect (Registry Store) Unit := do
  match ← request (zk.zooGetChildren · (cString (47 :: service))) with
  | .error _ => pure ()
  | .ok children =>
    let currentPaths := children.map (instancePath service)
    modifyCache (·.retain service (· ∈ currentPaths))

/-- One round of the loop of `Heartbeat`, over the services cached when it starts. -/
def heartbeatRound : Effect (Registry Store) Unit := do
  let services := (← get).client.serviceCache.keys
  services.forM (reconcile zk)

end Calls

end ZookeeperClient

end Xrpc
