import Xrpc.Support.Effect
import Xrpc.Support.Run
import Xrpc.Support.Table

/-! The server half of `AsioTransport`: the handlers that the io thread runs,
and the peers, which may go away at any point. -/

namespace Xrpc

open Support

/-- A socket in `server_sockets_`: whether its peer is still there, and whether
an `async_read_some` is posted on it. -/
structure ServerSocket where
  peer : Bool := true
  reading : Bool := false
  deriving DecidableEq

/-- The members of `AsioTransport` that a server uses. Sockets are numbered in
the order they were accepted. `running` says that no exception has left
`io_context::run`; `handed` lists what was passed to the callback. -/
structure AsioServer where
  serverCallback : Option (Bytes → Except Bytes Bytes)
  acceptorOpen : Bool := true
  accepting : Bool := false
  nextSocket : Nat := 0
  serverSockets : Table Nat ServerSocket := ∅
  running : Bool := true
  handed : List (Nat × Bytes) := []

/-- When the peer of a request goes away, if it does. -/
inductive Departure where
  | stays | beforeWrite | beforeLog
  deriving DecidableEq

/-- `there` tells whether the peer is still there when its accept handler runs. -/
inductive ServerEvent where
  | accepted (there : Bool)
  | acceptFailed
  | peerLeft (socket : Nat)
  | received (socket : Nat) (request : Bytes) (departure : Departure)
  | readFailed (socket : Nat)
  deriving DecidableEq

namespace AsioServer

def peerOf (server : AsioServer) (socket : Nat) : Bool :=
  (server.serverSockets.find? socket).any (·.peer)

def isReading (server : AsioServer) (socket : Nat) : Bool :=
  (server.serverSockets.find? socket).any (·.reading)

def setReading (server : AsioServer) (socket : Nat) (reading : Bool) : AsioServer :=
  { server with
    serverSockets := server.serverSockets.insert socket ⟨server.peerOf socket, reading⟩ }

def leave (server : AsioServer) (socket : Nat) : AsioServer :=
  { server with
    serverSockets := server.serverSockets.insert socket ⟨false, server.isReading socket⟩ }

/-- Keep account of what the callback is given. -/
def hand (server : AsioServer) (socket : Nat) (request : Bytes) : AsioServer :=
  { server with handed := server.handed ++ [(socket, request)] }

/-- The callback's response, which stays empty if there is no callback. -/
def answer (server : AsioServer) (request : Bytes) : Except Bytes Bytes :=
  match server.serverCallback with
  | none => .ok []
  | some callback => callback request

/-- `remote_endpoint()` and `write` throw when the peer is gone. -/
def needPeer (there : Bool) : Effect AsioServer Unit :=
  if there then pure () else raise (.exception (text "Transport endpoint is not connected"))

def doServerRead (socket : Nat) : Effect AsioServer Unit :=
  modify (·.setReading socket true)

def doAccept : Effect AsioServer Unit := do
  if !(← get).acceptorOpen then return
  modify fun server => { server with accepting := true }

def handleAccept (there : Bool) : Effect AsioServer Unit := do
  needPeer there
  let socket := (← get).nextSocket
  modify fun server =>
    { server with
      nextSocket := socket + 1
      serverSockets := server.serverSockets.insert socket {} }
  doServerRead socket
  doAccept

def handleAcceptFailure : Effect AsioServer Unit := doAccept

def handleServerRead (socket : Nat) (request : Bytes) (departure : Departure) :
    Effect AsioServer Unit := do
  modify (·.hand socket request)
  let response ← ofThrowing ((← get).answer request)
  if response ≠ [] then
    if departure = .beforeWrite then modify (·.leave socket)
    needPeer ((← get).peerOf socket)
    if departure = .beforeLog then modify (·.leave socket)
    -- the logging macro evaluates its arguments at every level
    needPeer ((← get).peerOf socket)
  doServerRead socket

def handleServerReadFailure (socket : Nat) : Effect AsioServer Unit := do
  needPeer ((← get).peerOf socket)
  modify fun server => { server with serverSockets := server.serverSockets.erase socket }

/-- The io thread runs a handler; an exception that leaves it ends `run`. -/
def perform (handler : Effect AsioServer Unit) (server : AsioServer) : AsioServer :=
  match handler.run server with
  | .ok _ after => after
  | .error _ after => { after with running := false }

/-- An operation that completes is not posted any more when its handler runs. -/
def step (server : AsioServer) : ServerEvent → Option AsioServer
  | .accepted there =>
    if server.running && server.accepting then
      some (perform (handleAccept there) { server with accepting := false })
    else none
  | .acceptFailed =>
    if server.running && server.accepting then
      some (perform handleAcceptFailure { server with accepting := false })
    else none
  | .peerLeft socket =>
    if (server.serverSockets.find? socket).isSome then some (server.leave socket) else none
  | .received socket request departure =>
    if server.running && server.isReading socket then
      some (perform (handleServerRead socket request departure) (server.setReading socket false))
    else none
  | .readFailed socket =>
    if server.running && server.isReading socket then
      some (perform (handleServerReadFailure socket) (server.setReading socket false))
    else none

/-- `StartServer` leaves the transport with one accept posted. -/
def startServer (callback : Bytes → Except Bytes Bytes) : AsioServer where
  serverCallback := some callback
  accepting := true

section Handlers
variable {server : AsioServer} {socket : Nat} {request : Bytes} {departure : Departure}

@[simp] theorem run_needPeer_true (server : AsioServer) :
    (needPeer true).run server = .ok () server := rfl

@[simp] theorem run_needPeer_false (server : AsioServer) : (needPeer false).run server =
    .error (.exception (text "Transport endpoint is not connected")) server := rfl

@[simp] theorem peerOf_setReading (server : AsioServer) (socket : Nat) (reading : Bool) :
    (server.setReading socket reading).peerOf socket = server.peerOf socket := by
  simp [setReading, peerOf]

@[simp] theorem peerOf_leave (server : AsioServer) (socket : Nat) :
    (server.leave socket).peerOf socket = false := by
  simp [leave, peerOf]

@[simp] theorem handed_leave (server : AsioServer) (socket : Nat) :
    (server.leave socket).handed = server.handed := rfl

@[simp] theorem answer_hand : (server.hand socket request).answer = server.answer := rfl

@[simp] theorem peerOf_hand : (server.hand socket request).peerOf = server.peerOf := rfl

@[simp] theorem handed_hand :
    (server.hand socket request).handed = server.handed ++ [(socket, request)] := rfl

/-- The server with one more connection, which is being read. -/
def enroll (server : AsioServer) : AsioServer :=
  { server with
    accepting := server.acceptorOpen || server.accepting
    nextSocket := server.nextSocket + 1
    serverSockets := (server.serverSockets.insert server.nextSocket {}).insert server.nextSocket
      ⟨true, true⟩ }

theorem perform_handleAccept (there : Bool) (server : AsioServer) :
    perform (handleAccept there) server =
      if there then server.enroll else { server with running := false } := by
  cases there with
  | false => simp [perform, handleAccept, EStateM.run_bind]
  | true =>
    cases opened : server.acceptorOpen with
    | false =>
      simp [perform, handleAccept, doServerRead, doAccept, EStateM.run_bind, enroll, setReading,
        peerOf, opened]
    | true =>
      simp [perform, handleAccept, doServerRead, doAccept, EStateM.run_bind, enroll, setReading,
        peerOf, opened]

theorem perform_handleAcceptFailure (server : AsioServer) :
    perform handleAcceptFailure server =
      { server with accepting := server.acceptorOpen || server.accepting } := by
  obtain ⟨_, acceptorOpen⟩ := server
  cases acceptorOpen with
  | false => simp [perform, handleAcceptFailure, doAccept, EStateM.run_bind]
  | true => simp [perform, handleAcceptFailure, doAccept, EStateM.run_bind]

theorem perform_handleServerRead {response : Bytes}
    (answered : server.answer request = .ok response)
    (attended : response = [] ∨ server.peerOf socket = true ∧ departure = .stays) :
    perform (handleServerRead socket request departure) server =
      (server.hand socket request).setReading socket true := by
  by_cases empty : response = []
  · simp [perform, handleServerRead, doServerRead, EStateM.run_bind, answered, empty]
  · obtain ⟨there, stays⟩ := attended.resolve_left empty
    simp [perform, handleServerRead, doServerRead, EStateM.run_bind, answered, empty, there, stays]

/-- Otherwise the handler is left by an exception, after it handed the request on. -/
theorem perform_handleServerRead_throws
    (alone : ¬∃ response, server.answer request = .ok response ∧
      (response = [] ∨ server.peerOf socket = true ∧ departure = .stays)) :
    (perform (handleServerRead socket request departure) server).running = false ∧
      (perform (handleServerRead socket request departure) server).handed =
        server.handed ++ [(socket, request)] := by
  cases answered : server.answer request with
  | error what => simp [perform, handleServerRead, EStateM.run_bind, answered]
  | ok response =>
    have full : response ≠ [] := fun empty => alone ⟨response, answered, .inl empty⟩
    have gone : server.peerOf socket = true → departure ≠ .stays :=
      fun there stays => alone ⟨response, answered, .inr ⟨there, stays⟩⟩
    cases departure with
    | beforeWrite => simp [perform, handleServerRead, EStateM.run_bind, answered, full]
    | stays =>
      have gone : server.peerOf socket = false := by simpa using gone
      simp [perform, handleServerRead, EStateM.run_bind, answered, full, gone]
    | beforeLog =>
      cases there : server.peerOf socket with
      | false => simp [perform, handleServerRead, EStateM.run_bind, answered, full, there]
      | true => simp [perform, handleServerRead, EStateM.run_bind, answered, full, there]

theorem perform_handleServerReadFailure (socket : Nat) (server : AsioServer) :
    perform (handleServerReadFailure socket) server =
      if server.peerOf socket then { server with serverSockets := server.serverSockets.erase socket }
      else { server with running := false } := by
  cases there : server.peerOf socket with
  | false => simp [perform, handleServerReadFailure, EStateM.run_bind, there]
  | true => simp [perform, handleServerReadFailure, EStateM.run_bind, there]

end Handlers

/-- The request that an event hands to the callback, and the socket it came on. -/
def request? : ServerEvent → Option (Nat × Bytes)
  | .received socket request _ => some (socket, request)
  | _ => none

theorem handed_step {server next : AsioServer} {event : ServerEvent}
    (taken : step server event = some next) :
    next.handed = server.handed ++ (request? event).toList := by
  cases event with
  | accepted there =>
    simp only [step, Option.ite_none_right_eq_some, Option.some.injEq] at taken
    rw [← taken.2, perform_handleAccept]
    cases there <;> simp [enroll, request?]
  | acceptFailed =>
    simp only [step, Option.ite_none_right_eq_some, Option.some.injEq] at taken
    rw [← taken.2, perform_handleAcceptFailure]
    simp [request?]
  | peerLeft socket =>
    simp only [step, Option.ite_none_right_eq_some, Option.some.injEq] at taken
    rw [← taken.2]
    simp [request?]
  | received socket request departure =>
    simp only [step, Option.ite_none_right_eq_some, Option.some.injEq] at taken
    rw [← taken.2]
    by_cases attended : ∃ response, (server.setReading socket false).answer request = .ok response ∧
        (response = [] ∨ (server.setReading socket false).peerOf socket = true ∧ departure = .stays)
    · obtain ⟨response, answered, attended⟩ := attended
      rw [perform_handleServerRead answered attended]
      rfl
    · exact (perform_handleServerRead_throws attended).2
  | readFailed socket =>
    simp only [step, Option.ite_none_right_eq_some, Option.some.injEq] at taken
    rw [← taken.2, perform_handleServerReadFailure]
    split <;> simp [request?, setReading]

/-- Every read goes to the callback, as it is and in the order of the reads. -/
theorem handed_run {server final : AsioServer} {events : List ServerEvent}
    (reached : run step server events = some final) :
    final.handed = server.handed ++ events.filterMap request? := by
  induction events generalizing server with
  | nil =>
    cases reached
    simp
  | cons event rest ih =>
    obtain ⟨next, taken, remaining⟩ := run_cons_eq_some.mp reached
    rw [ih remaining, handed_step taken]
    cases requested : request? event with
    | none => simp [requested]
    | some request => simp [requested]

end AsioServer

end Xrpc
