import Xrpc.Core.Controller
import Xrpc.Transport.Client
import Xrpc.Wire.RoundTrip

/-! `XrpcChannel`: one remote call, from the discovery of the server to the run
of the completion closure. -/

namespace Xrpc

open Support

/-- The two mutexes that a call locks. -/
inductive Mutex where
  | channel | socket
  deriving DecidableEq

/-- A `google::protobuf::Closure`, known by the `what()` of what its `Run` throws. -/
structure Closure where
  throws : Option Bytes := none
  deriving DecidableEq

/-- The arguments of `CallMethod`. `isXrpc` tells whether the controller is an
`XrpcController`; `done` is `none` for a synchronous call. -/
structure ClientCall (Msg : Type) where
  serviceName : Bytes
  methodName : Bytes
  requestType : MessageType Msg
  responseType : MessageType Msg
  request : Msg
  isXrpc : Bool := true
  done : Option Closure := none

/-- What a call meets outside the channel: the instances that
`FindInstancesByMethod` returns or the exception it throws, the value of
`rand()`, and the fate of the request and the wait for its response. -/
structure Outside where
  instances : Except Bytes (List Bytes)
  rand : Nat := 0
  writeFails : Bool := false
  turns : List Turn := []

/-- An asynchronous operation in flight. -/
inductive AsyncOp where
  | writing | reading
  deriving DecidableEq

/-- The state of one call. Of a controller that is no `XrpcController` only the
calls of `SetFailed` matter. `doneRuns` has, for each run of the closure, the
mutexes that its thread held. -/
structure CallState (Msg : Type) where
  transport : AsioClient := {}
  controller : XrpcController := {}
  response : Msg
  held : List Mutex := []
  doneRuns : List (List Mutex) := []
  pending : Option AsyncOp := none

/-- A channel, with the libraries and the network below it. -/
structure XrpcChannel where
  codec : XrpcCodec
  network : Network

section Calls
variable {Msg α : Type}

/-- `std::lock_guard`: a mutex that the thread holds already is never acquired. -/
def withLock (mutex : Mutex) (body : Effect (CallState Msg) α) : Effect (CallState Msg) α :=
  fun state =>
    if mutex ∈ state.held then .error .hang state
    else
      match body.run { state with held := mutex :: state.held } with
      | .ok value after => .ok value { after with held := after.held.erase mutex }
      | .error (.exception what) after =>
        .error (.exception what) { after with held := after.held.erase mutex }
      | .error .hang after => .error .hang after

def inTransport (member : Effect AsioClient α) : Effect (CallState Msg) α := fun state =>
  match member.run state.transport with
  | .ok value transport => .ok value { state with transport }
  | .error exit transport => .error exit { state with transport }

/-- A member of `AsioTransport` that locks the client socket. -/
def onTransport (member : Effect AsioClient α) : Effect (CallState Msg) α :=
  withLock .socket (inTransport member)

def setFailed (reason : Bytes) : Effect (CallState Msg) Unit :=
  modify fun state => { state with controller := state.controller.setFailed reason }

/-- `if (done) done->Run();` -/
def runDone : Option Closure → Effect (CallState Msg) Unit
  | none => pure ()
  | some closure => do
    modify fun state => { state with doneRuns := state.doneRuns ++ [state.held] }
    match closure.throws with
    | none => pure ()
    | some what => raise (.exception what)

def fail (call : ClientCall Msg) (reason : Bytes) : Effect (CallState Msg) Unit := do
  setFailed reason
  runDone call.done

theorem run_withLock (mutex : Mutex) (body : Effect (CallState Msg) α) (state : CallState Msg) :
    (withLock mutex body).run state =
      if mutex ∈ state.held then .error .hang state
      else
        match body.run { state with held := mutex :: state.held } with
        | .ok value after => .ok value { after with held := after.held.erase mutex }
        | .error (.exception what) after =>
          .error (.exception what) { after with held := after.held.erase mutex }
        | .error .hang after => .error .hang after := rfl

theorem run_inTransport (member : Effect AsioClient α) (state : CallState Msg) :
    (inTransport member).run state =
      match member.run state.transport with
      | .ok value transport => .ok value { state with transport }
      | .error exit transport => .error exit { state with transport } := rfl

/-- A member of the transport, called with the channel locked. -/
theorem run_guarded {state : CallState Msg} (free : state.held = []) (member : Effect AsioClient α) :
    (withLock .channel (onTransport member)).run state =
      match member.run state.transport with
      | .ok value transport => .ok value { state with transport }
      | .error (.exception what) transport => .error (.exception what) { state with transport }
      | .error .hang transport =>
        .error .hang { state with transport, held := [.socket, .channel] } := by
  rw [run_withLock, onTransport, run_withLock, run_inTransport]
  cases ran : member.run state.transport with
  | ok value transport => simp [free]
  | error exit transport =>
    cases exit with
    | exception what => simp [free]
    | hang => simp [free]

namespace XrpcChannel
variable (channel : XrpcChannel) (call : ClientCall Msg) (outside : Outside)

def getServiceAddress : Except Bytes Bytes := do
  match ← outside.instances with
  | [] => throw (text "Service instance not found")
  | address :: _ =>
    if (find address 58 0).isNone then throw (text "Invalid address format")
    return address

/-- The ip and the port that `CallMethod` connects to. -/
def locate : Except Bytes (Bytes × Int) := do
  let address ← getServiceAddress outside
  let colonPos := (find address 58 0).getD 0
  let serverIp := address.take colonPos
  match stoi (address.drop (colonPos + 1)) with
  | some serverPort => return (serverIp, serverPort)
  | none => throw (text "stoi")

def dial : Effect (CallState Msg) Unit := do
  let (serverIp, serverPort) ← ofThrowing (locate outside)
  withLock .channel (onTransport (AsioClient.connect channel.network serverIp serverPort))

def header : RpcHeader where
  serviceName := call.serviceName
  methodName := call.methodName
  requestId := UInt64.ofNat outside.rand
  compressed := false
  cancelled := false

def sendRequest (data : Bytes) : Effect (CallState Msg) (Option Bytes) :=
  withLock .channel (onTransport (AsioClient.send outside.writeFails outside.turns data))

/-- The last part of a call, once it has a response: both paths differ in the
text for a response that is not decoded. -/
def finish (undecoded : String) (responseData : Bytes) : Effect (CallState Msg) Unit := do
  let decoded := channel.codec.decodeResponse call.responseType responseData (← get).response
  modify fun state => { state with response := decoded.body }
  if !decoded.accepted then
    fail call (text undecoded)
  else
    match decoded.header.error with
    | some error => if decoded.header.status ≠ 0 then fail call error.message else runDone call.done
    | none => runDone call.done

/-- The callback of `SendRequestAsync`. -/
def asyncCallback (responseData : Bytes) (success : Bool) : Effect (CallState Msg) Unit := do
  if !success then
    fail call (text "Failed to send async request")
  else if (← get).controller.canceled then
    fail call (text "Request was canceled")
  else channel.finish call "Failed to decode async response" responseData

/-- `AsioTransport::SendAsync`, which starts the write of `data`. -/
def sendAsync (data : Bytes) : Effect (CallState Msg) Unit :=
  withLock .socket do
    if !(← get).transport.isOpen then channel.asyncCallback call [] false
    else
      modify fun state =>
        { state with transport := state.transport.record data, pending := some .writing }

def sendRequestAsync (data : Bytes) : Effect (CallState Msg) Unit :=
  withLock .channel do
    if !call.isXrpc then runDone call.done
    else channel.sendAsync call data

/-- The handler of the write that `sendAsync` started. -/
def handleClientAsyncWrite (failed : Bool) : Effect (CallState Msg) Unit := do
  modify fun state => { state with pending := none }
  if failed then channel.asyncCallback call [] false
  else modify fun state => { state with pending := some .reading }

def handleClientAsyncRead (read : ReadCompletion) : Effect (CallState Msg) Unit := do
  modify fun state => { state with pending := none }
  match read with
  | .received segment => channel.asyncCallback call segment.1 true
  | .failed _ => channel.asyncCallback call [] false

/-- `CallMethod` from the construction of the header on. -/
def submit : Effect (CallState Msg) Unit := do
  if call.isXrpc && (← get).controller.canceled then
    fail call (text "Request was canceled before sending")
  else
    let data ← ofExcept (channel.codec.encode call.requestType (header call outside) call.request)
    if call.done.isSome then channel.sendRequestAsync call data
    else
      match ← sendRequest outside data with
      | none => fail call (text "Failed to send request")
      | some responseData => channel.finish call "Failed to decode response" responseData

def callMethod : Effect (CallState Msg) Unit :=
  catchStd (do channel.dial outside; channel.submit call outside) fun what => fail call what

theorem run_sendRequestAsync_open {call : ClientCall Msg} {state : CallState Msg}
    (isXrpc : call.isXrpc = true) (free : state.held = [])
    (opened : state.transport.isOpen = true) (data : Bytes) :
    (channel.sendRequestAsync call data).run state = .ok () { state with
      transport := state.transport.record data
      pending := some .writing } := by
  simp [sendRequestAsync, sendAsync, run_withLock, free, isXrpc, opened, EStateM.run_bind]

end XrpcChannel

/-- A view of a call that does not show what its last part changes. -/
structure Aside {β : Type} (view : CallState Msg → β) : Prop where
  controller : ∀ state controller, view { state with controller } = view state
  response : ∀ state response, view { state with response } = view state
  doneRuns : ∀ state doneRuns, view { state with doneRuns } = view state

section Frames
variable {β : Type} {view : CallState Msg → β} {channel : XrpcChannel} {call : ClientCall Msg}

/-- A run of the closure shows only in `doneRuns`. -/
theorem keeps_runDone (unseen : ∀ state doneRuns, view { state with doneRuns } = view state)
    (done : Option Closure) : Keeps view (runDone done) := by
  cases done with
  | none => exact Keeps.pure ()
  | some closure =>
    rw [runDone]
    refine Keeps.bind (Keeps.modify fun state => unseen state _) fun _ => ?_
    cases closure.throws with
    | none => exact Keeps.pure ()
    | some what => exact Keeps.raise _

theorem Aside.runDone (aside : Aside view) (done : Option Closure) : Keeps view (runDone done) :=
  keeps_runDone aside.doneRuns done

theorem Aside.fail (aside : Aside view) (reason : Bytes) : Keeps view (fail call reason) :=
  Keeps.bind (Keeps.modify fun state => aside.controller state _) fun _ => aside.runDone call.done

theorem Aside.finish (aside : Aside view) (undecoded : String) (responseData : Bytes) :
    Keeps view (channel.finish call undecoded responseData) := by
  refine Keeps.bind Keeps.get fun state => ?_
  dsimp only
  refine Keeps.bind (Keeps.modify fun state => aside.response state _) fun _ => ?_
  split
  · exact aside.fail _
  · split
    · split
      · exact aside.fail _
      · exact aside.runDone _
    · exact aside.runDone _

theorem Aside.asyncCallback (aside : Aside view) (responseData : Bytes) (success : Bool) :
    Keeps view (channel.asyncCallback call responseData success) := by
  rw [XrpcChannel.asyncCallback]
  split
  · exact aside.fail _
  · refine Keeps.bind Keeps.get fun _ => ?_
    split
    · exact aside.fail _
    · exact aside.finish _ _

theorem keeps_withLock {body : Effect (CallState Msg) α}
    (unseen : ∀ state held, view { state with held } = view state) (kept : Keeps view body)
    (mutex : Mutex) : Keeps view (withLock mutex body) := by
  intro state
  rw [run_withLock]
  split
  · rfl
  · have inner := (kept { state with held := mutex :: state.held }).trans (unseen state _)
    cases ran : body.run { state with held := mutex :: state.held } with
    | ok value after =>
      rw [ran] at inner
      exact (unseen after _).trans inner
    | error exit after =>
      rw [ran] at inner
      cases exit with
      | exception what => exact (unseen after _).trans inner
      | hang => exact inner

end Frames

end Calls

/-- A network with two hosts. -/
def twoHosts : Network where
  fromString ip :=
    if ip = text "10.0.0.1" then .ok [10, 0, 0, 1]
    else if ip = text "10.0.0.2" then .ok [10, 0, 0, 2]
    else .error (text "Invalid argument")
  connects _ := true

def pingChannel : XrpcChannel where
  codec := pingCodec
  network := twoHosts

def pingCall : ClientCall Bytes where
  serviceName := text "Ping"
  methodName := text "Do"
  requestType := pingType
  responseType := pingType
  request := [7]

/-- The frame of a ping, and of the answer to it, in one read. -/
def pingRead : Segment := ⟨XrpcCodec.frameBytes pingHeaderStr [0x0a, 0x01, 7], by decide +kernel⟩

end Xrpc
