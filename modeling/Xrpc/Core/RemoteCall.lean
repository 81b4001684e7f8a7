import Xrpc.Core.Channel
import Xrpc.Core.Server

/-! A call through the channel, the two codecs and the server, compared with a
call of the method itself. -/

namespace Xrpc

open Support

namespace XrpcServer
variable {Msg : Type}

/-- The server after these services were registered, one after the other. -/
def offering (codec : XrpcCodec) (services : List (Service Msg)) : XrpcServer Msg :=
  services.foldl addService { codec }

theorem codec_foldl (services : List (Service Msg)) (server : XrpcServer Msg) :
    (services.foldl addService server).codec = server.codec := by
  induction services generalizing server with
  | nil => rfl
  | cons service rest ih => exact ih (server.addService service)

/-- The service that answers under a name: the last one registered under it. -/
def lastRegistered (services : List (Service Msg)) (name : Bytes) : Option (Service Msg) :=
  services.reverse.find? (·.name = name)

theorem find?_foldl (services : List (Service Msg)) (name : Bytes) (server : XrpcServer Msg) :
    (services.foldl addService server).services.find? name =
      (lastRegistered services name).or (server.services.find? name) := by
  induction services generalizing server with
  | nil => rfl
  | cons service rest ih =>
    rw [List.foldl_cons, ih]
    by_cases same : service.name = name
    · subst same
      simp [lastRegistered, addService]
    · have other : (server.addService service).services.find? name = server.services.find? name :=
        Table.find?_insert_ne _ (Ne.symm same) _
      simp [lastRegistered, other, same]

theorem find?_offering (codec : XrpcCodec) (services : List (Service Msg)) (name : Bytes) :
    (offering codec services).services.find? name = lastRegistered services name := by
  rw [offering, find?_foldl]
  simp

theorem codec_offering (codec : XrpcCodec) (services : List (Service Msg)) :
    (offering codec services).codec = codec := codec_foldl services { codec }

end XrpcServer

section Client
variable {Msg : Type} {channel : XrpcChannel} {call : ClientCall Msg} {outside : Outside}
  {state : CallState Msg} {data : Bytes} {header : RpcHeader} {response : Msg}

/-- What the caller sees of a call. -/
def CallState.result (state : CallState Msg) : XrpcController × Msg :=
  (state.controller, state.response)

theorem result_runDone (done : Option Closure) :
    Keeps CallState.result (runDone done : Effect (CallState Msg) Unit) :=
  keeps_runDone (fun _ _ => rfl) done

/-- The state in which `done` is run for an answer with this header. -/
def CallState.settle (state : CallState Msg) (header : RpcHeader) (response : Msg) :
    CallState Msg :=
  match header.error with
  | some error =>
    if header.status ≠ 0 then
      { state with controller := state.controller.setFailed error.message, response }
    else { state with response }
  | none => { state with response }

theorem run_finish (undecoded : String)
    (decoded : channel.codec.decodeResponse call.responseType data state.response =
      ⟨true, header, response⟩) :
    (channel.finish call undecoded data).run state =
      (runDone call.done).run (state.settle header response) := by
  cases failure : header.error with
  | none => simp [XrpcChannel.finish, EStateM.run_bind, decoded, CallState.settle, failure]
  | some error =>
    by_cases bad : header.status = 0
    · simp [XrpcChannel.finish, EStateM.run_bind, decoded, CallState.settle, failure, bad]
    · simp [XrpcChannel.finish, fail, setFailed, EStateM.run_bind, decoded, CallState.settle,
        failure, bad]

/-- An answer that is not decoded fails the call. -/
theorem run_finish_undecoded (undecoded : String)
    (rejected : (channel.codec.decodeResponse call.responseType data state.response).accepted =
      false) :
    (channel.finish call undecoded data).run state =
      (fail call (text undecoded)).run { state with
        response := (channel.codec.decodeResponse call.responseType data state.response).body } := by
  simp [XrpcChannel.finish, EStateM.run_bind, rejected]

theorem run_fail_sync (sync : call.done = none) (reason : Bytes) (state : CallState Msg) :
    (fail call reason).run state =
      .ok () { state with controller := state.controller.setFailed reason } := by
  simp [fail, setFailed, runDone, sync]

theorem run_submit_sync (free : state.held = []) (opened : state.transport.isOpen = true)
    (active : state.controller.canceled = false) (sync : call.done = none)
    (encoded : channel.codec.encode call.requestType (XrpcChannel.header call outside)
      call.request = .ok data)
    (wrote : outside.writeFails = false) {read : Segment} {before : Nat} {rest : List Turn}
    (turns : outside.turns = List.replicate before .idle ++ .completed (.received read) :: rest) :
    (channel.submit call outside).run state =
      (channel.finish call "Failed to decode response" read.1).run
        { state with
          transport := (state.transport.sending data).turn (.completed (.received read)) } := by
  have sent := AsioClient.send_received opened data read before rest
  rw [← turns, ← wrote] at sent
  rw [XrpcChannel.submit, EStateM.run_bind, EStateM.run_get]
  dsimp only
  rw [active, Bool.and_false, if_neg Bool.false_ne_true, encoded, EStateM.run_bind,
    run_ofExcept_ok]
  dsimp only
  rw [sync, if_neg (by simp), EStateM.run_bind, XrpcChannel.sendRequest, run_guarded free, sent]

theorem run_submit_async (free : state.held = []) (opened : state.transport.isOpen = true)
    (active : state.controller.canceled = false) (isXrpc : call.isXrpc = true)
    (async : call.done.isSome = true)
    (encoded : channel.codec.encode call.requestType (XrpcChannel.header call outside)
      call.request = .ok data) :
    (channel.submit call outside).run state =
      .ok () { state with
        transport := state.transport.record data
        pending := some .writing } := by
  rw [XrpcChannel.submit, EStateM.run_bind, EStateM.run_get]
  dsimp only
  rw [active, Bool.and_false, if_neg Bool.false_ne_true, encoded, EStateM.run_bind,
    run_ofExcept_ok]
  dsimp only
  rw [if_pos async]
  exact channel.run_sendRequestAsync_open isXrpc free opened data

theorem run_callMethod {connected : AsioClient} {ip : Bytes} {port : Int} {final : CallState Msg}
    (free : state.held = [])
    (located : XrpcChannel.locate outside = .ok (ip, port))
    (reached : (AsioClient.connect channel.network ip port).run state.transport = .ok () connected)
    (submitted : (channel.submit call outside).run { state with transport := connected } =
      .ok () final) :
    (channel.callMethod call outside).run state = .ok () final := by
  apply catchStd_ok
  rw [XrpcChannel.dial, located, EStateM.run_bind, EStateM.run_bind, run_ofThrowing_ok]
  dsimp only
  rw [run_guarded free, reached]
  exact submitted

end Client

/-- The arguments of `CallMethod` when a stub calls `method`. -/
def Method.calledWith {Msg : Type} (method : Method Msg) (service : Service Msg) (request : Msg)
    (done : Option Closure) : ClientCall Msg where
  serviceName := service.name
  methodName := method.name
  requestType := method.requestType
  responseType := method.responseType
  request := request
  done := done

/-- The call failed just if the method did, and its response is the method's. -/
def Behaviour.Seen {Msg : Type} (did : Behaviour Msg) (final : CallState Msg) : Prop :=
  (final.controller.failed = true ↔ did.controller.failed = true ∨ did.thrown ≠ none) ∧
    (final.controller.failed = false → final.response = did.response)

section Composition
variable {Msg : Type} {codec : XrpcCodec} {services : List (Service Msg)} {service : Service Msg}
  {method : Method Msg} {request : Msg} {header : RpcHeader}
  {body headerStr replyBody replyHeaderStr : Bytes}

section Paths
variable {channel : XrpcChannel} {call : ClientCall Msg} {outside : Outside}
  {transport connected : AsioClient} {controller : XrpcController} {ip : Bytes} {port : Int}
  {replied : RpcHeader} {response filled : Msg} {frame : Bytes} {read : Segment}

/-- A synchronous call ends as its last part does after the read. -/
theorem run_sync (call : ClientCall Msg) (outside : Outside)
    (located : XrpcChannel.locate outside = .ok (ip, port))
    (reached : (AsioClient.connect channel.network ip port).run transport = .ok () connected)
    (wrote : outside.writeFails = false) (active : controller.canceled = false)
    (sync : call.done = none)
    (encoded : channel.codec.encode call.requestType (XrpcChannel.header call outside)
      call.request = .ok frame)
    {before : Nat} {rest : List Turn}
    (turns : outside.turns = List.replicate before .idle ++ .completed (.received read) :: rest)
    {final : CallState Msg}
    (finished : (channel.finish call "Failed to decode response" read.1).run
      { transport := (connected.sending frame).turn (.completed (.received read))
        controller
        response } = .ok () final) :
    (channel.callMethod call outside).run { transport, controller, response } = .ok () final := by
  apply run_callMethod rfl located reached
  rw [run_submit_sync rfl (AsioClient.isOpen_connect reached) active sync encoded wrote turns]
  exact finished

theorem run_async (located : XrpcChannel.locate outside = .ok (ip, port))
    (reached : (AsioClient.connect channel.network ip port).run transport = .ok () connected)
    (active : controller.canceled = false) (isXrpc : call.isXrpc = true)
    (async : call.done.isSome = true)
    (encoded : channel.codec.encode call.requestType (XrpcChannel.header call outside)
      call.request = .ok frame) :
    (channel.callMethod call outside).run { transport, controller, response } =
      .ok () { transport := connected.record frame, controller, response, pending := some .writing } :=
  run_callMethod rfl located reached
    (run_submit_async rfl (AsioClient.isOpen_connect reached) active isXrpc async encoded)

/-- The handler of the read ends the call with what was read. -/
theorem run_async_finish {state : CallState Msg} (active : state.controller.canceled = false) :
    (channel.handleClientAsyncRead call (.received read)).run state =
      (channel.finish call "Failed to decode async response" read.1).run
        { state with pending := none } := by
  rw [XrpcChannel.handleClientAsyncRead, EStateM.run_bind, EStateM.run_modify]
  dsimp only
  rw [XrpcChannel.asyncCallback, if_neg (by simp), EStateM.run_bind, EStateM.run_get]
  dsimp only
  rw [active, if_neg Bool.false_ne_true]

end Paths

end Composition

theorem locate_firstHost {outside : Outside}
    (found : outside.instances = .ok [text "10.0.0.1:80"]) :
    XrpcChannel.locate outside = .ok (text "10.0.0.1", 80) := by
  rw [XrpcChannel.locate, XrpcChannel.getServiceAddress, found]
  decide +kernel

theorem connect_firstHost :
    (AsioClient.connect twoHosts (text "10.0.0.1") 80).run {} =
      .ok () (AsioClient.connectTo {} ⟨[10, 0, 0, 1], 80⟩) := by
  have parsed : twoHosts.fromString (text "10.0.0.1") = .ok [10, 0, 0, 1] := by decide +kernel
  exact AsioClient.connect_closed rfl parsed rfl

end Xrpc
