import Xrpc.Core.Controller
import Xrpc.Support.Effect
import Xrpc.Support.Search
import Xrpc.Support.Table
import Xrpc.Wire.RoundTrip

/-! `XrpcServer`: the service table and the handling of one request. -/

namespace Xrpc

open Support

/-- How a service method leaves a call: the response and the controller as it
left them, and what was thrown, if a `std::exception` was. -/
structure Behaviour (Msg : Type) where
  response : Msg
  controller : XrpcController := {}
  thrown : Option Bytes := none

/-- A method descriptor, with what the service does when it is called through it. -/
structure Method (Msg : Type) where
  name : Bytes
  requestType : MessageType Msg
  responseType : MessageType Msg
  call : Msg → Behaviour Msg

/-- Protobuf lets no two methods of a service share a name. -/
structure Service (Msg : Type) where
  name : Bytes
  methods : List (Method Msg)
  distinct : (methods.map Method.name).Nodup

/-- `ServiceDescriptor`. -/
structure ServiceDescriptor (Msg : Type) where
  serviceName : Bytes
  methodName : Bytes
  methodDescriptor : Method Msg

inductive ErrorCode where
  | ok | timeout | notFound | serverError | clientError | cancelled
  deriving DecidableEq

def ErrorCode.toInt32 : ErrorCode → Int32
  | .ok => 0
  | .timeout => 1
  | .notFound => 2
  | .serverError => 3
  | .clientError => 4
  | .cancelled => 5

/-- A service method that was run, and the request it was run on. -/
structure Invocation (Msg : Type) where
  serviceName : Bytes
  methodName : Bytes
  request : Msg

/-- What `CallServiceMethod` leaves behind: the response message, the methods it
ran, and the `what()` of the exception it ended with. -/
structure Called (Msg : Type) where
  response : Msg
  invoked : List (Invocation Msg)
  outcome : Except Bytes Unit

/-- The response string of `OnMessage`, unless an exception leaves it, and the
methods it ran. -/
structure Reply (Msg : Type) where
  response : Except Bytes Bytes
  invoked : List (Invocation Msg)

structure XrpcServer (Msg : Type) where
  codec : XrpcCodec
  services : Table Bytes (Service Msg) := ∅

namespace XrpcServer
variable {Msg : Type} (server : XrpcServer Msg)

/-- The change that `RegisterService` makes to `services_`. -/
def addService (service : Service Msg) : XrpcServer Msg :=
  { server with services := server.services.insert service.name service }

def callServiceMethod (desc : ServiceDescriptor Msg) (request : Msg) (cancelled : Bool) :
    Called Msg :=
  let response := desc.methodDescriptor.responseType.create
  match server.services.find? desc.serviceName with
  | none => ⟨response, [], .error (text "Service not found")⟩
  | some _ =>
    if cancelled then ⟨response, [], .error (text "Request canceled by client")⟩
    else
      let did := desc.methodDescriptor.call request
      let invoked := [⟨desc.serviceName, desc.methodName, request⟩]
      match did.thrown with
      | some what => ⟨did.response, invoked, .error what⟩
      | none =>
        -- `what()` of the `std::runtime_error` made from `ErrorText()`
        if did.controller.failed then
          ⟨did.response, invoked, .error (cString did.controller.errorText)⟩
        else ⟨did.response, invoked, .ok ()⟩

def errorHeader (header : RpcHeader) (code : Int32) (message : Bytes) : RpcHeader :=
  { header with status := 1, error := some { code, message } }

/-- The replies without a response message carry an empty header in its place. -/
def errorReply (header : RpcHeader) (code : Int32) (message : String) : Except Bytes Bytes :=
  server.codec.encodeResponse server.codec.rpcHeader (errorHeader header code (text message)) {}

/-- The inner `try` of `OnMessage`, once the request is parsed. -/
def answer (header : RpcHeader) (method : Method Msg) (request : Msg) : Reply Msg :=
  let desc := ⟨header.serviceName, header.methodName, method⟩
  let called := server.callServiceMethod desc request header.cancelled
  let failure (what : Bytes) :=
    server.codec.encodeResponse method.responseType (errorHeader header 5 what) called.response
  match called.outcome with
  | .error what => ⟨failure what, called.invoked⟩
  | .ok () =>
    match server.codec.encodeResponse method.responseType { header with status := 0 }
        called.response with
    | .ok response => ⟨.ok response, called.invoked⟩
    | .error what => ⟨failure (cString what), called.invoked⟩

/-- The outer `try` of `OnMessage`. -/
def dispatch (data : Bytes) : Reply Msg :=
  let ⟨accepted, header, args⟩ := server.codec.decode data
  if !accepted then ⟨server.errorReply header 1 "Failed to decode request", []⟩
  else if header.cancelled then
    ⟨server.errorReply header ErrorCode.cancelled.toInt32 "Request canceled by client", []⟩
  else
    match server.services.find? header.serviceName with
    | none => ⟨server.errorReply header 2 "Service not found", []⟩
    | some service =>
      match service.methods.find? (·.name = header.methodName) with
      | none => ⟨server.errorReply header 3 "Method not found", []⟩
      | some method =>
        match method.requestType.parseFromString args with
        | (false, _) => ⟨server.errorReply header 4 "Failed to parse request", []⟩
        | (true, request) => server.answer header method request

def onMessage (data : Bytes) : Reply Msg :=
  let reply := server.dispatch data
  match reply.response with
  | .ok _ => reply
  | .error _ => { reply with response := server.errorReply {} 6 "Internal server error" }

/-- What the caller of a method is told about how it ended. -/
def failureOf (did : Behaviour Msg) : Option Bytes :=
  match did.thrown with
  | some what => some what
  | none => if did.controller.failed then some (cString did.controller.errorText) else none

theorem failureOf_eq_none_iff (did : Behaviour Msg) :
    failureOf did = none ↔ did.thrown = none ∧ did.controller.failed = false := by
  cases thrown : did.thrown with
  | some what => simp [failureOf, thrown]
  | none => by_cases failed : did.controller.failed = true <;> simp [failureOf, thrown, failed]

/-- The header of the reply to a request whose method was run. -/
def replyHeader (header : RpcHeader) (did : Behaviour Msg) : RpcHeader :=
  match failureOf did with
  | some what => errorHeader header 5 what
  | none => { header with status := 0 }

theorem callServiceMethod_found (desc : ServiceDescriptor Msg)
    (found : (server.services.find? desc.serviceName).isSome = true) (request : Msg) :
    server.callServiceMethod desc request false =
      ⟨(desc.methodDescriptor.call request).response,
        [⟨desc.serviceName, desc.methodName, request⟩],
        match failureOf (desc.methodDescriptor.call request) with
        | some what => .error what
        | none => .ok ()⟩ := by
  obtain ⟨service, found⟩ := Option.isSome_iff_exists.mp found
  cases thrown : (desc.methodDescriptor.call request).thrown with
  | some what => simp [callServiceMethod, found, failureOf, thrown]
  | none =>
    by_cases failed : (desc.methodDescriptor.call request).controller.failed = true <;>
      simp [callServiceMethod, found, failureOf, thrown, failed]

/-- One method runs, and its outcome decides the header of the reply. -/
theorem answer_found {header : RpcHeader} {method : Method Msg} {request : Msg}
    {response : Bytes} (active : header.cancelled = false)
    (found : (server.services.find? header.serviceName).isSome = true)
    (encoded : server.codec.encodeResponse method.responseType
      (replyHeader header (method.call request)) (method.call request).response = .ok response) :
    server.answer header method request =
      ⟨.ok response, [⟨header.serviceName, header.methodName, request⟩]⟩ := by
  have called := server.callServiceMethod_found ⟨header.serviceName, header.methodName, method⟩
    found request
  cases failure : failureOf (method.call request) with
  | some what =>
    simp only [replyHeader, failure] at encoded
    simp only [answer, active, called, failure, encoded]
  | none =>
    simp only [replyHeader, failure, active] at encoded
    simp only [answer, active, called, failure, encoded]

end XrpcServer

/-- A service that sends its requests back. -/
def pingService : Service Bytes where
  name := text "Ping"
  methods := [⟨text "Do", pingType, pingType, fun request => { response := request }⟩]
  distinct := by simp

def pingServer : XrpcServer Bytes := XrpcServer.addService { codec := pingCodec } pingService

end Xrpc
