import Xrpc.Core.RemoteCall

/-! Which method `OnMessage` runs, and what its reply repeats of the request. -/

namespace Xrpc

open Support

namespace XrpcServer
variable {Msg : Type}

/-- The method and the request that `OnMessage` gets to, or the code and the text
of the error that it replies with instead. -/
def route (server : XrpcServer Msg) (decoded : Decoded Bytes) :
    Except (Int32 × String) (Method Msg × Msg) :=
  if !decoded.accepted then .error (1, "Failed to decode request")
  else if decoded.header.cancelled then
    .error (ErrorCode.cancelled.toInt32, "Request canceled by client")
  else
    match server.services.find? decoded.header.serviceName with
    | none => .error (2, "Service not found")
    | some service =>
      match service.methods.find? (·.name = decoded.header.methodName) with
      | none => .error (3, "Method not found")
      | some method =>
        match method.requestType.parseFromString decoded.body with
        | (false, _) => .error (4, "Failed to parse request")
        | (true, request) => .ok (method, request)

/-- `method`, with `request`, is what the decoded data ask for. -/
structure Target (services : List (Service Msg)) (decoded : Decoded Bytes) (method : Method Msg)
    (request : Msg) : Prop where
  accepted : decoded.accepted = true
  active : decoded.header.cancelled = false
  offered : ∃ service, lastRegistered services decoded.header.serviceName = some service ∧
    method ∈ service.methods
  named : method.name = decoded.header.methodName
  parsed : method.requestType.parseFromString decoded.body = (true, request)

/-- `EncodeResponse` does not throw for the reply to `data`. -/
structure Encodes (server : XrpcServer Msg) (data : Bytes) : Prop where
  refusal : ∀ code text, server.route (server.codec.decode data) = .error (code, text) →
    ∃ bytes, server.errorReply (server.codec.decode data).header code text = .ok bytes
  answer : ∀ method request, server.route (server.codec.decode data) = .ok (method, request) →
    ∃ bytes, server.codec.encodeResponse method.responseType
      (replyHeader (server.codec.decode data).header (method.call request))
      (method.call request).response = .ok bytes

/-- `bytes` is a frame with this header. -/
def BeginsWith (codec : XrpcCodec) (wire : RpcHeader) (bytes : Bytes) : Prop :=
  ∃ headerStr sent, bytes = XrpcCodec.frameBytes headerStr sent ∧
    codec.rpcHeader.serializeToString wire = some headerStr

/-- A reply repeats what the request says of itself. -/
structure Repeats (header wire : RpcHeader) : Prop where
  requestId : wire.requestId = header.requestId
  serviceName : wire.serviceName = header.serviceName
  methodName : wire.methodName = header.methodName
  metadata : wire.metadata = header.metadata

section Routing
variable {server : XrpcServer Msg} {codec : XrpcCodec} {services : List (Service Msg)}
  {decoded : Decoded Bytes} {method : Method Msg} {request : Msg} {data : Bytes}

theorem dispatch_eq (server : XrpcServer Msg) (data : Bytes) :
    server.dispatch data =
      match server.route (server.codec.decode data) with
      | .error (code, text) =>
        ⟨server.errorReply (server.codec.decode data).header code text, []⟩
      | .ok (method, request) => server.answer (server.codec.decode data).header method request := by
  generalize decoding : server.codec.decode data = decoded
  rw [dispatch, route, decoding]
  dsimp only
  split
  · rfl
  · split
    · rfl
    · cases server.services.find? decoded.header.serviceName with
      | none => rfl
      | some service =>
        dsimp only
        cases service.methods.find? (·.name = decoded.header.methodName) with
        | none => rfl
        | some method =>
          dsimp only
          cases method.requestType.parseFromString decoded.body with
          | mk parsed request =>
            cases parsed with
            | false => rfl
            | true => rfl

/-- Each of the exits was passed. -/
theorem route_ok (routed : server.route decoded = .ok (method, request)) :
    decoded.accepted = true ∧ decoded.header.cancelled = false ∧
      ∃ service, server.services.find? decoded.header.serviceName = some service ∧
        service.methods.find? (·.name = decoded.header.methodName) = some method ∧
        method.requestType.parseFromString decoded.body = (true, request) := by
  rw [route] at routed
  split at routed
  · cases routed
  · rename_i accepted
    split at routed
    · cases routed
    · rename_i active
      split at routed
      · cases routed
      · rename_i service registered
        split at routed
        · cases routed
        · rename_i found listed
          split at routed
          · cases routed
          · rename_i parsed
            cases routed
            exact ⟨by simpa using accepted, by simpa using active, service, registered, listed,
              parsed⟩

theorem route_eq_ok_iff :
    (offering codec services).route decoded = .ok (method, request) ↔
      Target services decoded method request := by
  constructor
  · intro routed
    obtain ⟨accepted, active, service, registered, listed, parsed⟩ := route_ok routed
    rw [find?_offering] at registered
    have named : method.name = decoded.header.methodName := by simpa using List.find?_some listed
    exact ⟨accepted, active, ⟨service, registered, List.mem_of_find?_eq_some listed⟩, named, parsed⟩
  · rintro ⟨accepted, active, ⟨service, registered, member⟩, named, parsed⟩
    have listed : service.methods.find? (·.name = decoded.header.methodName) = some method := by
      rw [← named]
      exact find?_of_nodup_map service.distinct member
    rw [← find?_offering codec] at registered
    simp [route, accepted, active, registered, listed, parsed]

theorem Target.listed (target : Target services decoded method request) :
    ∃ service ∈ services, method ∈ service.methods := by
  obtain ⟨service, registered, member⟩ := target.offered
  exact ⟨service, by simpa using List.mem_of_find?_eq_some registered, member⟩

theorem Target.unique {other : Method Msg} {asked : Msg}
    (target : Target services decoded method request) (same : Target services decoded other asked) :
    other = method ∧ asked = request := by
  obtain ⟨service, registered, member⟩ := target.offered
  obtain ⟨again, found, present⟩ := same.offered
  obtain rfl := Option.some.inj (registered.symm.trans found)
  obtain rfl := List.inj_on_of_nodup_map service.distinct present member
    (same.named.trans target.named.symm)
  exact ⟨rfl, congrArg Prod.snd (same.parsed.symm.trans target.parsed)⟩

/-- What a condition asks of the target, it asks of one method and one request. -/
theorem Target.exists_iff (target : Target services decoded method request)
    (condition : Method Msg → Msg → Prop) :
    (∃ other asked, Target services decoded other asked ∧ condition other asked) ↔
      condition method request := by
  constructor
  · rintro ⟨other, asked, asks, holds⟩
    obtain ⟨rfl, rfl⟩ := target.unique asks
    exact holds
  · exact fun holds => ⟨method, request, target, holds⟩

/-- A request that gets to a method runs it, and nothing else. -/
theorem onMessage_routed (encodes : server.Encodes data)
    (routed : server.route (server.codec.decode data) = .ok (method, request)) :
    ∃ bytes, server.onMessage data = ⟨.ok bytes,
        [⟨(server.codec.decode data).header.serviceName, (server.codec.decode data).header.methodName,
          request⟩]⟩ ∧
      server.codec.encodeResponse method.responseType
        (replyHeader (server.codec.decode data).header (method.call request))
        (method.call request).response = .ok bytes := by
  obtain ⟨_, active, service, registered, _⟩ := route_ok routed
  obtain ⟨bytes, encoded⟩ := encodes.answer method request routed
  have answered := server.answer_found active (by simp [registered]) encoded
  have dispatched := server.dispatch_eq data
  rw [routed] at dispatched
  refine ⟨bytes, ?_, encoded⟩
  simp [onMessage, dispatched, answered]

theorem onMessage_refused (encodes : server.Encodes data) {code : Int32} {text : String}
    (refused : server.route (server.codec.decode data) = .error (code, text)) :
    ∃ bytes, server.onMessage data = ⟨.ok bytes, []⟩ ∧
      server.errorReply (server.codec.decode data).header code text = .ok bytes := by
  obtain ⟨bytes, encoded⟩ := encodes.refusal code text refused
  have dispatched := server.dispatch_eq data
  rw [refused] at dispatched
  refine ⟨bytes, ?_, encoded⟩
  simp [onMessage, dispatched, encoded]

/-- What `EncodeResponse` changes in the header is not repeated. -/
theorem beginsWith_encodeResponse {Body : Type} {type : MessageType Body} {message : Body}
    {header reply : RpcHeader} {bytes : Bytes} (repeats : Repeats header reply)
    (encoded : codec.encodeResponse type reply message = .ok bytes) :
    ∃ wire, BeginsWith codec wire bytes ∧ Repeats header wire ∧ wire.status = reply.status ∧
      wire.error = reply.error := by
  obtain ⟨body, wire, sent, headerStr, _, prepared, serialized, same⟩ := codec.writeFrame_ok encoded
  obtain ⟨kept, _⟩ := codec.prepare_wire prepared
  refine ⟨wire, ⟨headerStr, sent, same, serialized⟩, ?_, ?_, ?_⟩
  · rw [kept]
    exact ⟨repeats.requestId, repeats.serviceName, repeats.methodName, repeats.metadata⟩
  · rw [kept]
  · rw [kept]

theorem repeats_errorHeader (header : RpcHeader) (code : Int32) (message : Bytes) :
    Repeats header (errorHeader header code message) := ⟨rfl, rfl, rfl, rfl⟩

theorem repeats_replyHeader (header : RpcHeader) (did : Behaviour Msg) :
    Repeats header (replyHeader header did) := by
  rw [replyHeader]
  split
  · exact repeats_errorHeader header 5 _
  · exact ⟨rfl, rfl, rfl, rfl⟩

theorem status_replyHeader (header : RpcHeader) (did : Behaviour Msg) :
    (replyHeader header did).status = 0 ↔ did.thrown = none ∧ did.controller.failed = false := by
  rw [← failureOf_eq_none_iff]
  cases failure : failureOf did with
  | none => simp [replyHeader, failure]
  | some what => simp [replyHeader, failure, errorHeader]

theorem explained_replyHeader {header : RpcHeader} {did : Behaviour Msg}
    (failed : (replyHeader header did).status ≠ 0) :
    (replyHeader header did).status = 1 ∧ (replyHeader header did).error.isSome = true := by
  cases failure : failureOf did with
  | none => simp [replyHeader, failure] at failed
  | some what => simp [replyHeader, failure, errorHeader]

/-- A method runs at most once, and just when the data ask for it; the reply
repeats the request and has status 0 just when the method ran and succeeded. -/
theorem dispatch_exact (encodes : (offering codec services).Encodes data) :
    ((offering codec services).onMessage data).invoked.length ≤ 1 ∧
      (∀ invocation, invocation ∈ ((offering codec services).onMessage data).invoked ↔
        ∃ method request, Target services (codec.decode data) method request ∧
          invocation = ⟨(codec.decode data).header.serviceName, method.name, request⟩) ∧
      (∀ method request, Target services (codec.decode data) method request →
        ((offering codec services).onMessage data).response =
          codec.encodeResponse method.responseType
            (replyHeader (codec.decode data).header (method.call request))
            (method.call request).response) ∧
      ((codec.decode data).accepted = true → ∃ bytes wire,
        ((offering codec services).onMessage data).response = .ok bytes ∧
        BeginsWith codec wire bytes ∧ Repeats (codec.decode data).header wire ∧
        (wire.status = 0 ↔ ∃ method request, Target services (codec.decode data) method request ∧
          (method.call request).thrown = none ∧ (method.call request).controller.failed = false) ∧
        (wire.status ≠ 0 → wire.status = 1 ∧ wire.error.isSome = true)) := by
  have same := codec_offering codec services
  have target_iff : ∀ method request,
      (offering codec services).route ((offering codec services).codec.decode data) =
        .ok (method, request) ↔ Target services (codec.decode data) method request := by
    rw [same]
    exact fun _ _ => route_eq_ok_iff
  cases routed : (offering codec services).route ((offering codec services).codec.decode data) with
  | error refusal =>
    have untargeted : ∀ method request, ¬Target services (codec.decode data) method request :=
      fun method request target =>
        nomatch routed.symm.trans ((target_iff method request).mpr target)
    obtain ⟨bytes, replied, encoded⟩ := onMessage_refused encodes routed
    obtain ⟨wire, begins, repeats, status, error⟩ :=
      beginsWith_encodeResponse (repeats_errorHeader _ _ _) encoded
    rw [same] at begins repeats
    have failed : wire.status = 1 := status
    have explained : wire.error.isSome = true := by
      rw [error]
      rfl
    refine ⟨by simp [replied], ?_, fun method request target => absurd target (untargeted _ _), ?_⟩
    · simp [replied, untargeted]
    · intro _
      refine ⟨bytes, wire, by rw [replied], begins, repeats, ?_, fun _ => ⟨failed, explained⟩⟩
      simp [failed, untargeted]
  | ok found =>
    obtain ⟨method, request⟩ := found
    have target := (target_iff method request).mp routed
    obtain ⟨bytes, replied, encoded⟩ := onMessage_routed encodes routed
    obtain ⟨wire, begins, repeats, status, error⟩ :=
      beginsWith_encodeResponse (repeats_replyHeader _ _) encoded
    rw [same] at begins repeats encoded replied
    refine ⟨by simp [replied], ?_, ?_, ?_⟩
    · intro invocation
      rw [replied, ← target.named, List.mem_singleton, target.exists_iff fun method request =>
        invocation = ⟨(codec.decode data).header.serviceName, method.name, request⟩]
    · intro other asked asks
      obtain ⟨rfl, rfl⟩ := target.unique asks
      rw [replied, encoded]
    · intro _
      refine ⟨bytes, wire, by rw [replied], begins, repeats, ?_, ?_⟩
      · rw [status, status_replyHeader, target.exists_iff fun method request =>
          (method.call request).thrown = none ∧ (method.call request).controller.failed = false]
      · intro failed
        rw [status] at failed ⊢
        rw [error]
        exact explained_replyHeader failed

end Routing

end XrpcServer

section Ping

def ping : Bytes := XrpcCodec.frameBytes pingHeaderStr [0x0a, 0x01, 7]

/-- A service of the same name, registered before. -/
def mutePing : Service Bytes where
  name := text "Ping"
  methods := []
  distinct := List.nodup_nil

def pingMethod : Method Bytes :=
  ⟨text "Do", pingType, pingType, fun request => { response := request }⟩

theorem ping_target :
    XrpcServer.Target [mutePing, pingService] (pingCodec.decode ping) pingMethod [7] where
  accepted := by decide +kernel
  active := by decide +kernel
  offered := ⟨pingService, by rw [XrpcServer.lastRegistered]; rfl, List.mem_singleton.mpr rfl⟩
  named := by decide +kernel
  parsed := by decide +kernel

theorem ping_encodes : (XrpcServer.offering pingCodec [mutePing, pingService]).Encodes ping := by
  have routed : (XrpcServer.offering pingCodec [mutePing, pingService]).route
      (pingCodec.decode ping) = .ok (pingMethod, [7]) := XrpcServer.route_eq_ok_iff.mpr ping_target
  constructor
  · intro code text refused
    exact nomatch routed.symm.trans refused
  · intro method request found
    cases routed.symm.trans found
    exact ⟨ping, by decide +kernel⟩

theorem ping_dispatched :
    ⟨text "Ping", text "Do", [7]⟩ ∈
        ((XrpcServer.offering pingCodec [mutePing, pingService]).onMessage ping).invoked ∧
      ((XrpcServer.offering pingCodec [mutePing, pingService]).onMessage ping).invoked.length ≤ 1 ∧
      ∃ bytes wire,
        ((XrpcServer.offering pingCodec [mutePing, pingService]).onMessage ping).response =
          .ok bytes ∧
        XrpcServer.BeginsWith pingCodec wire bytes ∧ wire.requestId = 1 ∧ wire.status = 0 := by
  obtain ⟨once, runs, _, replies⟩ := XrpcServer.dispatch_exact ping_encodes
  have header : (pingCodec.decode ping).header = { pingHeader with argsSize := 3 } := by
    decide +kernel
  obtain ⟨bytes, wire, replied, begins, repeats, succeeds, _⟩ := replies ping_target.accepted
  refine ⟨(runs _).mpr ⟨pingMethod, [7], ping_target, by rw [header]; rfl⟩, once, bytes, wire,
    replied, begins, ?_, succeeds.mpr ⟨pingMethod, [7], ping_target, rfl, rfl⟩⟩
  rw [repeats.requestId, header]
  rfl

end Ping

end Xrpc
