import Xrpc.Core.Dispatch
import Xrpc.Wire.Acceptance

/-! Which replies of `OnMessage` the client can read. -/

namespace Xrpc

open Support

section Legible
variable {Msg Body Other : Type}

/-- Where `EncodeResponse` makes a frame of this, the header's strings are UTF-8,
the body parses and the size of the frame is an `int`. -/
def Legible (codec : XrpcCodec) (type : MessageType Body) (header : RpcHeader) (message : Body) :
    Prop :=
  ∀ body bytes, type.serializeToString message = some body →
    codec.encodeResponse type header message = .ok bytes →
    header.Utf8 ∧ (type.parseFromString body).1 = true ∧ bytes.length < 2 ^ 31

/-- `DecodeResponse` accepts `bytes`. -/
def Reads (codec : XrpcCodec) (type : MessageType Body) (bytes : Bytes) : Prop :=
  ∀ response, (codec.decodeResponse type bytes response).accepted = true

/-- The types of the messages are generated from proto3 files, so that an empty
string is one of each. -/
structure Generated (codec : XrpcCodec) (services : List (Service Msg)) : Prop
    extends codec.Proto3 where
  empty : codec.rpcHeader.serializeToString {} = some []
  internal : codec.rpcHeader.serializeToString
      (XrpcServer.errorHeader {} 6 (text "Internal server error")) =
    some ([0x28, 1, 0x42, 25, 0x08, 6, 0x12, 21] ++ text "Internal server error")
  responseBounded : ∀ service ∈ services, ∀ method ∈ service.methods, method.responseType.Bounded
  responseEmpty : ∀ service ∈ services, ∀ method ∈ service.methods,
    (method.responseType.parseFromString []).1 = true

namespace XrpcServer

/-- The client reads the reply: as the response type of the method that ran, or
as any type if none did. -/
def Understood (codec : XrpcCodec) (services : List (Service Msg)) (data : Bytes) : Prop :=
  ∃ bytes, ((offering codec services).onMessage data).response = .ok bytes ∧
    (∀ method request, Target services (codec.decode data) method request →
      Reads codec method.responseType bytes) ∧
    ((¬∃ method request, Target services (codec.decode data) method request) →
      ∀ (Other : Type) (type : MessageType Other), (type.parseFromString []).1 = true →
        Reads codec type bytes)

/-- What `OnMessage` encodes is legible: the header that was read, with the text of
the failure, and the response that the method left. -/
def Intelligible (codec : XrpcCodec) (services : List (Service Msg)) (data : Bytes) : Prop :=
  let header := (codec.decode data).header
  match (offering codec services).route (codec.decode data) with
  | .error (code, message) =>
    Legible codec codec.rpcHeader (errorHeader header code (text message)) {}
  | .ok (method, request) =>
    let did := method.call request
    Legible codec method.responseType (replyHeader header did) did.response ∧
      (failureOf did = none → ∀ what,
        codec.encodeResponse method.responseType (replyHeader header did) did.response =
          .error what →
        Legible codec method.responseType (errorHeader header 5 (cString what)) did.response)

end XrpcServer

section Replies
variable {codec : XrpcCodec} {services : List (Service Msg)} {type : MessageType Body}
  {other : MessageType Other} {header : RpcHeader} {message : Body} {bytes : Bytes}

theorem legible_iff (encoded : codec.encodeResponse type header message = .ok bytes)
    {body : Bytes} (serialized : type.serializeToString message = some body) :
    Legible codec type header message ↔
      header.Utf8 ∧ (type.parseFromString body).1 = true ∧ bytes.length < 2 ^ 31 := by
  constructor
  · exact fun legible => legible body bytes serialized encoded
  · intro met found made foundSerialized madeEncoded
    cases serialized.symm.trans foundSerialized
    cases encoded.symm.trans madeEncoded
    exact met

theorem legible_of_throws {what : Bytes}
    (thrown : codec.encodeResponse type header message = .error what) :
    Legible codec type header message :=
  fun _ _ _ encoded => nomatch thrown.symm.trans encoded

theorem legible_iff_reads (proto3 : codec.Proto3) (bounded : type.Bounded)
    (encoded : codec.encodeResponse type header message = .ok bytes) :
    Legible codec type header message ↔ Reads codec type bytes := by
  obtain ⟨body, _, _, _, serialized, _⟩ := codec.writeFrame_ok encoded
  rw [legible_iff encoded serialized]
  have accepted_iff : ∀ response, (codec.decodeResponse type bytes response).accepted = true ↔ _ :=
    codec.decodeResponse_accepted_iff proto3 bounded serialized encoded
  exact ⟨fun met response => (accepted_iff response).mpr met,
    fun reads => (accepted_iff type.create).mp (reads _)⟩

variable (generated : Generated codec services)
include generated

/-- An empty body is of any type. -/
theorem Generated.reads_iff (encoded : codec.encodeResponse codec.rpcHeader header {} = .ok bytes)
    (optional : (other.parseFromString []).1 = true) :
    Reads codec other bytes ↔ header.Utf8 ∧ bytes.length < 2 ^ 31 := by
  have accepted_iff : ∀ response, (codec.decodeResponse other bytes response).accepted = true ↔ _ :=
    codec.decodeResponse_accepted_iff generated.toProto3 generated.bounded generated.empty encoded
  simp only [optional, true_and] at accepted_iff
  exact ⟨fun reads => (accepted_iff other.create).mp (reads _),
    fun met response => (accepted_iff response).mpr met⟩

theorem Generated.parses_empty : (codec.rpcHeader.parseFromString []).1 = true := by
  have blank : Utf8 [] := by decide +kernel
  have legible : ({} : RpcHeader).Utf8 := ⟨blank, blank, by simp, by simp⟩
  rw [generated.reads {} [] generated.empty legible]

/-- The last reply that `OnMessage` tries is always sent and always read. -/
theorem Generated.internal_reply :
    ∃ bytes, (XrpcServer.offering codec services).errorReply {} 6 "Internal server error" =
        .ok bytes ∧
      ∀ (Other : Type) (type : MessageType Other), (type.parseFromString []).1 = true →
        Reads codec type bytes := by
  have prepared : codec.prepare (XrpcServer.errorHeader {} 6 (text "Internal server error")) [] =
      .ok (XrpcServer.errorHeader {} 6 (text "Internal server error"), []) := by
    rw [codec.prepare_plain rfl, codec.wireHeader_plain rfl, codec.wireBody_plain rfl]
    rfl
  have written : codec.encodeResponse codec.rpcHeader
      (XrpcServer.errorHeader {} 6 (text "Internal server error")) {} = _ :=
    codec.writeFrame_eq generated.empty prepared generated.internal _
  refine ⟨_, ?_, fun Other type optional =>
    (generated.reads_iff written optional).mpr ⟨?_, by decide +kernel⟩⟩
  · rw [XrpcServer.errorReply, XrpcServer.codec_offering]
    exact written
  · have blank : Utf8 [] := by decide +kernel
    refine ⟨blank, blank, by simp [XrpcServer.errorHeader], ?_⟩
    rintro error ⟨⟩
    decide +kernel

/-- Whatever `OnMessage` tries to send, the client reads it just when it is legible. -/
theorem Generated.reads_iff_legible {data : Bytes}
    (bounded : type.Bounded) (optional : (type.parseFromString []).1 = true)
    (tries : ((XrpcServer.offering codec services).dispatch data).response =
      codec.encodeResponse type header message) :
    (∃ bytes, ((XrpcServer.offering codec services).onMessage data).response = .ok bytes ∧
      Reads codec type bytes) ↔ Legible codec type header message := by
  cases encoded : codec.encodeResponse type header message with
  | ok bytes =>
    have sent : ((XrpcServer.offering codec services).onMessage data).response = .ok bytes := by
      simp [XrpcServer.onMessage, tries, encoded]
    simp [sent, legible_iff_reads generated.toProto3 bounded encoded]
  | error what =>
    obtain ⟨bytes, replied, reads⟩ := generated.internal_reply
    have sent : ((XrpcServer.offering codec services).onMessage data).response = .ok bytes := by
      simp [XrpcServer.onMessage, tries, encoded, replied]
    exact iff_of_true ⟨bytes, sent, reads Body type optional⟩ (legible_of_throws encoded)

/-- The same for a reply without a response message. -/
theorem Generated.all_read_iff_legible {data : Bytes}
    (tries : ((XrpcServer.offering codec services).dispatch data).response =
      codec.encodeResponse codec.rpcHeader header {}) :
    (∃ bytes, ((XrpcServer.offering codec services).onMessage data).response = .ok bytes ∧
      ∀ (Other : Type) (type : MessageType Other), (type.parseFromString []).1 = true →
        Reads codec type bytes) ↔ Legible codec codec.rpcHeader header {} := by
  cases encoded : codec.encodeResponse codec.rpcHeader header {} with
  | ok bytes =>
    have sent : ((XrpcServer.offering codec services).onMessage data).response = .ok bytes := by
      simp [XrpcServer.onMessage, tries, encoded]
    have legible : Legible codec codec.rpcHeader header {} ↔ header.Utf8 ∧ bytes.length < 2 ^ 31 := by
      rw [legible_iff encoded generated.empty]
      simp [generated.parses_empty]
    rw [legible]
    constructor
    · rintro ⟨other, replied, reads⟩
      cases sent.symm.trans replied
      exact (generated.reads_iff encoded generated.parses_empty).mp
        (reads RpcHeader codec.rpcHeader generated.parses_empty)
    · exact fun met => ⟨bytes, sent, fun Other type optional =>
        (generated.reads_iff encoded optional).mpr met⟩
  | error what =>
    obtain ⟨bytes, replied, reads⟩ := generated.internal_reply
    have sent : ((XrpcServer.offering codec services).onMessage data).response = .ok bytes := by
      simp [XrpcServer.onMessage, tries, encoded, replied]
    exact iff_of_true ⟨bytes, sent, reads⟩ (legible_of_throws encoded)

end Replies

namespace XrpcServer
variable {server : XrpcServer Msg} {codec : XrpcCodec} {services : List (Service Msg)}
  {data : Bytes} {method : Method Msg} {request : Msg}

section Answers
variable {header : RpcHeader} (active : header.cancelled = false)
  (found : (server.services.find? header.serviceName).isSome = true)
include active found

theorem response_answer
    (sent : failureOf (method.call request) = none → ∃ bytes,
      server.codec.encodeResponse method.responseType (replyHeader header (method.call request))
        (method.call request).response = .ok bytes) :
    (server.answer header method request).response =
      server.codec.encodeResponse method.responseType (replyHeader header (method.call request))
        (method.call request).response := by
  have called := server.callServiceMethod_found ⟨header.serviceName, header.methodName, method⟩
    found request
  cases failure : failureOf (method.call request) with
  | some what => simp [answer, active, called, failure, replyHeader]
  | none =>
    obtain ⟨bytes, encoded⟩ := sent failure
    simp only [replyHeader, failure, active] at encoded
    simp [answer, active, called, failure, replyHeader, encoded]

/-- A response that cannot be encoded is reported as a failure of the call. -/
theorem response_answer_thrown (succeeded : failureOf (method.call request) = none) {what : Bytes}
    (thrown : server.codec.encodeResponse method.responseType
      (replyHeader header (method.call request)) (method.call request).response = .error what) :
    (server.answer header method request).response =
      server.codec.encodeResponse method.responseType (errorHeader header 5 (cString what))
        (method.call request).response := by
  have called := server.callServiceMethod_found ⟨header.serviceName, header.methodName, method⟩
    found request
  simp only [replyHeader, succeeded, active] at thrown
  simp [answer, active, called, succeeded, thrown]

end Answers

section Understanding
variable (generated : Generated codec services)
include generated

theorem understood_refused {code : Int32} {message : String}
    (refused : (offering codec services).route (codec.decode data) = .error (code, message)) :
    Understood codec services data ↔
      Legible codec codec.rpcHeader
        (errorHeader (codec.decode data).header code (text message)) {} := by
  have same := codec_offering codec services
  have dispatched := (offering codec services).dispatch_eq data
  rw [same, refused] at dispatched
  have untargeted : ∀ method request, ¬Target services (codec.decode data) method request :=
    fun method request target => nomatch refused.symm.trans (route_eq_ok_iff.mpr target)
  have tries : ((offering codec services).dispatch data).response = codec.encodeResponse
      codec.rpcHeader (errorHeader (codec.decode data).header code (text message)) {} := by
    rw [dispatched]
    dsimp only
    rw [errorReply, same]
  rw [← generated.all_read_iff_legible tries]
  simp [Understood, untargeted]

/-- When a method ran, its own response type is the one to read the reply with. -/
theorem understood_target {header : RpcHeader} {message : Msg}
    (target : Target services (codec.decode data) method request)
    (tries : ((offering codec services).dispatch data).response =
      codec.encodeResponse method.responseType header message) :
    Understood codec services data ↔ Legible codec method.responseType header message := by
  obtain ⟨service, listed, member⟩ := target.listed
  have bounded := generated.responseBounded service listed method member
  have optional := generated.responseEmpty service listed method member
  rw [← generated.reads_iff_legible bounded optional tries]
  constructor
  · rintro ⟨bytes, replied, reads, _⟩
    exact ⟨bytes, replied, reads method request target⟩
  · rintro ⟨bytes, replied, reads⟩
    refine ⟨bytes, replied, ?_, fun untargeted => absurd ⟨method, request, target⟩ untargeted⟩
    intro other asked asks
    obtain ⟨rfl, rfl⟩ := target.unique asks
    exact reads

theorem understood_routed
    (routed : (offering codec services).route (codec.decode data) = .ok (method, request)) :
    Understood codec services data ↔
      Legible codec method.responseType
          (replyHeader (codec.decode data).header (method.call request))
          (method.call request).response ∧
        (failureOf (method.call request) = none → ∀ what,
          codec.encodeResponse method.responseType
            (replyHeader (codec.decode data).header (method.call request))
            (method.call request).response = .error what →
          Legible codec method.responseType
            (errorHeader (codec.decode data).header 5 (cString what))
            (method.call request).response) := by
  have same := codec_offering codec services
  have dispatched := (offering codec services).dispatch_eq data
  rw [same, routed] at dispatched
  have target : Target services (codec.decode data) method request := route_eq_ok_iff.mp routed
  obtain ⟨_, active, service, registered, _⟩ := route_ok routed
  have found : ((offering codec services).services.find?
      (codec.decode data).header.serviceName).isSome = true := by simp [registered]
  by_cases unencoded : failureOf (method.call request) = none ∧ ∃ what,
      codec.encodeResponse method.responseType (replyHeader (codec.decode data).header
        (method.call request)) (method.call request).response = .error what
  · obtain ⟨succeeded, what, thrown⟩ := unencoded
    have answered := response_answer_thrown active found succeeded (by rw [same]; exact thrown)
    rw [understood_target generated target (by rw [dispatched]; dsimp only; rw [answered, same])]
    constructor
    · intro legible
      refine ⟨legible_of_throws thrown, ?_⟩
      intro _ other again
      cases thrown.symm.trans again
      exact legible
    · exact fun legible => legible.2 succeeded what thrown
  · have sent : failureOf (method.call request) = none → ∃ bytes,
        codec.encodeResponse method.responseType (replyHeader (codec.decode data).header
          (method.call request)) (method.call request).response = .ok bytes := by
      intro succeeded
      cases encoded : codec.encodeResponse method.responseType (replyHeader
          (codec.decode data).header (method.call request)) (method.call request).response with
      | ok bytes => exact ⟨bytes, rfl⟩
      | error what => exact absurd ⟨succeeded, what, encoded⟩ unencoded
    have answered := response_answer active found (by rw [same]; exact sent)
    rw [understood_target generated target (by rw [dispatched]; dsimp only; rw [answered, same])]
    constructor
    · exact fun legible => ⟨legible, fun succeeded what thrown =>
        absurd ⟨succeeded, what, thrown⟩ unencoded⟩
    · exact fun legible => legible.1

/-- The client can read every answer but those with a string that is not UTF-8, a
response that does not parse, or too large a frame. -/
theorem understood_iff_intelligible (data : Bytes) :
    Understood codec services data ↔ Intelligible codec services data := by
  rw [Intelligible]
  cases routed : (offering codec services).route (codec.decode data) with
  | error refusal => exact understood_refused generated routed
  | ok found => exact understood_routed generated routed

end Understanding

end XrpcServer

end Legible

section Replying

/-- A `BytesValue` that is empty or holds the byte 7. -/
def bytesValue : MessageType Bytes := .ofTable [] [([], []), ([7], [0x0a, 0x01, 7])]

/-- The header of the reply to a ping whose method fails with this text. -/
def failedPing (reason : Bytes) : RpcHeader :=
  XrpcServer.errorHeader { pingHeader with argsSize := 0 } 5 reason

def replyRows : List (RpcHeader × Bytes) :=
  [({}, []),
    (XrpcServer.errorHeader {} 6 (text "Internal server error"),
      [0x28, 1, 0x42, 25, 0x08, 6, 0x12, 21] ++ text "Internal server error"),
    (XrpcServer.errorHeader {} 1 (text "Failed to decode request"),
      [0x28, 1, 0x42, 28, 0x08, 1, 0x12, 24] ++ text "Failed to decode request"),
    ({ pingHeader with argsSize := 3 }, pingHeaderStr),
    (failedPing [0xff], [0x0a, 0x04] ++ text "Ping" ++ [0x12, 0x02] ++ text "Do" ++
      [0x20, 0x01, 0x28, 0x01, 0x42, 0x05, 0x08, 0x05, 0x12, 0x01, 0xff])]

def replyCodec : XrpcCodec where
  rpcHeader := (MessageType.ofTable {} replyRows).checked RpcHeader.Utf8
  zlib := .stored

/-- A method that sends its requests back, or calls `SetFailed`. -/
def replyMethod (failure : Option Bytes) : Method Bytes where
  name := text "Do"
  requestType := bytesValue
  responseType := bytesValue
  call request :=
    match failure with
    | none => { response := request }
    | some reason => { response := [], controller := ({} : XrpcController).setFailed reason }

def replyService (failure : Option Bytes) : Service Bytes where
  name := text "Ping"
  methods := [replyMethod failure]
  distinct := by simp

/-- Protobuf as far as a table of headers goes, with a parser that rejects what is not
UTF-8. -/
def tableCodec (rows : List (RpcHeader × Bytes)) : XrpcCodec where
  rpcHeader := (MessageType.ofTable {} rows).checked RpcHeader.Utf8
  zlib := .stored

theorem tableCodec_proto3 {rows : List (RpcHeader × Bytes)}
    (distinct : (rows.map Prod.snd).Nodup) (small : ∀ row ∈ rows, row.2.length < 2 ^ 31) :
    (tableCodec rows).Proto3 := by
  constructor
  · intro bytes parsed
    exact of_decide_eq_true (Bool.and_eq_true_iff.mp parsed).2
  · intro header bytes serialized legible
    have read : (MessageType.ofTable {} rows).parseFromString bytes = (true, header) :=
      MessageType.ofTable_reads distinct serialized
    simp [tableCodec, MessageType.checked, read, legible]
  · intro header bytes serialized parsed
    exact MessageType.ofTable_sound distinct header bytes serialized (Bool.and_eq_true_iff.mp parsed).1
  · have bounded : (MessageType.ofTable {} rows).Bounded := MessageType.ofTable_bounded small
    exact bounded
  · intro data packed compressed
    have stored : packed = data := by
      simpa [tableCodec, Zlib.stored, Zlib.compress, ZStream.drain_eq, eq_comm] using compressed
    simp [tableCodec, Zlib.stored, Zlib.decompress, ZStream.drain_eq, stored]

theorem replyCodec_proto3 : replyCodec.Proto3 := by
  have proto3 : (tableCodec replyRows).Proto3 :=
    tableCodec_proto3 (by decide +kernel) (by decide +kernel)
  exact proto3

/-- A table of headers is enough for these services if it has the two that `Generated` names. -/
theorem tableCodec_generated {rows : List (RpcHeader × Bytes)} (proto3 : (tableCodec rows).Proto3)
    (empty : (tableCodec rows).rpcHeader.serializeToString {} = some [])
    (internal : (tableCodec rows).rpcHeader.serializeToString
        (XrpcServer.errorHeader {} 6 (text "Internal server error")) =
      some ([0x28, 1, 0x42, 25, 0x08, 6, 0x12, 21] ++ text "Internal server error"))
    (failure : Option Bytes) : Generated (tableCodec rows) [replyService failure] where
  toProto3 := proto3
  empty := empty
  internal := internal
  responseBounded := by
    have bounded : bytesValue.Bounded := MessageType.ofTable_bounded (by decide)
    simpa [replyService, replyMethod] using bounded
  responseEmpty := by
    have optional : (bytesValue.parseFromString []).1 = true := rfl
    simpa [replyService, replyMethod] using optional

theorem replyService_generated (failure : Option Bytes) :
    Generated replyCodec [replyService failure] := by
  have generated : Generated (tableCodec replyRows) [replyService failure] :=
    tableCodec_generated replyCodec_proto3 rfl rfl failure
  exact generated

theorem replyService_target (failure : Option Bytes) :
    XrpcServer.Target [replyService failure] (replyCodec.decode ping) (replyMethod failure) [7] where
  accepted := rfl
  active := rfl
  offered := by
    have header : (replyCodec.decode ping).header.serviceName = text "Ping" := rfl
    exact ⟨replyService failure, by simp [header, XrpcServer.lastRegistered, replyService],
      List.mem_singleton.mpr rfl⟩
  named := by
    have header : (replyCodec.decode ping).header.methodName = text "Do" := rfl
    exact header.symm
  parsed := by
    have parsed : bytesValue.parseFromString (replyCodec.decode ping).body = (true, [7]) := rfl
    exact parsed

/-- The answer to a ping is read, and so is the one to a byte that is no request. -/
theorem ping_understood :
    XrpcServer.Understood replyCodec [replyService none] ping ∧
      XrpcServer.Understood replyCodec [replyService none] [0xff] := by
  constructor
  · rw [XrpcServer.understood_iff_intelligible (replyService_generated none),
      XrpcServer.Intelligible, XrpcServer.route_eq_ok_iff.mpr (replyService_target none)]
    have encoded : replyCodec.encodeResponse bytesValue (XrpcServer.replyHeader
        (replyCodec.decode ping).header ((replyMethod none).call [7])) [7] = .ok ping := rfl
    have serialized : bytesValue.serializeToString [7] = some [0x0a, 0x01, 7] := rfl
    refine ⟨(legible_iff encoded serialized).mpr (by decide +kernel), ?_⟩
    intro _ what thrown
    exact nomatch encoded.symm.trans thrown
  · have refused : (XrpcServer.offering replyCodec [replyService none]).route
        (replyCodec.decode [0xff]) = .error (1, "Failed to decode request") := rfl
    rw [XrpcServer.understood_iff_intelligible (replyService_generated none),
      XrpcServer.Intelligible, refused]
    have encoded : replyCodec.encodeResponse replyCodec.rpcHeader (XrpcServer.errorHeader
        (replyCodec.decode [0xff]).header 1 (text "Failed to decode request")) {} =
        .ok ([32, 0x28, 1, 0x42, 28, 0x08, 1, 0x12, 24] ++ text "Failed to decode request") := rfl
    have serialized : replyCodec.rpcHeader.serializeToString {} = some [] := rfl
    exact (legible_iff encoded serialized).mpr (by decide +kernel)

/-- A failure whose text is not UTF-8 reaches the client as a frame it cannot decode. -/
theorem failed_ping_unintelligible :
    ¬XrpcServer.Understood replyCodec [replyService (some [0xff])] ping := by
  rintro ⟨bytes, replied, reads, _⟩
  have sent : (((XrpcServer.offering replyCodec [replyService (some [0xff])]).onMessage
      ping).response.toOption.map fun bytes =>
        (replyCodec.decodeResponse bytesValue bytes []).accepted) = some false := by
    decide +kernel
  have rejected : (replyCodec.decodeResponse bytesValue bytes []).accepted = false := by
    simpa [replied, Except.toOption] using sent
  exact nomatch rejected.symm.trans (reads _ _ (replyService_target _) [])

end Replying

end Xrpc
