import Xrpc.Core.Framing
import Xrpc.Transport.Exchange
import Xrpc.Wire.Acceptance

/-! Which response a call of the channel decodes. -/

namespace Xrpc

open Support

namespace XrpcCodec
variable {codec : XrpcCodec} {Msg : Type}

/-- `bytes` begins with a header that has these fields of `header`. -/
def Framed (codec : XrpcCodec) (header : RpcHeader) (bytes : Bytes) : Prop :=
  ∃ wire headerStr sent, bytes = frameBytes headerStr sent ∧
    codec.rpcHeader.serializeToString wire = some headerStr ∧
    wire.requestId = header.requestId ∧ wire.status = header.status ∧ wire.error = header.error

theorem framed_writeFrame {failure bytes : Bytes} {type : MessageType Msg} {header : RpcHeader}
    {message : Msg} (written : codec.writeFrame failure type header message = .ok bytes) :
    codec.Framed header bytes := by
  obtain ⟨body, wire, sent, headerStr, _, prepared, serialized, rfl⟩ := codec.writeFrame_ok written
  obtain ⟨same, _⟩ := codec.prepare_wire prepared
  refine ⟨wire, headerStr, sent, rfl, serialized, ?_⟩
  rw [same]
  exact ⟨rfl, rfl, rfl⟩

theorem Framed.read {header : RpcHeader} {bytes : Bytes} (framed : codec.Framed header bytes)
    (sound : codec.rpcHeader.Sound) (bounded : codec.rpcHeader.Bounded)
    (accepted : (codec.readFrame bytes).accepted = true) :
    (codec.readFrame bytes).header.requestId = header.requestId ∧
      (codec.readFrame bytes).header.status = header.status ∧
      (codec.readFrame bytes).header.error = header.error := by
  obtain ⟨wire, headerStr, sent, rfl, serialized, kept⟩ := framed
  obtain ⟨_, _, _, _, _, _, parsed, _, same⟩ :=
    parts_of_accepted (bounded wire headerStr serialized) (prefix_of_arrayInput _) accepted
  rw [same, sound wire headerStr serialized parsed]
  exact kept

end XrpcCodec

namespace XrpcServer
variable {Msg : Type} {server : XrpcServer Msg} {data reply : Bytes}

/-- A reply that reports a failure, or repeats the id of the request it answers. -/
def Echoes (server : XrpcServer Msg) (data reply : Bytes) : Prop :=
  ∃ header, server.codec.Framed header reply ∧
    ((header.status = 1 ∧ header.error.isSome = true) ∨
      ((server.codec.decode data).accepted = true ∧
        header.requestId = (server.codec.decode data).header.requestId))

theorem echoes_failure {header : RpcHeader} {code : Int32} {message : Bytes}
    (framed : server.codec.Framed (errorHeader header code message) reply) :
    server.Echoes data reply :=
  ⟨_, framed, .inl ⟨rfl, rfl⟩⟩

theorem echoes_errorReply {header : RpcHeader} {code : Int32} {message : String}
    (encoded : server.errorReply header code message = .ok reply) : server.Echoes data reply :=
  echoes_failure (XrpcCodec.framed_writeFrame encoded)

theorem echoes_answer {header : RpcHeader} {method : Method Msg} {request : Msg}
    (accepted : (server.codec.decode data).accepted = true)
    (decoded : (server.codec.decode data).header = header)
    (answered : (server.answer header method request).response = .ok reply) :
    server.Echoes data reply := by
  rw [answer] at answered
  dsimp only at answered
  split at answered
  · exact echoes_failure (XrpcCodec.framed_writeFrame answered)
  · split at answered
    · rename_i encoded
      cases answered
      exact ⟨_, XrpcCodec.framed_writeFrame encoded, .inr ⟨accepted, by rw [decoded]⟩⟩
    · exact echoes_failure (XrpcCodec.framed_writeFrame answered)

theorem echoes_dispatch (answered : (server.dispatch data).response = .ok reply) :
    server.Echoes data reply := by
  cases decoded : server.codec.decode data with
  | mk accepted header args =>
    rw [dispatch, decoded] at answered
    dsimp only at answered
    split at answered
    · exact echoes_errorReply answered
    · rename_i refused
      split at answered
      · exact echoes_errorReply answered
      · split at answered
        · exact echoes_errorReply answered
        · split at answered
          · exact echoes_errorReply answered
          · split at answered
            · exact echoes_errorReply answered
            · have taken : accepted = true := by simpa using refused
              exact echoes_answer (by rw [decoded]; exact taken) (by rw [decoded]) answered

theorem echoes_onMessage (answered : (server.onMessage data).response = .ok reply) :
    server.Echoes data reply := by
  rw [onMessage] at answered
  cases dispatched : (server.dispatch data).response with
  | ok response =>
    simp only [dispatched] at answered
    exact echoes_dispatch (dispatched.trans answered)
  | error what =>
    simp only [dispatched] at answered
    exact echoes_errorReply answered

/-- A call that ends without a failure has decoded the server's answer to its
own request, as long as the reads of the connection are posted in turn. -/
theorem responses_matched (sound : server.codec.rpcHeader.Sound)
    (bounded : server.codec.rpcHeader.Bounded) (requests : Nat → EncodedRequest server.codec Msg)
    {replies : Nat → Bytes}
    (answers : ∀ call, (server.onMessage (requests call).bytes).response = .ok (replies call))
    {events : List ExchangeEvent} {final : Exchange}
    (inTurn : Along (Exchange.step replies) Exchange.InTurn {} events)
    (reached : run (Exchange.step replies) {} events = some final)
    {call : Nat} {data : Bytes} (ended : (call, some data) ∈ final.outcomes) :
    data = replies call ∧ ∀ (type : MessageType Msg) (response : Msg),
      (server.codec.decodeResponse type data response).accepted = true →
      ((server.codec.decodeResponse type data response).header.status = 0 ∨
        (server.codec.decodeResponse type data response).header.error = none) →
      (server.codec.decodeResponse type data response).header.requestId =
        (requests call).header.requestId := by
  have own := (Exchange.matched_run inTurn reached).outcomes call data ended
  refine ⟨own, ?_⟩
  intro type response accepted succeeded
  have frameAccepted : (server.codec.readFrame data).accepted = true := by
    by_contra refused
    simp [XrpcCodec.decodeResponse, refused] at accepted
  have sameHeader : (server.codec.decodeResponse type data response).header =
      (server.codec.readFrame data).header := by
    simp [XrpcCodec.decodeResponse, frameAccepted]
  obtain ⟨header, framed, reports⟩ := echoes_onMessage (own ▸ answers call)
  obtain ⟨sameId, sameStatus, sameError⟩ := framed.read sound bounded frameAccepted
  rw [sameHeader] at succeeded ⊢
  rw [sameStatus, sameError] at succeeded
  rw [sameId]
  rcases reports with ⟨failed, explained⟩ | ⟨requestAccepted, echoed⟩
  · rcases succeeded with ok | silent
    · simp [failed] at ok
    · simp [silent] at explained
  · rw [echoed]
    exact ((XrpcCodec.framed_writeFrame (requests call).encoded).read sound bounded
      requestAccepted).1

end XrpcServer

section Pings

def secondHeader : RpcHeader := { pingHeader with requestId := 2 }

def secondHeaderStr : Bytes :=
  [0x0a, 0x04] ++ text "Ping" ++ [0x12, 0x02] ++ text "Do" ++ [0x18, 0x03, 0x20, 0x02]

def twoPingCodec : XrpcCodec where
  rpcHeader := .ofTable {} [({ pingHeader with argsSize := 3 }, pingHeaderStr),
    ({ secondHeader with argsSize := 3 }, secondHeaderStr)]
  zlib := .ofTable []

def twoPingServer : XrpcServer Bytes := XrpcServer.addService { codec := twoPingCodec } pingService

/-- The first call has request id 1, all others have 2. -/
def twoPings : Nat → EncodedRequest twoPingCodec Bytes
  | 0 =>
    { type := pingType
      header := pingHeader
      message := [7]
      bytes := XrpcCodec.frameBytes pingHeaderStr [0x0a, 0x01, 7]
      encoded := by decide +kernel }
  | _ + 1 =>
    { type := pingType
      header := secondHeader
      message := [7]
      bytes := XrpcCodec.frameBytes secondHeaderStr [0x0a, 0x01, 7]
      encoded := by decide +kernel }

/-- Each is answered by the frame it was asked with. -/
def twoPongs (call : Nat) : Bytes := (twoPings call).bytes

theorem twoPongs_answer (call : Nat) :
    (twoPingServer.onMessage (twoPings call).bytes).response = .ok (twoPongs call) := by
  have second : (twoPingServer.onMessage (XrpcCodec.frameBytes secondHeaderStr
      [0x0a, 0x01, 7])).response = .ok (XrpcCodec.frameBytes secondHeaderStr [0x0a, 0x01, 7]) := by
    decide +kernel
  cases call with
  | zero => decide +kernel
  | succ call => exact second

theorem twoPingCodec_sound : twoPingCodec.rpcHeader.Sound :=
  MessageType.ofTable_sound (by decide +kernel)

theorem twoPingCodec_bounded : twoPingCodec.rpcHeader.Bounded :=
  MessageType.ofTable_bounded (by decide +kernel)

/-- An asynchronous call and a synchronous one, whose reads are posted in turn. -/
def inTurnPings : List ExchangeEvent :=
  [.sendAsync, .asyncWrite 0, .asyncWriteHandler 0, .send, .doClientRead, .serve, .readCompletes,
    .serve, .readCompletes, .sendReturns]

/-- Here the handler of the asynchronous write runs after the synchronous call
has posted its read. -/
def lateHandlerPings : List ExchangeEvent :=
  [.sendAsync, .asyncWrite 0, .send, .doClientRead, .serve, .readCompletes, .sendReturns]

theorem in_turn_pings_matched :
    ∃ final, run (Exchange.step twoPongs) {} inTurnPings = some final ∧
      (1, some (twoPongs 1)) ∈ final.outcomes ∧
      (twoPingCodec.decodeResponse pingType (twoPongs 1) []).header.requestId = 2 := by
  have possible : ∃ final, run (Exchange.step twoPongs) {} inTurnPings = some final ∧
      (1, some (twoPongs 1)) ∈ final.outcomes := by
    refine ⟨_, rfl, ?_⟩
    decide +kernel
  obtain ⟨final, reached, ended⟩ := possible
  have inTurn : Along (Exchange.step twoPongs) Exchange.InTurn {} inTurnPings := by decide +kernel
  have matched := twoPingServer.responses_matched twoPingCodec_sound twoPingCodec_bounded twoPings
    twoPongs_answer inTurn reached ended
  exact ⟨final, reached, ended, matched.2 pingType [] (by decide +kernel) (by decide +kernel)⟩

/-- The synchronous call, whose request has id 2, decodes the response to id 1
and does not fail. -/
theorem late_handler_mismatched :
    ∃ final data, run (Exchange.step twoPongs) {} lateHandlerPings = some final ∧
      (1, some data) ∈ final.outcomes ∧
      (twoPingCodec.decodeResponse pingType data []).accepted = true ∧
      (twoPingCodec.decodeResponse pingType data []).header.status = 0 ∧
      (twoPingCodec.decodeResponse pingType data []).header.requestId = 1 ∧
      (twoPings 1).header.requestId = 2 := by
  refine ⟨_, twoPongs 0, rfl, ?_, ?_, ?_, ?_, rfl⟩
  · decide +kernel
  · decide +kernel
  · decide +kernel
  · decide +kernel

end Pings

end Xrpc
