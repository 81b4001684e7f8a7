import Xrpc.Core.Server
import Xrpc.Transport.Server
import Xrpc.Wire.RoundTrip

/-! The server takes each read of a connection for one whole request. -/

namespace Xrpc

open Support

/-- A request that `Encode` turned into `bytes`. -/
structure EncodedRequest (codec : XrpcCodec) (Msg : Type) where
  type : MessageType Msg
  header : RpcHeader
  message : Msg
  bytes : Bytes
  encoded : codec.encode type header message = .ok bytes

/-- An encoded request that protobuf and zlib read back. -/
structure RequestFrame (codec : XrpcCodec) (Msg : Type) extends EncodedRequest codec Msg where
  body : Bytes
  headerStr : Bytes
  readable : codec.Readable type header message body headerStr

namespace RequestFrame
variable {codec : XrpcCodec} {Msg : Type}

/-- What `Decode` has to make of the frame. -/
def request (frame : RequestFrame codec Msg) : Decoded Bytes :=
  ⟨true, codec.wireHeader frame.header frame.body, frame.body⟩

theorem bytes_eq (frame : RequestFrame codec Msg) :
    frame.bytes = XrpcCodec.frameBytes frame.headerStr (codec.wireBody frame.header frame.body) :=
  Except.ok.inj (frame.encoded.symm.trans (frame.readable.writeFrame _))

theorem decode_bytes (frame : RequestFrame codec Msg) (fits : frame.bytes.length < 2 ^ 31) :
    codec.decode frame.bytes = frame.request := by
  rw [frame.bytes_eq] at fits ⊢
  exact frame.readable.readFrame fits

end RequestFrame

/-- A way for `stream` to arrive in the 8192 bytes of the read buffer. -/
structure Segmentation (stream : Bytes) where
  reads : List Bytes
  sized : ∀ read ∈ reads, 1 ≤ read.length ∧ read.length ≤ 8192
  whole : reads.flatten = stream

namespace AsioServer

def onSocket (socket : Nat) (requests : List (Nat × Bytes)) : List Bytes :=
  (requests.filter (·.1 = socket)).map Prod.snd

/-- The requests of one connection that were handed to the callback. -/
def requests (server : AsioServer) (socket : Nat) : List Bytes :=
  onSocket socket server.handed

/-- The successful reads of one connection. -/
def readsOf (socket : Nat) (events : List ServerEvent) : List Bytes :=
  onSocket socket (events.filterMap request?)

theorem requests_run {callback : Bytes → Except Bytes Bytes} {events : List ServerEvent}
    {final : AsioServer} (reached : run step (startServer callback) events = some final)
    (socket : Nat) : final.requests socket = readsOf socket events := by
  rw [requests, readsOf, handed_run reached]
  rfl

end AsioServer

namespace XrpcServer
variable {Msg : Type}

/-- `Init` listens with `OnMessage` as the callback. -/
def init (server : XrpcServer Msg) : AsioServer :=
  AsioServer.startServer fun data => (server.onMessage data).response

/-- The frames of a connection reach `OnMessage`, each decoded as it was sent,
just when every read brings exactly one of them. -/
theorem requests_exact_iff (server : XrpcServer Msg)
    {frames : List (RequestFrame server.codec Msg)}
    (cut : Segmentation (frames.map (·.bytes)).flatten)
    {events : List ServerEvent} {final : AsioServer} {socket : Nat}
    (reached : run AsioServer.step server.init events = some final)
    (received : AsioServer.readsOf socket events = cut.reads) :
    (final.requests socket).map (fun data => (data, server.codec.decode data)) =
        frames.map (fun frame => (frame.bytes, frame.request)) ↔
      cut.reads = frames.map (·.bytes) := by
  rw [AsioServer.requests_run reached, received]
  constructor
  · intro same
    have firsts := congrArg (List.map Prod.fst) same
    simpa [Function.comp_def] using firsts
  · intro same
    rw [same, List.map_map]
    apply List.map_congr_left
    intro frame member
    have read : frame.bytes ∈ cut.reads := by
      rw [same]
      exact List.mem_map_of_mem member
    have sized := cut.sized frame.bytes read
    rw [Function.comp_apply, frame.decode_bytes (by omega)]

end XrpcServer

section Pings

def pingFrame : RequestFrame pingCodec Bytes where
  type := pingType
  header := pingHeader
  message := [7]
  body := [0x0a, 0x01, 7]
  headerStr := pingHeaderStr
  bytes := XrpcCodec.frameBytes pingHeaderStr [0x0a, 0x01, 7]
  encoded := by decide +kernel
  readable := pingCarries.toReadable

def separatePings : Segmentation ([pingFrame, pingFrame].map (·.bytes)).flatten where
  reads := [pingFrame.bytes, pingFrame.bytes]
  sized := by decide +kernel
  whole := rfl

def mergedPings : Segmentation ([pingFrame, pingFrame].map (·.bytes)).flatten where
  reads := [pingFrame.bytes ++ pingFrame.bytes]
  sized := by decide +kernel
  whole := by simp

theorem separate_pings_exact :
    ∃ final, run AsioServer.step pingServer.init
        [.accepted true, .received 0 pingFrame.bytes .stays, .received 0 pingFrame.bytes .stays] =
          some final ∧
      (final.requests 0).map (fun data => (data, pingCodec.decode data)) =
        [pingFrame, pingFrame].map fun frame => (frame.bytes, frame.request) := by
  have possible : (run AsioServer.step pingServer.init [.accepted true,
      .received 0 pingFrame.bytes .stays, .received 0 pingFrame.bytes .stays]).isSome = true := by
    decide +kernel
  obtain ⟨final, reached⟩ := Option.isSome_iff_exists.mp possible
  have received : AsioServer.readsOf 0 [.accepted true, .received 0 pingFrame.bytes .stays,
    .received 0 pingFrame.bytes .stays] = separatePings.reads := rfl
  exact ⟨final, reached, (pingServer.requests_exact_iff separatePings reached received).mpr rfl⟩

/-- Of two requests that arrive in a single read, only the first is decoded. -/
theorem merged_pings_lost :
    ∃ final, run AsioServer.step pingServer.init
        [.accepted true, .received 0 (pingFrame.bytes ++ pingFrame.bytes) .stays] = some final ∧
      AsioServer.readsOf 0 [.accepted true,
        .received 0 (pingFrame.bytes ++ pingFrame.bytes) .stays] = mergedPings.reads ∧
      (final.requests 0).map pingCodec.decode = [pingFrame.request] := by
  have possible : (run AsioServer.step pingServer.init [.accepted true,
      .received 0 (pingFrame.bytes ++ pingFrame.bytes) .stays]).isSome = true := by
    decide +kernel
  obtain ⟨final, reached⟩ := Option.isSome_iff_exists.mp possible
  refine ⟨final, reached, rfl, ?_⟩
  rw [AsioServer.requests_run reached]
  decide +kernel

end Pings

end Xrpc
