import Xrpc.Wire.Message
import Xrpc.Wire.CodedStream

/-! `XrpcCodec`: a frame is a varint header length, the header, and the body,
which may be compressed. -/

namespace Xrpc

open Support

/-- The `do … while (stream.avail_out == 0)` loop of both directions. The sources
test no return code but `Z_STREAM_ERROR`. -/
def drain (failure : Bytes) : Nat → ZStream → Bytes → Except Bytes Bytes
  | 0, _, result => .ok result
  | rounds + 1, stream, result =>
    let (code, chunk, stream) := stream.call 8192
    if code = .streamError then .error failure
    else if chunk.length = 8192 then drain failure rounds stream (result ++ chunk)
    else .ok (result ++ chunk)

def ZStream.drain (stream : ZStream) (failure : Bytes) : Except Bytes Bytes :=
  Xrpc.drain failure (stream.pending.length / 8192 + 1) stream []

def Zlib.compress (zlib : Zlib) (data : Bytes) : Except Bytes Bytes :=
  if zlib.deflateInit then (zlib.deflate data).drain (text "Failed to compress data")
  else .error (text "Failed to initialize deflate")

def Zlib.decompress (zlib : Zlib) (data : Bytes) : Except Bytes Bytes :=
  if zlib.inflateInit then (zlib.inflate data).drain (text "Failed to decompress data")
  else .error (text "Failed to initialize inflate")

private theorem drain_rounds (failure : Bytes) {rounds : Nat} {stream : ZStream}
    (enough : stream.pending.length / 8192 < rounds) (result : Bytes) :
    drain failure rounds stream result =
      if stream.last = .streamError then .error failure else .ok (result ++ stream.pending) := by
  induction rounds generalizing stream result with
  | zero => omega
  | succ rounds ih =>
    by_cases more : 8192 < stream.pending.length
    · have left : (stream.pending.drop 8192).length / 8192 < rounds := by
        rw [List.length_drop]
        omega
      have chunk : min 8192 stream.pending.length = 8192 := by omega
      have rest := @ih { stream with pending := stream.pending.drop 8192 } left
      simp [drain, ZStream.call, more, chunk, rest]
    · by_cases broken : stream.last = .streamError
      · simp [drain, ZStream.call, more, broken]
      · by_cases full : stream.pending.length = 8192
        · have left : ([] : Bytes).length / 8192 < rounds := by
            simp only [List.length_nil]
            omega
          have rest := @ih { stream with pending := [] } left
          simp [drain, ZStream.call, broken, full, rest]
        · simp [drain, ZStream.call, more, broken, full]

/-- The loop ends at a stream error and collects everything the stream has otherwise. -/
theorem ZStream.drain_eq_ite (stream : ZStream) (failure : Bytes) :
    stream.drain failure =
      if stream.last = .streamError then .error failure else .ok stream.pending := by
  simpa [ZStream.drain] using drain_rounds failure (Nat.lt_succ_self _) []

theorem ZStream.drain_eq {stream : ZStream} (sane : stream.last ≠ .streamError) (failure : Bytes) :
    stream.drain failure = .ok stream.pending := by
  rw [ZStream.drain_eq_ite, if_neg sane]

theorem Zlib.Inverts.compress {zlib : Zlib} {data : Bytes} (inverts : zlib.Inverts data) :
    zlib.compress data = .ok (zlib.deflate data).pending := by
  have sane : (zlib.deflate data).last ≠ .streamError := by simp [inverts.deflated]
  simp [Zlib.compress, inverts.deflateInit, ZStream.drain_eq sane]

theorem Zlib.Inverts.decompress {zlib : Zlib} {data : Bytes} (inverts : zlib.Inverts data) :
    zlib.decompress (zlib.deflate data).pending = .ok data := by
  simp [Zlib.decompress, inverts.inflateInit, inverts.inflated, ZStream.drain_eq]

/-- `XrpcCodec`, with the libraries it is linked against. -/
structure XrpcCodec where
  rpcHeader : MessageType RpcHeader
  zlib : Zlib

/-- The two results of a decoder: the returned flag and its out-parameters. -/
structure Decoded (Body : Type) where
  accepted : Bool
  header : RpcHeader
  body : Body
  deriving DecidableEq

namespace XrpcCodec
variable {Msg : Type} (codec : XrpcCodec)

/-- The compression step common to `Encode` and `EncodeResponse`: the header as
it is sent and the bytes that follow it. -/
def prepare (header : RpcHeader) (body : Bytes) : Except Bytes (RpcHeader × Bytes) :=
  let header := { header with argsSize := UInt32.ofNat body.length }
  if header.compressed && decide (100 < body.length) then do
    let compressed ← codec.zlib.compress body
    if compressed.length < body.length then
      pure ({ header with argsSize := UInt32.ofNat compressed.length }, compressed)
    else pure ({ header with compressed := false }, body)
  else if header.compressed then pure ({ header with compressed := false }, body)
  else pure (header, body)

/-- `Encode` and `EncodeResponse` differ in the text of one exception only. -/
def writeFrame (failure : Bytes) (type : MessageType Msg) (header : RpcHeader) (message : Msg) :
    Except Bytes Bytes := do
  let some body := type.serializeToString message | throw failure
  let (header, body) ← codec.prepare header body
  let some headerStr := codec.rpcHeader.serializeToString header
    | throw (text "Failed to serialize RpcHeader")
  return writeVarint32 (UInt32.ofNat headerStr.length) ++ (headerStr ++ body)

def encode : MessageType Msg → RpcHeader → Msg → Except Bytes Bytes :=
  codec.writeFrame (text "Failed to serialize args")

def encodeResponse : MessageType Msg → RpcHeader → Msg → Except Bytes Bytes :=
  codec.writeFrame (text "Failed to serialize response")

/-- The part common to `Decode` and `DecodeResponse`. Every caller passes a fresh
header, so that is what is left where the header is not parsed. -/
def readFrame (data : Bytes) : Decoded Bytes :=
  match readVarint32 (arrayInput data) with
  | none => ⟨false, {}, []⟩
  | some (headerSize, input) =>
    match readString headerSize input with
    | (false, _, _) => ⟨false, {}, []⟩
    | (true, headerStr, input) =>
      match codec.rpcHeader.parseFromString headerStr with
      | (false, header) => ⟨false, header, []⟩
      | (true, header) =>
        match readString header.argsSize input with
        | (false, body, _) => ⟨false, header, body⟩
        | (true, body, _) =>
          if header.compressed then
            match codec.zlib.decompress body with
            | .ok plain => ⟨true, header, plain⟩
            | .error _ => ⟨false, header, body⟩
          else ⟨true, header, body⟩

def decode (data : Bytes) : Decoded Bytes := codec.readFrame data

def decodeResponse (type : MessageType Msg) (data : Bytes) (response : Msg) : Decoded Msg :=
  let frame := codec.readFrame data
  if frame.accepted then
    let (parsed, message) := type.parseFromString frame.body
    ⟨parsed, frame.header, message⟩
  else ⟨false, frame.header, response⟩

/-- What is in the response before does not matter for the rest. -/
theorem decodeResponse_congr (type : MessageType Msg) (data : Bytes) (response other : Msg) :
    (codec.decodeResponse type data response).accepted =
        (codec.decodeResponse type data other).accepted ∧
      (codec.decodeResponse type data response).header =
        (codec.decodeResponse type data other).header := by
  unfold decodeResponse
  dsimp only
  split
  · exact ⟨rfl, rfl⟩
  · exact ⟨rfl, rfl⟩

end XrpcCodec

end Xrpc
