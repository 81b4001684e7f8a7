import Xrpc.Wire.Codec

/-! What a frame looks like on the wire, and that the decoders read it back. -/

namespace Xrpc

open Support

namespace XrpcCodec

variable {Msg : Type} (codec : XrpcCodec)

/-- Compression is used when it is asked for, worth trying and successful. -/
def shrinks (header : RpcHeader) (body : Bytes) : Bool :=
  header.compressed && decide (100 < body.length) &&
    decide ((codec.zlib.deflate body).pending.length < body.length)

def wireBody (header : RpcHeader) (body : Bytes) : Bytes :=
  if codec.shrinks header body then (codec.zlib.deflate body).pending else body

def wireHeader (header : RpcHeader) (body : Bytes) : RpcHeader :=
  { header with
    argsSize := UInt32.ofNat (codec.wireBody header body).length
    compressed := codec.shrinks header body }

def frameBytes (headerStr body : Bytes) : Bytes :=
  writeVarint32 (UInt32.ofNat headerStr.length) ++ (headerStr ++ body)

theorem wireBody_plain {header : RpcHeader} (plain : header.compressed = false) (body : Bytes) :
    codec.wireBody header body = body := by
  simp [wireBody, shrinks, plain]

theorem wireHeader_plain {header : RpcHeader} (plain : header.compressed = false) (body : Bytes) :
    codec.wireHeader header body = { header with argsSize := UInt32.ofNat body.length } := by
  simp [wireHeader, wireBody, shrinks, plain]

theorem prepare_plain {header : RpcHeader} (plain : header.compressed = false) (body : Bytes) :
    codec.prepare header body = .ok (codec.wireHeader header body, codec.wireBody header body) := by
  simp [prepare, plain, codec.wireHeader_plain plain, codec.wireBody_plain plain, pure, Except.pure]

theorem prepare_eq {header : RpcHeader} {body : Bytes}
    (inverts : header.compressed = true → codec.zlib.Inverts body) :
    codec.prepare header body = .ok (codec.wireHeader header body, codec.wireBody header body) := by
  by_cases asked : header.compressed = true
  · have inverts := inverts asked
    by_cases large : 100 < body.length
    · by_cases shorter : (codec.zlib.deflate body).pending.length < body.length
      · simp [prepare, wireHeader, wireBody, shrinks, asked, large, shorter, inverts.compress,
          bind, Except.bind, pure, Except.pure]
      · simp [prepare, wireHeader, wireBody, shrinks, asked, large, shorter, inverts.compress,
          bind, Except.bind, pure, Except.pure]
    · simp [prepare, wireHeader, wireBody, shrinks, asked, large, pure, Except.pure]
  · exact codec.prepare_plain (Bool.eq_false_iff.mpr asked) body

theorem writeFrame_eq {type : MessageType Msg} {message : Msg} {body sent headerStr : Bytes}
    {header wire : RpcHeader} (serialized : type.serializeToString message = some body)
    (prepared : codec.prepare header body = .ok (wire, sent))
    (headerSerialized : codec.rpcHeader.serializeToString wire = some headerStr)
    (failure : Bytes) :
    codec.writeFrame failure type header message = .ok (frameBytes headerStr sent) := by
  simp [writeFrame, serialized, prepared, headerSerialized, frameBytes, bind, Except.bind, pure,
    Except.pure]

/-- Of the header, only the size and the compression flag are not sent as they are. -/
theorem prepare_wire {header wire : RpcHeader} {body sent : Bytes}
    (prepared : codec.prepare header body = .ok (wire, sent)) :
    wire = { header with argsSize := UInt32.ofNat sent.length, compressed := wire.compressed } ∧
      if wire.compressed then codec.zlib.compress body = .ok sent ∧ sent.length < body.length
      else sent = body := by
  rw [prepare] at prepared
  dsimp only at prepared
  split at prepared
  · rename_i asked
    cases compressed : codec.zlib.compress body with
    | error what => simp [compressed, bind, Except.bind] at prepared
    | ok smaller =>
      simp only [compressed, bind, Except.bind] at prepared
      simp only [Bool.and_eq_true] at asked
      split at prepared
      · rename_i shorter
        cases prepared
        simp [asked.1, shorter]
      · cases prepared
        simp
  · split at prepared
    · cases prepared
      simp
    · rename_i plain
      cases prepared
      simp [Bool.eq_false_iff.mpr plain]

/-- What a frame is made of. -/
theorem writeFrame_ok {failure bytes : Bytes} {type : MessageType Msg} {header : RpcHeader}
    {message : Msg} (written : codec.writeFrame failure type header message = .ok bytes) :
    ∃ body wire sent headerStr, type.serializeToString message = some body ∧
      codec.prepare header body = .ok (wire, sent) ∧
      codec.rpcHeader.serializeToString wire = some headerStr ∧
      bytes = frameBytes headerStr sent := by
  cases serialized : type.serializeToString message with
  | none =>
    simp [writeFrame, serialized, throw, throwThe, MonadExceptOf.throw] at written
  | some body =>
    cases prepared : codec.prepare header body with
    | error what => simp [writeFrame, serialized, prepared, bind, Except.bind] at written
    | ok result =>
      obtain ⟨wire, sent⟩ := result
      cases headerSerialized : codec.rpcHeader.serializeToString wire with
      | none =>
        simp [writeFrame, serialized, prepared, headerSerialized, bind, Except.bind, throw,
          throwThe, MonadExceptOf.throw] at written
      | some headerStr =>
        have same := codec.writeFrame_eq serialized prepared headerSerialized failure
        exact ⟨body, wire, sent, headerStr, rfl, prepared, headerSerialized,
          Except.ok.inj (written.symm.trans same)⟩

/-- A frame is read back up to its own end, whatever follows it in the data. -/
theorem readFrame_frameBytes {headerStr body plain : Bytes} {header : RpcHeader}
    (parsed : codec.rpcHeader.parseFromString headerStr = (true, header))
    (sized : header.argsSize = UInt32.ofNat body.length)
    (unpacked : if header.compressed then codec.zlib.decompress body = .ok plain else plain = body)
    (rest : Bytes) (fits : (frameBytes headerStr body ++ rest).length < 2 ^ 31) :
    codec.readFrame (frameBytes headerStr body ++ rest) = ⟨true, header, plain⟩ := by
  have whole : arrayInput (frameBytes headerStr body ++ rest) = frameBytes headerStr body ++ rest :=
    arrayInput_of_small fits
  simp only [frameBytes, List.length_append] at fits
  have headerSmall : headerStr.length < 2 ^ 31 := by omega
  have bodySmall : body.length < 2 ^ 31 := by omega
  have headerRead := readString_append headerSmall (body ++ rest)
  have bodyRead := readString_append bodySmall rest
  simp only [readFrame, whole]
  simp only [frameBytes, List.append_assoc, readVarint32_write, headerRead, parsed, sized, bodyRead]
  cases compressed : header.compressed with
  | false =>
    rw [compressed, if_neg Bool.false_ne_true] at unpacked
    simp [unpacked]
  | true =>
    rw [compressed, if_pos rfl] at unpacked
    simp [unpacked]

/-- Protobuf and zlib read back what they wrote: `body` and `headerStr` are the
serializations of the message and of the header as it is sent. -/
structure Readable (type : MessageType Msg) (header : RpcHeader) (message : Msg)
    (body headerStr : Bytes) : Prop where
  messageTrips : type.RoundTrips message body
  headerTrips : codec.rpcHeader.RoundTrips (codec.wireHeader header body) headerStr
  inverts : header.compressed = true → codec.zlib.Inverts body

/-- Besides, the size of the frame is an `int`. -/
structure Carries (type : MessageType Msg) (header : RpcHeader) (message : Msg)
    (body headerStr : Bytes) : Prop extends codec.Readable type header message body headerStr where
  fits : (frameBytes headerStr (codec.wireBody header body)).length < 2 ^ 31

section Carried
variable {codec} {type : MessageType Msg} {header : RpcHeader} {message : Msg}
  {body headerStr : Bytes}

theorem Readable.writeFrame (readable : codec.Readable type header message body headerStr)
    (failure : Bytes) :
    codec.writeFrame failure type header message =
      .ok (frameBytes headerStr (codec.wireBody header body)) :=
  codec.writeFrame_eq readable.messageTrips.1 (codec.prepare_eq readable.inverts)
    readable.headerTrips.1 failure

theorem Readable.readFrame_append (readable : codec.Readable type header message body headerStr)
    (rest : Bytes)
    (fits : (frameBytes headerStr (codec.wireBody header body) ++ rest).length < 2 ^ 31) :
    codec.readFrame (frameBytes headerStr (codec.wireBody header body) ++ rest) =
      ⟨true, codec.wireHeader header body, body⟩ := by
  have unpacked : if (codec.wireHeader header body).compressed then
      codec.zlib.decompress (codec.wireBody header body) = .ok body
      else body = codec.wireBody header body := by
    by_cases compressed : codec.shrinks header body = true
    · have asked : header.compressed = true := by
        simp only [shrinks, Bool.and_eq_true] at compressed
        exact compressed.1.1
      simpa [wireHeader, wireBody, compressed] using (readable.inverts asked).decompress
    · simp [wireHeader, wireBody, compressed]
  exact codec.readFrame_frameBytes readable.headerTrips.2 rfl unpacked rest fits

theorem Readable.readFrame (readable : codec.Readable type header message body headerStr)
    (fits : (frameBytes headerStr (codec.wireBody header body)).length < 2 ^ 31) :
    codec.readFrame (frameBytes headerStr (codec.wireBody header body)) =
      ⟨true, codec.wireHeader header body, body⟩ := by
  have read := readable.readFrame_append [] (by simpa using fits)
  rwa [List.append_nil] at read

theorem Carries.readFrame (carries : codec.Carries type header message body headerStr) :
    codec.readFrame (frameBytes headerStr (codec.wireBody header body)) =
      ⟨true, codec.wireHeader header body, body⟩ :=
  carries.toReadable.readFrame carries.fits

theorem Readable.decodeResponse (readable : codec.Readable type header message body headerStr)
    (fits : (frameBytes headerStr (codec.wireBody header body)).length < 2 ^ 31) (response : Msg) :
    codec.decodeResponse type (frameBytes headerStr (codec.wireBody header body)) response =
      ⟨true, codec.wireHeader header body, message⟩ := by
  simp [XrpcCodec.decodeResponse, readable.readFrame fits, readable.messageTrips.2]

theorem Carries.decodeResponse (carries : codec.Carries type header message body headerStr)
    (response : Msg) :
    codec.decodeResponse type (frameBytes headerStr (codec.wireBody header body)) response =
      ⟨true, codec.wireHeader header body, message⟩ :=
  carries.toReadable.decodeResponse carries.fits response

/-- Requests and responses are framed alike, so each decoder reads the frames of
both encoders back. -/
theorem encode_decode_round_trip (carries : codec.Carries type header message body headerStr)
    (response : Msg) :
    ∃ request reply,
      codec.encode type header message = .ok request ∧
      codec.encodeResponse type header message = .ok reply ∧
      codec.decode request = ⟨true, codec.wireHeader header body, body⟩ ∧
      codec.decodeResponse type reply response = ⟨true, codec.wireHeader header body, message⟩ ∧
      codec.decode reply = ⟨true, codec.wireHeader header body, body⟩ ∧
      codec.decodeResponse type request response = ⟨true, codec.wireHeader header body, message⟩ ∧
      request = writeVarint32 (UInt32.ofNat headerStr.length) ++
        (headerStr ++ codec.wireBody header body) ∧
      (codec.wireHeader header body).argsSize.toNat = (codec.wireBody header body).length ∧
      ((codec.wireHeader header body).compressed = true ↔
        header.compressed = true ∧ 100 < body.length ∧
          (codec.zlib.deflate body).pending.length < body.length) := by
  have fits := carries.fits
  simp only [frameBytes, List.length_append] at fits
  refine ⟨_, _, carries.writeFrame _, carries.writeFrame _, carries.readFrame,
    carries.decodeResponse response, carries.readFrame, carries.decodeResponse response, rfl,
    ?_, ?_⟩
  · rw [wireHeader, UInt32.toNat_ofNat']
    exact Nat.mod_eq_of_lt (by omega)
  · simp [wireHeader, shrinks, and_assoc]

end Carried

/-- A `StringValue` of 110 equal letters, which zlib shrinks to 13 bytes. -/
def letters : Bytes := List.replicate 110 97

def lettersBody : Bytes := [0x0a, 0x6e] ++ letters

def loginHeader : RpcHeader where
  serviceName := text "UserService"
  methodName := text "Login"
  requestId := 12345
  compressed := true

def loginHeaderStr : Bytes :=
  [0x0a, 0x0b] ++ text "UserService" ++ [0x12, 0x05] ++ text "Login" ++
    [0x18, 0x0d, 0x20, 0xb9, 0x60, 0x38, 0x01]

def loginCodec : XrpcCodec where
  rpcHeader := .ofTable {} [({ loginHeader with argsSize := 13 }, loginHeaderStr)]
  zlib := .ofTable [(lettersBody, [120, 1, 227, 202, 75, 164, 43, 0, 0, 62, 66, 42, 39])]

theorem round_trip_compressed_login :
    loginCodec.Carries (.ofTable [] [(letters, lettersBody)]) loginHeader letters lettersBody
        loginHeaderStr ∧
      ∃ frame, loginCodec.encode (.ofTable [] [(letters, lettersBody)]) loginHeader letters =
          .ok frame ∧
        loginCodec.decode frame = ⟨true, { loginHeader with argsSize := 13 }, lettersBody⟩ := by
  have header : loginCodec.wireHeader loginHeader lettersBody =
      { loginHeader with argsSize := 13 } := by decide +kernel
  have carries : loginCodec.Carries (.ofTable [] [(letters, lettersBody)]) loginHeader letters
      lettersBody loginHeaderStr :=
    { messageTrips := MessageType.ofTable_single ..
      headerTrips := by
        rw [header]
        exact MessageType.ofTable_single ..
      inverts := fun _ => Zlib.ofTable_single ..
      fits := by decide +kernel }
  obtain ⟨frame, _, encoded, _, decoded, _⟩ := encode_decode_round_trip carries []
  exact ⟨carries, frame, encoded, header ▸ decoded⟩

/-- Nothing is read from data whose size is not representable as an `int`. -/
theorem readFrame_oversize {data : Bytes} (large : 2 ^ 31 ≤ data.length)
    (bounded : data.length < 2 ^ 32) : codec.readFrame data = ⟨false, {}, []⟩ := by
  have nothing : readVarint32 ([] : Bytes) = none := rfl
  simp [readFrame, arrayInput_of_large large bounded, nothing]

/-- A `BytesValue` whose length takes five varint bytes. -/
def longBody (value : Bytes) : Bytes := [0x0a, 0xf9, 0xff, 0xff, 0xff, 0x07] ++ value

def longType (value : Bytes) : MessageType Bytes := .ofTable [] [(value, longBody value)]

def longHeaderStr : Bytes := [0x18, 0xff, 0xff, 0xff, 0xff, 0x07]

def longCodec : XrpcCodec where
  rpcHeader := .ofTable {} [({ argsSize := 2147483647 }, longHeaderStr)]
  zlib := ⟨true, fun _ => ⟨[], .streamEnd⟩, true, fun _ => ⟨[], .dataError⟩⟩

theorem longBody_length {value : Bytes} (length : value.length = 2147483641) :
    (longBody value).length = 2147483647 := by
  simp [longBody, length]

private theorem long_frame_rejected {value : Bytes} (length : value.length = 2147483641) :
    (longType value).RoundTrips value (longBody value) ∧ (longBody value).length < 2 ^ 31 ∧
      longCodec.rpcHeader.RoundTrips (longCodec.wireHeader {} (longBody value)) longHeaderStr ∧
      ∃ frame, longCodec.encode (longType value) {} value = .ok frame ∧
        (longCodec.decode frame).accepted = false := by
  have bodyLength := longBody_length length
  have trips : (longType value).RoundTrips value (longBody value) :=
    MessageType.ofTable_single [] value (longBody value)
  have header : longCodec.wireHeader {} (longBody value) = { argsSize := 2147483647 } := by
    rw [longCodec.wireHeader_plain rfl, bodyLength]
    simp
  have headerTrips : longCodec.rpcHeader.RoundTrips (longCodec.wireHeader {} (longBody value))
      longHeaderStr := by
    rw [header]
    exact MessageType.ofTable_single _ _ longHeaderStr
  have headerLength : longHeaderStr.length = 6 := rfl
  have prefixLength : (writeVarint32 (UInt32.ofNat 6)).length = 1 := rfl
  have total : (frameBytes longHeaderStr (longBody value)).length = 2147483654 := by
    simp only [frameBytes, List.length_append, headerLength, bodyLength, prefixLength]
  have written := longCodec.writeFrame_eq trips.1 (longCodec.prepare_plain rfl (longBody value))
    headerTrips.1 (text "Failed to serialize args")
  rw [longCodec.wireBody_plain rfl] at written
  refine ⟨trips, by omega, headerTrips, _, written, ?_⟩
  rw [decode, longCodec.readFrame_oversize (by omega) (by omega)]

def longestValue : Bytes := List.replicate 2147483641 0

/-- Here the header and the payload each fit an `int`, but the frame does not,
and it is not read back. -/
theorem longest_frame_rejected :
    (longType longestValue).RoundTrips longestValue (longBody longestValue) ∧
      (longBody longestValue).length < 2 ^ 31 ∧
      longCodec.rpcHeader.RoundTrips (longCodec.wireHeader {} (longBody longestValue))
        longHeaderStr ∧
      ∃ frame, longCodec.encode (longType longestValue) {} longestValue = .ok frame ∧
        (longCodec.decode frame).accepted = false :=
  long_frame_rejected List.length_replicate

end XrpcCodec

/-- A `BytesValue` that holds the byte 7. -/
def pingType : MessageType Bytes := .ofTable [] [([7], [0x0a, 0x01, 7])]

def pingHeader : RpcHeader where
  serviceName := text "Ping"
  methodName := text "Do"
  requestId := 1

def pingHeaderStr : Bytes :=
  [0x0a, 0x04] ++ text "Ping" ++ [0x12, 0x02] ++ text "Do" ++ [0x18, 0x03, 0x20, 0x01]

def pingCodec : XrpcCodec where
  rpcHeader := .ofTable {} [({ pingHeader with argsSize := 3 }, pingHeaderStr)]
  zlib := .ofTable []

theorem pingCarries :
    pingCodec.Carries pingType pingHeader [7] [0x0a, 0x01, 7] pingHeaderStr where
  messageTrips := MessageType.ofTable_single ..
  headerTrips := MessageType.ofTable_single ..
  inverts := fun asked => absurd asked (by decide)
  fits := by decide +kernel

end Xrpc
