import Xrpc.Wire.RoundTrip

/-! Which frames a decoder accepts. -/

namespace Xrpc

open Support

namespace XrpcCodec
variable {codec : XrpcCodec} {Msg Body : Type}

/-- Whatever is cut off at its end, the header string read from a frame is its
own, and what is left is the body, as far as it was not cut off. -/
theorem readString_frameBytes {headerStr sent input rest buffer left : Bytes} {size : UInt32}
    (small : headerStr.length < 2 ^ 31)
    (cut : input <+: frameBytes headerStr sent)
    (sized : readVarint32 input = some (size, rest))
    (read : readString size rest = (true, buffer, left)) :
    buffer = headerStr ∧ ∃ missing, input ++ missing = frameBytes headerStr sent ∧
      left ++ missing = sent := by
  obtain ⟨used, split, again⟩ := readVarint32_consumes sized
  obtain ⟨missing, whole⟩ := cut
  have full : readVarint32 (frameBytes headerStr sent) = some (size, rest ++ missing) := by
    rw [← whole, split, List.append_assoc]
    exact again _
  rw [frameBytes, readVarint32_write] at full
  simp only [Option.some.injEq, Prod.mk.injEq] at full
  obtain ⟨rfl, remaining⟩ := full
  obtain ⟨consumed, more⟩ := readString_consumes read
  have longer := more (left ++ missing)
  rw [← List.append_assoc, ← consumed, ← remaining, readString_append small] at longer
  simp only [Prod.mk.injEq, true_and] at longer
  exact ⟨longer.1.symm, missing, whole, longer.2.symm⟩

/-- The parts that a decoder has taken off what it accepts, where that is a frame or
the beginning of one. -/
theorem parts_of_accepted {headerStr sent data : Bytes}
    (small : headerStr.length < 2 ^ 31)
    (cut : arrayInput data <+: frameBytes headerStr sent)
    (accepted : (codec.readFrame data).accepted = true) :
    ∃ missing left body rest,
      arrayInput data ++ missing = frameBytes headerStr sent ∧
      left ++ missing = sent ∧ (codec.rpcHeader.parseFromString headerStr).1 = true ∧
      readString (codec.rpcHeader.parseFromString headerStr).2.argsSize left = (true, body, rest) ∧
      (codec.readFrame data).header = (codec.rpcHeader.parseFromString headerStr).2 := by
  rw [readFrame] at accepted ⊢
  cases sized : readVarint32 (arrayInput data) with
  | none => simp [sized] at accepted
  | some result =>
    obtain ⟨size, rest⟩ := result
    cases read : readString size rest with
    | mk success result =>
      obtain ⟨buffer, left⟩ := result
      cases success with
      | false => simp [sized, read] at accepted
      | true =>
        obtain ⟨rfl, missing, whole, bodyLeft⟩ := readString_frameBytes small cut sized read
        cases parsed : codec.rpcHeader.parseFromString buffer with
        | mk success wire =>
          cases success with
          | false => simp [sized, read, parsed] at accepted
          | true =>
            cases bodyRead : readString wire.argsSize left with
            | mk success result =>
              obtain ⟨body, rest⟩ := result
              cases success with
              | false => simp [sized, read, parsed, bodyRead] at accepted
              | true =>
                refine ⟨missing, left, body, rest, whole, bodyLeft, rfl, bodyRead, ?_⟩
                simp only [read, parsed, bodyRead]
                split
                · split
                  · rfl
                  · rfl
                · rfl

/-- No beginning of a frame is accepted but the whole frame. -/
theorem whole_of_accepted {headerStr sent data : Bytes} (headerSmall : headerStr.length < 2 ^ 31)
    (sentSmall : sent.length < 2 ^ 31)
    (sized : (codec.rpcHeader.parseFromString headerStr).2.argsSize = UInt32.ofNat sent.length)
    (cut : arrayInput data <+: frameBytes headerStr sent)
    (accepted : (codec.readFrame data).accepted = true) :
    arrayInput data = frameBytes headerStr sent := by
  obtain ⟨missing, left, body, rest, whole, bodyLeft, _, read, _⟩ :=
    parts_of_accepted headerSmall cut accepted
  obtain ⟨consumed, more⟩ := readString_consumes read
  have longer := more (rest ++ missing)
  rw [← List.append_assoc, ← consumed, bodyLeft, sized] at longer
  have all := readString_append sentSmall []
  rw [List.append_nil, longer] at all
  have nothing : missing = [] := by
    simp only [Prod.mk.injEq, true_and, List.append_eq_nil_iff] at all
    exact all.2.2
  rwa [nothing, List.append_nil] at whole

/-- A frame that is accepted has been read to its end, so its size is an `int`. -/
theorem length_of_accepted {headerStr sent : Bytes} (headerSmall : headerStr.length < 2 ^ 31)
    (sentSmall : sent.length < 2 ^ 31)
    (sized : (codec.rpcHeader.parseFromString headerStr).2.argsSize = UInt32.ofNat sent.length)
    (accepted : (codec.readFrame (frameBytes headerStr sent)).accepted = true) :
    (frameBytes headerStr sent).length < 2 ^ 31 :=
  small_of_arrayInput (whole_of_accepted headerSmall sentSmall sized (prefix_of_arrayInput _) accepted)

section Delimiting
variable {type : MessageType Msg} {header : RpcHeader} {message : Msg} {body headerStr : Bytes}

/-- A frame tells where it ends: nothing shorter is decoded, and what comes after
it does not matter. -/
theorem frames_self_delimiting (carries : codec.Carries type header message body headerStr) :
    ∃ frame, codec.encode type header message = .ok frame ∧
      (codec.decode frame).accepted = true ∧
      (∀ data, data <+: frame → data ≠ frame → (codec.decode data).accepted = false) ∧
      ∀ rest, (frame ++ rest).length < 2 ^ 31 → codec.decode (frame ++ rest) = codec.decode frame := by
  have read : codec.decode (frameBytes headerStr (codec.wireBody header body)) = _ :=
    carries.readFrame
  refine ⟨_, carries.writeFrame _, by rw [read], ?_, ?_⟩
  · intro data cut shorter
    have small : data.length < 2 ^ 31 := cut.length_le.trans_lt carries.fits
    have fits := carries.fits
    simp only [frameBytes, List.length_append] at fits
    have sized : (codec.rpcHeader.parseFromString headerStr).2.argsSize =
        UInt32.ofNat (codec.wireBody header body).length := by
      rw [carries.headerTrips.2]
      rfl
    by_contra accepted
    have whole : arrayInput data = frameBytes headerStr (codec.wireBody header body) :=
      whole_of_accepted (by omega) (by omega) sized (by rwa [arrayInput_of_small small])
        (Bool.eq_true_of_not_eq_false accepted)
    rw [arrayInput_of_small small] at whole
    exact shorter whole
  · intro rest fits
    rw [read]
    exact carries.readFrame_append rest fits

/-- A ping is not decoded before its last byte, and is decoded when more follows. -/
theorem ping_self_delimiting : ∃ frame, pingCodec.encode pingType pingHeader [7] = .ok frame ∧
    (∀ count < frame.length, (pingCodec.decode (frame.take count)).accepted = false) ∧
    (pingCodec.decode (frame ++ [0x20, 0x0a])).accepted = true := by
  obtain ⟨frame, encoded, accepted, shorter, longer⟩ := frames_self_delimiting pingCarries
  refine ⟨frame, encoded, ?_, ?_⟩
  · intro count inside
    refine shorter _ (List.take_prefix count frame) ?_
    intro same
    have lengths := congrArg List.length same
    rw [List.length_take] at lengths
    omega
  · have written : pingCodec.encode pingType pingHeader [7] =
        .ok (frameBytes pingHeaderStr (pingCodec.wireBody pingHeader [0x0a, 0x01, 7])) :=
      pingCarries.writeFrame _
    have short : (frame ++ [0x20, 0x0a]).length < 2 ^ 31 := by
      rw [Except.ok.inj (encoded.symm.trans written)]
      decide +kernel
    rw [longer _ short]
    exact accepted

end Delimiting

end XrpcCodec

/-- What protobuf and zlib promise: a string that is not UTF-8 is serialized but
not parsed, all else is read back, and nothing serialized has 2 GiB. -/
structure XrpcCodec.Proto3 (codec : XrpcCodec) : Prop where
  strict : ∀ bytes, (codec.rpcHeader.parseFromString bytes).1 = true →
    (codec.rpcHeader.parseFromString bytes).2.Utf8
  reads : ∀ header bytes, codec.rpcHeader.serializeToString header = some bytes → header.Utf8 →
    codec.rpcHeader.parseFromString bytes = (true, header)
  sound : codec.rpcHeader.Sound
  bounded : codec.rpcHeader.Bounded
  lossless : ∀ data packed, codec.zlib.compress data = .ok packed →
    codec.zlib.decompress packed = .ok data

namespace XrpcCodec
variable {codec : XrpcCodec} {Msg Body : Type} {type : MessageType Body} {other : MessageType Msg}
  {header wire : RpcHeader} {message : Body} {body sent headerStr bytes : Bytes}

/-- `DecodeResponse` accepts a frame of `EncodeResponse` just when these hold. -/
theorem decodeResponse_accepted_iff (proto3 : codec.Proto3) (bounded : type.Bounded)
    (serialized : type.serializeToString message = some body)
    (encoded : codec.encodeResponse type header message = .ok bytes) (response : Msg) :
    (codec.decodeResponse other bytes response).accepted = true ↔
      header.Utf8 ∧ (other.parseFromString body).1 = true ∧ bytes.length < 2 ^ 31 := by
  obtain ⟨found, wire, sent, headerStr, again, prepared, headerSerialized, rfl⟩ :=
    codec.writeFrame_ok encoded
  obtain rfl : body = found := Option.some.inj (serialized.symm.trans again)
  obtain ⟨kept, packed⟩ := codec.prepare_wire prepared
  have sameStrings : wire.Utf8 ↔ header.Utf8 := by
    rw [kept]
    constructor
    · rintro ⟨service, method, metadata, error⟩
      exact ⟨service, method, metadata, error⟩
    · rintro ⟨service, method, metadata, error⟩
      exact ⟨service, method, metadata, error⟩
  have headerSmall := proto3.bounded wire headerStr headerSerialized
  have bodySmall := bounded message body serialized
  have sentSmall : sent.length < 2 ^ 31 := by
    split at packed
    · exact packed.2.trans bodySmall
    · exact packed ▸ bodySmall
  have unpacked : if wire.compressed then codec.zlib.decompress sent = .ok body else body = sent := by
    split at packed
    · rename_i compressed
      rw [if_pos compressed]
      exact proto3.lossless body sent packed.1
    · rename_i plain
      rw [if_neg plain]
      exact packed.symm
  have sized : wire.argsSize = UInt32.ofNat sent.length := by rw [kept]
  have read (legible : wire.Utf8) (fits : (frameBytes headerStr sent).length < 2 ^ 31) :
      codec.readFrame (frameBytes headerStr sent) = ⟨true, wire, body⟩ := by
    have parsed := proto3.reads wire headerStr headerSerialized legible
    have whole := codec.readFrame_frameBytes parsed sized unpacked [] (by simpa using fits)
    rwa [List.append_nil] at whole
  constructor
  · intro accepted
    have frameAccepted : (codec.readFrame (frameBytes headerStr sent)).accepted = true := by
      by_contra refused
      simp [decodeResponse, refused] at accepted
    obtain ⟨_, _, _, _, _, _, parsed, _⟩ :=
      parts_of_accepted headerSmall (prefix_of_arrayInput _) frameAccepted
    have same := proto3.sound wire headerStr headerSerialized parsed
    have legible : wire.Utf8 := same ▸ proto3.strict headerStr parsed
    have fits := length_of_accepted headerSmall sentSmall (same ▸ sized) frameAccepted
    refine ⟨sameStrings.mp legible, ?_, fits⟩
    simpa [decodeResponse, read legible fits] using accepted
  · rintro ⟨legible, parses, fits⟩
    simpa [decodeResponse, read (sameStrings.mpr legible) fits] using parses

/-- What a decoder accepts has the header that was encoded. -/
theorem header_of_accepted (proto3 : codec.Proto3)
    (encoded : codec.encodeResponse type header message = .ok bytes) {response : Msg}
    (accepted : (codec.decodeResponse other bytes response).accepted = true) :
    ∃ argsSize compressed, (codec.decodeResponse other bytes response).header =
      { header with argsSize, compressed } := by
  obtain ⟨_, wire, sent, headerStr, _, prepared, headerSerialized, rfl⟩ :=
    codec.writeFrame_ok encoded
  obtain ⟨kept, _⟩ := codec.prepare_wire prepared
  have headerSmall := proto3.bounded wire headerStr headerSerialized
  have frameAccepted : (codec.readFrame (frameBytes headerStr sent)).accepted = true := by
    by_contra refused
    simp [decodeResponse, refused] at accepted
  obtain ⟨_, _, _, _, _, _, parsed, _, read⟩ :=
    parts_of_accepted headerSmall (prefix_of_arrayInput _) frameAccepted
  have same := proto3.sound wire headerStr headerSerialized parsed
  refine ⟨_, _, Eq.trans ?_ kept⟩
  rw [← same, ← read, decodeResponse, if_pos frameAccepted]

end XrpcCodec

end Xrpc
