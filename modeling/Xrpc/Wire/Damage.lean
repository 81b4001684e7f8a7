import Xrpc.Wire.RoundTrip

/-! What the decoders make of a compressed payload that is damaged. -/

namespace Xrpc

open Support

/-- The payload begins with a complete zlib stream, where `Stream stream plain` says
that `stream` is one, and `plain` what it holds. -/
def Whole (Stream : Bytes → Bytes → Prop) (payload plain : Bytes) : Prop :=
  ∃ stream rest, payload = stream ++ rest ∧ Stream stream plain

/-- The documented answers of zlib: the end of the stream is reported just for these. -/
structure Zlib.Reports (zlib : Zlib) (Stream : Bytes → Bytes → Prop) : Prop where
  complete : ∀ payload plain, Whole Stream payload plain →
    zlib.inflate payload = ⟨plain, .streamEnd⟩
  ended : ∀ payload, (zlib.inflate payload).last = .streamEnd →
    Whole Stream payload (zlib.inflate payload).pending

/-- `Decompress` looks at one return code only. -/
theorem Zlib.decompress_eq_ok_iff {zlib : Zlib} {payload plain : Bytes} :
    zlib.decompress payload = .ok plain ↔
      zlib.inflateInit = true ∧ (zlib.inflate payload).last ≠ .streamError ∧
        plain = (zlib.inflate payload).pending := by
  cases started : zlib.inflateInit with
  | false => simp [decompress, started]
  | true =>
    by_cases broken : (zlib.inflate payload).last = .streamError
    · simp [decompress, started, ZStream.drain_eq_ite, broken]
    · simp [decompress, started, ZStream.drain_eq_ite, broken, eq_comm]

namespace XrpcCodec
variable {Msg : Type} (codec : XrpcCodec)

/-- The header of a frame and the `args_size` bytes that follow it. -/
def readParts (data : Bytes) : Option (RpcHeader × Bytes) :=
  match readVarint32 (arrayInput data) with
  | none => none
  | some (headerSize, input) =>
    match readString headerSize input with
    | (false, _, _) => none
    | (true, headerStr, input) =>
      match codec.rpcHeader.parseFromString headerStr with
      | (false, _) => none
      | (true, header) =>
        match readString header.argsSize input with
        | (false, _, _) => none
        | (true, payload, _) => some (header, payload)

/-- The data hold a compressed frame with a complete stream of `plain`. -/
def Holds (Stream : Bytes → Bytes → Prop) (data : Bytes) (header : RpcHeader) (plain : Bytes) :
    Prop :=
  ∃ payload, codec.readParts data = some (header, payload) ∧ Whole Stream payload plain

/-- What `Decode` returns as decompressed is all of what was compressed. -/
def Intact (Stream : Bytes → Bytes → Prop) (data : Bytes) : Prop :=
  (codec.decode data).accepted = true → (codec.decode data).header.compressed = true →
    codec.Holds Stream data (codec.decode data).header (codec.decode data).body

/-- The same of what `DecodeResponse` parses. -/
def IntactResponse (Stream : Bytes → Bytes → Prop) (type : MessageType Msg) (response : Msg)
    (data : Bytes) : Prop :=
  (codec.decodeResponse type data response).accepted = true →
    (codec.decodeResponse type data response).header.compressed = true →
    ∃ plain, codec.Holds Stream data (codec.decodeResponse type data response).header plain ∧
      type.parseFromString plain = (true, (codec.decodeResponse type data response).body)

/-- A compressed payload is whole, unless zlib does not even try it or what it
yields is turned down. -/
def Sturdy (Stream : Bytes → Bytes → Prop) (refused : Bytes → Prop) (data : Bytes) : Prop :=
  ∀ header payload, codec.readParts data = some (header, payload) → header.compressed = true →
    (∃ plain, Whole Stream payload plain) ∨ codec.zlib.inflateInit = false ∨
      (codec.zlib.inflate payload).last = .streamError ∨
      refused (codec.zlib.inflate payload).pending

section Damage
variable {codec} {Stream : Bytes → Bytes → Prop} {data payload plain : Bytes} {header : RpcHeader}

/-- A frame that is cut short is rejected, and otherwise the payload decides. -/
theorem readFrame_cases (codec : XrpcCodec) (data : Bytes) :
    (codec.readParts data = none ∧ (codec.readFrame data).accepted = false) ∨
      ∃ header payload, codec.readParts data = some (header, payload) ∧ codec.readFrame data =
        if header.compressed then
          match codec.zlib.decompress payload with
          | .ok plain => ⟨true, header, plain⟩
          | .error _ => ⟨false, header, payload⟩
        else ⟨true, header, payload⟩ := by
  cases sized : readVarint32 (arrayInput data) with
  | none => simp [readParts, readFrame, sized]
  | some result =>
    obtain ⟨size, rest⟩ := result
    cases read : readString size rest with
    | mk success result =>
      obtain ⟨headerStr, left⟩ := result
      cases success with
      | false => simp [readParts, readFrame, sized, read]
      | true =>
        cases parsed : codec.rpcHeader.parseFromString headerStr with
        | mk success header =>
          cases success with
          | false => simp [readParts, readFrame, sized, read, parsed]
          | true =>
            cases payloadRead : readString header.argsSize left with
            | mk success result =>
              obtain ⟨payload, rest⟩ := result
              cases success with
              | false => simp [readParts, readFrame, sized, read, parsed, payloadRead]
              | true =>
                refine .inr ⟨header, payload, ?_, ?_⟩
                · simp [readParts, sized, read, parsed, payloadRead]
                · cases unpacked : codec.zlib.decompress payload with
                  | ok plain => simp [readFrame, sized, read, parsed, payloadRead, unpacked]
                  | error what => simp [readFrame, sized, read, parsed, payloadRead, unpacked]

/-- Everything but what zlib calls a stream error is taken for a success. -/
theorem readFrame_compressed (parts : codec.readParts data = some (header, payload))
    (compressed : header.compressed = true) :
    (codec.readFrame data = ⟨true, header, (codec.zlib.inflate payload).pending⟩ ∧
        codec.zlib.inflateInit = true ∧ (codec.zlib.inflate payload).last ≠ .streamError) ∨
      ((codec.readFrame data).accepted = false ∧
        (codec.zlib.inflateInit = false ∨ (codec.zlib.inflate payload).last = .streamError)) := by
  rcases codec.readFrame_cases data with ⟨nothing, -⟩ | ⟨_, _, again, read⟩
  · exact nomatch nothing.symm.trans parts
  obtain ⟨rfl, rfl⟩ := Prod.mk.inj (Option.some.inj (parts.symm.trans again))
  rw [if_pos compressed] at read
  rw [read]
  cases unpacked : codec.zlib.decompress payload with
  | ok plain =>
    obtain ⟨started, sane, rfl⟩ := Zlib.decompress_eq_ok_iff.mp unpacked
    exact .inl ⟨rfl, started, sane⟩
  | error failure =>
    refine .inr ⟨rfl, ?_⟩
    by_contra working
    rw [not_or, Bool.not_eq_false] at working
    have succeeded := Zlib.decompress_eq_ok_iff.mpr ⟨working.1, working.2, rfl⟩
    exact nomatch unpacked.symm.trans succeeded

/-- A frame that is accepted as compressed has its payload decompressed, however that ended. -/
theorem parts_of_compressed (accepted : (codec.readFrame data).accepted = true)
    (compressed : (codec.readFrame data).header.compressed = true) :
    ∃ payload, codec.readParts data = some ((codec.readFrame data).header, payload) ∧
      (codec.readFrame data).body = (codec.zlib.inflate payload).pending ∧
      codec.zlib.inflateInit = true ∧ (codec.zlib.inflate payload).last ≠ .streamError := by
  rcases codec.readFrame_cases data with ⟨-, rejected⟩ | ⟨header, payload, parts, read⟩
  · exact nomatch rejected.symm.trans accepted
  have asked : header.compressed = true := by
    by_contra plain
    rw [read, if_neg plain] at compressed
    exact plain compressed
  rcases readFrame_compressed parts asked with ⟨same, started, sane⟩ | ⟨rejected, -⟩
  · rw [same]
    exact ⟨payload, parts, rfl, started, sane⟩
  · exact nomatch rejected.symm.trans accepted

theorem holds_iff (reports : codec.zlib.Reports Stream)
    (parts : codec.readParts data = some (header, payload)) :
    codec.Holds Stream data header (codec.zlib.inflate payload).pending ↔
      ∃ plain, Whole Stream payload plain := by
  constructor
  · rintro ⟨found, again, whole⟩
    obtain ⟨-, rfl⟩ := Prod.mk.inj (Option.some.inj (parts.symm.trans again))
    exact ⟨_, whole⟩
  · rintro ⟨plain, whole⟩
    refine ⟨payload, parts, ?_⟩
    rwa [reports.complete payload plain whole]

theorem intact_iff_sturdy (reports : codec.zlib.Reports Stream) :
    codec.Intact Stream data ↔ codec.Sturdy Stream (fun _ => False) data := by
  constructor
  · intro intact header payload parts compressed
    rcases readFrame_compressed parts compressed with ⟨read, -, -⟩ | ⟨-, broken⟩
    · have decoded : codec.decode data = _ := read
      rw [Intact, decoded] at intact
      exact .inl ((holds_iff reports parts).mp (intact rfl compressed))
    · exact .inr (broken.imp_right .inl)
  · intro sturdy accepted compressed
    obtain ⟨payload, parts, body, started, sane⟩ := parts_of_compressed accepted compressed
    have decoded : (codec.decode data).body = _ := body
    rw [decoded]
    refine (holds_iff reports parts).mpr ?_
    rcases sturdy _ _ parts compressed with whole | unstarted | broken | never
    · exact whole
    · exact nomatch started.symm.trans unstarted
    · exact absurd broken sane
    · exact never.elim

variable {type : MessageType Msg} {response : Msg}

theorem intactResponse_iff_sturdy (reports : codec.zlib.Reports Stream) :
    codec.IntactResponse Stream type response data ↔
      codec.Sturdy Stream (fun plain => (type.parseFromString plain).1 = false) data := by
  constructor
  · intro intact header payload parts compressed
    rcases readFrame_compressed parts compressed with ⟨read, -, -⟩ | ⟨-, broken⟩
    · cases parsed : (type.parseFromString (codec.zlib.inflate payload).pending).1 with
      | false => exact .inr (.inr (.inr parsed))
      | true =>
        rw [IntactResponse, decodeResponse, read] at intact
        obtain ⟨plain, ⟨found, again, whole⟩, -⟩ := intact parsed compressed
        obtain ⟨-, rfl⟩ := Prod.mk.inj (Option.some.inj (parts.symm.trans again))
        exact .inl ⟨plain, whole⟩
    · exact .inr (broken.imp_right .inl)
  · intro sturdy accepted compressed
    rw [decodeResponse] at accepted compressed ⊢
    cases read : (codec.readFrame data).accepted with
    | false => simp [read] at accepted
    | true =>
      simp only [read, if_true] at accepted compressed ⊢
      obtain ⟨payload, parts, body, started, sane⟩ := parts_of_compressed read compressed
      rw [body] at accepted ⊢
      refine ⟨_, (holds_iff reports parts).mpr ?_, Prod.ext accepted rfl⟩
      rcases sturdy _ _ parts compressed with whole | unstarted | broken | refused
      · exact whole
      · cases started.symm.trans unstarted
      · exact absurd broken sane
      · cases refused.symm.trans accepted

/-- The decoders return nothing damaged if and only if they are given nothing damaged,
but for what the parser of the response turns down. -/
theorem damage_rejected_iff (reports : codec.zlib.Reports Stream) (data : Bytes) :
    (codec.Intact Stream data ↔ codec.Sturdy Stream (fun _ => False) data) ∧
      ∀ (Response : Type) (type : MessageType Response) (response : Response),
        codec.IntactResponse Stream type response data ↔
          codec.Sturdy Stream (fun plain => (type.parseFromString plain).1 = false) data :=
  ⟨intact_iff_sturdy reports, fun _ _ _ => intactResponse_iff_sturdy reports⟩

end Damage

end XrpcCodec

section Letters

open XrpcCodec (loginHeader lettersBody)

/-- `lettersBody` as zlib compresses it. -/
def packedLetters : Bytes := [120, 1, 227, 202, 75, 164, 43, 0, 0, 62, 66, 42, 39]

def IsPackedLetters (stream plain : Bytes) : Prop := stream = packedLetters ∧ plain = lettersBody

/-- A zlib that knows these letters: they come out before the checksum, which is
the last four bytes. -/
def lettersZlib : Zlib where
  deflateInit := true
  deflate data := ⟨if data = lettersBody then packedLetters else [], .streamEnd⟩
  inflateInit := true
  inflate payload :=
    if packedLetters <+: payload then ⟨lettersBody, .streamEnd⟩
    else if payload <+: packedLetters then
      ⟨lettersBody.take (if payload.length ≤ 7 then min (payload.length - 3) 3 else 112), .ok⟩
    else ⟨[], .dataError⟩

/-- The login header, of a payload of fewer than 128 bytes. -/
def packedHeaderStr (argsSize : UInt8) : Bytes :=
  [0x0a, 0x0b] ++ text "UserService" ++ [0x12, 0x05] ++ text "Login" ++
    [0x18, argsSize, 0x20, 0xb9, 0x60, 0x38, 0x01]

def lettersCodec : XrpcCodec where
  rpcHeader := .ofTable {} [({ loginHeader with argsSize := 13 }, packedHeaderStr 13),
    ({ loginHeader with argsSize := 9 }, packedHeaderStr 9)]
  zlib := lettersZlib

theorem lettersZlib_reports : lettersZlib.Reports IsPackedLetters := by
  constructor
  · rintro payload plain ⟨stream, rest, rfl, rfl, rfl⟩
    simp [lettersZlib]
  · intro payload ended
    by_cases whole : packedLetters <+: payload
    · obtain ⟨rest, same⟩ := whole
      subst payload
      exact ⟨packedLetters, rest, rfl, rfl, by simp [lettersZlib]⟩
    · simp only [lettersZlib, whole, if_false] at ended
      split at ended
      · cases ended
      · cases ended

/-- The whole stream, with a byte after it. -/
theorem whole_letters_intact :
    lettersCodec.Intact IsPackedLetters
        (XrpcCodec.frameBytes (packedHeaderStr 13) packedLetters ++ [0]) ∧
      (lettersCodec.decode (XrpcCodec.frameBytes (packedHeaderStr 13) packedLetters ++ [0])).body =
        lettersBody := by
  have parts : lettersCodec.readParts
      (XrpcCodec.frameBytes (packedHeaderStr 13) packedLetters ++ [0]) =
        some ({ loginHeader with argsSize := 13 }, packedLetters) := by decide +kernel
  refine ⟨(XrpcCodec.damage_rejected_iff lettersZlib_reports _).1.mpr ?_, by decide +kernel⟩
  intro header payload found _
  obtain ⟨-, rfl⟩ := Prod.mk.inj (Option.some.inj (parts.symm.trans found))
  exact .inl ⟨lettersBody, packedLetters, [], (List.append_nil _).symm, rfl, rfl⟩

/-- Without its checksum the stream is incomplete, and is accepted all the same. -/
theorem cut_letters_accepted :
    ¬ lettersCodec.Intact IsPackedLetters
      (XrpcCodec.frameBytes (packedHeaderStr 9) (packedLetters.take 9)) := by
  intro intact
  have parts : lettersCodec.readParts
      (XrpcCodec.frameBytes (packedHeaderStr 9) (packedLetters.take 9)) =
        some ({ loginHeader with argsSize := 9 }, packedLetters.take 9) := by decide +kernel
  obtain ⟨payload, found, stream, rest, split, whole, -⟩ :=
    intact (by decide +kernel) (by decide +kernel)
  obtain ⟨-, same⟩ := Prod.mk.inj (Option.some.inj (parts.symm.trans found))
  have lengths := congrArg List.length (same.trans split)
  subst whole
  rw [List.length_append] at lengths
  have nine : (packedLetters.take 9).length = 9 := rfl
  have thirteen : packedLetters.length = 13 := rfl
  omega

end Letters

end Xrpc
