import Xrpc.Support.Text
import Mathlib.Algebra.Group.Nat.Defs
import Mathlib.Data.List.Nodup

/-! The RPC header, and protobuf and zlib as parameters: the generated parsers
and the two compression calls are not part of the sources. -/

namespace Xrpc

open Support

/-- One protobuf message type. `parseFromString` returns its success flag with
the message it leaves behind, which on failure keeps the fields read so far. -/
structure MessageType (Msg : Type) where
  create : Msg
  serializeToString : Msg → Option Bytes
  parseFromString : Bytes → Bool × Msg

namespace MessageType
variable {Msg : Type}

/-- `bytes` is the serialization of `message` and parses back to it. -/
def RoundTrips (type : MessageType Msg) (message : Msg) (bytes : Bytes) : Prop :=
  type.serializeToString message = some bytes ∧ type.parseFromString bytes = (true, message)

/-- A parser may reject what was serialized, as it does for a string field that
is not UTF-8, but never misreads it. -/
def Sound (type : MessageType Msg) : Prop :=
  ∀ message bytes, type.serializeToString message = some bytes →
    (type.parseFromString bytes).1 = true → (type.parseFromString bytes).2 = message

/-- A message of 2 GiB or more is not serialized. -/
def Bounded (type : MessageType Msg) : Prop :=
  ∀ message bytes, type.serializeToString message = some bytes → bytes.length < 2 ^ 31

/-- The same type with a parser that rejects what is not valid. -/
def checked (type : MessageType Msg) (valid : Msg → Prop) [DecidablePred valid] :
    MessageType Msg :=
  { type with
    parseFromString := fun bytes =>
      ((type.parseFromString bytes).1 && decide (valid (type.parseFromString bytes).2),
        (type.parseFromString bytes).2) }

variable [DecidableEq Msg]

/-- A message type known at finitely many values, given with their wire bytes. -/
def ofTable (create : Msg) (rows : List (Msg × Bytes)) : MessageType Msg where
  create := create
  serializeToString message := (rows.find? (·.1 = message)).map Prod.snd
  parseFromString bytes :=
    match rows.find? (·.2 = bytes) with
    | some row => (true, row.1)
    | none => (false, create)

/-- What was serialized is read back. -/
theorem ofTable_reads {create message : Msg} {rows : List (Msg × Bytes)} {bytes : Bytes}
    (distinct : (rows.map Prod.snd).Nodup)
    (serialized : (ofTable create rows).serializeToString message = some bytes) :
    (ofTable create rows).parseFromString bytes = (true, message) := by
  obtain ⟨row, found, same⟩ := Option.map_eq_some_iff.mp serialized
  have member := List.mem_of_find?_eq_some found
  have named : row.1 = message := by simpa using List.find?_some found
  cases back : rows.find? (·.2 = bytes) with
  | none => exact absurd same (by simpa using List.find?_eq_none.mp back row member)
  | some other =>
    have present := List.mem_of_find?_eq_some back
    have equal : other.2 = bytes := by simpa using List.find?_some back
    have unique := List.inj_on_of_nodup_map distinct present member (equal.trans same.symm)
    simp [ofTable, back, unique, named]

theorem ofTable_sound {create : Msg} {rows : List (Msg × Bytes)}
    (distinct : (rows.map Prod.snd).Nodup) : (ofTable create rows).Sound := by
  intro message bytes serialized parsed
  rw [ofTable_reads distinct serialized]

theorem ofTable_bounded {create : Msg} {rows : List (Msg × Bytes)}
    (small : ∀ row ∈ rows, row.2.length < 2 ^ 31) : (ofTable create rows).Bounded := by
  intro message bytes serialized
  obtain ⟨row, found, same⟩ := Option.map_eq_some_iff.mp serialized
  exact same ▸ small row (List.mem_of_find?_eq_some found)

theorem ofTable_single (create message : Msg) (bytes : Bytes) :
    (ofTable create [(message, bytes)]).RoundTrips message bytes := by
  simp [RoundTrips, ofTable]

end MessageType

structure RpcError where
  code : Int32 := 0
  message : Bytes := []
  deriving DecidableEq

/-- `RpcHeader` of `xrpc.proto`. The map field is the list of its entries. -/
structure RpcHeader where
  serviceName : Bytes := []
  methodName : Bytes := []
  argsSize : UInt32 := 0
  requestId : UInt64 := 0
  status : Int32 := 0
  metadata : List (Bytes × Bytes) := []
  compressed : Bool := false
  error : Option RpcError := none
  cancelled : Bool := false
  deriving DecidableEq

/-- All strings of the header are UTF-8. -/
structure RpcHeader.Utf8 (header : RpcHeader) : Prop where
  serviceName : Support.Utf8 header.serviceName
  methodName : Support.Utf8 header.methodName
  metadata : ∀ entry ∈ header.metadata, Support.Utf8 entry.1 ∧ Support.Utf8 entry.2
  error : ∀ error ∈ header.error, Support.Utf8 error.message

instance : DecidablePred RpcHeader.Utf8 := fun header =>
  decidable_of_iff (Support.Utf8 header.serviceName ∧ Support.Utf8 header.methodName ∧
      (∀ entry ∈ header.metadata, Support.Utf8 entry.1 ∧ Support.Utf8 entry.2) ∧
      ∀ error ∈ header.error, Support.Utf8 error.message)
    ⟨fun ⟨service, method, metadata, error⟩ => ⟨service, method, metadata, error⟩,
      fun ⟨service, method, metadata, error⟩ => ⟨service, method, metadata, error⟩⟩

/-- The return codes of the zlib calls. -/
inductive ZCode where
  | ok | streamEnd | needDict | errno | streamError | dataError | memError | bufError | versionError
  deriving DecidableEq, Repr

/-- A `z_stream` that was given its whole input: the output it has still to
hand over, and the code of the calls made once that is exhausted. -/
structure ZStream where
  pending : Bytes
  last : ZCode

/-- One `deflate` or `inflate` call with `availOut` bytes of room. -/
def ZStream.call (stream : ZStream) (availOut : Nat) : ZCode × Bytes × ZStream :=
  if availOut < stream.pending.length then
    (.ok, stream.pending.take availOut, { stream with pending := stream.pending.drop availOut })
  else (stream.last, stream.pending, { stream with pending := [] })

/-- The zlib calls of the codec: whether each `Init` answers `Z_OK`, and the
stream that each makes of an input. -/
structure Zlib where
  deflateInit : Bool
  deflate : Bytes → ZStream
  inflateInit : Bool
  inflate : Bytes → ZStream

/-- Deflating `data` works, and inflating the result gives `data` back. -/
structure Zlib.Inverts (zlib : Zlib) (data : Bytes) : Prop where
  deflateInit : zlib.deflateInit = true
  inflateInit : zlib.inflateInit = true
  deflated : (zlib.deflate data).last = .streamEnd
  inflated : zlib.inflate (zlib.deflate data).pending = ⟨data, .streamEnd⟩

/-- A zlib known at finitely many inputs, given with their compressed forms. -/
def Zlib.ofTable (rows : List (Bytes × Bytes)) : Zlib where
  deflateInit := true
  deflate data := ⟨((rows.find? (·.1 = data)).map Prod.snd).getD [], .streamEnd⟩
  inflateInit := true
  inflate data :=
    match rows.find? (·.2 = data) with
    | some row => ⟨row.1, .streamEnd⟩
    | none => ⟨[], .dataError⟩

/-- A zlib that stores its input as it is. -/
def Zlib.stored : Zlib where
  deflateInit := true
  deflate data := ⟨data, .streamEnd⟩
  inflateInit := true
  inflate data := ⟨data, .streamEnd⟩

theorem Zlib.ofTable_single (data compressed : Bytes) :
    (Zlib.ofTable [(data, compressed)]).Inverts data := by
  constructor <;> simp [Zlib.ofTable]

end Xrpc
