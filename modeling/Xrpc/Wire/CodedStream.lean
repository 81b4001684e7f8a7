import Xrpc.Support.Varint
import Mathlib.Tactic.NormNum

/-! The protobuf coded streams used by the codec. Their sizes are C++ `int`s, so
a `size_t` is narrowed on the way in. -/

namespace Xrpc

open Support

/-- The conversion of a size to `int`. -/
def intOfSize (size : Nat) : Int := (UInt32.ofNat size).toInt32.toInt

/-- What an `ArrayInputStream` over `data` has to offer: a narrowed size that
is negative leaves nothing to read. -/
def arrayInput (data : Bytes) : Bytes := data.take (intOfSize data.length).toNat

def writeVarint32 (value : UInt32) : Bytes := Varint.write 5 value.toNat

/-- `ReadVarint32` accepts up to ten bytes and drops the upper bits. -/
def readVarint32 (input : Bytes) : Option (UInt32 × Bytes) :=
  (Varint.read 10 input).map fun (value, rest) => (UInt32.ofNat value, rest)

/-- `ReadString(&buffer, size)`: the result, the buffer and the input left. A
short input ends up in the buffer. -/
def readString (size : UInt32) (input : Bytes) : Bool × Bytes × Bytes :=
  let size := size.toInt32.toInt
  if size < 0 then (false, [], input)
  else if size.toNat ≤ input.length then
    (true, input.take size.toNat, input.drop size.toNat)
  else (false, input, [])

theorem intOfSize_of_small {size : Nat} (small : size < 2 ^ 31) : intOfSize size = size := by
  have narrow : (UInt32.ofNat size).toNat = size := by
    rw [UInt32.toNat_ofNat']
    exact Nat.mod_eq_of_lt (by omega)
  rw [intOfSize, ← Int32.toInt_toBitVec, UInt32.toBitVec_toInt32]
  rw [BitVec.toInt_eq_toNat_of_lt]
  · simp [narrow]
  · simp only [UInt32.toNat_toBitVec, narrow]
    omega

theorem arrayInput_of_small {data : Bytes} (small : data.length < 2 ^ 31) :
    arrayInput data = data := by
  simp [arrayInput, intOfSize_of_small small]

/-- From 2 GiB on the narrowed size is negative. -/
theorem arrayInput_of_large {data : Bytes} (large : 2 ^ 31 ≤ data.length)
    (bounded : data.length < 2 ^ 32) : arrayInput data = [] := by
  have narrow : (UInt32.ofNat data.length).toNat = data.length := by
    rw [UInt32.toNat_ofNat']
    exact Nat.mod_eq_of_lt bounded
  have negative : intOfSize data.length ≤ 0 := by
    rw [intOfSize, ← Int32.toInt_toBitVec, UInt32.toBitVec_toInt32, BitVec.toInt_eq_toNat_cond]
    simp only [UInt32.toNat_toBitVec, narrow]
    split <;> omega
  simp [arrayInput, Int.toNat_of_nonpos negative]

/-- Only from data whose size is an `int` is all of it read. -/
theorem small_of_arrayInput {data : Bytes} (whole : arrayInput data = data) :
    data.length < 2 ^ 31 := by
  have bound : intOfSize data.length < 2 ^ 31 := Int32.toInt_lt _
  have enough := congrArg List.length whole
  rw [arrayInput, List.length_take] at enough
  omega

theorem prefix_of_arrayInput (data : Bytes) : arrayInput data <+: data := List.take_prefix _ _

theorem readVarint32_write (value : UInt32) (rest : Bytes) :
    readVarint32 (writeVarint32 value ++ rest) = some (value, rest) := by
  have fits : value.toNat < 128 ^ (4 + 1) := by
    have bound := value.toNat_lt
    norm_num
    omega
  simp [readVarint32, writeVarint32, Varint.read_write fits 5 rest]

theorem readVarint32_consumes {input rest : Bytes} {value : UInt32}
    (success : readVarint32 input = some (value, rest)) :
    ∃ used, input = used ++ rest ∧
      ∀ other, readVarint32 (used ++ other) = some (value, other) := by
  obtain ⟨⟨number, left⟩, read, same⟩ := Option.map_eq_some_iff.mp success
  cases same
  obtain ⟨used, _, split, again⟩ := Varint.read_consumes read
  exact ⟨used, split, fun other => by simp [readVarint32, again]⟩

/-- A size that fits an `int` is read back whole, with what follows left over. -/
theorem readString_append {front : Bytes} (small : front.length < 2 ^ 31) (rest : Bytes) :
    readString (UInt32.ofNat front.length) (front ++ rest) = (true, front, rest) := by
  have size : (UInt32.ofNat front.length).toInt32.toInt = front.length := intOfSize_of_small small
  simp only [readString, size]
  simp

/-- A successful read takes a prefix off, whatever follows it. -/
theorem readString_consumes {size : UInt32} {input buffer rest : Bytes}
    (success : readString size input = (true, buffer, rest)) :
    input = buffer ++ rest ∧ ∀ other, readString size (buffer ++ other) = (true, buffer, other) := by
  unfold readString at success
  dsimp only at success
  split at success
  · simp at success
  · rename_i natural
    split at success
    · rename_i enough
      simp only [Prod.mk.injEq, true_and] at success
      obtain ⟨same, same'⟩ := success
      have length : buffer.length = size.toInt32.toInt.toNat := by
        rw [← same, List.length_take]
        omega
      refine ⟨by rw [← same, ← same', List.take_append_drop], fun other => ?_⟩
      simp [readString, natural, ← length]
    · simp at success

end Xrpc
