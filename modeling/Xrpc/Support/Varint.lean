import Xrpc.Support.Text
import Mathlib.Algebra.Group.Nat.Defs

/-! Base-128 varints: seven bits a byte, least significant group first, with the
top bit set on every byte but the last. -/

namespace Xrpc.Support.Varint

/-- Write in at most `room` bytes. -/
def write : Nat → Nat → Bytes
  | 0, _ => []
  | room + 1, value =>
    if value < 128 then [UInt8.ofNat value]
    else UInt8.ofNat (value % 128 + 128) :: write room (value / 128)

/-- Read at most `room` bytes; `none` when they, or the input, end first. -/
def read : Nat → Bytes → Option (Nat × Bytes)
  | 0, _ => none
  | _ + 1, [] => none
  | room + 1, byte :: rest =>
    if byte.toNat < 128 then some (byte.toNat, rest)
    else (read room rest).map fun (high, left) => (byte.toNat - 128 + 128 * high, left)

theorem write_ne_nil (room value : Nat) : write (room + 1) value ≠ [] := by
  rw [write]
  split
  · exact List.cons_ne_nil _ _
  · exact List.cons_ne_nil _ _

theorem toNat_last {value : Nat} (small : value < 128) : (UInt8.ofNat value).toNat = value := by
  rw [UInt8.toNat_ofNat']
  exact Nat.mod_eq_of_lt (by omega)

theorem toNat_more (value : Nat) :
    (UInt8.ofNat (value % 128 + 128)).toNat = value % 128 + 128 := by
  rw [UInt8.toNat_ofNat']
  exact Nat.mod_eq_of_lt (by omega)

/-- Reading what was written gives the value back and leaves what follows,
however much more room the reader has. -/
theorem read_write {room value : Nat} (fits : value < 128 ^ (room + 1)) (extra : Nat)
    (rest : Bytes) :
    read (room + 1 + extra) (write (room + 1) value ++ rest) = some (value, rest) := by
  induction room generalizing value with
  | zero =>
    have small : value < 128 := by simpa using fits
    simp [write, read, Nat.add_comm 1 extra, small, toNat_last small]
  | succ room ih =>
    rw [Nat.add_right_comm, write]
    split
    · rename_i small
      simp [read, toNat_last small, small]
    · rename_i large
      have high : value / 128 < 128 ^ (room + 1) := by
        rw [Nat.div_lt_iff_lt_mul (by decide), ← Nat.pow_succ]
        exact fits
      have joined : value % 128 + 128 * (value / 128) = value := Nat.mod_add_div value 128
      have marked : ¬ value % 128 + 128 < 128 := by omega
      simp only [List.cons_append, read, toNat_more, marked, ↓reduceIte, ih high]
      simp [joined]

/-- A reader that succeeds has consumed a prefix, and succeeds the same way on
every input with that prefix. -/
theorem read_consumes {room value : Nat} {input rest : Bytes}
    (success : read room input = some (value, rest)) :
    ∃ used, used ≠ [] ∧ input = used ++ rest ∧
      ∀ other, read room (used ++ other) = some (value, other) := by
  induction room generalizing input value with
  | zero => simp [read] at success
  | succ room ih =>
    cases input with
    | nil => simp [read] at success
    | cons byte tail =>
      by_cases last : byte.toNat < 128
      · simp only [read, last, ↓reduceIte, Option.some.injEq, Prod.mk.injEq] at success
        obtain ⟨same, same'⟩ := success
        subst value rest
        exact ⟨[byte], by simp, rfl, fun other => by simp [read, last]⟩
      · simp only [read, last, ↓reduceIte, Option.map_eq_some_iff, Prod.mk.injEq,
          Prod.exists] at success
        obtain ⟨high, left, found, same, same'⟩ := success
        subst left
        obtain ⟨used, _, split, again⟩ := ih found
        refine ⟨byte :: used, by simp, by simp [split], fun other => ?_⟩
        simp [read, last, again, same]

end Xrpc.Support.Varint
