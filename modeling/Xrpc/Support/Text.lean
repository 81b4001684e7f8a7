import Mathlib.Data.List.Basic
import Mathlib.Tactic.Common

/-! Byte strings with the part of the `std::string` interface that the sources
use. Positions are `Option Nat`, with `none` for `npos`. -/

namespace Xrpc.Support

abbrev Bytes := List UInt8

instance : LawfulBEq Bytes := inferInstance

/-- The bytes of an ASCII literal. -/
def text (literal : String) : Bytes := literal.toList.map fun char => UInt8.ofNat char.toNat

/-- `bytes` is a valid UTF-8 string. -/
def Utf8 (bytes : Bytes) : Prop := (ByteArray.mk bytes.toArray).IsValidUTF8

instance (bytes : Bytes) : Decidable (Utf8 bytes) :=
  inferInstanceAs (Decidable (ByteArray.mk bytes.toArray).IsValidUTF8)

section Search
variable {α : Type} [DecidableEq α]

/-- `s.find(c, pos)`. -/
def find (s : List α) (c : α) (pos : Nat) : Option Nat :=
  ((s.drop pos).idxOf? c).map (· + pos)

/-- `s.rfind(c)`. -/
def rfind (s : List α) (c : α) : Option Nat :=
  (s.reverse.idxOf? c).map (s.length - 1 - ·)

/-- `s.substr(pos, n)`; `none` stands for the `std::out_of_range` it throws. -/
def substr (s : List α) (pos n : Nat) : Option (List α) :=
  if pos ≤ s.length then some ((s.drop pos).take n) else none

theorem idxOf?_of_first {front : List α} {c : α} (absent : c ∉ front) (rest : List α) :
    (front ++ c :: rest).idxOf? c = some front.length := by
  induction front with
  | nil => simp [List.idxOf?_cons]
  | cons head tail ih =>
    have different : head ≠ c := fun same => absent (by simp [same])
    have later := ih (fun member => absent (List.mem_cons_of_mem head member))
    simp [List.idxOf?_cons, different, later]

theorem idxOf?_of_absent {s : List α} {c : α} (absent : c ∉ s) : s.idxOf? c = none := by
  simpa [List.idxOf?_eq_none_iff] using absent

/-- A search from position 1 skips the first element. -/
theorem find_skip {front : List α} {c : α} (absent : c ∉ front) (head : α) (rest : List α) :
    find (head :: (front ++ c :: rest)) c 1 = some (front.length + 1) := by
  simp [find, idxOf?_of_first absent]

theorem find_skip_absent {s : List α} {c : α} (absent : c ∉ s) (head : α) :
    find (head :: s) c 1 = none := by
  simp [find, idxOf?_of_absent absent]

theorem rfind_last {rest : List α} {c : α} (absent : c ∉ rest) (front : List α) :
    rfind (front ++ c :: rest) c = some front.length := by
  have reversed : (front ++ c :: rest).reverse = rest.reverse ++ c :: front.reverse := by simp
  rw [rfind, reversed, idxOf?_of_first (by simpa using absent)]
  simp

end Search

section Numbers

/-- `isspace` of the C locale. -/
def isSpace (c : UInt8) : Bool := c = 32 || (9 ≤ c && c ≤ 13)

def isDigit (c : UInt8) : Bool := 48 ≤ c && c ≤ 57

def digitsValue (digits : Bytes) : Nat := digits.foldl (fun n c => 10 * n + (c.toNat - 48)) 0

/-- `std::stoi(s)`; `none` where it throws, always with the text `stoi`. -/
def stoi (s : Bytes) : Option Int :=
  let trimmed := s.dropWhile isSpace
  let negative := trimmed.head? = some 45
  let unsigned := if negative || trimmed.head? = some 43 then trimmed.tail else trimmed
  let digits := unsigned.takeWhile isDigit
  let value : Int := if negative then -(digitsValue digits : Int) else digitsValue digits
  if digits ≠ [] ∧ -2147483648 ≤ value ∧ value ≤ 2147483647 then some value else none

example : stoi (text " 8080,") = some 8080 := by decide +kernel

end Numbers

end Xrpc.Support
