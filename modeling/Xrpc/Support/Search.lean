import Xrpc.Support.Text
import Mathlib.Data.List.Nodup
import Mathlib.Data.List.TakeWhile
import Mathlib.Data.Nat.Digits.Defs

/-! Substring search, parts joined by a separator, and decimal numbers. -/

namespace Xrpc.Support

section Substrings
variable {α : Type} [DecidableEq α]

/-- `s.find(needle)`. -/
def findStr (needle : List α) : List α → Option Nat
  | [] => if needle = [] then some 0 else none
  | head :: rest =>
    if needle <+: head :: rest then some 0 else (findStr needle rest).map (· + 1)

theorem findStr_isSome_iff (needle s : List α) : (findStr needle s).isSome ↔ needle <:+: s := by
  induction s with
  | nil =>
    rw [findStr, List.infix_nil]
    by_cases empty : needle = []
    · simp [empty]
    · simp [empty]
  | cons head rest ih =>
    rw [findStr, List.infix_cons_iff]
    by_cases here : needle <+: head :: rest
    · simp [here]
    · simp [here, ih]

omit [DecidableEq α] in
theorem infix_iff_exists {needle s : List α} : needle <:+: s ↔ ∃ front, front ++ needle <+: s := by
  constructor
  · rintro ⟨front, rest, same⟩
    exact ⟨front, rest, same⟩
  · rintro ⟨front, rest, same⟩
    exact ⟨front, rest, same⟩

omit [DecidableEq α] in
/-- What occurs in the beginning of a string ends early enough in the string. -/
theorem infix_take_iff {needle s : List α} {k : Nat} :
    needle <:+: s.take k ↔ ∃ front, front ++ needle <+: s ∧ (front ++ needle).length ≤ k := by
  rw [infix_iff_exists]
  exact exists_congr fun front => List.prefix_take_iff

end Substrings

section Joining
variable {α : Type} {sep : α}

/-- The parts with `sep` between them. -/
def join (sep : α) : List (List α) → List α
  | [] => []
  | [part] => part
  | part :: rest => part ++ sep :: join sep rest

theorem join_cons_cons (part next : List α) (rest : List (List α)) :
    join sep (part :: next :: rest) = part ++ sep :: join sep (next :: rest) := rfl

theorem join_append {before after : List (List α)} (some : before ≠ []) (more : after ≠ []) :
    join sep (before ++ after) = join sep before ++ sep :: join sep after := by
  induction before with
  | nil => exact absurd rfl some
  | cons first rest ih =>
    cases rest with
    | nil =>
      obtain ⟨next, others, same⟩ := List.exists_cons_of_ne_nil more
      rw [same]
      rfl
    | cons next rest =>
      have later := ih (List.cons_ne_nil _ _)
      simp only [List.cons_append, join_cons_cons] at later ⊢
      rw [later, List.append_assoc, List.cons_append]

theorem prefix_join_cons (part : List α) (rest : List (List α)) :
    part <+: join sep (part :: rest) := by
  cases rest with
  | nil => exact List.prefix_rfl
  | cons next rest => exact List.prefix_append _ _

theorem not_mem_join {c : α} {parts : List (List α)} (different : c ≠ sep)
    (absent : ∀ part ∈ parts, c ∉ part) : c ∉ join sep parts := by
  match parts with
  | [] => exact List.not_mem_nil
  | [part] => exact absent part List.mem_cons_self
  | part :: next :: rest =>
    have later : c ∉ join sep (next :: rest) :=
      not_mem_join different fun other member => absent other (List.mem_cons_of_mem part member)
    rw [join_cons_cons, List.mem_append, List.mem_cons, not_or, not_or]
    exact ⟨absent part List.mem_cons_self, different, later⟩

/-- A separator is looked for behind a string that has none. -/
theorem prefix_skip_iff {head front s rest : List α} (absent : sep ∉ head) :
    front ++ sep :: s <+: head ++ rest ↔ ∃ back, front = head ++ back ∧ back ++ sep :: s <+: rest := by
  constructor
  · rintro ⟨more, same⟩
    rw [List.append_assoc, List.append_eq_append_iff] at same
    rcases same with ⟨back, whole, same⟩ | ⟨back, whole, same⟩
    · cases back with
      | nil => exact ⟨[], by simpa using whole.symm, more, same⟩
      | cons first others =>
        obtain ⟨clash, -⟩ := List.cons.inj same
        exact absurd (by simp [whole, clash]) absent
    · exact ⟨back, whole, more, by rw [same, List.append_assoc]⟩
  · rintro ⟨back, whole, begins⟩
    rwa [whole, List.append_assoc, List.prefix_append_right_inj]

/-- A string without the separator does not reach beyond one. -/
theorem prefix_of_prefix_append_cons {s part rest : List α} (absent : sep ∉ s)
    (begins : s <+: part ++ sep :: rest) : s <+: part := by
  rcases List.prefix_or_prefix_of_prefix begins (List.prefix_append part _) with inside | beyond
  · exact inside
  · obtain ⟨more, same⟩ := beyond
    subst s
    rw [List.prefix_append_right_inj] at begins
    cases more with
    | nil => simp
    | cons head tail =>
      rw [List.cons_prefix_cons] at begins
      exact absurd (by simp [begins.1]) absent

theorem prefix_join_iff {s : List α} {parts : List (List α)} (nonempty : s ≠ [])
    (absent : sep ∉ s) :
    s <+: join sep parts ↔ ∃ part rest, parts = part :: rest ∧ s <+: part := by
  match parts with
  | [] => simp [join, nonempty]
  | [part] => simp [join]
  | part :: next :: rest =>
    rw [join_cons_cons]
    constructor
    · intro begins
      exact ⟨part, _, rfl, prefix_of_prefix_append_cons absent begins⟩
    · rintro ⟨first, others, same, begins⟩
      obtain ⟨rfl, -⟩ := List.cons.inj same
      exact begins.trans (List.prefix_append _ _)

/-- After a separator comes a part that is not the first. -/
theorem prefix_join_after_iff {s front : List α} {parts : List (List α)} (nonempty : s ≠ [])
    (absent : sep ∉ s) (flat : ∀ part ∈ parts, sep ∉ part) :
    front ++ sep :: s <+: join sep parts ↔ ∃ before part after,
      parts = before ++ part :: after ∧ before ≠ [] ∧ front = join sep before ∧ s <+: part := by
  constructor
  · intro begins
    induction parts generalizing front with
    | nil => simp [join] at begins
    | cons first rest ih =>
      have firstFlat := flat first List.mem_cons_self
      have restFlat : ∀ part ∈ rest, sep ∉ part :=
        fun part member => flat part (List.mem_cons_of_mem first member)
      cases rest with
      | nil => exact absurd (begins.subset (by simp)) firstFlat
      | cons next rest =>
        rw [join_cons_cons, prefix_skip_iff firstFlat] at begins
        obtain ⟨back, whole, begins⟩ := begins
        cases back with
        | nil =>
          obtain ⟨-, begins⟩ := List.cons_prefix_cons.mp begins
          obtain ⟨part, after, split, begins⟩ := (prefix_join_iff nonempty absent).mp begins
          exact ⟨[first], part, after, by rw [split]; rfl, by simp, by simpa [join] using whole,
            begins⟩
        | cons head tail =>
          rw [List.cons_append, List.cons_prefix_cons] at begins
          obtain ⟨same, later⟩ := begins
          subst head
          obtain ⟨before, part, after, split, some, front, begins⟩ := ih restFlat later
          refine ⟨first :: before, part, after, by rw [split]; rfl, by simp, ?_, begins⟩
          rw [whole, front]
          exact (join_append (List.cons_ne_nil first []) some).symm
  · rintro ⟨before, part, after, split, some, front, begins⟩
    rw [split, join_append some (List.cons_ne_nil _ _), front, List.prefix_append_right_inj,
      List.cons_prefix_cons]
    exact ⟨rfl, begins.trans (prefix_join_cons part after)⟩

end Joining

section Filters

/-- Where no two items share a key, an item is the first one with its own. -/
theorem find?_of_nodup_map {α β : Type} [DecidableEq β] {items : List α} {key : α → β} {item : α}
    (distinct : (items.map key).Nodup) (listed : item ∈ items) :
    items.find? (key · = key item) = some item := by
  cases found : items.find? (key · = key item) with
  | none => simpa using List.find?_eq_none.mp found item listed
  | some other =>
    have member := List.mem_of_find?_eq_some found
    have same : key other = key item := by simpa using List.find?_some found
    rw [List.inj_on_of_nodup_map distinct member listed same]

/-- Filters that keep the same results keep the same items. -/
theorem map_filter_eq_iff {α β : Type} {items : List α} {f : α → β}
    (distinct : (items.map f).Nodup) {p q : α → Bool} :
    (items.filter p).map f = (items.filter q).map f ↔ ∀ item ∈ items, p item = q item := by
  constructor
  · intro same item listed
    have kept : ∀ r : α → Bool, f item ∈ (items.filter r).map f ↔ r item = true := by
      intro r
      rw [List.mem_map]
      constructor
      · rintro ⟨other, member, equal⟩
        obtain ⟨member, passes⟩ := List.mem_filter.mp member
        exact List.inj_on_of_nodup_map distinct member listed equal ▸ passes
      · intro passes
        exact ⟨item, List.mem_filter.mpr ⟨listed, passes⟩, rfl⟩
    rw [Bool.eq_iff_iff, ← kept p, ← kept q, same]
  · intro same
    rw [List.filter_congr same]

end Filters

section Decimals

/-- `std::to_string(n)` of a number that is not negative. -/
def decimal (n : Nat) : Bytes :=
  if n = 0 then [48] else (Nat.digits 10 n).reverse.map fun digit => UInt8.ofNat (48 + digit)

/-- `std::to_string(n)`. -/
def toDecimal (n : Int) : Bytes := if n < 0 then 45 :: decimal n.natAbs else decimal n.natAbs

example : toDecimal 8080 = text "8080" := by decide +kernel

theorem isDigit_of_mem_decimal {n : Nat} {c : UInt8} (member : c ∈ decimal n) : isDigit c = true := by
  rw [decimal] at member
  split at member
  · rw [List.mem_singleton.mp member]
    decide
  · obtain ⟨digit, listed, same⟩ := List.mem_map.mp member
    have small : digit < 10 := Nat.digits_lt_base (by omega) (List.mem_reverse.mp listed)
    have all : ∀ digit < 10, isDigit (UInt8.ofNat (48 + digit)) = true := by decide
    exact same ▸ all digit small

theorem not_mem_toDecimal {n : Int} {c : UInt8} (sign : c ≠ 45) (other : isDigit c = false) :
    c ∉ toDecimal n := by
  intro member
  rw [toDecimal] at member
  split at member
  · rcases List.mem_cons.mp member with minus | digit
    · exact sign minus
    · exact absurd (isDigit_of_mem_decimal digit) (by simp [other])
  · exact absurd (isDigit_of_mem_decimal member) (by simp [other])

theorem decimal_ne_nil (n : Nat) : decimal n ≠ [] := by
  rw [decimal]
  split
  · exact List.cons_ne_nil _ _
  · rename_i positive
    simpa [Nat.digits_eq_nil_iff_eq_zero] using positive

theorem digitsValue_concat (digits : Bytes) (c : UInt8) :
    digitsValue (digits ++ [c]) = 10 * digitsValue digits + (c.toNat - 48) := by
  rw [digitsValue, List.foldl_append]
  rfl

theorem digitsValue_decimal (n : Nat) : digitsValue (decimal n) = n := by
  have valued : ∀ digits : List Nat, (∀ digit ∈ digits, digit < 10) →
      digitsValue (digits.reverse.map fun digit => UInt8.ofNat (48 + digit)) =
        Nat.ofDigits 10 digits := by
    intro digits small
    induction digits with
    | nil => rfl
    | cons digit rest ih =>
      have first := small digit List.mem_cons_self
      have later := ih fun other member => small other (List.mem_cons_of_mem digit member)
      have byte : (UInt8.ofNat (48 + digit)).toNat = 48 + digit := by
        rw [UInt8.toNat_ofNat']
        omega
      rw [List.reverse_cons, List.map_append, List.map_singleton, digitsValue_concat, later, byte,
        Nat.ofDigits_cons]
      omega
  rw [decimal]
  split
  · rename_i zero
    rw [zero]
    rfl
  · rw [valued _ fun digit member => Nat.digits_lt_base (by omega) member, Nat.ofDigits_digits]

/-- `stoi` reads what `to_string` wrote. -/
theorem stoi_toDecimal {n : Int} (low : -2147483648 ≤ n) (high : n ≤ 2147483647) :
    stoi (toDecimal n) = some n := by
  have digits : (decimal n.natAbs).takeWhile isDigit = decimal n.natAbs :=
    List.takeWhile_eq_self_iff.mpr fun c member => isDigit_of_mem_decimal member
  have value := digitsValue_decimal n.natAbs
  by_cases negative : n < 0
  · have signed : -(n.natAbs : Int) = n := by omega
    have trimmed : (toDecimal n).dropWhile isSpace = 45 :: decimal n.natAbs := by
      rw [toDecimal, if_pos negative]
      rfl
    simp only [stoi, trimmed, List.head?_cons, decide_true, Bool.true_or, if_true, List.tail_cons,
      digits, value, signed]
    rw [if_pos ⟨decimal_ne_nil _, low, high⟩]
  · obtain ⟨first, rest, same⟩ := List.exists_cons_of_ne_nil (decimal_ne_nil n.natAbs)
    have digit := isDigit_of_mem_decimal (same ▸ List.mem_cons_self : first ∈ decimal n.natAbs)
    have size : (n.natAbs : Int) = n := by omega
    have trimmed : (toDecimal n).dropWhile isSpace = decimal n.natAbs := by
      rw [toDecimal, if_neg negative, same, List.dropWhile_cons_of_neg]
      simp only [isDigit, isSpace, Bool.and_eq_true, Bool.or_eq_true, decide_eq_true_eq,
        ← UInt8.toNat_inj, UInt8.le_iff_toNat_le] at digit ⊢
      simp only [UInt8.reduceToNat] at digit ⊢
      omega
    have head : (decimal n.natAbs).head? = some first := by
      rw [same, List.head?_cons]
    have unsigned : first ≠ 45 ∧ first ≠ 43 := by
      refine ⟨?_, ?_⟩ <;> rintro rfl <;> revert digit <;> decide
    simp only [stoi, trimmed, head, Option.some.injEq, unsigned, decide_false, Bool.false_or,
      Bool.false_eq_true, if_false, digits, value, size]
    rw [if_pos ⟨decimal_ne_nil _, low, high⟩]

end Decimals

end Xrpc.Support
