import Xrpc.Support.Search
import Mathlib.Data.List.DropRight

/-! The parts of `std::string` that trim a string, and the lines of a text. -/

namespace Xrpc.Support

section Trimming
variable {α : Type} [DecidableEq α]

/-- `s.find_first_not_of(set)`. -/
def findFirstNotOf (set s : List α) : Option Nat := s.findIdx? (· ∉ set)

/-- `s.find_last_not_of(set)`. -/
def findLastNotOf (set s : List α) : Option Nat :=
  (s.reverse.findIdx? (· ∉ set)).map (s.length - 1 - ·)

/-- `s.erase(pos, n)`, with `none` for an `n` of `npos`; `none` stands for the
`std::out_of_range` it throws. -/
def eraseAt (s : List α) (pos : Nat) (n : Option Nat) : Option (List α) :=
  if pos ≤ s.length then some (s.take pos ++ n.elim [] fun n => s.drop (pos + n)) else none

/-- `s` without the elements of `set` at its ends. -/
def trim (set s : List α) : List α := (s.dropWhile (· ∈ set)).rdropWhile (· ∈ set)

omit [DecidableEq α] in
theorem drop_findIdx? (s : List α) (keep : α → Bool) :
    (s.findIdx? keep).elim [] s.drop = s.dropWhile (!keep ·) := by
  induction s with
  | nil => rfl
  | cons head rest ih =>
    rw [List.findIdx?_cons, List.dropWhile_cons]
    cases kept : keep head with
    | true => simp
    | false =>
      rw [← ih]
      cases found : rest.findIdx? keep with
      | none => simp
      | some index => simp

theorem eraseAt_first (set s : List α) :
    eraseAt s 0 (findFirstNotOf set s) = some (s.dropWhile (· ∈ set)) := by
  have rest := drop_findIdx? s (· ∉ set)
  simp only [decide_not, Bool.not_not] at rest
  simpa [eraseAt, findFirstNotOf] using rest

/-- `npos + 1` is zero. -/
theorem eraseAt_last (set s : List α) :
    eraseAt s ((findLastNotOf set s).elim 0 (· + 1)) none = some (s.rdropWhile (· ∈ set)) := by
  have rest := drop_findIdx? s.reverse (· ∉ set)
  simp only [decide_not, Bool.not_not] at rest
  rw [List.rdropWhile, ← rest]
  cases found : s.reverse.findIdx? (· ∉ set) with
  | none =>
    simp only [decide_not] at found
    simp [eraseAt, findLastNotOf, found]
  | some index =>
    have inside : index < s.length := by
      have bound := (List.findIdx?_eq_some_iff_getElem.mp found).1
      simpa using bound
    have size : s.length - 1 - index + 1 = s.length - index := by omega
    simp only [decide_not] at found
    simp [eraseAt, findLastNotOf, found, size, List.drop_reverse]

/-- `s` neither begins nor ends with an element of `set`. -/
def Trimmed (set s : List α) : Prop :=
  (∀ c ∈ s.head?, c ∉ set) ∧ ∀ c ∈ s.getLast?, c ∉ set

instance (set s : List α) : Decidable (Trimmed set s) := inferInstanceAs (Decidable (_ ∧ _))

section Blanks
variable {set before s after : List α}

/-- What stands around a string does not matter once it is trimmed. -/
theorem trim_append (front : ∀ c ∈ before, c ∈ set) (back : ∀ c ∈ after, c ∈ set) :
    trim set (before ++ (s ++ after)) = trim set s := by
  have dropped : (before ++ (s ++ after)).dropWhile (· ∈ set) = (s ++ after).dropWhile (· ∈ set) :=
    List.dropWhile_append_of_pos fun c member => decide_eq_true (front c member)
  have reversed : ∀ c ∈ after.reverse, decide (c ∈ set) = true :=
    fun c member => decide_eq_true (back c (List.mem_reverse.mp member))
  rw [trim, dropped, List.dropWhile_append, trim]
  split
  · rename_i empty
    rw [List.isEmpty_iff.mp empty, List.rdropWhile_nil, List.rdropWhile_eq_nil_iff]
    intro c member
    exact decide_eq_true (back c (List.dropWhile_subset _ member))
  · rw [List.rdropWhile, List.reverse_append, List.dropWhile_append_of_pos reversed, List.rdropWhile]

theorem trim_of_trimmed (trimmed : Trimmed set s) : trim set s = s := by
  have front : s.dropWhile (· ∈ set) = s := by
    cases s with
    | nil => rfl
    | cons head rest =>
      have kept := trimmed.1 head rfl
      simp [kept]
  rw [trim, front, List.rdropWhile_eq_self_iff]
  intro nonempty
  have kept := trimmed.2 _ (List.getLast?_eq_getLast_of_ne_nil nonempty)
  simpa using kept

omit [DecidableEq α] in
theorem split_of_findIdx? {keep : α → Bool} {index : Nat} (found : s.findIdx? keep = some index) :
    ∃ front c rest, s = front ++ c :: rest ∧ front.length = index ∧ keep c = true ∧
      ∀ other ∈ front, keep other = false := by
  obtain ⟨inside, kept, skipped⟩ := List.findIdx?_eq_some_iff_getElem.mp found
  refine ⟨s.take index, s[index], s.drop (index + 1), ?_, ?_, kept, ?_⟩
  · rw [← List.drop_eq_getElem_cons inside, List.take_append_drop]
  · rw [List.length_take, Nat.min_eq_left (Nat.le_of_lt inside)]
  · intro other member
    obtain ⟨position, bound, same⟩ := List.mem_take_iff_getElem.mp member
    have earlier : position < index := by omega
    simpa [← same] using skipped position earlier

theorem split_of_first {start : Nat} (found : findFirstNotOf set s = some start) :
    ∃ front c rest, s = front ++ c :: rest ∧ front.length = start ∧ c ∉ set ∧
      ∀ other ∈ front, other ∈ set := by
  obtain ⟨front, c, rest, split, size, kept, skipped⟩ := split_of_findIdx? found
  exact ⟨front, c, rest, split, size, by simpa using kept,
    fun other member => by simpa using skipped other member⟩

theorem split_of_last {stop : Nat} (found : findLastNotOf set s = some stop) :
    ∃ front c rest, s = front ++ c :: rest ∧ front.length = stop ∧ c ∉ set ∧
      ∀ other ∈ rest, other ∈ set := by
  obtain ⟨index, found, size⟩ := Option.map_eq_some_iff.mp found
  obtain ⟨rest, c, front, split, length, kept, skipped⟩ := split_of_findIdx? found
  have whole : s = front.reverse ++ c :: rest.reverse := by
    rw [← List.reverse_reverse s, split]
    simp
  refine ⟨front.reverse, c, rest.reverse, whole, ?_, by simpa using kept, ?_⟩
  · rw [whole] at size
    simp only [List.length_append, List.length_reverse, List.length_cons] at size ⊢
    omega
  · intro other member
    simpa using skipped other (List.mem_reverse.mp member)

theorem findFirstNotOf_eq_none_iff : findFirstNotOf set s = none ↔ ∀ c ∈ s, c ∈ set := by
  simp [findFirstNotOf, List.findIdx?_eq_none_iff]

theorem findLastNotOf_eq_none_iff : findLastNotOf set s = none ↔ ∀ c ∈ s, c ∈ set := by
  simp [findLastNotOf, List.findIdx?_eq_none_iff]

omit [DecidableEq α] in
theorem substr_middle (before middle after : List α) :
    substr (before ++ (middle ++ after)) before.length middle.length = some middle := by
  simp [substr]

/-- `s.substr(start, end - start + 1)` cuts nothing off but blanks. -/
theorem substr_trims {start stop : Nat} (first : findFirstNotOf set s = some start)
    (last : findLastNotOf set s = some stop) :
    ∃ before middle after, substr s start (stop - start + 1) = some middle ∧
      s = before ++ (middle ++ after) ∧ (∀ c ∈ before, c ∈ set) ∧ ∀ c ∈ after, c ∈ set := by
  obtain ⟨before, c, rest, begins, size, kept, front⟩ := split_of_first first
  obtain ⟨most, d, after, ends, length, other, back⟩ := split_of_last last
  have later : ∃ more, most = before ++ more := by
    rcases List.append_eq_append_iff.mp (begins.symm.trans ends) with
      ⟨more, whole, -⟩ | ⟨more, whole, tail⟩
    · exact ⟨more, whole⟩
    · cases more with
      | nil => exact ⟨[], by simpa using whole.symm⟩
      | cons head others =>
        obtain ⟨rfl, -⟩ := List.cons.inj tail
        exact absurd (front d (by simp [whole])) other
  obtain ⟨more, whole⟩ := later
  have middle : s = before ++ ((more ++ [d]) ++ after) := by
    rw [ends, whole]
    simp
  have span : stop - start + 1 = (more ++ [d]).length := by
    rw [← size, ← length, whole]
    simp
  refine ⟨before, more ++ [d], after, ?_, middle, front, back⟩
  rw [span, ← size, middle]
  exact substr_middle before (more ++ [d]) after

end Blanks

end Trimming

section Lines
variable {α : Type} [DecidableEq α] {sep : α}

/-- The lines that `std::getline` reads one after the other, which end with `sep`. -/
def lines (sep : α) : List α → List (List α)
  | [] => []
  | head :: rest =>
    if head = sep then [] :: lines sep rest
    else match lines sep rest with
      | [] => [[head]]
      | line :: more => (head :: line) :: more

theorem lines_append_cons {part : List α} (flat : sep ∉ part) (rest : List α) :
    lines sep (part ++ sep :: rest) = part :: lines sep rest := by
  induction part with
  | nil => simp [lines]
  | cons head tail ih =>
    have different : head ≠ sep := fun same => flat (by simp [same])
    have later := ih fun member => flat (List.mem_cons_of_mem head member)
    simp [lines, different, later]

theorem lines_of_flat {part : List α} (flat : sep ∉ part) (nonempty : part ≠ []) :
    lines sep part = [part] := by
  induction part with
  | nil => exact absurd rfl nonempty
  | cons head tail ih =>
    have different : head ≠ sep := fun same => flat (by simp [same])
    cases tail with
    | nil => simp [lines, different]
    | cons next more =>
      have later := ih (fun member => flat (List.mem_cons_of_mem head member)) (by simp)
      rw [lines, if_neg different, later]

/-- An empty string after the last separator is no line. -/
theorem lines_join {parts : List (List α)} (flat : ∀ part ∈ parts, sep ∉ part) :
    parts = lines sep (join sep parts) ∨ parts = lines sep (join sep parts) ++ [[]] := by
  match parts with
  | [] => exact .inl rfl
  | [part] =>
    cases part with
    | nil => exact .inr rfl
    | cons head tail =>
      left
      exact (lines_of_flat (flat _ List.mem_cons_self) (List.cons_ne_nil head tail)).symm
  | part :: next :: rest =>
    rw [join_cons_cons, lines_append_cons (flat part List.mem_cons_self)]
    have flatter : ∀ other ∈ next :: rest, sep ∉ other :=
      fun other member => flat other (List.mem_cons_of_mem part member)
    have later := lines_join flatter
    rcases later with same | same
    · left
      rw [← same]
    · right
      rw [List.cons_append, ← same]

/-- What an empty line yields nothing for does not see where the text ends. -/
theorem filterMap_lines_join {β : Type} {f : List α → Option β} (empty : f [] = none)
    {parts : List (List α)} (flat : ∀ part ∈ parts, sep ∉ part) :
    (lines sep (join sep parts)).filterMap f = parts.filterMap f := by
  rcases lines_join flat with same | same
  · rw [← same]
  · conv_rhs => rw [same]
    simp [empty]

omit [DecidableEq α] in
theorem join_cons_left (head : α) (part : List α) (rest : List (List α)) :
    join sep ((head :: part) :: rest) = head :: join sep (part :: rest) := by
  cases rest with
  | nil => rfl
  | cons next more => rfl

/-- Every text is its parts with the separators between them. -/
theorem exists_join (sep : α) (text : List α) :
    ∃ part rest, text = join sep (part :: rest) ∧ ∀ other ∈ part :: rest, sep ∉ other := by
  induction text with
  | nil => exact ⟨[], [], rfl, by simp⟩
  | cons head tail ih =>
    obtain ⟨part, rest, same, flat⟩ := ih
    by_cases ends : head = sep
    · subst ends
      refine ⟨[], part :: rest, by rw [join_cons_cons, ← same, List.nil_append], ?_⟩
      intro other member
      rcases List.mem_cons.mp member with rfl | later
      · simp
      · exact flat other later
    · refine ⟨head :: part, rest, by rw [join_cons_left, ← same], ?_⟩
      intro other member
      rcases List.mem_cons.mp member with rfl | later
      · have absent := flat part List.mem_cons_self
        simp [absent, Ne.symm ends]
      · exact flat other (List.mem_cons_of_mem part later)

end Lines

end Xrpc.Support
