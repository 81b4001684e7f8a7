import Xrpc.Support.Effect
import Xrpc.Support.Lines
import Xrpc.Support.Table

/-! `XrpcConfig`: a file of `key=value` lines, with comments and blank lines. -/

namespace Xrpc

open Support

structure XrpcConfig where
  configMap : Table Bytes Bytes := ∅

/-- `" \t"`. -/
def blanks : Bytes := [32, 9]

/-- The `std::out_of_range` of a position beyond the end of a string. -/
def outOfRange (function : String) (pos size : Nat) : Bytes :=
  text ("basic_string::" ++ function ++ ": __pos (which is ") ++ decimal pos ++
    text ") > this->size() (which is " ++ decimal size ++ text ")"

/-- `s.substr(pos, n)`, as it throws. -/
def checkedSubstr (s : Bytes) (pos n : Nat) : Except Bytes Bytes :=
  match substr s pos n with
  | some part => .ok part
  | none => .error (outOfRange "substr" pos s.length)

/-- `s.erase(pos, n)`, as it throws. -/
def checkedErase (s : Bytes) (pos : Nat) (n : Option Nat) : Except Bytes Bytes :=
  match eraseAt s pos n with
  | some rest => .ok rest
  | none => .error (outOfRange "erase" pos s.length)

/-- The two `erase` calls that a key or a value goes through. -/
def eraseBlanks (s : Bytes) : Except Bytes Bytes := do
  let s ← checkedErase s 0 (findFirstNotOf blanks s)
  -- `npos + 1` is zero
  checkedErase s ((findLastNotOf blanks s).elim 0 (· + 1)) none

namespace XrpcConfig

/-- The body of the loop of `Load`: what a line sets. -/
def parseLine (line : Bytes) : Except Bytes (Option (Bytes × Bytes)) :=
  if line = [] ∨ line.head? = some 35 then .ok none
  else
    match findFirstNotOf blanks line, findLastNotOf blanks line with
    | none, _ => .ok none
    | some start, stop => do
      let line ← checkedSubstr line start (stop.elim line.length (· - start + 1))
      match find line 61 0 with
      | none => .ok none
      | some equals => do
        let key ← checkedSubstr line 0 equals
        let value ← checkedSubstr line (equals + 1) line.length
        let key ← eraseBlanks key
        let value ← eraseBlanks value
        .ok (if key = [] then none else some (key, value))

def loadLine (line : Bytes) : Effect XrpcConfig Unit := do
  match ← ofThrowing (parseLine line) with
  | none => pure ()
  | some (key, value) =>
    modify fun config => { config with configMap := config.configMap.insert key value }

/-- `Load`. `files` has the content of each file that can be opened. -/
def load (files : Bytes → Option Bytes) (file : Bytes) : Effect XrpcConfig Unit :=
  match files file with
  | none => raise (runtimeError (text "Failed to open config file: " ++ file))
  | some content => (lines 10 content).forM loadLine

/-- `Get`. -/
def get (config : XrpcConfig) (key default : Bytes) : Bytes :=
  (config.configMap.find? key).getD default

end XrpcConfig

/-- A `key=value` line with the blanks around its parts. -/
def assignment (line : Bytes) : Option (Bytes × Bytes) :=
  if 61 ∈ line then
    let key := trim blanks (line.takeWhile (· ≠ 61))
    if key = [] then none else some (key, trim blanks (line.dropWhile (· ≠ 61)).tail)
  else none

/-- What a line of the file sets. -/
def setting (line : Bytes) : Option (Bytes × Bytes) :=
  if line.head? = some 35 then none else assignment line

section Parsing

@[simp] theorem mem_blanks {c : UInt8} : c ∈ blanks ↔ c = 32 ∨ c = 9 := by
  simp [blanks]

@[simp] theorem eraseBlanks_eq (s : Bytes) : eraseBlanks s = .ok (trim blanks s) := by
  rw [eraseBlanks, checkedErase, eraseAt_first]
  change checkedErase _ _ _ = _
  rw [checkedErase, eraseAt_last, trim]

theorem assignment_split {front : Bytes} (absent : 61 ∉ front) (rest : Bytes) :
    assignment (front ++ 61 :: rest) =
      if trim blanks front = [] then none else some (trim blanks front, trim blanks rest) := by
  have kept : ∀ c ∈ front, decide (c ≠ 61) = true :=
    fun c member => decide_eq_true fun same => absent (same ▸ member)
  have key : (front ++ 61 :: rest).takeWhile (· ≠ 61) = front := by
    rw [List.takeWhile_append_of_pos kept]
    simp
  have value : (front ++ 61 :: rest).dropWhile (· ≠ 61) = 61 :: rest := by
    rw [List.dropWhile_append_of_pos kept]
    simp
  simp only [assignment, key, value, List.tail_cons]
  rw [if_pos (by simp)]

theorem assignment_of_absent {line : Bytes} (absent : 61 ∉ line) : assignment line = none :=
  if_neg absent

theorem not_mem_of_blank {s : Bytes} (blank : ∀ c ∈ s, c ∈ blanks) {c : UInt8}
    (visible : c ∉ blanks) : c ∉ s :=
  fun member => visible (blank c member)

/-- Blanks around a line do not matter for what it assigns. -/
theorem assignment_append {before line after : Bytes} (front : ∀ c ∈ before, c ∈ blanks)
    (back : ∀ c ∈ after, c ∈ blanks) : assignment (before ++ (line ++ after)) = assignment line := by
  have noneBefore := not_mem_of_blank front (c := 61) (by decide)
  have noneAfter := not_mem_of_blank back (c := 61) (by decide)
  by_cases member : 61 ∈ line
  · obtain ⟨key, value, same, absent⟩ := List.eq_append_cons_of_mem member
    subst same
    have whole : before ++ ((key ++ 61 :: value) ++ after) =
        (before ++ (key ++ [])) ++ 61 :: ([] ++ (value ++ after)) := by simp
    rw [whole, assignment_split (by simp [noneBefore, absent]), assignment_split absent,
      trim_append front (by simp), trim_append (by simp) back]
  · rw [assignment_of_absent member, assignment_of_absent (by simp [noneBefore, noneAfter, member])]

theorem assignment_of_blank {line : Bytes} (blank : ∀ c ∈ line, c ∈ blanks) :
    assignment line = none :=
  assignment_of_absent (not_mem_of_blank blank (by decide))

theorem checkedSubstr_of_substr {s part : Bytes} {pos n : Nat} (taken : substr s pos n = some part) :
    checkedSubstr s pos n = .ok part := by
  rw [checkedSubstr, taken]

/-- The part of the loop behind the first trimming. -/
theorem parse_trimmed (line : Bytes) :
    (match find line 61 0 with
      | none => .ok none
      | some equals => do
        let key ← checkedSubstr line 0 equals
        let value ← checkedSubstr line (equals + 1) line.length
        let key ← eraseBlanks key
        let value ← eraseBlanks value
        .ok (if key = [] then none else some (key, value)) : Except Bytes (Option (Bytes × Bytes))) =
      .ok (assignment line) := by
  by_cases member : 61 ∈ line
  · obtain ⟨key, value, same, absent⟩ := List.eq_append_cons_of_mem member
    subst same
    have found : find (key ++ 61 :: value) 61 0 = some key.length := by
      simp [find, idxOf?_of_first absent]
    have front : checkedSubstr (key ++ 61 :: value) 0 key.length = .ok key :=
      checkedSubstr_of_substr (by simp [substr])
    have dropped : (key ++ 61 :: value).drop (key.length + 1) = value := by
      rw [← List.drop_drop, List.drop_left, List.drop_one, List.tail_cons]
    have rest : checkedSubstr (key ++ 61 :: value) (key.length + 1) (key ++ 61 :: value).length =
        .ok value := by
      refine checkedSubstr_of_substr ?_
      rw [substr, if_pos (by simp), dropped, List.take_of_length_le (by simp; omega)]
    simp only [found, front, rest, assignment_split absent, eraseBlanks_eq]
    rfl
  · have missed : find line 61 0 = none := by
      simp [find, idxOf?_of_absent member]
    simp only [missed, assignment_of_absent member]

/-- The loop takes from a line what `setting` says, and no position is out of range. -/
theorem parseLine_eq (line : Bytes) : XrpcConfig.parseLine line = .ok (setting line) := by
  rw [XrpcConfig.parseLine, setting]
  by_cases comment : line.head? = some 35
  · simp [comment]
  · by_cases empty : line = []
    · subst empty
      rfl
    · rw [if_neg (by simp [empty, comment]), if_neg comment]
      cases first : findFirstNotOf blanks line with
      | none => rw [assignment_of_blank (findFirstNotOf_eq_none_iff.mp first)]
      | some start =>
        cases last : findLastNotOf blanks line with
        | none =>
          have blank := findFirstNotOf_eq_none_iff.mpr (findLastNotOf_eq_none_iff.mp last)
          exact absurd (first.symm.trans blank) (by simp)
        | some stop =>
          obtain ⟨before, middle, after, taken, whole, front, back⟩ := substr_trims first last
          have same : assignment line = assignment middle := by
            rw [whole, assignment_append front back]
          simp only [Option.elim_some, checkedSubstr_of_substr taken, same]
          exact parse_trimmed middle

end Parsing

namespace XrpcConfig

def set (config : XrpcConfig) (entries : List (Bytes × Bytes)) : XrpcConfig :=
  { config with configMap := config.configMap.insertAll entries }

theorem run_loadLine (line : Bytes) (config : XrpcConfig) :
    (loadLine line).run config = .ok () (config.set (setting line).toList) := by
  rw [loadLine, parseLine_eq, EStateM.run_bind, run_ofThrowing_ok]
  cases setting line with
  | none => rfl
  | some entry => rfl

theorem run_loadLines (read : List Bytes) (config : XrpcConfig) :
    (read.forM loadLine).run config = .ok () (config.set (read.filterMap setting)) := by
  induction read generalizing config with
  | nil => rfl
  | cons line rest ih =>
    have first : ((line :: rest).forM loadLine).run config =
        (rest.forM loadLine).run (config.set (setting line).toList) := by
      change (loadLine line >>= fun _ => rest.forM loadLine).run config = _
      rw [EStateM.run_bind, run_loadLine]
    rw [first, ih]
    cases found : setting line with
    | none => simp [found, set, Table.insertAll]
    | some entry => simp [found, set, Table.insertAll]

/-- A file that can be opened is read to its end, and every line sets what it says. -/
theorem run_load {files : Bytes → Option Bytes} {file content : Bytes}
    (opened : files file = some content) (config : XrpcConfig) :
    (load files file).run config =
      .ok () (config.set ((lines 10 content).filterMap setting)) := by
  rw [load, opened]
  exact run_loadLines _ config

@[simp] theorem find?_set_new (entries : List (Bytes × Bytes)) (key : Bytes) :
    (set {} entries).configMap.find? key = Table.lastValue entries key := by
  simp [set, Table.find?_insertAll]

end XrpcConfig

end Xrpc
