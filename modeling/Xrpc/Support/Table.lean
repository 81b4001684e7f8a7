import Mathlib.Data.List.AList
import Mathlib.Logic.Function.Basic

/-! Finite maps with the interface of `std::map`, as Mathlib's association lists
with a value type that does not depend on the key. -/

namespace Xrpc.Support

structure Table (Key Value : Type) where
  entries : AList fun _ : Key => Value

namespace Table
variable {Key Value : Type} [DecidableEq Key]

def empty : Table Key Value := ⟨∅⟩

instance : EmptyCollection (Table Key Value) := ⟨empty⟩

def find? (table : Table Key Value) (key : Key) : Option Value := table.entries.lookup key

def insert (table : Table Key Value) (key : Key) (value : Value) : Table Key Value :=
  ⟨table.entries.insert key value⟩

def erase (table : Table Key Value) (key : Key) : Table Key Value := ⟨table.entries.erase key⟩

def filter (keep : Key → Value → Bool) (table : Table Key Value) : Table Key Value :=
  ⟨⟨table.entries.entries.filter fun entry => keep entry.1 entry.2,
    table.entries.nodupKeys.sublist List.filter_sublist⟩⟩

def keys (table : Table Key Value) : List Key := table.entries.keys

@[simp] theorem find?_empty (key : Key) : (∅ : Table Key Value).find? key = none :=
  AList.lookup_empty key

@[simp] theorem find?_insert (table : Table Key Value) (key : Key) (value : Value) :
    (table.insert key value).find? key = some value :=
  AList.lookup_insert table.entries

theorem find?_insert_ne (table : Table Key Value) {key other : Key} (different : key ≠ other)
    (value : Value) : (table.insert other value).find? key = table.find? key :=
  AList.lookup_insert_ne different

@[simp] theorem find?_erase (table : Table Key Value) (key : Key) :
    (table.erase key).find? key = none :=
  AList.lookup_erase key table.entries

theorem find?_erase_ne (table : Table Key Value) {key other : Key} (different : key ≠ other) :
    (table.erase other).find? key = table.find? key :=
  AList.lookup_erase_ne different

/-- `find?` as a function of the key. -/
theorem find?_insert_update (table : Table Key Value) (key : Key) (value : Value) :
    (table.insert key value).find? = Function.update table.find? key (some value) := by
  funext other
  by_cases same : other = key
  · subst other
    simp
  · rw [find?_insert_ne _ same, Function.update_of_ne same]

theorem find?_erase_update (table : Table Key Value) (key : Key) :
    (table.erase key).find? = Function.update table.find? key none := by
  funext other
  by_cases same : other = key
  · subst other
    simp
  · rw [find?_erase_ne _ same, Function.update_of_ne same]

theorem find?_filter (keep : Key → Value → Bool) (table : Table Key Value) (key : Key) :
    (table.filter keep).find? key = (table.find? key).filter (keep key) := by
  ext value
  have listed : value ∈ (table.filter keep).find? key ↔
      ⟨key, value⟩ ∈ table.entries.entries.filter fun entry => keep entry.1 entry.2 :=
    AList.mem_lookup_iff
  have present : value ∈ table.find? key ↔ ⟨key, value⟩ ∈ table.entries.entries :=
    AList.mem_lookup_iff
  rw [← Option.mem_def, listed, List.mem_filter, ← present]
  simp

omit [DecidableEq Key] in
theorem nodup_keys (table : Table Key Value) : table.keys.Nodup := table.entries.keys_nodup

theorem mem_keys_iff {table : Table Key Value} {key : Key} :
    key ∈ table.keys ↔ ∃ value, table.find? key = some value := by
  rw [← Option.isSome_iff_exists]
  exact (AList.lookup_isSome (s := table.entries)).symm

theorem find?_eq_none_iff {table : Table Key Value} {key : Key} :
    table.find? key = none ↔ key ∉ table.keys :=
  AList.lookup_eq_none (s := table.entries)

/-- The value of the last entry for `key`. -/
def lastValue (entries : List (Key × Value)) (key : Key) : Option Value :=
  ((entries.filter (·.1 = key)).getLast?).map (·.2)

/-- `table[key] = value` for one entry after the other. -/
def insertAll (table : Table Key Value) (entries : List (Key × Value)) : Table Key Value :=
  entries.foldl (fun table entry => table.insert entry.1 entry.2) table

@[simp] theorem lastValue_nil (key : Key) : lastValue ([] : List (Key × Value)) key = none := rfl

theorem lastValue_append (before after : List (Key × Value)) (key : Key) :
    lastValue (before ++ after) key = (lastValue after key).or (lastValue before key) := by
  rw [lastValue, List.filter_append, List.getLast?_append, Option.map_or]
  rfl

@[simp] theorem lastValue_singleton (entry : Key × Value) (key : Key) :
    lastValue [entry] key = if entry.1 = key then some entry.2 else none := by
  by_cases same : entry.1 = key
  · simp [lastValue, same]
  · simp [lastValue, same]

theorem lastValue_eq_none_iff {entries : List (Key × Value)} {key : Key} :
    lastValue entries key = none ↔ ∀ entry ∈ entries, entry.1 ≠ key := by
  simp [lastValue]

/-- The last entry for a key wins. -/
theorem find?_insertAll (table : Table Key Value) (entries : List (Key × Value)) (key : Key) :
    (table.insertAll entries).find? key = (lastValue entries key).or (table.find? key) := by
  induction entries generalizing table with
  | nil => rfl
  | cons entry rest ih =>
    have inserted : (table.insert entry.1 entry.2).find? key =
        (lastValue [entry] key).or (table.find? key) := by
      by_cases same : entry.1 = key
      · subst same
        simp
      · simp [same, find?_insert_ne table (Ne.symm same)]
    rw [← List.singleton_append, lastValue_append, Option.or_assoc, ← inserted]
    exact ih (table.insert entry.1 entry.2)

end Table

end Xrpc.Support
