import Xrpc.Registry.ZooKeeper
import Xrpc.Support.Table
import Mathlib.Data.List.Infix

/-! A ZooKeeper whose calls are always answered: a tree of nodes kept in a table. -/

namespace Xrpc

open Support

/-- Absolute, with a proper name after every slash. -/
def validPath (path : Bytes) : Bool :=
  path = [47] || (path.head? = some 47 && path.all (fun byte => 32 ≤ byte && byte ≠ 127) &&
    [[47, 47], [47, 46, 47], [47, 46, 46, 47]].all fun bad => !decide (bad <:+: path ++ [47]))

/-- The place for a node: below one that exists and is no ephemeral one. -/
def Placed (nodes : Table Bytes Znode) (path : Bytes) : Prop :=
  validPath path ∧
    (parentOf path = [] ∨ ∃ parent ∈ nodes.find? (parentOf path), parent.owner = none)

instance (nodes : Table Bytes Znode) (path : Bytes) : Decidable (Placed nodes path) :=
  inferInstanceAs (Decidable (_ ∧ (_ ∨ _)))

structure ZooTree where
  nodes : Table Bytes Znode
  placed : ∀ path node, nodes.find? path = some node → Placed nodes path

/-- A node stays in place while the one above it stays and becomes no ephemeral one. -/
theorem Placed.mono {before after : Table Bytes Znode} {path : Bytes}
    (kept : ∀ parent, before.find? (parentOf path) = some parent → parent.owner = none →
      ∃ same, after.find? (parentOf path) = some same ∧ same.owner = none)
    (placed : Placed before path) : Placed after path := by
  refine ⟨placed.1, ?_⟩
  rcases placed.2 with top | ⟨parent, found, persistent⟩
  · exact .inl top
  · exact .inr (kept parent found persistent)

namespace ZooTree

/-- The root alone. -/
def empty : ZooTree where
  nodes := Table.insert ∅ [47] { data := [] }
  placed := by
    intro path node found
    by_cases root : path = [47]
    · subst path
      exact ⟨by decide, .inl (by decide)⟩
    · simp [Table.find?_insert_ne _ root] at found

/-- The names of the nodes right below `path`. -/
def children (tree : ZooTree) (path : Bytes) : List Bytes :=
  let base := if path = [47] then [] else path
  (tree.nodes.keys.filter fun key => key ≠ [47] ∧ parentOf key = base).map
    (List.drop (base.length + 1))

/-- A node is added in its place, or overwritten. -/
def put (tree : ZooTree) (path : Bytes) (node : Znode) (place : Placed tree.nodes path)
    (persists : ∀ old, tree.nodes.find? path = some old → old.owner = none → node.owner = none) :
    ZooTree where
  nodes := tree.nodes.insert path node
  placed := by
    intro other found present
    have before : Placed tree.nodes other := by
      by_cases same : other = path
      · exact same ▸ place
      · rw [Table.find?_insert_ne _ same] at present
        exact tree.placed other found present
    refine before.mono ?_
    intro parent above persistent
    by_cases same : parentOf other = path
    · rw [same] at above ⊢
      exact ⟨node, Table.find?_insert _ _ _, persists parent above persistent⟩
    · exact ⟨parent, (Table.find?_insert_ne _ same _).trans above, persistent⟩

theorem ne_nil_of_mem_children {tree : ZooTree} {path other : Bytes} {node : Znode}
    (present : tree.nodes.find? other = some node) (proper : other ≠ [47]) (below : path ≠ [47])
    (above : parentOf other = path) : tree.children path ≠ [] := by
  have listed : other ∈ tree.nodes.keys := Table.mem_keys_iff.mpr ⟨node, present⟩
  simp only [children, below, if_false, ne_eq, List.map_eq_nil_iff, List.filter_eq_nil_iff]
  intro none
  exact none other listed (by simp [proper, above])

/-- A node with none below it is taken out. -/
def remove (tree : ZooTree) (path : Bytes) (proper : path ≠ [47]) (childless : tree.children path = []) :
    ZooTree where
  nodes := tree.nodes.erase path
  placed := by
    intro other found present
    by_cases same : other = path
    · rw [same, Table.find?_erase] at present
      cases present
    rw [Table.find?_erase_ne _ same] at present
    refine (tree.placed other found present).mono ?_
    intro parent above persistent
    by_cases emptied : parentOf other = path
    · by_cases root : other = [47]
      · have top : parentOf [47] = [] := by decide
        rw [root, top] at emptied
        subst path
        have invalid := (tree.placed _ parent (root ▸ above)).1
        rw [top] at invalid
        exact absurd invalid (by decide)
      · exact absurd childless (ne_nil_of_mem_children present root proper emptied)
    · exact ⟨parent, (Table.find?_erase_ne _ emptied).trans above, persistent⟩

/-- The ephemeral nodes of a session go with it. -/
def endSession (session : Nat) (tree : ZooTree) : ZooTree where
  nodes := tree.nodes.filter fun _ node => node.owner ≠ some session
  placed := by
    intro other found present
    rw [Table.find?_filter, Option.filter_eq_some_iff] at present
    refine (tree.placed other found present.1).mono ?_
    intro parent above persistent
    exact ⟨parent, by simp [Table.find?_filter, above, persistent], persistent⟩

def lookup (tree : ZooTree) (path : Bytes) : Except ZooCode Znode :=
  match tree.nodes.find? path with
  | some node => .ok node
  | none => .error (if validPath path then .noNode else .badArguments)

def zooCreate (session : Nat) (path data : Bytes) (ephemeral : Bool) (tree : ZooTree) :
    Except ZooCode Unit × ZooTree :=
  if fresh : tree.nodes.find? path = none then
    if place : Placed tree.nodes path then
      (.ok (), tree.put path { data, owner := if ephemeral then some session else none } place
        (by simp [fresh]))
    else if ¬ validPath path then (.error .badArguments, tree)
    else if tree.nodes.find? (parentOf path) = none then (.error .noNode, tree)
    else (.error .noChildrenForEphemerals, tree)
  else (.error .nodeExists, tree)

def zooSet (path data : Bytes) (version : Nat) (tree : ZooTree) : Except ZooCode Unit × ZooTree :=
  match found : tree.nodes.find? path with
  | none => (.error (if validPath path then .noNode else .badArguments), tree)
  | some node =>
    if node.version = version then
      (.ok (), tree.put path { node with data, version := version + 1 } (tree.placed path node found)
        (by simp [found]))
    else (.error .badVersion, tree)

def zooDelete (path : Bytes) (tree : ZooTree) : Except ZooCode Unit × ZooTree :=
  if proper : path ≠ [47] then
    match tree.lookup path with
    | .error code => (.error code, tree)
    | .ok _ =>
      if childless : tree.children path = [] then (.ok (), tree.remove path proper childless)
      else (.error .notEmpty, tree)
  else (.error .badArguments, tree)

def zerror : ZooCode → Bytes
  | .connectionLoss => text "connection loss"
  | .operationTimeout => text "operation timeout"
  | .badArguments => text "bad arguments"
  | .invalidState => text "invalid zhandle state"
  | .noNode => text "no node"
  | .badVersion => text "bad version"
  | .noChildrenForEphemerals => text "no children for ephemerals"
  | .nodeExists => text "node exists"
  | .notEmpty => text "not empty"
  | .sessionExpired => text "session expired"

end ZooTree

def zooTree : ZooKeeper ZooTree where
  contents tree path := tree.nodes.find? path
  zooCreate := ZooTree.zooCreate
  zooExists _ path tree := ((tree.lookup path).map (·.version), tree)
  zooSet _ := ZooTree.zooSet
  zooGet _ path bufferLen tree := ((tree.lookup path).map (·.data.take bufferLen), tree)
  zooGetChildren _ path tree := ((tree.lookup path).map fun _ => tree.children path, tree)
  zooDelete _ := ZooTree.zooDelete
  endSession := ZooTree.endSession
  zerror := ZooTree.zerror

namespace ZooTree

theorem lookup_ok {tree : ZooTree} {path : Bytes} {node : Znode} :
    tree.lookup path = .ok node ↔ tree.nodes.find? path = some node := by
  cases found : tree.nodes.find? path with
  | none => simp [lookup, found]
  | some other => simp [lookup, found]

theorem lookup_noNode {tree : ZooTree} {path : Bytes} (missing : tree.lookup path = .error .noNode) :
    tree.nodes.find? path = none := by
  cases found : tree.nodes.find? path with
  | none => rfl
  | some node => simp [lookup, found] at missing

theorem map_lookup_ok {α : Type} {tree : ZooTree} {path : Bytes} {read : Znode → α} {value : α}
    (answered : (tree.lookup path).map read = .ok value) :
    ∃ node, tree.nodes.find? path = some node ∧ value = read node := by
  cases looked : tree.lookup path with
  | error code => simp [looked, Except.map] at answered
  | ok node =>
    rw [looked] at answered
    exact ⟨node, lookup_ok.mp looked, (Except.ok.inj answered).symm⟩

theorem map_lookup_noNode {α : Type} {tree : ZooTree} {path : Bytes} {read : Znode → α}
    (answered : (tree.lookup path).map read = .error .noNode) : tree.nodes.find? path = none := by
  cases looked : tree.lookup path with
  | error code =>
    rw [looked] at answered
    exact lookup_noNode (looked.trans (congrArg _ (Except.error.inj answered)))
  | ok node => simp [looked, Except.map] at answered

/-- A node other than the root has a name after its last slash. -/
theorem exists_name {tree : ZooTree} {key : Bytes} (present : key ∈ tree.nodes.keys)
    (proper : key ≠ [47]) : ∃ name, name ≠ [] ∧ 47 ∉ name ∧ key = parentOf key ++ 47 :: name := by
  obtain ⟨node, found⟩ := Table.mem_keys_iff.mp present
  have valid := (tree.placed key node found).1
  simp only [validPath, proper, decide_false, Bool.false_or, Bool.and_eq_true, decide_eq_true_eq,
    List.all_cons] at valid
  obtain ⟨⟨absolute, -⟩, double, -⟩ := valid
  obtain ⟨front, name, split, last⟩ := exists_last_slash (List.mem_of_mem_head? absolute)
  refine ⟨name, ?_, last, ?_⟩
  · intro nameless
    subst name
    refine absurd ?_ (by simpa using double)
    exact ⟨front, [], by simp [split]⟩
  · rw [split, parentOf_append last]

theorem mem_children_iff {tree : ZooTree} {path name : Bytes} :
    name ∈ tree.children path ↔
      name ≠ [] ∧ 47 ∉ name ∧ (tree.nodes.find? (childPath path name)).isSome := by
  have presence : ∀ key, (tree.nodes.find? key).isSome ↔ key ∈ tree.nodes.keys := by
    intro key
    rw [Table.mem_keys_iff, Option.isSome_iff_exists]
  rw [presence]
  simp only [children, childPath, List.mem_map, List.mem_filter, decide_eq_true_eq]
  generalize (if path = [47] then [] else path) = base
  constructor
  · rintro ⟨key, ⟨present, proper, above⟩, rest⟩
    obtain ⟨found, named, last, split⟩ := exists_name present proper
    rw [above] at split
    have same : found = name := by simpa [split] using rest
    subst found
    exact ⟨named, last, split ▸ present⟩
  · intro ⟨named, last, present⟩
    refine ⟨_, ⟨present, ?_, parentOf_append last base⟩, by simp⟩
    intro root
    have lengths := congrArg List.length root
    have positive := List.length_pos_of_ne_nil named
    simp only [List.length_append, List.length_cons, List.length_nil] at lengths
    omega

theorem nodup_children (tree : ZooTree) (path : Bytes) : (tree.children path).Nodup := by
  refine (tree.nodes.nodup_keys.filter _).map_on ?_
  generalize (if path = [47] then [] else path) = base
  intro key listed other otherListed same
  simp only [List.mem_filter, decide_eq_true_eq] at listed otherListed
  obtain ⟨name, -, -, split⟩ := exists_name listed.1 listed.2.1
  obtain ⟨otherName, -, -, otherSplit⟩ := exists_name otherListed.1 otherListed.2.1
  rw [listed.2.2] at split
  rw [otherListed.2.2] at otherSplit
  rw [split, otherSplit] at same ⊢
  simpa using same

/-- A call has either returned and made its change, or changed nothing. -/
structure Outcome (tree : ZooTree) (answer : Except ZooCode Unit × ZooTree)
    (changed : ZooKeeper.Contents → Prop) : Prop where
  ok : answer.1 = .ok () → changed answer.2.nodes.find?
  refused : ∀ code, answer.1 = .error code → answer.2 = tree

theorem Outcome.done {tree after : ZooTree} {changed : ZooKeeper.Contents → Prop}
    (change : changed after.nodes.find?) : Outcome tree (.ok (), after) changed :=
  ⟨fun _ => change, fun _ error => nomatch error⟩

theorem Outcome.unchanged {tree : ZooTree} {changed : ZooKeeper.Contents → Prop} (code : ZooCode) :
    Outcome tree (.error code, tree) changed :=
  ⟨fun ok => (nomatch ok), fun _ _ => rfl⟩

theorem Outcome.effect {tree : ZooTree} {answer : Except ZooCode Unit × ZooTree}
    {changed : ZooKeeper.Contents → Prop} (outcome : Outcome tree answer changed) :
    answer.2.nodes.find? = tree.nodes.find? ∨ changed answer.2.nodes.find? := by
  cases ended : answer.1 with
  | ok done => exact .inr (outcome.ok ended)
  | error code => exact .inl (by rw [outcome.refused code ended])

theorem created (session : Nat) (path data : Bytes) (ephemeral : Bool) (tree : ZooTree) :
    Outcome tree (tree.zooCreate session path data ephemeral)
      (ZooKeeper.Created session path data ephemeral tree.nodes.find?) := by
  unfold zooCreate
  split
  next fresh =>
    split
    next place => exact .done ⟨fresh, Table.find?_insert_update _ _ _⟩
    next =>
      split
      · exact .unchanged _
      · split
        · exact .unchanged _
        · exact .unchanged _
  next taken => exact .unchanged _

theorem updated (path data : Bytes) (version : Nat) (tree : ZooTree) :
    Outcome tree (tree.zooSet path data version)
      (ZooKeeper.Updated path data version tree.nodes.find?) := by
  unfold zooSet
  split
  next => exact .unchanged _
  next node found =>
    split
    next same => exact .done ⟨node, found, same, Table.find?_insert_update _ _ _⟩
    next => exact .unchanged _

theorem deleted (path : Bytes) (tree : ZooTree) :
    Outcome tree (tree.zooDelete path) (ZooKeeper.Deleted path tree.nodes.find?) := by
  unfold zooDelete
  split
  next proper =>
    cases looked : tree.lookup path with
    | error code => exact .unchanged code
    | ok node =>
      dsimp only
      split
      next childless => exact .done (Table.find?_erase_update _ _)
      next => exact .unchanged _
  next => exact .unchanged _

theorem taken {session : Nat} {path data : Bytes} {ephemeral : Bool} {tree : ZooTree}
    (answered : (tree.zooCreate session path data ephemeral).1 = .error .nodeExists) :
    (tree.nodes.find? path).isSome := by
  unfold zooCreate at answered
  split at answered
  next =>
    split at answered
    · cases answered
    · split at answered
      · cases answered
      · split at answered
        · cases answered
        · cases answered
  next present => exact Option.isSome_iff_ne_none.mpr present

theorem no_double_slash {tree : ZooTree} {path : Bytes} {node : Znode}
    (found : tree.nodes.find? path = some node) : ¬ [47, 47] <:+: path := by
  intro double
  have valid := (tree.placed path node found).1
  simp only [validPath, Bool.or_eq_true, decide_eq_true_eq, Bool.and_eq_true, List.all_cons] at valid
  rcases valid with root | ⟨-, single, -⟩
  · exact absurd (root ▸ double) (by decide)
  · exact absurd (double.trans (List.prefix_append path [47]).isInfix) (by simpa using single)

theorem no_zero {tree : ZooTree} {path : Bytes} {node : Znode}
    (found : tree.nodes.find? path = some node) : 0 ∉ path := by
  intro zero
  have valid := (tree.placed path node found).1
  simp only [validPath, Bool.or_eq_true, decide_eq_true_eq, Bool.and_eq_true, List.all_eq_true]
    at valid
  rcases valid with root | ⟨⟨-, printable⟩, -⟩
  · exact absurd (root ▸ zero) (by decide)
  · exact absurd (printable 0 zero).1 (by decide)

theorem absolute {tree : ZooTree} {path : Bytes} {node : Znode}
    (found : tree.nodes.find? path = some node) : path.head? = some 47 := by
  have valid := (tree.placed path node found).1
  simp only [validPath, Bool.or_eq_true, decide_eq_true_eq, Bool.and_eq_true] at valid
  rcases valid with root | ⟨⟨begins, -⟩, -⟩
  · rw [root]
    rfl
  · exact begins

theorem lawful : zooTree.Lawful where
  exists_contents _ _ _ := rfl
  exists_ok _ _ _ version answered := by
    obtain ⟨node, found, same⟩ := map_lookup_ok answered
    exact ⟨node, found, same.symm⟩
  exists_noNode _ _ _ answered := map_lookup_noNode answered
  get_contents _ _ _ _ := rfl
  get_ok _ _ _ _ _ answered := map_lookup_ok answered
  getChildren_contents _ _ _ := rfl
  getChildren_ok _ path tree names answered := by
    obtain ⟨node, found, same⟩ := map_lookup_ok answered
    subst names
    exact ⟨Option.isSome_iff_exists.mpr ⟨node, found⟩, tree.nodup_children path,
      fun _ => mem_children_iff⟩
  create_effect session path data ephemeral tree :=
    (tree.created session path data ephemeral).effect
  create_ok session path data ephemeral tree := (tree.created session path data ephemeral).ok
  create_nodeExists _ _ _ _ _ answered := taken answered
  set_effect _ path data version tree := (tree.updated path data version).effect
  set_ok _ path data version tree := (tree.updated path data version).ok
  delete_effect _ path tree := (tree.deleted path).effect
  delete_ok _ path tree := (tree.deleted path).ok
  endSession_contents session tree path := Table.find?_filter _ _ _
  rooted tree path present := by
    obtain ⟨node, found⟩ := Option.isSome_iff_exists.mp present
    rcases (tree.placed path node found).2 with top | ⟨parent, above, -⟩
    · exact .inl top
    · exact .inr (Option.isSome_iff_exists.mpr ⟨parent, above⟩)
  terminated tree path present := by
    obtain ⟨node, found⟩ := Option.isSome_iff_exists.mp present
    exact no_zero found
  absolute tree path present := by
    obtain ⟨node, found⟩ := Option.isSome_iff_exists.mp present
    exact absolute found
  named tree path present := by
    obtain ⟨node, found⟩ := Option.isSome_iff_exists.mp present
    exact no_double_slash found

theorem reliable : zooTree.Reliable where
  get_answered _ path bufferLen tree present := by
    obtain ⟨node, found⟩ := Option.isSome_iff_exists.mp present
    exact ⟨node.data.take bufferLen, congrArg (Except.map _) (lookup_ok.mpr found)⟩
  getChildren_answered _ path tree present := by
    obtain ⟨node, found⟩ := Option.isSome_iff_exists.mp present
    exact ⟨tree.children path, congrArg (Except.map _) (lookup_ok.mpr found)⟩
  create_refused session path data ephemeral tree code answered :=
    congrArg (·.nodes.find?) ((tree.created session path data ephemeral).refused code answered)
  set_refused _ path data version tree code answered :=
    congrArg (·.nodes.find?) ((tree.updated path data version).refused code answered)
  delete_refused _ path tree code answered :=
    congrArg (·.nodes.find?) ((tree.deleted path).refused code answered)

end ZooTree

end Xrpc
