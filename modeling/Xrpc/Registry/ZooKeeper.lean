import Xrpc.Support.Effect
import Mathlib.Logic.Function.Basic

/-! What the registry uses of the ZooKeeper C client, and what it relies on. -/

namespace Xrpc

open Support

/-- The return codes other than `ZOK`. -/
inductive ZooCode where
  | connectionLoss | operationTimeout | badArguments | invalidState
  | noNode | badVersion | noChildrenForEphemerals | nodeExists | notEmpty | sessionExpired
  deriving DecidableEq

/-- `owner` is the session of an ephemeral node. -/
structure Znode where
  data : Bytes
  version : Nat := 0
  owner : Option Nat := none
  deriving DecidableEq

/-- The calls of the C client, each made in a session. `contents` is what the
store holds under a path; nothing of the code can look at it directly. -/
structure ZooKeeper (Store : Type) where
  contents : Store → Bytes → Option Znode
  zooCreate (session : Nat) (path data : Bytes) (ephemeral : Bool) :
    Store → Except ZooCode Unit × Store
  /-- Answers with the version of the node. -/
  zooExists (session : Nat) (path : Bytes) : Store → Except ZooCode Nat × Store
  zooSet (session : Nat) (path data : Bytes) (version : Nat) : Store → Except ZooCode Unit × Store
  zooGet (session : Nat) (path : Bytes) (bufferLen : Nat) : Store → Except ZooCode Bytes × Store
  zooGetChildren (session : Nat) (path : Bytes) : Store → Except ZooCode (List Bytes) × Store
  /-- With version -1, so whatever the version of the node is. -/
  zooDelete (session : Nat) (path : Bytes) : Store → Except ZooCode Unit × Store
  /-- A session is closed or expires. -/
  endSession (session : Nat) : Store → Store
  zerror : ZooCode → Bytes

/-- The path of the node above, empty for a node at the top. -/
def parentOf (path : Bytes) : Bytes :=
  match rfind path 47 with
  | some slash => path.take slash
  | none => []

/-- The path of the node called `name` below `path`. -/
def childPath (path name : Bytes) : Bytes := (if path = [47] then [] else path) ++ 47 :: name

/-- Every path with a slash is that of a name below another path. -/
theorem exists_last_slash {path : Bytes} (slash : 47 ∈ path) :
    ∃ front name, path = front ++ 47 :: name ∧ 47 ∉ name := by
  obtain ⟨first, rest, split, absent⟩ := List.eq_append_cons_of_mem (List.mem_reverse.mpr slash)
  refine ⟨rest.reverse, first.reverse, ?_, by simpa using absent⟩
  have turned := congrArg List.reverse split
  simpa using turned

theorem parentOf_append {name : Bytes} (last : 47 ∉ name) (front : Bytes) :
    parentOf (front ++ 47 :: name) = front := by
  rw [parentOf, rfind_last last]
  exact List.take_left

namespace ZooKeeper

/-- A store before and after a node is created, set or deleted. -/
abbrev Contents := Bytes → Option Znode

def Created (session : Nat) (path data : Bytes) (ephemeral : Bool) (before after : Contents) :
    Prop :=
  before path = none ∧ after = Function.update before path
    (some { data, owner := if ephemeral then some session else none })

def Updated (path data : Bytes) (version : Nat) (before after : Contents) : Prop :=
  ∃ node, before path = some node ∧ node.version = version ∧
    after = Function.update before path (some { node with data, version := version + 1 })

def Deleted (path : Bytes) (before after : Contents) : Prop :=
  after = Function.update before path none

variable {Store : Type}

/-- The documented behaviour. A call that ends in an error can have been carried
out all the same, since the answer may get lost. -/
structure Lawful (zk : ZooKeeper Store) : Prop where
  exists_contents : ∀ session path store,
    zk.contents (zk.zooExists session path store).2 = zk.contents store
  exists_ok : ∀ session path store version,
    (zk.zooExists session path store).1 = .ok version →
      ∃ node, zk.contents store path = some node ∧ node.version = version
  exists_noNode : ∀ session path store,
    (zk.zooExists session path store).1 = .error .noNode → zk.contents store path = none
  get_contents : ∀ session path bufferLen store,
    zk.contents (zk.zooGet session path bufferLen store).2 = zk.contents store
  get_ok : ∀ session path bufferLen store data,
    (zk.zooGet session path bufferLen store).1 = .ok data →
      ∃ node, zk.contents store path = some node ∧ data = node.data.take bufferLen
  getChildren_contents : ∀ session path store,
    zk.contents (zk.zooGetChildren session path store).2 = zk.contents store
  getChildren_ok : ∀ session path store names,
    (zk.zooGetChildren session path store).1 = .ok names →
      (zk.contents store path).isSome ∧ names.Nodup ∧ ∀ name, name ∈ names ↔
        name ≠ [] ∧ 47 ∉ name ∧ (zk.contents store (childPath path name)).isSome
  create_effect : ∀ session path data ephemeral store,
    zk.contents (zk.zooCreate session path data ephemeral store).2 = zk.contents store ∨
      Created session path data ephemeral (zk.contents store)
        (zk.contents (zk.zooCreate session path data ephemeral store).2)
  create_ok : ∀ session path data ephemeral store,
    (zk.zooCreate session path data ephemeral store).1 = .ok () →
      Created session path data ephemeral (zk.contents store)
        (zk.contents (zk.zooCreate session path data ephemeral store).2)
  create_nodeExists : ∀ session path data ephemeral store,
    (zk.zooCreate session path data ephemeral store).1 = .error .nodeExists →
      (zk.contents store path).isSome
  set_effect : ∀ session path data version store,
    zk.contents (zk.zooSet session path data version store).2 = zk.contents store ∨
      Updated path data version (zk.contents store)
        (zk.contents (zk.zooSet session path data version store).2)
  set_ok : ∀ session path data version store,
    (zk.zooSet session path data version store).1 = .ok () →
      Updated path data version (zk.contents store)
        (zk.contents (zk.zooSet session path data version store).2)
  delete_effect : ∀ session path store,
    zk.contents (zk.zooDelete session path store).2 = zk.contents store ∨
      Deleted path (zk.contents store) (zk.contents (zk.zooDelete session path store).2)
  delete_ok : ∀ session path store,
    (zk.zooDelete session path store).1 = .ok () →
      Deleted path (zk.contents store) (zk.contents (zk.zooDelete session path store).2)
  endSession_contents : ∀ session store path,
    zk.contents (zk.endSession session store) path =
      (zk.contents store path).filter (·.owner ≠ some session)
  /-- Nodes lie below nodes. -/
  rooted : ∀ store path, (zk.contents store path).isSome →
    parentOf path = [] ∨ (zk.contents store (parentOf path)).isSome
  /-- Paths are C strings that begin with a slash, and every node below another has a name. -/
  terminated : ∀ store path, (zk.contents store path).isSome → 0 ∉ path
  absolute : ∀ store path, (zk.contents store path).isSome → path.head? = some 47
  named : ∀ store path, (zk.contents store path).isSome → ¬ [47, 47] <:+: path

/-- Every call is answered, and for a node that is there successfully where it
only reads; a call answered by an error has changed nothing. -/
structure Reliable (zk : ZooKeeper Store) : Prop where
  get_answered : ∀ session path bufferLen store, (zk.contents store path).isSome →
    ∃ data, (zk.zooGet session path bufferLen store).1 = .ok data
  getChildren_answered : ∀ session path store, (zk.contents store path).isSome →
    ∃ names, (zk.zooGetChildren session path store).1 = .ok names
  create_refused : ∀ session path data ephemeral store code,
    (zk.zooCreate session path data ephemeral store).1 = .error code →
      zk.contents (zk.zooCreate session path data ephemeral store).2 = zk.contents store
  set_refused : ∀ session path data version store code,
    (zk.zooSet session path data version store).1 = .error code →
      zk.contents (zk.zooSet session path data version store).2 = zk.contents store
  delete_refused : ∀ session path store code,
    (zk.zooDelete session path store).1 = .error code →
      zk.contents (zk.zooDelete session path store).2 = zk.contents store

end ZooKeeper

end Xrpc
