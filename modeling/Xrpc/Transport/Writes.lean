import Mathlib.Data.List.Permutation
import Xrpc.Support.Run
import Xrpc.Transport.Client

/-! The frames of concurrent `SendAsync` calls on the socket of one transport. -/

namespace Xrpc

open Support

/-- An `async_write`, with what it has sent and what it has left. -/
structure SendOp where
  sent : Bytes := []
  left : Bytes
  deriving DecidableEq

namespace SendOp

def frame (op : SendOp) : Bytes := op.sent ++ op.left

def writeSome (op : SendOp) (count : Nat) : SendOp :=
  { sent := op.sent ++ op.left.take count, left := op.left.drop count }

/-- In the middle of its frame. -/
def Midway (op : SendOp) : Prop := op.sent ≠ [] ∧ op.left ≠ []

instance (op : SendOp) : Decidable op.Midway := inferInstanceAs (Decidable (_ ∧ _))

@[simp] theorem frame_writeSome (op : SendOp) (count : Nat) : (op.writeSome count).frame = op.frame := by
  simp [frame, writeSome]

end SendOp

/-- The writes started on a socket and the bytes sent through it. -/
structure ClientStream where
  ops : List SendOp := []
  wire : Bytes := []

inductive StreamEvent where
  | sendAsync (data : Bytes)
  | writeSome (index count : Nat)

namespace ClientStream

/-- `socket_mutex_` is held while a write is started. Each write then sends some
of what it has left; nothing keeps it from sending while others have not finished. -/
def step (stream : ClientStream) : StreamEvent → Option ClientStream
  | .sendAsync data => some { stream with ops := stream.ops ++ [{ left := data }] }
  | .writeSome index count => do
    let op ← stream.ops[index]?
    if 0 < count ∧ count ≤ op.left.length then
      some {
        ops := stream.ops.set index (op.writeSome count)
        wire := stream.wire ++ op.left.take count }
    else none

/-- The writes that a transport has started through its socket. -/
def started (transport : AsioClient) : ClientStream where
  ops := transport.written.map fun entry => { left := entry.2 }

theorem step_started (transport : AsioClient) (data : Bytes) :
    step (started transport) (.sendAsync data) = some (started (transport.record data)) := by
  simp [step, started, AsioClient.record]

/-- The frames of the writes under way or done, in the order of their calls. -/
def frames (stream : ClientStream) : List Bytes := stream.ops.map SendOp.frame

/-- The bytes sent are these frames, each of them whole, one after the other in
some order, as far as they have been sent. -/
def Whole (stream : ClientStream) (frames : List Bytes) : Prop :=
  ∃ order : List Bytes, order.Perm frames ∧ stream.wire <+: order.flatten ∧
    ((∀ op ∈ stream.ops, op.left = []) → stream.wire = order.flatten)

/-- No write sends while another is in the middle of its frame. -/
def Exclusive (stream : ClientStream) : StreamEvent → Prop
  | .sendAsync _ => True
  | .writeSome index _ => ∀ op ∈ stream.ops.eraseIdx index, ¬op.Midway

instance (stream : ClientStream) : ∀ event, Decidable (stream.Exclusive event)
  | .sendAsync _ => .isTrue trivial
  | .writeSome index _ => inferInstanceAs (Decidable (∀ op ∈ stream.ops.eraseIdx index, ¬op.Midway))

/-- The writes in the order of their frames on the wire: those that are done,
the one in the middle of its frame, and those that have sent nothing. -/
structure InOrder (stream : ClientStream) (finished : List SendOp) (midway : Option SendOp)
    (unsent : List SendOp) : Prop where
  all : stream.ops.Perm (finished ++ midway.toList ++ unsent)
  finishedLeft : ∀ op ∈ finished, op.left = []
  isMidway : ∀ op ∈ midway, op.Midway
  unsentSent : ∀ op ∈ unsent, op.sent = []
  bytes : stream.wire = (finished.map SendOp.frame).flatten ++ (midway.map SendOp.sent).getD []

/-- The run so far has kept the frames apart. -/
def Apart (stream : ClientStream) : Prop :=
  ∃ finished midway unsent, stream.InOrder finished midway unsent

section Orders
variable {stream next : ClientStream} {finished unsent others : List SendOp}
  {midway : Option SendOp} {op : SendOp} {index count : Nat}

theorem InOrder.whole (inOrder : stream.InOrder finished midway unsent) :
    stream.Whole stream.frames := by
  refine ⟨(finished ++ midway.toList ++ unsent).map SendOp.frame, ?_, ?_, ?_⟩
  · exact (inOrder.all.map SendOp.frame).symm
  · rw [inOrder.bytes]
    cases midway with
    | none => simp
    | some op => simp [SendOp.frame]
  · intro sentAll
    have emptied : ∀ op ∈ finished ++ midway.toList ++ unsent, op.left = [] :=
      fun op member => sentAll op (inOrder.all.mem_iff.mpr member)
    have nothing : (unsent.map SendOp.frame).flatten = [] := by
      simp only [List.flatten_eq_nil_iff, List.mem_map]
      rintro frame ⟨op, member, rfl⟩
      simp [SendOp.frame, inOrder.unsentSent op member, emptied op (by simp [member])]
    rw [inOrder.bytes]
    cases midway with
    | none => simp [nothing]
    | some op => exact absurd (emptied op (by simp)) (inOrder.isMidway op rfl).2

/-- The write whose turn it is comes after all that are done. -/
theorem apart_of_turn (sent : op.sent ≠ []) (all : stream.ops.Perm (op :: (finished ++ unsent)))
    (finishedLeft : ∀ op ∈ finished, op.left = []) (unsentSent : ∀ op ∈ unsent, op.sent = [])
    (bytes : stream.wire = (finished.map SendOp.frame).flatten ++ op.sent) : stream.Apart := by
  have placed : stream.ops.Perm (finished ++ [op] ++ unsent) := by
    rw [List.append_assoc]
    exact all.trans List.perm_middle.symm
  by_cases complete : op.left = []
  · refine ⟨finished ++ [op], none, unsent, by simpa using placed, ?_, by simp, unsentSent, ?_⟩
    · intro other member
      rcases List.mem_append.mp member with before | last
      · exact finishedLeft other before
      · rwa [List.mem_singleton.mp last]
    · simp [bytes, SendOp.frame, complete]
  · refine ⟨finished, some op, unsent, placed, finishedLeft, ?_, unsentSent, bytes⟩
    rintro other ⟨⟩
    exact ⟨sent, complete⟩

/-- A write that has bytes left has not begun, or it is the one midway. -/
theorem InOrder.turn (inOrder : stream.InOrder finished midway unsent)
    (all : stream.ops.Perm (op :: others)) (left : op.left ≠ [])
    (alone : ∀ other ∈ others, ¬other.Midway) :
    ∃ waiting : List SendOp, others.Perm (finished ++ waiting) ∧
      (∀ other ∈ waiting, other.sent = []) ∧
      stream.wire = (finished.map SendOp.frame).flatten ++ op.sent := by
  have placed : (op :: others).Perm (finished ++ midway.toList ++ unsent) :=
    all.symm.trans inOrder.all
  have member := placed.mem_iff.mp List.mem_cons_self
  by_cases begun : op.sent = []
  · have waits : op ∈ unsent := by
      simp only [List.mem_append, Option.mem_toList] at member
      rcases member with (done | current) | waits
      · exact absurd (inOrder.finishedLeft op done) left
      · exact absurd begun (inOrder.isMidway op current).1
      · exact waits
    have vacant : midway = none := by
      apply Option.eq_none_iff_forall_not_mem.mpr
      intro current under
      have among : current ∈ op :: others := placed.mem_iff.mpr (by simp [Option.mem_def.mp under])
      rcases List.mem_cons.mp among with same | other
      · exact (inOrder.isMidway current under).1 (same ▸ begun)
      · exact alone current other (inOrder.isMidway current under)
    subst vacant
    refine ⟨unsent.erase op, ?_, ?_, ?_⟩
    · have placed : (op :: others).Perm (finished ++ unsent) := by simpa using placed
      have picked := (List.perm_cons_erase waits).append_left finished
      exact List.Perm.cons_inv ((placed.trans picked).trans List.perm_middle)
    · exact fun other kept => inOrder.unsentSent other (List.mem_of_mem_erase kept)
    · simpa [begun] using inOrder.bytes
  · have current : midway = some op := by
      simp only [List.mem_append, Option.mem_toList] at member
      rcases member with (done | current) | waits
      · exact absurd (inOrder.finishedLeft op done) left
      · exact current
      · exact absurd (inOrder.unsentSent op waits) begun
    subst current
    have placed : (op :: others).Perm (finished ++ op :: unsent) := by simpa using placed
    exact ⟨unsent, List.Perm.cons_inv (placed.trans List.perm_middle), inOrder.unsentSent,
      inOrder.bytes⟩

theorem Apart.writeSome (apart : stream.Apart) (found : stream.ops[index]? = some op)
    (positive : 0 < count) (bounded : count ≤ op.left.length)
    (alone : stream.Exclusive (.writeSome index count)) :
    Apart {
      ops := stream.ops.set index (op.writeSome count)
      wire := stream.wire ++ op.left.take count } := by
  obtain ⟨finished, midway, unsent, inOrder⟩ := apart
  obtain ⟨inside, rfl⟩ := List.getElem?_eq_some_iff.mp found
  have left : stream.ops[index].left ≠ [] := List.ne_nil_of_length_pos (by omega)
  obtain ⟨waiting, others, unbegun, bytes⟩ :=
    inOrder.turn (List.getElem_cons_eraseIdx_perm inside).symm left alone
  have sent : (stream.ops[index].writeSome count).sent ≠ [] := by
    simp [SendOp.writeSome, left]
    omega
  apply apart_of_turn sent _ inOrder.finishedLeft unbegun
  · simp [bytes, SendOp.writeSome]
  · exact (List.set_perm_cons_eraseIdx inside _).trans (others.cons _)

theorem Apart.step {event : StreamEvent} (apart : stream.Apart) (alone : stream.Exclusive event)
    (taken : stream.step event = some next) : next.Apart := by
  cases event with
  | sendAsync data =>
    cases taken
    obtain ⟨finished, midway, unsent, inOrder⟩ := apart
    refine ⟨finished, midway, unsent ++ [{ left := data }], ?_, inOrder.finishedLeft,
      inOrder.isMidway, ?_, inOrder.bytes⟩
    · rw [← List.append_assoc]
      exact inOrder.all.append_right _
    · intro op member
      rcases List.mem_append.mp member with before | last
      · exact inOrder.unsentSent op before
      · rw [List.mem_singleton.mp last]
  | writeSome index count =>
    simp only [ClientStream.step, Option.bind_eq_bind, Option.bind_eq_some_iff,
      Option.ite_none_right_eq_some, Option.some.injEq] at taken
    obtain ⟨op, found, ⟨positive, bounded⟩, rfl⟩ := taken
    exact apart.writeSome found positive bounded alone

end Orders

section Runs
variable {stream final : ClientStream} {events : List StreamEvent}

/-- The frames passed to `SendAsync`. -/
def passed (events : List StreamEvent) : List Bytes :=
  events.filterMap fun
    | .sendAsync data => some data
    | .writeSome _ _ => none

theorem frames_run (reached : run step stream events = some final) :
    final.frames = stream.frames ++ passed events := by
  induction events generalizing stream with
  | nil =>
    cases reached
    simp [passed]
  | cons event rest ih =>
    obtain ⟨next, taken, remaining⟩ := run_cons_eq_some.mp reached
    rw [ih remaining]
    cases event with
    | sendAsync data =>
      cases taken
      simp [frames, passed, SendOp.frame]
    | writeSome index count =>
      simp only [step, Option.bind_eq_bind, Option.bind_eq_some_iff,
        Option.ite_none_right_eq_some, Option.some.injEq] at taken
      obtain ⟨op, found, _, rfl⟩ := taken
      obtain ⟨inside, rfl⟩ := List.getElem?_eq_some_iff.mp found
      have kept : (stream.ops.set index (stream.ops[index].writeSome count)).map SendOp.frame =
          stream.ops.map SendOp.frame := by
        rw [List.map_set, SendOp.frame_writeSome, ← List.map_set, List.set_getElem_self]
      simp [frames, passed, kept]

/-- The frames of all calls reach the socket whole when no write begins or goes
on while another is in the middle of its frame. -/
theorem frames_whole (reached : run step {} events = some final)
    (alone : Along step Exclusive {} events) : final.Whole (passed events) := by
  have initial : Apart {} := ⟨[], none, [], by simp, by simp, by simp, by simp, rfl⟩
  obtain ⟨finished, midway, unsent, inOrder⟩ :=
    run_preserves (fun _ _ _ apart alone taken => apart.step alone taken) initial alone reached
  have sent : final.frames = passed events := frames_run reached
  exact sent ▸ inOrder.whole

/-- The second write waits until the first is done. -/
theorem separate_writes_whole :
    ∃ final, run step {} [.sendAsync [2, 0x20, 1], .sendAsync [2, 0x20, 2], .writeSome 1 2,
        .writeSome 1 1, .writeSome 0 3] = some final ∧
      final.Whole (passed [.sendAsync [2, 0x20, 1], .sendAsync [2, 0x20, 2], .writeSome 1 2,
        .writeSome 1 1, .writeSome 0 3]) := by
  exact ⟨_, rfl, frames_whole rfl (by decide)⟩

/-- The second write sends its frame after one byte of the first. -/
theorem interleaved_writes_torn :
    ∃ final, run step {} [.sendAsync [2, 0x20, 1], .sendAsync [2, 0x20, 2], .writeSome 0 1,
        .writeSome 1 3, .writeSome 0 2] = some final ∧
      ¬final.Whole (passed [.sendAsync [2, 0x20, 1], .sendAsync [2, 0x20, 2], .writeSome 0 1,
        .writeSome 1 3, .writeSome 0 2]) := by
  refine ⟨_, rfl, ?_⟩
  rintro ⟨order, permuted, sent, _⟩
  have two : order.Perm [[2, 0x20, 1], [2, 0x20, 2]] := permuted
  rcases List.perm_pair.mp two with rfl | rfl
  · exact absurd sent (by decide)
  · exact absurd sent (by decide)

end Runs

end ClientStream

end Xrpc
