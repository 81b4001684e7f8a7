import Xrpc.Core.Framing
import Xrpc.Core.RunningCall

/-! A call takes the first read of its connection for its whole response. -/

namespace Xrpc

open Support

/-- The reads, each with its bounds. -/
def Segmentation.segments {stream : Bytes} (cut : Segmentation stream) : List Segment :=
  cut.reads.attachWith _ cut.sized

theorem Segmentation.reads_of_segments {stream : Bytes} (cut : Segmentation stream) :
    cut.segments.map Subtype.val = cut.reads := List.attachWith_map_subtype_val cut.sized

/-- The polls of the wait loop while the reads of the connection come in, with
the reads that are left. A poll may find the one read that `DoClientRead` has
posted complete. -/
def turnsOf : List Bool → List Segment → List Turn × List Segment
  | [], arriving => ([], arriving)
  | true :: polls, read :: later =>
    (.completed (.received read) :: polls.map fun _ => .idle, later)
  | _ :: polls, arriving => (.idle :: (turnsOf polls arriving).1, (turnsOf polls arriving).2)

/-- A call, with the reads that its connection has for it. -/
structure ReceivingCall (Msg : Type) where
  running : RunningCall Msg
  arriving : List Segment

inductive ReceptionEvent where
  | proceed (polls : List Bool)
  | written (failed : Bool)
  | read
  | readFailed (message : Bytes)
  | cancel

section Reception
variable {Msg : Type} {channel : XrpcChannel} {call : ClientCall Msg} {outside : Outside}

namespace RunningCall

/-- The next step of the caller is a `Send` that gets as far as its read. -/
def posts (call : ClientCall Msg) (outside : Outside) (running : RunningCall Msg) : Bool :=
  match running.phase with
  | .sending _ => call.done.isNone && running.state.transport.isOpen && !outside.writeFails
  | _ => false

end RunningCall

namespace ReceivingCall

/-- The handlers of both `async_read_some` hand on what one read has brought. -/
def step (channel : XrpcChannel) (call : ClientCall Msg) (outside : Outside)
    (receiving : ReceivingCall Msg) : ReceptionEvent → Option (ReceivingCall Msg)
  | .proceed polls =>
    let polled := turnsOf polls receiving.arriving
    let arriving := if receiving.running.posts call outside then polled.2 else receiving.arriving
    (receiving.running.step channel call { outside with turns := polled.1 } .proceed).map
      (⟨·, arriving⟩)
  | .written failed =>
    (receiving.running.step channel call outside (.written failed)).map (⟨·, receiving.arriving⟩)
  | .read =>
    match receiving.arriving with
    | [] => none
    | read :: later =>
      (receiving.running.step channel call outside (.read (.received read))).map (⟨·, later⟩)
  | .readFailed message =>
    (receiving.running.step channel call outside (.read (.failed message))).map
      (⟨·, receiving.arriving⟩)
  | .cancel =>
    (receiving.running.step channel call outside .cancel).map (⟨·, receiving.arriving⟩)

end ReceivingCall

theorem turnsOf_cases (polls : List Bool) (arriving : List Segment) :
    (∃ count, turnsOf polls arriving = (List.replicate count .idle, arriving)) ∨
      ∃ before rest read later, arriving = read :: later ∧ turnsOf polls arriving =
        (List.replicate before .idle ++ .completed (.received read) :: rest, later) := by
  induction polls with
  | nil => exact .inl ⟨0, rfl⟩
  | cons poll polls ih =>
    have waits : turnsOf (poll :: polls) arriving =
        (.idle :: (turnsOf polls arriving).1, (turnsOf polls arriving).2) ∨
        ∃ read later, arriving = read :: later ∧ turnsOf (poll :: polls) arriving =
          (.completed (.received read) :: polls.map fun _ => .idle, later) := by
      cases poll with
      | false => exact .inl rfl
      | true =>
        cases arriving with
        | nil => exact .inl rfl
        | cons read later => exact .inr ⟨read, later, rfl, rfl⟩
    rcases waits with idle | ⟨read, later, comes, taken⟩
    · rcases ih with ⟨count, same⟩ | ⟨before, rest, read, later, comes, same⟩
      · exact .inl ⟨count + 1, by rw [idle, same]; rfl⟩
      · exact .inr ⟨before + 1, rest, read, later, comes, by rw [idle, same]; rfl⟩
    · exact .inr ⟨0, _, read, later, comes, taken⟩

namespace AsioClient
variable {transport : AsioClient}

/-- `Send` fails before it posts a read, or it waits forever, or it returns the
first read and leaves the later ones. -/
theorem send_turnsOf (ec : Bool) (polls : List Bool) (arriving : List Segment) (data : Bytes) :
    ((transport.isOpen && !ec) = false ∧ ∃ after,
        (send ec (turnsOf polls arriving).1 data).run transport = .ok none after) ∨
      ((transport.isOpen && !ec) = true ∧ (turnsOf polls arriving).2 = arriving ∧ ∃ after,
        (send ec (turnsOf polls arriving).1 data).run transport = .error .hang after) ∨
      ((transport.isOpen && !ec) = true ∧ ∃ read after,
        arriving = read :: (turnsOf polls arriving).2 ∧
        (send ec (turnsOf polls arriving).1 data).run transport = .ok (some read.1) after) := by
  cases opened : transport.isOpen with
  | false => exact .inl ⟨rfl, transport, by simp [send, opened, EStateM.run_bind]⟩
  | true =>
    cases ec with
    | true =>
      refine .inl ⟨rfl, transport.sending data, ?_⟩
      rw [send, EStateM.run_bind, EStateM.run_get]
      dsimp only
      rw [opened]
      rfl
    | false =>
      right
      rcases turnsOf_cases polls arriving with
        ⟨count, same⟩ | ⟨before, rest, read, later, comes, same⟩
      · rw [same, send_open opened, waitLoop_hang rfl]
        exact .inl ⟨rfl, rfl, _, rfl⟩
      · rw [same]
        exact .inr ⟨rfl, read, _, comes, send_received opened data read before rest⟩

end AsioClient

/-- What a call has received is the first of the reads, and the others are left. -/
def TakesFirst (reads : List Segment) (receiving : ReceivingCall Msg) : Prop :=
  (receiving.running.received = none ∧ receiving.arriving = reads) ∨
    (receiving.running.state.pending = none ∧
      ∃ read : Segment, receiving.running.received = some read.1 ∧
        reads = read :: receiving.arriving)

/-- Until the request is sent, nothing has been received and nothing is in flight. -/
structure Unsent (reads : List Segment) (receiving : ReceivingCall Msg) : Prop where
  free : receiving.running.state.held = []
  idle : receiving.running.state.pending = none
  unanswered : receiving.running.received = none
  all : receiving.arriving = reads

def InTurn (reads : List Segment) (receiving : ReceivingCall Msg) : Prop :=
  match receiving.running.phase with
  | .dialing | .checking | .sending _ => Unsent reads receiving
  | .answered _ | .returned | .stuck => TakesFirst reads receiving

section Steps
variable {running next : RunningCall Msg} {reads arriving : List Segment} {polls : List Bool}
  {body : Effect (CallState Msg) Phase}

theorem aside_pending : Aside (CallState.pending : CallState Msg → _) := by
  constructor
  · exact fun _ _ => rfl
  · exact fun _ _ => rfl
  · exact fun _ _ => rfl

theorem Unsent.takesFirst {receiving : ReceivingCall Msg} (unsent : Unsent reads receiving) :
    TakesFirst reads receiving := .inl ⟨unsent.unanswered, unsent.all⟩

/-- A step that throws ends the call without an answer. -/
theorem inTurn_perform (unanswered : running.received = none)
    (returns : ∀ phase state, body.run running.state = .ok phase state →
      InTurn reads ⟨{ state, phase, received := phase.answer?.or running.received }, arriving⟩)
    (unread : ∀ exit state, body.run running.state = .error exit state → arriving = reads) :
    InTurn reads ⟨running.perform call body, arriving⟩ := by
  rcases RunningCall.perform_cases aside_pending running body with
    ⟨phase, state, ran, same⟩ | ⟨exit, after, state, phase, thrown, _, ended, same⟩
  · rw [same]
    exact returns phase state ran
  · rw [same]
    rcases ended with rfl | rfl
    · exact .inl ⟨unanswered, unread exit after thrown⟩
    · exact .inl ⟨unanswered, unread exit after thrown⟩

theorem Unsent.dial (unsent : Unsent reads ⟨running, arriving⟩) :
    InTurn reads ⟨running.perform call (channel.proceed call outside .dialing), arriving⟩ := by
  apply inTurn_perform unsent.unanswered
  · intro phase state ran
    obtain ⟨transport, dialed | ⟨what, thrown⟩⟩ :=
      channel.proceed_dialing call outside unsent.free
    · rw [dialed] at ran
      cases ran
      exact ⟨unsent.free, unsent.idle, unsent.unanswered, unsent.all⟩
    · cases thrown.symm.trans ran
  · exact fun _ _ _ => unsent.all

theorem Unsent.check (unsent : Unsent reads ⟨running, arriving⟩) :
    InTurn reads ⟨running.perform call (channel.proceed call outside .checking), arriving⟩ := by
  apply inTurn_perform unsent.unanswered
  · intro phase state ran
    rw [XrpcChannel.proceed] at ran
    rcases channel.check_cases call outside running.state with failed | ⟨data, checked⟩ | ⟨what, thrown⟩
    · rw [failed, EStateM.run_bind] at ran
      split at ran
      · cases ran
        exact .inl ⟨unsent.unanswered, unsent.all⟩
      · cases ran
    · rw [checked] at ran
      cases ran
      exact ⟨unsent.free, unsent.idle, unsent.unanswered, unsent.all⟩
    · cases thrown.symm.trans ran
  · exact fun _ _ _ => unsent.all

/-- An asynchronous request leaves its answer to the handlers. -/
theorem Unsent.transmitAsync (unsent : Unsent reads ⟨running, arriving⟩)
    (async : call.done.isSome = true) (data : Bytes) :
    InTurn reads ⟨running.perform call (channel.proceed call outside (.sending data)), arriving⟩ := by
  apply inTurn_perform unsent.unanswered
  · intro phase state ran
    rw [XrpcChannel.proceed, XrpcChannel.transmit, if_pos async, EStateM.run_bind] at ran
    split at ran
    · cases ran
      exact .inl ⟨unsent.unanswered, unsent.all⟩
    · cases ran
  · exact fun _ _ _ => unsent.all

/-- A synchronous request is answered by the first read, if it is answered. -/
theorem Unsent.transmitSync (unsent : Unsent reads ⟨running, arriving⟩) (sync : call.done = none)
    {data : Bytes} (sending : running.phase = .sending data) (polls : List Bool) :
    InTurn reads ⟨running.perform call (channel.proceed call
        { outside with turns := (turnsOf polls arriving).1 } (.sending data)),
      if running.posts call outside then (turnsOf polls arriving).2 else arriving⟩ := by
  have posted : running.posts call outside =
      (running.state.transport.isOpen && !outside.writeFails) := by
    simp [RunningCall.posts, sending, sync]
  have sent : (XrpcChannel.sendRequest { outside with turns := (turnsOf polls arriving).1 }
      data).run running.state = _ :=
    run_guarded unsent.free
      (AsioClient.send outside.writeFails (turnsOf polls arriving).1 data)
  rw [XrpcChannel.proceed, XrpcChannel.transmit, if_neg (by simp [sync]), posted]
  rcases AsioClient.send_turnsOf outside.writeFails polls arriving data with
    ⟨unposted, transport, ran⟩ | ⟨going, left, transport, ran⟩ |
      ⟨going, read, transport, comes, ran⟩
  · rw [unposted, if_neg Bool.false_ne_true]
    apply inTurn_perform unsent.unanswered
    · intro phase state returned
      rw [EStateM.run_bind, sent, ran] at returned
      dsimp only at returned
      rw [EStateM.run_bind] at returned
      split at returned
      · cases returned
        exact .inl ⟨unsent.unanswered, unsent.all⟩
      · cases returned
    · exact fun _ _ _ => unsent.all
  · rw [going, if_pos rfl, left]
    apply inTurn_perform unsent.unanswered
    · intro phase state returned
      rw [EStateM.run_bind, sent, ran] at returned
      cases returned
    · exact fun _ _ _ => unsent.all
  · rw [going, if_pos rfl]
    apply inTurn_perform unsent.unanswered
    · intro phase state returned
      rw [EStateM.run_bind, sent, ran] at returned
      cases returned
      exact .inr ⟨unsent.idle, read, rfl, unsent.all.symm.trans comes⟩
    · intro exit state thrown
      rw [EStateM.run_bind, sent, ran] at thrown
      cases thrown

theorem TakesFirst.inTurn {receiving : ReceivingCall Msg} (takesFirst : TakesFirst reads receiving)
    (sent : receiving.running.phase.left ≤ 1) : InTurn reads receiving := by
  cases phase : receiving.running.phase with
  | dialing => simp [phase, Phase.left] at sent
  | checking => simp [phase, Phase.left] at sent
  | sending data => simp [phase, Phase.left] at sent
  | answered data => simpa [InTurn, phase] using takesFirst
  | returned => simpa [InTurn, phase] using takesFirst
  | stuck => simpa [InTurn, phase] using takesFirst

/-- The caller's last step reads nothing. -/
theorem TakesFirst.perform (takesFirst : TakesFirst reads ⟨running, arriving⟩)
    (kept : Keeps CallState.pending body) (last : Yields (· = .returned) body) :
    InTurn reads ⟨running.perform call body, arriving⟩ := by
  have pending := kept running.state
  rcases RunningCall.perform_cases aside_pending running body with
    ⟨phase, state, ran, same⟩ | ⟨exit, after, state, phase, thrown, view, ended, same⟩
  · obtain rfl := last _ _ _ ran
    rw [same]
    rw [ran] at pending
    rcases takesFirst with waiting | ⟨idle, received⟩
    · exact .inl waiting
    · exact .inr ⟨pending.trans idle, received⟩
  · rw [same]
    rw [thrown] at pending
    have taken : TakesFirst reads ⟨{ running with state, phase }, arriving⟩ := by
      rcases takesFirst with waiting | ⟨idle, received⟩
      · exact .inl waiting
      · exact .inr ⟨(view.trans pending).trans idle, received⟩
    apply taken.inTurn
    rcases ended with rfl | rfl
    · exact Nat.zero_le 1
    · exact Nat.zero_le 1

theorem inTurn_proceed (inTurn : InTurn reads ⟨running, arriving⟩) (polls : List Bool)
    (going : ¬(running.phase = .returned ∨ running.phase = .stuck)) :
    InTurn reads ⟨running.perform call (channel.proceed call
        { outside with turns := (turnsOf polls arriving).1 } running.phase),
      if running.posts call outside then (turnsOf polls arriving).2 else arriving⟩ := by
  cases phase : running.phase with
  | dialing =>
    have unsent : Unsent reads ⟨running, arriving⟩ := by simpa [InTurn, phase] using inTurn
    simpa [RunningCall.posts, phase] using unsent.dial
  | checking =>
    have unsent : Unsent reads ⟨running, arriving⟩ := by simpa [InTurn, phase] using inTurn
    simpa [RunningCall.posts, phase] using unsent.check
  | sending data =>
    have unsent : Unsent reads ⟨running, arriving⟩ := by simpa [InTurn, phase] using inTurn
    cases sync : call.done with
    | none => exact unsent.transmitSync sync phase polls
    | some closure => simpa [RunningCall.posts, phase, sync] using unsent.transmitAsync (by simp [sync]) data
  | answered data =>
    have takesFirst : TakesFirst reads ⟨running, arriving⟩ := by simpa [InTurn, phase] using inTurn
    have unposted : running.posts call outside = false := by simp [RunningCall.posts, phase]
    rw [unposted, if_neg Bool.false_ne_true]
    apply takesFirst.perform
    · exact Keeps.bind (aside_pending.finish _ data) fun _ => Keeps.pure _
    · exact Yields.bind fun _ => Yields.pure rfl
  | returned => exact absurd (.inl phase) going
  | stuck => exact absurd (.inr phase) going

/-- While an operation is in flight, nothing has been read. -/
theorem InTurn.in_flight (inTurn : InTurn reads ⟨running, arriving⟩) {op : AsyncOp}
    (pending : running.state.pending = some op) :
    running.phase.left ≤ 1 ∧ running.received = none ∧ arriving = reads := by
  have busy : ¬Unsent reads ⟨running, arriving⟩ :=
    fun unsent => nomatch unsent.idle.symm.trans pending
  have unread : TakesFirst reads ⟨running, arriving⟩ → running.received = none ∧ arriving = reads := by
    rintro (waiting | ⟨idle, _⟩)
    · exact waiting
    · exact absurd (idle.symm.trans pending) (by simp)
  cases phase : running.phase with
  | dialing => exact absurd (by simpa [InTurn, phase] using inTurn) busy
  | checking => exact absurd (by simpa [InTurn, phase] using inTurn) busy
  | sending data => exact absurd (by simpa [InTurn, phase] using inTurn) busy
  | answered data => exact ⟨Nat.le_refl 1, unread (by simpa [InTurn, phase] using inTurn)⟩
  | returned => exact ⟨Nat.zero_le 1, unread (by simpa [InTurn, phase] using inTurn)⟩
  | stuck => exact ⟨Nat.zero_le 1, unread (by simpa [InTurn, phase] using inTurn)⟩

/-- A handler that brings no response. -/
theorem InTurn.handled (inTurn : InTurn reads ⟨running, arriving⟩) {op : AsyncOp}
    (pending : running.state.pending = some op) (state : CallState Msg) :
    InTurn reads ⟨{ running with state }, arriving⟩ := by
  obtain ⟨sent, unread⟩ := inTurn.in_flight pending
  exact TakesFirst.inTurn (.inl unread) sent

theorem InTurn.startCancel (inTurn : InTurn reads ⟨running, arriving⟩) :
    InTurn reads ⟨running.startCancel, arriving⟩ := by
  have unsent : Unsent reads ⟨running, arriving⟩ → Unsent reads ⟨running.startCancel, arriving⟩ :=
    fun ⟨free, idle, unanswered, all⟩ => ⟨free, idle, unanswered, all⟩
  have same : running.startCancel.phase = running.phase := rfl
  unfold InTurn at inTurn ⊢
  dsimp only at inTurn ⊢
  rw [same]
  split at inTurn
  · exact unsent inTurn
  · exact unsent inTurn
  · exact unsent inTurn
  · exact inTurn
  · exact inTurn
  · exact inTurn

theorem InTurn.step {receiving after : ReceivingCall Msg} {event : ReceptionEvent}
    (inTurn : InTurn reads receiving)
    (taken : receiving.step channel call outside event = some after) : InTurn reads after := by
  obtain ⟨running, arriving⟩ := receiving
  cases event with
  | proceed polls =>
    simp only [ReceivingCall.step, Option.map_eq_some_iff] at taken
    obtain ⟨next, taken, rfl⟩ := taken
    cases RunningCall.transition_of_step taken with
    | proceed going => exact inTurn_proceed inTurn polls going
  | written failed =>
    simp only [ReceivingCall.step, Option.map_eq_some_iff] at taken
    obtain ⟨next, taken, rfl⟩ := taken
    cases RunningCall.transition_of_step taken with
    | written pending => exact inTurn.handled pending _
  | read =>
    cases arriving with
    | nil => cases taken
    | cons read later =>
      simp only [ReceivingCall.step, Option.map_eq_some_iff] at taken
      obtain ⟨next, taken, rfl⟩ := taken
      cases RunningCall.transition_of_step taken with
      | read pending =>
        obtain ⟨sent, unanswered, all⟩ := inTurn.in_flight pending
        have callback : Keeps CallState.pending (channel.asyncCallback call read.1 true) :=
          aside_pending.asyncCallback read.1 true
        have idle := callback { running.state with pending := none }
        exact TakesFirst.inTurn (.inr ⟨idle, read, rfl, all.symm⟩) sent
  | readFailed message =>
    simp only [ReceivingCall.step, Option.map_eq_some_iff] at taken
    obtain ⟨next, taken, rfl⟩ := taken
    cases RunningCall.transition_of_step taken with
    | read pending => exact inTurn.handled pending _
  | cancel =>
    cases taken
    exact inTurn.startCancel

end Steps

theorem InTurn.received {reads : List Segment} {receiving : ReceivingCall Msg} {data : Bytes}
    (inTurn : InTurn reads receiving) (handed : receiving.running.received = some data) :
    reads.map Subtype.val = data :: receiving.arriving.map Subtype.val := by
  have first : TakesFirst reads receiving →
      reads.map Subtype.val = data :: receiving.arriving.map Subtype.val := by
    rintro (⟨waiting, _⟩ | ⟨_, read, received, taken⟩)
    · cases waiting.symm.trans handed
    · rw [taken, List.map_cons, Option.some.inj (received.symm.trans handed)]
  unfold InTurn at inTurn
  split at inTurn
  · exact first inTurn.takesFirst
  · exact first inTurn.takesFirst
  · exact first inTurn.takesFirst
  · exact first inTurn
  · exact first inTurn
  · exact first inTurn

/-- What a call takes for its response is the frame that the server wrote, with
nothing left over, just when the first read brings all of it. -/
theorem response_whole_iff {frame data : Bytes} (cut : Segmentation frame) {start : CallState Msg}
    (free : start.held = []) (idle : start.pending = none) {events : List ReceptionEvent}
    {final : ReceivingCall Msg}
    (reached : run (ReceivingCall.step channel call outside)
      { running := { state := start }, arriving := cut.segments } events = some final)
    (handed : final.running.received = some data) :
    (data = frame ∧ final.arriving = []) ↔ cut.reads = [frame] := by
  have unsent : Unsent cut.segments
      ({ running := { state := start }, arriving := cut.segments } : ReceivingCall Msg) :=
    ⟨free, idle, rfl, rfl⟩
  have initial : InTurn cut.segments
      ({ running := { state := start }, arriving := cut.segments } : ReceivingCall Msg) := unsent
  have inTurn := run_invariant (fun _ _ _ inTurn taken => inTurn.step taken) initial reached
  rw [← cut.reads_of_segments, inTurn.received handed, List.cons.injEq, List.map_eq_nil_iff]

end Reception

section Pongs

/-- The answer to a ping, in one read. -/
def wholePong : Segmentation pingFrame.bytes where
  reads := [pingFrame.bytes]
  sized := by decide +kernel
  whole := by simp

/-- The same answer, cut after four bytes. -/
def cutPong : Segmentation pingFrame.bytes where
  reads := [pingFrame.bytes.take 4, pingFrame.bytes.drop 4]
  sized := by decide +kernel
  whole := by simp

def pingOutside : Outside where
  instances := .ok [text "10.0.0.1:80"]
  rand := 1

/-- The call sends its request and waits for the answer. -/
def syncReads : List ReceptionEvent :=
  [.proceed [], .proceed [], .proceed [false, true], .proceed []]

def asyncReads : List ReceptionEvent :=
  [.proceed [], .proceed [], .proceed [], .written false, .read]

theorem whole_pong_received : ∃ sync async,
    run (ReceivingCall.step pingChannel pingCall pingOutside)
      { running := { state := { response := [] } }, arriving := wholePong.segments } syncReads =
        some sync ∧
    run (ReceivingCall.step pingChannel { pingCall with done := some {} } pingOutside)
      { running := { state := { response := [] } }, arriving := wholePong.segments } asyncReads =
        some async ∧
    sync.running.received = some pingFrame.bytes ∧ sync.arriving = [] ∧
    async.running.received = some pingFrame.bytes ∧ async.arriving = [] := by
  have syncRan : (run (ReceivingCall.step pingChannel pingCall pingOutside)
      { running := { state := { response := [] } }, arriving := wholePong.segments } syncReads).any
        fun final => final.running.received.isSome := by decide +kernel
  have asyncRan : (run (ReceivingCall.step pingChannel { pingCall with done := some {} } pingOutside)
      { running := { state := { response := [] } }, arriving := wholePong.segments } asyncReads).any
        fun final => final.running.received.isSome := by decide +kernel
  obtain ⟨sync, syncReached, syncReceived⟩ := (Option.any_eq_true _ _).mp syncRan
  obtain ⟨async, asyncReached, asyncReceived⟩ := (Option.any_eq_true _ _).mp asyncRan
  obtain ⟨_, syncHanded⟩ := Option.isSome_iff_exists.mp syncReceived
  obtain ⟨_, asyncHanded⟩ := Option.isSome_iff_exists.mp asyncReceived
  obtain ⟨rfl, syncLeft⟩ := (response_whole_iff wholePong rfl rfl syncReached syncHanded).mpr rfl
  obtain ⟨rfl, asyncLeft⟩ :=
    (response_whole_iff wholePong rfl rfl asyncReached asyncHanded).mpr rfl
  exact ⟨sync, async, syncReached, asyncReached, syncHanded, syncLeft, asyncHanded, asyncLeft⟩

/-- Either path takes the first four bytes for the answer and leaves the others
to the next call. -/
theorem cut_pong_torn : ∃ sync async,
    run (ReceivingCall.step pingChannel pingCall pingOutside)
      { running := { state := { response := [] } }, arriving := cutPong.segments } syncReads =
        some sync ∧
    run (ReceivingCall.step pingChannel { pingCall with done := some {} } pingOutside)
      { running := { state := { response := [] } }, arriving := cutPong.segments } asyncReads =
        some async ∧
    sync.running.received = some (pingFrame.bytes.take 4) ∧ sync.arriving ≠ [] ∧
    async.running.received = some (pingFrame.bytes.take 4) ∧ async.arriving ≠ [] := by
  have syncRan : (run (ReceivingCall.step pingChannel pingCall pingOutside)
      { running := { state := { response := [] } }, arriving := cutPong.segments } syncReads).any
        fun final => final.running.received = some (pingFrame.bytes.take 4) ∧
          final.arriving ≠ [] := by decide +kernel
  have asyncRan : (run (ReceivingCall.step pingChannel { pingCall with done := some {} } pingOutside)
      { running := { state := { response := [] } }, arriving := cutPong.segments } asyncReads).any
        fun final => final.running.received = some (pingFrame.bytes.take 4) ∧
          final.arriving ≠ [] := by decide +kernel
  obtain ⟨sync, syncReached, syncTorn⟩ := (Option.any_eq_true _ _).mp syncRan
  obtain ⟨async, asyncReached, asyncTorn⟩ := (Option.any_eq_true _ _).mp asyncRan
  obtain ⟨syncHanded, syncLeft⟩ := of_decide_eq_true syncTorn
  obtain ⟨asyncHanded, asyncLeft⟩ := of_decide_eq_true asyncTorn
  exact ⟨sync, async, syncReached, asyncReached, syncHanded, syncLeft, asyncHanded, asyncLeft⟩

end Pongs

end Xrpc
