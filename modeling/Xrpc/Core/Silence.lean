import Xrpc.Core.Endings
import Xrpc.Core.RunningCall

/-! Which calls end without a failure and without a response. -/

namespace Xrpc

open Support

section Silence
variable {Msg : Type} {channel : XrpcChannel} {call : ClientCall Msg} {outside : Outside}

/-- The caller is told that the call is over. -/
def Signalled (call : ClientCall Msg) (running : RunningCall Msg) : Prop :=
  if call.done.isSome then running.state.doneRuns ≠ [] else running.phase = .returned

/-- The response was parsed from what the server sent, a frame of status 0. -/
def Parsed (channel : XrpcChannel) (call : ClientCall Msg) (running : RunningCall Msg) : Prop :=
  ∃ data header old, running.received = some data ∧
    channel.codec.decodeResponse call.responseType data old =
      ⟨true, header, running.state.response⟩ ∧
    header.status = 0

/-- A call that has not failed has a response when it is over. -/
def NotSilent (channel : XrpcChannel) (call : ClientCall Msg) (running : RunningCall Msg) : Prop :=
  Signalled call running → running.state.controller.failed = false → Parsed channel call running

/-- A response of another status than 0 says what went wrong. -/
def Explained (channel : XrpcChannel) (call : ClientCall Msg) (data : Bytes) : Prop :=
  let decoded := channel.codec.decodeResponse call.responseType data call.responseType.create
  decoded.accepted = true → decoded.header.status ≠ 0 → decoded.header.error ≠ none

/-- An asynchronous request is sent with an `XrpcController`, unless `done` throws
and so leads to the `catch` block; what is received is explained. -/
def Outspoken (channel : XrpcChannel) (call : ClientCall Msg) (running : RunningCall Msg) :
    CallEvent → Prop
  | .proceed =>
    match running.phase with
    | .sending _ => ∀ closure, call.done = some closure → closure.throws = none → call.isXrpc = true
    | .answered data => Explained channel call data
    | _ => True
  | .read (.received data) =>
    running.state.controller.canceled = false → Explained channel call data
  | _ => True

/-- Nothing has been said about the outcome. -/
structure Untold (state : CallState Msg) : Prop where
  unfailed : state.controller.failed = false
  unfinished : state.doneRuns = []

/-- A call that is not over, or has failed, or has a response. -/
def Fair (channel : XrpcChannel) (call : ClientCall Msg) (running : RunningCall Msg) : Prop :=
  match running.phase, running.state.pending with
  | .dialing, none | .checking, none | .sending _, none =>
    Untold running.state ∧ running.state.held = [] ∧ running.received = none
  | .answered data, none =>
    Untold running.state ∧ call.done = none ∧ running.received = some data
  | .returned, none => running.state.controller.failed = true ∨ Parsed channel call running
  | .returned, some _ => Untold running.state ∧ call.done.isSome = true
  | .stuck, none => call.done = none
  | _, _ => False

/-- A call that is over, has not failed and has no response. -/
structure Silent (channel : XrpcChannel) (call : ClientCall Msg) (running : RunningCall Msg) :
    Prop where
  returned : running.phase = .returned
  idle : running.state.pending = none
  signalled : Signalled call running
  unfailed : running.state.controller.failed = false
  unparsed : ¬ Parsed channel call running

variable {running next : RunningCall Msg} {state : CallState Msg}

theorem Fair.notSilent (fair : Fair channel call running) : NotSilent channel call running := by
  intro signalled unfailed
  unfold Fair at fair
  unfold Signalled at signalled
  split at fair
  next early _ => simp [early, fair.1.unfinished] at signalled
  next early _ => simp [early, fair.1.unfinished] at signalled
  next early _ => simp [early, fair.1.unfinished] at signalled
  next answered _ => simp [answered, fair.2.1] at signalled
  next => exact fair.resolve_left (by simp [unfailed])
  next => simp [fair.1.unfinished, fair.2] at signalled
  next stuck _ => simp [stuck, fair] at signalled
  next => exact fair.elim

theorem Silent.silent (silent : Silent channel call running) : ¬ NotSilent channel call running :=
  fun notSilent => silent.unparsed (notSilent silent.signalled silent.unfailed)

/-- Nothing happens to such a call any more. -/
theorem Silent.step (silent : Silent channel call running) {event : CallEvent}
    (taken : RunningCall.step channel call outside running event = some next) :
    Silent channel call next := by
  cases RunningCall.transition_of_step taken with
  | proceed going => exact absurd (.inl silent.returned) going
  | written pending => exact nomatch silent.idle.symm.trans pending
  | read pending => exact nomatch silent.idle.symm.trans pending
  | cancel =>
    exact ⟨silent.returned, silent.idle, silent.signalled,
      (XrpcController.startCancel_failed _).trans silent.unfailed, silent.unparsed⟩

section Frames
variable {data : Bytes} {old : Msg}

/-- An answer that fails the call is explained. -/
theorem explained_of_rejected
    (rejected : ¬ (channel.codec.decodeResponse call.responseType data old).Passes) :
    Explained channel call data := by
  obtain ⟨sameFlag, sameHeader⟩ :=
    channel.codec.decodeResponse_congr call.responseType data call.responseType.create old
  intro accepted bad silent
  refine rejected ⟨?_, .inr ?_⟩
  · rw [← sameFlag]
    exact accepted
  · rw [← sameHeader]
    exact silent

/-- An answer that does not fail the call is explained by its status 0 alone. -/
theorem explained_iff_of_passes
    (passes : (channel.codec.decodeResponse call.responseType data old).Passes) :
    Explained channel call data ↔
      (channel.codec.decodeResponse call.responseType data old).header.status = 0 := by
  obtain ⟨sameFlag, sameHeader⟩ :=
    channel.codec.decodeResponse_congr call.responseType data call.responseType.create old
  obtain ⟨accepted, ending⟩ := passes
  rw [Explained, sameFlag, sameHeader]
  constructor
  · intro explained
    rcases ending with zero | silent
    · exact zero
    · by_contra bad
      exact explained accepted bad silent
  · intro zero _ bad
    exact absurd zero bad

theorem parsed_iff_of_passes {phase : Phase}
    (passes : (channel.codec.decodeResponse call.responseType data old).Passes)
    {state : CallState Msg}
    (filled : state.response = (channel.codec.decodeResponse call.responseType data old).body) :
    Parsed channel call { state, phase, received := some data } ↔
      (channel.codec.decodeResponse call.responseType data old).header.status = 0 := by
  constructor
  · rintro ⟨_, header, other, ⟨rfl⟩, decoded, zero⟩
    have same := (channel.codec.decodeResponse_congr call.responseType data old other).2
    rw [same, decoded]
    exact zero
  · intro zero
    refine ⟨data, _, old, rfl, ?_, zero⟩
    rw [filled, ← passes.1]

end Frames

section Steps

theorem fair_of_over (returned : running.phase = .returned) (settled : Over running.state) :
    Fair channel call running := by
  unfold Fair
  simp only [returned, settled.idle]
  exact .inl settled.failed

theorem fair_of_parsed (returned : running.phase = .returned) (idle : running.state.pending = none)
    (parsed : Parsed channel call running) : Fair channel call running := by
  unfold Fair
  simp only [returned, idle]
  exact .inr parsed

/-- The `catch` block fails the call. -/
theorem fair_thrown {body : Effect (CallState Msg) Phase} {what : Bytes} {after : CallState Msg}
    (thrown : body.run running.state = .error (.exception what) after)
    (idle : after.pending = none) : Fair channel call (running.perform call body) := by
  have failing : Fails (fail call what) after := fails_fail what idle
  obtain ⟨last, returned | ⟨text, rethrown⟩, settled⟩ := failing
  · refine fair_of_over ?_ ?_
    · rw [RunningCall.perform, catchStd_exception thrown, EStateM.run_bind, returned]
      rfl
    · rw [RunningCall.perform, catchStd_exception thrown, EStateM.run_bind, returned]
      exact settled
  · refine fair_of_over ?_ ?_
    · rw [RunningCall.perform, catchStd_exception thrown, EStateM.run_bind, rethrown]
    · rw [RunningCall.perform, catchStd_exception thrown, EStateM.run_bind, rethrown]
      exact settled

theorem fair_ended {body : Effect (CallState Msg) Phase} {after : CallState Msg}
    (ended : body.run running.state = .ok .returned after ∨
      ∃ what, body.run running.state = .error (.exception what) after)
    (settled : Over after) : Fair channel call (running.perform call body) := by
  rcases ended with returned | ⟨what, thrown⟩
  · rw [RunningCall.perform, catchStd_ok returned]
    exact fair_of_over rfl settled
  · exact fair_thrown thrown settled.idle

theorem fair_fails {body : Effect (CallState Msg) Unit} (fails : Fails body running.state) :
    Fair channel call (running.perform call (body >>= fun _ => pure .returned)) := by
  obtain ⟨after, returned | ⟨what, thrown⟩, settled⟩ := fails
  · refine fair_ended (.inl ?_) settled
    rw [EStateM.run_bind, returned]
    rfl
  · exact fair_ended (.inr ⟨what, bind_error thrown _⟩) settled

theorem fair_dial (untold : Untold running.state) (free : running.state.held = [])
    (idle : running.state.pending = none) (unanswered : running.received = none) :
    Fair channel call (running.perform call (channel.proceed call outside .dialing)) := by
  obtain ⟨transport, dialed | ⟨what, thrown⟩⟩ := channel.proceed_dialing call outside free
  · rw [RunningCall.perform, catchStd_ok dialed]
    simp only [Fair, idle]
    exact ⟨⟨untold.unfailed, untold.unfinished⟩, free, unanswered⟩
  · exact fair_thrown thrown idle

theorem fair_check (untold : Untold running.state) (free : running.state.held = [])
    (idle : running.state.pending = none) (unanswered : running.received = none) :
    Fair channel call (running.perform call (channel.proceed call outside .checking)) := by
  rcases channel.check_cases call outside running.state with ran | ⟨data, ran⟩ | ⟨what, thrown⟩
  · rw [XrpcChannel.proceed, RunningCall.perform_congr ran]
    exact fair_fails (fails_fail _ idle)
  · rw [XrpcChannel.proceed, RunningCall.perform, catchStd_ok ran]
    simp only [Fair, idle]
    exact ⟨untold, free, unanswered⟩
  · exact fair_thrown thrown idle

/-- The step was what it should be, or the call is now silent. -/
def Decides (channel : XrpcChannel) (call : ClientCall Msg) (running : RunningCall Msg)
    (event : CallEvent) (next : RunningCall Msg) : Prop :=
  Outspoken channel call running event ∧ Fair channel call next ∨
    ¬ Outspoken channel call running event ∧ Silent channel call next

theorem decides_send_async {closure : Closure} {data : Bytes} (phase : running.phase = .sending data)
    (async : call.done = some closure) (untold : Untold running.state)
    (free : running.state.held = []) (idle : running.state.pending = none)
    (unanswered : running.received = none) :
    Decides channel call running .proceed
      (running.perform call (channel.proceed call outside (.sending data))) := by
  have ran : (channel.proceed call outside (.sending data)).run running.state =
      (channel.sendRequestAsync call data >>= fun _ => pure Phase.returned).run running.state := by
    rw [XrpcChannel.proceed, XrpcChannel.transmit, if_pos (by simp [async])]
  rw [RunningCall.perform_congr ran]
  simp only [Decides, Outspoken, phase, async, Option.some.injEq, forall_eq']
  cases isXrpc : call.isXrpc with
  | true =>
    refine .inl ⟨fun _ => rfl, ?_⟩
    cases opened : running.state.transport.isOpen with
    | false => exact fair_fails (fails_sendRequestAsync isXrpc free idle opened data)
    | true =>
      have sent : (channel.sendRequestAsync call data >>= fun _ => pure Phase.returned).run
          running.state = .ok .returned { running.state with
            transport := running.state.transport.record data
            pending := some .writing } := by
        rw [EStateM.run_bind, channel.run_sendRequestAsync_open isXrpc free opened]
        rfl
      rw [RunningCall.perform, catchStd_ok sent]
      exact ⟨⟨untold.unfailed, untold.unfinished⟩, by simp [async]⟩
  | false =>
    have ended : (channel.sendRequestAsync call data).run running.state = _ :=
      run_sendRequestAsync_other async isXrpc free data
    cases throws : closure.throws with
    | some what =>
      rw [throws] at ended
      exact .inl ⟨by simp, fair_thrown (bind_error ended _) idle⟩
    | none =>
      rw [throws] at ended
      have sent : (channel.sendRequestAsync call data >>= fun _ => pure Phase.returned).run
          running.state = .ok .returned { running.state with
            doneRuns := running.state.doneRuns ++ [[.channel]] } := by
        rw [EStateM.run_bind, ended]
        rfl
      rw [RunningCall.perform, catchStd_ok sent]
      refine .inr ⟨by simp, rfl, idle, ?_, untold.unfailed, ?_⟩
      · simp [Signalled, async]
      · rintro ⟨bytes, header, old, received, -⟩
        simp [Phase.answer?, unanswered] at received

/-- Without a closure there is nothing to sound out before the answer. -/
theorem fair_send_sync {data : Bytes} (sync : call.done = none) (untold : Untold running.state)
    (free : running.state.held = []) (idle : running.state.pending = none) :
    Fair channel call
      (running.perform call (channel.proceed call outside (.sending data))) := by
  have sent := run_guarded free (AsioClient.send outside.writeFails outside.turns data)
  have ran : channel.proceed call outside (.sending data) =
      channel.transmit call outside data := rfl
  rw [XrpcChannel.transmit, if_neg (by simp [sync]), XrpcChannel.sendRequest] at ran
  rw [ran]
  cases result : (AsioClient.send outside.writeFails outside.turns data).run
      running.state.transport with
  | ok response transport =>
    rw [result] at sent
    cases response with
    | some responseData =>
      rw [RunningCall.perform, catchStd_bind_ok sent]
      simp only [Fair, idle]
      exact ⟨⟨untold.unfailed, untold.unfinished⟩, sync, rfl⟩
    | none =>
      have failed : (fail call (text "Failed to send request")).run
          { running.state with transport } = _ := run_fail_sync sync _ _
      have settled : Over { running.state with
          transport
          controller := running.state.controller.setFailed (text "Failed to send request") } :=
        ⟨rfl, idle⟩
      refine fair_ended (.inl ?_) settled
      rw [EStateM.run_bind, sent]
      dsimp only
      rw [EStateM.run_bind, failed]
      rfl
  | error exit transport =>
    rw [result] at sent
    cases exit with
    | exception what => exact fair_thrown (bind_error sent _) idle
    | hang =>
      rw [RunningCall.perform, catchStd_hang (bind_error sent _)]
      simp only [Fair, idle]
      exact sync

/-- An answer that does not fail the call has status 0 or makes it silent. -/
theorem fair_or_silent {data : Bytes} {old : Msg}
    (passes : (channel.codec.decodeResponse call.responseType data old).Passes)
    (returned : running.phase = .returned) (signalled : Signalled call running)
    (unfailed : running.state.controller.failed = false) (idle : running.state.pending = none)
    (received : running.received = some data)
    (filled : running.state.response =
      (channel.codec.decodeResponse call.responseType data old).body) :
    ((channel.codec.decodeResponse call.responseType data old).header.status = 0 ∧
        Fair channel call running) ∨
      ((channel.codec.decodeResponse call.responseType data old).header.status ≠ 0 ∧
        Silent channel call running) := by
  obtain ⟨state, phase, bytes⟩ := running
  subst received
  have parsed : Parsed channel call { state, phase, received := some data } ↔ _ :=
    parsed_iff_of_passes passes filled
  by_cases zero : (channel.codec.decodeResponse call.responseType data old).header.status = 0
  · exact .inl ⟨zero, fair_of_parsed returned idle (parsed.mpr zero)⟩
  · exact .inr ⟨zero, returned, idle, signalled, unfailed, fun shown => zero (parsed.mp shown)⟩

/-- A synchronous call is over when its answer is taken in. -/
theorem decides_answer {data : Bytes} (phase : running.phase = .answered data)
    (sync : call.done = none) (untold : Untold running.state) (idle : running.state.pending = none)
    (received : running.received = some data) :
    Decides channel call running .proceed
      (running.perform call (channel.proceed call outside (.answered data))) := by
  simp only [Decides, Outspoken, phase]
  have finished : _ ∨ _ ∧ (channel.finish call "Failed to decode response" data).run
      running.state = _ := ends_finish "Failed to decode response" data idle
  rcases finished with ⟨rejected, fails⟩ | ⟨passes, ran⟩
  · exact .inl ⟨explained_of_rejected rejected, fair_fails fails⟩
  · have returned : (channel.proceed call outside (.answered data)).run running.state =
        .ok .returned { running.state with
          response := (channel.codec.decodeResponse call.responseType data
            running.state.response).body } := by
      rw [XrpcChannel.proceed, EStateM.run_bind, ran, sync]
      rfl
    rw [RunningCall.perform, catchStd_ok returned, explained_iff_of_passes passes]
    refine fair_or_silent passes rfl ?_ untold.unfailed idle ?_ rfl
    · simp [Signalled, sync]
    · simpa [Phase.answer?] using received

/-- The handlers of a call that has returned. -/
theorem decides_read {read : ReadCompletion} (returned : running.phase = .returned)
    (async : call.done.isSome = true) (untold : Untold running.state) :
    Decides channel call running (.read read)
      { running.handle (channel.handleClientAsyncRead call read) with
        received := read.outcome.or running.received } := by
  cases read with
  | failed message =>
    have failing : Fails (channel.asyncCallback call [] false)
        { running.state with pending := none } := fails_fail _ rfl
    obtain ⟨after, ends, settled⟩ := failing
    have left : stateAfter ((channel.handleClientAsyncRead call (.failed message)).run
        running.state) = after := ends.stateAfter
    refine .inl ⟨trivial, fair_of_over returned ?_⟩
    rw [RunningCall.handle, left]
    exact settled
  | received segment =>
    have called : _ ∨ _ ∧ _ ∧ _ ∧ (channel.asyncCallback call segment.1 true).run
        { running.state with pending := none } = _ := ends_asyncCallback segment.1 true rfl
    simp only [Decides, Outspoken]
    rcases called with ⟨rejected, after, ends, settled⟩ | ⟨-, active, passes, ran⟩
    · have left : stateAfter ((channel.handleClientAsyncRead call (.received segment)).run
          running.state) = after := ends.stateAfter
      refine .inl ⟨fun active => explained_of_rejected (rejected rfl active),
        fair_of_over returned ?_⟩
      dsimp only
      rw [RunningCall.handle, left]
      exact settled
    · have left : stateAfter ((channel.handleClientAsyncRead call (.received segment)).run
          running.state) = _ := (congrArg stateAfter ran).trans (ends_runDone call.done _).stateAfter
      have explained : (running.state.controller.canceled = false →
          Explained channel call segment.1) ↔ _ :=
        (forall_prop_of_true active).trans (explained_iff_of_passes passes)
      rw [explained, RunningCall.handle, left]
      refine fair_or_silent passes returned ?_ untold.unfailed rfl rfl rfl
      obtain ⟨closure, done⟩ := Option.isSome_iff_exists.mp async
      simp [Signalled, done]

theorem fair_written {failed : Bool} (returned : running.phase = .returned)
    (async : call.done.isSome = true) (untold : Untold running.state) :
    Fair channel call (running.handle (channel.handleClientAsyncWrite call failed)) := by
  cases failed with
  | true =>
    have failing : Fails (channel.asyncCallback call [] false)
        { running.state with pending := none } := fails_fail _ rfl
    obtain ⟨after, ends, settled⟩ := failing
    have left : stateAfter ((channel.handleClientAsyncWrite call true).run running.state) = after :=
      ends.stateAfter
    refine fair_of_over returned ?_
    rw [RunningCall.handle, left]
    exact settled
  | false =>
    unfold Fair
    simp only [RunningCall.handle, returned]
    exact ⟨⟨untold.unfailed, untold.unfinished⟩, async⟩

/-- The caller's next step. -/
theorem Fair.proceed (fair : Fair channel call running)
    (going : ¬ (running.phase = .returned ∨ running.phase = .stuck)) :
    Decides channel call running .proceed
      (running.perform call (channel.proceed call outside running.phase)) := by
  unfold Fair at fair
  split at fair
  next phase idle =>
    rw [phase]
    exact .inl ⟨by simp [Outspoken, phase], fair_dial fair.1 fair.2.1 idle fair.2.2⟩
  next phase idle =>
    rw [phase]
    exact .inl ⟨by simp [Outspoken, phase], fair_check fair.1 fair.2.1 idle fair.2.2⟩
  next data phase idle =>
    rw [phase]
    cases done : call.done with
    | none =>
      exact .inl ⟨by simp [Outspoken, phase, done], fair_send_sync done fair.1 fair.2.1 idle⟩
    | some closure => exact decides_send_async phase done fair.1 fair.2.1 idle fair.2.2
  next data phase idle =>
    rw [phase]
    exact decides_answer phase fair.2.1 fair.1 idle fair.2.2
  next phase _ => exact absurd (.inl phase) going
  next phase _ => exact absurd (.inl phase) going
  next phase _ => exact absurd (.inr phase) going
  next => exact fair.elim

theorem Fair.in_flight (fair : Fair channel call running) {op : AsyncOp}
    (pending : running.state.pending = some op) :
    running.phase = .returned ∧ Untold running.state ∧ call.done.isSome = true := by
  unfold Fair at fair
  split at fair
  next idle => exact nomatch idle.symm.trans pending
  next idle => exact nomatch idle.symm.trans pending
  next idle => exact nomatch idle.symm.trans pending
  next idle => exact nomatch idle.symm.trans pending
  next idle => exact nomatch idle.symm.trans pending
  next returned _ => exact ⟨returned, fair.1, fair.2⟩
  next idle => exact nomatch idle.symm.trans pending
  next => exact fair.elim

theorem Fair.cancel (fair : Fair channel call running) : Fair channel call running.startCancel := by
  have same := XrpcController.startCancel_failed running.state.controller
  have untold : Untold running.state → Untold running.startCancel.state :=
    fun told => ⟨same.trans told.unfailed, told.unfinished⟩
  have samePhase : running.startCancel.phase = running.phase := rfl
  have samePending : running.startCancel.state.pending = running.state.pending := rfl
  unfold Fair at fair ⊢
  rw [samePhase, samePending]
  split at fair
  · exact ⟨untold fair.1, fair.2⟩
  · exact ⟨untold fair.1, fair.2⟩
  · exact ⟨untold fair.1, fair.2⟩
  · exact ⟨untold fair.1, fair.2⟩
  · exact fair.imp_left same.trans
  · exact ⟨untold fair.1, fair.2⟩
  · exact fair
  · exact fair.elim

theorem Fair.decides (fair : Fair channel call running) {event : CallEvent}
    (taken : RunningCall.step channel call outside running event = some next) :
    Decides channel call running event next := by
  cases RunningCall.transition_of_step taken with
  | proceed going => exact fair.proceed going
  | written pending =>
    obtain ⟨returned, untold, async⟩ := fair.in_flight pending
    exact .inl ⟨trivial, fair_written returned async untold⟩
  | read pending =>
    obtain ⟨returned, untold, async⟩ := fair.in_flight pending
    exact decides_read returned async untold
  | cancel => exact .inl ⟨trivial, fair.cancel⟩

end Steps

/-- A call that has not failed has a response when it is over, if and only if all
its steps were outspoken. -/
theorem not_silent_iff_outspoken {start : CallState Msg} (free : start.held = [])
    (idle : start.pending = none) (unfinished : start.doneRuns = [])
    (unfailed : start.controller.failed = false) {events : List CallEvent}
    (reached : run (RunningCall.step channel call outside) { state := start } events =
      some running) :
    NotSilent channel call running ↔
      Along (RunningCall.step channel call outside) (Outspoken channel call) { state := start }
        events := by
  have initial : Fair channel call { state := start } := by
    unfold Fair
    simp only [idle]
    exact ⟨⟨unfailed, unfinished⟩, free, trivial⟩
  have kept : ∀ before event after, Fair channel call before → Outspoken channel call before event →
      RunningCall.step channel call outside before event = some after → Fair channel call after := by
    intro before event after fair outspoken taken
    rcases fair.decides taken with ⟨_, later⟩ | ⟨quiet, _⟩
    · exact later
    · exact absurd outspoken quiet
  have falls : ∀ before event after, Fair channel call before → ¬ Outspoken channel call before event →
      RunningCall.step channel call outside before event = some after → Silent channel call after := by
    intro before event after fair quiet taken
    rcases fair.decides taken with ⟨outspoken, _⟩ | ⟨_, silent⟩
    · exact absurd outspoken quiet
    · exact silent
  exact along_iff kept falls (fun _ _ _ silent taken => silent.step taken)
    (fun _ fair => fair.notSilent) (fun _ silent => silent.silent) initial reached

end Silence

section Ping

instance {Msg : Type} (channel : XrpcChannel) (call : ClientCall Msg) (data : Bytes) :
    Decidable (Explained channel call data) :=
  inferInstanceAs (Decidable (_ → _ → _))

instance {Msg : Type} (channel : XrpcChannel) (call : ClientCall Msg) (running : RunningCall Msg)
    (event : CallEvent) : Decidable (Outspoken channel call running event) := by
  unfold Outspoken
  split
  · split
    · exact decidable_of_iff (∀ closure ∈ call.done, closure.throws = none → call.isXrpc = true)
        Iff.rfl
    · infer_instance
    · infer_instance
  · infer_instance
  · infer_instance

theorem answered_ping_parsed : ∃ running,
    run (RunningCall.step pingChannel pingCall
        { instances := .ok [text "10.0.0.1:80"]
          rand := 1
          turns := [.completed (.received pingRead)] })
      { state := { response := [] } } (List.replicate 4 .proceed) = some running ∧
    running.state.controller.failed = false ∧ Parsed pingChannel pingCall running := by
  have ran : (run (RunningCall.step pingChannel pingCall
        { instances := .ok [text "10.0.0.1:80"]
          rand := 1
          turns := [.completed (.received pingRead)] })
      { state := { response := [] } } (List.replicate 4 .proceed)).any fun running =>
        running.phase = .returned ∧ running.state.controller.failed = false := by decide +kernel
  obtain ⟨running, reached, outcome⟩ := (Option.any_eq_true _ _).mp ran
  obtain ⟨returned, unfailed⟩ := of_decide_eq_true outcome
  have notSilent := (not_silent_iff_outspoken rfl rfl rfl rfl reached).mpr (by decide +kernel)
  exact ⟨running, reached, unfailed, notSilent returned unfailed⟩

/-- With another controller the closure is run for a request that was never sent. -/
theorem other_controller_silent : ∃ running,
    run (RunningCall.step pingChannel { pingCall with isXrpc := false, done := some {} }
        { instances := .ok [text "10.0.0.1:80"], rand := 1 }) { state := { response := [] } }
      (List.replicate 3 .proceed) = some running ∧
    running.state.transport.written = [] ∧
    ¬ NotSilent pingChannel { pingCall with isXrpc := false, done := some {} } running := by
  have ran : (run (RunningCall.step pingChannel { pingCall with isXrpc := false, done := some {} }
        { instances := .ok [text "10.0.0.1:80"], rand := 1 }) { state := { response := [] } }
      (List.replicate 3 .proceed)).any fun running =>
        running.state.transport.written = [] ∧ running.state.doneRuns ≠ [] ∧
        running.state.controller.failed = false ∧ running.received = none := by decide +kernel
  obtain ⟨running, reached, outcome⟩ := (Option.any_eq_true _ _).mp ran
  obtain ⟨unsent, signalled, unfailed, unanswered⟩ := of_decide_eq_true outcome
  refine ⟨running, reached, unsent, ?_⟩
  intro notSilent
  obtain ⟨data, header, old, received, -⟩ := notSilent signalled unfailed
  exact nomatch unanswered.symm.trans received

end Ping

end Xrpc
