import Xrpc.Core.Closures

/-! A closure that throws, inside and outside the `try` block of `CallMethod`. -/

namespace Xrpc

open Support

variable {Msg : Type} {channel : XrpcChannel} {call : ClientCall Msg} {outside : Outside}
  {closure : Closure} {state : CallState Msg} {running next : RunningCall Msg}

/-- The next step of the caller runs the closure in the `try` block: the call has been
cancelled before it is sent, or its request cannot be sent. -/
def InTry (call : ClientCall Msg) (state : CallState Msg) : Phase → Prop
  | .checking => call.isXrpc = true ∧ state.controller.canceled = true
  | .sending _ => ¬ (call.isXrpc = true ∧ state.transport.isOpen = true)
  | _ => False

instance (call : ClientCall Msg) (state : CallState Msg) : ∀ phase, Decidable (InTry call state phase)
  | .checking => inferInstanceAs (Decidable (_ ∧ _))
  | .sending _ => inferInstanceAs (Decidable (¬ _))
  | .dialing | .answered _ | .returned | .stuck => .isFalse id

def RunsInside (call : ClientCall Msg) (running : RunningCall Msg) (event : CallEvent) : Prop :=
  event = .proceed ∧ InTry call running.state running.phase

instance (call : ClientCall Msg) (running : RunningCall Msg) (event : CallEvent) :
    Decidable (RunsInside call running event) := inferInstanceAs (Decidable (_ ∧ _))

section Outside
variable (async : call.done = some closure)
include async

/-- Whether the closure throws or not, it has run once more. -/
theorem Owing.runs (owing : Owing state) {body : Effect (CallState Msg) Unit}
    (runs : RunsDone call body) : ∃ after, Ends body state after ∧ Handed after := by
  obtain ⟨after, ends, held, pending, more⟩ := runs state
  refine ⟨after, ends, held.trans owing.free, ?_⟩
  rw [pending, more, owing.unfinished, owing.idle, async]
  rfl

/-- What throws before the closure has run leaves it to the `catch` block. -/
theorem once_caught {body : Effect (CallState Msg) Phase} {what : Bytes} {after : CallState Msg}
    (thrown : body.run running.state = .error (.exception what) after) (owing : Owing after) :
    Once (running.perform call body) := by
  obtain ⟨last, ends, handed⟩ := owing.runs async (runsDone_fail what)
  rw [RunningCall.perform, catchStd_exception thrown, EStateM.run_bind]
  rcases ends with returned | ⟨other, raised⟩
  · rw [returned]
    exact handed
  · rw [raised]
    exact handed

omit async in
theorem check_uncanceled (channel : XrpcChannel) (outside : Outside)
    (live : ¬ (call.isXrpc = true ∧ state.controller.canceled = true)) :
    (∃ data, (channel.check call outside).run state = .ok (.sending data) state) ∨
      ∃ what, (channel.check call outside).run state = .error (.exception what) state := by
  rw [XrpcChannel.check, EStateM.run_bind, EStateM.run_get]
  dsimp only
  rw [if_neg (by simpa using live)]
  cases channel.codec.encode call.requestType (XrpcChannel.header call outside) call.request with
  | ok data => exact .inl ⟨data, rfl⟩
  | error message => exact .inr ⟨_, rfl⟩

theorem once_proceed_outside (once : Once running)
    (apart : ¬ InTry call running.state running.phase)
    (going : ¬ (running.phase = .returned ∨ running.phase = .stuck)) :
    Once (running.perform call (channel.proceed call outside running.phase)) := by
  cases phase : running.phase with
  | dialing =>
    have owing : Owing running.state := by rwa [Once, phase] at once
    obtain ⟨transport, dialed | ⟨what, thrown⟩⟩ := channel.proceed_dialing call outside owing.free
    · rw [RunningCall.perform, catchStd_ok dialed]
      exact ⟨owing.free, owing.idle, owing.unfinished⟩
    · exact once_caught async thrown ⟨owing.free, owing.idle, owing.unfinished⟩
  | checking =>
    have owing : Owing running.state := by rwa [Once, phase] at once
    have live : ¬ (call.isXrpc = true ∧ running.state.controller.canceled = true) := by
      simpa only [InTry, phase] using apart
    rw [XrpcChannel.proceed]
    rcases check_uncanceled channel outside live with
      ⟨data, ran⟩ | ⟨what, thrown⟩
    · rw [RunningCall.perform, catchStd_ok ran]
      exact owing
    · exact once_caught async thrown owing
  | sending data =>
    have owing : Owing running.state := by rwa [Once, phase] at once
    obtain ⟨isXrpc, opened⟩ : call.isXrpc = true ∧ running.state.transport.isOpen = true := by
      simpa only [InTry, phase, not_not] using apart
    have sent := channel.run_sendRequestAsync_open isXrpc owing.free opened data
    have ran : (channel.proceed call outside (.sending data)).run running.state =
        .ok .returned { running.state with
          transport := running.state.transport.record data
          pending := some .writing } := by
      rw [XrpcChannel.proceed, XrpcChannel.transmit, if_pos (by simp [async]), EStateM.run_bind, sent]
      rfl
    rw [RunningCall.perform, catchStd_ok ran]
    exact ⟨owing.free, by simp [owing.unfinished]⟩
  | answered responseData =>
    rw [Once, phase] at once
    exact once.elim
  | returned => exact absurd (.inl phase) going
  | stuck => exact absurd (.inr phase) going

/-- The handlers run outside `CallMethod`, and once. -/
theorem once_handled {handler : Effect (CallState Msg) Unit} {bytes : Bytes} {success : Bool}
    (returned : running.phase = .returned) (owing : Owing { running.state with pending := none })
    (same : handler.run running.state =
      (channel.asyncCallback call bytes success).run { running.state with pending := none }) :
    Once (running.handle handler) := by
  obtain ⟨after, ends, handed⟩ :=
    owing.runs async (runsDone_asyncCallback channel call bytes success)
  rw [Once, RunningCall.handle, returned, same, ends.stateAfter]
  exact handed

theorem Once.step_outside (once : Once running) {event : CallEvent}
    (apart : ¬ RunsInside call running event)
    (taken : RunningCall.step channel call outside running event = some next) : Once next := by
  cases RunningCall.transition_of_step taken with
  | proceed going => exact once_proceed_outside async once (fun inside => apart ⟨rfl, inside⟩) going
  | @written failed pending =>
    obtain ⟨returned, owing⟩ := once.in_flight pending
    cases failed with
    | true =>
      have same : (channel.handleClientAsyncWrite call true).run running.state =
        (channel.asyncCallback call [] false).run { running.state with pending := none } := rfl
      exact once_handled async returned owing same
    | false =>
      have unfinished : running.state.doneRuns = [] := owing.unfinished
      rw [Once, RunningCall.handle, returned]
      exact ⟨owing.free, by simp [XrpcChannel.handleClientAsyncWrite, unfinished]⟩
  | @read read pending =>
    obtain ⟨returned, owing⟩ := once.in_flight pending
    have handled : Once (running.handle (channel.handleClientAsyncRead call read)) := by
      cases read with
      | received bytes =>
        have same : (channel.handleClientAsyncRead call (.received bytes)).run running.state =
          (channel.asyncCallback call bytes true).run { running.state with pending := none } := rfl
        exact once_handled async returned owing same
      | failed message =>
        have same : (channel.handleClientAsyncRead call (.failed message)).run running.state =
          (channel.asyncCallback call [] false).run { running.state with pending := none } := rfl
        exact once_handled async returned owing same
    exact handled
  | cancel => exact once.startCancel

end Outside

section Twice
variable {what : Bytes} (async : call.done = some closure) (throws : closure.throws = some what)
include async throws

theorem run_fail_throwing (reason : Bytes) (state : CallState Msg) :
    (fail call reason).run state = .error (.exception what)
      { state with
        controller := state.controller.setFailed reason
        doneRuns := state.doneRuns ++ [state.held] } := by
  simp [fail, setFailed, runDone, async, throws, EStateM.run_bind]

/-- The closure has run twice, and nothing will run it again. -/
structure RanTwice (running : RunningCall Msg) : Prop where
  ended : running.phase = .returned
  idle : running.state.pending = none
  twice : running.state.doneRuns.length = 2

/-- The `catch` block runs the closure that has thrown. -/
theorem ranTwice_caught {body : Effect (CallState Msg) Phase} {other : Bytes}
    {after : CallState Msg} (thrown : body.run running.state = .error (.exception other) after)
    (idle : after.pending = none) (ran : after.doneRuns.length = 1) :
    RanTwice (running.perform call body) := by
  have again := run_fail_throwing async throws other after
  rw [RunningCall.perform, catchStd_exception thrown, EStateM.run_bind, again]
  exact ⟨rfl, idle, by simp [ran]⟩

/-- A request that cannot be sent leaves `SendRequestAsync` with the closure's exception. -/
theorem unsent_throws (channel : XrpcChannel) (free : state.held = [])
    (unfit : ¬ (call.isXrpc = true ∧ state.transport.isOpen = true)) (data : Bytes) :
    ∃ after, (channel.sendRequestAsync call data).run state = .error (.exception what) after ∧
      after.pending = state.pending ∧ after.doneRuns.length = state.doneRuns.length + 1 := by
  cases isXrpc : call.isXrpc with
  | false =>
    refine ⟨{ state with doneRuns := state.doneRuns ++ [[.channel]] }, ?_, rfl, by simp⟩
    rw [run_sendRequestAsync_other async isXrpc free, throws]
  | true =>
    have closed : state.transport.isOpen = false := by simpa [isXrpc] using unfit
    refine ⟨{ state with
      controller := state.controller.setFailed (text "Failed to send async request")
      doneRuns := state.doneRuns ++ [[.socket, .channel]] }, ?_, rfl, by simp⟩
    have failed := run_fail_throwing async throws (text "Failed to send async request")
      { state with held := [.socket, .channel] }
    simp [XrpcChannel.sendRequestAsync, XrpcChannel.sendAsync, XrpcChannel.asyncCallback,
      run_withLock, free, isXrpc, closed, EStateM.run_bind, failed]

omit async throws in
theorem check_canceled (channel : XrpcChannel) (outside : Outside)
    (canceled : call.isXrpc = true ∧ state.controller.canceled = true) :
    (channel.check call outside).run state =
      (fail call (text "Request was canceled before sending") >>= fun _ =>
        pure Phase.returned).run state := by
  rw [XrpcChannel.check, EStateM.run_bind, EStateM.run_get]
  dsimp only
  rw [if_pos (by simpa using canceled)]

/-- A throwing closure that is run in the `try` block is run again by the `catch` block. -/
theorem ranTwice_step (once : Once running) {event : CallEvent}
    (inside : RunsInside call running event)
    (taken : RunningCall.step channel call outside running event = some next) : RanTwice next := by
  obtain ⟨rfl, inside⟩ := inside
  cases RunningCall.transition_of_step taken with
  | proceed going =>
    cases phase : running.phase with
    | checking =>
      rw [phase] at inside
      have owing : Owing running.state := by rwa [Once, phase] at once
      have failed := run_fail_throwing async throws (text "Request was canceled before sending")
        running.state
      have thrown := bind_error failed fun _ => pure Phase.returned
      rw [← check_canceled channel outside inside] at thrown
      exact ranTwice_caught async throws thrown owing.idle (by simp [owing.unfinished])
    | sending data =>
      rw [phase] at inside
      have owing : Owing running.state := by rwa [Once, phase] at once
      obtain ⟨after, failed, pending, ran⟩ :=
        unsent_throws async throws channel owing.free inside data
      have thrown : (channel.proceed call outside (.sending data)).run running.state =
          .error (.exception what) after := by
        rw [XrpcChannel.proceed, XrpcChannel.transmit, if_pos (by simp [async])]
        exact bind_error failed _
      exact ranTwice_caught async throws thrown (pending.trans owing.idle)
        (by simp [ran, owing.unfinished])
    | dialing => simp [phase, InTry] at inside
    | answered responseData => simp [phase, InTry] at inside
    | returned => exact absurd (.inl phase) going
    | stuck => exact absurd (.inr phase) going

omit async throws in
theorem RanTwice.step (twice : RanTwice running) {event : CallEvent}
    (taken : RunningCall.step channel call outside running event = some next) : RanTwice next := by
  cases RunningCall.transition_of_step taken with
  | proceed going => exact absurd (.inl twice.ended) going
  | written pending => exact absurd (twice.idle.symm.trans pending) (by simp)
  | read pending => exact absurd (twice.idle.symm.trans pending) (by simp)
  | cancel => exact ⟨twice.ended, twice.idle, twice.twice⟩

end Twice

theorem Once.runs_le (once : Once running) : running.state.doneRuns.length ≤ 1 := by
  unfold Once at once
  split at once
  · simp [once.unfinished]
  · simp [once.unfinished]
  · simp [once.unfinished]
  · have total := once.once
    omega
  · exact once.elim
  · exact once.elim

/-- The closure does not throw where the `catch` block would run it again. -/
def RunsSafely (call : ClientCall Msg) (closure : Closure) (running : RunningCall Msg)
    (event : CallEvent) : Prop :=
  closure.throws = none ∨ ¬ RunsInside call running event

instance (call : ClientCall Msg) (closure : Closure) (running : RunningCall Msg)
    (event : CallEvent) : Decidable (RunsSafely call closure running event) :=
  inferInstanceAs (Decidable (_ ∨ _))

/-- The closure of a call is entered once at most if and only if it does not throw, or no
step runs it inside the `try` block. -/
theorem entered_once_iff (async : call.done = some closure) {start : RunningCall Msg}
    (begun : Begun start) {events : List CallEvent}
    (reached : run (RunningCall.step channel call outside) start events = some running) :
    running.state.doneRuns.length ≤ 1 ↔
      Along (RunningCall.step channel call outside) (RunsSafely call closure) start events := by
  have kept : ∀ before event after, Once before → RunsSafely call closure before event →
      RunningCall.step channel call outside before event = some after → Once after := by
    intro before event after once safe taken
    rcases safe with quiet | apart
    · exact once.step async quiet taken
    · exact once.step_outside async apart taken
  have falls : ∀ before event after, Once before → ¬ RunsSafely call closure before event →
      RunningCall.step channel call outside before event = some after → RanTwice after := by
    intro before event after once exposed taken
    obtain ⟨loud, inside⟩ := not_or.mp exposed
    obtain ⟨what, throws⟩ := Option.ne_none_iff_exists'.mp loud
    exact ranTwice_step async throws once (not_not.mp inside) taken
  exact along_iff kept falls (fun _ _ _ twice taken => twice.step taken)
    (fun _ once => once.runs_le) (fun _ twice => by simp [twice.twice]) begun.once reached

/-- A ping whose closure throws. -/
def throwingPing : ClientCall Bytes :=
  { pingCall with done := some { throws := some (text "closed") } }

/-- Nobody offers the method: the `catch` block is the first to run the closure. -/
theorem undiscovered_entered_once :
    ∃ running,
      run (RunningCall.step pingChannel throwingPing { instances := .error (text "No instances") })
        { state := { response := [] } } [.proceed, .cancel] = some running ∧
      running.state.doneRuns.length ≤ 1 := by
  have along : Along
      (RunningCall.step pingChannel throwingPing { instances := .error (text "No instances") })
      (RunsSafely throwingPing { throws := some (text "closed") }) { state := { response := [] } }
      [.proceed, .cancel] := by
    decide
  exact ⟨_, rfl, (entered_once_iff rfl ⟨⟨rfl, rfl, rfl⟩, .inl rfl⟩ rfl).mpr along⟩

/-- A call that is cancelled before it is sent runs a throwing closure twice. -/
theorem cancelled_entered_twice :
    ¬ ∀ (call : ClientCall Bytes) (closure : Closure) (outside : Outside)
      (start running : RunningCall Bytes) (events : List CallEvent), call.done = some closure →
      Begun start → run (RunningCall.step pingChannel call outside) start events = some running →
      running.state.doneRuns.length ≤ 1 := by
  intro once
  have entered := once throwingPing _ { instances := .ok [text "10.0.0.1:80"] }
    { state := { response := [], controller := { canceled := true } } } _ [.proceed, .proceed]
    rfl ⟨⟨rfl, rfl, rfl⟩, .inl rfl⟩ rfl
  exact absurd entered (by decide)

end Xrpc
