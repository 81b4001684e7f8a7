import Xrpc.Core.Channel
import Xrpc.Support.Run

/-! `CallMethod` step by step, with the handlers of its transport operations and
`StartCancel` in between. -/

namespace Xrpc

open Support

/-- Where the caller of `CallMethod` stands. -/
inductive Phase where
  | dialing
  | checking
  | sending (data : Bytes)
  /-- A synchronous call has its response. -/
  | answered (responseData : Bytes)
  | returned
  /-- Waiting forever. -/
  | stuck
  deriving DecidableEq

/-- `received` is what the transport has handed back as the response. -/
structure RunningCall (Msg : Type) where
  state : CallState Msg
  phase : Phase := .dialing
  received : Option Bytes := none

/-- The operation in flight completes once, and the controller can be cancelled
at any time. -/
inductive CallEvent where
  | proceed
  | written (failed : Bool)
  | read (read : ReadCompletion)
  | cancel
  deriving DecidableEq

section Steps
variable {Msg : Type}

namespace XrpcChannel
variable (channel : XrpcChannel) (call : ClientCall Msg) (outside : Outside)

/-- The part of `submit` before the request is sent. -/
def check : Effect (CallState Msg) Phase := do
  if call.isXrpc && (← get).controller.canceled then
    fail call (text "Request was canceled before sending")
    return .returned
  else
    let data ← ofExcept (channel.codec.encode call.requestType (header call outside) call.request)
    return .sending data

/-- Sending a request: of an asynchronous call only the start of the write. -/
def transmit (data : Bytes) : Effect (CallState Msg) Phase := do
  if call.done.isSome then
    channel.sendRequestAsync call data
    return .returned
  else
    match ← sendRequest outside data with
    | none =>
      fail call (text "Failed to send request")
      return .returned
    | some responseData => return .answered responseData

def proceed : Phase → Effect (CallState Msg) Phase
  | .dialing => do
    channel.dial outside
    return .checking
  | .checking => channel.check call outside
  | .sending data => channel.transmit call outside data
  | .answered responseData => do
    channel.finish call "Failed to decode response" responseData
    return .returned
  | .returned => pure .returned
  | .stuck => pure .stuck

end XrpcChannel

def Phase.answer? : Phase → Option Bytes
  | .answered responseData => some responseData
  | _ => none

/-- How many steps there are at most to the end. -/
def Phase.left : Phase → Nat
  | .dialing => 4
  | .checking => 3
  | .sending _ => 2
  | .answered _ => 1
  | .returned => 0
  | .stuck => 0

namespace RunningCall

/-- A step of the caller, inside the `try` block of `CallMethod`. -/
def perform (call : ClientCall Msg) (body : Effect (CallState Msg) Phase)
    (running : RunningCall Msg) : RunningCall Msg :=
  let caught := catchStd body fun what => do
    fail call what
    return .returned
  match caught.run running.state with
  | .ok phase state =>
    { state, phase, received := phase.answer?.or running.received }
  | .error (.exception _) state => { running with state, phase := .returned }
  | .error .hang state => { running with state, phase := .stuck }

/-- What leaves a handler ends the thread of the transport, after its effects. -/
def handle (running : RunningCall Msg) (handler : Effect (CallState Msg) Unit) : RunningCall Msg :=
  { running with state := stateAfter (handler.run running.state) }

def startCancel (running : RunningCall Msg) : RunningCall Msg :=
  { running with state.controller := running.state.controller.startCancel }

def step (channel : XrpcChannel) (call : ClientCall Msg) (outside : Outside)
    (running : RunningCall Msg) : CallEvent → Option (RunningCall Msg)
  | .proceed =>
    if running.phase = .returned ∨ running.phase = .stuck then none
    else some (running.perform call (channel.proceed call outside running.phase))
  | .written failed =>
    if running.state.pending = some .writing then
      some (running.handle (channel.handleClientAsyncWrite call failed))
    else none
  | .read read =>
    if running.state.pending = some .reading then
      some { running.handle (channel.handleClientAsyncRead call read) with
        received := read.outcome.or running.received }
    else none
  | .cancel => some running.startCancel

/-- The ways in which `step` can go. -/
inductive Transition (channel : XrpcChannel) (call : ClientCall Msg) (outside : Outside)
    (running : RunningCall Msg) : CallEvent → RunningCall Msg → Prop
  | proceed (going : ¬ (running.phase = .returned ∨ running.phase = .stuck)) :
      Transition channel call outside running .proceed
        (running.perform call (channel.proceed call outside running.phase))
  | written {failed : Bool} (pending : running.state.pending = some .writing) :
      Transition channel call outside running (.written failed)
        (running.handle (channel.handleClientAsyncWrite call failed))
  | read {read : ReadCompletion} (pending : running.state.pending = some .reading) :
      Transition channel call outside running (.read read)
        { running.handle (channel.handleClientAsyncRead call read) with
          received := read.outcome.or running.received }
  | cancel : Transition channel call outside running .cancel running.startCancel

theorem transition_of_step {channel : XrpcChannel} {call : ClientCall Msg} {outside : Outside}
    {running next : RunningCall Msg} {event : CallEvent}
    (taken : running.step channel call outside event = some next) :
    running.Transition channel call outside event next := by
  cases event with
  | proceed =>
    rw [step] at taken
    split at taken
    · cases taken
    next going =>
      cases taken
      exact .proceed going
  | written failed =>
    rw [step] at taken
    split at taken
    next pending =>
      cases taken
      exact .written pending
    · cases taken
  | read read =>
    rw [step] at taken
    split at taken
    next pending =>
      cases taken
      exact .read pending
    · cases taken
  | cancel =>
    cases taken
    exact .cancel

end RunningCall

section Uninterrupted
variable {channel : XrpcChannel} {call : ClientCall Msg} {outside : Outside}

namespace XrpcChannel

/-- Dialing changes nothing but the transport, and ends. -/
theorem dial_cases (channel : XrpcChannel) (outside : Outside) {state : CallState Msg}
    (free : state.held = []) :
    ∃ transport, (channel.dial outside).run state = .ok () { state with transport } ∨
      ∃ what, (channel.dial outside).run state = .error (.exception what) { state with transport } := by
  rw [dial, EStateM.run_bind]
  cases locate outside with
  | error what => exact ⟨state.transport, .inr ⟨what, rfl⟩⟩
  | ok address =>
    simp only [run_ofThrowing_ok]
    rw [run_guarded free]
    cases ran : (AsioClient.connect channel.network address.1 address.2).run state.transport with
    | ok done transport => exact ⟨transport, .inl rfl⟩
    | error exit transport =>
      obtain ⟨what, rfl⟩ := AsioClient.connect_throws ran
      exact ⟨transport, .inr ⟨what, rfl⟩⟩

theorem proceed_dialing (channel : XrpcChannel) (call : ClientCall Msg) (outside : Outside)
    {state : CallState Msg} (free : state.held = []) :
    ∃ transport,
      (channel.proceed call outside .dialing).run state = .ok .checking { state with transport } ∨
      ∃ what, (channel.proceed call outside .dialing).run state =
        .error (.exception what) { state with transport } := by
  obtain ⟨transport, dialed | ⟨what, thrown⟩⟩ := channel.dial_cases outside free
  · refine ⟨transport, .inl ?_⟩
    rw [proceed, EStateM.run_bind, dialed]
    rfl
  · exact ⟨transport, .inr ⟨what, bind_error thrown _⟩⟩

/-- A cancelled call fails; another one gets on with its request, or throws. -/
theorem check_cases (channel : XrpcChannel) (call : ClientCall Msg) (outside : Outside)
    (state : CallState Msg) :
    (channel.check call outside).run state =
        (fail call (text "Request was canceled before sending") >>= fun _ =>
          pure Phase.returned).run state ∨
      (∃ data, (channel.check call outside).run state = .ok (.sending data) state) ∨
      ∃ what, (channel.check call outside).run state = .error (.exception what) state := by
  rw [check, EStateM.run_bind, EStateM.run_get]
  dsimp only
  split
  · exact .inl rfl
  · right
    cases channel.codec.encode call.requestType (header call outside) call.request with
    | ok data => exact .inl ⟨data, rfl⟩
    | error message => exact .inr ⟨_, rfl⟩

/-- What is left of `CallMethod`. -/
def remaining (channel : XrpcChannel) (call : ClientCall Msg) (outside : Outside) :
    Phase → Effect (CallState Msg) Unit
  | .dialing => do channel.dial outside; channel.submit call outside
  | .checking => channel.submit call outside
  | .sending data => do
    if call.done.isSome then channel.sendRequestAsync call data
    else
      match ← sendRequest outside data with
      | none => fail call (text "Failed to send request")
      | some responseData => channel.finish call "Failed to decode response" responseData
  | .answered responseData => channel.finish call "Failed to decode response" responseData
  | .returned => pure ()
  | .stuck => pure ()

theorem remaining_proceed (phase : Phase) :
    channel.remaining call outside phase =
      channel.proceed call outside phase >>= channel.remaining call outside := by
  cases phase with
  | dialing => simp [remaining, proceed]
  | checking =>
    simp only [remaining, proceed, submit, check, bind_assoc]
    refine bind_congr fun state => ?_
    split
    · simp [remaining]
    · rw [bind_assoc]
      rfl
  | sending data =>
    simp only [remaining, proceed, transmit]
    split
    · simp [remaining]
    · rw [bind_assoc]
      refine bind_congr fun response => ?_
      cases response with
      | none => simp [remaining]
      | some responseData => simp [remaining]
  | answered responseData => simp [remaining, proceed]
  | returned => simp [remaining, proceed]
  | stuck => simp [remaining, proceed]

/-- Each step leads to a later phase. -/
theorem left_proceed {phase : Phase} (running : 0 < phase.left) :
    Yields (Phase.left · < phase.left) (channel.proceed call outside phase) := by
  cases phase with
  | dialing => exact .bind fun _ => .pure (by decide)
  | checking =>
    refine .bind fun state => ?_
    split
    · exact .bind fun _ => .pure (by decide)
    · exact .bind fun data => .pure (by simp [Phase.left])
  | sending data =>
    rw [proceed, transmit]
    split
    · exact .bind fun _ => .pure (by simp [Phase.left])
    · refine .bind fun response => ?_
      cases response with
      | none => exact .bind fun _ => .pure (by simp [Phase.left])
      | some responseData => exact .pure (by simp [Phase.left])
  | answered responseData => exact .bind fun _ => .pure (by simp [Phase.left])
  | returned => exact absurd running (by decide)
  | stuck => exact absurd running (by decide)

end XrpcChannel

namespace RunningCall

theorem perform_congr {running : RunningCall Msg} {body other : Effect (CallState Msg) Phase}
    (same : body.run running.state = other.run running.state) :
    running.perform call body = running.perform call other := by
  have sameOutcome : body running.state = other running.state := same
  simp only [perform, catchStd, EStateM.run, sameOutcome]

/-- A step that throws ends the call, in the state in which the `catch` block leaves it. -/
theorem perform_error {running : RunningCall Msg} {body : Effect (CallState Msg) Phase}
    {exit : Exit} {after : CallState Msg} (thrown : body.run running.state = .error exit after)
    (rest : Phase → Effect (CallState Msg) Unit) :
    ((running.perform call body).phase = .returned ∨ (running.perform call body).phase = .stuck) ∧
      (running.perform call body).state = stateAfter
        ((catchStd (body >>= rest) fun what => fail call what).run running.state) := by
  cases exit with
  | exception what =>
    rw [perform, catchStd_exception thrown, catchStd_exception (bind_error thrown rest),
      EStateM.run_bind]
    cases failed : (fail call what).run after with
    | ok done last => exact ⟨.inl rfl, rfl⟩
    | error exit last =>
      cases exit with
      | exception what => exact ⟨.inl rfl, rfl⟩
      | hang => exact ⟨.inr rfl, rfl⟩
  | hang =>
    rw [perform, catchStd_hang thrown, catchStd_hang (bind_error thrown rest)]
    exact ⟨.inr rfl, rfl⟩

/-- A step takes the call to its next phase, or ends it in the `catch` block. -/
theorem perform_cases {β : Type} {view : CallState Msg → β} (aside : Aside view)
    (running : RunningCall Msg) (body : Effect (CallState Msg) Phase) :
    (∃ phase state, body.run running.state = .ok phase state ∧
        running.perform call body =
          { state, phase, received := phase.answer?.or running.received }) ∨
      ∃ exit after state phase, body.run running.state = .error exit after ∧
        view state = view after ∧ (phase = .returned ∨ phase = .stuck) ∧
        running.perform call body = { running with state, phase } := by
  cases ran : body.run running.state with
  | ok phase state =>
    refine .inl ⟨phase, state, rfl, ?_⟩
    rw [perform, catchStd_ok ran]
  | error exit after =>
    right
    cases exit with
    | exception what =>
      have kept : Keeps view (fail call what) := aside.fail what
      have same := kept after
      rw [perform, catchStd_exception ran, EStateM.run_bind]
      cases failed : (fail call what).run after with
      | ok done last =>
        rw [failed] at same
        exact ⟨_, after, last, .returned, rfl, same, .inl rfl, rfl⟩
      | error exit last =>
        rw [failed] at same
        cases exit with
        | exception what => exact ⟨_, after, last, .returned, rfl, same, .inl rfl, rfl⟩
        | hang => exact ⟨_, after, last, .stuck, rfl, same, .inr rfl, rfl⟩
    | hang =>
      rw [perform, catchStd_hang ran]
      exact ⟨_, after, after, .stuck, rfl, rfl, .inr rfl, rfl⟩

/-- The steps of the caller alone are `CallMethod`. -/
theorem run_proceed (running : RunningCall Msg) :
    ∃ count final, run (step channel call outside) running (List.replicate count .proceed) =
        some final ∧
      (final.phase = .returned ∨ final.phase = .stuck) ∧
      final.state = stateAfter ((catchStd (channel.remaining call outside running.phase)
        fun what => fail call what).run running.state) := by
  induction steps : running.phase.left using Nat.strong_induction_on generalizing running with
  | _ steps ih =>
    subst steps
    by_cases ended : running.phase = .returned ∨ running.phase = .stuck
    · refine ⟨0, running, rfl, ended, ?_⟩
      rcases ended with done | done
      · rw [done]
        rfl
      · rw [done]
        rfl
    have going : 0 < running.phase.left := by
      cases phase : running.phase with
      | returned => exact absurd (.inl phase) ended
      | stuck => exact absurd (.inr phase) ended
      | _ => simp [Phase.left]
    have stepped : step channel call outside running .proceed =
        some (running.perform call (channel.proceed call outside running.phase)) := if_neg ended
    rw [XrpcChannel.remaining_proceed]
    cases body : (channel.proceed call outside running.phase).run running.state with
    | ok phase after =>
      have later := XrpcChannel.left_proceed going _ _ _ body
      have performed : running.perform call (channel.proceed call outside running.phase) =
          { state := after, phase, received := phase.answer?.or running.received } := by
        rw [perform, catchStd_ok body]
      obtain ⟨count, final, reached, done, same⟩ := ih _ later
        { state := after, phase, received := phase.answer?.or running.received } rfl
      refine ⟨count + 1, final, ?_, done, ?_⟩
      · rw [List.replicate_succ, run, stepped, performed]
        exact reached
      · rw [same, catchStd_bind_ok body]
    | error exit after =>
      refine ⟨1, running.perform call (channel.proceed call outside running.phase), ?_, ?_⟩
      · simp [run, stepped]
      · exact perform_error body _

theorem run_callMethod (state : CallState Msg) :
    ∃ count final, run (step channel call outside) { state } (List.replicate count .proceed) =
        some final ∧
      (final.phase = .returned ∨ final.phase = .stuck) ∧
      final.state = stateAfter ((channel.callMethod call outside).run state) :=
  run_proceed { state }

end RunningCall

end Uninterrupted

end Steps

end Xrpc
