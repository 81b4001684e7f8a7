import Xrpc.Core.Completion

/-! The destructor of `XrpcChannel` beside the handlers of calls under way. -/

namespace Xrpc

open Support

/-- The result of an operation, which waits for its handler to run. -/
inductive Completion where
  | written (failed : Bool)
  | read (read : ReadCompletion)
  deriving DecidableEq

namespace Completion

def op : Completion → AsyncOp
  | .written _ => .writing
  | .read _ => .reading

/-- `operation_aborted`. -/
def aborted : AsyncOp → Completion
  | .writing => .written true
  | .reading => .read (.failed (text "Operation canceled"))

@[simp] theorem op_aborted (op : AsyncOp) : (aborted op).op = op := by
  cases op with
  | writing => rfl
  | reading => rfl

def handler {Msg : Type} (channel : XrpcChannel) (call : ClientCall Msg) :
    Completion → Effect (CallState Msg) Unit
  | .written failed => channel.handleClientAsyncWrite call failed
  | .read result => channel.handleClientAsyncRead call result

end Completion

/-- An asynchronous call that `CallMethod` has accepted. Its closure does not
throw, which would end the process. -/
structure AcceptedCall (Msg : Type) where
  call : ClientCall Msg
  state : CallState Msg
  queued : Option Completion := none
  quiet : ∃ closure, call.done = some closure ∧ closure.throws = none
  handed : Handed state
  current : ∀ completion ∈ queued, state.pending = some completion.op

namespace AcceptedCall
variable {Msg : Type}

/-- As `CallMethod` leaves it. -/
def ofReturned (running : RunningCall Msg) (call : ClientCall Msg)
    (quiet : ∃ closure, call.done = some closure ∧ closure.throws = none) (once : Once running)
    (returned : running.phase = .returned) : AcceptedCall Msg where
  call := call
  state := running.state
  quiet := quiet
  handed := by
    unfold Once at once
    rwa [returned] at once
  current := by simp

/-- The operation in flight has a result. -/
def complete (accepted : AcceptedCall Msg) (completion : Completion)
    (pending : accepted.state.pending = some completion.op) : AcceptedCall Msg :=
  { accepted with
    queued := some completion
    current := by
      intro other same
      cases same
      exact pending }

/-- The socket is closed: an operation in flight is over. -/
def abort (accepted : AcceptedCall Msg) : AcceptedCall Msg :=
  match pending : accepted.state.pending, accepted.queued with
  | some op, none => accepted.complete (.aborted op) (by rw [pending, Completion.op_aborted])
  | _, _ => accepted

theorem handed_handler (channel : XrpcChannel) (accepted : AcceptedCall Msg)
    {completion : Completion} (queued : accepted.queued = some completion) :
    Handed (stateAfter ((completion.handler channel accepted.call).run accepted.state)) := by
  obtain ⟨closure, async, quiet⟩ := accepted.quiet
  have pending := accepted.current completion queued
  have handed := accepted.handed.once
  rw [pending] at handed
  have owing : Owing { accepted.state with pending := none } :=
    ⟨accepted.handed.free, rfl, by simpa using handed⟩
  have ran : ∃ after, (completion.handler channel accepted.call).run accepted.state = .ok () after ∧
      Handed after := by
    cases completion with
    | written failed => exact handed_write async quiet owing failed
    | read result => exact handed_read async quiet owing result
  obtain ⟨after, same, left⟩ := ran
  rw [same]
  exact left

/-- The handler runs. What it starts on a closed socket is over at once. -/
def handle (channel : XrpcChannel) (closed : Bool) (accepted : AcceptedCall Msg)
    (completion : Completion) (queued : accepted.queued = some completion) : AcceptedCall Msg :=
  let handled : AcceptedCall Msg :=
    { accepted with
      state := stateAfter ((completion.handler channel accepted.call).run accepted.state)
      queued := none
      handed := accepted.handed_handler channel queued
      current := by simp }
  if closed then handled.abort else handled

/-- Nothing is left to do for the call. -/
def Idle (accepted : AcceptedCall Msg) : Prop := accepted.state.pending = none

def Completed (accepted : AcceptedCall Msg) : Prop := accepted.state.doneRuns ≠ []

/-- What is owed is owed by the operation in flight. -/
theorem completed_iff_idle (accepted : AcceptedCall Msg) : accepted.Completed ↔ accepted.Idle := by
  have once := accepted.handed.once
  rw [Completed, Idle]
  cases pending : accepted.state.pending with
  | none =>
    rw [pending] at once
    refine iff_of_true ?_ rfl
    intro unfinished
    simp [unfinished] at once
  | some op =>
    rw [pending] at once
    refine iff_of_false ?_ (by simp)
    simpa using once

end AcceptedCall

/-- How far the destructor has come. -/
inductive Stage where
  | serving | closed | workReset | stopped | finished
  deriving DecidableEq

/-- A channel with the calls under way. -/
structure Teardown (Msg : Type) where
  calls : List (AcceptedCall Msg)
  stage : Stage := .serving

/-- The steps of `Stop` and of the rest of the destructor, and what happens to
the operations of the call with this index. -/
inductive TeardownEvent where
  | complete (index : Nat) (completion : Completion)
  | handle (index : Nat)
  | close
  | resetWork
  | stop
  | finish

namespace Teardown
variable {Msg : Type}

def Stopped (teardown : Teardown Msg) : Prop :=
  teardown.stage = .stopped ∨ teardown.stage = .finished

instance (teardown : Teardown Msg) : Decidable teardown.Stopped :=
  inferInstanceAs (Decidable (_ ∨ _))

/-- Of the destructor each step is taken once, after the one before. -/
def advance (teardown : Teardown Msg) (before after : Stage) : Option (Teardown Msg) :=
  if teardown.stage = before then some { teardown with stage := after } else none

def step (channel : XrpcChannel) (teardown : Teardown Msg) :
    TeardownEvent → Option (Teardown Msg)
  | .complete index completion => do
    let accepted ← teardown.calls[index]?
    if pending : accepted.state.pending = some completion.op then
      if teardown.stage = .serving ∧ accepted.queued = none then
        some { teardown with calls := teardown.calls.set index (accepted.complete completion pending) }
      else none
    else none
  | .handle index => do
    let accepted ← teardown.calls[index]?
    match queued : accepted.queued with
    | none => none
    | some completion =>
      -- a stopped io_context runs no handlers
      if teardown.Stopped then none
      else
        let closed := decide (teardown.stage ≠ .serving)
        some { teardown with
          calls := teardown.calls.set index (accepted.handle channel closed completion queued) }
  | .close =>
    { teardown with calls := teardown.calls.map AcceptedCall.abort }.advance .serving .closed
  | .resetWork => teardown.advance .closed .workReset
  | .stop => teardown.advance .workReset .stopped
  | .finish => teardown.advance .stopped .finished

/-- All handlers have run when the `io_context` is stopped. -/
def Drained (teardown : Teardown Msg) : TeardownEvent → Prop
  | .stop => ∀ accepted ∈ teardown.calls, accepted.Idle
  | _ => True

/-- A stopped channel has left no call behind. -/
def Settled (teardown : Teardown Msg) : Prop :=
  teardown.Stopped → ∀ accepted ∈ teardown.calls, accepted.Idle

/-- A stopped channel has left a call behind. -/
def Abandoned (teardown : Teardown Msg) : Prop :=
  teardown.Stopped ∧ ∃ accepted ∈ teardown.calls, ¬ accepted.Idle

section Steps
variable {channel : XrpcChannel} {teardown next : Teardown Msg} {event : TeardownEvent}

theorem advance_eq_some {before after : Stage} (taken : teardown.advance before after = some next) :
    teardown.stage = before ∧ next = { teardown with stage := after } := by
  rw [advance] at taken
  split at taken
  next here =>
    cases taken
    exact ⟨here, rfl⟩
  · cases taken

/-- A step before the stop, the stop, or the step after it. -/
theorem step_cases (taken : step channel teardown event = some next) :
    (¬ teardown.Stopped ∧ ¬ next.Stopped ∧ event ≠ .stop) ∨
    (event = .stop ∧ ¬ teardown.Stopped ∧ next.Stopped ∧ next.calls = teardown.calls) ∨
    (event = .finish ∧ teardown.Stopped ∧ next.Stopped ∧ next.calls = teardown.calls) := by
  cases event with
  | complete index completion =>
    simp only [step, Option.bind_eq_bind, Option.bind_eq_some_iff] at taken
    obtain ⟨accepted, found, taken⟩ := taken
    split at taken
    · split at taken
      next serving =>
        cases taken
        exact .inl (by simp [Stopped, serving.1])
      · cases taken
    · cases taken
  | handle index =>
    simp only [step, Option.bind_eq_bind, Option.bind_eq_some_iff] at taken
    obtain ⟨accepted, found, taken⟩ := taken
    split at taken
    · cases taken
    · split at taken
      · cases taken
      next running =>
        cases taken
        exact .inl ⟨running, running, by simp⟩
  | close =>
    obtain ⟨here, rfl⟩ := advance_eq_some taken
    have serving : teardown.stage = .serving := here
    exact .inl (by simp [Stopped, serving])
  | resetWork =>
    obtain ⟨here, rfl⟩ := advance_eq_some taken
    exact .inl (by simp [Stopped, here])
  | stop =>
    obtain ⟨here, rfl⟩ := advance_eq_some taken
    exact .inr (.inl (by simp [Stopped, here]))
  | finish =>
    obtain ⟨here, rfl⟩ := advance_eq_some taken
    exact .inr (.inr (by simp [Stopped, here]))

theorem Settled.step (settled : teardown.Settled) (drained : teardown.Drained event)
    (taken : Teardown.step channel teardown event = some next) : next.Settled := by
  intro stopped
  rcases step_cases taken with ⟨_, running, _⟩ | ⟨rfl, _, _, same⟩ | ⟨_, before, _, same⟩
  · exact absurd stopped running
  · rw [same]
    exact drained
  · rw [same]
    exact settled before

theorem abandoned_of_step (undrained : ¬ teardown.Drained event)
    (taken : Teardown.step channel teardown event = some next) : next.Abandoned := by
  rcases step_cases taken with ⟨_, _, other⟩ | ⟨rfl, _, stopped, same⟩ | ⟨rfl, _⟩
  · refine absurd ?_ undrained
    cases event with
    | stop => exact absurd rfl other
    | _ => trivial
  · rw [Drained, not_forall₂] at undrained
    obtain ⟨accepted, member, busy⟩ := undrained
    exact ⟨stopped, accepted, same ▸ member, busy⟩
  · exact absurd trivial undrained

/-- No handler runs once the `io_context` is stopped. -/
theorem Abandoned.step (abandoned : teardown.Abandoned)
    (taken : Teardown.step channel teardown event = some next) : next.Abandoned := by
  obtain ⟨stopped, accepted, member, busy⟩ := abandoned
  rcases step_cases taken with ⟨running, _⟩ | ⟨_, running, _⟩ | ⟨_, _, still, same⟩
  · exact absurd stopped running
  · exact absurd stopped running
  · exact ⟨still, accepted, same ▸ member, busy⟩

end Steps

/-- When the destruction has finished, every accepted call is completed if and only
if all handlers had run before the `io_context` was stopped. -/
theorem completed_iff_drained {channel : XrpcChannel} {start final : Teardown Msg}
    (serving : start.stage = .serving) {events : List TeardownEvent}
    (reached : run (step channel) start events = some final) (finished : final.stage = .finished) :
    (∀ accepted ∈ final.calls, accepted.Completed) ↔ Along (step channel) Drained start events := by
  have initial : start.Settled := by
    rintro (stopped | stopped)
    · simp [serving] at stopped
    · simp [serving] at stopped
  have ended : final.Settled ↔ Along (step channel) Drained start events :=
    along_iff (fun _ _ _ settled drained taken => settled.step drained taken)
      (fun _ _ _ _ undrained taken => abandoned_of_step undrained taken)
      (fun _ _ _ abandoned taken => abandoned.step taken) (fun _ settled => settled)
      (fun _ ⟨stopped, accepted, member, busy⟩ settled => busy (settled stopped accepted member))
      initial reached
  rw [← ended, Settled, forall_prop_of_true (.inr finished)]
  exact forall₂_congr fun accepted _ => accepted.completed_iff_idle

instance (teardown : Teardown Msg) (event : TeardownEvent) : Decidable (teardown.Drained event) :=
  match event with
  | .stop => inferInstanceAs
      (Decidable (∀ accepted ∈ teardown.calls, accepted.state.pending = none))
  | .complete _ _ | .handle _ | .close | .resetWork | .finish => .isTrue trivial

/-- A channel with one ping whose request is being written. -/
def pinging : Teardown Bytes where
  calls := [{
    call := { pingCall with done := some {} }
    state := { transport := AsioClient.connected, response := [], pending := some .writing }
    quiet := ⟨{}, rfl, rfl⟩
    handed := ⟨rfl, rfl⟩
    current := by simp }]

/-- The handler of the aborted read runs before the stop. -/
theorem drained_ping_completed : ∃ final,
    run (step pingChannel) pinging [.complete 0 (.written false), .handle 0, .close, .handle 0,
      .resetWork, .stop, .finish] = some final ∧
    ∀ accepted ∈ final.calls, accepted.Completed := by
  have ran : (run (step pingChannel) pinging [.complete 0 (.written false), .handle 0, .close,
      .handle 0, .resetWork, .stop, .finish]).any fun final => final.stage = .finished := by
    decide +kernel
  obtain ⟨final, reached, finished⟩ := (Option.any_eq_true _ _).mp ran
  exact ⟨final, reached,
    (completed_iff_drained rfl reached (of_decide_eq_true finished)).mpr (by decide +kernel)⟩

/-- The destructor is done before the handler of the aborted write has run. -/
theorem undrained_ping_lost : ∃ final,
    run (step pingChannel) pinging [.close, .resetWork, .stop, .finish] = some final ∧
    final.stage = .finished ∧ ¬ ∀ accepted ∈ final.calls, accepted.Completed := by
  have ran : (run (step pingChannel) pinging [.close, .resetWork, .stop, .finish]).any fun final =>
      final.stage = .finished ∧ ∃ accepted ∈ final.calls, accepted.state.doneRuns = [] := by
    decide +kernel
  obtain ⟨final, reached, outcome⟩ := (Option.any_eq_true _ _).mp ran
  obtain ⟨finished, accepted, member, unfinished⟩ := of_decide_eq_true outcome
  exact ⟨final, reached, finished, fun completed => completed accepted member unfinished⟩

end Teardown

end Xrpc
