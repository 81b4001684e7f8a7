import Xrpc.Core.RunningCall

/-! An asynchronous call runs its closure once. -/

namespace Xrpc

open Support

section Completion
variable {Msg : Type} {channel : XrpcChannel} {call : ClientCall Msg} {outside : Outside}
  {closure : Closure} {state : CallState Msg}

/-- The closure has run once more, or an operation has been started. -/
structure Settled (runs : Nat) (pending : Option AsyncOp) (before after : CallState Msg) : Prop where
  counted : after.doneRuns.length = before.doneRuns.length + runs
  pending : after.pending = pending
  held : after.held = before.held

/-- `body` returns, and has run the closure once. -/
def Completes (body : Effect (CallState Msg) Unit) : Prop :=
  ∀ state, ∃ after, body.run state = .ok () after ∧ Settled 1 state.pending state after

/-- The call owes its closure a run, and nothing else will run it. -/
structure Owing (state : CallState Msg) : Prop where
  free : state.held = []
  idle : state.pending = none
  unfinished : state.doneRuns = []

/-- The closure has run, or the operation in flight will run it. -/
structure Handed (state : CallState Msg) : Prop where
  free : state.held = []
  once : state.doneRuns.length + state.pending.toList.length = 1

section Closure
variable (async : call.done = some closure) (quiet : closure.throws = none)
include async quiet

theorem completes_runDone : Completes (runDone call.done : Effect (CallState Msg) Unit) := by
  intro state
  refine ⟨{ state with doneRuns := state.doneRuns ++ [state.held] }, ?_, by simp, rfl, rfl⟩
  simp [runDone, async, quiet]

theorem completes_fail (reason : Bytes) : Completes (fail call reason) := by
  intro state
  obtain ⟨after, ran, settled⟩ :=
    completes_runDone async quiet { state with controller := state.controller.setFailed reason }
  exact ⟨after, ran, settled.counted, settled.pending, settled.held⟩

theorem completes_finish (undecoded : String) (responseData : Bytes) :
    Completes (channel.finish call undecoded responseData) := by
  intro state
  rw [XrpcChannel.finish, EStateM.run_bind, EStateM.run_get]
  dsimp only
  generalize channel.codec.decodeResponse call.responseType responseData state.response = decoded
  rw [EStateM.run_bind, EStateM.run_modify]
  dsimp only
  have filled {body : Effect (CallState Msg) Unit} (completes : Completes body) :
      ∃ after, body.run { state with response := decoded.body } = .ok () after ∧
        Settled 1 state.pending state after := by
    obtain ⟨after, ran, settled⟩ := completes { state with response := decoded.body }
    exact ⟨after, ran, settled.counted, settled.pending, settled.held⟩
  split
  · exact filled (completes_fail async quiet _)
  · split
    · split
      · exact filled (completes_fail async quiet _)
      · exact filled (completes_runDone async quiet)
    · exact filled (completes_runDone async quiet)

theorem completes_asyncCallback (responseData : Bytes) (success : Bool) :
    Completes (channel.asyncCallback call responseData success) := by
  intro state
  rw [XrpcChannel.asyncCallback]
  split
  · exact completes_fail async quiet _ state
  · rw [EStateM.run_bind, EStateM.run_get]
    dsimp only
    split
    · exact completes_fail async quiet _ state
    · exact completes_finish async quiet _ _ state

end Closure

/-- A step of the caller leaves the call owing, or handed over when it is the last. -/
def Faithful : EStateM.Result Exit (CallState Msg) Phase → Prop
  | .ok .checking after => Owing after
  | .ok (.sending _) after => Owing after
  | .ok .returned after => Handed after
  | .ok _ _ => False
  | .error (.exception _) after => Owing after
  | .error .hang _ => False

theorem Owing.complete (owing : Owing state) {body : Effect (CallState Msg) Unit}
    (completes : Completes body) : ∃ after, body.run state = .ok () after ∧ Handed after := by
  obtain ⟨after, ran, settled⟩ := completes state
  refine ⟨after, ran, settled.held.trans owing.free, ?_⟩
  rw [settled.counted, settled.pending, owing.idle, owing.unfinished]
  rfl

/-- `SendAsync` and what calls it return with the closure run or the write started. -/
def Transmits (body : Effect (CallState Msg) Unit) (state : CallState Msg) : Prop :=
  ∃ after, body.run state = .ok () after ∧
    (Settled 1 state.pending state after ∨ Settled 0 (some .writing) state after)

theorem Transmits.withLock {body : Effect (CallState Msg) Unit} {mutex : Mutex}
    (free : mutex ∉ state.held)
    (transmits : Transmits body { state with held := mutex :: state.held }) :
    Transmits (withLock mutex body) state := by
  obtain ⟨after, ran, settled⟩ := transmits
  refine ⟨{ after with held := after.held.erase mutex }, ?_, ?_⟩
  · rw [run_withLock, if_neg free, ran]
  · rcases settled with ⟨counted, pending, held⟩ | ⟨counted, pending, held⟩
    · exact .inl ⟨counted, pending, by rw [held, List.erase_cons_head]⟩
    · exact .inr ⟨counted, pending, by rw [held, List.erase_cons_head]⟩

theorem transmits_sendAsync (async : call.done = some closure) (quiet : closure.throws = none)
    (free : .socket ∉ state.held) (data : Bytes) :
    Transmits (channel.sendAsync call data) state := by
  refine Transmits.withLock free ?_
  rw [Transmits, EStateM.run_bind, EStateM.run_get]
  dsimp only
  split
  · obtain ⟨after, ran, settled⟩ := completes_asyncCallback async quiet [] false _
    exact ⟨after, ran, .inl settled⟩
  · exact ⟨_, rfl, .inr ⟨rfl, rfl, rfl⟩⟩

theorem transmits_sendRequestAsync (async : call.done = some closure)
    (quiet : closure.throws = none) (free : state.held = []) (data : Bytes) :
    Transmits (channel.sendRequestAsync call data) state := by
  refine Transmits.withLock (by simp [free]) ?_
  split
  · obtain ⟨after, ran, settled⟩ := completes_runDone async quiet _
    exact ⟨after, ran, .inl settled⟩
  · exact transmits_sendAsync async quiet (by simp [free]) data

/-- With a closure to run, no part of the caller waits forever. -/
theorem faithful_dial (owing : Owing state) :
    Faithful ((channel.proceed call outside .dialing).run state) := by
  obtain ⟨transport, dialed | ⟨what, thrown⟩⟩ := channel.proceed_dialing call outside owing.free
  · rw [dialed]
    exact ⟨owing.free, owing.idle, owing.unfinished⟩
  · rw [thrown]
    exact ⟨owing.free, owing.idle, owing.unfinished⟩

theorem faithful_check (async : call.done = some closure) (quiet : closure.throws = none)
    (owing : Owing state) : Faithful ((channel.proceed call outside .checking).run state) := by
  rw [XrpcChannel.proceed]
  rcases channel.check_cases call outside state with ran | ⟨data, ran⟩ | ⟨what, thrown⟩
  · obtain ⟨after, failed, handed⟩ := owing.complete (completes_fail async quiet _)
    rw [ran, EStateM.run_bind, failed]
    exact handed
  · rw [ran]
    exact owing
  · rw [thrown]
    exact owing

theorem faithful_transmit (async : call.done = some closure) (quiet : closure.throws = none)
    (owing : Owing state) (data : Bytes) :
    Faithful ((channel.proceed call outside (.sending data)).run state) := by
  obtain ⟨after, ran, settled⟩ := transmits_sendRequestAsync async quiet owing.free data
  rw [XrpcChannel.proceed, XrpcChannel.transmit, if_pos (by simp [async]), EStateM.run_bind, ran]
  refine ⟨?_, ?_⟩
  · rcases settled with done | started
    · exact done.held.trans owing.free
    · exact started.held.trans owing.free
  · rcases settled with done | started
    · rw [done.counted, done.pending, owing.idle, owing.unfinished]
      rfl
    · rw [started.counted, started.pending, owing.unfinished]
      rfl

/-- Who will run the closure, if it has not run: the caller or the operation in flight. -/
def Once (running : RunningCall Msg) : Prop :=
  match running.phase with
  | .dialing | .checking | .sending _ => Owing running.state
  | .returned => Handed running.state
  | .answered _ | .stuck => False

variable {running next : RunningCall Msg}

section Steps
variable (async : call.done = some closure) (quiet : closure.throws = none)
include async quiet

theorem once_perform {body : Effect (CallState Msg) Phase}
    (faithful : Faithful (body.run running.state)) : Once (running.perform call body) := by
  cases ran : body.run running.state with
  | ok phase after =>
    rw [ran] at faithful
    rw [RunningCall.perform, catchStd_ok ran]
    cases phase with
    | dialing => exact faithful.elim
    | checking => exact faithful
    | sending data => exact faithful
    | answered responseData => exact faithful.elim
    | returned => exact faithful
    | stuck => exact faithful.elim
  | error exit after =>
    rw [ran] at faithful
    cases exit with
    | exception what =>
      have owing : Owing after := faithful
      obtain ⟨last, failed, handed⟩ := owing.complete (completes_fail async quiet what)
      rw [RunningCall.perform, catchStd_exception ran, EStateM.run_bind, failed]
      exact handed
    | hang => exact faithful.elim

theorem once_proceed (once : Once running) :
    Once (running.perform call (channel.proceed call outside running.phase)) := by
  cases phase : running.phase with
  | dialing =>
    rw [Once, phase] at once
    exact once_perform async quiet (faithful_dial once)
  | checking =>
    rw [Once, phase] at once
    exact once_perform async quiet (faithful_check async quiet once)
  | sending data =>
    rw [Once, phase] at once
    exact once_perform async quiet (faithful_transmit async quiet once data)
  | returned =>
    rw [Once, phase] at once
    exact once_perform async quiet once
  | answered responseData =>
    rw [Once, phase] at once
    exact once.elim
  | stuck =>
    rw [Once, phase] at once
    exact once.elim

/-- The handlers run the closure, or leave it to the next operation. -/
theorem handed_write (owing : Owing { state with pending := none }) (failed : Bool) :
    ∃ after, (channel.handleClientAsyncWrite call failed).run state = .ok () after ∧
      Handed after := by
  have completes : Completes (channel.asyncCallback call [] false) :=
    completes_asyncCallback async quiet [] false
  rw [XrpcChannel.handleClientAsyncWrite, EStateM.run_bind, EStateM.run_modify]
  cases failed with
  | true => exact owing.complete completes
  | false =>
    have unfinished : state.doneRuns = [] := owing.unfinished
    exact ⟨_, rfl, owing.free, by simp [unfinished]⟩

theorem handed_read (owing : Owing { state with pending := none }) (read : ReadCompletion) :
    ∃ after, (channel.handleClientAsyncRead call read).run state = .ok () after ∧
      Handed after := by
  have completes : ∀ bytes success, Completes (channel.asyncCallback call bytes success) :=
    completes_asyncCallback async quiet
  cases read with
  | received bytes =>
    rw [XrpcChannel.handleClientAsyncRead, EStateM.run_bind, EStateM.run_modify]
    exact owing.complete (completes bytes true)
  | failed message =>
    rw [XrpcChannel.handleClientAsyncRead, EStateM.run_bind, EStateM.run_modify]
    exact owing.complete (completes [] false)

end Steps

theorem once_handle {handler : Effect (CallState Msg) Unit} (returned : running.phase = .returned)
    (handled : ∃ after, handler.run running.state = .ok () after ∧ Handed after) :
    Once (running.handle handler) := by
  obtain ⟨after, ran, handed⟩ := handled
  rw [Once, RunningCall.handle, returned, ran]
  exact handed

/-- An operation is in flight only once the call has been handed over to it. -/
theorem Once.in_flight (once : Once running) {op : AsyncOp}
    (pending : running.state.pending = some op) :
    running.phase = .returned ∧ Owing { running.state with pending := none } := by
  have busy : ¬ Owing running.state := fun owing => nomatch owing.idle.symm.trans pending
  unfold Once at once
  split at once
  · exact absurd once busy
  · exact absurd once busy
  · exact absurd once busy
  next returned =>
    have unfinished : running.state.doneRuns = [] := by simpa [pending] using once.once
    exact ⟨returned, once.free, rfl, unfinished⟩
  · exact once.elim
  · exact once.elim

theorem Once.startCancel (once : Once running) : Once running.startCancel := by
  have owing : Owing running.state → Owing running.startCancel.state :=
    fun ⟨free, idle, unfinished⟩ => ⟨free, idle, unfinished⟩
  have handed : Handed running.state → Handed running.startCancel.state :=
    fun ⟨free, once⟩ => ⟨free, once⟩
  have same : running.startCancel.phase = running.phase := rfl
  unfold Once at once ⊢
  rw [same]
  split at once
  · exact owing once
  · exact owing once
  · exact owing once
  · exact handed once
  · exact once
  · exact once

theorem Once.step (async : call.done = some closure) (quiet : closure.throws = none)
    (once : Once running) {event : CallEvent}
    (taken : RunningCall.step channel call outside running event = some next) : Once next := by
  cases RunningCall.transition_of_step taken with
  | proceed going => exact once_proceed async quiet once
  | written pending =>
    obtain ⟨returned, owing⟩ := once.in_flight pending
    exact once_handle returned (handed_write async quiet owing _)
  | @read read pending =>
    obtain ⟨returned, owing⟩ := once.in_flight pending
    have handled : Once (running.handle (channel.handleClientAsyncRead call read)) :=
      once_handle returned (handed_read async quiet owing read)
    exact handled
  | cancel => exact once.startCancel

/-- A caller that has not sent anything and owes the closure its run. -/
structure Begun (running : RunningCall Msg) : Prop where
  owing : Owing running.state
  unsent : running.phase = .dialing ∨ running.phase = .checking ∨
    ∃ data, running.phase = .sending data

theorem Begun.once (begun : Begun running) : Once running := by
  obtain ⟨owing, early | early | ⟨data, early⟩⟩ := begun
  · rwa [Once, early]
  · rwa [Once, early]
  · rwa [Once, early]

/-- Whatever happens to an asynchronous call, its closure never runs twice, and
has run once it has returned and nothing is in flight. -/
theorem done_runs_once (async : call.done = some closure) (quiet : closure.throws = none)
    {start : RunningCall Msg} (begun : Begun start) {events : List CallEvent}
    (reached : run (RunningCall.step channel call outside) start events = some running) :
    running.state.doneRuns.length ≤ 1 ∧
      (running.phase = .returned → running.state.pending = none →
        running.state.doneRuns.length = 1) := by
  have kept : ∀ before event after, Once before →
      RunningCall.step channel call outside before event = some after → Once after :=
    fun _ _ _ once taken => once.step async quiet taken
  have once := run_invariant kept begun.once reached
  unfold Once at once
  split at once
  next early => simp [once.unfinished, early]
  next early => simp [once.unfinished, early]
  next early => simp [once.unfinished, early]
  next returned =>
    have owed := once.once
    refine ⟨by omega, ?_⟩
    intro _ nothing
    simpa [nothing] using owed
  · exact once.elim
  · exact once.elim

end Completion

/-- A ping that is cancelled before its answer is read. -/
def cancelledPing : List CallEvent :=
  [.proceed, .proceed, .proceed, .written false, .cancel, .read (.received pingRead)]

theorem cancelled_ping_completed : ∃ running,
    run (RunningCall.step pingChannel { pingCall with done := some {} }
        { instances := .ok [text "10.0.0.1:80"], rand := 1 }) { state := { response := [] } }
      cancelledPing = some running ∧
    running.phase = .returned ∧ running.state.doneRuns.length = 1 := by
  have ran : (run (RunningCall.step pingChannel { pingCall with done := some {} }
      { instances := .ok [text "10.0.0.1:80"], rand := 1 }) { state := { response := [] } }
      cancelledPing).any fun running =>
        running.phase = .returned ∧ running.state.pending = none := by decide +kernel
  obtain ⟨running, reached, outcome⟩ := (Option.any_eq_true _ _).mp ran
  obtain ⟨returned, nothing⟩ := of_decide_eq_true outcome
  exact ⟨running, reached, returned,
    (done_runs_once rfl rfl ⟨⟨rfl, rfl, rfl⟩, .inl rfl⟩ reached).2 returned nothing⟩

end Xrpc
