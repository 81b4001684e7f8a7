import Xrpc.Core.RemoteCall

/-! How the parts of a call end that run its closure. -/

namespace Xrpc

open Support

section Endings
variable {Msg : Type}

/-- `body` returns or throws, in the state `after`. -/
def Ends (body : Effect (CallState Msg) Unit) (state after : CallState Msg) : Prop :=
  body.run state = .ok () after ∨ ∃ what, body.run state = .error (.exception what) after

variable {channel : XrpcChannel} {call : ClientCall Msg} {state after : CallState Msg}
  {body : Effect (CallState Msg) Unit}

theorem Ends.stateAfter (ends : Ends body state after) : stateAfter (body.run state) = after := by
  rcases ends with returned | ⟨what, thrown⟩
  · rw [returned, stateAfter_ok]
  · rw [thrown, stateAfter_error]

theorem Ends.withLock {mutex : Mutex} (free : mutex ∉ state.held)
    (ends : Ends body { state with held := mutex :: state.held } after) :
    Ends (withLock mutex body) state { after with held := after.held.erase mutex } := by
  rcases ends with returned | ⟨what, thrown⟩
  · exact .inl (by rw [run_withLock, if_neg free, returned])
  · exact .inr ⟨what, by rw [run_withLock, if_neg free, thrown]⟩

theorem ends_runDone (done : Option Closure) (state : CallState Msg) :
    Ends (runDone done) state
      { state with doneRuns := state.doneRuns ++ done.toList.map fun _ => state.held } := by
  cases done with
  | none => exact .inl (by simp [runDone])
  | some closure =>
    cases throws : closure.throws with
    | none => exact .inl (by simp [runDone, throws])
    | some what => exact .inr ⟨what, by simp [runDone, throws, EStateM.run_bind]⟩

/-- The call has failed, and nothing is in flight. -/
structure Over (state : CallState Msg) : Prop where
  failed : state.controller.failed = true
  idle : state.pending = none

def Fails (body : Effect (CallState Msg) Unit) (state : CallState Msg) : Prop :=
  ∃ after, Ends body state after ∧ Over after

theorem Fails.withLock {mutex : Mutex} (free : mutex ∉ state.held)
    (fails : Fails body { state with held := mutex :: state.held }) :
    Fails (withLock mutex body) state := by
  obtain ⟨after, ends, settled⟩ := fails
  exact ⟨_, ends.withLock free, settled.failed, settled.idle⟩

theorem fails_fail (reason : Bytes) (idle : state.pending = none) : Fails (fail call reason) state :=
  ⟨_, ends_runDone call.done { state with controller := state.controller.setFailed reason },
    rfl, idle⟩

/-- The last part of a call does not fail it. -/
def Decoded.Passes {Body : Type} (decoded : Decoded Body) : Prop :=
  decoded.accepted = true ∧ (decoded.header.status = 0 ∨ decoded.header.error = none)

theorem ends_finish (undecoded : String) (data : Bytes) (idle : state.pending = none) :
    let decoded := channel.codec.decodeResponse call.responseType data state.response
    (¬ decoded.Passes ∧ Fails (channel.finish call undecoded data) state) ∨
    (decoded.Passes ∧ (channel.finish call undecoded data).run state =
      (runDone call.done).run { state with response := decoded.body }) := by
  generalize same : channel.codec.decodeResponse call.responseType data state.response = decoded
  dsimp only
  obtain ⟨accepted, header, response⟩ := decoded
  have failing : ∀ reason, Fails (fail call reason) { state with response } :=
    fun reason => fails_fail reason idle
  cases accepted with
  | false =>
    refine .inl ⟨by simp [Decoded.Passes], ?_⟩
    simp only [Fails, Ends, run_finish_undecoded undecoded (show _ = false by rw [same]), same]
    exact failing (text undecoded)
  | true =>
    have ran := run_finish undecoded same
    cases failure : header.error with
    | none =>
      simp only [CallState.settle, failure] at ran
      exact .inr ⟨⟨rfl, .inr failure⟩, ran⟩
    | some error =>
      by_cases zero : header.status = 0
      · simp only [CallState.settle, failure, zero, ne_eq, not_true_eq_false, if_false] at ran
        exact .inr ⟨⟨rfl, .inl zero⟩, ran⟩
      · simp only [CallState.settle, failure, zero, ne_eq, not_false_eq_true, if_true] at ran
        refine .inl ⟨by simp [Decoded.Passes, zero, failure], ?_⟩
        simp only [Fails, Ends, ran]
        exact failing error.message

theorem run_asyncCallback (data : Bytes) (state : CallState Msg) :
    (channel.asyncCallback call data true).run state =
      if state.controller.canceled then (fail call (text "Request was canceled")).run state
      else (channel.finish call "Failed to decode async response" data).run state := by
  rw [XrpcChannel.asyncCallback, if_neg (by simp), EStateM.run_bind, EStateM.run_get]
  dsimp only
  split
  · rfl
  · rfl

theorem ends_asyncCallback (data : Bytes) (success : Bool) (idle : state.pending = none) :
    let decoded := channel.codec.decodeResponse call.responseType data state.response
    ((success = true → state.controller.canceled = false → ¬ decoded.Passes) ∧
      Fails (channel.asyncCallback call data success) state) ∨
    (success = true ∧ state.controller.canceled = false ∧ decoded.Passes ∧
      (channel.asyncCallback call data success).run state =
        (runDone call.done).run { state with response := decoded.body }) := by
  intro decoded
  cases success with
  | false => exact .inl ⟨by simp, fails_fail _ idle⟩
  | true =>
    have ran : (channel.asyncCallback call data true).run state = _ := run_asyncCallback data state
    cases canceled : state.controller.canceled with
    | true =>
      rw [canceled, if_pos rfl] at ran
      refine .inl ⟨by simp, ?_⟩
      simp only [Fails, Ends, ran]
      exact fails_fail _ idle
    | false =>
      rw [canceled, if_neg (by simp)] at ran
      have finished : _ ∨ decoded.Passes ∧ _ :=
        ends_finish "Failed to decode async response" data idle
      rcases finished with ⟨rejected, fails⟩ | ⟨passes, ends⟩
      · refine .inl ⟨fun _ _ => rejected, ?_⟩
        simp only [Fails, Ends, ran]
        exact fails
      · exact .inr ⟨rfl, rfl, passes, ran.trans ends⟩

/-- Without an `XrpcController` the closure is run and nothing is said. -/
theorem run_sendRequestAsync_other {closure : Closure} (async : call.done = some closure)
    (isXrpc : call.isXrpc = false) (free : state.held = []) (data : Bytes) :
    (channel.sendRequestAsync call data).run state =
      match closure.throws with
      | none => .ok () { state with doneRuns := state.doneRuns ++ [[.channel]] }
      | some what =>
        .error (.exception what) { state with doneRuns := state.doneRuns ++ [[.channel]] } := by
  cases throws : closure.throws with
  | none =>
    simp [XrpcChannel.sendRequestAsync, run_withLock, free, isXrpc, runDone, async, throws]
  | some what =>
    simp [XrpcChannel.sendRequestAsync, run_withLock, free, isXrpc, runDone, async, throws,
      EStateM.run_bind]

theorem fails_sendRequestAsync (isXrpc : call.isXrpc = true) (free : state.held = [])
    (idle : state.pending = none) (closed : state.transport.isOpen = false) (data : Bytes) :
    Fails (channel.sendRequestAsync call data) state := by
  have ran : (channel.sendRequestAsync call data).run state =
      (withLock .channel (withLock .socket (channel.asyncCallback call [] false))).run state := by
    simp [XrpcChannel.sendRequestAsync, XrpcChannel.sendAsync, run_withLock, free, isXrpc, closed,
      EStateM.run_bind]
  simp only [Fails, Ends, ran]
  refine Fails.withLock (by simp [free]) (Fails.withLock (by simp [free]) ?_)
  exact fails_fail _ idle

end Endings

end Xrpc
