import Xrpc.Core.BusyChannel
import Xrpc.Core.Endings

/-! The mutexes held where one call runs its closure. -/

namespace Xrpc

open Support

variable {Msg : Type} {channel : XrpcChannel} {call : ClientCall Msg} {outside : Outside}
  {state : CallState Msg}

/-- `body` runs the closure of the call, if it has one, with the mutexes held then. -/
def RunsDone (call : ClientCall Msg) (body : Effect (CallState Msg) Unit) : Prop :=
  ∀ state, ∃ after, Ends body state after ∧ after.held = state.held ∧
    after.pending = state.pending ∧
    after.doneRuns = state.doneRuns ++ call.done.toList.map fun _ => state.held

theorem runsDone_runDone (call : ClientCall Msg) : RunsDone call (runDone call.done) :=
  fun state => ⟨_, ends_runDone call.done state, rfl, rfl, rfl⟩

theorem runsDone_fail (reason : Bytes) : RunsDone call (fail call reason) := fun state =>
  runsDone_runDone call { state with controller := state.controller.setFailed reason }

theorem runsDone_finish (undecoded : String) (responseData : Bytes) :
    RunsDone call (channel.finish call undecoded responseData) := by
  intro state
  simp only [Ends, XrpcChannel.finish, EStateM.run_bind, EStateM.run_get]
  generalize channel.codec.decodeResponse call.responseType responseData state.response = decoded
  simp only [EStateM.run_modify]
  split
  · exact runsDone_fail _ { state with response := decoded.body }
  · split
    · split
      · exact runsDone_fail _ { state with response := decoded.body }
      · exact runsDone_runDone call { state with response := decoded.body }
    · exact runsDone_runDone call { state with response := decoded.body }

theorem runsDone_asyncCallback (channel : XrpcChannel) (call : ClientCall Msg) (responseData : Bytes)
    (success : Bool) : RunsDone call (channel.asyncCallback call responseData success) := by
  intro state
  rw [XrpcChannel.asyncCallback]
  split
  · exact runsDone_fail _ state
  · simp only [Ends, EStateM.run_bind, EStateM.run_get]
    split
    · exact runsDone_fail _ state
    · exact runsDone_finish _ _ state

/-- A closure was run with a mutex locked. -/
def Locked (state : CallState Msg) : Prop := ∃ held ∈ state.doneRuns, held ≠ []

instance (state : CallState Msg) : Decidable (Locked state) :=
  inferInstanceAs (Decidable (∃ held ∈ state.doneRuns, held ≠ []))

/-- No mutex is held, and only calls with a closure have handlers. -/
structure Tidy (call : ClientCall Msg) (state : CallState Msg) : Prop where
  free : state.held = []
  owed : state.pending.isSome → call.done.isSome

/-- Closures were run with the mutexes held then, which are held still. -/
structure Grows (call : ClientCall Msg) (before after : CallState Msg) : Prop where
  held : after.held = before.held
  pending : after.pending.isSome → before.pending.isSome ∨ call.done.isSome
  runs : ∃ runs, after.doneRuns = before.doneRuns ++ runs ∧ ∀ held ∈ runs, held = before.held

namespace Grows
variable {first second third : CallState Msg}

theorem of_same (held : second.held = first.held) (doneRuns : second.doneRuns = first.doneRuns)
    (pending : second.pending.isSome → first.pending.isSome ∨ call.done.isSome) :
    Grows call first second :=
  ⟨held, pending, [], by rw [doneRuns, List.append_nil], nofun⟩

theorem trans (early : Grows call first second) (late : Grows call second third) :
    Grows call first third := by
  obtain ⟨runs, more, free⟩ := early.runs
  obtain ⟨others, evenMore, later⟩ := late.runs
  refine ⟨late.held.trans early.held, ?_, runs ++ others, ?_, ?_⟩
  · intro pending
    exact (late.pending pending).elim early.pending .inr
  · rw [evenMore, more, List.append_assoc]
  · intro held member
    rcases List.mem_append.mp member with old | new
    · exact free held old
    · exact (later held new).trans early.held

theorem tidy (grows : Grows call first second) (tidy : Tidy call first) : Tidy call second :=
  ⟨grows.held.trans tidy.free, fun pending => (grows.pending pending).elim tidy.owed id⟩

theorem locked_iff (grows : Grows call first second) (free : first.held = []) :
    Locked second ↔ Locked first := by
  obtain ⟨runs, more, clean⟩ := grows.runs
  rw [Locked, Locked, more]
  constructor
  · rintro ⟨held, member, busy⟩
    rcases List.mem_append.mp member with old | new
    · exact ⟨held, old, busy⟩
    · exact absurd ((clean held new).trans free) busy
  · rintro ⟨held, member, busy⟩
    exact ⟨held, List.mem_append_left _ member, busy⟩

end Grows

theorem RunsDone.grows {body : Effect (CallState Msg) Unit} (runs : RunsDone call body)
    (state : CallState Msg) : Grows call state (stateAfter (body.run state)) := by
  obtain ⟨after, ends, held, pending, more⟩ := runs state
  rw [ends.stateAfter]
  refine ⟨held, fun now => .inl (pending ▸ now), _, more, ?_⟩
  intro runs member
  obtain ⟨_, -, same⟩ := List.mem_map.mp member
  exact same.symm

section Performing
variable {running : RunningCall Msg} {body : Effect (CallState Msg) Phase}

/-- The `catch` block of `CallMethod` runs without mutexes of its own. -/
theorem grows_caught (call : ClientCall Msg) (running : RunningCall Msg)
    (body : Effect (CallState Msg) Phase) :
    Grows call (stateAfter (body.run running.state)) (running.perform call body).state := by
  cases ran : body.run running.state with
  | ok phase after =>
    rw [RunningCall.perform, catchStd_ok ran]
    exact Grows.of_same rfl rfl .inl
  | error exit after =>
    cases exit with
    | exception what =>
      have failed : Grows call after _ := (runsDone_fail what).grows after
      rw [RunningCall.perform, catchStd_exception ran, EStateM.run_bind]
      cases caught : (fail call what).run after with
      | ok done last =>
        rw [caught] at failed
        exact failed
      | error exit last =>
        rw [caught] at failed
        cases exit with
        | exception what => exact failed
        | hang => exact failed
    | hang =>
      rw [RunningCall.perform, catchStd_hang ran]
      exact Grows.of_same rfl rfl .inl

theorem grows_then {body : Effect (CallState Msg) Unit} (runs : RunsDone call body)
    (state : CallState Msg) (phase : Phase) :
    Grows call state (stateAfter ((body >>= fun _ => pure phase).run state)) := by
  have grows := runs.grows state
  rw [EStateM.run_bind]
  cases ran : body.run state with
  | ok done after =>
    rw [ran] at grows
    exact grows
  | error exit after =>
    rw [ran] at grows
    exact grows

end Performing

/-- The steps of a caller that do not send an asynchronous request. -/
theorem grows_dial (free : state.held = []) :
    Grows call state (stateAfter ((channel.proceed call outside .dialing).run state)) := by
  obtain ⟨transport, dialed | ⟨what, thrown⟩⟩ := channel.proceed_dialing call outside free
  · rw [dialed]
    exact Grows.of_same rfl rfl .inl
  · rw [thrown]
    exact Grows.of_same rfl rfl .inl

theorem grows_check (state : CallState Msg) :
    Grows call state (stateAfter ((channel.proceed call outside .checking).run state)) := by
  rw [XrpcChannel.proceed]
  rcases channel.check_cases call outside state with ran | ⟨data, ran⟩ | ⟨what, thrown⟩
  · rw [ran]
    exact grows_then (runsDone_fail _) state .returned
  · rw [ran]
    exact Grows.of_same rfl rfl .inl
  · rw [thrown]
    exact Grows.of_same rfl rfl .inl

/-- A synchronous call that does not come to the wait loop. -/
theorem grows_refused (sync : call.done = none) (free : state.held = [])
    (refused : state.transport.isOpen = false ∨ outside.writeFails = true) (data : Bytes) :
    Grows call state (stateAfter ((channel.proceed call outside (.sending data)).run state)) := by
  obtain ⟨transport, unsent⟩ : ∃ transport,
      (AsioClient.send outside.writeFails outside.turns data).run state.transport =
        .ok none transport := by
    cases opened : state.transport.isOpen with
    | false => exact ⟨_, by simp [AsioClient.send, opened, EStateM.run_bind]; rfl⟩
    | true =>
      have fails := refused.resolve_left (by simp [opened])
      exact ⟨_, by simp [AsioClient.send, opened, fails, EStateM.run_bind]; rfl⟩
  have sent : (XrpcChannel.sendRequest outside data).run state = .ok none { state with transport } := by
    rw [XrpcChannel.sendRequest, run_guarded free, unsent]
  rw [XrpcChannel.proceed, XrpcChannel.transmit, if_neg (by simp [sync]), EStateM.run_bind, sent]
  have closed : Grows call state { state with transport } := Grows.of_same rfl rfl .inl
  have failed : Grows call { state with transport } _ :=
    grows_then (runsDone_fail (text "Failed to send request")) _ .returned
  exact closed.trans failed

theorem grows_sent (async : call.done.isSome = true) (isXrpc : call.isXrpc = true)
    (opened : state.transport.isOpen = true) (free : state.held = []) (data : Bytes) :
    Grows call state (stateAfter ((channel.proceed call outside (.sending data)).run state)) := by
  have sent := channel.run_sendRequestAsync_open isXrpc free opened data
  rw [XrpcChannel.proceed, XrpcChannel.transmit, if_pos async, EStateM.run_bind, sent]
  exact Grows.of_same rfl rfl fun _ => .inr async

/-- An asynchronous request that is not sent has its closure run in between the locks. -/
theorem ends_unsent (async : call.done.isSome = true) (free : state.held = [])
    (unfit : ¬ (call.isXrpc = true ∧ state.transport.isOpen = true)) (data : Bytes) :
    ∃ after held, Ends (channel.sendRequestAsync call data) state after ∧ held ≠ [] ∧
      after.held = [] ∧ after.pending = state.pending ∧
      after.doneRuns = state.doneRuns ++ [held] := by
  obtain ⟨closure, done⟩ := Option.isSome_iff_exists.mp async
  have unlocked : ∀ mutex, mutex ∉ state.held := by simp [free]
  cases isXrpc : call.isXrpc with
  | false =>
    obtain ⟨after, ends, held, pending, runs⟩ :=
      runsDone_runDone call { state with held := .channel :: state.held }
    refine ⟨_, .channel :: state.held, Ends.withLock (unlocked .channel) ?_, by simp, ?_,
      pending, by simpa [done] using runs⟩
    · simpa [isXrpc] using ends
    · simp [held, free]
  | true =>
    have closed : state.transport.isOpen = false := by simpa [isXrpc] using unfit
    obtain ⟨after, ends, held, pending, runs⟩ :=
      runsDone_asyncCallback channel call [] false
        { state with held := .socket :: .channel :: state.held }
    have inner : Ends (channel.sendAsync call data)
        { state with held := .channel :: state.held }
        { after with held := after.held.erase .socket } := by
      refine Ends.withLock (by simp [free]) ?_
      simpa [Ends, EStateM.run_bind, closed] using ends
    refine ⟨{ after with held := (after.held.erase .socket).erase .channel },
      .socket :: .channel :: state.held, ?_, by simp, ?_, pending, by simpa [done] using runs⟩
    · have body : Ends (if !call.isXrpc then runDone call.done else channel.sendAsync call data)
          { state with held := .channel :: state.held }
          { after with held := after.held.erase .socket } := by
        simpa [isXrpc] using inner
      exact body.withLock (unlocked .channel)
    · simp [held, free]

/-- The state after a step of a call, which ran the closure under a lock unless it was `good`. -/
structure Accounted (call : ClientCall Msg) (good : Prop) (before after : CallState Msg) : Prop where
  tidy : Tidy call after
  locked : Locked after ↔ Locked before ∨ ¬ good

theorem Grows.accounted {before after : CallState Msg} {good : Prop} (grows : Grows call before after)
    (tidy : Tidy call before) (met : good) : Accounted call good before after :=
  ⟨grows.tidy tidy, (grows.locked_iff tidy.free).trans (or_iff_left (not_not_intro met)).symm⟩

/-- An asynchronous request is sent with an `XrpcController` over an open socket. -/
def SharedCall.Fit (shared : SharedCall Msg) (transport : AsioClient) : Prop :=
  match shared.running.phase with
  | .sending _ =>
    shared.call.done.isSome = true → shared.call.isXrpc = true ∧ transport.isOpen = true
  | _ => True

theorem accounted_perform {running : RunningCall Msg} {body : Effect (CallState Msg) Phase}
    {good : Prop} (tidy : Tidy call running.state)
    (grows : Grows call running.state (stateAfter (body.run running.state))) (met : good) :
    Accounted call good running.state (running.perform call body).state :=
  (grows.trans (grows_caught call running body)).accounted tidy met

/-- A step of the caller. -/
theorem accounted_proceed (channel : XrpcChannel) {shared : SharedCall Msg} {transport : AsioClient}
    (tidy : Tidy shared.call shared.running.state) (ready : shared.waits transport = none) :
    Accounted shared.call (shared.Fit transport) shared.running.state
      ((shared.load transport).perform shared.call
        (channel.proceed shared.call shared.outside shared.running.phase)).state := by
  have loaded : Tidy shared.call (shared.load transport).state := ⟨tidy.free, tidy.owed⟩
  have free := loaded.free
  suffices accounted : Accounted shared.call (shared.Fit transport) (shared.load transport).state
      ((shared.load transport).perform shared.call
        (channel.proceed shared.call shared.outside shared.running.phase)).state from
    ⟨accounted.tidy, accounted.locked⟩
  rw [SharedCall.Fit]
  cases phase : shared.running.phase with
  | dialing => exact accounted_perform loaded (grows_dial free) trivial
  | checking => exact accounted_perform loaded (grows_check _) trivial
  | answered responseData =>
    exact accounted_perform loaded (grows_then (runsDone_finish _ _) _ .returned) trivial
  | returned => exact accounted_perform loaded (Grows.of_same rfl rfl fun now => .inl now) trivial
  | stuck => exact accounted_perform loaded (Grows.of_same rfl rfl fun now => .inl now) trivial
  | sending data =>
    cases done : shared.call.done with
    | none =>
      have refused : transport.isOpen = false ∨ shared.outside.writeFails = true := by
        simpa [SharedCall.waits, phase, done, imp_iff_not_or] using ready
      exact accounted_perform loaded (grows_refused done free refused data) (by simp)
    | some closure =>
      have async : shared.call.done.isSome = true := by rw [done]; rfl
      by_cases fit : shared.call.isXrpc = true ∧ transport.isOpen = true
      · exact accounted_perform loaded (grows_sent async fit.1 fit.2 free data) fun _ => fit
      · obtain ⟨after, held, ends, locks, unlocked, pending, runs⟩ :=
          ends_unsent async free fit data
        have left : stateAfter ((channel.proceed shared.call shared.outside (.sending data)).run
            (shared.load transport).state) = after := by
          rw [XrpcChannel.proceed, XrpcChannel.transmit, if_pos async, EStateM.run_bind]
          rcases ends with returned | ⟨what, thrown⟩
          · rw [returned]
            rfl
          · rw [thrown]
            rfl
        have caught := grows_caught shared.call (shared.load transport)
          (channel.proceed shared.call shared.outside (.sending data))
        rw [left] at caught
        have between : Tidy shared.call after :=
          ⟨unlocked, fun now => tidy.owed (pending ▸ now)⟩
        have marked : Locked after := ⟨held, by simp [runs], locks⟩
        exact ⟨caught.tidy between, iff_of_true ((caught.locked_iff unlocked).mpr marked)
          (.inr fun met => fit (met rfl))⟩

/-- A handler that starts the read, or the callback. -/
theorem handler_cases (channel : XrpcChannel) (call : ClientCall Msg) (completion : Completion)
    (state : CallState Msg) :
    (completion = .written false ∧ (completion.handler channel call).run state =
        .ok () { state with pending := some .reading }) ∨
      (completion ≠ .written false ∧ ∃ bytes success, (completion.handler channel call).run state =
        (channel.asyncCallback call bytes success).run { state with pending := none }) := by
  cases completion with
  | written failed =>
    cases failed with
    | false => exact .inl ⟨rfl, rfl⟩
    | true => exact .inr ⟨by simp, [], false, rfl⟩
  | read read =>
    cases read with
    | received bytes => exact .inr ⟨by simp, bytes, true, rfl⟩
    | failed message => exact .inr ⟨by simp, [], false, rfl⟩

/-- A handler, run with the mutexes that its thread holds. -/
theorem accounted_handler (channel : XrpcChannel) {completion : Completion} (tidy : Tidy call state)
    (pending : state.pending = some completion.op) (held : List Mutex) :
    Accounted call (held ≠ [] → completion = .written false) state
      { stateAfter ((completion.handler channel call).run { state with held }) with held := [] } := by
  have async : call.done.isSome = true := tidy.owed (by rw [pending]; rfl)
  obtain ⟨closure, done⟩ := Option.isSome_iff_exists.mp async
  rcases handler_cases channel call completion { state with held } with
    ⟨same, ran⟩ | ⟨other, bytes, success, ran⟩
  · rw [ran]
    have reads : Grows call state { state with held := [], pending := some .reading } :=
      Grows.of_same tidy.free.symm rfl fun _ => .inr async
    exact reads.accounted tidy fun _ => same
  · obtain ⟨after, ends, -, idle, runs⟩ :=
      runsDone_asyncCallback channel call bytes success
        { state with held, pending := none }
    rw [ran, ends.stateAfter]
    refine ⟨⟨rfl, fun now => absurd now (by simp [idle])⟩, ?_⟩
    have listed : ∀ locks, locks ∈ after.doneRuns ↔ locks ∈ state.doneRuns ∨ locks = held := by
      simp [runs, done]
    simp only [Locked, listed]
    constructor
    · rintro ⟨locks, member | rfl, busy⟩
      · exact .inl ⟨locks, member, busy⟩
      · exact .inr fun met => other (met busy)
    · rintro (⟨locks, member, busy⟩ | unmet)
      · exact ⟨locks, .inl member, busy⟩
      · refine ⟨held, .inr rfl, fun free => unmet fun busy => absurd free busy⟩

end Xrpc
