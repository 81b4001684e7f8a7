import Xrpc.Core.Teardown

/-! Any number of calls on one channel, with the mutexes they hold and the handlers
that `poll_one` runs. -/

namespace Xrpc

open Support

/-- A call on the channel, as far as its caller has come with it. -/
structure SharedCall (Msg : Type) where
  call : ClientCall Msg
  outside : Outside
  running : RunningCall Msg

/-- The calls on a channel. `poller` is the one whose caller waits in `Send`, with
both mutexes locked. -/
structure BusyChannel (Msg : Type) where
  transport : AsioClient := {}
  calls : List (SharedCall Msg)
  poller : Option Nat := none

/-- A handler is `polled` if `poll_one` runs it on the thread that waits in `Send`,
and otherwise runs on the thread of the transport. -/
inductive BusyEvent where
  | proceed (index : Nat)
  | enter (index : Nat)
  | turn (turn : Turn)
  | leave
  | handle (index : Nat) (completion : Completion) (polled : Bool)
  | cancel (index : Nat)

namespace SharedCall
variable {Msg : Type}

def load (shared : SharedCall Msg) (transport : AsioClient) : RunningCall Msg :=
  { shared.running with state.transport := transport }

/-- The next step of the caller locks the channel. -/
def locks (shared : SharedCall Msg) : Bool :=
  match shared.running.phase with
  | .dialing =>
    match XrpcChannel.locate shared.outside with
    | .ok _ => true
    | .error _ => false
  | .sending _ => true
  | _ => false

/-- The request with which the caller comes to the wait loop of `Send`. -/
def waits (shared : SharedCall Msg) (transport : AsioClient) : Option Bytes :=
  match shared.running.phase with
  | .sending data =>
    if shared.call.done.isNone ∧ transport.isOpen ∧ ¬ shared.outside.writeFails then some data
    else none
  | _ => none

end SharedCall

namespace BusyChannel
variable {Msg : Type}

def store (busy : BusyChannel Msg) (index : Nat) (shared : SharedCall Msg) : BusyChannel Msg :=
  { busy with
    transport := shared.running.state.transport, calls := busy.calls.set index shared }

/-- An exception leaves `Send` and is caught in the `CallMethod` of the caller. -/
def interrupt (busy : BusyChannel Msg) (exit : Exit) : BusyChannel Msg :=
  match busy.poller with
  | none => busy
  | some index =>
    match busy.calls[index]? with
    | none => busy
    | some shared =>
      { busy.store index { shared with
          running := (shared.load busy.transport).perform shared.call (raise exit) } with
        poller := none }

/-- A handler runs, with the mutexes that its thread holds. -/
def runHandler (busy : BusyChannel Msg) (channel : XrpcChannel) (index : Nat)
    (shared : SharedCall Msg) (completion : Completion) (held : List Mutex) :
    Option Exit × BusyChannel Msg :=
  let running := shared.load busy.transport
  let received :=
    match completion with
    | .written _ => running.received
    | .read read => read.outcome.or running.received
  let ended (after : CallState Msg) := busy.store index { shared with
    running := { running with state := { after with held := [] }, received } }
  match (completion.handler channel shared.call).run { running.state with held } with
  | .ok _ after => (none, ended after)
  | .error exit after => (some exit, ended after)

/-- What a handler throws leaves `poll_one`; on the thread of the transport it
would end the process. -/
def handle (busy : BusyChannel Msg) (channel : XrpcChannel) (index : Nat) (shared : SharedCall Msg)
    (completion : Completion) (polled : Bool) : BusyChannel Msg :=
  match busy.runHandler channel index shared completion (if polled then [.socket, .channel] else []) with
  | (none, after) => after
  | (some exit, after) => if polled then after.interrupt exit else after

def step (channel : XrpcChannel) (busy : BusyChannel Msg) : BusyEvent → Option (BusyChannel Msg)
  | .proceed index => do
    let shared ← busy.calls[index]?
    let running := shared.load busy.transport
    if running.phase = .returned ∨ running.phase = .stuck then none
    else if shared.locks ∧ busy.poller.isSome then none
    else if (shared.waits busy.transport).isSome then none
    else
      some (busy.store index { shared with
        running := running.perform shared.call
          (channel.proceed shared.call shared.outside running.phase) })
  | .enter index => do
    let shared ← busy.calls[index]?
    let data ← shared.waits busy.transport
    if busy.poller.isSome then none
    else
      some { busy with transport := busy.transport.sending data, poller := some index }
  | .turn turn =>
    if busy.poller.isSome ∧ busy.transport.responseReceived = false then
      some { busy with transport := busy.transport.turn turn }
    else none
  | .leave => do
    let index ← busy.poller
    let shared ← busy.calls[index]?
    if busy.transport.responseReceived then
      let response := busy.transport.response
      some { busy.store index { shared with
          running := { shared.load busy.transport with
            phase := .answered response, received := some response } } with
        poller := none }
    else none
  | .handle index completion polled => do
    let shared ← busy.calls[index]?
    if shared.running.state.pending = some completion.op ∧ (polled = true → busy.poller.isSome) then
      some (busy.handle channel index shared completion polled)
    else none
  | .cancel index => do
    let shared ← busy.calls[index]?
    some (busy.store index { shared with running := (shared.load busy.transport).startCancel })

section Send
variable {channel : XrpcChannel} {busy : BusyChannel Msg}

theorem run_idle_turns (polling : busy.poller.isSome = true)
    (down : busy.transport.responseReceived = false) (count : Nat) (rest : List BusyEvent) :
    run (step channel) busy (List.replicate count (.turn .idle) ++ rest) =
      run (step channel) busy rest := by
  have idled : busy.step channel (.turn .idle) = some busy := by
    rw [step, if_pos ⟨polling, down⟩]
    rfl
  induction count with
  | zero => rfl
  | succ count ih =>
    rw [List.replicate_succ, List.cons_append, run, idled]
    exact ih

/-- A caller that nothing interrupts in the wait loop has called `Send`. -/
theorem send_uninterrupted {index : Nat} {shared : SharedCall Msg} {data : Bytes}
    (found : busy.calls[index]? = some shared) (idle : busy.poller = none)
    (free : shared.running.state.held = []) (waits : shared.waits busy.transport = some data)
    (before : Nat) (read : Segment) :
    let turns := List.replicate before .idle ++ [.completed (.received read)]
    run (step channel) busy (.enter index :: (turns.map .turn ++ [.leave])) =
      some (busy.store index { shared with
        running := (shared.load busy.transport).perform shared.call
          (channel.proceed shared.call { shared.outside with turns } shared.running.phase) }) := by
  obtain ⟨phase, sync, opened, written⟩ : shared.running.phase = .sending data ∧
      shared.call.done = none ∧ busy.transport.isOpen = true ∧ shared.outside.writeFails = false := by
    rw [SharedCall.waits] at waits
    split at waits
    · rename_i phase
      simp only [Option.ite_none_right_eq_some, Option.some.injEq] at waits
      obtain ⟨⟨sync, opened, written⟩, rfl⟩ := waits
      exact ⟨phase, by simpa using sync, opened, by simpa using written⟩
    · cases waits
  intro turns
  have entered : busy.step channel (.enter index) = some { busy with
      transport := busy.transport.sending data, poller := some index } := by
    simp [step, found, waits, idle]
  have sent : (XrpcChannel.sendRequest { shared.outside with turns } data).run
      (shared.load busy.transport).state = .ok (some read.1) { shared.running.state with
        transport := (busy.transport.sending data).turn (.completed (.received read)) } := by
    have received := AsioClient.send_received opened data read before []
    have loaded : (shared.load busy.transport).state.held = [] := free
    rw [XrpcChannel.sendRequest, run_guarded loaded]
    simp only [SharedCall.load, turns, written, received]
  have body : (channel.proceed shared.call { shared.outside with turns } shared.running.phase).run
      (shared.load busy.transport).state = .ok (.answered read.1) { shared.running.state with
        transport := (busy.transport.sending data).turn (.completed (.received read)) } := by
    rw [phase, XrpcChannel.proceed, XrpcChannel.transmit, if_neg (by simp [sync]), EStateM.run_bind,
      sent]
    rfl
  rw [RunningCall.perform, catchStd_ok body, run, entered, Option.bind_some, List.map_append,
    List.append_assoc, List.map_replicate, run_idle_turns rfl rfl]
  have turned : step channel { busy with
      transport := busy.transport.sending data, poller := some index }
        (.turn (.completed (.received read))) = some { busy with
          transport := (busy.transport.sending data).turn (.completed (.received read))
          poller := some index } := by
    rw [step, if_pos ⟨rfl, rfl⟩]
  simp only [List.map_singleton, List.singleton_append, run, turned, Option.bind_some]
  simp [step, found, idle, AsioClient.turn, AsioClient.handleClientRead, SharedCall.load, store,
    Phase.answer?]

end Send

end BusyChannel

end Xrpc
