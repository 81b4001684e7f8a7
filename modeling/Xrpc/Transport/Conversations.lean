import Xrpc.Core.Framing
import Xrpc.Transport.Survival

/-! What a server writes to each of its sockets, whatever the others do. -/

namespace Xrpc

open Support

/-- A server and the responses that it has written, each with its socket. -/
structure ServerStreams where
  server : AsioServer
  written : List (Nat × Bytes) := []

namespace ServerStreams

def modifyServer (change : AsioServer → AsioServer) : Effect ServerStreams Unit :=
  modify fun streams => { streams with server := change streams.server }

def needPeer (there : Bool) : Effect ServerStreams Unit :=
  if there then pure () else raise (.exception (text "Transport endpoint is not connected"))

def write (socket : Nat) (response : Bytes) : Effect ServerStreams Unit :=
  modify fun streams => { streams with written := streams.written ++ [(socket, response)] }

def handleServerRead (socket : Nat) (request : Bytes) (departure : Departure) :
    Effect ServerStreams Unit := do
  modifyServer (·.hand socket request)
  let response ← ofThrowing ((← get).server.answer request)
  if response ≠ [] then
    if departure = .beforeWrite then modifyServer (·.leave socket)
    needPeer ((← get).server.peerOf socket)
    write socket response
    if departure = .beforeLog then modifyServer (·.leave socket)
    needPeer ((← get).server.peerOf socket)
  modifyServer (·.setReading socket true)

def perform (handler : Effect ServerStreams Unit) (streams : ServerStreams) : ServerStreams :=
  match handler.run streams with
  | .ok _ after => after
  | .error _ after => { after with server.running := false }

/-- Only the read handler writes. -/
def step (streams : ServerStreams) : ServerEvent → Option ServerStreams
  | .received socket request departure =>
    if streams.server.running && streams.server.isReading socket then
      some (perform (handleServerRead socket request departure)
        { streams with server := streams.server.setReading socket false })
    else none
  | event => (streams.server.step event).map fun server => { streams with server }

def startServer (callback : Bytes → Except Bytes Bytes) : ServerStreams where
  server := AsioServer.startServer callback

/-- The response to a request, if there is something to write. -/
def reply (callback : Bytes → Except Bytes Bytes) (request : Bytes) : Option Bytes :=
  match callback request with
  | .ok response => if response = [] then none else some response
  | .error _ => none

section Handler
variable {streams next : ServerStreams} {socket : Nat} {request response : Bytes}
  {departure : Departure}

/-- The handler writes unless the callback threw, had no response or lost its peer. -/
def writes (server : AsioServer) (socket : Nat) (request : Bytes) (departure : Departure) :
    List (Nat × Bytes) :=
  match server.answer request with
  | .ok response =>
    if response ≠ [] ∧ departure ≠ .beforeWrite ∧ server.peerOf socket = true then
      [(socket, response)]
    else []
  | .error _ => []

theorem perform_handleServerRead (streams : ServerStreams) (socket : Nat) (request : Bytes)
    (departure : Departure) :
    perform (handleServerRead socket request departure) streams =
      { server := AsioServer.perform (AsioServer.handleServerRead socket request departure)
          streams.server
        written := streams.written ++ writes streams.server socket request departure } := by
  cases answered : streams.server.answer request with
  | error what =>
    simp [perform, handleServerRead, modifyServer, AsioServer.perform, AsioServer.handleServerRead,
      EStateM.run_bind, answered, writes]
  | ok response =>
    by_cases empty : response = []
    · simp [perform, handleServerRead, modifyServer, AsioServer.perform,
        AsioServer.handleServerRead, AsioServer.doServerRead, EStateM.run_bind, answered, writes,
        empty]
    · cases there : streams.server.peerOf socket with
      | false =>
        cases departure with
        | _ =>
          simp [perform, handleServerRead, modifyServer, needPeer, AsioServer.perform,
            AsioServer.handleServerRead, AsioServer.needPeer, EStateM.run_bind, answered, writes,
            empty, there]
      | true =>
        cases departure with
        | _ =>
          simp [perform, handleServerRead, modifyServer, needPeer, write, AsioServer.perform,
            AsioServer.handleServerRead, AsioServer.needPeer, AsioServer.doServerRead,
            EStateM.run_bind, answered, writes, empty, there]

end Handler

section Steps
variable {streams next : ServerStreams} {event : ServerEvent} {callback : Bytes → Except Bytes Bytes}

def output (server : AsioServer) : ServerEvent → List (Nat × Bytes)
  | .received socket request departure => writes server socket request departure
  | _ => []

/-- The server does what it does without its account. -/
theorem step_server (taken : streams.step event = some next) :
    streams.server.step event = some next.server ∧
      next.written = streams.written ++ output streams.server event := by
  cases event with
  | received socket request departure =>
    simp only [step, Option.ite_none_right_eq_some, Option.some.injEq] at taken
    obtain ⟨ready, taken⟩ := taken
    rw [perform_handleServerRead] at taken
    subst next
    refine ⟨?_, ?_⟩
    · rw [AsioServer.step, if_pos ready]
    · have same : writes (streams.server.setReading socket false) socket request departure =
          writes streams.server socket request departure := by
        unfold writes
        rw [AsioServer.peerOf_setReading]
        rfl
      rw [same]
      rfl
  | _ =>
    obtain ⟨server, went, rfl⟩ := Option.map_eq_some_iff.mp taken
    exact ⟨went, (List.append_nil _).symm⟩

theorem attended_of_running {server after : AsioServer} (taken : server.step event = some after)
    (running : after.running = true) : server.Attended event := by
  by_contra alone
  have stopped := AsioServer.running_step_unattended alone taken
  rw [running] at stopped
  cases stopped

theorem callback_step {server after : AsioServer} (taken : server.step event = some after)
    (running : after.running = true) : after.serverCallback = server.serverCallback := by
  have attended := attended_of_running taken running
  cases event with
  | accepted there =>
    simp only [AsioServer.step, Option.ite_none_right_eq_some, Option.some.injEq] at taken
    have there : there = true := attended
    rw [← taken.2, AsioServer.perform_handleAccept, if_pos there]
    rfl
  | acceptFailed =>
    simp only [AsioServer.step, Option.ite_none_right_eq_some, Option.some.injEq] at taken
    rw [← taken.2, AsioServer.perform_handleAcceptFailure]
  | peerLeft socket =>
    simp only [AsioServer.step, Option.ite_none_right_eq_some, Option.some.injEq] at taken
    rw [← taken.2]
    rfl
  | received socket request departure =>
    simp only [AsioServer.step, Option.ite_none_right_eq_some, Option.some.injEq] at taken
    obtain ⟨response, answered, there⟩ := attended
    have answered : (server.setReading socket false).answer request = .ok response := answered
    rw [← taken.2, AsioServer.perform_handleServerRead answered
      ((AsioServer.peerOf_setReading ..).symm ▸ there)]
    rfl
  | readFailed socket =>
    simp only [AsioServer.step, Option.ite_none_right_eq_some, Option.some.injEq] at taken
    have there : (server.setReading socket false).peerOf socket = true :=
      (AsioServer.peerOf_setReading ..).trans attended
    rw [← taken.2, AsioServer.perform_handleServerReadFailure, if_pos there]
    rfl

/-- The responses owed to requests, each with its socket. -/
def replies (callback : Bytes → Except Bytes Bytes) (requests : List (Nat × Bytes)) :
    List (Nat × Bytes) :=
  requests.filterMap fun entry => (reply callback entry.2).map (entry.1, ·)

theorem answer_of_callback {server : AsioServer} (given : server.serverCallback = some callback)
    (request : Bytes) : server.answer request = callback request := by
  rw [AsioServer.answer, given]

/-- A handler writes the response owed, or nothing. -/
theorem output_cases {server : AsioServer} (given : server.serverCallback = some callback)
    (event : ServerEvent) :
    output server event = replies callback (AsioServer.request? event).toList ∨
      output server event = [] := by
  cases event with
  | received socket request departure =>
    simp only [output, writes, answer_of_callback given]
    cases answered : callback request with
    | error what => exact .inr rfl
    | ok response =>
      by_cases written : response ≠ [] ∧ departure ≠ .beforeWrite ∧ server.peerOf socket = true
      · refine .inl ?_
        simp [written, replies, AsioServer.request?, reply, answered]
      · exact .inr (if_neg written)
  | _ => exact .inr rfl

/-- It writes what is owed if the server goes on. -/
theorem output_of_running {server after : AsioServer}
    (given : server.serverCallback = some callback) (taken : server.step event = some after)
    (running : after.running = true) :
    output server event = replies callback (AsioServer.request? event).toList := by
  have attended := attended_of_running taken running
  cases event with
  | received socket request departure =>
    obtain ⟨response, answered, there⟩ := attended
    have called : callback request = .ok response := (answer_of_callback given request).symm.trans answered
    simp only [output, writes, answered]
    rcases there with rfl | ⟨there, rfl⟩
    · simp [replies, AsioServer.request?, reply, called]
    · by_cases empty : response = []
      · simp [replies, AsioServer.request?, reply, called, empty]
      · simp [replies, AsioServer.request?, reply, called, empty, there]
  | _ => rfl

end Steps

section Runs
variable {streams final : ServerStreams} {events : List ServerEvent}
  {callback : Bytes → Except Bytes Bytes}

/-- Once an exception has left the loop, nothing is read or written any more. -/
theorem stopped_run (stopped : streams.server.running = false)
    (reached : run step streams events = some final) :
    events.filterMap AsioServer.request? = [] ∧ final.written = streams.written ∧
      final.server.running = false := by
  induction events generalizing streams with
  | nil =>
    cases reached
    exact ⟨rfl, rfl, stopped⟩
  | cons event rest ih =>
    obtain ⟨next, taken, remaining⟩ := run_cons_eq_some.mp reached
    obtain ⟨went, wrote⟩ := step_server taken
    obtain ⟨unread, unwritten, still⟩ := ih (AsioServer.running_step_stopped stopped went) remaining
    cases event with
    | received socket request departure => simp [AsioServer.step, stopped] at went
    | _ => exact ⟨unread, unwritten.trans (wrote.trans (List.append_nil _)), still⟩

theorem replies_append (requests more : List (Nat × Bytes)) :
    replies callback (requests ++ more) = replies callback requests ++ replies callback more :=
  List.filterMap_append

theorem requests_cons (event : ServerEvent) (rest : List ServerEvent) :
    (event :: rest).filterMap AsioServer.request? =
      (AsioServer.request? event).toList ++ rest.filterMap AsioServer.request? := by
  cases requested : AsioServer.request? event with
  | none => simp [requested]
  | some request => simp [requested]

/-- What a run writes: the responses owed, the last of them missing at most. -/
theorem written_run (given : streams.server.serverCallback = some callback)
    (reached : run step streams events = some final) :
    ∃ sent, final.written = streams.written ++ sent ∧
      sent <+: replies callback (events.filterMap AsioServer.request?) ∧
      (final.server.running = true →
        sent = replies callback (events.filterMap AsioServer.request?)) := by
  induction events generalizing streams with
  | nil =>
    cases reached
    exact ⟨[], (List.append_nil _).symm, List.nil_prefix, fun _ => rfl⟩
  | cons event rest ih =>
    obtain ⟨next, taken, remaining⟩ := run_cons_eq_some.mp reached
    obtain ⟨went, wrote⟩ := step_server taken
    rw [requests_cons, replies_append]
    cases running : next.server.running with
    | true =>
      have owed := output_of_running given went running
      obtain ⟨sent, later, owing, all⟩ := ih ((callback_step went running).trans given) remaining
      refine ⟨output streams.server event ++ sent, ?_, ?_, ?_⟩
      · rw [later, wrote, List.append_assoc]
      · rw [owed]
        exact (List.prefix_append_right_inj _).mpr owing
      · intro serving
        rw [owed, all serving]
    | false =>
      obtain ⟨unread, unwritten, still⟩ := stopped_run running remaining
      refine ⟨output streams.server event, unwritten.trans wrote, ?_, ?_⟩
      · rcases output_cases given event with owed | nothing
        · rw [owed]
          exact List.prefix_append _ _
        · rw [nothing]
          exact List.nil_prefix
      · intro serving
        rw [still] at serving
        cases serving

theorem onSocket_replies (socket : Nat) (requests : List (Nat × Bytes)) :
    AsioServer.onSocket socket (replies callback requests) =
      (AsioServer.onSocket socket requests).filterMap (reply callback) := by
  induction requests with
  | nil => rfl
  | cons entry rest ih =>
    have tail := ih
    unfold AsioServer.onSocket replies at tail ⊢
    by_cases here : entry.1 = socket
    · cases owed : reply callback entry.2 with
      | none => simpa [here, owed] using tail
      | some response => simpa [here, owed] using tail
    · cases owed : reply callback entry.2 with
      | none => simpa [here, owed] using tail
      | some response => simpa [here, owed] using tail

/-- A connection is answered as if it were alone: whatever the server accepts, reads and
loses on other sockets, it writes to this one the response to each of its reads, once and
in their order, until it stops altogether. -/
theorem connection_alone (reached : run step (startServer callback) events = some final)
    (socket : Nat) :
    AsioServer.onSocket socket final.written <+:
        (AsioServer.readsOf socket events).filterMap (reply callback) ∧
      (final.server.running = true → AsioServer.onSocket socket final.written =
        (AsioServer.readsOf socket events).filterMap (reply callback)) := by
  have given : (startServer callback).server.serverCallback = some callback := rfl
  obtain ⟨sent, written, owing, all⟩ := written_run given reached
  have start : final.written = sent := written
  rw [start, AsioServer.readsOf, ← onSocket_replies]
  refine ⟨(owing.filter _).map _, ?_⟩
  intro serving
  rw [all serving]

end Runs

section Pings

/-- Two connections take turns, and one of them goes away. -/
def twoClients : List ServerEvent :=
  [.accepted true, .accepted true, .received 1 pingFrame.bytes .stays,
    .received 0 pingFrame.bytes .stays, .readFailed 0, .received 1 pingFrame.bytes .stays]

theorem second_client_answered : ∃ final,
    run step (startServer fun data => (pingServer.onMessage data).response) twoClients =
      some final ∧
    AsioServer.onSocket 1 final.written = [pingFrame.bytes, pingFrame.bytes] ∧
    AsioServer.onSocket 1 final.written = (AsioServer.readsOf 1 twoClients).filterMap
      (reply fun data => (pingServer.onMessage data).response) := by
  have ran : (run step (startServer fun data => (pingServer.onMessage data).response)
      twoClients).any fun final => final.server.running = true ∧
        AsioServer.onSocket 1 final.written = [pingFrame.bytes, pingFrame.bytes] := by
    decide +kernel
  obtain ⟨final, reached, ran⟩ := (Option.any_eq_true _ _).mp ran
  obtain ⟨serving, written⟩ := of_decide_eq_true ran
  exact ⟨final, reached, written, (connection_alone reached 1).2 serving⟩

end Pings

end ServerStreams

end Xrpc
