import Xrpc.Transport.Survival

/-! What `AsioTransport::Stop` does to a server whose io thread goes on beside it. -/

namespace Xrpc

open Support

/-- How far `Stop` is. -/
inductive StopStage where
  | serving | closing | stopped
  deriving DecidableEq

/-- A server and the thread that stops it. The sockets that `Stop` has closed are `closed`;
those from `since` on were accepted after its loop over them had begun. -/
structure StoppingServer where
  server : AsioServer
  stage : StopStage := .serving
  since : Nat := 0
  closed : List Nat := []

inductive StopEvent where
  /-- The io thread runs a handler, or a peer goes away. -/
  | io (event : ServerEvent)
  /-- `server_acceptor_` is cancelled and closed. -/
  | closeAcceptor
  /-- One of `server_sockets_` is cancelled and closed. -/
  | closeSocket (socket : Nat)
  /-- `server_sockets_` is cleared, the work guard reset and the `io_context` stopped. -/
  | stop
  deriving DecidableEq

namespace StoppingServer

def listed (stopping : StoppingServer) (socket : Nat) : Bool :=
  (stopping.server.serverSockets.find? socket).isSome

/-- An exception that leaves the io thread ends the process. A socket that is closed has no
remote endpoint, like one whose peer is gone, and the handler of its read runs with an error. -/
def step (stopping : StoppingServer) (event : StopEvent) : Option StoppingServer :=
  if !stopping.server.running then none
  else
    match event with
    | .io event =>
      if stopping.stage = .stopped then none
      else (stopping.server.step event).map fun server => { stopping with server }
    | .closeAcceptor =>
      if stopping.stage = .serving then
        some { stopping with
          server.acceptorOpen := false
          stage := .closing
          since := stopping.server.nextSocket }
      else none
    | .closeSocket socket =>
      if stopping.stage = .closing ∧ stopping.listed socket = true ∧ socket ∉ stopping.closed then
        some { stopping with
          server := stopping.server.leave socket
          closed := socket :: stopping.closed }
      else none
    | .stop =>
      if stopping.stage = .closing ∧ ∀ socket ∈ stopping.server.serverSockets.keys,
          socket ∈ stopping.closed ∨ stopping.since ≤ socket then
        some { stopping with stage := .stopped }
      else none

/-- A step of `Stop`, or the handler of an operation that it aborts. -/
def Stops : StopEvent → Prop
  | .io .acceptFailed | .io (.readFailed _) => True
  | .io _ => False
  | .closeAcceptor | .closeSocket _ | .stop => True

section Steps
variable {stopping next : StoppingServer} {event : StopEvent} {server : AsioServer} {socket : Nat}

/-- As long as no exception has left the io thread, every socket has its read posted. -/
theorem serving_of_running {callback : Bytes → Except Bytes Bytes} {events : List ServerEvent}
    (reached : run AsioServer.step (.startServer callback) events = some server)
    (running : server.running = true) : server.Serving := by
  have kept : server.running = true → server.Serving := by
    refine @run_invariant _ _ _ (fun server => server.running = true → server.Serving) ?_ _ _ _
      (fun _ => AsioServer.serving_start callback) reached
    intro state event next serving taken running
    have before : state.running = true := by
      by_contra stopped
      have still := AsioServer.running_step_stopped (Bool.eq_false_of_not_eq_true stopped) taken
      rw [running] at still
      cases still
    have attended : state.Attended event := by
      by_contra alone
      have stopped := AsioServer.running_step_unattended alone taken
      rw [running] at stopped
      cases stopped
    exact (serving before).step attended taken
  exact kept running

theorem isReading_leave (server : AsioServer) (socket : Nat) :
    (server.leave socket).isReading socket = server.isReading socket := by
  simp [AsioServer.leave, AsioServer.isReading]

theorem find?_leave_of_ne {other : Nat} (different : other ≠ socket) :
    (server.leave socket).serverSockets.find? other = server.serverSockets.find? other :=
  Table.find?_insert_ne _ different _

/-- A socket that is closed stays in the table. -/
theorem listed_leave (present : (server.serverSockets.find? socket).isSome = true) (other : Nat) :
    ((server.leave socket).serverSockets.find? other).isSome =
      (server.serverSockets.find? other).isSome := by
  by_cases same : other = socket
  · subst other
    rw [present, AsioServer.leave, Table.find?_insert]
    rfl
  · rw [find?_leave_of_ne same]

/-- The handler of the read of a closed socket finds no remote endpoint. -/
theorem aborted_read_throws (running : server.running = true)
    (reading : server.isReading socket = true) :
    ∃ after, (server.leave socket).step (.readFailed socket) = some after ∧
      after.running = false := by
  have posted :
      ((server.leave socket).running && (server.leave socket).isReading socket) = true := by
    rw [isReading_leave, reading, Bool.and_true]
    exact running
  rw [AsioServer.step, if_pos posted]
  refine ⟨_, rfl, ?_⟩
  rw [AsioServer.perform_handleServerReadFailure, AsioServer.peerOf_setReading,
    AsioServer.peerOf_leave]
  rfl

/-- No exception has left the io thread, and there are no connections. -/
structure Alone (stopping : StoppingServer) : Prop where
  running : stopping.server.running = true
  empty : ∀ socket, stopping.server.serverSockets.find? socket = none

theorem Alone.step (alone : Alone stopping) (stops : Stops event)
    (taken : stopping.step event = some next) : Alone next := by
  obtain ⟨running, empty⟩ := alone
  unfold StoppingServer.step at taken
  rw [running, Bool.not_true, if_neg Bool.false_ne_true] at taken
  cases event with
  | io event =>
    simp only [Option.ite_none_left_eq_some] at taken
    obtain ⟨server, went, rfl⟩ := Option.map_eq_some_iff.mp taken.2
    cases event with
    | acceptFailed =>
      simp only [AsioServer.step, Option.ite_none_right_eq_some, Option.some.injEq] at went
      rw [AsioServer.perform_handleAcceptFailure] at went
      rw [← went.2]
      exact ⟨running, empty⟩
    | readFailed socket => simp [AsioServer.step, AsioServer.isReading, empty] at went
    | _ => cases stops
  | closeAcceptor =>
    simp only [Option.ite_none_right_eq_some, Option.some.injEq] at taken
    rw [← taken.2]
    exact ⟨running, empty⟩
  | closeSocket socket => simp [listed, empty] at taken
  | stop =>
    simp only [Option.ite_none_right_eq_some, Option.some.injEq] at taken
    rw [← taken.2]
    exact ⟨running, empty⟩

theorem step_io {event : ServerEvent} (running : stopping.server.running = true)
    (ongoing : stopping.stage ≠ .stopped) :
    stopping.step (.io event) =
      (stopping.server.step event).map fun server => { stopping with server } := by
  unfold StoppingServer.step
  rw [running, Bool.not_true, if_neg Bool.false_ne_true]
  exact if_neg ongoing

theorem step_closeSocket (running : stopping.server.running = true)
    (closing : stopping.stage = .closing) (present : stopping.listed socket = true)
    (opened : socket ∉ stopping.closed) :
    stopping.step (.closeSocket socket) = some { stopping with
      server := stopping.server.leave socket
      closed := socket :: stopping.closed } := by
  unfold StoppingServer.step
  rw [running, Bool.not_true, if_neg Bool.false_ne_true]
  exact if_pos ⟨closing, present, opened⟩

theorem step_stop (running : stopping.server.running = true) (closing : stopping.stage = .closing)
    (all : ∀ socket ∈ stopping.server.serverSockets.keys, socket ∈ stopping.closed) :
    stopping.step .stop = some { stopping with stage := .stopped } := by
  unfold StoppingServer.step
  rw [running, Bool.not_true, if_neg Bool.false_ne_true]
  exact if_pos ⟨closing, fun socket member => .inl (all socket member)⟩

/-- While `Stop` closes its sockets, and no handler runs. -/
structure Closing (sockets : List Nat) (stopping : StoppingServer) : Prop where
  running : stopping.server.running = true
  stage : stopping.stage = .closing
  listed : ∀ socket ∈ sockets, stopping.listed socket = true
  opened : ∀ socket ∈ sockets, socket ∉ stopping.closed
  others : ∀ socket, stopping.listed socket = true → socket ∈ sockets ∨ socket ∈ stopping.closed

/-- It can close them all before a handler runs. -/
theorem close_all {sockets : List Nat} (distinct : sockets.Nodup)
    (closing : Closing sockets stopping) :
    ∃ final, run step stopping (sockets.map .closeSocket) = some final ∧ Closing [] final := by
  induction sockets generalizing stopping with
  | nil => exact ⟨stopping, rfl, closing⟩
  | cons socket rest ih =>
    obtain ⟨absent, later⟩ := List.nodup_cons.mp distinct
    have present := closing.listed socket List.mem_cons_self
    have taken := step_closeSocket closing.running closing.stage present
      (closing.opened socket List.mem_cons_self)
    have nearer : Closing rest { stopping with
        server := stopping.server.leave socket
        closed := socket :: stopping.closed } := by
      refine ⟨closing.running, closing.stage, ?_, ?_, ?_⟩
      · intro other member
        exact (listed_leave present other).trans
          (closing.listed other (List.mem_cons_of_mem socket member))
      · intro other member done
        rcases List.mem_cons.mp done with rfl | before
        · exact absent member
        · exact closing.opened other (List.mem_cons_of_mem socket member) before
      · intro other there
        rcases closing.others other ((listed_leave present other).symm.trans there) with
          waiting | done
        · rcases List.mem_cons.mp waiting with rfl | still
          · exact .inr List.mem_cons_self
          · exact .inl still
        · exact .inr (List.mem_cons_of_mem socket done)
    obtain ⟨final, reached, ended⟩ := ih later nearer
    refine ⟨final, ?_, ended⟩
    rw [List.map_cons, run, taken]
    exact reached

end Steps

section Runs
variable {server : AsioServer} {socket : Nat}

/-- The server when `Stop` begins its loop. -/
def begun (server : AsioServer) : StoppingServer where
  server := { server with acceptorOpen := false }
  stage := .closing
  since := server.nextSocket

theorem step_closeAcceptor (running : server.running = true) :
    StoppingServer.step { server } .closeAcceptor = some (begun server) := by
  unfold StoppingServer.step
  rw [running, Bool.not_true, if_neg Bool.false_ne_true]
  rfl

/-- The schedule in which `Stop` is faster than the io thread. -/
theorem exists_survival (running : server.running = true) :
    ∃ events final, (∀ event ∈ events, Stops event) ∧ run step { server } events = some final ∧
      final.stage = .stopped ∧ final.server.running = true := by
  have listed : ∀ socket, (server.serverSockets.find? socket).isSome = true ↔
      socket ∈ server.serverSockets.keys := fun socket =>
    Option.isSome_iff_exists.trans Table.mem_keys_iff.symm
  have closing : Closing server.serverSockets.keys (begun server) :=
    ⟨running, rfl, fun socket member => (listed socket).mpr member, fun _ _ => List.not_mem_nil,
      fun socket there => .inl ((listed socket).mp there)⟩
  obtain ⟨closed, reached, ended⟩ := close_all server.serverSockets.nodup_keys closing
  have all : ∀ socket ∈ closed.server.serverSockets.keys, socket ∈ closed.closed := by
    intro socket member
    have there : closed.listed socket = true :=
      Option.isSome_iff_exists.mpr (Table.mem_keys_iff.mp member)
    exact (ended.others socket there).resolve_left List.not_mem_nil
  refine ⟨.closeAcceptor :: (server.serverSockets.keys.map .closeSocket ++ [.stop]),
    { closed with stage := .stopped }, ?_, ?_, rfl, ended.running⟩
  · intro event member
    rcases List.mem_cons.mp member with rfl | member
    · exact trivial
    · rcases List.mem_append.mp member with closes | stops
      · obtain ⟨socket, -, rfl⟩ := List.mem_map.mp closes
        exact trivial
      · rw [List.mem_singleton.mp stops]
        exact trivial
  · rw [run, step_closeAcceptor running, Option.bind_some, run_append, reached, Option.bind_some,
      run, step_stop ended.running ended.stage all]
    rfl

/-- The schedule in which the handler of an aborted read runs before the `io_context` stops. -/
theorem exists_crash (serving : server.Serving)
    (connected : (server.serverSockets.find? socket).isSome = true) :
    ∃ events final, (∀ event ∈ events, Stops event) ∧ run step { server } events = some final ∧
      final.server.running = false := by
  have reading : (begun server).server.isReading socket = true := by
    obtain ⟨info, there⟩ := Option.isSome_iff_exists.mp connected
    change (server.serverSockets.find? socket).any (·.reading) = true
    rw [there]
    exact serving.reading socket info there
  have running : (begun server).server.running = true := serving.running
  have closes := step_closeSocket running rfl connected List.not_mem_nil
  obtain ⟨after, went, thrown⟩ := aborted_read_throws running reading
  let closed : StoppingServer := { begun server with
    server := (begun server).server.leave socket
    closed := [socket] }
  have ongoing : closed.stage ≠ .stopped := StopStage.noConfusion
  have aborted : closed.step (.io (.readFailed socket)) = some { closed with server := after } := by
    rw [@step_io closed _ running ongoing, went]
    rfl
  refine ⟨[.closeAcceptor, .closeSocket socket, .io (.readFailed socket)],
    { closed with server := after }, ?_, ?_, thrown⟩
  · intro event member
    simp only [List.mem_cons, List.not_mem_nil, or_false] at member
    rcases member with rfl | rfl | rfl <;> exact trivial
  · rw [run, step_closeAcceptor serving.running, Option.bind_some, run, closes, Option.bind_some,
      run, show (begun server).closed = [] from rfl, aborted]
    rfl

/-- The servers that `Stop` never brings down with an exception are those without connections;
every other one is at the mercy of the schedule. -/
theorem survives_stop_iff {callback : Bytes → Except Bytes Bytes} {events : List ServerEvent}
    (reached : run AsioServer.step (.startServer callback) events = some server)
    (running : server.running = true) :
    ((∀ events final, (∀ event ∈ events, Stops event) →
        run step { server } events = some final → final.server.running = true) ↔
      ∀ socket, server.serverSockets.find? socket = none) ∧
    ∃ events final, (∀ event ∈ events, Stops event) ∧ run step { server } events = some final ∧
      final.stage = .stopped ∧ final.server.running = true := by
  refine ⟨⟨?_, ?_⟩, exists_survival running⟩
  · intro survives socket
    by_contra present
    have connected := Option.isSome_iff_ne_none.mpr present
    obtain ⟨events, final, stops, crashed, thrown⟩ :=
      exists_crash (serving_of_running reached running) connected
    have still := survives events final stops crashed
    rw [thrown] at still
    cases still
  · intro empty events final stops stopped
    have alone : Alone { server : StoppingServer } := ⟨running, empty⟩
    exact (run_preserves (fun _ _ _ kept allowed taken => kept.step allowed taken) alone
      (along_of_forall stops _) stopped).running

/-- One idle connection is enough. -/
theorem idle_connection_throws :
    ∃ server, run AsioServer.step (.startServer .ok) [.accepted true] = some server ∧
      ¬∀ events final, (∀ event ∈ events, Stops event) →
        run step { server } events = some final → final.server.running = true := by
  have reached : run AsioServer.step (.startServer .ok) [.accepted true] = some _ := rfl
  refine ⟨_, reached, ?_⟩
  intro survives
  have empty := (survives_stop_iff reached rfl).1.mp survives 0
  cases empty

end Runs

end StoppingServer

end Xrpc
