import Xrpc.Transport.Server

/-! When clients can bring the server's event loop down. -/

namespace Xrpc.AsioServer

open Support

/-- The io thread runs, and every socket has its next read posted. -/
structure Serving (server : AsioServer) : Prop where
  running : server.running = true
  reading : ∀ socket info, server.serverSockets.find? socket = some info → info.reading = true

/-- Every call of the event's handler that needs the peer finds it there, and
the callback returns. -/
def Attended (server : AsioServer) : ServerEvent → Prop
  | .accepted there => there = true
  | .acceptFailed => True
  | .peerLeft _ => True
  | .received socket request departure =>
    ∃ response, server.answer request = .ok response ∧
      (response = [] ∨ server.peerOf socket = true ∧ departure = .stays)
  | .readFailed socket => server.peerOf socket = true

section Steps
variable {server next : AsioServer} {event : ServerEvent} {socket : Nat}

theorem serving_start (callback : Bytes → Except Bytes Bytes) :
    (startServer callback).Serving := by
  constructor
  · rfl
  · intro socket info found
    simp [startServer] at found

/-- A handler that posts the next read of its socket leaves no socket without one. -/
theorem serving_setReading (running : server.running = true)
    (others : ∀ other info, other ≠ socket → server.serverSockets.find? other = some info →
      info.reading = true) :
    (server.setReading socket true).Serving := by
  constructor
  · exact running
  · intro other info found
    by_cases same : other = socket
    · subst other
      rw [setReading, Table.find?_insert] at found
      cases found
      rfl
    · rw [setReading, Table.find?_insert_ne _ same] at found
      exact others other info same found

theorem Serving.enroll (serving : server.Serving) : server.enroll.Serving := by
  constructor
  · exact serving.running
  · intro other info found
    by_cases same : other = server.nextSocket
    · subst other
      rw [AsioServer.enroll, Table.find?_insert] at found
      cases found
      rfl
    · rw [AsioServer.enroll, Table.find?_insert_ne _ same, Table.find?_insert_ne _ same] at found
      exact serving.reading other info found

theorem Serving.leave (serving : server.Serving) (present : (server.serverSockets.find? socket).isSome) :
    (server.leave socket).Serving := by
  constructor
  · exact serving.running
  · intro other info found
    by_cases same : other = socket
    · subst other
      obtain ⟨before, listed⟩ := Option.isSome_iff_exists.mp present
      rw [AsioServer.leave, Table.find?_insert] at found
      cases found
      simpa [isReading, listed] using serving.reading socket before listed
    · rw [AsioServer.leave, Table.find?_insert_ne _ same] at found
      exact serving.reading other info found

theorem Serving.step (serving : server.Serving) (attended : server.Attended event)
    (taken : step server event = some next) : next.Serving := by
  cases event with
  | accepted there =>
    simp only [AsioServer.step, Option.ite_none_right_eq_some, Option.some.injEq] at taken
    simp only [Attended] at attended
    rw [← taken.2, perform_handleAccept, if_pos attended]
    exact Serving.enroll ⟨serving.running, serving.reading⟩
  | acceptFailed =>
    simp only [AsioServer.step, Option.ite_none_right_eq_some, Option.some.injEq] at taken
    rw [← taken.2, perform_handleAcceptFailure]
    exact ⟨serving.running, serving.reading⟩
  | peerLeft socket =>
    simp only [AsioServer.step, Option.ite_none_right_eq_some, Option.some.injEq] at taken
    rw [← taken.2]
    exact serving.leave taken.1
  | received socket request departure =>
    simp only [AsioServer.step, Option.ite_none_right_eq_some, Option.some.injEq] at taken
    obtain ⟨response, answered, attended⟩ := attended
    have answered : (server.setReading socket false).answer request = .ok response := answered
    rw [← taken.2, perform_handleServerRead answered ((peerOf_setReading ..).symm ▸ attended)]
    apply serving_setReading
    · exact serving.running
    · intro other info different found
      rw [hand, setReading, Table.find?_insert_ne _ different] at found
      exact serving.reading other info found
  | readFailed socket =>
    simp only [AsioServer.step, Option.ite_none_right_eq_some, Option.some.injEq] at taken
    have there : (server.setReading socket false).peerOf socket = true :=
      (peerOf_setReading ..).trans attended
    rw [← taken.2, perform_handleServerReadFailure, if_pos there]
    constructor
    · exact serving.running
    · intro other info found
      by_cases same : other = socket
      · simp [same] at found
      · rw [Table.find?_erase_ne _ same, setReading, Table.find?_insert_ne _ same] at found
        exact serving.reading other info found

theorem running_step_unattended (alone : ¬server.Attended event)
    (taken : step server event = some next) : next.running = false := by
  cases event with
  | accepted there =>
    simp only [AsioServer.step, Option.ite_none_right_eq_some, Option.some.injEq] at taken
    simp only [Attended] at alone
    rw [← taken.2, perform_handleAccept, if_neg alone]
  | acceptFailed => exact absurd trivial alone
  | peerLeft socket => exact absurd trivial alone
  | received socket request departure =>
    simp only [AsioServer.step, Option.ite_none_right_eq_some, Option.some.injEq] at taken
    rw [← taken.2]
    apply (perform_handleServerRead_throws _).1
    rintro ⟨response, answered, attended⟩
    exact alone ⟨response, answered, by simpa using attended⟩
  | readFailed socket =>
    simp only [AsioServer.step, Option.ite_none_right_eq_some, Option.some.injEq] at taken
    have gone : ¬(server.setReading socket false).peerOf socket = true :=
      fun there => alone ((peerOf_setReading ..).symm.trans there)
    rw [← taken.2, perform_handleServerReadFailure, if_neg gone]

/-- No handler runs any more, so the loop does not come back. -/
theorem running_step_stopped (stopped : server.running = false)
    (taken : step server event = some next) : next.running = false := by
  cases event with
  | peerLeft socket =>
    simp only [AsioServer.step, Option.ite_none_right_eq_some, Option.some.injEq] at taken
    rw [← taken.2]
    exact stopped
  | _ => simp [AsioServer.step, stopped] at taken

end Steps

section Runs
variable {server final : AsioServer} {events : List ServerEvent}

/-- A client can stop the server for all others by going away at the wrong
moment, and in no other way. -/
theorem serving_iff_attended {callback : Bytes → Except Bytes Bytes}
    (reached : run step (startServer callback) events = some final) :
    final.Serving ↔ Along step Attended (startServer callback) events :=
  along_iff (fun _ _ _ serving attended taken => serving.step attended taken)
    (fun _ _ _ _ alone taken => running_step_unattended alone taken)
    (fun _ _ _ stopped taken => running_step_stopped stopped taken) (fun _ serving => serving)
    (fun _ stopped serving => by simp [serving.running] at stopped) (serving_start callback) reached

theorem echo_serving :
    ∃ final, run step (startServer .ok) [.accepted true, .accepted true, .received 0 [7] .stays,
      .received 1 [] .beforeWrite, .peerLeft 1] = some final ∧ final.Serving := by
  obtain ⟨final, reached⟩ : ∃ final, run step (startServer .ok) [.accepted true, .accepted true,
    .received 0 [7] .stays, .received 1 [] .beforeWrite, .peerLeft 1] = some final := ⟨_, rfl⟩
  refine ⟨final, reached, (serving_iff_attended reached).mpr ?_⟩
  refine ⟨rfl, ?_⟩
  rintro _ ⟨⟩
  refine ⟨rfl, ?_⟩
  rintro _ ⟨⟩
  refine ⟨⟨[7], rfl, .inr ⟨rfl, rfl⟩⟩, ?_⟩
  rintro _ ⟨⟩
  refine ⟨⟨[], rfl, .inl rfl⟩, ?_⟩
  rintro _ ⟨⟩
  exact ⟨trivial, fun _ _ => trivial⟩

/-- One client resets its idle connection, and the other is not served any more. -/
theorem reset_stops_server :
    ∃ final, run step (startServer .ok) [.accepted true, .accepted true, .peerLeft 0,
      .readFailed 0] = some final ∧ ¬final.Serving := by
  refine ⟨_, rfl, ?_⟩
  rintro ⟨running, _⟩
  cases running

end Runs

end Xrpc.AsioServer
