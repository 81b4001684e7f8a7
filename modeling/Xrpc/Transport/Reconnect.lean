import Xrpc.Transport.Client
import Xrpc.Support.Run

/-! `Connect` called again and again on one transport, whatever becomes of each
attempt. -/

namespace Xrpc

open Support

/-- One call of `Connect`, with the network as it is by then. -/
structure ConnectCall where
  network : Network
  ip : Bytes
  port : Int

/-- A transport, and the socket in it after each `Connect` that returned. -/
structure ConnectHistory where
  transport : AsioClient
  left : List (Option ClientSocket) := []

namespace ConnectHistory

def step (history : ConnectHistory) (call : ConnectCall) : Option ConnectHistory :=
  match (AsioClient.connect call.network call.ip call.port).run history.transport with
  | .ok _ after => some { transport := after, left := history.left ++ [after.clientSocket] }
  | .error _ after => some { history with transport := after }

/-- The `connect` of every socket that a `Connect` returned with has succeeded. -/
def Connected (history : ConnectHistory) : Prop :=
  ∀ socket ∈ history.left, (socket.bind (·.remote)).isSome

instance (history : ConnectHistory) : Decidable history.Connected :=
  inferInstanceAs (Decidable (∀ socket ∈ history.left, (socket.bind (·.remote)).isSome))

/-- The socket is not one that a failed `connect` left open. -/
def Fresh (history : ConnectHistory) (_ : ConnectCall) : Prop :=
  history.transport.isOpen = true → history.transport.remote.isSome

instance (history : ConnectHistory) (call : ConnectCall) : Decidable (history.Fresh call) :=
  inferInstanceAs (Decidable (_ → _))

section Step
variable {history next : ConnectHistory} {call : ConnectCall}

/-- A `Connect` adds the socket it leaves, or nothing. -/
theorem step_cases (taken : history.step call = some next) :
    (next.left = history.left ++ [next.transport.clientSocket] ∧
        (AsioClient.connect call.network call.ip call.port).run history.transport =
          .ok () next.transport) ∨
      next.left = history.left ∧ history.transport.isOpen = false := by
  unfold step at taken
  split at taken
  · rename_i after returned
    cases taken
    exact .inl ⟨rfl, returned⟩
  · rename_i exit after thrown
    cases taken
    right
    refine ⟨rfl, ?_⟩
    cases opened : history.transport.isOpen with
    | false => rfl
    | true =>
      rw [AsioClient.connect_open opened] at thrown
      cases thrown

theorem Connected.concat {socket : Option ClientSocket} (connected : history.Connected)
    (new : (socket.bind (·.remote)).isSome) (added : next.left = history.left ++ [socket]) :
    next.Connected := by
  intro other member
  rw [added] at member
  rcases List.mem_append.mp member with old | last
  · exact connected other old
  · exact List.mem_singleton.mp last ▸ new

/-- A `Connect` that makes an attempt returns with a connection only. -/
theorem Connected.step (connected : history.Connected) (fresh : history.Fresh call)
    (taken : history.step call = some next) : next.Connected := by
  rcases step_cases taken with ⟨added, returned⟩ | ⟨same, -⟩
  · refine connected.concat ?_ added
    cases opened : history.transport.isOpen with
    | true =>
      rw [AsioClient.connect_open opened] at returned
      have kept : history.transport = next.transport := by injection returned
      rw [← kept]
      exact fresh opened
    | false => exact AsioClient.remote_connect opened returned
  · intro socket member
    exact connected socket (same ▸ member)

/-- On a socket that is open and not connected, `Connect` returns and changes nothing. -/
theorem falls (stale : ¬ history.Fresh call) (taken : history.step call = some next) :
    ¬ next.Connected := by
  obtain ⟨opened, unconnected⟩ : history.transport.isOpen = true ∧
      ¬ history.transport.remote.isSome := by
    simpa [Fresh] using stale
  rcases step_cases taken with ⟨added, returned⟩ | ⟨-, closed⟩
  · rw [AsioClient.connect_open opened] at returned
    have kept : history.transport = next.transport := by injection returned
    intro connected
    rw [kept] at unconnected
    exact unconnected (connected _ (added ▸ List.mem_append_right _ List.mem_cons_self))
  · exact absurd (opened.symm.trans closed) (by simp)

theorem not_connected_step (lost : ¬ history.Connected) (taken : history.step call = some next) :
    ¬ next.Connected := by
  intro connected
  refine lost fun socket member => ?_
  rcases step_cases taken with ⟨added, -⟩ | ⟨same, -⟩
  · exact connected socket (added ▸ List.mem_append_left _ member)
  · exact connected socket (same ▸ member)

end Step

/-- Every `Connect` that returned left a connection behind if and only if none was called
on a socket that a failed `connect` had left open. -/
theorem connected_iff {transport : AsioClient} {calls : List ConnectCall}
    {history : ConnectHistory} (reached : run step ⟨transport, []⟩ calls = some history) :
    history.Connected ↔ Along step Fresh ⟨transport, []⟩ calls := by
  have initial : Connected ⟨transport, []⟩ := by
    intro socket member
    cases member
  exact along_iff (fun _ _ _ connected fresh taken => connected.step fresh taken)
    (fun _ _ _ _ stale taken => falls stale taken)
    (fun _ _ _ lost taken => not_connected_step lost taken)
    (fun _ connected => connected) (fun _ lost => lost) initial reached

/-- A call of `Connect` in a network that accepts every connection, or none. -/
def dialing (connects : Bool) : ConnectCall :=
  ⟨⟨fun ip => .ok ip, fun _ => connects⟩, text "127.0.0.1", 8080⟩

/-- An address that cannot be parsed leaves the socket closed. -/
def misdialing : ConnectCall :=
  ⟨⟨fun _ => .error (text "Invalid argument"), fun _ => true⟩, text "localhost", 8080⟩

theorem misdialed_connected :
    ∃ history, run step ⟨{}, []⟩ [misdialing, dialing true, dialing true] = some history ∧
      history.left.length = 2 ∧ history.Connected := by
  have along : Along step Fresh ⟨{}, []⟩ [misdialing, dialing true, dialing true] := by decide
  exact ⟨_, rfl, by decide, (connected_iff rfl).mpr along⟩

/-- `Connect` fails, and the next one returns without a connection. -/
theorem refused_then_returns :
    ¬ ∀ (transport : AsioClient) (calls : List ConnectCall) (history : ConnectHistory),
      run step ⟨transport, []⟩ calls = some history → history.Connected := by
  intro connected
  exact absurd (connected {} [dialing false, dialing true] _ rfl) (by decide)

end ConnectHistory

end Xrpc
