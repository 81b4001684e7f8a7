import Xrpc.Support.Effect

/-! The client half of `AsioTransport`: one socket, connected on demand, and the
wait loop of a synchronous call. -/

namespace Xrpc

open Support

structure Endpoint where
  address : Bytes
  port : UInt16
  deriving DecidableEq

/-- A client socket: whether `is_open()` holds, and the endpoint that a
successful `connect` left it with. -/
structure ClientSocket where
  isOpen : Bool := false
  remote : Option Endpoint := none
  deriving DecidableEq

/-- The members of `AsioTransport` that a client uses. `written` records the
frames handed to the socket, each with the endpoint it was connected to. -/
structure AsioClient where
  clientSocket : Option ClientSocket := none
  response : Bytes := []
  responseReceived : Bool := false
  written : List (Option Endpoint × Bytes) := []
  deriving DecidableEq

/-- The answers of Boost.Asio: addresses are parsed into their bytes, or the
parser throws; a connection attempt succeeds or not. -/
structure Network where
  fromString : Bytes → Except Bytes Bytes
  connects : Endpoint → Bool

/-- What a read brings: something, and no more than the 8192 bytes of its buffer. -/
abbrev Segment := { bytes : Bytes // 1 ≤ bytes.length ∧ bytes.length ≤ 8192 }

/-- How an `async_read_some` ends. -/
inductive ReadCompletion where
  | received (segment : Segment)
  | failed (message : Bytes)
  deriving DecidableEq

/-- What `Send` owes its caller for this completion. -/
def ReadCompletion.outcome : ReadCompletion → Option Bytes
  | .received segment => some segment.1
  | .failed _ => none

/-- What happens between two tests of the wait loop's condition: the handler of
the posted read runs, on this thread or the other, or it does not. -/
inductive Turn where
  | idle
  | completed (read : ReadCompletion)
  deriving DecidableEq

namespace AsioClient

/-- `client_socket_ && client_socket_->is_open()` -/
def isOpen (transport : AsioClient) : Bool := transport.clientSocket.any (·.isOpen)

/-- The endpoint at the other end of the socket. -/
def remote (transport : AsioClient) : Option Endpoint := transport.clientSocket.bind (·.remote)

def record (transport : AsioClient) (data : Bytes) : AsioClient :=
  { transport with written := transport.written ++ [(transport.remote, data)] }

def connectTo (transport : AsioClient) (endpoint : Endpoint) : AsioClient :=
  { transport with clientSocket := some ⟨true, some endpoint⟩ }

def connect (network : Network) (ip : Bytes) (port : Int) : Effect AsioClient Unit := do
  if (← get).isOpen then return
  modify fun transport => { transport with clientSocket := some {} }
  let address ← ofThrowing (network.fromString ip)
  -- the port is an `unsigned short`
  let endpoint : Endpoint := ⟨address, UInt16.ofInt port⟩
  if network.connects endpoint then
    modify (·.connectTo endpoint)
  else
    -- `connect` opens the socket and leaves it open
    modify fun transport => { transport with clientSocket := some ⟨true, none⟩ }
    raise (runtimeError (text "Connection failed"))

def handleClientRead (transport : AsioClient) : ReadCompletion → AsioClient
  | .received segment => { transport with response := segment.1, responseReceived := true }
  | .failed _ => transport

def turn (transport : AsioClient) : Turn → AsioClient
  | .idle => transport
  | .completed read => transport.handleClientRead read

/-- `while (!response_received_ && !ec) io_context_->poll_one();` with the
`error_code` of the write, which the loop never changes. -/
def waitLoop (ec : Bool) : List Turn → Effect AsioClient Unit
  | [] => do
    if (← get).responseReceived || ec then return
    raise .hang
  | turn :: rest => do
    if (← get).responseReceived || ec then return
    modify (·.turn turn)
    waitLoop ec rest

/-- `Send`: the response it sets if it returns `true`. `ec` tells whether the
write reports an error. -/
def send (ec : Bool) (turns : List Turn) (data : Bytes) : Effect AsioClient (Option Bytes) := do
  if !(← get).isOpen then return none
  modify fun transport => { transport.record data with responseReceived := false }
  if ec then return none
  waitLoop ec turns
  let transport ← get
  if !transport.responseReceived then return none
  return some transport.response

theorem connect_open {network : Network} {ip : Bytes} {port : Int} {transport : AsioClient}
    (opened : transport.isOpen = true) :
    (connect network ip port).run transport = .ok () transport := by
  simp [connect, opened, EStateM.run_bind]

theorem connect_closed {network : Network} {ip address : Bytes} {port : Int}
    {transport : AsioClient} (closed : transport.isOpen = false)
    (parsed : network.fromString ip = .ok address)
    (reached : network.connects ⟨address, UInt16.ofInt port⟩ = true) :
    (connect network ip port).run transport =
      .ok () (transport.connectTo ⟨address, UInt16.ofInt port⟩) := by
  simp [connect, closed, parsed, reached, EStateM.run_bind, connectTo]

theorem connect_refused {network : Network} {ip what : Bytes} {port : Int}
    {transport : AsioClient} (closed : transport.isOpen = false)
    (refused : network.fromString ip = .error what) :
    (connect network ip port).run transport =
      .error (.exception what) { transport with clientSocket := some {} } := by
  simp [connect, closed, refused, EStateM.run_bind]

/-- `Connect` does not return without an open socket. -/
theorem isOpen_connect {network : Network} {ip : Bytes} {port : Int}
    {transport after : AsioClient}
    (returned : (connect network ip port).run transport = .ok () after) : after.isOpen = true := by
  cases opened : transport.isOpen with
  | true =>
    rw [connect_open opened] at returned
    cases returned
    exact opened
  | false =>
    cases parsed : network.fromString ip with
    | error what =>
      rw [connect_refused opened parsed] at returned
      cases returned
    | ok address =>
      cases reached : network.connects ⟨address, UInt16.ofInt port⟩ with
      | true =>
        rw [connect_closed opened parsed reached] at returned
        cases returned
        rfl
      | false => simp [connect, opened, parsed, reached, EStateM.run_bind] at returned

/-- A `Connect` that tries to connect returns only if that succeeds. -/
theorem remote_connect {network : Network} {ip : Bytes} {port : Int}
    {transport after : AsioClient} (closed : transport.isOpen = false)
    (returned : (connect network ip port).run transport = .ok () after) :
    after.remote.isSome = true := by
  cases parsed : network.fromString ip with
  | error what =>
    rw [connect_refused closed parsed] at returned
    cases returned
  | ok address =>
    cases reached : network.connects ⟨address, UInt16.ofInt port⟩ with
    | true =>
      rw [connect_closed closed parsed reached] at returned
      cases returned
      rfl
    | false => simp [connect, closed, parsed, reached, EStateM.run_bind] at returned

theorem connect_throws {network : Network} {ip : Bytes} {port : Int} {transport after : AsioClient}
    {exit : Exit} (refused : (connect network ip port).run transport = .error exit after) :
    ∃ what, exit = .exception what := by
  cases opened : transport.isOpen with
  | true => simp [connect_open opened] at refused
  | false =>
    cases parsed : network.fromString ip with
    | error what =>
      rw [connect_refused opened parsed] at refused
      cases refused
      exact ⟨what, rfl⟩
    | ok address =>
      cases reached : network.connects ⟨address, UInt16.ofInt port⟩ with
      | true => simp [connect_closed opened parsed reached] at refused
      | false =>
        simp [connect, opened, parsed, reached, EStateM.run_bind, runtimeError] at refused
        exact ⟨_, refused.1.symm⟩

section Waiting
variable {transport : AsioClient} {ec : Bool}

theorem waitLoop_received (received : transport.responseReceived = true) (turns : List Turn) :
    (waitLoop ec turns).run transport = .ok () transport := by
  cases turns with
  | nil => simp [waitLoop, received, EStateM.run_bind]
  | cons turn rest => simp [waitLoop, received, EStateM.run_bind]

theorem waitLoop_cons (waiting : transport.responseReceived = false) (turn : Turn)
    (rest : List Turn) :
    (waitLoop false (turn :: rest)).run transport = (waitLoop false rest).run (transport.turn turn) := by
  simp [waitLoop, waiting, EStateM.run_bind]

/-- As long as the flag is down, turns that leave it down only make the loop go on. -/
theorem waitLoop_idle (waiting : transport.responseReceived = false) (n : Nat) (rest : List Turn) :
    (waitLoop false (List.replicate n .idle ++ rest)).run transport =
      (waitLoop false rest).run transport := by
  induction n with
  | zero => rfl
  | succ n ih =>
    rw [List.replicate_succ, List.cons_append, waitLoop_cons waiting]
    exact ih

theorem waitLoop_hang (waiting : transport.responseReceived = false) (n : Nat) :
    (waitLoop false (List.replicate n .idle)).run transport = .error .hang transport := by
  have idle := waitLoop_idle waiting n []
  rw [List.append_nil] at idle
  simp [idle, waitLoop, waiting, EStateM.run_bind]

/-- The transport once the request is handed to the socket. -/
def sending (transport : AsioClient) (data : Bytes) : AsioClient :=
  { transport.record data with responseReceived := false }

theorem send_open (opened : transport.isOpen = true) (turns : List Turn) (data : Bytes) :
    (send false turns data).run transport =
      match (waitLoop false turns).run (transport.sending data) with
      | .ok _ after => .ok (if after.responseReceived then some after.response else none) after
      | .error exit after => .error exit after := by
  cases waited : (waitLoop false turns).run (transport.sending data) with
  | ok value after =>
    simp only [sending, record] at waited
    by_cases received : after.responseReceived = true
    · simp [send, opened, EStateM.run_bind, record, waited, received]
    · simp [send, opened, EStateM.run_bind, record, waited, received]
  | error exit after =>
    simp only [sending, record] at waited
    simp [send, opened, EStateM.run_bind, record, waited]

/-- Once the posted read has completed, what it brought is the response. -/
theorem send_received (opened : transport.isOpen = true) (data : Bytes) (segment : Segment)
    (before : Nat) (rest : List Turn) :
    (send false (List.replicate before .idle ++ .completed (.received segment) :: rest) data).run
        transport =
      .ok (some segment.1) ((transport.sending data).turn (.completed (.received segment))) := by
  have waited : (waitLoop false (List.replicate before .idle ++
      .completed (.received segment) :: rest)).run (transport.sending data) =
        .ok () ((transport.sending data).turn (.completed (.received segment))) := by
    rw [waitLoop_idle rfl, waitLoop_cons rfl]
    exact waitLoop_received rfl rest
  rw [send_open opened, waited]
  rfl

/-- A failed read leaves the flag down, and the loop spins on. -/
theorem send_failed (opened : transport.isOpen = true) (data message : Bytes) (before after : Nat) :
    (send false (List.replicate before .idle ++ .completed (.failed message) ::
        List.replicate after .idle) data).run transport =
      .error .hang (transport.sending data) := by
  have waited : (waitLoop false (List.replicate before .idle ++ .completed (.failed message) ::
      List.replicate after .idle)).run (transport.sending data) =
        .error .hang (transport.sending data) := by
    rw [waitLoop_idle rfl, waitLoop_cons rfl]
    exact waitLoop_hang rfl after
  rw [send_open opened, waited]

theorem send_ends_iff (opened : transport.isOpen = true) (data : Bytes) (before : Nat)
    (read : ReadCompletion) :
    (∃ after final, (send false (List.replicate before .idle ++ .completed read ::
        List.replicate after .idle) data).run transport = .ok read.outcome final) ↔
      ∃ segment, read = .received segment := by
  constructor
  · rintro ⟨after, final, returned⟩
    cases read with
    | received segment => exact ⟨segment, rfl⟩
    | failed message => simp [send_failed opened] at returned
  · rintro ⟨segment, rfl⟩
    exact ⟨0, _, send_received opened data segment before _⟩

end Waiting

def connected : AsioClient where
  clientSocket := some ⟨true, some ⟨[127, 0, 0, 1], 8080⟩⟩

theorem send_ends_on_reply :
    ∃ after final, (send false (List.replicate 3 .idle ++ .completed (.received
      ⟨[4, 8, 0], by decide⟩) :: List.replicate after .idle) [1, 2]).run connected =
        .ok (some [4, 8, 0]) final := by
  have opened : connected.isOpen = true := rfl
  exact (send_ends_iff opened [1, 2] 3 (.received ⟨[4, 8, 0], by decide⟩)).mpr ⟨_, rfl⟩

/-- However long the loop goes on after an end of file, `Send` does not return. -/
theorem send_never_ends_on_end_of_file :
    ¬∃ after final, (send false (List.replicate 3 .idle ++ .completed (.failed (text "End of file"))
      :: List.replicate after .idle) [1, 2]).run connected = .ok none final := by
  rintro ⟨after, final, returned⟩
  have opened : connected.isOpen = true := rfl
  have stuck := send_failed opened [1, 2] (text "End of file") 3 after
  rw [stuck] at returned
  cases returned

end AsioClient

end Xrpc
