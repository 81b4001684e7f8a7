import Mathlib.Data.List.Infix
import Mathlib.Logic.Function.Basic
import Xrpc.Core.Matching
import Xrpc.Transport.Conservation
import Xrpc.Transport.Conversations

/-! One server and the channels of its clients, each on a connection of its own: what a
client sees of the server that it shares is what it would see of a server of its own. As in
`Transport.Exchange`, a read takes one message. -/

namespace Xrpc

open Support

namespace Exchange
variable {reply other : Nat → Bytes} {exchange next : Exchange} {event : ExchangeEvent}

/-- Only the next response matters to a step. -/
theorem step_congr (same : ∀ call, exchange.wire[exchange.consumed]? = some call →
      exchange.consumed < exchange.served → reply call = other call)
    (taken : step reply exchange event = some next) : step other exchange event = some next := by
  cases event with
  | readCompletes =>
    simp only [step] at taken ⊢
    split at taken
    next call rest answered posted answer =>
      by_cases ready : exchange.alive = true ∧ exchange.consumed < exchange.served
      · rw [same answered answer ready.2] at taken
        exact taken
      · rw [if_neg ready] at taken
        cases taken
    · cases taken
  | _ => exact taken

/-- Only the server answers, and what is written stays written. -/
theorem served_step (taken : step reply exchange event = some next) (own : event ≠ .serve) :
    next.served = exchange.served ∧ exchange.wire <+: next.wire := by
  cases transition_of_step taken with
  | serve request => exact absurd rfl own
  | asyncWrite started => exact ⟨rfl, List.prefix_append _ _⟩
  | send free => exact ⟨rfl, List.prefix_append _ _⟩
  | _ => exact ⟨rfl, List.prefix_rfl⟩

/-- A connection after a run of its own in which reads were posted in turn. -/
def Alone (reply : Nat → Bytes) (exchange : Exchange) : Prop :=
  ∃ events, Along (step reply) InTurn {} events ∧ run (step reply) {} events = some exchange

theorem Alone.step (alone : Alone reply exchange) (inTurn : exchange.InTurn event)
    (taken : Exchange.step reply exchange event = some next) : Alone reply next := by
  obtain ⟨events, along, reached⟩ := alone
  refine ⟨events ++ [event], along_append.mpr ⟨along, ?_⟩, ?_⟩
  · intro before ran
    cases reached.symm.trans ran
    exact ⟨inTurn, fun _ _ => trivial⟩
  · rw [run_append, reached, Option.bind_some, run, taken]
    rfl

theorem Alone.paired (alone : Alone reply exchange) : exchange.Paired reply := by
  obtain ⟨events, inTurn, reached⟩ := alone
  exact paired_run inTurn reached

end Exchange

/-- A server with its clients, by the sockets at which it has them. -/
structure Deployment where
  streams : ServerStreams
  clients : Nat → Exchange := fun _ => {}

inductive DeploymentEvent where
  | client (socket : Nat) (event : ExchangeEvent)
  /-- The server reads the next request of a connection. -/
  | receive (socket : Nat) (departure : Departure)
  /-- Anything else that happens to the server. -/
  | server (event : ServerEvent)
  deriving DecidableEq

namespace Deployment

def handed (deployment : Deployment) (socket : Nat) : List Bytes :=
  deployment.streams.server.requests socket

def written (deployment : Deployment) (socket : Nat) : List Bytes :=
  AsioServer.onSocket socket deployment.streams.written

/-- A client and how many responses the server has written for it. -/
def connection (deployment : Deployment) (socket : Nat) : Exchange :=
  { deployment.clients socket with served := (deployment.written socket).length }

/-- The bytes that the next read of the client takes. -/
def incoming (deployment : Deployment) (socket : Nat) : Bytes :=
  ((deployment.written socket)[(deployment.clients socket).consumed]?).getD []

/-- `request socket call` are the bytes that a client sends for its call. -/
def step (request : Nat → Nat → Bytes) (deployment : Deployment) :
    DeploymentEvent → Option Deployment
  | .client socket event =>
    if event = .serve then none
    else
      (Exchange.step (fun _ => deployment.incoming socket) (deployment.connection socket) event).map
        fun exchange =>
          { deployment with clients := Function.update deployment.clients socket exchange }
  | .receive socket departure =>
    match (deployment.clients socket).wire[(deployment.handed socket).length]? with
    | some call =>
      (deployment.streams.step (.received socket (request socket call) departure)).map
        fun streams => { deployment with streams }
    | none => none
  | .server event =>
    if (AsioServer.request? event).isSome then none
    else (deployment.streams.step event).map fun streams => { deployment with streams }

/-- Every client posts its reads in turn. -/
def InTurn (deployment : Deployment) : DeploymentEvent → Prop
  | .client socket event => (deployment.connection socket).InTurn event
  | _ => True

def opened (callback : Bytes → Except Bytes Bytes) : Deployment where
  streams := .startServer callback

/-- What the server's callback makes of the requests of a client. -/
def answers (callback : Bytes → Except Bytes Bytes) (request : Nat → Nat → Bytes) (socket call : Nat) :
    Bytes :=
  (ServerStreams.reply callback (request socket call)).getD []

/-- A connection is as if it were alone, and the responses on it are those to the first
requests. -/
structure Served (callback : Bytes → Except Bytes Bytes) (request : Nat → Nat → Bytes)
    (deployment : Deployment) (socket : Nat) : Prop where
  alone : (deployment.connection socket).Alone (answers callback request socket)
  handed : deployment.handed socket <+: (deployment.clients socket).wire.map (request socket)
  written : (deployment.written socket).map some <+:
    (deployment.handed socket).map (ServerStreams.reply callback)
  caught : deployment.streams.server.running = true →
    (deployment.written socket).length = (deployment.handed socket).length

/-- So is every connection, and the server keeps its callback. -/
structure Apart (callback : Bytes → Except Bytes Bytes) (request : Nat → Nat → Bytes)
    (deployment : Deployment) : Prop where
  given : deployment.streams.server.running = true →
    deployment.streams.server.serverCallback = some callback
  served : ∀ socket, Served callback request deployment socket

section Steps
variable {callback : Bytes → Except Bytes Bytes} {request : Nat → Nat → Bytes}
  {deployment next : Deployment}

theorem apart_opened (callback : Bytes → Except Bytes Bytes) (request : Nat → Nat → Bytes) :
    (opened callback).Apart callback request where
  given _ := rfl
  served _ := ⟨⟨[], trivial, rfl⟩, List.nil_prefix, List.nil_prefix, fun _ => rfl⟩

/-- What happens elsewhere. -/
theorem Served.of_same {socket : Nat} (served : Served callback request deployment socket)
    (clients : next.clients socket = deployment.clients socket)
    (handed : next.handed socket = deployment.handed socket)
    (written : next.written socket = deployment.written socket)
    (running : next.streams.server.running = true → deployment.streams.server.running = true) :
    Served callback request next socket := by
  have connection : next.connection socket = deployment.connection socket := by
    rw [Deployment.connection, Deployment.connection, clients, written]
  refine ⟨?_, ?_, ?_, ?_⟩
  · rw [connection]
    exact served.alone
  · rw [handed, clients]
    exact served.handed
  · rw [handed, written]
    exact served.written
  · intro serving
    rw [handed, written]
    exact served.caught (running serving)

theorem onSocket_append (socket : Nat) (before after : List (Nat × Bytes)) :
    AsioServer.onSocket socket (before ++ after) =
      AsioServer.onSocket socket before ++ AsioServer.onSocket socket after := by
  simp [AsioServer.onSocket]

theorem onSocket_own (socket : Nat) (data : Bytes) :
    AsioServer.onSocket socket [(socket, data)] = [data] := by
  simp [AsioServer.onSocket]

theorem onSocket_other {socket other : Nat} (different : other ≠ socket) (data : Bytes) :
    AsioServer.onSocket other [(socket, data)] = [] := by
  simp [AsioServer.onSocket, different.symm]

/-- A response that was written is that to the request at its place. -/
theorem Served.reply {socket : Nat} (served : Served callback request deployment socket)
    {index call : Nat} (sent : (deployment.clients socket).wire[index]? = some call)
    (answered : index < (deployment.written socket).length) :
    (deployment.written socket)[index]? =
      ServerStreams.reply callback (request socket call) := by
  have owed := List.prefix_iff_getElem?.mp served.written index (by simpa using answered)
  rw [List.getElem?_map, List.getElem_map, Option.map_eq_some_iff] at owed
  obtain ⟨data, taken, same⟩ := owed
  obtain ⟨within, there⟩ := List.getElem?_eq_some_iff.mp taken
  have asked := List.prefix_iff_getElem?.mp served.handed index within
  rw [List.getElem?_map, sent, there, Option.map_some, Option.some.injEq] at asked
  rw [asked, same]
  exact List.getElem?_eq_getElem answered

theorem connection_update {socket : Nat} {exchange : Exchange}
    (unserved : exchange.served = (deployment.connection socket).served) :
    connection { deployment with
      clients := Function.update deployment.clients socket exchange } socket = exchange := by
  simp only [connection, Function.update_self]
  exact congrArg (fun served => { exchange with served }) unserved.symm

theorem connection_update_of_ne {socket other : Nat} (different : other ≠ socket)
    (exchange : Exchange) : connection { deployment with
      clients := Function.update deployment.clients socket exchange } other =
    deployment.connection other := by
  simp only [connection, Function.update_of_ne different]
  rfl

/-- A client takes its steps as if the server were its own. -/
theorem Served.client {socket : Nat} (served : Served callback request deployment socket)
    {event : ExchangeEvent} {exchange : Exchange} (own : event ≠ .serve)
    (inTurn : (deployment.connection socket).InTurn event)
    (taken : Exchange.step (fun _ => deployment.incoming socket) (deployment.connection socket)
      event = some exchange) :
    Served callback request
      { deployment with clients := Function.update deployment.clients socket exchange } socket := by
  obtain ⟨unserved, kept⟩ := Exchange.served_step taken own
  have answered : Exchange.step (answers callback request socket) (deployment.connection socket)
      event = some exchange := by
    refine Exchange.step_congr ?_ taken
    intro call sent ready
    rw [incoming, answers, ← served.reply sent ready]
    rfl
  refine ⟨?_, ?_, served.written, served.caught⟩
  · rw [connection_update unserved]
    exact served.alone.step inTurn answered
  · simp only [Function.update_self]
    exact served.handed.trans (kept.map _)

theorem Apart.client (apart : deployment.Apart callback request) {socket : Nat}
    {event : ExchangeEvent} {exchange : Exchange} (own : event ≠ .serve)
    (inTurn : (deployment.connection socket).InTurn event)
    (taken : Exchange.step (fun _ => deployment.incoming socket) (deployment.connection socket)
      event = some exchange) :
    Apart callback request
      { deployment with clients := Function.update deployment.clients socket exchange } := by
  refine ⟨apart.given, ?_⟩
  intro other
  by_cases same : other = socket
  · subst other
    exact (apart.served socket).client own inTurn taken
  · exact (apart.served other).of_same (Function.update_of_ne same _ _) rfl rfl id

section Server
variable {event : ServerEvent} {streams : ServerStreams}

theorem handed_streams (taken : deployment.streams.step event = some streams) (socket : Nat) :
    handed { deployment with streams } socket = deployment.handed socket ++
      AsioServer.onSocket socket (AsioServer.request? event).toList := by
  change AsioServer.onSocket socket streams.server.handed = _
  rw [AsioServer.handed_step (ServerStreams.step_server taken).1, onSocket_append]
  rfl

theorem written_streams (taken : deployment.streams.step event = some streams) (socket : Nat) :
    written { deployment with streams } socket = deployment.written socket ++
      AsioServer.onSocket socket (ServerStreams.output deployment.streams.server event) := by
  change AsioServer.onSocket socket streams.written = _
  rw [(ServerStreams.step_server taken).2, onSocket_append]
  rfl

theorem connection_wrote (taken : deployment.streams.step event = some streams) {socket : Nat}
    {response : Bytes}
    (wrote : ServerStreams.output deployment.streams.server event = [(socket, response)]) :
    connection { deployment with streams } socket = { deployment.connection socket with
      served := (deployment.connection socket).served + 1 } := by
  have grown : (written { deployment with streams } socket).length =
      (deployment.connection socket).served + 1 := by
    rw [written_streams taken, wrote, onSocket_own, List.length_append]
    rfl
  rw [connection, grown]
  rfl

theorem connection_unwritten (taken : deployment.streams.step event = some streams) {other : Nat}
    (silent : AsioServer.onSocket other
      (ServerStreams.output deployment.streams.server event) = []) :
    connection { deployment with streams } other = deployment.connection other := by
  rw [connection, written_streams taken, silent, List.append_nil]
  rfl

theorem running_streams (taken : deployment.streams.step event = some streams)
    (running : streams.server.running = true) : deployment.streams.server.running = true := by
  by_contra stopped
  have still := AsioServer.running_step_stopped (Bool.eq_false_of_not_eq_true stopped)
    (ServerStreams.step_server taken).1
  rw [running] at still
  cases still

/-- The answer to a request is all that is written for it. -/
theorem output_received {server : AsioServer} (given : server.serverCallback = some callback)
    (socket : Nat) (data : Bytes) (departure : Departure) :
    ServerStreams.output server (.received socket data departure) = [] ∨
      ∃ response, ServerStreams.reply callback data = some response ∧
        ServerStreams.output server (.received socket data departure) = [(socket, response)] := by
  rcases ServerStreams.output_cases given (.received socket data departure) with owed | nothing
  · rw [owed]
    cases replied : ServerStreams.reply callback data with
    | none => simp [ServerStreams.replies, AsioServer.request?, replied]
    | some response => simp [ServerStreams.replies, AsioServer.request?, replied]
  · exact .inl nothing

/-- A server that goes on has written something. -/
theorem output_full (speaks : ∀ data, callback data ≠ .ok []) {server after : AsioServer}
    (given : server.serverCallback = some callback) {socket : Nat} {data : Bytes}
    {departure : Departure} (taken : server.step (.received socket data departure) = some after)
    (running : after.running = true) :
    ServerStreams.output server (.received socket data departure) ≠ [] := by
  obtain ⟨response, answered, -⟩ := ServerStreams.attended_of_running taken running
  have called : callback data = .ok response :=
    (ServerStreams.answer_of_callback given data).symm.trans answered
  have full : response ≠ [] := by
    rintro rfl
    exact speaks data called
  rw [ServerStreams.output_of_running given taken running]
  simp [ServerStreams.replies, AsioServer.request?, ServerStreams.reply, called, full]

theorem Apart.given_streams (apart : deployment.Apart callback request)
    (taken : deployment.streams.step event = some streams)
    (running : streams.server.running = true) : streams.server.serverCallback = some callback :=
  (ServerStreams.callback_step (ServerStreams.step_server taken).1 running).trans
    (apart.given (running_streams taken running))

/-- What the server does beside its reads does not concern the connections. -/
theorem Apart.server (apart : deployment.Apart callback request)
    (other : AsioServer.request? event = none)
    (taken : deployment.streams.step event = some streams) :
    Apart callback request { deployment with streams } := by
  have output : ServerStreams.output deployment.streams.server event = [] := by
    cases event with
    | received socket data departure => cases other
    | _ => rfl
  refine ⟨apart.given_streams taken, ?_⟩
  intro socket
  refine (apart.served socket).of_same rfl ?_ ?_ (running_streams taken)
  · rw [handed_streams taken, other]
    exact List.append_nil _
  · rw [written_streams taken, output]
    exact List.append_nil _

section Receive
variable {socket call : Nat} {departure : Departure}

theorem handed_receive
    (asked : (deployment.clients socket).wire[(deployment.handed socket).length]? = some call)
    (served : Served callback request deployment socket) :
    deployment.handed socket ++ [request socket call] <+:
      (deployment.clients socket).wire.map (request socket) := by
  obtain ⟨within, there⟩ := List.getElem?_eq_some_iff.mp asked
  have next := List.concat_get_prefix served.handed (by simpa using within)
  simpa [there] using next

/-- The server has answered the next request, or has stopped. -/
theorem Served.receive (served : Served callback request deployment socket)
    (speaks : ∀ data, callback data ≠ .ok [])
    (given : deployment.streams.server.serverCallback = some callback)
    (running : deployment.streams.server.running = true)
    (asked : (deployment.clients socket).wire[(deployment.handed socket).length]? = some call)
    (taken : deployment.streams.step (.received socket (request socket call) departure) =
      some streams) : Served callback request { deployment with streams } socket := by
  have caught := served.caught running
  have handed : Deployment.handed { deployment with streams } socket =
      deployment.handed socket ++ [request socket call] := by
    rw [handed_streams taken]
    exact congrArg _ (onSocket_own socket _)
  rcases output_received given socket (request socket call) departure with
    nothing | ⟨response, replied, wrote⟩
  · have silent : AsioServer.onSocket socket (ServerStreams.output deployment.streams.server
        (.received socket (request socket call) departure)) = [] := congrArg _ nothing
    have same : Deployment.written { deployment with streams } socket =
        deployment.written socket := by
      rw [written_streams taken, silent, List.append_nil]
    refine ⟨?_, ?_, ?_, ?_⟩
    · rw [connection_unwritten taken silent]
      exact served.alone
    · rw [handed]
      exact handed_receive asked served
    · rw [handed, same, List.map_append]
      exact served.written.trans (List.prefix_append _ _)
    · intro serving
      exact absurd nothing
        (output_full speaks given (ServerStreams.step_server taken).1 serving)
  · have written := written_streams taken socket
    rw [wrote, onSocket_own] at written
    refine ⟨?_, ?_, ?_, ?_⟩
    · have within : (deployment.connection socket).served <
          (deployment.connection socket).wire.length := by
        change (deployment.written socket).length < _
        rw [caught]
        exact (List.getElem?_eq_some_iff.mp asked).1
      rw [connection_wrote taken wrote]
      exact served.alone.step (show Exchange.InTurn _ .serve from trivial) (if_pos within)
    · rw [handed]
      exact handed_receive asked served
    · have all := served.written.eq_of_length (by simpa using caught)
      rw [handed, written, List.map_append, List.map_append, all, List.map_singleton,
        List.map_singleton, replied]
    · intro serving
      rw [handed, written, List.length_append, List.length_append, caught]
      rfl

theorem Apart.receive (apart : deployment.Apart callback request)
    (speaks : ∀ data, callback data ≠ .ok [])
    (asked : (deployment.clients socket).wire[(deployment.handed socket).length]? = some call)
    (taken : deployment.streams.step (.received socket (request socket call) departure) =
      some streams) : Apart callback request { deployment with streams } := by
  have went := (ServerStreams.step_server taken).1
  have running : deployment.streams.server.running = true := by
    by_contra stopped
    simp [AsioServer.step, stopped] at went
  refine ⟨apart.given_streams taken, ?_⟩
  intro other
  by_cases same : other = socket
  · subst other
    exact (apart.served socket).receive speaks (apart.given running) running asked taken
  · refine (apart.served other).of_same rfl ?_ ?_ (fun _ => running)
    · rw [handed_streams taken]
      exact (congrArg _ (onSocket_other same _)).trans (List.append_nil _)
    · rw [written_streams taken]
      rcases output_received (apart.given running) socket (request socket call) departure with
        nothing | ⟨response, -, wrote⟩
      · rw [nothing]
        exact List.append_nil _
      · rw [wrote, onSocket_other same]
        exact List.append_nil _

end Receive

end Server

theorem Apart.step (speaks : ∀ data, callback data ≠ .ok []) {event : DeploymentEvent}
    (apart : deployment.Apart callback request) (inTurn : deployment.InTurn event)
    (taken : step request deployment event = some next) : next.Apart callback request := by
  cases event with
  | client socket event =>
    simp only [Deployment.step, Option.ite_none_left_eq_some] at taken
    obtain ⟨own, taken⟩ := taken
    obtain ⟨exchange, went, rfl⟩ := Option.map_eq_some_iff.mp taken
    exact apart.client own inTurn went
  | receive socket departure =>
    simp only [Deployment.step] at taken
    split at taken
    next call asked =>
      obtain ⟨streams, went, rfl⟩ := Option.map_eq_some_iff.mp taken
      exact apart.receive speaks asked went
    · cases taken
  | server event =>
    simp only [Deployment.step, Option.ite_none_left_eq_some, Option.not_isSome_iff_eq_none]
      at taken
    obtain ⟨other, taken⟩ := taken
    obtain ⟨streams, went, rfl⟩ := Option.map_eq_some_iff.mp taken
    exact apart.server other went

end Steps

section Runs
variable {callback : Bytes → Except Bytes Bytes} {request : Nat → Nat → Bytes}
  {events : List DeploymentEvent} {final : Deployment}

theorem apart_run (speaks : ∀ data, callback data ≠ .ok [])
    (inTurn : Along (step request) InTurn (opened callback) events)
    (reached : run (step request) (opened callback) events = some final) :
    final.Apart callback request :=
  run_preserves (fun _ _ _ apart inTurn taken => apart.step speaks inTurn taken)
    (apart_opened callback request) inTurn reached

/-- The calls whose requests the server has read. -/
def readCalls (deployment : Deployment) (socket : Nat) : List Nat :=
  (deployment.clients socket).wire.take (deployment.handed socket).length

/-- A call that ended with a response has been read and answered. -/
theorem Served.answered {socket : Nat} (served : Served callback request final socket) {call : Nat}
    {data : Bytes} (ended : (call, some data) ∈ (final.clients socket).outcomes) :
    call ∈ final.readCalls socket ∧
      ServerStreams.reply callback (request socket call) = some data := by
  have paired := served.alone.paired
  have handed : (call, data) ∈ (final.connection socket).handed :=
    List.mem_append_left _ (List.mem_filterMap.mpr ⟨_, ended, rfl⟩)
  obtain ⟨other, taken, same⟩ := List.mem_map.mp (paired.handed.mem_iff.mp handed)
  obtain ⟨rfl, own⟩ := Prod.mk.inj same
  obtain ⟨index, within, there⟩ := List.mem_take_iff_getElem.mp taken
  have consumed : index < (final.written socket).length :=
    lt_of_lt_of_le (lt_of_lt_of_le within (Nat.min_le_left _ _)) paired.balanced.served.1
  have sent : (final.clients socket).wire[index]? = some other :=
    List.getElem?_eq_some_iff.mpr ⟨_, there⟩
  have replied := served.reply sent consumed
  rw [List.getElem?_eq_getElem consumed] at replied
  refine ⟨?_, ?_⟩
  · have caught : (final.written socket).length ≤ (final.handed socket).length := by
      simpa using served.written.length_le
    have read : index < (final.handed socket).length := lt_of_lt_of_le consumed caught
    exact List.mem_take_iff_getElem.mpr
      ⟨index, lt_min read (lt_of_lt_of_le within (Nat.min_le_right _ _)), there⟩
  · rw [answers, ← replied] at own
    rw [← replied]
    exact congrArg some own

end Runs

end Deployment

namespace XrpcServer
variable {Msg : Type}

/-- There is always something to write. -/
theorem onMessage_ne_nil (server : XrpcServer Msg) (data : Bytes) :
    (server.onMessage data).response ≠ .ok [] := by
  intro answered
  obtain ⟨header, ⟨wire, headerStr, sent, bytes, -⟩, -⟩ := echoes_onMessage answered
  have prefixed := (List.append_eq_nil_iff.mp bytes.symm).1
  exact Varint.write_ne_nil _ _ prefixed

theorem response_of_reply {server : XrpcServer Msg} {data response : Bytes}
    (replied : ServerStreams.reply (fun data => (server.onMessage data).response) data =
      some response) : (server.onMessage data).response = .ok response := by
  unfold ServerStreams.reply at replied
  split at replied
  next answer answered =>
    split at replied
    · cases replied
    · cases replied
      exact answered
  · cases replied

end XrpcServer

section Pings

instance (deployment : Deployment) : ∀ event, Decidable (deployment.InTurn event)
  | .client socket event => inferInstanceAs (Decidable ((deployment.connection socket).InTurn event))
  | .receive _ _ | .server _ => .isTrue trivial

/-- Each client sends a request of its own. -/
def pingsOf (socket _call : Nat) : Bytes := (twoPings socket).bytes

/-- The requests of the two clients are read in the other order than they were issued. -/
def crossingPings : List DeploymentEvent :=
  [.server (.accepted true), .server (.accepted true), .client 0 .sendAsync, .client 1 .send,
    .client 0 (.asyncWrite 0), .client 1 .doClientRead, .receive 1 .stays,
    .client 0 (.asyncWriteHandler 0), .receive 0 .stays, .client 1 .readCompletes,
    .client 0 .readCompletes, .client 1 .sendReturns]

end Pings

end Xrpc
