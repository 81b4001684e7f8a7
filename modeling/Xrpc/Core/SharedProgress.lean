import Xrpc.Core.Deployment

/-! No client of a shared server keeps another one from its answers. -/

namespace Xrpc

open Support

namespace Deployment

/-- The server is up, has the client and reads from it. -/
structure Ready (deployment : Deployment) (socket : Nat) : Prop where
  running : deployment.streams.server.running = true
  reading : deployment.streams.server.isReading socket = true
  peer : deployment.streams.server.peerOf socket = true

/-- A step of this client or a read from it, which is neither a new call nor a failure. -/
def Own (socket : Nat) : DeploymentEvent → Prop
  | .client other event => other = socket ∧ Exchange.Proceeds event
  | .receive other departure => other = socket ∧ departure = .stays
  | .server _ => False

/-- What such steps lead to. -/
structure Onward (callback : Bytes → Except Bytes Bytes) (request : Nat → Nat → Bytes) (socket : Nat)
    (start deployment : Deployment) : Prop where
  apart : deployment.Apart callback request
  ready : deployment.Ready socket
  others : ∀ other, other ≠ socket → deployment.connection other = start.connection other
  alive : (deployment.connection socket).alive = true
  issued : (deployment.connection socket).issued = (start.connection socket).issued
  outcomes : ∃ later, (deployment.connection socket).outcomes =
    (start.connection socket).outcomes ++ later ∧ ∀ outcome ∈ later, outcome.2.isSome = true

section Steps
variable {callback : Bytes → Except Bytes Bytes} {request : Nat → Nat → Bytes}
  {deployment : Deployment} {socket : Nat} {event : ExchangeEvent} {exchange : Exchange}

theorem lift_client (served : Served callback request deployment socket) (own : event ≠ .serve)
    (taken : Exchange.step (answers callback request socket) (deployment.connection socket) event =
      some exchange) :
    ∃ next, step request deployment (.client socket event) = some next ∧
      next.connection socket = exchange ∧ next.streams = deployment.streams ∧
      ∀ other, other ≠ socket → next.connection other = deployment.connection other := by
  have received : Exchange.step (fun _ => deployment.incoming socket) (deployment.connection socket)
      event = some exchange := by
    refine Exchange.step_congr ?_ taken
    intro call sent ready
    rw [incoming, answers, ← served.reply sent ready]
    rfl
  refine ⟨{ deployment with clients := Function.update deployment.clients socket exchange }, ?_,
    connection_update (Exchange.served_step taken own).1, rfl,
    fun other different => connection_update_of_ne different exchange⟩
  rw [step, if_neg own, received]
  rfl

theorem isReading_setReading (server : AsioServer) (socket : Nat) (reading : Bool) :
    (server.setReading socket reading).isReading socket = reading := by
  simp [AsioServer.setReading, AsioServer.isReading]

/-- The server answers the next request of the client, and reads on. -/
theorem lift_serve (speaks : ∀ data, callback data ≠ .ok [])
    (replies : ∀ call, ∃ response, callback (request socket call) = .ok response)
    (apart : deployment.Apart callback request) (ready : deployment.Ready socket)
    (taken : Exchange.step (answers callback request socket) (deployment.connection socket) .serve =
      some exchange) :
    ∃ next, step request deployment (.receive socket .stays) = some next ∧
      next.connection socket = exchange ∧ next.Ready socket ∧
      ∀ other, other ≠ socket → next.connection other = deployment.connection other := by
  have given := apart.given ready.running
  simp only [Exchange.step, Option.ite_none_right_eq_some, Option.some.injEq] at taken
  obtain ⟨within, rfl⟩ := taken
  obtain ⟨call, asked⟩ : ∃ call,
      (deployment.clients socket).wire[(deployment.handed socket).length]? = some call := by
    rw [← (apart.served socket).caught ready.running]
    exact ⟨_, List.getElem?_eq_getElem within⟩
  obtain ⟨response, answered⟩ := replies call
  obtain ⟨streams, went⟩ : ∃ streams, deployment.streams.step
      (.received socket (request socket call) .stays) = some streams := by
    rw [ServerStreams.step, if_pos (by rw [ready.running, ready.reading]; rfl)]
    exact ⟨_, rfl⟩
  have handled := (ServerStreams.step_server went).1
  simp only [AsioServer.step, Option.ite_none_right_eq_some, Option.some.injEq] at handled
  have called : (deployment.streams.server.setReading socket false).answer (request socket call) =
      .ok response := (ServerStreams.answer_of_callback given _).trans answered
  have there : (deployment.streams.server.setReading socket false).peerOf socket = true :=
    (AsioServer.peerOf_setReading _ _ _).trans ready.peer
  have after := handled.2
  rw [AsioServer.perform_handleServerRead called (.inr ⟨there, rfl⟩)] at after
  obtain ⟨written, -, wrote⟩ := (output_received given socket (request socket call) .stays).resolve_left
    (output_full speaks given (ServerStreams.step_server went).1 (after ▸ ready.running))
  have next : Ready { deployment with streams } socket := by
    refine ⟨?_, ?_, ?_⟩
    · change streams.server.running = true
      rw [← after]
      exact ready.running
    · change streams.server.isReading socket = true
      rw [← after]
      exact isReading_setReading _ _ _
    · change streams.server.peerOf socket = true
      rw [← after, AsioServer.peerOf_setReading]
      exact there
  refine ⟨{ deployment with streams }, ?_, ?_, next, ?_⟩
  · rw [step, asked]
    dsimp only
    rw [went]
    rfl
  · exact connection_wrote went wrote
  · intro other different
    refine connection_unwritten went ?_
    rw [wrote]
    exact onSocket_other different written

/-- Each step that the connection can take alone is one of the client or of the server. -/
theorem lift (speaks : ∀ data, callback data ≠ .ok [])
    (replies : ∀ call, ∃ response, callback (request socket call) = .ok response)
    (apart : deployment.Apart callback request) (ready : deployment.Ready socket)
    (proceeds : Exchange.Proceeds event) (inTurn : (deployment.connection socket).InTurn event)
    (taken : Exchange.step (answers callback request socket) (deployment.connection socket) event =
      some exchange) :
    ∃ shared next, Own socket shared ∧ deployment.InTurn shared ∧
      step request deployment shared = some next ∧ next.connection socket = exchange ∧
      next.Ready socket ∧
      ∀ other, other ≠ socket → next.connection other = deployment.connection other := by
  by_cases serving : event = .serve
  · subst event
    obtain ⟨next, went, connection, still, others⟩ := lift_serve speaks replies apart ready taken
    exact ⟨.receive socket .stays, next, ⟨rfl, rfl⟩, trivial, went, connection, still, others⟩
  · obtain ⟨next, went, connection, same, others⟩ :=
      lift_client (apart.served socket) serving taken
    have still : next.Ready socket :=
      ⟨same ▸ ready.running, same ▸ ready.reading, same ▸ ready.peer⟩
    exact ⟨.client socket event, next, ⟨rfl, proceeds⟩, inTurn, went, connection, still, others⟩

end Steps

section Runs
variable {callback : Bytes → Except Bytes Bytes} {request : Nat → Nat → Bytes}
  {first deployment : Deployment} {socket : Nat}

theorem onward_refl (apart : first.Apart callback request) (ready : first.Ready socket)
    (alive : (first.clients socket).alive = true) :
    Onward callback request socket first first :=
  ⟨apart, ready, fun _ _ => rfl, alive, rfl, [], by simp, by simp⟩

/-- As long as the client has something left to do, it gets nearer to its end. -/
theorem Onward.nearer (speaks : ∀ data, callback data ≠ .ok [])
    (replies : ∀ call, ∃ response, callback (request socket call) = .ok response)
    (onward : Onward callback request socket first deployment)
    (busy : ¬ (deployment.connection socket).Quiet) :
    ∃ event next, Own socket event ∧ step request deployment event = some next ∧
      Onward callback request socket first next ∧
      (next.connection socket).distance < (deployment.connection socket).distance := by
  have paired := (onward.apart.served socket).alone.paired
  obtain ⟨event, proceeds, inTurn, enabled⟩ := paired.proceeds onward.alive busy
  obtain ⟨exchange, taken⟩ := Option.isSome_iff_exists.mp enabled
  obtain ⟨shared, next, own, turn, went, rfl, ready, others⟩ :=
    lift speaks replies onward.apart onward.ready proceeds inTurn taken
  have transition := Exchange.transition_of_step taken
  obtain ⟨issued, alive, more, grown, also⟩ := Exchange.outcomes_of_proceeds proceeds transition
  obtain ⟨later, ended, answered⟩ := onward.outcomes
  refine ⟨shared, next, own, went, ⟨onward.apart.step speaks turn went, ready, ?_,
    alive.trans onward.alive, issued.trans onward.issued, later ++ more, ?_, ?_⟩,
    paired.balanced.distance_lt proceeds transition⟩
  · intro other different
    exact (others other different).trans (onward.others other different)
  · rw [grown, ended, List.append_assoc]
  · intro outcome member
    exact (List.mem_append.mp member).elim (answered outcome) (also outcome)

/-- A client can bring its calls to their ends, whatever the others have left undone. -/
theorem onward_quiet (speaks : ∀ data, callback data ≠ .ok [])
    (replies : ∀ call, ∃ response, callback (request socket call) = .ok response)
    (apart : first.Apart callback request) (ready : first.Ready socket)
    (alive : (first.clients socket).alive = true) :
    ∃ more final, (∀ event ∈ more, Own socket event) ∧
      run (step request) first more = some final ∧
      Onward callback request socket first final ∧ (final.connection socket).Quiet := by
  refine exists_run_until (fun deployment => (deployment.connection socket).distance) ?_ first
    (onward_refl apart ready alive)
  intro deployment onward busy
  obtain ⟨event, next, own, went, still, closer⟩ := onward.nearer speaks replies busy
  refine ⟨[event], next, ?_, ?_, still, closer⟩
  · intro other member
    rwa [List.mem_singleton.mp member]
  · rw [run, went, Option.bind_some, run]

end Runs

end Deployment

namespace XrpcServer
variable {Msg : Type}

/-- From every state in which the server reads from a client whose reads have not failed, the
calls of this client can be brought to their ends by itself and the server alone: each ends
once, those still under way with their answers, and the other clients are as they were. -/
theorem never_starved (server : XrpcServer Msg) {request : Nat → Nat → Bytes}
    {events : List DeploymentEvent} {deployment : Deployment} {socket : Nat}
    (answers : ∀ call, ∃ response, (server.onMessage (request socket call)).response = .ok response)
    (inTurn : Along (Deployment.step request) Deployment.InTurn
      (.opened fun data => (server.onMessage data).response) events)
    (reached : run (Deployment.step request)
      (.opened fun data => (server.onMessage data).response) events = some deployment)
    (ready : deployment.Ready socket) (alive : (deployment.clients socket).alive = true) :
    ∃ more final later, (∀ event ∈ more, Deployment.Own socket event) ∧
      run (Deployment.step request) deployment more = some final ∧
      (∀ other, other ≠ socket → final.connection other = deployment.connection other) ∧
      ((final.clients socket).outcomes.map Prod.fst).Perm
        (List.range (deployment.clients socket).issued) ∧
      (final.clients socket).outcomes = (deployment.clients socket).outcomes ++ later ∧
      ∀ outcome ∈ later, ∃ response, outcome.2 = some response ∧
        (server.onMessage (request socket outcome.1)).response = .ok response := by
  have apart := Deployment.apart_run server.onMessage_ne_nil inTurn reached
  obtain ⟨more, final, own, arrived, onward, quiet⟩ :=
    Deployment.onward_quiet server.onMessage_ne_nil answers apart ready alive
  have served := onward.apart.served socket
  obtain ⟨later, ended, answered⟩ := onward.outcomes
  have all : ((final.connection socket).outcomes.map Prod.fst).Perm
      (List.range (deployment.connection socket).issued) := by
    rw [← onward.issued]
    exact served.alone.paired.ended onward.alive quiet
  refine ⟨more, final, later, own, arrived, onward.others, all, ended, ?_⟩
  rintro ⟨call, result⟩ member
  obtain ⟨response, rfl⟩ := Option.isSome_iff_exists.mp (answered (call, result) member)
  have here : (call, some response) ∈ (final.clients socket).outcomes := by
    have grown : (final.clients socket).outcomes = (deployment.connection socket).outcomes ++ later :=
      ended
    rw [grown]
    exact List.mem_append_right _ member
  exact ⟨response, rfl, response_of_reply (served.answered here).2⟩

end XrpcServer

section Pings

instance (deployment : Deployment) (socket : Nat) : Decidable (deployment.Ready socket) :=
  decidable_of_iff (deployment.streams.server.running = true ∧
      deployment.streams.server.isReading socket = true ∧
      deployment.streams.server.peerOf socket = true)
    ⟨fun ⟨running, reading, peer⟩ => ⟨running, reading, peer⟩,
      fun ready => ⟨ready.running, ready.reading, ready.peer⟩⟩

/-- Neither request has been read. -/
def waitingPings : List DeploymentEvent := crossingPings.take 6

theorem waiting_ping_answered : ∃ deployment final more,
    run (Deployment.step pingsOf) (.opened fun data => (twoPingServer.onMessage data).response)
      waitingPings = some deployment ∧
    (∀ event ∈ more, Deployment.Own 1 event) ∧
    run (Deployment.step pingsOf) deployment more = some final ∧
    final.connection 0 = deployment.connection 0 ∧
    ((final.clients 1).outcomes.map Prod.fst).Perm (List.range (deployment.clients 1).issued) := by
  have ran : (run (Deployment.step pingsOf)
      (.opened fun data => (twoPingServer.onMessage data).response) waitingPings).any
        fun deployment => deployment.Ready 1 ∧ (deployment.clients 1).alive = true := by
    decide +kernel
  have inTurn : Along (Deployment.step pingsOf) Deployment.InTurn
      (.opened fun data => (twoPingServer.onMessage data).response) waitingPings := by
    decide +kernel
  obtain ⟨deployment, reached, ran⟩ := (Option.any_eq_true _ _).mp ran
  obtain ⟨ready, alive⟩ := of_decide_eq_true ran
  have answers : ∀ call, ∃ response,
      (twoPingServer.onMessage (pingsOf 1 call)).response = .ok response :=
    fun call => ⟨twoPongs 1, twoPongs_answer 1⟩
  obtain ⟨more, final, later, own, arrived, others, all, -, -⟩ :=
    twoPingServer.never_starved answers inTurn reached ready alive
  exact ⟨deployment, final, more, reached, own, arrived, others 0 (by decide), all⟩

end Pings

end Xrpc
