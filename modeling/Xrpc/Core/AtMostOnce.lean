import Xrpc.Core.Dispatch
import Xrpc.Core.Matching
import Xrpc.Transport.Conservation

/-! How often the requests of a channel are executed, whatever order its connection
takes its steps in: at most once, and exactly once for a call that succeeds. -/

namespace Xrpc

open Support

namespace XrpcServer
variable {Msg : Type} {server : XrpcServer Msg} {requests replies : Nat → Bytes}
  {data reply : Bytes} {header : RpcHeader} {method : Method Msg} {request : Msg}

/-- The methods that the server has run for the requests it has answered, each with its call. -/
def executed (server : XrpcServer Msg) (requests : Nat → Bytes) (exchange : Exchange) :
    List (Nat × Invocation Msg) :=
  (exchange.wire.take exchange.served).flatMap fun call =>
    (server.onMessage (requests call)).invoked.map (call, ·)

/-- The client takes `reply` for a success. -/
def Succeeds (codec : XrpcCodec) (reply : Bytes) : Prop :=
  (codec.readFrame reply).accepted = true ∧
    ((codec.readFrame reply).header.status = 0 ∨ (codec.readFrame reply).header.error = none)

/-- What `CallMethod` looks at decides. -/
theorem succeeds_of_decodeResponse {codec : XrpcCodec} {type : MessageType Msg} {response : Msg}
    (accepted : (codec.decodeResponse type reply response).accepted = true)
    (succeeded : (codec.decodeResponse type reply response).header.status = 0 ∨
      (codec.decodeResponse type reply response).header.error = none) : Succeeds codec reply := by
  by_cases framed : (codec.readFrame reply).accepted = true
  · refine ⟨framed, ?_⟩
    simpa [XrpcCodec.decodeResponse, framed] using succeeded
  · simp [XrpcCodec.decodeResponse, framed] at accepted

theorem callServiceMethod_invoked (desc : ServiceDescriptor Msg) (request : Msg)
    (cancelled : Bool) :
    (server.callServiceMethod desc request cancelled).invoked = [] ∨
      (server.callServiceMethod desc request cancelled).invoked =
        [⟨desc.serviceName, desc.methodName, request⟩] := by
  cases registered : server.services.find? desc.serviceName with
  | none => exact .inl (by simp [callServiceMethod, registered])
  | some service =>
    cases cancelled with
    | true => exact .inl (by simp [callServiceMethod, registered])
    | false =>
      right
      rw [callServiceMethod_found server desc (by simp [registered])]

theorem invoked_answer (header : RpcHeader) (method : Method Msg) (request : Msg) :
    (server.answer header method request).invoked =
      (server.callServiceMethod ⟨header.serviceName, header.methodName, method⟩ request
        header.cancelled).invoked := by
  rw [answer]
  dsimp only
  split
  · rfl
  · split <;> rfl

theorem invoked_onMessage (data : Bytes) :
    (server.onMessage data).invoked = (server.dispatch data).invoked := by
  rw [onMessage]
  split <;> rfl

/-- One request is one invocation at most, of what it asks for. -/
theorem invoked_cases (data : Bytes) :
    (server.onMessage data).invoked = [] ∨ ∃ method request,
      server.route (server.codec.decode data) = .ok (method, request) ∧
      (server.onMessage data).invoked = [⟨(server.codec.decode data).header.serviceName,
        (server.codec.decode data).header.methodName, request⟩] := by
  rw [invoked_onMessage, dispatch_eq]
  cases routed : server.route (server.codec.decode data) with
  | error refusal => exact .inl rfl
  | ok found =>
    obtain ⟨method, request⟩ := found
    dsimp only
    rw [invoked_answer]
    refine (callServiceMethod_invoked _ _ _).imp id fun once => ⟨method, request, rfl, once⟩

theorem mem_executed {exchange : Exchange} {call : Nat} {invocation : Invocation Msg} :
    (call, invocation) ∈ server.executed requests exchange ↔
      call ∈ exchange.wire.take exchange.served ∧
        invocation ∈ (server.onMessage (requests call)).invoked := by
  simp only [executed, List.mem_flatMap, List.mem_map, Prod.mk.injEq]
  constructor
  · rintro ⟨other, answered, same, ran, rfl, rfl⟩
    exact ⟨answered, ran⟩
  · rintro ⟨answered, ran⟩
    exact ⟨call, answered, invocation, ran, rfl, rfl⟩

/-- The calls of the invocations, in the order of the wire. -/
theorem executed_sublist (exchange : Exchange) :
    ((server.executed requests exchange).map Prod.fst).Sublist
      (exchange.wire.take exchange.served) := by
  rw [executed]
  induction exchange.wire.take exchange.served with
  | nil => exact .slnil
  | cons call rest ih =>
    rw [List.flatMap_cons, List.map_append]
    rcases server.invoked_cases (requests call) with none | ⟨method, request, -, once⟩
    · rw [none]
      exact ih.cons call
    · rw [once]
      exact ih.cons_cons call

/-- Nothing is executed twice, and only what a call has asked for. -/
theorem executed_at_most_once {events : List ExchangeEvent} {final : Exchange}
    (reached : run (Exchange.step replies) {} events = some final) :
    ((server.executed requests final).map Prod.fst).Nodup ∧
      ∀ call invocation, (call, invocation) ∈ server.executed requests final →
        call < final.issued ∧ ∃ method request,
          server.route (server.codec.decode (requests call)) = .ok (method, request) ∧
          invocation = ⟨(server.codec.decode (requests call)).header.serviceName,
            (server.codec.decode (requests call)).header.methodName, request⟩ := by
  have balanced := Exchange.balanced_run reached
  refine ⟨?_, ?_⟩
  · exact (balanced.wire_nodup.sublist (List.take_sublist _ _)).sublist (executed_sublist final)
  · intro call invocation member
    obtain ⟨answered, ran⟩ := mem_executed.mp member
    refine ⟨balanced.issued_of_wire (List.mem_of_mem_take answered), ?_⟩
    rcases server.invoked_cases (requests call) with none | ⟨method, request, routed, once⟩
    · rw [none] at ran
      cases ran
    · rw [once, List.mem_singleton] at ran
      exact ⟨method, request, routed, ran⟩

/-- A reply that reports a failure is no success. -/
theorem not_succeeds_of_failure (sound : server.codec.rpcHeader.Sound)
    (bounded : server.codec.rpcHeader.Bounded) {code : Int32} {message : Bytes}
    (framed : server.codec.Framed (errorHeader header code message) reply) :
    ¬ Succeeds server.codec reply := by
  rintro ⟨accepted, succeeded⟩
  obtain ⟨-, status, error⟩ := framed.read sound bounded accepted
  rw [status, error] at succeeded
  rcases succeeded with ok | silent
  · simp [errorHeader] at ok
  · simp [errorHeader] at silent

/-- Only a method that has run, and ended well, makes a success, with its response. -/
theorem answer_of_success (sound : server.codec.rpcHeader.Sound)
    (bounded : server.codec.rpcHeader.Bounded) (active : header.cancelled = false)
    (found : (server.services.find? header.serviceName).isSome = true)
    (answered : (server.answer header method request).response = .ok reply)
    (succeeded : Succeeds server.codec reply) :
    failureOf (method.call request) = none ∧
      server.codec.encodeResponse method.responseType { header with status := 0 }
        (method.call request).response = .ok reply := by
  have called := server.callServiceMethod_found ⟨header.serviceName, header.methodName, method⟩
    found request
  rw [← active] at called
  rw [answer] at answered
  dsimp only at answered
  rw [called] at answered
  cases failure : failureOf (method.call request) with
  | some what =>
    simp only [failure] at answered
    exact absurd succeeded (not_succeeds_of_failure sound bounded
      (XrpcCodec.framed_writeFrame answered))
  | none =>
    simp only [failure] at answered
    split at answered
    · rename_i encoded
      exact ⟨rfl, encoded.trans answered⟩
    · exact absurd succeeded (not_succeeds_of_failure sound bounded
        (XrpcCodec.framed_writeFrame answered))

theorem onMessage_of_success (sound : server.codec.rpcHeader.Sound)
    (bounded : server.codec.rpcHeader.Bounded)
    (replied : (server.onMessage data).response = .ok reply)
    (succeeded : Succeeds server.codec reply) :
    ∃ method request, server.route (server.codec.decode data) = .ok (method, request) ∧
      (server.onMessage data).invoked = [⟨(server.codec.decode data).header.serviceName,
        (server.codec.decode data).header.methodName, request⟩] ∧
      failureOf (method.call request) = none ∧
      server.codec.encodeResponse method.responseType
        { (server.codec.decode data).header with status := 0 } (method.call request).response =
          .ok reply := by
  have refused : ∀ {header : RpcHeader} {code : Int32} {text : String},
      server.errorReply header code text ≠ .ok reply := fun encoded =>
    not_succeeds_of_failure sound bounded (XrpcCodec.framed_writeFrame encoded) succeeded
  have dispatched : (server.dispatch data).response = .ok reply := by
    rw [onMessage] at replied
    cases response : (server.dispatch data).response with
    | ok bytes =>
      simp only [response] at replied
      exact replied
    | error what =>
      simp only [response] at replied
      exact absurd replied refused
  rw [invoked_onMessage]
  rw [dispatch_eq] at dispatched ⊢
  cases routed : server.route (server.codec.decode data) with
  | error refusal =>
    rw [routed] at dispatched
    exact absurd dispatched refused
  | ok target =>
    obtain ⟨method, request⟩ := target
    obtain ⟨-, active, service, registered, -⟩ := route_ok routed
    have found : (server.services.find? (server.codec.decode data).header.serviceName).isSome =
        true := by rw [registered, Option.isSome_some]
    rw [routed] at dispatched
    refine ⟨method, request, rfl, ?_,
      answer_of_success sound bounded active found dispatched succeeded⟩
    dsimp only
    rw [invoked_answer, active, callServiceMethod_found server _ found]

/-- While reads are posted in turn, a call that ends with a success has been executed, once,
and its method has ended well with the response that the call decodes. -/
theorem success_executed_once (sound : server.codec.rpcHeader.Sound)
    (bounded : server.codec.rpcHeader.Bounded)
    (answers : ∀ call, (server.onMessage (requests call)).response = .ok (replies call))
    {events : List ExchangeEvent} {final : Exchange}
    (inTurn : Along (Exchange.step replies) Exchange.InTurn {} events)
    (reached : run (Exchange.step replies) {} events = some final) {call : Nat}
    (ended : (call, some reply) ∈ final.outcomes) (succeeded : Succeeds server.codec reply) :
    ((server.executed requests final).map Prod.fst).count call = 1 ∧
      ∃ method request,
        server.route (server.codec.decode (requests call)) = .ok (method, request) ∧
        (call, ⟨(server.codec.decode (requests call)).header.serviceName,
          (server.codec.decode (requests call)).header.methodName, request⟩) ∈
            server.executed requests final ∧
        failureOf (method.call request) = none ∧
        server.codec.encodeResponse method.responseType
          { (server.codec.decode (requests call)).header with status := 0 }
          (method.call request).response = .ok reply := by
  have paired := Exchange.paired_run inTurn reached
  have own : reply = replies call := paired.matched.outcomes call reply ended
  obtain ⟨method, request, routed, once, well, encoded⟩ :=
    onMessage_of_success sound bounded ((answers call).trans (own ▸ rfl)) succeeded
  have handed : (call, reply) ∈ final.handed := by
    refine List.mem_append_left _ (List.mem_filterMap.mpr ⟨_, ended, rfl⟩)
  have answered : call ∈ final.wire.take final.served := by
    obtain ⟨other, read, same⟩ := List.mem_map.mp (paired.handed.mem_iff.mp handed)
    obtain ⟨rfl, -⟩ := Prod.mk.inj same
    exact (List.take_subset_take_left _ paired.balanced.served.1) read
  have ran : (call, (⟨(server.codec.decode (requests call)).header.serviceName,
      (server.codec.decode (requests call)).header.methodName, request⟩ : Invocation Msg)) ∈
        server.executed requests final := by
    refine mem_executed.mpr ⟨answered, ?_⟩
    rw [once]
    exact List.mem_singleton.mpr rfl
  refine ⟨?_, method, request, routed, ran, well, encoded⟩
  refine List.count_eq_one_of_mem ?_ (List.mem_map_of_mem ran)
  exact (paired.balanced.wire_nodup.sublist (List.take_sublist _ _)).sublist
    (executed_sublist final)

end XrpcServer

section Pings

theorem in_turn_pings_executed : ∃ final,
    run (Exchange.step twoPongs) {} inTurnPings = some final ∧
      ((twoPingServer.executed (fun call => (twoPings call).bytes) final).map Prod.fst).Nodup := by
  have possible : ∃ final, run (Exchange.step twoPongs) {} inTurnPings = some final := ⟨_, rfl⟩
  obtain ⟨final, reached⟩ := possible
  exact ⟨final, reached, (XrpcServer.executed_at_most_once reached).1⟩

theorem second_ping_executed : ∃ final,
    run (Exchange.step twoPongs) {} inTurnPings = some final ∧
      ((twoPingServer.executed (fun call => (twoPings call).bytes) final).map
        Prod.fst).count 1 = 1 := by
  have possible : ∃ final, run (Exchange.step twoPongs) {} inTurnPings = some final ∧
      (1, some (twoPongs 1)) ∈ final.outcomes := by
    refine ⟨_, rfl, ?_⟩
    decide +kernel
  obtain ⟨final, reached, ended⟩ := possible
  have inTurn : Along (Exchange.step twoPongs) Exchange.InTurn {} inTurnPings := by decide +kernel
  have succeeded : XrpcServer.Succeeds twoPingServer.codec (twoPongs 1) :=
    ⟨by decide +kernel, .inl (by decide +kernel)⟩
  exact ⟨final, reached, (XrpcServer.success_executed_once twoPingCodec_sound
    twoPingCodec_bounded twoPongs_answer inTurn reached ended succeeded).1⟩

end Pings

end Xrpc
