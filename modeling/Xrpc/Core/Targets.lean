import Xrpc.Core.Channel

/-! Where the requests of a channel go. -/

namespace Xrpc

open Support

/-- The socket of a channel and what was written through it. -/
def AsioClient.line (transport : AsioClient) :
    Option ClientSocket × List (Option Endpoint × Bytes) :=
  (transport.clientSocket, transport.written)

namespace AsioClient

theorem isOpen_congr {transport other : AsioClient}
    (same : transport.clientSocket = other.clientSocket) : transport.isOpen = other.isOpen := by
  rw [isOpen, isOpen, same]

theorem remote_congr {transport other : AsioClient}
    (same : transport.clientSocket = other.clientSocket) : transport.remote = other.remote := by
  rw [remote, remote, same]

theorem line_turn (transport : AsioClient) (turn : Turn) :
    (transport.turn turn).line = transport.line := by
  cases turn with
  | idle => rfl
  | completed read =>
    cases read with
    | received bytes => rfl
    | failed message => rfl

theorem line_waitLoop (ec : Bool) (turns : List Turn) : Keeps line (waitLoop ec turns) := by
  induction turns with
  | nil =>
    refine Keeps.bind Keeps.get fun _ => ?_
    split
    · exact Keeps.pure ()
    · exact Keeps.raise _
  | cons turn rest ih =>
    refine Keeps.bind Keeps.get fun _ => ?_
    split
    · exact Keeps.pure ()
    · exact Keeps.bind (Keeps.modify fun _ => line_turn _ turn) fun _ => ih

/-- `Send` on an open socket writes the request there and leaves the rest alone. -/
theorem line_send {transport : AsioClient} (opened : transport.isOpen = true) (ec : Bool)
    (turns : List Turn) (data : Bytes) :
    (stateAfter ((send ec turns data).run transport)).line = (transport.record data).line := by
  have rest : Keeps line (do
      if ec then return none
      waitLoop ec turns
      let transport ← get
      if !transport.responseReceived then return none
      return some transport.response : Effect AsioClient (Option Bytes)) := by
    split
    · exact Keeps.pure _
    · refine Keeps.bind (line_waitLoop ec turns) fun _ => Keeps.bind Keeps.get fun after => ?_
      split <;> exact Keeps.pure _
  have sent : _ = (transport.record data).line := rest (transport.sending data)
  simpa [send, opened, EStateM.run_bind, sending] using sent

end AsioClient

section Frames
variable {Msg : Type} {channel : XrpcChannel} {call : ClientCall Msg} {outside : Outside}

def CallState.line (state : CallState Msg) :
    Option ClientSocket × List (Option Endpoint × Bytes) :=
  state.transport.line

theorem aside_line : Aside (CallState.line : CallState Msg → _) := by
  constructor
  · exact fun _ _ => rfl
  · exact fun _ _ => rfl
  · exact fun _ _ => rfl

end Frames

section Submission
variable {Msg : Type} {channel : XrpcChannel} {call : ClientCall Msg} {outside : Outside}
  {state : CallState Msg}

/-- What keeps a call whose server is found and connected to from writing its request. -/
def Withheld (codec : XrpcCodec) (call : ClientCall Msg) (outside : Outside)
    (controller : XrpcController) : Prop :=
  (call.isXrpc = true ∧ controller.canceled = true) ∨
    (∃ what, codec.encode call.requestType (XrpcChannel.header call outside) call.request =
      .error what) ∨
    (call.done.isSome = true ∧ call.isXrpc = false)

theorem line_sendRequestAsync (free : state.held = []) (opened : state.transport.isOpen = true)
    (isXrpc : call.isXrpc = true) (data : Bytes) :
    (stateAfter ((channel.sendRequestAsync call data).run state)).line =
      (state.transport.record data).line := by
  rw [channel.run_sendRequestAsync_open isXrpc free opened]
  rfl

theorem line_sendRequest (free : state.held = []) (opened : state.transport.isOpen = true)
    (data : Bytes) :
    (stateAfter ((XrpcChannel.sendRequest outside data).run state)).line =
      (state.transport.record data).line := by
  have sent := AsioClient.line_send opened outside.writeFails outside.turns data
  rw [XrpcChannel.sendRequest, run_guarded free]
  cases ran : (AsioClient.send outside.writeFails outside.turns data).run state.transport with
  | ok value transport =>
    rw [ran] at sent
    exact sent
  | error exit transport =>
    rw [ran] at sent
    cases exit with
    | exception what => exact sent
    | hang => exact sent

theorem line_submit_withheld (withheld : Withheld channel.codec call outside state.controller) :
    (stateAfter ((channel.submit call outside).run state)).line = state.line := by
  rw [XrpcChannel.submit, EStateM.run_bind, EStateM.run_get]
  dsimp only
  split
  · exact aside_line.fail _ state
  · rename_i active
    rcases withheld with canceled | ⟨what, failed⟩ | ⟨async, other⟩
    · simp [canceled] at active
    · rw [failed, EStateM.run_bind, run_ofExcept_error]
      rfl
    · cases encoded : channel.codec.encode call.requestType (XrpcChannel.header call outside)
          call.request with
      | error what =>
        rw [EStateM.run_bind, run_ofExcept_error]
        rfl
      | ok data =>
        rw [EStateM.run_bind, run_ofExcept_ok]
        dsimp only
        rw [if_pos async, XrpcChannel.sendRequestAsync, other]
        exact keeps_withLock (fun _ _ => rfl) (aside_line.runDone call.done) .channel state

theorem line_submit_sent (free : state.held = []) (opened : state.transport.isOpen = true)
    (sent : ¬Withheld channel.codec call outside state.controller) :
    ∃ data, (stateAfter ((channel.submit call outside).run state)).line =
      (state.transport.record data).line := by
  rw [Withheld, not_or, not_or] at sent
  obtain ⟨active, encodes, proper⟩ := sent
  cases encoded : channel.codec.encode call.requestType (XrpcChannel.header call outside)
      call.request with
  | error what => exact absurd ⟨what, encoded⟩ encodes
  | ok data =>
    refine ⟨data, ?_⟩
    rw [XrpcChannel.submit, EStateM.run_bind, EStateM.run_get]
    dsimp only
    rw [if_neg (by simpa using active), encoded, EStateM.run_bind, run_ofExcept_ok]
    dsimp only
    split
    · rename_i async
      have isXrpc : call.isXrpc = true := by simpa [async] using proper
      exact line_sendRequestAsync free opened isXrpc data
    · refine (view_bind (fun value => ?_) state).trans (line_sendRequest free opened data)
      cases value with
      | none => exact aside_line.fail _
      | some responseData => exact aside_line.finish _ _

end Submission

/-- One `CallMethod` of a history, with its own controller and response. -/
structure Issued (Msg : Type) where
  call : ClientCall Msg
  outside : Outside
  controller : XrpcController := {}
  response : Msg

namespace Issued
variable {Msg : Type}

/-- The transport as the call leaves it. -/
def leaves (channel : XrpcChannel) (issued : Issued Msg) (transport : AsioClient) : AsioClient :=
  (stateAfter ((channel.callMethod issued.call issued.outside).run
    { transport, controller := issued.controller, response := issued.response })).transport

/-- The ip:port that the registry gave the call is this endpoint. -/
def Names (network : Network) (issued : Issued Msg) (endpoint : Endpoint) : Prop :=
  ∃ ip port, XrpcChannel.locate issued.outside = .ok (ip, port) ∧
    network.fromString ip = .ok endpoint.address ∧ port = endpoint.port.toNat

/-- The endpoint that the call connects to if there is no connection yet. -/
def endpoint (network : Network) (issued : Issued Msg) : Option Endpoint :=
  match XrpcChannel.locate issued.outside with
  | .error _ => none
  | .ok (ip, port) =>
    match network.fromString ip with
    | .error _ => none
    | .ok address => some ⟨address, UInt16.ofInt port⟩

/-- The call gets as far as to write its request, if it is connected. -/
def Sends (codec : XrpcCodec) (issued : Issued Msg) : Prop :=
  (∃ located, XrpcChannel.locate issued.outside = .ok located) ∧
    ¬Withheld codec issued.call issued.outside issued.controller

end Issued

namespace XrpcChannel
variable {Msg : Type} (channel : XrpcChannel)

/-- Every request of the history is written on a connection to the ip:port that
was found for it. -/
def Delivered : AsioClient → List (Issued Msg) → Prop
  | _, [] => True
  | transport, issued :: rest =>
    (∀ frame ∈ (issued.leaves channel transport).written.drop transport.written.length,
      ∃ endpoint, frame.1 = some endpoint ∧ issued.Names channel.network endpoint) ∧
    Delivered (issued.leaves channel transport) rest

/-- The first call that can connect names the server of all that send anything. -/
def Consistent : List (Issued Msg) → Prop
  | [] => True
  | issued :: rest =>
    match issued.endpoint channel.network with
    | none => Consistent rest
    | some endpoint =>
      ∀ later ∈ issued :: rest, later.Sends channel.codec → later.Names channel.network endpoint

variable {channel} {issued : Issued Msg} {transport : AsioClient}

theorem leaves_line (issued : Issued Msg) (transport : AsioClient) :
    (issued.leaves channel transport).line =
      (stateAfter ((do channel.dial issued.outside; channel.submit issued.call issued.outside :
        Effect (CallState Msg) Unit).run
          { transport, controller := issued.controller, response := issued.response })).line :=
  view_catchStd (fun what => aside_line.fail what) _

theorem leaves_unlocated {what : Bytes} (lost : locate issued.outside = .error what) :
    (issued.leaves channel transport).line = transport.line := by
  rw [leaves_line, dial, lost]
  rfl

/-- A call whose `Connect` returns goes on as `submit` does. -/
theorem leaves_connected {ip : Bytes} {port : Int} {connected : AsioClient}
    (located : locate issued.outside = .ok (ip, port))
    (ran : (AsioClient.connect channel.network ip port).run transport = .ok () connected) :
    (issued.leaves channel transport).line =
      (stateAfter ((channel.submit issued.call issued.outside).run
        { transport := connected, controller := issued.controller,
          response := issued.response })).line := by
  rw [leaves_line, dial, located, EStateM.run_bind, EStateM.run_bind, run_ofThrowing_ok]
  dsimp only
  rw [run_guarded rfl, ran]

theorem leaves_refused {ip what : Bytes} {port : Int} (closed : transport.isOpen = false)
    (located : locate issued.outside = .ok (ip, port))
    (refused : channel.network.fromString ip = .error what) :
    (issued.leaves channel transport).line = (some {}, transport.written) := by
  rw [leaves_line, dial, located, EStateM.run_bind, EStateM.run_bind, run_ofThrowing_ok]
  dsimp only
  rw [run_guarded rfl, AsioClient.connect_refused closed refused]
  rfl

/-- A call that writes nothing. -/
theorem delivered_silent {rest : List (Issued Msg)}
    (silent : (issued.leaves channel transport).written = transport.written) :
    channel.Delivered transport (issued :: rest) ↔
      channel.Delivered (issued.leaves channel transport) rest := by
  simp [Delivered, silent]

/-- A call that gets as far as `submit` on a connection to `endpoint`, where
the rest of the history is known to stay. -/
theorem delivered_cons {rest : List (Issued Msg)} (connected : AsioClient) {endpoint : Endpoint}
    {located : Bytes × Int} (found : locate issued.outside = .ok located)
    (opened : connected.isOpen = true) (bound : connected.remote = some endpoint)
    (unwritten : connected.written = transport.written)
    (submitted : (issued.leaves channel transport).line =
      (stateAfter ((channel.submit issued.call issued.outside).run
        { transport := connected, controller := issued.controller,
          response := issued.response })).line)
    (later : ∀ next : AsioClient, next.isOpen = true → next.remote = some endpoint →
      (channel.Delivered next rest ↔
        ∀ call ∈ rest, call.Sends channel.codec → call.Names channel.network endpoint)) :
    channel.Delivered transport (issued :: rest) ↔
      ∀ call ∈ issued :: rest, call.Sends channel.codec → call.Names channel.network endpoint := by
  by_cases withheld : Withheld channel.codec issued.call issued.outside issued.controller
  · rw [line_submit_withheld withheld] at submitted
    have silent : ¬issued.Sends channel.codec := fun sends => sends.2 withheld
    have written : (issued.leaves channel transport).written = transport.written :=
      (congrArg Prod.snd submitted).trans unwritten
    have kept : (issued.leaves channel transport).clientSocket = connected.clientSocket :=
      congrArg Prod.fst submitted
    have rest := later (issued.leaves channel transport)
      ((AsioClient.isOpen_congr kept).trans opened) ((AsioClient.remote_congr kept).trans bound)
    rw [delivered_silent written, rest, List.forall_mem_cons]
    simp only [silent, false_implies, true_and]
  · obtain ⟨data, sent⟩ : ∃ data, (stateAfter ((channel.submit issued.call issued.outside).run
        { transport := connected, controller := issued.controller,
          response := issued.response })).line = (connected.record data).line :=
      line_submit_sent rfl opened withheld
    rw [sent] at submitted
    have sends : issued.Sends channel.codec := ⟨⟨located, found⟩, withheld⟩
    have written : (issued.leaves channel transport).written =
        transport.written ++ [(some endpoint, data)] := by
      rw [← unwritten, ← bound]
      exact congrArg Prod.snd submitted
    have kept : (issued.leaves channel transport).clientSocket = connected.clientSocket :=
      congrArg Prod.fst submitted
    have rest := later (issued.leaves channel transport)
      ((AsioClient.isOpen_congr kept).trans opened) ((AsioClient.remote_congr kept).trans bound)
    simp [Delivered, written, sends, rest]

theorem delivered_open {calls : List (Issued Msg)} {endpoint : Endpoint}
    (opened : transport.isOpen = true) (bound : transport.remote = some endpoint) :
    channel.Delivered transport calls ↔
      ∀ call ∈ calls, call.Sends channel.codec → call.Names channel.network endpoint := by
  induction calls generalizing transport with
  | nil => simp [Delivered]
  | cons issued rest ih =>
    cases located : locate issued.outside with
    | error what =>
      have line : (issued.leaves channel transport).line = transport.line :=
        leaves_unlocated located
      have silent : ¬issued.Sends channel.codec := by
        rintro ⟨⟨found, named⟩, _⟩
        simp [located] at named
      have written : (issued.leaves channel transport).written = transport.written :=
        congrArg Prod.snd line
      have kept : (issued.leaves channel transport).clientSocket = transport.clientSocket :=
        congrArg Prod.fst line
      have rest := ih ((AsioClient.isOpen_congr kept).trans opened)
        ((AsioClient.remote_congr kept).trans bound)
      rw [delivered_silent written, rest, List.forall_mem_cons]
      simp only [silent, false_implies, true_and]
    | ok target =>
      have connected : (AsioClient.connect channel.network target.1 target.2).run transport =
        .ok () transport := AsioClient.connect_open opened
      exact delivered_cons transport located opened bound rfl (leaves_connected located connected)
        fun next => ih

theorem delivered_closed {calls : List (Issued Msg)}
    (connects : ∀ endpoint, channel.network.connects endpoint = true)
    (closed : transport.isOpen = false) :
    channel.Delivered transport calls ↔ channel.Consistent calls := by
  induction calls generalizing transport with
  | nil => simp [Delivered, Consistent]
  | cons issued rest ih =>
    cases located : locate issued.outside with
    | error what =>
      have line : (issued.leaves channel transport).line = transport.line :=
        leaves_unlocated located
      have written : (issued.leaves channel transport).written = transport.written :=
        congrArg Prod.snd line
      have kept : (issued.leaves channel transport).clientSocket = transport.clientSocket :=
        congrArg Prod.fst line
      rw [delivered_silent written, ih ((AsioClient.isOpen_congr kept).trans closed)]
      simp only [Consistent, Issued.endpoint, located]
    | ok target =>
      obtain ⟨ip, port⟩ := target
      cases parsed : channel.network.fromString ip with
      | error what =>
        have line := leaves_refused closed located parsed
        have written : (issued.leaves channel transport).written = transport.written :=
          congrArg Prod.snd line
        have kept : (issued.leaves channel transport).clientSocket = some {} :=
          congrArg Prod.fst line
        have stillClosed : (issued.leaves channel transport).isOpen = false := by
          simp [AsioClient.isOpen, kept]
        rw [delivered_silent written, ih stillClosed]
        simp only [Consistent, Issued.endpoint, located, parsed]
      | ok address =>
        have connected := AsioClient.connect_closed closed parsed
          (connects ⟨address, UInt16.ofInt port⟩)
        have first : issued.endpoint channel.network = some ⟨address, UInt16.ofInt port⟩ := by
          simp [Issued.endpoint, located, parsed]
        simp only [Consistent, first]
        exact delivered_cons (transport.connectTo ⟨address, UInt16.ofInt port⟩) located rfl rfl rfl
          (leaves_connected located connected) fun next => delivered_open

/-- A channel keeps its first connection, so it serves the registry's answers
just as far as they agree with the first. -/
theorem delivered_iff_consistent (connects : ∀ endpoint, channel.network.connects endpoint = true)
    (calls : List (Issued Msg)) :
    channel.Delivered {} calls ↔ channel.Consistent calls :=
  delivered_closed connects rfl

end XrpcChannel

section Pings

/-- A call that the registry sends to `instances`, and that is answered. -/
def pingTo (instances : List Bytes) : Issued Bytes where
  call := pingCall
  outside :=
    { instances := .ok instances
      rand := 1
      turns := [.idle, .completed (.received pingRead)] }
  response := []

theorem pingTo_sends {address : Bytes} {rest : List Bytes} {located : Bytes × Int}
    (found : XrpcChannel.locate (pingTo (address :: rest)).outside = .ok located) :
    (pingTo (address :: rest)).Sends pingCodec := by
  have encoded : pingCodec.encode pingType pingHeader [7] =
      .ok (XrpcCodec.frameBytes pingHeaderStr [0x0a, 0x01, 7]) := by decide +kernel
  refine ⟨⟨located, found⟩, ?_⟩
  rintro (⟨_, canceled⟩ | ⟨what, failed⟩ | ⟨async, _⟩)
  · cases canceled
  · cases encoded.symm.trans failed
  · cases async

theorem same_instance_delivered :
    pingChannel.Delivered {} [pingTo [], pingTo [text "10.0.0.1:80"],
      pingTo [text "10.0.0.1:80", text "10.0.0.2:80"]] := by
  have connects : ∀ endpoint, pingChannel.network.connects endpoint = true := fun _ => rfl
  refine (XrpcChannel.delivered_iff_consistent connects _).mpr ?_
  have first : (pingTo [text "10.0.0.1:80"]).endpoint twoHosts = some ⟨[10, 0, 0, 1], 80⟩ := by
    decide +kernel
  have none : (pingTo []).endpoint twoHosts = none := by decide +kernel
  have located : XrpcChannel.locate (pingTo [text "10.0.0.1:80"]).outside =
      .ok (text "10.0.0.1", 80) := by decide +kernel
  have parsed : twoHosts.fromString (text "10.0.0.1") = .ok [10, 0, 0, 1] := by decide +kernel
  simp only [XrpcChannel.Consistent, pingChannel, none, first]
  intro later member _
  have same : XrpcChannel.locate later.outside = .ok (text "10.0.0.1", 80) := by
    rcases List.mem_pair.mp member with rfl | rfl
    · exact located
    · exact located
  exact ⟨_, _, same, parsed, rfl⟩

/-- The second call is found at the second host and sent to the first. -/
theorem moved_instance_misdelivered :
    ¬pingChannel.Delivered {} [pingTo [text "10.0.0.1:80"], pingTo [text "10.0.0.2:80"]] := by
  intro delivered
  have consistent := (XrpcChannel.delivered_closed (fun _ => rfl) rfl).mp delivered
  have first : (pingTo [text "10.0.0.1:80"]).endpoint twoHosts = some ⟨[10, 0, 0, 1], 80⟩ := by
    decide +kernel
  have located : XrpcChannel.locate (pingTo [text "10.0.0.2:80"]).outside =
      .ok (text "10.0.0.2", 80) := by decide +kernel
  have parsed : twoHosts.fromString (text "10.0.0.2") = .ok [10, 0, 0, 2] := by decide +kernel
  simp only [XrpcChannel.Consistent, pingChannel, first] at consistent
  obtain ⟨ip, port, found, address, _⟩ :=
    consistent (pingTo [text "10.0.0.2:80"]) (by simp) (pingTo_sends located)
  cases located.symm.trans found
  cases parsed.symm.trans address

end Pings

end Xrpc
