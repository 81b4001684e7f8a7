import Xrpc.Core.Intelligible

/-! Which texts reach the caller of a method that failed as the method gave them. -/

namespace Xrpc

open Support

section Client
variable {Msg Body : Type} {channel : XrpcChannel} {call : ClientCall Msg} {outside : Outside}
  {reply what reason : Bytes}

/-- The call has failed with this text. -/
def CallState.FailedWith (state : CallState Msg) (reason : Bytes) : Prop :=
  state.controller.failed = true ∧ state.controller.errorText = reason

theorem CallState.failedWith_iff {state : CallState Msg} {controller : XrpcController}
    (left : state.controller = controller.setFailed what) :
    state.FailedWith reason ↔ what = reason := by
  rw [FailedWith, left]
  exact and_iff_right rfl

/-- `reply` is a frame that reports an error with this text. -/
def Reports (codec : XrpcCodec) (reply what : Bytes) : Prop :=
  ∃ (Body : Type) (type : MessageType Body) (header : RpcHeader) (code : Int32) (message : Body),
    codec.encodeResponse type (XrpcServer.errorHeader header code what) message = .ok reply

/-- The text that the client is left with: its own if it cannot read the reply. -/
def receivedText (codec : XrpcCodec) (type : MessageType Msg) (reply what : Bytes)
    (undecoded : String) : Bytes :=
  if (codec.decodeResponse type reply type.create).accepted then what else text undecoded

theorem run_fail (call : ClientCall Msg) (reason : Bytes) (state : CallState Msg) :
    (fail call reason).run state =
      (runDone call.done).run { state with controller := state.controller.setFailed reason } := rfl

theorem run_finish_reported (call : ClientCall Msg) (proto3 : channel.codec.Proto3)
    (reported : Reports channel.codec reply what) (undecoded : String) (state : CallState Msg) :
    ∃ ended : CallState Msg,
      (channel.finish call undecoded reply).run state = (runDone call.done).run ended ∧
      ended.controller = state.controller.setFailed
        (receivedText channel.codec call.responseType reply what undecoded) := by
  obtain ⟨Body, type, header, code, message, encoded⟩ := reported
  obtain ⟨same, -⟩ :=
    channel.codec.decodeResponse_congr call.responseType reply state.response call.responseType.create
  rw [receivedText, ← same]
  cases accepted : (channel.codec.decodeResponse call.responseType reply state.response).accepted with
  | false =>
    rw [run_finish_undecoded undecoded accepted, run_fail]
    exact ⟨_, rfl, rfl⟩
  | true =>
    obtain ⟨argsSize, compressed, read⟩ := XrpcCodec.header_of_accepted proto3 encoded accepted
    have decoded : channel.codec.decodeResponse call.responseType reply state.response =
        ⟨true, { XrpcServer.errorHeader header code what with argsSize, compressed },
          (channel.codec.decodeResponse call.responseType reply state.response).body⟩ := by
      rw [← read, ← accepted]
    refine ⟨_, run_finish undecoded decoded, ?_⟩
    simp [CallState.settle, XrpcServer.errorHeader]

/-- Where the client cannot read the reply, the two paths say so in different words. -/
theorem received_both_iff {codec : XrpcCodec} {type : MessageType Msg} :
    receivedText codec type reply what "Failed to decode response" = reason ∧
        receivedText codec type reply what "Failed to decode async response" = reason ↔
      Reads codec type reply ∧ what = reason := by
  have reads_iff : Reads codec type reply ↔
      (codec.decodeResponse type reply type.create).accepted = true := by
    constructor
    · exact fun reads => reads _
    · intro accepted response
      rw [(codec.decodeResponse_congr type reply response type.create).1]
      exact accepted
  rw [reads_iff]
  unfold receivedText
  cases (codec.decodeResponse type reply type.create).accepted with
  | true => simp
  | false =>
    have different : text "Failed to decode response" ≠ text "Failed to decode async response" := by
      decide +kernel
    constructor
    · rintro ⟨sync, async⟩
      exact absurd (sync.trans async.symm) different
    · rintro ⟨unread, -⟩
      cases unread

/-- A synchronous call that gets this read, however long it waits, ends so. -/
def EndsSync (channel : XrpcChannel) (call : ClientCall Msg) (outside : Outside)
    (start : CallState Msg) (read : Segment) (ended : CallState Msg → Prop) : Prop :=
  ∀ before rest, ∃ final,
    (channel.callMethod call { outside with
      turns := List.replicate before .idle ++ .completed (.received read) :: rest }).run start =
        .ok () final ∧
    ended final

/-- An asynchronous call that gets this read ends so. -/
def EndsAsync (channel : XrpcChannel) (call : ClientCall Msg) (outside : Outside)
    (start : CallState Msg) (read : Segment) (ended : CallState Msg → Prop) : Prop :=
  ∃ sent reading,
    (channel.callMethod call outside).run start = .ok () sent ∧
    sent.pending = some .writing ∧
    (channel.handleClientAsyncWrite call false).run sent = .ok () reading ∧
    reading.pending = some .reading ∧
    ended (stateAfter ((channel.handleClientAsyncRead call (.received read)).run reading))

section Paths
variable {transport connected : AsioClient} {controller : XrpcController} {ip frame : Bytes}
  {port : Int} {read : Segment} (call : ClientCall Msg) (response : Msg) (reason : Bytes)
  (proto3 : channel.codec.Proto3)
  (reported : Reports channel.codec read.1 what)
  (located : XrpcChannel.locate outside = .ok (ip, port))
  (reached : (AsioClient.connect channel.network ip port).run transport = .ok () connected)
  (active : controller.canceled = false)
  (encoded : channel.codec.encode call.requestType (XrpcChannel.header call outside)
    call.request = .ok frame)
include proto3 reported located reached active encoded

theorem endsSync_iff (wrote : outside.writeFails = false) (sync : call.done = none) :
    EndsSync channel call outside { transport, controller, response } read
        (CallState.FailedWith · reason) ↔
      receivedText channel.codec call.responseType read.1 what "Failed to decode response" =
        reason := by
  obtain ⟨ended, finished, left⟩ := run_finish_reported call proto3 reported
    "Failed to decode response"
    { transport := (connected.sending frame).turn (.completed (.received read))
      controller
      response }
  rw [sync] at finished
  have ran (before : Nat) (rest : List Turn) := run_sync call { outside with
      turns := List.replicate before .idle ++ .completed (.received read) :: rest } located
    reached wrote active sync encoded rfl finished
  rw [← CallState.failedWith_iff left]
  constructor
  · intro ends
    obtain ⟨final, again, failed⟩ := ends 0 []
    have equal := (ran 0 []).symm.trans again
    injection equal with _ same
    exact same ▸ failed
  · exact fun failed before rest => ⟨ended, ran before rest, failed⟩

theorem endsAsync_iff (isXrpc : call.isXrpc = true) (async : call.done.isSome = true) :
    EndsAsync channel call outside { transport, controller, response } read
        (CallState.FailedWith · reason) ↔
      receivedText channel.codec call.responseType read.1 what "Failed to decode async response" =
        reason := by
  have ran : (channel.callMethod call outside).run { transport, controller, response } = .ok () _ :=
    run_async located reached active isXrpc async encoded
  obtain ⟨ended, finished, left⟩ := run_finish_reported call proto3 reported
    "Failed to decode async response" { transport := connected.record frame, controller, response }
  have ends : (channel.handleClientAsyncRead call (.received read)).run
      { transport := connected.record frame, controller, response, pending := some .reading } = _ :=
    (run_async_finish active).trans finished
  have kept : (stateAfter ((runDone call.done).run ended)).controller = ended.controller :=
    congrArg Prod.fst (result_runDone call.done ended)
  rw [← kept, ← ends] at left
  rw [← CallState.failedWith_iff left]
  constructor
  · rintro ⟨sent, reading, again, -, wrote, -, failed⟩
    have equal := ran.symm.trans again
    injection equal with _ same
    subst same
    have equal : EStateM.Result.ok () _ = _ := wrote
    injection equal with _ same
    subst same
    exact failed
  · exact fun failed => ⟨_, _, ran, rfl, rfl, rfl, failed⟩

end Paths

end Client

namespace XrpcServer
variable {Msg : Type} {codec : XrpcCodec} {services : List (Service Msg)} {data : Bytes}
  {method : Method Msg} {request : Msg} {what reason : Bytes}

/-- The caller is told the text of `SetFailed`, unless an exception says something
else or `what()` ends early. -/
theorem failureOf_eq_text_iff {did : Behaviour Msg} (failed : did.controller.failed = true)
    (said : did.controller.errorText = reason) :
    failureOf did = some reason ↔
      did.thrown = none ∧ 0 ∉ reason ∨ did.thrown = some reason := by
  cases thrown : did.thrown with
  | some what => simp [failureOf, thrown]
  | none =>
    simp only [failureOf, thrown, failed, said, if_true, Option.some.injEq, true_and, reduceCtorEq,
      or_false]
    constructor
    · intro whole zero
      rw [← whole] at zero
      simpa using List.mem_takeWhile_imp zero
    · exact cString_of_terminated

/-- What `OnMessage` replies with when the method has failed: a frame of its own reply, or if
that is not encoded the last one that it tries. -/
theorem reply_of_failure (generated : Generated codec services)
    (target : Target services (codec.decode data) method request)
    (failure : failureOf (method.call request) = some what) :
    ∃ reply, ((offering codec services).onMessage data).response = .ok reply ∧
      match codec.encodeResponse method.responseType
          (replyHeader (codec.decode data).header (method.call request))
          (method.call request).response with
      | .ok bytes => reply = bytes ∧ Reports codec reply what
      | .error _ => Reads codec method.responseType reply ∧
          Reports codec reply (text "Internal server error") := by
  have same := codec_offering codec services
  have found : ((offering codec services).services.find?
      (codec.decode data).header.serviceName).isSome = true := by
    obtain ⟨service, registered, -⟩ := target.offered
    rw [find?_offering, registered]
    rfl
  have answered : ((offering codec services).answer (codec.decode data).header method
      request).response = _ :=
    response_answer target.active found (by rw [failure]; exact fun none => nomatch none)
  have dispatched := (offering codec services).dispatch_eq data
  rw [same, route_eq_ok_iff.mpr target] at dispatched
  have tries : ((offering codec services).dispatch data).response =
      codec.encodeResponse method.responseType
        (replyHeader (codec.decode data).header (method.call request))
        (method.call request).response := by
    rw [dispatched]
    exact answered.trans (by rw [same])
  cases encoded : codec.encodeResponse method.responseType
      (replyHeader (codec.decode data).header (method.call request))
      (method.call request).response with
  | ok bytes =>
    refine ⟨bytes, by simp [onMessage, tries, encoded], rfl, ?_⟩
    simp only [replyHeader, failure] at encoded
    exact ⟨Msg, _, _, _, _, encoded⟩
  | error thrown =>
    obtain ⟨bytes, replied, reads⟩ := generated.internal_reply
    obtain ⟨service, listed, member⟩ := target.listed
    refine ⟨bytes, by simp [onMessage, tries, encoded, replied],
      reads Msg _ (generated.responseEmpty service listed method member), ?_⟩
    rw [errorReply, same] at replied
    exact ⟨RpcHeader, _, _, _, _, replied⟩

end XrpcServer

/-- The reply to a method that failed with `reason` brings the client this text. -/
def Conveys {Msg : Type} (codec : XrpcCodec) (header : RpcHeader) (method : Method Msg)
    (did : Behaviour Msg) (reason : Bytes) : Prop :=
  match codec.encodeResponse method.responseType (XrpcServer.replyHeader header did)
      did.response with
  | .ok _ => (did.thrown = none ∧ 0 ∉ reason ∨ did.thrown = some reason) ∧
      Legible codec method.responseType (XrpcServer.replyHeader header did) did.response
  | .error _ => reason = text "Internal server error"

section Arrival
variable {Msg : Type}

/-- When this read brings the reply, the call of `method` fails with `reason`, synchronous
or not. -/
def TextArrives (channel : XrpcChannel) (service : Service Msg) (method : Method Msg)
    (request : Msg) (outside : Outside) (start : CallState Msg) (read : Segment)
    (reason : Bytes) : Prop :=
  EndsSync channel (method.calledWith service request none) outside start read
      (CallState.FailedWith · reason) ∧
    ∀ closure, EndsAsync channel (method.calledWith service request (some closure)) outside start
      read (CallState.FailedWith · reason)

variable {channel : XrpcChannel} {services : List (Service Msg)} {service : Service Msg}
  {method : Method Msg} {request response : Msg} {outside : Outside}
  {transport connected : AsioClient} {controller : XrpcController} {read : Segment}
  {ip frame what reason : Bytes} {port : Int}

/-- The text of the reply arrives, and only where the client reads the reply. -/
theorem textArrives_iff_reads (proto3 : channel.codec.Proto3)
    (located : XrpcChannel.locate outside = .ok (ip, port))
    (reached : (AsioClient.connect channel.network ip port).run transport = .ok () connected)
    (wrote : outside.writeFails = false) (active : controller.canceled = false)
    (encoded : channel.codec.encode method.requestType
      (XrpcChannel.header (method.calledWith service request none) outside) request = .ok frame)
    (reported : Reports channel.codec read.1 what) :
    TextArrives channel service method request outside { transport, controller, response } read
        reason ↔
      Reads channel.codec method.responseType read.1 ∧ what = reason := by
  have sync := endsSync_iff (method.calledWith service request none) response reason proto3
    reported located reached active encoded wrote rfl
  have async (closure : Closure) := endsAsync_iff (method.calledWith service request (some closure))
    response reason proto3 reported located reached active encoded rfl rfl
  have both : _ ↔ Reads channel.codec method.responseType read.1 ∧ what = reason :=
    received_both_iff
  constructor
  · rintro ⟨first, second⟩
    exact both.mp ⟨sync.mp first, (async {}).mp (second {})⟩
  · intro arrived
    obtain ⟨first, second⟩ := both.mpr arrived
    exact ⟨sync.mpr first, fun closure => (async closure).mpr second⟩

/-- The text of a method that failed arrives if and only if the reply conveys it, provided
that one read brings the client the whole reply. -/
theorem error_text_arrives_iff (generated : Generated channel.codec services)
    (located : XrpcChannel.locate outside = .ok (ip, port))
    (reached : (AsioClient.connect channel.network ip port).run transport = .ok () connected)
    (wrote : outside.writeFails = false) (active : controller.canceled = false)
    (encoded : channel.codec.encode method.requestType
      (XrpcChannel.header (method.calledWith service request none) outside) request = .ok frame)
    (target : XrpcServer.Target services (channel.codec.decode frame) method request)
    (failed : (method.call request).controller.failed = true)
    (said : (method.call request).controller.errorText = reason)
    (whole : ((XrpcServer.offering channel.codec services).onMessage frame).response =
      .ok read.1) :
    TextArrives channel service method request outside { transport, controller, response } read
        reason ↔
      Conveys channel.codec (channel.codec.decode frame).header method (method.call request)
        reason := by
  have proto3 := generated.toProto3
  cases failure : XrpcServer.failureOf (method.call request) with
  | none =>
    have succeeded := ((XrpcServer.failureOf_eq_none_iff _).mp failure).2
    rw [failed] at succeeded
    cases succeeded
  | some what =>
    obtain ⟨reply, replied, sent⟩ := XrpcServer.reply_of_failure generated target failure
    have same : read.1 = reply := Except.ok.inj (whole.symm.trans replied)
    subst same
    unfold Conveys
    cases made : channel.codec.encodeResponse method.responseType
        (XrpcServer.replyHeader (channel.codec.decode frame).header (method.call request))
        (method.call request).response with
    | ok bytes =>
      rw [made] at sent
      obtain ⟨same, reported⟩ := sent
      rw [← same] at made
      obtain ⟨service, listed, member⟩ := target.listed
      have bounded := generated.responseBounded service listed method member
      have told : what = reason ↔ _ := Option.some_inj.symm.trans
        (failure ▸ XrpcServer.failureOf_eq_text_iff failed said)
      rw [textArrives_iff_reads proto3 located reached wrote active encoded reported,
        ← legible_iff_reads proto3 bounded made, told]
      exact and_comm
    | error thrown =>
      rw [made] at sent
      obtain ⟨reads, reported⟩ := sent
      rw [textArrives_iff_reads proto3 located reached wrote active encoded reported]
      exact (and_iff_right reads).trans eq_comm

end Arrival

section Closing

/-- The headers of a ping whose method fails because something is closed. -/
def closedRows : List (RpcHeader × Bytes) :=
  [({}, []),
    (XrpcServer.errorHeader {} 6 (text "Internal server error"),
      [0x28, 1, 0x42, 25, 0x08, 6, 0x12, 21] ++ text "Internal server error"),
    ({ pingHeader with argsSize := 3 }, pingHeaderStr),
    (failedPing (text "closed"), [0x0a, 0x04] ++ text "Ping" ++ [0x12, 0x02] ++ text "Do" ++
      [0x20, 0x01, 0x28, 0x01, 0x42, 0x0a, 0x08, 0x05, 0x12, 0x06] ++ text "closed")]

def closedChannel : XrpcChannel where
  codec := tableCodec closedRows
  network := twoHosts

def firstHost : Outside := { instances := .ok [text "10.0.0.1:80"], rand := 1 }

theorem closedRows_proto3 : closedChannel.codec.Proto3 :=
  tableCodec_proto3 (by decide) (by decide)

theorem closedRows_generated (reason : Bytes) :
    Generated closedChannel.codec [replyService (some reason)] :=
  tableCodec_generated closedRows_proto3 rfl rfl (some reason)

theorem closedRows_target (reason : Bytes) :
    XrpcServer.Target [replyService (some reason)] (closedChannel.codec.decode ping)
      (replyMethod (some reason)) [7] := by
  have same : closedChannel.codec.decode ping = replyCodec.decode ping := rfl
  rw [same]
  exact replyService_target (some reason)

theorem closedRows_encoded : closedChannel.codec.encode bytesValue pingHeader [7] = .ok ping := rfl

/-- The frame with the text, as it is sent. -/
def closedReply : Bytes :=
  [0x1a, 0x0a, 0x04] ++ text "Ping" ++ [0x12, 0x02] ++ text "Do" ++
    [0x20, 0x01, 0x28, 0x01, 0x42, 0x0a, 0x08, 0x05, 0x12, 0x06] ++ text "closed"

theorem closedRows_told {reason : Bytes} (begins : cString reason = text "closed") :
    XrpcServer.failureOf ((replyMethod (some reason)).call [7]) = some (text "closed") :=
  congrArg some begins

theorem closedRows_made {reason : Bytes} (begins : cString reason = text "closed") :
    closedChannel.codec.encodeResponse (replyMethod (some reason)).responseType
        (XrpcServer.replyHeader (closedChannel.codec.decode ping).header
          ((replyMethod (some reason)).call [7])) ((replyMethod (some reason)).call [7]).response =
      .ok closedReply := by
  have header : XrpcServer.replyHeader (closedChannel.codec.decode ping).header
      ((replyMethod (some reason)).call [7]) =
        XrpcServer.errorHeader (closedChannel.codec.decode ping).header 5 (text "closed") := by
    simp only [XrpcServer.replyHeader, closedRows_told begins]
  have made : closedChannel.codec.encodeResponse bytesValue
      (XrpcServer.errorHeader (closedChannel.codec.decode ping).header 5 (text "closed")) [] =
        .ok closedReply := rfl
  rw [header]
  exact made

/-- The read that brings it. -/
def closedRead : Segment := ⟨closedReply, by decide +kernel⟩

theorem closedRead_whole {reason : Bytes} (begins : cString reason = text "closed") :
    ((XrpcServer.offering closedChannel.codec [replyService (some reason)]).onMessage
        ping).response = .ok closedRead.1 ∧
      Reports closedChannel.codec closedRead.1 (text "closed") := by
  obtain ⟨reply, replied, sent⟩ := XrpcServer.reply_of_failure (closedRows_generated _)
    (closedRows_target _) (closedRows_told begins)
  rw [closedRows_made begins] at sent
  obtain ⟨rfl, reported⟩ := sent
  exact ⟨replied, reported⟩

/-- A text without a zero byte arrives. -/
theorem closed_text_arrives :
    TextArrives closedChannel (replyService (some (text "closed")))
      (replyMethod (some (text "closed"))) [7] firstHost { response := [] } closedRead
      (text "closed") := by
  have located : XrpcChannel.locate firstHost = .ok (text "10.0.0.1", 80) := locate_firstHost rfl
  have active : ({} : XrpcController).canceled = false := rfl
  have said : ((replyMethod (some (text "closed"))).call [7]).controller.errorText =
      text "closed" := rfl
  have begins : cString (text "closed") = text "closed" := rfl
  have serialized : (replyMethod (some (text "closed"))).responseType.serializeToString
      ((replyMethod (some (text "closed"))).call [7]).response = some [] := rfl
  refine (error_text_arrives_iff (closedRows_generated _) located connect_firstHost rfl active
    closedRows_encoded (closedRows_target _) rfl said (closedRead_whole begins).1).mpr ?_
  rw [Conveys, closedRows_made begins]
  refine ⟨.inl ⟨rfl, by decide⟩, ?_⟩
  exact (legible_iff (closedRows_made begins) serialized).mpr (by decide +kernel)

/-- Of this text the client gets what comes before the zero byte. -/
theorem zero_text_cut :
    ¬ ∀ (reason : Bytes) (read : Segment), Utf8 reason →
      ((XrpcServer.offering closedChannel.codec [replyService (some reason)]).onMessage
        ping).response = .ok read.1 →
      TextArrives closedChannel (replyService (some reason)) (replyMethod (some reason)) [7]
        firstHost { response := [] } read reason := by
  intro arrives
  have located : XrpcChannel.locate firstHost = .ok (text "10.0.0.1", 80) := locate_firstHost rfl
  have active : ({} : XrpcController).canceled = false := rfl
  have begins : cString (text "closed" ++ 0 :: text "now") = text "closed" := rfl
  obtain ⟨whole, reported⟩ := closedRead_whole begins
  have arrived := arrives (text "closed" ++ 0 :: text "now") closedRead (by decide +kernel) whole
  obtain ⟨-, same⟩ := (textArrives_iff_reads closedRows_proto3 located
    connect_firstHost rfl active closedRows_encoded reported).mp arrived
  exact absurd same (by decide)

end Closing

end Xrpc
