import Xrpc.Support.Run
import Xrpc.Support.Text

/-! The calls of one channel between their writes and their reads. They share one
connection, on which the server answers in order; each write is taken to be whole, and
each read to bring one whole message. -/

namespace Xrpc

open Support

/-- How far a synchronous `Send` is, which holds the socket's mutex throughout. -/
inductive SendStage where
  | wrote | waiting
  | received (response : Bytes)
  deriving DecidableEq

/-- The connection of a channel. Calls are numbered as they are issued; `wire`
has those whose requests were written, the first `served` of them answered and
the first `consumed` answers read. `handlers` are finished asynchronous writes
whose handler has not run; `outcomes` are the data that ended each call, or
`none` for a failure. -/
structure Exchange where
  issued : Nat := 0
  wire : List Nat := []
  served : Nat := 0
  consumed : Nat := 0
  writing : List Nat := []
  handlers : List Nat := []
  posted : List Nat := []
  sending : Option (Nat × SendStage) := none
  alive : Bool := true
  outcomes : List (Nat × Option Bytes) := []
  deriving DecidableEq

inductive ExchangeEvent where
  /-- `SendAsync`: `async_write` is started. -/
  | sendAsync
  /-- The write of an asynchronous call. -/
  | asyncWrite (call : Nat)
  | asyncWriteFails (call : Nat)
  /-- The handler of that write, which posts the read. -/
  | asyncWriteHandler (call : Nat)
  /-- The write of a synchronous `Send`. -/
  | send
  | sendFails
  /-- `DoClientRead`. -/
  | doClientRead
  | serve
  /-- The oldest read completes with the next response, and its handler runs. -/
  | readCompletes
  | readFails
  /-- The wait loop of `Send` sees the response. -/
  | sendReturns
  deriving DecidableEq

namespace Exchange

/-- `reply call` is the server's answer to the request of `call`. -/
def step (reply : Nat → Bytes) (exchange : Exchange) : ExchangeEvent → Option Exchange
  | .sendAsync =>
    if exchange.sending = none then
      some { exchange with
        issued := exchange.issued + 1
        writing := exchange.writing ++ [exchange.issued] }
    else none
  | .asyncWrite call =>
    if call ∈ exchange.writing then
      some { exchange with
        writing := exchange.writing.erase call
        wire := exchange.wire ++ [call]
        handlers := exchange.handlers ++ [call] }
    else none
  | .asyncWriteFails call =>
    if call ∈ exchange.writing then
      some { exchange with
        writing := exchange.writing.erase call
        outcomes := exchange.outcomes ++ [(call, none)] }
    else none
  | .asyncWriteHandler call =>
    if call ∈ exchange.handlers then
      some { exchange with
        handlers := exchange.handlers.erase call
        posted := exchange.posted ++ [call] }
    else none
  | .send =>
    if exchange.sending = none then
      some { exchange with
        issued := exchange.issued + 1
        wire := exchange.wire ++ [exchange.issued]
        sending := some (exchange.issued, .wrote) }
    else none
  | .sendFails =>
    if exchange.sending = none then
      some { exchange with
        issued := exchange.issued + 1
        outcomes := exchange.outcomes ++ [(exchange.issued, none)] }
    else none
  | .doClientRead =>
    match exchange.sending with
    | some (call, .wrote) =>
      some { exchange with
        posted := exchange.posted ++ [call]
        sending := some (call, .waiting) }
    | _ => none
  | .serve =>
    if exchange.served < exchange.wire.length then
      some { exchange with served := exchange.served + 1 }
    else none
  | .readCompletes =>
    match exchange.posted, exchange.wire[exchange.consumed]? with
    | call :: rest, some answered =>
      if exchange.alive = true ∧ exchange.consumed < exchange.served then
        let next := { exchange with posted := rest, consumed := exchange.consumed + 1 }
        if exchange.sending = some (call, .waiting) then
          some { next with sending := some (call, .received (reply answered)) }
        else some { next with outcomes := exchange.outcomes ++ [(call, some (reply answered))] }
      else none
    | _, _ => none
  | .readFails =>
    match exchange.posted with
    | call :: rest =>
      let next := { exchange with posted := rest, alive := false }
      -- `HandleClientRead` leaves a synchronous call waiting
      if exchange.sending = some (call, .waiting) then some next
      else some { next with outcomes := exchange.outcomes ++ [(call, none)] }
    | [] => none
  | .sendReturns =>
    match exchange.sending with
    | some (call, .received response) =>
      some { exchange with
        sending := none
        outcomes := exchange.outcomes ++ [(call, some response)] }
    | _ => none

/-- The response that a read posted now will get is that of `call`. -/
def NextIs (exchange : Exchange) (call : Nat) : Prop :=
  exchange.wire[exchange.consumed + exchange.posted.length]? = some call

/-- A read is posted only by the call whose response it will get. -/
def InTurn (exchange : Exchange) : ExchangeEvent → Prop
  | .asyncWriteHandler call => exchange.NextIs call
  | .doClientRead =>
    match exchange.sending with
    | some (call, _) => exchange.NextIs call
    | none => True
  | _ => True

instance (exchange : Exchange) (call : Nat) : Decidable (exchange.NextIs call) :=
  inferInstanceAs (Decidable (_ = _))

instance (exchange : Exchange) : ∀ event, Decidable (exchange.InTurn event)
  | .asyncWriteHandler call => inferInstanceAs (Decidable (exchange.NextIs call))
  | .doClientRead =>
    match sending : exchange.sending with
    | some (call, _) => decidable_of_iff (exchange.NextIs call) (by simp [InTurn, sending])
    | none => .isTrue (by simp [InTurn, sending])
  | .sendAsync | .asyncWrite _ | .asyncWriteFails _ | .send | .sendFails | .serve
  | .readCompletes | .readFails | .sendReturns => .isTrue trivial

/-- Posted reads wait for the responses of their own calls, and every response
that was handed out went to the call it belongs to. -/
structure Matched (reply : Nat → Bytes) (exchange : Exchange) : Prop where
  reads : exchange.alive = true → exchange.posted <+: exchange.wire.drop exchange.consumed
  received : ∀ call response, exchange.sending = some (call, .received response) →
    response = reply call
  outcomes : ∀ call response, (call, some response) ∈ exchange.outcomes → response = reply call

variable {reply : Nat → Bytes} {exchange next final : Exchange} {event : ExchangeEvent}

theorem matched_start (reply : Nat → Bytes) : Matched reply {} := by
  constructor
  · intro _
    exact List.nil_prefix
  · intro call response waiting
    cases waiting
  · intro call response ended
    cases ended

theorem prefix_wire {posted wire : List Nat} {consumed : Nat}
    (reads : posted <+: wire.drop consumed) (call : Nat) :
    posted <+: (wire ++ [call]).drop consumed := by
  rw [List.drop_append]
  exact reads.trans (List.prefix_append _ _)

theorem prefix_post {posted wire : List Nat} {consumed call : Nat}
    (reads : posted <+: wire.drop consumed)
    (next : wire[consumed + posted.length]? = some call) :
    posted ++ [call] <+: wire.drop consumed := by
  obtain ⟨later, split⟩ := reads
  rw [← List.getElem?_drop, ← split, List.getElem?_append_right (Nat.le_refl _), Nat.sub_self,
    ← List.head?_eq_getElem?] at next
  obtain ⟨rest, same⟩ := List.head?_eq_some_iff.mp next
  exact ⟨rest, by rw [← split, same, List.append_assoc, List.singleton_append]⟩

/-- A call that ends with its own response, or with none, is an outcome like the others. -/
theorem outcomes_append {outcomes : List (Nat × Option Bytes)} {call : Nat} {result : Option Bytes}
    (earlier : ∀ other response, (other, some response) ∈ outcomes → response = reply other)
    (own : ∀ response, result = some response → response = reply call) :
    ∀ other response, (other, some response) ∈ outcomes ++ [(call, result)] →
      response = reply other := by
  intro other response ended
  rcases List.mem_append.mp ended with before | new
  · exact earlier other response before
  · obtain ⟨same, ends⟩ := Prod.mk.inj (List.mem_singleton.mp new)
    subst other
    exact own response ends.symm

/-- The read that completes is that of the call whose response has come. -/
theorem Matched.answered (matched : Matched reply exchange) (alive : exchange.alive = true)
    {call answered : Nat} {rest : List Nat} (posted : exchange.posted = call :: rest)
    (answer : exchange.wire[exchange.consumed]? = some answered) :
    call = answered ∧ rest <+: exchange.wire.drop (exchange.consumed + 1) := by
  have reads := matched.reads alive
  rw [posted, List.drop_eq_getElem?_toList_append, answer] at reads
  exact List.cons_prefix_cons.mp reads

theorem Matched.step (matched : Matched reply exchange) (inTurn : exchange.InTurn event)
    (taken : step reply exchange event = some next) : Matched reply next := by
  have ⟨reads, received, outcomes⟩ := matched
  cases event with
  | sendAsync =>
    simp only [Exchange.step, Option.ite_none_right_eq_some, Option.some.injEq] at taken
    obtain ⟨_, rfl⟩ := taken
    exact ⟨reads, received, outcomes⟩
  | asyncWrite call =>
    simp only [Exchange.step, Option.ite_none_right_eq_some, Option.some.injEq] at taken
    obtain ⟨_, rfl⟩ := taken
    exact ⟨fun alive => prefix_wire (reads alive) call, received, outcomes⟩
  | asyncWriteFails call =>
    simp only [Exchange.step, Option.ite_none_right_eq_some, Option.some.injEq] at taken
    obtain ⟨_, rfl⟩ := taken
    exact ⟨reads, received, outcomes_append outcomes fun response none => nomatch none⟩
  | asyncWriteHandler call =>
    simp only [Exchange.step, Option.ite_none_right_eq_some, Option.some.injEq] at taken
    obtain ⟨_, rfl⟩ := taken
    exact ⟨fun alive => prefix_post (reads alive) inTurn, received, outcomes⟩
  | send =>
    simp only [Exchange.step, Option.ite_none_right_eq_some, Option.some.injEq] at taken
    obtain ⟨_, rfl⟩ := taken
    refine ⟨fun alive => prefix_wire (reads alive) _, ?_, outcomes⟩
    intro other response waiting
    simp at waiting
  | sendFails =>
    simp only [Exchange.step, Option.ite_none_right_eq_some, Option.some.injEq] at taken
    obtain ⟨_, rfl⟩ := taken
    exact ⟨reads, received, outcomes_append outcomes fun response none => nomatch none⟩
  | doClientRead =>
    simp only [Exchange.step] at taken
    split at taken
    · rename_i call sending
      cases taken
      simp only [InTurn, sending] at inTurn
      refine ⟨fun alive => prefix_post (reads alive) inTurn, ?_, outcomes⟩
      intro other response waiting
      simp at waiting
    · cases taken
  | serve =>
    simp only [Exchange.step, Option.ite_none_right_eq_some, Option.some.injEq] at taken
    obtain ⟨_, rfl⟩ := taken
    exact ⟨reads, received, outcomes⟩
  | readCompletes =>
    simp only [Exchange.step] at taken
    split at taken
    · rename_i call rest answered posted answer
      simp only [Option.ite_none_right_eq_some] at taken
      obtain ⟨⟨alive, _⟩, taken⟩ := taken
      obtain ⟨same, later⟩ := matched.answered alive posted answer
      subst answered
      split at taken
      · cases taken
        refine ⟨fun _ => later, ?_, outcomes⟩
        intro other response waiting
        cases waiting
        rfl
      · cases taken
        refine ⟨fun _ => later, received, outcomes_append outcomes ?_⟩
        intro response own
        exact (Option.some.inj own).symm
    · cases taken
  | readFails =>
    simp only [Exchange.step] at taken
    split at taken
    · split at taken
      · cases taken
        exact ⟨fun alive => absurd alive Bool.false_ne_true, received, outcomes⟩
      · cases taken
        exact ⟨fun alive => absurd alive Bool.false_ne_true, received,
          outcomes_append outcomes fun response none => nomatch none⟩
    · cases taken
  | sendReturns =>
    simp only [Exchange.step] at taken
    split at taken
    · rename_i call response sending
      cases taken
      refine ⟨reads, ?_, outcomes_append outcomes ?_⟩
      · intro other response waiting
        cases waiting
      · intro result own
        rw [Option.some.injEq] at own
        exact received call result (own ▸ sending)
    · cases taken

/-- While every read is posted in turn, no response goes astray. -/
theorem matched_run {events : List ExchangeEvent} (inTurn : Along (step reply) InTurn {} events)
    (reached : run (step reply) {} events = some final) : Matched reply final :=
  run_preserves (fun _ _ _ matched inTurn taken => matched.step inTurn taken)
    (matched_start reply) inTurn reached

end Exchange

end Xrpc
