import Mathlib.Algebra.Order.Group.Multiset
import Mathlib.Data.Multiset.Range
import Mathlib.Tactic.Abel
import Xrpc.Transport.Exchange

/-! What becomes of the calls of a channel and of the server's responses: neither is
lost and neither is used twice, whatever order the connection takes its steps in. -/

namespace Xrpc

open Support

namespace Exchange

/-- What a step does. -/
inductive Transition (reply : Nat → Bytes) (exchange : Exchange) : ExchangeEvent → Exchange → Prop
  | sendAsync (free : exchange.sending = none) :
    Transition reply exchange .sendAsync { exchange with
      issued := exchange.issued + 1
      writing := exchange.writing ++ [exchange.issued] }
  | asyncWrite {call : Nat} (started : call ∈ exchange.writing) :
    Transition reply exchange (.asyncWrite call) { exchange with
      writing := exchange.writing.erase call
      wire := exchange.wire ++ [call]
      handlers := exchange.handlers ++ [call] }
  | asyncWriteFails {call : Nat} (started : call ∈ exchange.writing) :
    Transition reply exchange (.asyncWriteFails call) { exchange with
      writing := exchange.writing.erase call
      outcomes := exchange.outcomes ++ [(call, none)] }
  | asyncWriteHandler {call : Nat} (written : call ∈ exchange.handlers) :
    Transition reply exchange (.asyncWriteHandler call) { exchange with
      handlers := exchange.handlers.erase call
      posted := exchange.posted ++ [call] }
  | send (free : exchange.sending = none) :
    Transition reply exchange .send { exchange with
      issued := exchange.issued + 1
      wire := exchange.wire ++ [exchange.issued]
      sending := some (exchange.issued, .wrote) }
  | sendFails (free : exchange.sending = none) :
    Transition reply exchange .sendFails { exchange with
      issued := exchange.issued + 1
      outcomes := exchange.outcomes ++ [(exchange.issued, none)] }
  | doClientRead {call : Nat} (wrote : exchange.sending = some (call, .wrote)) :
    Transition reply exchange .doClientRead { exchange with
      posted := exchange.posted ++ [call]
      sending := some (call, .waiting) }
  | serve (request : exchange.served < exchange.wire.length) :
    Transition reply exchange .serve { exchange with served := exchange.served + 1 }
  | readOwn {call answered : Nat} {rest : List Nat} (alive : exchange.alive = true)
      (posted : exchange.posted = call :: rest)
      (answer : exchange.wire[exchange.consumed]? = some answered)
      (ready : exchange.consumed < exchange.served)
      (waiting : exchange.sending = some (call, .waiting)) :
    Transition reply exchange .readCompletes { exchange with
      posted := rest
      consumed := exchange.consumed + 1
      sending := some (call, .received (reply answered)) }
  | readOther {call answered : Nat} {rest : List Nat} (alive : exchange.alive = true)
      (posted : exchange.posted = call :: rest)
      (answer : exchange.wire[exchange.consumed]? = some answered)
      (ready : exchange.consumed < exchange.served)
      (other : exchange.sending ≠ some (call, .waiting)) :
    Transition reply exchange .readCompletes { exchange with
      posted := rest
      consumed := exchange.consumed + 1
      outcomes := exchange.outcomes ++ [(call, some (reply answered))] }
  | failOwn {call : Nat} {rest : List Nat} (posted : exchange.posted = call :: rest)
      (waiting : exchange.sending = some (call, .waiting)) :
    Transition reply exchange .readFails { exchange with posted := rest, alive := false }
  | failOther {call : Nat} {rest : List Nat} (posted : exchange.posted = call :: rest)
      (other : exchange.sending ≠ some (call, .waiting)) :
    Transition reply exchange .readFails { exchange with
      posted := rest
      alive := false
      outcomes := exchange.outcomes ++ [(call, none)] }
  | sendReturns {call : Nat} {response : Bytes}
      (received : exchange.sending = some (call, .received response)) :
    Transition reply exchange .sendReturns { exchange with
      sending := none
      outcomes := exchange.outcomes ++ [(call, some response)] }

variable {reply : Nat → Bytes} {exchange next final : Exchange} {event : ExchangeEvent}

theorem transition_of_step (taken : step reply exchange event = some next) :
    Transition reply exchange event next := by
  cases event with
  | sendAsync =>
    simp only [step, Option.ite_none_right_eq_some, Option.some.injEq] at taken
    obtain ⟨free, rfl⟩ := taken
    exact .sendAsync free
  | asyncWrite call =>
    simp only [step, Option.ite_none_right_eq_some, Option.some.injEq] at taken
    obtain ⟨started, rfl⟩ := taken
    exact .asyncWrite started
  | asyncWriteFails call =>
    simp only [step, Option.ite_none_right_eq_some, Option.some.injEq] at taken
    obtain ⟨started, rfl⟩ := taken
    exact .asyncWriteFails started
  | asyncWriteHandler call =>
    simp only [step, Option.ite_none_right_eq_some, Option.some.injEq] at taken
    obtain ⟨written, rfl⟩ := taken
    exact .asyncWriteHandler written
  | send =>
    simp only [step, Option.ite_none_right_eq_some, Option.some.injEq] at taken
    obtain ⟨free, rfl⟩ := taken
    exact .send free
  | sendFails =>
    simp only [step, Option.ite_none_right_eq_some, Option.some.injEq] at taken
    obtain ⟨free, rfl⟩ := taken
    exact .sendFails free
  | doClientRead =>
    simp only [step] at taken
    split at taken
    · rename_i call wrote
      cases taken
      exact .doClientRead wrote
    · cases taken
  | serve =>
    simp only [step, Option.ite_none_right_eq_some, Option.some.injEq] at taken
    obtain ⟨request, rfl⟩ := taken
    exact .serve request
  | readCompletes =>
    simp only [step] at taken
    split at taken
    · rename_i call rest answered posted answer
      simp only [Option.ite_none_right_eq_some] at taken
      obtain ⟨⟨alive, ready⟩, taken⟩ := taken
      split at taken
      · rename_i waiting
        cases taken
        exact .readOwn alive posted answer ready waiting
      · rename_i other
        cases taken
        exact .readOther alive posted answer ready other
    · cases taken
  | readFails =>
    simp only [step] at taken
    split at taken
    · rename_i call rest posted
      split at taken
      · rename_i waiting
        cases taken
        exact .failOwn posted waiting
      · rename_i other
        cases taken
        exact .failOther posted other
    · cases taken
  | sendReturns =>
    simp only [step] at taken
    split at taken
    · rename_i call response received
      cases taken
      exact .sendReturns received
    · cases taken

/-- The synchronous call, where no read waits for its response. -/
def unread : Option (Nat × SendStage) → List Nat → List Nat
  | none, _ => []
  | some (call, .waiting), posted => if call ∈ posted then [] else [call]
  | some (call, _), _ => [call]

/-- The calls, each as often as it is under way or has ended. -/
def calls (exchange : Exchange) : Multiset Nat :=
  (↑exchange.writing : Multiset Nat) + ↑exchange.handlers + ↑exchange.posted +
    ↑(unread exchange.sending exchange.posted) + ↑(exchange.outcomes.map Prod.fst)

/-- The responses handed out, and to whom. -/
def handed (exchange : Exchange) : List (Nat × Bytes) :=
  exchange.outcomes.filterMap (fun outcome => outcome.2.map (outcome.1, ·)) ++
    match exchange.sending with
    | some (call, .received response) => [(call, response)]
    | _ => []

/-- Nothing is left to do on the connection but to wait. -/
structure Quiet (exchange : Exchange) : Prop where
  writing : exchange.writing = []
  handlers : exchange.handlers = []
  posted : exchange.posted = []
  sending : ∀ call stage, exchange.sending = some (call, stage) → stage = .waiting

/-- Every call is in one place, a request is on the wire only once, every response read has
been handed out, and the synchronous call waits for a read. -/
structure Balanced (reply : Nat → Bytes) (exchange : Exchange) : Prop where
  conserved : exchange.calls = Multiset.range exchange.issued
  requests : (↑exchange.wire : Multiset Nat) + ↑exchange.writing ≤ Multiset.range exchange.issued
  responses : (exchange.handed.map Prod.snd).Perm ((exchange.wire.take exchange.consumed).map reply)
  served : exchange.consumed ≤ exchange.served ∧ exchange.served ≤ exchange.wire.length
  waits : exchange.alive = true → ∀ call, exchange.sending = some (call, .waiting) →
    call ∈ exchange.posted

theorem Balanced.start (reply : Nat → Bytes) : Balanced reply {} := by
  refine ⟨rfl, ?_, .nil, ?_, ?_⟩
  · exact le_refl _
  · exact ⟨Nat.le_refl _, Nat.le_refl _⟩
  · intro _ call waiting
    cases waiting

theorem Balanced.nodup (balanced : exchange.Balanced reply) : exchange.calls.Nodup :=
  balanced.conserved ▸ Multiset.nodup_range _

theorem coe_erase {list : List Nat} {call : Nat} (member : call ∈ list) :
    (↑list : Multiset Nat) = ↑(list.erase call) + {call} := by
  rw [add_comm, Multiset.singleton_add, Multiset.cons_coe, Multiset.coe_eq_coe]
  exact List.perm_cons_erase member

theorem coe_append_singleton (list : List Nat) (call : Nat) :
    (↑(list ++ [call]) : Multiset Nat) = ↑list + {call} := by
  rw [← Multiset.coe_add, Multiset.coe_singleton]

theorem coe_cons (call : Nat) (list : List Nat) :
    (↑(call :: list) : Multiset Nat) = {call} + ↑list := by
  rw [← Multiset.cons_coe, Multiset.singleton_add]

theorem range_issued (issued : Nat) :
    Multiset.range (issued + 1) = Multiset.range issued + {issued} := by
  rw [Multiset.range_succ, add_comm, Multiset.singleton_add]

theorem Balanced.places_nodup (balanced : exchange.Balanced reply) :
    (exchange.handlers ++ (exchange.posted ++ unread exchange.sending exchange.posted)).Nodup := by
  have nodup : exchange.calls.Nodup := balanced.conserved ▸ Multiset.nodup_range exchange.issued
  have split : exchange.calls =
      ↑(exchange.handlers ++ (exchange.posted ++ unread exchange.sending exchange.posted)) +
        (↑exchange.writing + ↑(exchange.outcomes.map Prod.fst)) := by
    rw [calls, ← Multiset.coe_add, ← Multiset.coe_add]
    abel
  rw [split] at nodup
  exact (Multiset.nodup_add.mp nodup).1

/-- A finished write has no read yet, so it is not that of the call that waits for one. -/
theorem Balanced.handler_apart (balanced : exchange.Balanced reply) {call : Nat}
    (written : call ∈ exchange.handlers) : exchange.sending ≠ some (call, .waiting) := by
  intro waiting
  have elsewhere : call ∈ exchange.posted ++ unread exchange.sending exchange.posted := by
    rw [waiting, unread]
    by_cases read : call ∈ exchange.posted <;> simp [read]
  exact (List.nodup_append.mp balanced.places_nodup).2.2 call written call elsewhere rfl

theorem Balanced.read_once (balanced : exchange.Balanced reply) {call : Nat} {rest : List Nat}
    (posted : exchange.posted = call :: rest) : call ∉ rest := by
  have nodup := (List.nodup_append.mp (List.nodup_append.mp balanced.places_nodup).2.1).1
  rw [posted] at nodup
  exact (List.nodup_cons.mp nodup).1

/-- A read of another call is no concern of the synchronous one. -/
theorem unread_other {sending : Option (Nat × SendStage)} {call : Nat} {before after : List Nat}
    (apart : sending ≠ some (call, .waiting))
    (others : ∀ other, other ≠ call → (other ∈ after ↔ other ∈ before)) :
    unread sending after = unread sending before := by
  rcases sending with - | ⟨sender, stage⟩
  · rfl
  · cases stage with
    | waiting =>
      have different : sender ≠ call := by
        rintro rfl
        exact apart rfl
      simp only [unread, others sender different]
    | _ => rfl

theorem unread_append {sending : Option (Nat × SendStage)} {call : Nat}
    (apart : sending ≠ some (call, .waiting)) (posted : List Nat) :
    unread sending (posted ++ [call]) = unread sending posted :=
  unread_other apart fun other different => by simp [different]

theorem unread_cons {sending : Option (Nat × SendStage)} {call : Nat}
    (apart : sending ≠ some (call, .waiting)) (rest : List Nat) :
    unread sending (call :: rest) = unread sending rest :=
  unread_other apart fun other different => by simp [different]

theorem Balanced.calls_step (balanced : exchange.Balanced reply)
    (transition : Transition reply exchange event next) :
    next.calls = Multiset.range next.issued := by
  have same := balanced.conserved
  rw [calls] at same ⊢
  cases transition with
  | sendAsync free =>
    rw [range_issued, ← same, coe_append_singleton]
    abel
  | asyncWrite started =>
    rw [← same, coe_append_singleton, coe_erase started]
    abel
  | asyncWriteFails started =>
    rw [← same, coe_erase started, List.map_append, List.map_singleton, coe_append_singleton]
    abel
  | asyncWriteHandler written =>
    rw [← same, unread_append (balanced.handler_apart written), coe_append_singleton,
      coe_erase written]
    abel
  | send free =>
    rw [range_issued, ← same, free]
    simp only [unread, Multiset.coe_singleton, Multiset.coe_nil]
    abel
  | sendFails free =>
    rw [range_issued, ← same, List.map_append, List.map_singleton, coe_append_singleton]
    abel
  | doClientRead wrote =>
    rw [← same, wrote, coe_append_singleton]
    simp only [unread, List.mem_append, List.mem_singleton, or_true, if_true,
      Multiset.coe_singleton, Multiset.coe_nil]
    abel
  | serve request => exact same
  | readOwn alive posted answer ready waiting =>
    rw [← same, waiting, posted, coe_cons]
    simp only [unread, List.mem_cons, true_or, if_true, Multiset.coe_singleton, Multiset.coe_nil]
    abel
  | readOther alive posted answer ready other =>
    rw [← same, posted, unread_cons other, coe_cons, List.map_append, List.map_singleton,
      coe_append_singleton]
    abel
  | failOwn posted waiting =>
    rw [← same, waiting, posted, coe_cons]
    simp only [unread, balanced.read_once posted, List.mem_cons, true_or, if_true, if_false,
      Multiset.coe_singleton, Multiset.coe_nil]
    abel
  | failOther posted other =>
    rw [← same, posted, unread_cons other, coe_cons, List.map_append, List.map_singleton,
      coe_append_singleton]
    abel
  | sendReturns received =>
    rw [← same, received, List.map_append, List.map_singleton, coe_append_singleton]
    simp only [unread, Multiset.coe_singleton, Multiset.coe_nil]
    abel

theorem Balanced.requests_step (balanced : exchange.Balanced reply)
    (transition : Transition reply exchange event next) :
    (↑next.wire : Multiset Nat) + ↑next.writing ≤ Multiset.range next.issued := by
  have below := balanced.requests
  cases transition with
  | sendAsync free =>
    rw [range_issued, coe_append_singleton, ← add_assoc]
    exact add_le_add_left below _
  | asyncWrite started =>
    rw [coe_erase started] at below
    rw [coe_append_singleton]
    refine le_trans (le_of_eq ?_) below
    abel
  | asyncWriteFails started =>
    rw [coe_erase started, ← add_assoc] at below
    exact le_trans (Multiset.le_add_right _ _) below
  | send free =>
    rw [range_issued, coe_append_singleton, add_right_comm]
    exact add_le_add_left below _
  | sendFails free =>
    rw [range_issued]
    exact le_trans below (Multiset.le_add_right _ _)
  | _ => exact below

/-- A step hands out the next response to the oldest read, or leaves both the answers and
the responses read as they are. -/
theorem handed_step (within : exchange.consumed ≤ exchange.wire.length)
    (transition : Transition reply exchange event next) :
    (next.handed.Perm exchange.handed ∧
      next.wire.take next.consumed = exchange.wire.take exchange.consumed) ∨
    ∃ call rest answered, exchange.alive = true ∧ exchange.posted = call :: rest ∧
      exchange.wire[exchange.consumed]? = some answered ∧
      next.handed.Perm (exchange.handed ++ [(call, reply answered)]) ∧
      next.wire.take next.consumed = exchange.wire.take exchange.consumed ++ [answered] := by
  cases transition with
  | asyncWrite started =>
    exact .inl ⟨.refl _, List.take_append_of_le_length within⟩
  | send free =>
    refine .inl ⟨?_, List.take_append_of_le_length within⟩
    simp [handed, free]
  | asyncWriteFails started => exact .inl ⟨by simp [handed], rfl⟩
  | sendFails free => exact .inl ⟨by simp [handed], rfl⟩
  | doClientRead wrote => exact .inl ⟨by simp [handed, wrote], rfl⟩
  | readOwn alive posted answer ready waiting =>
    refine .inr ⟨_, _, _, alive, posted, answer, ?_, ?_⟩
    · simp [handed, waiting]
    · rw [List.take_add_one, answer, Option.toList_some]
  | readOther alive posted answer ready other =>
    refine .inr ⟨_, _, _, alive, posted, answer, ?_, ?_⟩
    · rw [handed, handed, List.filterMap_append, List.append_assoc, List.append_assoc]
      exact List.perm_append_comm.append_left _
    · rw [List.take_add_one, answer, Option.toList_some]
  | failOther posted other => exact .inl ⟨by simp [handed], rfl⟩
  | sendReturns received => exact .inl ⟨by simp [handed, received], rfl⟩
  | _ => exact .inl ⟨.refl _, rfl⟩

theorem Balanced.waits_step (balanced : exchange.Balanced reply)
    (transition : Transition reply exchange event next) (alive : next.alive = true) {call : Nat}
    (waiting : next.sending = some (call, .waiting)) : call ∈ next.posted := by
  cases transition with
  | asyncWriteHandler written => exact List.mem_append_left _ (balanced.waits alive call waiting)
  | doClientRead wrote =>
    cases waiting
    exact List.mem_append_right _ (List.mem_singleton.mpr rfl)
  | readOther _ posted answer ready other =>
    have read := balanced.waits alive call waiting
    rw [posted, List.mem_cons] at read
    exact read.resolve_left fun same => other (same ▸ waiting)
  | failOwn => cases alive
  | failOther => cases alive
  | send | readOwn | sendReturns => cases waiting
  | _ => exact balanced.waits alive call waiting

theorem Balanced.step (balanced : exchange.Balanced reply)
    (taken : step reply exchange event = some next) : next.Balanced reply := by
  have transition := transition_of_step taken
  have ⟨consumed, served⟩ := balanced.served
  refine ⟨balanced.calls_step transition, balanced.requests_step transition, ?_, ?_,
    fun alive call waiting => balanced.waits_step transition alive waiting⟩
  · rcases handed_step (le_trans consumed served) transition with
      ⟨kept, same⟩ | ⟨call, rest, answered, -, -, -, more, later⟩
    · rw [same]
      exact (kept.map Prod.snd).trans balanced.responses
    · rw [later, List.map_append]
      refine (more.map Prod.snd).trans ?_
      rw [List.map_append]
      exact balanced.responses.append_right _
  · cases transition with
    | asyncWrite | send =>
      dsimp only
      rw [List.length_append]
      omega
    | serve request => exact ⟨Nat.le_succ_of_le consumed, request⟩
    | readOwn alive posted answer ready waiting => exact ⟨ready, served⟩
    | readOther alive posted answer ready other => exact ⟨ready, served⟩
    | _ => exact ⟨consumed, served⟩

theorem balanced_run {events : List ExchangeEvent}
    (reached : run (Exchange.step reply) {} events = some final) : final.Balanced reply :=
  run_invariant (fun _ _ _ balanced taken => balanced.step taken) (Balanced.start reply) reached

theorem Balanced.wire_le (balanced : exchange.Balanced reply) :
    (↑exchange.wire : Multiset Nat) ≤ Multiset.range exchange.issued :=
  le_trans (Multiset.le_add_right _ _) balanced.requests

theorem Balanced.wire_nodup (balanced : exchange.Balanced reply) : exchange.wire.Nodup :=
  Multiset.coe_nodup.mp (Multiset.nodup_of_le balanced.wire_le (Multiset.nodup_range _))

theorem Balanced.issued_of_wire (balanced : exchange.Balanced reply) {call : Nat}
    (written : call ∈ exchange.wire) : call < exchange.issued :=
  Multiset.mem_range.mp (Multiset.mem_of_le balanced.wire_le (Multiset.mem_coe.mpr written))

/-- No call ends twice and no request is sent twice, each response read is handed out
once, and what no longer moves has ended, but for a synchronous call whose read failed. -/
theorem calls_conserved {events : List ExchangeEvent}
    (reached : run (Exchange.step reply) {} events = some final) :
    (final.outcomes.map Prod.fst).Nodup ∧ final.wire.Nodup ∧
      (final.handed.map Prod.snd).Perm ((final.wire.take final.consumed).map reply) ∧
      (∀ call, call ∈ final.outcomes.map Prod.fst ∨ call ∈ final.wire → call < final.issued) ∧
      (final.Quiet → ∀ call < final.issued, call ∈ final.outcomes.map Prod.fst ∨
        final.sending = some (call, .waiting) ∧ final.alive = false) := by
  have balanced := balanced_run reached
  have nodup : final.calls.Nodup := balanced.conserved ▸ Multiset.nodup_range final.issued
  refine ⟨?_, balanced.wire_nodup, balanced.responses, ?_, ?_⟩
  · exact Multiset.coe_nodup.mp (Multiset.nodup_add.mp nodup).2.1
  · rintro call (ended | written)
    · have member : call ∈ final.calls := Multiset.mem_add.mpr (.inr (Multiset.mem_coe.mpr ended))
      rw [balanced.conserved] at member
      exact Multiset.mem_range.mp member
    · exact balanced.issued_of_wire written
  · intro quiet call issued
    have member : call ∈ final.calls := by
      rw [balanced.conserved]
      exact Multiset.mem_range.mpr issued
    rw [calls, quiet.writing, quiet.handlers, quiet.posted] at member
    rcases Multiset.mem_add.mp member with sending | ended
    · right
      cases sender : final.sending with
      | none => simp [sender, unread] at sending
      | some sender' =>
        obtain ⟨other, stage⟩ := sender'
        cases quiet.sending other stage sender
        simp only [sender, unread, List.not_mem_nil, if_false] at sending
        have same : call = other := by simpa using sending
        subst same
        refine ⟨rfl, Bool.eq_false_iff.mpr fun alive => ?_⟩
        have read := balanced.waits alive call sender
        rw [quiet.posted] at read
        cases read
    · exact .inl (Multiset.mem_coe.mp ended)

/-- The read of the second call fails, so that call waits for ever. -/
def failedRead : List ExchangeEvent :=
  [.sendAsync, .asyncWrite 0, .asyncWriteHandler 0, .serve, .readCompletes, .send, .doClientRead,
    .readFails]

def digit (call : Nat) : Bytes := [call.toUInt8]

theorem failed_read_conserved : ∃ final,
    run (Exchange.step digit) {} failedRead = some final ∧
      (final.outcomes.map Prod.fst).Nodup ∧ ∀ call < final.issued,
        call ∈ final.outcomes.map Prod.fst ∨
          final.sending = some (call, .waiting) ∧ final.alive = false := by
  have reached : run (Exchange.step digit) {} failedRead = some {
      issued := 2, wire := [0, 1], served := 1, consumed := 1, sending := some (1, .waiting),
      alive := false, outcomes := [(0, some (digit 0))] } := rfl
  obtain ⟨once, -, -, -, ended⟩ := calls_conserved reached
  refine ⟨_, reached, once, ended ⟨rfl, rfl, rfl, ?_⟩⟩
  intro call stage sending
  cases sending
  rfl

/-- The synchronous call whose request is written and whose read is not yet posted. -/
def unposted : Option (Nat × SendStage) → List Nat
  | some (call, .wrote) => [call]
  | _ => []

theorem mem_unposted {sending : Option (Nat × SendStage)} {call : Nat} :
    call ∈ unposted sending ↔ sending = some (call, .wrote) := by
  rcases sending with - | ⟨sender, - | - | response⟩ <;> simp [unposted, eq_comm]

/-- While no read has failed and all are posted in turn, the requests on the wire are those
that have been answered, those that are read for and those whose reads are still to come. -/
structure Paired (reply : Nat → Bytes) (exchange : Exchange) : Prop where
  balanced : exchange.Balanced reply
  matched : Matched reply exchange
  handed : exchange.handed.Perm
    ((exchange.wire.take exchange.consumed).map fun call => (call, reply call))
  coming : exchange.alive = true →
    (↑(exchange.wire.drop (exchange.consumed + exchange.posted.length)) : Multiset Nat) =
      ↑exchange.handlers + ↑(unposted exchange.sending)

theorem Paired.start (reply : Nat → Bytes) : Paired reply {} :=
  ⟨Balanced.start reply, matched_start reply, .nil, fun _ => rfl⟩

theorem Paired.within (paired : exchange.Paired reply) (alive : exchange.alive = true) :
    exchange.consumed + exchange.posted.length ≤ exchange.wire.length := by
  have reads := (paired.matched.reads alive).length_le
  have served := paired.balanced.served
  rw [List.length_drop] at reads
  omega

/-- The read that is posted in turn is for the next request that has none. -/
theorem Paired.upcoming (paired : exchange.Paired reply) (alive : exchange.alive = true) {call : Nat}
    (turn : exchange.NextIs call) :
    (↑(exchange.wire.drop (exchange.consumed + (exchange.posted ++ [call]).length)) : Multiset Nat) +
      {call} = ↑exchange.handlers + ↑(unposted exchange.sending) := by
  have split : exchange.wire.drop (exchange.consumed + exchange.posted.length) =
      call :: exchange.wire.drop (exchange.consumed + (exchange.posted ++ [call]).length) := by
    rw [List.drop_eq_getElem?_toList_append, turn, List.length_append]
    rfl
  rw [← paired.coming alive, split, coe_cons, add_comm]

theorem Paired.coming_step (paired : exchange.Paired reply) (inTurn : exchange.InTurn event)
    (transition : Transition reply exchange event next) (alive : next.alive = true) :
    (↑(next.wire.drop (next.consumed + next.posted.length)) : Multiset Nat) =
      ↑next.handlers + ↑(unposted next.sending) := by
  cases transition with
  | asyncWrite started =>
    rw [List.drop_append_of_le_length (paired.within alive), coe_append_singleton,
      coe_append_singleton, paired.coming alive]
    abel
  | asyncWriteHandler written =>
    have upcoming := paired.upcoming alive inTurn
    rw [coe_erase written, add_right_comm] at upcoming
    exact add_right_cancel upcoming
  | send free =>
    have coming := paired.coming alive
    rw [free] at coming
    rw [List.drop_append_of_le_length (paired.within alive), coe_append_singleton, coming]
    simp [unposted]
  | doClientRead wrote =>
    rw [InTurn, wrote] at inTurn
    have upcoming := paired.upcoming alive inTurn
    rw [wrote, unposted, Multiset.coe_singleton] at upcoming
    exact (add_right_cancel upcoming).trans (add_zero _).symm
  | readOwn _ posted answer ready waiting =>
    have coming := paired.coming alive
    rw [posted, waiting, List.length_cons, Nat.add_comm _ 1, ← Nat.add_assoc] at coming
    exact coming
  | readOther _ posted answer ready other =>
    have coming := paired.coming alive
    rw [posted, List.length_cons, Nat.add_comm _ 1, ← Nat.add_assoc] at coming
    exact coming
  | failOwn => cases alive
  | failOther => cases alive
  | sendReturns received =>
    have coming := paired.coming alive
    rw [received] at coming
    exact coming
  | _ => exact paired.coming alive

theorem Paired.step (paired : exchange.Paired reply) (inTurn : exchange.InTurn event)
    (taken : step reply exchange event = some next) : next.Paired reply := by
  have transition := transition_of_step taken
  have within := le_trans paired.balanced.served.1 paired.balanced.served.2
  refine ⟨paired.balanced.step taken, paired.matched.step inTurn taken, ?_,
    paired.coming_step inTurn transition⟩
  rcases handed_step within transition with
    ⟨kept, same⟩ | ⟨call, rest, answered, alive, posted, answer, more, later⟩
  · rw [same]
    exact kept.trans paired.handed
  · obtain ⟨rfl, -⟩ := paired.matched.answered alive posted answer
    rw [later, List.map_append]
    exact more.trans (paired.handed.append_right _)

theorem paired_run {events : List ExchangeEvent}
    (inTurn : Along (Exchange.step reply) InTurn {} events)
    (reached : run (Exchange.step reply) {} events = some final) : final.Paired reply :=
  run_preserves (fun _ _ _ paired inTurn taken => paired.step inTurn taken) (Paired.start reply)
    inTurn reached

/-- While reads are posted in turn, the calls that have been answered are those of the first
responses, each with its own. -/
theorem answered_in_turn {events : List ExchangeEvent}
    (inTurn : Along (Exchange.step reply) InTurn {} events)
    (reached : run (Exchange.step reply) {} events = some final) :
    final.handed.Perm ((final.wire.take final.consumed).map fun call => (call, reply call)) :=
  (paired_run inTurn reached).handed

/-- Two asynchronous calls and a synchronous one. The second is written and answered first,
and the first has not been written yet. -/
def mixedCalls : List ExchangeEvent :=
  [.sendAsync, .sendAsync, .asyncWrite 1, .send, .asyncWriteHandler 1, .doClientRead, .serve,
    .readCompletes]

theorem mixedCalls_reached : run (Exchange.step digit) {} mixedCalls = some {
    issued := 3, wire := [1, 2], served := 1, consumed := 1, writing := [0], posted := [2],
    sending := some (2, .waiting), outcomes := [(1, some (digit 1))] } := rfl

theorem mixedCalls_inTurn : Along (Exchange.step digit) InTurn {} mixedCalls := by
  decide

theorem mixed_calls_answered : ∃ final, run (Exchange.step digit) {} mixedCalls = some final ∧
    final.handed.Perm ((final.wire.take final.consumed).map fun call => (call, digit call)) :=
  ⟨_, mixedCalls_reached, answered_in_turn mixedCalls_inTurn mixedCalls_reached⟩

/-- Neither a new call nor a failure. -/
def Proceeds : ExchangeEvent → Prop
  | .asyncWrite _ | .asyncWriteHandler _ | .doClientRead | .serve | .readCompletes
  | .sendReturns => True
  | .sendAsync | .asyncWriteFails _ | .send | .sendFails | .readFails => False

/-- How many steps the synchronous call is from its end, but for the read it waits for. -/
def weight : Option (Nat × SendStage) → Nat
  | some (_, .wrote) => 3
  | some (_, .received _) => 1
  | some (_, .waiting) | none => 0

def distance (exchange : Exchange) : Nat :=
  5 * exchange.writing.length + 3 * exchange.handlers.length + 2 * exchange.posted.length +
    (exchange.wire.length - exchange.served) + weight exchange.sending

theorem Balanced.distance_lt (balanced : exchange.Balanced reply) (proceeds : Proceeds event)
    (transition : Transition reply exchange event next) : next.distance < exchange.distance := by
  have served := balanced.served.2
  rw [distance, distance]
  cases transition with
  | asyncWrite started =>
    have positive := List.length_pos_of_mem started
    simp only [List.length_append, List.length_singleton, List.length_erase_of_mem started]
    omega
  | asyncWriteHandler written =>
    have positive := List.length_pos_of_mem written
    simp only [List.length_append, List.length_singleton, List.length_erase_of_mem written]
    omega
  | doClientRead wrote =>
    simp only [List.length_append, List.length_singleton, wrote, weight]
    omega
  | serve request =>
    dsimp only
    omega
  | readOwn _ posted answer ready waiting =>
    simp only [posted, List.length_cons, waiting, weight]
    omega
  | readOther _ posted answer ready other =>
    simp only [posted, List.length_cons]
    omega
  | sendReturns received =>
    simp only [received, weight]
    omega
  | _ => cases proceeds

/-- What a step without failures adds to the outcomes is answers. -/
theorem outcomes_of_proceeds (proceeds : Proceeds event)
    (transition : Transition reply exchange event next) :
    next.issued = exchange.issued ∧ next.alive = exchange.alive ∧
      ∃ later, next.outcomes = exchange.outcomes ++ later ∧ ∀ outcome ∈ later,
        outcome.2.isSome = true := by
  cases transition with
  | readOther _ posted answer ready other => exact ⟨rfl, rfl, _, rfl, by simp⟩
  | sendReturns received => exact ⟨rfl, rfl, _, rfl, by simp⟩
  | sendAsync | asyncWriteFails | send | sendFails | failOwn | failOther => cases proceeds
  | _ => exact ⟨rfl, rfl, [], by simp, by simp⟩

/-- As long as something is left to do, some part of it can be done in turn. -/
theorem Paired.proceeds (paired : exchange.Paired reply) (alive : exchange.alive = true)
    (busy : ¬ exchange.Quiet) : ∃ event, Proceeds event ∧ exchange.InTurn event ∧
      (Exchange.step reply exchange event).isSome = true := by
  have within := paired.within alive
  have coming := paired.coming alive
  cases unread : exchange.wire.drop (exchange.consumed + exchange.posted.length) with
  | cons call rest =>
    have turn : exchange.NextIs call := by
      rw [NextIs, ← Nat.add_zero (_ + _), ← List.getElem?_drop, unread]
      rfl
    have member : call ∈ (↑exchange.handlers : Multiset Nat) + ↑(unposted exchange.sending) := by
      rw [← coming, unread]
      exact Multiset.mem_coe.mpr List.mem_cons_self
    rcases Multiset.mem_add.mp member with written | wrote
    · refine ⟨.asyncWriteHandler call, trivial, turn, ?_⟩
      rw [Exchange.step, if_pos (Multiset.mem_coe.mp written), Option.isSome_some]
    · have sending := mem_unposted.mp (Multiset.mem_coe.mp wrote)
      refine ⟨.doClientRead, trivial, ?_, ?_⟩
      · rw [InTurn, sending]
        exact turn
      · rw [Exchange.step, sending, Option.isSome_some]
  | nil =>
    rw [unread] at coming
    obtain ⟨unwritten, unwrote⟩ : exchange.handlers = [] ∧ unposted exchange.sending = [] := by
      simpa using coming.symm
    have all := List.drop_eq_nil_iff.mp unread
    cases started : exchange.writing with
    | cons call rest =>
      refine ⟨.asyncWrite call, trivial, trivial, ?_⟩
      rw [Exchange.step, if_pos (started ▸ List.mem_cons_self), Option.isSome_some]
    | nil =>
      cases posted : exchange.posted with
      | cons call rest =>
        have more : exchange.consumed < exchange.wire.length := by
          rw [posted, List.length_cons] at within
          omega
        by_cases ready : exchange.consumed < exchange.served
        · refine ⟨.readCompletes, trivial, trivial, ?_⟩
          rw [Exchange.step, posted, List.getElem?_eq_getElem more]
          dsimp only
          rw [if_pos ⟨alive, ready⟩]
          split <;> rfl
        · refine ⟨.serve, trivial, trivial, ?_⟩
          rw [Exchange.step, if_pos (by omega), Option.isSome_some]
      | nil =>
        by_cases received : ∃ call response, exchange.sending = some (call, .received response)
        · obtain ⟨call, response, sending⟩ := received
          refine ⟨.sendReturns, trivial, trivial, ?_⟩
          rw [Exchange.step, sending, Option.isSome_some]
        · refine absurd ⟨started, unwritten, posted, ?_⟩ busy
          intro call stage sending
          cases stage with
          | waiting => rfl
          | wrote => simp [sending, unposted] at unwrote
          | received response => exact absurd ⟨call, response, sending⟩ received

/-- Where nothing is left to do, every call has ended. -/
theorem Paired.ended (paired : exchange.Paired reply) (alive : exchange.alive = true)
    (quiet : exchange.Quiet) :
    (exchange.outcomes.map Prod.fst).Perm (List.range exchange.issued) := by
  have idle : unread exchange.sending exchange.posted = [] := by
    cases sender : exchange.sending with
    | none => rfl
    | some sender' =>
      obtain ⟨call, stage⟩ := sender'
      cases quiet.sending call stage sender
      have read := paired.balanced.waits alive call sender
      rw [quiet.posted] at read
      cases read
  have conserved := paired.balanced.conserved
  rw [calls, quiet.writing, quiet.handlers, idle, quiet.posted] at conserved
  rw [← Multiset.coe_eq_coe, Multiset.coe_range, ← conserved]
  simp

/-- As long as no read has failed, and reads have been posted in turn, every call under way
can still be brought to its end with its own response. -/
theorem drained {events : List ExchangeEvent}
    (inTurn : Along (Exchange.step reply) InTurn {} events)
    (reached : run (Exchange.step reply) {} events = some exchange) (alive : exchange.alive = true) :
    ∃ more final later, (∀ event ∈ more, Proceeds event) ∧
      run (Exchange.step reply) exchange more = some final ∧
      final.outcomes = exchange.outcomes ++ later ∧
      (∀ outcome ∈ later, outcome.2 = some (reply outcome.1)) ∧
      (final.outcomes.map Prod.fst).Perm (List.range exchange.issued) := by
  have nearer : ∀ state : Exchange, (state.Paired reply ∧ state.alive = true ∧
      state.issued = exchange.issued ∧ ∃ later, state.outcomes = exchange.outcomes ++ later ∧
        ∀ outcome ∈ later, outcome.2.isSome = true) → ¬ state.Quiet →
      ∃ events next, (∀ event ∈ events, Proceeds event) ∧
        run (Exchange.step reply) state events = some next ∧
        (next.Paired reply ∧ next.alive = true ∧ next.issued = exchange.issued ∧
          ∃ later, next.outcomes = exchange.outcomes ++ later ∧
            ∀ outcome ∈ later, outcome.2.isSome = true) ∧ next.distance < state.distance := by
    rintro state ⟨paired, alive, issued, later, ended, answered⟩ busy
    obtain ⟨event, proceeds, inTurn, enabled⟩ := paired.proceeds alive busy
    obtain ⟨next, taken⟩ := Option.isSome_iff_exists.mp enabled
    have transition := transition_of_step taken
    obtain ⟨sameIssued, sameAlive, more, grown, also⟩ := outcomes_of_proceeds proceeds transition
    refine ⟨[event], next, ?_, ?_, ⟨paired.step inTurn taken, sameAlive.trans alive,
      sameIssued.trans issued, later ++ more, ?_, ?_⟩, paired.balanced.distance_lt proceeds transition⟩
    · intro other member
      rwa [List.mem_singleton.mp member]
    · rw [run, taken, Option.bind_some, run]
    · rw [grown, ended, List.append_assoc]
    · intro outcome member
      exact (List.mem_append.mp member).elim (answered outcome) (also outcome)
  obtain ⟨more, final, proceeds, arrived, ⟨paired, alive, issued, later, ended, answered⟩, quiet⟩ :=
    exists_run_until distance nearer exchange
      ⟨paired_run inTurn reached, alive, rfl, [], by simp, by simp⟩
  refine ⟨more, final, later, proceeds, arrived, ended, ?_, ?_⟩
  · rintro ⟨call, result⟩ member
    obtain ⟨response, rfl⟩ := Option.isSome_iff_exists.mp (answered (call, result) member)
    rw [paired.matched.outcomes call response (ended ▸ List.mem_append_right _ member)]
  · rw [← issued]
    exact paired.ended alive quiet

theorem mixed_calls_drained : ∃ exchange,
    run (Exchange.step digit) {} mixedCalls = some exchange ∧
      ∃ more final, (∀ event ∈ more, Proceeds event) ∧
        run (Exchange.step digit) exchange more = some final ∧
        (final.outcomes.map Prod.fst).Perm (List.range exchange.issued) := by
  obtain ⟨more, final, later, proceeds, reached, -, -, ended⟩ :=
    drained mixedCalls_inTurn mixedCalls_reached rfl
  exact ⟨_, mixedCalls_reached, more, final, proceeds, reached, ended⟩

end Exchange

end Xrpc
