import Xrpc.Core.Closures

/-! The mutexes held where the calls on one channel run their closures. -/

namespace Xrpc

open Support

section Lists
variable {α : Type} {P : α → Prop} {items : List α} {index : Nat} {old new : α}

theorem exists_mem_set_iff {Q : Prop} (found : items[index]? = some old)
    (changed : P new ↔ P old ∨ Q) :
    (∃ item ∈ items.set index new, P item) ↔ (∃ item ∈ items, P item) ∨ Q := by
  induction items generalizing index with
  | nil => simp at found
  | cons first rest ih =>
    cases index with
    | zero =>
      obtain rfl : first = old := by simpa using found
      simp only [List.set_cons_zero, List.exists_mem_cons_iff, changed, or_right_comm]
    | succ index =>
      have later := ih (by simpa using found)
      simp only [List.set_cons_succ, List.exists_mem_cons_iff, later, or_assoc]

theorem forall_mem_set (all : ∀ item ∈ items, P item) (met : P new) :
    ∀ item ∈ items.set index new, P item := by
  intro item member
  rcases List.mem_or_eq_of_mem_set member with before | rfl
  · exact all item before
  · exact met

end Lists

namespace BusyChannel
variable {Msg : Type} {channel : XrpcChannel} {busy next : BusyChannel Msg}

/-- Between two steps only the thread that waits in `Send` holds a mutex. -/
def Tidy (busy : BusyChannel Msg) : Prop :=
  ∀ shared ∈ busy.calls, Xrpc.Tidy shared.call shared.running.state

/-- Some closure was run with a mutex locked. -/
def Locked (busy : BusyChannel Msg) : Prop :=
  ∃ shared ∈ busy.calls, Xrpc.Locked shared.running.state

/-- What a step does to all calls. -/
structure Accounted (good : Prop) (before after : BusyChannel Msg) : Prop where
  tidy : after.Tidy
  locked : after.Locked ↔ before.Locked ∨ ¬ good

theorem Accounted.trans {good : Prop} {last : BusyChannel Msg} (early : Accounted good busy next)
    (late : Accounted True next last) : Accounted good busy last := by
  refine ⟨late.tidy, late.locked.trans ?_⟩
  rw [early.locked, not_true_eq_false, or_false]

/-- An asynchronous request is sent with an `XrpcController` over an open socket,
and `poll_one` runs no handlers but those of successful writes. -/
def Unlocked (busy : BusyChannel Msg) : BusyEvent → Prop
  | .proceed index => ∀ shared ∈ busy.calls[index]?, shared.Fit busy.transport
  | .handle _ completion polled => polled = true → completion = .written false
  | _ => True

theorem accounted_set {good : Prop} {index : Nat} {shared after : SharedCall Msg}
    (calls : next.calls = busy.calls.set index after) (tidy : busy.Tidy)
    (found : busy.calls[index]? = some shared) (call : after.call = shared.call)
    (accounted : Xrpc.Accounted shared.call good shared.running.state after.running.state) :
    Accounted good busy next := by
  constructor
  · rw [Tidy, calls]
    exact forall_mem_set tidy (call ▸ accounted.tidy)
  · rw [Locked, calls]
    exact exists_mem_set_iff found accounted.locked

theorem accounted_same {good : Prop} (tidy : busy.Tidy) (calls : next.calls = busy.calls)
    (met : good) : Accounted good busy next := by
  constructor
  · rw [Tidy, calls]
    exact tidy
  · rw [Locked, calls]
    exact (or_iff_left (not_not_intro met)).symm

theorem accounted_interrupt (tidy : busy.Tidy) (exit : Exit) :
    Accounted True busy (busy.interrupt exit) := by
  rw [interrupt]
  split
  · exact accounted_same tidy rfl trivial
  · split
    · exact accounted_same tidy rfl trivial
    · rename_i index _ shared found
      have before := tidy shared (List.mem_of_getElem? found)
      have loaded : Xrpc.Tidy shared.call (shared.load busy.transport).state :=
        ⟨before.free, before.owed⟩
      have thrown : Xrpc.Accounted shared.call True (shared.load busy.transport).state
          ((shared.load busy.transport).perform shared.call (raise exit)).state :=
        accounted_perform loaded (Grows.of_same rfl rfl fun now => .inl now) trivial
      exact accounted_set rfl tidy found rfl ⟨thrown.tidy, thrown.locked⟩

theorem accounted_runHandler (channel : XrpcChannel) {index : Nat} {shared : SharedCall Msg}
    {completion : Completion}
    (tidy : busy.Tidy) (found : busy.calls[index]? = some shared)
    (pending : shared.running.state.pending = some completion.op) (held : List Mutex) :
    Accounted (held ≠ [] → completion = .written false) busy
      (busy.runHandler channel index shared completion held).2 := by
  have before := tidy shared (List.mem_of_getElem? found)
  have loaded : Xrpc.Tidy shared.call (shared.load busy.transport).state :=
    ⟨before.free, before.owed⟩
  have accounted := accounted_handler channel loaded pending held
  simp only [runHandler]
  cases ran : (completion.handler channel shared.call).run
      { (shared.load busy.transport).state with held } with
  | ok done after =>
    rw [ran] at accounted
    exact accounted_set rfl tidy found rfl ⟨accounted.tidy, accounted.locked⟩
  | error exit after =>
    rw [ran] at accounted
    exact accounted_set rfl tidy found rfl ⟨accounted.tidy, accounted.locked⟩

theorem accounted_handle {index : Nat} {shared : SharedCall Msg} {completion : Completion}
    (tidy : busy.Tidy) (found : busy.calls[index]? = some shared)
    (pending : shared.running.state.pending = some completion.op) (polled : Bool) :
    Accounted (polled = true → completion = .written false) busy
      (busy.handle channel index shared completion polled) := by
  have held : ((if polled then [Mutex.socket, .channel] else []) ≠ [] → completion = .written false) ↔
      (polled = true → completion = .written false) := by
    cases polled with
    | false => simp
    | true => simp
  have accounted := accounted_runHandler channel tidy found pending
    (if polled then [.socket, .channel] else [])
  rw [held] at accounted
  unfold handle
  split
  · rename_i ran
    rwa [ran] at accounted
  · rename_i exit after ran
    rw [ran] at accounted
    split
    · exact accounted.trans (accounted_interrupt accounted.tidy exit)
    · exact accounted

/-- A step runs a closure under a lock if and only if it is not as it should be. -/
theorem accounted_step {event : BusyEvent} (tidy : busy.Tidy)
    (taken : busy.step channel event = some next) :
    Accounted (busy.Unlocked event) busy next := by
  cases event with
  | proceed index =>
    simp only [step, Option.bind_eq_bind, Option.bind_eq_some_iff] at taken
    obtain ⟨shared, found, taken⟩ := taken
    split at taken
    · cases taken
    · split at taken
      · cases taken
      · split at taken
        · cases taken
        · rename_i ready
          cases taken
          have fit : busy.Unlocked (.proceed index) ↔ shared.Fit busy.transport := by
            simp [Unlocked, found]
          have accounted := accounted_proceed channel
            (tidy shared (List.mem_of_getElem? found)) (by simpa using ready)
          rw [fit]
          exact accounted_set rfl tidy found rfl accounted
  | enter index =>
    simp only [step, Option.bind_eq_bind, Option.bind_eq_some_iff] at taken
    obtain ⟨shared, found, data, waits, taken⟩ := taken
    split at taken
    · cases taken
    · cases taken
      exact accounted_same tidy rfl trivial
  | turn turn =>
    simp only [step, Option.ite_none_right_eq_some, Option.some.injEq] at taken
    exact accounted_same tidy (taken.2 ▸ rfl) trivial
  | leave =>
    simp only [step, Option.bind_eq_bind, Option.bind_eq_some_iff] at taken
    obtain ⟨index, poller, shared, found, taken⟩ := taken
    split at taken
    · cases taken
      have before := tidy shared (List.mem_of_getElem? found)
      have answered : Grows shared.call shared.running.state (shared.load busy.transport).state :=
        Grows.of_same rfl rfl .inl
      exact accounted_set rfl tidy found rfl (answered.accounted before trivial)
    · cases taken
  | handle index completion polled =>
    simp only [step, Option.bind_eq_bind, Option.bind_eq_some_iff] at taken
    obtain ⟨shared, found, taken⟩ := taken
    split at taken
    · rename_i pending
      cases taken
      exact accounted_handle tidy found pending.1 polled
    · cases taken
  | cancel index =>
    simp only [step, Option.bind_eq_bind, Option.bind_eq_some_iff] at taken
    obtain ⟨shared, found, taken⟩ := taken
    cases taken
    have before := tidy shared (List.mem_of_getElem? found)
    have cancelled : Grows shared.call shared.running.state
        (shared.load busy.transport).startCancel.state := Grows.of_same rfl rfl .inl
    exact accounted_set rfl tidy found rfl (cancelled.accounted before trivial)

/-- A call that has not begun. -/
structure Fresh (shared : SharedCall Msg) : Prop where
  dialing : shared.running.phase = .dialing
  free : shared.running.state.held = []
  idle : shared.running.state.pending = none
  unfinished : shared.running.state.doneRuns = []

/-- No closure is run with a mutex locked if and only if every asynchronous request
is sent with an `XrpcController` and `poll_one` runs no handler that ends a call. -/
theorem done_unlocked_iff {start final : BusyChannel Msg} {events : List BusyEvent}
    (fresh : ∀ shared ∈ start.calls, Fresh shared)
    (reached : run (step channel) start events = some final) :
    (∀ shared ∈ final.calls, ∀ held ∈ shared.running.state.doneRuns, held = []) ↔
      Along (step channel) Unlocked start events := by
  have initial : start.Tidy ∧ ¬ start.Locked := by
    refine ⟨fun shared member => ⟨(fresh shared member).free, ?_⟩, ?_⟩
    · simp [(fresh shared member).idle]
    · rintro ⟨shared, member, held, listed, -⟩
      simp [(fresh shared member).unfinished] at listed
  have kept : ∀ (busy : BusyChannel Msg) event next, (busy.Tidy ∧ ¬ busy.Locked) →
      busy.Unlocked event → busy.step channel event = some next → next.Tidy ∧ ¬ next.Locked := by
    intro busy event next ⟨tidy, clean⟩ met taken
    obtain ⟨after, locked⟩ := accounted_step tidy taken
    exact ⟨after, fun now => (locked.mp now).elim clean fun unmet => unmet met⟩
  have falls : ∀ (busy : BusyChannel Msg) event next, (busy.Tidy ∧ ¬ busy.Locked) →
      ¬ busy.Unlocked event → busy.step channel event = some next → next.Tidy ∧ next.Locked := by
    intro busy event next ⟨tidy, _⟩ unmet taken
    obtain ⟨after, locked⟩ := accounted_step tidy taken
    exact ⟨after, locked.mpr (.inr unmet)⟩
  have stays : ∀ (busy : BusyChannel Msg) event next, (busy.Tidy ∧ busy.Locked) →
      busy.step channel event = some next → next.Tidy ∧ next.Locked := by
    intro busy event next ⟨tidy, marked⟩ taken
    obtain ⟨after, locked⟩ := accounted_step tidy taken
    exact ⟨after, locked.mpr (.inl marked)⟩
  have unlocked : ¬ final.Locked ↔ Along (step channel) Unlocked start events :=
    along_iff kept falls stays (fun _ => And.right) (fun _ lost => not_not_intro lost.2) initial reached
  rw [← unlocked, Locked]
  simp only [Xrpc.Locked, not_exists, not_and, not_not]

/-- A closure that is run with the channel locked and makes a call on it waits for itself. -/
theorem nested_call_hangs {state : CallState Msg} {outside : Outside} {located : Bytes × Int}
    (held : .channel ∈ state.held) (found : XrpcChannel.locate outside = .ok located) :
    (channel.dial outside).run state = .error .hang state := by
  rw [XrpcChannel.dial, found, EStateM.run_bind, run_ofThrowing_ok]
  dsimp only
  rw [run_withLock, if_pos held]

instance (shared : SharedCall Msg) (transport : AsioClient) : Decidable (shared.Fit transport) :=
  match phase : shared.running.phase with
  | .sending _ => decidable_of_iff (shared.call.done.isSome = true →
      shared.call.isXrpc = true ∧ transport.isOpen = true) (by rw [SharedCall.Fit, phase])
  | .dialing | .checking | .answered _ | .returned | .stuck =>
    .isTrue (by rw [SharedCall.Fit, phase]; trivial)

instance (busy : BusyChannel Msg) (event : BusyEvent) : Decidable (busy.Unlocked event) :=
  match event with
  | .proceed index => inferInstanceAs (Decidable (∀ shared ∈ busy.calls[index]?, shared.Fit _))
  | .handle _ completion polled => inferInstanceAs (Decidable (polled = true → completion = _))
  | .enter _ | .turn _ | .leave | .cancel _ => .isTrue trivial

/-- A call with a closure and one without. -/
def twoPings : BusyChannel Bytes where
  calls := [
    { call := { pingCall with done := some {} }
      outside := { instances := .ok [text "10.0.0.1:80"], rand := 1 }
      running := { state := { response := [] } } },
    { call := pingCall
      outside := { instances := .ok [text "10.0.0.1:80"], rand := 1 }
      running := { state := { response := [] } } }]

/-- The second caller waits in `Send` when the response of the first call is read,
by whichever thread. -/
def crossing (polled : Bool) : List BusyEvent :=
  [.proceed 0, .proceed 0, .proceed 0, .handle 0 (.written false) false, .proceed 1, .proceed 1,
    .enter 1, .handle 0 (.read (.received pingRead)) polled]

theorem crossing_pings_unlocked : ∃ final,
    run (step pingChannel) twoPings (crossing false) = some final ∧
      ∀ shared ∈ final.calls, ∀ held ∈ shared.running.state.doneRuns, held = [] := by
  have ran : (run (step pingChannel) twoPings (crossing false)).isSome := by decide +kernel
  obtain ⟨final, reached⟩ := Option.isSome_iff_exists.mp ran
  have fresh : ∀ shared ∈ twoPings.calls, Fresh shared := by
    refine List.forall_mem_cons.mpr ⟨⟨rfl, rfl, rfl, rfl⟩, ?_⟩
    exact List.forall_mem_singleton.mpr ⟨rfl, rfl, rfl, rfl⟩
  have along : Along (step pingChannel) Unlocked twoPings (crossing false) := by decide +kernel
  exact ⟨final, reached, (done_unlocked_iff fresh reached).mpr along⟩

/-- `poll_one` runs the handler, and so the closure, on the thread that holds both mutexes. -/
theorem polled_ping_locked : ∃ final,
    run (step pingChannel) twoPings (crossing true) = some final ∧
      ¬ ∀ shared ∈ final.calls, ∀ held ∈ shared.running.state.doneRuns, held = [] := by
  have ran : (run (step pingChannel) twoPings (crossing true)).any fun final =>
      final.calls.any fun shared => shared.running.state.doneRuns = [[.socket, .channel]] := by
    decide +kernel
  obtain ⟨final, reached, marked⟩ := (Option.any_eq_true _ _).mp ran
  obtain ⟨shared, member, runs⟩ := List.any_eq_true.mp marked
  refine ⟨final, reached, fun all => ?_⟩
  have alone : shared.running.state.doneRuns = [[.socket, .channel]] := of_decide_eq_true runs
  simpa using all shared member [.socket, .channel] (by simp [alone])

end BusyChannel

end Xrpc
