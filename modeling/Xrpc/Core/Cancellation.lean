import Xrpc.Core.Reentrance

/-! The cancel closures of one controller over its whole life, from its
construction through any number of resets to its destruction. -/

namespace Xrpc

open Support

/-- A controller in use, the closures passed to `NotifyOnCancel` and those that have run.
`notified` tells whether there was a `NotifyOnCancel` since the last `Reset`. -/
structure Usage where
  controller : XrpcController := {}
  registered : List Nat := []
  ran : List Nat := []
  notified : Bool := false
  deriving DecidableEq

namespace Usage

/-- One use of the controller, by closures that make no call on it. -/
def take (usage : Usage) (entry : Entry) : Usage :=
  { usage with
    controller := usage.controller.after entry
    ran := usage.ran ++ (usage.controller.runs entry).toList }

/-- One call. Closures are fresh and not null, and between two resets there is one at most. -/
def step (usage : Usage) : MemberCall → Option Usage
  | .notifyOnCancel callback =>
    match callback with
    | none => none
    | some name =>
      if usage.notified || name ∈ usage.registered then none
      else some { usage.take (.call (.notifyOnCancel (some name))) with
        registered := name :: usage.registered
        notified := true }
  | .reset => some { usage.take (.call .reset) with notified := false }
  | call => some (usage.take (.call call))

/-- The closures that have run once the controller is destroyed. -/
def destroyed (usage : Usage) : List Nat := (usage.take .destroy).ran

/-- A `Reset` finds no closure pending. -/
def Unhurried (usage : Usage) (call : MemberCall) : Prop :=
  call = .reset → usage.controller.cancelCallback = none

instance (usage : Usage) (call : MemberCall) : Decidable (usage.Unhurried call) :=
  inferInstanceAs (Decidable (_ → _))

/-- Every closure has run once, or it is pending and will. -/
structure Kept (usage : Usage) : Prop where
  owed : ∀ name, usage.controller.cancelCallback = some name →
    name ∈ usage.registered ∧ name ∉ usage.ran ∧ usage.controller.canceled = false ∧
      usage.notified = true
  done : ∀ name ∈ usage.registered, usage.controller.cancelCallback ≠ some name →
    usage.ran.count name = 1
  known : ∀ name ∈ usage.ran, name ∈ usage.registered

/-- A closure was dropped before it ran. -/
def Dropped (usage : Usage) : Prop :=
  ∃ name ∈ usage.registered, name ∉ usage.ran ∧ usage.controller.cancelCallback ≠ some name

variable {usage next : Usage}

/-- What one call does to the closures. -/
inductive Transition (usage : Usage) : MemberCall → Usage → Prop
  | reset : Transition usage .reset
      { usage with controller := usage.controller.reset, notified := false }
  | cancel (live : usage.controller.canceled = false) : Transition usage .startCancel
      { usage with
        controller := { usage.controller with canceled := true, cancelCallback := none }
        ran := usage.ran ++ usage.controller.cancelCallback.toList }
  | wait {name : Nat} (first : usage.notified = false) (fresh : name ∉ usage.registered)
      (live : usage.controller.canceled = false) : Transition usage (.notifyOnCancel (some name))
      { usage with
        controller := { usage.controller with cancelCallback := some name }
        registered := name :: usage.registered
        notified := true }
  | late {name : Nat} (first : usage.notified = false) (fresh : name ∉ usage.registered)
      (canceled : usage.controller.canceled = true) :
      Transition usage (.notifyOnCancel (some name))
      { usage with
        controller := { usage.controller with cancelCallback := none }
        registered := name :: usage.registered
        ran := usage.ran ++ [name]
        notified := true }
  | other {call : MemberCall} {next : Usage} (different : call ≠ .reset)
      (registered : next.registered = usage.registered) (ran : next.ran = usage.ran)
      (notified : next.notified = usage.notified)
      (callback : next.controller.cancelCallback = usage.controller.cancelCallback)
      (canceled : next.controller.canceled = usage.controller.canceled) :
      Transition usage call next

/-- A call that runs no closure and keeps the pending one. -/
theorem take_other {call : MemberCall} (different : call ≠ .reset)
    (quiet : usage.controller.runs (.call call) = none)
    (callback : (usage.controller.after (.call call)).cancelCallback =
      usage.controller.cancelCallback)
    (canceled : (usage.controller.after (.call call)).canceled = usage.controller.canceled) :
    Transition usage call (usage.take (.call call)) :=
  .other different rfl (by simp [take, quiet]) rfl callback canceled

theorem transition_of_step {call : MemberCall} (taken : usage.step call = some next) :
    Transition usage call next := by
  cases call with
  | reset =>
    cases taken
    have same : Transition usage .reset _ := .reset
    simpa [take, XrpcController.after, XrpcController.runs] using same
  | startCancel =>
    cases taken
    obtain ⟨⟨failed, errorText, canceled, pending⟩, registered, ran, notified⟩ := usage
    cases canceled with
    | true => exact take_other (by simp) rfl rfl rfl
    | false => exact .cancel rfl
  | notifyOnCancel callback =>
    cases callback with
    | none => cases taken
    | some name =>
      simp only [step] at taken
      split at taken
      · cases taken
      · rename_i allowed
        cases taken
        obtain ⟨⟨failed, errorText, canceled, pending⟩, registered, ran, notified⟩ := usage
        obtain ⟨first, fresh⟩ : notified = false ∧ name ∉ registered := by simpa using allowed
        cases canceled with
        | true => exact .late first fresh rfl
        | false =>
          have same : Transition ⟨⟨failed, errorText, false, pending⟩, registered, ran, notified⟩
            (.notifyOnCancel (some name)) _ := .wait first fresh rfl
          simpa [take, XrpcController.after, XrpcController.runs, XrpcController.notifyOnCancel]
            using same
  | isCanceled =>
    cases taken
    exact take_other (by simp) rfl rfl rfl
  | failed =>
    cases taken
    exact take_other (by simp) rfl rfl rfl
  | errorText =>
    cases taken
    exact take_other (by simp) rfl rfl rfl
  | setFailed reason =>
    cases taken
    exact take_other (by simp) rfl rfl rfl

/-- Nothing is pending before the first `NotifyOnCancel`. -/
theorem Kept.idle (kept : usage.Kept) (first : usage.notified = false) :
    usage.controller.cancelCallback = none := by
  cases pending : usage.controller.cancelCallback with
  | none => rfl
  | some name =>
    obtain ⟨-, -, -, notified⟩ := kept.owed name pending
    exact absurd (notified.symm.trans first) (by simp)

/-- Nothing is pending on a canceled controller. -/
theorem Kept.settled (kept : usage.Kept) (canceled : usage.controller.canceled = true) :
    usage.controller.cancelCallback = none := by
  cases pending : usage.controller.cancelCallback with
  | none => rfl
  | some name =>
    obtain ⟨-, -, live, -⟩ := kept.owed name pending
    exact absurd (live.symm.trans canceled) (by simp)

/-- Running the pending closure settles every closure. -/
theorem Kept.count_ran (kept : usage.Kept) {name : Nat} (member : name ∈ usage.registered) :
    (usage.ran ++ usage.controller.cancelCallback.toList).count name = 1 := by
  cases pending : usage.controller.cancelCallback with
  | none =>
    have once := kept.done name member (by simp [pending])
    simpa using once
  | some waiting =>
    obtain ⟨-, unrun, -, -⟩ := kept.owed waiting pending
    by_cases same : waiting = name
    · subst same
      simp [List.count_eq_zero_of_not_mem unrun]
    · have once := kept.done name member (by simp [pending, same])
      simp [once, same]

/-- A call that finds no pending closure to drop keeps the account. -/
theorem Kept.step {call : MemberCall} (kept : usage.Kept) (unhurried : usage.Unhurried call)
    (taken : usage.step call = some next) : next.Kept := by
  cases transition_of_step taken with
  | reset =>
    have absent := unhurried rfl
    constructor
    case owed =>
      intro name pending
      cases pending
    case done =>
      intro name member _
      exact kept.done name member (by simp [absent])
    case known => exact kept.known
  | cancel live =>
    constructor
    case owed =>
      intro name pending
      cases pending
    case done =>
      intro name member _
      exact kept.count_ran member
    case known =>
      intro name member
      rcases List.mem_append.mp member with old | new
      · exact kept.known name old
      · exact (kept.owed name (by simpa using new)).1
  | @wait name first fresh live =>
    constructor
    case owed =>
      intro other pending
      cases pending
      exact ⟨List.mem_cons_self, fun member => fresh (kept.known name member), live, rfl⟩
    case done =>
      intro other member different
      rcases List.mem_cons.mp member with rfl | old
      · exact absurd rfl different
      · exact kept.done other old (by simp [kept.idle first])
    case known =>
      intro other member
      exact List.mem_cons_of_mem name (kept.known other member)
  | @late name first fresh canceled =>
    constructor
    case owed =>
      intro other pending
      cases pending
    case done =>
      intro other member _
      rcases List.mem_cons.mp member with rfl | old
      · have unrun : other ∉ usage.ran := fun member => fresh (kept.known other member)
        simp [List.count_eq_zero_of_not_mem unrun]
      · have different : name ≠ other := fun same => fresh (same ▸ old)
        have once := kept.done other old (by simp [kept.settled canceled])
        simp [once, different]
    case known =>
      intro other member
      rcases List.mem_append.mp member with old | new
      · exact List.mem_cons_of_mem name (kept.known other old)
      · rw [List.mem_singleton.mp new]
        exact List.mem_cons_self
  | other different registered ran notified callback canceled =>
    constructor
    case owed =>
      intro name pending
      rw [registered, ran, notified, canceled]
      exact kept.owed name (callback ▸ pending)
    case done =>
      intro name member settled
      rw [ran]
      exact kept.done name (registered ▸ member) (callback ▸ settled)
    case known =>
      intro name member
      rw [registered]
      exact kept.known name (ran ▸ member)

/-- A `Reset` of a controller with a pending closure drops it. -/
theorem Kept.falls {call : MemberCall} (kept : usage.Kept) (hasty : ¬ usage.Unhurried call)
    (taken : usage.step call = some next) : next.Dropped := by
  obtain ⟨rfl, some_pending⟩ : call = .reset ∧ usage.controller.cancelCallback ≠ none := by
    simpa [Unhurried] using hasty
  obtain ⟨name, pending⟩ := Option.ne_none_iff_exists'.mp some_pending
  obtain ⟨member, unrun, -, -⟩ := kept.owed name pending
  cases transition_of_step taken with
  | reset => exact ⟨name, member, unrun, by simp [XrpcController.reset]⟩
  | other different => exact absurd rfl different

/-- No later call runs a dropped closure. -/
theorem Dropped.step {call : MemberCall} (dropped : usage.Dropped)
    (taken : usage.step call = some next) : next.Dropped := by
  obtain ⟨name, member, unrun, gone⟩ := dropped
  cases transition_of_step taken with
  | reset => exact ⟨name, member, unrun, by simp [XrpcController.reset]⟩
  | cancel live =>
    refine ⟨name, member, ?_, by simp⟩
    intro ran
    rcases List.mem_append.mp ran with old | new
    · exact unrun old
    · exact gone (by simpa using new)
  | @wait other first fresh live =>
    have different : other ≠ name := fun same => fresh (same ▸ member)
    exact ⟨name, List.mem_cons_of_mem other member, unrun, by simp [different]⟩
  | @late other first fresh canceled =>
    have different : other ≠ name := fun same => fresh (same ▸ member)
    refine ⟨name, List.mem_cons_of_mem other member, ?_, by simp⟩
    intro ran
    rcases List.mem_append.mp ran with old | new
    · exact unrun old
    · exact different (List.mem_singleton.mp new).symm
  | other different registered ran notified callback canceled =>
    exact ⟨name, registered ▸ member, ran ▸ unrun, callback ▸ gone⟩

theorem destroyed_eq (kept : usage.Kept) :
    usage.destroyed = usage.ran ++ usage.controller.cancelCallback.toList := by
  cases flag : usage.controller.canceled with
  | true => simp [destroyed, take, XrpcController.runs, kept.settled flag]
  | false => simp [destroyed, take, XrpcController.runs, flag]

theorem Dropped.not_once (dropped : usage.Dropped) :
    ¬ ∀ name ∈ usage.registered, usage.destroyed.count name = 1 := by
  obtain ⟨name, member, unrun, gone⟩ := dropped
  intro once
  have ran : name ∈ usage.destroyed := List.count_pos_iff.mp (by rw [once name member]; simp)
  rcases List.mem_append.mp ran with old | last
  · exact unrun old
  · have pending : usage.controller.canceled = false ∧
        usage.controller.cancelCallback = some name := by
      simpa [XrpcController.runs] using last
    exact gone pending.2

theorem kept_new : Kept {} where
  owed := by simp
  done := by simp
  known := by simp

theorem Kept.once (kept : usage.Kept) :
    ∀ name ∈ usage.registered, usage.destroyed.count name = 1 := by
  intro name member
  rw [destroyed_eq kept]
  exact kept.count_ran member

/-- Every closure passed to `NotifyOnCancel` has run once when the controller is gone if
and only if no `Reset` came while a closure was pending. -/
theorem ran_once_iff {calls : List MemberCall} {usage : Usage}
    (reached : run step {} calls = some usage) :
    (∀ name ∈ usage.registered, usage.destroyed.count name = 1) ↔
      Along step Unhurried {} calls := by
  have keeps : ∀ before call after, Kept before → Unhurried before call →
      step before call = some after → Kept after :=
    fun _ _ _ kept unhurried taken => kept.step unhurried taken
  have falls : ∀ before call after, Kept before → ¬ Unhurried before call →
      step before call = some after → Dropped after :=
    fun _ _ _ kept hasty taken => kept.falls hasty taken
  exact along_iff keeps falls (fun _ _ _ dropped taken => dropped.step taken)
    (fun _ kept => kept.once) (fun _ dropped => dropped.not_once) kept_new reached

/-- Two closures, one for each call that the controller is used for. -/
theorem ran_once_reused :
    let calls := [.notifyOnCancel (some 0), .startCancel, .reset, .notifyOnCancel (some 1)]
    ∃ usage, run step {} calls = some usage ∧
      ((∀ name ∈ usage.registered, usage.destroyed.count name = 1) ↔
        Along step Unhurried {} calls) ∧
      Along step Unhurried {} calls :=
  ⟨_, rfl, ran_once_iff rfl, by decide⟩

/-- `Reset` drops a pending closure, which then never runs. -/
theorem reset_drops :
    ¬ ∀ (calls : List MemberCall) (usage : Usage), run step {} calls = some usage →
      ∀ name ∈ usage.registered, usage.destroyed.count name = 1 := by
  intro once
  have ran := once [.notifyOnCancel (some 0), .reset] _ rfl 0 (by decide)
  exact absurd ran (by decide)

/-- The thread that uses the controller, at the end of each use. -/
def thread (usage : Usage) (todo : List Task) : ControllerThread :=
  { controller := usage.controller, ran := usage.ran, todo := todo }

theorem thread_of_step {call : MemberCall} (taken : usage.step call = some next) :
    next.thread = (usage.take (.call call)).thread := by
  unfold step at taken
  split at taken
  · split at taken
    · cases taken
    · split at taken
      · cases taken
      · cases taken
        rfl
  · cases taken
    rfl
  · cases taken
    rfl

section Thread
variable {bodies : Nat → List MemberCall} (quiet : ∀ name, bodies name = [])
include quiet

theorem run_take (usage : Usage) (entry : Entry) (rest : List Task) :
    ∃ steps, run (ControllerThread.step bodies) (usage.thread (.enter entry :: rest)) steps =
      some ((usage.take entry).thread rest) :=
  ControllerThread.run_enter (fun name _ => quiet name) usage.ran rest

/-- The thread that makes the calls and destroys the controller runs the same closures. -/
theorem run_life {calls : List MemberCall} {final : Usage}
    (reached : run step usage calls = some final) :
    ∃ steps, run (ControllerThread.step bodies)
      (usage.thread (calls.map (fun call => .enter (.call call)) ++ [.enter .destroy])) steps =
      some ((final.take .destroy).thread []) := by
  induction calls generalizing usage with
  | nil =>
    cases reached
    exact run_take quiet final .destroy []
  | cons call later ih =>
    obtain ⟨next, taken, remaining⟩ := run_cons_eq_some.mp reached
    obtain ⟨first, entered⟩ := run_take quiet usage (.call call)
      (later.map (fun call => .enter (.call call)) ++ [.enter .destroy])
    obtain ⟨second, finished⟩ := ih remaining
    rw [thread_of_step taken] at finished
    refine ⟨first ++ second, ?_⟩
    rw [run_append, List.map_cons, List.cons_append, entered]
    exact finished

end Thread

end Usage

end Xrpc
