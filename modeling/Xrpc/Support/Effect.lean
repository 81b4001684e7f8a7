import Xrpc.Support.Text
import Mathlib.Data.List.TakeWhile

/-! Sequential C++ code over a state. An exception leaves the changes made
before it in place, so a computation is a state transformer whose failing
outcome carries a state as well. -/

namespace Xrpc.Support

/-- The ways to leave a call other than by returning. -/
inductive Exit where
  /-- A `std::exception`, with the C string that `what()` returns. -/
  | exception (what : Bytes)
  /-- The call never ends. -/
  | hang
  deriving DecidableEq, Repr

/-- `what()` hands out a C string, which ends at the first zero byte. -/
def cString (s : Bytes) : Bytes := s.takeWhile (· ≠ 0)

theorem cString_of_terminated {s : Bytes} (terminated : 0 ∉ s) : cString s = s := by
  refine List.takeWhile_eq_self_iff.mpr ?_
  intro byte member
  have proper : byte ≠ 0 := fun zero => terminated (zero ▸ member)
  exact decide_eq_true proper

/-- `throw std::runtime_error(message)`. -/
def runtimeError (message : Bytes) : Exit := .exception (cString message)

abbrev Effect (σ α : Type) := EStateM Exit σ α

variable {σ α : Type}

def raise (exit : Exit) : Effect σ α := fun state => .error exit state

@[simp] theorem run_raise (exit : Exit) (state : σ) :
    (raise exit : Effect σ α).run state = .error exit state := rfl

/-- `try { body } catch (const std::exception& e) { handler(e.what()) }`. -/
def catchStd (body : Effect σ α) (handler : Bytes → Effect σ α) : Effect σ α := fun state =>
  match body state with
  | .error (.exception what) thrown => handler what thrown
  | outcome => outcome

theorem catchStd_ok {body : Effect σ α} {state after : σ} {value : α}
    (returned : body.run state = .ok value after) (handler : Bytes → Effect σ α) :
    (catchStd body handler).run state = .ok value after := by
  simp only [EStateM.run] at returned
  simp [catchStd, EStateM.run, returned]

theorem catchStd_exception {body : Effect σ α} {state after : σ} {what : Bytes}
    (thrown : body.run state = .error (.exception what) after) (handler : Bytes → Effect σ α) :
    (catchStd body handler).run state = (handler what).run after := by
  simp only [EStateM.run] at thrown
  simp [catchStd, EStateM.run, thrown]

theorem catchStd_hang {body : Effect σ α} {state after : σ}
    (stuck : body.run state = .error .hang after) (handler : Bytes → Effect σ α) :
    (catchStd body handler).run state = .error .hang after := by
  simp only [EStateM.run] at stuck
  simp [catchStd, EStateM.run, stuck]

section Sequence
variable {β : Type} {body : Effect σ α} {next : α → Effect σ β} {state after : σ}

/-- What has returned is out of the way of the handler. -/
theorem catchStd_bind_ok {value : α} (returned : body.run state = .ok value after)
    (handler : Bytes → Effect σ β) :
    (catchStd (body >>= next) handler).run state = (catchStd (next value) handler).run after := by
  have continued : (body >>= next) state = next value after := by
    change (body >>= next).run state = next value after
    rw [EStateM.run_bind, returned]
    rfl
  simp [catchStd, EStateM.run, continued]

theorem bind_error {exit : Exit} (thrown : body.run state = .error exit after)
    (next : α → Effect σ β) : (body >>= next).run state = .error exit after := by
  rw [EStateM.run_bind, thrown]

/-- What threw is one of the two parts. -/
theorem bind_error_cases {exit : Exit} (thrown : (body >>= next).run state = .error exit after) :
    body.run state = .error exit after ∨
      ∃ value between, body.run state = .ok value between ∧
        (next value).run between = .error exit after := by
  rw [EStateM.run_bind] at thrown
  cases ran : body.run state with
  | ok value between =>
    rw [ran] at thrown
    exact .inr ⟨value, between, rfl, thrown⟩
  | error other between =>
    rw [ran] at thrown
    cases thrown
    exact .inl rfl

end Sequence

/-- Code whose only effect is that it may throw a `std::runtime_error`. -/
def ofExcept : Except Bytes α → Effect σ α
  | .ok value => pure value
  | .error message => raise (runtimeError message)

@[simp] theorem run_ofExcept_ok (value : α) (state : σ) :
    (ofExcept (.ok value) : Effect σ α).run state = .ok value state := rfl

@[simp] theorem run_ofExcept_error (message : Bytes) (state : σ) :
    (ofExcept (.error message) : Effect σ α).run state = .error (runtimeError message) state := rfl

/-- Code that may throw, known by the `what()` of the exception. -/
def ofThrowing : Except Bytes α → Effect σ α
  | .ok value => pure value
  | .error what => raise (.exception what)

@[simp] theorem run_ofThrowing_ok (value : α) (state : σ) :
    (ofThrowing (.ok value) : Effect σ α).run state = .ok value state := rfl

@[simp] theorem run_ofThrowing_error (what : Bytes) (state : σ) :
    (ofThrowing (.error what) : Effect σ α).run state = .error (.exception what) state := rfl

/-- The state in which an outcome leaves things. -/
def stateAfter : EStateM.Result Exit σ α → σ
  | .ok _ after => after
  | .error _ after => after

@[simp] theorem stateAfter_ok (value : α) (state : σ) :
    stateAfter (.ok value state : EStateM.Result Exit σ α) = state := rfl

@[simp] theorem stateAfter_error (exit : Exit) (state : σ) :
    stateAfter (.error exit state : EStateM.Result Exit σ α) = state := rfl

def returns : EStateM.Result Exit σ α → Bool
  | .ok _ _ => true
  | .error _ _ => false

theorem exists_of_returns {result : EStateM.Result Exit σ α} (returned : returns result) :
    ∃ value after, result = .ok value after := by
  cases result with
  | ok value after => exact ⟨value, after, rfl⟩
  | error exit after => cases returned

/-- What `body` returns, if it returns, is `expected`. -/
def Yields (expected : α → Prop) (body : Effect σ α) : Prop :=
  ∀ state value after, body.run state = .ok value after → expected value

section Results
variable {β : Type} {expected : β → Prop}

theorem Yields.pure {value : β} (meets : expected value) :
    Yields expected (pure value : Effect σ β) := by
  intro state result after returned
  cases returned
  exact meets

theorem Yields.bind {body : Effect σ α} {next : α → Effect σ β}
    (yields : ∀ value, Yields expected (next value)) : Yields expected (body >>= next) := by
  intro state result after returned
  rw [EStateM.run_bind] at returned
  cases ran : body.run state with
  | ok value between =>
    rw [ran] at returned
    exact yields value between result after returned
  | error exit between =>
    rw [ran] at returned
    cases returned

end Results

/-- However `body` ends, it leaves `view` of the state as it was. -/
def Keeps {β : Type} (view : σ → β) (body : Effect σ α) : Prop :=
  ∀ state, view (stateAfter (body.run state)) = view state

section Frames
variable {β γ : Type} {view : σ → β}

theorem Keeps.pure (value : α) : Keeps view (pure value : Effect σ α) := fun _ => rfl

theorem Keeps.raise (exit : Exit) : Keeps view (raise exit : Effect σ α) := fun _ => rfl

theorem Keeps.get : Keeps view (get : Effect σ σ) := fun _ => rfl

theorem Keeps.modify {change : σ → σ} (same : ∀ state, view (change state) = view state) :
    Keeps view (modify change : Effect σ Unit) := same

theorem Keeps.of_ok {body : Effect σ α} (kept : Keeps view body) {state after : σ} {value : α}
    (returned : body.run state = .ok value after) : view after = view state := by
  have same := kept state
  rwa [returned] at same

theorem Keeps.of_error {body : Effect σ α} (kept : Keeps view body) {state after : σ} {exit : Exit}
    (thrown : body.run state = .error exit after) : view after = view state := by
  have same := kept state
  rwa [thrown] at same

/-- What can be observed of a view is kept with it. -/
theorem Keeps.observe {body : Effect σ α} (kept : Keeps view body) (observe : β → γ) :
    Keeps (fun state => observe (view state)) body := fun state => congrArg observe (kept state)

theorem view_bind {body : Effect σ α} {next : α → Effect σ γ}
    (kept : ∀ value, Keeps view (next value)) (state : σ) :
    view (stateAfter ((body >>= next).run state)) = view (stateAfter (body.run state)) := by
  rw [EStateM.run_bind]
  cases body.run state with
  | ok value after => exact kept value after
  | error exit after => rfl

theorem view_catchStd {body : Effect σ α} {handler : Bytes → Effect σ α}
    (kept : ∀ what, Keeps view (handler what)) (state : σ) :
    view (stateAfter ((catchStd body handler).run state)) = view (stateAfter (body.run state)) := by
  cases ran : body.run state with
  | ok value after => rw [catchStd_ok ran]
  | error exit after =>
    cases exit with
    | exception what =>
      rw [catchStd_exception ran]
      exact kept what after
    | hang => rw [catchStd_hang ran]

theorem Keeps.bind {body : Effect σ α} {next : α → Effect σ γ} (first : Keeps view body)
    (second : ∀ value, Keeps view (next value)) : Keeps view (body >>= next) :=
  fun state => (view_bind second state).trans (first state)

end Frames

/-- However `body` ends, the views of the state before and after are `related`. -/
def Evolves {β : Type} (related : β → β → Prop) (view : σ → β) (body : Effect σ α) : Prop :=
  ∀ state, related (view state) (view (stateAfter (body.run state)))

section Evolution
variable {β γ : Type} {related : β → β → Prop} {view : σ → β}

theorem keeps_iff_evolves {body : Effect σ α} :
    Keeps view body ↔ Evolves Eq view body := forall_congr' fun _ => eq_comm

theorem Keeps.evolves {body : Effect σ α} (kept : Keeps view body)
    (reflexive : ∀ value, related value value) : Evolves related view body := by
  intro state
  rw [kept state]
  exact reflexive _

theorem Evolves.bind {body : Effect σ α} {next : α → Effect σ γ}
    (transitive : ∀ {first second third}, related first second → related second third →
      related first third)
    (first : Evolves related view body) (second : ∀ value, Evolves related view (next value)) :
    Evolves related view (body >>= next) := by
  intro state
  have before := first state
  rw [EStateM.run_bind]
  cases ran : body.run state with
  | ok value after =>
    rw [ran] at before
    exact transitive before (second value after)
  | error exit after =>
    rw [ran] at before
    exact before

end Evolution

end Xrpc.Support
