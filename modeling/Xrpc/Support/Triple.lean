import Xrpc.Support.Effect

/-! Pre- and postconditions of sequential code, which may return or throw. -/

namespace Xrpc.Support

variable {σ α β : Type}

/-- Started in a state that meets `before`, the code returns as `after` says or throws as
`thrown` says. -/
def Triple (before : σ → Prop) (body : Effect σ α) (after : α → σ → Prop)
    (thrown : Exit → σ → Prop) : Prop :=
  ∀ state, before state →
    match body.run state with
    | .ok value left => after value left
    | .error exit left => thrown exit left

namespace Triple
variable {before other : σ → Prop} {after : α → σ → Prop} {thrown : Exit → σ → Prop}

theorem of_ok {body : Effect σ α} (triple : Triple before body after thrown) {state left : σ}
    {value : α} (met : before state) (returned : body.run state = .ok value left) :
    after value left := by
  have ends := triple state met
  rwa [returned] at ends

theorem of_error {body : Effect σ α} (triple : Triple before body after thrown) {state left : σ}
    {exit : Exit} (met : before state) (threw : body.run state = .error exit left) :
    thrown exit left := by
  have ends := triple state met
  rwa [threw] at ends

theorem raise {exit : Exit} (met : ∀ state, before state → thrown exit state) :
    Triple before (raise exit) after thrown := met

theorem modify {change : σ → σ} {after : Unit → σ → Prop}
    (met : ∀ state, before state → after () (change state)) :
    Triple before (modify change) after thrown := met

theorem ofThrowing {result : Except Bytes α}
    (met : ∀ value, result = .ok value → ∀ state, before state → after value state)
    (threw : ∀ what, result = .error what → ∀ state, before state → thrown (.exception what) state) :
    Triple before (ofThrowing result) after thrown := by
  cases result with
  | ok value => exact met value rfl
  | error what => exact threw what rfl

theorem bind {body : Effect σ β} {next : β → Effect σ α} {between : β → σ → Prop}
    (first : Triple before body between thrown)
    (second : ∀ value, Triple (between value) (next value) after thrown) :
    Triple before (body >>= next) after thrown := by
  intro state met
  have ends := first state met
  rw [EStateM.run_bind]
  cases ran : body.run state with
  | ok value left =>
    rw [ran] at ends
    exact second value left ends
  | error exit left =>
    rw [ran] at ends
    exact ends

/-- `get` hands on a state that still meets the precondition. -/
theorem get_bind {next : σ → Effect σ α}
    (rest : ∀ here, before here → Triple (· = here) (next here) after thrown) :
    Triple before (get >>= next) after thrown := by
  intro state met
  exact rest state met state rfl

theorem consequence {body : Effect σ α} (triple : Triple before body after thrown)
    (stronger : ∀ state, other state → before state) {weaker : α → σ → Prop}
    {wider : Exit → σ → Prop} (returned : ∀ value left, after value left → weaker value left)
    (threw : ∀ exit left, thrown exit left → wider exit left) :
    Triple other body weaker wider := by
  intro state met
  have ends := triple state (stronger state met)
  cases ran : body.run state with
  | ok value left =>
    rw [ran] at ends
    exact returned value left ends
  | error exit left =>
    rw [ran] at ends
    exact threw exit left ends

theorem ite {condition : Prop} [Decidable condition] {yes no : Effect σ α}
    (holds : condition → Triple before yes after thrown)
    (fails : ¬ condition → Triple before no after thrown) :
    Triple before (if condition then yes else no) after thrown := by
  by_cases here : condition
  · rw [if_pos here]
    exact holds here
  · rw [if_neg here]
    exact fails here

end Triple

/-- `cleanup` runs when the code throws, as destructors do. -/
def onThrow (cleanup : σ → σ) (body : Effect σ α) : Effect σ α := fun state =>
  match body.run state with
  | .ok value left => .ok value left
  | .error exit left => .error exit (cleanup left)

theorem Triple.onThrow {before : σ → Prop} {body : Effect σ α} {after : α → σ → Prop}
    {thrown cleaned : Exit → σ → Prop} {cleanup : σ → σ}
    (triple : Triple before body after thrown)
    (cleans : ∀ exit left, thrown exit left → cleaned exit (cleanup left)) :
    Triple before (onThrow cleanup body) after cleaned := by
  intro state met
  have ends := triple state met
  have split : (Support.onThrow cleanup body).run state =
      match body.run state with
      | .ok value left => .ok value left
      | .error exit left => .error exit (cleanup left) := rfl
  rw [split]
  cases ran : body.run state with
  | ok value left =>
    rw [ran] at ends
    exact ends
  | error exit left =>
    rw [ran] at ends
    exact cleans exit left ends

end Xrpc.Support
