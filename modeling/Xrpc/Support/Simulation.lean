import Xrpc.Support.Run

/-! Machines that answer every event, and forward simulation: where a specification
allows each answer of a machine, it allows the answers of every run. -/

namespace Xrpc.Support

variable {σ α ε ο : Type}

/-- The answers to a list of events, and the state that they leave. -/
def respond (step : σ → ε → ο × σ) : σ → List ε → List ο × σ
  | state, [] => ([], state)
  | state, event :: rest =>
    let later := respond step (step state event).2 rest
    ((step state event).1 :: later.1, later.2)

/-- The specification allows these answers, one after another. -/
inductive Allows (spec : α → ε → ο → α → Prop) : α → List ε → List ο → α → Prop
  | nil (state : α) : Allows spec state [] [] state
  | cons {state next final : α} {event : ε} {answer : ο} {rest : List ε} {later : List ο}
      (first : spec state event answer next) (others : Allows spec next rest later final) :
      Allows spec state (event :: rest) (answer :: later) final

section Specification
variable {spec : α → ε → ο → α → Prop} {start final : α} {events : List ε} {answers : List ο}

/-- What every step that `allowed` admits preserves. -/
theorem Allows.preserves (invariant : α → Prop) {allowed : ε → Prop}
    (kept : ∀ state event answer next, invariant state → allowed event →
      spec state event answer next → invariant next)
    (initial : invariant start) (all : ∀ event ∈ events, allowed event)
    (allows : Allows spec start events answers final) : invariant final := by
  induction allows with
  | nil state => exact initial
  | @cons state next final event answer rest later first others ih =>
    refine ih (kept state event answer next initial (all event List.mem_cons_self) first) ?_
    intro other member
    exact all other (List.mem_cons_of_mem event member)

end Specification

section Machine
variable {step : σ → ε → ο × σ} {good : σ → ε → Prop} {start : σ} {first second events : List ε}

theorem respond_append :
    respond step start (first ++ second) =
      ((respond step start first).1 ++ (respond step (respond step start first).2 second).1,
        (respond step (respond step start first).2 second).2) := by
  induction first generalizing start with
  | nil => rfl
  | cons event rest ih => simp [respond, ih]

/-- The states of the machine, as `run` goes through them. -/
theorem run_respond (events : List ε) :
    run (fun state event => some (step state event).2) start events =
      some (respond step start events).2 := by
  induction events generalizing start with
  | nil => rfl
  | cons event rest ih => exact ih

/-- Forward simulation. -/
theorem respond_allowed {spec : α → ε → ο → α → Prop} {related : σ → α → Prop}
    (simulates : ∀ state abstract event, related state abstract → good state event →
      ∃ next, spec abstract event (step state event).1 next ∧ related (step state event).2 next)
    {abstract : α} (initial : related start abstract)
    (along : Along (fun state event => some (step state event).2) good start events) :
    ∃ final, Allows spec abstract events (respond step start events).1 final ∧
      related (respond step start events).2 final := by
  induction events generalizing start abstract with
  | nil => exact ⟨abstract, .nil abstract, initial⟩
  | cons event rest ih =>
    obtain ⟨next, allowed, later⟩ := simulates start abstract event initial along.1
    obtain ⟨final, others, last⟩ := ih later (along.2 _ rfl)
    exact ⟨final, .cons allowed others, last⟩

end Machine

end Xrpc.Support
