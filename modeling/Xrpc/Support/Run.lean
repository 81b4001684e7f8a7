import Mathlib.Tactic.Common
import Mathlib.Data.List.Induction
import Mathlib.Order.WellFounded

/-! Runs of a partial step function over a list of events, and the induction
that carries an invariant along a run whose steps all meet a side condition. -/

namespace Xrpc.Support

variable {σ ε : Type} {step : σ → ε → Option σ} {good : σ → ε → Prop}

/-- Take the events in order; `none` as soon as one is not enabled. -/
def run (step : σ → ε → Option σ) : σ → List ε → Option σ
  | state, [] => some state
  | state, event :: rest => (step state event).bind fun next => run step next rest

/-- Every step of the run starts in a state where it meets `good`. -/
def Along (step : σ → ε → Option σ) (good : σ → ε → Prop) : σ → List ε → Prop
  | _, [] => True
  | state, event :: rest =>
    good state event ∧ ∀ next, step state event = some next → Along step good next rest

/-- Runs can be checked step by step. -/
instance [∀ state event, Decidable (good state event)] :
    ∀ state events, Decidable (Along step good state events)
  | _, [] => .isTrue trivial
  | state, event :: rest =>
    match taken : step state event with
    | none =>
      decidable_of_iff (good state event)
        ⟨fun met => ⟨met, fun _ same => nomatch taken.symm.trans same⟩, And.left⟩
    | some next =>
      have := instDecidableAlong next rest
      decidable_of_iff (good state event ∧ Along step good next rest)
        ⟨fun both => ⟨both.1, fun _ same => Option.some.inj (taken.symm.trans same) ▸ both.2⟩,
          fun both => ⟨both.1, both.2 next taken⟩⟩

@[simp] theorem run_nil (state : σ) : run step state [] = some state := rfl

theorem run_cons_eq_some {state final : σ} {event : ε} {rest : List ε} :
    run step state (event :: rest) = some final ↔
      ∃ next, step state event = some next ∧ run step next rest = some final := by
  simp [run, Option.bind_eq_some_iff]

theorem run_append {state : σ} {first second : List ε} :
    run step state (first ++ second) = (run step state first).bind (run step · second) := by
  induction first generalizing state with
  | nil => rfl
  | cons event rest ih =>
    cases taken : step state event with
    | none => simp [run, taken]
    | some next => simp [run, taken, ih]

/-- A property that holds at the start and that every good step keeps holds at
the end of every good run. -/
theorem run_preserves {invariant : σ → Prop}
    (kept : ∀ state event next, invariant state → good state event →
      step state event = some next → invariant next)
    {state final : σ} {events : List ε} (initial : invariant state)
    (along : Along step good state events) (reached : run step state events = some final) :
    invariant final := by
  induction events generalizing state with
  | nil => exact Option.some.inj reached ▸ initial
  | cons event rest ih =>
    obtain ⟨next, taken, remaining⟩ := run_cons_eq_some.mp reached
    exact ih (kept state event next initial along.1 taken) (along.2 next taken) remaining

theorem along_of_forall {allowed : ε → Prop} {events : List ε}
    (all : ∀ event ∈ events, allowed event) (state : σ) :
    Along step (fun _ event => allowed event) state events := by
  induction events generalizing state with
  | nil => trivial
  | cons event rest ih =>
    exact ⟨all event List.mem_cons_self,
      fun next _ => ih (fun other member => all other (List.mem_cons_of_mem event member)) next⟩

/-- A run in two parts. -/
theorem along_append {state : σ} {first second : List ε} :
    Along step good state (first ++ second) ↔ Along step good state first ∧
      ∀ next, run step state first = some next → Along step good next second := by
  induction first generalizing state with
  | nil =>
    constructor
    · intro along
      refine ⟨trivial, ?_⟩
      rintro _ ⟨rfl⟩
      exact along
    · exact fun both => both.2 state rfl
  | cons event rest ih =>
    constructor
    · intro ⟨now, later⟩
      refine ⟨⟨now, fun next taken => (ih.mp (later next taken)).1⟩, ?_⟩
      intro final reached
      obtain ⟨next, taken, remaining⟩ := run_cons_eq_some.mp reached
      exact (ih.mp (later next taken)).2 final remaining
    · rintro ⟨⟨now, later⟩, after⟩
      refine ⟨now, fun next taken => ih.mpr ⟨later next taken, ?_⟩⟩
      intro final remaining
      exact after final (run_cons_eq_some.mpr ⟨next, taken, remaining⟩)

theorem Along.and {also : σ → ε → Prop} {state : σ} {events : List ε}
    (first : Along step good state events) (second : Along step also state events) :
    Along step (fun state event => good state event ∧ also state event) state events := by
  induction events generalizing state with
  | nil => trivial
  | cons event rest ih =>
    exact ⟨⟨first.1, second.1⟩, fun next taken => ih (first.2 next taken) (second.2 next taken)⟩

/-- The unconditional case of `run_preserves`. -/
theorem run_invariant {invariant : σ → Prop}
    (kept : ∀ state event next, invariant state → step state event = some next → invariant next)
    {state final : σ} {events : List ε} (initial : invariant state)
    (reached : run step state events = some final) : invariant final := by
  induction events generalizing state with
  | nil => exact Option.some.inj reached ▸ initial
  | cons event rest ih =>
    obtain ⟨next, taken, remaining⟩ := run_cons_eq_some.mp reached
    exact ih (kept state event next initial taken) remaining

/-- Where a step that is not good leads to a state of no return, a run ends there, or
all its steps are good. Only the events that `allowed` admits are taken. -/
theorem along_cases {allowed : ε → Prop} {fine lost : σ → Prop}
    (kept : ∀ state event next, allowed event → fine state → good state event →
      step state event = some next → fine next)
    (falls : ∀ state event next, allowed event → fine state → ¬ good state event →
      step state event = some next → lost next)
    (stays : ∀ state event next, allowed event → lost state → step state event = some next →
      lost next)
    {first final : σ} {events : List ε} (all : ∀ event ∈ events, allowed event)
    (initial : fine first) (reached : run step first events = some final) :
    (fine final ∧ Along step good first events) ∨ (lost final ∧ ¬ Along step good first events) := by
  induction events generalizing first with
  | nil =>
    cases reached
    exact .inl ⟨initial, trivial⟩
  | cons event rest ih =>
    obtain ⟨next, taken, remaining⟩ := run_cons_eq_some.mp reached
    have now := all event List.mem_cons_self
    have later : ∀ event ∈ rest, allowed event :=
      fun other member => all other (List.mem_cons_of_mem event member)
    by_cases met : good first event
    · rcases ih later (kept first event next now initial met taken) remaining with
        ⟨still, along⟩ | ⟨gone, off⟩
      · refine .inl ⟨still, met, ?_⟩
        intro other same
        exact Option.some.inj (taken.symm.trans same) ▸ along
      · exact .inr ⟨gone, fun along => off (along.2 next taken)⟩
    · have gone := run_preserves
        (fun state event next lost now taken => stays state event next now lost taken)
        (falls first event next now initial met taken) (along_of_forall later next) remaining
      exact .inr ⟨gone, fun along => met along.1⟩

/-- A run ends well if and only if all its steps are good. -/
theorem along_iff_of {allowed : ε → Prop} {fine lost holds : σ → Prop}
    (kept : ∀ state event next, allowed event → fine state → good state event →
      step state event = some next → fine next)
    (falls : ∀ state event next, allowed event → fine state → ¬ good state event →
      step state event = some next → lost next)
    (stays : ∀ state event next, allowed event → lost state → step state event = some next →
      lost next)
    (well : ∀ state, fine state → holds state) (ill : ∀ state, lost state → ¬ holds state)
    {first final : σ} {events : List ε} (all : ∀ event ∈ events, allowed event)
    (initial : fine first) (reached : run step first events = some final) :
    holds final ↔ Along step good first events := by
  rcases along_cases kept falls stays all initial reached with ⟨still, along⟩ | ⟨gone, off⟩
  · exact iff_of_true (well final still) along
  · exact iff_of_false (ill final gone) off

/-- The case in which every event is allowed. -/
theorem along_iff {fine lost holds : σ → Prop}
    (kept : ∀ state event next, fine state → good state event →
      step state event = some next → fine next)
    (falls : ∀ state event next, fine state → ¬ good state event →
      step state event = some next → lost next)
    (stays : ∀ state event next, lost state → step state event = some next → lost next)
    (well : ∀ state, fine state → holds state) (ill : ∀ state, lost state → ¬ holds state)
    {first final : σ} {events : List ε} (initial : fine first)
    (reached : run step first events = some final) :
    holds final ↔ Along step good first events :=
  along_iff_of (fun state event next _ => kept state event next)
    (fun state event next _ => falls state event next)
    (fun state event next _ => stays state event next) well ill (fun _ _ => trivial) initial reached

/-- Where every state that is not done has a run to one that is nearer, there is a run to
the end. Only events that `allowed` admits are taken. -/
theorem exists_run_until {α : Type} [Preorder α] [WellFoundedLT α] {invariant done : σ → Prop}
    {allowed : ε → Prop} (distance : σ → α)
    (nearer : ∀ state, invariant state → ¬ done state → ∃ events next,
      (∀ event ∈ events, allowed event) ∧ run step state events = some next ∧ invariant next ∧
        distance next < distance state)
    (state : σ) (initial : invariant state) :
    ∃ events final, (∀ event ∈ events, allowed event) ∧ run step state events = some final ∧
      invariant final ∧ done final := by
  induction state using (InvImage.wf distance wellFounded_lt).induction with
  | _ state ih =>
    by_cases finished : done state
    · exact ⟨[], state, by simp, rfl, initial, finished⟩
    · obtain ⟨first, next, early, reached, kept, closer⟩ := nearer state initial finished
      obtain ⟨rest, final, late, arrived, holds, finished⟩ := ih next closer kept
      refine ⟨first ++ rest, final, ?_, ?_, holds, finished⟩
      · intro event member
        exact (List.mem_append.mp member).elim (early event) (late event)
      · rw [run_append, reached]
        exact arrived

/-- What holds at the end of a run held at its start, or one of its events brought it about. -/
theorem exists_cause {holds : σ → Prop} {start final : σ} {events : List ε}
    (reached : run step start events = some final) (now : holds final) :
    holds start ∨ ∃ earlier event later before after, events = earlier ++ event :: later ∧
      run step start earlier = some before ∧ step before event = some after ∧
      ¬ holds before ∧ holds after := by
  induction events generalizing start with
  | nil =>
    cases reached
    exact .inl now
  | cons event rest ih =>
    obtain ⟨next, taken, remaining⟩ := run_cons_eq_some.mp reached
    by_cases here : holds start
    · exact .inl here
    · refine .inr ?_
      rcases ih remaining with at_once | ⟨earlier, cause, later, before, after, rfl, sofar, caused⟩
      · exact ⟨[], event, rest, start, next, rfl, rfl, taken, here, at_once⟩
      · exact ⟨event :: earlier, cause, later, before, after, rfl,
          run_cons_eq_some.mpr ⟨next, taken, sofar⟩, caused⟩

/-- The states that a run goes through, its start and its end included. -/
def Visited (step : σ → ε → Option σ) (start : σ) (events : List ε) (state : σ) : Prop :=
  ∃ before after, events = before ++ after ∧ run step start before = some state

/-- Some state of the past has met `met`. -/
def Once (past met : σ → Prop) : Prop := ∃ state, past state ∧ met state

section Memory
variable {past more met : σ → Prop} {start final : σ} {events : List ε}

theorem Once.mono (once : Once past met) (grown : ∀ state, past state → more state) :
    Once more met := by
  obtain ⟨state, before, here⟩ := once
  exact ⟨state, grown state before, here⟩

theorem visited_final (reached : run step start events = some final) :
    Visited step start events final := ⟨events, [], by simp, reached⟩

theorem Visited.append {state : σ} (visited : Visited step start events state) (more : List ε) :
    Visited step start (events ++ more) state := by
  obtain ⟨before, after, split, reached⟩ := visited
  exact ⟨before, after ++ more, by rw [split, List.append_assoc], reached⟩

theorem Visited.prepend {first state : σ} {before : List ε}
    (reached : run step first before = some start) (visited : Visited step start events state) :
    Visited step first (before ++ events) state := by
  obtain ⟨sofar, after, rfl, arrived⟩ := visited
  refine ⟨before ++ sofar, after, (List.append_assoc _ _ _).symm, ?_⟩
  rw [run_append, reached]
  exact arrived

/-- An invariant that a state owes to the states before it. It is not lost as the past
grows, so each good step has to establish it for the state that is new. -/
theorem run_remembers_along {recalls : (σ → Prop) → σ → Prop}
    (grows : ∀ {past more : σ → Prop} {state : σ}, (∀ earlier, past earlier → more earlier) →
      recalls past state → recalls more state)
    (kept : ∀ (past : σ → Prop) state event next, past state → recalls past state →
      good state event → step state event = some next →
        recalls (fun earlier => past earlier ∨ earlier = next) next)
    (initial : recalls (· = start) start) (along : Along step good start events)
    (reached : run step start events = some final) :
    recalls (Visited step start events) final := by
  induction events using List.reverseRecOn generalizing final with
  | nil =>
    cases reached
    refine grows ?_ initial
    rintro _ rfl
    exact visited_final rfl
  | append_singleton before event ih =>
    rw [run_append, Option.bind_eq_some_iff] at reached
    obtain ⟨state, sofar, last⟩ := reached
    obtain ⟨next, taken, done⟩ := run_cons_eq_some.mp last
    cases done
    obtain ⟨early, late⟩ := along_append.mp along
    have met : good state event := (late state sofar).1
    refine grows ?_ (kept _ state event final (visited_final sofar) (ih early sofar) met taken)
    rintro earlier (visited | rfl)
    · exact visited.append [event]
    · refine visited_final ?_
      rw [run_append, sofar]
      exact last

/-- The unconditional case of `run_remembers_along`. -/
theorem run_remembers {recalls : (σ → Prop) → σ → Prop}
    (grows : ∀ {past more : σ → Prop} {state : σ}, (∀ earlier, past earlier → more earlier) →
      recalls past state → recalls more state)
    (kept : ∀ (past : σ → Prop) state event next, past state → recalls past state →
      step state event = some next → recalls (fun earlier => past earlier ∨ earlier = next) next)
    (initial : recalls (· = start) start) (reached : run step start events = some final) :
    recalls (Visited step start events) final :=
  run_remembers_along grows
    (fun past state event next now recalled _ taken => kept past state event next now recalled taken)
    initial (along_of_forall (fun _ _ => trivial) start) reached

end Memory

end Xrpc.Support
