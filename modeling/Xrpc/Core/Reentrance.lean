import Xrpc.Core.Controller
import Xrpc.Support.Run

/-! One thread inside the members of `XrpcController`, with `mutex_` and the
closures that run while it is held. -/

namespace Xrpc

open Support

/-- The calls a cancel closure can make on its controller. -/
inductive MemberCall
  | isCanceled
  | failed
  | errorText
  | setFailed (reason : Bytes)
  | reset
  | startCancel
  | notifyOnCancel (callback : Option Nat)
  deriving DecidableEq

/-- A use of the controller: a call or its destruction. -/
inductive Entry
  | call (call : MemberCall)
  | destroy
  deriving DecidableEq

/-- What the thread has still to do, the rest of a member function included. -/
inductive Task
  | enter (entry : Entry)
  | clearCallback
  | unlock
  deriving DecidableEq

namespace XrpcController

/-- The controller that a use leaves behind once it returned. -/
def after (controller : XrpcController) : Entry → XrpcController
  | .call (.setFailed reason) => controller.setFailed reason
  | .call .reset => controller.reset
  | .call .startCancel => controller.startCancel
  | .call (.notifyOnCancel callback) => controller.notifyOnCancel callback
  | _ => controller

/-- The closure that a use of the controller runs. -/
def runs (controller : XrpcController) : Entry → Option Nat
  | .call .startCancel => if controller.canceled then none else controller.cancelCallback
  | .call (.notifyOnCancel callback) => if controller.canceled then callback else none
  | .destroy => if controller.canceled then none else controller.cancelCallback
  | _ => none

end XrpcController

/-- A controller with its `mutex_`, the closures that have run, and the thread that uses it. -/
structure ControllerThread where
  controller : XrpcController
  held : Bool := false
  ran : List Nat := []
  todo : List Task
  deriving DecidableEq

namespace ControllerThread

/-- The thread is about to lock `mutex_`, which it holds already. -/
def Relocks (thread : ControllerThread) : Prop :=
  thread.held = true ∧ ∃ entry, thread.todo.head? = some (.enter entry)

/-- `callback->Run()`: the calls of its body come before the rest of the function. -/
def runClosure (thread : ControllerThread) (bodies : Nat → List MemberCall) (callback : Nat)
    (rest : List Task) : ControllerThread :=
  { thread with
    ran := thread.ran ++ [callback]
    todo := (bodies callback).map (fun call => .enter (.call call)) ++ rest }

/-- A member function from its lock on, up to a closure that it runs. -/
def enter (thread : ControllerThread) (bodies : Nat → List MemberCall) (rest : List Task) :
    Entry → ControllerThread
  | .call (.setFailed reason) =>
    { thread with controller := thread.controller.setFailed reason, todo := .unlock :: rest }
  | .call .reset => { thread with controller := thread.controller.reset, todo := .unlock :: rest }
  | .call .startCancel =>
    if thread.controller.canceled then { thread with todo := .unlock :: rest }
    else
      let marked := { thread with controller.canceled := true }
      match thread.controller.cancelCallback with
      | some callback => marked.runClosure bodies callback (.clearCallback :: .unlock :: rest)
      | none => { marked with todo := .unlock :: rest }
  | .call (.notifyOnCancel callback) =>
    let noted := { thread with controller.cancelCallback := callback }
    match callback with
    | some name =>
      if thread.controller.canceled then
        noted.runClosure bodies name (.clearCallback :: .unlock :: rest)
      else { noted with todo := .unlock :: rest }
    | none => { noted with todo := .unlock :: rest }
  | .destroy =>
    match thread.controller.cancelCallback with
    | some callback =>
      if thread.controller.canceled then { thread with todo := .unlock :: rest }
      else thread.runClosure bodies callback (.unlock :: rest)
    | none => { thread with todo := .unlock :: rest }
  | _ => { thread with todo := .unlock :: rest }

/-- The next step; a thread that locks `mutex_` a second time makes none. -/
def step (bodies : Nat → List MemberCall) (thread : ControllerThread) (_ : Unit) :
    Option ControllerThread :=
  match thread.todo with
  | [] => none
  | .unlock :: rest => some { thread with held := false, todo := rest }
  | .clearCallback :: rest =>
    some { thread with controller.cancelCallback := none, todo := rest }
  | .enter entry :: rest =>
    if thread.held then none else some ({ thread with held := true }.enter bodies rest entry)

section Entering
variable (thread : ControllerThread) (bodies : Nat → List MemberCall) (rest : List Task)
  {entry : Entry}

/-- Without a closure to run, a use goes from its lock to its unlock. -/
theorem enter_of_none (quiet : thread.controller.runs entry = none) :
    thread.enter bodies rest entry =
      { thread with controller := thread.controller.after entry, todo := .unlock :: rest } := by
  obtain ⟨⟨failed, errorText, canceled, pending⟩, held, ran, todo⟩ := thread
  cases entry with
  | destroy =>
    cases pending with
    | none => rfl
    | some name =>
      have flagged : canceled = true := by simpa [XrpcController.runs] using quiet
      simp [enter, XrpcController.after, flagged]
  | call call =>
    cases call with
    | startCancel =>
      cases canceled with
      | true => rfl
      | false =>
        have absent : pending = none := by simpa [XrpcController.runs] using quiet
        simp [enter, XrpcController.after, XrpcController.startCancel, absent]
    | notifyOnCancel callback =>
      cases callback with
      | none => simp [enter, XrpcController.after, XrpcController.notifyOnCancel]
      | some name =>
        have live : canceled = false := by simpa [XrpcController.runs] using quiet
        simp [enter, XrpcController.after, XrpcController.notifyOnCancel, live]
    | isCanceled => rfl
    | failed => rfl
    | errorText => rfl
    | setFailed reason => rfl
    | reset => rfl

/-- Where a use runs a closure, only a cleared pointer and the unlock come after its calls. -/
theorem enter_of_some {name : Nat} (found : thread.controller.runs entry = some name) :
    ∃ marked tail,
      thread.enter bodies rest entry = { thread with
        controller := marked
        ran := thread.ran ++ [name]
        todo := (bodies name).map (fun call => .enter (.call call)) ++ (tail ++ rest) } ∧
      ((tail = [.unlock] ∧ marked = thread.controller.after entry) ∨
        (tail = [.clearCallback, .unlock] ∧
          { marked with cancelCallback := none } = thread.controller.after entry)) := by
  obtain ⟨⟨failed, errorText, canceled, pending⟩, held, ran, todo⟩ := thread
  cases entry with
  | destroy =>
    cases canceled with
    | true => cases found
    | false =>
      have waiting : pending = some name := by simpa [XrpcController.runs] using found
      subst waiting
      exact ⟨_, [.unlock], rfl, .inl ⟨rfl, rfl⟩⟩
  | call call =>
    cases call with
    | startCancel =>
      cases canceled with
      | true => cases found
      | false =>
        have waiting : pending = some name := by simpa [XrpcController.runs] using found
        subst waiting
        exact ⟨_, [.clearCallback, .unlock], rfl, .inr ⟨rfl, rfl⟩⟩
    | notifyOnCancel callback =>
      cases canceled with
      | false => cases found
      | true =>
        have given : callback = some name := by simpa [XrpcController.runs] using found
        subst given
        exact ⟨_, [.clearCallback, .unlock], rfl, .inr ⟨rfl, rfl⟩⟩
    | isCanceled => cases found
    | failed => cases found
    | errorText => cases found
    | setFailed reason => cases found
    | reset => cases found

end Entering

/-- A thread outside the controller, about to use it once. -/
def start (controller : XrpcController) (entry : Entry) : ControllerThread :=
  { controller := controller, todo := [.enter entry] }

/-- A use whose closure makes no call comes to its end: the lock is free again and the
controller is as `after` says. -/
theorem run_enter {bodies : Nat → List MemberCall} {controller : XrpcController} {entry : Entry}
    (quiet : ∀ name, controller.runs entry = some name → bodies name = []) (ran : List Nat)
    (rest : List Task) :
    ∃ steps, run (step bodies)
      { controller := controller, ran := ran, todo := .enter entry :: rest } steps =
      some
        { controller := controller.after entry
          ran := ran ++ (controller.runs entry).toList
          todo := rest } := by
  cases found : controller.runs entry with
  | none =>
    have entered := enter_of_none ⟨controller, true, ran, .enter entry :: rest⟩ bodies rest found
    refine ⟨[(), ()], ?_⟩
    simp [run, step, entered]
  | some name =>
    obtain ⟨marked, tail, entered, finish⟩ := enter_of_some
      ⟨controller, true, ran, .enter entry :: rest⟩ bodies rest found
    rcases finish with ⟨rfl, same⟩ | ⟨rfl, same⟩
    · refine ⟨[(), ()], ?_⟩
      simp [run, step, entered, quiet name found, same]
    · refine ⟨[(), (), ()], ?_⟩
      simp [run, step, entered, quiet name found, ← same]

/-- No use of the controller is left to make, or the thread has not begun. -/
def Calm (controller : XrpcController) (entry : Entry) (thread : ControllerThread) : Prop :=
  thread = start controller entry ∨ ∀ other, .enter other ∉ thread.todo

theorem Calm.not_relocks {controller : XrpcController} {entry : Entry} {thread : ControllerThread}
    (calm : Calm controller entry thread) : ¬ thread.Relocks := by
  rintro ⟨held, other, next⟩
  rcases calm with rfl | absent
  · cases held
  · exact absent other (List.mem_of_head? next)

theorem Calm.step {bodies : Nat → List MemberCall} {controller : XrpcController} {entry : Entry}
    (quiet : ∀ name, controller.runs entry = some name → bodies name = [])
    {thread next : ControllerThread} (calm : Calm controller entry thread)
    (taken : thread.step bodies () = some next) : Calm controller entry next := by
  right
  intro other member
  rcases calm with rfl | absent
  · have entered := Option.some.inj taken
    subst entered
    cases found : controller.runs entry with
    | none =>
      rw [enter_of_none { start controller entry with held := true } bodies [] found] at member
      simp at member
    | some name =>
      obtain ⟨marked, tail, entered, finish⟩ := enter_of_some
        { start controller entry with held := true } bodies [] found
      rw [entered] at member
      rcases finish with ⟨rfl, -⟩ | ⟨rfl, -⟩
      · simp [quiet name found] at member
      · simp [quiet name found] at member
  · unfold ControllerThread.step at taken
    split at taken
    · cases taken
    · rename_i rest todo
      cases taken
      exact absent other (by rw [todo]; exact List.mem_cons_of_mem _ member)
    · rename_i rest todo
      cases taken
      exact absent other (by rw [todo]; exact List.mem_cons_of_mem _ member)
    · rename_i first rest todo
      exact absent first (by rw [todo]; exact List.mem_cons_self)

/-- The members of the controller never lock `mutex_` twice if and only if the closure
that they run makes no call on the controller. -/
theorem never_relocks_iff (bodies : Nat → List MemberCall) (controller : XrpcController)
    (entry : Entry) :
    (∀ steps thread, run (step bodies) (start controller entry) steps = some thread →
      ¬ thread.Relocks) ↔
    ∀ name, controller.runs entry = some name → bodies name = [] := by
  constructor
  · intro never name found
    obtain ⟨marked, tail, entered, -⟩ := enter_of_some
      { start controller entry with held := true } bodies [] found
    have reached : run (step bodies) (start controller entry) [()] = some _ :=
      congrArg some entered
    cases body : bodies name with
    | nil => rfl
    | cons call others =>
      refine absurd ?_ (never _ _ reached)
      exact ⟨rfl, .call call, by simp [body]⟩
  · intro quiet steps thread reached
    have calm : Calm controller entry thread :=
      run_invariant (fun _ event _ kept taken => by cases event; exact kept.step quiet taken)
        (.inl rfl) reached
    exact calm.not_relocks

/-- A closure that only reads `IsCanceled()` locks the mutex of a controller that is
being canceled. -/
theorem isCanceled_relocks :
    ¬ ∀ (bodies : Nat → List MemberCall) (controller : XrpcController) (entry : Entry)
      (steps : List Unit) (thread : ControllerThread),
      run (step bodies) (start controller entry) steps = some thread → ¬ thread.Relocks := by
  intro never
  refine never (fun _ => [.isCanceled]) { cancelCallback := some 0 } (.call .startCancel) [()] _
    rfl ?_
  exact ⟨rfl, .call .isCanceled, rfl⟩

end ControllerThread

end Xrpc
