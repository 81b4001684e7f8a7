import Xrpc.Registry.NodeView

/-! `Delete` and the handler of the deletion both come to the entry of `watchers_`;
the phases of their race. -/

namespace Xrpc

open Support ZookeeperClient

namespace NodeView

/-- The deletion has not come to the lookup of the callback. -/
def Undelivered (view : NodeView) : Prop :=
  (view.waiting = [.deleted] ∧ view.stage = none) ∨
    (view.waiting = [] ∧ view.stage = some (.lookup .deleted))

/-- The handler has found the callback. -/
def Heard (callback : Nat) (view : NodeView) : Prop :=
  view.waiting = [] ∧
  match view.stage with
  | some (.forgetting found) => found = callback
  | some (.calling found data _) => found = callback ∧ data = []
  | some (.arming _) | none => (callback, []) ∈ view.told
  | _ => False

/-- The callback was gone before the handler looked for it. -/
structure Deaf (view : NodeView) : Prop where
  watcher : view.watcher = none
  told : view.told = []
  stage : view.Undelivered ∨ view.Calm

variable {callback : Nat} {view : NodeView}

theorem Undelivered.deliver (undelivered : view.Undelivered) (idle : view.stage = none) :
    view.deliver.Undelivered := by
  rcases undelivered with ⟨waiting, -⟩ | ⟨-, handling⟩
  · rw [NodeView.deliver, waiting]
    exact .inr ⟨rfl, rfl⟩
  · rw [idle] at handling
    cases handling

theorem Calm.deliver (calm : view.Calm) : view.deliver = view := by
  rw [NodeView.deliver, calm.1]

theorem Heard.deliver (heard : view.Heard callback) : view.deliver.Heard callback := by
  have before := heard
  rw [NodeView.deliver, heard.1]
  exact before

theorem Deaf.deliver (deaf : view.Deaf) (idle : view.stage = none) : view.deliver.Deaf := by
  rcases deaf.stage with undelivered | calm
  · refine ⟨?_, ?_, .inl (undelivered.deliver idle)⟩
    · rw [deliver_watcher]
      exact deaf.watcher
    · rw [deliver_told]
      exact deaf.told
  · rw [calm.deliver]
    exact deaf

/-- The lookup finds the callback. -/
theorem Undelivered.handle (undelivered : view.Undelivered) (watcher : view.watcher = some callback)
    {stage : HandlerStage} (handling : view.stage = some stage) :
    (view.handle stage).Heard callback := by
  rcases undelivered with ⟨-, idle⟩ | ⟨waiting, lookup⟩
  · rw [idle] at handling
    cases handling
  · rw [lookup] at handling
    cases handling
    rw [NodeView.handle, watcher]
    exact ⟨waiting, rfl⟩

theorem Heard.handle (heard : view.Heard callback) {stage : HandlerStage}
    (handling : view.stage = some stage) : (view.handle stage).Heard callback := by
  obtain ⟨waiting, heard⟩ := heard
  rw [handling] at heard
  cases stage with
  | forgetting found =>
    subst found
    exact ⟨waiting, rfl, rfl⟩
  | calling found data guarded =>
    obtain ⟨rfl, rfl⟩ := heard
    exact ⟨waiting, List.mem_append_right _ (List.mem_singleton_self _)⟩
  | arming guarded => exact ⟨waiting, heard⟩
  | lookup event => exact heard.elim
  | reading found => exact heard.elim
  | storing found data => exact heard.elim
  | clearing => exact heard.elim

theorem Deaf.handle (deaf : view.Deaf) {stage : HandlerStage} (handling : view.stage = some stage) :
    (view.handle stage).Deaf := by
  rcases deaf.stage with (⟨-, idle⟩ | ⟨waiting, lookup⟩) | calm
  · rw [idle] at handling
    cases handling
  · rw [lookup] at handling
    cases handling
    rw [NodeView.handle, deaf.watcher]
    exact ⟨rfl, deaf.told, .inr ⟨waiting, rfl⟩⟩
  · rw [calm.2] at handling
    cases handling

end NodeView

/-- `Delete` has not deleted the node, and the watch is set. -/
structure Present (path : Bytes) (callback : Nat) (view : NodeView) (call : Option OwnCall) : Prop where
  present : view.node.isSome
  calm : view.Calm
  armed : view.armed = true
  watcher : view.watcher = some callback
  told : view.told = []
  call : call = none ∨ call = some (.deleting path)

/-- The node is gone, and the handler and `Delete` are both to come to the callback. -/
structure Racing (path : Bytes) (callback : Nat) (view : NodeView) (call : Option OwnCall) : Prop where
  absent : view.node = none
  undelivered : view.Undelivered
  watcher : view.watcher = some callback
  told : view.told = []
  call : call = some (.forgetting path)

/-- The handler has come first. -/
structure Won (path : Bytes) (callback : Nat) (view : NodeView) (call : Option OwnCall) : Prop where
  absent : view.node = none
  heard : view.Heard callback
  call : call = none ∨ call = some (.forgetting path)

/-- `Delete` has come first. -/
structure Beaten (view : NodeView) (call : Option OwnCall) : Prop where
  absent : view.node = none
  deaf : view.Deaf
  call : call = none

def OnTime (path : Bytes) (callback : Nat) (view : NodeView) (call : Option OwnCall) : Prop :=
  Present path callback view call ∨ Racing path callback view call ∨ Won path callback view call

section Phases
variable {path : Bytes} {callback : Nat} {view : NodeView} {call : Option OwnCall}

/-- `Delete` can begin where none is under way. -/
theorem OnTime.begin (onTime : OnTime path callback view none) :
    OnTime path callback view (if view.node.isSome then some (.deleting path) else none) := by
  rcases onTime with present | racing | won
  · rw [if_pos present.present]
    exact .inl { present with call := .inr rfl }
  · exact nomatch racing.call
  · rw [won.absent]
    exact .inr (.inr won)

theorem OnTime.deliver (onTime : OnTime path callback view call) (idle : view.stage = none) :
    OnTime path callback view.deliver call := by
  rcases onTime with present | racing | won
  · rw [present.calm.deliver]
    exact .inl present
  · refine .inr (.inl ⟨?_, racing.undelivered.deliver idle, ?_, ?_, racing.call⟩)
    · rw [NodeView.deliver_node]
      exact racing.absent
    · rw [NodeView.deliver_watcher]
      exact racing.watcher
    · rw [NodeView.deliver_told]
      exact racing.told
  · refine .inr (.inr ⟨?_, won.heard.deliver, won.call⟩)
    rw [NodeView.deliver_node]
    exact won.absent

theorem OnTime.handle (onTime : OnTime path callback view call) {stage : HandlerStage}
    (handling : view.stage = some stage) : OnTime path callback (view.handle stage) call := by
  rcases onTime with present | racing | won
  · rw [present.calm.2] at handling
    cases handling
  · refine .inr (.inr ⟨?_, racing.undelivered.handle racing.watcher handling, .inr racing.call⟩)
    rw [NodeView.handle_node]
    exact racing.absent
  · refine .inr (.inr ⟨?_, won.heard.handle handling, won.call⟩)
    rw [NodeView.handle_node]
    exact won.absent

/-- `zoo_delete` fails, and `Delete` throws. -/
theorem OnTime.refuse (onTime : OnTime path callback view (some (.deleting path))) :
    OnTime path callback view none := by
  rcases onTime with present | racing | won
  · exact .inl { present with call := .inl rfl }
  · exact nomatch racing.call
  · rcases won.call with idle | forgetting
    · cases idle
    · cases forgetting

/-- `zoo_delete` sets the watch off. -/
theorem OnTime.delete (onTime : OnTime path callback view (some (.deleting path))) :
    OnTime path callback (view.change none) (some (.forgetting path)) := by
  rcases onTime with present | racing | won
  · obtain ⟨node, here⟩ := Option.isSome_iff_exists.mp present.present
    have changed : NodeEvent.ofChange view.node none = some .deleted := by
      rw [here]
      rfl
    rw [NodeView.change_of_event changed]
    refine .inr (.inl ⟨rfl, .inl ⟨?_, present.calm.2⟩, present.watcher, present.told, rfl⟩)
    simp [present.armed, present.calm.1]
  · exact nomatch racing.call
  · rcases won.call with idle | forgetting
    · cases idle
    · cases forgetting

/-- The callback is taken away. -/
theorem OnTime.forget (onTime : OnTime path callback view (some (.forgetting path)))
    (cached : Option Bytes) :
    (¬ view.Undelivered → OnTime path callback { view with watcher := none, cached } none) ∧
      (view.Undelivered → Beaten { view with watcher := none, cached } none) := by
  rcases onTime with present | racing | won
  · rcases present.call with idle | deleting
    · cases idle
    · cases deleting
  · exact ⟨fun delivered => absurd racing.undelivered delivered,
      fun undelivered => ⟨racing.absent, ⟨rfl, racing.told, .inl undelivered⟩, rfl⟩⟩
  · refine ⟨fun _ => .inr (.inr ⟨won.absent, won.heard, .inl rfl⟩), ?_⟩
    intro undelivered
    obtain ⟨waiting, heard⟩ := won.heard
    rcases undelivered with ⟨there, -⟩ | ⟨-, lookup⟩
    · rw [waiting] at there
      cases there
    · rw [lookup] at heard
      exact heard.elim

/-- The end of a run in which the handler has come first. -/
theorem OnTime.told (onTime : OnTime path callback view none) (absent : view.node = none)
    (calm : view.Calm) : (callback, []) ∈ view.told := by
  rcases onTime with present | racing | won
  · have here := present.present
    rw [absent] at here
    cases here
  · exact nomatch racing.call
  · obtain ⟨-, heard⟩ := won.heard
    rw [calm.2] at heard
    exact heard

theorem Beaten.deliver (beaten : Beaten view call) (idle : view.stage = none) :
    Beaten view.deliver call where
  absent := by
    rw [NodeView.deliver_node]
    exact beaten.absent
  deaf := beaten.deaf.deliver idle
  call := beaten.call

theorem Beaten.handle (beaten : Beaten view call) {stage : HandlerStage}
    (handling : view.stage = some stage) : Beaten (view.handle stage) call where
  absent := by
    rw [NodeView.handle_node]
    exact beaten.absent
  deaf := beaten.deaf.handle handling
  call := beaten.call

end Phases

end Xrpc
