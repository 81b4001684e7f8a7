import Xrpc.Registry.DeleteRace
import Xrpc.Registry.Updates

/-! Whether a client that deletes a node it watches is told of the deletion. -/

namespace Xrpc

open Support ZookeeperClient

section Delete
variable {Store : Type} {zk : ZooKeeper Store} {path : Bytes}

/-- The first step of `Delete` asks whether there is a node. -/
theorem perform_beginCall_delete (lawful : zk.Lawful) (watchable : Watchable zk path)
    {machine : SharedClient Store} (connected : machine.registry.client.connected = true) :
    ∃ store, zk.contents store = held zk machine.registry ∧
      machine.perform (beginCall zk (.delete path)) = { machine with
        registry.store := store
        call := if (held zk machine.registry path).isSome then some (.deleting path) else none } := by
  obtain ⟨session, opened⟩ := exists_session connected
  refine ⟨(zk.zooExists session path machine.registry.store).2, lawful.exists_contents _ _ _, ?_⟩
  have started : checkStarted.run machine.registry = .ok () machine.registry := by
    simp [checkStarted, opened]
  rw [SharedClient.perform, beginCall, EStateM.run_bind, started]
  dsimp only
  rw [EStateM.run_bind, run_request opened, cString_of_terminated watchable.terminated]
  rcases watchable.answered session machine.registry.store with ⟨version, answer⟩ | answer
  · obtain ⟨node, present, -⟩ := lawful.exists_ok _ _ _ _ answer
    have here : held zk machine.registry path = some node := present
    rw [answer, here]
    rfl
  · have absent : held zk machine.registry path = none := lawful.exists_noNode _ _ _ answer
    rw [answer, absent]
    rfl

/-- The node is deleted, or `Delete` throws. -/
theorem perform_deleting (lawful : zk.Lawful) (reliable : zk.Reliable) (watchable : Watchable zk path)
    {machine : SharedClient Store} (connected : machine.registry.client.connected = true) :
    ∃ store, (machine.perform (advance zk (.deleting path)) = { machine with
        registry.store := store
        call := none } ∧ zk.contents store = held zk machine.registry) ∨
      (machine.perform (advance zk (.deleting path)) = { machine with
        registry.store := store
        call := some (.forgetting path) } ∧ zk.contents store path = none) := by
  obtain ⟨session, opened⟩ := exists_session connected
  refine ⟨(zk.zooDelete session path machine.registry.store).2, ?_⟩
  rw [SharedClient.perform, advance, EStateM.run_bind, run_attempt opened,
    cString_of_terminated watchable.terminated]
  cases answer : (zk.zooDelete session path machine.registry.store).1 with
  | ok done =>
    refine .inr ⟨rfl, ?_⟩
    rw [lawful.delete_ok _ _ _ answer]
    exact Function.update_self _ _ _
  | error ret => exact .inl ⟨rfl, reliable.delete_refused _ _ _ _ answer⟩

/-- The end of `Delete` takes the callback away. -/
theorem perform_forgetting (watchable : Watchable zk path) (machine : SharedClient Store) :
    ∃ cache, machine.perform (advance zk (.forgetting path)) = { machine with
      registry.client.serviceCache := cache
      registry.client.watchers := machine.registry.client.watchers.erase path
      call := none } := by
  obtain ⟨service, segment⟩ := exists_serviceSegment watchable.nonempty
  refine ⟨machine.registry.client.serviceCache.retain service (· ≠ path), ?_⟩
  rw [SharedClient.perform, advance, EStateM.run_bind, run_forgetInstance segment]
  rfl

end Delete

section Runs
variable {Store : Type} {zk : ZooKeeper Store} {path : Bytes} {callback : Nat}
  {observed next : ObservedClient Store}

/-- `Delete` on the path, and the steps of `WatcherCallback`. -/
def OwnDeletion (path : Bytes) : WatchEvent Store → Prop
  | .client (.begin (.delete other)) => other = path
  | .client .advance | .deliver | .handle => True
  | _ => False

/-- `Delete` takes the callback away only after the handler of the event has found it. -/
def LookedUp (zk : ZooKeeper Store) (path : Bytes) (observed : ObservedClient Store) :
    WatchEvent Store → Prop
  | .client .advance => observed.client.shared.call = some (.forgetting path) →
      ¬ (observed.view zk path).Undelivered
  | _ => True

theorem view_own_client (lawful : zk.Lawful) (reliable : zk.Reliable) (watchable : Watchable zk path)
    (attending : Attending observed.client) {event : SharedEvent Store}
    (own : OwnDeletion path (.client event))
    (ours : ∀ call ∈ observed.client.shared.call, call = .deleting path ∨ call = .forgetting path)
    (taken : observed.step zk path (.client event) = some next) :
    (observed.client.shared.call = none ∧ next.view zk path = observed.view zk path ∧
      next.client.shared.call =
        if (observed.view zk path).node.isSome then some (.deleting path) else none) ∨
    (observed.client.shared.call = some (.deleting path) ∧
      (next.view zk path = observed.view zk path ∧ next.client.shared.call = none ∨
        next.view zk path = (observed.view zk path).change none ∧
          next.client.shared.call = some (.forgetting path))) ∨
    (event = .advance ∧ observed.client.shared.call = some (.forgetting path) ∧
      ∃ cached, next.view zk path = { observed.view zk path with watcher := none, cached } ∧
        next.client.shared.call = none) := by
  obtain ⟨shared, interleaved, left, view⟩ := view_client attending taken
  have connected := attending.connected
  cases SharedClient.transition_of_interleave interleaved with
  | @begin call idle =>
    cases call with
    | delete other =>
      have same : other = path := own
      subst other
      obtain ⟨store, kept, done⟩ := perform_beginCall_delete lawful watchable connected
      refine .inl ⟨idle, ?_, ?_⟩
      · refine (view.trans (view_client_same (by rw [done]; rfl))).trans ?_
        rw [done]
        exact NodeView.change_of_eq (congrFun kept path)
      · rw [left, done]
        rfl
    | _ => exact own.elim
  | @advance call waiting =>
    rcases ours call waiting with rfl | rfl
    · refine .inr (.inl ⟨waiting, ?_⟩)
      obtain ⟨store, ⟨done, kept⟩ | ⟨done, gone⟩⟩ :=
        perform_deleting lawful reliable watchable connected
      · refine .inl ⟨?_, ?_⟩
        · refine (view.trans (view_client_same (by rw [done]; rfl))).trans ?_
          rw [done]
          exact NodeView.change_of_eq (congrFun kept path)
        · rw [left, done]
          rfl
      · refine .inr ⟨?_, ?_⟩
        · have absent : held zk { observed.client.shared.registry with store } path = none := gone
          refine (view.trans (view_client_same (by rw [done]; rfl))).trans ?_
          rw [done]
          exact congrArg _ absent
        · rw [left, done]
          rfl
    · obtain ⟨cache, done⟩ := perform_forgetting watchable observed.client.shared
      refine .inr (.inr ⟨rfl, waiting, ServiceCache.dataOf cache path, ?_, ?_⟩)
      · rw [view, done, NodeView.change_of_eq (by rfl)]
        exact NodeView.ext rfl rfl rfl rfl (Table.find?_erase _ path) rfl rfl rfl
      · rw [left, done]
        rfl
  | _ => exact own.elim

/-- The deletion, if there is one, will be told. -/
structure Telling (zk : ZooKeeper Store) (path : Bytes) (callback : Nat)
    (observed : ObservedClient Store) : Prop where
  attending : Attending observed.client
  onTime : OnTime path callback (observed.view zk path) observed.client.shared.call

/-- The deletion will not be told. -/
structure Silenced (zk : ZooKeeper Store) (path : Bytes) (observed : ObservedClient Store) : Prop where
  attending : Attending observed.client
  beaten : Beaten (observed.view zk path) observed.client.shared.call

theorem OnTime.ours {view : NodeView} {call : Option OwnCall}
    (onTime : OnTime path callback view call) :
    ∀ own ∈ call, own = .deleting path ∨ own = .forgetting path := by
  rcases onTime with present | racing | won
  · rcases present.call with rfl | rfl
    · exact nofun
    · rintro _ ⟨rfl⟩
      exact .inl rfl
  · rw [racing.call]
    rintro _ ⟨rfl⟩
    exact .inr rfl
  · rcases won.call with rfl | rfl
    · exact nofun
    · rintro _ ⟨rfl⟩
      exact .inr rfl

theorem ordinary_of_own {event : WatchEvent Store} (own : OwnDeletion path event) : Ordinary event := by
  cases event with
  | fire event path => exact own.elim
  | session state => exact own.elim
  | _ => exact trivial

/-- The calls are left alone by the steps of the handler. -/
theorem call_of_step {event : WatchEvent Store} (taken : observed.step zk path event = some next)
    (other : ∀ action, event ≠ .client action) :
    next.client.shared.call = observed.client.shared.call := by
  obtain ⟨client, moved, rfl⟩ := recorded_of_step taken
  rcases WatchedClient.shared_step moved with ⟨_, action, rfl, -⟩ | ⟨-, same⟩
  · exact absurd rfl (other action)
  · rw [ObservedClient.record, same]

theorem lookedUp_of_ne {event : WatchEvent Store}
    (other : observed.client.shared.call ≠ some (.forgetting path)) : LookedUp zk path observed event := by
  unfold LookedUp
  split
  · exact fun forgetting => absurd forgetting other
  · exact trivial

theorem telling_step (lawful : zk.Lawful) (reliable : zk.Reliable) (watchable : Watchable zk path)
    {event : WatchEvent Store} (telling : Telling zk path callback observed)
    (own : OwnDeletion path event) (taken : observed.step zk path event = some next) :
    (LookedUp zk path observed event → Telling zk path callback next) ∧
      (¬ LookedUp zk path observed event → Silenced zk path next) := by
  obtain ⟨attending, onTime⟩ := telling
  have after : Attending next.client :=
    attending_of_step lawful attending (ordinary_of_own own) taken
  have told : OnTime path callback (next.view zk path) next.client.shared.call →
      LookedUp zk path observed event →
      (LookedUp zk path observed event → Telling zk path callback next) ∧
        (¬ LookedUp zk path observed event → Silenced zk path next) :=
    fun still inTime => ⟨fun _ => ⟨after, still⟩, fun late => absurd inTime late⟩
  cases event with
  | client event =>
    rcases view_own_client lawful reliable watchable attending own onTime.ours taken with
      ⟨idle, view, call⟩ | ⟨deleting, outcome⟩ | ⟨rfl, forgetting, cached, view, call⟩
    · rw [idle] at onTime
      refine told ?_ ?_
      · rw [view, call]
        exact onTime.begin
      · exact lookedUp_of_ne (by simp [idle])
    · rw [deleting] at onTime
      refine told ?_ ?_
      · rcases outcome with ⟨view, call⟩ | ⟨view, call⟩
        · rw [view, call]
          exact onTime.refuse
        · rw [view, call]
          exact onTime.delete
      · exact lookedUp_of_ne (by simp [deleting])
    · rw [forgetting] at onTime
      obtain ⟨kept, lost⟩ := onTime.forget cached
      rw [← view, ← call] at kept lost
      refine ⟨fun inTime => ⟨after, kept (inTime forgetting)⟩, fun late => ⟨after, lost ?_⟩⟩
      by_contra delivered
      exact late fun _ => delivered
  | deliver =>
    refine told ?_ trivial
    rw [call_of_step taken nofun]
    exact holds_delivered (P := fun view => OnTime path callback view _) attending taken onTime
      onTime.deliver
  | handle =>
    refine told ?_ trivial
    rw [call_of_step taken nofun]
    refine holds_handled (P := fun view => OnTime path callback view _) lawful reliable watchable
      attending taken onTime ?_
    intro stage handling
    exact onTime.handle handling
  | _ => exact own.elim

theorem silenced_step (lawful : zk.Lawful) (reliable : zk.Reliable) (watchable : Watchable zk path)
    {event : WatchEvent Store} (silenced : Silenced zk path observed)
    (own : OwnDeletion path event) (taken : observed.step zk path event = some next) :
    Silenced zk path next := by
  obtain ⟨attending, beaten⟩ := silenced
  have idle := beaten.call
  have after : Attending next.client :=
    attending_of_step lawful attending (ordinary_of_own own) taken
  refine ⟨after, ?_⟩
  cases event with
  | client event =>
    have ours : ∀ call ∈ observed.client.shared.call, call = .deleting path ∨ call = .forgetting path := by
      rw [idle]
      exact nofun
    rcases view_own_client lawful reliable watchable attending own ours taken with
      ⟨-, view, call⟩ | ⟨deleting, -⟩ | ⟨-, forgetting, -⟩
    · rw [view, call, beaten.absent]
      exact ⟨beaten.absent, beaten.deaf, rfl⟩
    · exact nomatch idle.symm.trans deleting
    · exact nomatch idle.symm.trans forgetting
  | deliver =>
    rw [call_of_step taken nofun]
    exact holds_delivered (P := fun view => Beaten view _) attending taken beaten beaten.deliver
  | handle =>
    rw [call_of_step taken nofun]
    refine holds_handled (P := fun view => Beaten view _) lawful reliable watchable attending taken
      beaten ?_
    intro stage handling
    exact beaten.handle handling
  | _ => exact own.elim

/-- A client that has deleted a node it watches is told so if and only if the handler
looks the callback up before `Delete` takes it away. -/
theorem own_deletion_told_iff (lawful : zk.Lawful) (reliable : zk.Reliable)
    (watchable : Watchable zk path) {start : WatchedClient Store} {final : ObservedClient Store}
    {events : List (WatchEvent Store)} (watching : Watching zk path callback start)
    (present : (start.contents zk path).isSome) (idle : start.shared.call = none)
    (own : ∀ event ∈ events, OwnDeletion path event)
    (reached : run (ObservedClient.step zk path) { client := start } events = some final)
    (deleted : final.client.contents zk path = none) (returned : final.client.shared.call = none)
    (calm : (final.view zk path).Calm) :
    (callback, []) ∈ (final.view zk path).told ↔
      Along (ObservedClient.step zk path) (LookedUp zk path) { client := start } events := by
  have untold : (ObservedClient.view zk path { client := start }).told = [] := view_untold watching
  have initial : Telling zk path callback { client := start } := by
    refine ⟨watching.attending, .inl ⟨present, watching.calm, decide_eq_true watching.armed,
      watching.watcher, untold, .inl idle⟩⟩
  have kept : ∀ before event after, OwnDeletion path event → Telling zk path callback before →
      LookedUp zk path before event → before.step zk path event = some after →
      Telling zk path callback after := by
    intro before event after own telling inTime taken
    exact (telling_step lawful reliable watchable telling own taken).1 inTime
  have falls : ∀ before event after, OwnDeletion path event → Telling zk path callback before →
      ¬ LookedUp zk path before event → before.step zk path event = some after →
      Silenced zk path after := by
    intro before event after own telling late taken
    exact (telling_step lawful reliable watchable telling own taken).2 late
  have stays : ∀ before event after, OwnDeletion path event → Silenced zk path before →
      before.step zk path event = some after → Silenced zk path after := by
    intro before event after own silenced taken
    exact silenced_step lawful reliable watchable silenced own taken
  rcases along_cases kept falls stays own initial reached with ⟨telling, inTime⟩ | ⟨silenced, late⟩
  · have onTime := telling.onTime
    rw [returned] at onTime
    exact iff_of_true (onTime.told deleted calm) inTime
  · refine iff_of_false ?_ late
    rw [silenced.beaten.deaf.told]
    exact List.not_mem_nil

end Runs

section UserService
variable {Store : Type}

instance (path : Bytes) (event : WatchEvent Store) : Decidable (OwnDeletion path event) :=
  match event with
  | .client (.begin (.delete other)) => inferInstanceAs (Decidable (other = path))
  | .client .advance | .deliver | .handle => inferInstanceAs (Decidable True)
  | .client (.begin (.register _ _ _)) | .client (.begin (.discover _))
  | .client (.begin (.discoverService _)) | .client .snapshot | .client .listChildren
  | .client .reconcile | .client (.change _) | .watch _ _ | .arm | .fire _ _ | .session _ =>
    inferInstanceAs (Decidable False)

instance (view : NodeView) : Decidable view.Undelivered := inferInstanceAs (Decidable (_ ∧ _ ∨ _ ∧ _))

/-- Which call is under way matters only where it forgets the path. -/
def forgets (path : Bytes) : Option OwnCall → Bool
  | some (.forgetting other) => other = path
  | _ => false

theorem forgets_iff {path : Bytes} {call : Option OwnCall} :
    forgets path call = true ↔ call = some (.forgetting path) := by
  cases call with
  | none => simp [forgets]
  | some own =>
    cases own with
    | forgetting other => simp [forgets]
    | _ => simp [forgets]

theorem lookedUp_advance_iff (zk : ZooKeeper Store) (path : Bytes)
    (observed : ObservedClient Store) :
    LookedUp zk path observed (.client .advance) ↔ (forgets path observed.client.shared.call = true →
      ¬ (observed.view zk path).Undelivered) := by
  rw [LookedUp, forgets_iff]

instance (zk : ZooKeeper Store) (path : Bytes) (observed : ObservedClient Store)
    (event : WatchEvent Store) : Decidable (LookedUp zk path observed event) :=
  match event with
  | .client .advance =>
    decidable_of_iff (forgets path observed.client.shared.call = true →
      ¬ (observed.view zk path).Undelivered) (lookedUp_advance_iff zk path observed).symm
  | .client (.begin _) | .client .snapshot | .client .listChildren | .client .reconcile
  | .client (.change _) | .watch _ _ | .arm | .fire _ _ | .deliver | .handle | .session _ =>
    inferInstanceAs (Decidable True)

/-- The event comes to the handler before `Delete` has returned. -/
def deletionTold : List (WatchEvent ZooTree) :=
  [.client (.begin (.delete watchedPath)), .client .advance, .deliver, .handle, .client .advance,
    .handle, .handle, .handle]

/-- `Delete` has returned before the event comes to the handler. -/
def deletionUntold : List (WatchEvent ZooTree) :=
  [.client (.begin (.delete watchedPath)), .client .advance, .client .advance, .deliver, .handle]

theorem deletion_told : ∃ final,
    run (ObservedClient.step zooTree watchedPath) { client := watchingClient } deletionTold =
      some final ∧
    (4, []) ∈ (final.view zooTree watchedPath).told := by
  have ran : (run (ObservedClient.step zooTree watchedPath) { client := watchingClient }
      deletionTold).any fun final =>
        final.client.contents zooTree watchedPath = none ∧
        final.client.shared.call.isNone ∧ (final.view zooTree watchedPath).Calm := by
    decide +kernel
  obtain ⟨final, reached, ended⟩ := (Option.any_eq_true _ _).mp ran
  obtain ⟨deleted, returned, calm⟩ := of_decide_eq_true ended
  exact ⟨final, reached, (own_deletion_told_iff ZooTree.lawful ZooTree.reliable watchable_watchedPath
    watching_watchingClient (by decide +kernel) rfl (by decide +kernel) reached deleted
    (Option.isNone_iff_eq_none.mp returned) calm).mpr (by decide +kernel)⟩

/-- The handler does not find the callback. -/
theorem deletion_untold : ∃ final,
    run (ObservedClient.step zooTree watchedPath) { client := watchingClient } deletionUntold =
      some final ∧
    final.client.contents zooTree watchedPath = none ∧ final.client.shared.call = none ∧
    final.client.queue = [] ∧ final.client.handler = none ∧
    (final.view zooTree watchedPath).told = [] := by
  have ran : (run (ObservedClient.step zooTree watchedPath) { client := watchingClient }
      deletionUntold).any fun final =>
        final.client.contents zooTree watchedPath = none ∧ final.client.shared.call.isNone ∧
        final.client.queue = [] ∧ final.client.handler = none ∧
        (final.view zooTree watchedPath).told = [] := by decide +kernel
  obtain ⟨final, reached, ended⟩ := (Option.any_eq_true _ _).mp ran
  obtain ⟨deleted, returned, rest⟩ := of_decide_eq_true ended
  exact ⟨final, reached, deleted, Option.isNone_iff_eq_none.mp returned, rest⟩

end UserService

end Xrpc
