import Xrpc.Registry.Threads

/-! What the actors of a `ThreadedClient` do while they have the mutexes they need, and
what they leave to the others. -/

namespace Xrpc

open Support ZookeeperClient

section Frames
variable {Store : Type} {zk : ZooKeeper Store} {watched next : WatchedClient Store}

namespace WatchedClient

/-- What a step of a call leaves to the others. -/
structure OwnFrame (watched next : WatchedClient Store) : Prop where
  services : next.shared.services = watched.shared.services
  answer : next.shared.answer = watched.shared.answer
  handler : next.handler = watched.handler

theorem OwnFrame.of_perform (body : Effect (Registry Store) (Option OwnCall)) :
    OwnFrame watched (watched.update zk (watched.shared.perform body)) :=
  ⟨services_perform body, answer_perform body, rfl⟩

theorem tables_of_client (same : next.registry.client = watched.registry.client) :
    next.tables = watched.tables := by
  rw [tables, same]
  rfl

theorem client_finishWatch (path : Bytes) :
    (watched.finishWatch zk path).registry.client = watched.registry.client := by
  have client := client_registerWatcher zk path watched.registry
  unfold finishWatch
  split
  next sets after ran =>
    rw [ran] at client
    rw [registry, shared_arm]
    exact client
  next exit after ran =>
    rw [ran] at client
    exact client

theorem OwnFrame.finishWatch (path : Bytes) : OwnFrame watched (watched.finishWatch zk path) where
  services := by rw [shared_finishWatch]
  answer := by rw [shared_finishWatch]
  handler := by
    unfold WatchedClient.finishWatch
    split
    next sets after ran =>
      cases sets with
      | false => rfl
      | true => rfl
    · rfl

/-- The beginning of a call is that of a thread that has locked `mutex_`. -/
theorem begin_step {call : DiscoveryCall} (taken : watched.step zk (.client (.begin call)) = some next) :
    next = watched.update zk (watched.shared.perform (beginCall zk call)) := by
  cases transition_of_step taken with
  | client apart moved =>
    cases SharedClient.transition_of_interleave moved with
    | begin idle => rfl

theorem advance_step {call : OwnCall} (waiting : watched.shared.call = some call)
    (taken : watched.step zk (.client .advance) = some next) :
    next = watched.update zk (watched.shared.perform (advance zk call)) := by
  cases transition_of_step taken with
  | client apart moved =>
    cases SharedClient.transition_of_interleave moved with
    | advance same =>
      cases waiting.symm.trans same
      rfl

theorem arm_step {path : Bytes} (watching : watched.watching = some path)
    (taken : watched.step zk .arm = some next) : next = watched.finishWatch zk path := by
  cases transition_of_step taken with
  | arm same =>
    cases watching.symm.trans same
    rfl

end WatchedClient

end Frames

namespace ThreadedClient
variable {Store : Type} {zk : ZooKeeper Store} {allowed : DiscoveryCall → Prop}
  {client next : ThreadedClient Store}

/-- The stage of the thread that has locked `mutex_`. -/
def stage (client : ThreadedClient Store) : ThreadStage :=
  match client.mutex with
  | some index => client.threads index
  | none => .idle

/-- The client as the thread that has locked `mutex_` sees it. -/
def focused (client : ThreadedClient Store) : WatchedClient Store := client.base.focus client.stage

/-- What threads ask for is `allowed`. -/
def Asked (allowed : DiscoveryCall → Prop) (client : ThreadedClient Store) : Prop :=
  ∀ index request, client.threads index = .blocked (.discovery request) ∨
    client.threads index = .entered (.discovery request) → allowed request

/-- `mutex_` is locked by the thread inside, and `cache_mutex_` by one who is about
to end a section and has read the tables as they still are. -/
structure Disciplined (client : ThreadedClient Store) : Prop where
  owner : ∀ index, (client.threads index).inside = true ↔ client.mutex = some index
  apart : client.base.focus .idle = client.base
  copied : ∀ actor tables, client.holding = some (actor, tables) →
    client.locks actor = true ∧ tables = client.base.tables
  lost : client.expiring = true → client.base.handler = none

/-- A step of the client with at most one call under way. The heartbeat takes its
snapshot, and `Watch` stores its callback, in a section of its own after a check. -/
inductive Moves (zk : ZooKeeper Store) (allowed : DiscoveryCall → Prop)
    (watched : WatchedClient Store) : WatchedClient Store → Prop
  | rest : Moves zk allowed watched watched
  | step {event : WatchEvent Store} {next : WatchedClient Store}
      (begins : ∀ call, event = .client (.begin call) → allowed call)
      (taken : watched.step zk event = some next) : Moves zk allowed watched next
  | snapshot : Moves zk allowed watched watched.snapshot
  | subscribe (path : Bytes) (callback : Nat) :
      Moves zk allowed watched (watched.subscribe path callback)

theorem Moves.of_step {watched next : WatchedClient Store} {event : WatchEvent Store}
    (taken : watched.step zk event = some next) (other : ∀ call, event ≠ .client (.begin call)) :
    Moves zk allowed watched next :=
  .step (fun call same => absurd same (other call)) taken

/-- What an actor does between two others. -/
structure Worked (zk : ZooKeeper Store) (allowed : DiscoveryCall → Prop) (actor : Actor)
    (client next : ThreadedClient Store) : Prop where
  moves : Moves zk allowed client.focused next.focused
  owner : ∀ index, (next.threads index).inside = true ↔ next.mutex = some index
  apart : next.base.focus .idle = next.base
  lost : next.expiring = true → next.base.handler = none
  asked : Asked allowed next
  holding : next.holding = client.holding
  tables : client.locks actor = false → next.base.tables = client.base.tables
  others : ∀ other, other ≠ actor → next.locks other = client.locks other

@[simp] theorem threads_goto_self (index : Nat) (stage : ThreadStage) :
    (client.goto index stage).threads index = stage := Function.update_self _ _ _

theorem threads_goto_ne {index other : Nat} (different : other ≠ index) (stage : ThreadStage) :
    (client.goto index stage).threads other = client.threads other :=
  Function.update_of_ne different _ _

/-- The thread that has locked `mutex_` goes on. -/
theorem worked_goto (disciplined : client.Disciplined) (asked : Asked allowed client) {index : Nat}
    {stage : ThreadStage} (inside : (client.threads index).inside = true)
    (within : stage.inside = true) (unasked : ∀ request, stage ≠ .entered (.discovery request))
    {after : WatchedClient Store} (moves : Moves zk allowed (client.base.focus (client.threads index)) after)
    (stays : after.shared.call = stage.ownCall ∧ after.watching = stage.watchedPath)
    (frame : (client.base.focus (client.threads index)).OwnFrame after)
    (tables : (client.threads index).locks = false → after.tables = client.base.tables)
    (answers : List (Nat × List (Bytes × Bytes))) :
    Worked zk allowed (.thread index) client
      { client.goto index stage with base := after.focus .idle, answers } := by
  have mutex := (disciplined.owner index).mp inside
  refine ⟨?_, ?_, rfl, ?_, ?_, rfl, tables, ?_⟩
  · have before : client.focused = client.base.focus (client.threads index) := by
      rw [focused, ThreadedClient.stage, mutex]
    have now : focused { client.goto index stage with base := after.focus .idle, answers } = after := by
      have here : ThreadedClient.stage { client.goto index stage with base := after.focus .idle, answers } =
          stage := by
        change (match client.mutex with
          | some index => _
          | none => _) = _
        rw [mutex]
        exact threads_goto_self index stage
      rw [focused, here]
      simp [WatchedClient.focus, ← stays.1, ← stays.2]
    rw [before, now]
    exact moves
  · intro other
    by_cases same : other = index
    · subst other
      exact iff_of_true ((congrArg ThreadStage.inside (threads_goto_self index stage)).trans within) mutex
    · refine Iff.trans ?_ (disciplined.owner other)
      exact iff_of_eq (congrArg (fun stage => stage.inside = true) (threads_goto_ne same stage))
  · intro expiring
    exact frame.handler.trans (disciplined.lost expiring)
  · intro other request waiting
    by_cases same : other = index
    · subst other
      have here : stage = .blocked (.discovery request) ∨ stage = .entered (.discovery request) := by
        rwa [threads_goto_self] at waiting
      rcases here with rfl | entered
      · cases within
      · exact absurd entered (unasked request)
    · exact asked other request (by rwa [← threads_goto_ne same stage])
  · intro other different
    cases other with
    | thread other =>
      have apart : other ≠ index := fun same => different (congrArg Actor.thread same)
      exact congrArg ThreadStage.locks (threads_goto_ne apart stage)
    | heartbeat =>
      have services : after.shared.services = client.base.shared.services := frame.services
      have answer : after.shared.answer = client.base.shared.answer := frame.answer
      change (after.shared.answer.isSome || (after.shared.services.isEmpty && client.checked)) = _
      rw [services, answer]
      rfl
    | events =>
      have handler : after.handler = client.base.handler := frame.handler
      change (client.expiring || after.handler.any (·.stage.locks)) = _
      rw [handler]
      rfl

/-- A call goes on after one of its steps, or is over. -/
theorem worked_resume (disciplined : client.Disciplined) (asked : Asked allowed client) {index : Nat}
    (inside : (client.threads index).inside = true) {request : DiscoveryCall}
    {answer : Option (List (Bytes × Bytes))} {after : WatchedClient Store}
    (moves : Moves zk allowed (client.base.focus (client.threads index)) after)
    (unwatching : after.watching = none)
    (frame : (client.base.focus (client.threads index)).OwnFrame after)
    (tables : (client.threads index).locks = false → after.tables = client.base.tables) :
    Worked zk allowed (.thread index) client (client.resume index request answer after) := by
  unfold resume
  split
  next call waiting =>
    have within : (ThreadStage.calling request call).inside = true := rfl
    exact worked_goto disciplined asked inside within nofun moves ⟨waiting, unwatching⟩ frame tables _
  next ended =>
    have within : ThreadStage.leaving.inside = true := rfl
    exact worked_goto disciplined asked inside within nofun moves ⟨ended, unwatching⟩ frame tables _

theorem worked_proceed (disciplined : client.Disciplined) (asked : Asked allowed client) {index : Nat}
    (went : client.proceed zk client.base index = some next) :
    Worked zk allowed (.thread index) client next := by
  unfold proceed at went
  dsimp only at went
  split at went
  next request entered =>
    obtain ⟨after, taken, rfl⟩ := Option.map_eq_some_iff.mp went
    have inside : (client.threads index).inside = true := by rw [entered]; rfl
    have moves : Moves zk allowed (client.base.focus (client.threads index)) after := by
      refine .step ?_ taken
      intro call same
      cases same
      exact asked index request (.inr entered)
    obtain rfl := WatchedClient.begin_step taken
    refine worked_resume disciplined asked inside moves ?_ (.of_perform _) ?_
    · rw [entered]
      rfl
    · intro unlocked
      exact WatchedClient.tables_of_client
        ((congrArg Registry.client (registry_perform _)).trans (client_beginCall request _))
  next request call calling =>
    obtain ⟨after, taken, rfl⟩ := Option.map_eq_some_iff.mp went
    have inside : (client.threads index).inside = true := by rw [calling]; rfl
    have moves : Moves zk allowed (client.base.focus (client.threads index)) after :=
      .of_step taken nofun
    have waiting : (client.base.focus (client.threads index)).shared.call = some call := by
      rw [calling]
      rfl
    obtain rfl := WatchedClient.advance_step waiting taken
    refine worked_resume disciplined asked inside moves ?_ (.of_perform _) ?_
    · rw [calling]
      rfl
    · intro unlocked
      rw [calling] at unlocked
      refine WatchedClient.tables_of_client ((congrArg Registry.client (registry_perform _)).trans ?_)
      rcases client_advance zk call client.base.registry with same |
        ⟨path, data, service, rfl, -⟩ | ⟨service, found, rfl, -⟩ | ⟨path, service, rfl, -⟩
      · exact same
      · cases unlocked
      · cases unlocked
      · cases unlocked
  next path callback entered =>
    cases went
    have inside : (client.threads index).inside = true := by rw [entered]; rfl
    have idle : (client.threads index).ownCall = none ∧ (client.threads index).watchedPath = none := by
      rw [entered]
      exact ⟨rfl, rfl⟩
    have stays : client.base.focus .idle = client.base := disciplined.apart
    have goes : ∀ stage : ThreadStage, stage.inside = true →
        (∀ request, stage ≠ .entered (.discovery request)) → stage.ownCall = none →
        stage.watchedPath = none → Worked zk allowed (.thread index) client (client.goto index stage) := by
      intro stage within unasked calls watches
      have rests : Moves zk allowed (client.base.focus (client.threads index))
          (client.base.focus (client.threads index)) := .rest
      have worked := worked_goto disciplined asked inside within unasked rests
        ⟨idle.1.trans calls.symm, idle.2.trans watches.symm⟩ ⟨rfl, rfl, rfl⟩ (fun _ => rfl) client.answers
      have same : (client.base.focus (client.threads index)).focus .idle = client.base := stays
      rwa [same] at worked
    split
    · exact goes (.storing path callback) rfl nofun rfl rfl
    · exact goes .leaving rfl nofun rfl rfl
  next path callback storing =>
    cases went
    have inside : (client.threads index).inside = true := by rw [storing]; rfl
    have within : (ThreadStage.watching path).inside = true := rfl
    have moves : Moves zk allowed (client.base.focus (client.threads index))
        ((client.base.focus (client.threads index)).subscribe path callback) := .subscribe path callback
    have idle : (client.threads index).ownCall = none := by rw [storing]; rfl
    refine worked_goto disciplined asked inside within nofun moves ⟨idle, rfl⟩ ⟨rfl, rfl, rfl⟩ ?_ _
    intro unlocked
    rw [storing] at unlocked
    cases unlocked
  next path watching =>
    obtain ⟨after, taken, rfl⟩ := Option.map_eq_some_iff.mp went
    have inside : (client.threads index).inside = true := by rw [watching]; rfl
    have within : ThreadStage.leaving.inside = true := rfl
    have moves : Moves zk allowed (client.base.focus (client.threads index)) after :=
      .of_step taken nofun
    have here : (client.base.focus (client.threads index)).watching = some path := by
      rw [watching]
      rfl
    obtain rfl := WatchedClient.arm_step here taken
    have ended : (WatchedClient.finishWatch zk (client.base.focus (client.threads index)) path).shared.call =
        none := by
      rw [WatchedClient.shared_finishWatch, watching]
      rfl
    have done : (WatchedClient.finishWatch zk (client.base.focus (client.threads index)) path).watching =
        none := by
      unfold WatchedClient.finishWatch
      split
      · rfl
      · rfl
    exact worked_goto disciplined asked inside within nofun moves ⟨ended, done⟩ (.finishWatch path)
      (fun _ => WatchedClient.tables_of_client (WatchedClient.client_finishWatch path)) _
  · cases went
  · cases went
  · cases went

/-- Steps of the heartbeat, the callbacks and the other clients. -/
theorem worked_background (disciplined : client.Disciplined) (asked : Asked allowed client)
    {actor : Actor} {base : WatchedClient Store} {checked expiring : Bool}
    (moves : ∀ stage, Moves zk allowed (client.base.focus stage) (base.focus stage))
    (apart : base.focus .idle = base) (lost : expiring = true → base.handler = none)
    (tables : client.locks actor = false → base.tables = client.base.tables)
    (heartbeat : actor ≠ .heartbeat → base.shared.services = client.base.shared.services ∧
      base.shared.answer = client.base.shared.answer ∧ checked = client.checked)
    (events : actor ≠ .events → base.handler = client.base.handler ∧ expiring = client.expiring) :
    Worked zk allowed actor client { client with base, checked, expiring } := by
  refine ⟨moves client.stage, disciplined.owner, apart, lost, asked, rfl, tables, ?_⟩
  intro other different
  cases other with
  | thread index => rfl
  | heartbeat =>
    obtain ⟨services, answer, checks⟩ := heartbeat different.symm
    simp only [locks, services, answer, checks]
  | events =>
    obtain ⟨handler, expires⟩ := events different.symm
    simp only [locks, handler, expires]

/-- In the background the client moves whatever the stage of the thread is. -/
theorem moves_background (apart : client.base.focus .idle = client.base) {event : WatchEvent Store}
    {base : WatchedClient Store} (taken : client.base.step zk event = some base)
    (background : Background event) :
    (∀ stage, Moves zk allowed (client.base.focus stage) (base.focus stage)) ∧
      base.focus .idle = base := by
  have stepped : ∀ stage, (client.base.focus stage).step zk event = some (base.focus stage) := by
    intro stage
    rw [WatchedClient.focus_step background, taken]
    rfl
  refine ⟨?_, ?_⟩
  · intro stage
    refine .of_step (stepped stage) ?_
    rintro call rfl
    exact background
  · have same := stepped .idle
    rw [apart, taken] at same
    exact (Option.some.inj same).symm

theorem handler_client {watched next : WatchedClient Store} {event : SharedEvent Store}
    (taken : watched.step zk (.client event) = some next) : next.handler = watched.handler := by
  cases WatchedClient.transition_of_step taken with
  | client apart moved => rfl

/-- An answer that the heartbeat has listed changes no table. -/
theorem tables_listChildren {watched next : WatchedClient Store}
    (taken : watched.step zk (.client .listChildren) = some next) : next.tables = watched.tables := by
  cases WatchedClient.transition_of_step taken with
  | client apart moved =>
    rcases client_interleave moved with same | ⟨call, event, -⟩ | ⟨answer, event, -⟩
    · exact WatchedClient.tables_of_client same
    · cases event
    · cases event

theorem tables_handle {watched next : WatchedClient Store}
    (unlocked : watched.handler.any (·.stage.locks) = false)
    (taken : watched.step zk .handle = some next) : next.tables = watched.tables := by
  cases WatchedClient.transition_of_step taken with
  | @handle path stage handling =>
    rw [handling] at unlocked
    rcases WatchedClient.client_handle zk watched path stage with same |
      ⟨callback, data, service, rfl, -⟩ | ⟨callback, service, rfl, -⟩ | ⟨service, rfl, -⟩
    · exact WatchedClient.tables_of_client same
    · cases unlocked
    · cases unlocked
    · cases unlocked

/-- The callbacks of ZooKeeper leave the heartbeat alone. -/
theorem heartbeat_events {watched next : WatchedClient Store} {event : WatchEvent Store}
    (taken : watched.step zk event = some next) (other : ∀ action, event ≠ .client action) :
    next.shared.services = watched.shared.services ∧ next.shared.answer = watched.shared.answer := by
  rcases WatchedClient.shared_step taken with ⟨shared, action, same, -⟩ | ⟨-, same⟩
  · exact absurd same (other action)
  · rw [same]
    exact ⟨rfl, rfl⟩

theorem worked_of_work (disciplined : client.Disciplined) (asked : Asked allowed client)
    {actor : Actor} (went : client.work zk actor client.base.tables = some next) :
    Worked zk allowed actor client next := by
  have current : client.base.load client.base.tables = client.base := rfl
  unfold work at went
  rw [current] at went
  cases actor with
  | thread index => exact worked_proceed disciplined asked went
  | heartbeat =>
    dsimp only at went
    split at went
    next answer listed =>
      obtain ⟨base, taken, rfl⟩ := Option.map_eq_some_iff.mp went
      obtain ⟨moves, apart⟩ := moves_background disciplined.apart taken trivial
      have handler := handler_client taken
      refine worked_background disciplined asked moves apart ?_ ?_ (by simp) fun _ => ⟨handler, rfl⟩
      · exact fun expiring => handler.trans (disciplined.lost expiring)
      · simp [locks, listed]
    next service rest unanswered services =>
      obtain ⟨base, taken, rfl⟩ := Option.map_eq_some_iff.mp went
      obtain ⟨moves, apart⟩ := moves_background disciplined.apart taken trivial
      have handler := handler_client taken
      refine worked_background disciplined asked moves apart ?_ ?_ (by simp) fun _ => ⟨handler, rfl⟩
      · exact fun expiring => handler.trans (disciplined.lost expiring)
      · exact fun _ => tables_listChildren taken
    next unanswered services =>
      split at went
      · cases went
        have apart : client.base.snapshot.focus .idle = client.base.snapshot :=
          congrArg WatchedClient.snapshot disciplined.apart
        exact worked_background disciplined asked (fun _ => .snapshot) apart disciplined.lost
          (fun _ => rfl) (by simp) fun _ => ⟨rfl, rfl⟩
      · cases went
  | events =>
    dsimp only at went
    split at went
    next expiring =>
      obtain ⟨base, taken, rfl⟩ := Option.map_eq_some_iff.mp went
      obtain ⟨moves, apart⟩ := moves_background disciplined.apart taken trivial
      obtain ⟨services, answer⟩ := heartbeat_events taken nofun
      refine worked_background disciplined asked moves apart nofun ?_
        (fun _ => ⟨services, answer, rfl⟩) (by simp)
      simp [locks, expiring]
    next settled =>
      obtain ⟨base, taken, rfl⟩ := Option.map_eq_some_iff.mp went
      obtain ⟨moves, apart⟩ := moves_background disciplined.apart taken trivial
      obtain ⟨services, answer⟩ := heartbeat_events taken nofun
      refine worked_background disciplined asked moves apart ?_ ?_
        (fun _ => ⟨services, answer, rfl⟩) (by simp)
      · exact fun expiring => absurd expiring settled
      · intro unlocked
        refine tables_handle ?_ taken
        simpa [locks, settled] using unlocked

end ThreadedClient

end Xrpc
