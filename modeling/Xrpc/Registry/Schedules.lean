import Xrpc.Registry.Exclusion
import Xrpc.Registry.Provenance
import Mathlib.Logic.Relation

/-! The mutexes of a `ZookeeperClient` keep its threads apart: under whatever schedule, they
and the threads of ZooKeeper do together what one call at a time does in whole sections. -/

namespace Xrpc

open Support ZookeeperClient

namespace ThreadedClient
variable {Store : Type} {zk : ZooKeeper Store} {allowed : DiscoveryCall → Prop}
  {client next : ThreadedClient Store}

/-- Whoever is in a section goes on with it, and the tables are as they were. -/
structure Undisturbed (client next : ThreadedClient Store) : Prop where
  tables : next.base.tables = client.base.tables
  locks : ∀ actor, client.locks actor = true → next.locks actor = true

theorem Disciplined.of_undisturbed (disciplined : client.Disciplined)
    (owner : ∀ index, (next.threads index).inside = true ↔ next.mutex = some index)
    (apart : next.base.focus .idle = next.base) (lost : next.expiring = true → next.base.handler = none)
    (holding : next.holding = client.holding) (undisturbed : Undisturbed client next) :
    next.Disciplined := by
  refine ⟨owner, apart, ?_, lost⟩
  intro actor tables held
  rw [holding] at held
  obtain ⟨locked, same⟩ := disciplined.copied actor tables held
  exact ⟨undisturbed.locks actor locked, same.trans undisturbed.tables.symm⟩

/-- What a step does to the client as the thread inside `mutex_` sees it. -/
structure Stepped (zk : ZooKeeper Store) (allowed : DiscoveryCall → Prop)
    (client next : ThreadedClient Store) : Prop where
  moves : Moves zk allowed client.focused next.focused
  disciplined : next.Disciplined
  asked : Asked allowed next

/-- A thread comes or goes, and nothing else changes. -/
theorem stepped_thread (disciplined : client.Disciplined) {index : Nat} {stage : ThreadStage}
    {mutex : Option Nat} (unlocked : (client.threads index).locks = false)
    (owner : ∀ other, ((client.goto index stage).threads other).inside = true ↔ mutex = some other)
    (asked : Asked allowed { client.goto index stage with mutex })
    (same : focused { client.goto index stage with mutex } = client.focused) :
    Stepped zk allowed client { client.goto index stage with mutex } := by
  refine ⟨?_, ?_, asked⟩
  · rw [same]
    exact .rest
  · refine disciplined.of_undisturbed owner disciplined.apart disciplined.lost rfl ⟨rfl, ?_⟩
    intro actor locked
    cases actor with
    | thread other =>
      have different : other ≠ index := by
        rintro rfl
        exact Bool.false_ne_true (unlocked.symm.trans locked)
      change ((client.goto index stage).threads other).locks = true
      rw [threads_goto_ne different]
      exact locked
    | heartbeat => exact locked
    | events => exact locked

/-- What the requests of the threads are, but for one of them. -/
theorem Asked.goto (asked : Asked allowed client) {index : Nat} {stage : ThreadStage}
    (own : ∀ request, stage = .blocked (.discovery request) ∨
      stage = .entered (.discovery request) → allowed request) (mutex : Option Nat) :
    Asked allowed { client.goto index stage with mutex } := by
  intro other request waiting
  by_cases same : other = index
  · subst other
    have here : (client.goto index stage).threads index = stage := threads_goto_self index stage
    exact own request (here ▸ waiting)
  · refine asked other request ?_
    rwa [← threads_goto_ne same stage]

/-- Requests that a thread makes. -/
def Calls (allowed : DiscoveryCall → Prop) : ThreadedEvent Store → Prop
  | .call _ (.discovery request) => allowed request
  | _ => True

/-- The other clients and the thread of the callbacks, between two events. -/
theorem stepped_background (disciplined : client.Disciplined) (asked : Asked allowed client)
    {event : WatchEvent Store} {base : WatchedClient Store} {expiring : Bool}
    (taken : client.base.step zk event = some base) (background : Background event)
    (tables : base.tables = client.base.tables)
    (heartbeat : base.shared.services = client.base.shared.services ∧
      base.shared.answer = client.base.shared.answer)
    (events : client.locks .events = true → base.handler = client.base.handler ∧ expiring = client.expiring)
    (lost : expiring = true → base.handler = none) :
    Stepped zk allowed client { client with base, expiring } := by
  obtain ⟨moves, apart⟩ := moves_background disciplined.apart taken background
  refine ⟨moves client.stage, ?_, asked⟩
  refine disciplined.of_undisturbed disciplined.owner apart lost rfl ⟨tables, ?_⟩
  intro actor locked
  cases actor with
  | thread index => exact locked
  | heartbeat =>
    simp only [locks, heartbeat.1, heartbeat.2] at locked ⊢
    exact locked
  | events =>
    obtain ⟨handler, expires⟩ := events locked
    simp only [locks, handler, expires] at locked ⊢
    exact locked

theorem stepped_session (disciplined : client.Disciplined) (asked : Asked allowed client)
    {state : SessionState} {base : WatchedClient Store}
    (taken : client.base.step zk (.session state) = some base) (known : state ≠ .expired)
    (settled : client.expiring = false)
    (expiring : Bool) : Stepped zk allowed client { client with base, expiring } := by
  cases WatchedClient.transition_of_step taken with
  | session state idle =>
    refine stepped_background disciplined asked taken trivial ?_ ⟨rfl, rfl⟩ ?_ fun _ => idle
    · have kept : ∀ client : ZookeeperClient,
          (client.handleSessionEvent state).serviceCache = client.serviceCache ∧
            (client.handleSessionEvent state).watchers = client.watchers := by
        intro client
        unfold handleSessionEvent
        split
        · exact ⟨rfl, rfl⟩
        · cases state with
          | expired => exact absurd rfl known
          | connected => exact ⟨rfl, rfl⟩
          | connecting => exact ⟨rfl, rfl⟩
          | other => exact ⟨rfl, rfl⟩
      obtain ⟨cache, watchers⟩ := kept client.base.registry.client
      exact congrArg₂ Tables.mk cache watchers
    · intro locked
      simp [locks, settled, idle] at locked

theorem calls_any (event : ThreadedEvent Store) : Calls (fun _ => True) event := by
  cases event with
  | call index request =>
    cases request with
    | discovery call => exact trivial
    | watch path callback => exact trivial
  | _ => exact trivial

theorem stepped_of_step (disciplined : client.Disciplined) (asked : Asked allowed client)
    {event : ThreadedEvent Store} (calls : Calls allowed event) (taken : client.step zk event = some next) :
    Stepped zk allowed client next := by
  cases transition_of_step taken with
  | @call index request idle =>
    have outside : client.mutex ≠ some index := by
      rw [Ne, ← disciplined.owner, idle]
      exact Bool.false_ne_true
    refine stepped_thread disciplined (by rw [idle]; rfl) ?_ (asked.goto ?_ _) ?_
    · intro other
      by_cases same : other = index
      · subst other
        rw [threads_goto_self]
        exact iff_of_false Bool.false_ne_true outside
      · rw [threads_goto_ne same]
        exact disciplined.owner other
    · rintro asks (same | same)
      · cases same
        exact calls
      · cases same
    · refine congrArg client.base.focus ?_
      unfold ThreadedClient.stage
      cases locked : client.mutex with
      | none => rfl
      | some other =>
        have different : other ≠ index := fun same => outside (same ▸ locked)
        exact threads_goto_ne different _
  | @lock index request blocked free =>
    refine stepped_thread disciplined (by rw [blocked]; rfl) ?_ (asked.goto ?_ _) ?_
    · intro other
      by_cases same : other = index
      · subst other
        rw [threads_goto_self]
        exact iff_of_true rfl rfl
      · rw [threads_goto_ne same, disciplined.owner, free]
        exact iff_of_false (Option.some_ne_none _).symm fun taken => same (Option.some.inj taken).symm
    · rintro asks (same | same)
      · cases same
      · cases same
        exact asked index asks (.inl blocked)
    · have now : ThreadedClient.stage
          { client.goto index (.entered request) with mutex := some index } = .entered request :=
        threads_goto_self index _
      have before : client.stage = .idle := by rw [ThreadedClient.stage, free]
      rw [focused, focused, now, before]
      rfl
  | @unlock index leaving =>
    have mutex : client.mutex = some index := by
      rw [← disciplined.owner, leaving]
      rfl
    refine stepped_thread disciplined (by rw [leaving]; rfl) ?_ (asked.goto ?_ _) ?_
    · intro other
      by_cases same : other = index
      · subst other
        rw [threads_goto_self]
        exact iff_of_false Bool.false_ne_true (Option.some_ne_none _).symm
      · rw [threads_goto_ne same, disciplined.owner, mutex]
        exact iff_of_false (fun taken => same (Option.some.inj taken).symm) (Option.some_ne_none _).symm
    · rintro asks (same | same)
      · cases same
      · cases same
    · have before : client.stage = .leaving := by
        rw [ThreadedClient.stage, mutex]
        exact leaving
      rw [focused, focused, before]
      rfl
  | enter locked free =>
    refine ⟨.rest, ⟨disciplined.owner, disciplined.apart, ?_, disciplined.lost⟩, asked⟩
    rintro _ _ ⟨rfl⟩
    exact ⟨locked, rfl⟩
  | @leave actor tables after held went =>
    rw [(disciplined.copied actor tables held).2] at went
    have worked : Worked zk allowed actor client after := worked_of_work disciplined asked went
    refine ⟨worked.moves, ⟨worked.owner, worked.apart, ?_, worked.lost⟩, worked.asked⟩
    intro actor tables free
    cases free
  | @act actor next unlocked went =>
    have worked : Worked zk allowed actor client next := worked_of_work disciplined asked went
    refine ⟨worked.moves, ?_, worked.asked⟩
    refine disciplined.of_undisturbed worked.owner worked.apart worked.lost worked.holding
      ⟨worked.tables unlocked, ?_⟩
    intro other locked
    have different : other ≠ actor := by
      rintro rfl
      exact Bool.false_ne_true (unlocked.symm.trans locked)
    rw [worked.others other different]
    exact locked
  | check rested =>
    refine ⟨.rest, ?_, asked⟩
    refine disciplined.of_undisturbed disciplined.owner disciplined.apart disciplined.lost rfl ⟨rfl, ?_⟩
    intro actor locked
    cases actor with
    | thread index => exact locked
    | heartbeat => simp [locks, rested]
    | events => exact locked
  | change moved =>
    have same := moved
    cases WatchedClient.transition_of_step same with
    | client apart interleaved =>
      cases interleaved
      exact stepped_background disciplined asked moved trivial rfl ⟨rfl, rfl⟩ (fun _ => ⟨rfl, rfl⟩)
        disciplined.lost
  | fire moved =>
    have same := moved
    cases WatchedClient.transition_of_step same with
    | fire event path =>
      exact stepped_background disciplined asked moved trivial rfl ⟨rfl, rfl⟩ (fun _ => ⟨rfl, rfl⟩)
        disciplined.lost
  | @deliver base settled moved =>
    have unlost : client.expiring = true → base.handler = none := by
      intro expiring
      exact absurd (settled.symm.trans expiring) Bool.false_ne_true
    have same := moved
    cases WatchedClient.transition_of_step same with
    | deliver idle queued listening =>
      refine stepped_background disciplined asked moved trivial rfl ⟨rfl, rfl⟩ ?_ unlost
      intro locked
      simp [locks, settled, idle] at locked
    | skip idle queued unheard =>
      exact stepped_background disciplined asked moved trivial rfl ⟨rfl, rfl⟩ (fun _ => ⟨rfl, rfl⟩)
        unlost
  | expire settled moved => exact stepped_session disciplined asked moved (by decide) settled _
  | session settled known moved => exact stepped_session disciplined asked moved known settled _

section Runs
variable {start final : ThreadedClient Store} {events : List (ThreadedEvent Store)}

/-- No thread has called the client yet, and nobody holds a mutex. -/
structure Unused (client : ThreadedClient Store) : Prop where
  idle : ∀ index, client.threads index = .idle
  unlocked : client.mutex = none ∧ client.holding = none
  apart : client.base.shared.call = none ∧ client.base.watching = none
  settled : client.expiring = false

theorem Unused.focused (unused : start.Unused) : start.focused = start.base := by
  have stage : start.stage = .idle := by rw [ThreadedClient.stage, unused.unlocked.1]
  rw [ThreadedClient.focused, stage]
  change { start.base with shared.call := none, watching := none } = start.base
  rw [← unused.apart.1, ← unused.apart.2]

theorem Unused.disciplined (unused : start.Unused) : start.Disciplined where
  owner index := by
    rw [unused.idle, unused.unlocked.1]
    exact iff_of_false Bool.false_ne_true (Option.some_ne_none _).symm
  apart := by
    change { start.base with shared.call := none, watching := none } = start.base
    rw [← unused.apart.1, ← unused.apart.2]
  copied actor tables held := by
    rw [unused.unlocked.2] at held
    cases held
  lost expiring := by
    rw [unused.settled] at expiring
    cases expiring

/-- Any schedule of any number of threads does what some order of whole sections, with
one call at a time, does as well; and no section undoes what another has done. -/
theorem stepped_run (unused : start.Unused) (calls : ∀ event ∈ events, Calls allowed event)
    (reached : run (step zk) start events = some final) :
    Relation.ReflTransGen (Moves zk allowed) start.base final.focused ∧ final.Disciplined ∧
      Asked allowed final := by
  have initial : Relation.ReflTransGen (Moves zk allowed) start.base start.focused ∧
      start.Disciplined ∧ Asked allowed start := by
    refine ⟨?_, unused.disciplined, ?_⟩
    · rw [unused.focused]
    · intro index request waiting
      rw [unused.idle] at waiting
      rcases waiting with same | same
      · cases same
      · cases same
  have kept : ∀ before event after, (Relation.ReflTransGen (Moves zk allowed) start.base before.focused ∧
      before.Disciplined ∧ Asked allowed before) → Calls allowed event → step zk before event = some after →
      Relation.ReflTransGen (Moves zk allowed) start.base after.focused ∧ after.Disciplined ∧
        Asked allowed after := by
    rintro before event after ⟨moved, disciplined, asked⟩ calls taken
    have stepped : Stepped zk allowed before after := stepped_of_step disciplined asked calls taken
    exact ⟨moved.tail stepped.moves, stepped.disciplined, stepped.asked⟩
  exact run_preserves kept initial (along_of_forall calls start) reached

/-- The client of `sharedClient`, for threads. -/
def threadedClient : ThreadedClient ZooTree := { base := WatchedClient.unwatched }

theorem threadedClient_unused : threadedClient.Unused := ⟨fun _ => rfl, ⟨rfl, rfl⟩, ⟨rfl, rfl⟩, rfl⟩

/-- A thread discovers a service while another waits for `mutex_`, and the heartbeat
takes a snapshot in between. -/
def contendedDiscovery : List (ThreadedEvent ZooTree) :=
  [.call 0 (.discovery (.discoverService (text "UserService"))),
    .call 1 (.discovery (.discover (userServicePath "10.0.0.1:80"))), .lock 0,
    .enter (.thread 0), .check, .leave (.thread 0), .act (.thread 0), .act (.thread 0),
    .enter .heartbeat, .leave .heartbeat, .enter (.thread 0), .leave (.thread 0), .unlock 0, .lock 1,
    .enter (.thread 1), .leave (.thread 1)]

theorem contendedDiscovery_reached :
    ∃ final, run (step zooTree) threadedClient contendedDiscovery = some final := by
  have ran : (run (step zooTree) threadedClient contendedDiscovery).isSome := by decide +kernel
  exact Option.isSome_iff_exists.mp ran

/-- What the mutexes are for: at most one thread is inside `mutex_`, whoever is in a
section under `cache_mutex_` will write back tables that nobody else has changed, and so
all that the threads have done could have been done in one call after the other. -/
theorem sections_serializable (unused : start.Unused)
    (reached : run (step zk) start events = some final) :
    Relation.ReflTransGen (Moves zk fun _ => True) start.base final.focused ∧
      (∀ first second, (final.threads first).inside = true → (final.threads second).inside = true →
        first = second) ∧
      ∀ actor tables, final.holding = some (actor, tables) →
        final.locks actor = true ∧ tables = final.base.tables := by
  obtain ⟨moved, disciplined, -⟩ := stepped_run unused (fun event _ => calls_any event) reached
  refine ⟨moved, ?_, disciplined.copied⟩
  intro first second inside also
  exact Option.some.inj (((disciplined.owner first).mp inside).symm.trans ((disciplined.owner second).mp also))

theorem contended_discovery_serializable :
    ∃ final, run (step zooTree) threadedClient contendedDiscovery = some final ∧
      Relation.ReflTransGen (Moves zooTree fun _ => True) threadedClient.base final.focused := by
  obtain ⟨final, reached⟩ := contendedDiscovery_reached
  exact ⟨final, reached, (sections_serializable threadedClient_unused reached).1⟩

theorem Proper.moves (distinct : DistinctChildren zk) {watched next : WatchedClient Store}
    (proper : watched.Proper)
    (moved : Moves zk (fun call => WatchedClient.Flat (.client (.begin call) : WatchEvent Store))
      watched next) : next.Proper := by
  cases moved with
  | rest => exact proper
  | @step event next begins taken =>
    refine proper.step distinct ?_ taken
    cases event with
    | client event =>
      cases event with
      | begin call => exact begins call rfl
      | _ => exact trivial
    | _ => exact trivial
  | snapshot => exact proper.of_shared rfl rfl
  | subscribe path callback => exact proper.of_shared rfl rfl

/-- The lists of `service_cache_` stay proper under every schedule. -/
theorem threads_cache_proper (distinct : DistinctChildren zk) (unused : start.Unused)
    (uncached : start.base.registry.client.serviceCache = ∅)
    (flat : ∀ event ∈ events, Calls
      (fun call => WatchedClient.Flat (.client (.begin call) : WatchEvent Store)) event)
    (reached : run (step zk) start events = some final) :
    final.base.registry.client.serviceCache.Proper := by
  obtain ⟨moved, -⟩ := stepped_run unused flat reached
  have initial : start.base.Proper := by
    refine ⟨?_, ?_⟩
    · rw [uncached]
      exact ServiceCache.proper_empty
    · intro call waiting
      rw [unused.apart.1] at waiting
      cases waiting
  have kept : ∀ {watched : WatchedClient Store}, Relation.ReflTransGen (Moves zk
      fun call => WatchedClient.Flat (.client (.begin call) : WatchEvent Store)) start.base watched →
      watched.Proper := by
    intro watched moved
    induction moved with
    | refl => exact initial
    | tail earlier last ih => exact Proper.moves distinct ih last
  exact (kept moved).cache

theorem contended_cache_proper :
    ∃ final, run (step zooTree) threadedClient contendedDiscovery = some final ∧
      final.base.registry.client.serviceCache.Proper := by
  obtain ⟨final, reached⟩ := contendedDiscovery_reached
  have distinct : DistinctChildren zooTree := by
    intro session path store names answered
    exact (ZooTree.lawful.getChildren_ok session path store names answered).2.1
  refine ⟨final, reached, threads_cache_proper distinct threadedClient_unused rfl ?_ reached⟩
  simp [contendedDiscovery, Calls, WatchedClient.Flat]
  decide

end Runs

section Answers
variable {past : ThreadedClient Store → Prop} {start final : ThreadedClient Store}
  {events : List (ThreadedEvent Store)}

/-- What a call can be answered with: cached instances, or what it was about to cache. -/
def Answered (watched : WatchedClient Store) (instances : List (Bytes × Bytes)) : Prop :=
  (∃ service listed, watched.registry.client.serviceCache.find? service = some listed ∧
      ∀ entry ∈ instances, entry ∈ listed) ∨
    (∃ path data, watched.shared.call = some (.caching path data) ∧ instances = [(path, data)]) ∨
    ∃ service, watched.shared.call = some (.reading service [] instances)

theorem answered_of_answer {watched : WatchedClient Store} {request : DiscoveryCall}
    {call : Option OwnCall} (current : call = none ∨ call = watched.shared.call)
    {instances : List (Bytes × Bytes)}
    (answer : OwnCall.answer watched.registry.client.serviceCache request call = some instances) :
    Answered watched instances := by
  cases request with
  | register path data ephemeral => cases answer
  | delete path => cases answer
  | discover path =>
    cases call with
    | none =>
      obtain ⟨service, -, found⟩ := Option.bind_eq_some_iff.mp answer
      obtain ⟨entry, hit, rfl⟩ := Option.map_eq_some_iff.mp found
      have member := List.mem_of_find?_eq_some hit
      cases cached : watched.registry.client.serviceCache.find? service with
      | none => simp [cached] at member
      | some listed =>
        refine .inl ⟨service, listed, cached, ?_⟩
        intro other same
        rw [List.mem_singleton.mp same]
        simpa [cached] using member
    | some call =>
      cases call with
      | caching path data =>
        obtain ⟨service, -, rfl⟩ := Option.map_eq_some_iff.mp answer
        exact .inr (.inl ⟨path, data, (current.resolve_left (Option.some_ne_none _)).symm, rfl⟩)
      | _ => cases answer
  | discoverService service =>
    cases call with
    | none => exact .inl ⟨service, instances, answer, fun _ => id⟩
    | some call =>
      cases call with
      | reading service unread found =>
        cases unread with
        | nil =>
          cases answer
          exact .inr (.inr ⟨service, (current.resolve_left (Option.some_ne_none _)).symm⟩)
        | cons path rest => cases answer
      | _ => cases answer

/-- The answers before a step, and after it. -/
def AnswersGrow (client next : ThreadedClient Store) : Prop :=
  next.answers = client.answers ∨ ∃ index instances,
    next.answers = client.answers ++ [(index, instances)] ∧ Answered client.focused instances

theorem answers_resume {index : Nat} {request : DiscoveryCall} {call : Option OwnCall}
    (current : call = none ∨ call = client.focused.shared.call) (after : WatchedClient Store) :
    AnswersGrow client (client.resume index request
      (OwnCall.answer client.base.registry.client.serviceCache request call) after) := by
  unfold resume
  split
  · exact .inl rfl
  · cases answer : OwnCall.answer client.base.registry.client.serviceCache request call with
    | none => exact .inl (List.append_nil _)
    | some instances => exact .inr ⟨index, instances, rfl, answered_of_answer current answer⟩

theorem answers_work (disciplined : client.Disciplined) {actor : Actor}
    (went : client.work zk actor client.base.tables = some next) : AnswersGrow client next := by
  have current : client.base.load client.base.tables = client.base := rfl
  unfold work at went
  rw [current] at went
  cases actor with
  | thread index =>
    dsimp only at went
    unfold proceed at went
    dsimp only at went
    split at went
    next request entered =>
      obtain ⟨after, -, rfl⟩ := Option.map_eq_some_iff.mp went
      exact answers_resume (.inl rfl) after
    next request call calling =>
      obtain ⟨after, -, rfl⟩ := Option.map_eq_some_iff.mp went
      refine answers_resume (.inr ?_) after
      have mutex : client.mutex = some index := by
        rw [← disciplined.owner, calling]
        rfl
      have stage : client.stage = .calling request call := by
        rw [ThreadedClient.stage, mutex]
        exact calling
      rw [focused, stage]
      rfl
    · cases went
      exact .inl rfl
    · cases went
      exact .inl rfl
    · obtain ⟨after, -, rfl⟩ := Option.map_eq_some_iff.mp went
      exact .inl rfl
    · cases went
    · cases went
    · cases went
  | heartbeat =>
    dsimp only at went
    split at went
    · obtain ⟨after, -, rfl⟩ := Option.map_eq_some_iff.mp went
      exact .inl rfl
    · obtain ⟨after, -, rfl⟩ := Option.map_eq_some_iff.mp went
      exact .inl rfl
    · split at went
      · cases went
        exact .inl rfl
      · cases went
  | events =>
    dsimp only at went
    split at went
    · obtain ⟨after, -, rfl⟩ := Option.map_eq_some_iff.mp went
      exact .inl rfl
    · obtain ⟨after, -, rfl⟩ := Option.map_eq_some_iff.mp went
      exact .inl rfl

/-- Only the end of a call answers a thread. -/
theorem answers_step (disciplined : client.Disciplined) {event : ThreadedEvent Store}
    (taken : client.step zk event = some next) : AnswersGrow client next := by
  cases transition_of_step taken with
  | @leave actor tables after held went =>
    rw [(disciplined.copied actor tables held).2] at went
    have grows : AnswersGrow client after := answers_work disciplined went
    exact grows
  | act unlocked went => exact answers_work disciplined went
  | _ => exact .inl rfl

/-- The clients that the threads inside `mutex_` have seen. -/
def Seen (past : ThreadedClient Store → Prop) (watched : WatchedClient Store) : Prop :=
  ∃ client, past client ∧ client.focused = watched

theorem Seen.mono {more : ThreadedClient Store → Prop}
    (grown : ∀ client, past client → more client) {watched : WatchedClient Store}
    (seen : Seen past watched) : Seen more watched := by
  obtain ⟨client, before, same⟩ := seen
  exact ⟨client, grown client before, same⟩

theorem truthful_moves (lawful : zk.Lawful) {past : WatchedClient Store → Prop}
    {watched next : WatchedClient Store} (now : past watched)
    (truthful : WatchedClient.Truthful zk past watched) (moved : Moves zk allowed watched next) :
    WatchedClient.Truthful zk (fun earlier => past earlier ∨ earlier = next) next := by
  have remembered : WatchedClient.Truthful zk (fun earlier => past earlier ∨ earlier = next) watched :=
    truthful.mono fun _ => .inl
  cases moved with
  | rest => exact remembered
  | step begins taken => exact truthful.step lawful now taken
  | snapshot => exact remembered.of_same rfl rfl rfl rfl
  | subscribe path callback => exact remembered.of_same rfl rfl rfl rfl

/-- The threads have been answered with genuine instances only. -/
structure Honest (zk : ZooKeeper Store) (past : ThreadedClient Store → Prop)
    (client : ThreadedClient Store) : Prop where
  disciplined : client.Disciplined
  asked : Asked (fun _ => True) client
  truthful : WatchedClient.Truthful zk (Seen past) client.focused
  answers : ∀ answer ∈ client.answers, ∀ entry ∈ answer.2,
    WatchedClient.Genuine zk (Seen past) entry.1 entry.2

theorem Honest.mono {more : ThreadedClient Store → Prop} (honest : Honest zk past client)
    (grown : ∀ client, past client → more client) : Honest zk more client where
  disciplined := honest.disciplined
  asked := honest.asked
  truthful := honest.truthful.mono fun _ => Seen.mono grown
  answers answer member entry listed :=
    (honest.answers answer member entry listed).mono fun _ => Seen.mono grown

theorem genuine_of_answered {past : WatchedClient Store → Prop} {watched : WatchedClient Store}
    (truthful : WatchedClient.Truthful zk past watched) {instances : List (Bytes × Bytes)}
    (answered : Answered watched instances) :
    ∀ entry ∈ instances, WatchedClient.Genuine zk past entry.1 entry.2 := by
  rcases answered with ⟨service, listed, cached, among⟩ | ⟨path, data, waiting, rfl⟩ |
    ⟨service, waiting⟩
  · exact fun entry member => truthful.cache service listed cached entry (among entry member)
  · intro entry member
    rw [List.mem_singleton.mp member]
    exact truthful.call _ waiting
  · exact truthful.call _ waiting

theorem Honest.step (lawful : zk.Lawful) (now : past client) (honest : Honest zk past client)
    {event : ThreadedEvent Store} (taken : client.step zk event = some next) :
    Honest zk (fun earlier => past earlier ∨ earlier = next) next := by
  have calls : Calls (fun _ => True) event := calls_any event
  have stepped := stepped_of_step honest.disciplined honest.asked calls taken
  have remembered : Honest zk (fun earlier => past earlier ∨ earlier = next) client :=
    honest.mono fun _ => .inl
  refine ⟨stepped.disciplined, stepped.asked, ?_, ?_⟩
  · refine (truthful_moves lawful ⟨client, now, rfl⟩ honest.truthful stepped.moves).mono ?_
    rintro earlier (seen | rfl)
    · exact seen.mono fun _ => .inl
    · exact ⟨next, .inr rfl, rfl⟩
  · intro answer member
    rcases answers_step honest.disciplined taken with same | ⟨index, instances, more, answered⟩
    · rw [same] at member
      exact remembered.answers answer member
    · rw [more] at member
      rcases List.mem_append.mp member with before | new
      · exact remembered.answers answer before
      · rw [List.mem_singleton.mp new]
        exact genuine_of_answered remembered.truthful answered

/-- Under every schedule, each instance that any thread is answered with is what the node
at its path has held at some time of the run. -/
theorem thread_answers_genuine (lawful : zk.Lawful) (unused : start.Unused)
    (fresh : start.base.Fresh) (unanswered : start.answers = [])
    (reached : run (step zk) start events = some final) :
    ∀ index instances, (index, instances) ∈ final.answers → ∀ entry ∈ instances,
      Once (Visited (step zk) start events) fun earlier => ∃ node,
        earlier.base.contents zk (cString entry.1) = some node ∧
          (entry.2 = node.data ∨ entry.2 = node.data.take 512) := by
  have initial : Honest zk (· = start) start := by
    refine ⟨unused.disciplined, ?_, ?_, ?_⟩
    · exact fun _ _ _ => trivial
    · rw [unused.focused]
      exact fresh.truthful _
    · rw [unanswered]
      intro answer none
      cases none
  have honest : Honest zk (Visited (step zk) start events) final :=
    run_remembers (fun grown honest => honest.mono grown)
      (fun _ _ _ _ now honest taken => honest.step lawful now taken) initial reached
  intro index instances member entry listed
  obtain ⟨_, ⟨client, visited, rfl⟩, node, here, same⟩ :=
    honest.answers (index, instances) member entry listed
  exact ⟨client, visited, node, here, same⟩

/-- Both threads have been answered. -/
theorem contended_answers_genuine :
    ∃ final, run (step zooTree) threadedClient contendedDiscovery = some final ∧
      final.answers.map Prod.fst = [0, 1] ∧
      ∀ index instances, (index, instances) ∈ final.answers → ∀ entry ∈ instances,
        Once (Visited (step zooTree) threadedClient contendedDiscovery) fun earlier => ∃ node,
          earlier.base.contents zooTree (cString entry.1) = some node ∧
            (entry.2 = node.data ∨ entry.2 = node.data.take 512) := by
  have ran : (run (step zooTree) threadedClient contendedDiscovery).any fun final =>
      final.answers.map Prod.fst = [0, 1] := by decide +kernel
  obtain ⟨final, reached, answered⟩ := (Option.any_eq_true _ _).mp ran
  exact ⟨final, reached, of_decide_eq_true answered, thread_answers_genuine ZooTree.lawful
    threadedClient_unused WatchedClient.unwatched_fresh rfl reached⟩

end Answers

end ThreadedClient

end Xrpc
