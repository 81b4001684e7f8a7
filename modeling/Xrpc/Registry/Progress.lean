import Xrpc.Registry.Schedules

/-! The threads of a `ZookeeperClient` do not block each other for good: wherever they
stand, each of them can be brought to the end of its call. -/

namespace Xrpc

open Support ZookeeperClient

/-- How far a thread is from the end of its call. -/
def ThreadStage.rank : ThreadStage → Nat ×ₗ (Nat ×ₗ Nat)
  | .idle => toLex (0, toLex (0, 0))
  | .leaving => toLex (1, toLex (0, 0))
  | .watching _ => toLex (2, toLex (0, 0))
  | .storing _ _ => toLex (3, toLex (0, 0))
  | .calling _ call => toLex (3, ZookeeperClient.rank call)
  | .entered _ => toLex (4, toLex (0, 0))
  | .blocked _ => toLex (5, toLex (0, 0))

namespace ThreadedClient
variable {Store : Type} {zk : ZooKeeper Store} {client next : ThreadedClient Store}

/-- What a client does on its own, with no new call and nothing from outside. -/
def Internal : ThreadedEvent Store → Prop
  | .lock _ | .unlock _ | .enter _ | .leave _ | .act _ => True
  | .call _ _ | .check | .change _ | .fire _ _ | .deliver | .session _ => False

section Enabled
variable (zk : ZooKeeper Store)

theorem begin_enabled {watched : WatchedClient Store} (alive : watched.terminated = false)
    (idle : watched.shared.call = none) (free : watched.watching = none) (call : DiscoveryCall) :
    ∃ next, watched.step zk (.client (.begin call)) = some next := by
  simp [WatchedClient.step, alive, free, interleave, idle]

theorem advance_enabled {watched : WatchedClient Store} (alive : watched.terminated = false)
    {call : OwnCall} (waiting : watched.shared.call = some call) :
    ∃ next, watched.step zk (.client .advance) = some next := by
  simp [WatchedClient.step, alive, interleave, waiting]

theorem arm_enabled {watched : WatchedClient Store} (alive : watched.terminated = false) {path : Bytes}
    (watching : watched.watching = some path) : ∃ next, watched.step zk .arm = some next := by
  simp [WatchedClient.step, alive, watching]

theorem reconcile_enabled {watched : WatchedClient Store} (alive : watched.terminated = false)
    {answer : Bytes × List Bytes} (listed : watched.shared.answer = some answer) :
    ∃ next, watched.step zk (.client .reconcile) = some next := by
  simp [WatchedClient.step, alive, interleave, listed]

theorem handle_enabled {watched : WatchedClient Store} (alive : watched.terminated = false)
    {handler : Handler} (handling : watched.handler = some handler) :
    ∃ next, watched.step zk .handle = some next := by
  simp [WatchedClient.step, alive, handling]

theorem session_enabled {watched : WatchedClient Store} (alive : watched.terminated = false)
    (calm : watched.handler = none) (state : SessionState) :
    ∃ next, watched.step zk (.session state) = some next := by
  simp [WatchedClient.step, alive, calm]

/-- A thread inside `mutex_` has something to do until it leaves. -/
theorem proceed_enabled (alive : client.base.terminated = false) {index : Nat}
    (inside : (client.threads index).inside = true) (stays : client.threads index ≠ .leaving) :
    ∃ next, client.proceed zk client.base index = some next := by
  unfold proceed
  dsimp only
  cases stage : client.threads index with
  | idle => simp [stage, ThreadStage.inside] at inside
  | blocked request => simp [stage, ThreadStage.inside] at inside
  | leaving => exact absurd stage stays
  | entered request =>
    cases request with
    | watch path callback => exact ⟨_, rfl⟩
    | discovery request =>
      have running : (client.base.focus (.entered (.discovery request))).terminated = false := alive
      obtain ⟨after, taken⟩ := begin_enabled zk running rfl rfl request
      dsimp only
      rw [taken]
      exact ⟨_, rfl⟩
  | calling request call =>
    obtain ⟨after, taken⟩ : ∃ next,
        (client.base.focus (.calling request call)).step zk (.client .advance) = some next :=
      advance_enabled zk alive rfl
    dsimp only
    rw [taken]
    exact ⟨_, rfl⟩
  | storing path callback => exact ⟨_, rfl⟩
  | watching path =>
    obtain ⟨after, taken⟩ : ∃ next, (client.base.focus (.watching path)).step zk .arm = some next :=
      arm_enabled zk alive rfl
    dsimp only
    rw [taken]
    exact ⟨_, rfl⟩

theorem inside_of_locks {stage : ThreadStage} (locked : stage.locks = true) :
    stage.inside = true ∧ stage ≠ .leaving := by
  cases stage with
  | idle => cases locked
  | blocked request => cases locked
  | leaving => cases locked
  | watching path => cases locked
  | entered request => exact ⟨rfl, nofun⟩
  | calling request call => exact ⟨rfl, nofun⟩
  | storing path callback => exact ⟨rfl, nofun⟩

/-- A section under `cache_mutex_` can be ended. -/
theorem work_enabled (disciplined : client.Disciplined) (alive : client.base.terminated = false)
    {actor : Actor} (locked : client.locks actor = true) :
    ∃ next, client.work zk actor client.base.tables = some next := by
  have current : client.base.load client.base.tables = client.base := rfl
  unfold work
  rw [current]
  cases actor with
  | thread index =>
    obtain ⟨inside, stays⟩ := inside_of_locks locked
    exact proceed_enabled zk alive inside stays
  | heartbeat =>
    dsimp only
    cases listed : client.base.shared.answer with
    | some answer =>
      obtain ⟨base, taken⟩ := reconcile_enabled zk alive listed
      rw [taken]
      exact ⟨_, rfl⟩
    | none =>
      have ready : client.base.shared.services = [] ∧ client.checked = true := by
        simpa [locks, listed] using locked
      rw [ready.1]
      exact ⟨_, if_pos ready.2⟩
  | events =>
    dsimp only
    split
    next expiring =>
      obtain ⟨base, taken⟩ := session_enabled zk alive (disciplined.lost expiring) .expired
      rw [taken]
      exact ⟨_, rfl⟩
    next settled =>
      cases handling : client.base.handler with
      | none => simp [locks, settled, handling] at locked
      | some handler =>
        obtain ⟨base, taken⟩ := handle_enabled zk alive handling
        rw [taken]
        exact ⟨_, rfl⟩

end Enabled

section Ranks

/-- A step of a thread takes it nearer to the end of its call, and changes neither the
other threads nor who has locked `mutex_`. -/
structure Nearer (index : Nat) (client next : ThreadedClient Store) : Prop where
  rank : (next.threads index).rank < (client.threads index).rank
  mutex : next.mutex = client.mutex
  others : ∀ other, other ≠ index → next.threads other = client.threads other

theorem nearer_goto {index : Nat} {stage : ThreadStage} (rank : stage.rank < (client.threads index).rank)
    {base : WatchedClient Store} {answers : List (Nat × List (Bytes × Bytes))} :
    Nearer index client { client.goto index stage with base, answers } where
  rank := by
    change ((client.goto index stage).threads index).rank < _
    rw [threads_goto_self]
    exact rank
  mutex := rfl
  others other different := threads_goto_ne different stage

theorem nearer_resume {index : Nat} {request : DiscoveryCall} {answer : Option (List (Bytes × Bytes))}
    {after : WatchedClient Store} (leaves : ThreadStage.leaving.rank < (client.threads index).rank)
    (later : ∀ call ∈ after.shared.call,
      (ThreadStage.calling request call).rank < (client.threads index).rank) :
    Nearer index client (client.resume index request answer after) := by
  unfold resume
  split
  next call waiting => exact nearer_goto (later call waiting)
  next done => exact nearer_goto leaves

theorem nearer_proceed {index : Nat} (went : client.proceed zk client.base index = some next) :
    Nearer index client next := by
  unfold proceed at went
  dsimp only at went
  split at went
  next request entered =>
    obtain ⟨after, taken, rfl⟩ := Option.map_eq_some_iff.mp went
    refine nearer_resume ?_ ?_
    · rw [entered]
      simp [ThreadStage.rank, Prod.Lex.toLex_lt_toLex]
    · intro call waiting
      rw [entered]
      simp [ThreadStage.rank, Prod.Lex.toLex_lt_toLex]
  next request call calling =>
    obtain ⟨after, taken, rfl⟩ := Option.map_eq_some_iff.mp went
    have waiting : (client.base.focus (client.threads index)).shared.call = some call := by
      rw [calling]
      rfl
    obtain rfl := WatchedClient.advance_step waiting taken
    refine nearer_resume ?_ ?_
    · rw [calling]
      simp [ThreadStage.rank, Prod.Lex.toLex_lt_toLex]
    · intro later waits
      have closer := call_perform (rank_advance call) later waits
      rw [calling]
      simp [ThreadStage.rank, Prod.Lex.toLex_lt_toLex, closer]
  next path callback entered =>
    cases went
    refine nearer_goto ?_
    rw [entered]
    split
    · simp [ThreadStage.rank, Prod.Lex.toLex_lt_toLex]
    · simp [ThreadStage.rank, Prod.Lex.toLex_lt_toLex]
  next path callback storing =>
    cases went
    refine nearer_goto ?_
    rw [storing]
    simp [ThreadStage.rank, Prod.Lex.toLex_lt_toLex]
  next path watching =>
    obtain ⟨after, taken, rfl⟩ := Option.map_eq_some_iff.mp went
    refine nearer_goto ?_
    rw [watching]
    simp [ThreadStage.rank, Prod.Lex.toLex_lt_toLex]
  · cases went
  · cases went
  · cases went

/-- Who is not a thread of the client leaves its threads where they are. -/
def Brought (actor : Actor) (client next : ThreadedClient Store) : Prop :=
  (∃ index, actor = .thread index ∧ Nearer index client next) ∨
    (∀ index, actor ≠ .thread index) ∧ next.threads = client.threads ∧ next.mutex = client.mutex

theorem brought_of_work {actor : Actor} (went : client.work zk actor client.base.tables = some next) :
    Brought actor client next := by
  have current : client.base.load client.base.tables = client.base := rfl
  unfold work at went
  rw [current] at went
  cases actor with
  | thread index => exact .inl ⟨index, rfl, nearer_proceed went⟩
  | heartbeat =>
    dsimp only at went
    split at went
    · obtain ⟨base, -, rfl⟩ := Option.map_eq_some_iff.mp went
      exact .inr ⟨nofun, rfl, rfl⟩
    · obtain ⟨base, -, rfl⟩ := Option.map_eq_some_iff.mp went
      exact .inr ⟨nofun, rfl, rfl⟩
    · split at went
      · cases went
        exact .inr ⟨nofun, rfl, rfl⟩
      · cases went
  | events =>
    dsimp only at went
    split at went
    · obtain ⟨base, -, rfl⟩ := Option.map_eq_some_iff.mp went
      exact .inr ⟨nofun, rfl, rfl⟩
    · obtain ⟨base, -, rfl⟩ := Option.map_eq_some_iff.mp went
      exact .inr ⟨nofun, rfl, rfl⟩

/-- What stands between a thread and the end of its call: itself, then the thread that
has locked `mutex_`, then a section under `cache_mutex_`. -/
def distance (index : Nat) (client : ThreadedClient Store) :
    (Nat ×ₗ (Nat ×ₗ Nat)) ×ₗ ((Nat ×ₗ (Nat ×ₗ Nat)) ×ₗ Nat) :=
  toLex ((client.threads index).rank,
    toLex (client.stage.rank, if client.holding.isSome then 1 else 0))

theorem distance_of_nearer {owner : Nat} (locked : client.mutex = some owner)
    (nearer : Nearer owner client next) (index : Nat) :
    distance index next < distance index client := by
  rw [distance, distance, Prod.Lex.toLex_lt_toLex]
  by_cases same : index = owner
  · subst index
    exact .inl nearer.rank
  · refine .inr ⟨congrArg ThreadStage.rank (nearer.others index same), ?_⟩
    have before : client.stage = client.threads owner := by rw [stage, locked]
    have after : next.stage = next.threads owner := by rw [stage, nearer.mutex, locked]
    rw [Prod.Lex.toLex_lt_toLex, before, after]
    exact .inl nearer.rank

theorem rank_pos {stage : ThreadStage} (busy : stage ≠ .idle) : ThreadStage.idle.rank < stage.rank := by
  cases stage with
  | idle => exact absurd rfl busy
  | _ => simp [ThreadStage.rank, Prod.Lex.toLex_lt_toLex]

theorem Disciplined.step (disciplined : client.Disciplined) {event : ThreadedEvent Store}
    (taken : client.step zk event = some next) : next.Disciplined :=
  (stepped_of_step disciplined (fun _ _ _ => trivial) (calls_any event) taken).disciplined

/-- The end of a section under `cache_mutex_`. -/
theorem section_ends (zk : ZooKeeper Store) (disciplined : client.Disciplined)
    (alive : client.base.terminated = false) {actor : Actor} {tables : Tables}
    (held : client.holding = some (actor, tables)) :
    ∃ next, client.step zk (.leave actor) = some next ∧ next.holding = none ∧
      Brought actor client next := by
  obtain ⟨locked, rfl⟩ := disciplined.copied actor tables held
  obtain ⟨next, went⟩ := work_enabled zk disciplined alive locked
  refine ⟨{ next with holding := none }, ?_, rfl, ?_⟩
  · simp [step, alive, held, went]
  · rcases brought_of_work went with ⟨index, same, nearer⟩ | same
    · exact .inl ⟨index, same, nearer.rank, nearer.mutex, nearer.others⟩
    · exact .inr same

/-- A thread inside `mutex_` goes on, unless somebody else is in a section. -/
theorem owner_goes_on (zk : ZooKeeper Store) (disciplined : client.Disciplined)
    (alive : client.base.terminated = false) {owner : Nat} (locked : client.mutex = some owner)
    (stays : client.threads owner ≠ .leaving) (free : client.holding = none) :
    ∃ events next, (∀ event ∈ events, Internal event) ∧
      run (step zk) client events = some next ∧ Nearer owner client next := by
  have inside := (disciplined.owner owner).mpr locked
  cases needs : client.locks (.thread owner) with
  | true =>
    have entered : client.step zk (.enter (.thread owner)) =
        some { client with holding := some (.thread owner, client.base.tables) } := by
      simp [step, alive, needs, free]
    obtain ⟨next, left, -, moved⟩ := section_ends zk (disciplined.step entered) alive rfl
    refine ⟨[.enter (.thread owner), .leave (.thread owner)], next, ?_, ?_, ?_⟩
    · intro event member
      rcases List.mem_pair.mp member with rfl | rfl
      · exact trivial
      · exact trivial
    · rw [run, entered, Option.bind_some, run, left, Option.bind_some, run]
    · rcases moved with ⟨index, same, nearer⟩ | ⟨other, -⟩
      · cases same
        exact ⟨nearer.rank, nearer.mutex, nearer.others⟩
      · exact absurd rfl (other owner)
  | false =>
    obtain ⟨next, went⟩ := proceed_enabled zk alive inside stays
    have acted : client.step zk (.act (.thread owner)) = some next := by
      simp only [step, alive, needs]
      exact went
    refine ⟨[.act (.thread owner)], next, ?_, ?_, nearer_proceed went⟩
    · intro event member
      rw [List.mem_singleton.mp member]
      exact trivial
    · rw [run, acted, Option.bind_some, run]

/-- Unless the process has ended, something inside the client brings a thread nearer to
the end of its call. -/
theorem nearer_to_end (zk : ZooKeeper Store) (disciplined : client.Disciplined)
    (alive : client.base.terminated = false) {index : Nat} (busy : client.threads index ≠ .idle) :
    ∃ events next, (∀ event ∈ events, Internal event) ∧ run (step zk) client events = some next ∧
      distance index next < distance index client := by
  have alone : ∀ {event : ThreadedEvent Store} {next : ThreadedClient Store}, Internal event →
      client.step zk event = some next → distance index next < distance index client →
      ∃ events next, (∀ event ∈ events, Internal event) ∧ run (step zk) client events = some next ∧
        distance index next < distance index client := by
    intro event next internal taken closer
    refine ⟨[event], next, ?_, ?_, closer⟩
    · intro other member
      rw [List.mem_singleton.mp member]
      exact internal
    · rw [run, taken, Option.bind_some, run]
  cases held : client.holding with
  | some holder =>
    obtain ⟨actor, tables⟩ := holder
    obtain ⟨next, left, free, brought⟩ := section_ends zk disciplined alive held
    refine alone (show Internal (.leave actor : ThreadedEvent Store) from trivial) left ?_
    rcases brought with ⟨owner, rfl, nearer⟩ | ⟨-, threads, mutex⟩
    · have inside := (inside_of_locks (disciplined.copied _ _ held).1).1
      exact distance_of_nearer ((disciplined.owner owner).mp inside) nearer index
    · have same : next.stage = client.stage := by
        rw [stage, stage, threads, mutex]
      simp [distance, threads, same, held, free, Prod.Lex.toLex_lt_toLex]
  | none =>
    cases locked : client.mutex with
    | none =>
      have outside : (client.threads index).inside = false := by
        rw [← Bool.not_eq_true, disciplined.owner, locked]
        exact (Option.some_ne_none index).symm
      cases blocked : client.threads index with
      | idle => exact absurd blocked busy
      | blocked request =>
        have taken : client.step zk (.lock index) =
            some { client.goto index (.entered request) with mutex := some index } := by
          simp [step, alive, blocked, locked]
        refine alone (show Internal (.lock index : ThreadedEvent Store) from trivial) taken ?_
        refine Prod.Lex.toLex_lt_toLex.mpr (.inl ?_)
        change ((client.goto index (.entered request)).threads index).rank < _
        rw [threads_goto_self, blocked]
        simp [ThreadStage.rank, Prod.Lex.toLex_lt_toLex]
      | _ => simp [blocked, ThreadStage.inside] at outside
    | some owner =>
      by_cases leaving : client.threads owner = .leaving
      · have taken : client.step zk (.unlock owner) =
            some { client.goto owner .idle with mutex := none } := by
          simp [step, alive, leaving]
        refine alone (show Internal (.unlock owner : ThreadedEvent Store) from trivial) taken ?_
        have leaves : ThreadStage.idle.rank < ThreadStage.leaving.rank := rank_pos (by simp)
        have before : client.stage = .leaving := by
          rw [stage, locked]
          exact leaving
        rw [distance, distance, Prod.Lex.toLex_lt_toLex, Prod.Lex.toLex_lt_toLex, before]
        by_cases same : index = owner
        · subst index
          refine .inl ?_
          change ((client.goto owner .idle).threads owner).rank < _
          rw [threads_goto_self, leaving]
          exact leaves
        · exact .inr ⟨congrArg ThreadStage.rank (threads_goto_ne same .idle), .inl leaves⟩
      · obtain ⟨events, next, internal, reached, nearer⟩ :=
          owner_goes_on zk disciplined alive locked leaving held
        exact ⟨events, next, internal, reached, distance_of_nearer locked nearer index⟩

end Ranks

/-- The threads are free of deadlock: from wherever a schedule has brought them, the client
can bring each of them to the end of its call on its own, unless an exception that leaves
`WatcherCallback` ends the process. -/
theorem never_stuck {start : ThreadedClient Store} {events : List (ThreadedEvent Store)}
    (unused : start.Unused) (reached : run (step zk) start events = some client) (index : Nat) :
    ∃ more final, (∀ event ∈ more, Internal event) ∧ run (step zk) client more = some final ∧
      (final.threads index = .idle ∨ final.base.terminated = true) := by
  obtain ⟨-, disciplined, -⟩ := stepped_run unused (fun event _ => calls_any event) reached
  have nearer : ∀ state : ThreadedClient Store, state.Disciplined →
      ¬ (state.threads index = .idle ∨ state.base.terminated = true) →
      ∃ events next, (∀ event ∈ events, Internal event) ∧ run (step zk) state events = some next ∧
        next.Disciplined ∧ distance index next < distance index state := by
    intro state disciplined busy
    obtain ⟨waiting, alive⟩ := not_or.mp busy
    obtain ⟨events, next, internal, taken, closer⟩ :=
      nearer_to_end zk disciplined (Bool.eq_false_of_not_eq_true alive) waiting
    refine ⟨events, next, internal, taken, ?_, closer⟩
    exact run_invariant (fun _ _ _ disciplined taken => disciplined.step taken) disciplined taken
  obtain ⟨more, final, internal, ended, -, done⟩ :=
    exists_run_until (distance index) nearer client disciplined
  exact ⟨more, final, internal, ended, done⟩

/-- The thread that has waited for `mutex_` is brought to its end. -/
theorem contended_discovery_ends : ∃ client,
    run (step zooTree) threadedClient contendedDiscovery = some client ∧
    ∃ more final, (∀ event ∈ more, Internal event) ∧ run (step zooTree) client more = some final ∧
      (final.threads 1 = .idle ∨ final.base.terminated = true) := by
  obtain ⟨client, reached⟩ := contendedDiscovery_reached
  exact ⟨client, reached, never_stuck threadedClient_unused reached 1⟩

end ThreadedClient

end Xrpc
