import Xrpc.Registry.Frames
import Xrpc.Registry.Tree
import Xrpc.Support.Run

/-! `Start` and `Stop` of a `ZookeeperClient`, the session events and the heartbeat
thread, and what `Start` promises. -/

namespace Xrpc

open Support ZookeeperClient

/-- Where `Start` and `Stop` are; `left` counts the rounds left of the loop of `Start`. -/
inductive LifeStage where
  | idle
  | retrying (left : Nat)
  | started
  | stopping
  deriving DecidableEq

/-- The heartbeat thread: before its loop condition, in a round, or beyond the loop. -/
inductive HeartbeatThread where
  | absent | checking | beating | exited
  deriving DecidableEq

/-- How a call of `Start` ended, whether it had observed `ZOO_CONNECTED_STATE`,
and what it left. -/
structure StartOutcome where
  returned : Bool
  observed : Bool
  zkHandle : Option Nat
  running : Bool
  deriving DecidableEq

/-- What `Start` promises. -/
def StartOutcome.Kept (outcome : StartOutcome) : Prop :=
  if outcome.returned then
    outcome.observed = true ∧ outcome.zkHandle.isSome ∧ outcome.running = true
  else outcome.zkHandle = none ∧ outcome.running = false

instance (outcome : StartOutcome) : Decidable outcome.Kept :=
  inferInstanceAs (Decidable (if outcome.returned then _ ∧ _ ∧ _ else _ ∧ _))

/-- A client over its lives. `callback` is a session event that has passed the
check at the top of `WatcherCallback`. -/
structure Lifecycle (Store : Type) where
  registry : Registry Store
  stage : LifeStage := .idle
  observed : Bool := false
  callback : Option SessionState := none
  heartbeat : HeartbeatThread := .absent
  starts : List StartOutcome := []

/-- `work` is whatever the calls of the client and its node events do to the
store, the cache and the watchers. -/
inductive LifeEvent (Store : Type) where
  | start (timeoutMs : Bytes) (zkHandle : Option Nat)
  | poll (connected : Bool)
  | leave
  | stop
  | close
  | deliver (state : SessionState)
  | record
  | evaluate
  | beat
  | work (store : Store) (serviceCache : ServiceCache) (watchers : Table Bytes Nat)

namespace ZookeeperClient

/-- What a session event does once it has passed the check. -/
def recordSession (state : SessionState) (client : ZookeeperClient) : ZookeeperClient :=
  match state with
  | .connected => { client with isConnected := true }
  | .expired => { client with isConnected := false, serviceCache := ∅ }
  | .connecting => { client with isConnected := false }
  | .other => client

@[simp] theorem recordSession_zkHandle (state : SessionState) (client : ZookeeperClient) :
    (client.recordSession state).zkHandle = client.zkHandle := by
  cases state with
  | connected => rfl
  | connecting => rfl
  | expired => rfl
  | other => rfl

@[simp] theorem recordSession_running (state : SessionState) (client : ZookeeperClient) :
    (client.recordSession state).running = client.running := by
  cases state with
  | connected => rfl
  | connecting => rfl
  | expired => rfl
  | other => rfl

end ZookeeperClient

namespace Lifecycle
variable {Store : Type}

/-- A new client. -/
def fresh (store : Store) : Lifecycle Store := { registry := { store, client := {} } }

/-- `Start` has returned or thrown. -/
def ended (life : Lifecycle Store) (returned : Bool) : Lifecycle Store :=
  { life with
    stage := if returned then .started else .idle
    starts := life.starts ++
      [⟨returned, life.observed, life.registry.client.zkHandle, life.registry.client.running⟩] }

/-- `Start` up to its loop. -/
def start (life : Lifecycle Store) (timeoutMs : Bytes) (zkHandle : Option Nat) : Lifecycle Store :=
  match stoi timeoutMs with
  | none => { life with observed := false }.ended false
  | some _ =>
    match zkHandle with
    | none => { life with registry.client.zkHandle := none, observed := false }.ended false
    | some session =>
      { life with
        registry.client.zkHandle := some session, observed := false, stage := .retrying 3 }

/-- A round of the loop of `Start`. -/
def poll (life : Lifecycle Store) (left : Nat) (connected : Bool) : Lifecycle Store :=
  if connected then
    { life with registry.client.isConnected := true, observed := true, stage := .retrying left }
  else { life with stage := .retrying left }

/-- `Start` beyond its loop. -/
def leave (life : Lifecycle Store) : Lifecycle Store :=
  if life.registry.client.isConnected then
    { life with registry.client.running := true, heartbeat := .checking }.ended true
  else { life with registry.client.zkHandle := none }.ended false

/-- The loop condition of `Heartbeat`. -/
def evaluate (life : Lifecycle Store) : Lifecycle Store :=
  if life.registry.client.running ∧ life.registry.client.connected then
    { life with heartbeat := .beating }
  else { life with heartbeat := .exited }

/-- `zookeeper_close` waits for a callback that is under way. -/
def step (zk : ZooKeeper Store) (life : Lifecycle Store) : LifeEvent Store → Option (Lifecycle Store)
  | .start timeoutMs zkHandle =>
    if life.stage = .idle then some (life.start timeoutMs zkHandle) else none
  | .poll connected =>
    match life.stage with
    | .retrying (left + 1) =>
      if life.registry.client.isConnected then none else some (life.poll left connected)
    | _ => none
  | .leave =>
    match life.stage with
    | .retrying left =>
      if life.registry.client.isConnected ∨ left = 0 then some life.leave else none
    | _ => none
  | .stop =>
    if life.stage = .started then
      some { life with registry.client.running := false, stage := .stopping }
    else none
  | .close =>
    if life.stage = .stopping ∧ life.callback = none ∧ life.heartbeat = .exited then
      some { life with
        registry.client := life.registry.client.stopped, heartbeat := .absent, stage := .idle }
    else none
  | .deliver state =>
    match life.callback with
    | some _ => none
    | none =>
      if life.registry.client.zkHandle = none ∨ ¬ life.registry.client.running then some life
      else some { life with callback := some state }
  | .record => life.callback.map fun state =>
      { life with
        registry.client := life.registry.client.recordSession state, callback := none }
  | .evaluate => if life.heartbeat = .checking then some life.evaluate else none
  | .beat =>
    if life.heartbeat = .beating then
      some { life with
        registry := stateAfter ((heartbeatRound zk).run life.registry), heartbeat := .checking }
    else none
  | .work store serviceCache watchers =>
    some { life with registry := { store, client := { life.registry.client with serviceCache, watchers } } }

/-- The ways in which `step` can go. -/
inductive Transition (zk : ZooKeeper Store) (life : Lifecycle Store) :
    LifeEvent Store → Lifecycle Store → Prop
  | start {timeoutMs : Bytes} {zkHandle : Option Nat} (idle : life.stage = .idle) :
      Transition zk life (.start timeoutMs zkHandle) (life.start timeoutMs zkHandle)
  | poll {left : Nat} {connected : Bool} (retrying : life.stage = .retrying (left + 1))
      (apart : life.registry.client.isConnected = false) :
      Transition zk life (.poll connected) (life.poll left connected)
  | leave {left : Nat} (retrying : life.stage = .retrying left)
      (done : life.registry.client.isConnected = true ∨ left = 0) :
      Transition zk life .leave life.leave
  | stop (started : life.stage = .started) :
      Transition zk life .stop { life with registry.client.running := false, stage := .stopping }
  | close (stopping : life.stage = .stopping) (quiet : life.callback = none)
      (exited : life.heartbeat = .exited) :
      Transition zk life .close { life with
        registry.client := life.registry.client.stopped, heartbeat := .absent, stage := .idle }
  | skip {state : SessionState} (quiet : life.callback = none)
      (unheard : life.registry.client.zkHandle = none ∨ ¬ life.registry.client.running) :
      Transition zk life (.deliver state) life
  | deliver {state : SessionState} (quiet : life.callback = none)
      (listening : ¬ (life.registry.client.zkHandle = none ∨ ¬ life.registry.client.running)) :
      Transition zk life (.deliver state) { life with callback := some state }
  | record {state : SessionState} (waiting : life.callback = some state) :
      Transition zk life .record { life with
        registry.client := life.registry.client.recordSession state, callback := none }
  | evaluate (checking : life.heartbeat = .checking) : Transition zk life .evaluate life.evaluate
  | beat (beating : life.heartbeat = .beating) :
      Transition zk life .beat { life with
        registry := stateAfter ((heartbeatRound zk).run life.registry), heartbeat := .checking }
  | work (store : Store) (serviceCache : ServiceCache) (watchers : Table Bytes Nat) :
      Transition zk life (.work store serviceCache watchers) { life with
        registry := { store, client := { life.registry.client with serviceCache, watchers } } }

theorem transition_of_step {zk : ZooKeeper Store} {life next : Lifecycle Store}
    {event : LifeEvent Store} (taken : life.step zk event = some next) :
    life.Transition zk event next := by
  cases event with
  | start timeoutMs zkHandle =>
    obtain ⟨idle, rfl⟩ : life.stage = .idle ∧ life.start timeoutMs zkHandle = next := by
      simpa [step] using taken
    exact .start idle
  | poll connected =>
    simp only [step] at taken
    split at taken
    next left retrying =>
      obtain ⟨apart, rfl⟩ : life.registry.client.isConnected = false ∧
          life.poll left connected = next := by
        simpa using taken
      exact .poll retrying apart
    · cases taken
  | leave =>
    simp only [step] at taken
    split at taken
    next left retrying =>
      obtain ⟨done, rfl⟩ : (life.registry.client.isConnected = true ∨ left = 0) ∧
          life.leave = next := by
        simpa using taken
      exact .leave retrying done
    · cases taken
  | stop =>
    obtain ⟨started, rfl⟩ : life.stage = .started ∧
        { life with registry.client.running := false, stage := .stopping } = next := by
      simpa [step] using taken
    exact .stop started
  | close =>
    obtain ⟨⟨stopping, quiet, exited⟩, rfl⟩ : (life.stage = .stopping ∧ life.callback = none ∧
        life.heartbeat = .exited) ∧ { life with
          registry.client := life.registry.client.stopped
          heartbeat := .absent, stage := .idle } = next := by
      simpa [step] using taken
    exact .close stopping quiet exited
  | deliver state =>
    simp only [step] at taken
    split at taken
    · cases taken
    next quiet =>
      split at taken
      next unheard =>
        cases taken
        exact .skip quiet unheard
      next listening =>
        cases taken
        exact .deliver quiet listening
  | record =>
    obtain ⟨state, waiting, rfl⟩ := Option.map_eq_some_iff.mp taken
    exact .record waiting
  | evaluate =>
    obtain ⟨checking, rfl⟩ : life.heartbeat = .checking ∧ life.evaluate = next := by
      simpa [step] using taken
    exact .evaluate checking
  | beat =>
    obtain ⟨beating, rfl⟩ : life.heartbeat = .beating ∧ { life with
        registry := stateAfter ((heartbeatRound zk).run life.registry)
        heartbeat := .checking } = next := by
      simpa [step] using taken
    exact .beat beating
  | work store serviceCache watchers =>
    cases taken
    exact .work store serviceCache watchers

/-- What holds between two steps. -/
def Valid (life : Lifecycle Store) : Prop :=
  match life.stage with
  | .idle =>
    life.registry.client.zkHandle = none ∧ life.registry.client.running = false ∧
      life.callback = none ∧ life.heartbeat = .absent
  | .retrying left =>
    life.registry.client.zkHandle.isSome ∧ life.registry.client.running = false ∧
      life.callback = none ∧ life.heartbeat = .absent ∧ left ≤ 3 ∧
      (left = 3 → life.observed = false) ∧
      (life.registry.client.isConnected = true → left = 3 ∨ life.observed = true)
  | .started =>
    life.registry.client.zkHandle.isSome ∧ life.registry.client.running = true ∧
      life.heartbeat ≠ .absent
  | .stopping => life.registry.client.running = false ∧ life.heartbeat ≠ .absent

theorem flags_heartbeatRound (zk : ZooKeeper Store) (registry : Registry Store) :
    let after := stateAfter ((heartbeatRound zk).run registry)
    after.client.zkHandle = registry.client.zkHandle ∧
      after.client.isConnected = registry.client.isConnected ∧
      after.client.running = registry.client.running := by
  have unseen : ∀ {β : Type} (flag : ZookeeperClient → β),
      (∀ client serviceCache, flag { client with serviceCache } = flag client) →
      (∀ client watchers, flag { client with watchers } = flag client) →
      Unseen zk fun state => flag state.client := fun flag cached watched => {
    zooExists := fun _ => (client_request _).observe flag
    zooGet := fun _ => (client_request _).observe flag
    zooGetChildren := fun _ => (client_request _).observe flag
    cache := fun _ _ => cached _ _
    watchers := fun _ _ => watched _ _ }
  exact ⟨keeps_heartbeatRound (unseen (·.zkHandle) (fun _ _ => rfl) fun _ _ => rfl) registry,
    keeps_heartbeatRound (unseen (·.isConnected) (fun _ _ => rfl) fun _ _ => rfl) registry,
    keeps_heartbeatRound (unseen (·.running) (fun _ _ => rfl) fun _ _ => rfl) registry⟩

section Steps
variable {zk : ZooKeeper Store} {life next : Lifecycle Store} {event : LifeEvent Store}

theorem valid_start (valid : life.Valid) (idle : life.stage = .idle) (timeoutMs : Bytes)
    (zkHandle : Option Nat) : (life.start timeoutMs zkHandle).Valid := by
  rw [Valid, idle] at valid
  obtain ⟨closed, halted, quiet, absent⟩ := valid
  simp only [start]
  cases stoi timeoutMs with
  | none => exact ⟨closed, halted, quiet, absent⟩
  | some timeout =>
    cases zkHandle with
    | none => exact ⟨rfl, halted, quiet, absent⟩
    | some session =>
      exact ⟨rfl, halted, quiet, absent, Nat.le_refl 3, fun _ => rfl, fun _ => .inl rfl⟩

theorem valid_poll {left : Nat} (valid : life.Valid) (retrying : life.stage = .retrying (left + 1))
    (apart : life.registry.client.isConnected = false) (connected : Bool) :
    (life.poll left connected).Valid := by
  rw [Valid, retrying] at valid
  obtain ⟨opened, halted, quiet, absent, bounded, -⟩ := valid
  have fewer : left ≤ 3 ∧ left ≠ 3 := by omega
  cases connected with
  | true =>
    exact ⟨opened, halted, quiet, absent, fewer.1, fun full => absurd full fewer.2,
      fun _ => .inr rfl⟩
  | false =>
    exact ⟨opened, halted, quiet, absent, fewer.1, fun full => absurd full fewer.2,
      fun connected => nomatch apart.symm.trans connected⟩

theorem valid_leave {left : Nat} (valid : life.Valid) (retrying : life.stage = .retrying left) :
    life.leave.Valid := by
  rw [Valid, retrying] at valid
  obtain ⟨opened, halted, quiet, absent, -⟩ := valid
  rw [leave]
  split
  · exact ⟨opened, rfl, nofun⟩
  · exact ⟨rfl, halted, quiet, absent⟩

/-- Nothing but the calls of the owner changes the stage. -/
theorem valid_of_same (valid : life.Valid) (stage : next.stage = life.stage)
    (handle : next.registry.client.zkHandle = life.registry.client.zkHandle)
    (running : next.registry.client.running = life.registry.client.running)
    (observed : next.observed = life.observed)
    (calm : life.callback = none → life.registry.client.running = false →
      next.callback = none ∧ next.registry.client.isConnected = life.registry.client.isConnected)
    (beat : next.heartbeat = .absent ↔ life.heartbeat = .absent) : next.Valid := by
  rw [Valid] at valid ⊢
  rw [stage, handle, running, observed]
  cases now : life.stage with
  | idle =>
    rw [now] at valid
    obtain ⟨closed, halted, quiet, absent⟩ := valid
    exact ⟨closed, halted, (calm quiet halted).1, beat.mpr absent⟩
  | retrying left =>
    rw [now] at valid
    obtain ⟨opened, halted, quiet, absent, seen⟩ := valid
    refine ⟨opened, halted, (calm quiet halted).1, beat.mpr absent, ?_⟩
    rw [(calm quiet halted).2]
    exact seen
  | started =>
    rw [now] at valid
    exact ⟨valid.1, valid.2.1, fun absent => valid.2.2 (beat.mp absent)⟩
  | stopping =>
    rw [now] at valid
    exact ⟨valid.1, fun absent => valid.2 (beat.mp absent)⟩

theorem valid_step (valid : life.Valid) (taken : life.step zk event = some next) : next.Valid := by
  cases transition_of_step taken with
  | start idle => exact valid_start valid idle _ _
  | poll retrying apart => exact valid_poll valid retrying apart _
  | leave retrying done => exact valid_leave valid retrying
  | stop started =>
    rw [Valid, started] at valid
    exact ⟨rfl, valid.2.2⟩
  | close stopping quiet exited => exact ⟨rfl, rfl, quiet, rfl⟩
  | skip quiet unheard => exact valid
  | deliver quiet listening =>
    refine valid_of_same valid rfl rfl rfl rfl ?_ Iff.rfl
    intro _ halted
    exact absurd (.inr (by simp [halted])) listening
  | record waiting =>
    refine valid_of_same valid rfl (recordSession_zkHandle _ _) (recordSession_running _ _) rfl ?_
      Iff.rfl
    intro quiet
    exact nomatch quiet.symm.trans waiting
  | evaluate checking =>
    rw [evaluate]
    split
    · exact valid_of_same valid rfl rfl rfl rfl (fun quiet _ => ⟨quiet, rfl⟩) (by simp [checking])
    · exact valid_of_same valid rfl rfl rfl rfl (fun quiet _ => ⟨quiet, rfl⟩) (by simp [checking])
  | beat beating =>
    obtain ⟨handle, connected, running⟩ := flags_heartbeatRound zk life.registry
    exact valid_of_same valid rfl handle running rfl (fun quiet _ => ⟨quiet, connected⟩)
      (by simp [beating])
  | work store serviceCache watchers =>
    exact valid_of_same valid rfl rfl rfl rfl (fun quiet _ => ⟨quiet, rfl⟩) Iff.rfl

theorem valid_fresh (store : Store) : (fresh store).Valid := ⟨rfl, rfl, rfl, rfl⟩

theorem valid_reached {store : Store} {events : List (LifeEvent Store)}
    (reached : run (step zk) (fresh store) events = some life) : life.Valid :=
  run_invariant (fun _ _ _ valid taken => valid_step valid taken) (valid_fresh store) reached

end Steps

section Starts
variable {zk : ZooKeeper Store} {life next : Lifecycle Store} {event : LifeEvent Store}

/-- `Start` does not leave its loop before the first round. -/
def Enters (life : Lifecycle Store) : LifeEvent Store → Prop
  | .leave => life.stage = .retrying 3 → life.registry.client.isConnected = false
  | _ => True

instance (life : Lifecycle Store) (event : LifeEvent Store) : Decidable (Enters life event) :=
  match event with
  | .leave => inferInstanceAs (Decidable (_ = _ → _ = _))
  | .start _ _ | .poll _ | .stop | .close | .deliver _ | .record | .evaluate | .beat
  | .work _ _ _ => .isTrue trivial

theorem outcome_of_start (valid : life.Valid) (idle : life.stage = .idle) (timeoutMs : Bytes)
    (zkHandle : Option Nat) :
    (life.start timeoutMs zkHandle).starts = life.starts ∨
      ∃ outcome, (life.start timeoutMs zkHandle).starts = life.starts ++ [outcome] ∧
        outcome.Kept := by
  rw [Valid, idle] at valid
  obtain ⟨closed, halted, -⟩ := valid
  simp only [start]
  cases stoi timeoutMs with
  | none => exact .inr ⟨_, rfl, closed, halted⟩
  | some timeout =>
    cases zkHandle with
    | none => exact .inr ⟨_, rfl, rfl, halted⟩
    | some session => exact .inl rfl

theorem outcome_of_leave {left : Nat} (valid : life.Valid) (retrying : life.stage = .retrying left) :
    ∃ outcome, life.leave.starts = life.starts ++ [outcome] ∧
      (outcome.Kept ↔ Enters life .leave) := by
  rw [Valid, retrying] at valid
  obtain ⟨opened, halted, -, -, -, unseen, seen⟩ := valid
  simp only [leave, Enters, retrying]
  cases connected : life.registry.client.isConnected with
  | false =>
    refine ⟨_, rfl, iff_of_true ⟨rfl, halted⟩ fun _ => rfl⟩
  | true =>
    refine ⟨_, rfl, ?_⟩
    by_cases full : left = 3
    · subst left
      refine iff_of_false ?_ (by simp)
      rintro ⟨observed, -⟩
      exact nomatch (unseen rfl).symm.trans observed
    · have observed := (seen connected).resolve_left full
      exact iff_of_true ⟨observed, opened, rfl⟩ fun same => absurd (LifeStage.retrying.inj same) full

/-- A step ends no call of `Start`, or one that keeps its promise just if it has
entered the loop. -/
theorem starts_step (valid : life.Valid) (taken : life.step zk event = some next) :
    (next.starts = life.starts ∧ Enters life event) ∨
      ∃ outcome, next.starts = life.starts ++ [outcome] ∧ (outcome.Kept ↔ Enters life event) := by
  cases transition_of_step taken with
  | @start timeoutMs zkHandle idle =>
    rcases outcome_of_start valid idle timeoutMs zkHandle with same | ⟨outcome, more, kept⟩
    · exact .inl ⟨same, trivial⟩
    · exact .inr ⟨outcome, more, iff_of_true kept trivial⟩
  | leave retrying done => exact .inr (outcome_of_leave valid retrying)
  | @poll left connected retrying apart =>
    cases connected with
    | true => exact .inl ⟨rfl, trivial⟩
    | false => exact .inl ⟨rfl, trivial⟩
  | evaluate checking =>
    rw [evaluate]
    split
    · exact .inl ⟨rfl, trivial⟩
    · exact .inl ⟨rfl, trivial⟩
  | _ => exact .inl ⟨rfl, trivial⟩

/-- Every `Start` keeps its promise if and only if each that gets a handle enters
its loop: `is_connected_` is not left over from an earlier life. -/
theorem starts_kept_iff {store : Store} {events : List (LifeEvent Store)}
    (reached : run (step zk) (fresh store) events = some life) :
    (∀ outcome ∈ life.starts, outcome.Kept) ↔ Along (step zk) Enters (fresh store) events := by
  have kept : ∀ (life : Lifecycle Store) event next,
      (life.Valid ∧ ∀ outcome ∈ life.starts, outcome.Kept) → Enters life event →
        life.step zk event = some next → next.Valid ∧ ∀ outcome ∈ next.starts, outcome.Kept := by
    intro life event next ⟨valid, all⟩ enters taken
    refine ⟨valid_step valid taken, ?_⟩
    rcases starts_step valid taken with ⟨same, -⟩ | ⟨outcome, more, kept⟩
    · rwa [same]
    · intro other listed
      rw [more, List.mem_append, List.mem_singleton] at listed
      rcases listed with earlier | rfl
      · exact all other earlier
      · exact kept.mpr enters
  have falls : ∀ (life : Lifecycle Store) event next,
      (life.Valid ∧ ∀ outcome ∈ life.starts, outcome.Kept) → ¬ Enters life event →
        life.step zk event = some next → next.Valid ∧ ∃ outcome ∈ next.starts, ¬ outcome.Kept := by
    intro life event next ⟨valid, _⟩ skips taken
    refine ⟨valid_step valid taken, ?_⟩
    rcases starts_step valid taken with ⟨-, enters⟩ | ⟨outcome, more, kept⟩
    · exact absurd enters skips
    · exact ⟨outcome, by simp [more], fun fulfilled => skips (kept.mp fulfilled)⟩
  have stays : ∀ (life : Lifecycle Store) event next,
      (life.Valid ∧ ∃ outcome ∈ life.starts, ¬ outcome.Kept) →
        life.step zk event = some next → next.Valid ∧ ∃ outcome ∈ next.starts, ¬ outcome.Kept := by
    intro life event next ⟨valid, outcome, listed, broken⟩ taken
    refine ⟨valid_step valid taken, outcome, ?_, broken⟩
    rcases starts_step valid taken with ⟨same, -⟩ | ⟨_, more, -⟩
    · rwa [same]
    · rw [more]
      exact List.mem_append_left _ listed
  have ill : ∀ life : Lifecycle Store, (life.Valid ∧ ∃ outcome ∈ life.starts, ¬ outcome.Kept) →
      ¬ ∀ outcome ∈ life.starts, outcome.Kept :=
    fun life ⟨_, outcome, listed, broken⟩ all => broken (all outcome listed)
  exact along_iff kept falls stays (fun _ => And.right) ill ⟨valid_fresh store, by simp [fresh]⟩ reached

/-- `Start`, with a server that answers, up to its last step. -/
def connecting (session : Nat) : List (LifeEvent ZooTree) :=
  [.start (text "6000") (some session), .poll true]

/-- The first life ends disconnected, so the second `Start` waits, in vain. -/
def disconnectedRestart : List (LifeEvent ZooTree) :=
  connecting 0 ++ [.leave, .deliver .connecting, .record, .evaluate, .stop, .close,
    .start (text "6000") (some 1), .poll false, .poll false, .poll false, .leave]

theorem disconnected_restart_kept :
    ∃ life, run (step zooTree) (fresh ZooTree.empty) disconnectedRestart = some life ∧
      ∀ outcome ∈ life.starts, outcome.Kept := by
  have reached : run (step zooTree) (fresh ZooTree.empty) disconnectedRestart = some _ := rfl
  exact ⟨_, reached, (starts_kept_iff reached).mpr (by decide +kernel)⟩

/-- The first life ends connected, and the second `Start` returns without a connection. -/
theorem connected_restart_deceived :
    ∃ life, run (step zooTree) (fresh ZooTree.empty)
        (connecting 0 ++ [.leave, .stop, .evaluate, .close, .start (text "6000") (some 1), .leave]) =
        some life ∧
      ¬ ∀ outcome ∈ life.starts, outcome.Kept :=
  ⟨_, rfl, by decide +kernel⟩

end Starts

end Lifecycle

end Xrpc
