import Xrpc.Registry.Lifecycle

/-! Whether the heartbeat thread outlives a disconnection. -/

namespace Xrpc

open Support ZookeeperClient

namespace Lifecycle
variable {Store : Type} {zk : ZooKeeper Store} {life next : Lifecycle Store} {event : LifeEvent Store}

/-- The heartbeat thread has not left its loop. -/
def Looping (life : Lifecycle Store) : Prop :=
  life.heartbeat = .checking ∨ life.heartbeat = .beating

instance (life : Lifecycle Store) : Decidable life.Looping := inferInstanceAs (Decidable (_ ∨ _))

/-- The loop condition is evaluated while the session is connected. -/
def Attended (life : Lifecycle Store) : LifeEvent Store → Prop
  | .evaluate => life.registry.client.isConnected = true
  | _ => True

instance (life : Lifecycle Store) (event : LifeEvent Store) : Decidable (Attended life event) :=
  match event with
  | .evaluate => inferInstanceAs (Decidable (_ = _))
  | .start _ _ | .poll _ | .leave | .stop | .close | .deliver _ | .record | .beat
  | .work _ _ _ => .isTrue trivial

/-- Only an evaluation ends the loop, and nothing before `Stop` starts it again. -/
theorem serving_step (valid : life.Valid) (serving : life.stage = .started) (unstopped : event ≠ .stop)
    (taken : life.step zk event = some next) :
    next.stage = .started ∧ (life.Looping → (next.Looping ↔ Attended life event)) ∧
      (life.heartbeat = .exited → next.heartbeat = .exited) := by
  cases transition_of_step taken with
  | start idle => cases serving.symm.trans idle
  | poll retrying apart => cases serving.symm.trans retrying
  | leave retrying done => cases serving.symm.trans retrying
  | stop started => exact absurd rfl unstopped
  | close stopping quiet exited => cases serving.symm.trans stopping
  | skip quiet unheard => exact ⟨serving, fun looping => iff_of_true looping trivial, id⟩
  | deliver quiet listening => exact ⟨serving, fun looping => iff_of_true looping trivial, id⟩
  | record waiting => exact ⟨serving, fun looping => iff_of_true looping trivial, id⟩
  | evaluate checking =>
    rw [Valid, serving] at valid
    obtain ⟨opened, running, -⟩ := valid
    have condition : (life.registry.client.running = true ∧ life.registry.client.connected = true) ↔
        life.registry.client.isConnected = true := by
      simp [running, connected, opened]
    rw [evaluate, Attended, ← condition]
    split
    next met =>
      refine ⟨serving, fun _ => iff_of_true (.inr rfl) met, ?_⟩
      intro exited
      cases checking.symm.trans exited
    next unmet =>
      exact ⟨serving, fun _ => iff_of_false (by simp [Looping]) unmet, fun _ => rfl⟩
  | beat beating =>
    refine ⟨serving, fun _ => iff_of_true (.inl rfl) trivial, ?_⟩
    intro exited
    cases beating.symm.trans exited
  | work store serviceCache watchers =>
    exact ⟨serving, fun looping => iff_of_true looping trivial, id⟩

theorem looping_of_leave (left : life.step zk .leave = some next) (serving : next.stage = .started) :
    next.Looping := by
  cases transition_of_step left with
  | leave retrying done =>
    rw [leave] at serving ⊢
    split at serving
    next connected =>
      rw [if_pos connected]
      exact .inl rfl
    · cases serving

/-- After a `Start` that has returned and before `Stop`, whenever the session is
connected the heartbeat is alive, if and only if its loop condition was never
evaluated during a disconnection. -/
theorem heartbeat_survives_iff {store : Store} {before during : List (LifeEvent Store)}
    {ready first final : Lifecycle Store}
    (began : run (step zk) (fresh store) before = some ready)
    (returned : ready.step zk .leave = some first) (serving : first.stage = .started)
    (unstopped : .stop ∉ during) (reached : run (step zk) first during = some final) :
    (final.registry.client.running = true ∧ final.registry.client.isConnected = true →
        final.Looping) ↔
      (final.registry.client.running = true ∧ final.registry.client.isConnected = true →
        Along (step zk) Attended first during) := by
  have valid := valid_step (valid_reached began) returned
  have looping : first.Looping := looping_of_leave returned serving
  have kept : ∀ (life : Lifecycle Store) event next, event ≠ .stop →
      (life.Valid ∧ life.stage = .started ∧ life.Looping) → Attended life event →
        life.step zk event = some next → next.Valid ∧ next.stage = .started ∧ next.Looping := by
    rintro life event next unstopped ⟨valid, serving, looping⟩ attended taken
    obtain ⟨still, survives, -⟩ := serving_step valid serving unstopped taken
    exact ⟨valid_step valid taken, still, (survives looping).mpr attended⟩
  have falls : ∀ (life : Lifecycle Store) event next, event ≠ .stop →
      (life.Valid ∧ life.stage = .started ∧ life.Looping) → ¬ Attended life event →
        life.step zk event = some next →
          next.Valid ∧ next.stage = .started ∧ next.heartbeat = .exited := by
    rintro life event next unstopped ⟨valid, serving, looping⟩ unattended taken
    obtain ⟨still, survives, -⟩ := serving_step valid serving unstopped taken
    have left := mt (survives looping).mp unattended
    have after := valid_step valid taken
    refine ⟨after, still, ?_⟩
    rw [Valid, still] at after
    rw [Looping, not_or] at left
    cases heartbeat : next.heartbeat with
    | absent => exact absurd heartbeat after.2.2
    | checking => exact absurd heartbeat left.1
    | beating => exact absurd heartbeat left.2
    | exited => rfl
  have stays : ∀ (life : Lifecycle Store) event next, event ≠ .stop →
      (life.Valid ∧ life.stage = .started ∧ life.heartbeat = .exited) →
        life.step zk event = some next →
          next.Valid ∧ next.stage = .started ∧ next.heartbeat = .exited := by
    rintro life event next unstopped ⟨valid, serving, exited⟩ taken
    obtain ⟨still, -, remains⟩ := serving_step valid serving unstopped taken
    exact ⟨valid_step valid taken, still, remains exited⟩
  have ill : ∀ life : Lifecycle Store,
      (life.Valid ∧ life.stage = .started ∧ life.heartbeat = .exited) → ¬ life.Looping := by
    rintro life ⟨-, -, exited⟩
    simp [Looping, exited]
  have survives : final.Looping ↔ Along (step zk) Attended first during :=
    along_iff_of kept falls stays (fun _ fine => fine.2.2) ill
      (fun event member same => unstopped (same ▸ member)) ⟨valid, serving, looping⟩ reached
  rw [survives]

/-- The client when `Start` has observed the connection. -/
def connectedLife : Lifecycle ZooTree where
  registry := { store := .empty, client := { zkHandle := some 0, isConnected := true } }
  stage := .retrying 2
  observed := true

/-- A disconnection that no evaluation falls into. -/
theorem brief_disconnection_survived :
    ∃ final, run (step zooTree) connectedLife.leave
        [.evaluate, .deliver .connecting, .record, .deliver .connected, .record, .beat, .evaluate] =
        some final ∧
      (final.registry.client.running = true ∧ final.registry.client.isConnected = true →
        final.Looping) := by
  have began : run (step zooTree) (fresh .empty) (connecting 0) = some connectedLife := rfl
  have returned : connectedLife.step zooTree .leave = some connectedLife.leave := rfl
  have reached : run (step zooTree) connectedLife.leave
      [.evaluate, .deliver .connecting, .record, .deliver .connected, .record, .beat, .evaluate] =
        some _ := rfl
  refine ⟨_, reached, (heartbeat_survives_iff began returned rfl (by simp) reached).mpr ?_⟩
  intro _
  decide +kernel

/-- An evaluation falls into the disconnection. -/
theorem heartbeat_lost :
    ∃ final, run (step zooTree) (fresh ZooTree.empty) (connecting 0 ++
        [.leave, .deliver .connecting, .record, .evaluate, .deliver .connected, .record]) =
        some final ∧
      final.registry.client.running = true ∧ final.registry.client.isConnected = true ∧
      ¬ final.Looping :=
  ⟨_, rfl, rfl, rfl, by decide +kernel⟩

end Lifecycle

end Xrpc
