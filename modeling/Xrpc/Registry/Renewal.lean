import Xrpc.Registry.Provenance

/-! How old the answers of a client can be: after a round of the heartbeat, every
instance that it answers with has been in the store since the round began. -/

namespace Xrpc

open Support ZookeeperClient

theorem ServiceCache.has_erase {cache : ServiceCache} {service other path : Bytes}
    (has : Has (cache.erase service) other path) : cache.Has other path := by
  obtain ⟨instances, cached, member⟩ := has
  by_cases same : other = service
  · subst other
    rw [Table.find?_erase] at cached
    cases cached
  · rw [Table.find?_erase_ne _ same] at cached
    exact ⟨instances, cached, member⟩

namespace WatchedClient
variable {Store : Type}

/-- There is a node at the path, or ZooKeeper lists it for the service. -/
def Shows (zk : ZooKeeper Store) (service path : Bytes) (watched : WatchedClient Store) : Prop :=
  (watched.contents zk (cString path)).isSome ∨
    ZooKeeper.ListedAt (watched.contents zk) service path

/-- The list of the service has yet to be compared in this round. -/
def Due (watched : WatchedClient Store) (service : Bytes) : Prop :=
  service ∈ watched.shared.services ∨ ∃ answer ∈ watched.shared.answer, answer.1 = service

/-- No round of the heartbeat is under way. -/
def Rested (watched : WatchedClient Store) : Prop :=
  watched.shared.services = [] ∧ watched.shared.answer = none

/-- ZooKeeper gives the heartbeat the children that it asks for. -/
def Listed (zk : ZooKeeper Store) (watched : WatchedClient Store) : WatchEvent Store → Prop
  | .client .listChildren => ∀ service ∈ watched.shared.services.head?,
    (watched.shared.listNext zk service []).answer.isSome
  | _ => True

/-- What the calls, the handler and the heartbeat have at hand comes from the past. -/
structure Informed (zk : ZooKeeper Store) (past : WatchedClient Store → Prop)
    (watched : WatchedClient Store) : Prop where
  call : ∀ call ∈ watched.shared.call, GenuineCall zk past call
  handler : ∀ handler ∈ watched.handler, GenuineStage zk past handler.path handler.stage
  answer : ∀ answer ∈ watched.shared.answer, ∀ path ∈ answer.2, Once past (Shows zk answer.1 path)

/-- A cached instance has been seen in the past, or the round has yet to come to it. -/
structure Renewing (zk : ZooKeeper Store) (past : WatchedClient Store → Prop)
    (watched : WatchedClient Store) : Prop extends Informed zk past watched where
  cached : ∀ service path, watched.registry.client.serviceCache.Has service path →
    Once past (Shows zk service path) ∨ watched.Due service

/-- Every cached instance has been seen in the past. -/
structure Renewed (zk : ZooKeeper Store) (past : WatchedClient Store → Prop)
    (watched : WatchedClient Store) : Prop extends Informed zk past watched where
  cached : ∀ service path, watched.registry.client.serviceCache.Has service path →
    Once past (Shows zk service path)

section Memory
variable {zk : ZooKeeper Store} {past more : WatchedClient Store → Prop} {watched : WatchedClient Store}

theorem Informed.mono (informed : Informed zk past watched)
    (grown : ∀ earlier, past earlier → more earlier) : Informed zk more watched where
  call call waiting := (informed.call call waiting).mono grown
  handler handler handling := (informed.handler handler handling).mono grown
  answer answer waiting path member := (informed.answer answer waiting path member).mono grown

theorem Renewing.mono (renewing : Renewing zk past watched)
    (grown : ∀ earlier, past earlier → more earlier) : Renewing zk more watched where
  toInformed := renewing.toInformed.mono grown
  cached service path has := (renewing.cached service path has).imp_left (·.mono grown)

theorem Renewed.mono (renewed : Renewed zk past watched)
    (grown : ∀ earlier, past earlier → more earlier) : Renewed zk more watched where
  toInformed := renewed.toInformed.mono grown
  cached service path has := (renewed.cached service path has).mono grown

/-- At the end of a round none is left to come to. -/
theorem Renewing.renewed (renewing : Renewing zk past watched) (done : watched.Rested) :
    Renewed zk past watched where
  toInformed := renewing.toInformed
  cached service path has := by
    refine (renewing.cached service path has).resolve_right ?_
    rintro (member | ⟨answer, waiting, -⟩)
    · rw [done.1] at member
      cases member
    · rw [done.2] at waiting
      cases waiting

theorem Genuine.shows {path data : Bytes} (genuine : Genuine zk past path data) (service : Bytes) :
    Once past (Shows zk service path) := by
  obtain ⟨earlier, before, node, found, -⟩ := genuine
  exact ⟨earlier, before, .inl (Option.isSome_iff_exists.mpr ⟨node, found⟩)⟩

end Memory

section Steps
variable {zk : ZooKeeper Store} {past : WatchedClient Store → Prop} {watched next : WatchedClient Store}

/-- What the next step of a call caches is genuine. -/
theorem shows_of_caches {call : OwnCall} (genuine : GenuineCall zk past call) {service path : Bytes}
    (caching : (service, path) ∈ call.caches) : Once past (Shows zk service path) := by
  cases call with
  | caching cached data =>
    obtain ⟨segment, -, same⟩ := List.mem_map.mp caching
    cases same
    exact Genuine.shows genuine _
  | reading read unread found =>
    cases unread with
    | nil =>
      obtain ⟨entry, member, same⟩ := List.mem_map.mp caching
      cases same
      exact Genuine.shows (genuine entry member) _
    | cons first rest => cases caching
  | _ => cases caching

/-- A step of the calls, the heartbeat or the other clients caches only what was seen. -/
theorem has_client (informed : Informed zk past watched) {event : SharedEvent Store}
    {shared : SharedClient Store} (moved : interleave zk watched.shared event = some shared)
    {service path : Bytes} (has : shared.registry.client.serviceCache.Has service path) :
    watched.registry.client.serviceCache.Has service path ∨ Once past (Shows zk service path) := by
  rcases client_interleave moved with same | ⟨call, -, waiting, same⟩ | ⟨answer, -, -, same⟩
  · rw [same] at has
    exact .inl has
  · rw [same] at has
    exact (has_advance has).imp_right (shows_of_caches (informed.call call waiting))
  · rw [same] at has
    exact .inl (ServiceCache.has_retain_iff.mp has).1

theorem has_handle (informed : Informed zk past watched) {path : Bytes} {stage : HandlerStage}
    (handling : watched.handler = some ⟨path, stage⟩) {service cached : Bytes}
    (has : (watched.handle zk path stage).registry.client.serviceCache.Has service cached) :
    watched.registry.client.serviceCache.Has service cached ∨
      Once past (Shows zk service cached) := by
  have genuine : GenuineStage zk past path stage := informed.handler ⟨path, stage⟩ handling
  rcases client_handle zk watched path stage with same | ⟨callback, data, segment, rfl, -, same⟩ |
    ⟨callback, segment, rfl, -, same⟩ | ⟨segment, rfl, -, same⟩
  · rw [same] at has
    exact .inl has
  · rw [same] at has
    refine (ServiceCache.has_setInstance has).imp_right ?_
    rintro ⟨-, rfl⟩
    exact Genuine.shows genuine.2 service
  · rw [same] at has
    exact .inl (ServiceCache.has_retain_iff.mp has).1
  · rw [same] at has
    exact .inl (ServiceCache.has_erase has)

theorem has_session (state : SessionState) (client : ZookeeperClient) {service path : Bytes}
    (has : (client.handleSessionEvent state).serviceCache.Has service path) :
    client.serviceCache.Has service path := by
  unfold handleSessionEvent at has
  split at has
  · exact has
  · split at has
    · exact has
    · obtain ⟨instances, cached, -⟩ := has
      rw [Table.find?_empty] at cached
      cases cached
    · exact has
    · exact has

/-- No step caches what was never seen. -/
theorem has_step (lawful : zk.Lawful) (informed : Informed zk past watched) {event : WatchEvent Store}
    (taken : watched.step zk event = some next) {service path : Bytes}
    (has : next.registry.client.serviceCache.Has service path) :
    watched.registry.client.serviceCache.Has service path ∨ Once past (Shows zk service path) := by
  cases transition_of_step taken with
  | client apart moved => exact has_client informed moved has
  | @watch path callback registry idle stored =>
    rw [← (cache_beginWatch path callback).of_ok stored]
    exact .inl has
  | @refuse path callback exit registry idle thrown =>
    rw [← (cache_beginWatch path callback).of_error thrown]
    exact .inl has
  | @arm path watching =>
    have client := (@finishWatch_same Store zk watched lawful path).1
    rw [client] at has
    exact .inl has
  | fire event path => exact .inl has
  | deliver idle queued listening => exact .inl has
  | skip idle queued unheard => exact .inl has
  | handle handling => exact has_handle informed handling has
  | session state idle => exact .inl (has_session state _ has)

/-- What the heartbeat has asked for and not compared is of the past. -/
theorem answer_client (lawful : zk.Lawful) (now : past watched) (informed : Informed zk past watched)
    {event : SharedEvent Store} {shared : SharedClient Store}
    (moved : interleave zk watched.shared event = some shared) :
    ∀ answer ∈ shared.answer, ∀ path ∈ answer.2, Once past (Shows zk answer.1 path) := by
  cases SharedClient.transition_of_interleave moved with
  | begin idle =>
    rw [answer_perform]
    exact informed.answer
  | advance waiting =>
    rw [answer_perform]
    exact informed.answer
  | snapshot rested up => exact informed.answer
  | @listChildren service rest services free =>
    unfold SharedClient.listNext
    split
    next children after listed =>
      rintro _ ⟨rfl⟩ path member
      refine ⟨watched, now, .inr ?_⟩
      cases opened : watched.shared.registry.client.zkHandle with
      | none => simp [run_request_closed opened] at listed
      | some session =>
        rw [run_request opened, EStateM.Result.ok.injEq] at listed
        obtain ⟨-, -, complete⟩ := lawful.getChildren_ok _ _ _ _ listed.1
        exact (ZooKeeper.mem_paths_iff_listed complete path).mp member
    · exact informed.answer
    · exact informed.answer
  | reconcile waiting =>
    intro answer none
    cases none
  | change store => exact informed.answer

/-- Beside the calls and the heartbeat, everything they have at hand stays. -/
theorem handler_step (lawful : zk.Lawful) (now : past watched) (informed : Informed zk past watched)
    {event : WatchEvent Store} (taken : watched.step zk event = some next) :
    ∀ handler ∈ next.handler, GenuineStage zk past handler.path handler.stage := by
  cases transition_of_step taken with
  | @deliver event path rest idle queued listening =>
    have waiting : (event, path) ∈ watched.queue := by
      rw [queued]
      exact List.mem_cons_self
    rintro _ ⟨rfl⟩
    exact ⟨watched, now, waiting⟩
  | @arm path watching =>
    rw [(@finishWatch_same Store zk watched lawful path).2.2.1]
    exact informed.handler
  | @handle path stage handling =>
    exact (stage_handle lawful now (informed.handler ⟨path, stage⟩ handling)).1
  | _ => exact informed.handler

theorem Informed.step (lawful : zk.Lawful) (now : past watched) (informed : Informed zk past watched)
    {event : WatchEvent Store} (taken : watched.step zk event = some next) :
    Informed zk (fun earlier => past earlier ∨ earlier = next) next := by
  have remembered : Informed zk (fun earlier => past earlier ∨ earlier = next) watched :=
    informed.mono fun _ => .inl
  have handler := handler_step lawful now informed taken
  refine ⟨?_, fun handling here => (handler handling here).mono fun _ => .inl, ?_⟩
  · rcases shared_step taken with ⟨shared, action, rfl, moved, rfl⟩ | ⟨-, same⟩
    · exact genuine_interleave lawful now informed.call moved rfl
    · rw [same]
      exact remembered.call
  · rcases shared_step taken with ⟨shared, action, rfl, moved, rfl⟩ | ⟨-, same⟩
    · intro answer waiting path member
      exact (answer_client lawful now informed moved answer waiting path member).mono fun _ => .inl
    · rw [same]
      exact remembered.answer

/-- A round comes to each of its services: it keeps an instance that ZooKeeper lists. -/
theorem due_client (informed : Informed zk past watched) {event : SharedEvent Store}
    {shared : SharedClient Store} (moved : interleave zk watched.shared event = some shared)
    (listed : Listed zk watched (.client event)) {service path : Bytes} (due : watched.Due service)
    (has : shared.registry.client.serviceCache.Has service path) :
    (watched.update zk shared).Due service ∨ Once past (Shows zk service path) := by
  cases SharedClient.transition_of_interleave moved with
  | begin idle =>
    refine .inl ?_
    rwa [Due, update, services_perform, answer_perform]
  | advance waiting =>
    refine .inl ?_
    rwa [Due, update, services_perform, answer_perform]
  | snapshot rested up =>
    rcases due with member | ⟨answer, waiting, -⟩
    · rw [rested.1] at member
      cases member
    · rw [rested.2] at waiting
      cases waiting
  | @listChildren asked rest services free =>
    rcases due with member | ⟨answer, waiting, -⟩
    · have answered := listed asked (by rw [services]; rfl)
      refine .inl ?_
      rw [services] at member
      unfold SharedClient.listNext at answered ⊢
      cases ran : (request (zk.zooGetChildren · (cString (47 :: asked)))).run
          watched.shared.registry with
      | error exit after => simp [ran, free] at answered
      | ok value after =>
        cases value with
        | error ret => simp [ran, free] at answered
        | ok children =>
          rcases List.mem_cons.mp member with rfl | later
          · exact .inr ⟨_, rfl, rfl⟩
          · exact .inl later
    · rw [free] at waiting
      cases waiting
  | @reconcile asked currentPaths waiting =>
    rcases due with later | ⟨answer, here, same⟩
    · exact .inl (.inl later)
    · rw [waiting] at here
      cases here
      have kept := (ServiceCache.has_retain_iff.mp has).2 same.symm
      refine .inr ?_
      rw [← same]
      exact informed.answer _ waiting path (of_decide_eq_true kept)
  | change store => exact .inl due

theorem due_step (informed : Informed zk past watched) {event : WatchEvent Store}
    (taken : watched.step zk event = some next) (listed : Listed zk watched event)
    {service path : Bytes} (due : watched.Due service)
    (has : next.registry.client.serviceCache.Has service path) :
    next.Due service ∨ Once past (Shows zk service path) := by
  rcases shared_step taken with ⟨shared, action, rfl, moved, rfl⟩ | ⟨-, same⟩
  · exact due_client informed moved listed due has
  · refine .inl ?_
    rwa [Due, same]

theorem Renewing.step (lawful : zk.Lawful) (now : past watched) (renewing : Renewing zk past watched)
    {event : WatchEvent Store} (listed : Listed zk watched event)
    (taken : watched.step zk event = some next) :
    Renewing zk (fun earlier => past earlier ∨ earlier = next) next := by
  refine ⟨renewing.toInformed.step lawful now taken, ?_⟩
  intro service path has
  have remembered : Once past (Shows zk service path) ∨ next.Due service := by
    rcases has_step lawful renewing.toInformed taken has with had | shown
    · rcases renewing.cached service path had with shown | due
      · exact .inl shown
      · exact (due_step renewing.toInformed taken listed due has).symm
    · exact .inl shown
  exact remembered.imp_left (·.mono fun _ => .inl)

theorem Renewed.step (lawful : zk.Lawful) (now : past watched) (renewed : Renewed zk past watched)
    {event : WatchEvent Store} (taken : watched.step zk event = some next) :
    Renewed zk (fun earlier => past earlier ∨ earlier = next) next := by
  refine ⟨renewed.toInformed.step lawful now taken, ?_⟩
  intro service path has
  refine Once.mono ?_ fun _ => .inl
  exact (has_step lawful renewed.toInformed taken has).elim (renewed.cached service path) id

end Steps

section Runs
variable {zk : ZooKeeper Store} {idle begun rested final : WatchedClient Store}
  {round later : List (WatchEvent Store)}

/-- When a round begins, it has yet to come to every list. -/
theorem renewing_begun (calm : idle.shared.call = none ∧ idle.handler = none)
    (taken : idle.step zk (.client .snapshot) = some begun) : Renewing zk (· = begun) begun := by
  cases transition_of_step taken with
  | client apart moved =>
    cases SharedClient.transition_of_interleave moved with
    | snapshot free up =>
      refine ⟨⟨?_, ?_, ?_⟩, ?_⟩
      · intro call waiting
        exact nomatch calm.1.symm.trans waiting
      · intro handler handling
        exact nomatch calm.2.symm.trans handling
      · intro answer waiting
        exact nomatch free.2.symm.trans waiting
      · intro service path has
        obtain ⟨instances, cached, -⟩ := has
        exact .inr (.inl (Table.mem_keys_iff.mpr ⟨instances, cached⟩))

/-- Once the round is over, what is cached has been seen since the round began. -/
theorem renewed_run (lawful : zk.Lawful) (calm : idle.shared.call = none ∧ idle.handler = none)
    (taken : idle.step zk (.client .snapshot) = some begun)
    (listed : Along (step zk) (Listed zk) begun round)
    (ended : run (step zk) begun round = some rested) (done : rested.Rested)
    (reached : run (step zk) rested later = some final) :
    Renewed zk (Visited (step zk) begun (round ++ later)) final := by
  have renewing : Renewing zk (Visited (step zk) begun round) rested :=
    run_remembers_along (fun grown renewing => renewing.mono grown)
      (fun _ _ _ _ now renewing listed taken => renewing.step lawful now listed taken)
      (renewing_begun calm taken) listed ended
  have kept : Renewed zk (fun earlier => Visited (step zk) begun round earlier ∨
      Visited (step zk) rested later earlier) final := by
    refine @run_remembers _ _ _ _ _ _ (fun past watched => Renewed zk (fun earlier =>
      Visited (step zk) begun round earlier ∨ past earlier) watched) ?_ ?_ ?_ reached
    · exact fun grown renewed => renewed.mono fun earlier => Or.imp_right (grown earlier)
    · intro past watched event next now renewed taken
      exact (renewed.step lawful (.inr now) taken).mono fun _ => or_assoc.mp
    · exact (renewing.renewed done).mono fun _ => .inl
  refine kept.mono ?_
  rintro earlier (visited | visited)
  · exact visited.append later
  · exact visited.prepend ended

/-- Once a round is over whose listings were all answered, a client answers only with
instances that have been in the store since the round began, whatever its calls, its
callbacks, the other clients and the session do in between. -/
theorem answers_renewed (lawful : zk.Lawful) (calm : idle.shared.call = none ∧ idle.handler = none)
    (taken : idle.step zk (.client .snapshot) = some begun)
    (listed : Along (step zk) (Listed zk) begun round)
    (ended : run (step zk) begun round = some rested) (done : rested.Rested)
    (reached : run (step zk) rested later = some final) :
    (∀ service instances after, (discoverService zk service).run final.registry =
      .ok instances after → ∀ entry ∈ instances,
        Once (Visited (step zk) begun (round ++ later)) (Shows zk service entry.1)) ∧
    ∀ service method names after, (findInstancesByMethod zk service method).run final.registry =
      .ok names after → ∀ name ∈ names, ∃ path, name = instanceName path ∧
        Once (Visited (step zk) begun (round ++ later)) (Shows zk service path) := by
  have renewed := renewed_run lawful calm taken listed ended done reached
  have now : Visited (step zk) begun (round ++ later) final := visited_final (by
    rw [run_append, ended]
    exact reached)
  have answers : ∀ service instances after, (discoverService zk service).run final.registry =
      .ok instances after → ∀ entry ∈ instances,
        Once (Visited (step zk) begun (round ++ later)) (Shows zk service entry.1) := by
    intro service instances after returned entry member
    rcases discoverService_answer lawful returned with cached | shown
    · exact renewed.cached service entry.1 ⟨instances, cached, List.mem_map_of_mem member⟩
    · obtain ⟨node, found, -⟩ := shown entry member
      exact ⟨final, now, .inl (Option.isSome_iff_exists.mpr ⟨node, found⟩)⟩
  refine ⟨answers, ?_⟩
  intro service method names after returned name member
  obtain ⟨instances, discovered, named⟩ := findInstancesByMethod_answer returned
  obtain ⟨entry, here, same, -⟩ := named name member
  exact ⟨entry.1, same, answers service instances after discovered entry here⟩

end Runs

section UserService

instance (watched : WatchedClient ZooTree) : Decidable watched.Rested :=
  inferInstanceAs (Decidable (_ ∧ _))

instance (watched : WatchedClient ZooTree) :
    ∀ event, Decidable (Listed zooTree watched event)
  | .client .listChildren => inferInstanceAs (Decidable (∀ service ∈ watched.shared.services.head?,
      (watched.shared.listNext zooTree service []).answer.isSome))
  | .client (.begin _) | .client .advance | .client .snapshot | .client .reconcile
  | .client (.change _) | .watch _ _ | .arm | .fire _ _ | .deliver | .handle | .session _ =>
    .isTrue trivial

/-- The instance that the client has cached is gone. -/
def staleWatched : WatchedClient ZooTree :=
  { shared.registry := { store := emptyService, client := staleClient } }

/-- Another server registers while the heartbeat has its listing at hand. -/
def renewingRound : List (WatchEvent ZooTree) :=
  [.client .listChildren, .client (.change (emptyService.zooCreate 8
      (userServicePath "10.0.0.2:80") (text "methods=Login") true).2), .client .reconcile]

def renewedDiscovery : List (WatchEvent ZooTree) :=
  [.client (.begin (.discoverService (text "UserService"))), .client .advance, .client .advance,
    .client .advance]

/-- The client turns to the new server. -/
theorem new_server_discovered : ∃ begun rested final,
    staleWatched.step zooTree (.client .snapshot) = some begun ∧
    run (step zooTree) begun renewingRound = some rested ∧
    run (step zooTree) rested renewedDiscovery = some final ∧
    final.registry.client.serviceCache.find? (text "UserService") =
      some [(userServicePath "10.0.0.2:80", text "methods=Login")] ∧
    ∀ service instances after, (discoverService zooTree service).run final.registry =
      .ok instances after → ∀ entry ∈ instances,
        Once (Visited (step zooTree) begun (renewingRound ++ renewedDiscovery))
          (Shows zooTree service entry.1) := by
  have ran : (staleWatched.step zooTree (.client .snapshot)).any fun begun =>
      Along (step zooTree) (Listed zooTree) begun renewingRound ∧
      (run (step zooTree) begun renewingRound).any fun rested => rested.Rested ∧
        (run (step zooTree) rested renewedDiscovery).any fun final =>
          final.registry.client.serviceCache.find? (text "UserService") =
            some [(userServicePath "10.0.0.2:80", text "methods=Login")] := by decide +kernel
  obtain ⟨begun, taken, ran⟩ := (Option.any_eq_true _ _).mp ran
  obtain ⟨listed, ran⟩ := of_decide_eq_true ran
  obtain ⟨rested, ended, ran⟩ := (Option.any_eq_true _ _).mp ran
  obtain ⟨done, ran⟩ := of_decide_eq_true ran
  obtain ⟨final, reached, cached⟩ := (Option.any_eq_true _ _).mp ran
  exact ⟨begun, rested, final, taken, ended, reached, of_decide_eq_true cached,
    (answers_renewed ZooTree.lawful ⟨rfl, rfl⟩ taken listed ended done reached).1⟩

end UserService

end WatchedClient

end Xrpc
