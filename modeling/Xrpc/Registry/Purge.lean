import Xrpc.Registry.Heartbeat

/-! Which paths a heartbeat round removes from the cache. -/

namespace Xrpc

open Support ZookeeperClient

namespace ServiceCache

/-- The list of `service` has an instance at `path`. -/
def Has (cache : ServiceCache) (service path : Bytes) : Prop :=
  ∃ instances, cache.find? service = some instances ∧ path ∈ instances.map Prod.fst

variable {cache : ServiceCache} {service other path : Bytes}

theorem has_congr {after : ServiceCache} (same : after.find? service = cache.find? service) :
    after.Has service path ↔ cache.Has service path := by
  rw [Has, same, Has]

theorem has_retain_iff {keep : Bytes → Bool} :
    (cache.retain service keep).Has other path ↔
      cache.Has other path ∧ (other = service → keep path) := by
  by_cases same : other = service
  · subst other
    simp only [Has, find?_retain, Option.bind_eq_some_iff, forall_const]
    constructor
    · rintro ⟨left, ⟨instances, cached, filtered⟩, member⟩
      split at filtered
      · cases filtered
      · cases filtered
        obtain ⟨entry, here, rfl⟩ := List.mem_map.mp member
        obtain ⟨listed, kept⟩ := List.mem_filter.mp here
        exact ⟨⟨instances, cached, List.mem_map_of_mem listed⟩, kept⟩
    · rintro ⟨⟨instances, cached, member⟩, kept⟩
      obtain ⟨entry, listed, rfl⟩ := List.mem_map.mp member
      have left : entry ∈ instances.filter fun entry => keep entry.1 :=
        List.mem_filter.mpr ⟨listed, kept⟩
      exact ⟨_, ⟨instances, cached, if_neg (List.ne_nil_of_mem left)⟩, List.mem_map_of_mem left⟩
  · rw [has_congr (find?_retain_ne same keep)]
    simp [same]

theorem mem_paths_setInstance {data : Bytes} {instances : List (Bytes × Bytes)} {found : Bytes}
    (member : found ∈ (Xrpc.setInstance path data instances).map Prod.fst) :
    found = path ∨ found ∈ instances.map Prod.fst := by
  induction instances with
  | nil => exact .inl (by simpa [Xrpc.setInstance] using member)
  | cons first rest ih =>
    rw [Xrpc.setInstance] at member
    split at member
    · rcases List.mem_cons.mp member with here | later
      · exact .inl here
      · exact .inr (List.mem_cons_of_mem _ later)
    · rcases List.mem_cons.mp member with here | later
      · exact .inr (here ▸ List.mem_cons_self)
      · exact (ih later).imp_right (List.mem_cons_of_mem _)

theorem has_setInstance {data found : Bytes}
    (has : (cache.setInstance service path data).Has other found) :
    cache.Has other found ∨ (other = service ∧ found = path) := by
  obtain ⟨instances, cached, member⟩ := has
  by_cases same : other = service
  · subst other
    rw [find?_setInstance, Option.some.injEq] at cached
    subst instances
    rcases mem_paths_setInstance member with here | before
    · exact .inr ⟨rfl, here⟩
    · cases old : cache.find? service with
      | none => simp [old] at before
      | some instances => exact .inl ⟨instances, old, by simpa [old] using before⟩
  · rw [find?_setInstance_ne same] at cached
    exact .inl ⟨instances, cached, member⟩

theorem has_insert {instances : List (Bytes × Bytes)} {found : Bytes}
    (has : Has (cache.insert service instances) other found) :
    cache.Has other found ∨ (other = service ∧ found ∈ instances.map Prod.fst) := by
  obtain ⟨listed, cached, member⟩ := has
  by_cases same : other = service
  · subst other
    rw [Table.find?_insert, Option.some.injEq] at cached
    subst listed
    exact .inr ⟨rfl, member⟩
  · rw [Table.find?_insert_ne _ same] at cached
    exact .inl ⟨listed, cached, member⟩

end ServiceCache

namespace ZooKeeper

/-- ZooKeeper answers for this service, and the answer leaves the path out. -/
def Unlisted (contents : Contents) (service path : Bytes) : Prop :=
  (contents (cString (47 :: service))).isSome ∧ ¬ ListedAt contents service path

/-- Whoever has a node and a proper name has no dead instances listed. -/
theorem unlisted_of_dead {contents : Contents} {service path : Bytes} (named : service ≠ [])
    (terminated : 0 ∉ service) (present : (contents (47 :: service)).isSome)
    (dead : contents path = none) : Unlisted contents service path := by
  refine ⟨by rwa [cString_servicePath terminated], ?_⟩
  rw [listedAt_iff_live named terminated]
  rintro ⟨-, live⟩
  simp [dead] at live

end ZooKeeper

namespace ZookeeperClient
variable {Store : Type} {zk : ZooKeeper Store} {state : Registry Store} {service path : Bytes}

/-- Every cached path is that of a node. -/
def Purged (zk : ZooKeeper Store) (state : Registry Store) : Prop :=
  ∀ service path, state.client.serviceCache.Has service path → (held zk state path).isSome

theorem mem_reconciled_iff {contents : ZooKeeper.Contents} {instances : List (Bytes × Bytes)} :
    (∃ left, reconciled contents service instances = some left ∧ path ∈ left.map Prod.fst) ↔
      path ∈ instances.map Prod.fst ∧ ¬ ZooKeeper.Unlisted contents service path := by
  unfold reconciled ZooKeeper.Unlisted
  by_cases answered : (contents (cString (47 :: service))).isSome = true
  · rw [if_pos answered]
    dsimp only
    generalize filtered : (instances.filter fun entry =>
      ZooKeeper.ListedAt contents service entry.1) = kept
    have members : path ∈ kept.map Prod.fst ↔
        path ∈ instances.map Prod.fst ∧ ZooKeeper.ListedAt contents service path := by
      subst filtered
      simp only [List.mem_map, List.mem_filter, decide_eq_true_eq]
      constructor
      · rintro ⟨entry, ⟨member, listed⟩, rfl⟩
        exact ⟨⟨entry, member, rfl⟩, listed⟩
      · rintro ⟨⟨entry, member, rfl⟩, listed⟩
        exact ⟨entry, ⟨member, listed⟩, rfl⟩
    have listed : ¬ ((contents (cString (47 :: service))).isSome = true ∧
        ¬ ZooKeeper.ListedAt contents service path) ↔ ZooKeeper.ListedAt contents service path := by
      rw [not_and_not_right]
      exact forall_prop_of_true answered
    rw [listed, ← members]
    by_cases emptied : kept = []
    · simp [emptied]
    · simp [emptied]
  · rw [if_neg answered]
    simp [answered]

/-- The paths that a round leaves in the cache. -/
theorem has_after_round_iff (lawful : zk.Lawful) (reliable : zk.Reliable)
    (connected : state.client.connected = true) :
    (stateAfter ((heartbeatRound zk).run state)).client.serviceCache.Has service path ↔
      state.client.serviceCache.Has service path ∧
        ¬ ZooKeeper.Unlisted (held zk state) service path := by
  obtain ⟨store, cache, -, ran, lists⟩ := run_heartbeatRound lawful reliable connected
  rw [ran, stateAfter_ok]
  simp only [ServiceCache.Has, lists service, Option.bind_eq_some_iff]
  constructor
  · rintro ⟨kept, ⟨instances, cached, left⟩, member⟩
    obtain ⟨before, listed⟩ := mem_reconciled_iff.mp ⟨kept, left, member⟩
    exact ⟨⟨instances, cached, before⟩, listed⟩
  · rintro ⟨⟨instances, cached, before⟩, listed⟩
    obtain ⟨kept, left, member⟩ := mem_reconciled_iff.mpr ⟨before, listed⟩
    exact ⟨kept, ⟨instances, cached, left⟩, member⟩

/-- A round purges the cache of dead instances if and only if each of them is
cached for a service that has a node, which leaves it out. -/
theorem purged_after_round_iff (lawful : zk.Lawful) (reliable : zk.Reliable)
    (connected : state.client.connected = true) :
    Purged zk (stateAfter ((heartbeatRound zk).run state)) ↔
      ∀ service path, state.client.serviceCache.Has service path → held zk state path = none →
        ZooKeeper.Unlisted (held zk state) service path := by
  have unchanged : held zk (stateAfter ((heartbeatRound zk).run state)) = held zk state :=
    keeps_heartbeatRound (unseen_held lawful) state
  rw [Purged, unchanged]
  constructor
  · intro purged service path cached dead
    by_contra listed
    have live := purged service path
      ((has_after_round_iff lawful reliable connected).mpr ⟨cached, listed⟩)
    simp [dead] at live
  · intro condition service path cached
    obtain ⟨before, listed⟩ := (has_after_round_iff lawful reliable connected).mp cached
    by_contra dead
    exact listed (condition service path before (Option.not_isSome_iff_eq_none.mp dead))

end ZookeeperClient

section UserService

/-- A client that has an instance in its cache. -/
def staleClient : ZookeeperClient :=
  { ownClient with
    serviceCache := (∅ : ServiceCache).insert (text "UserService")
      [(userServicePath "10.0.0.1:80", text "methods=Login")] }

/-- The instance is gone, and the node of the service is left. -/
def emptyService : ZooTree := (ZooTree.empty.zooCreate 7 (text "/UserService") [] false).2

theorem stale_instance_purged :
    Purged zooTree (stateAfter ((heartbeatRound zooTree).run
      { store := emptyService, client := staleClient })) := by
  refine (purged_after_round_iff ZooTree.lawful ZooTree.reliable rfl).mpr ?_
  rintro service path ⟨instances, cached, -⟩ dead
  by_cases same : service = text "UserService"
  · subst service
    exact ZooKeeper.unlisted_of_dead (by decide) (by decide) (by decide +kernel) dead
  · have absent : staleClient.serviceCache.find? service = none :=
      (Table.find?_insert_ne _ same _).trans (Table.find?_empty service)
    exact nomatch absent.symm.trans cached

/-- With the node of the service gone as well, the instance stays cached. -/
theorem removed_service_stays : ¬ Purged zooTree (stateAfter ((heartbeatRound zooTree).run
    { store := .empty, client := staleClient })) := by
  intro purged
  have cached : (stateAfter ((heartbeatRound zooTree).run
      { store := .empty, client := staleClient })).client.serviceCache.find? (text "UserService") =
        some [(userServicePath "10.0.0.1:80", text "methods=Login")] := by decide +kernel
  have live := purged _ (userServicePath "10.0.0.1:80") ⟨_, cached, by simp⟩
  have dead : held zooTree (stateAfter ((heartbeatRound zooTree).run
      { store := .empty, client := staleClient })) (userServicePath "10.0.0.1:80") = none := by
    decide +kernel
  simp [dead] at live

end UserService

end Xrpc
