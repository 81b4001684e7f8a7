import Xrpc.Registry.Deletion
import Xrpc.Registry.Provenance
import Xrpc.Support.Simulation

/-! What a registry client is for: a directory of the instances of each service, with
their data. While the cache of a client has whole lists, its members answer as the
directory does. -/

namespace Xrpc

open Support ZookeeperClient

section Abstract
variable {Service Name Data : Type}

/-- The data that each service has under the names of its instances. -/
abbrev Directory (Service Name Data : Type) := Service → Name → Option Data

inductive DirectoryCall (Service Name Data : Type) where
  | register (service : Service) (name : Name) (data : Data) (ephemeral : Bool)
  | find (service : Service) (name : Name)
  | list (service : Service)
  | remove (service : Service) (name : Name)

/-- `failed` stands for any exception. -/
inductive DirectoryAnswer (Name Data : Type) where
  | done
  | found (data : Data)
  | listed (instances : List (Name × Data))
  | failed
  deriving DecidableEq

namespace Directory
variable [DecidableEq Service] [DecidableEq Name]

def set (directory : Directory Service Name Data) (service : Service) (name : Name)
    (data : Option Data) : Directory Service Name Data :=
  fun other called => if other = service ∧ called = name then data else directory other called

/-- A write is carried out or refused, and a read tells what is there. -/
inductive Step (directory : Directory Service Name Data) :
    DirectoryCall Service Name Data → DirectoryAnswer Name Data →
      Directory Service Name Data → Prop
  | registered (service : Service) (name : Name) (data : Data) (ephemeral : Bool) :
      Step directory (.register service name data ephemeral) .done
        (directory.set service name (some data))
  | refused (service : Service) (name : Name) (data : Data) (ephemeral : Bool) :
      Step directory (.register service name data ephemeral) .failed directory
  | found {service : Service} {name : Name} {data : Data}
      (here : directory service name = some data) :
      Step directory (.find service name) (.found data) directory
  | missing {service : Service} {name : Name} (absent : directory service name = none) :
      Step directory (.find service name) .failed directory
  | listed {service : Service} {instances : List (Name × Data)}
      (distinct : (instances.map Prod.fst).Nodup)
      (exact : ∀ name data, (name, data) ∈ instances ↔ directory service name = some data) :
      Step directory (.list service) (.listed instances) directory
  | unlisted {service : Service} (empty : ∀ name, directory service name = none) :
      Step directory (.list service) .failed directory
  | removed (service : Service) (name : Name) :
      Step directory (.remove service name) .done (directory.set service name none)
  | kept (service : Service) (name : Name) : Step directory (.remove service name) .failed directory

/-- The call may change what is at the name. -/
def Touches (service : Service) (name : Name) : DirectoryCall Service Name Data → Prop
  | .register other called _ _ | .remove other called => other = service ∧ called = name
  | .find _ _ | .list _ => False

theorem set_apart (directory : Directory Service Name Data) {service other : Service}
    {name called : Name} (apart : ¬ (other = service ∧ called = name)) (data : Option Data) :
    directory.set other called data service name = directory service name := by
  have same : ¬ (service = other ∧ name = called) := fun same => apart ⟨same.1.symm, same.2.symm⟩
  rw [set, if_neg same]

theorem Step.apart {directory next : Directory Service Name Data}
    {call : DirectoryCall Service Name Data} {answer : DirectoryAnswer Name Data} {service : Service}
    {name : Name} (step : Step directory call answer next) (apart : ¬ Touches service name call) :
    next service name = directory service name := by
  cases step with
  | registered other called data ephemeral => exact set_apart directory apart _
  | removed other called => exact set_apart directory apart _
  | _ => rfl

theorem Step.written {directory next : Directory Service Name Data} {service : Service} {name : Name}
    {data : Data} {ephemeral : Bool}
    (step : Step directory (.register service name data ephemeral) .done next) :
    next service name = some data := by
  cases step with
  | registered => exact if_pos ⟨rfl, rfl⟩

theorem Step.read {directory next : Directory Service Name Data} {service : Service} {name : Name}
    {answer : DirectoryAnswer Name Data} {data : Data}
    (step : Step directory (.find service name) answer next)
    (here : directory service name = some data) : answer = .found data := by
  cases step with
  | found other =>
    rw [Option.some.inj (other.symm.trans here)]
  | missing absent =>
    rw [here] at absent
    cases absent

/-- An entry stays as it is while no call touches it. -/
theorem untouched {directory final : Directory Service Name Data}
    {calls : List (DirectoryCall Service Name Data)} {answers : List (DirectoryAnswer Name Data)}
    {service : Service} {name : Name} (apart : ∀ call ∈ calls, ¬ Touches service name call)
    (allows : Allows Step directory calls answers final) :
    final service name = directory service name := by
  have kept : ∀ (before : Directory Service Name Data) call answer after,
      before service name = directory service name → ¬ Touches service name call →
        Step before call answer after → after service name = directory service name :=
    fun _ _ _ _ same apart step => (Step.apart step apart).trans same
  exact allows.preserves (fun state => state service name = directory service name) kept rfl apart

end Directory

end Abstract

section Contents
variable {before after : ZooKeeper.Contents} {service name : Bytes}

/-- The instances in the store, with the data that a reader gets. -/
def directoryOf (contents : ZooKeeper.Contents) : Directory Bytes Bytes Bytes := fun service name =>
  if name ≠ [] ∧ 47 ∉ name then (contents (instancePath service name)).map (·.data.take 512) else none

theorem directoryOf_proper (proper : ProperName name) (contents : ZooKeeper.Contents)
    (service : Bytes) :
    directoryOf contents service name = (contents (instancePath service name)).map (·.data.take 512) :=
  if_pos ⟨proper.named, proper.flat⟩

theorem directoryOf_eq_some_iff {contents : ZooKeeper.Contents} {data : Bytes} :
    directoryOf contents service name = some data ↔
      (instancePath service name, data) ∈ ZooKeeper.instancesOf contents service := by
  unfold directoryOf
  constructor
  · intro here
    obtain ⟨⟨named, flat⟩, here⟩ := Option.ite_none_right_eq_some.mp here
    obtain ⟨node, found, same⟩ := Option.map_eq_some_iff.mp here
    exact ⟨⟨name, named, flat, rfl⟩, node, found, same.symm⟩
  · intro ⟨⟨other, named, flat, path⟩, node, found, same⟩
    have own := instancePath_injective service path
    subst other
    rw [if_pos ⟨named, flat⟩]
    exact Option.map_eq_some_iff.mpr ⟨node, found, same.symm⟩

/-- An instance path tells the service and the name. -/
theorem instancePath_apart {other called : Bytes} (flat : 47 ∉ name) (calledFlat : 47 ∉ called)
    (apart : ¬ (other = service ∧ called = name)) :
    instancePath other called ≠ instancePath service name := by
  intro same
  have parents := congrArg parentOf same
  rw [parentOf_instancePath calledFlat, parentOf_instancePath flat, List.cons.injEq] at parents
  obtain ⟨-, rfl⟩ := parents
  exact apart ⟨rfl, instancePath_injective other same⟩

/-- Writing an instance writes its entry, whatever it does to the node of the service. -/
theorem directoryOf_set (flat : 47 ∉ service) (proper : ProperName name)
    (others : ∀ other, other ≠ instancePath service name → other ≠ 47 :: service →
      after other = before other) :
    directoryOf after = (directoryOf before).set service name
      ((after (instancePath service name)).map (·.data.take 512)) := by
  funext other called
  unfold Directory.set
  split
  next same =>
    obtain ⟨rfl, rfl⟩ := same
    exact directoryOf_proper proper after other
  next apart =>
    unfold directoryOf
    split
    next calledProper =>
      rw [others _ (instancePath_apart proper.flat calledProper.2 apart)]
      intro parent
      have instanceOf : ZooKeeper.InstanceOf other (47 :: service) :=
        ⟨called, calledProper.1, calledProper.2, parent.symm⟩
      exact ZooKeeper.not_instanceOf_parent flat instanceOf
    · rfl

/-- The node of a service is no entry. -/
theorem directoryOf_congr (flat : 47 ∉ service)
    (others : ∀ other, other ≠ 47 :: service → after other = before other) :
    directoryOf after = directoryOf before := by
  funext other called
  unfold directoryOf
  split
  next proper =>
    rw [others]
    intro parent
    have instanceOf : ZooKeeper.InstanceOf other (47 :: service) :=
      ⟨called, proper.1, proper.2, parent.symm⟩
    exact ZooKeeper.not_instanceOf_parent flat instanceOf
  · rfl

end Contents

namespace ZookeeperClient
variable {Store : Type} {zk : ZooKeeper Store} {state : Registry Store} {service name data : Bytes}

/-- The member functions, as calls of the directory. -/
def consult (zk : ZooKeeper Store) : DirectoryCall Bytes Bytes Bytes →
    Effect (Registry Store) (DirectoryAnswer Bytes Bytes)
  | .register service name data ephemeral => do
    register zk (instancePath service name) data ephemeral
    return .done
  | .find service name => do return .found (← discover zk (instancePath service name))
  | .list service => do
    let instances ← discoverService zk service
    return .listed (instances.map fun entry => (entry.1.drop (service.length + 2), entry.2))
  | .remove service name => do
    delete zk (instancePath service name)
    return .done

def serve (zk : ZooKeeper Store) (state : Registry Store) (call : DirectoryCall Bytes Bytes Bytes) :
    DirectoryAnswer Bytes Bytes × Registry Store :=
  match (consult zk call).run state with
  | .ok answer after => (answer, after)
  | .error _ after => (.failed, after)

/-- Names are proper, data fit into the buffer of a reader, and a service of which one
instance is asked for or registered has its whole list cached, or no other instance. -/
def Fitting (zk : ZooKeeper Store) (state : Registry Store) :
    DirectoryCall Bytes Bytes Bytes → Prop
  | .register service name data _ => ProperName service ∧ ProperName name ∧ data.length ≤ 512 ∧
    (state.client.serviceCache.find? service = none →
      ZooKeeper.Sole (held zk state) service (instancePath service name))
  | .find service name => ProperName service ∧ ProperName name ∧
    (state.client.serviceCache.find? service = none →
      ZooKeeper.Sole (held zk state) service (instancePath service name))
  | .list service => ProperName service
  | .remove service name => ProperName service ∧ ProperName name

section Serve
variable {call : DirectoryCall Bytes Bytes Bytes} {after : Registry Store}

theorem serve_ok {answer : DirectoryAnswer Bytes Bytes}
    (returned : (consult zk call).run state = .ok answer after) :
    serve zk state call = (answer, after) := by
  rw [serve, returned]

theorem serve_error {exit : Exit} (thrown : (consult zk call).run state = .error exit after) :
    serve zk state call = (.failed, after) := by
  rw [serve, thrown]

end Serve

/-- A call is answered as the directory in the store allows. -/
def Refines (zk : ZooKeeper Store) (state : Registry Store) (call : DirectoryCall Bytes Bytes Bytes) :
    Prop :=
  Directory.Step (directoryOf (held zk state)) call (serve zk state call).1
    (directoryOf (held zk (serve zk state call).2))

theorem refines_register (lawful : zk.Lawful) (reliable : zk.Reliable) (proper : ProperName service)
    (properName : ProperName name) (short : data.length ≤ 512) (ephemeral : Bool) :
    Refines zk state (.register service name data ephemeral) := by
  have parent : cString (parentOf (instancePath service name)) = 47 :: service := by
    rw [parentOf_instancePath properName.flat]
    exact cString_servicePath proper.terminated
  cases ran : (ZookeeperClient.register zk (instancePath service name) data ephemeral).run state with
  | ok done after =>
    have returned : (consult zk (.register service name data ephemeral)).run state =
        .ok .done after := by
      rw [consult, EStateM.run_bind, ran]
      rfl
    obtain ⟨found, -, -, ⟨node, sameData, there⟩, others⟩ := register_returned lawful ran
    rw [proper.cString_instancePath properName] at there others
    rw [parent] at others
    rw [Refines, serve_ok returned, directoryOf_set proper.flat properName others, there,
      Option.map_some, sameData, List.take_of_length_le short]
    exact .registered service name data ephemeral
  | error exit after =>
    have thrown : (consult zk (.register service name data ephemeral)).run state =
        .error exit after := by
      rw [consult, EStateM.run_bind, ran]
    obtain ⟨-, others⟩ :=
      register_refused lawful reliable (serviceSegment_instancePath proper.flat name) ran
    rw [parent] at others
    rw [Refines, serve_error thrown, directoryOf_congr proper.flat others]
    exact .refused service name data ephemeral

/-- A `Delete` that throws has deleted nothing. -/
theorem delete_refused (lawful : zk.Lawful) (reliable : zk.Reliable) {path : Bytes}
    (segment : serviceSegment path = some service) {exit : Exit} {after : Registry Store}
    (refused : (delete zk path).run state = .error exit after) : held zk after = held zk state := by
  have unseen := unseen_held lawful
  rcases bind_error_cases refused with unstarted | ⟨_, between, started, rest⟩
  · exact keeps_checkStarted.of_error unstarted
  have first : held zk between = held zk state := keeps_checkStarted.of_ok started
  rcases bind_error_cases rest with unasked | ⟨stat, last, asked, rest⟩
  · exact ((unseen.zooExists _).of_error unasked).trans first
  have second : held zk last = held zk state := ((unseen.zooExists _).of_ok asked).trans first
  split at rest
  · cases rest
  · cases rest
    exact second
  · rcases bind_error_cases rest with undeleted | ⟨_, final, deleted, rest⟩
    · rcases attempt_refused undeleted with same | ⟨session, ret, answer, left⟩
      · rw [same]
        exact second
      · subst after
        exact (reliable.delete_refused _ _ _ _ answer).trans second
    · rw [run_forgetInstance segment] at rest
      cases rest

theorem refines_remove (lawful : zk.Lawful) (reliable : zk.Reliable) (proper : ProperName service)
    (properName : ProperName name) : Refines zk state (.remove service name) := by
  have terminated := proper.cString_instancePath properName
  cases ran : (ZookeeperClient.delete zk (instancePath service name)).run state with
  | ok done after =>
    have returned : (consult zk (.remove service name)).run state = .ok .done after := by
      rw [consult, EStateM.run_bind, ran]
      rfl
    have gone : held zk after = Function.update (held zk state) (instancePath service name) none := by
      rw [← terminated]
      rcases delete_returned lawful ran with ⟨missing, -, same⟩ | ⟨-, _, -, removed, -⟩
      · rw [same, ← missing, Function.update_eq_self]
      · exact removed
    have others : ∀ other, other ≠ instancePath service name → other ≠ 47 :: service →
        held zk after other = held zk state other := by
      intro other apart _
      rw [gone, Function.update_of_ne apart]
    rw [Refines, serve_ok returned, directoryOf_set proper.flat properName others, gone,
      Function.update_self]
    exact .removed service name
  | error exit after =>
    have thrown : (consult zk (.remove service name)).run state = .error exit after := by
      rw [consult, EStateM.run_bind, ran]
    have same := delete_refused lawful reliable (serviceSegment_instancePath proper.flat name) ran
    rw [Refines, serve_error thrown, same]
    exact .kept service name

theorem refines_find (lawful : zk.Lawful) (reliable : zk.Reliable) (synced : Synced zk state)
    (proper : ProperName service) (properName : ProperName name) :
    Refines zk state (.find service name) := by
  have terminated := proper.cString_instancePath properName
  have segment := serviceSegment_instancePath proper.flat name
  have kept := keeps_discover (unseen_held lawful) (instancePath service name)
  cases ran : (discover zk (instancePath service name)).run state with
  | ok data after =>
    have returned : (consult zk (.find service name)).run state = .ok (.found data) after := by
      rw [consult, EStateM.run_bind, ran]
      rfl
    rw [Refines, serve_ok returned, kept.of_ok ran]
    refine .found (directoryOf_eq_some_iff.mpr ?_)
    rcases discover_answer lawful ran with ⟨own, instances, same, cached, member⟩ | ⟨node, found, same⟩
    · rw [segment, Option.some.injEq] at same
      subst own
      exact ((synced.listed service instances proper cached).complete _).mp member
    · rw [terminated] at found
      exact ⟨⟨name, properName.named, properName.flat, rfl⟩, node, found, same⟩
  | error exit after =>
    have thrown : (consult zk (.find service name)).run state = .error exit after := by
      rw [consult, EStateM.run_bind, ran]
    rw [Refines, serve_error thrown, kept.of_error ran]
    refine .missing ?_
    rw [directoryOf_proper properName, Option.map_eq_none_iff]
    by_contra present
    obtain ⟨node, found⟩ := Option.ne_none_iff_exists'.mp present
    cases cached : ((state.client.serviceCache.find? service).getD []).find?
        fun entry => entry.1 = instancePath service name with
    | some entry =>
      have named : (serviceOf (instancePath service name)).run state = .ok service state := by
        simp [serviceOf, segment]
      rw [discover, EStateM.run_bind, named] at ran
      dsimp only at ran
      rw [EStateM.run_bind, EStateM.run_get] at ran
      simp [cached] at ran
    | none =>
      have holds : Holds zk state (instancePath service name) node.data := by
        refine ⟨node, ?_, rfl⟩
        rw [terminated]
        exact found
      obtain ⟨left, read⟩ := discover_reads lawful reliable synced.connected holds segment cached
      rw [read] at ran
      cases ran

/-- A listing of the paths is one of the names. -/
theorem listed_of_listing {contents : ZooKeeper.Contents} {instances : List (Bytes × Bytes)}
    (listing : ZooKeeper.Listing contents service instances) :
    Directory.Step (directoryOf contents) (.list service)
      (.listed (instances.map fun entry => (entry.1.drop (service.length + 2), entry.2)))
      (directoryOf contents) := by
  have paths : ∀ entry ∈ instances,
      instancePath service (entry.1.drop (service.length + 2)) = entry.1 := by
    intro entry member
    obtain ⟨⟨name, -, -, path⟩, -⟩ := (listing.complete entry).mp member
    rw [path, ZooKeeper.drop_instancePath]
  refine .listed ?_ ?_
  · rw [List.map_map]
    have recovered : (instances.map fun entry => entry.1.drop (service.length + 2)).map
        (instancePath service) = instances.map Prod.fst := by
      rw [List.map_map]
      exact List.map_congr_left paths
    refine List.Nodup.of_map (instancePath service) ?_
    exact recovered ▸ listing.distinct
  · intro name data
    rw [directoryOf_eq_some_iff, ← listing.complete, List.mem_map]
    constructor
    · rintro ⟨entry, member, same⟩
      cases same
      rwa [paths entry member]
    · intro member
      exact ⟨_, member, by rw [ZooKeeper.drop_instancePath]⟩

theorem refines_list (lawful : zk.Lawful) (reliable : zk.Reliable) (synced : Synced zk state)
    (proper : ProperName service) : Refines zk state (.list service) := by
  have answered : ∀ {instances : List (Bytes × Bytes)} {after : Registry Store},
      (discoverService zk service).run state = .ok instances after →
        held zk after = held zk state →
        ZooKeeper.Listing (held zk state) service instances → Refines zk state (.list service) := by
    intro instances after ran same listing
    have returned : (consult zk (.list service)).run state = .ok (.listed (instances.map
        fun entry => (entry.1.drop (service.length + 2), entry.2))) after := by
      rw [consult, EStateM.run_bind, ran]
      rfl
    rw [Refines, serve_ok returned, same]
    exact listed_of_listing listing
  cases cached : state.client.serviceCache.find? service with
  | some instances =>
    exact answered (discoverService_cached cached) rfl (synced.listed service instances proper cached)
  | none =>
    by_cases present : (held zk state (47 :: service)).isSome
    · obtain ⟨instances, store, same, listing, ran⟩ :=
        discoverService_listed lawful reliable synced.connected proper.named cached present
      exact answered ran same listing
    · have missing : held zk state (cString (47 :: service)) = none := by
        rw [cString_servicePath proper.terminated]
        exact Option.not_isSome_iff_eq_none.mp present
      obtain ⟨session, opened⟩ := exists_session synced.connected
      obtain ⟨ret, store, same, -, ran⟩ := discoverService_missing lawful opened cached missing
      have thrown : (consult zk (.list service)).run state =
          .error (runtimeError (text "Failed to get children: " ++ zk.zerror ret))
            { state with store } := by
        rw [consult, EStateM.run_bind, ran]
      rw [Refines, serve_error thrown]
      change Directory.Step _ _ _ (directoryOf (zk.contents store))
      rw [same]
      refine .unlisted ?_
      intro name
      by_contra listed
      obtain ⟨data, here⟩ := Option.ne_none_iff_exists'.mp listed
      obtain ⟨isInstance, node, found, -⟩ := directoryOf_eq_some_iff.mp here
      exact present (isInstance.service_present lawful (Option.isSome_iff_exists.mpr ⟨node, found⟩))

/-- A call leaves what its member function leaves. -/
theorem serve_state {α : Type} {body : Effect (Registry Store) α}
    {answer : α → DirectoryAnswer Bytes Bytes} {call : DirectoryCall Bytes Bytes Bytes}
    (same : consult zk call = do return answer (← body)) :
    (serve zk state call).2 = stateAfter (body.run state) := by
  have left : (serve zk state call).2 = stateAfter ((consult zk call).run state) := by
    unfold serve
    split
    next ran => rw [ran, stateAfter_ok]
    next ran => rw [ran, stateAfter_error]
  have kept : id (stateAfter ((body >>= fun value => pure (answer value)).run state)) =
      id (stateAfter (body.run state)) := view_bind (fun value => Keeps.pure (answer value)) state
  rw [left, same]
  exact kept

theorem synced_serve (lawful : zk.Lawful) (reliable : zk.Reliable) (synced : Synced zk state)
    {call : DirectoryCall Bytes Bytes Bytes} (fitting : Fitting zk state call) :
    Synced zk (serve zk state call).2 := by
  cases call with
  | register service name data ephemeral =>
    obtain ⟨proper, properName, short, sole⟩ := fitting
    rw [serve_state (by rfl)]
    exact synced.register lawful reliable proper properName short sole ephemeral
  | find service name =>
    obtain ⟨proper, properName, sole⟩ := fitting
    rw [serve_state (by rfl)]
    exact synced.discover lawful proper properName sole
  | list service =>
    rw [serve_state (by rfl)]
    exact synced.discoverService lawful reliable fitting
  | remove service name =>
    rw [serve_state (by rfl)]
    refine synced.delete lawful reliable ?_
    simp [instancePath, fitting.1.terminated, fitting.2.terminated]

theorem refines_of_fitting (lawful : zk.Lawful) (reliable : zk.Reliable) (synced : Synced zk state)
    {call : DirectoryCall Bytes Bytes Bytes} (fitting : Fitting zk state call) :
    Refines zk state call := by
  cases call with
  | register service name data ephemeral =>
    exact refines_register lawful reliable fitting.1 fitting.2.1 fitting.2.2.1 ephemeral
  | find service name => exact refines_find lawful reliable synced fitting.1 fitting.2.1
  | list service => exact refines_list lawful reliable synced fitting
  | remove service name => exact refines_remove lawful reliable fitting.1 fitting.2

section Runs
variable {start : Registry Store} {calls : List (DirectoryCall Bytes Bytes Bytes)}

/-- Every call of the run is fitting where it is made. -/
def AllFitting (zk : ZooKeeper Store) (start : Registry Store)
    (calls : List (DirectoryCall Bytes Bytes Bytes)) : Prop :=
  Along (fun state call => some (serve zk state call).2) (Fitting zk) start calls

theorem allowed_run (lawful : zk.Lawful) (reliable : zk.Reliable) (synced : Synced zk start)
    (fitting : AllFitting zk start calls) :
    Allows Directory.Step (directoryOf (held zk start)) calls (respond (serve zk) start calls).1
        (directoryOf (held zk (respond (serve zk) start calls).2)) ∧
      Synced zk (respond (serve zk) start calls).2 := by
  have simulates : ∀ (state : Registry Store) (directory : Directory Bytes Bytes Bytes) call,
      (Synced zk state ∧ directory = directoryOf (held zk state)) → Fitting zk state call →
      ∃ next, Directory.Step directory call (serve zk state call).1 next ∧
        Synced zk (serve zk state call).2 ∧ next = directoryOf (held zk (serve zk state call).2) := by
    rintro state _ call ⟨synced, rfl⟩ fitting
    exact ⟨_, refines_of_fitting lawful reliable synced fitting,
      synced_serve lawful reliable synced fitting, rfl⟩
  obtain ⟨_, allows, later, rfl⟩ := respond_allowed simulates ⟨synced, rfl⟩ fitting
  exact ⟨allows, later⟩

theorem synced_start {client : ZookeeperClient} {store : Store} (connected : client.connected = true)
    (empty : client.serviceCache = ∅) : Synced zk { store, client } := by
  refine ⟨connected, ?_⟩
  intro service instances _ cached
  rw [empty, Table.find?_empty] at cached
  cases cached

/-- A client that is alone answers as the directory in its store, call by call. -/
theorem directory_refined (lawful : zk.Lawful) (reliable : zk.Reliable)
    (connected : start.client.connected = true) (empty : start.client.serviceCache = ∅)
    (fitting : AllFitting zk start calls) :
    Allows Directory.Step (directoryOf (held zk start)) calls (respond (serve zk) start calls).1
      (directoryOf (held zk (respond (serve zk) start calls).2)) :=
  (allowed_run lawful reliable (synced_start connected empty) fitting).1

/-- What was registered is found, however often the service is listed, other instances
come and go and the cache is rebuilt in between. -/
theorem registered_found (lawful : zk.Lawful) (reliable : zk.Reliable)
    (connected : start.client.connected = true) (empty : start.client.serviceCache = ∅)
    {before between : List (DirectoryCall Bytes Bytes Bytes)} {ephemeral : Bool}
    (fitting : AllFitting zk start
      (before ++ .register service name data ephemeral :: (between ++ [.find service name])))
    (done : (serve zk (respond (serve zk) start before).2
      (.register service name data ephemeral)).1 = .done)
    (apart : ∀ call ∈ between, ¬ Directory.Touches service name call) :
    (serve zk (respond (serve zk) start
      (before ++ .register service name data ephemeral :: between)).2 (.find service name)).1 =
        .found data := by
  obtain ⟨early, rest⟩ := along_append.mp fitting
  obtain ⟨-, synced⟩ := allowed_run lawful reliable (synced_start connected empty) early
  obtain ⟨fits, rest⟩ := rest _ (run_respond before)
  obtain ⟨during, last⟩ := along_append.mp (rest _ rfl)
  have written := refines_of_fitting lawful reliable synced fits
  rw [Refines, done] at written
  obtain ⟨kept, final⟩ :=
    allowed_run lawful reliable (synced_serve lawful reliable synced fits) during
  obtain ⟨finds, -⟩ := last _ (run_respond between)
  have read := refines_of_fitting lawful reliable final finds
  rw [respond_append]
  refine Directory.Step.read read ?_
  rw [Directory.untouched apart kept]
  exact Directory.Step.written written

end Runs

section UserService

instance (state : Registry ZooTree) : ∀ call, Decidable (Fitting zooTree state call)
  | .register _ _ _ _ => inferInstanceAs (Decidable (_ ∧ _ ∧ _ ∧ (_ → _)))
  | .find _ _ => inferInstanceAs (Decidable (_ ∧ _ ∧ (_ → _)))
  | .list service => inferInstanceAs (Decidable (ProperName service))
  | .remove _ _ => inferInstanceAs (Decidable (_ ∧ _))

instance (start : Registry ZooTree) (calls : List (DirectoryCall Bytes Bytes Bytes)) :
    Decidable (AllFitting zooTree start calls) :=
  inferInstanceAs (Decidable (Along _ (Fitting zooTree) start calls))

def otherRegistry : Registry ZooTree := { store := otherServer, client := ownClient }

/-- The other server is listed, and goes. -/
def listing : List (DirectoryCall Bytes Bytes Bytes) := [.list (text "UserService")]

def departure : List (DirectoryCall Bytes Bytes Bytes) :=
  [.remove (text "UserService") (text "10.0.0.1:80"), .list (text "UserService")]

def ownRegistration : DirectoryCall Bytes Bytes Bytes :=
  .register (text "UserService") (text "10.0.0.2:80") (text "methods=Login") true

theorem departure_refined :
    (respond (serve zooTree) otherRegistry (listing ++ ownRegistration :: departure)).1 =
      [.listed [(text "10.0.0.1:80", text "methods=Login")], .done, .done,
        .listed [(text "10.0.0.2:80", text "methods=Login")]] ∧
    Allows Directory.Step (directoryOf (held zooTree otherRegistry))
      (listing ++ ownRegistration :: departure)
      (respond (serve zooTree) otherRegistry (listing ++ ownRegistration :: departure)).1
      (directoryOf (held zooTree
        (respond (serve zooTree) otherRegistry (listing ++ ownRegistration :: departure)).2)) :=
  ⟨by decide +kernel, directory_refined ZooTree.lawful ZooTree.reliable rfl rfl (by decide +kernel)⟩

theorem registration_found :
    (serve zooTree (respond (serve zooTree) otherRegistry
      (listing ++ ownRegistration :: departure)).2
        (.find (text "UserService") (text "10.0.0.2:80"))).1 = .found (text "methods=Login") := by
  refine registered_found ZooTree.lawful ZooTree.reliable rfl rfl (by decide +kernel)
    (by decide +kernel) ?_
  intro call member
  rcases List.mem_cons.mp member with same | member
  · subst call
    change ¬ (_ ∧ _)
    decide +kernel
  · rw [List.mem_singleton.mp member]
    exact id

end UserService

end ZookeeperClient

end Xrpc
