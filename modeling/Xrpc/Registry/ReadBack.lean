import Xrpc.Registry.Discovery
import Xrpc.Registry.WatchFrames

/-! What other clients read of a node that was registered: all of them through a
buffer of 512 bytes. -/

namespace Xrpc

open Support ZookeeperClient

variable {Store : Type} {zk : ZooKeeper Store}

theorem cString_cString (s : Bytes) : cString (cString s) = cString s := by
  simp [cString, List.takeWhile_takeWhile]

theorem getNodeData_cString (path : Bytes) : getNodeData zk (cString path) = getNodeData zk path := by
  rw [getNodeData, cString_cString]
  rfl

/-- A node with `data`, as `Register` leaves it. -/
def Holds (zk : ZooKeeper Store) (reader : Registry Store) (path data : Bytes) : Prop :=
  ∃ node, held zk reader (cString path) = some node ∧ node.data = data

section Readers
variable {reader : Registry Store} {path data : Bytes} (lawful : zk.Lawful) (reliable : zk.Reliable)
  (connected : reader.client.connected = true) (holds : Holds zk reader path data)
include lawful reliable connected holds

theorem read_node :
    ∃ store, zk.contents store = held zk reader ∧
      (getNodeData zk path).run reader = .ok (data.take 512) { reader with store } := by
  obtain ⟨node, found, same⟩ := holds
  have present : (held zk reader (cString path)).isSome := by rw [found]; rfl
  obtain ⟨other, store, there, kept, ran⟩ := run_getNodeData lawful reliable connected present
  rw [getNodeData_cString] at ran
  cases found.symm.trans there
  exact ⟨store, kept, by rw [ran, same]⟩

/-- `Discover` of a path that is not cached. -/
theorem discover_reads {service : Bytes} (segment : serviceSegment path = some service)
    (uncached : ((reader.client.serviceCache.find? service).getD []).find?
      (fun entry => entry.1 = path) = none) :
    ∃ left, (discover zk path).run reader = .ok (data.take 512) left := by
  obtain ⟨store, -, read⟩ := read_node lawful reliable connected holds
  have named : (serviceOf path).run reader = .ok service reader := by simp [serviceOf, segment]
  refine ⟨{ store, client := { reader.client with
    serviceCache := reader.client.serviceCache.setInstance service path (data.take 512) } }, ?_⟩
  rw [discover, EStateM.run_bind, named]
  dsimp only
  rw [EStateM.run_bind, EStateM.run_get]
  simp only [uncached]
  rw [EStateM.run_bind, read]
  dsimp only
  rw [EStateM.run_bind, run_cacheInstance segment]
  rfl

/-- The handler of a node event, between its two accesses. -/
theorem handler_reads {watched : WatchedClient Store} (callback : Nat)
    (same : watched.registry = reader) :
    (watched.handle zk (cString path) (.reading callback)).handler =
      some ⟨cString path, .storing callback (data.take 512)⟩ := by
  obtain ⟨store, -, read⟩ := read_node lawful reliable connected holds
  rw [WatchedClient.handle, WatchedClient.perform, same, getNodeData_cString, read]
  rfl

/-- `DiscoverService` of a service that is not cached. -/
theorem discoverService_reads {service : Bytes}
    (member : ZooKeeper.InstanceOf service (cString path))
    (uncached : reader.client.serviceCache.find? service = none) :
    ∃ instances left, (discoverService zk service).run reader = .ok instances left ∧
      ∀ other, (cString path, other) ∈ instances ↔ other = data.take 512 := by
  obtain ⟨node, found, same⟩ := holds
  have here : (held zk reader (cString path)).isSome := by rw [found]; rfl
  have present := member.service_present lawful here
  have named : service ≠ [] := by
    rintro rfl
    obtain ⟨name, -, -, path⟩ := member
    refine lawful.named _ _ here ?_
    rw [path]
    exact ⟨[], name, rfl⟩
  obtain ⟨instances, store, -, listing, ran⟩ :=
    discoverService_listed lawful reliable connected named uncached present
  refine ⟨instances, _, ran, ?_⟩
  intro other
  rw [listing.complete]
  constructor
  · rintro ⟨-, node', found', rfl⟩
    cases found.symm.trans found'
    rw [same]
  · rintro rfl
    exact ⟨member, node, found, by rw [same]⟩

end Readers

/-- The client has no list for the service of `path`, or one without `path`. -/
def Uncached (client : ZookeeperClient) (path : Bytes) : Prop :=
  ∀ service, serviceSegment path = some service →
    ((client.serviceCache.find? service).getD []).find? (fun entry => entry.1 = path) = none

end Xrpc
