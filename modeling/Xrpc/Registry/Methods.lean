import Xrpc.Registry.Discovery
import Xrpc.Registry.Tree
import Xrpc.Support.Search

/-! How a server describes a service in the registry, and how a client finds the
instances that offer a method. -/

namespace Xrpc

open Support ZookeeperClient

/-- The name of a method is an identifier. -/
structure MethodName where
  value : Bytes
  named : value ≠ []
  unseparated : 44 ∉ value
  unassigned : 61 ∉ value

namespace MethodName

instance : DecidableEq MethodName := fun name other =>
  decidable_of_iff (name.value = other.value) (by cases name; cases other; simp)

end MethodName

/-- The path of `RegisterService`. -/
def registeredPath (serviceName serverIp : Bytes) (serverPort : Int) : Bytes :=
  47 :: serviceName ++ 47 :: serverIp ++ 58 :: toDecimal serverPort

/-- The data of `RegisterService`: `"methods="` and the method names, joined by commas. -/
def registeredData (methods : List Bytes) : Bytes := text "methods=" ++ join 44 methods

section Searches
variable {methods : List Bytes} {method : Bytes}

/-- `"methods="` occurs at the beginning only. -/
theorem first_prefix_iff (unassigned : ∀ name ∈ methods, 61 ∉ name) (front : Bytes) :
    front ++ (text "methods=" ++ method) <+: registeredData methods ↔
      front = [] ∧ method <+: join 44 methods := by
  have literal : text "methods=" = text "methods" ++ [61] := by decide
  have absent : 61 ∉ join 44 methods := not_mem_join (by decide) unassigned
  rw [registeredData]
  constructor
  · rintro ⟨more, same⟩
    have split : text "methods" ++ 61 :: join 44 methods =
        (front ++ text "methods") ++ 61 :: (method ++ more) := by
      simpa [literal] using same.symm
    obtain ⟨begun, -, rest⟩ :=
      (List.append_cons_inj_of_notMem (by decide) absent).mp split
    exact ⟨List.self_eq_append_left.mp begun, more, rest.symm⟩
  · rintro ⟨rfl, begins⟩
    rwa [List.nil_append, List.prefix_append_right_inj]

/-- A comma comes before each name but the first. -/
theorem later_prefix_iff (named : method ≠ []) (unseparated : 44 ∉ method)
    (flat : ∀ name ∈ methods, 44 ∉ name) (front : Bytes) :
    front ++ 44 :: method <+: registeredData methods ↔ ∃ before name after,
      methods = before ++ name :: after ∧ before ≠ [] ∧ front = registeredData before ∧
        method <+: name := by
  rw [registeredData, prefix_skip_iff (by decide)]
  constructor
  · rintro ⟨back, whole, begins⟩
    obtain ⟨before, name, after, split, some, same, begins⟩ :=
      (prefix_join_after_iff named unseparated flat).mp begins
    exact ⟨before, name, after, split, some, by rw [whole, same]; rfl, begins⟩
  · rintro ⟨before, name, after, split, some, whole, begins⟩
    refine ⟨join 44 before, whole, ?_⟩
    exact (prefix_join_after_iff named unseparated flat).mpr
      ⟨before, name, after, split, some, rfl, begins⟩

end Searches

/-- An instance in a list, as it was registered by a server at `serverIp` and
`serverPort`, neither of which has a slash. Of its data the list has the first
`shown` bytes, which are 512 if they were read from ZooKeeper. -/
structure Offer where
  serverIp : Bytes
  serverPort : Int
  methods : List MethodName
  shown : Nat
  flat : 47 ∉ serverIp

namespace Offer
variable (offer : Offer)

def names : List Bytes := offer.methods.map MethodName.value

def address : Bytes := offer.serverIp ++ 58 :: toDecimal offer.serverPort

def entry (service : Bytes) : Bytes × Bytes :=
  (registeredPath service offer.serverIp offer.serverPort,
    (registeredData offer.names).take offer.shown)

/-- One of the names begins with `method`, and this far the data is there. -/
def Advertises (method : Bytes) : Prop := ∃ before name after,
  offer.names = before ++ name :: after ∧ method <+: name ∧
    (registeredData (before ++ [method])).length ≤ offer.shown

end Offer

theorem registeredData_concat {before : List Bytes} (some : before ≠ []) (name : Bytes) :
    registeredData (before ++ [name]) = registeredData before ++ 44 :: name := by
  rw [registeredData, join_append some (List.cons_ne_nil _ _), registeredData, List.append_assoc]
  rfl

namespace ZookeeperClient
variable {Store : Type}

/-- The three searches of `FindInstancesByMethod`. -/
def offersMethod (data method : Bytes) : Bool :=
  (findStr (text "methods=" ++ method) data).isSome ||
    (findStr (text "methods=" ++ method ++ text ",") data).isSome ||
    (findStr (text "," ++ method) data).isSome

/-- `path.substr(path.rfind('/') + 1)` -/
def instanceName (path : Bytes) : Bytes :=
  match rfind path 47 with
  | some slash => path.drop (slash + 1)
  | none => path

def findInstancesByMethod (zk : ZooKeeper Store) (service method : Bytes) :
    Effect (Registry Store) (List Bytes) := do
  let instances ← discoverService zk service
  return (instances.filter fun entry => offersMethod entry.2 method).map fun entry =>
    instanceName entry.1

/-- After the last slash there is no slash. -/
theorem not_mem_instanceName (path : Bytes) : 47 ∉ instanceName path := by
  by_cases slash : 47 ∈ path.reverse
  · obtain ⟨behind, front, split, flat⟩ := List.eq_append_cons_of_mem slash
    have path_split : path = front.reverse ++ 47 :: behind.reverse := by
      simpa using congrArg List.reverse split
    rw [← List.mem_reverse] at flat
    have rest : (front.reverse ++ 47 :: behind.reverse).drop (front.reverse.length + 1) =
        behind.reverse := List.drop_length_add_append 1
    rw [path_split, instanceName, rfind_last flat]
    simp only [rest]
    exact flat
  · have absent : rfind path 47 = none := by
      rw [rfind, idxOf?_of_absent slash, Option.map_none]
    rw [instanceName, absent]
    simpa using slash

theorem instanceName_registeredPath {serverIp : Bytes} (flat : 47 ∉ serverIp)
    (serviceName : Bytes) (serverPort : Int) :
    instanceName (registeredPath serviceName serverIp serverPort) =
      serverIp ++ 58 :: toDecimal serverPort := by
  have digits : 47 ∉ serverIp ++ 58 :: toDecimal serverPort := by
    rw [List.mem_append, List.mem_cons, not_or, not_or]
    exact ⟨flat, by decide, not_mem_toDecimal (by decide) (by decide)⟩
  have path : registeredPath serviceName serverIp serverPort =
      (47 :: serviceName) ++ 47 :: (serverIp ++ 58 :: toDecimal serverPort) := by
    simp [registeredPath]
  rw [path, instanceName, rfind_last digits]
  simp

theorem instanceName_entry (offer : Offer) (service : Bytes) :
    instanceName (offer.entry service).1 = offer.address :=
  instanceName_registeredPath offer.flat service offer.serverPort

/-- The searches find the names that begin with `method`. -/
theorem offersMethod_iff (offer : Offer) (service : Bytes) (method : MethodName) :
    offersMethod (offer.entry service).2 method.value = true ↔ offer.Advertises method.value := by
  have unassigned : ∀ name ∈ offer.names, 61 ∉ name := by
    intro name member
    obtain ⟨own, -, same⟩ := List.mem_map.mp member
    exact same ▸ own.unassigned
  have unseparated : ∀ name ∈ offer.names, 44 ∉ name := by
    intro name member
    obtain ⟨own, -, same⟩ := List.mem_map.mp member
    exact same ▸ own.unseparated
  have shorter : (text "methods=" ++ method.value ++ text "," <:+: (offer.entry service).2) →
      text "methods=" ++ method.value <:+: (offer.entry service).2 :=
    fun longer => (List.prefix_append _ _).isInfix.trans longer
  have comma : text "," ++ method.value = 44 :: method.value := rfl
  simp only [offersMethod, Bool.or_eq_true, findStr_isSome_iff, comma]
  rw [or_iff_left_of_imp shorter, Offer.entry, infix_take_iff, infix_take_iff]
  constructor
  · rintro (⟨front, begins, short⟩ | ⟨front, begins, short⟩)
    · obtain ⟨empty, joined⟩ := (first_prefix_iff unassigned front).mp begins
      subst front
      obtain ⟨name, after, split, inside⟩ :=
        (prefix_join_iff method.named method.unseparated).mp joined
      exact ⟨[], name, after, split, inside, short⟩
    · obtain ⟨before, name, after, split, some, whole, inside⟩ :=
        (later_prefix_iff method.named method.unseparated unseparated front).mp begins
      refine ⟨before, name, after, split, inside, ?_⟩
      rwa [registeredData_concat some, ← whole]
  · rintro ⟨before, name, after, split, begins, short⟩
    by_cases first : before = []
    · subst before
      refine .inl ⟨[], (first_prefix_iff unassigned []).mpr ⟨rfl, ?_⟩, short⟩
      exact (prefix_join_iff method.named method.unseparated).mpr ⟨name, after, split, begins⟩
    · refine .inr ⟨registeredData before, ?_, by rwa [← registeredData_concat first]⟩
      exact (later_prefix_iff method.named method.unseparated unseparated _).mpr
        ⟨before, name, after, split, first, rfl, begins⟩

instance (offer : Offer) (method : MethodName) : Decidable (offer.Advertises method.value) :=
  decidable_of_iff _ (offersMethod_iff offer [] method)

theorem run_findInstancesByMethod {zk : ZooKeeper Store} {state after : Registry Store}
    {service : Bytes} {offers : List Offer}
    (listed : (discoverService zk service).run state = .ok (offers.map (·.entry service)) after)
    (method : MethodName) :
    (findInstancesByMethod zk service method.value).run state =
      .ok ((offers.filter (·.Advertises method.value)).map Offer.address) after := by
  have offering : ∀ offer : Offer, offersMethod (offer.entry service).2 method.value =
      decide (offer.Advertises method.value) := fun offer =>
    Bool.eq_iff_iff.mpr ((offersMethod_iff offer service method).trans decide_eq_true_iff.symm)
  rw [findInstancesByMethod, EStateM.run_bind, listed]
  simp only [EStateM.run_pure, List.filter_map, List.map_map, Function.comp_def, offering,
    instanceName_entry]

/-- The instances found are those that registered the method, if and only if no
other has a longer name in view, and they all have a name in view. -/
theorem found_instances_exact_iff {zk : ZooKeeper Store} {state after : Registry Store}
    {service : Bytes} {offers : List Offer} (distinct : (offers.map Offer.address).Nodup)
    (listed : (discoverService zk service).run state = .ok (offers.map (·.entry service)) after)
    (method : MethodName) :
    (findInstancesByMethod zk service method.value).run state =
        .ok ((offers.filter (method ∈ ·.methods)).map Offer.address) after ↔
      ∀ offer ∈ offers, offer.Advertises method.value ↔ method ∈ offer.methods := by
  rw [run_findInstancesByMethod listed, EStateM.Result.ok.injEq, and_iff_left rfl,
    map_filter_eq_iff distinct]
  exact forall₂_congr fun offer _ => decide_eq_decide

end ZookeeperClient

section UserService

def login : MethodName := ⟨text "Login", by decide, by decide, by decide⟩

def loginAll : MethodName := ⟨text "LoginAll", by decide, by decide, by decide⟩

def signUp : MethodName := ⟨text "Register", by decide, by decide, by decide⟩

def loginServer : Offer where
  serverIp := text "127.0.0.1"
  serverPort := 8080
  methods := [login]
  shown := 512
  flat := by decide

def userServer : Offer where
  serverIp := text "192.168.1.2"
  serverPort := 8081
  methods := [login, signUp]
  shown := 512
  flat := by decide

def loginAllServer : Offer where
  serverIp := text "127.0.0.1"
  serverPort := 8080
  methods := [loginAll]
  shown := 512
  flat := by decide

/-- A client that has these instances of `UserService` in its cache. -/
def listing (offers : List Offer) : Registry ZooTree where
  store := .empty
  client := {
    zkHandle := some 0, isConnected := true, running := true
    serviceCache := (∅ : ServiceCache).insert (text "UserService")
      (offers.map (·.entry (text "UserService"))) }

theorem listing_listed (offers : List Offer) :
    (discoverService zooTree (text "UserService")).run (listing offers) =
      .ok (offers.map (·.entry (text "UserService"))) (listing offers) :=
  discoverService_cached (Table.find?_insert _ _ _)

theorem sign_up_found :
    (findInstancesByMethod zooTree (text "UserService") signUp.value).run
        (listing [loginServer, userServer]) =
      .ok [text "192.168.1.2:8081"] (listing [loginServer, userServer]) := by
  have found := (found_instances_exact_iff (by decide +kernel)
    (listing_listed [loginServer, userServer]) signUp).mpr (by decide +kernel)
  have named : ([loginServer, userServer].filter (signUp ∈ ·.methods)).map Offer.address =
      [text "192.168.1.2:8081"] := by decide +kernel
  rwa [named] at found

/-- A server of `LoginAll` is taken for one of `Login`. -/
theorem login_all_misfound :
    (findInstancesByMethod zooTree (text "UserService") login.value).run
        (listing [loginAllServer]) = .ok [text "127.0.0.1:8080"] (listing [loginAllServer]) ∧
      login ∉ loginAllServer.methods := by
  have named : ([loginAllServer].filter (·.Advertises login.value)).map Offer.address =
      [text "127.0.0.1:8080"] := by decide +kernel
  refine ⟨?_, by decide⟩
  rw [run_findInstancesByMethod (listing_listed _), named]

end UserService

end Xrpc
