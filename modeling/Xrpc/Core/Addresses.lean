import Xrpc.Core.Channel
import Xrpc.Registry.Methods

/-! The address of a server, from its registration to the call that connects to it. -/

namespace Xrpc

open Support ZookeeperClient

namespace XrpcChannel
variable {Store : Type} {outside : Outside} {address serverIp : Bytes} {serverPort : Int}

/-- The address is split at its first colon. -/
theorem locate_eq_ok_iff {others : List Bytes}
    (given : outside.instances = .ok (address :: others)) :
    locate outside = .ok (serverIp, serverPort) ↔
      ∃ digits, address = serverIp ++ 58 :: digits ∧ 58 ∉ serverIp ∧
        stoi digits = some serverPort := by
  by_cases colon : 58 ∈ address
  · obtain ⟨front, rest, split, first⟩ := List.eq_append_cons_of_mem colon
    subst address
    have position : find (front ++ 58 :: rest) 58 0 = some front.length := by
      rw [find, List.drop_zero, idxOf?_of_first first, Option.map_some, Nat.add_zero]
    have before : (front ++ 58 :: rest).take front.length = front := List.take_left
    have behind : (front ++ 58 :: rest).drop (front.length + 1) = rest :=
      List.drop_length_add_append 1
    have located (number : Int) (port : stoi rest = some number) :
        locate outside = .ok (front, number) := by
      rw [locate, getServiceAddress, given]
      simp only [bind, Except.bind, position, Option.isNone_some, Bool.false_eq_true, if_false, pure,
        Except.pure, Option.getD_some, before, behind, port]
    constructor
    · intro ended
      cases port : stoi rest with
      | none =>
        rw [locate, getServiceAddress, given] at ended
        simp only [bind, Except.bind, position, Option.isNone_some, Bool.false_eq_true, if_false,
          pure, Except.pure, Option.getD_some, behind, port] at ended
        cases ended
      | some number =>
        rw [located number port] at ended
        simp only [Except.ok.injEq, Prod.mk.injEq] at ended
        exact ⟨rest, by rw [ended.1], ended.1 ▸ first, by rw [port, ended.2]⟩
    · rintro ⟨digits, same, flat, port⟩
      have lengths : front.length = serverIp.length := by
        have positions := congrArg (List.idxOf? 58) same
        rw [idxOf?_of_first first, idxOf?_of_first flat] at positions
        exact Option.some.inj positions
      obtain ⟨rfl, tails⟩ := List.append_inj same lengths
      obtain ⟨-, rfl⟩ := List.cons.inj tails
      exact located serverPort port
  · have nowhere : find address 58 0 = none := by
      rw [find, List.drop_zero, idxOf?_of_absent colon, Option.map_none]
    have lost : locate outside = .error (text "Invalid address format") := by
      rw [locate, getServiceAddress, given]
      simp only [bind, Except.bind, nowhere, Option.isNone_none, if_true]
      rfl
    rw [lost]
    constructor
    · intro never
      cases never
    · rintro ⟨digits, rfl, -, -⟩
      exact absurd (by simp) colon

/-- What a server has registered leads a call to it if and only if its ip has no
colon (and no slash): it is not an IPv6 address. -/
theorem address_recovered_iff {zk : ZooKeeper Store} {state after : Registry Store}
    {serviceName method data : Bytes} {instances : List (Bytes × Bytes)}
    (fits : -2147483648 ≤ serverPort ∧ serverPort ≤ 2147483647)
    (listed : (discoverService zk serviceName).run state = .ok instances after)
    (first : instances.find? (fun entry => offersMethod entry.2 method) =
      some (registeredPath serviceName serverIp serverPort, data)) :
    ∃ addresses, (findInstancesByMethod zk serviceName method).run state = .ok addresses after ∧
      ∀ outside : Outside, outside.instances = .ok addresses →
        (locate outside = .ok (serverIp, serverPort) ↔ 58 ∉ serverIp ∧ 47 ∉ serverIp) := by
  obtain ⟨others, offering⟩ : ∃ others, instances.filter (fun entry => offersMethod entry.2 method) =
      (registeredPath serviceName serverIp serverPort, data) :: others := by
    rw [← List.head?_filter] at first
    exact List.head?_eq_some_iff.mp first
  refine ⟨_, by rw [findInstancesByMethod, EStateM.run_bind, listed]; rfl, ?_⟩
  intro outside given
  rw [offering, List.map_cons] at given
  rw [locate_eq_ok_iff given]
  constructor
  · rintro ⟨digits, split, flat, -⟩
    have slash := not_mem_instanceName (registeredPath serviceName serverIp serverPort)
    rw [split, List.mem_append, not_or] at slash
    exact ⟨flat, slash.1⟩
  · rintro ⟨flat, slash⟩
    exact ⟨toDecimal serverPort, instanceName_registeredPath slash serviceName serverPort, flat,
      stoi_toDecimal fits.1 fits.2⟩

section UserService

/-- The same server, at an IPv6 address. -/
def loopbackServer : Offer where
  serverIp := text "::1"
  serverPort := 8080
  methods := [login]
  shown := 512
  flat := by decide

theorem login_address_recovered :
    ∃ addresses, (findInstancesByMethod zooTree (text "UserService") login.value).run
        (listing [loginServer]) = .ok addresses (listing [loginServer]) ∧
      ∀ outside : Outside, outside.instances = .ok addresses →
        locate outside = .ok (text "127.0.0.1", 8080) := by
  have first : ([loginServer].map (·.entry (text "UserService"))).find?
      (fun entry => offersMethod entry.2 login.value) =
        some (registeredPath (text "UserService") (text "127.0.0.1") 8080,
          registeredData [text "Login"]) := by decide +kernel
  obtain ⟨addresses, found, located⟩ :=
    address_recovered_iff (by decide) (listing_listed [loginServer]) first
  exact ⟨addresses, found, fun outside given => (located outside given).mpr (by decide)⟩

/-- What comes before the first colon of `::1:8080` is empty, and what follows is no number. -/
theorem loopback_address_lost :
    (findInstancesByMethod zooTree (text "UserService") login.value).run
        (listing [loopbackServer]) = .ok [text "::1:8080"] (listing [loopbackServer]) ∧
      ∀ outside : Outside, outside.instances = .ok [text "::1:8080"] →
        locate outside = .error (text "stoi") := by
  constructor
  · have named : ([loopbackServer].filter (·.Advertises login.value)).map Offer.address =
        [text "::1:8080"] := by decide +kernel
    rw [run_findInstancesByMethod (listing_listed _), named]
  · intro outside given
    rw [locate, getServiceAddress, given]
    decide +kernel

end UserService

end XrpcChannel

end Xrpc
