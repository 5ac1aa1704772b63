import GoWaku.Node.Enr

/-!
# Choosing the Address for the Record

`selectMostExternalAddress` from the node package: of the node's listen
addresses, the one whose IP goes into the record's `ip` and `tcp` entries.

The code reads a multiaddress only through `ValueForProtocol`, the value of
its first component of a given protocol, so a multiaddress is kept here as its
components, with only the protocols the selection asks for told apart. The
value of an `ip4` component is its four bytes; the code renders it as a
dotted quad and parses it back with `net.ParseIP`, which gives the address in
its 16-byte IPv4-mapped form, and that form is what `extractIPAddressForENR`
returns. A `dns4` name is looked up with `net.ResolveIPAddr`, a call to the
network's resolver; the resolver is a parameter, giving an IPv4 address or an
error. A `tcp` value is a `uint16` written in decimal, which `strconv.Atoi`
always reads back.

`net.IP`'s `IsPrivate`, `IsLoopback`, `IsLinkLocalUnicast` and `IsMulticast`
are given as the Go standard library defines them. The selection ranks the
accepted addresses by `isExternal`, then `isPrivate`, then `isLoopback`, and
`isExternal` is "not private, not loopback, not unspecified": a link-local
or multicast address counts as external.

`selectMostExternalAddress_spec` states the selection against the input list
itself rather than the lists the code builds from it: the address comes from
the first multiaddress, in list order, that gives an address of the best class
any multiaddress gives (`FirstOfClass`, `NoneOfClass`), and the error comes
exactly when no multiaddress gives one of the three. Since `isExternal` admits
them, a link-local or a multicast address is chosen ahead of a private one
(`selectMostExternalAddress_prefers_link_local_and_multicast`).

## Main definitions

* `IP.isPrivate`, `IP.isLoopback`, `IP.isLinkLocalUnicast`, `IP.isMulticast`:
  `net.IP`'s address classes.
* `Component`: A multiaddress component.
* `extractIPAddressForENR`: The address a multiaddress gives the record.
* `isPrivate`, `isExternal`, `isLoopback`, `filterIP`: The ranking.
* `selectMostExternalAddress`: `selectMostExternalAddress`.
* `FirstOfClass`, `NoneOfClass`: The first multiaddress giving an address of a
  class, and none giving one.

## Theorems

* `firstOfClass_cons`: The first of a class, one multiaddress at a time.
* `head?_filter_extractIPAddresses`: The head of a ranking list, read off the
  input.
* `head?_filter_extractIPAddresses_eq_none`: An empty ranking list.
* `extractIPAddressForENR_to4`: Every extracted address is IPv4.
* `selectMostExternalAddress_spec`: What the selection returns.
* `selectMostExternalAddress_ok_to4`: Every selected address is IPv4.
* `selectMostExternalAddress_prefers_link_local_and_multicast`: Two lists where
  it returns a link-local and a multicast address.
-/

namespace GoWaku

namespace Node

/-- `IPv6loopback`, `::1`. -/
def ipv6loopback : IP := List.replicate 15 0 ++ [1]

/-- `IP.IsPrivate`: `10/8`, `172.16/12` and `192.168/16`, or `fc00::/7`. -/
def IP.isPrivate (ip : IP) : Bool :=
  match ip.to4 with
  | some ip4 =>
    ip4.getD 0 0 == 10 || (ip4.getD 0 0 == 172 && ip4.getD 1 0 &&& 0xf0 == 16) ||
      (ip4.getD 0 0 == 192 && ip4.getD 1 0 == 168)
  | none => ip.length == 16 && ip.getD 0 0 &&& 0xfe == 0xfc

/-- `IP.IsLoopback`: `127/8`, or `::1`. -/
def IP.isLoopback (ip : IP) : Bool :=
  match ip.to4 with
  | some ip4 => ip4.getD 0 0 == 127
  | none => ip.equal ipv6loopback

/-- `IP.IsLinkLocalUnicast`: `169.254/16`, or `fe80::/10`. -/
def IP.isLinkLocalUnicast (ip : IP) : Bool :=
  match ip.to4 with
  | some ip4 => ip4.getD 0 0 == 169 && ip4.getD 1 0 == 254
  | none => ip.length == 16 && ip.getD 0 0 == 0xfe && ip.getD 1 0 &&& 0xc0 == 0x80

/-- `IP.IsMulticast`: `224/4`, or `ff00::/8`. -/
def IP.isMulticast (ip : IP) : Bool :=
  match ip.to4 with
  | some ip4 => ip4.getD 0 0 &&& 0xf0 == 0xe0
  | none => ip.length == 16 && ip.getD 0 0 == 0xff

/-- A multiaddress component, by the protocols the setup asks for, `/p2p/`
    with the text of the peer id it names; every other protocol is `other`,
    by its code. -/
inductive Component where
  | ip4 (addr : Bytes 4)
  | dns4 (name : String)
  | tcp (port : UInt16)
  | ws
  | wss
  | p2pCircuit
  | p2p (peerID : String)
  | other (code : Nat)
deriving DecidableEq, Repr

namespace Component

/-- The address of an `ip4` component. -/
def ip4? : Component → Option (Bytes 4)
  | .ip4 addr => some addr
  | _ => none

/-- The name of a `dns4` component. -/
def dns4? : Component → Option String
  | .dns4 name => some name
  | _ => none

/-- The port of a `tcp` component. -/
def tcp? : Component → Option UInt16
  | .tcp port => some port
  | _ => none

end Component

/-- go-multiaddr's `ErrProtocolNotFound`, returned by `ValueForProtocol`. -/
def errProtocolNotFound : GoError := ⟨"protocol not found in multiaddr"⟩

/-- `ValueForProtocol` for a protocol with a value: the first component's. -/
def valueForProtocol {α : Type} (value? : Component → Option α) (addr : List Component) :
    Except GoError α :=
  match addr.findSome? value? with
  | some v => .ok v
  | none => .error errProtocolNotFound

/-- `extractIPAddressForENR`: refuse circuit-relay, `ws` and `wss` addresses;
    take the IP of the `dns4` name if there is one, of the `ip4` component
    otherwise, and the `tcp` port. -/
def extractIPAddressForENR (resolveIP4 : String → Except GoError (Bytes 4))
    (addr : List Component) : Except GoError TCPAddr :=
  if .p2pCircuit ∈ addr then .error ⟨"can't use IP address from a p2p-circuit address"⟩
  else if .ws ∈ addr then .error ⟨"can't use IP address from a ws address"⟩
  else if .wss ∈ addr then .error ⟨"can't use IP address from a wss address"⟩
  else do
    let ip ← match addr.findSome? Component.dns4? with
      | some dns4 => resolveIP4 dns4
      | none => valueForProtocol Component.ip4? addr
    let port ← valueForProtocol Component.tcp? addr
    pure ⟨v4InV6Prefix ++ ip.data, port.toNat⟩

/-- `isPrivate`. -/
def isPrivate (addr : TCPAddr) : Bool := addr.ip.isPrivate

/-- `isExternal`: not private, not loopback, not unspecified. -/
def isExternal (addr : TCPAddr) : Bool :=
  !isPrivate addr && !addr.ip.isLoopback && !addr.ip.isUnspecified

/-- `isLoopback`. -/
def isLoopback (addr : TCPAddr) : Bool := addr.ip.isLoopback

/-- `filterIP`: the addresses `fn` accepts, in order. -/
def filterIP (ss : List TCPAddr) (fn : TCPAddr → Bool) : List TCPAddr :=
  ss.filter fn

/-- The loop of `selectMostExternalAddress`: the address each multiaddress
    gives, skipping those `extractIPAddressForENR` refuses. -/
def extractIPAddresses (resolveIP4 : String → Except GoError (Bytes 4))
    (addresses : List (List Component)) : List TCPAddr :=
  addresses.filterMap fun addr => (extractIPAddressForENR resolveIP4 addr).toOption

/-- `selectMostExternalAddress`: the first external address, else the first
    private one, else the first loopback one. -/
def selectMostExternalAddress (resolveIP4 : String → Except GoError (Bytes 4))
    (addresses : List (List Component)) : Except GoError TCPAddr :=
  let ipAddrs := extractIPAddresses resolveIP4 addresses
  match (filterIP ipAddrs isExternal).head? with
  | some addr => .ok addr
  | none =>
    match (filterIP ipAddrs isPrivate).head? with
    | some addr => .ok addr
    | none =>
      match (filterIP ipAddrs isLoopback).head? with
      | some addr => .ok addr
      | none => .error ⟨"could not obtain ip address"⟩

/-- `To4` of an IPv4-mapped address is its four bytes. -/
theorem IP.to4_v4InV6 {b : IP} (hb : b.length = 4) : IP.to4 (v4InV6Prefix ++ b) = some b := by
  have hp : v4InV6Prefix.length = 12 := rfl
  have hl : (v4InV6Prefix ++ b).length = 16 := by simp [hp, hb]
  rw [IP.to4, if_neg (by omega), if_pos ⟨hl, List.take_left' hp⟩, List.drop_left' hp]

/-- Every address `extractIPAddressForENR` gives is an IPv4 address, in its
    16-byte form. -/
theorem extractIPAddressForENR_to4 (resolveIP4 : String → Except GoError (Bytes 4))
    {addr : List Component} {a : TCPAddr} (h : extractIPAddressForENR resolveIP4 addr = .ok a) :
    ∃ ip4 : Bytes 4, a.ip.to4 = some ip4.data := by
  unfold extractIPAddressForENR at h
  split_ifs at h
  split at h <;>
  · obtain ⟨ip4, -, h⟩ := bind_eq_ok h
    obtain ⟨port, -, h⟩ := bind_eq_ok h
    cases h
    exact ⟨ip4, IP.to4_v4InV6 ip4.length_eq⟩

section Selection

variable (resolveIP4 : String → Except GoError (Bytes 4))

/-- `a` is what the first multiaddress of the list that
    `extractIPAddressForENR` accepts with an address of the class `p` gives. -/
def FirstOfClass (p : TCPAddr → Bool) (addresses : List (List Component)) (a : TCPAddr) :
    Prop :=
  ∃ pre addr post, addresses = pre ++ addr :: post ∧
    extractIPAddressForENR resolveIP4 addr = .ok a ∧ p a ∧
    ∀ b ∈ pre, ∀ c, extractIPAddressForENR resolveIP4 b = .ok c → p c = false

/-- No multiaddress of the list gives an address of the class `p`. -/
def NoneOfClass (p : TCPAddr → Bool) (addresses : List (List Component)) : Prop :=
  ∀ b ∈ addresses, ∀ c, extractIPAddressForENR resolveIP4 b = .ok c → p c = false

theorem firstOfClass_nil (p : TCPAddr → Bool) (a : TCPAddr) :
    ¬ FirstOfClass resolveIP4 p [] a := by
  rintro ⟨pre, addr, post, h, -⟩
  simp at h

theorem firstOfClass_cons (p : TCPAddr → Bool) (b : List Component)
    (bs : List (List Component)) (a : TCPAddr) :
    FirstOfClass resolveIP4 p (b :: bs) a ↔
      (extractIPAddressForENR resolveIP4 b = .ok a ∧ p a) ∨
      ((∀ c, extractIPAddressForENR resolveIP4 b = .ok c → p c = false) ∧
        FirstOfClass resolveIP4 p bs a) := by
  constructor
  · rintro ⟨_ | ⟨b', pre⟩, addr, post, h, ha, hp, hpre⟩
    · obtain ⟨rfl, -⟩ := List.cons.inj h
      exact .inl ⟨ha, hp⟩
    · obtain ⟨rfl, rfl⟩ := List.cons.inj h
      exact .inr ⟨hpre _ (List.mem_cons_self _ _),
        pre, addr, post, rfl, ha, hp, fun c hc => hpre c (List.mem_cons_of_mem _ hc)⟩
  · rintro (⟨ha, hp⟩ | ⟨hb, pre, addr, post, rfl, ha, hp, hpre⟩)
    · exact ⟨[], b, bs, rfl, ha, hp, by simp⟩
    · refine ⟨b :: pre, addr, post, rfl, ha, hp, ?_⟩
      simpa only [List.forall_mem_cons] using ⟨hb, hpre⟩

/-- The first address of a class among those the loop collects is the one the
    first multiaddress giving such an address gives. -/
theorem head?_filter_extractIPAddresses (p : TCPAddr → Bool)
    (addresses : List (List Component)) (a : TCPAddr) :
    ((extractIPAddresses resolveIP4 addresses).filter p).head? = some a ↔
      FirstOfClass resolveIP4 p addresses a := by
  induction addresses with
  | nil => simp [extractIPAddresses, firstOfClass_nil]
  | cons b bs ih =>
      rw [firstOfClass_cons, ← ih]
      cases hb : extractIPAddressForENR resolveIP4 b with
      | error e => simp [extractIPAddresses, hb, Except.toOption]
      | ok c =>
          have hl : extractIPAddresses resolveIP4 (b :: bs) = c :: extractIPAddresses resolveIP4 bs := by
            simp only [extractIPAddresses, List.filterMap_cons, hb, Except.toOption]
          rw [hl, List.filter_cons, Except.ok.injEq]
          by_cases hc : p c
          · -- The address is of the class: it is the first.
            simp only [hc, if_true, List.head?_cons, Option.some.injEq]
            refine ⟨fun h => .inl ⟨h, h ▸ hc⟩, ?_⟩
            rintro (⟨h, -⟩ | ⟨h, -⟩)
            exacts [h, absurd (h c rfl) (by simp [hc])]
          · -- It is not: the first comes later.
            simp only [hc, Bool.false_eq_true, if_false]
            refine ⟨fun h => .inr ⟨fun c' hc' => by cases hc'; simpa using hc, h⟩, ?_⟩
            rintro (⟨rfl, h⟩ | ⟨-, h⟩)
            exacts [absurd h hc, h]

/-- The loop collects no address of a class exactly when no multiaddress gives
    one. -/
theorem head?_filter_extractIPAddresses_eq_none (p : TCPAddr → Bool)
    (addresses : List (List Component)) :
    ((extractIPAddresses resolveIP4 addresses).filter p).head? = none ↔
      NoneOfClass resolveIP4 p addresses := by
  simp only [List.head?_eq_none_iff, List.filter_eq_nil_iff, extractIPAddresses,
    List.mem_filterMap, NoneOfClass]
  constructor
  · intro h b hb c hc
    simpa using h c ⟨b, hb, by simp [hc, Except.toOption]⟩
  · rintro h x ⟨b, hb, hx⟩
    cases he : extractIPAddressForENR resolveIP4 b <;>
      simp only [he, Except.toOption, reduceCtorEq, Option.some.injEq] at hx
    simp [← hx, h b hb _ he]

/-- What the selection returns, for every list of multiaddresses: what the
    first multiaddress giving an external address gives; if none does, what
    the first giving a private one gives; if none does, the first loopback
    one; and the error exactly when none gives an address of the three. -/
theorem selectMostExternalAddress_spec (addresses : List (List Component)) :
    (∀ a, selectMostExternalAddress resolveIP4 addresses = .ok a ↔
      FirstOfClass resolveIP4 isExternal addresses a ∨
      (NoneOfClass resolveIP4 isExternal addresses ∧
        FirstOfClass resolveIP4 isPrivate addresses a) ∨
      (NoneOfClass resolveIP4 isExternal addresses ∧ NoneOfClass resolveIP4 isPrivate addresses ∧
        FirstOfClass resolveIP4 isLoopback addresses a)) ∧
    (∀ e, selectMostExternalAddress resolveIP4 addresses = .error e ↔
      NoneOfClass resolveIP4 isExternal addresses ∧ NoneOfClass resolveIP4 isPrivate addresses ∧
        NoneOfClass resolveIP4 isLoopback addresses ∧ e = ⟨"could not obtain ip address"⟩) := by
  simp only [← head?_filter_extractIPAddresses, ← head?_filter_extractIPAddresses_eq_none]
  dsimp only [selectMostExternalAddress, filterIP]
  generalize ((extractIPAddresses resolveIP4 addresses).filter isExternal).head? = o₁
  generalize ((extractIPAddresses resolveIP4 addresses).filter isPrivate).head? = o₂
  generalize ((extractIPAddresses resolveIP4 addresses).filter isLoopback).head? = o₃
  cases o₁ <;> cases o₂ <;> cases o₃ <;> simp [eq_comm]

end Selection

/-- Every address the selection returns is an IPv4 address: `To4` gives its
    four bytes. -/
theorem selectMostExternalAddress_ok_to4 (resolveIP4 : String → Except GoError (Bytes 4))
    {addresses : List (List Component)} {a : TCPAddr}
    (h : selectMostExternalAddress resolveIP4 addresses = .ok a) :
    ∃ ip4 : Bytes 4, a.ip.to4 = some ip4.data := by
  -- Whichever class it was chosen from, some multiaddress gave it.
  have key (p : TCPAddr → Bool)
      (hp : ((extractIPAddresses resolveIP4 addresses).filter p).head? = some a) :
      ∃ ip4 : Bytes 4, a.ip.to4 = some ip4.data := by
    obtain ⟨-, addr, -, -, ha, -⟩ := (head?_filter_extractIPAddresses resolveIP4 p addresses a).mp hp
    exact extractIPAddressForENR_to4 resolveIP4 ha
  dsimp only [selectMostExternalAddress, filterIP] at h
  split at h
  · cases h; exact key _ ‹_›
  split at h
  · cases h; exact key _ ‹_›
  split at h
  · cases h; exact key _ ‹_›
  · cases h

theorem selectMostExternalAddress_ok_to4_one_address :
    selectMostExternalAddress (fun _ => .error ⟨"no such host"⟩)
        [[.ip4 ⟨[1, 2, 3, 4], rfl⟩, .tcp 60000]] = .ok ⟨v4InV6Prefix ++ [1, 2, 3, 4], 60000⟩ ∧
      ∃ ip4 : Bytes 4, IP.to4 (v4InV6Prefix ++ [1, 2, 3, 4]) = some ip4.data :=
  have h : selectMostExternalAddress (fun _ => .error ⟨"no such host"⟩)
      [[.ip4 ⟨[1, 2, 3, 4], rfl⟩, .tcp 60000]] = .ok ⟨v4InV6Prefix ++ [1, 2, 3, 4], 60000⟩ := rfl
  ⟨h, selectMostExternalAddress_ok_to4 _ h⟩

/-- A link-local address listed before a private one, and a multicast address
    listed before the same private one: each time the selection returns the
    first. -/
theorem selectMostExternalAddress_prefers_link_local_and_multicast :
    selectMostExternalAddress (fun _ => .error ⟨"no such host"⟩)
        [[.ip4 ⟨[169, 254, 0, 1], rfl⟩, .tcp 60000], [.ip4 ⟨[10, 0, 0, 1], rfl⟩, .tcp 60000]] =
      .ok ⟨v4InV6Prefix ++ [169, 254, 0, 1], 60000⟩ ∧
    selectMostExternalAddress (fun _ => .error ⟨"no such host"⟩)
        [[.ip4 ⟨[224, 0, 0, 1], rfl⟩, .tcp 60000], [.ip4 ⟨[10, 0, 0, 1], rfl⟩, .tcp 60000]] =
      .ok ⟨v4InV6Prefix ++ [224, 0, 0, 1], 60000⟩ ∧
    IP.isLinkLocalUnicast (v4InV6Prefix ++ [169, 254, 0, 1]) ∧
    IP.isMulticast (v4InV6Prefix ++ [224, 0, 0, 1]) ∧
    extractIPAddressForENR (fun _ => .error ⟨"no such host"⟩)
        [.ip4 ⟨[10, 0, 0, 1], rfl⟩, .tcp 60000] = .ok ⟨v4InV6Prefix ++ [10, 0, 0, 1], 60000⟩ ∧
    IP.isPrivate (v4InV6Prefix ++ [10, 0, 0, 1]) :=
  ⟨rfl, rfl, rfl, rfl, rfl, rfl⟩

end Node

end GoWaku
