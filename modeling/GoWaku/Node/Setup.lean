import GoWaku.Node.Address

/-!
# Setting Up the Record

`setupENR` from the node package, with the helpers it calls. The node's listen
addresses go through `getENRAddresses`, which picks the address for the
record's `ip` and `tcp` entries (`selectMostExternalAddress`) and the extra
multiaddresses for its `multiaddrs` entry, and `updateLocalNode` writes both.

The extra multiaddresses are of two kinds. A secure websocket address with a
DNS name and no circuit relay in it is advertised without its `/p2p/` part
(`selectWSSListenAddresses`, `decapsulateP2P`). A circuit relay address is
advertised as the part of it before `/p2p-circuit`, the address of the relay
(`selectCircuitRelayListenAddresses`, `decapsulateCircuitRelayAddr`).

Both cuts are go-multiaddr's, `Decapsulate` and `SplitFunc`, given here on
components. `Decapsulate` cuts before the last occurrence of the address it is
handed, and `SplitFunc` before the first component its callback takes; either
gives `nil` for an empty part. A `/p2p/` component keeps the text of its peer
id, and `decapsulateP2P` hands `Decapsulate` the address's *first* `/p2p/`
component, so an address that starts with a peer id it names nowhere later
cuts to `nil`, whatever other peers it names after that. go-multiaddr searches
the address's text where the model searches its components; the two agree
unless the text of one peer id begins that of another or spells out inside
another component.

A `nil` multiaddress stays in the list the code builds, and the packing loop
of `updateLocalNode` calls `Bytes()` on it, which panics.
`setupENR_eq_none_iff` says exactly when that happens: the selection
succeeds, the UDP port passes its check, and some listen address starts with
`/p2p-circuit`, or is a secure websocket address with a DNS name that starts
with a `/p2p/` component whose peer id comes nowhere later. Otherwise
`setupENR_eq_some` says what the call is: the selection's error, or
`updateLocalNode` with the selected address and the multiaddresses the two
selections give, each of them a non-empty leading part of a listen address
with no `/p2p-circuit` in it.

## Main definitions

* `Component.is`, `Component.p2p?`: Finding a component of a protocol that
  takes no value, and the peer id of a `/p2p/` component.
* `lastInfixIndex`, `decapsulate`, `splitFunc`: go-multiaddr's `Decapsulate`
  and `SplitFunc`.
* `decapsulateP2P`, `decapsulateCircuitRelayAddr`: The two cuts.
* `selectWSSListenAddresses`, `selectCircuitRelayListenAddresses`: The two
  selections.
* `getENRAddresses`, `setupENR`: The whole setup.
* `IsWSSListenAddress`: The listen addresses the first selection takes.

## Theorems

* `decapsulate_singleton_eq_none`, `decapsulate_eq_some`: The two outcomes of
  `Decapsulate` by one component.
* `splitFunc_fst_eq_none`, `splitFunc_fst_eq_some`: The two outcomes of the
  first part of `SplitFunc`.
* `decapsulate_first_p2p_eq_none`: When the `/p2p/` cut gives `nil`.
* `getENRAddresses_eq_error`, `getENRAddresses_eq_ok`: What the setup selects.
* `setupENR_eq_none_iff`: When the setup panics.
* `setupENR_eq_some`: What the setup does when it returns.
-/

namespace GoWaku

namespace Node

namespace Component

/-- `ValueForProtocol`'s search for a protocol that takes no value: it finds
    the component `x` and nothing else. -/
def is (x c : Component) : Option Unit :=
  if c = x then some () else none

/-- The search of `ValueForProtocol(ma.P_P2P)`: the peer id of a `/p2p/`
    component. -/
def p2p? : Component → Option String
  | .p2p peerID => some peerID
  | _ => none

/-- The search of `ValueForProtocol(ma.P_WSS)`. -/
def wss? : Component → Option Unit := is .wss

/-- The search of `ValueForProtocol(ma.P_CIRCUIT)`. -/
def p2pCircuit? : Component → Option Unit := is .p2pCircuit

@[simp] theorem isSome_is (x c : Component) : (is x c).isSome ↔ c = x := by
  unfold is
  split_ifs <;> simp [*]

end Component

/-- `ValueForProtocol` succeeds exactly when some component has the
    protocol. -/
theorem isOk_valueForProtocol {α : Type} (value? : Component → Option α)
    (addr : List Component) :
    (valueForProtocol value? addr).isOk ↔ ∃ c ∈ addr, (value? c).isSome := by
  rw [← List.findSome?_isSome_iff, valueForProtocol]
  split <;> simp_all [Except.isOk, Except.toBool]

theorem isOk_valueForProtocol_is (x : Component) (addr : List Component) :
    (valueForProtocol (Component.is x) addr).isOk ↔ x ∈ addr := by
  simpa using isOk_valueForProtocol (Component.is x) addr

theorem isOk_valueForProtocol_dns4 (addr : List Component) :
    (valueForProtocol Component.dns4? addr).isOk ↔ ∃ name, .dns4 name ∈ addr := by
  rw [isOk_valueForProtocol]
  constructor
  · rintro ⟨c, hc, hs⟩
    cases c with
    | dns4 name => exact ⟨name, hc⟩
    | _ => simp [Component.dns4?] at hs
  · rintro ⟨name, hn⟩
    exact ⟨_, hn, rfl⟩

theorem valueForProtocol_is (x : Component) (addr : List Component) :
    valueForProtocol (Component.is x) addr =
      if x ∈ addr then .ok () else .error errProtocolNotFound := by
  have h := isOk_valueForProtocol_is x addr
  revert h
  unfold valueForProtocol
  split_ifs with hx <;> split <;> simp_all [Except.isOk, Except.toBool]

/-- Where the last occurrence of `o` in an address starts, as the textual
    search of `Decapsulate` finds it. -/
def lastInfixIndex (o : List Component) : List Component → Option Nat
  | [] => if o = [] then some 0 else none
  | c :: cs =>
    match lastInfixIndex o cs with
    | some i => some (i + 1)
    | none => if o.isPrefixOf (c :: cs) then some 0 else none

/-- go-multiaddr's `Decapsulate`: the address up to the last occurrence of
    `o`. The whole address when `o` does not occur, and `nil` when its last
    occurrence starts the address. -/
def decapsulate (addr o : List Component) : Option (List Component) :=
  match lastInfixIndex o addr with
  | none => some addr
  | some 0 => none
  | some i => some (addr.take i)

/-- go-multiaddr's `SplitFunc`: the address cut before the first component
    `cb` takes, each part `nil` when empty. -/
def splitFunc (addr : List Component) (cb : Component → Bool) :
    Option (List Component) × Option (List Component) :=
  let pre := addr.takeWhile fun c => !cb c
  let post := addr.dropWhile fun c => !cb c
  (if pre = [] then none else some pre, if post = [] then none else some post)

/-- `decapsulateP2P`: the address cut before the last occurrence of its
    first `/p2p/` component, an error when it has none. -/
def decapsulateP2P (addr : List Component) : Except GoError (Option (List Component)) := do
  let p2p ← valueForProtocol Component.p2p? addr
  -- `ma.NewMultiaddr("/p2p/" + p2p)` parses the peer id the address already held.
  let p2pAddr := [Component.p2p p2p]
  pure (decapsulate addr p2pAddr)

/-- `decapsulateCircuitRelayAddr`: the part of a circuit relay address before
    `/p2p-circuit`. -/
def decapsulateCircuitRelayAddr (addr : List Component) :
    Except GoError (Option (List Component)) :=
  match valueForProtocol Component.p2pCircuit? addr with
  | .error _ => .error ⟨"not a circuit relay address"⟩
  | .ok _ => .ok (splitFunc addr fun c => c == .p2pCircuit).1

/-- `selectWSSListenAddresses`: the secure websocket addresses with a DNS name
    and no circuit relay, each without its `/p2p/` part; one with no `/p2p/`
    part is skipped. The error it returns is always `nil`. -/
def selectWSSListenAddresses (addresses : List (List Component)) :
    Except GoError (List (Option (List Component))) :=
  .ok <| addresses.filterMap fun addr =>
    if (valueForProtocol Component.p2pCircuit? addr).isOk then none
    else if !(valueForProtocol Component.dns4? addr).isOk then none
    else if !(valueForProtocol Component.wss? addr).isOk then none
    else (decapsulateP2P addr).toOption

/-- `selectCircuitRelayListenAddresses`: the circuit relay addresses, each cut
    before `/p2p-circuit`. The error it returns is always `nil`. -/
def selectCircuitRelayListenAddresses (addresses : List (List Component)) :
    Except GoError (List (Option (List Component))) :=
  .ok <| addresses.filterMap fun addr => (decapsulateCircuitRelayAddr addr).toOption

/-- `getENRAddresses`: the address for the `ip` and `tcp` entries, and the
    extra multiaddresses, secure websocket ones first. -/
def getENRAddresses (resolveIP4 : String → Except GoError (Bytes 4))
    (addrs : List (List Component)) :
    Except GoError (TCPAddr × List (Option (List Component))) := do
  let extAddr ← selectMostExternalAddress resolveIP4 addrs
  let wssAddrs ← selectWSSListenAddresses addrs
  let circuitAddrs ← selectCircuitRelayListenAddresses addrs
  pure (extAddr, wssAddrs ++ circuitAddrs)

/-- `setupENR`, on the node's record and options; `bytes` is go-multiaddr's
    `Bytes()`. `none` is the panic of `Bytes()` on a `nil` multiaddress, in
    the packing loop of `updateLocalNode`, which the call reaches once the UDP
    port passes its check. -/
def setupENR (bytes : List Component → Multiaddr) (resolveIP4 : String → Except GoError (Bytes 4))
    (localNode : LocalNode) (addrs : List (List Component)) (udpPort : UInt64) (wakuFlag : UInt8)
    (advertiseAddr : Option IP) (discV5autoUpdate : Bool) : Option (Option GoError × LocalNode) :=
  match getENRAddresses resolveIP4 addrs with
  | .error err => some (some err, localNode)
  | .ok (ipAddr, multiaddresses) =>
    if none ∈ multiaddresses ∧ udpPort.toNat ≤ 65535 then none
    else some (updateLocalNode localNode ((multiaddresses.filterMap id).map bytes) ipAddr udpPort
      wakuFlag advertiseAddr discV5autoUpdate)

section Cuts

theorem lastInfixIndex_singleton_eq_none (x : Component) (addr : List Component) :
    lastInfixIndex [x] addr = none ↔ x ∉ addr := by
  induction addr with
  | nil => simp [lastInfixIndex]
  | cons c cs ih =>
    simp only [lastInfixIndex]
    cases h : lastInfixIndex [x] cs with
    | some i =>
      have hx : x ∈ cs := by_contra fun hx => nomatch h.symm.trans (ih.mpr hx)
      simp [hx]
    | none =>
      have hx := ih.mp h
      by_cases hc : c = x <;> simp [List.isPrefixOf, hc, hx]

/-- Cutting by one component gives `nil` exactly when the address starts with
    it and holds it nowhere else. -/
theorem decapsulate_singleton_eq_none (x : Component) (addr : List Component) :
    decapsulate addr [x] = none ↔ addr.head? = some x ∧ x ∉ addr.tail := by
  cases addr with
  | nil => simp [decapsulate, lastInfixIndex]
  | cons c cs =>
    unfold decapsulate
    simp only [lastInfixIndex]
    cases h : lastInfixIndex [x] cs with
    | some i =>
      have hx : x ∈ cs :=
        by_contra fun hx => nomatch h.symm.trans ((lastInfixIndex_singleton_eq_none x cs).mpr hx)
      simp [hx]
    | none =>
      have hx := (lastInfixIndex_singleton_eq_none x cs).mp h
      by_cases hc : x = c
      · subst hc
        simp [List.isPrefixOf, hx]
      · simp [List.isPrefixOf, hc, hx, eq_comm (a := c)]

/-- What `Decapsulate` returns leads the address, and is empty only for an
    empty address. -/
theorem decapsulate_eq_some {addr o r : List Component} (h : decapsulate addr o = some r) :
    r <+: addr ∧ (r = [] → addr = []) := by
  unfold decapsulate at h
  split at h
  · cases h
    exact ⟨List.prefix_refl _, id⟩
  · cases h
  · rename_i i hi _
    cases h
    refine ⟨List.take_prefix _ _, fun hr => ?_⟩
    exact (List.take_eq_nil_iff.mp hr).resolve_left fun h0 => hi (h0 ▸ rfl)

theorem splitFunc_fst_eq_none (addr : List Component) (cb : Component → Bool) :
    (splitFunc addr cb).1 = none ↔ addr = [] ∨ ∃ c cs, addr = c :: cs ∧ cb c := by
  cases addr with
  | nil => simp [splitFunc]
  | cons c cs => cases hc : cb c <;> simp [splitFunc, List.takeWhile_cons, hc]

/-- The first part of `SplitFunc` is a non-empty leading part of the address
    that `cb` takes no component of. -/
theorem splitFunc_fst_eq_some {addr r : List Component} {cb : Component → Bool}
    (h : (splitFunc addr cb).1 = some r) :
    r ≠ [] ∧ r <+: addr ∧ ∀ c ∈ r, cb c = false := by
  simp only [splitFunc] at h
  split_ifs at h with hr
  cases h
  exact ⟨hr, List.takeWhile_prefix _, fun c hc => by simpa using List.mem_takeWhile_imp hc⟩

/-- `decapsulateP2P` succeeds exactly on an address with a `/p2p/`
    component, and cuts it by its first one. -/
theorem decapsulateP2P_eq_ok (addr : List Component) (r : Option (List Component)) :
    decapsulateP2P addr = .ok r ↔
      ∃ peerID, addr.findSome? Component.p2p? = some peerID ∧ r = decapsulate addr [.p2p peerID] := by
  unfold decapsulateP2P valueForProtocol
  cases addr.findSome? Component.p2p? <;> simp [bind, Except.bind, pure, Except.pure, eq_comm]

/-- The first `/p2p/` component of an address holds a peer id the address
    names. -/
theorem mem_of_findSome?_p2p {addr : List Component} {peerID : String}
    (h : addr.findSome? Component.p2p? = some peerID) : .p2p peerID ∈ addr := by
  obtain ⟨c, hc, hp⟩ := List.exists_of_findSome?_eq_some h
  cases c <;> simp only [Component.p2p?, reduceCtorEq, Option.some.injEq] at hp
  exact hp ▸ hc

/-- Cutting by the first `/p2p/` component gives `nil` exactly when the address
    starts with a `/p2p/` component whose peer id it names nowhere else. -/
theorem decapsulate_first_p2p_eq_none (addr : List Component) :
    (∃ peerID, addr.findSome? Component.p2p? = some peerID ∧
        decapsulate addr [.p2p peerID] = none) ↔
      ∃ peerID, addr.head? = some (.p2p peerID) ∧ .p2p peerID ∉ addr.tail := by
  simp only [decapsulate_singleton_eq_none]
  constructor
  · rintro ⟨peerID, -, h⟩
    exact ⟨peerID, h⟩
  · rintro ⟨peerID, hh, hn⟩
    obtain ⟨cs, rfl⟩ : ∃ cs, addr = .p2p peerID :: cs := ⟨addr.tail, by
      cases addr <;> simp_all⟩
    exact ⟨peerID, by simp [Component.p2p?], rfl, hn⟩

theorem decapsulateCircuitRelayAddr_eq_ok (addr : List Component) (r : Option (List Component)) :
    decapsulateCircuitRelayAddr addr = .ok r ↔
      .p2pCircuit ∈ addr ∧ r = (splitFunc addr fun c => c == .p2pCircuit).1 := by
  unfold decapsulateCircuitRelayAddr Component.p2pCircuit?
  rw [valueForProtocol_is]
  split_ifs with hx <;> simp [hx, eq_comm]

end Cuts

/-- A listen address the secure websocket selection takes: a `/dns4/` name,
    `/wss`, a `/p2p/` part, and no circuit relay. -/
def IsWSSListenAddress (addr : List Component) : Prop :=
  .p2pCircuit ∉ addr ∧ (∃ name, .dns4 name ∈ addr) ∧ .wss ∈ addr ∧ ∃ peerID, .p2p peerID ∈ addr

theorem mem_selectWSSListenAddresses {addresses : List (List Component)}
    {l : List (Option (List Component))} (h : selectWSSListenAddresses addresses = .ok l)
    (m : Option (List Component)) :
    m ∈ l ↔ ∃ addr ∈ addresses, IsWSSListenAddress addr ∧ ∃ peerID,
      addr.findSome? Component.p2p? = some peerID ∧ m = decapsulate addr [.p2p peerID] := by
  cases h
  simp only [List.mem_filterMap]
  refine exists_congr fun addr => and_congr_right fun _ => ?_
  have hc' : (valueForProtocol Component.p2pCircuit? addr).isOk ↔ .p2pCircuit ∈ addr :=
    isOk_valueForProtocol_is _ addr
  have hw' : (valueForProtocol Component.wss? addr).isOk ↔ .wss ∈ addr :=
    isOk_valueForProtocol_is _ addr
  by_cases hc : .p2pCircuit ∈ addr
  · rw [if_pos (hc'.mpr hc)]
    simp [IsWSSListenAddress, hc]
  rw [if_neg (mt hc'.mp hc)]
  by_cases hd : ∃ name, .dns4 name ∈ addr
  · rw [if_neg (by simp [(isOk_valueForProtocol_dns4 addr).mpr hd])]
    by_cases hw : .wss ∈ addr
    · rw [if_neg (by simp [hw'.mpr hw])]
      cases hp : addr.findSome? Component.p2p? with
      | some peerID =>
        have hx : ∃ peerID, .p2p peerID ∈ addr := ⟨peerID, mem_of_findSome?_p2p hp⟩
        rw [(decapsulateP2P_eq_ok addr _).mpr ⟨peerID, hp, rfl⟩]
        simp [IsWSSListenAddress, Except.toOption, hc, hd, hw, hx, hp, eq_comm]
      | none =>
        -- No `/p2p/` part: `decapsulateP2P` fails and the address is skipped.
        have hx : ¬∃ peerID, .p2p peerID ∈ addr := fun ⟨peerID, hx⟩ => by
          have h := (List.findSome?_isSome_iff (f := Component.p2p?)).mpr ⟨_, hx, rfl⟩
          simp [hp] at h
        cases hdp : decapsulateP2P addr with
        | error e => simp [IsWSSListenAddress, Except.toOption, hx]
        | ok r =>
          obtain ⟨peerID, hf, -⟩ := (decapsulateP2P_eq_ok addr r).mp hdp
          cases hp.symm.trans hf
    · rw [if_pos (by simpa using mt hw'.mp hw)]
      simp [IsWSSListenAddress, hw]
  · rw [if_pos (by simpa using mt (isOk_valueForProtocol_dns4 addr).mp hd)]
    simp [IsWSSListenAddress, hd]

theorem mem_selectCircuitRelayListenAddresses {addresses : List (List Component)}
    {l : List (Option (List Component))} (h : selectCircuitRelayListenAddresses addresses = .ok l)
    (m : Option (List Component)) :
    m ∈ l ↔ ∃ addr ∈ addresses, .p2pCircuit ∈ addr ∧
      m = (splitFunc addr fun c => c == .p2pCircuit).1 := by
  cases h
  simp only [List.mem_filterMap]
  refine exists_congr fun addr => and_congr_right fun _ => ?_
  rw [← decapsulateCircuitRelayAddr_eq_ok]
  cases decapsulateCircuitRelayAddr addr <;> simp [Except.toOption]

/-- The setup selects nothing when it finds no address for the `ip` entry. -/
theorem getENRAddresses_eq_error {resolveIP4 : String → Except GoError (Bytes 4)}
    {addrs : List (List Component)} {err : GoError}
    (hs : selectMostExternalAddress resolveIP4 addrs = .error err) :
    getENRAddresses resolveIP4 addrs = .error err := by
  rw [getENRAddresses, hs]
  rfl

/-- Otherwise it selects the secure websocket addresses, then the circuit
    relay ones. -/
theorem getENRAddresses_eq_ok {resolveIP4 : String → Except GoError (Bytes 4)}
    {addrs : List (List Component)} {ipAddr : TCPAddr}
    (hs : selectMostExternalAddress resolveIP4 addrs = .ok ipAddr)
    {wss circuit : List (Option (List Component))} (hw : selectWSSListenAddresses addrs = .ok wss)
    (hc : selectCircuitRelayListenAddresses addrs = .ok circuit) :
    getENRAddresses resolveIP4 addrs = .ok (ipAddr, wss ++ circuit) := by
  rw [getENRAddresses, hs, hw, hc]
  rfl

/-- A circuit relay address cuts to `nil` exactly when it starts with
    `/p2p-circuit`. -/
theorem splitFunc_circuit_eq_none (addr : List Component) :
    (.p2pCircuit ∈ addr ∧ (splitFunc addr fun c => c == .p2pCircuit).1 = none) ↔
      addr.head? = some .p2pCircuit := by
  rw [splitFunc_fst_eq_none]
  cases addr with
  | nil => simp
  | cons c cs => by_cases hc : c = .p2pCircuit <;> simp [hc]

/-- `setupENR` panics exactly when the selection finds an address for the
    `ip` entry, the UDP port passes its check, and some listen address starts
    with `/p2p-circuit`, or is a secure websocket address with a DNS name
    that starts with a `/p2p/` component whose peer id it names nowhere
    else. -/
theorem setupENR_eq_none_iff (bytes : List Component → Multiaddr)
    (resolveIP4 : String → Except GoError (Bytes 4)) (localNode : LocalNode)
    (addrs : List (List Component)) (udpPort : UInt64) (wakuFlag : UInt8)
    (advertiseAddr : Option IP) (discV5autoUpdate : Bool) :
    setupENR bytes resolveIP4 localNode addrs udpPort wakuFlag advertiseAddr discV5autoUpdate =
        none ↔
      (selectMostExternalAddress resolveIP4 addrs).isOk ∧ udpPort.toNat ≤ 65535 ∧
        ∃ addr ∈ addrs, addr.head? = some .p2pCircuit ∨
          (IsWSSListenAddress addr ∧
            ∃ peerID, addr.head? = some (.p2p peerID) ∧ .p2p peerID ∉ addr.tail) := by
  unfold setupENR
  cases hs : selectMostExternalAddress resolveIP4 addrs with
  | error e => simp [getENRAddresses_eq_error hs, Except.isOk, Except.toBool]
  | ok ipAddr =>
    obtain ⟨wss, hw⟩ : ∃ l, selectWSSListenAddresses addrs = .ok l := ⟨_, rfl⟩
    obtain ⟨circuit, hc⟩ : ∃ l, selectCircuitRelayListenAddresses addrs = .ok l := ⟨_, rfl⟩
    -- A `nil` is selected exactly from the two kinds of listen address above.
    have hnone : none ∈ wss ++ circuit ↔ ∃ addr ∈ addrs, addr.head? = some .p2pCircuit ∨
        (IsWSSListenAddress addr ∧
          ∃ peerID, addr.head? = some (.p2p peerID) ∧ .p2p peerID ∉ addr.tail) := by
      rw [List.mem_append, mem_selectWSSListenAddresses hw, mem_selectCircuitRelayListenAddresses hc]
      constructor
      · rintro (⟨a, ha, hW, peerID, hf, hd⟩ | ⟨a, ha, hr⟩)
        · exact ⟨a, ha, .inr ⟨hW, (decapsulate_first_p2p_eq_none a).mp ⟨peerID, hf, hd.symm⟩⟩⟩
        · exact ⟨a, ha, .inl ((splitFunc_circuit_eq_none a).mp ⟨hr.1, hr.2.symm⟩)⟩
      · rintro ⟨a, ha, hh | ⟨hW, hd⟩⟩
        · obtain ⟨hr, hn⟩ := (splitFunc_circuit_eq_none a).mpr hh
          exact .inr ⟨a, ha, hr, hn.symm⟩
        · obtain ⟨peerID, hf, hn⟩ := (decapsulate_first_p2p_eq_none a).mpr hd
          exact .inl ⟨a, ha, hW, peerID, hf, hn.symm⟩
    rw [getENRAddresses_eq_ok hs hw hc, ← hnone]
    dsimp only
    by_cases hn : none ∈ wss ++ circuit <;> by_cases hp : udpPort.toNat ≤ 65535 <;>
      simp [hn, hp, Except.isOk, Except.toBool]

/-- A listen address `/p2p-circuit/p2p/...` beside one that gives the `ip`
    entry. -/
example :
    setupENR (fun _ => ⟨[]⟩) (fun _ => .error ⟨"no such host"⟩) LocalNode.empty
      [[.ip4 ⟨[1, 2, 3, 4], rfl⟩, .tcp 60000], [.p2pCircuit, .p2p "QmRelay"]] 9000 0 none true =
      none := by
  rfl

/-- `/p2p/A/dns4/node/tcp/443/wss/p2p/B`: the cut is by `/p2p/A`, the first
    peer id, whose last occurrence starts the address. -/
example :
    setupENR (fun _ => ⟨[]⟩) (fun _ => .ok ⟨[5, 6, 7, 8], rfl⟩) LocalNode.empty
      [[.ip4 ⟨[1, 2, 3, 4], rfl⟩, .tcp 60000],
        [.p2p "A", .dns4 "node", .tcp 443, .wss, .p2p "B"]] 9000 0 none true =
      none := by
  rfl

/-- When `setupENR` returns, it returned the selection's error with the record
    untouched, or it is `updateLocalNode` with the selected address and the
    multiaddresses the two selections give, secure websocket ones first; each
    of these is a non-empty leading part of a listen address with no
    `/p2p-circuit` in it. -/
theorem setupENR_eq_some (bytes : List Component → Multiaddr)
    (resolveIP4 : String → Except GoError (Bytes 4)) (localNode : LocalNode)
    (addrs : List (List Component)) (udpPort : UInt64) (wakuFlag : UInt8)
    (advertiseAddr : Option IP) (discV5autoUpdate : Bool) {res : Option GoError × LocalNode}
    (h : setupENR bytes resolveIP4 localNode addrs udpPort wakuFlag advertiseAddr
      discV5autoUpdate = some res) :
    (∃ err, selectMostExternalAddress resolveIP4 addrs = .error err ∧ res = (some err, localNode)) ∨
      ∃ ipAddr wss circuit, selectMostExternalAddress resolveIP4 addrs = .ok ipAddr ∧
        selectWSSListenAddresses addrs = .ok wss ∧ selectCircuitRelayListenAddresses addrs = .ok circuit ∧
        (∀ r ∈ (wss ++ circuit).filterMap id, r ≠ [] ∧ .p2pCircuit ∉ r ∧ ∃ addr ∈ addrs, r <+: addr) ∧
        res = updateLocalNode localNode (((wss ++ circuit).filterMap id).map bytes) ipAddr udpPort
          wakuFlag advertiseAddr discV5autoUpdate := by
  unfold setupENR at h
  cases hs : selectMostExternalAddress resolveIP4 addrs with
  | error e =>
    rw [getENRAddresses_eq_error hs] at h
    cases h
    exact .inl ⟨e, rfl, rfl⟩
  | ok ipAddr =>
    obtain ⟨wss, hw⟩ : ∃ l, selectWSSListenAddresses addrs = .ok l := ⟨_, rfl⟩
    obtain ⟨circuit, hc⟩ : ∃ l, selectCircuitRelayListenAddresses addrs = .ok l := ⟨_, rfl⟩
    rw [getENRAddresses_eq_ok hs hw hc] at h
    dsimp only at h
    split_ifs at h
    cases h
    refine .inr ⟨ipAddr, wss, circuit, rfl, hw, hc, fun r hr => ?_, rfl⟩
    obtain ⟨m, hm, hmr⟩ := List.mem_filterMap.mp hr
    rcases List.mem_append.mp hm with hm | hm
    · -- A secure websocket address, cut by its first `/p2p/` component.
      obtain ⟨a, ha, hW, peerID, -, rfl⟩ := (mem_selectWSSListenAddresses hw m).mp hm
      obtain ⟨hp, hne⟩ := decapsulate_eq_some hmr
      refine ⟨fun h0 => ?_, fun hr => hW.1 (hp.subset hr), a, ha, hp⟩
      simp [hne h0, IsWSSListenAddress] at hW
    · -- A circuit relay address, cut before `/p2p-circuit`.
      obtain ⟨a, ha, -, rfl⟩ := (mem_selectCircuitRelayListenAddresses hc m).mp hm
      obtain ⟨hne, hp, hcb⟩ := splitFunc_fst_eq_some hmr
      exact ⟨hne, fun hr => by simpa using hcb _ hr, a, ha, hp⟩

/-- A TCP address and a secure websocket address with a DNS name: the setup
    returns, advertising the second without its `/p2p/` part. -/
theorem setupENR_eq_some_tcp_and_wss :
    ∃ res, setupENR (fun _ => ⟨[1]⟩) (fun _ => .ok ⟨[5, 6, 7, 8], rfl⟩) LocalNode.empty
        [[.ip4 ⟨[1, 2, 3, 4], rfl⟩, .tcp 60000], [.dns4 "node", .tcp 443, .wss, .p2p "QmNode"]]
        9000 0 none true = some res ∧
      ((∃ err, selectMostExternalAddress (fun _ => .ok ⟨[5, 6, 7, 8], rfl⟩)
          [[.ip4 ⟨[1, 2, 3, 4], rfl⟩, .tcp 60000], [.dns4 "node", .tcp 443, .wss, .p2p "QmNode"]] =
            .error err ∧ res = (some err, LocalNode.empty)) ∨
        ∃ ipAddr wss circuit,
          selectMostExternalAddress (fun _ => .ok ⟨[5, 6, 7, 8], rfl⟩)
            [[.ip4 ⟨[1, 2, 3, 4], rfl⟩, .tcp 60000], [.dns4 "node", .tcp 443, .wss, .p2p "QmNode"]] =
              .ok ipAddr ∧
          selectWSSListenAddresses
            [[.ip4 ⟨[1, 2, 3, 4], rfl⟩, .tcp 60000], [.dns4 "node", .tcp 443, .wss, .p2p "QmNode"]] =
              .ok wss ∧
          selectCircuitRelayListenAddresses
            [[.ip4 ⟨[1, 2, 3, 4], rfl⟩, .tcp 60000], [.dns4 "node", .tcp 443, .wss, .p2p "QmNode"]] =
              .ok circuit ∧
          (∀ r ∈ (wss ++ circuit).filterMap id, r ≠ [] ∧ .p2pCircuit ∉ r ∧ ∃ addr ∈
            [[.ip4 ⟨[1, 2, 3, 4], rfl⟩, .tcp 60000], [.dns4 "node", .tcp 443, .wss, .p2p "QmNode"]],
              r <+: addr) ∧
          res = updateLocalNode LocalNode.empty (((wss ++ circuit).filterMap id).map fun _ => ⟨[1]⟩)
            ipAddr 9000 0 none true) :=
  ⟨_, rfl, setupENR_eq_some _ _ _ _ _ _ _ _ rfl⟩

end Node

end GoWaku
