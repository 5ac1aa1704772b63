import GoWaku.Basic

/-!
# The Node's ENR Record

`updateLocalNode` from the node package: how a Waku node writes its listen
addresses into its Ethereum Node Record each time they change.

The record lives in go-ethereum's `enode.LocalNode`, which the code drives
through `Set` and `Delete` of a record entry and through the setters of the
fallback UDP port, the fallback IP and a static IP. `LocalNode` is that
object as far as these calls reach it: the entries, a map from key to entry,
and one endpoint per address family. The setters do not just store a value:
each writes the endpoint of the address's family (`SetFallbackUDP` writes
`uint16(port)` to both) and at once rewrites the `ip`, `ip6`, `udp` and
`udp6` entries from the endpoints (`updateEndpoints`). An endpoint's address
is its static IP, else what the IP tracker predicts from discovery's reports,
else its fallback IP; the tracker is kept as the prediction it makes now,
which nothing here changes. Entry keys are `EnrKey`: the Waku fields, whose
key strings are constants of the utils package, and go-ethereum's `ip`,
`ip6`, `tcp`, `tcp6`, `udp` and `udp6`.

`net.IP` is a byte slice, 4 bytes for IPv4 or 16 for IPv6, and an IPv4
address is as often held in its 16-byte IPv4-mapped form. `To4`, `To16`,
`Equal` and `IsUnspecified` are given as the Go standard library defines
them, since the branch of `updateLocalNode` that writes the address entries
itself is decided entirely by them. In particular `To16` of an IPv4 address is
its mapped form, not `nil`.

A multiaddress is read here only through `Bytes()`, its binary form, so it is
kept as that. The loop that packs the WSS and circuit-relay addresses into the
`multiaddrs` entry is `multiaddrsField`: each address's bytes after their
length, as `uint16` in two big-endian bytes.

## Main definitions

* `IP`, `IP.to4`, `IP.to16`, `IP.equal`, `IP.isUnspecified`: `net.IP`.
* `TCPAddr`: `net.TCPAddr`.
* `Multiaddr`: A multiaddress, by its binary form.
* `putUint16`: `binary.BigEndian.PutUint16`.
* `multiaddrsField`: The loop building the `multiaddrs` entry.
* `EnrKey`, `Entry`: Record keys and entries.
* `Endpoint`, `Endpoint.get`: go-ethereum's `lnEndpoint` and its precedence.
* `LocalNode`: The record and endpoints the code writes.
* `LocalNode.updateEndpoints`, `LocalNode.setFallbackUDP`, ...: The library
  calls, each endpoint setter followed by the rewrite of the endpoint entries.
* `setEndpointEntries`: The branch that writes the address entries itself.
* `updateLocalNode`: `updateLocalNode`.

## Theorems

* `LocalNode.ext_get`: Nodes that agree on every key and endpoint are equal.
* `get_set`, `get_delete`: A record read back after a write.
* `get_updateEndpoints`: The record after the endpoint entries are rewritten.
* `IP.to16_of_to4`: `To16` of an IPv4 address is its mapped form.
* `putUint16_toNat`: The two bytes put back together give the value.
-/

namespace GoWaku

namespace Node

/-- `net.IP`: its bytes. -/
abbrev IP := List UInt8

/-- `v4InV6Prefix`: the first twelve bytes of an IPv4-mapped IPv6 address. -/
def v4InV6Prefix : List UInt8 := [0, 0, 0, 0, 0, 0, 0, 0, 0, 0, 255, 255]

/-- `IP.To4`: the 4-byte form of an IPv4 address, `nil` for any other. -/
def IP.to4 (ip : IP) : Option IP :=
  if ip.length = 4 then some ip
  else if ip.length = 16 ∧ ip.take 12 = v4InV6Prefix then some (ip.drop 12)
  else none

/-- `IP.To16`: the 16-byte form, IPv4 addresses mapped; `nil` for a slice of
    any other length. -/
def IP.to16 (ip : IP) : Option IP :=
  if ip.length = 4 then some (v4InV6Prefix ++ ip)
  else if ip.length = 16 then some ip
  else none

/-- `IP.Equal`: the same address, an IPv4 address matching its mapped form. -/
def IP.equal (ip x : IP) : Bool :=
  if ip.length = x.length then ip == x
  else if ip.length = 4 ∧ x.length = 16 then x.take 12 == v4InV6Prefix && ip == x.drop 12
  else if ip.length = 16 ∧ x.length = 4 then ip.take 12 == v4InV6Prefix && ip.drop 12 == x
  else false

/-- `IPv4zero`, `0.0.0.0` in its mapped form. -/
def ipv4zero : IP := v4InV6Prefix ++ [0, 0, 0, 0]

/-- `IPv6unspecified`, `::`. -/
def ipv6unspecified : IP := List.replicate 16 0

/-- `IP.IsUnspecified`. -/
def IP.isUnspecified (ip : IP) : Bool :=
  ip.equal ipv4zero || ip.equal ipv6unspecified

/-- `To16` of every address `To4` accepts, in either form, is the mapped
    form of its 4-byte address: never `nil`. -/
theorem IP.to16_of_to4 {ip ip4 : IP} (h : ip.to4 = some ip4) :
    ip.to16 = some (v4InV6Prefix ++ ip4) ∧ ip4.length = 4 := by
  unfold IP.to4 at h
  split_ifs at h with h4 h16 <;> cases h
  · exact ⟨if_pos h4, h4⟩
  · refine ⟨?_, by simp [h16.1]⟩
    rw [IP.to16, if_neg (by omega), if_pos h16.1, ← h16.2, List.take_append_drop]

/-- `net.TCPAddr`, by the fields the code reads. -/
structure TCPAddr where
  ip : IP
  port : Int
deriving DecidableEq, Repr

/-- A multiaddress, by its binary form `Bytes()`. -/
structure Multiaddr where
  bytes : List UInt8
deriving DecidableEq, Repr

/-- `binary.BigEndian.PutUint16`. -/
def putUint16 (v : UInt16) : List UInt8 :=
  [(v >>> 8).toUInt8, v.toUInt8]

/-- The two bytes `PutUint16` writes, read back high byte first, give the
    value. -/
theorem putUint16_toNat (v : UInt16) :
    (v >>> 8).toUInt8.toNat * 256 + v.toUInt8.toNat = v.toNat := by
  have hshr : (v >>> 8).toNat = v.toNat / 256 := by
    show (v.toBitVec >>> (UInt16.mod 8 16).toBitVec).toNat = _
    simp [BitVec.toNat_ushiftRight, Nat.shiftRight_eq_div_pow]
    rfl
  have hlo (w : UInt16) : w.toUInt8.toNat = w.toNat % 256 := by
    simp [UInt16.toUInt8, Nat.toUInt8, UInt8.ofNat, UInt8.toNat]
  have hv : v.toNat < 65536 := v.toNat_lt_size
  rw [hlo, hlo, hshr]
  omega

/-- The loop of `updateLocalNode` that packs the extra multiaddresses: each
    one's bytes after `uint16(len(maRaw))` in two big-endian bytes. -/
def multiaddrsField (multiaddrs : List Multiaddr) : List UInt8 :=
  multiaddrs.foldl (fun fieldRaw addr =>
    fieldRaw ++ putUint16 (UInt16.ofNat addr.bytes.length) ++ addr.bytes) []

/-- The record keys the code and go-ethereum write: `utils.WakuENRField`,
    `utils.MultiaddrENRField`, and the library's `ip`, `ip6`, `tcp`, `tcp6`,
    `udp` and `udp6`. -/
inductive EnrKey where
  | waku2
  | multiaddrs
  | ip
  | ip6
  | tcp
  | tcp6
  | udp
  | udp6
deriving DecidableEq, Repr

/-- A record entry, as the code and go-ethereum build it. -/
inductive Entry where
  | wakuFlags (flags : UInt8)
  | multiaddrs (raw : List UInt8)
  | ipv4 (ip : IP)
  | ipv6 (ip : IP)
  | tcp (port : UInt16)
  | tcp6 (port : UInt16)
  | udp (port : UInt16)
  | udp6 (port : UInt16)
deriving DecidableEq, Repr

/-- The key an entry is stored under. -/
def Entry.key : Entry → EnrKey
  | .wakuFlags _ => .waku2
  | .multiaddrs _ => .multiaddrs
  | .ipv4 _ => .ip
  | .ipv6 _ => .ip6
  | .tcp _ => .tcp
  | .tcp6 _ => .tcp6
  | .udp _ => .udp
  | .udp6 _ => .udp6

/-- One address family's `lnEndpoint`: the static and fallback IPs, the
    fallback UDP port as the `uint16` the library keeps, and the endpoint the
    IP tracker predicts from what discovery has reported, if it predicts one. -/
structure Endpoint where
  staticIP : Option IP
  fallbackIP : Option IP
  fallbackUDP : UInt16
  predicted : Option (IP × UInt16)
deriving DecidableEq, Repr

namespace Endpoint

/-- An endpoint with nothing set and nothing predicted. -/
def empty : Endpoint := ⟨none, none, 0, none⟩

/-- `lnEndpoint.get`: the static IP, else the predicted endpoint, else the
    fallback IP; the fallback port unless a prediction gives the port too. -/
def get (e : Endpoint) : Option IP × UInt16 :=
  match e.staticIP, e.predicted with
  | some ip, _ => (some ip, e.fallbackUDP)
  | none, some (ip, port) => (some ip, port)
  | none, none => (e.fallbackIP, e.fallbackUDP)

end Endpoint

/-- `enode.LocalNode`, by what the code reaches of it: the record's entries,
    a map with at most one entry per key, and the IPv4 and IPv6 endpoints. -/
structure LocalNode where
  entries : EnrKey → Option Entry
  endpoint4 : Endpoint
  endpoint6 : Endpoint

namespace LocalNode

/-- The node `enode.NewLocalNode` returns: no entries, no endpoint values. -/
def empty : LocalNode := ⟨fun _ => none, .empty, .empty⟩

/-- The entry stored under a key. -/
def get (ln : LocalNode) (k : EnrKey) : Option Entry :=
  ln.entries k

/-- `Set`: store the entry, replacing the one under its key. -/
def set (ln : LocalNode) (e : Entry) : LocalNode :=
  { ln with entries := Function.update ln.entries e.key (some e) }

/-- `Delete`: drop the entry under a key. -/
def delete (ln : LocalNode) (k : EnrKey) : LocalNode :=
  { ln with entries := Function.update ln.entries k none }

/-- `updateEndpoints`: rewrite the `ip`, `ip6`, `udp` and `udp6` entries
    from the two endpoints, deleting each that has no value; `udp6` only when
    it differs from `udp`. -/
def updateEndpoints (ln : LocalNode) : LocalNode :=
  let ip4 := ln.endpoint4.get.1
  let udp4 := ln.endpoint4.get.2
  let ip6 := ln.endpoint6.get.1
  let udp6 := ln.endpoint6.get.2
  let ln :=
    match ip4.filter fun a => !a.isUnspecified with
    | some ip => ln.set (.ipv4 ip)
    | none => ln.delete .ip
  let ln :=
    match ip6.filter fun a => !a.isUnspecified with
    | some ip => ln.set (.ipv6 ip)
    | none => ln.delete .ip6
  let ln := if udp4 ≠ 0 then ln.set (.udp udp4) else ln.delete .udp
  if udp6 ≠ 0 ∧ udp6 ≠ udp4 then ln.set (.udp6 udp6) else ln.delete .udp6

/-- `endpointForIP`: change the IPv4 endpoint for an address `To4` accepts,
    the IPv6 one for any other. -/
def modifyEndpointFor (ln : LocalNode) (ip : IP) (f : Endpoint → Endpoint) : LocalNode :=
  if ip.to4.isSome then { ln with endpoint4 := f ln.endpoint4 }
  else { ln with endpoint6 := f ln.endpoint6 }

/-- `SetStaticIP`: set the static IP of the address's family, then rewrite
    the endpoint entries. -/
def setStaticIP (ln : LocalNode) (ip : IP) : LocalNode :=
  (ln.modifyEndpointFor ip fun e => { e with staticIP := some ip }).updateEndpoints

/-- `SetFallbackIP`: set the fallback IP of the address's family, then
    rewrite the endpoint entries. -/
def setFallbackIP (ln : LocalNode) (ip : IP) : LocalNode :=
  (ln.modifyEndpointFor ip fun e => { e with fallbackIP := some ip }).updateEndpoints

/-- `SetFallbackUDP`: keep `uint16(port)` as both families' fallback port,
    then rewrite the endpoint entries. -/
def setFallbackUDP (ln : LocalNode) (port : Int) : LocalNode :=
  updateEndpoints { ln with
    endpoint4 := { ln.endpoint4 with fallbackUDP := goUint16 port }
    endpoint6 := { ln.endpoint6 with fallbackUDP := goUint16 port } }

/-- What `updateEndpoints` writes under a key, from the two endpoints: an
    entry or a deletion under each of `ip`, `ip6`, `udp` and `udp6`, and
    nothing under any other key. -/
@[simp] def endpointWrite (e4 e6 : Endpoint) : EnrKey → Option (Option Entry)
  | .ip => some ((e4.get.1.filter fun a => !a.isUnspecified).map .ipv4)
  | .ip6 => some ((e6.get.1.filter fun a => !a.isUnspecified).map .ipv6)
  | .udp => some (if e4.get.2 ≠ 0 then some (.udp e4.get.2) else none)
  | .udp6 => some (if e6.get.2 ≠ 0 ∧ e6.get.2 ≠ e4.get.2 then some (.udp6 e6.get.2) else none)
  | .waku2 | .multiaddrs | .tcp | .tcp6 => none

/-- Two nodes are the same when they hold the same entry under every key and
    the same endpoints. -/
theorem ext_get {ln ln' : LocalNode} (h : ∀ k, ln.get k = ln'.get k)
    (h4 : ln.endpoint4 = ln'.endpoint4) (h6 : ln.endpoint6 = ln'.endpoint6) : ln = ln' := by
  cases ln
  cases ln'
  cases h4
  cases h6
  exact congrArg (LocalNode.mk · _ _) (funext h)

@[simp] theorem get_set (ln : LocalNode) (e : Entry) (k : EnrKey) :
    (ln.set e).get k = if k = e.key then some e else ln.get k := by
  simp only [get, set, Function.update_apply]

@[simp] theorem get_delete (ln : LocalNode) (k k' : EnrKey) :
    (ln.delete k).get k' = if k' = k then none else ln.get k' := by
  simp only [get, delete, Function.update_apply]

@[simp] theorem set_endpoint4 (ln : LocalNode) (e : Entry) : (ln.set e).endpoint4 = ln.endpoint4 := rfl

@[simp] theorem set_endpoint6 (ln : LocalNode) (e : Entry) : (ln.set e).endpoint6 = ln.endpoint6 := rfl

@[simp] theorem delete_endpoint4 (ln : LocalNode) (k : EnrKey) :
    (ln.delete k).endpoint4 = ln.endpoint4 := rfl

@[simp] theorem delete_endpoint6 (ln : LocalNode) (k : EnrKey) :
    (ln.delete k).endpoint6 = ln.endpoint6 := rfl

/-- The record after `updateEndpoints`, key by key. -/
@[simp] theorem get_updateEndpoints (ln : LocalNode) (k : EnrKey) :
    ln.updateEndpoints.get k = (endpointWrite ln.endpoint4 ln.endpoint6 k).getD (ln.get k) := by
  obtain ⟨o4, h4⟩ : ∃ o, ln.endpoint4.get.1.filter (fun a => !a.isUnspecified) = o := ⟨_, rfl⟩
  obtain ⟨o6, h6⟩ : ∃ o, ln.endpoint6.get.1.filter (fun a => !a.isUnspecified) = o := ⟨_, rfl⟩
  simp only [updateEndpoints, h4, h6]
  cases o4 <;> cases o6 <;> split_ifs <;> cases k <;> simp [Entry.key, *]

@[simp] theorem get_modifyEndpointFor (ln : LocalNode) (ip : IP) (f : Endpoint → Endpoint)
    (k : EnrKey) : (ln.modifyEndpointFor ip f).get k = ln.get k := by
  unfold modifyEndpointFor
  split_ifs <;> rfl

@[simp] theorem get_setStaticIP (ln : LocalNode) (ip : IP) (k : EnrKey) :
    (ln.setStaticIP ip).get k =
      (endpointWrite (ln.modifyEndpointFor ip fun e => { e with staticIP := some ip }).endpoint4
        (ln.modifyEndpointFor ip fun e => { e with staticIP := some ip }).endpoint6 k).getD
        (ln.get k) := by
  rw [setStaticIP, get_updateEndpoints, get_modifyEndpointFor]

@[simp] theorem get_setFallbackIP (ln : LocalNode) (ip : IP) (k : EnrKey) :
    (ln.setFallbackIP ip).get k =
      (endpointWrite (ln.modifyEndpointFor ip fun e => { e with fallbackIP := some ip }).endpoint4
        (ln.modifyEndpointFor ip fun e => { e with fallbackIP := some ip }).endpoint6 k).getD
        (ln.get k) := by
  rw [setFallbackIP, get_updateEndpoints, get_modifyEndpointFor]

@[simp] theorem get_setFallbackUDP (ln : LocalNode) (port : Int) (k : EnrKey) :
    (ln.setFallbackUDP port).get k =
      (endpointWrite { ln.endpoint4 with fallbackUDP := goUint16 port }
        { ln.endpoint6 with fallbackUDP := goUint16 port } k).getD (ln.get k) :=
  get_updateEndpoints _ k

@[simp] theorem updateEndpoints_endpoint4 (ln : LocalNode) :
    ln.updateEndpoints.endpoint4 = ln.endpoint4 := by
  dsimp only [updateEndpoints]
  split_ifs <;> split <;> split <;> rfl

@[simp] theorem updateEndpoints_endpoint6 (ln : LocalNode) :
    ln.updateEndpoints.endpoint6 = ln.endpoint6 := by
  dsimp only [updateEndpoints]
  split_ifs <;> split <;> split <;> rfl

end LocalNode

/-- The branch of `updateLocalNode` taken when no address is advertised and
    discv5 may still update the record: write the address entries from the
    address's IPv4 and 16-byte forms, deleting each pair that does not apply. -/
def setEndpointEntries (localnode : LocalNode) (ipAddr : TCPAddr) : LocalNode :=
  let ip4 := ipAddr.ip.to4
  let ip6 := ipAddr.ip.to16
  let localnode :=
    match ip4.filter fun a => !a.isUnspecified with
    | some ip4 => (localnode.set (.ipv4 ip4)).set (.tcp (goUint16 ipAddr.port))
    | none => (localnode.delete .ip).delete .tcp
  match ip6.filter fun a => !a.isUnspecified with
  | some ip6 => (localnode.set (.ipv6 ip6)).set (.tcp6 (goUint16 ipAddr.port))
  | none => (localnode.delete .ip6).delete .tcp6

/-- `updateLocalNode`: write the fallback endpoints and the Waku flags, check
    the UDP port, write the address entries as the node is configured, and
    pack the extra multiaddresses into their entry when there are any. -/
def updateLocalNode (localnode : LocalNode) (multiaddrs : List Multiaddr) (ipAddr : TCPAddr)
    (udpPort : UInt64) (wakuFlags : UInt8) (advertiseAddr : Option IP) (shouldAutoUpdate : Bool) :
    Option GoError × LocalNode :=
  let localnode := localnode.setFallbackUDP (goInt udpPort)
  let localnode := localnode.set (.wakuFlags wakuFlags)
  let localnode := localnode.setFallbackIP [127, 0, 0, 1]
  if udpPort.toNat > 65535 then (some ⟨"invalid udp port number"⟩, localnode)
  else
    let localnode :=
      match advertiseAddr with
      | some addr => (localnode.setStaticIP addr).set (.tcp (goUint16 ipAddr.port))
      | none =>
        if !shouldAutoUpdate then (localnode.setStaticIP ipAddr.ip).set (.tcp (goUint16 ipAddr.port))
        else setEndpointEntries localnode ipAddr
    let fieldRaw := multiaddrsField multiaddrs
    (none, if fieldRaw.length ≠ 0 then localnode.set (.multiaddrs fieldRaw) else localnode)

end Node

end GoWaku
