import GoWaku.Node.Enr

/-!
# What `updateLocalNode` Leaves in the Record

The `multiaddrs` entry packs a list of addresses as length-prefixed byte
strings, and `readLengthPrefixed` is the reader it is packed for: a two-byte
big-endian length, then that many bytes, until the input runs out.
`readLengthPrefixed_multiaddrsField` is the round trip: every list of
addresses shorter than `2^16` bytes each reads back as itself. The bound is
exact, since `uint16(len(maRaw))` keeps only the low sixteen bits of a longer
length.

The rest of the module is about runs of `updateLocalNode` on one node. The
entry branch (`setEndpointEntries`) is characterised for every address by
`setEndpointEntries_get`: the `ip`/`tcp` pair is there exactly when `To4`
gives a specified address, and the `ip6`/`tcp6` pair exactly when `To16`
does, which it also does for every IPv4 address, so every specified IPv4
address, in either form, gets an `ip6` entry
(`updateLocalNode_get_ip6_of_ipv4`). A call that
passes the port check only ever sets the `multiaddrs` entry, and one with no
address to pack leaves whatever entry the record held
(`updateLocalNode_get_multiaddrs`). Three fixed runs then show
where the function departs from "the record says what this call was given":
an IPv4 address also writes an `ip6` entry, an empty list of multiaddresses
leaves the previous call's entry in place, and a rejected UDP port is
rejected only after the Waku flags and the fallback IP were written, the
latter with the `ip` entry go-ethereum derives from it.

## Main definitions

* `readLengthPrefixed`: The reader the `multiaddrs` entry is packed for.

## Theorems

* `multiaddrsField_eq`: The packing loop, as a `flatMap`.
* `readLengthPrefixed_frame`: Reading one length-prefixed string.
* `readLengthPrefixed_multiaddrsField`: The round trip.
* `setEndpointEntries_get`: The address entries the auto-update branch leaves.
* `updateLocalNode_get_multiaddrs`: The `multiaddrs` entry after a call.
* `updateLocalNode_get_ip6_of_ipv4`: Every IPv4 address gets an `ip6` entry.
* `updateLocalNode_ipv4_writes_ip6_entry`: An IPv4 address gets an `ip6` entry.
* `updateLocalNode_keeps_stale_multiaddrs`: An empty list keeps the old entry.
* `updateLocalNode_error_after_writes`: The port check comes after the writes.
-/

namespace GoWaku

namespace Node

/-- The reader the `multiaddrs` entry is packed for: a two-byte big-endian
    length `n`, then `n` bytes, until the input is used up; `none` if a
    length runs past the end. -/
def readLengthPrefixed : List UInt8 → Option (List (List UInt8))
  | [] => some []
  | [_] => none
  | hi :: lo :: rest =>
    if hi.toNat * 256 + lo.toNat ≤ rest.length then
      (readLengthPrefixed (rest.drop (hi.toNat * 256 + lo.toNat))).map
        (rest.take (hi.toNat * 256 + lo.toNat) :: ·)
    else none
termination_by bs => bs.length
decreasing_by simp only [List.length_drop, List.length_cons]; omega

theorem multiaddrsField_eq (multiaddrs : List Multiaddr) :
    multiaddrsField multiaddrs =
      multiaddrs.flatMap fun addr => putUint16 (UInt16.ofNat addr.bytes.length) ++ addr.bytes := by
  -- The loop appends one frame per address onto what it has built so far.
  suffices h : ∀ acc, multiaddrs.foldl (fun fieldRaw addr =>
      fieldRaw ++ putUint16 (UInt16.ofNat addr.bytes.length) ++ addr.bytes) acc =
      acc ++ multiaddrs.flatMap fun addr => putUint16 (UInt16.ofNat addr.bytes.length) ++ addr.bytes by
    exact (h []).trans (List.nil_append _)
  induction multiaddrs with
  | nil => intro acc; simp
  | cons a as ih =>
      intro acc
      rw [List.foldl_cons, ih, List.flatMap_cons]
      simp only [List.append_assoc]

theorem readLengthPrefixed_frame (bs rest : List UInt8) (h : bs.length < 65536) :
    readLengthPrefixed (putUint16 (UInt16.ofNat bs.length) ++ bs ++ rest) =
      (readLengthPrefixed rest).map (bs :: ·) := by
  have hn := putUint16_toNat (UInt16.ofNat bs.length)
  rw [UInt16.toNat_ofNat_of_lt h] at hn
  simp only [putUint16, List.cons_append, List.nil_append, List.append_assoc]
  rw [readLengthPrefixed, hn, if_pos (by simp), List.take_left, List.drop_left]

/-- Every list of addresses shorter than `2^16` bytes each reads back from
    its `multiaddrs` entry as exactly its byte strings, in order, with
    nothing left over. -/
theorem readLengthPrefixed_multiaddrsField (multiaddrs : List Multiaddr)
    (h : ∀ addr ∈ multiaddrs, addr.bytes.length < 65536) :
    readLengthPrefixed (multiaddrsField multiaddrs) = some (multiaddrs.map (·.bytes)) := by
  rw [multiaddrsField_eq]
  induction multiaddrs with
  | nil => simp [readLengthPrefixed]
  | cons a as ih =>
      rw [List.flatMap_cons, readLengthPrefixed_frame _ _ (h a (List.mem_cons_self a as)),
        ih fun b hb => h b (List.mem_cons_of_mem a hb)]
      rfl

theorem readLengthPrefixed_multiaddrsField_two :
    (∀ addr ∈ [(⟨[1, 2]⟩ : Multiaddr), ⟨[]⟩], addr.bytes.length < 65536) ∧
      readLengthPrefixed (multiaddrsField [⟨[1, 2]⟩, ⟨[]⟩]) = some [[1, 2], []] :=
  ⟨by decide, readLengthPrefixed_multiaddrsField _ (by decide)⟩

/-- The address entries the auto-update branch leaves: the `ip`/`tcp` pair
    exactly when `To4` gives a specified address, the `ip6`/`tcp6` pair
    exactly when `To16` does, whatever the record held before. -/
theorem setEndpointEntries_get (ln : LocalNode) (ipAddr : TCPAddr) :
    (setEndpointEntries ln ipAddr).get .ip =
        (ipAddr.ip.to4.filter fun a => !a.isUnspecified).map .ipv4 ∧
      (setEndpointEntries ln ipAddr).get .tcp =
        (ipAddr.ip.to4.filter fun a => !a.isUnspecified).map (fun _ => .tcp (goUint16 ipAddr.port)) ∧
      (setEndpointEntries ln ipAddr).get .ip6 =
        (ipAddr.ip.to16.filter fun a => !a.isUnspecified).map .ipv6 ∧
      (setEndpointEntries ln ipAddr).get .tcp6 =
        (ipAddr.ip.to16.filter fun a => !a.isUnspecified).map (fun _ => .tcp6 (goUint16 ipAddr.port)) := by
  dsimp only [setEndpointEntries]
  generalize ipAddr.ip.to4.filter (fun a => !a.isUnspecified) = o4
  generalize ipAddr.ip.to16.filter (fun a => !a.isUnspecified) = o6
  cases o4 <;> cases o6 <;> simp [Entry.key]

/-- The entry branch leaves the `multiaddrs` entry as it was. -/
theorem setEndpointEntries_get_multiaddrs (ln : LocalNode) (ipAddr : TCPAddr) :
    (setEndpointEntries ln ipAddr).get .multiaddrs = ln.get .multiaddrs := by
  dsimp only [setEndpointEntries]
  generalize ipAddr.ip.to4.filter (fun a => !a.isUnspecified) = o4
  generalize ipAddr.ip.to16.filter (fun a => !a.isUnspecified) = o6
  cases o4 <;> cases o6 <;> simp [Entry.key]

/-- A call that passes the port check leaves the `multiaddrs` entry it packs
    when it packs at least one byte, and otherwise the entry the record
    already held, whichever branch it takes. -/
theorem updateLocalNode_get_multiaddrs (ln : LocalNode) (multiaddrs : List Multiaddr)
    (ipAddr : TCPAddr) {udpPort : UInt64} (wakuFlags : UInt8) (advertiseAddr : Option IP)
    (shouldAutoUpdate : Bool) (h : udpPort.toNat ≤ 65535) :
    (updateLocalNode ln multiaddrs ipAddr udpPort wakuFlags advertiseAddr shouldAutoUpdate).2.get
        .multiaddrs =
      if multiaddrsField multiaddrs = [] then ln.get .multiaddrs
      else some (.multiaddrs (multiaddrsField multiaddrs)) := by
  dsimp only [updateLocalNode]
  rw [if_neg (by omega)]
  cases advertiseAddr <;> cases shouldAutoUpdate <;>
    by_cases hf : multiaddrsField multiaddrs = [] <;>
    simp [hf, setEndpointEntries_get_multiaddrs, Entry.key]

theorem updateLocalNode_get_multiaddrs_empty :
    (9000 : UInt64).toNat ≤ 65535 ∧
      (updateLocalNode (LocalNode.empty.set (.multiaddrs [0, 1, 1])) [] ⟨[1, 2, 3, 4], 60000⟩ 9000 0
        none true).2.get .multiaddrs = some (.multiaddrs [0, 1, 1]) :=
  ⟨by decide, updateLocalNode_get_multiaddrs _ _ _ _ _ _ (by decide)⟩

/-- The mapped form of an IPv4 address is unspecified exactly when the
    address is `0.0.0.0`. -/
theorem isUnspecified_v4InV6 {ip : IP} (hl : ip.length = 4) :
    IP.isUnspecified (v4InV6Prefix ++ ip) = (ip == [0, 0, 0, 0]) := by
  match ip, hl with
  | [a, b, c, d], _ => simp [IP.isUnspecified, IP.equal, ipv4zero, ipv6unspecified, v4InV6Prefix]

/-- Every specified IPv4 address, in its 4-byte or its 16-byte form, given
    with auto-update on and nothing advertised, gets an `ip6` entry holding its
    mapped form. -/
theorem updateLocalNode_get_ip6_of_ipv4 (ln : LocalNode) (multiaddrs : List Multiaddr)
    {ip ip4 : IP} (port : Int) {udpPort : UInt64} (wakuFlags : UInt8) (h4 : ip.to4 = some ip4)
    (hs : ip4 ≠ [0, 0, 0, 0]) (h : udpPort.toNat ≤ 65535) :
    (updateLocalNode ln multiaddrs ⟨ip, port⟩ udpPort wakuFlags none true).2.get .ip6 =
      some (.ipv6 (v4InV6Prefix ++ ip4)) := by
  obtain ⟨h16, hl⟩ := IP.to16_of_to4 h4
  have hu : IP.isUnspecified (v4InV6Prefix ++ ip4) = false := by
    simp [isUnspecified_v4InV6 hl, hs]
  rw [updateLocalNode, if_neg (by omega)]
  by_cases hf : (multiaddrsField multiaddrs).length = 0 <;>
    simp [hf, (setEndpointEntries_get _ _).2.2.1, h16, hu, Entry.key]

theorem updateLocalNode_get_ip6_of_ipv4_mapped :
    IP.to4 [0, 0, 0, 0, 0, 0, 0, 0, 0, 0, 255, 255, 1, 2, 3, 4] = some [1, 2, 3, 4] ∧
      ([1, 2, 3, 4] : IP) ≠ [0, 0, 0, 0] ∧ (9000 : UInt64).toNat ≤ 65535 ∧
      (updateLocalNode LocalNode.empty [] ⟨[0, 0, 0, 0, 0, 0, 0, 0, 0, 0, 255, 255, 1, 2, 3, 4], 60000⟩
          9000 0 none true).2.get .ip6 =
        some (.ipv6 (v4InV6Prefix ++ [1, 2, 3, 4])) :=
  ⟨by decide, by decide, by decide,
    updateLocalNode_get_ip6_of_ipv4 _ _ _ _ (by decide) (by decide) (by decide)⟩

/-- `1.2.3.4` given with auto-update on: besides its `ip` and `tcp` entries,
    the record gets an `ip6` entry holding the address's IPv4-mapped form, and
    a `tcp6` entry. -/
theorem updateLocalNode_ipv4_writes_ip6_entry :
    (updateLocalNode LocalNode.empty [] ⟨[1, 2, 3, 4], 60000⟩ 9000 0 none true).1 = none ∧
      (updateLocalNode LocalNode.empty [] ⟨[1, 2, 3, 4], 60000⟩ 9000 0 none true).2.get .ip6 =
        some (.ipv6 [0, 0, 0, 0, 0, 0, 0, 0, 0, 0, 255, 255, 1, 2, 3, 4]) ∧
      (updateLocalNode LocalNode.empty [] ⟨[1, 2, 3, 4], 60000⟩ 9000 0 none true).2.get .tcp6 =
        some (.tcp6 60000) := by
  decide

/-- Two calls on one node: the first with one multiaddress, the second with
    none. Both return `nil`, and after the second the record still holds the
    first call's `multiaddrs` entry. -/
theorem updateLocalNode_keeps_stale_multiaddrs :
    (updateLocalNode LocalNode.empty [⟨[1]⟩] ⟨[1, 2, 3, 4], 60000⟩ 9000 0 none true).1 = none ∧
      (updateLocalNode
        (updateLocalNode LocalNode.empty [⟨[1]⟩] ⟨[1, 2, 3, 4], 60000⟩ 9000 0 none true).2
        [] ⟨[1, 2, 3, 4], 60000⟩ 9000 0 none true).1 = none ∧
      (updateLocalNode
        (updateLocalNode LocalNode.empty [⟨[1]⟩] ⟨[1, 2, 3, 4], 60000⟩ 9000 0 none true).2
        [] ⟨[1, 2, 3, 4], 60000⟩ 9000 0 none true).2.get .multiaddrs =
        some (.multiaddrs [0, 1, 1]) := by
  decide

/-- A UDP port of `65536` is rejected, but only after the call has written
    the Waku flags and set the fallback IP, which also wrote an `ip` entry for
    `127.0.0.1`; the fallback UDP port is `uint16(65536)`, that is `0`. -/
theorem updateLocalNode_error_after_writes :
    (updateLocalNode LocalNode.empty [] ⟨[1, 2, 3, 4], 60000⟩ 65536 1 none true).1 =
        some ⟨"invalid udp port number"⟩ ∧
      (∀ k, (updateLocalNode LocalNode.empty [] ⟨[1, 2, 3, 4], 60000⟩ 65536 1 none true).2.get k =
        if k = .waku2 then some (.wakuFlags 1)
        else if k = .ip then some (.ipv4 [127, 0, 0, 1]) else none) ∧
      (updateLocalNode LocalNode.empty [] ⟨[1, 2, 3, 4], 60000⟩ 65536 1 none true).2.endpoint4 =
        ⟨none, some [127, 0, 0, 1], 0, none⟩ ∧
      (updateLocalNode LocalNode.empty [] ⟨[1, 2, 3, 4], 60000⟩ 65536 1 none true).2.endpoint6 =
        Endpoint.empty :=
  ⟨rfl, fun k => by cases k <;> decide, rfl, rfl⟩

end Node

end GoWaku
