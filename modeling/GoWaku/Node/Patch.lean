import GoWaku.Node.Setup

/-!
# Calls of the Library as Runs

What a call of `updateLocalNode` does to the record, seen from outside. The
code drives `enode.LocalNode` through three kinds of library call: `Set` and
`Delete` of an entry, and the endpoint setters, each of which overwrites
endpoint fields with values from its arguments and then lets
`updateEndpoints` rewrite the `ip`, `ip6`, `udp` and `udp6` entries from the
endpoints. `Call` is such a call, with the endpoint fields it writes as an
`EndpointPatch`, and `run` is a list of them made one after another.

A run is described by two things that depend on the calls alone. The
endpoint fields it leaves are its patches composed (`run_endpoints`). The
entry it leaves under a key is what its last write to the key wrote
(`get_run`): an entry or a deletion given by the arguments, or, for a rewrite
by `updateEndpoints`, the entry read from the endpoints the run leaves, since
every later change of an endpoint rewrites the key again. A run made twice is
made once (`run_run`): a patch applied twice is applied once, and the last
writes are the same and are read at the same endpoints.

`updateLocalNode_isRun` is the step from the code to this model: for every
argument list, the record the call leaves is one run of calls made on the
record it was given. So the same call twice is the call once, and a node that
sets its record up again from the same listen addresses and options ends
where the first setup left it, whether that setup wrote the record, stopped
at the address selection, or panicked (`setupENR_idempotent`).

## Main definitions

* `EndpointPatch`: The endpoint fields a setter overwrites.
* `Call`, `Call.apply`: A call of the library, and what it does.
* `run`: Calls made one after another.
* `Write`, `lastWrite`: What a run last wrote under a key.
* `IsRun`: An update of the record that is one run, the same for every
  record.

## Theorems

* `EndpointPatch.apply_andThen`, `EndpointPatch.apply_apply`: Patches
  compose, and a patch applied twice is applied once.
* `run_endpoints`: The endpoints a run leaves.
* `get_run`: The entries a run leaves.
* `run_run`: A run made twice is made once.
* `updateLocalNode_isRun`: Every call of `updateLocalNode` is a run.
* `updateLocalNode_idempotent`: The same call twice is the call once.
* `setupENR_idempotent`: The same setup twice is the setup once.
-/

namespace GoWaku

namespace Node

/-- The fields of one endpoint a setter overwrites, each with the value
    given, or `none` where it keeps what the endpoint held. -/
structure EndpointPatch where
  staticIP : Option IP
  fallbackIP : Option IP
  fallbackUDP : Option UInt16

namespace EndpointPatch

/-- The patch that keeps every field. -/
def keep : EndpointPatch := ⟨none, none, none⟩

/-- The endpoint a patch leaves. The tracker's prediction is never written. -/
def apply (p : EndpointPatch) (e : Endpoint) : Endpoint :=
  ⟨p.staticIP.or e.staticIP, p.fallbackIP.or e.fallbackIP, p.fallbackUDP.getD e.fallbackUDP,
    e.predicted⟩

/-- `p`, then `q`: the values `q` writes win. -/
def andThen (p q : EndpointPatch) : EndpointPatch :=
  ⟨q.staticIP.or p.staticIP, q.fallbackIP.or p.fallbackIP, q.fallbackUDP.or p.fallbackUDP⟩

@[simp] theorem apply_keep (e : Endpoint) : keep.apply e = e := rfl

@[simp] theorem apply_andThen (p q : EndpointPatch) (e : Endpoint) :
    (p.andThen q).apply e = q.apply (p.apply e) := by
  have hu : (q.fallbackUDP.or p.fallbackUDP).getD e.fallbackUDP =
      q.fallbackUDP.getD (p.fallbackUDP.getD e.fallbackUDP) := by
    cases q.fallbackUDP <;> rfl
  simp only [apply, andThen, hu, Option.or_assoc]

/-- A patch applied twice is applied once. -/
theorem apply_apply (p : EndpointPatch) (e : Endpoint) : p.apply (p.apply e) = p.apply e := by
  have hu : p.fallbackUDP.getD (p.fallbackUDP.getD e.fallbackUDP) =
      p.fallbackUDP.getD e.fallbackUDP := by
    cases p.fallbackUDP <;> rfl
  simp only [apply, hu, ← Option.or_assoc, Option.or_self]

end EndpointPatch

/-- The keys `updateEndpoints` rewrites. -/
def EnrKey.isEndpoint : EnrKey → Bool
  | .ip | .ip6 | .udp | .udp6 => true
  | .waku2 | .multiaddrs | .tcp | .tcp6 => false

/-- A call of the library the code makes on its `LocalNode`: `Set`, `Delete`,
    or an endpoint setter, by the fields it overwrites in the IPv4 and the
    IPv6 endpoint. -/
inductive Call where
  | set (e : Entry)
  | delete (k : EnrKey)
  | setEndpoints (p4 p6 : EndpointPatch)

/-- What a write under a key holds: an entry or a deletion, or the entry
    `updateEndpoints` reads from the endpoints. -/
inductive Write where
  | entry (v : Option Entry)
  | endpoint

/-- The entry a write leaves under a key, read at the given endpoints. -/
def Write.value : Write → Endpoint → Endpoint → EnrKey → Option Entry
  | .entry v, _, _, _ => v
  | .endpoint, e4, e6, k => (LocalNode.endpointWrite e4 e6 k).join

namespace Call

/-- The library call made. -/
def apply : Call → LocalNode → LocalNode
  | .set e, ln => ln.set e
  | .delete k, ln => ln.delete k
  | .setEndpoints p4 p6, ln =>
    LocalNode.updateEndpoints
      { ln with endpoint4 := p4.apply ln.endpoint4, endpoint6 := p6.apply ln.endpoint6 }

/-- The fields a call overwrites in the IPv4 and the IPv6 endpoint. -/
def patches : Call → EndpointPatch × EndpointPatch
  | .setEndpoints p4 p6 => (p4, p6)
  | .set _ | .delete _ => (.keep, .keep)

/-- What a call writes under a key, if it writes it. -/
def write : Call → EnrKey → Option Write
  | .set e, k => if k = e.key then some (.entry (some e)) else none
  | .delete k', k => if k = k' then some (.entry none) else none
  | .setEndpoints _ _, k => if k.isEndpoint then some .endpoint else none

/-- `endpointForIP` with a setter's patch: the IPv4 endpoint for an address
    `To4` accepts, the IPv6 one for any other. -/
def setEndpointFor (ip : IP) (p : EndpointPatch) : Call :=
  if ip.to4.isSome then .setEndpoints p .keep else .setEndpoints .keep p

theorem apply_endpoints (c : Call) (ln : LocalNode) :
    (c.apply ln).endpoint4 = c.patches.1.apply ln.endpoint4 ∧
      (c.apply ln).endpoint6 = c.patches.2.apply ln.endpoint6 := by
  cases c <;> simp [apply, patches]

/-- One call, key by key: what it writes, read at the endpoints it leaves, or
    what the key held. -/
theorem get_apply (c : Call) (ln : LocalNode) (k : EnrKey) :
    (c.apply ln).get k =
      ((c.write k).map (·.value (c.apply ln).endpoint4 (c.apply ln).endpoint6 k)).getD
        (ln.get k) := by
  cases c with
  | set e => simp only [apply, write, LocalNode.get_set]; split_ifs <;> rfl
  | delete k' => simp only [apply, write, LocalNode.get_delete]; split_ifs <;> rfl
  | setEndpoints p4 p6 =>
    simp only [apply, write, LocalNode.get_updateEndpoints, LocalNode.updateEndpoints_endpoint4,
      LocalNode.updateEndpoints_endpoint6]
    cases k <;> rfl

end Call

/-- The calls made one after another. -/
def run : List Call → LocalNode → LocalNode
  | [], ln => ln
  | c :: cs, ln => run cs (c.apply ln)

/-- The endpoint fields a run overwrites, its calls' patches composed. -/
def runPatches : List Call → EndpointPatch × EndpointPatch
  | [] => (.keep, .keep)
  | c :: cs => (c.patches.1.andThen (runPatches cs).1, c.patches.2.andThen (runPatches cs).2)

/-- The last write of a run under a key. -/
def lastWrite : List Call → EnrKey → Option Write
  | [], _ => none
  | c :: cs, k => (lastWrite cs k).or (c.write k)

theorem run_append (cs ds : List Call) (ln : LocalNode) :
    run (cs ++ ds) ln = run ds (run cs ln) := by
  induction cs generalizing ln with
  | nil => rfl
  | cons c cs ih => exact ih _

/-- The endpoints a run leaves: its patches, applied to those it was given. -/
theorem run_endpoints (cs : List Call) (ln : LocalNode) :
    (run cs ln).endpoint4 = (runPatches cs).1.apply ln.endpoint4 ∧
      (run cs ln).endpoint6 = (runPatches cs).2.apply ln.endpoint6 := by
  induction cs generalizing ln with
  | nil => exact ⟨rfl, rfl⟩
  | cons c cs ih =>
    obtain ⟨h4, h6⟩ := c.apply_endpoints ln
    simp only [run, runPatches, ih, h4, h6, EndpointPatch.apply_andThen, and_self]

/-- A run that never writes a key `updateEndpoints` rewrites makes no
    endpoint setter call, so it leaves the endpoints alone. -/
theorem run_endpoints_of_lastWrite_eq_none {cs : List Call} {k : EnrKey} (hk : k.isEndpoint)
    (h : lastWrite cs k = none) (ln : LocalNode) :
    (run cs ln).endpoint4 = ln.endpoint4 ∧ (run cs ln).endpoint6 = ln.endpoint6 := by
  induction cs generalizing ln with
  | nil => exact ⟨rfl, rfl⟩
  | cons c cs ih =>
    obtain ⟨hcs, hc⟩ := Option.or_eq_none.1 h
    obtain ⟨h4, h6⟩ := ih hcs (c.apply ln)
    cases c with
    | set e => exact ⟨h4, h6⟩
    | delete k' => exact ⟨h4, h6⟩
    | setEndpoints p4 p6 => simp [Call.write, hk] at hc

/-- The entries a run leaves, key by key: what its last write under the key
    holds, read at the endpoints the run leaves, or what the key held. -/
theorem get_run (cs : List Call) (ln : LocalNode) (k : EnrKey) :
    (run cs ln).get k =
      ((lastWrite cs k).map (·.value (run cs ln).endpoint4 (run cs ln).endpoint6 k)).getD
        (ln.get k) := by
  induction cs generalizing ln with
  | nil => rfl
  | cons c cs ih =>
    rw [run, ih, lastWrite]
    cases hw : lastWrite cs k with
    | some w => rfl
    | none =>
      rw [Call.get_apply]
      cases hc : c.write k with
      | none => rfl
      | some w =>
        -- A rewrite by `updateEndpoints` is the last write only when no setter follows it.
        cases w with
        | entry v => rfl
        | endpoint =>
          have hk : k.isEndpoint := by
            cases c <;> simp [Call.write] at hc
            exact hc
          obtain ⟨h4, h6⟩ := run_endpoints_of_lastWrite_eq_none hk hw (c.apply ln)
          rw [h4, h6]
          rfl

/-- A run made twice is made once: its patches are applied twice, and its last
    writes are read at the same endpoints. -/
theorem run_run (cs : List Call) (ln : LocalNode) : run cs (run cs ln) = run cs ln := by
  obtain ⟨h4, h6⟩ := run_endpoints cs (run cs ln)
  obtain ⟨h4', h6'⟩ := run_endpoints cs ln
  have he4 : (run cs (run cs ln)).endpoint4 = (run cs ln).endpoint4 := by
    rw [h4, h4', EndpointPatch.apply_apply]
  have he6 : (run cs (run cs ln)).endpoint6 = (run cs ln).endpoint6 := by
    rw [h6, h6', EndpointPatch.apply_apply]
  refine LocalNode.ext_get (fun k => ?_) he4 he6
  rw [get_run, he4, he6]
  cases hw : lastWrite cs k with
  | none => rfl
  | some w => simp only [get_run cs ln k, hw, Option.map_some', Option.getD_some]

/-- An update of the record that is one run of calls, the same for every
    record. -/
def IsRun (f : LocalNode → LocalNode) : Prop :=
  ∃ cs, ∀ ln, f ln = run cs ln

namespace IsRun

variable {f g : LocalNode → LocalNode}

theorem comp (hf : IsRun f) (hg : IsRun g) : IsRun fun ln => g (f ln) :=
  let ⟨cs, hcs⟩ := hf
  let ⟨ds, hds⟩ := hg
  ⟨cs ++ ds, fun ln => by rw [run_append, ← hcs, ← hds]⟩

theorem apply_self (h : IsRun f) (ln : LocalNode) : f (f ln) = f ln :=
  let ⟨cs, hcs⟩ := h
  by rw [hcs (f ln), hcs ln, run_run]

theorem call (c : Call) : IsRun c.apply :=
  ⟨[c], fun _ => rfl⟩

end IsRun

theorem isRun_setStaticIP (ip : IP) : IsRun (·.setStaticIP ip) :=
  ⟨[.setEndpointFor ip ⟨some ip, none, none⟩], fun ln => by
    unfold LocalNode.setStaticIP LocalNode.modifyEndpointFor Call.setEndpointFor
    split_ifs <;> rfl⟩

theorem isRun_setFallbackIP (ip : IP) : IsRun (·.setFallbackIP ip) :=
  ⟨[.setEndpointFor ip ⟨none, some ip, none⟩], fun ln => by
    unfold LocalNode.setFallbackIP LocalNode.modifyEndpointFor Call.setEndpointFor
    split_ifs <;> rfl⟩

theorem isRun_setFallbackUDP (port : Int) : IsRun (·.setFallbackUDP port) :=
  IsRun.call (.setEndpoints ⟨none, none, some (goUint16 port)⟩ ⟨none, none, some (goUint16 port)⟩)

/-- The auto-update branch is a run: which pairs it writes and which it
    deletes is decided by the address alone. -/
theorem isRun_setEndpointEntries (ipAddr : TCPAddr) : IsRun (setEndpointEntries · ipAddr) := by
  dsimp only [setEndpointEntries]
  have hs (e : Entry) : IsRun (·.set e) := IsRun.call (.set e)
  have hd (k : EnrKey) : IsRun (·.delete k) := IsRun.call (.delete k)
  cases ipAddr.ip.to4.filter (fun a => !a.isUnspecified) <;>
    cases ipAddr.ip.to16.filter (fun a => !a.isUnspecified)
  · exact (((hd _).comp (hd _)).comp (hd _)).comp (hd _)
  · exact (((hd _).comp (hd _)).comp (hs _)).comp (hs _)
  · exact (((hs _).comp (hs _)).comp (hd _)).comp (hd _)
  · exact (((hs _).comp (hs _)).comp (hs _)).comp (hs _)

/-- Every call of `updateLocalNode` is a run of library calls on the record:
    the branches it takes read only its arguments. -/
theorem updateLocalNode_isRun (multiaddrs : List Multiaddr) (ipAddr : TCPAddr) (udpPort : UInt64)
    (wakuFlags : UInt8) (advertiseAddr : Option IP) (shouldAutoUpdate : Bool) :
    IsRun fun ln =>
      (updateLocalNode ln multiaddrs ipAddr udpPort wakuFlags advertiseAddr shouldAutoUpdate).2 := by
  have hs (e : Entry) : IsRun (·.set e) := IsRun.call (.set e)
  have hw : IsRun fun ln =>
      ((ln.setFallbackUDP (goInt udpPort)).set (.wakuFlags wakuFlags)).setFallbackIP [127, 0, 0, 1] :=
    ((isRun_setFallbackUDP _).comp (hs _)).comp (isRun_setFallbackIP _)
  -- The packing step at the end writes the `multiaddrs` entry or nothing.
  have hm : ∀ {f}, IsRun f → IsRun fun ln =>
      if (multiaddrsField multiaddrs).length ≠ 0 then (f ln).set (.multiaddrs (multiaddrsField multiaddrs))
      else f ln := fun hf => by
    split_ifs
    · exact hf.comp (hs _)
    · exact hf
  dsimp only [updateLocalNode]
  by_cases hp : udpPort.toNat > 65535
  · simpa only [if_pos hp] using hw
  · simp only [if_neg hp]
    refine hm ?_
    rcases advertiseAddr with _ | addr
    · cases shouldAutoUpdate
      · exact (hw.comp (isRun_setStaticIP _)).comp (hs _)
      · exact hw.comp (isRun_setEndpointEntries _)
    · exact (hw.comp (isRun_setStaticIP _)).comp (hs _)

/-- The error `updateLocalNode` returns does not depend on the record. -/
theorem updateLocalNode_fst (ln : LocalNode) (multiaddrs : List Multiaddr) (ipAddr : TCPAddr)
    (udpPort : UInt64) (wakuFlags : UInt8) (advertiseAddr : Option IP) (shouldAutoUpdate : Bool) :
    (updateLocalNode ln multiaddrs ipAddr udpPort wakuFlags advertiseAddr shouldAutoUpdate).1 =
      if udpPort.toNat > 65535 then some ⟨"invalid udp port number"⟩ else none := by
  unfold updateLocalNode
  split_ifs <;> rfl

theorem updateLocalNode_idempotent (ln : LocalNode) (multiaddrs : List Multiaddr) (ipAddr : TCPAddr)
    (udpPort : UInt64) (wakuFlags : UInt8) (advertiseAddr : Option IP) (shouldAutoUpdate : Bool) :
    updateLocalNode (updateLocalNode ln multiaddrs ipAddr udpPort wakuFlags advertiseAddr
        shouldAutoUpdate).2 multiaddrs ipAddr udpPort wakuFlags advertiseAddr shouldAutoUpdate =
      updateLocalNode ln multiaddrs ipAddr udpPort wakuFlags advertiseAddr shouldAutoUpdate :=
  Prod.ext (by rw [updateLocalNode_fst, updateLocalNode_fst])
    ((updateLocalNode_isRun multiaddrs ipAddr udpPort wakuFlags advertiseAddr
      shouldAutoUpdate).apply_self ln)

/-- Setting the record up again from the same listen addresses and options
    gives what the first setup gave: the same error and record, or the same
    panic. -/
theorem setupENR_idempotent (bytes : List Component → Multiaddr)
    (resolveIP4 : String → Except GoError (Bytes 4)) (localNode : LocalNode)
    (addrs : List (List Component)) (udpPort : UInt64) (wakuFlag : UInt8)
    (advertiseAddr : Option IP) (discV5autoUpdate : Bool) :
    (setupENR bytes resolveIP4 localNode addrs udpPort wakuFlag advertiseAddr discV5autoUpdate).bind
        (fun r => setupENR bytes resolveIP4 r.2 addrs udpPort wakuFlag advertiseAddr discV5autoUpdate) =
      setupENR bytes resolveIP4 localNode addrs udpPort wakuFlag advertiseAddr discV5autoUpdate := by
  unfold setupENR
  cases getENRAddresses resolveIP4 addrs with
  | error err => rfl
  | ok r =>
    by_cases h : none ∈ r.2 ∧ udpPort.toNat ≤ 65535
    · simp only [if_pos h, Option.none_bind]
    · simp only [if_neg h, Option.some_bind, updateLocalNode_idempotent]

end Node

end GoWaku
