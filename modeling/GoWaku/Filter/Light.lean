import GoWaku.Filter.Node

/-!
# The Light Node's Side

What a light node does in the filter protocol: choose a full node, send it a
subscription, and dispatch the pushes that come back to its local filters.

`Subscribe` names the subscription by a random id. It writes the id to the
full node hex encoded, as `hex.EncodeToString` renders it, and returns to its
caller the raw bytes of the same id read as a string. The two agree only on
the empty id (`length_hexEncodeToString` is why), and every push for the
subscription comes back under the encoded one, so a caller that keys its
filters by what `Subscribe` returned never sees the key branch of `Notify`
fire.

`selectPeer` walks the peers `Peerstore().Peers()` returns and picks the first
that supports the filter protocol. `Peers()` lists the peers the peerstore
holds a key or an address for (`Host.listedPeers`), as the keys of a Go map,
so in an order the runtime chooses afresh on every call: the model takes that
order as an argument, and a statement about `selectPeer` holds for every order
of the listed peers. `AddPeer` adds the peer's addresses, which list it, and
then the protocol, which makes it a filter peer. After `AddPeer` with an
address, whichever order `Peers()` gives, a filter peer is picked, and in an
order that gives the new peer first it is the one (`selectPeer_after_addPeer`).

`Filters.Notify` takes a push and the request id it came under. A filter
whose key is that id receives the message; every other filter receives it if
one of its content filters names the message's content topic, the inner loop
breaking at the first one that does. A Go map is iterated in no fixed order,
so `Filters` keeps its entries as a list, one iteration order, with its keys
distinct; what holds for every list holds for every order.

## Main definitions

* `collectFilterPeers`, `selectPeer`: Choosing a peer that speaks the protocol.
* `hextable`, `hexEncodeToString`: `hex.EncodeToString`.
* `subscribe`, `unsubscribe`: `Subscribe` and `Unsubscribe`.
* `Host.updatePeer`, `addPeer`: A peerstore write, and `AddPeer`.
* `Filter`, `Filters`: The light node's filters, keyed by request id.
* `notifyContentFilters`, `Filters.notify`: `Notify` and its inner loop.

## Theorems

* `length_hexEncodeToString`: Hex encoding doubles the length.
* `hexEncodeToString_ne_self`: A non-empty id differs from its encoding.
* `selectPeer_written`: Picking a peer writes nothing.
* `selectPeer_of_noFaults`: With no failed lookup, the first filter peer of
  the order `Peers()` gives is picked.
* `find?_updatePeer`: The entry a peerstore write leaves.
* `subscribe_written_of_noFaults`: What `Subscribe` writes when nothing fails.
* `selectPeer_after_addPeer`: The peer picked after `AddPeer`.
* `subscribe_frame`: The frame `Subscribe` writes, and what it then returns.
* `notifyContentFilters_eq`: The inner loop of `Notify` sends at most once.
* `mem_notify_of_contentTopic`: A matching filter receives every push.
-/

namespace GoWaku

namespace FilterProtocol

open Pb

/-- The loop of `selectPeer` over the peers `Peers()` returned: keep each
    peer that supports the filter protocol, and give up (`none`) at the first
    failed lookup. -/
def collectFilterPeers : List PeerID → List PeerID → Host → Option (List PeerID) × Host
  | [], peers, h => (some peers, h)
  | p :: ps, peers, h =>
    match h.supportsProtocols p wakuFilterCodec with
    | (.error _, h) => (none, h)
    | (.ok protocols, h) =>
      collectFilterPeers ps (if protocols.length > 0 then peers ++ [p] else peers) h

/-- `selectPeer`, with `peers` what `Peerstore().Peers()` returned this time:
    the first of them that supports the filter protocol, if there is one and
    no lookup failed. -/
def selectPeer (h : Host) (peers : List PeerID) : Option PeerID × Host :=
  match collectFilterPeers peers [] h with
  | (some peers, h) => (peers.head?, h)
  | (none, h) => (none, h)

/-- `hextable`: the bytes of `"0123456789abcdef"`. -/
def hextable : List UInt8 :=
  [48, 49, 50, 51, 52, 53, 54, 55, 56, 57, 97, 98, 99, 100, 101, 102]

/-- `hex.EncodeToString`: each byte as two hex digits, high nibble first. -/
def hexEncodeToString (src : List UInt8) : GoString :=
  src.flatMap fun v => [hextable.getD (v.toNat / 16) 0, hextable.getD (v.toNat % 16) 0]

theorem length_hexEncodeToString (src : List UInt8) :
    (hexEncodeToString src).length = 2 * src.length := by
  induction src with
  | nil => rfl
  | cons v vs ih =>
      simp only [hexEncodeToString, List.flatMap_cons, List.length_append] at ih ⊢
      simp only [ih, List.length_cons, List.length_nil]
      omega

theorem hexEncodeToString_ne_self {id : List UInt8} (h : id ≠ []) : hexEncodeToString id ≠ id := by
  intro heq
  have hl := congrArg List.length heq
  rw [length_hexEncodeToString] at hl
  exact h (List.eq_nil_of_length_eq_zero (by omega))

/-- `Subscribe`: pick a full node, dial it, and write it the request under the
    new id `id`; return the id, whatever the write did. With no full node to
    pick, nothing is sent and `("", nil)` is returned. `peers` is what
    `Peers()` returns inside `selectPeer`. -/
def subscribe (h : Host) (request : FilterRequest) (id : List UInt8) (peers : List PeerID) :
    (GoString × Option GoError) × Host :=
  match selectPeer h peers with
  | (none, h) => (([], none), h)
  | (some p, h) =>
    match h.newStream with
    | (some err, h) => (([], some err), h)
    | (none, h) =>
      let filterRPC : FilterRPC := ⟨hexEncodeToString id, some request, none⟩
      ((id, none), (h.writeMsg p filterRPC).2)

/-- `Unsubscribe`: the same frame as `Subscribe`, sent and forgotten. -/
def unsubscribe (h : Host) (request : FilterRequest) (id : List UInt8) (peers : List PeerID) :
    Host :=
  match selectPeer h peers with
  | (none, h) => h
  | (some p, h) =>
    match h.newStream with
    | (some _, h) => h
    | (none, h) => (h.writeMsg p ⟨hexEncodeToString id, some request, none⟩).2

/-- Change the peerstore's entry for `p` by `f`, or add `f` of an empty entry
    when it has none. -/
def Host.updatePeer (h : Host) (p : PeerID) (f : PeerInfo → PeerInfo) : Host :=
  { h with peerstore :=
      if h.peerstore.any (·.id = p) then h.peerstore.map fun i => if i.id = p then f i else i
      else h.peerstore ++ [f ⟨p, [], false⟩] }

@[simp] theorem Host.updatePeer_written (h : Host) (p : PeerID) (f : PeerInfo → PeerInfo) :
    (h.updatePeer p f).written = h.written := rfl

/-- `AddPeer`: `AddAddr` of each address, which lists the peer once it has
    one, then `AddProtocols` of the filter protocol, unless the peerstore
    fails. The addresses matter only through whether there are any. -/
def addPeer (h : Host) (p : PeerID) (addrs : List GoString) : Option GoError × Host :=
  let h := if addrs = [] then h else h.updatePeer p fun i => { i with listed := true }
  match nextFault h.faults with
  | some err => (some err, { h with faults := h.faults.tail })
  | none =>
    (none, { h.updatePeer p (fun i => { i with protocols := i.protocols.insert wakuFilterCodec }) with
      faults := h.faults.tail })

theorem collectFilterPeers_written (ps peers : List PeerID) (h : Host) :
    (collectFilterPeers ps peers h).2.written = h.written := by
  induction ps generalizing peers h with
  | nil => rfl
  | cons p ps ih =>
      unfold collectFilterPeers Host.supportsProtocols
      cases nextFault h.faults <;> simp [ih]

/-- Picking a peer writes nothing. -/
theorem selectPeer_written (h : Host) (peers : List PeerID) :
    (selectPeer h peers).2.written = h.written := by
  unfold selectPeer
  have := collectFilterPeers_written peers [] h
  split <;> simp_all

/-- With no failed lookup, the loop keeps every peer it is given that
    supports the filter protocol, in the order given. -/
theorem collectFilterPeers_of_noFaults (ps peers : List PeerID) {h : Host}
    (hf : NoFaults h.faults) :
    (collectFilterPeers ps peers h).1 =
        some (peers ++ ps.filter fun p => wakuFilterCodec ∈ h.protocolsOf p) ∧
      NoFaults (collectFilterPeers ps peers h).2.faults := by
  induction ps generalizing peers h with
  | nil => exact ⟨by simp [collectFilterPeers], hf⟩
  | cons p ps ih =>
      unfold collectFilterPeers Host.supportsProtocols
      rw [hf.nextFault]
      by_cases hc : wakuFilterCodec ∈ h.protocolsOf p
      · have hl : ((h.protocolsOf p).filter (· = wakuFilterCodec)).length > 0 :=
          List.length_pos.mpr (List.ne_nil_of_mem (List.mem_filter.mpr ⟨hc, by simp⟩))
        simpa [hl, hc] using ih (peers ++ [p]) (h := { h with faults := h.faults.tail }) hf.tail
      · have hl : ¬((h.protocolsOf p).filter (· = wakuFilterCodec)).length > 0 := by
          simp only [gt_iff_lt, List.length_pos, ne_eq, List.filter_eq_nil_iff, not_not,
            decide_eq_true_eq]
          exact fun a ha he => hc (he ▸ ha)
        simpa [hl, hc] using ih peers (h := { h with faults := h.faults.tail }) hf.tail

/-- With no failed lookup, `selectPeer` picks the first of the peers it is
    given that supports the filter protocol. -/
theorem selectPeer_of_noFaults {h : Host} (hf : NoFaults h.faults) (peers : List PeerID) :
    (selectPeer h peers).1 = peers.find? (fun p => wakuFilterCodec ∈ h.protocolsOf p) ∧
      NoFaults (selectPeer h peers).2.faults := by
  obtain ⟨hp, hn⟩ := collectFilterPeers_of_noFaults peers [] hf
  unfold selectPeer
  rcases hc : collectFilterPeers peers [] h with ⟨_ | peers', h'⟩ <;> rw [hc] at hp hn <;>
    cases hp
  exact ⟨by simp [List.filter_head?], hn⟩

/-- On a host that fails no call, `Subscribe` with a peer to pick writes its
    request to that peer. -/
theorem subscribe_written_of_noFaults {h : Host} (hf : NoFaults h.faults) {peers : List PeerID}
    {q : PeerID} (hq : (selectPeer h peers).1 = some q) (request : FilterRequest)
    (id : List UInt8) :
    (subscribe h request id peers).2.written =
      h.written ++ [(q, ⟨hexEncodeToString id, some request, none⟩)] := by
  have hs := selectPeer_written h peers
  have hn := (selectPeer_of_noFaults hf peers).2
  unfold subscribe
  rcases hp : selectPeer h peers with ⟨_ | q', h₁⟩ <;> rw [hp] at hq hs hn <;> cases hq
  dsimp only at hs hn ⊢
  simp [Host.newStream, Host.writeMsg, hn.nextFault, hn.tail.nextFault, hs]

/-- When `Subscribe` writes a frame, it returns `(id, nil)`, and the frame
    carries the request under the hex encoding of `id`. -/
theorem subscribe_frame {h : Host} {request : FilterRequest} {id : List UInt8}
    {peers : List PeerID} {p : PeerID} {rpc : FilterRPC}
    (hw : (subscribe h request id peers).2.written = h.written ++ [(p, rpc)]) :
    (subscribe h request id peers).1 = (id, none) ∧ rpc = ⟨hexEncodeToString id, some request, none⟩ := by
  have hs := selectPeer_written h peers
  unfold subscribe at hw ⊢
  rcases hp : selectPeer h peers with ⟨_ | q, h₁⟩ <;> rw [hp] at hw hs <;> dsimp only at hw hs ⊢
  · simp [hs] at hw
  cases hd : nextFault h₁.faults with
  | some err => simp [Host.newStream, hd, hs] at hw
  | none =>
      simp only [Host.newStream, hd, Host.writeMsg] at hw ⊢
      cases hw' : nextFault h₁.faults.tail <;> simp [hw', hs] at hw ⊢
      exact hw.2.symm

/-- A light node's filter: its content filters and, by identity, the channel
    its messages are sent on. -/
structure Filter where
  contentFilters : List ContentFilter
  chan : Nat
deriving DecidableEq, Repr

/-- `Filters`, a Go map from request id to filter, as its entries in one
    iteration order; the keys are distinct. -/
structure Filters where
  entries : List (GoString × Filter)
  nodup_keys : (entries.map Prod.fst).Nodup

/-- The inner loop of `Notify`: send on the first content filter naming the
    message's content topic, then break. -/
def notifyContentFilters (msg : WakuMessage) (chan : Nat) : List ContentFilter → List (Nat × WakuMessage)
  | [] => []
  | contentFilter :: rest =>
    if msg.contentTopic = contentFilter.contentTopic then [(chan, msg)]
    else notifyContentFilters msg chan rest

/-- `Notify`: the sends it makes, in iteration order, each as the channel and
    the message. -/
def Filters.notify (filters : Filters) (msg : WakuMessage) (requestId : GoString) :
    List (Nat × WakuMessage) :=
  filters.entries.flatMap fun (key, filter) =>
    if requestId ≠ [] ∧ requestId = key then [(filter.chan, msg)]
    else notifyContentFilters msg filter.chan filter.contentFilters

theorem notifyContentFilters_eq (msg : WakuMessage) (chan : Nat) (cfs : List ContentFilter) :
    notifyContentFilters msg chan cfs =
      if cfs.any (fun f => msg.contentTopic = f.contentTopic) then [(chan, msg)] else [] := by
  induction cfs with
  | nil => rfl
  | cons f rest ih =>
      by_cases hm : msg.contentTopic = f.contentTopic
      · simp [notifyContentFilters, hm]
      · simp [notifyContentFilters, hm, ih]

/-- A filter one of whose content filters names the message's content topic
    receives the message from every call of `Notify`, whatever the request
    id. -/
theorem mem_notify_of_contentTopic (filters : Filters) (msg : WakuMessage) (requestId : GoString)
    {key : GoString} {filter : Filter} (hf : (key, filter) ∈ filters.entries)
    (hm : filter.contentFilters.any fun f => msg.contentTopic = f.contentTopic) :
    (filter.chan, msg) ∈ filters.notify msg requestId := by
  refine List.mem_flatMap.mpr ⟨(key, filter), hf, ?_⟩
  dsimp only
  split_ifs
  · exact List.mem_singleton_self _
  · rw [notifyContentFilters_eq, if_pos hm]
    exact List.mem_singleton_self _

end FilterProtocol

end GoWaku
