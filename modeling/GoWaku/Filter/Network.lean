import GoWaku.Filter.Light
import Mathlib.Logic.Relation

/-!
# A Network of Filter Nodes

The filter protocol as the nodes run it together: every node is a
`WakuFilter` with its own host, a light node writes subscribe and unsubscribe
frames to a full node, a full node writes a push frame to each matching
subscriber of every message it relays, and each frame is read, whenever the
network gets to it, by the `onRequest` of the node it was written to.

`Network` holds each node's filter state and peerstore, the frames written and
not yet read, and, as records kept only for the proofs, every frame ever
written and every message each node's listener has relayed. `Step` has one
case per thing that can happen next: a node calls `Subscribe`, `Unsubscribe`
or `AddPeer`, a full node relays a message, or the network hands one frame in
flight, any one, to its reader or loses it. The host calls of the acting node
are answered from a fault script chosen at that step, and `Peers()` from an
order of the listed peers chosen there too, so a run meets any pattern of
failed lookups, dials and writes, any map order, and any order in which frames
arrive. The reader `onRequest` opens takes at most 64 KiB
(`protoio.NewDelimitedReader(s, 64*1024)`): a frame whose `Size()` is over
that is not read, and the node stays as it was (`readMsg`). The size is a
parameter of `Step`, since the generated `Size()` also counts message fields
the model leaves out; every result holds for every size function.

Each operation writes frames of one shape only (`subscribe_writesOnly`,
`unsubscribe_writesOnly`, `handle_writesOnly`), and reading a frame can only
add a subscriber or a handler call that the frame names
(`mem_onRequest_subscribers`, `mem_onRequest_handlerCalls`). From these,
`Invariant` holds in every reachable network: every frame written is a
subscribe request under a hex encoded id or the push of a message the writer
relayed to a matching subscriber, every subscriber a full node holds was asked
for by a frame from that peer, and every call of a node's `pushHandler` comes
from a push written to it. `handlerCalls_subscribed` puts the three together:
no node's handler is ever called with a message that the node it subscribed
at did not relay, or that its subscription does not take.
`sent_frames_solicited` is the same guarantee on the writer's side: a full
node writes a push only of a message it relayed, and only to a peer that asked
it for the message's filter, whether or not the push arrives.

## Main definitions

* `WritesOnly`: A host call wrote only frames of a given shape.
* `readMsg`: The 64 KiB reader of `onRequest`.
* `newWakuFilter`: `NewWakuFilter`.
* `Frame`, `Network`: Frames on the wire, and the whole network.
* `Network.callSubscribe`, `Network.relay`, `Network.read`, ...: One
  operation of a node, or of the wire.
* `Step`, `Reachable`: What can happen next, and what can happen from the start.
* `SubscribeFrame`, `Network.PushFrame`: The two shapes of frame.
* `Invariant`: Where every frame, subscriber and handler call came from.

## Theorems

* `subscribe_writesOnly`, `unsubscribe_writesOnly`: The frames a light node writes.
* `handle_writesOnly`: The frames the message handler writes.
* `mem_onRequest_subscribers`, `mem_onRequest_handlerCalls`: What reading one
  frame can add.
* `Network.read_node_of_size_gt`: A frame over the limit is not read.
* `invariant_step`: Every step keeps the invariant.
* `reachable_invariant`: Every reachable network satisfies it.
* `handlerCalls_subscribed`: No unsolicited push reaches a handler.
* `sent_frames_solicited`: No node writes an unsolicited push.
* `subscribers_grow_run`: No run removes a subscriber.
* `relay_pushes_to_recorded_subscriber`: A recorded subscription is served.
* `subscription_reaches_handler`: With nothing failing, a subscription brings
  a matching message to the subscriber's handler.
-/

namespace GoWaku

namespace FilterProtocol

open Pb

section Writes

/-- A host call wrote, on top of what the host held before, only frames
    satisfying `R`. -/
def WritesOnly (R : PeerID × FilterRPC → Prop) (h h' : Host) : Prop :=
  ∃ w, h'.written = h.written ++ w ∧ ∀ x ∈ w, R x

theorem WritesOnly.of_eq {R : PeerID × FilterRPC → Prop} {h h' : Host}
    (he : h'.written = h.written) : WritesOnly R h h' :=
  ⟨[], by simp [he], nofun⟩

theorem writesOnly_writeMsg (h : Host) (p : PeerID) (rpc : FilterRPC) :
    WritesOnly (· = (p, rpc)) h (h.writeMsg p rpc).2 := by
  unfold Host.writeMsg
  cases nextFault h.faults
  · exact ⟨[(p, rpc)], rfl, by simp⟩
  · exact .of_eq rfl

/-- `Subscribe` writes at most its own request, under the encoded id. -/
theorem subscribe_writesOnly (h : Host) (request : FilterRequest) (id : List UInt8)
    (peers : List PeerID) :
    WritesOnly (·.2 = ⟨hexEncodeToString id, some request, none⟩) h
      (subscribe h request id peers).2 := by
  have hs := selectPeer_written h peers
  unfold subscribe
  rcases hp : selectPeer h peers with ⟨_ | q, h₁⟩ <;> rw [hp] at hs <;> dsimp only
  · exact .of_eq hs
  · have hn₁ := Host.newStream_written h₁
    rcases hn : h₁.newStream with ⟨_ | err, h₂⟩ <;> rw [hn] at hn₁ <;> dsimp only at hn₁ hs ⊢
    · obtain ⟨w, hw, hR⟩ := writesOnly_writeMsg h₂ q ⟨hexEncodeToString id, some request, none⟩
      exact ⟨w, by rw [hw, hn₁, hs], fun x hx => by rw [hR x hx]⟩
    · exact .of_eq (hn₁.trans hs)

/-- `Unsubscribe` does to the host exactly what `Subscribe` does. -/
theorem unsubscribe_eq (h : Host) (request : FilterRequest) (id : List UInt8)
    (peers : List PeerID) : unsubscribe h request id peers = (subscribe h request id peers).2 := by
  unfold unsubscribe subscribe
  rcases selectPeer h peers with ⟨_ | q, h₁⟩ <;> dsimp only
  rcases h₁.newStream with ⟨_ | err, h₂⟩ <;> rfl

/-- `Unsubscribe` writes at most its request, under the encoded id. -/
theorem unsubscribe_writesOnly (h : Host) (request : FilterRequest) (id : List UInt8)
    (peers : List PeerID) :
    WritesOnly (·.2 = ⟨hexEncodeToString id, some request, none⟩) h
      (unsubscribe h request id peers) :=
  unsubscribe_eq h request id peers ▸ subscribe_writesOnly h request id peers

/-- `AddPeer` writes nothing. -/
theorem addPeer_written (h : Host) (p : PeerID) (addrs : List GoString) :
    (addPeer h p addrs).2.written = h.written := by
  unfold addPeer
  split_ifs <;> dsimp only <;> split <;> rfl

/-- The message handler writes only pushes of the message to subscribers
    whose filter matches it. -/
theorem handle_writesOnly (wf : WakuFilter) (env : Envelope) (h : Host) :
    WritesOnly (fun x => ∃ s ∈ wf.subscribers, subscriberMatches s env ∧
      x = (s.peer, pushRPC s env.message)) h (wf.handle env h).2 := by
  obtain ⟨w, hw, hp, -⟩ := pushToSubscribers_spec env.message env.pubsubTopic wf.subscribers h
  exact ⟨w, hw, fun x hx => (mem_pushSchedule env _ x).mp (hp.sublist.subset hx)⟩

end Writes

/-- Reading a frame leaves the node as it was, adds the subscriber a
    subscribe request asks for, or records a call of the push handler. -/
theorem mem_onRequest_subscribers (wf : WakuFilter) (remotePeer : PeerID) (rpc : FilterRPC)
    (s : Subscriber) :
    s ∈ (wf.onRequest remotePeer (.ok rpc)).subscribers ↔ s ∈ wf.subscribers ∨
      ∃ req, rpc.request = some req ∧ req.subscribe = true ∧
        s = ⟨remotePeer, rpc.requestId, req⟩ := by
  rcases rpc with ⟨rid, _ | req, _ | push⟩ <;> simp only [WakuFilter.onRequest]
  all_goals (try split_ifs) <;> simp [*]

theorem mem_onRequest_handlerCalls (wf : WakuFilter) (remotePeer : PeerID) (rpc : FilterRPC)
    (c : GoString × MessagePush) :
    c ∈ (wf.onRequest remotePeer (.ok rpc)).handlerCalls ↔ c ∈ wf.handlerCalls ∨
      rpc.request = none ∧ ∃ push, rpc.push = some push ∧ c = (rpc.requestId, push) := by
  rcases rpc with ⟨rid, _ | req, _ | push⟩ <;> simp only [WakuFilter.onRequest]
  all_goals (try split_ifs) <;> simp [*]

/-- `ReadMsg` of the reader `onRequest` opens,
    `protoio.NewDelimitedReader(s, 64*1024)`: the frame, unless the length it
    is prefixed with, its size, is over the limit, when the read fails with
    `io.ErrShortBuffer`. -/
def readMsg (msgSize : FilterRPC → Nat) (rpc : FilterRPC) : Except GoError FilterRPC :=
  if msgSize rpc ≤ 65536 then .ok rpc else .error ⟨"short buffer"⟩

/-- `onRequest` reads a frame within the limit, and leaves the node as it was
    for any other. -/
theorem onRequest_readMsg (wf : WakuFilter) (remotePeer : PeerID) (msgSize : FilterRPC → Nat)
    (rpc : FilterRPC) :
    wf.onRequest remotePeer (readMsg msgSize rpc) =
      if msgSize rpc ≤ 65536 then wf.onRequest remotePeer (.ok rpc) else wf := by
  unfold readMsg
  split_ifs <;> rfl

/-- `NewWakuFilter`: a node starts with no subscriber and no handler call.
    The stream handler it registers and the listener it starts are the
    network's `deliver` and `relay` steps. -/
def newWakuFilter : WakuFilter := ⟨[], []⟩

/-- A frame on the wire: the peer that wrote it, the peer it was written to,
    and the RPC. -/
structure Frame where
  src : PeerID
  dst : PeerID
  rpc : FilterRPC
deriving DecidableEq, Repr

/-- The frames a host call on `p` wrote, from a host that had written none. -/
def framesOf (p : PeerID) (h : Host) : List Frame :=
  h.written.map fun x => ⟨p, x.1, x.2⟩

theorem mem_framesOf {p : PeerID} {h : Host} {f : Frame} :
    f ∈ framesOf p h ↔ f.src = p ∧ (f.dst, f.rpc) ∈ h.written := by
  rcases f with ⟨src, dst, rpc⟩
  simp only [framesOf, List.mem_map, Frame.mk.injEq]
  constructor
  · rintro ⟨⟨d, r⟩, hm, rfl, rfl, rfl⟩
    exact ⟨rfl, hm⟩
  · rintro ⟨rfl, hm⟩
    exact ⟨_, hm, rfl, rfl, rfl⟩

/-- The whole network: each node's filter state and peerstore, the frames
    written and not yet read, every frame ever written, and every message a
    node's listener has relayed, with the node. -/
structure Network where
  node : PeerID → WakuFilter
  peerstore : PeerID → List PeerInfo
  inFlight : List Frame
  sent : List Frame
  relayed : List (PeerID × Envelope)

namespace Network

/-- The network before anything happened: every node just built, nothing on
    the wire. -/
def init (peerstore : PeerID → List PeerInfo) : Network :=
  ⟨fun _ => newWakuFilter, peerstore, [], [], []⟩

/-- The host of `p` for one call, answered from `faults`. -/
def host (N : Network) (p : PeerID) (faults : List (Option GoError)) : Host :=
  ⟨N.peerstore p, faults, []⟩

/-- A host call on `p` returned `h`: keep its peerstore, and put the frames it
    wrote on the wire. -/
def emit (N : Network) (p : PeerID) (h : Host) : Network :=
  { N with
    peerstore := fun x => if x = p then h.peerstore else N.peerstore x
    inFlight := N.inFlight ++ framesOf p h
    sent := N.sent ++ framesOf p h }

/-- The frame `f`, taken off the wire from between `before` and `after`, read
    by the `onRequest` of the node it was written to, through its 64 KiB
    reader. -/
def read (N : Network) (msgSize : FilterRPC → Nat) (f : Frame) (before after : List Frame) :
    Network :=
  { N with
    node := fun x =>
      if x = f.dst then (N.node f.dst).onRequest f.src (readMsg msgSize f.rpc) else N.node x
    inFlight := before ++ after }

/-- The frame between `before` and `after` lost on the wire. -/
def lose (N : Network) (before after : List Frame) : Network :=
  { N with inFlight := before ++ after }

/-- `p` calls `Subscribe`, `Peers()` listing `peers`. -/
def callSubscribe (N : Network) (p : PeerID) (request : FilterRequest) (id : List UInt8)
    (peers : List PeerID) (faults : List (Option GoError)) : Network :=
  N.emit p (subscribe (N.host p faults) request id peers).2

/-- `p` calls `Unsubscribe`, `Peers()` listing `peers`. -/
def callUnsubscribe (N : Network) (p : PeerID) (request : FilterRequest) (id : List UInt8)
    (peers : List PeerID) (faults : List (Option GoError)) : Network :=
  N.emit p (unsubscribe (N.host p faults) request id peers)

/-- `p` calls `AddPeer` for `q` with the addresses `addrs`. -/
def callAddPeer (N : Network) (p q : PeerID) (addrs : List GoString)
    (faults : List (Option GoError)) : Network :=
  N.emit p (addPeer (N.host p faults) q addrs).2

/-- `FilterListener` of `q` runs its handler on a message it relays; the
    record of relays keeps the message. -/
def relay (N : Network) (q : PeerID) (env : Envelope) (faults : List (Option GoError)) :
    Network :=
  emit { N with relayed := N.relayed ++ [(q, env)] } q ((N.node q).handle env (N.host q faults)).2

end Network

/-- What can happen next in the network, frames read through a reader that
    takes frames up to `msgSize` 64 KiB. -/
inductive Step (msgSize : FilterRPC → Nat) : Network → Network → Prop where
  | subscribeCall (N : Network) (p : PeerID) (request : FilterRequest) (id : List UInt8)
      (peers : List PeerID) (faults : List (Option GoError))
      (hpeers : peers.Perm (N.host p faults).listedPeers) :
      Step msgSize N (N.callSubscribe p request id peers faults)
  | unsubscribeCall (N : Network) (p : PeerID) (request : FilterRequest) (id : List UInt8)
      (peers : List PeerID) (faults : List (Option GoError))
      (hpeers : peers.Perm (N.host p faults).listedPeers) :
      Step msgSize N (N.callUnsubscribe p request id peers faults)
  | addPeerCall (N : Network) (p q : PeerID) (addrs : List GoString)
      (faults : List (Option GoError)) : Step msgSize N (N.callAddPeer p q addrs faults)
  | relay (N : Network) (q : PeerID) (env : Envelope) (faults : List (Option GoError)) :
      Step msgSize N (N.relay q env faults)
  | deliver (N : Network) (before after : List Frame) (f : Frame)
      (h : N.inFlight = before ++ f :: after) : Step msgSize N (N.read msgSize f before after)
  | lose (N : Network) (before after : List Frame) (f : Frame)
      (h : N.inFlight = before ++ f :: after) : Step msgSize N (N.lose before after)

/-- The networks a run from the initial one can reach. -/
inductive Reachable (msgSize : FilterRPC → Nat) (peerstore : PeerID → List PeerInfo) :
    Network → Prop where
  | init : Reachable msgSize peerstore (Network.init peerstore)
  | step {N N' : Network} : Reachable msgSize peerstore N → Step msgSize N N' →
      Reachable msgSize peerstore N'

/-- A frame as `Subscribe` and `Unsubscribe` write it: a request under a hex
    encoded id, with no push. -/
def SubscribeFrame (f : Frame) : Prop :=
  ∃ id req, f.rpc = ⟨hexEncodeToString id, some req, none⟩

/-- A frame as the message handler of `f.src` writes it: the push of a message
    `f.src` relayed to one of its subscribers whose filter takes the message. -/
def Network.PushFrame (N : Network) (f : Frame) : Prop :=
  ∃ s ∈ (N.node f.src).subscribers, ∃ env : Envelope, (f.src, env) ∈ N.relayed ∧
    subscriberMatches s env ∧ f.dst = s.peer ∧ f.rpc = pushRPC s env.message

/-- Where everything in the network came from. -/
structure Invariant (N : Network) : Prop where
  inFlight_sent : ∀ f ∈ N.inFlight, f ∈ N.sent
  sent_frame : ∀ f ∈ N.sent, SubscribeFrame f ∨ N.PushFrame f
  subscriber_sent : ∀ q, ∀ s ∈ (N.node q).subscribers, s.filter.subscribe = true ∧
    ∃ f ∈ N.sent, f.src = s.peer ∧ f.dst = q ∧ f.rpc.requestId = s.requestId ∧
      f.rpc.request = some s.filter
  handler_sent : ∀ p, ∀ c ∈ (N.node p).handlerCalls, ∃ f ∈ N.sent, f.dst = p ∧
    f.rpc.request = none ∧ f.rpc.requestId = c.1 ∧ f.rpc.push = some c.2

theorem invariant_init (peerstore : PeerID → List PeerInfo) :
    Invariant (Network.init peerstore) :=
  ⟨nofun, nofun, fun _ _ => nofun, fun _ _ => nofun⟩

/-- Recording a relay keeps the invariant: the record only grows. -/
theorem Invariant.recordRelay {N : Network} (hN : Invariant N) (q : PeerID) (env : Envelope) :
    Invariant { N with relayed := N.relayed ++ [(q, env)] } :=
  ⟨hN.inFlight_sent, fun f hf => (hN.sent_frame f hf).imp id fun ⟨s, hs, e, he, rest⟩ =>
    ⟨s, hs, e, List.mem_append_left _ he, rest⟩, hN.subscriber_sent, hN.handler_sent⟩

/-- A host call on `p` that writes only frames `Subscribe` writes, or pushes
    of `p`'s message handler, keeps the invariant. -/
theorem Invariant.emit {N : Network} (hN : Invariant N) {p : PeerID}
    {faults : List (Option GoError)} {h : Host} {R : PeerID × FilterRPC → Prop}
    (hw : WritesOnly R (N.host p faults) h)
    (hR : ∀ x, R x → SubscribeFrame ⟨p, x.1, x.2⟩ ∨ N.PushFrame ⟨p, x.1, x.2⟩) :
    Invariant (N.emit p h) := by
  obtain ⟨w, hw, hRw⟩ := hw
  refine ⟨fun f hf => ?_, fun f hf => ?_, fun q s hs => ?_, fun q c hc => ?_⟩
  · rcases List.mem_append.mp hf with hf | hf
    exacts [List.mem_append_left _ (hN.inFlight_sent f hf), List.mem_append_right _ hf]
  · rcases List.mem_append.mp hf with hf | hf
    · exact hN.sent_frame f hf
    · obtain ⟨rfl, hm⟩ := mem_framesOf.mp hf
      rw [hw] at hm
      exact hR _ (hRw _ hm)
  · obtain ⟨hsub, f, hf, rest⟩ := hN.subscriber_sent q s hs
    exact ⟨hsub, f, List.mem_append_left _ hf, rest⟩
  · obtain ⟨f, hf, rest⟩ := hN.handler_sent q c hc
    exact ⟨f, List.mem_append_left _ hf, rest⟩

theorem Network.read_node (N : Network) (msgSize : FilterRPC → Nat) (f : Frame)
    (before after : List Frame) (x : PeerID) :
    (N.read msgSize f before after).node x =
      if x = f.dst then (N.node f.dst).onRequest f.src (readMsg msgSize f.rpc) else N.node x := rfl

/-- A frame over the reader's limit is taken off the wire unread: no node
    changes. -/
theorem Network.read_node_of_size_gt (N : Network) {msgSize : FilterRPC → Nat} {f : Frame}
    (hf : 65536 < msgSize f.rpc) (before after : List Frame) :
    (N.read msgSize f before after).node = N.node := by
  funext x
  rw [Network.read_node, onRequest_readMsg, if_neg (show ¬msgSize f.rpc ≤ 65536 by omega)]
  split_ifs with hx
  · rw [hx]
  · rfl

/-- What a read does to a node: nothing, or, at the frame's recipient,
    `onRequest` of the frame as read. -/
theorem Network.read_node_cases (N : Network) (msgSize : FilterRPC → Nat) (f : Frame)
    (before after : List Frame) (x : PeerID) :
    (N.read msgSize f before after).node x = N.node x ∨
      x = f.dst ∧ (N.read msgSize f before after).node x = (N.node x).onRequest f.src (.ok f.rpc) := by
  rw [Network.read_node, onRequest_readMsg]
  split_ifs with hx
  · exact .inr ⟨hx, by rw [hx]⟩
  · exact .inl (by rw [hx])
  · exact .inl rfl

/-- `onRequest` never removes a subscriber. -/
theorem onRequest_subscribers_grow (wf : WakuFilter) (remotePeer : PeerID)
    (read : Except GoError FilterRPC) :
    wf.subscribers <+: (wf.onRequest remotePeer read).subscribers := by
  rcases read with _ | ⟨rid, _ | req, _ | push⟩ <;> simp only [WakuFilter.onRequest]
  all_goals (try split_ifs) <;> simp

/-- Reading a frame only adds subscribers. -/
theorem Network.subscribers_grow_read (N : Network) (msgSize : FilterRPC → Nat) (f : Frame)
    (before after : List Frame) (x : PeerID) :
    (N.node x).subscribers <+: ((N.read msgSize f before after).node x).subscribers := by
  rw [Network.read_node]
  split_ifs with hx
  · exact hx ▸ onRequest_subscribers_grow _ _ _
  · exact List.prefix_refl _

/-- Reading a frame taken off the wire keeps the invariant: a new subscriber
    or handler call comes from that frame, which was sent. -/
theorem Invariant.read {N : Network} (hN : Invariant N) {msgSize : FilterRPC → Nat}
    {before after : List Frame} {f : Frame} (hf : N.inFlight = before ++ f :: after) :
    Invariant (N.read msgSize f before after) := by
  have hfs : f ∈ N.sent := hN.inFlight_sent f (by simp [hf])
  refine ⟨fun g hg => hN.inFlight_sent g ?_, fun g hg => ?_, fun q s hs => ?_,
    fun q c hc => ?_⟩
  · simp only [Network.read, List.mem_append] at hg
    simp only [hf, List.mem_append, List.mem_cons]
    tauto
  · refine (hN.sent_frame g hg).imp id fun ⟨s, hs, rest⟩ => ?_
    exact ⟨s, (N.subscribers_grow_read msgSize f before after _).subset hs, rest⟩
  · rcases N.read_node_cases msgSize f before after q with hq | ⟨rfl, hq⟩ <;> rw [hq] at hs
    · exact hN.subscriber_sent q s hs
    · rcases (mem_onRequest_subscribers _ _ _ s).mp hs with hs | ⟨req, hreq, hsub, rfl⟩
      · exact hN.subscriber_sent _ s hs
      · exact ⟨hsub, f, hfs, rfl, rfl, rfl, hreq⟩
  · rcases N.read_node_cases msgSize f before after q with hq | ⟨rfl, hq⟩ <;> rw [hq] at hc
    · exact hN.handler_sent q c hc
    · rcases (mem_onRequest_handlerCalls _ _ _ c).mp hc with hc | ⟨hreq, push, hpush, rfl⟩
      · exact hN.handler_sent _ c hc
      · exact ⟨f, hfs, rfl, hreq, rfl, hpush⟩

/-- Every step keeps the invariant. -/
theorem invariant_step {msgSize : FilterRPC → Nat} {N N' : Network} (hN : Invariant N)
    (step : Step msgSize N N') : Invariant N' := by
  cases step with
  | subscribeCall p request id peers faults =>
    exact hN.emit (subscribe_writesOnly _ request id peers) fun _ hx => .inl ⟨id, request, hx⟩
  | unsubscribeCall p request id peers faults =>
    exact hN.emit (unsubscribe_writesOnly _ request id peers) fun _ hx => .inl ⟨id, request, hx⟩
  | addPeerCall p q addrs faults =>
    exact hN.emit (R := fun _ => False) (.of_eq (addPeer_written _ q addrs)) fun _ hx => hx.elim
  | relay q env faults =>
    -- The message goes on the record of relays before the handler writes.
    refine (hN.recordRelay q env).emit (handle_writesOnly _ env _) fun x ⟨s, hs, hm, hx⟩ => .inr ?_
    exact ⟨s, hs, env, List.mem_append_right _ (List.mem_singleton_self _), hm,
      congrArg Prod.fst hx, congrArg Prod.snd hx⟩
  | deliver before after f hf => exact hN.read hf
  | lose before after f hf =>
    refine ⟨fun g hg => hN.inFlight_sent g ?_, hN.sent_frame, hN.subscriber_sent, hN.handler_sent⟩
    simp only [Network.lose, List.mem_append] at hg
    simp only [hf, List.mem_append, List.mem_cons]
    tauto

/-- Every network a run reaches satisfies the invariant. -/
theorem reachable_invariant {msgSize : FilterRPC → Nat} {peerstore : PeerID → List PeerInfo}
    {N : Network} (hr : Reachable msgSize peerstore N) : Invariant N := by
  induction hr with
  | init => exact invariant_init peerstore
  | step _ step ih => exact invariant_step ih step

/-- A subscriber of `q` asked for its subscription: it wrote `q` a
    subscribe request under a hex encoded id, with the filter `q` keeps. -/
theorem Invariant.subscriber_frame {N : Network} (hN : Invariant N) {q : PeerID}
    {s : Subscriber} (hs : s ∈ (N.node q).subscribers) :
    s.filter.subscribe = true ∧ ∃ id, s.requestId = hexEncodeToString id ∧
      (⟨s.peer, q, ⟨s.requestId, some s.filter, none⟩⟩ : Frame) ∈ N.sent := by
  obtain ⟨hsub, ⟨src, dst, rpc⟩, hf, hsrc, hdst, hrid, hreq⟩ := hN.subscriber_sent q s hs
  refine ⟨hsub, ?_⟩
  rcases hN.sent_frame _ hf with ⟨id, req, hrpc⟩ | ⟨_, _, _, _, _, hrpc⟩
  · dsimp only at hrpc hsrc hdst hrid hreq
    subst hrpc hsrc hdst
    cases hreq
    exact ⟨id, hrid.symm, hrid ▸ hf⟩
  · dsimp only at hrpc hreq
    simp [hrpc, pushRPC] at hreq

/-- A handler call of `p` is a push of a message relayed by a node that keeps
    a subscriber for `p` whose filter takes the message. -/
theorem Invariant.handlerCall_push {N : Network} (hN : Invariant N) {p : PeerID}
    {c : GoString × MessagePush} (hc : c ∈ (N.node p).handlerCalls) :
    ∃ q, ∃ s ∈ (N.node q).subscribers, ∃ env : Envelope, (q, env) ∈ N.relayed ∧ s.peer = p ∧
      subscriberMatches s env ∧ c = (s.requestId, ⟨[env.message]⟩) := by
  obtain ⟨f, hf, hdst, hreq, hrid, hpush⟩ := hN.handler_sent p c hc
  rcases hN.sent_frame f hf with ⟨_, _, hrpc⟩ | ⟨s, hs, env, hrel, hm, hds, hrpc⟩
  · simp [hrpc] at hreq
  · rw [hrpc] at hrid hpush
    exact ⟨f.src, s, hs, env, hrel, hds ▸ hdst, hm,
      Prod.ext hrid.symm (Option.some_inj.mp hpush).symm⟩

/-- No unsolicited push, across every interleaving of calls, relays,
    deliveries and losses: whatever `p`'s push handler has been called with
    is a message relayed by a node `q` that `p` sent a subscribe request to,
    under the hex encoding of an id, whose filter takes the message, and `q`
    still keeps that subscription. -/
theorem handlerCalls_subscribed {msgSize : FilterRPC → Nat} {peerstore : PeerID → List PeerInfo}
    {N : Network} (hr : Reachable msgSize peerstore N) {p : PeerID} {c : GoString × MessagePush}
    (hc : c ∈ (N.node p).handlerCalls) :
    ∃ q id req env, (q, env) ∈ N.relayed ∧
      (⟨p, q, ⟨hexEncodeToString id, some req, none⟩⟩ : Frame) ∈ N.sent ∧
      req.subscribe = true ∧ (⟨p, hexEncodeToString id, req⟩ : Subscriber) ∈ (N.node q).subscribers ∧
      subscriberMatches ⟨p, hexEncodeToString id, req⟩ env ∧
      c = (hexEncodeToString id, ⟨[env.message]⟩) := by
  have hN := reachable_invariant hr
  obtain ⟨q, ⟨peer, rid, req⟩, hs, env, hrel, rfl, hm, rfl⟩ := hN.handlerCall_push hc
  obtain ⟨hsub, id, rfl, hf⟩ := hN.subscriber_frame hs
  exact ⟨q, id, req, env, hrel, hf, hsub, hs, hm, rfl⟩

/-- A light node `[1]` subscribes to the full node `[2]`, which reads the
    request and relays a message the filter takes; `[1]` then reads the push.
    Frames are sized as `FilterRPC.size` counts them. -/
theorem reachable_subscribe_relay :
    Reachable FilterRPC.size (fun _ => [⟨[2], [wakuFilterCodec], true⟩])
      (((((Network.init fun _ => [⟨[2], [wakuFilterCodec], true⟩]).callSubscribe [1]
        ⟨true, [], [⟨[9]⟩]⟩ [5] [[2]] []).read FilterRPC.size
        ⟨[1], [2], ⟨hexEncodeToString [5], some ⟨true, [], [⟨[9]⟩]⟩, none⟩⟩ [] []).relay
        [2] ⟨⟨[], [9], none⟩, [7]⟩ []).read FilterRPC.size
        ⟨[2], [1], pushRPC ⟨[1], hexEncodeToString [5], ⟨true, [], [⟨[9]⟩]⟩⟩ ⟨[], [9], none⟩⟩
        [] []) :=
  .step (.step (.step (.step .init (.subscribeCall _ _ _ _ _ _ (by decide)))
    (.deliver _ [] [] _ (by decide))) (.relay _ _ _ _)) (.deliver _ [] [] _ (by decide))

/-- The push reaches the light node's handler. -/
theorem handlerCalls_subscribed_one_push :
    ∃ N, Reachable FilterRPC.size (fun _ => [⟨[2], [wakuFilterCodec], true⟩]) N ∧
      ((hexEncodeToString [5], ⟨[⟨[], [9], none⟩]⟩) : GoString × MessagePush) ∈
        (N.node [1]).handlerCalls ∧
      ∃ q id req env, (q, env) ∈ N.relayed ∧
        (⟨[1], q, ⟨hexEncodeToString id, some req, none⟩⟩ : Frame) ∈ N.sent ∧
        req.subscribe = true ∧
        (⟨[1], hexEncodeToString id, req⟩ : Subscriber) ∈ (N.node q).subscribers ∧
        subscriberMatches ⟨[1], hexEncodeToString id, req⟩ env ∧
        ((hexEncodeToString [5], ⟨[⟨[], [9], none⟩]⟩) : GoString × MessagePush) =
          (hexEncodeToString id, ⟨[env.message]⟩) :=
  ⟨_, reachable_subscribe_relay, by decide,
    handlerCalls_subscribed reachable_subscribe_relay (by decide)⟩

/-- No unsolicited frame on the wire, across every interleaving: every frame
    a node has written is a subscribe or unsubscribe request under a hex
    encoded id, or the push of a message the writer relayed, to a peer that
    sent it a subscribe request under the push's id, with a filter that takes
    the message. -/
theorem sent_frames_solicited {msgSize : FilterRPC → Nat} {peerstore : PeerID → List PeerInfo}
    {N : Network} (hr : Reachable msgSize peerstore N) {f : Frame} (hf : f ∈ N.sent) :
    SubscribeFrame f ∨ ∃ id req env, (f.src, env) ∈ N.relayed ∧
      (⟨f.dst, f.src, ⟨hexEncodeToString id, some req, none⟩⟩ : Frame) ∈ N.sent ∧
      req.subscribe = true ∧ subscriberMatches ⟨f.dst, hexEncodeToString id, req⟩ env ∧
      f.rpc = pushRPC ⟨f.dst, hexEncodeToString id, req⟩ env.message := by
  have hN := reachable_invariant hr
  rcases hN.sent_frame f hf with hs | ⟨⟨peer, rid, req⟩, hs, env, hrel, hm, rfl, hrpc⟩
  · exact .inl hs
  · obtain ⟨hsub, id, rfl, hf'⟩ := hN.subscriber_frame hs
    exact .inr ⟨id, req, env, hrel, hf', hsub, hm, hrpc⟩

/-- The push the full node wrote in that run is solicited. -/
theorem sent_frames_solicited_one_push :
    ∃ N, Reachable FilterRPC.size (fun _ => [⟨[2], [wakuFilterCodec], true⟩]) N ∧
      (⟨[2], [1], pushRPC ⟨[1], hexEncodeToString [5], ⟨true, [], [⟨[9]⟩]⟩⟩ ⟨[], [9], none⟩⟩ :
        Frame) ∈ N.sent ∧
      (SubscribeFrame
          ⟨[2], [1], pushRPC ⟨[1], hexEncodeToString [5], ⟨true, [], [⟨[9]⟩]⟩⟩ ⟨[], [9], none⟩⟩ ∨
        ∃ id req env, ([2], env) ∈ N.relayed ∧
          (⟨[1], [2], ⟨hexEncodeToString id, some req, none⟩⟩ : Frame) ∈ N.sent ∧
          req.subscribe = true ∧ subscriberMatches ⟨[1], hexEncodeToString id, req⟩ env ∧
          pushRPC ⟨[1], hexEncodeToString [5], ⟨true, [], [⟨[9]⟩]⟩⟩ ⟨[], [9], none⟩ =
            pushRPC ⟨[1], hexEncodeToString id, req⟩ env.message) :=
  ⟨_, reachable_subscribe_relay, by decide,
    sent_frames_solicited reachable_subscribe_relay (by decide)⟩

/-- No step removes a subscriber: a full node's list only grows. -/
theorem Step.subscribers_grow {msgSize : FilterRPC → Nat} {N N' : Network}
    (step : Step msgSize N N') (x : PeerID) :
    (N.node x).subscribers <+: (N'.node x).subscribers := by
  cases step with
  | deliver before after f => exact N.subscribers_grow_read msgSize f before after x
  | _ => exact List.prefix_refl _

theorem subscribers_grow_run {msgSize : FilterRPC → Nat} {N N' : Network}
    (hrun : Relation.ReflTransGen (Step msgSize) N N') (x : PeerID) :
    (N.node x).subscribers <+: (N'.node x).subscribers := by
  induction hrun with
  | refl => exact List.prefix_refl _
  | tail _ step ih => exact ih.trans (step.subscribers_grow x)

/-- A relay that fails no call puts on the wire a push to each subscriber
    whose filter takes the message. -/
theorem Network.push_mem_relay {N : Network} {q : PeerID} {s : Subscriber} {env : Envelope}
    {faults : List (Option GoError)} (hs : s ∈ (N.node q).subscribers)
    (hm : subscriberMatches s env) (hf : NoFaults faults) :
    (⟨q, s.peer, pushRPC s env.message⟩ : Frame) ∈ (N.relay q env faults).inFlight := by
  obtain ⟨w, hw, -, hall⟩ := pushToSubscribers_spec env.message env.pubsubTopic
    (N.node q).subscribers (N.host q faults)
  refine List.mem_append_right _ (mem_framesOf.mpr ⟨rfl, ?_⟩)
  rw [WakuFilter.handle, hw, (hall hf).1]
  exact List.mem_append_right _ ((mem_pushSchedule env _ _).mpr ⟨s, hs, hm, rfl⟩)

/-- A subscription, once a full node has recorded it, is served for good:
    after any run, `Unsubscribe` calls and their deliveries included, a relay
    of a message its filter takes, with no call failing, puts a push to the
    subscriber on the wire. -/
theorem relay_pushes_to_recorded_subscriber {msgSize : FilterRPC → Nat} {N N' : Network}
    (hrun : Relation.ReflTransGen (Step msgSize) N N') {q : PeerID} {s : Subscriber}
    {env : Envelope} {faults : List (Option GoError)} (hs : s ∈ (N.node q).subscribers)
    (hm : subscriberMatches s env) (hf : NoFaults faults) :
    (⟨q, s.peer, pushRPC s env.message⟩ : Frame) ∈ (N'.relay q env faults).inFlight :=
  Network.push_mem_relay ((subscribers_grow_run hrun q).subset hs) hm hf

/-- The subscription survives an `Unsubscribe` sent for it and read by the
    full node. -/
theorem relay_pushes_to_recorded_subscriber_after_unsubscribe :
    ∃ N N', Relation.ReflTransGen (Step FilterRPC.size) N N' ∧
      (⟨[1], hexEncodeToString [5], ⟨true, [], [⟨[9]⟩]⟩⟩ : Subscriber) ∈ (N.node [2]).subscribers ∧
      subscriberMatches ⟨[1], hexEncodeToString [5], ⟨true, [], [⟨[9]⟩]⟩⟩ ⟨⟨[], [9], none⟩, [7]⟩ ∧
      NoFaults [] ∧
      (⟨[2], [1], pushRPC ⟨[1], hexEncodeToString [5], ⟨true, [], [⟨[9]⟩]⟩⟩ ⟨[], [9], none⟩⟩ :
        Frame) ∈ (N'.relay [2] ⟨⟨[], [9], none⟩, [7]⟩ []).inFlight := by
  have hrun : Relation.ReflTransGen (Step FilterRPC.size)
      (((Network.init fun _ => [⟨[2], [wakuFilterCodec], true⟩]).callSubscribe [1]
        ⟨true, [], [⟨[9]⟩]⟩ [5] [[2]] []).read FilterRPC.size
        ⟨[1], [2], ⟨hexEncodeToString [5], some ⟨true, [], [⟨[9]⟩]⟩, none⟩⟩ [] []) _ :=
    .tail (.single (.unsubscribeCall _ [1] ⟨false, [], [⟨[9]⟩]⟩ [5] [[2]] [] (by decide)))
      (.deliver _ [] [] ⟨[1], [2], ⟨hexEncodeToString [5], some ⟨false, [], [⟨[9]⟩]⟩, none⟩⟩
        (by decide))
  exact ⟨_, _, hrun, by decide, rfl, .nil, @relay_pushes_to_recorded_subscriber _ _ _ hrun [2]
    ⟨[1], hexEncodeToString [5], ⟨true, [], [⟨[9]⟩]⟩⟩ ⟨⟨[], [9], none⟩, [7]⟩ [] (by decide) rfl .nil⟩

/-- The protocol delivers: from any network, a light node `p` whose
    peerstore lists a filter peer `q` can subscribe there, and four steps in
    which nothing fails (the call, with `Peers()` giving `q` first, the
    delivery of the request, a relay at `q` of a message the filter takes, the
    delivery of the push) bring the message to `p`'s push handler, under the
    hex encoded id, provided the request and the push each fit the 64 KiB
    reader. -/
theorem subscription_reaches_handler {msgSize : FilterRPC → Nat} (N : Network) (p : PeerID)
    {q : PeerID} (hq : q ∈ (N.host p []).listedPeers)
    (hqp : wakuFilterCodec ∈ (N.host p []).protocolsOf q)
    {request : FilterRequest} (hsub : request.subscribe = true) (id : List UInt8)
    {env : Envelope} (hm : subscriberMatches ⟨p, hexEncodeToString id, request⟩ env)
    (hreq : msgSize ⟨hexEncodeToString id, some request, none⟩ ≤ 65536)
    (hpush : msgSize (pushRPC ⟨p, hexEncodeToString id, request⟩ env.message) ≤ 65536) :
    ∃ N', Relation.ReflTransGen (Step msgSize) N N' ∧
      (hexEncodeToString id, ⟨[env.message]⟩) ∈ (N'.node p).handlerCalls := by
  -- `Peers()` may list `q` first, and then the request goes to `q`.
  obtain ⟨s, t, hst⟩ := List.append_of_mem hq
  have hperm : (q :: (s ++ t)).Perm (N.host p []).listedPeers := hst ▸ List.perm_middle.symm
  have hsel : (selectPeer (N.host p []) (q :: (s ++ t))).1 = some q := by
    rw [(selectPeer_of_noFaults (h := N.host p []) NoFaults.nil _).1]
    simp [hqp]
  have hw := subscribe_written_of_noFaults NoFaults.nil hsel request id
  have h₁ : (N.callSubscribe p request id (q :: (s ++ t)) []).inFlight =
      N.inFlight ++ [⟨p, q, ⟨hexEncodeToString id, some request, none⟩⟩] := by
    simp only [Network.callSubscribe, Network.emit, framesOf, hw]
    rfl
  -- Once it reads the request, the full node holds the subscriber.
  have hs : (⟨p, hexEncodeToString id, request⟩ : Subscriber) ∈
      (((N.callSubscribe p request id (q :: (s ++ t)) []).read msgSize
        ⟨p, q, ⟨hexEncodeToString id, some request, none⟩⟩ N.inFlight []).node q).subscribers := by
    rw [Network.read_node, if_pos rfl, onRequest_readMsg, if_pos hreq]
    exact (mem_onRequest_subscribers _ _ _ _).mpr (.inr ⟨request, rfl, hsub, rfl⟩)
  -- Its relay puts the push on the wire, and `p` reads it.
  obtain ⟨before, after, hsplit⟩ := List.append_of_mem (Network.push_mem_relay hs hm NoFaults.nil)
  refine ⟨_, .tail (.tail (.tail (.single (.subscribeCall N p request id _ [] hperm))
    (.deliver _ N.inFlight [] _ h₁)) (.relay _ q env [])) (.deliver _ before after _ hsplit), ?_⟩
  rw [Network.read_node, if_pos rfl, onRequest_readMsg, if_pos hpush]
  exact (mem_onRequest_handlerCalls _ _ _ _).mpr (.inr ⟨rfl, _, rfl, rfl⟩)

theorem subscription_reaches_handler_from_start :
    [2] ∈ ((Network.init fun _ => [⟨[2], [wakuFilterCodec], true⟩]).host [1] []).listedPeers ∧
      wakuFilterCodec ∈ ((Network.init fun _ => [⟨[2], [wakuFilterCodec], true⟩]).host [1] []).protocolsOf [2] ∧
      (⟨true, [], [⟨[9]⟩]⟩ : FilterRequest).subscribe = true ∧
      subscriberMatches ⟨[1], hexEncodeToString [5], ⟨true, [], [⟨[9]⟩]⟩⟩ ⟨⟨[], [9], none⟩, [7]⟩ ∧
      FilterRPC.size ⟨hexEncodeToString [5], some ⟨true, [], [⟨[9]⟩]⟩, none⟩ ≤ 65536 ∧
      FilterRPC.size (pushRPC ⟨[1], hexEncodeToString [5], ⟨true, [], [⟨[9]⟩]⟩⟩ ⟨[], [9], none⟩) ≤ 65536 ∧
      ∃ N', Relation.ReflTransGen (Step FilterRPC.size)
          (Network.init fun _ => [⟨[2], [wakuFilterCodec], true⟩]) N' ∧
        (hexEncodeToString [5], ⟨[⟨[], [9], none⟩]⟩) ∈ (N'.node [1]).handlerCalls :=
  ⟨by decide, by decide, rfl, by decide, by decide, by decide,
    @subscription_reaches_handler FilterRPC.size _ [1] [2] (by decide) (by decide)
      ⟨true, [], [⟨[9]⟩]⟩ rfl [5] ⟨⟨[], [9], none⟩, [7]⟩ (by decide) (by decide) (by decide)⟩

end FilterProtocol

end GoWaku
