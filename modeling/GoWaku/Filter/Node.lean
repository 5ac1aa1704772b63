import GoWaku.Pb

/-!
# The Filter Protocol Node

`WakuFilter` from the `filter` package: the same node type plays both roles of
the protocol. A light node subscribes (`Subscribe`) and is pushed messages,
which reach its `pushHandler`; a full node records subscribers as their
requests arrive (`onRequest`) and pushes every message it relays to the ones
whose filters match it (`FilterListener`).

The libp2p host is the node's one external collaborator. It is kept as its
peerstore, the fault script its calls are answered from, and the log of the
frames written to streams. Each `SupportsProtocols`, `NewStream` and
`WriteMsg` call reads the next entry of the script, so a run meets any pattern
of peerstore, dial and write failures the script spells out; a frame is
logged only when its write succeeds.

The message handler of `FilterListener` is two nested loops, over subscribers
and over each subscriber's content filters, and it can `return` from inside
the inner one. The inner loop is `pushToSubscriber`, whose `.error r` result
is such a `return r`; the outer loop is `pushToSubscribers`. Go's `continue`
and the fall-through at the end of a loop body are the recursive calls.

The pushes the handler would write if no call failed are `pushSchedule`:
subscriber by subscriber, one push per content filter naming the message's
content topic, each a dial and a write. What the handler does on any script is
then fixed by where the script first fails: when none of those calls fails it
writes the whole schedule (`pushToSubscribers_of_noFaults_take`), and when the
`n`-th does it has written the first `n / 2` pushes and returns right there,
making no further call (`pushToSubscribers_of_failsAt`).

## Main definitions

* `Host`: The libp2p host, as the filter code sees it.
* `Host.listedPeers`: The peers `Peers()` lists.
* `Subscriber`, `Envelope`: A full node's subscriber, and a relayed message.
* `WakuFilter`: The node's state.
* `WakuFilter.onRequest`: Reading one frame from a stream.
* `pushToSubscriber`, `pushToSubscribers`: The loops of the message handler.
* `WakuFilter.handle`: The handler `FilterListener` runs per message.
* `WakuFilter.filterListener`: The listener loop.
* `pushSchedule`: The pushes the handler writes when nothing fails.
* `subscriberMatches`: A subscriber's filter takes a relayed message.

## Theorems

* `pushToSubscribers_of_noFaults_take`, `pushToSubscribers_of_failsAt`: What
  the handler does, by where the host's script first fails.
* `pushToSubscribers_spec`: The handler writes a prefix of the push schedule,
  all of it when nothing fails.
* `mem_pushSchedule`: The schedule holds the pushes to matching subscribers.
-/

namespace GoWaku

namespace FilterProtocol

open Pb

/-- A libp2p peer id, as the string `string(peer.ID)` gives. -/
abbrev PeerID := GoString

/-- `WakuFilterCodec`, the protocol id the filter streams are opened under. -/
def wakuFilterCodec : String := "/vac/waku/filter/2.0.0-beta1"

/-- A peerstore entry: a peer, the protocols it is known to support, and
    whether the peerstore holds a key or an address for it, which is what
    `Peers()` lists a peer for. -/
structure PeerInfo where
  id : PeerID
  protocols : List String
  listed : Bool
deriving DecidableEq, Repr

/-- The libp2p host, as the filter code uses it: the peerstore, the fault
    script its calls are answered from, and the frames written so far, with
    the peer each went to. -/
structure Host where
  peerstore : List PeerInfo
  faults : List (Option GoError)
  written : List (PeerID × FilterRPC)
deriving DecidableEq, Repr

namespace Host

/-- The protocols the peerstore records for a peer; none for a peer it does
    not know. -/
def protocolsOf (h : Host) (p : PeerID) : List String :=
  ((h.peerstore.find? (·.id = p)).map (·.protocols)).getD []

/-- The peers `Peerstore().Peers()` lists: those with a key or an address.
    It lists them as a Go map's keys, in an order of the runtime's choosing. -/
def listedPeers (h : Host) : List PeerID :=
  (h.peerstore.filter (·.listed)).map (·.id)

/-- `Peerstore().SupportsProtocols(p, proto)`: the protocols of the query the
    peer supports, unless the lookup fails. -/
def supportsProtocols (h : Host) (p : PeerID) (proto : String) :
    Except GoError (List String) × Host :=
  match nextFault h.faults with
  | some err => (.error err, { h with faults := h.faults.tail })
  | none => (.ok ((h.protocolsOf p).filter (· = proto)), { h with faults := h.faults.tail })

/-- `NewStream(ctx, p, WakuFilterProtocolId)`: `nil` when the dial succeeds. -/
def newStream (h : Host) : Option GoError × Host :=
  (nextFault h.faults, { h with faults := h.faults.tail })

/-- `WriteMsg` on a stream to `p`: the frame is logged if the write succeeds. -/
def writeMsg (h : Host) (p : PeerID) (rpc : FilterRPC) : Option GoError × Host :=
  match nextFault h.faults with
  | some err => (some err, { h with faults := h.faults.tail })
  | none => (none, { h with faults := h.faults.tail, written := h.written ++ [(p, rpc)] })

@[simp] theorem newStream_written (h : Host) : h.newStream.2.written = h.written := rfl

@[simp] theorem newStream_faults (h : Host) : h.newStream.2.faults = h.faults.tail := rfl

end Host

/-- A full node's record of a subscription. -/
structure Subscriber where
  peer : PeerID
  requestId : GoString
  filter : FilterRequest
deriving DecidableEq, Repr

/-- `protocol.Envelope`: a relayed message and the pubsub topic it came on. -/
structure Envelope where
  message : WakuMessage
  pubsubTopic : GoString
deriving DecidableEq, Repr

/-- The node's state: its subscribers (full node role) and the calls made to
    its `pushHandler` so far (light node role), oldest first. -/
structure WakuFilter where
  subscribers : List Subscriber
  handlerCalls : List (GoString × MessagePush)
deriving DecidableEq, Repr

namespace WakuFilter

/-- `onRequest`: one frame read from a stream opened by `remotePeer`. A
    subscribe request appends a subscriber; an unsubscribe request does
    nothing yet; a push is handed to the `pushHandler`. A frame that cannot be
    read is dropped. -/
def onRequest (wf : WakuFilter) (remotePeer : PeerID) (read : Except GoError FilterRPC) :
    WakuFilter :=
  match read with
  | .error _ => wf
  | .ok filterRPCRequest =>
    match filterRPCRequest.request, filterRPCRequest.push with
    | some request, _ =>
      if request.subscribe then
        { wf with subscribers := wf.subscribers ++
            [⟨remotePeer, filterRPCRequest.requestId, request⟩] }
      else wf
    | none, some push =>
      { wf with handlerCalls := wf.handlerCalls ++ [(filterRPCRequest.requestId, push)] }
    | none, none => wf

end WakuFilter

/-- The push a full node sends a subscriber for a message. -/
def pushRPC (s : Subscriber) (msg : WakuMessage) : FilterRPC :=
  ⟨s.requestId, none, some ⟨[msg]⟩⟩

/-- The inner loop of the message handler, over one subscriber's content
    filters: for each filter naming the message's content topic, dial the
    subscriber and write it a push. A failed dial returns its error from the
    handler, a failed write returns `nil`; both are `.error`. -/
def pushToSubscriber (s : Subscriber) (msg : WakuMessage) :
    List ContentFilter → Host → Except (Option GoError × Host) Host
  | [], h => .ok h
  | filter :: rest, h =>
    if msg.contentTopic = filter.contentTopic then
      match h.newStream with
      | (some err, h) => .error (some err, h)
      | (none, h) =>
        match h.writeMsg s.peer (pushRPC s msg) with
        | (some _, h) => .error (none, h)
        | (none, h) => pushToSubscriber s msg rest h
    else pushToSubscriber s msg rest h

/-- The subscriber's filter takes messages from the pubsub topic. -/
def topicMatches (s : Subscriber) (topic : GoString) : Bool :=
  s.filter.topic = [] || s.filter.topic = topic

/-- The outer loop of the message handler, over the subscribers. -/
def pushToSubscribers (msg : WakuMessage) (topic : GoString) :
    List Subscriber → Host → Option GoError × Host
  | [], h => (none, h)
  | s :: rest, h =>
    if !topicMatches s topic then pushToSubscribers msg topic rest h
    else
      match pushToSubscriber s msg s.filter.contentFilters h with
      | .error r => r
      | .ok h => pushToSubscribers msg topic rest h

/-- The pushes the inner loop writes when no call fails: one per content
    filter naming the message's content topic. -/
def subscriberSchedule (s : Subscriber) (msg : WakuMessage) (cfs : List ContentFilter) :
    List (PeerID × FilterRPC) :=
  (cfs.filter fun f => msg.contentTopic = f.contentTopic).map fun _ => (s.peer, pushRPC s msg)

/-- The pushes the handler writes when no call fails, subscriber by
    subscriber. -/
def pushSchedule (msg : WakuMessage) (topic : GoString) (subs : List Subscriber) :
    List (PeerID × FilterRPC) :=
  subs.flatMap fun s =>
    if topicMatches s topic then subscriberSchedule s msg s.filter.contentFilters else []

@[simp] theorem subscriberSchedule_nil (s : Subscriber) (msg : WakuMessage) :
    subscriberSchedule s msg [] = [] := rfl

theorem subscriberSchedule_cons (s : Subscriber) (msg : WakuMessage) (f : ContentFilter)
    (rest : List ContentFilter) :
    subscriberSchedule s msg (f :: rest) =
      if msg.contentTopic = f.contentTopic then (s.peer, pushRPC s msg) :: subscriberSchedule s msg rest
      else subscriberSchedule s msg rest := by
  by_cases hm : msg.contentTopic = f.contentTopic <;> simp [subscriberSchedule, hm]

@[simp] theorem pushSchedule_nil (msg : WakuMessage) (topic : GoString) :
    pushSchedule msg topic [] = [] := rfl

theorem pushSchedule_cons (msg : WakuMessage) (topic : GoString) (s : Subscriber)
    (rest : List Subscriber) :
    pushSchedule msg topic (s :: rest) =
      (if topicMatches s topic then subscriberSchedule s msg s.filter.contentFilters else []) ++
        pushSchedule msg topic rest := rfl

/-- The inner loop on a script that fails none of the dial and the write of
    each of its pushes: it writes them all and returns normally. -/
theorem pushToSubscriber_of_noFaults_take (s : Subscriber) (msg : WakuMessage)
    (cfs : List ContentFilter) (h : Host)
    (hf : NoFaults (h.faults.take (2 * (subscriberSchedule s msg cfs).length))) :
    pushToSubscriber s msg cfs h = .ok { h with
      faults := h.faults.drop (2 * (subscriberSchedule s msg cfs).length)
      written := h.written ++ subscriberSchedule s msg cfs } := by
  induction cfs generalizing h with
  | nil => simp [pushToSubscriber]
  | cons f rest ih =>
    unfold pushToSubscriber
    by_cases hm : msg.contentTopic = f.contentTopic
    · simp only [subscriberSchedule_cons, if_pos hm, List.length_cons, Nat.mul_succ,
        noFaults_take_succ] at hf ⊢
      obtain ⟨hd, hw, hr⟩ := hf
      simp only [Host.newStream, hd, Host.writeMsg, hw]
      rw [ih _ hr]
      simp [List.drop_tail]
    · simp only [subscriberSchedule_cons, if_neg hm] at hf ⊢
      exact ih h hf

/-- The inner loop on a script whose `n`-th call is the first to fail,
    counting a dial and a write per push: it has written the `n / 2` pushes
    before that call and returns at once, with the dial's error, or `nil` for a
    failed write. -/
theorem pushToSubscriber_of_failsAt (s : Subscriber) (msg : WakuMessage)
    (cfs : List ContentFilter) (h : Host) {n : Nat} {err : GoError}
    (hn : n < 2 * (subscriberSchedule s msg cfs).length) (hf : FailsAt h.faults n err) :
    pushToSubscriber s msg cfs h = .error (if n % 2 = 0 then some err else none, { h with
      faults := h.faults.drop (n + 1)
      written := h.written ++ (subscriberSchedule s msg cfs).take (n / 2) }) := by
  induction cfs generalizing h n with
  | nil => simp at hn
  | cons f rest ih =>
    unfold pushToSubscriber
    by_cases hm : msg.contentTopic = f.contentTopic
    · simp only [subscriberSchedule_cons, if_pos hm, List.length_cons] at hn ⊢
      simp only [Host.newStream]
      match n, hf with
      | 0, hf =>
        -- The dial fails.
        simp [failsAt_zero.1 hf]
      | 1, hf =>
        -- The dial goes through and the write fails.
        obtain ⟨hd, hw⟩ := failsAt_succ.1 hf
        have h2 : h.faults.tail.tail = h.faults.drop 2 := by rw [← List.drop_one, List.drop_tail]
        simp [hd, Host.writeMsg, failsAt_zero.1 hw, h2]
      | n + 2, hf =>
        -- Both go through; the failure is further on.
        obtain ⟨hd, hw, hf⟩ := failsAt_succ.1 hf |>.imp_right failsAt_succ.1
        simp only [hd, Host.writeMsg, hw]
        rw [ih _ (by omega) hf]
        simp [List.drop_tail, Nat.add_mod_right, show (n + 2) / 2 = n / 2 + 1 by omega]
    · simp only [subscriberSchedule_cons, if_neg hm] at hn ⊢
      exact ih h hn hf

/-- The handler on a script that fails none of the dial and the write of each
    push of its schedule: it writes the whole schedule and returns `nil`. -/
theorem pushToSubscribers_of_noFaults_take (msg : WakuMessage) (topic : GoString)
    (subs : List Subscriber) (h : Host)
    (hf : NoFaults (h.faults.take (2 * (pushSchedule msg topic subs).length))) :
    pushToSubscribers msg topic subs h = (none, { h with
      faults := h.faults.drop (2 * (pushSchedule msg topic subs).length)
      written := h.written ++ pushSchedule msg topic subs }) := by
  induction subs generalizing h with
  | nil => simp [pushToSubscribers]
  | cons s rest ih =>
    unfold pushToSubscribers
    by_cases ht : topicMatches s topic
    · simp only [pushSchedule_cons, ht, if_true, Bool.not_true, Bool.false_eq_true, if_false,
        List.length_append, Nat.mul_add, noFaults_take_add] at hf ⊢
      rw [pushToSubscriber_of_noFaults_take s msg _ h hf.1]
      dsimp only
      rw [ih _ hf.2]
      simp [Nat.mul_add]
    · simp only [pushSchedule_cons, ht, Bool.false_eq_true, if_false, List.nil_append,
        Bool.not_false, if_true] at hf ⊢
      exact ih h hf

/-- The handler on a script whose `n`-th call is the first to fail: it has
    written the first `n / 2` pushes of its schedule and returns at once, with
    the dial's error, or `nil` for a failed write. No call is made and nothing
    is written after the failure. -/
theorem pushToSubscribers_of_failsAt (msg : WakuMessage) (topic : GoString)
    (subs : List Subscriber) (h : Host) {n : Nat} {err : GoError}
    (hn : n < 2 * (pushSchedule msg topic subs).length) (hf : FailsAt h.faults n err) :
    pushToSubscribers msg topic subs h = (if n % 2 = 0 then some err else none, { h with
      faults := h.faults.drop (n + 1)
      written := h.written ++ (pushSchedule msg topic subs).take (n / 2) }) := by
  induction subs generalizing h n with
  | nil => simp at hn
  | cons s rest ih =>
    unfold pushToSubscribers
    by_cases ht : topicMatches s topic
    · simp only [pushSchedule_cons, ht, if_true, Bool.not_true, Bool.false_eq_true, if_false,
        List.length_append] at hn ⊢
      by_cases hlt : n < 2 * (subscriberSchedule s msg s.filter.contentFilters).length
      · -- The failure is among this subscriber's calls.
        rw [pushToSubscriber_of_failsAt s msg _ h hlt hf, List.take_append_of_le_length (by omega)]
      · -- This subscriber's calls all go through.
        obtain ⟨m, rfl⟩ := Nat.exists_eq_add_of_le (Nat.le_of_not_lt hlt)
        obtain ⟨h0, hf⟩ := failsAt_add.1 hf
        rw [pushToSubscriber_of_noFaults_take s msg _ h h0]
        dsimp only
        rw [ih _ (by omega) hf, Nat.mul_add_div Nat.two_pos, List.take_append, Nat.mul_add_mod]
        simp [Nat.add_assoc]
    · simp only [pushSchedule_cons, ht, Bool.false_eq_true, if_false, List.nil_append,
        Bool.not_false, if_true] at hn ⊢
      exact ih h hn hf

/-- The handler writes a prefix of the push schedule, and all of it when the
    host's fault script fails no call, leaving a script that fails none. -/
theorem pushToSubscribers_spec (msg : WakuMessage) (topic : GoString) (subs : List Subscriber)
    (h : Host) :
    ∃ w, (pushToSubscribers msg topic subs h).2.written = h.written ++ w ∧
      w <+: pushSchedule msg topic subs ∧
      (NoFaults h.faults →
        w = pushSchedule msg topic subs ∧ NoFaults (pushToSubscribers msg topic subs h).2.faults) := by
  rcases noFaults_take_or_failsAt h.faults (2 * (pushSchedule msg topic subs).length) with
    hf | ⟨n, hn, err, hf⟩
  · rw [pushToSubscribers_of_noFaults_take msg topic subs h hf]
    exact ⟨_, rfl, List.prefix_refl _, fun h0 => ⟨rfl, h0.drop _⟩⟩
  · rw [pushToSubscribers_of_failsAt msg topic subs h hn hf]
    exact ⟨_, rfl, List.take_prefix _ _, fun h0 => absurd h0 hf.not_noFaults⟩

/-- A subscriber's filter matches a relayed message: the pubsub topic is
    taken, and some content filter names the content topic. -/
def subscriberMatches (s : Subscriber) (env : Envelope) : Bool :=
  topicMatches s env.pubsubTopic &&
    s.filter.contentFilters.any fun f => env.message.contentTopic = f.contentTopic

/-- The schedule holds exactly the pushes to matching subscribers. -/
theorem mem_pushSchedule (env : Envelope) (subs : List Subscriber) (p : PeerID × FilterRPC) :
    p ∈ pushSchedule env.message env.pubsubTopic subs ↔
      ∃ s ∈ subs, subscriberMatches s env ∧ p = (s.peer, pushRPC s env.message) := by
  simp only [pushSchedule, subscriberSchedule, List.mem_flatMap, subscriberMatches,
    Bool.and_eq_true, List.any_eq_true, decide_eq_true_eq]
  constructor
  · rintro ⟨s, hs, hp⟩
    split at hp
    · obtain ⟨f, hf, rfl⟩ := List.mem_map.mp hp
      exact ⟨s, hs, ⟨‹_›, f, (List.mem_filter.mp hf).1, by simpa using (List.mem_filter.mp hf).2⟩, rfl⟩
    · simp at hp
  · rintro ⟨s, hs, ⟨ht, f, hf, hm⟩, rfl⟩
    exact ⟨s, hs, by simp only [ht, if_true]; exact List.mem_map.mpr ⟨f, by simp [hf, hm], rfl⟩⟩

namespace WakuFilter

/-- The handler `FilterListener` runs for each message it relays. -/
def handle (wf : WakuFilter) (envelope : Envelope) (h : Host) : Option GoError × Host :=
  pushToSubscribers envelope.message envelope.pubsubTopic wf.subscribers h

/-- `FilterListener`: run the handler on each message in turn, dropping what
    it returns. -/
def filterListener (wf : WakuFilter) : List Envelope → Host → Host
  | [], h => h
  | m :: ms, h => wf.filterListener ms (wf.handle m h).2

end WakuFilter

end FilterProtocol

end GoWaku
