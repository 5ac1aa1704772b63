import GoWaku.Filter.Light

/-!
# Delivery Through the Filter Protocol

Where a relayed message ends up. On the full node the handler walks its
subscribers and pushes the message to each whose filter matches;
`handle_writes_prefix_of_fault_free_run` says what it writes on any network:
pushes to matching subscribers only, each carrying the message under that
subscriber's request id. When the network fails nothing the handler reaches
every matching subscriber; otherwise it returns at the first failed dial or
write, having written exactly the pushes before that call and made no call
after it. A failure before the last matching subscriber therefore leaves the
later ones without a push (`handle_dial_failure_skips_later_subscribers`). Over a whole run of the
listener the same holds message by message: each message gets a prefix of its
schedule (`filterListener_written_prefixes`), and all of it when the network
fails nothing (`filterListener_written_of_noFaults`).

Followed from the light node's side, a subscription is served: once the full
node has read the frame `Subscribe` sent, every relayed message its filter
matches is pushed back to the subscriber when the network fails nothing
(`subscribe_then_handle_pushes`). But two things go wrong with the ids.
`Subscribe` returns the raw id and sends the hex-encoded one, so the pushes
for the subscription come back under an id its caller never saw, for every
non-empty id
(`subscribe_pushHandler_id_ne_returned`; one subscription followed through
`Subscribe`, the full node's `onRequest` and handler, and the light node's
`onRequest` is `subscribe_returned_id_never_reaches_pushHandler`). And
`Notify` hands a push to the filter keyed by its request id *and* to every
other filter whose content topics match, so a filter matching a message
receives it once for each push of it, whichever subscription the push was for
(`length_le_count_notify`; two filters and their two pushes are
`notify_each_push_reaches_every_matching_filter`).

## Theorems

* `handle_writes_prefix_of_fault_free_run`: What the handler writes, on any
  network.
* `handle_dial_failure_skips_later_subscribers`: A failed dial ends the
  handler's walk.
* `filterListener_written_prefixes`, `filterListener_written_of_noFaults`:
  What a run of the listener writes.
* `subscribe_then_handle_pushes`: A subscription is served.
* `subscribe_pushHandler_id_ne_returned`: The id `Subscribe` returns is not
  the one pushes come back under.
* `subscribe_returned_id_never_reaches_pushHandler`: One subscription, end to
  end.
* `length_le_count_notify`: A matching filter receives every push.
* `notify_each_push_reaches_every_matching_filter`: Two matching filters, two
  pushes, two copies on each channel.
-/

namespace GoWaku

namespace FilterProtocol

open Pb

/-- What the handler writes when no call fails goes only to subscribers whose
    filter matches the message, carrying the message under the subscriber's
    request id, and reaches every such subscriber, each push a dial and a
    write. On any network the handler does that until a call fails: when none
    of those calls fails it writes all of it and returns `nil`, and when the
    `n`-th is the first to fail it returns right there, the dial's error or
    `nil`, having made no further call and written only the first `n / 2`
    pushes, so every push after the failure is lost. -/
theorem handle_writes_prefix_of_fault_free_run (wf : WakuFilter) (env : Envelope) (h : Host) :
    ∃ w₀, (wf.handle env { h with faults := [] }).2.written = h.written ++ w₀ ∧
      (∀ p ∈ w₀, ∃ s ∈ wf.subscribers, subscriberMatches s env ∧
        p = (s.peer, pushRPC s env.message)) ∧
      (∀ s ∈ wf.subscribers, subscriberMatches s env → (s.peer, pushRPC s env.message) ∈ w₀) ∧
      (NoFaults (h.faults.take (2 * w₀.length)) →
        wf.handle env h =
          (none, { h with faults := h.faults.drop (2 * w₀.length), written := h.written ++ w₀ })) ∧
      ∀ n err, n < 2 * w₀.length → FailsAt h.faults n err →
        wf.handle env h = (if n % 2 = 0 then some err else none,
          { h with faults := h.faults.drop (n + 1), written := h.written ++ w₀.take (n / 2) }) := by
  refine ⟨pushSchedule env.message env.pubsubTopic wf.subscribers, ?_,
    fun p hp => (mem_pushSchedule env _ p).mp hp,
    fun s hs hm => (mem_pushSchedule env _ _).mpr ⟨s, hs, hm, rfl⟩,
    pushToSubscribers_of_noFaults_take _ _ _ h,
    fun n err hn hf => pushToSubscribers_of_failsAt _ _ _ h hn hf⟩
  rw [WakuFilter.handle, pushToSubscribers_of_noFaults_take _ _ _ _ (by simp [NoFaults.nil])]

/-- Two subscribers that both match; the dial to the first fails, and the
    second gets nothing. -/
theorem handle_dial_failure_skips_later_subscribers :
    subscriberMatches ⟨[2], [2], ⟨true, [], [⟨[7]⟩]⟩⟩ ⟨⟨[], [7], none⟩, []⟩ ∧
      ([2], pushRPC ⟨[2], [2], ⟨true, [], [⟨[7]⟩]⟩⟩ ⟨[], [7], none⟩) ∉
        (WakuFilter.handle ⟨[⟨[1], [1], ⟨true, [], [⟨[7]⟩]⟩⟩, ⟨[2], [2], ⟨true, [], [⟨[7]⟩]⟩⟩], []⟩
          ⟨⟨[], [7], none⟩, []⟩ ⟨[], [some ⟨"dial"⟩], []⟩).2.written := by
  decide

/-- Over any run of relayed messages and any network, the listener writes,
    message by message, a prefix of each message's push schedule. -/
theorem filterListener_written_prefixes (wf : WakuFilter) (envs : List Envelope) (h : Host) :
    ∃ ws, (wf.filterListener envs h).written = h.written ++ ws.flatten ∧
      List.Forall₂ (fun w env => w <+: pushSchedule env.message env.pubsubTopic wf.subscribers)
        ws envs := by
  induction envs generalizing h with
  | nil => exact ⟨[], by simp [WakuFilter.filterListener], .nil⟩
  | cons env envs ih =>
      obtain ⟨w, hw, hp, -⟩ :=
        pushToSubscribers_spec env.message env.pubsubTopic wf.subscribers h
      obtain ⟨ws, hws, hall⟩ := ih (wf.handle env h).2
      refine ⟨w :: ws, ?_, .cons hp hall⟩
      rw [WakuFilter.filterListener, hws, WakuFilter.handle, hw]
      simp

/-- Over a run of relayed messages on a network that fails no call, the
    listener writes each message's whole push schedule, in order. -/
theorem filterListener_written_of_noFaults (wf : WakuFilter) (envs : List Envelope) {h : Host}
    (hf : NoFaults h.faults) :
    (wf.filterListener envs h).written =
      h.written ++ envs.flatMap fun env => pushSchedule env.message env.pubsubTopic wf.subscribers := by
  induction envs generalizing h with
  | nil => simp [WakuFilter.filterListener]
  | cons env envs ih =>
      obtain ⟨w, hw, -, hn⟩ :=
        pushToSubscribers_spec env.message env.pubsubTopic wf.subscribers h
      obtain ⟨rfl, hf'⟩ := hn hf
      rw [WakuFilter.filterListener, WakuFilter.handle, ih hf', hw]
      simp

theorem filterListener_written_of_noFaults_one_subscriber :
    NoFaults ([] : List (Option GoError)) ∧
      (WakuFilter.filterListener ⟨[⟨[1], [1], ⟨true, [], [⟨[7]⟩]⟩⟩], []⟩
          [⟨⟨[], [7], none⟩, []⟩, ⟨⟨[], [8], none⟩, []⟩] ⟨[], [], []⟩).written =
        [] ++ [(⟨⟨[], [7], none⟩, []⟩ : Envelope), ⟨⟨[], [8], none⟩, []⟩].flatMap fun env =>
          pushSchedule env.message env.pubsubTopic [⟨[1], [1], ⟨true, [], [⟨[7]⟩]⟩⟩] :=
  ⟨NoFaults.nil, filterListener_written_of_noFaults _ _ NoFaults.nil⟩

/-- Whatever the host, the request and the id, once `Subscribe` has sent its
    frame under a non-empty id, the full node records from that frame a
    subscriber whose pushes come back to the light node's `pushHandler` under
    the hex encoding of the id, which is never the id `Subscribe` returned. -/
theorem subscribe_pushHandler_id_ne_returned {h : Host} {request : FilterRequest}
    {id : List UInt8} {peers : List PeerID} {p : PeerID} {rpc : FilterRPC} (hid : id ≠ [])
    (hsub : request.subscribe = true)
    (hw : (subscribe h request id peers).2.written = h.written ++ [(p, rpc)])
    (full light : WakuFilter) (q r : PeerID) (msg : WakuMessage) :
    ∃ s, (full.onRequest q (.ok rpc)).subscribers = full.subscribers ++ [s] ∧
      (light.onRequest r (.ok (pushRPC s msg))).handlerCalls =
        light.handlerCalls ++ [(hexEncodeToString id, ⟨[msg]⟩)] ∧
      (subscribe h request id peers).1.1 ≠ hexEncodeToString id := by
  obtain ⟨hret, rfl⟩ := subscribe_frame hw
  refine ⟨⟨q, hexEncodeToString id, request⟩, by simp [WakuFilter.onRequest, hsub], rfl, ?_⟩
  rw [hret]
  exact (hexEncodeToString_ne_self hid).symm

theorem subscribe_pushHandler_id_ne_returned_one_peer :
    ([0] : List UInt8) ≠ [] ∧ (⟨true, [], [⟨[7]⟩]⟩ : FilterRequest).subscribe = true ∧
      (subscribe ⟨[⟨[9], [wakuFilterCodec], true⟩], [], []⟩ ⟨true, [], [⟨[7]⟩]⟩ [0] [[9]]).2.written =
        [([9], ⟨[48, 48], some ⟨true, [], [⟨[7]⟩]⟩, none⟩)] ∧
      ∃ s, (WakuFilter.onRequest ⟨[], []⟩ [5] (.ok ⟨[48, 48], some ⟨true, [], [⟨[7]⟩]⟩, none⟩)).subscribers =
          [s] ∧
        (WakuFilter.onRequest ⟨[], []⟩ [9] (.ok (pushRPC s ⟨[], [7], none⟩))).handlerCalls =
          [(hexEncodeToString [0], ⟨[⟨[], [7], none⟩]⟩)] ∧
        (subscribe ⟨[⟨[9], [wakuFilterCodec], true⟩], [], []⟩ ⟨true, [], [⟨[7]⟩]⟩ [0] [[9]]).1.1 ≠
          hexEncodeToString [0] :=
  have hw : (subscribe ⟨[⟨[9], [wakuFilterCodec], true⟩], [], []⟩ ⟨true, [], [⟨[7]⟩]⟩ [0] [[9]]).2.written =
      [([9], ⟨[48, 48], some ⟨true, [], [⟨[7]⟩]⟩, none⟩)] := by decide
  ⟨by decide, rfl, hw,
    subscribe_pushHandler_id_ne_returned (by decide) rfl hw ⟨[], []⟩ ⟨[], []⟩ [5] [9] ⟨[], [7], none⟩⟩

/-- On a network that fails no call, a subscription `Subscribe` sent is
    served: once the full node has read its frame, every relayed message the
    filter matches is pushed to the subscribing peer under the frame's id. -/
theorem subscribe_then_handle_pushes {h : Host} {request : FilterRequest} {id : List UInt8}
    {peers : List PeerID} {p : PeerID} {rpc : FilterRPC} (hsub : request.subscribe = true)
    (hw : (subscribe h request id peers).2.written = h.written ++ [(p, rpc)])
    (wf : WakuFilter) (q : PeerID) (env : Envelope) {h' : Host} (hf : NoFaults h'.faults)
    (hm : subscriberMatches ⟨q, hexEncodeToString id, request⟩ env) :
    (q, pushRPC ⟨q, hexEncodeToString id, request⟩ env.message) ∈
      ((wf.onRequest q (.ok rpc)).handle env h').2.written := by
  obtain ⟨-, rfl⟩ := subscribe_frame hw
  obtain ⟨w, hw', -, hn⟩ := pushToSubscribers_spec env.message env.pubsubTopic
    (wf.onRequest q (.ok ⟨hexEncodeToString id, some request, none⟩)).subscribers h'
  obtain ⟨rfl, -⟩ := hn hf
  rw [WakuFilter.handle, hw']
  refine List.mem_append_right _ ((mem_pushSchedule env _ _).mpr ⟨_, ?_, hm, rfl⟩)
  simp [WakuFilter.onRequest, hsub]

theorem subscribe_then_handle_pushes_one_peer :
    (⟨true, [], [⟨[7]⟩]⟩ : FilterRequest).subscribe = true ∧
      (subscribe ⟨[⟨[9], [wakuFilterCodec], true⟩], [], []⟩ ⟨true, [], [⟨[7]⟩]⟩ [0] [[9]]).2.written =
        [([9], ⟨[48, 48], some ⟨true, [], [⟨[7]⟩]⟩, none⟩)] ∧
      NoFaults ([] : List (Option GoError)) ∧
      subscriberMatches ⟨[5], hexEncodeToString [0], ⟨true, [], [⟨[7]⟩]⟩⟩ ⟨⟨[], [7], none⟩, []⟩ ∧
      ([5], pushRPC ⟨[5], hexEncodeToString [0], ⟨true, [], [⟨[7]⟩]⟩⟩ ⟨[], [7], none⟩) ∈
        ((WakuFilter.onRequest ⟨[], []⟩ [5] (.ok ⟨[48, 48], some ⟨true, [], [⟨[7]⟩]⟩, none⟩)).handle
          ⟨⟨[], [7], none⟩, []⟩ ⟨[], [], []⟩).2.written :=
  have hw : (subscribe ⟨[⟨[9], [wakuFilterCodec], true⟩], [], []⟩ ⟨true, [], [⟨[7]⟩]⟩ [0] [[9]]).2.written =
      [([9], ⟨[48, 48], some ⟨true, [], [⟨[7]⟩]⟩, none⟩)] := by decide
  ⟨rfl, hw, NoFaults.nil, by decide,
    subscribe_then_handle_pushes rfl hw ⟨[], []⟩ [5] ⟨⟨[], [7], none⟩, []⟩
      NoFaults.nil (by decide)⟩

/-- One subscription followed end to end: the light node `[5]` subscribes
    with the id `[0]` at the full node `[9]`, which reads the frame, relays a
    matching message, and pushes it back. `Subscribe` returned `[0]`; the
    light node's `pushHandler` is called with `"00"`. -/
theorem subscribe_returned_id_never_reaches_pushHandler :
    (subscribe ⟨[⟨[9], [wakuFilterCodec], true⟩], [], []⟩ ⟨true, [], [⟨[7]⟩]⟩ [0] [[9]]).1 = ([0], none) ∧
      ((((subscribe ⟨[⟨[9], [wakuFilterCodec], true⟩], [], []⟩ ⟨true, [], [⟨[7]⟩]⟩ [0] [[9]]).2.written.foldl
            (fun (wf : WakuFilter) f => wf.onRequest [5] (.ok f.2)) ⟨[], []⟩).handle
          ⟨⟨[], [7], none⟩, []⟩ ⟨[], [], []⟩).2.written.foldl
        (fun (wf : WakuFilter) f => wf.onRequest [9] (.ok f.2)) ⟨[], []⟩).handlerCalls.map
        Prod.fst = [[48, 48]] := by
  decide

/-- Over any run of pushes for a message, under any request ids, a filter
    whose content filters name the message's content topic receives the
    message on its channel at least once per push. -/
theorem length_le_count_notify (filters : Filters) (msg : WakuMessage)
    (requestIds : List GoString) {key : GoString} {filter : Filter}
    (hf : (key, filter) ∈ filters.entries)
    (hm : filter.contentFilters.any fun f => msg.contentTopic = f.contentTopic) :
    requestIds.length ≤ (requestIds.flatMap (filters.notify msg)).count (filter.chan, msg) := by
  induction requestIds with
  | nil => exact Nat.zero_le _
  | cons r rs ih =>
      have hpos := List.count_pos_iff.mpr (mem_notify_of_contentTopic filters msg r hf hm)
      rw [List.flatMap_cons, List.count_append, List.length_cons]
      omega

theorem length_le_count_notify_two_pushes :
    ([1], (⟨[⟨[7]⟩], 0⟩ : Filter)) ∈ [([1], ⟨[⟨[7]⟩], 0⟩), ([2], ⟨[⟨[7]⟩], 1⟩)] ∧
      ([⟨[7]⟩] : List ContentFilter).any (fun f => ([7] : GoString) = f.contentTopic) ∧
      2 ≤ ([[1], [2]].flatMap
        ((⟨[([1], ⟨[⟨[7]⟩], 0⟩), ([2], ⟨[⟨[7]⟩], 1⟩)], by decide⟩ : Filters).notify
          ⟨[], [7], none⟩)).count (0, ⟨[], [7], none⟩) :=
  ⟨by decide, by decide,
    @length_le_count_notify ⟨[([1], ⟨[⟨[7]⟩], 0⟩), ([2], ⟨[⟨[7]⟩], 1⟩)], by decide⟩ ⟨[], [7], none⟩
      [[1], [2]] [1] ⟨[⟨[7]⟩], 0⟩ (by decide) (by decide)⟩

/-- Two filters matching one content topic, and the two pushes a full node
    sends for a message on it: each channel receives the message twice. -/
theorem notify_each_push_reaches_every_matching_filter :
    (⟨[([1], ⟨[⟨[7]⟩], 0⟩), ([2], ⟨[⟨[7]⟩], 1⟩)], by decide⟩ : Filters).notify ⟨[], [7], none⟩ [1] ++
      (⟨[([1], ⟨[⟨[7]⟩], 0⟩), ([2], ⟨[⟨[7]⟩], 1⟩)], by decide⟩ : Filters).notify ⟨[], [7], none⟩ [2] =
      [(0, ⟨[], [7], none⟩), (1, ⟨[], [7], none⟩), (0, ⟨[], [7], none⟩), (1, ⟨[], [7], none⟩)] := by
  decide

end FilterProtocol

end GoWaku
