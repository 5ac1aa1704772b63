import GoWaku.Basic

/-!
# Protocol Messages

The decoded protobuf messages the modelled functions read and build, from the
`pb` package. Only the fields some modelled function reads or writes are kept:
a `WakuMessage`'s version, timestamp and ephemeral flag are read by nothing
here. Repeated fields are lists, and an optional sub-message is an `Option`,
`none` standing for a nil pointer.

The generated `Size()` of a message is proto3's count of its encoded bytes:
a varint key and, for a string, bytes or sub-message field, a varint length
before the contents, with an empty string and an unset field left out. Over
the fields kept here `FilterRPC.size` is that count for a frame whose messages
have their other fields unset; a set version or timestamp adds a few bytes,
which is why the network model takes the frame size as a parameter and uses
this function only as one instance of it.

Bytes and strings are both `List UInt8` (see `GoWaku.Basic`): a `RateLimitProof`
decoded from the network carries byte strings of whatever length the sender
chose, and nothing in the decoding fixes them.

## Main definitions

* `RateLimitProof`: `pb.RateLimitProof`, the proof a message carries.
* `WakuMessage`: `pb.WakuMessage`.
* `ContentFilter`: `pb.FilterRequest_ContentFilter`.
* `FilterRequest`: `pb.FilterRequest`.
* `MessagePush`: `pb.MessagePush`.
* `FilterRPC`: `pb.FilterRPC`, the one frame of the filter protocol.
* `FilterRPC.size`, ...: The generated `Size()` methods, proto3's byte count
  of a message, over the fields kept here.
-/

namespace GoWaku

namespace Pb

/-- `pb.RateLimitProof`, as decoded: seven byte strings of any length. -/
structure RateLimitProof where
  proof : List UInt8
  merkleRoot : List UInt8
  epoch : List UInt8
  shareX : List UInt8
  shareY : List UInt8
  nullifier : List UInt8
  rlnIdentifier : List UInt8
deriving DecidableEq, Repr

/-- `pb.WakuMessage`, by the fields the node's filter and RLN code read. -/
structure WakuMessage where
  payload : List UInt8
  contentTopic : GoString
  rateLimitProof : Option RateLimitProof
deriving DecidableEq, Repr

/-- `pb.FilterRequest_ContentFilter`. -/
structure ContentFilter where
  contentTopic : GoString
deriving DecidableEq, Repr

/-- `pb.FilterRequest`: subscribe or unsubscribe, to a pubsub topic (empty for
    any) and a list of content topics. -/
structure FilterRequest where
  subscribe : Bool
  topic : GoString
  contentFilters : List ContentFilter
deriving DecidableEq, Repr

/-- `pb.MessagePush`. -/
structure MessagePush where
  messages : List WakuMessage
deriving DecidableEq, Repr

/-- `pb.FilterRPC`: a request id, with a request (light node to full node) or
    a push (full node to light node). -/
structure FilterRPC where
  requestId : GoString
  request : Option FilterRequest
  push : Option MessagePush
deriving DecidableEq, Repr

/-- `sov`: the bytes the varint of `n` takes, one per seven bits. -/
def sizeVarint (n : Nat) : Nat :=
  loop n n
where
  /-- The count, with `fuel` bounding the number of bytes left. -/
  loop : Nat → Nat → Nat
  | 0, _ => 1
  | fuel + 1, n => if n < 128 then 1 else 1 + loop fuel (n / 128)

/-- A length-delimited field with a one-byte key: key, length, contents. -/
def sizeField (len : Nat) : Nat :=
  1 + sizeVarint len + len

/-- A string or bytes field: left out when empty, as proto3 does. -/
def sizeBytes (b : List UInt8) : Nat :=
  if b = [] then 0 else sizeField b.length

/-- `RateLimitProof.Size()`: its seven bytes fields. -/
def RateLimitProof.size (p : RateLimitProof) : Nat :=
  sizeBytes p.proof + sizeBytes p.merkleRoot + sizeBytes p.epoch + sizeBytes p.shareX +
    sizeBytes p.shareY + sizeBytes p.nullifier + sizeBytes p.rlnIdentifier

/-- `WakuMessage.Size()` of a message whose other fields are unset: the
    payload, the content topic, and the proof, whose field number 21 takes a
    two-byte key. -/
def WakuMessage.size (m : WakuMessage) : Nat :=
  sizeBytes m.payload + sizeBytes m.contentTopic +
    (m.rateLimitProof.map fun p => 1 + sizeField p.size).getD 0

/-- `FilterRequest.Size()`: the flag when set, the topic, each content filter. -/
def FilterRequest.size (r : FilterRequest) : Nat :=
  (if r.subscribe then 2 else 0) + sizeBytes r.topic +
    r.contentFilters.foldl (fun n cf => n + sizeField (sizeBytes cf.contentTopic)) 0

/-- `MessagePush.Size()`: each message. -/
def MessagePush.size (mp : MessagePush) : Nat :=
  mp.messages.foldl (fun n m => n + sizeField m.size) 0

/-- `FilterRPC.Size()`, the length `WriteMsg` prefixes a frame with. -/
def FilterRPC.size (rpc : FilterRPC) : Nat :=
  sizeBytes rpc.requestId + (rpc.request.map fun r => sizeField r.size).getD 0 +
    (rpc.push.map fun mp => sizeField mp.size).getD 0

end Pb

end GoWaku
