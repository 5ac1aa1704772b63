import GoWaku.Basic

/-!
# The RLN Engine and its Root Tracker

The two collaborators the static group manager drives. Neither is code of the
manager: the engine is `rln.RLN` from the zerokit bindings, and the tracker is
`group_manager.MerkleRootTracker`, which sits beside the manager in the
repository but outside what is modelled from source. Both are given here by
their contracts, so that the manager's own code can be run against them.

The engine owns the membership tree. The manager only ever appends to it, and
reads its root through the tracker, so the tree is kept as its list of leaves
in insertion order and the root as an arbitrary function `merkleRoot` of that
list: no theorem depends on how the root is hashed. Every call the engine
answers is read off its fault script (`nextFault`) and appended to a log of
calls. The log adds nothing to what the engine does; it is how a statement
says which calls a run made and in what order, as in "no `Sync` after a failed
insert".

The tracker keeps the window of recently seen roots, oldest first. It carries
the window's bound as a field, so a window that has outgrown
`acceptableRootWindowSize` cannot be built, and `sync` is the one operation on
it. A sync reads the engine's root, which may fail, and on success pushes the
root onto the window unless it is already the newest entry. Its one property
that the manager's contract rests on is `sync_newest`: after a successful
sync the newest root is the engine's current one.

## Main definitions

* `IDCommitment`, `MerkleNode`, `MembershipIndex`: The engine's value types.
* `IdentityCredential`: The local member's credential.
* `acceptableRootWindowSize`: The capacity of the root window.
* `Call`: A call made to the engine.
* `RLN`: The engine's state.
* `RLN.insertMember`: Appending a leaf.
* `RLN.getMerkleRoot`: Reading the current root.
* `MerkleRootTracker`: The bounded window of acceptable roots.
* `MerkleRootTracker.sync`: Refreshing the window from the engine.

## Theorems

* `insertMember_of_ok`, `insertMember_of_fault`: The two ways an insert ends.
* `sync_of_ok`, `sync_of_fault`: The two ways a sync ends.
* `push_newest`: A pushed root is the newest.
* `sync_newest`: After a successful sync the newest root is the engine's.
* `sync_fst`: A sync returns the error of its root read.
* `sync_leaves`: A sync leaves the tree alone.
-/

namespace GoWaku

namespace Rln

/-- `rln.IDCommitment`: a member's public 32-byte commitment. -/
abbrev IDCommitment := Bytes 32

/-- `rln.IDSecretHash`: the secret half of a credential. -/
abbrev IDSecretHash := Bytes 32

/-- `rln.MerkleNode`: a 32-byte tree node, roots included. -/
abbrev MerkleNode := Bytes 32

/-- `rln.MembershipIndex`, a Go `uint`. -/
abbrev MembershipIndex := UInt64

/-- `rln.IdentityCredential`, by the secret the member keeps and the
    commitment it publishes. -/
structure IdentityCredential where
  idSecretHash : IDSecretHash
  idCommitment : IDCommitment
deriving DecidableEq, Repr

/-- `acceptableRootWindowSize`: how many recent roots stay acceptable. -/
def acceptableRootWindowSize : Nat := 5

/-- A call made to the engine, as its log records it. -/
inductive Call where
  | insertMember (c : IDCommitment)
  | getMerkleRoot
deriving DecidableEq, Repr

/-- The engine: the tree's leaves in insertion order, the fault script of its
    next calls, and the log of the calls made so far. -/
structure RLN where
  leaves : List IDCommitment
  faults : List (Option GoError)
  calls : List Call
deriving DecidableEq, Repr

/-- The bookkeeping of one call: its outcome is used up and it is logged. -/
def RLN.record (e : RLN) (c : Call) : RLN :=
  { e with faults := e.faults.tail, calls := e.calls ++ [c] }

@[simp] theorem RLN.record_leaves (e : RLN) (c : Call) : (e.record c).leaves = e.leaves := rfl

@[simp] theorem RLN.record_calls (e : RLN) (c : Call) :
    (e.record c).calls = e.calls ++ [c] := rfl

/-- `InsertMember`: append a leaf at the next index, unless the call fails. -/
def RLN.insertMember (e : RLN) (c : IDCommitment) : Option GoError × RLN :=
  match nextFault e.faults with
  | none => (none, { e.record (.insertMember c) with leaves := e.leaves ++ [c] })
  | some err => (some err, e.record (.insertMember c))

theorem RLN.insertMember_of_ok {e : RLN} (c : IDCommitment) (h : nextFault e.faults = none) :
    e.insertMember c = (none, { e.record (.insertMember c) with leaves := e.leaves ++ [c] }) := by
  simp [RLN.insertMember, h]

theorem RLN.insertMember_of_fault {e : RLN} (c : IDCommitment) {err : GoError}
    (h : nextFault e.faults = some err) :
    e.insertMember c = (some err, e.record (.insertMember c)) := by
  simp [RLN.insertMember, h]

/-- The window of acceptable roots, oldest first.

    Modelled from the spec: `MerkleRootTracker` (group_manager package) is not
    in the sources. "An ordered, bounded (capacity = 5) sequence of the most
    recently observed Roots, oldest evicted first (FIFO)." -/
structure MerkleRootTracker where
  validMerkleRoots : List MerkleNode
  length_le : validMerkleRoots.length ≤ acceptableRootWindowSize
deriving DecidableEq, Repr

namespace MerkleRootTracker

/-- The most recently pushed root. -/
def newest (t : MerkleRootTracker) : Option MerkleNode :=
  t.validMerkleRoots.getLast?

/-- Modelled from the spec: "pushes it into the window if it differs from the
    most recent entry, evicting the oldest entry once capacity (5) is
    exceeded." -/
def push (t : MerkleRootTracker) (root : MerkleNode) : MerkleRootTracker :=
  if t.newest = some root then t
  else if h : t.validMerkleRoots.length < acceptableRootWindowSize then
    ⟨t.validMerkleRoots ++ [root], by simp only [List.length_append, List.length_singleton]; omega⟩
  else
    ⟨(t.validMerkleRoots ++ [root]).tail, by
      simp only [List.length_tail, List.length_append, List.length_singleton]
      have := t.length_le; omega⟩

theorem push_newest (t : MerkleRootTracker) (root : MerkleNode) : (t.push root).newest = some root := by
  unfold push
  split
  · assumption
  · split
    · simp [newest]
    · -- The evicted entry is the oldest, and the window held at least one.
      have hne : t.validMerkleRoots ≠ [] := by
        intro h; simp [h, acceptableRootWindowSize] at *
      obtain ⟨x, xs, hx⟩ := List.exists_cons_of_ne_nil hne
      simp [newest, hx]

end MerkleRootTracker

section Sync

variable (merkleRoot : List IDCommitment → MerkleNode)

/-- `GetMerkleRoot`: the root of the current tree, unless the call fails. -/
def RLN.getMerkleRoot (e : RLN) : Except GoError MerkleNode × RLN :=
  match nextFault e.faults with
  | none => (.ok (merkleRoot e.leaves), e.record .getMerkleRoot)
  | some err => (.error err, e.record .getMerkleRoot)

/-- Modelled from the spec: "`sync()` re-reads the engine's current root and
    pushes it into the window ... `sync()` can fail (propagated from the
    engine) ... a transient failure does not corrupt the window's existing
    contents." -/
def MerkleRootTracker.sync (t : MerkleRootTracker) (e : RLN) :
    Option GoError × RLN × MerkleRootTracker :=
  match e.getMerkleRoot merkleRoot with
  | (.error err, e') => (some err, e', t)
  | (.ok root, e') => (none, e', t.push root)

theorem MerkleRootTracker.sync_of_ok (t : MerkleRootTracker) {e : RLN}
    (h : nextFault e.faults = none) :
    t.sync merkleRoot e = (none, e.record .getMerkleRoot, t.push (merkleRoot e.leaves)) := by
  simp [MerkleRootTracker.sync, RLN.getMerkleRoot, h]

theorem MerkleRootTracker.sync_of_fault (t : MerkleRootTracker) {e : RLN} {err : GoError}
    (h : nextFault e.faults = some err) :
    t.sync merkleRoot e = (some err, e.record .getMerkleRoot, t) := by
  simp [MerkleRootTracker.sync, RLN.getMerkleRoot, h]

/-- Whatever a sync returns, it reads the root and nothing else: the tree is
    untouched and the read is logged. -/
theorem MerkleRootTracker.sync_rln (t : MerkleRootTracker) (e : RLN) :
    (t.sync merkleRoot e).2.1 = e.record .getMerkleRoot := by
  cases h : nextFault e.faults with
  | none => rw [t.sync_of_ok merkleRoot h]
  | some err => rw [t.sync_of_fault merkleRoot h]

/-- A sync returns the error of its root read. -/
theorem MerkleRootTracker.sync_fst (t : MerkleRootTracker) (e : RLN) :
    (t.sync merkleRoot e).1 = nextFault e.faults := by
  cases h : nextFault e.faults with
  | none => rw [t.sync_of_ok merkleRoot h]
  | some err => rw [t.sync_of_fault merkleRoot h]

theorem MerkleRootTracker.sync_leaves (t : MerkleRootTracker) (e : RLN) :
    (t.sync merkleRoot e).2.1.leaves = e.leaves := by
  rw [t.sync_rln merkleRoot e, RLN.record_leaves]

/-- After a successful sync the newest root in the window is the root of the
    engine's tree as it stands. -/
theorem MerkleRootTracker.sync_newest {t t' : MerkleRootTracker} {e e' : RLN}
    (h : t.sync merkleRoot e = (none, e', t')) : t'.newest = some (merkleRoot e'.leaves) := by
  cases hf : nextFault e.faults with
  | none =>
      rw [t.sync_of_ok merkleRoot hf] at h
      simp only [Prod.mk.injEq] at h
      obtain ⟨-, rfl, rfl⟩ := h
      exact MerkleRootTracker.push_newest _ _
  | some err =>
      rw [t.sync_of_fault merkleRoot hf] at h
      cases h

end Sync

end Rln

end GoWaku
