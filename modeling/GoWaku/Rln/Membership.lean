import GoWaku.Rln.Static

/-!
# Membership Runs

What a run of the static manager does to the tree and the root window: a
`Start`, then any number of `InsertMember` calls, each of which may fail at
the engine or at the sync that follows it.

`StartContract` and `InsertContract` say, for every state, everything a call
does that the rest of the node can observe: which leaves the tree gains, which
calls the engine sees, whether the tracker is left in step with the tree, and
what is returned, each tied to the engine's fault script. A `Start` that fails
returns the error of the first call the script fails, and the tree holds the
members inserted before that call; an `InsertMember` whose insert goes through
returns what its sync returned. `InsertContract` covers the manager that was never started
too, where the call panics, so `insertMember_spec` holds with no hypothesis at
all. Both are read off `addMembers_spec` and the engine's case lemmas; neither
proof unfolds the loop again.

The membership index is the position of the local commitment in the *group*,
and `Start` appends the group after whatever leaves the engine already holds.
`leaf_at_shifted_membershipIndex` follows the local commitment through a whole
run: it sits at the index shifted by the number of leaves the engine held
before `Start`, and stays there through every later insert, since an insert
only ever appends (`insertMembers_mounted`). On an engine that already holds
leaves the unshifted index names some other leaf, as
`leaf_at_membershipIndex_prior_leaves` shows.

A `Start` that fails keeps the group, since only a full load drops it, and
leaves in the tree the members it got through. Starting the manager again on
the engine and tracker it mounted loads the whole group once more, so a retry
that succeeds holds those members twice (`start_after_failed_start`).

## Main definitions

* `StartContract`: What `Start` returns and leaves behind.
* `InsertContract`: What `InsertMember` returns and leaves behind.

## Theorems

* `start_frame`: `Start` changes only the engine, the tracker and the group.
* `start_spec`: `Start` meets its contract.
* `insertMember_spec`: `InsertMember` meets its contract.
* `start_insertMember_contract`: Both, for every run.
* `insertMembers_mounted`: A run of inserts on a started manager returns and
  only appends.
* `leaf_at_shifted_membershipIndex`: The local commitment's leaf through a run.
* `leaf_at_membershipIndex_prior_leaves`: The unshifted index misses it.
* `start_after_failed_start`: A retried `Start` inserts the loaded members
  again.
-/

namespace GoWaku

namespace Rln

section Contracts

variable (merkleRoot : List IDCommitment → MerkleNode)

/-- What `Start` leaves behind, starting from the engine `e` with the group
    `G`. On `nil`: no call of `startCalls G` failed, the whole group is
    appended after the engine's leaves and its calls are logged, the tracker
    is in step with the tree, and the group is dropped. On an error: the
    `n`-th call of `startCalls G` is the first that failed and the error is
    its error, the calls up to it are logged, the `n / 2` members inserted
    before it are appended, and the group is kept. -/
def StartContract (G : List IDCommitment) (e : RLN) : Option GoError × StaticGroupManager → Prop
  | (none, gm) => ∃ e' t', gm.rln = some e' ∧ gm.rootTracker = some t' ∧
      NoFaults (e.faults.take (startCalls G).length) ∧
      e'.leaves = e.leaves ++ G ∧ e'.calls = e.calls ++ startCalls G ∧
      Synced merkleRoot e' t' ∧ gm.group = []
  | (some err, gm) => ∃ e' t' n, gm.rln = some e' ∧ gm.rootTracker = some t' ∧
      n < (startCalls G).length ∧ FailsAt e.faults n err ∧
      e'.leaves = e.leaves ++ G.take (n / 2) ∧ e'.calls = e.calls ++ (startCalls G).take (n + 1) ∧
      gm.group = G

/-- What `InsertMember c` does on the manager `gm`. When the engine insert
    fails, its error comes back with the tree and tracker as they were and no
    sync made. When it succeeds, the tree gains `c`, an insert and a root read
    are logged, and the call returns the error of the sync's root read: on
    `nil` the tracker is in step with the tree, and on an error the window is
    kept as it was. A manager that was never started panics. -/
def InsertContract (gm : StaticGroupManager) (c : IDCommitment)
    (res : Option (Option GoError × StaticGroupManager)) : Prop :=
  match gm.rln with
  | none => res = none
  | some e =>
    match nextFault e.faults with
    | some err => res = some (some err, { gm with rln := some (e.record (.insertMember c)) })
    | none =>
      match gm.rootTracker with
      | none => res = none
      | some t => ∃ e' t',
          res = some (nextFault e.faults.tail, { gm with rln := some e', rootTracker := some t' }) ∧
          e'.leaves = e.leaves ++ [c] ∧ e'.calls = e.calls ++ [.insertMember c, .getMerkleRoot] ∧
          (nextFault e.faults.tail = none → Synced merkleRoot e' t') ∧
          (nextFault e.faults.tail ≠ none → t' = t)

namespace StaticGroupManager

theorem start_frame (gm : StaticGroupManager) (e : RLN) (t : MerkleRootTracker) :
    ∃ e' t' G, (gm.start merkleRoot e t).2 =
      { gm with rln := some e', rootTracker := some t', group := G } := by
  unfold start
  split
  · exact ⟨_, _, gm.group, rfl⟩
  · split
    · exact ⟨_, _, gm.group, rfl⟩
    · exact ⟨_, _, [], rfl⟩

theorem start_spec (gm : StaticGroupManager) (e : RLN) (t : MerkleRootTracker) :
    StartContract merkleRoot gm.group e (gm.start merkleRoot e t) := by
  unfold start
  cases hs : nextFault e.faults with
  | some err =>
      -- The first sync fails before any member is inserted.
      rw [t.sync_of_fault merkleRoot hs]
      exact ⟨_, _, 0, rfl, rfl, by simp [startCalls], failsAt_zero.2 hs, by simp, by simp [startCalls],
        rfl⟩
  | none =>
      rw [t.sync_of_ok merkleRoot hs]
      dsimp only
      rcases hl : addMembers merkleRoot gm.group (e.record .getMerkleRoot)
        (t.push (merkleRoot e.leaves)) with ⟨_ | err, e', t'⟩ <;> dsimp only [StartContract]
      · obtain ⟨hok, -⟩ := addMembers_spec merkleRoot _ _ _ hl
        obtain ⟨hnf, hlv, hc, hsy⟩ := hok rfl
        refine ⟨e', t', rfl, rfl, (noFaults_take_succ _ _).2 ⟨hs, hnf⟩, by simpa using hlv,
          by simp [hc, startCalls], hsy (MerkleRootTracker.push_newest _ _), rfl⟩
      · -- The loop's `n`-th call is the `n + 1`-th of `Start`.
        obtain ⟨n, hn, hf, hlv, hc⟩ := (addMembers_spec merkleRoot _ _ _ hl).2 err rfl
        exact ⟨e', t', n + 1, rfl, rfl, by simpa [startCalls] using hn, failsAt_succ.2 ⟨hs, hf⟩,
          by simpa using hlv, by simp [hc, startCalls], rfl⟩

theorem insertMember_spec (gm : StaticGroupManager) (c : IDCommitment) :
    InsertContract merkleRoot gm c (gm.insertMember merkleRoot c) := by
  unfold InsertContract insertMember
  rcases gm.rln with _ | e
  · rfl
  cases hi : nextFault e.faults with
  | some err => simp [RLN.insertMember_of_fault c hi, hi]
  | none =>
      simp only [RLN.insertMember_of_ok c hi, hi]
      rcases gm.rootTracker with _ | t
      · rfl
      dsimp only
      set e₁ : RLN := { e.record (.insertMember c) with leaves := e.leaves ++ [c] }
      -- The sync reads the root with the script's second entry.
      cases hs : nextFault e.faults.tail with
      | none =>
          rw [t.sync_of_ok merkleRoot (e := e₁) hs]
          exact ⟨_, _, rfl, rfl, by simp [e₁], fun _ => MerkleRootTracker.push_newest _ _,
            fun h => (h rfl).elim⟩
      | some err =>
          rw [t.sync_of_fault merkleRoot (e := e₁) hs]
          exact ⟨_, _, rfl, rfl, by simp [e₁], nofun, fun _ => rfl⟩

/-- A run of inserts on a started manager returns, keeps every leaf it found,
    and leaves the credential and index as they were. -/
theorem insertMembers_mounted {gm : StaticGroupManager} (hm : gm.Mounted) (cs : List IDCommitment) :
    ∃ gm', gm.insertMembers merkleRoot cs = some gm' ∧ gm.leaves <+: gm'.leaves ∧
      gm'.identityCredential = gm.identityCredential ∧
      gm'.membershipIndex = gm.membershipIndex := by
  induction cs generalizing gm with
  | nil => exact ⟨gm, rfl, List.prefix_refl _, rfl, rfl⟩
  | cons c cs ih =>
      obtain ⟨r, gm₁, h₁, hm₁, hid₁, hix₁, -⟩ := insertMember_mounted merkleRoot hm c
      obtain ⟨gm₂, h₂, hp₂, hid₂, hix₂⟩ := ih hm₁
      refine ⟨gm₂, by simp [insertMembers, h₁, h₂], ?_, hid₂.trans hid₁, hix₂.trans hix₁⟩
      exact (insertMember_extends_leaves merkleRoot h₁).trans hp₂

end StaticGroupManager

theorem start_insertMember_contract (gm : StaticGroupManager) (e : RLN) (t : MerkleRootTracker) :
    StartContract merkleRoot gm.group e (gm.start merkleRoot e t) ∧
      ∀ (gm' : StaticGroupManager) (c : IDCommitment),
        InsertContract merkleRoot gm' c (gm'.insertMember merkleRoot c) :=
  ⟨gm.start_spec merkleRoot e t, StaticGroupManager.insertMember_spec merkleRoot⟩

/-- The local commitment sits at the membership index shifted by the leaves
    the engine held before `Start`, after `Start` returns `nil` and after every
    later run of inserts, whatever each insert returns. -/
theorem leaf_at_shifted_membershipIndex {G : List IDCommitment} {C : IdentityCredential}
    {i : MembershipIndex} {gm gm₁ : StaticGroupManager}
    (hnew : newStaticGroupManager G C i = some (.ok gm)) (e : RLN) (t : MerkleRootTracker)
    (hstart : gm.start merkleRoot e t = (none, gm₁)) (cs : List IDCommitment) :
    ∃ gm₂, gm₁.insertMembers merkleRoot cs = some gm₂ ∧ gm₂.getMembershipIndex = .ok i ∧
      gm₂.identityCredentials = .ok C ∧
      gm₂.leaves[e.leaves.length + i.toNat]? = some C.idCommitment := by
  obtain ⟨hG, hgm⟩ := newStaticGroupManager_ok hnew
  have hc := gm.start_spec merkleRoot e t
  obtain ⟨e₀, t₀, G', hf⟩ := gm.start_frame merkleRoot e t
  rw [hstart] at hc hf
  change gm₁ = _ at hf
  obtain ⟨e', t', he', -, -, hl, -⟩ := hc
  have hm : gm₁.Mounted := by rw [hf]; exact ⟨rfl, rfl⟩
  obtain ⟨gm₂, hrun, ⟨s, hs⟩, hid, hix⟩ := StaticGroupManager.insertMembers_mounted merkleRoot hm cs
  simp only [hf, hgm] at hid hix he' hl
  refine ⟨gm₂, hrun, by simp [StaticGroupManager.getMembershipIndex, hix],
    by simp [StaticGroupManager.identityCredentials, hid], ?_⟩
  -- Start put the group right after the engine's leaves; the run only appended.
  have hlt : i.toNat < G.length := (List.getElem?_eq_some_iff.mp hG).1
  rw [← hs, List.getElem?_append_left (by simp [StaticGroupManager.leaves, hf, he', hl]; omega)]
  simpa [StaticGroupManager.leaves, hf, he', hl, List.getElem?_append_right] using hG

/-- A failed `Start` keeps the group and leaves the members it got through in
    the tree, so a second `Start` on the engine and tracker it mounted inserts
    them again: a retry that succeeds leaves those members twice. -/
theorem start_after_failed_start (gm : StaticGroupManager) (e : RLN) (t : MerkleRootTracker)
    {err : GoError} {gm₁ : StaticGroupManager} (h₁ : gm.start merkleRoot e t = (some err, gm₁)) :
    ∃ k e₁ t₁, gm₁.rln = some e₁ ∧ gm₁.rootTracker = some t₁ ∧
      e₁.leaves = e.leaves ++ gm.group.take k ∧
      ∀ gm₂, gm₁.start merkleRoot e₁ t₁ = (none, gm₂) →
        gm₂.leaves = e.leaves ++ gm.group.take k ++ gm.group := by
  have h := gm.start_spec merkleRoot e t
  rw [h₁] at h
  obtain ⟨e₁, t₁, n, hr, ht, -, -, hl, -, hg⟩ := h
  refine ⟨n / 2, e₁, t₁, hr, ht, hl, fun gm₂ h₂ => ?_⟩
  have h' := gm₁.start_spec merkleRoot e₁ t₁
  rw [h₂] at h'
  obtain ⟨e₂, -, hr₂, -, -, hl₂, -⟩ := h'
  simp [StaticGroupManager.leaves, hr₂, hl₂, hl, hg]

end Contracts

/-- An engine that already holds a leaf from a prior run: after `Start` and
    one more insert, the local commitment sits one past the membership index. -/
theorem leaf_at_shifted_membershipIndex_after_prior_leaf :
    ∃ gm gm₁ : StaticGroupManager,
      newStaticGroupManager [⟨1 :: List.replicate 31 0, rfl⟩]
          ⟨Bytes.zero 32, ⟨1 :: List.replicate 31 0, rfl⟩⟩ 0 = some (.ok gm) ∧
        gm.start (fun _ => Bytes.zero 32) ⟨[Bytes.zero 32], [], []⟩ ⟨[], Nat.zero_le _⟩ = (none, gm₁) ∧
        ∃ gm₂, gm₁.insertMembers (fun _ => Bytes.zero 32) [Bytes.zero 32] = some gm₂ ∧
          gm₂.getMembershipIndex = .ok 0 ∧
          gm₂.identityCredentials = .ok ⟨Bytes.zero 32, ⟨1 :: List.replicate 31 0, rfl⟩⟩ ∧
          gm₂.leaves[[Bytes.zero 32].length + (0 : MembershipIndex).toNat]? =
            some ⟨1 :: List.replicate 31 0, rfl⟩ :=
  ⟨_, _, rfl, rfl, leaf_at_shifted_membershipIndex (fun _ => Bytes.zero 32)
    (G := [⟨1 :: List.replicate 31 0, rfl⟩]) (C := ⟨Bytes.zero 32, ⟨1 :: List.replicate 31 0, rfl⟩⟩)
    (i := 0) rfl ⟨[Bytes.zero 32], [], []⟩ ⟨[], Nat.zero_le _⟩ rfl [Bytes.zero 32]⟩

/-- A group of two whose second insert fails: the retry puts the first member
    in the tree twice. -/
theorem start_after_failed_start_second_insert :
    ∃ err gm₁, (⟨none, none, none, [Bytes.zero 32, ⟨1 :: List.replicate 31 0, rfl⟩], none⟩ :
        StaticGroupManager).start (fun _ => Bytes.zero 32)
          ⟨[], [none, none, none, some ⟨"insert failed"⟩], []⟩ ⟨[], Nat.zero_le _⟩ =
        (some err, gm₁) ∧
      (∃ k e₁ t₁, gm₁.rln = some e₁ ∧ gm₁.rootTracker = some t₁ ∧
        e₁.leaves = [] ++ [Bytes.zero 32, ⟨1 :: List.replicate 31 0, rfl⟩].take k ∧
        ∀ gm₂, gm₁.start (fun _ => Bytes.zero 32) e₁ t₁ = (none, gm₂) →
          gm₂.leaves = [] ++ [Bytes.zero 32, ⟨1 :: List.replicate 31 0, rfl⟩].take k ++
            [Bytes.zero 32, ⟨1 :: List.replicate 31 0, rfl⟩]) ∧
      (gm₁.start (fun _ => Bytes.zero 32) (gm₁.rln.getD ⟨[], [], []⟩)
          (gm₁.rootTracker.getD ⟨[], Nat.zero_le _⟩)).2.leaves =
        [Bytes.zero 32, Bytes.zero 32, ⟨1 :: List.replicate 31 0, rfl⟩] :=
  ⟨_, _, rfl, start_after_failed_start (fun _ => Bytes.zero 32)
    ⟨none, none, none, [Bytes.zero 32, ⟨1 :: List.replicate 31 0, rfl⟩], none⟩
    ⟨[], [none, none, none, some ⟨"insert failed"⟩], []⟩ ⟨[], Nat.zero_le _⟩ rfl, rfl⟩

/-- On an engine that already holds a leaf from a prior run, the leaf at the
    unshifted membership index is that old leaf, not the local commitment. -/
theorem leaf_at_membershipIndex_prior_leaves :
    ¬ ∀ (merkleRoot : List IDCommitment → MerkleNode) (G : List IDCommitment)
        (cred : IdentityCredential) (i : MembershipIndex) (gm gm₁ : StaticGroupManager)
        (e : RLN) (t : MerkleRootTracker),
        newStaticGroupManager G cred i = some (.ok gm) → gm.start merkleRoot e t = (none, gm₁) →
        ∀ i' cred', gm₁.getMembershipIndex = .ok i' → gm₁.identityCredentials = .ok cred' →
          gm₁.leaves[i'.toNat]? = some cred'.idCommitment := by
  intro h
  have := h (fun _ => Bytes.zero 32) [⟨1 :: List.replicate 31 0, rfl⟩]
    ⟨Bytes.zero 32, ⟨1 :: List.replicate 31 0, rfl⟩⟩ 0 _ _ ⟨[Bytes.zero 32], [], []⟩
    ⟨[], Nat.zero_le _⟩ rfl rfl 0 _ rfl rfl
  exact absurd this (by decide)

end Rln

end GoWaku
