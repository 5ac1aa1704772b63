import GoWaku.Rln.Engine

/-!
# The Static Group Manager

`StaticGroupManager` from `group_manager/static/static.go`: the off-chain group
manager, which is handed the whole group at construction and loads it into the
engine when it starts.

The construction gate reads `group[int(index)]` with no bounds check, so it
panics for an index past the end of the group, and for one from `2^63` up,
which `int` turns negative (`newStaticGroupManager_eq_none_iff`). Inside the
group it is the gate the spec describes: the mismatch error exactly when
another commitment sits at the index, and otherwise a manager reporting the
index and credential it was given (`newStaticGroupManager_of_lt`).

The Go struct holds pointers to the engine and the root tracker, set by
`Start` and shared with the rest of the node. Here the manager holds the two
values themselves, as `Option`s that are `none` until `Start` stores them, and
each method returns the manager with their new states. A method that reaches
one of them while it is still `none` is the nil-pointer panic Go would raise.

`Start` is one sync, then a loop over the group that inserts each member and
syncs after it; the loop is `addMembers`, and it returns at the first error,
as the Go `for` does. `addMembers_spec` is its one spec lemma, which ties how
the loop ends to the engine's fault script: when it returns `nil` no call
failed, and it got through the whole group, logged an insert and a root read
for each member, and left the tracker in step with the tree; when it returns
an error, that is the error of the first call that failed, and the tree holds
exactly the members inserted before that call. Everything about `Start` is
read off it.

## Main definitions

* `StaticGroupManager`: The manager's fields.
* `newStaticGroupManager`: `NewStaticGroupManager`, the construction gate.
* `addMembers`: The loop of `Start`.
* `StaticGroupManager.start`: `Start`.
* `StaticGroupManager.insertMember`: `InsertMember`.
* `StaticGroupManager.identityCredentials`: `IdentityCredentials`.
* `StaticGroupManager.getMembershipIndex`: `MembershipIndex`.
* `StaticGroupManager.stop`: `Stop`.
* `Synced`: The tracker's newest root is the tree's root.
* `loadCalls`, `startCalls`: The engine calls of a full load of a group, and
  of a `Start` that loads it.

## Theorems

* `newStaticGroupManager_ok`: What a successful construction checked and built.
* `newStaticGroupManager_eq_none_iff`: Construction panics exactly off the group.
* `newStaticGroupManager_out_of_range_panics`: Two indices off the group.
* `newStaticGroupManager_of_lt`: Construction at an index inside the group.
* `addMembers_spec`: The loop inserts the whole group, or the members before
  the first call that fails.
* `insertMember_mounted`: `InsertMember` on a started manager returns, and keeps it
  started.
* `insertMember_extends_leaves`: `InsertMember` only ever appends to the tree.
-/

namespace GoWaku

namespace Rln

/-- The fields of `StaticGroupManager`; the logger is left out. -/
structure StaticGroupManager where
  rln : Option RLN
  identityCredential : Option IdentityCredential
  membershipIndex : Option MembershipIndex
  group : List IDCommitment
  rootTracker : Option MerkleRootTracker
deriving DecidableEq, Repr

/-- `NewStaticGroupManager`: check that the credential's commitment sits at
    the claimed index of the group. `group[int(index)]` is evaluated with no
    bounds check, so an index outside the group panics. -/
def newStaticGroupManager (group : List IDCommitment) (identityCredential : IdentityCredential)
    (index : MembershipIndex) : Option (Except GoError StaticGroupManager) :=
  (goIndex group (goInt index)).map fun member =>
    if identityCredential.idCommitment ≠ member then
      .error ⟨"peer's IDCommitment does not match commitment in group"⟩
    else
      .ok { rln := none
            identityCredential := some identityCredential
            membershipIndex := some index
            group := group
            rootTracker := none }

theorem newStaticGroupManager_ok {group : List IDCommitment} {cred : IdentityCredential}
    {index : MembershipIndex} {gm : StaticGroupManager}
    (h : newStaticGroupManager group cred index = some (.ok gm)) :
    group[index.toNat]? = some cred.idCommitment ∧
      gm = { rln := none, identityCredential := some cred, membershipIndex := some index,
             group := group, rootTracker := none } := by
  unfold newStaticGroupManager at h
  obtain ⟨m, hm, hgm⟩ := Option.map_eq_some'.mp h
  split_ifs at hgm with hne
  cases hgm
  exact ⟨by rw [goIndex_goInt_eq_some hm, not_not.mp hne], rfl⟩

/-- Construction panics exactly when the index is outside the group: past its
    end, or from `2^63` up, where `int(index)` is negative. -/
theorem newStaticGroupManager_eq_none_iff (group : List IDCommitment) (cred : IdentityCredential)
    (index : MembershipIndex) :
    newStaticGroupManager group cred index = none ↔
      group.length ≤ index.toNat ∨ 9223372036854775808 ≤ index.toNat := by
  rw [newStaticGroupManager, Option.map_eq_none', goIndex_goInt_eq_none_iff]

/-- An empty group with index `0`, and a one-member group holding the
    credential's commitment with index `2^63`: both constructions panic. -/
theorem newStaticGroupManager_out_of_range_panics :
    newStaticGroupManager [] ⟨Bytes.zero 32, Bytes.zero 32⟩ 0 = none ∧
      newStaticGroupManager [Bytes.zero 32] ⟨Bytes.zero 32, Bytes.zero 32⟩
        9223372036854775808 = none :=
  ⟨rfl, rfl⟩

section Run

variable (merkleRoot : List IDCommitment → MerkleNode)

/-- The loop of `Start`: insert each member in order and sync after it,
    returning at the first error. -/
def addMembers : List IDCommitment → RLN → MerkleRootTracker →
    Option GoError × RLN × MerkleRootTracker
  | [], e, t => (none, e, t)
  | member :: rest, e, t =>
    match e.insertMember member with
    | (some err, e) => (some err, e, t)
    | (none, e) =>
      match t.sync merkleRoot e with
      | (some err, e, t) => (some err, e, t)
      | (none, e, t) => addMembers rest e t

namespace StaticGroupManager

/-- `Start`: mount the engine and tracker, sync once, load the group, and drop
    it once every member is in. -/
def start (gm : StaticGroupManager) (rlnInstance : RLN) (rootTracker : MerkleRootTracker) :
    Option GoError × StaticGroupManager :=
  match rootTracker.sync merkleRoot rlnInstance with
  | (some err, e, t) => (some err, { gm with rln := some e, rootTracker := some t })
  | (none, e, t) =>
    match addMembers merkleRoot gm.group e t with
    | (some err, e, t) => (some err, { gm with rln := some e, rootTracker := some t })
    | (none, e, t) => (none, { gm with rln := some e, rootTracker := some t, group := [] })

/-- `InsertMember`: insert into the engine, then sync the tracker; a failed
    insert returns before the sync. `none` is the panic of a manager that was
    never started. -/
def insertMember (gm : StaticGroupManager) (pubkey : IDCommitment) :
    Option (Option GoError × StaticGroupManager) :=
  match gm.rln with
  | none => none
  | some e =>
    match e.insertMember pubkey with
    | (some err, e) => some (some err, { gm with rln := some e })
    | (none, e) =>
      match gm.rootTracker with
      | none => none
      | some t =>
        let (err, e, t) := t.sync merkleRoot e
        some (err, { gm with rln := some e, rootTracker := some t })

/-- `InsertMember` with each commitment in turn, whatever each call returns;
    `none` if a call panics. -/
def insertMembers (gm : StaticGroupManager) : List IDCommitment → Option StaticGroupManager
  | [] => some gm
  | c :: cs =>
    match gm.insertMember merkleRoot c with
    | none => none
    | some (_, gm) => insertMembers gm cs

end StaticGroupManager

end Run

namespace StaticGroupManager

/-- `IdentityCredentials`. -/
def identityCredentials (gm : StaticGroupManager) : Except GoError IdentityCredential :=
  match gm.identityCredential with
  | none => .error ⟨"identity credential has not been setup"⟩
  | some c => .ok c

/-- `MembershipIndex`; the Go method shares its name with the field it reads. -/
def getMembershipIndex (gm : StaticGroupManager) : Except GoError MembershipIndex :=
  match gm.membershipIndex with
  | none => .error ⟨"membership index has not been setup"⟩
  | some i => .ok i

/-- `Stop`: the static manager owns no background work. -/
def stop (gm : StaticGroupManager) : StaticGroupManager := gm

/-- The leaves of the mounted engine; none before `Start`. -/
def leaves (gm : StaticGroupManager) : List IDCommitment :=
  match gm.rln with
  | some e => e.leaves
  | none => []

end StaticGroupManager

section Spec

variable (merkleRoot : List IDCommitment → MerkleNode)

/-- The tracker's newest root is the root of the engine's tree. -/
def Synced (e : RLN) (t : MerkleRootTracker) : Prop :=
  t.newest = some (merkleRoot e.leaves)

/-- The engine calls of loading a group: an insert and a root read per member. -/
def loadCalls (group : List IDCommitment) : List Call :=
  group.flatMap fun m => [.insertMember m, .getMerkleRoot]

@[simp] theorem loadCalls_nil : loadCalls [] = [] := rfl

@[simp] theorem loadCalls_cons (m : IDCommitment) (rest : List IDCommitment) :
    loadCalls (m :: rest) = .insertMember m :: .getMerkleRoot :: loadCalls rest := rfl

/-- The engine calls of `Start` when none fails: the first sync's root read,
    then the load. -/
def startCalls (group : List IDCommitment) : List Call :=
  .getMerkleRoot :: loadCalls group

/-- The loop of `Start`, by how it ends. When it returns `nil`, the script
    failed none of its calls, and it got through the whole group, each member
    inserted once and followed by a sync, leaving the tracker in step with the
    tree. When it returns an error, that is the error of the first call that
    failed, the calls up to that one are logged, and the members inserted
    before it, `(n + 1) / 2` of them for the `n`-th call, are in the tree. -/
theorem addMembers_spec (group : List IDCommitment) (e : RLN) (t : MerkleRootTracker)
    {r : Option GoError} {e' : RLN} {t' : MerkleRootTracker}
    (h : addMembers merkleRoot group e t = (r, e', t')) :
    (r = none → NoFaults (e.faults.take (loadCalls group).length) ∧
        e'.leaves = e.leaves ++ group ∧ e'.calls = e.calls ++ loadCalls group ∧
        (Synced merkleRoot e t → Synced merkleRoot e' t')) ∧
      ∀ err, r = some err → ∃ n < (loadCalls group).length, FailsAt e.faults n err ∧
        e'.leaves = e.leaves ++ group.take ((n + 1) / 2) ∧
        e'.calls = e.calls ++ (loadCalls group).take (n + 1) := by
  induction group generalizing e t with
  | nil =>
      simp only [addMembers, Prod.mk.injEq] at h
      obtain ⟨rfl, rfl, rfl⟩ := h
      exact ⟨fun _ => ⟨by simp [NoFaults.nil], by simp, by simp, id⟩, nofun⟩
  | cons m rest ih =>
      cases hi : nextFault e.faults with
      | some err =>
          -- The insert fails: it is the first call, and nothing of the group went in.
          simp only [addMembers, RLN.insertMember_of_fault m hi, Prod.mk.injEq] at h
          obtain ⟨rfl, rfl, rfl⟩ := h
          refine ⟨nofun, fun _ he => ?_⟩
          cases he
          exact ⟨0, by simp, failsAt_zero.2 hi, by simp, by simp⟩
      | none =>
          simp only [addMembers, RLN.insertMember_of_ok m hi] at h
          set e₁ : RLN := { e.record (.insertMember m) with leaves := e.leaves ++ [m] }
          cases hs : nextFault e₁.faults with
          | some err =>
              -- The sync fails: it is the second call, and the first member is in.
              simp only [t.sync_of_fault merkleRoot hs, Prod.mk.injEq] at h
              obtain ⟨rfl, rfl, rfl⟩ := h
              refine ⟨nofun, fun _ he => ?_⟩
              cases he
              exact ⟨1, by simp, failsAt_succ.2 ⟨hi, failsAt_zero.2 hs⟩, by simp [e₁], by simp [e₁]⟩
          | none =>
              simp only [t.sync_of_ok merkleRoot hs] at h
              obtain ⟨hok, herr⟩ := ih _ _ h
              refine ⟨fun hr => ?_, fun err hr => ?_⟩
              · obtain ⟨hnf, hl, hc, hsy⟩ := hok hr
                refine ⟨?_, by simp [hl, e₁], by simp [hc, e₁], fun _ => hsy ?_⟩
                · simpa only [loadCalls_cons, List.length_cons, noFaults_take_succ] using ⟨hi, hs, hnf⟩
                · exact MerkleRootTracker.push_newest _ _
              · obtain ⟨n, hn, hf, hl, hc⟩ := herr err hr
                refine ⟨n + 2, by simpa using hn, failsAt_succ.2 ⟨hi, failsAt_succ.2 ⟨hs, hf⟩⟩, ?_,
                  by simp [hc, e₁]⟩
                rw [hl, show (n + 2 + 1) / 2 = (n + 1) / 2 + 1 by omega]
                simp [e₁]

namespace StaticGroupManager

/-- A started manager: both the engine and the tracker are mounted. -/
def Mounted (gm : StaticGroupManager) : Prop :=
  gm.rln.isSome ∧ gm.rootTracker.isSome

/-- `InsertMember` on a started manager returns, the manager stays started,
    and nothing but the engine and tracker changes. -/
theorem insertMember_mounted {gm : StaticGroupManager} (hm : gm.Mounted) (c : IDCommitment) :
    ∃ r gm', gm.insertMember merkleRoot c = some (r, gm') ∧ gm'.Mounted ∧
      gm'.identityCredential = gm.identityCredential ∧
      gm'.membershipIndex = gm.membershipIndex ∧ gm'.group = gm.group := by
  obtain ⟨e, he⟩ := Option.isSome_iff_exists.mp hm.1
  obtain ⟨t, ht⟩ := Option.isSome_iff_exists.mp hm.2
  unfold insertMember
  cases hi : nextFault e.faults with
  | some err =>
      simp only [he, RLN.insertMember_of_fault c hi]
      exact ⟨_, _, rfl, ⟨rfl, by simp [ht]⟩, rfl, rfl, rfl⟩
  | none =>
      simp only [he, RLN.insertMember_of_ok c hi, ht]
      exact ⟨_, _, rfl, ⟨rfl, rfl⟩, rfl, rfl, rfl⟩

/-- `InsertMember` never removes or reorders a leaf: the tree before the call
    is a prefix of the tree after it. -/
theorem insertMember_extends_leaves {gm gm' : StaticGroupManager} {c : IDCommitment}
    {r : Option GoError} (h : gm.insertMember merkleRoot c = some (r, gm')) :
    gm.leaves <+: gm'.leaves := by
  unfold insertMember at h
  rcases he : gm.rln with _ | e
  · simp [he] at h
  cases hi : nextFault e.faults with
  | some err =>
      simp only [he, RLN.insertMember_of_fault c hi, Option.some.injEq, Prod.mk.injEq] at h
      obtain ⟨-, rfl⟩ := h
      simp [leaves, he]
  | none =>
      simp only [he, RLN.insertMember_of_ok c hi] at h
      rcases ht : gm.rootTracker with _ | t
      · simp [ht] at h
      simp only [ht, Option.some.injEq, Prod.mk.injEq] at h
      obtain ⟨-, rfl⟩ := h
      simp only [leaves, he, MerkleRootTracker.sync_leaves]
      exact List.prefix_append _ _

end StaticGroupManager

end Spec

end Rln

end GoWaku
