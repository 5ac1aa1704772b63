import GoWaku.Rln.Membership

/-!
# The Root Window over a Run

What the window of acceptable roots holds after a run of the static manager:
`Start`, then any number of `InsertMember` calls, each of which may fail at the
engine or at the sync after it. An RLN proof is accepted against any root in
the window, so the window should hold roots the tree has had, and nothing
else.

It does. The manager only ever appends to the tree, and a sync pushes the root
of the tree as it stands, so every root in the window is the root of a prefix
of the current leaves, and the window keeps them oldest first, by prefix
length (`PrefixRoots`). An insert keeps this because every prefix of the old
tree is a prefix of the new one (`PrefixRoots.append`); a sync either changes
nothing or pushes the root of the whole tree, the longest prefix there is
(`PrefixRoots.push`). `addMembers_preserves` carries any fact the two engine
operations keep through the loop of `Start`, so the loop is not unfolded
again, and `insertMembers_windowOfPrefixes` carries it through any run of
inserts.

## Main definitions

* `PrefixRoots`: The window holds roots of prefixes of the tree, oldest first.
* `StaticGroupManager.WindowOfPrefixes`: A mounted manager whose window does.

## Theorems

* `PrefixRoots.append`, `PrefixRoots.push`: Growing the tree, and pushing its
  root.
* `PrefixRoots.sync`, `PrefixRoots.insertMember`: The two engine operations.
* `addMembers_preserves`: The loop of `Start` keeps what both operations keep.
* `StaticGroupManager.start_windowOfPrefixes`: After `Start`.
* `StaticGroupManager.insertMember_windowOfPrefixes`: After `InsertMember`.
* `start_insertMembers_windowOfPrefixes`: After a whole run.
-/

namespace GoWaku

namespace Rln

section Window

variable (merkleRoot : List IDCommitment → MerkleNode)

/-- The window holds, oldest first, the roots of prefixes of `leaves`, of
    lengths that never decrease. -/
def PrefixRoots (leaves : List IDCommitment) (t : MerkleRootTracker) : Prop :=
  ∃ ks : List Nat, ks.Pairwise (· ≤ ·) ∧ (∀ k ∈ ks, k ≤ leaves.length) ∧
    t.validMerkleRoots = ks.map fun k => merkleRoot (leaves.take k)

/-- A manager with its engine and tracker mounted, whose window holds roots
    of prefixes of the engine's tree. -/
def StaticGroupManager.WindowOfPrefixes (gm : StaticGroupManager) : Prop :=
  ∃ e t, gm.rln = some e ∧ gm.rootTracker = some t ∧ PrefixRoots merkleRoot e.leaves t

variable {merkleRoot}

/-- A root of a prefix of the tree stays one when the tree grows. -/
theorem PrefixRoots.append {leaves : List IDCommitment} {t : MerkleRootTracker}
    (h : PrefixRoots merkleRoot leaves t) (cs : List IDCommitment) :
    PrefixRoots merkleRoot (leaves ++ cs) t := by
  obtain ⟨ks, hs, hle, ht⟩ := h
  refine ⟨ks, hs, fun k hk => (hle k hk).trans (by simp), ?_⟩
  rw [ht]
  exact List.map_congr_left fun k hk => by rw [List.take_append_of_le_length (hle k hk)]

/-- Pushing the root of the whole tree keeps the window ordered: it is the
    longest prefix, and eviction drops the oldest entry. -/
theorem PrefixRoots.push {leaves : List IDCommitment} {t : MerkleRootTracker}
    (h : PrefixRoots merkleRoot leaves t) :
    PrefixRoots merkleRoot leaves (t.push (merkleRoot leaves)) := by
  obtain ⟨ks, hs, hle, ht⟩ := h
  have hs' : (ks ++ [leaves.length]).Pairwise (· ≤ ·) :=
    List.pairwise_append.mpr ⟨hs, List.pairwise_singleton _ _, fun a ha _ hb =>
      (List.mem_singleton.mp hb) ▸ hle a ha⟩
  have hle' : ∀ k ∈ ks ++ [leaves.length], k ≤ leaves.length := by
    simpa [or_imp, forall_and] using hle
  have ht' : t.validMerkleRoots ++ [merkleRoot leaves] =
      (ks ++ [leaves.length]).map fun k => merkleRoot (leaves.take k) := by
    simp [ht]
  unfold MerkleRootTracker.push
  split_ifs
  · exact ⟨ks, hs, hle, ht⟩
  · exact ⟨_, hs', hle', ht'⟩
  · -- The oldest entry is evicted.
    refine ⟨(ks ++ [leaves.length]).tail, hs'.sublist (List.tail_sublist _),
      fun k hk => hle' k (List.mem_of_mem_tail hk), ?_⟩
    rw [List.map_tail, ← ht']

variable (merkleRoot)

theorem PrefixRoots.sync {e : RLN} {t : MerkleRootTracker} (h : PrefixRoots merkleRoot e.leaves t) :
    PrefixRoots merkleRoot (t.sync merkleRoot e).2.1.leaves (t.sync merkleRoot e).2.2 := by
  rw [t.sync_leaves]
  cases hf : nextFault e.faults with
  | none => rw [t.sync_of_ok merkleRoot hf]; exact h.push
  | some err => rw [t.sync_of_fault merkleRoot hf]; exact h

theorem PrefixRoots.insertMember {e : RLN} {t : MerkleRootTracker}
    (h : PrefixRoots merkleRoot e.leaves t) (c : IDCommitment) :
    PrefixRoots merkleRoot (e.insertMember c).2.leaves t := by
  cases hf : nextFault e.faults with
  | none => rw [RLN.insertMember_of_ok c hf]; exact h.append [c]
  | some err => rw [RLN.insertMember_of_fault c hf]; exact h

/-- The loop of `Start` keeps every fact of the engine and tracker that an
    insert and a sync keep, whichever call fails. -/
theorem addMembers_preserves (P : RLN → MerkleRootTracker → Prop)
    (hins : ∀ e t c, P e t → P (e.insertMember c).2 t)
    (hsync : ∀ e t, P e t → P (t.sync merkleRoot e).2.1 (t.sync merkleRoot e).2.2)
    (group : List IDCommitment) {e : RLN} {t : MerkleRootTracker} (h : P e t) :
    P (addMembers merkleRoot group e t).2.1 (addMembers merkleRoot group e t).2.2 := by
  induction group generalizing e t with
  | nil => exact h
  | cons m rest ih =>
    have h₁ := hins e t m h
    unfold addMembers
    rcases hi : e.insertMember m with ⟨_ | err, e₁⟩ <;> rw [hi] at h₁ <;> dsimp only
    · have h₂ := hsync e₁ t h₁
      rcases hs : t.sync merkleRoot e₁ with ⟨_ | err, e₂, t₂⟩ <;> rw [hs] at h₂ <;> dsimp only
      exacts [ih h₂, h₂]
    · exact h₁

namespace StaticGroupManager

/-- `Start` mounts the engine and tracker, and keeps the window's roots those
    of prefixes of the tree, whatever it returns. -/
theorem start_windowOfPrefixes (gm : StaticGroupManager) {e : RLN} {t : MerkleRootTracker}
    (h : PrefixRoots merkleRoot e.leaves t) :
    (gm.start merkleRoot e t).2.WindowOfPrefixes merkleRoot := by
  have h₁ := h.sync merkleRoot
  unfold start
  rcases hs : t.sync merkleRoot e with ⟨_ | err, e₁, t₁⟩ <;> rw [hs] at h₁ <;> dsimp only
  · have h₂ := addMembers_preserves merkleRoot (fun e t => PrefixRoots merkleRoot e.leaves t)
      (fun _ _ c h => h.insertMember merkleRoot c) (fun _ _ h => h.sync merkleRoot) gm.group h₁
    rcases ha : addMembers merkleRoot gm.group e₁ t₁ with ⟨_ | err, e₂, t₂⟩ <;> rw [ha] at h₂ <;>
      exact ⟨_, _, rfl, rfl, h₂⟩
  · exact ⟨_, _, rfl, rfl, h₁⟩

/-- `InsertMember` keeps it, whatever it returns. -/
theorem insertMember_windowOfPrefixes {gm gm' : StaticGroupManager} {c : IDCommitment}
    {r : Option GoError} (hw : gm.WindowOfPrefixes merkleRoot)
    (h : gm.insertMember merkleRoot c = some (r, gm')) : gm'.WindowOfPrefixes merkleRoot := by
  obtain ⟨e, t, he, ht, hp⟩ := hw
  have h₁ := hp.insertMember merkleRoot c
  unfold insertMember at h
  rw [he] at h
  dsimp only at h
  rcases hi : e.insertMember c with ⟨_ | err, e₁⟩ <;> rw [hi] at h h₁ <;> dsimp only at h h₁
  · have h₂ := h₁.sync merkleRoot
    rw [ht] at h
    dsimp only at h
    rcases hs : t.sync merkleRoot e₁ with ⟨r', e₂, t₂⟩
    rw [hs] at h h₂
    cases h
    exact ⟨_, _, rfl, rfl, h₂⟩
  · cases h
    exact ⟨_, t, rfl, ht, h₁⟩

theorem insertMembers_windowOfPrefixes {gm : StaticGroupManager}
    (hw : gm.WindowOfPrefixes merkleRoot) (cs : List IDCommitment) :
    ∃ gm', gm.insertMembers merkleRoot cs = some gm' ∧ gm'.WindowOfPrefixes merkleRoot := by
  induction cs generalizing gm with
  | nil => exact ⟨gm, rfl, hw⟩
  | cons c cs ih =>
    obtain ⟨e, t, he, ht, hp⟩ := hw
    obtain ⟨r, gm₁, h₁, -⟩ := @insertMember_mounted merkleRoot gm ⟨by simp [he], by simp [ht]⟩ c
    obtain ⟨gm₂, h₂, hw₂⟩ := ih (insertMember_windowOfPrefixes merkleRoot ⟨e, t, he, ht, hp⟩ h₁)
    exact ⟨gm₂, by simp [insertMembers, h₁, h₂], hw₂⟩

end StaticGroupManager

/-- Over a whole run, `Start` and then any inserts, each call succeeding or
    failing at the engine or at the sync, no call panics, and the window only
    ever holds roots of prefixes of the engine's tree, oldest first, provided
    it did when `Start` was handed it (an empty window does). -/
theorem start_insertMembers_windowOfPrefixes (gm : StaticGroupManager) {e : RLN}
    {t : MerkleRootTracker} (h : PrefixRoots merkleRoot e.leaves t) (cs : List IDCommitment) :
    ∃ gm', (gm.start merkleRoot e t).2.insertMembers merkleRoot cs = some gm' ∧
      ∃ e' t', gm'.rln = some e' ∧ gm'.rootTracker = some t' ∧
        ∃ ks : List Nat, ks.Pairwise (· ≤ ·) ∧ (∀ k ∈ ks, k ≤ e'.leaves.length) ∧
          t'.validMerkleRoots = ks.map fun k => merkleRoot (e'.leaves.take k) :=
  StaticGroupManager.insertMembers_windowOfPrefixes merkleRoot
    (StaticGroupManager.start_windowOfPrefixes merkleRoot gm h) cs

/-- A one-member group loaded into an empty engine with an empty window, then
    one more insert. -/
theorem start_insertMembers_windowOfPrefixes_empty_window :
    PrefixRoots (fun _ => Bytes.zero 32) [] ⟨[], Nat.zero_le _⟩ ∧
      ∃ gm', (StaticGroupManager.start (fun _ => Bytes.zero 32)
          ⟨none, none, none, [Bytes.zero 32], none⟩ ⟨[], [], []⟩ ⟨[], Nat.zero_le _⟩).2.insertMembers
          (fun _ => Bytes.zero 32) [Bytes.zero 32] = some gm' ∧
        ∃ e' t', gm'.rln = some e' ∧ gm'.rootTracker = some t' ∧
          ∃ ks : List Nat, ks.Pairwise (· ≤ ·) ∧ (∀ k ∈ ks, k ≤ e'.leaves.length) ∧
            t'.validMerkleRoots = ks.map fun _ => Bytes.zero 32 :=
  ⟨⟨[], .nil, nofun, rfl⟩,
    start_insertMembers_windowOfPrefixes _ _ ⟨[], .nil, nofun, rfl⟩ [Bytes.zero 32]⟩

end Window

end Rln

end GoWaku
