import Mathlib.Data.List.Basic

/-!
# Go Values

The few pieces of Go's runtime that the modelled functions lean on, written
once so that every later module reads like the Go it embeds.

A Go `string` is a sequence of bytes with no encoding attached, and the code
converts freely between it and `[]byte` (`string(id)`, `[]byte(topic)`), so
both are `List UInt8` here. A fixed-size array `[n]byte` is `Bytes n`, a list
that carries its length as a field: a value of the wrong size cannot be built,
so nothing downstream has to check it again.

An `error` is `GoError`, holding the message `errors.New` was given. A pair
`(v, err)` in which `v` is the zero value whenever `err` is non-nil is an
`Except GoError α`; a function whose only result is an `error` returns an
`Option GoError`, with `none` for `nil`. A run-time panic (an index out of
range, a method called through a nil pointer) is the `none` of an outer
`Option`.

The external collaborators the code calls (the RLN engine, the libp2p host)
fail in ways the code cannot see coming. Each is given a *fault script*: the
outcomes of its next calls, in order, `some e` for a call that fails with `e`.
A call past the end of the script succeeds. Quantifying over every script
covers every pattern of failures a run can meet.

Go's `int` and `uint` are 64 bits wide on the platforms the node is built for.
A conversion between integer types keeps the low bits, so `int(u)` reads a
`uint` above `2^63` as a negative number and `uint16(i)` keeps `i` modulo
`2^16`.

## Main definitions

* `GoString`: A Go string, as its bytes.
* `Bytes`: A fixed-size byte array `[n]byte`.
* `GoError`: A Go `error` value.
* `nextFault`: How an external call ends, read off a fault script.
* `NoFaults`: A fault script that fails no call.
* `FailsAt`: The position of the first call a fault script fails.
* `goInt`: The conversion `int(u)` of a `uint`.
* `goUint16`: The conversion `uint16(i)` of an `int`.
* `goIndex`: Slice indexing `xs[i]`, which panics out of range.

## Theorems

* `goInt_of_lt`: A `uint` below `2^63` converts to itself.
* `goIndex_eq_some`: Indexing in range returns the element.
* `goIndex_eq_none_iff`: Indexing panics exactly out of range.
* `goIndex_goInt_eq_some`: Indexing at `int(u)` reads position `u`.
* `goIndex_goInt_eq_none_iff`: Where indexing at `int(u)` panics.
* `bind_eq_ok`: A successful `Except` computation, one step at a time.
* `goUint16_toNat`: `uint16(i)` keeps `i` modulo `2^16`.
-/

namespace GoWaku

/-- A Go string, as its bytes. -/
abbrev GoString := List UInt8

/-- A fixed-size byte array `[n]byte`. -/
structure Bytes (n : Nat) where
  data : List UInt8
  length_eq : data.length = n
deriving DecidableEq, Repr

/-- The all-zero array, Go's zero value for `[n]byte`. -/
def Bytes.zero (n : Nat) : Bytes n := ⟨List.replicate n 0, List.length_replicate n 0⟩

/-- A Go `error`, by the message it was created with. -/
structure GoError where
  msg : String
deriving DecidableEq, Repr

/-- How the next call to an external collaborator ends: the head of its fault
    script, and success once the script is used up. -/
def nextFault (faults : List (Option GoError)) : Option GoError :=
  faults.head?.join

@[simp] theorem nextFault_nil : nextFault [] = none := rfl

@[simp] theorem nextFault_cons (o : Option GoError) (os : List (Option GoError)) :
    nextFault (o :: os) = o := rfl

/-- A fault script that fails none of the calls it answers. -/
def NoFaults (faults : List (Option GoError)) : Prop :=
  ∀ o ∈ faults, o = none

theorem NoFaults.tail {faults : List (Option GoError)} (h : NoFaults faults) :
    NoFaults faults.tail :=
  fun o ho => h o (List.mem_of_mem_tail ho)

theorem NoFaults.nextFault {faults : List (Option GoError)} (h : NoFaults faults) :
    nextFault faults = none := by
  cases faults with
  | nil => rfl
  | cons o os => exact h o (List.mem_cons_self o os)

theorem NoFaults.nil : NoFaults [] := nofun

/-- The first `n + 1` calls go through exactly when the first does and the
    next `n` after it do. -/
theorem noFaults_take_succ (faults : List (Option GoError)) (n : Nat) :
    NoFaults (faults.take (n + 1)) ↔ nextFault faults = none ∧ NoFaults (faults.tail.take n) := by
  cases faults with
  | nil => simp [NoFaults.nil]
  | cons o os => exact List.forall_mem_cons

/-- The script answers its first `n` calls and fails the next one with `err`:
    the call at position `n` is the first that fails. -/
def FailsAt (faults : List (Option GoError)) (n : Nat) (err : GoError) : Prop :=
  NoFaults (faults.take n) ∧ nextFault (faults.drop n) = some err

theorem failsAt_zero {faults : List (Option GoError)} {err : GoError} :
    FailsAt faults 0 err ↔ nextFault faults = some err :=
  and_iff_right NoFaults.nil

theorem failsAt_succ {faults : List (Option GoError)} {n : Nat} {err : GoError} :
    FailsAt faults (n + 1) err ↔ nextFault faults = none ∧ FailsAt faults.tail n err := by
  rw [FailsAt, FailsAt, noFaults_take_succ, List.drop_tail, and_assoc]

theorem NoFaults.drop {faults : List (Option GoError)} (h : NoFaults faults) (n : Nat) :
    NoFaults (faults.drop n) :=
  fun o ho => h o (List.mem_of_mem_drop ho)

/-- The first `a + b` calls go through exactly when the first `a` do and the
    `b` after them do. -/
theorem noFaults_take_add (faults : List (Option GoError)) (a b : Nat) :
    NoFaults (faults.take (a + b)) ↔ NoFaults (faults.take a) ∧ NoFaults ((faults.drop a).take b) := by
  rw [List.take_add]
  exact List.forall_mem_append

/-- The call at position `a + n` is the first to fail exactly when the first
    `a` go through and, of the calls after them, the `n`-th is the first to
    fail. -/
theorem failsAt_add {faults : List (Option GoError)} {a n : Nat} {err : GoError} :
    FailsAt faults (a + n) err ↔ NoFaults (faults.take a) ∧ FailsAt (faults.drop a) n err := by
  rw [FailsAt, FailsAt, noFaults_take_add, List.drop_drop, and_assoc]

/-- A script that fails some call fails some call. -/
theorem FailsAt.not_noFaults {faults : List (Option GoError)} {n : Nat} {err : GoError}
    (h : FailsAt faults n err) : ¬ NoFaults faults := fun h0 =>
  nomatch (h0.drop n).nextFault.symm.trans h.2

/-- Of the first `m` calls, none fails or one is the first to. -/
theorem noFaults_take_or_failsAt (faults : List (Option GoError)) (m : Nat) :
    NoFaults (faults.take m) ∨ ∃ n < m, ∃ err, FailsAt faults n err := by
  induction m generalizing faults with
  | zero => exact .inl (by simp [NoFaults.nil])
  | succ m ih =>
    cases hf : nextFault faults with
    | some err => exact .inr ⟨0, Nat.succ_pos m, err, failsAt_zero.2 hf⟩
    | none =>
      rcases ih faults.tail with h | ⟨n, hn, err, h⟩
      · exact .inl ((noFaults_take_succ _ _).2 ⟨hf, h⟩)
      · exact .inr ⟨n + 1, Nat.succ_lt_succ hn, err, failsAt_succ.2 ⟨hf, h⟩⟩

/-- A computation in `Except` that succeeded: its first step succeeded, and
    so did the rest from there. -/
theorem bind_eq_ok {ε α β : Type} {x : Except ε α} {f : α → Except ε β} {b : β}
    (h : x >>= f = .ok b) : ∃ a, x = .ok a ∧ f a = .ok b := by
  cases x with
  | error e => cases h
  | ok a => exact ⟨a, rfl, h⟩

/-- A search finds the same element under two tests that agree on the list. -/
theorem find?_congr_mem {α : Type} {l : List α} {p q : α → Bool} (h : ∀ a ∈ l, p a = q a) :
    l.find? p = l.find? q := by
  induction l with
  | nil => rfl
  | cons a l ih =>
    simp only [List.find?_cons, h a (List.mem_cons_self _ _),
      ih fun b hb => h b (List.mem_cons_of_mem _ hb)]

/-- The conversion `int(u)` of a 64-bit `uint`: the same bits, read as two's
    complement, so a value from `2^63` up turns negative. -/
def goInt (u : UInt64) : Int :=
  if u.toNat < 9223372036854775808 then u.toNat else u.toNat - 18446744073709551616

/-- The conversion `uint16(i)` of an `int`: its low sixteen bits. -/
def goUint16 (i : Int) : UInt16 :=
  UInt16.ofNat (i % 65536).toNat

/-- Slice indexing `xs[i]`: the element, or `none` for the run-time panic
    Go raises when `i` is negative or past the end. -/
def goIndex {α : Type} (xs : List α) (i : Int) : Option α :=
  if 0 ≤ i then xs[i.toNat]? else none

theorem goIndex_eq_none_iff {α : Type} (xs : List α) (i : Int) :
    goIndex xs i = none ↔ i < 0 ∨ xs.length ≤ i := by
  unfold goIndex
  split_ifs with h
  · simp only [List.getElem?_eq_none_iff]
    omega
  · simp only [true_iff]
    omega

/-- Indexing at `int(u)` succeeds only where indexing at `u` itself does: a
    `uint` that converts to a negative `int` is never in range. -/
theorem goIndex_goInt_eq_some {α : Type} {xs : List α} {u : UInt64} {a : α}
    (h : goIndex xs (goInt u) = some a) : xs[u.toNat]? = some a := by
  have hu : u.toNat < 18446744073709551616 := u.toNat_lt_size
  unfold goIndex goInt at h
  split_ifs at h with hlt hnn <;> first | simpa using h | omega

/-- Indexing at `int(u)` panics exactly when `u` is past the end, or so
    large that `int(u)` is negative. -/
theorem goIndex_goInt_eq_none_iff {α : Type} (xs : List α) (u : UInt64) :
    goIndex xs (goInt u) = none ↔ xs.length ≤ u.toNat ∨ 9223372036854775808 ≤ u.toNat := by
  have hu : u.toNat < 18446744073709551616 := u.toNat_lt_size
  rw [goIndex_eq_none_iff, goInt]
  split_ifs <;> omega

theorem goUint16_toNat (i : Int) : (goUint16 i).toNat = (i % 65536).toNat := by
  have h0 : 0 ≤ i % 65536 := Int.emod_nonneg i (by decide)
  have h1 : i % 65536 < 65536 := Int.emod_lt_of_pos i (by decide)
  exact UInt16.toNat_ofNat_of_lt (by unfold UInt16.size; omega)

end GoWaku
