import Mathlib.Data.List.Perm.Basic
import RustyModbus.Client.Verdict
import RustyModbus.Pool.Inner

/-!
# Transports

The TCP connections behind the pool's entries, and what the pool can find out about one without
reading from it: whether its decoder has bytes left, and what a peek at the socket says. A peek
reports bytes that have been received; for the rest (the peer has closed, the socket has failed)
it says what the outside world makes it say.

Beside each transport stands a record that the program does not have: how often the pool has lent
it out, during which loan each of its bytes arrived, how it last left the hands of a borrower, and
whether one of them has spoiled it.
-/

namespace RustyModbus.Pool

open Client (SessionReuseVerdict)

structure ReceivedByte where
  byte : UInt8
  /-- The loan during which it arrived. -/
  loan : Nat
deriving DecidableEq, Repr

/-- How a transport came to where it is. -/
inductive Standing
  /-- Connected by priority maintenance and not lent since. -/
  | preconnected
  | lent
  /-- Given back by a session with that verdict. -/
  | returned (verdict : SessionReuseVerdict)
deriving DecidableEq, Repr

structure Wire where
  /-- In the socket. -/
  received : List ReceivedByte
  /-- In the decoder. -/
  buffer : List ReceivedByte
  loan : Nat
  standing : Standing
  /-- A borrower has asked for one of the halves, or has retired it. -/
  spoiled : Bool
deriving DecidableEq, Repr

structure Network where
  next : TransportId
  wires : TransportId → Wire
  retired : List TransportId

inductive PeekResult
  | pending
  | ready (count : Nat)
  | failed
deriving DecidableEq, Repr

inductive TcpIdleObservation
  | noAdverseSignal
  | queuedInput
  | peerClosed
  | socketError
  | mismatchedHalves
deriving DecidableEq, Repr

def classifyPeek : PeekResult → TcpIdleObservation
  | .pending => .noAdverseSignal
  | .ready 0 => .peerClosed
  | .ready (_ + 1) => .queuedInput
  | .failed => .socketError

/-- What a peek gives: bytes if there are any. -/
def Wire.pollPeek (w : Wire) (signal : PeekResult) : PeekResult :=
  if w.received.isEmpty then signal else .ready 1

def Wire.observeIdle (w : Wire) (signal : PeekResult) : TcpIdleObservation :=
  if w.buffer.isEmpty then classifyPeek (w.pollPeek signal) else .queuedInput

/-- What the outside world has for each socket. -/
abbrev Signals := TransportId → PeekResult

variable {Addr : Type}

/-- The halves are reunited, observed, and split again. -/
def Network.inspectIdleTcp (net : Network) (signals : Signals) (sink stream : TransportId) :
    TcpIdleObservation :=
  if sink = stream then (net.wires stream).observeIdle (signals stream) else .mismatchedHalves

/-- `inspect_idle_entry`: the entry is retained if nothing speaks against it. -/
def Network.retains (net : Network) (signals : Signals) (entry : PoolEntry Addr) : Bool :=
  net.inspectIdleTcp signals entry.sink entry.stream = .noAdverseSignal

/-- What is retained has no byte waiting anywhere. -/
theorem Network.empty_of_retains {net : Network} {signals : Signals} {entry : PoolEntry Addr}
    (h : net.retains signals entry) :
    entry.sink = entry.stream ∧ (net.wires entry.stream).buffer = [] ∧
      (net.wires entry.stream).received = [] := by
  have h : net.inspectIdleTcp signals entry.sink entry.stream = .noAdverseSignal :=
    of_decide_eq_true h
  rw [Network.inspectIdleTcp] at h
  split at h
  next hhalves =>
    refine ⟨hhalves, ?_⟩
    rw [Wire.observeIdle] at h
    split at h
    next hbuffer =>
      refine ⟨List.isEmpty_iff.mp hbuffer, ?_⟩
      rw [Wire.pollPeek] at h
      split at h
      next hreceived => exact List.isEmpty_iff.mp hreceived
      next => cases h
    next => cases h
  next => cases h

/-! ## Taking entries out of the idle list -/

/-- `Vec::swap_remove`: the last entry takes the place. -/
def swapRemove {α : Type} (l : List α) (i : Nat) : List α :=
  match l.getLast? with
  | none => []
  | some last => (l.set i last).dropLast

theorem swapRemove_concat {α : Type} (m : List α) (last : α) (i : Nat) :
    swapRemove (m ++ [last]) i = ((m ++ [last]).set i last).dropLast := by
  rw [swapRemove, List.getLast?_concat]

theorem perm_swapRemove {α : Type} {l : List α} {i : Nat} {a : α} (h : l[i]? = some a) :
    l.Perm (a :: swapRemove l i) := by
  obtain rfl | ⟨m, last, rfl⟩ := List.eq_nil_or_concat l
  · cases h
  rw [List.concat_eq_append] at h ⊢
  rw [swapRemove_concat]
  by_cases hi : i < m.length
  · rw [List.getElem?_append_left hi] at h
    rw [List.set_append_left _ _ hi, List.dropLast_concat]
    have herase : m.Perm (a :: m.eraseIdx i) := by
      have := List.getElem_cons_eraseIdx_perm hi
      rw [(List.getElem?_eq_some_iff.mp h).2] at this
      exact this.symm
    calc (m ++ [last]).Perm (last :: m) := List.perm_append_singleton last m
      _ |>.Perm (last :: a :: m.eraseIdx i) := herase.cons last
      _ |>.Perm (a :: last :: m.eraseIdx i) := .swap a last _
      _ |>.Perm (a :: m.set i last) := (List.set_perm_cons_eraseIdx hi last).symm.cons a
  · -- the last entry itself is taken
    have hlen : i < (m ++ [last]).length := (List.getElem?_eq_some_iff.mp h).1
    have hend : i = m.length := by
      rw [List.length_append] at hlen
      exact Nat.le_antisymm (Nat.le_of_lt_succ hlen) (Nat.le_of_not_lt hi)
    rw [hend, List.getElem?_concat_length] at h
    cases h
    rw [hend, List.set_append_right _ _ (Nat.le_refl _), Nat.sub_self, List.set_cons_zero,
      List.dropLast_concat]
    exact List.perm_append_singleton a m

theorem mem_of_mem_swapRemove {α : Type} {l : List α} {i : Nat} {a e : α} (h : l[i]? = some a)
    (he : e ∈ swapRemove l i) : e ∈ l :=
  (perm_swapRemove h).mem_iff.mpr (List.mem_cons_of_mem a he)

/-- Look for an idle entry that is `wanted`. Each one that is found is taken out and inspected; if
something speaks against it, it is retired and the search goes on. -/
def Network.takeIdle (net : Network) (signals : Signals) (wanted : PoolEntry Addr → Bool) :
    Nat → List (PoolEntry Addr) →
      List (PoolEntry Addr) × Option (PoolEntry Addr) × List (PoolEntry Addr)
  | 0, idle => (idle, none, [])
  | fuel + 1, idle =>
    match idle.findIdx? wanted with
    | none => (idle, none, [])
    | some index =>
      match idle[index]? with
      | none => (idle, none, [])
      | some entry =>
        let idle := swapRemove idle index
        if net.retains signals entry then (idle, some entry, [])
        else
          let (idle, found, retirements) := net.takeIdle signals wanted fuel idle
          (idle, found, entry :: retirements)

/-- What `takeIdle` has done. -/
structure Taken (net : Network) (signals : Signals) (wanted : PoolEntry Addr → Bool)
    (idle idle' : List (PoolEntry Addr)) (found : Option (PoolEntry Addr))
    (retirements : List (PoolEntry Addr)) : Prop where
  perm : idle.Perm (retirements ++ (found.toList ++ idle'))
  retired : ∀ entry ∈ retirements, wanted entry ∧ net.retains signals entry = false
  clean : ∀ entry, found = some entry → wanted entry ∧ net.retains signals entry
  /-- If nothing is found, nothing that is wanted is left. -/
  exhausted : found = none → ∀ entry ∈ idle', wanted entry = false

section

variable {net : Network} {signals : Signals} {wanted : PoolEntry Addr → Bool}
variable {idle idle' : List (PoolEntry Addr)} {found : Option (PoolEntry Addr)}
variable {retirements : List (PoolEntry Addr)}

theorem Taken.countP_eq
    (h : Taken net signals wanted idle idle' found retirements) (p : PoolEntry Addr → Bool) :
    idle.countP p = retirements.countP p + (found.toList.countP p + idle'.countP p) := by
  rw [h.perm.countP_eq, List.countP_append, List.countP_append]

theorem Taken.length_eq
    (h : Taken net signals wanted idle idle' found retirements) :
    idle.length = retirements.length + (found.toList.length + idle'.length) := by
  rw [h.perm.length_eq, List.length_append, List.length_append]

@[grind →] theorem Taken.mem
    (h : Taken net signals wanted idle idle' found retirements) {e : PoolEntry Addr}
    (he : e ∈ idle') : e ∈ idle :=
  h.perm.mem_iff.mpr (List.mem_append_right _ (List.mem_append_right _ he))

@[grind →] theorem Taken.mem_found {entry : PoolEntry Addr}
    (h : Taken net signals wanted idle idle' (some entry) retirements) : entry ∈ idle :=
  h.perm.mem_iff.mpr (by simp)

end

theorem Network.taken_takeIdle (net : Network) (signals : Signals) (wanted : PoolEntry Addr → Bool)
    (fuel : Nat) (idle : List (PoolEntry Addr)) (hfuel : idle.length ≤ fuel) :
    Taken net signals wanted idle (net.takeIdle signals wanted fuel idle).1
      (net.takeIdle signals wanted fuel idle).2.1 (net.takeIdle signals wanted fuel idle).2.2 := by
  induction fuel generalizing idle with
  | zero =>
    obtain rfl := List.length_eq_zero_iff.mp (Nat.le_zero.mp hfuel)
    exact ⟨.nil, List.forall_mem_nil _, fun _ h => absurd h (by simp [takeIdle]),
      fun _ => List.forall_mem_nil _⟩
  | succ fuel ih =>
    rw [takeIdle]
    cases hindex : idle.findIdx? wanted with
    | none =>
      exact ⟨.refl _, List.forall_mem_nil _, fun _ h => absurd h (by simp),
        fun _ => List.findIdx?_eq_none_iff.mp hindex⟩
    | some index =>
      obtain ⟨hlen, hwanted, -⟩ := List.findIdx?_eq_some_iff_getElem.mp hindex
      have hentry : idle[index]? = some idle[index] := List.getElem?_eq_getElem hlen
      have hperm := perm_swapRemove hentry
      generalize idle[index] = entry at hentry hwanted hperm
      simp only [hentry]
      split
      next hretains =>
        exact ⟨hperm, List.forall_mem_nil _, fun e he => by cases he; exact ⟨hwanted, hretains⟩,
          fun h => absurd h (by simp)⟩
      next hretains =>
        have hshorter : (swapRemove idle index).length ≤ fuel := by
          have := hperm.length_eq
          rw [List.length_cons] at this
          omega
        have hrest := ih (swapRemove idle index) hshorter
        refine ⟨hperm.trans (hrest.perm.cons entry), ?_, hrest.clean, hrest.exhausted⟩
        intro e he
        rcases List.mem_cons.mp he with rfl | he
        · exact ⟨hwanted, eq_false_of_ne_true hretains⟩
        · exact hrest.retired e he

end RustyModbus.Pool
