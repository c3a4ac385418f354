import RustyModbus.Lib.Counts

/-!
# The pool's books

What the pool's lock protects: the idle connections, the charges on the two kinds of budget, and
the lifetime counters. Connections to configured priority devices are charged to a budget of their
own for each device, all others share one.

`Balances` is what one operation under the lock does to the books, on behalf of a task that held
one charge (or none) before and holds one (or none) after. Every operation of the pool has a lemma
of this form, and the accounting of the whole pool is put together from them.
-/

namespace RustyModbus.Pool

abbrev TransportId := Nat

/-- A reading of the clock. -/
abbrev Instant := Nat

structure PriorityDevice (Addr : Type) where
  addr : Addr
  maxConnections : Nat
  /-- Whether a probe is configured. -/
  probe : Bool

structure PoolConfig (Addr : Type) where
  maxConnections : Nat
  priorityDevices : List (PriorityDevice Addr)
  preConnect : Bool
  priorityReplenishment : Bool
  idleTimeout : Nat
  /-- The latest time that an `Instant` can represent. -/
  latestInstant : Instant

structure PoolEntry (Addr : Type) where
  addr : Addr
  sink : TransportId
  stream : TransportId
  lastUsed : Instant
  isPriority : Bool
deriving DecidableEq, Repr

structure PoolInner (Addr : Type) where
  idle : List (PoolEntry Addr)
  activeNonPriority : Nat
  activePriority : Counts.Map Addr
  activeConnections : Nat
  shuttingDown : Bool
  connectionsCreated : Nat
  connectionFailures : Nat
  connectionsRetired : Nat

/-- The budget an active connection is charged to. -/
structure Charge (Addr : Type) where
  isPriority : Bool
  addr : Addr
deriving DecidableEq, Repr

variable {Addr : Type} [DecidableEq Addr]

namespace PoolConfig

def isPriorityAddr (config : PoolConfig Addr) (addr : Addr) : Bool :=
  config.priorityDevices.any (·.addr = addr)

/-- The first device with that address decides. -/
def priorityCap (config : PoolConfig Addr) (addr : Addr) : Nat :=
  ((config.priorityDevices.find? (·.addr = addr)).map (·.maxConnections)).getD 0

end PoolConfig

/-- `u64::MAX`. -/
def maxCount : Nat := 18446744073709551615

def saturatingAdd (n k : Nat) : Nat := min (n + k) maxCount

namespace PoolInner

def new : PoolInner Addr where
  idle := []
  activeNonPriority := 0
  activePriority := ∅
  activeConnections := 0
  shuttingDown := false
  connectionsCreated := 0
  connectionFailures := 0
  connectionsRetired := 0

def priorityIdleCount (inner : PoolInner Addr) (addr : Addr) : Nat :=
  inner.idle.countP fun entry => entry.isPriority && entry.addr = addr

def priorityTotal (inner : PoolInner Addr) (addr : Addr) : Nat :=
  Counts.get inner.activePriority addr + inner.priorityIdleCount addr

def nonPriorityIdleCount (inner : PoolInner Addr) : Nat := inner.idle.countP (!·.isPriority)

def nonPriorityTotal (inner : PoolInner Addr) : Nat :=
  inner.activeNonPriority + inner.nonPriorityIdleCount

def chargeActiveFor (inner : PoolInner Addr) (isPriority : Bool) (addr : Addr) : PoolInner Addr :=
  if isPriority then
    { inner with
      activePriority := Counts.incr inner.activePriority addr
      activeConnections := inner.activeConnections + 1 }
  else
    { inner with
      activeNonPriority := inner.activeNonPriority + 1
      activeConnections := inner.activeConnections + 1 }

def chargeActive (inner : PoolInner Addr) (entry : PoolEntry Addr) : PoolInner Addr :=
  inner.chargeActiveFor entry.isPriority entry.addr

/-- The charge is released, unless there is none. -/
def releaseActive (inner : PoolInner Addr) (isPriority : Bool) (addr : Addr) :
    PoolInner Addr × Bool :=
  let released :=
    if isPriority then Counts.get inner.activePriority addr != 0 else inner.activeNonPriority != 0
  let activeConnections :=
    if released then inner.activeConnections - 1 else inner.activeConnections
  (if isPriority then
    { inner with
      activePriority := Counts.decr inner.activePriority addr
      activeConnections }
  else
    { inner with
      activeNonPriority := inner.activeNonPriority - 1
      activeConnections },
    released)

def recordConnectionCreated (inner : PoolInner Addr) : PoolInner Addr :=
  { inner with connectionsCreated := saturatingAdd inner.connectionsCreated 1 }

def recordConnectionFailure (inner : PoolInner Addr) : PoolInner Addr :=
  { inner with connectionFailures := saturatingAdd inner.connectionFailures 1 }

def recordConnectionsRetired (inner : PoolInner Addr) (count : Nat) : PoolInner Addr :=
  { inner with connectionsRetired := saturatingAdd inner.connectionsRetired count }

def recordConnectionRetired (inner : PoolInner Addr) : PoolInner Addr :=
  inner.recordConnectionsRetired 1

def retireActive (inner : PoolInner Addr) (isPriority : Bool) (addr : Addr) : PoolInner Addr :=
  let (inner, released) := inner.releaseActive isPriority addr
  if released then inner.recordConnectionRetired else inner

section

variable (inner : PoolInner Addr) (isPriority : Bool) (addr : Addr)

@[simp, grind =] theorem chargeActiveFor_idle :
    (inner.chargeActiveFor isPriority addr).idle = inner.idle := by
  cases isPriority <;> rfl

@[simp, grind =] theorem chargeActiveFor_shuttingDown :
    (inner.chargeActiveFor isPriority addr).shuttingDown = inner.shuttingDown := by
  cases isPriority <;> rfl

@[simp] theorem chargeActiveFor_connectionsCreated :
    (inner.chargeActiveFor isPriority addr).connectionsCreated = inner.connectionsCreated := by
  cases isPriority <;> rfl

@[simp] theorem chargeActiveFor_connectionsRetired :
    (inner.chargeActiveFor isPriority addr).connectionsRetired = inner.connectionsRetired := by
  cases isPriority <;> rfl

@[simp] theorem releaseActive_idle : (inner.releaseActive isPriority addr).1.idle = inner.idle := by
  cases isPriority <;> rfl

@[simp] theorem releaseActive_shuttingDown :
    (inner.releaseActive isPriority addr).1.shuttingDown = inner.shuttingDown := by
  cases isPriority <;> rfl

@[simp] theorem releaseActive_connectionsCreated :
    (inner.releaseActive isPriority addr).1.connectionsCreated = inner.connectionsCreated := by
  cases isPriority <;> rfl

@[simp] theorem releaseActive_connectionsRetired :
    (inner.releaseActive isPriority addr).1.connectionsRetired = inner.connectionsRetired := by
  cases isPriority <;> rfl

end

end PoolInner

/-! ## Charges -/

namespace Charge

/-- What a task holds counts against the common budget. -/
def nonPriority (c : Option (Charge Addr)) : Bool := c.any fun c => !c.isPriority

/-- What a task holds counts against the budget of the device at `a`. -/
def priorityAt (a : Addr) (c : Option (Charge Addr)) : Bool :=
  c.any fun c => c.isPriority && c.addr = a

omit [DecidableEq Addr] in
@[simp] theorem nonPriority_none : nonPriority (none : Option (Charge Addr)) = false := rfl

omit [DecidableEq Addr] in
@[simp] theorem nonPriority_some (c : Charge Addr) : nonPriority (some c) = !c.isPriority := rfl

@[simp] theorem priorityAt_none (a : Addr) : priorityAt a none = false := rfl

@[simp] theorem priorityAt_some (a : Addr) (c : Charge Addr) :
    priorityAt a (some c) = (c.isPriority && c.addr = a) := rfl

end Charge

/-- The charges after an operation of a task that held `before` and holds `after`. -/
structure Transfers (inner inner' : PoolInner Addr) (before after : Option (Charge Addr)) :
    Prop where
  nonPriority : inner'.activeNonPriority + (Charge.nonPriority before).toNat
    = inner.activeNonPriority + (Charge.nonPriority after).toNat
  priority : ∀ a, Counts.get inner'.activePriority a + (Charge.priorityAt a before).toNat
    = Counts.get inner.activePriority a + (Charge.priorityAt a after).toNat
  total : inner'.activeConnections + before.isSome.toNat
    = inner.activeConnections + after.isSome.toNat
  sum : inner.activeConnections = inner.activeNonPriority + Counts.total inner.activePriority →
    inner'.activeConnections = inner'.activeNonPriority + Counts.total inner'.activePriority

variable {inner inner' : PoolInner Addr} {before after : Option (Charge Addr)}

/-- An operation that leaves the charges alone. -/
theorem Transfers.same (c : Option (Charge Addr))
    (h : inner'.activeNonPriority = inner.activeNonPriority ∧
      inner'.activePriority = inner.activePriority ∧
      inner'.activeConnections = inner.activeConnections) : Transfers inner inner' c c := by
  obtain ⟨hnon, hpriority, htotal⟩ := h
  refine ⟨by rw [hnon], fun a => by rw [hpriority], by rw [htotal], ?_⟩
  rw [hnon, hpriority, htotal]
  exact id

theorem transfers_chargeActiveFor (inner : PoolInner Addr) (isPriority : Bool) (addr : Addr) :
    Transfers inner (inner.chargeActiveFor isPriority addr) none (some ⟨isPriority, addr⟩) := by
  cases isPriority with
  | true =>
    refine ⟨rfl, fun a => ?_, rfl, fun hsum => ?_⟩
    · show Counts.get (Counts.incr inner.activePriority addr) a = _
      rw [Counts.get_incr]
      simp [Charge.priorityAt, eq_comm]
    · show inner.activeConnections + 1
        = inner.activeNonPriority + Counts.total (Counts.incr inner.activePriority addr)
      rw [Counts.total_incr, hsum]
      rfl
  | false =>
    refine ⟨rfl, fun a => rfl, rfl, fun hsum => ?_⟩
    show inner.activeConnections + 1
      = inner.activeNonPriority + 1 + Counts.total inner.activePriority
    omega

/-- There is something to release. -/
def PoolInner.Charged (inner : PoolInner Addr) (isPriority : Bool) (addr : Addr) : Prop :=
  0 < inner.activeConnections ∧
    if isPriority then 0 < Counts.get inner.activePriority addr else 0 < inner.activeNonPriority

theorem transfers_releaseActive {isPriority : Bool} {addr : Addr}
    (h : inner.Charged isPriority addr) :
    Transfers inner (inner.releaseActive isPriority addr).1 (some ⟨isPriority, addr⟩) none ∧
      (inner.releaseActive isPriority addr).2 = true := by
  obtain ⟨hpos, hcharged⟩ := h
  cases isPriority with
  | true =>
    have hreleased : (Counts.get inner.activePriority addr != 0) = true :=
      bne_iff_ne.mpr (Nat.pos_iff_ne_zero.mp hcharged)
    rw [PoolInner.releaseActive]
    simp only [if_true, hreleased]
    refine ⟨⟨rfl, fun a => ?_, Nat.sub_add_cancel hpos, fun hsum => ?_⟩, trivial⟩
    · have := Counts.get_decr inner.activePriority hcharged a
      simpa [Charge.priorityAt, eq_comm] using this
    · have := Counts.total_decr inner.activePriority hcharged
      show inner.activeConnections - 1
        = inner.activeNonPriority + Counts.total (Counts.decr inner.activePriority addr)
      omega
  | false =>
    have hreleased : (inner.activeNonPriority != 0) = true :=
      bne_iff_ne.mpr (Nat.pos_iff_ne_zero.mp hcharged)
    rw [PoolInner.releaseActive]
    simp only [Bool.false_eq_true, if_false, hreleased, if_true]
    refine ⟨⟨Nat.sub_add_cancel hcharged, fun a => rfl, Nat.sub_add_cancel hpos, fun hsum => ?_⟩,
      trivial⟩
    have hcharged : 0 < inner.activeNonPriority := hcharged
    show inner.activeConnections - 1
      = inner.activeNonPriority - 1 + Counts.total inner.activePriority
    omega

/-! ## One operation -/

/-- A lifetime counter that was raised by `k`, unless it is saturated. -/
structure Records (n n' k : Nat) : Prop where
  below : n' < maxCount → n' = n + k
  exact : n + k ≤ maxCount → n' = n + k

theorem Records.zero (n : Nat) : Records n n 0 := ⟨fun _ => rfl, fun _ => rfl⟩

theorem records_saturatingAdd (n k : Nat) : Records n (saturatingAdd n k) k := by
  constructor <;> intro h <;> simp only [saturatingAdd] at h ⊢ <;> omega

theorem Records.trans {n n' n'' k k' : Nat} (h : Records n n' k) (h' : Records n' n'' k') :
    Records n n'' (k + k') := by
  constructor
  · intro hlt
    have h1 := h'.below hlt
    have h2 := h.below (by omega)
    omega
  · intro hle
    have h1 := h.exact (by omega)
    have h2 := h'.exact (by omega)
    omega

/-- An operation of a task that held the charge `before` and `held` connections of the pool, and
holds `after` and `held'` now. -/
structure Balances (config : PoolConfig Addr) (inner inner' : PoolInner Addr)
    (before after : Option (Charge Addr)) (held held' : Nat) : Prop where
  transfers : Transfers inner inner' before after
  /-- What was created has been retired, is idle, or is held by a task. -/
  books : ∃ created retired,
    Records inner.connectionsCreated inner'.connectionsCreated created ∧
    Records inner.connectionsRetired inner'.connectionsRetired retired ∧
    created + inner.idle.length + held = retired + inner'.idle.length + held'
  nonPriorityCap : inner.nonPriorityTotal ≤ config.maxConnections →
    inner'.nonPriorityTotal ≤ config.maxConnections
  priorityCap : ∀ a, config.isPriorityAddr a → inner.priorityTotal a ≤ config.priorityCap a →
    inner'.priorityTotal a ≤ config.priorityCap a
  entries : (∀ e ∈ inner.idle, e.isPriority = config.isPriorityAddr e.addr) →
    ∀ e ∈ inner'.idle, e.isPriority = config.isPriorityAddr e.addr

variable {config : PoolConfig Addr} {held : Nat}

theorem Balances.refl (config : PoolConfig Addr) (inner : PoolInner Addr)
    (c : Option (Charge Addr)) (held : Nat) : Balances config inner inner c c held held where
  transfers := .same c ⟨rfl, rfl, rfl⟩
  books := ⟨0, 0, .zero _, .zero _, rfl⟩
  nonPriorityCap := id
  priorityCap _ _ := id
  entries := id

/-- An operation that keeps within the budgets it finds: what becomes idle was charged before, and
what is charged was idle before. -/
theorem Balances.within {held' : Nat} (htransfers : Transfers inner inner' before after)
    (hbooks : ∃ created retired,
      Records inner.connectionsCreated inner'.connectionsCreated created ∧
      Records inner.connectionsRetired inner'.connectionsRetired retired ∧
      created + inner.idle.length + held = retired + inner'.idle.length + held')
    (hnon : inner'.nonPriorityIdleCount + (Charge.nonPriority after).toNat
      ≤ inner.nonPriorityIdleCount + (Charge.nonPriority before).toNat)
    (hpriority : ∀ a, inner'.priorityIdleCount a + (Charge.priorityAt a after).toNat
      ≤ inner.priorityIdleCount a + (Charge.priorityAt a before).toNat)
    (hentries : (∀ e ∈ inner.idle, e.isPriority = config.isPriorityAddr e.addr) →
      ∀ e ∈ inner'.idle, e.isPriority = config.isPriorityAddr e.addr) :
    Balances config inner inner' before after held held' where
  transfers := htransfers
  books := hbooks
  nonPriorityCap h := by
    have := htransfers.nonPriority
    simp only [PoolInner.nonPriorityTotal] at h ⊢
    omega
  priorityCap a _ h := by
    have := htransfers.priority a
    have := hpriority a
    simp only [PoolInner.priorityTotal] at h ⊢
    omega
  entries := hentries

theorem Balances.trans {inner'' : PoolInner Addr} {after' : Option (Charge Addr)}
    {held' held'' : Nat} (h : Balances config inner inner' before after held held')
    (h' : Balances config inner' inner'' after after' held' held'') :
    Balances config inner inner'' before after' held held'' where
  transfers := {
    nonPriority := by
      have := h.transfers.nonPriority
      have := h'.transfers.nonPriority
      omega
    priority := fun a => by
      have := h.transfers.priority a
      have := h'.transfers.priority a
      omega
    total := by
      have := h.transfers.total
      have := h'.transfers.total
      omega
    sum := fun hsum => h'.transfers.sum (h.transfers.sum hsum) }
  books := by
    obtain ⟨created, retired, hcreated, hretired, hbooks⟩ := h.books
    obtain ⟨created', retired', hcreated', hretired', hbooks'⟩ := h'.books
    exact ⟨_, _, hcreated.trans hcreated', hretired.trans hretired', by omega⟩
  nonPriorityCap hcap := h'.nonPriorityCap (h.nonPriorityCap hcap)
  priorityCap a ha hcap := h'.priorityCap a ha (h.priorityCap a ha hcap)
  entries hentries := h'.entries (h.entries hentries)

end RustyModbus.Pool
