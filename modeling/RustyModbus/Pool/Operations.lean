import RustyModbus.Lib.Tasks
import RustyModbus.Pool.Network

/-!
# What the pool does under its lock

Each function here is one critical section of the source. The lemmas that follow say what it does
to the books (`Balances`), and for the ones that admit a borrower, when they do.
-/

namespace RustyModbus.Pool

variable {Addr : Type}

/-! ## Which entry is evicted -/

/-- The scan of `find_evictable` from place `i` on: the place of the oldest entry so far. -/
def evictionScan : List (PoolEntry Addr) → Nat → Instant → Option Nat → Option Nat
  | [], _, _, oldestIdx => oldestIdx
  | entry :: idle, i, oldestTime, oldestIdx =>
    if !entry.isPriority && entry.lastUsed < oldestTime then
      evictionScan idle (i + 1) entry.lastUsed (some i)
    else evictionScan idle (i + 1) oldestTime oldestIdx

/-- Only what is older than the reading of the clock is found. -/
def findEvictable (idle : List (PoolEntry Addr)) (now : Instant) : Option Nat :=
  evictionScan idle 0 now none

theorem evictionScan_cases (idle : List (PoolEntry Addr)) (i : Nat) (oldestTime : Instant)
    (oldestIdx : Option Nat) :
    (evictionScan idle i oldestTime oldestIdx = oldestIdx ∧
      ∀ e ∈ idle, e.isPriority = false → oldestTime ≤ e.lastUsed) ∨
    ∃ k e, evictionScan idle i oldestTime oldestIdx = some (i + k) ∧ idle[k]? = some e ∧
      e.isPriority = false ∧ e.lastUsed < oldestTime ∧
      ∀ e' ∈ idle, e'.isPriority = false → e.lastUsed ≤ e'.lastUsed := by
  induction idle generalizing i oldestTime oldestIdx with
  | nil => exact Or.inl ⟨rfl, List.forall_mem_nil _⟩
  | cons x idle ih =>
    rw [evictionScan]
    split
    next holder =>
      simp only [Bool.and_eq_true, Bool.not_eq_true', decide_eq_true_eq] at holder
      obtain ⟨hnon, hlt⟩ := holder
      right
      rcases ih (i + 1) x.lastUsed (some i) with ⟨hscan, hmin⟩ | ⟨k, e, hscan, hk, he, helt, hmin⟩
      · exact ⟨0, x, hscan, rfl, hnon, hlt,
          List.forall_mem_cons.mpr ⟨fun _ => Nat.le_refl _, hmin⟩⟩
      · refine ⟨k + 1, e, by rw [hscan, Nat.add_right_comm]; rfl, hk, he,
          Nat.lt_trans helt hlt, ?_⟩
        exact List.forall_mem_cons.mpr ⟨fun _ => Nat.le_of_lt helt, hmin⟩
    next hnot =>
      simp only [Bool.and_eq_true, Bool.not_eq_true', decide_eq_true_eq, not_and,
        Nat.not_lt] at hnot
      rcases ih (i + 1) oldestTime oldestIdx with ⟨hscan, hmin⟩ | ⟨k, e, hscan, hk, he, helt, hmin⟩
      · exact Or.inl ⟨hscan, List.forall_mem_cons.mpr ⟨hnot, hmin⟩⟩
      · refine Or.inr ⟨k + 1, e, by rw [hscan, Nat.add_right_comm]; rfl, hk, he, helt, ?_⟩
        exact List.forall_mem_cons.mpr
          ⟨fun hnon => Nat.le_of_lt (Nat.lt_of_lt_of_le helt (hnot hnon)), hmin⟩

theorem findEvictable_eq_none {idle : List (PoolEntry Addr)} {now : Instant} :
    findEvictable idle now = none ↔ ∀ e ∈ idle, e.isPriority = false → now ≤ e.lastUsed := by
  rcases evictionScan_cases idle 0 now none with ⟨hscan, hall⟩ | ⟨k, e, hscan, hk, he, hlt, -⟩
  · exact ⟨fun _ => hall, fun _ => hscan⟩
  · constructor
    · intro hnone
      rw [findEvictable, hscan] at hnone
      cases hnone
    · intro hall
      exact absurd (hall e (List.mem_of_getElem? hk) he) (Nat.not_le_of_lt hlt)

/-- The oldest of the entries that are not priority entries. -/
def Oldest (idle : List (PoolEntry Addr)) (e : PoolEntry Addr) : Prop :=
  e ∈ idle ∧ e.isPriority = false ∧
    ∀ e' ∈ idle, e'.isPriority = false → e.lastUsed ≤ e'.lastUsed

theorem findEvictable_eq_some {idle : List (PoolEntry Addr)} {now : Instant} {i : Nat}
    (h : findEvictable idle now = some i) :
    ∃ e, idle[i]? = some e ∧ Oldest idle e ∧ e.lastUsed < now := by
  rcases evictionScan_cases idle 0 now none with ⟨hscan, -⟩ | ⟨k, e, hscan, hk, he, hlt, hmin⟩
  · rw [findEvictable, hscan] at h
    cases h
  · rw [findEvictable, hscan, Nat.zero_add] at h
    cases h
    exact ⟨e, hk, ⟨List.mem_of_getElem? hk, he, hmin⟩, hlt⟩

/-! ## Critical sections -/

/-- The search for an idle entry, with the retirements recorded. -/
def PoolInner.searchIdle (inner : PoolInner Addr) (net : Network) (signals : Signals)
    (wanted : PoolEntry Addr → Bool) :
    PoolInner Addr × Option (PoolEntry Addr) × List (PoolEntry Addr) :=
  let (idle, found, retirements) := net.takeIdle signals wanted inner.idle.length inner.idle
  ({ inner with idle }.recordConnectionsRetired retirements.length, found, retirements)

theorem taken_searchIdle (inner : PoolInner Addr) (net : Network) (signals : Signals)
    (wanted : PoolEntry Addr → Bool) :
    ∃ idle' found retirements, Taken net signals wanted inner.idle idle' found retirements ∧
      inner.searchIdle net signals wanted
        = ({ inner with idle := idle' }.recordConnectionsRetired retirements.length, found,
          retirements) :=
  ⟨_, _, _, net.taken_takeIdle signals wanted _ _ (Nat.le_refl _), rfl⟩

variable [DecidableEq Addr]

inductive Acquisition (Addr : Type)
  | reused (entry : PoolEntry Addr)
  | reserved (evicted : Option (PoolEntry Addr))

/-- What an attempt leaves behind: the books, what was acquired, the entries that were retired, and
whether the clock was read. -/
structure Attempt (Addr : Type) where
  inner : PoolInner Addr
  acquisition : Option (Acquisition Addr)
  retirements : List (PoolEntry Addr)
  readClock : Bool

namespace PoolInner

/-- The part of `try_acquire_locked` that reserves a slot. -/
def reserveSlot (config : PoolConfig Addr) (inner : PoolInner Addr) (addr : Addr)
    (isPriority : Bool) (now : Instant) (retirements : List (PoolEntry Addr)) : Attempt Addr :=
  if isPriority then
    if config.priorityCap addr ≤ inner.priorityTotal addr then
      { inner, acquisition := none, retirements, readClock := false }
    else
      { inner := inner.chargeActiveFor true addr, acquisition := some (.reserved none)
        retirements, readClock := false }
  else if inner.nonPriorityTotal < config.maxConnections then
    { inner := inner.chargeActiveFor false addr, acquisition := some (.reserved none)
      retirements, readClock := false }
  else
    match findEvictable inner.idle now with
    | none => { inner, acquisition := none, retirements, readClock := true }
    | some idx =>
      { inner := { inner with idle := swapRemove inner.idle idx }.chargeActiveFor false addr
        acquisition := some (.reserved inner.idle[idx]?)
        retirements, readClock := true }

def tryAcquireLocked (config : PoolConfig Addr) (inner : PoolInner Addr) (net : Network)
    (signals : Signals) (now : Instant) (addr : Addr) (isPriority : Bool) : Attempt Addr :=
  let (inner, found, retirements) := inner.searchIdle net signals (·.addr = addr)
  match found with
  | some entry =>
    { inner := inner.chargeActive entry
      acquisition := some (.reused { entry with lastUsed := now })
      retirements, readClock := true }
  | none => inner.reserveSlot config addr isPriority now retirements

/-- `claim_priority_probe` after its first checks. -/
def claimPriorityProbe (inner : PoolInner Addr) (net : Network) (signals : Signals) (now : Instant)
    (addr : Addr) : Attempt Addr :=
  let (inner, found, retirements) :=
    inner.searchIdle net signals fun entry => entry.isPriority && entry.addr = addr
  match found with
  | some entry =>
    { inner := inner.chargeActive entry
      acquisition := some (.reused { entry with lastUsed := now })
      retirements, readClock := true }
  | none => { inner, acquisition := none, retirements, readClock := false }

/-- `reserve_priority_maintenance` after its first check. -/
def reservePriorityMaintenance (inner : PoolInner Addr) (addr : Addr) (cap : Nat) :
    Option (PoolInner Addr) :=
  if inner.priorityIdleCount addr ≠ 0 ∨ cap ≤ inner.priorityTotal addr then none
  else some (inner.chargeActiveFor true addr)

/-- `PendingReservation::commit`. -/
def commit (inner : PoolInner Addr) (evicted : Option (PoolEntry Addr)) : PoolInner Addr :=
  let inner := inner.recordConnectionCreated
  if evicted.isSome then inner.recordConnectionRetired else inner

/-- `commit_priority_idle_if_needed`, with whether the entry is rejected. -/
def commitPriorityIdleIfNeeded (inner : PoolInner Addr) (entry : PoolEntry Addr) :
    PoolInner Addr × Bool :=
  let inner := (inner.releaseActive true entry.addr).1
  if inner.shuttingDown || inner.priorityIdleCount entry.addr != 0 then (inner, true)
  else
    let inner := inner.recordConnectionCreated
    ({ inner with idle := inner.idle ++ [entry] }, false)

/-- The charge is released, and an entry that was evicted for it comes back, unless the pool is
shutting down. -/
def giveUp (inner : PoolInner Addr) (isPriority : Bool) (addr : Addr)
    (evicted : Option (PoolEntry Addr)) : PoolInner Addr :=
  let inner := (inner.releaseActive isPriority addr).1
  match evicted with
  | none => inner
  | some entry =>
    if inner.shuttingDown then inner.recordConnectionRetired
    else { inner with idle := inner.idle ++ [entry] }

/-- `PendingReservation::rollback`. -/
def rollback (inner : PoolInner Addr) (isPriority : Bool) (addr : Addr)
    (evicted : Option (PoolEntry Addr)) (connectionFailed : Bool) : PoolInner Addr :=
  (if connectionFailed then inner.recordConnectionFailure else inner).giveUp isPriority addr evicted

/-- `RecoveredLease::return_to_pool`. -/
def returnToPool (inner : PoolInner Addr) (entry : PoolEntry Addr) (now : Instant) :
    PoolInner Addr :=
  if inner.shuttingDown then inner.retireActive entry.isPriority entry.addr
  else
    let inner := (inner.releaseActive entry.isPriority entry.addr).1
    { inner with idle := inner.idle ++ [{ entry with lastUsed := now }] }

/-- What a health check keeps. -/
def survives (config : PoolConfig Addr) (net : Network) (signals : Signals) (now : Instant)
    (entry : PoolEntry Addr) : Bool :=
  net.retains signals entry && (entry.isPriority || now - entry.lastUsed < config.idleTimeout)

/-- `run_health_check` after its first check. -/
def runHealthCheck (config : PoolConfig Addr) (inner : PoolInner Addr) (net : Network)
    (signals : Signals) (now : Instant) : PoolInner Addr × List (PoolEntry Addr) :=
  let keeps := survives config net signals now
  let retirements := inner.idle.filter (!keeps ·)
  ({ inner with idle := inner.idle.filter keeps }.recordConnectionsRetired retirements.length,
    retirements)

def shutdown (inner : PoolInner Addr) : PoolInner Addr :=
  { inner with
    shuttingDown := true
    idle := []
    connectionsRetired := saturatingAdd inner.connectionsRetired inner.idle.length }

/-- The books after entries have been retired. -/
def retiring (inner : PoolInner Addr) (idle' retirements : List (PoolEntry Addr)) :
    PoolInner Addr :=
  { inner with idle := idle' }.recordConnectionsRetired retirements.length

section

variable (inner : PoolInner Addr)

omit [DecidableEq Addr] in
@[simp, grind =] theorem retiring_idle (idle' retirements : List (PoolEntry Addr)) :
    (inner.retiring idle' retirements).idle = idle' := rfl

omit [DecidableEq Addr] in
@[grind =] theorem shutdown_idle : inner.shutdown.idle = [] := rfl

omit [DecidableEq Addr] in
@[grind =] theorem runHealthCheck_idle {config : PoolConfig Addr} (net : Network)
    (signals : Signals) (now : Instant) : (inner.runHealthCheck config net signals now).1.idle
      = inner.idle.filter (survives config net signals now) := rfl

@[simp, grind =] theorem chargeActive_idle (entry : PoolEntry Addr) :
    (inner.chargeActive entry).idle = inner.idle :=
  inner.chargeActiveFor_idle _ _

@[simp, grind =] theorem retireActive_idle (isPriority : Bool) (addr : Addr) :
    (inner.retireActive isPriority addr).idle = inner.idle := by
  show (if (inner.releaseActive isPriority addr).2 then _ else _ : PoolInner Addr).idle = _
  split <;> exact inner.releaseActive_idle _ _

omit [DecidableEq Addr] in
@[simp, grind =] theorem commit_idle (evicted : Option (PoolEntry Addr)) :
    (inner.commit evicted).idle = inner.idle := by
  cases evicted <;> rfl

@[grind =] theorem commitPriorityIdleIfNeeded_idle (entry : PoolEntry Addr) :
    (inner.commitPriorityIdleIfNeeded entry).1.idle
      = if (inner.commitPriorityIdleIfNeeded entry).2 then inner.idle else inner.idle ++ [entry] := by
  rw [commitPriorityIdleIfNeeded]
  split
  · exact inner.releaseActive_idle _ _
  · exact congrArg (· ++ [entry]) (inner.releaseActive_idle _ _)

@[grind =] theorem rollback_idle (isPriority : Bool) (addr : Addr) (evicted : Option (PoolEntry Addr))
    (connectionFailed : Bool) :
    (inner.rollback isPriority addr evicted connectionFailed).idle
      = if inner.shuttingDown then inner.idle else inner.idle ++ evicted.toList := by
  have hgiveUp : ∀ inner : PoolInner Addr, (inner.giveUp isPriority addr evicted).idle
      = if inner.shuttingDown then inner.idle else inner.idle ++ evicted.toList := by
    intro inner
    cases evicted with
    | none =>
      rw [giveUp, Option.toList_none, List.append_nil, ite_self]
      exact inner.releaseActive_idle _ _
    | some entry =>
      rw [giveUp, releaseActive_shuttingDown]
      split
      · exact inner.releaseActive_idle _ _
      · exact congrArg (· ++ [entry]) (inner.releaseActive_idle _ _)
  cases connectionFailed with
  | true => exact hgiveUp inner.recordConnectionFailure
  | false => exact hgiveUp inner

@[grind =] theorem returnToPool_idle (entry : PoolEntry Addr) (now : Instant) :
    (inner.returnToPool entry now).idle
      = if inner.shuttingDown then inner.idle
        else inner.idle ++ [{ entry with lastUsed := now }] := by
  rw [returnToPool]
  split
  · exact inner.retireActive_idle _ _
  · exact congrArg (· ++ _) (inner.releaseActive_idle _ _)

@[simp, grind =] theorem chargeActive_shuttingDown (entry : PoolEntry Addr) :
    (inner.chargeActive entry).shuttingDown = inner.shuttingDown :=
  inner.chargeActiveFor_shuttingDown _ _

@[simp, grind =] theorem retireActive_shuttingDown (isPriority : Bool) (addr : Addr) :
    (inner.retireActive isPriority addr).shuttingDown = inner.shuttingDown := by
  show (if (inner.releaseActive isPriority addr).2 then _ else _ : PoolInner Addr).shuttingDown = _
  split <;> exact inner.releaseActive_shuttingDown _ _

omit [DecidableEq Addr] in
@[simp, grind =] theorem commit_shuttingDown (evicted : Option (PoolEntry Addr)) :
    (inner.commit evicted).shuttingDown = inner.shuttingDown := by
  cases evicted <;> rfl

@[simp, grind =] theorem commitPriorityIdleIfNeeded_shuttingDown (entry : PoolEntry Addr) :
    (inner.commitPriorityIdleIfNeeded entry).1.shuttingDown = inner.shuttingDown := by
  rw [commitPriorityIdleIfNeeded]
  split <;> exact inner.releaseActive_shuttingDown _ _

@[simp, grind =] theorem rollback_shuttingDown (isPriority : Bool) (addr : Addr)
    (evicted : Option (PoolEntry Addr)) (connectionFailed : Bool) :
    (inner.rollback isPriority addr evicted connectionFailed).shuttingDown
      = inner.shuttingDown := by
  have hgiveUp : ∀ inner : PoolInner Addr,
      (inner.giveUp isPriority addr evicted).shuttingDown = inner.shuttingDown := by
    intro inner
    cases evicted with
    | none => exact inner.releaseActive_shuttingDown _ _
    | some entry =>
      rw [giveUp]
      split <;> exact inner.releaseActive_shuttingDown _ _
  cases connectionFailed with
  | true => exact hgiveUp inner.recordConnectionFailure
  | false => exact hgiveUp inner

@[simp, grind =] theorem returnToPool_shuttingDown (entry : PoolEntry Addr) (now : Instant) :
    (inner.returnToPool entry now).shuttingDown = inner.shuttingDown := by
  rw [returnToPool]
  split
  · exact inner.retireActive_shuttingDown _ _
  · exact inner.releaseActive_shuttingDown _ _

/-- An entry is rejected if the pool is shutting down. -/
@[grind =>] theorem commitPriorityIdleIfNeeded_rejects (entry : PoolEntry Addr)
    (h : inner.shuttingDown = true) : (inner.commitPriorityIdleIfNeeded entry).2 = true := by
  rw [commitPriorityIdleIfNeeded, releaseActive_shuttingDown, h]
  rfl

end

end PoolInner

open PoolInner

/-! ## The books -/

section Books

variable {config : PoolConfig Addr} {inner : PoolInner Addr}
variable {net : Network} {signals : Signals} {wanted : PoolEntry Addr → Bool}
/-- Entries leave the idle list for good. -/
theorem Balances.retire {idle' : List (PoolEntry Addr)} {n : Nat}
    (hcount : ∀ p, idle'.countP p ≤ inner.idle.countP p)
    (hlength : inner.idle.length = n + idle'.length) (hmem : ∀ e ∈ idle', e ∈ inner.idle) :
    Balances config inner ({ inner with idle := idle' }.recordConnectionsRetired n) none none
      0 0 :=
  .within (.same _ ⟨rfl, rfl, rfl⟩)
    ⟨0, n, .zero _, records_saturatingAdd _ _, by rw [Nat.zero_add, hlength]; rfl⟩
    (hcount _) (fun _ => hcount _) fun h e he => h e (hmem e he)

variable {entry : PoolEntry Addr}

/-- An idle entry is lent: it stays in its budget. -/
theorem Balances.reuse {idle' : List (PoolEntry Addr)} {retirements : List (PoolEntry Addr)}
    (h : Taken net signals wanted inner.idle idle' (some entry) retirements) :
    Balances config inner
      (({ inner with idle := idle' }.recordConnectionsRetired retirements.length).chargeActive
        entry)
      none (some ⟨entry.isPriority, entry.addr⟩) 0 1 := by
  have hcharge := transfers_chargeActiveFor
    ({ inner with idle := idle' }.recordConnectionsRetired retirements.length) entry.isPriority
    entry.addr
  have hcount : ∀ p, idle'.countP p + (p entry).toNat ≤ inner.idle.countP p := by
    intro p
    rw [h.countP_eq, Option.toList_some, Tasks.countP_singleton]
    omega
  refine .within { hcharge with }
    ⟨0, retirements.length, ?_, ?_, ?_⟩ ?_ (fun a => ?_) fun hentries e he => ?_
  all_goals simp only [chargeActive, nonPriorityIdleCount, priorityIdleCount, chargeActiveFor_idle,
    chargeActiveFor_connectionsCreated, chargeActiveFor_connectionsRetired,
    recordConnectionsRetired] at *
  · exact .zero _
  · exact records_saturatingAdd _ _
  · rw [h.length_eq, Option.toList_some, List.length_singleton]
    omega
  · exact hcount _
  · exact hcount _
  · exact hentries e (h.mem he)

variable {isPriority : Bool} {addr : Addr}

/-- A new slot is charged, if there is room. -/
theorem Balances.reserve
    (hroom : if isPriority then inner.priorityTotal addr < config.priorityCap addr
      else inner.nonPriorityTotal < config.maxConnections) :
    Balances config inner (inner.chargeActiveFor isPriority addr) none
      (some ⟨isPriority, addr⟩) 0 0 := by
  have hcharge := transfers_chargeActiveFor inner isPriority addr
  refine ⟨hcharge, ⟨0, 0, ?_, ?_, ?_⟩, fun h => ?_, fun a _ h => ?_, ?_⟩
  · rw [chargeActiveFor_connectionsCreated]
    exact .zero _
  · rw [chargeActiveFor_connectionsRetired]
    exact .zero _
  · rw [chargeActiveFor_idle]
  · have hnon := hcharge.nonPriority
    simp only [nonPriorityTotal, nonPriorityIdleCount, chargeActiveFor_idle] at h hroom ⊢
    cases isPriority with
    | true =>
      simp at hnon
      omega
    | false =>
      simp only [Bool.false_eq_true, if_false] at hroom
      simp at hnon
      omega
  · have hpriority := hcharge.priority a
    simp only [priorityTotal, priorityIdleCount, chargeActiveFor_idle] at h hroom ⊢
    cases isPriority with
    | true =>
      by_cases ha : addr = a
      · subst ha
        simp at hpriority hroom
        omega
      · simp [ha] at hpriority
        omega
    | false =>
      simp at hpriority
      omega
  · rw [chargeActiveFor_idle]
    exact id

/-- An idle entry is evicted for a new slot. -/
theorem Balances.evict {idx : Nat} (addr : Addr) (hidx : inner.idle[idx]? = some entry)
    (hentry : entry.isPriority = false) :
    Balances config inner
      ({ inner with idle := swapRemove inner.idle idx }.chargeActiveFor false addr) none
      (some ⟨false, addr⟩) 0 1 := by
  have hcharge := transfers_chargeActiveFor
    { inner with idle := swapRemove inner.idle idx } false addr
  have hperm := perm_swapRemove hidx
  have hcount : ∀ p, (swapRemove inner.idle idx).countP p + (p entry).toNat
      = inner.idle.countP p := by
    intro p
    rw [hperm.countP_eq, ← List.singleton_append, List.countP_append, Tasks.countP_singleton,
      Nat.add_comm]
  refine .within { hcharge with }
    ⟨0, 0, .zero _, .zero _, ?_⟩ ?_ (fun a => ?_) fun hentries e he => ?_
  all_goals simp only [nonPriorityIdleCount, priorityIdleCount, chargeActiveFor_idle] at *
  · rw [hperm.length_eq, List.length_cons]
    omega
  · have := hcount (!·.isPriority)
    simp only [hentry] at this
    exact Nat.le_of_eq this
  · have := hcount fun e => e.isPriority && e.addr = a
    simp only [hentry] at this
    exact Nat.le_of_eq this
  · exact hentries e (hperm.mem_iff.mpr (List.mem_cons_of_mem _ he))

/-- A lease is made of a reservation. -/
theorem Balances.commit (inner : PoolInner Addr) (evicted : Option (PoolEntry Addr))
    (c : Option (Charge Addr)) :
    Balances config inner (inner.commit evicted) c c evicted.isSome.toNat 1 := by
  cases evicted with
  | none =>
    exact .within (.same _ ⟨rfl, rfl, rfl⟩)
      ⟨1, 0, records_saturatingAdd _ _, .zero _, by
        show 1 + inner.idle.length + 0 = 0 + inner.idle.length + 1
        omega⟩ (Nat.le_refl _) (fun _ => Nat.le_refl _) id
  | some entry =>
    exact .within (.same _ ⟨rfl, rfl, rfl⟩)
      ⟨1, 1, records_saturatingAdd _ _, records_saturatingAdd _ _, rfl⟩ (Nat.le_refl _)
      (fun _ => Nat.le_refl _) id

section

variable {inner' : PoolInner Addr} {c : Charge Addr} {k : Nat}

/-- A charge is given up, and with it the connections that the task held. -/
theorem Balances.release (htransfers : Transfers inner inner' (some c) none)
    (hidle : inner'.idle = inner.idle)
    (hcreated : inner'.connectionsCreated = inner.connectionsCreated)
    (hretired : Records inner.connectionsRetired inner'.connectionsRetired k) :
    Balances config inner inner' (some c) none k 0 := by
  refine .within htransfers ⟨0, k, hcreated ▸ .zero _, hretired, ?_⟩ ?_ (fun a => ?_) ?_
  · rw [hidle]
    omega
  · rw [nonPriorityIdleCount, hidle]
    exact Nat.le_add_right _ _
  · rw [priorityIdleCount, hidle]
    exact Nat.le_add_right _ _
  · rw [hidle]
    exact id

/-- A charge is given up, and an entry of its budget becomes idle: one that the task held, or a
new one. -/
theorem Balances.giveBack {entry : PoolEntry Addr} (created : Nat)
    (htransfers : Transfers inner inner' (some c) none)
    (hidle : inner'.idle = inner.idle ++ [entry])
    (hbudget : entry.isPriority = c.isPriority ∧ (c.isPriority → entry.addr = c.addr))
    (hentry : entry.isPriority = config.isPriorityAddr entry.addr)
    (hcreated : Records inner.connectionsCreated inner'.connectionsCreated created)
    (hretired : inner'.connectionsRetired = inner.connectionsRetired)
    (hheld : created + k = 1) : Balances config inner inner' (some c) none k 0 := by
  refine .within htransfers ⟨created, 0, hcreated, hretired ▸ .zero _, ?_⟩ ?_ (fun a => ?_) ?_
  · rw [hidle, List.length_append, List.length_singleton]
    omega
  · rw [nonPriorityIdleCount, hidle, List.countP_append, Tasks.countP_singleton, hbudget.1]
    exact Nat.le_refl _
  · have hsame : (entry.isPriority && entry.addr = a) = (c.isPriority && c.addr = a) := by
      cases hc : c.isPriority with
      | true => rw [hbudget.1, hbudget.2 hc, hc]
      | false => rw [hbudget.1, hc, Bool.false_and, Bool.false_and]
    rw [priorityIdleCount, hidle, List.countP_append, Tasks.countP_singleton, hsame]
    exact Nat.le_refl _
  · intro hentries e he
    rw [hidle] at he
    rcases List.mem_append.mp he with he | he
    · exact hentries e he
    · rw [List.mem_singleton.mp he]
      exact hentry

end

theorem PoolInner.retireActive_eq (h : inner.Charged isPriority addr) :
    inner.retireActive isPriority addr
      = (inner.releaseActive isPriority addr).1.recordConnectionRetired := by
  have hreleased := (transfers_releaseActive h).2
  show (if (inner.releaseActive isPriority addr).2 then _ else _) = _
  rw [hreleased]
  rfl

theorem Balances.retireActive (h : inner.Charged isPriority addr) :
    Balances config inner (inner.retireActive isPriority addr) (some ⟨isPriority, addr⟩) none
      1 0 := by
  obtain ⟨hrelease, -⟩ := transfers_releaseActive h
  rw [retireActive_eq h]
  refine .release { hrelease with }
    (inner.releaseActive_idle isPriority addr)
    (inner.releaseActive_connectionsCreated isPriority addr) ?_
  rw [← inner.releaseActive_connectionsRetired isPriority addr]
  exact records_saturatingAdd _ _

theorem Balances.returnToPool {now : Instant} (h : inner.Charged entry.isPriority entry.addr)
    (hentry : entry.isPriority = config.isPriorityAddr entry.addr) :
    Balances config inner (inner.returnToPool entry now) (some ⟨entry.isPriority, entry.addr⟩) none
      1 0 := by
  obtain ⟨hrelease, -⟩ := transfers_releaseActive h
  rw [PoolInner.returnToPool]
  split
  · exact .retireActive h
  · refine .giveBack 0
      { hrelease with }
      (congrArg (· ++ _) (inner.releaseActive_idle _ _)) ⟨rfl, fun _ => rfl⟩ hentry ?_ ?_ rfl
    · rw [releaseActive_connectionsCreated]
      exact .zero _
    · exact inner.releaseActive_connectionsRetired _ _

theorem Balances.commitPriorityIdle (h : inner.Charged true entry.addr)
    (hpriority : entry.isPriority = true)
    (hentry : entry.isPriority = config.isPriorityAddr entry.addr) :
    Balances config inner (inner.commitPriorityIdleIfNeeded entry).1 (some ⟨true, entry.addr⟩) none
      0 0 := by
  obtain ⟨hrelease, -⟩ := transfers_releaseActive h
  rw [commitPriorityIdleIfNeeded]
  split
  · refine .release hrelease (inner.releaseActive_idle _ _)
      (inner.releaseActive_connectionsCreated _ _) ?_
    rw [releaseActive_connectionsRetired]
    exact .zero _
  · refine .giveBack 1
      { hrelease with }
      (congrArg (· ++ _) (inner.releaseActive_idle _ _)) ⟨hpriority, fun _ => rfl⟩ hentry ?_ ?_ rfl
    · rw [← inner.releaseActive_connectionsCreated true entry.addr]
      exact records_saturatingAdd _ _
    · exact inner.releaseActive_connectionsRetired _ _

theorem Balances.giveUp {evicted : Option (PoolEntry Addr)} (h : inner.Charged isPriority addr)
    (hevicted : ∀ e, evicted = some e → isPriority = false ∧ e.isPriority = false ∧
      e.isPriority = config.isPriorityAddr e.addr) :
    Balances config inner (inner.giveUp isPriority addr evicted) (some ⟨isPriority, addr⟩) none
      evicted.isSome.toNat 0 := by
  obtain ⟨hrelease, -⟩ := transfers_releaseActive h
  cases evicted with
  | none =>
    refine .release hrelease (inner.releaseActive_idle _ _)
      (inner.releaseActive_connectionsCreated _ _) ?_
    rw [PoolInner.giveUp, releaseActive_connectionsRetired]
    exact .zero _
  | some entry =>
    obtain ⟨hnon, hentry, hconfig⟩ := hevicted entry rfl
    rw [PoolInner.giveUp]
    split
    · refine .release { hrelease with }
        (inner.releaseActive_idle _ _) (inner.releaseActive_connectionsCreated _ _) ?_
      rw [← inner.releaseActive_connectionsRetired isPriority addr]
      exact records_saturatingAdd _ _
    · refine .giveBack 0 { hrelease with }
        (congrArg (· ++ _) (inner.releaseActive_idle _ _))
        ⟨hentry.trans hnon.symm, fun hc => absurd (hnon.symm.trans hc) (by decide)⟩ hconfig
        ?_ (inner.releaseActive_connectionsRetired _ _) rfl
      rw [releaseActive_connectionsCreated]
      exact .zero _

/-- A reservation is given up; a failure is counted apart. -/
theorem Balances.rollback {evicted : Option (PoolEntry Addr)} (connectionFailed : Bool)
    (h : inner.Charged isPriority addr)
    (hevicted : ∀ e, evicted = some e → isPriority = false ∧ e.isPriority = false ∧
      e.isPriority = config.isPriorityAddr e.addr) :
    Balances config inner (inner.rollback isPriority addr evicted connectionFailed)
      (some ⟨isPriority, addr⟩) none evicted.isSome.toNat 0 := by
  cases connectionFailed with
  | false => exact .giveUp h hevicted
  | true =>
    have hfailed : inner.recordConnectionFailure.Charged isPriority addr := h
    have hbalances := Balances.giveUp hfailed hevicted
    have htransfers := hbalances.transfers
    exact { hbalances with transfers := { htransfers with } }

theorem Balances.healthCheck (inner : PoolInner Addr) (now : Instant) :
    Balances config inner (inner.runHealthCheck config net signals now).1 none none 0 0 := by
  refine .retire (fun p => List.Sublist.countP_le List.filter_sublist) ?_
    fun e he => (List.mem_filter.mp he).1
  rw [Nat.add_comm]
  exact List.length_eq_length_filter_add _

theorem Balances.shutdown (inner : PoolInner Addr) :
    Balances config inner inner.shutdown none none 0 0 :=
  .within (.same _ ⟨rfl, rfl, rfl⟩) ⟨0, inner.idle.length, .zero _, records_saturatingAdd _ _, by
    show 0 + inner.idle.length + 0 = inner.idle.length + 0 + 0
    omega⟩ (Nat.zero_le _) (fun _ => Nat.zero_le _) fun _ => List.forall_mem_nil _

end Books

/-! ## Attempts -/

section Attempts

variable {config : PoolConfig Addr} {inner : PoolInner Addr} {net : Network} {signals : Signals}
variable {now : Instant} {addr : Addr} {isPriority : Bool}

/-- There is no room in the budget of the address. -/
def PoolInner.Full (config : PoolConfig Addr) (inner : PoolInner Addr) (addr : Addr)
    (isPriority : Bool) : Prop :=
  if isPriority then config.priorityCap addr ≤ inner.priorityTotal addr
  else config.maxConnections ≤ inner.nonPriorityTotal

variable (config inner net signals now addr isPriority) in
/-- All that can come of an attempt. -/
inductive Attempted : Attempt Addr → Prop
  | reused {idle' retirements entry}
    (htaken : Taken net signals (·.addr = addr) inner.idle idle' (some entry) retirements) :
    Attempted
      { inner := (inner.retiring idle' retirements).chargeActive entry
        acquisition := some (.reused { entry with lastUsed := now })
        retirements, readClock := true }
  | reserved {idle' retirements}
    (htaken : Taken net signals (·.addr = addr) inner.idle idle' none retirements)
    (hroom : ¬(inner.retiring idle' retirements).Full config addr isPriority) : Attempted
    { inner := (inner.retiring idle' retirements).chargeActiveFor isPriority addr
      acquisition := some (.reserved none)
      retirements, readClock := false }
  | evicted {idle' retirements entry idx}
    (htaken : Taken net signals (·.addr = addr) inner.idle idle' none retirements)
    (hbudget : isPriority = false)
    (hfull : (inner.retiring idle' retirements).Full config addr isPriority)
    (hidx : idle'[idx]? = some entry) (holdest : Oldest idle' entry)
    (hold : entry.lastUsed < now) : Attempted
    { inner := { inner.retiring idle' retirements with
        idle := swapRemove idle' idx }.chargeActiveFor false addr
      acquisition := some (.reserved (some entry))
      retirements, readClock := true }
  | refused {idle' retirements readClock}
    (htaken : Taken net signals (·.addr = addr) inner.idle idle' none retirements)
    (hfull : (inner.retiring idle' retirements).Full config addr isPriority)
    (hyoung : isPriority = false → ∀ e ∈ idle', e.isPriority = false → now ≤ e.lastUsed) :
    Attempted
      { inner := inner.retiring idle' retirements
        acquisition := none
        retirements, readClock }

variable (config inner net signals now addr isPriority) in
theorem PoolInner.attempted :
    Attempted config inner net signals now addr isPriority
      (inner.tryAcquireLocked config net signals now addr isPriority) := by
  obtain ⟨idle', found, retirements, htaken, hsearch⟩ :=
    taken_searchIdle inner net signals (·.addr = addr)
  rw [tryAcquireLocked, hsearch]
  cases found with
  | some entry => exact .reused htaken
  | none =>
    show Attempted _ _ _ _ _ _ _
      ((inner.retiring idle' retirements).reserveSlot config addr isPriority now retirements)
    rw [reserveSlot]
    cases isPriority with
    | true =>
      rw [if_pos rfl]
      split
      next hfull => exact .refused htaken hfull (by simp)
      next hroom => exact .reserved htaken hroom
    | false =>
      rw [if_neg Bool.false_ne_true]
      split
      next hroom => exact .reserved htaken (Nat.not_le_of_lt hroom)
      next hfull =>
        have hfull := Nat.le_of_not_lt hfull
        split
        next hnone => exact .refused htaken hfull fun _ => findEvictable_eq_none.mp hnone
        next idx hsome =>
          obtain ⟨entry, hidx, holdest, hold⟩ := findEvictable_eq_some hsome
          have hidx' : (inner.retiring idle' retirements).idle[idx]? = some entry := hidx
          rw [hidx']
          exact .evicted htaken rfl hfull hidx holdest hold

end Attempts

end RustyModbus.Pool
