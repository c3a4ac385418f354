import RustyModbus.Pool.Machine

/-!
# What a step of the pool can do

`Acted` lists the ways in which a task can change the pool and itself. It is read off the step
function once, in `Task.acted`; everything that is proved about whole runs goes through it.

Which phase a task is in says what kind of thing it holds (`Fits`). Only in three phases does it
hold anything: with a reservation, with a connection that is not yet committed, and with a loan.
-/

namespace RustyModbus.Pool

variable {Addr : Type}

/-! ## What a task holds -/

namespace Holding

/-- The connection of a lease or a client. -/
def loan : Holding Addr → Option (PoolEntry Addr)
  | .lease entry _ | .retiring entry _ _ | .session entry _ => some entry
  | .nothing | .pending _ | .connected _ _ => none

/-- The entry that was evicted for a reservation. -/
def evicted : Holding Addr → Option (PoolEntry Addr)
  | .pending evicted | .connected _ evicted => evicted
  | .nothing | .lease _ _ | .retiring _ _ _ | .session _ _ => none

/-- Nobody has asked for the halves, and the connection may come back. -/
def pristine : Holding Addr → Bool
  | .lease _ rawAccessed => !rawAccessed
  | .session _ _ => true
  | .nothing | .pending _ | .connected _ _ | .retiring _ _ _ => false

attribute [grind] loan evicted pristine

end Holding

/-- A task in that phase holds nothing. -/
def Phase.free : Phase → Bool
  | .connecting | .committing | .borrowing => false
  | _ => true

/-- A task in that phase waits for notice. -/
def Phase.waiting : Phase → Bool
  | .parked _ | .idling => true
  | _ => false

inductive Fits : Phase → Holding Addr → Prop
  | free {phase : Phase} (h : phase.free = true) : Fits phase .nothing
  | connecting (evicted : Option (PoolEntry Addr)) : Fits .connecting (.pending evicted)
  | committing (entry : PoolEntry Addr) (evicted : Option (PoolEntry Addr)) :
    Fits .committing (.connected entry evicted)
  | borrowing {holding : Holding Addr} {entry : PoolEntry Addr}
    (h : holding.loan = some entry) : Fits .borrowing holding

variable {phase : Phase}

/-- A loan may change hands. -/
theorem Fits.lend {holding holding' : Holding Addr} {entry : PoolEntry Addr}
    (h : Fits phase holding) (hloan : holding.loan = some entry)
    (hloan' : holding'.loan = some entry) : Fits phase holding' := by
  cases h with
  | borrowing => exact .borrowing hloan'
  | free | connecting | committing => cases hloan

theorem Fits.nothing {holding : Holding Addr} (h : Fits phase holding) (hfree : phase.free = true) :
    holding = .nothing := by
  cases h with
  | free => rfl
  | connecting | committing | borrowing => cases hfree

theorem Fits.pending {evicted : Option (PoolEntry Addr)} (h : Fits phase (.pending evicted)) :
    phase = .connecting := by
  cases h with
  | connecting => rfl
  | borrowing hloan => cases hloan

/-- A new connection of a maintainer waits to be lent; one for a caller is lent at once. -/
def Role.standing : Role Addr → Standing
  | .maintainer .. => .preconnected
  | _ => .lent

variable [DecidableEq Addr]

/-! ## Steps of a task -/

/-- What the sockets have to say when a task acts. -/
def Action.signals : Action → Signals
  | .attempt _ _ signals | .probe _ signals | .sweep signals => signals
  | _ => fun _ => .pending

variable (config : PoolConfig Addr) (strict : Bool) (signals : Signals) (s : Shared Addr)
  (t : Task Addr) in
inductive Acted : Result Addr → Prop
  /-- The task goes on without touching the pool; time may have passed. -/
  | moved {clock maintenanceStop healthAborted warmUpPending phase waiter}
    (hholding : t.holding = .nothing) (hclock : s.clock ≤ clock) (hfree : phase.free = true)
    (hawake : phase.waiting = false) : Acted
    { shared := { s with clock, maintenanceStop, healthAborted }
      task := { t with phase, waiter, warmUpPending }
      notice := false }
  /-- A maintainer finds nothing to do and waits. -/
  | unavailable {addr standing probe warmUpPending} (hholding : t.holding = .nothing)
    (hrole : t.role = .maintainer addr standing probe)
    (hfull : standing = true → s.inner.shuttingDown = false ∧
      (s.inner.priorityIdleCount addr ≠ 0 ∨
        config.priorityCap addr ≤ s.inner.priorityTotal addr)) : Acted
    { shared := s
      task := { t with phase := .idling, warmUpPending }
      notice := false }
  /-- An idle entry is lent. Notice is given under the lock if a priority entry goes to a caller. -/
  | reused {wanted now idle' retirements entry holding waiter notice}
    (hholding : t.holding = .nothing) (hup : s.inner.shuttingDown = false)
    (hclock : s.clock ≤ now)
    (htaken : Taken s.net signals wanted s.inner.idle idle' (some entry) retirements)
    (hloan : holding = .lease { entry with lastUsed := now } false ∨
      holding = .session { entry with lastUsed := now } false)
    (hnotice : notice = entry.isPriority ∨
      ∃ standing, t.role = .maintainer entry.addr standing true) : Acted
    { shared := { s with
        inner := (s.inner.retiring idle' retirements).chargeActive entry
        net := (s.net.retire retirements).lend entry.stream
        clock := now }
      task := { t with
        phase := .borrowing, holding, waiter, owes := !retirements.isEmpty }
      notice }
  /-- A caller has a slot. -/
  | reserved {addr clock idle' retirements} (hholding : t.holding = .nothing)
    (hup : s.inner.shuttingDown = false) (hclock : s.clock ≤ clock)
    (hrole : t.role = .demand addr)
    (htaken : Taken s.net signals (·.addr = addr) s.inner.idle idle' none retirements)
    (hroom : ¬(s.inner.retiring idle' retirements).Full config addr (config.isPriorityAddr addr)) :
    Acted
      { shared := { s with
          inner := (s.inner.retiring idle' retirements).chargeActiveFor
            (config.isPriorityAddr addr) addr
          net := s.net.retire retirements
          clock }
        task := { t with
          phase := .connecting, holding := .pending none, waiter := none
          owes := !retirements.isEmpty }
        notice := false }
  /-- A caller has the slot of an idle entry. -/
  | evicted {addr clock idle' retirements entry idx} (hholding : t.holding = .nothing)
    (hup : s.inner.shuttingDown = false) (hclock : s.clock ≤ clock)
    (hrole : t.role = .demand addr)
    (htaken : Taken s.net signals (·.addr = addr) s.inner.idle idle' none retirements)
    (hbudget : config.isPriorityAddr addr = false) (hidx : idle'[idx]? = some entry)
    (hentry : entry.isPriority = false) : Acted
    { shared := { s with
        inner := { s.inner.retiring idle' retirements with
          idle := swapRemove idle' idx }.chargeActiveFor false addr
        net := s.net.retire retirements
        clock }
      task := { t with
        phase := .connecting, holding := .pending (some entry), waiter := none
        owes := !retirements.isEmpty }
      notice := false }
  /-- A caller is refused. -/
  | refused {addr clock now idle' retirements phase} (hholding : t.holding = .nothing)
    (hup : s.inner.shuttingDown = false) (hclock : s.clock ≤ clock)
    (hstrict : strict = true → s.clock < now) (hrole : t.role = .demand addr)
    (htaken : Taken s.net signals (·.addr = addr) s.inner.idle idle' none retirements)
    (hfull : (s.inner.retiring idle' retirements).Full config addr (config.isPriorityAddr addr))
    (hyoung : config.isPriorityAddr addr = false →
      ∀ e ∈ idle', e.isPriority = false → now ≤ e.lastUsed) (hfree : phase.free = true) : Acted
    { shared := { s with
        inner := s.inner.retiring idle' retirements
        net := s.net.retire retirements
        clock }
      task := { t with phase, owes := !retirements.isEmpty }
      notice := false }
  /-- There is nothing to probe. -/
  | unclaimed {wanted idle' retirements} (hholding : t.holding = .nothing)
    (hup : s.inner.shuttingDown = false)
    (htaken : Taken s.net signals wanted s.inner.idle idle' none retirements) : Acted
    { shared := { s with
        inner := s.inner.retiring idle' retirements
        net := s.net.retire retirements }
      task := { t with phase := .registering, owes := !retirements.isEmpty }
      notice := false }
  /-- A maintainer has a slot. -/
  | maintains {addr standing probe} (hholding : t.holding = .nothing)
    (hup : s.inner.shuttingDown = false) (hrole : t.role = .maintainer addr standing probe)
    (hroom : s.inner.priorityTotal addr < config.priorityCap addr) : Acted
    { shared := { s with inner := s.inner.chargeActiveFor true addr }
      task := { t with phase := .connecting, holding := .pending none, waiter := none }
      notice := false }
  /-- The connector has made a connection. -/
  | connected {c evicted now} (hholding : t.holding = .pending evicted) (hclock : s.clock ≤ now)
    (hbudget : t.role.budget config = some c) : Acted
    { shared := { s with net := s.net.connect t.role.standing, clock := now }
      task := { t with
        phase := .committing
        holding := .connected
          { addr := c.addr, sink := s.net.next, stream := s.net.next, lastUsed := now
            isPriority := c.isPriority } evicted }
      notice := false }
  /-- It becomes a lease. -/
  | committed {addr entry evicted} (hholding : t.holding = .connected entry evicted)
    (hrole : t.role = .demand addr) : Acted
    { shared := { s with
        inner := s.inner.commit evicted, net := s.net.retire evicted.toList }
      task := { t with phase := .borrowing, holding := .lease entry false }
      notice := false }
  /-- It becomes idle, or is rejected. -/
  | settled {addr standing probe warmUpPending entry evicted phase}
    (hholding : t.holding = .connected entry evicted)
    (hrole : t.role = .maintainer addr standing probe) (hfree : phase.free = true)
    (hawake : phase.waiting = false) : Acted
    { shared := { s with
        inner := (s.inner.commitPriorityIdleIfNeeded entry).1
        net := if (s.inner.commitPriorityIdleIfNeeded entry).2 then s.net.retire [entry]
          else s.net }
      task := { t with phase, holding := .nothing, owes := true, warmUpPending }
      notice := false }
  /-- A reservation is given up without a connection. -/
  | rolledBack {c evicted connectionFailed phase} (hholding : t.holding = .pending evicted)
    (hbudget : t.role.budget config = some c) (hfree : phase.free = true)
    (hawake : phase.waiting = false) : Acted
    { shared := { s with
        inner := s.inner.rollback c.isPriority c.addr evicted connectionFailed
        net := if s.inner.shuttingDown then s.net.retire evicted.toList else s.net }
      task := { t with phase, holding := .nothing, owes := true }
      notice := false }
  /-- A reservation is given up with its connection. -/
  | discarded {c entry evicted connectionFailed phase}
    (hholding : t.holding = .connected entry evicted) (hbudget : t.role.budget config = some c)
    (hfree : phase.free = true) (hawake : phase.waiting = false) : Acted
    { shared := { s with
        inner := s.inner.rollback c.isPriority c.addr evicted connectionFailed
        net := if s.inner.shuttingDown then (s.net.retire [entry]).retire evicted.toList
          else s.net.retire [entry] }
      task := { t with phase, holding := .nothing, owes := true }
      notice := false }
  /-- The holder of a lease asks for one of the halves. -/
  | touched {entry rawAccessed} (hholding : t.holding = .lease entry rawAccessed) : Acted
    { shared := { s with net := s.net.spoil entry.stream }
      task := { t with holding := .lease entry true }
      notice := false }
  /-- The connection goes to a client, or the client on its way down. -/
  | handed {entry holding} (hloan : t.holding.loan = some entry)
    (hloan' : holding.loan = some entry)
    (hpristine : holding.pristine = true → t.holding.pristine = true) :
    Acted { shared := s, task := { t with holding }, notice := false }
  /-- A loan ends and the connection is retired. -/
  | retired {entry net} (hloan : t.holding.loan = some entry)
    (hnet : net = s.net ∨ net = s.net.spoil entry.stream) : Acted
    { shared := { s with
        inner := s.inner.retireActive entry.isPriority entry.addr
        net := net.retire [entry] }
      task := { t with phase := t.role.afterLoan, holding := .nothing, owes := true }
      notice := false }
  /-- A loan ends with a verdict that lets the connection back. -/
  | returned {entry now} (hholding : t.holding = .session entry false) (hclock : s.clock ≤ now) :
    Acted
      { shared := { s with
          inner := s.inner.returnToPool entry now
          net := if s.inner.shuttingDown then s.net.retire [entry]
            else s.net.giveBack entry.stream .reuseEligible
          clock := now }
        task := { t with phase := t.role.afterLoan, holding := .nothing, owes := true }
        notice := false }
  /-- The health check has been through the idle list. -/
  | swept {now} (hholding : t.holding = .nothing) (hup : s.inner.shuttingDown = false) : Acted
    { shared := { s with
        inner := (s.inner.runHealthCheck config s.net signals now).1
        net := s.net.retire (s.inner.runHealthCheck config s.net signals now).2 }
      task := { t with
        phase := .ticking
        owes := !(s.inner.runHealthCheck config s.net signals now).2.isEmpty }
      notice := false }
  /-- The pool is shut down. -/
  | closed (hholding : t.holding = .nothing) : Acted
    { shared := { s with inner := s.inner.shutdown, net := s.net.retire s.inner.idle }
      task := { t with phase := .stopping, owes := true }
      notice := false }

section

variable {config : PoolConfig Addr} {strict : Bool} {signals : Signals} {s : Shared Addr}
variable {t : Task Addr} {r : Result Addr}

variable {now : Instant}

omit [DecidableEq Addr] in
theorem Shared.clock_le_of_reads (h : s.reads strict now = true) : s.clock ≤ now := by
  rw [Shared.reads] at h
  split at h
  · exact Nat.le_of_lt (of_decide_eq_true h)
  · exact of_decide_eq_true h

omit [DecidableEq Addr] in
theorem Shared.clock_lt_of_reads (h : s.reads strict now = true) (hstrict : strict = true) :
    s.clock < now := by
  rw [Shared.reads, if_pos hstrict] at h
  exact of_decide_eq_true h

/-! ### Steps that touch nothing but the task -/

section

variable {maintenanceStop healthAborted : Bool} {phase : Phase}

omit [DecidableEq Addr] in
theorem Fits.rests (hfits : Fits t.phase t.holding) (hphase : t.phase = phase)
    (hfree : phase.free = true) : t.holding = .nothing :=
  hfits.nothing (hphase ▸ hfree)

theorem acted_moveTo (hholding : t.holding = .nothing) (hfree : phase.free = true)
    (hawake : phase.waiting = false)
    (h : t.moveTo { s with maintenanceStop, healthAborted } phase = some r) :
    Acted config strict signals s t r := by
  cases h
  exact .moved hholding (Nat.le_refl _) hfree hawake

theorem acted_leaveTo (hholding : t.holding = .nothing) (hfree : phase.free = true)
    (hawake : phase.waiting = false) (h : t.leaveTo s phase = some r) :
    Acted config strict signals s t r := by
  cases h
  exact .moved hholding (Nat.le_refl _) hfree hawake

end

theorem acted_readClock (hfits : Fits t.phase t.holding)
    (h : t.readClock config strict s now = some r) : Acted config strict signals s t r := by
  rw [Task.readClock] at h
  split at h
  case isFalse => cases h
  case isTrue hreads =>
    have hclock := Shared.clock_le_of_reads hreads
    cases hphase : t.phase with
    | settingDeadline timeout =>
      rw [hphase] at h
      dsimp only at h
      split at h <;> cases h <;> exact .moved (hfits.rests hphase rfl) hclock rfl rfl
    | ticking =>
      rw [hphase] at h
      cases h
      exact .moved (hfits.rests hphase rfl) hclock rfl rfl
    | _ =>
      rw [hphase] at h
      cases h

theorem acted_enable (hfits : Fits t.phase t.holding) (h : t.enable s = some r) :
    Acted config strict signals s t r := by
  rw [Task.enable] at h
  cases hphase : t.phase with
  | enabling | registering =>
    rw [hphase] at h
    cases h
    exact .moved (hfits.rests hphase rfl) (Nat.le_refl _) rfl rfl
  | _ =>
    rw [hphase] at h
    cases h

theorem acted_wake (hfits : Fits t.phase t.holding) (h : t.wake s = some r) :
    Acted config strict signals s t r := by
  rw [Task.wake] at h
  split at h
  case h_1 hphase _ | h_2 hphase _ => exact acted_leaveTo (hfits.rests hphase rfl) rfl rfl h
  case h_3 => cases h

theorem acted_timer (hfits : Fits t.phase t.holding) (h : t.timer s = some r) :
    Acted config strict signals s t r := by
  rw [Task.timer] at h
  split at h
  case h_1 hphase | h_2 hphase => exact acted_leaveTo (hfits.rests hphase rfl) rfl rfl h
  case h_3 hphase => exact acted_moveTo (hfits.rests hphase rfl) rfl rfl h
  case h_4 => cases h

/-! ### Attempts -/

theorem acted_tryAcquire {clock now : Instant}  {addr : Addr} {phase : Phase}
    (hholding : t.holding = .nothing) (hup : s.inner.shuttingDown = false)
    (hrole : t.role = .demand addr) (hfree : phase.free = true) (hclock : s.clock ≤ clock)
    (h : t.tryAcquire config strict { s with clock } addr now signals phase = some r) :
    Acted config strict signals s t r := by
  rw [Task.tryAcquire] at h
  split at h
  case isFalse => cases h
  case isTrue hreads =>
    have hnow : clock ≤ now := Shared.clock_le_of_reads hreads
    have hstrict : strict = true → s.clock < now := fun hstrict =>
      Nat.lt_of_le_of_lt hclock (Shared.clock_lt_of_reads hreads hstrict)
    have hattempted := s.inner.attempted config s.net signals now addr (config.isPriorityAddr addr)
    revert h
    generalize s.inner.tryAcquireLocked config s.net signals now addr (config.isPriorityAddr addr)
      = a at hattempted
    intro h
    cases h
    cases hattempted with
    | reused htaken =>
      exact .reused hholding hup (Nat.le_trans hclock hnow) htaken (Or.inl rfl) (Or.inl rfl)
    | reserved htaken hroom => exact .reserved hholding hup hclock hrole htaken hroom
    | evicted htaken hbudget hfull hidx holdest =>
      exact .evicted hholding hup (Nat.le_trans hclock hnow) hrole htaken hbudget hidx holdest.2.1
    | @refused _ _ readClock htaken hfull hyoung =>
      cases readClock with
      | true =>
        exact .refused hholding hup (Nat.le_trans hclock hnow) hstrict hrole htaken hfull hyoung
          hfree
      | false => exact .refused hholding hup hclock hstrict hrole htaken hfull hyoung hfree

/-- A caller that may be refused holds nothing, and goes where it holds nothing. -/
theorem Phase.free_refused {phase phase' : Phase} (h : phase.refused = some phase') :
    phase.free = true ∧ phase'.free = true := by
  cases phase with
  | attempting timeout => cases timeout <;> cases h <;> exact ⟨rfl, rfl⟩
  | lastAttempt | trying =>
    cases h
    exact ⟨rfl, rfl⟩
  | _ => cases h

theorem acted_attempt {checked now : Instant} (hfits : Fits t.phase t.holding)
    (h : t.attempt config strict s checked now signals = some r) :
    Acted config strict signals s t r := by
  rw [Task.attempt] at h
  split at h
  case h_2 => cases h
  case h_1 addr refused hrole hrefused =>
    obtain ⟨hfree, hfree'⟩ := Phase.free_refused hrefused
    have hholding := hfits.nothing hfree
    split at h
    case isTrue => exact acted_leaveTo hholding rfl rfl h
    case isFalse hup =>
      have hup := eq_false_of_ne_true hup
      split at h
      next => exact acted_tryAcquire hholding hup hrole hfree' (Nat.le_refl _) h
      next =>
        split at h
        case isFalse => cases h
        case isTrue hreads =>
          have hclock := Shared.clock_le_of_reads hreads
          dsimp only at h
          split at h
          · cases h
            exact .moved hholding hclock rfl rfl
          · exact acted_tryAcquire hholding hup hrole hfree' hclock h

/-- All that can come of a claim for a probe. -/
theorem PoolInner.claimPriorityProbe_cases (inner : PoolInner Addr) (net : Network)
    (signals : Signals) (now : Instant) (addr : Addr) :
    ∃ idle' found retirements,
      Taken net signals (fun entry => entry.isPriority && entry.addr = addr) inner.idle idle' found
        retirements ∧
      (found = none → inner.claimPriorityProbe net signals now addr =
        { inner := inner.retiring idle' retirements, acquisition := none, retirements
          readClock := false }) ∧
      ∀ entry, found = some entry → inner.claimPriorityProbe net signals now addr =
        { inner := (inner.retiring idle' retirements).chargeActive entry
          acquisition := some (.reused { entry with lastUsed := now })
          retirements, readClock := true } := by
  obtain ⟨idle', found, retirements, htaken, hsearch⟩ :=
    taken_searchIdle inner net signals fun entry => entry.isPriority && entry.addr = addr
  refine ⟨idle', found, retirements, htaken, ?_, fun entry => ?_⟩
  · rintro rfl
    rw [claimPriorityProbe, hsearch]
    rfl
  · rintro rfl
    rw [claimPriorityProbe, hsearch]
    rfl

theorem acted_probe (hfits : Fits t.phase t.holding) (h : t.probe strict s now signals = some r) :
    Acted config strict signals s t r := by
  rw [Task.probe] at h
  split at h
  case h_2 => cases h
  case h_1 addr standing hrole hphase =>
    have hholding := hfits.rests hphase rfl
    split at h
    case isTrue => exact acted_moveTo hholding rfl rfl h
    case isFalse hup =>
      rw [Bool.or_eq_true, not_or] at hup
      have hup := eq_false_of_ne_true hup.1
      split at h
      case isFalse => cases h
      case isTrue hreads =>
        obtain ⟨idle', found, retirements, htaken, hnone, hsome⟩ :=
          s.inner.claimPriorityProbe_cases s.net signals now addr
        cases found with
        | none =>
          rw [hnone rfl] at h
          cases h
          exact .unclaimed hholding hup htaken
        | some entry =>
          rw [hsome entry rfl] at h
          cases h
          have hwanted := (htaken.clean entry rfl).1
          rw [Bool.and_eq_true, decide_eq_true_eq] at hwanted
          exact .reused hholding hup (Shared.clock_le_of_reads hreads) htaken (Or.inr rfl)
            (Or.inr ⟨standing, hwanted.2 ▸ hrole⟩)

/-! ### Reservations -/

theorem acted_reserve {addr : Addr} {standing probe : Bool} (hholding : t.holding = .nothing)
    (hrole : t.role = .maintainer addr standing probe)
    (h : t.reserve config s addr standing probe = some r) : Acted config strict signals s t r := by
  rw [Task.reserve] at h
  dsimp only at h
  split at h
  case isTrue hwants =>
    split at h
    case isTrue => exact acted_leaveTo hholding rfl rfl h
    case isFalse hup =>
      have hup := eq_false_of_ne_true hup
      rw [PoolInner.reservePriorityMaintenance] at h
      split at h
      next inner hreserve =>
        split at hreserve
        · cases hreserve
        next hroom =>
          cases hreserve
          cases h
          exact .maintains hholding hup hrole (Nat.lt_of_not_le (not_or.mp hroom).2)
      next hreserve =>
        split at hreserve
        next hfull =>
          split at h
          · cases h
            exact .moved hholding (Nat.le_refl _) rfl rfl
          · cases h
            exact .unavailable hholding hrole fun _ => ⟨hup, hfull⟩
        · cases hreserve
  case isFalse hwants =>
    rw [Bool.or_eq_true, not_or] at hwants
    split at h
    · exact acted_leaveTo hholding rfl rfl h
    · cases h
      exact .unavailable hholding hrole fun hstanding => absurd hstanding hwants.1

variable {entry : PoolEntry Addr}

theorem acted_commit {evicted : Option (PoolEntry Addr)}
    (hholding : t.holding = .connected entry evicted) (h : t.commit s entry evicted = some r) :
    Acted config strict signals s t r := by
  rw [Task.commit] at h
  split at h
  next hrole =>
    cases h
    exact .committed hholding hrole
  next addr standing probe hrole =>
    cases h
    refine .settled hholding hrole ?_ ?_
    · split <;> rfl
    · split <;> rfl
  next => cases h

theorem acted_rollback {connectionFailed : Bool} {phase : Phase} (hfree : phase.free = true)
    (hawake : phase.waiting = false) (h : t.rollback config s connectionFailed phase = some r) :
    Acted config strict signals s t r := by
  rw [Task.rollback] at h
  split at h
  next hbudget hholding =>
    cases h
    exact .rolledBack hholding hbudget hfree hawake
  next hbudget hholding =>
    cases h
    exact .discarded hholding hbudget hfree hawake
  next => cases h

theorem acted_proceed (hfits : Fits t.phase t.holding) (h : t.proceed config s = some r) :
    Acted config strict signals s t r := by
  rw [Task.proceed] at h
  split at h
  case h_1 hphase | h_3 hphase | h_7 hphase | h_8 hphase =>
    exact acted_moveTo (hfits.rests hphase rfl) rfl rfl h
  case h_2 hphase =>
    refine acted_moveTo (hfits.rests hphase rfl) ?_ ?_ h
    · split <;> rfl
    · split <;> rfl
  case h_4 hphase =>
    split at h
    next hrole => exact acted_reserve (hfits.rests hphase rfl) hrole h
    next => cases h
  case h_5 hholding => exact acted_commit hholding h
  case h_6 hphase =>
    cases h
    exact .closed (hfits.rests hphase rfl)
  case h_9 => cases h

theorem acted_stop (hfits : Fits t.phase t.holding) (h : t.stop config s = some r) :
    Acted config strict signals s t r := by
  rw [Task.stop] at h
  split at h
  case h_1 | h_2 =>
    split at h
    · exact acted_rollback rfl rfl h
    · cases h
  case h_3 hphase | h_4 hphase | h_5 hphase =>
    split at h
    · exact acted_leaveTo (hfits.rests hphase rfl) rfl rfl h
    · cases h
  case h_6 hphase =>
    split at h
    · exact acted_moveTo (hfits.rests hphase rfl) rfl rfl h
    · cases h
  case h_7 => cases h

theorem acted_cancel (hfits : Fits t.phase t.holding) (h : t.cancel config s = some r) :
    Acted config strict signals s t r := by
  rw [Task.cancel] at h
  split at h
  next => exact acted_rollback rfl rfl h
  next hphase => exact acted_leaveTo (hfits.rests hphase rfl) rfl rfl h
  next => cases h

theorem acted_connectOk (h : t.connectOk config strict s now = some r) :
    Acted config strict signals s t r := by
  rw [Task.connectOk] at h
  split at h
  case h_2 => cases h
  case h_1 hbudget hholding =>
    split at h
    case isFalse => cases h
    case isTrue hreads =>
      cases h
      exact .connected hholding (Shared.clock_le_of_reads hreads) hbudget

theorem acted_connectFails (h : t.connectFails config s = some r) :
    Acted config strict signals s t r := by
  rw [Task.connectFails] at h
  split at h
  · exact acted_rollback rfl rfl h
  · exact acted_rollback rfl rfl h
  · cases h

/-! ### Loans -/

theorem acted_retireHeld {net : Network} (hloan : t.holding.loan = some entry)
    (hnet : net = s.net ∨ net = s.net.spoil entry.stream) (h : t.retireHeld s entry net = some r) :
    Acted config strict signals s t r := by
  cases h
  exact .retired hloan hnet

theorem acted_hold {holding : Holding Addr} (hloan : t.holding.loan = some entry)
    (hloan' : holding.loan = some entry)
    (hpristine : holding.pristine = true → t.holding.pristine = true)
    (h : t.hold s holding s.net = some r) : Acted config strict signals s t r := by
  cases h
  exact .handed hloan hloan' hpristine

theorem acted_use {a : Action} (h : t.use strict s a = some r) :
    Acted config strict signals s t r := by
  unfold Task.use at h
  split at h
  next hholding =>
    cases h
    exact .touched hholding
  next hholding => exact acted_retireHeld (hholding ▸ rfl) (Or.inr rfl) h
  next hholding => exact acted_hold (hholding ▸ rfl) rfl (by intro h; cases h) h
  next rawAccessed hholding =>
    cases rawAccessed with
    | true => exact acted_retireHeld (hholding ▸ rfl) (Or.inl rfl) h
    | false => exact acted_hold (hholding ▸ rfl) rfl (fun _ => hholding ▸ rfl) h
  next stream hholding =>
    cases stream with
    | true => exact acted_hold (hholding ▸ rfl) rfl (by intro h; cases h) h
    | false => exact acted_retireHeld (hholding ▸ rfl) (Or.inl rfl) h
  next sink hholding =>
    cases sink with
    | true => exact acted_hold (hholding ▸ rfl) rfl (by intro h; cases h) h
    | false => exact acted_retireHeld (hholding ▸ rfl) (Or.inl rfl) h
  next hholding => exact acted_hold (hholding ▸ rfl) rfl (fun _ => hholding ▸ rfl) h
  next hholding => exact acted_retireHeld (hholding ▸ rfl) (Or.inl rfl) h
  next verdict now hholding =>
    split at h
    next heligible =>
      subst heligible
      split at h
      case isFalse => cases h
      case isTrue hreads =>
        cases h
        exact .returned hholding (Shared.clock_le_of_reads hreads)
    next => exact acted_hold (hholding ▸ rfl) rfl (fun _ => hholding ▸ rfl) h
  next => cases h

theorem acted_sweep (hfits : Fits t.phase t.holding)
    (h : t.sweep config s signals = some r) : Acted config strict signals s t r := by
  rw [Task.sweep] at h
  split at h
  case h_2 => cases h
  case h_1 hphase =>
    have hholding := hfits.rests hphase rfl
    split at h
    case isTrue => exact acted_moveTo hholding rfl rfl h
    case isFalse hup =>
      cases h
      exact .swept hholding (eq_false_of_ne_true hup)

/-- A task that owes notice gives it; otherwise it acts. -/
theorem Task.acted {a : Action} (hfits : Fits t.phase t.holding)
    (h : t.act config strict s a = some r) :
    (t.owes = true ∧ r = { shared := s, task := { t with owes := false }, notice := true }) ∨
      t.owes = false ∧ Acted config strict a.signals s t r := by
  cases howes : t.owes with
  | true =>
    cases a with
    | notify =>
      rw [Task.act, if_pos howes] at h
      cases h
      exact Or.inl ⟨rfl, rfl⟩
    | _ =>
      unfold Task.act at h
      dsimp only at h
      rw [if_pos howes] at h
      cases h
  | false =>
    refine Or.inr ⟨rfl, ?_⟩
    have hquiet : ¬t.owes = true := by
      rw [howes]
      decide
    unfold Task.act at h
    cases a with (dsimp only at h; rw [if_neg hquiet] at h)
    | notify => cases h
    | attempt => exact acted_attempt hfits h
    | readClock => exact acted_readClock hfits h
    | enable => exact acted_enable hfits h
    | wake => exact acted_wake hfits h
    | timer => exact acted_timer hfits h
    | proceed => exact acted_proceed hfits h
    | stop => exact acted_stop hfits h
    | cancel => exact acted_cancel hfits h
    | connectOk => exact acted_connectOk h
    | connectFails => exact acted_connectFails h
    | probe => exact acted_probe hfits h
    | sweep => exact acted_sweep hfits h
    | _ =>
      split at h
      · exact acted_use h
      · cases h

theorem Acted.role_eq (h : Acted config strict signals s t r) : r.task.role = t.role := by
  cases h <;> rfl

omit [DecidableEq Addr] in
theorem Role.free_afterLoan (role : Role Addr) : role.afterLoan.free = true := by
  cases role <;> rfl

omit [DecidableEq Addr] in
theorem Role.waiting_afterLoan (role : Role Addr) : role.afterLoan.waiting = false := by
  cases role <;> rfl

/-- What a task holds keeps fitting its phase. -/
theorem Acted.fits (h : Acted config strict signals s t r) (hfits : Fits t.phase t.holding) :
    Fits r.task.phase r.task.holding := by
  cases h with
  | moved hholding _ hfree | refused hholding _ _ _ _ _ _ _ hfree => exact hholding ▸ .free hfree
  | unavailable hholding | unclaimed hholding | swept hholding | closed hholding =>
    exact hholding ▸ .free rfl
  | reused _ _ _ _ hloan =>
    rcases hloan with rfl | rfl <;> exact .borrowing rfl
  | reserved | evicted | maintains => exact .connecting _
  | connected => exact .committing _ _
  | committed => exact .borrowing rfl
  | settled _ _ hfree | rolledBack _ _ hfree | discarded _ _ hfree => exact .free hfree
  | touched hholding => exact hfits.lend (hholding ▸ rfl) rfl
  | handed hloan hloan' => exact hfits.lend hloan hloan'
  | retired | returned => exact .free t.role.free_afterLoan

end

/-! ## Steps of the pool -/

/-- A task that has just been made. -/
structure Fresh (t : Task Addr) : Prop where
  free : t.phase.free = true
  holding : t.holding = .nothing
  waiter : t.waiter = none
  owes : t.owes = false

/-- What happens to the bytes of a transport leaves the rest of it alone. -/
structure Carries (f : Wire → Wire) : Prop where
  loan : ∀ w, (f w).loan = w.loan
  standing : ∀ w, (f w).standing = w.standing
  spoiled : ∀ w, (f w).spoiled = w.spoiled
  bytes : ∀ w, ∀ b ∈ (f w).received ++ (f w).buffer, b ∈ w.received ++ w.buffer ∨ b.loan = w.loan

variable (config : PoolConfig Addr) (strict : Bool) (signals : Signals) (s : PoolState Addr) in
inductive Stepped : PoolState Addr → Prop
  /-- A caller comes. -/
  | joined {t} (hfresh : Fresh t)
    (hrole : ∀ addr standing probe, t.role ≠ .maintainer addr standing probe) :
    Stepped { s with tasks := s.tasks ++ [t] }
  /-- A task gives the notice it owes. -/
  | notified {i t} (ht : s.tasks[i]? = some t) (howes : t.owes = true) : Stepped
    { s with tasks := (s.tasks.set i { t with owes := false }).map Task.notified }
  | acted {i t r} (ht : s.tasks[i]? = some t) (howes : t.owes = false)
    (hacted : Acted config strict signals s.shared t r) : Stepped
    { s with
      shared := r.shared
      tasks := if r.notice then (s.tasks.set i r.task).map Task.notified
        else s.tasks.set i r.task }
  /-- Bytes arrive at a transport, or go from its socket to its decoder and on. -/
  | wired {id f decoded} (hcarries : Carries f)
    (hdecoded : ∀ d ∈ decoded, d.loan = (s.shared.net.wires id).loan ∧
      d.byte ∈ (s.shared.net.wires id).buffer) : Stepped
    { s with
      shared := { s.shared with net := s.shared.net.update id f }
      decoded := s.decoded ++ decoded }

def PoolEvent.signals : PoolEvent Addr → Signals
  | .task _ a => a.signals
  | _ => fun _ => .pending

section

variable {config : PoolConfig Addr} {strict : Bool} {s s' : PoolState Addr} {e : PoolEvent Addr}

omit [DecidableEq Addr] in
theorem Task.fresh_new (role : Role Addr) {phase : Phase} (warmUpPending : Bool)
    (h : phase.free = true) : Fresh (Task.new role phase warmUpPending) :=
  ⟨h, rfl, rfl, rfl⟩

theorem Stepped.carried {signals : Signals} {f : Wire → Wire} (id : TransportId) (hf : Carries f) :
    Stepped config strict signals s
      { s with shared := { s.shared with net := s.shared.net.update id f } } :=
  List.append_nil s.decoded ▸ .wired hf (List.forall_mem_nil _)

theorem PoolState.stepped (hfits : ∀ t ∈ s.tasks, Fits t.phase t.holding)
    (h : s.step config strict e = some s') : Stepped config strict e.signals s s' := by
  cases e with
  | get addr timeout | shutdown =>
    cases h
    exact .joined (Task.fresh_new _ _ rfl) nofun
  | task i a =>
    obtain ⟨t, ht, h⟩ := Option.bind_eq_some_iff.mp h
    obtain ⟨r, hact, h⟩ := Option.bind_eq_some_iff.mp h
    cases h
    rcases Task.acted (hfits t (List.mem_of_getElem? ht)) hact with ⟨howes, rfl⟩ | ⟨howes, hacted⟩
    · exact .notified ht howes
    · exact .acted ht howes hacted
  | receive id byte =>
    rw [PoolState.step] at h
    dsimp only at h
    split at h
    case isFalse => cases h
    case isTrue =>
      cases h
      refine .carried id ⟨fun _ => rfl, fun _ => rfl, fun _ => rfl, fun w b hb => ?_⟩
      simp only [List.mem_append, List.mem_singleton] at hb ⊢
      rcases hb with (hb | rfl) | hb
      · exact Or.inl (Or.inl hb)
      · exact Or.inr rfl
      · exact Or.inl (Or.inr hb)
  | read i n =>
    obtain ⟨t, -, h⟩ := Option.bind_eq_some_iff.mp h
    obtain ⟨id, -, h⟩ := Option.bind_eq_some_iff.mp h
    cases h
    refine .carried id ⟨fun _ => rfl, fun _ => rfl, fun _ => rfl, fun w b hb => ?_⟩
    simp only [List.mem_append] at hb ⊢
    rcases hb with hb | hb | hb
    · exact Or.inl (Or.inl (List.mem_of_mem_drop hb))
    · exact Or.inl (Or.inr hb)
    · exact Or.inl (Or.inl (List.mem_of_mem_take hb))
  | decode i n =>
    obtain ⟨t, -, h⟩ := Option.bind_eq_some_iff.mp h
    obtain ⟨id, -, h⟩ := Option.bind_eq_some_iff.mp h
    cases h
    refine .wired ⟨fun _ => rfl, fun _ => rfl, fun _ => rfl, fun w b hb => ?_⟩ ?_
    · simp only [List.mem_append] at hb ⊢
      rcases hb with hb | hb
      · exact Or.inl (Or.inl hb)
      · exact Or.inl (Or.inr (List.mem_of_mem_drop hb))
    · intro d hd
      obtain ⟨b, hb, rfl⟩ := List.mem_map.mp hd
      exact ⟨rfl, List.mem_of_mem_take hb⟩

/-! ### Views of the tasks

Most of what is said about the tasks does not depend on who is registered for notices and who owes
one. Seen that way, a step changes one task at most. -/

omit [DecidableEq Addr] in
/-- A view that looks neither at the registration for notices nor at the notice that is owed. -/
def Deaf {β : Type} (f : Task Addr → β) : Prop :=
  ∀ t waiter owes, f { t with waiter, owes } = f t

omit [DecidableEq Addr] in
theorem Deaf.map_notified {β : Type} {f : Task Addr → β} (hf : Deaf f) (tasks : List (Task Addr)) :
    (tasks.map Task.notified).map f = tasks.map f := by
  rw [List.map_map]
  exact List.map_congr_left fun t _ => hf t _ _

/-- A step that leaves the pool alone: callers may come, notice may be given, bytes may move. -/
structure Quiet (s s' : PoolState Addr) : Prop where
  inner : s'.shared.inner = s.shared.inner
  clock : s'.shared.clock = s.shared.clock
  next : s'.shared.net.next = s.shared.net.next
  retired : s'.shared.net.retired = s.shared.net.retired
  loan : ∀ id, (s'.shared.net.wires id).loan = (s.shared.net.wires id).loan
  standing : ∀ id, (s'.shared.net.wires id).standing = (s.shared.net.wires id).standing
  spoiled : ∀ id, (s'.shared.net.wires id).spoiled = (s.shared.net.wires id).spoiled
  tasks : ∃ fresh : List (Task Addr), (∀ t ∈ fresh, Fresh t) ∧
    (∀ t ∈ fresh, ∀ addr standing probe, t.role ≠ .maintainer addr standing probe) ∧
    ∀ {β : Type} (f : Task Addr → β), Deaf f → s'.tasks.map f = s.tasks.map f ++ fresh.map f

/-- A step of one task. -/
structure ActedAt (config : PoolConfig Addr) (strict : Bool) (signals : Signals)
    (s s' : PoolState Addr) (i : Nat) (t : Task Addr) (r : Result Addr) : Prop where
  task : s.tasks[i]? = some t
  acted : Acted config strict signals s.shared t r
  shared : s'.shared = r.shared
  tasks : ∀ {β : Type} (f : Task Addr → β), Deaf f →
    s'.tasks.map f = (s.tasks.map f).set i (f r.task)

theorem Stepped.quiet_or_acted {signals : Signals} (h : Stepped config strict signals s s') :
    Quiet s s' ∨ ∃ i t r, ActedAt config strict signals s s' i t r := by
  cases h with
  | @joined t hfresh hrole =>
    refine Or.inl ⟨rfl, rfl, rfl, rfl, fun _ => rfl, fun _ => rfl, fun _ => rfl, [t], ?_, ?_,
      fun f _ => ?_⟩
    · exact List.forall_mem_singleton.mpr hfresh
    · exact List.forall_mem_singleton.mpr hrole
    · exact List.map_append
  | @notified i t ht howes =>
    refine Or.inl ⟨rfl, rfl, rfl, rfl, fun _ => rfl, fun _ => rfl, fun _ => rfl, [],
      List.forall_mem_nil _, List.forall_mem_nil _, fun f hf => ?_⟩
    have hsame : (s.tasks.map f)[i]? = some (f { t with owes := false }) := by
      rw [List.getElem?_map, ht, Option.map_some]
      exact congrArg some (hf t t.waiter false).symm
    rw [hf.map_notified, List.map_set, List.map_nil, List.append_nil]
    exact Tasks.set_same hsame
  | @acted i t r ht _ hacted =>
    refine Or.inr ⟨i, t, r, ht, hacted, rfl, fun f hf => ?_⟩
    dsimp only
    split
    · rw [hf.map_notified, List.map_set]
    · exact List.map_set
  | @wired id f decoded hcarries hdecoded =>
    have hwire : ∀ {β : Type} (g : Wire → β), (∀ w, g (f w) = g w) → ∀ id',
        g ((s.shared.net.update id f).wires id') = g (s.shared.net.wires id') := by
      intro β g hg id'
      by_cases hid : id' = id
      · subst hid
        exact (congrArg g (Function.update_self ..)).trans (hg _)
      · exact congrArg g (Function.update_of_ne hid ..)
    refine Or.inl ⟨rfl, rfl, rfl, rfl, hwire _ hcarries.loan, hwire _ hcarries.standing,
      hwire _ hcarries.spoiled, [], List.forall_mem_nil _, List.forall_mem_nil _, fun f _ => ?_⟩
    rw [List.map_nil, List.append_nil]

section

variable {P Q : Task Addr → Prop} {signals : Signals} {i : Nat} {t : Task Addr} {r : Result Addr}

omit [DecidableEq Addr] in
theorem Quiet.forall_tasks (h : Quiet s s') (hdeaf : Deaf Q) (hall : ∀ t ∈ s.tasks, P t)
    (hkeep : ∀ t, P t → Q t)
    (hfresh : ∀ t, Fresh t → (∀ addr standing probe, t.role ≠ .maintainer addr standing probe) →
      Q t) : ∀ t ∈ s'.tasks, Q t := by
  obtain ⟨fresh, hnew, hrole, hmap⟩ := h.tasks
  have hview : ∀ q ∈ s'.tasks.map Q, q := by
    rw [hmap Q hdeaf]
    intro q hq
    rcases List.mem_append.mp hq with hq | hq
    · obtain ⟨t, ht, rfl⟩ := List.mem_map.mp hq
      exact hkeep t (hall t ht)
    · obtain ⟨t, ht, rfl⟩ := List.mem_map.mp hq
      exact hfresh t (hnew t ht) (hrole t ht)
  exact fun t ht => hview (Q t) (List.mem_map_of_mem ht)

theorem ActedAt.forall_tasks (h : ActedAt config strict signals s s' i t r) (hdeaf : Deaf Q)
    (hall : ∀ t ∈ s.tasks, P t) (hkeep : ∀ t, P t → Q t) (hr : Q r.task) :
    ∀ t ∈ s'.tasks, Q t := by
  have hview : ∀ q ∈ s'.tasks.map Q, q := by
    rw [h.tasks Q hdeaf]
    refine Tasks.forall_mem_set (P := id) ?_ (fun _ hq => hq) hr
    exact List.forall_mem_map.mpr fun t ht => hkeep t (hall t ht)
  exact fun t ht => hview (Q t) (List.mem_map_of_mem ht)

/-- After a step of one task, each task is the one that has stepped or another one as it was. -/
theorem ActedAt.mem_cases (h : ActedAt config strict signals s s' i t r) {u : Task Addr}
    (hu : u ∈ s'.tasks) :
    (u.role = r.task.role ∧ u.holding = r.task.holding) ∨
      ∃ j v, j ≠ i ∧ s.tasks[j]? = some v ∧ u.role = v.role ∧ u.holding = v.holding := by
  have hview := List.mem_map_of_mem (f := fun t : Task Addr => (t.role, t.holding)) hu
  rw [h.tasks _ fun _ _ _ => rfl] at hview
  rcases Tasks.mem_set_cases hview with hsame | ⟨j, hij, hj⟩
  · exact Or.inl (Prod.mk.inj hsame)
  · rw [List.getElem?_map, Option.map_eq_some_iff] at hj
    obtain ⟨v, hv, hsame⟩ := hj
    exact Or.inr ⟨j, v, hij, hv, Prod.mk.inj hsame.symm⟩

theorem ActedAt.mem_after (h : ActedAt config strict signals s s' i t r) :
    ∃ u ∈ s'.tasks, u.holding = r.task.holding := by
  have hi : i < (s.tasks.map (·.holding)).length := by
    rw [List.length_map]
    exact (List.getElem?_eq_some_iff.mp h.task).1
  have hview := List.getElem?_set_self (a := r.task.holding) hi
  rw [← h.tasks _ fun _ _ _ => rfl, List.getElem?_map, Option.map_eq_some_iff] at hview
  obtain ⟨u, hu, hholding⟩ := hview
  exact ⟨u, List.mem_of_getElem? hu, hholding⟩

omit [DecidableEq Addr] in
theorem Quiet.countP {p : Task Addr → Bool} (h : Quiet s s') (hdeaf : Deaf p)
    (hfresh : ∀ t, Fresh t → p t = false) : s'.tasks.countP p = s.tasks.countP p := by
  obtain ⟨fresh, hnew, -, hmap⟩ := h.tasks
  have hnone : (fresh.map p).countP id = 0 := by
    rw [List.countP_eq_zero]
    intro b hb
    obtain ⟨t, ht, rfl⟩ := List.mem_map.mp hb
    exact ne_true_of_eq_false (hfresh t (hnew t ht))
  have hcount := congrArg (List.countP id) (hmap p hdeaf)
  rw [List.countP_append, hnone, List.countP_map, List.countP_map] at hcount
  exact hcount

theorem ActedAt.countP {p : Task Addr → Bool} (h : ActedAt config strict signals s s' i t r)
    (hdeaf : Deaf p) :
    s'.tasks.countP p + (p t).toNat = s.tasks.countP p + (p r.task).toNat := by
  have hi : (s.tasks.map p)[i]? = some (p t) := by rw [List.getElem?_map, h.task, Option.map_some]
  have hcount := Tasks.countP_set (b := p r.task) id hi
  rw [← h.tasks p hdeaf, List.countP_map, List.countP_map] at hcount
  exact hcount

end

/-! ### Reachable states -/

theorem fresh_new : ∀ t ∈ (PoolState.new config).tasks, Fresh t := by
  intro t ht
  rcases List.mem_cons.mp ht with rfl | ht
  · exact Task.fresh_new _ _ rfl
  · obtain ⟨device, -, rfl⟩ := List.mem_map.mp ht
    exact Task.fresh_new _ _ rfl

theorem fits_of_reachable (hs : (poolMachine config strict).Reachable s) :
    ∀ t ∈ s.tasks, Fits t.phase t.holding := by
  have hfresh : ∀ t : Task Addr, Fresh t → Fits t.phase t.holding :=
    fun t ht => ht.holding ▸ .free ht.free
  refine hs.invariant (P := fun s => ∀ t ∈ s.tasks, Fits t.phase t.holding)
    (fun t ht => hfresh t (fresh_new t ht)) ?_
  intro s e s' _ hfits h
  rcases (PoolState.stepped hfits h).quiet_or_acted with hquiet | ⟨i, t, r, hacted⟩
  · exact hquiet.forall_tasks (fun _ _ _ => rfl) hfits (fun _ h => h) fun t ht _ => hfresh t ht
  · exact hacted.forall_tasks (fun _ _ _ => rfl) hfits (fun _ h => h)
      (hacted.acted.fits (hfits t (List.mem_of_getElem? hacted.task)))

theorem stepped_of_reachable (hs : (poolMachine config strict).Reachable s)
    (h : (poolMachine config strict).step s e = some s') : Stepped config strict e.signals s s' :=
  PoolState.stepped (fits_of_reachable hs) h

/-- What holds of a new pool and is kept by what steps can do holds in every reachable state. -/
theorem pool_invariant {P : PoolState Addr → Prop} (hinit : P (.new config))
    (hstep : ∀ {s s' signals}, (poolMachine config strict).Reachable s → P s →
      Stepped config strict signals s s' → P s')
    (hs : (poolMachine config strict).Reachable s) : P s :=
  hs.invariant hinit fun hs hP h => hstep hs hP (stepped_of_reachable hs h)

end

end RustyModbus.Pool
