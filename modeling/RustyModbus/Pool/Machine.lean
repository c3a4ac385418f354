import Mathlib.Logic.Function.Basic
import RustyModbus.Lib.Machine
import RustyModbus.Pool.Operations

/-!
# The pool as a machine

Everybody who works on a pool is a task: callers of `get` and `get_with_acquisition_timeout`, who
go on to hold a reservation, a lease or a client; the maintainers of priority devices; the health
check; and callers of `shutdown`. A step of a task is one critical section, one reading of the
clock, or one move of its own. Where the source gives notice of changed capacity after it has
released the lock, the task `owes` that notice, and giving it is its next step.

Timers, connectors and peers are left open: a timer may fire and a connector may end at any time.
If the clock is `strict`, each reading is later than the one before, otherwise it is not earlier.
-/

namespace RustyModbus.Pool

open Client (SessionReuseVerdict)

/-! ## Tasks -/

/-- What a task has of the pool. -/
inductive Holding (Addr : Type)
  | nothing
  /-- A pending reservation. -/
  | pending (evicted : Option (PoolEntry Addr))
  /-- The same with its connection, which is not yet committed. -/
  | connected (entry : PoolEntry Addr) (evicted : Option (PoolEntry Addr))
  | lease (entry : PoolEntry Addr) (rawAccessed : Bool)
  /-- A client that retires the connection, with the halves that are not yet dropped. -/
  | retiring (entry : PoolEntry Addr) (sink stream : Bool)
  /-- A client session that may return the connection, unless it is abandoned. -/
  | session (entry : PoolEntry Addr) (abandoned : Bool)

inductive Role (Addr : Type)
  | demand (addr : Addr)
  | maintainer (addr : Addr) (standing probe : Bool)
  | health
  | closer

inductive Phase
  -- callers
  | attempting (timeout : Option Nat)
  | settingDeadline (timeout : Nat)
  | lastAttempt
  | enabling (deadline : Instant) (waited : Bool)
  | trying (deadline : Instant) (waited : Bool)
  | parked (deadline : Instant)
  | expired
  | connecting
  | committing
  | borrowing
  -- maintainers
  | checking
  | deciding
  | registering
  | reserving
  | idling
  | backingOff
  -- the health check
  | ticking
  | ticked (now : Instant)
  -- shutdown
  | closing
  | stopping
  | aborting
  | finished
deriving DecidableEq, Repr

structure Task (Addr : Type) where
  role : Role Addr
  phase : Phase
  holding : Holding Addr
  /-- Registered for notices, and whether one has come. -/
  waiter : Option Bool
  owes : Bool
  warmUpPending : Bool

/-- What the tasks share. -/
structure Shared (Addr : Type) where
  inner : PoolInner Addr
  net : Network
  clock : Instant
  maintenanceStop : Bool
  healthAborted : Bool

/-! ## The transports -/

namespace Network

def update (net : Network) (id : TransportId) (f : Wire → Wire) : Network :=
  { net with wires := Function.update net.wires id (f (net.wires id)) }

def connect (net : Network) (standing : Standing) : Network :=
  { net with
    next := net.next + 1
    wires := Function.update net.wires net.next
      { received := [], buffer := [], loan := 0, standing, spoiled := false } }

def lend (net : Network) (id : TransportId) : Network :=
  net.update id fun w => { w with loan := w.loan + 1, standing := .lent }

def giveBack (net : Network) (id : TransportId) (verdict : SessionReuseVerdict) : Network :=
  net.update id fun w => { w with standing := .returned verdict }

def spoil (net : Network) (id : TransportId) : Network :=
  net.update id fun w => { w with spoiled := true }

def retire {Addr : Type} (net : Network) (entries : List (PoolEntry Addr)) : Network :=
  { net with retired := net.retired ++ entries.map (·.stream) }

attribute [grind] update connect lend giveBack spoil

section

variable {Addr : Type} (net : Network) (entries : List (PoolEntry Addr))

@[grind =] theorem retire_next : (net.retire entries).next = net.next := rfl

@[grind =] theorem retire_wires (id : TransportId) :
    (net.retire entries).wires id = net.wires id := rfl

end

end Network

/-! ## Steps -/

/-- What can happen to a task. -/
inductive Action
  | notify
  | attempt (checked now : Instant) (signals : Signals)
  | readClock (now : Instant)
  | enable
  | wake
  | timer
  | proceed
  | stop
  | cancel
  | connectOk (now : Instant)
  | connectFails
  | probe (now : Instant) (signals : Signals)
  | touch
  | retire
  | intoRetiringClient
  | intoReusableClient
  | dropSink
  | dropStream
  | abandon
  | dropVault
  | shutdownAndReturn (verdict : SessionReuseVerdict) (now : Instant)
  | sweep (signals : Signals)

/-- What a step leaves: the shared state, the task, and whether it has given notice. -/
structure Result (Addr : Type) where
  shared : Shared Addr
  task : Task Addr
  notice : Bool

variable {Addr : Type} [DecidableEq Addr]

def Role.budget (config : PoolConfig Addr) : Role Addr → Option (Charge Addr)
  | .demand addr => some ⟨config.isPriorityAddr addr, addr⟩
  | .maintainer addr _ _ => some ⟨true, addr⟩
  | .health | .closer => none

/-- A reading of the clock. -/
def Shared.reads (strict : Bool) (s : Shared Addr) (now : Instant) : Bool :=
  if strict then s.clock < now else s.clock ≤ now

/-- The shared state after an attempt. -/
def Shared.afterAttempt (s : Shared Addr) (now : Instant) (a : Attempt Addr) : Shared Addr :=
  let net := s.net.retire a.retirements
  { s with
    inner := a.inner
    net := match a.acquisition with
      | some (.reused entry) => net.lend entry.stream
      | _ => net
    clock := if a.readClock then now else s.clock }

/-- Lending an entry of a priority device is announced under the lock. -/
def Attempt.lendsPriority (a : Attempt Addr) : Bool :=
  match a.acquisition with
  | some (.reused entry) => entry.isPriority
  | _ => false

/-- Where a caller goes whose attempt is refused. -/
def Phase.refused : Phase → Option Phase
  | .attempting none | .lastAttempt => some .finished
  | .attempting (some timeout) => some (.settingDeadline timeout)
  | .trying deadline _ => some (.parked deadline)
  | _ => none

/-- The deadline that is checked before an attempt. -/
def Phase.checkedDeadline : Phase → Option Instant
  | .trying deadline true => some deadline
  | _ => none

/-- Where a task goes that no longer holds a connection. -/
def Role.afterLoan : Role Addr → Phase
  | .maintainer .. => .registering
  | _ => .finished

namespace Task

variable (config : PoolConfig Addr) (strict : Bool) (s : Shared Addr) (t : Task Addr)

/-- A step that touches nothing but the task. -/
def moveTo (phase : Phase) : Option (Result Addr) :=
  some { shared := s, task := { t with phase }, notice := false }

/-- The task goes on or ends, and drops its registration for notices. -/
def leaveTo (phase : Phase) : Option (Result Addr) :=
  some { shared := s, task := { t with phase, waiter := none }, notice := false }

def afterAttempt (a : Attempt Addr) (refused : Phase) : Task Addr :=
  let owes := !a.retirements.isEmpty
  match a.acquisition with
  | some (.reused entry) =>
    { t with phase := .borrowing, holding := .lease entry false, waiter := none, owes }
  | some (.reserved evicted) =>
    { t with phase := .connecting, holding := .pending evicted, waiter := none, owes }
  | none => { t with phase := refused, owes }

def tryAcquire (addr : Addr) (now : Instant) (signals : Signals) (refused : Phase) :
    Option (Result Addr) :=
  if s.reads strict now then
    let a := s.inner.tryAcquireLocked config s.net signals now addr (config.isPriorityAddr addr)
    some {
      shared := s.afterAttempt now a
      task := t.afterAttempt a refused
      notice := a.lendsPriority }
  else none

/-- One attempt of `acquire_immediate` or `acquire_with_timeout`. -/
def attempt (checked now : Instant) (signals : Signals) : Option (Result Addr) :=
  match t.role, t.phase.refused with
  | .demand addr, some refused =>
    if s.inner.shuttingDown then t.leaveTo s .finished
    else
      match t.phase.checkedDeadline with
      | none => t.tryAcquire config strict s addr now signals refused
      | some deadline =>
        if s.reads strict checked then
          let s := { s with clock := checked }
          if deadline ≤ checked then t.leaveTo s .finished
          else t.tryAcquire config strict s addr now signals refused
        else none
  | _, _ => none

def readClock (now : Instant) : Option (Result Addr) :=
  if s.reads strict now then
    let s := { s with clock := now }
    match t.phase with
    | .settingDeadline timeout =>
      if now + timeout ≤ config.latestInstant then t.moveTo s (.enabling (now + timeout) false)
      else t.moveTo s .lastAttempt
    | .ticking => t.moveTo s (.ticked now)
    | _ => none
  else none

/-- Registration for notices comes before the look at the state. -/
def enable : Option (Result Addr) :=
  let registered := { t with waiter := some false }
  match t.phase with
  | .enabling deadline waited => registered.moveTo s (.trying deadline waited)
  | .registering => registered.moveTo s .reserving
  | _ => none

def wake : Option (Result Addr) :=
  match t.phase, t.waiter with
  | .parked deadline, some true => t.leaveTo s (.enabling deadline true)
  | .idling, some true => t.leaveTo s .checking
  | _, _ => none

def timer : Option (Result Addr) :=
  match t.phase with
  | .parked _ => t.leaveTo s .expired
  | .idling => t.leaveTo s .checking
  | .backingOff => t.moveTo s .checking
  | _ => none

/-- The maintainer's look at the state: it reserves a slot or settles down to wait. -/
def reserve (addr : Addr) (standing probe : Bool) : Option (Result Addr) :=
  let wait (t : Task Addr) :=
    if !standing && !probe then t.leaveTo s .finished else t.moveTo s .idling
  if standing || t.warmUpPending then
    if s.inner.shuttingDown then t.leaveTo s .finished
    else
      match s.inner.reservePriorityMaintenance addr (config.priorityCap addr) with
      | some inner =>
        some {
          shared := { s with inner }
          task := { t with phase := .connecting, holding := .pending none, waiter := none }
          notice := false }
      | none => wait { t with warmUpPending := t.warmUpPending && standing }
  else wait t

/-- `PendingReservation::commit`, and for maintainers `commit_priority_idle_if_needed`. -/
def commit (entry : PoolEntry Addr) (evicted : Option (PoolEntry Addr)) : Option (Result Addr) :=
  match t.role with
  | .demand _ =>
    some {
      shared := { s with inner := s.inner.commit evicted, net := s.net.retire evicted.toList }
      task := { t with phase := .borrowing, holding := .lease entry false }
      notice := false }
  | .maintainer _ standing probe =>
    let (inner, rejected) := s.inner.commitPriorityIdleIfNeeded entry
    some {
      shared := { s with inner, net := if rejected then s.net.retire [entry] else s.net }
      task := { t with
        phase := if !standing && !probe then .finished else .checking
        holding := .nothing
        owes := true
        warmUpPending := t.warmUpPending && standing }
      notice := false }
  | _ => none

def proceed : Option (Result Addr) :=
  match t.phase, t.holding with
  | .expired, _ => t.moveTo s .finished
  | .checking, _ => t.moveTo s (if s.maintenanceStop then .finished else .deciding)
  | .deciding, _ => t.moveTo s .registering
  | .reserving, _ =>
    match t.role with
    | .maintainer addr standing probe => t.reserve config s addr standing probe
    | _ => none
  | .committing, .connected entry evicted => t.commit s entry evicted
  | .closing, _ =>
    some {
      shared := { s with inner := s.inner.shutdown, net := s.net.retire s.inner.idle }
      task := { t with phase := .stopping, owes := true }
      notice := false }
  | .stopping, _ => t.moveTo { s with maintenanceStop := true } .aborting
  | .aborting, _ => t.moveTo { s with healthAborted := true } .finished
  | _, _ => none

/-- `PendingReservation::rollback`; a connection that was made meanwhile is dropped. -/
def rollback (connectionFailed : Bool) (phase : Phase) : Option (Result Addr) :=
  match t.role.budget config, t.holding with
  | some c, .pending evicted =>
    some {
      shared := { s with
        inner := s.inner.rollback c.isPriority c.addr evicted connectionFailed
        net := if s.inner.shuttingDown then s.net.retire evicted.toList else s.net }
      task := { t with phase, holding := .nothing, owes := true }
      notice := false }
  | some c, .connected entry evicted =>
    let net := s.net.retire [entry]
    some {
      shared := { s with
        inner := s.inner.rollback c.isPriority c.addr evicted connectionFailed
        net := if s.inner.shuttingDown then net.retire evicted.toList else net }
      task := { t with phase, holding := .nothing, owes := true }
      notice := false }
  | _, _ => none

/-- Maintainers and the health check see that they are to stop. -/
def stop : Option (Result Addr) :=
  match t.role, t.phase with
  | .maintainer .., .connecting | .maintainer .., .committing =>
    if s.maintenanceStop then t.rollback config s false .finished else none
  | .maintainer .., .idling | .maintainer .., .backingOff | .maintainer .., .registering =>
    if s.maintenanceStop then t.leaveTo s .finished else none
  | .health, .ticking => if s.healthAborted then t.moveTo s .finished else none
  | _, _ => none

/-- The future of a caller is dropped. -/
def cancel : Option (Result Addr) :=
  match t.role, t.phase with
  | .demand _, .connecting => t.rollback config s false .finished
  | .demand _, .parked _ => t.leaveTo s .finished
  | _, _ => none

def connectOk (now : Instant) : Option (Result Addr) :=
  match t.phase, t.role.budget config, t.holding with
  | .connecting, some c, .pending evicted =>
    if s.reads strict now then
      let entry :=
        { addr := c.addr, sink := s.net.next, stream := s.net.next, lastUsed := now
          isPriority := c.isPriority }
      let standing := match t.role with
        | .maintainer .. => Standing.preconnected
        | _ => .lent
      some {
        shared := { s with net := s.net.connect standing, clock := now }
        task := { t with phase := .committing, holding := .connected entry evicted }
        notice := false }
    else none
  | _, _, _ => none

def connectFails : Option (Result Addr) :=
  match t.role, t.phase with
  | .demand _, .connecting => t.rollback config s true .finished
  | .maintainer .., .connecting => t.rollback config s true .backingOff
  | _, _ => none

/-- `claim_priority_probe`: what is claimed goes straight to a client session. -/
def probe (now : Instant) (signals : Signals) : Option (Result Addr) :=
  match t.role, t.phase with
  | .maintainer addr _ true, .deciding =>
    if s.inner.shuttingDown || s.maintenanceStop then t.moveTo s .finished
    else if s.reads strict now then
      let a := s.inner.claimPriorityProbe s.net signals now addr
      let owes := !a.retirements.isEmpty
      some {
        shared := s.afterAttempt now a
        task := match a.acquisition with
          | some (.reused entry) =>
            { t with phase := .borrowing, holding := .session entry false, owes }
          | _ => { t with phase := .registering, owes }
        notice := false }
    else none
  | _, _ => none

/-- The connection is retired and its charge released. -/
def retireHeld (entry : PoolEntry Addr) (net : Network) : Option (Result Addr) :=
  some {
    shared := { s with
      inner := s.inner.retireActive entry.isPriority entry.addr
      net := net.retire [entry] }
    task := { t with phase := t.role.afterLoan, holding := .nothing, owes := true }
    notice := false }

def hold (holding : Holding Addr) (net : Network) : Option (Result Addr) :=
  some { shared := { s with net }, task := { t with holding }, notice := false }

/-- What the holder of a lease or a client does with it. -/
def use (a : Action) : Option (Result Addr) :=
  match t.holding, a with
  | .lease entry _, .touch => t.hold s (.lease entry true) (s.net.spoil entry.stream)
  | .lease entry _, .retire => t.retireHeld s entry (s.net.spoil entry.stream)
  | .lease entry _, .intoRetiringClient => t.hold s (.retiring entry true true) s.net
  | .lease entry rawAccessed, .intoReusableClient =>
    if rawAccessed then t.retireHeld s entry s.net
    else t.hold s (.session entry false) s.net
  | .retiring entry true stream, .dropSink =>
    if stream then t.hold s (.retiring entry false true) s.net else t.retireHeld s entry s.net
  | .retiring entry sink true, .dropStream =>
    if sink then t.hold s (.retiring entry true false) s.net else t.retireHeld s entry s.net
  | .session entry false, .abandon => t.hold s (.session entry true) s.net
  | .session entry true, .dropVault => t.retireHeld s entry s.net
  | .session entry false, .shutdownAndReturn verdict now =>
    if verdict = .reuseEligible then
      if s.reads strict now then
        some {
          shared := { s with
            inner := s.inner.returnToPool entry now
            net := if s.inner.shuttingDown then s.net.retire [entry]
              else s.net.giveBack entry.stream verdict
            clock := now }
          task := { t with phase := t.role.afterLoan, holding := .nothing, owes := true }
          notice := false }
      else none
    else t.hold s (.session entry true) s.net
  | _, _ => none

def sweep (signals : Signals) : Option (Result Addr) :=
  match t.phase with
  | .ticked now =>
    if s.inner.shuttingDown then t.moveTo s .finished
    else
      let (inner, retirements) := s.inner.runHealthCheck config s.net signals now
      some {
        shared := { s with inner, net := s.net.retire retirements }
        task := { t with phase := .ticking, owes := !retirements.isEmpty }
        notice := false }
  | _ => none

/-- A task that owes notice gives it before anything else. -/
def act : Action → Option (Result Addr)
  | .notify =>
    if t.owes then some { shared := s, task := { t with owes := false }, notice := true } else none
  | a =>
    if t.owes then none
    else match a with
      | .attempt checked now signals => t.attempt config strict s checked now signals
      | .readClock now => t.readClock config strict s now
      | .enable => t.enable s
      | .wake => t.wake s
      | .timer => t.timer s
      | .proceed => t.proceed config s
      | .stop => t.stop config s
      | .cancel => t.cancel config s
      | .connectOk now => t.connectOk config strict s now
      | .connectFails => t.connectFails config s
      | .probe now signals => t.probe strict s now signals
      | .sweep signals => t.sweep config s signals
      | a => if t.phase = .borrowing then t.use strict s a else none

/-- `notify_waiters` reaches every task that is registered. -/
def notified : Task Addr := { t with waiter := t.waiter.map fun _ => true }

end Task

/-! ## The machine -/

/-- A byte that a borrower has decoded, and during which loan. -/
structure Decoded where
  transport : TransportId
  loan : Nat
  byte : ReceivedByte
deriving DecidableEq, Repr

structure PoolState (Addr : Type) where
  shared : Shared Addr
  tasks : List (Task Addr)
  decoded : List Decoded

inductive PoolEvent (Addr : Type)
  | get (addr : Addr) (timeout : Option Nat)
  | shutdown
  | task (i : Nat) (a : Action)
  /-- A byte arrives. -/
  | receive (id : TransportId) (byte : UInt8)
  /-- A borrower reads from the socket, or decodes what has been read. -/
  | read (i n : Nat)
  | decode (i n : Nat)

def Task.new (role : Role Addr) (phase : Phase) (warmUpPending : Bool) : Task Addr where
  role := role
  phase := phase
  holding := .nothing
  waiter := none
  owes := false
  warmUpPending := warmUpPending

/-- The first device of each address. -/
def distinctDevices : List (PriorityDevice Addr) → List Addr → List (PriorityDevice Addr)
  | [], _ => []
  | device :: devices, seen =>
    if device.addr ∈ seen then distinctDevices devices seen
    else device :: distinctDevices devices (device.addr :: seen)

def spawnPriorityMaintenance (config : PoolConfig Addr) : List (Task Addr) :=
  let warmUpEnabled := config.preConnect || config.priorityReplenishment
  ((distinctDevices config.priorityDevices []).filter fun device =>
      device.maxConnections != 0 && (warmUpEnabled || device.probe)).map fun device =>
    .new (.maintainer device.addr config.priorityReplenishment device.probe) .checking warmUpEnabled

/-- The transport that a task may read from. -/
def Holding.readable : Holding Addr → Option TransportId
  | .lease entry true | .retiring entry _ true | .session entry _ => some entry.stream
  | _ => none

namespace PoolState

def step (config : PoolConfig Addr) (strict : Bool) (s : PoolState Addr) :
    PoolEvent Addr → Option (PoolState Addr)
  | .get addr timeout =>
    some { s with tasks := s.tasks ++ [.new (.demand addr) (.attempting timeout) false] }
  | .shutdown => some { s with tasks := s.tasks ++ [.new .closer .closing false] }
  | .task i a => do
    let t ← s.tasks[i]?
    let r ← t.act config strict s.shared a
    let tasks := s.tasks.set i r.task
    return { s with
      shared := r.shared
      tasks := if r.notice then tasks.map Task.notified else tasks }
  | .receive id byte =>
    let net := s.shared.net.update id fun w =>
      { w with received := w.received ++ [⟨byte, w.loan⟩] }
    if id < s.shared.net.next then some { s with shared := { s.shared with net } } else none
  | .read i n => do
    let t ← s.tasks[i]?
    let id ← t.holding.readable
    let net := s.shared.net.update id fun w =>
      { w with received := w.received.drop n, buffer := w.buffer ++ w.received.take n }
    return { s with shared := { s.shared with net } }
  | .decode i n => do
    let t ← s.tasks[i]?
    let id ← t.holding.readable
    let w := s.shared.net.wires id
    let net := s.shared.net.update id fun w => { w with buffer := w.buffer.drop n }
    return { s with
      shared := { s.shared with net }
      decoded := s.decoded ++ (w.buffer.take n).map fun byte => ⟨id, w.loan, byte⟩ }

def new (config : PoolConfig Addr) : PoolState Addr where
  shared :=
    { inner := .new
      net :=
        { next := 0
          wires := fun _ =>
            { received := [], buffer := [], loan := 0, standing := .lent, spoiled := false }
          retired := [] }
      clock := 0
      maintenanceStop := false
      healthAborted := false }
  tasks := .new .health .ticking false :: spawnPriorityMaintenance config
  decoded := []

end PoolState

def poolMachine (config : PoolConfig Addr) (strict : Bool) :
    Machine (PoolState Addr) (PoolEvent Addr) where
  init := .new config
  step := PoolState.step config strict

end RustyModbus.Pool
