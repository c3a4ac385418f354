import RustyModbus.Client.Manager
import RustyModbus.Lib.Log

/-!
# The lifecycle of a client

Admission of operations, the ways of closing a client, and the task that coordinates a
shutdown. Any number of operations, `shutdown` calls and `abort` calls are under way at once. A
step is again what one of them does without another being able to look: a section under the
lock of `State` or of `Tasks`, one operation on the semaphore or on a watch channel, one store
of `connected`.

The clock and the slots of the transaction manager are not part of this state. Where the source
reads them the event brings what was read, and `Client.Machine` says what that is. The updates of
the verdict are places in the programs below at which nothing happens here.

The semaphore hands a permit to a waiting `admit` as long as it is open; closing it fails those
that have none. A watch channel is the value last sent on it.
-/

namespace RustyModbus.Client.Concurrent

/-! ## Data -/

inductive Phase
  | running
  | draining
  | cancelling
  | closed
deriving DecidableEq, Repr

/-- A call of `admit`, and the `OperationGuard` it returns. -/
inductive Admission
  | entered
  /-- Has seen the phase running and waits for a permit. -/
  | checked
  /-- Has a permit and looks at the phase again. -/
  | permitted
  /-- The guard is alive. -/
  | admitted
  /-- The guard is being dropped and no longer counted. -/
  | released (becameIdle : Bool)
  /-- Only the permit is left to be dropped. -/
  | returning (error : Option ClientError)
  | ended (error : Option ClientError)
deriving DecidableEq, Repr

def Admission.isLive : Admission → Bool
  | .admitted => true
  | _ => false

def Admission.holdsPermit : Admission → Bool
  | .permitted | .admitted | .released _ | .returning _ => true
  | _ => false

inductive ShutdownCall
  | sealing (deadline : Instant)
  | ensuring
  | spawning
  | recording (coordinator : Nat)
  | waiting
  | returned
  | cancelled
deriving DecidableEq, Repr

/-- `abort_inner`, and `abort_coordinator` behind it where the last owner is dropped. -/
inductive AbortPc
  | retire
  | sealing
  | disconnect
  | cancelAll
  | cancel
  | stopTasks
  | abortTasks
  | done
deriving DecidableEq, Repr

def AbortPc.next : AbortPc → AbortPc
  | .retire => .sealing
  | .sealing => .disconnect
  | .disconnect => .cancelAll
  | .cancelAll => .cancel
  | .cancel => .stopTasks
  | .stopTasks => .abortTasks
  | .abortTasks | .done => .done

inductive AbortCall
  /-- `ModbusClient::abort`, or the drop of the last owner. -/
  | running (finalOwner : Bool) (pc : AbortPc)
  | returned
deriving DecidableEq, Repr

def AbortCall.reason (finalOwner : Bool) : SessionRetirementReason :=
  if finalOwner then .finalOwnerDropped else .aborted

/-- Where the `select!` of the coordinator is: the three branches are polled in order. -/
inductive DrainPc
  | looking
  | polling
  | watching
  | timing
  | parked
deriving DecidableEq, Repr

inductive CoordinatorPc
  | started
  | draining (deadline : Instant) (pc : DrainPc)
  | aborting (pc : AbortPc)
  | drained
  | stopping (hardStop : Bool)
  | abortingTasks (hardStop : Bool)
  | taking
  | joiningReader (reader deadline : Bool)
  | readerFailed (deadline : Bool)
  | joiningDeadline (deadline : Bool)
  | deadlineFailed
  | disconnecting
  | closing
  | marking (clean : Bool)
  | publishing
  | finished
  | aborted
deriving DecidableEq, Repr

structure Coordinator where
  pc : CoordinatorPc
  abortRequested : Bool
deriving DecidableEq, Repr

/-- The coordinator is at an await, where an abort request takes effect. -/
def CoordinatorPc.awaits : CoordinatorPc → Bool
  | .started | .draining _ .parked | .joiningReader true _ | .joiningDeadline true => true
  | _ => false

inductive TaskEnd
  | returned
  | cancelled
  | panicked
deriving DecidableEq, Repr

/-- The reader or the deadline scheduler. `handle` is whether its handle is still installed. -/
structure Task where
  ended : Option TaskEnd
  abortRequested : Bool
  handle : Bool
  joined : Bool
deriving DecidableEq, Repr

def Task.spawned : Task := { ended := none, abortRequested := false, handle := true, joined := false }

inductive TaskName
  | reader
  | deadline
deriving DecidableEq, Repr

/-- What the coordinator saw in the section in which it closed the client. -/
structure Closing where
  phase : Phase
  active : Nat
  pendingEmpty : Bool
deriving DecidableEq, Repr

def Closing.clean (c : Closing) : Bool := c.phase == .draining && c.active == 0 && c.pendingEmpty

structure Lifecycle where
  phase : Phase
  active : Nat
  drainDeadline : Option Instant
  coordinatorStarted : Bool
  permits : Nat
  semaphoreClosed : Bool
  activeChanged : Notify
  cancellation : Bool
  taskStop : Bool
  completion : Bool
  connected : Bool
  reader : Task
  deadline : Task
  coordinatorAbort : Option Nat
  admissions : List Admission
  shutdowns : List ShutdownCall
  aborts : List AbortCall
  coordinators : List Coordinator
  -- history
  closing : Option Closing
deriving DecidableEq, Repr

/-- The capacity `from_transport` gives the semaphore. -/
def admissionCapacity (maxInFlight : Nat) : Nat := max 1 (min maxInFlight maxSlots)

namespace Lifecycle

/-- `ClientLifecycle::new`, with both tasks installed. -/
def new (capacity : Nat) : Lifecycle :=
  { phase := .running, active := 0, drainDeadline := none, coordinatorStarted := false,
    permits := capacity, semaphoreClosed := false, activeChanged := .new, cancellation := false,
    taskStop := false, completion := false, connected := true, reader := .spawned,
    deadline := .spawned, coordinatorAbort := none, admissions := [], shutdowns := [],
    aborts := [], coordinators := [], closing := none }

def setAdmission (s : Lifecycle) (i : Nat) (a : Admission) : Lifecycle :=
  { s with admissions := s.admissions.set i a }

def setShutdown (s : Lifecycle) (k : Nat) (call : ShutdownCall) : Lifecycle :=
  { s with shutdowns := s.shutdowns.set k call }

def goto (s : Lifecycle) (n : Nat) (c : Coordinator) (pc : CoordinatorPc) : Lifecycle :=
  { s with coordinators := s.coordinators.set n { c with pc } }

/-! ## Admission -/

def check (s : Lifecycle) (i : Nat) : Admission → Option Lifecycle
  | .entered =>
    some (s.setAdmission i
      (if s.phase = .running then .checked else .ended (some .notConnected)))
  | _ => none

def acquire (s : Lifecycle) (i : Nat) : Admission → Option Lifecycle
  | .checked =>
    if s.semaphoreClosed then some (s.setAdmission i (.ended (some .shuttingDown)))
    else if s.permits = 0 then none
    else some { s.setAdmission i .permitted with permits := s.permits - 1 }
  | _ => none

def enter (s : Lifecycle) (i : Nat) : Admission → Option Lifecycle
  | .permitted =>
    if s.phase = .running then some { s.setAdmission i .admitted with active := s.active + 1 }
    else some (s.setAdmission i (.returning (some .shuttingDown)))
  | _ => none

/-- The future is dropped while it waits for the permit. It may have been given one already. -/
def abandon (s : Lifecycle) (i : Nat) : Admission → Option Lifecycle
  | .checked => some (s.setAdmission i (.ended none))
  | .permitted => some (s.setAdmission i (.returning none))
  | _ => none

/-- The section of `OperationGuard::drop`. -/
def release (s : Lifecycle) (i : Nat) : Admission → Option Lifecycle
  | .admitted =>
    let active := s.active - 1
    some { s.setAdmission i (.released (active == 0)) with active }
  | _ => none

def notifyIdle (s : Lifecycle) (i : Nat) : Admission → Option Lifecycle
  | .released becameIdle =>
    some { s.setAdmission i (.returning none) with
      activeChanged := if becameIdle then s.activeChanged.notifyOne else s.activeChanged }
  | _ => none

def returnPermit (s : Lifecycle) (i : Nat) : Admission → Option Lifecycle
  | .returning error => some { s.setAdmission i (.ended error) with permits := s.permits + 1 }
  | _ => none

/-! ## Shutdown and abort -/

/-- `seal`, `ensure_coordinator` and `wait_for_completion`, one after the other. -/
def shutdownStep (s : Lifecycle) (k : Nat) : ShutdownCall → Option Lifecycle
  | .sealing deadline =>
    let s := s.setShutdown k .ensuring
    if s.phase = .running then
      some { s with phase := .draining, drainDeadline := some deadline, semaphoreClosed := true }
    else some s
  | .ensuring =>
    if s.phase = .closed ∨ s.coordinatorStarted = true then some (s.setShutdown k .waiting)
    else some { s.setShutdown k .spawning with coordinatorStarted := true }
  | .spawning =>
    some { s.setShutdown k (.recording s.coordinators.length) with
      coordinators := s.coordinators ++ [{ pc := .started, abortRequested := false }] }
  | .recording coordinator =>
    some { s.setShutdown k .waiting with coordinatorAbort := some coordinator }
  | .waiting => if s.completion then some (s.setShutdown k .returned) else none
  | .returned | .cancelled => none

/-- The future is dropped where it waits, or before it was polled. -/
def cancelShutdown (s : Lifecycle) (k : Nat) : ShutdownCall → Option Lifecycle
  | .sealing _ | .waiting => some (s.setShutdown k .cancelled)
  | _ => none

def abortInner (s : Lifecycle) : AbortPc → Lifecycle
  | .sealing =>
    { s with
      phase := if s.phase = .closed then .closed else .cancelling
      semaphoreClosed := true }
  | .disconnect => { s with connected := false }
  | .cancel => { s with cancellation := true }
  | .stopTasks => { s with taskStop := true }
  | .abortTasks =>
    { s with
      reader := { s.reader with abortRequested := true }
      deadline := { s.deadline with abortRequested := true } }
  | .retire | .cancelAll | .done => s

def abortCoordinator (s : Lifecycle) : Lifecycle :=
  match s.coordinatorAbort with
  | some n =>
    { s with coordinators := s.coordinators.modify n fun c => { c with abortRequested := true } }
  | none => s

def abortStep (s : Lifecycle) (k : Nat) : AbortCall → Option Lifecycle
  | .running finalOwner .done =>
    let s := if finalOwner then s.abortCoordinator else s
    some { s with aborts := s.aborts.set k .returned }
  | .running finalOwner pc =>
    some { s.abortInner pc with aborts := s.aborts.set k (.running finalOwner pc.next) }
  | .returned => none

/-! ## The coordinator -/

def joinReader (s : Lifecycle) (n : Nat) (c : Coordinator) (deadline : Bool) : Option Lifecycle :=
  match s.reader.ended with
  | none => none
  | some result =>
    some ({ s with reader := { s.reader with joined := true } }.goto n c
      (if result = TaskEnd.panicked then .readerFailed deadline else .joiningDeadline deadline))

def joinDeadline (s : Lifecycle) (n : Nat) (c : Coordinator) : Option Lifecycle :=
  match s.deadline.ended with
  | none => none
  | some result =>
    some ({ s with deadline := { s.deadline with joined := true } }.goto n c
      (if result = TaskEnd.panicked then .deadlineFailed else .disconnecting))

def drain (s : Lifecycle) (n : Nat) (c : Coordinator) (now deadline : Instant) : DrainPc → Lifecycle
  | .looking =>
    if s.active = 0 then s.goto n c .drained else s.goto n c (.draining deadline .polling)
  | .polling =>
    let activeChanged := s.activeChanged.enable
    if activeChanged.waiter = .woken then
      { s.goto n c (.draining deadline .looking) with activeChanged := activeChanged.consume }
    else { s.goto n c (.draining deadline .watching) with activeChanged }
  | .watching =>
    if s.cancellation then
      { s.goto n c .drained with activeChanged := s.activeChanged.cancel }
    else s.goto n c (.draining deadline .timing)
  | .timing =>
    if deadline ≤ now then
      { s.goto n c (.aborting .retire) with activeChanged := s.activeChanged.cancel }
    else s.goto n c (.draining deadline .parked)
  | .parked =>
    if s.activeChanged.waiter = .woken then
      { s.goto n c (.draining deadline .looking) with activeChanged := s.activeChanged.consume }
    else s.goto n c (.draining deadline .watching)

/-- `coordinate_shutdown`, from one place to the next. -/
def coordinate (s : Lifecycle) (n : Nat) (c : Coordinator) (now : Instant) (pendingEmpty : Bool) :
    Option Lifecycle :=
  match c.pc with
  | .started =>
    match s.drainDeadline with
    | some deadline =>
      some (s.goto n c
        (if s.phase = .draining then .draining deadline .looking else .drained))
    | none => some (s.goto n c .drained)
  | .draining deadline pc => some (s.drain n c now deadline pc)
  | .aborting .done => some (s.goto n c .drained)
  | .aborting pc => some ((s.abortInner pc).goto n c (.aborting pc.next))
  | .drained => some (s.goto n c (.stopping (s.phase = .cancelling)))
  | .stopping hardStop => some ({ s with taskStop := true }.goto n c (.abortingTasks hardStop))
  | .abortingTasks hardStop =>
    some ({ s with
      reader := { s.reader with abortRequested := s.reader.abortRequested || hardStop }
      deadline := { s.deadline with abortRequested := true } }.goto n c .taking)
  | .taking =>
    some ({ s with
      reader := { s.reader with handle := false }
      deadline := { s.deadline with handle := false } }.goto n c
        (.joiningReader s.reader.handle s.deadline.handle))
  | .joiningReader true deadline => s.joinReader n c deadline
  | .joiningReader false deadline | .readerFailed deadline =>
    some (s.goto n c (.joiningDeadline deadline))
  | .joiningDeadline true => s.joinDeadline n c
  | .joiningDeadline false | .deadlineFailed => some (s.goto n c .disconnecting)
  | .disconnecting => some ({ s with connected := false }.goto n c .closing)
  | .closing =>
    let closing : Closing := { phase := s.phase, active := s.active, pendingEmpty }
    some ({ s with phase := .closed, closing := some closing }.goto n c (.marking closing.clean))
  | .marking _ => some (s.goto n c .publishing)
  | .publishing => some ({ s with completion := true }.goto n c .finished)
  | .finished | .aborted => none

def cancelCoordinator (s : Lifecycle) (n : Nat) (c : Coordinator) : Option Lifecycle :=
  if c.abortRequested ∧ c.pc.awaits then
    some { s.goto n c .aborted with activeChanged := s.activeChanged.cancel }
  else none

def endTask (t : Task) (result : TaskEnd) : Option Task :=
  if t.ended.isSome ∨ result = .cancelled ∧ t.abortRequested = false then none
  else some { t with ended := some result }

/-! ## Steps -/

inductive Event
  | admitCall
  | check (i : Nat)
  | acquire (i : Nat)
  | enter (i : Nat)
  | abandon (i : Nat)
  | release (i : Nat)
  | notifyIdle (i : Nat)
  | returnPermit (i : Nat)
  | shutdown (deadline : Instant)
  | shutdownStep (k : Nat)
  | cancelShutdown (k : Nat)
  | abort (finalOwner : Bool)
  | abortStep (k : Nat)
  | coordinate (n : Nat) (now : Instant) (pendingEmpty : Bool)
  | cancelCoordinator (n : Nat)
  | endTask (task : TaskName) (result : TaskEnd)
  /-- The reader stores that the connection is gone. -/
  | disconnect
deriving DecidableEq, Repr

def step (s : Lifecycle) : Event → Option Lifecycle
  | .admitCall => some { s with admissions := s.admissions ++ [.entered] }
  | .check i => s.admissions[i]?.bind (s.check i)
  | .acquire i => s.admissions[i]?.bind (s.acquire i)
  | .enter i => s.admissions[i]?.bind (s.enter i)
  | .abandon i => s.admissions[i]?.bind (s.abandon i)
  | .release i => s.admissions[i]?.bind (s.release i)
  | .notifyIdle i => s.admissions[i]?.bind (s.notifyIdle i)
  | .returnPermit i => s.admissions[i]?.bind (s.returnPermit i)
  | .shutdown deadline => some { s with shutdowns := s.shutdowns ++ [.sealing deadline] }
  | .shutdownStep k => s.shutdowns[k]?.bind (s.shutdownStep k)
  | .cancelShutdown k => s.shutdowns[k]?.bind (s.cancelShutdown k)
  | .abort finalOwner => some { s with aborts := s.aborts ++ [.running finalOwner .retire] }
  | .abortStep k => s.aborts[k]?.bind (s.abortStep k)
  | .coordinate n now pendingEmpty =>
    s.coordinators[n]?.bind fun c => s.coordinate n c now pendingEmpty
  | .cancelCoordinator n => s.coordinators[n]?.bind (s.cancelCoordinator n)
  | .endTask .reader result => (endTask s.reader result).map fun reader => { s with reader }
  | .endTask .deadline result => (endTask s.deadline result).map fun deadline => { s with deadline }
  | .disconnect => some { s with connected := false }

end Lifecycle

/-- The lifecycle of a client whose configuration asks for `maxInFlight`. -/
def lifecycle (maxInFlight : Nat) : Machine Lifecycle Lifecycle.Event where
  init := .new (admissionCapacity maxInFlight)
  step := Lifecycle.step

end RustyModbus.Client.Concurrent
