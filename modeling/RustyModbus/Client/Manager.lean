import Mathlib.Logic.Function.Basic
import RustyModbus.Client.Transaction
import RustyModbus.Client.Verdict
import RustyModbus.Lib.Machine
import RustyModbus.Lib.Notify

/-!
# The transaction manager and its threads

The manager of `Client.Transaction` as several threads use it at once. A requester registers and
later drops its guard, a reader completes responses, anyone may cancel everything, and the
scheduler runs requests into their deadline. A step is what one thread does without another
being able to look: a section under the lock of one slot, one `fetch_add` on the id counter, one
notification, one update of the verdict, one `send` on a channel. Between the steps the threads
interleave freely.

A thread is named by `ι`, and `Call` says where in which function it is. What a call has left to
do once it let go of the slot is a list of actions, since from there on no branch depends on
shared state.

`registrations` are the channels on which the requesters wait, one for each registration ever
made, with what has been sent on them. Beside that they keep a history no thread can see: with
which draw the id was drawn, how many had been drawn when the slot was filled and when the
guard was dropped, and how often the slot was emptied.
-/

namespace RustyModbus.Client.Concurrent

open Function (update)

abbrev Instant := Nat

/-! ## Data -/

/-- A frame and the time at which it was matched to a transaction. -/
structure Arrival where
  frame : Frame
  time : Instant

inductive CompletionOutcome
  | delivered
  | expired
  | unknownOrDuplicate
  | unitMismatch (expected got : UInt8)
  | functionRejected (expected got : UInt8)
  | codecRejected (error : DecodeError)
deriving DecidableEq, Repr

structure Pending where
  txnId : UInt16
  sender : Nat
  sentAt : Instant
  deadline : Instant
  expected : ExpectedResponse
deriving DecidableEq, Repr

/-- What is sent to a requester, and the frame it was made from. -/
structure Answer where
  result : Except ClientError OwnedResponsePdu
  source : Option Arrival

structure Registration (ι : Type) where
  owner : ι
  txnId : UInt16
  deadline : Instant
  expected : ExpectedResponse
  answers : List Answer
  -- from here on history
  draw : Nat
  registeredAt : Nat
  freed : Nat
  droppedAt : Option Nat

/-- The local variables of `register`, and the number of ids it has drawn. -/
structure Search where
  expected : ExpectedResponse
  deadline : Instant
  seenSlots : Fin maxSlots → Bool
  seenCount : Nat
  draws : Nat

def Search.start (expected : ExpectedResponse) (deadline : Instant) : Search :=
  { expected, deadline, seenSlots := fun _ => false, seenCount := 0, draws := 0 }

def Search.see (q : Search) (slot : Fin maxSlots) : Search :=
  let q := { q with draws := q.draws + 1 }
  if q.seenSlots slot then q
  else { q with seenSlots := update q.seenSlots slot true, seenCount := q.seenCount + 1 }

inductive Action
  | notify
  | retire (reason : SessionRetirementReason)
  | send (channel : Nat) (answer : Answer)

inductive Call
  | idle
  /-- `register`, about to draw an id. -/
  | drawing (search : Search)
  /-- `register`, about to lock the slot of the id. -/
  | locking (search : Search) (txnId : UInt16) (draw : Nat)
  /-- Has a `TransactionRegistration`. -/
  | registered (channel : Nat) (txnId : UInt16)
  | refused (txnId : UInt16)
  /-- `complete_oldest_response`, in its loop over the slots. -/
  | seeking (unitId : UnitId) (pdu : List UInt8) (cursor : Nat)
    (oldest : Option (Fin maxSlots × Instant))
  /-- `cancel_all`, in its loop over the slots. -/
  | cancelling (error : ClientError) (cursor : Nat) (cancelled : Bool)
  | finishing (actions : List Action)

/-- A call that has these actions left to do. -/
def Call.rest : List Action → Call
  | [] => .idle
  | actions => .finishing actions

/-- The local variables of `expire_due_and_next_deadline`, what it has found in the slots so
far and which requesters it has sent a timeout. -/
structure Scan where
  now : Instant
  cursor : Nat
  nearest : Option Instant
  expired : Bool
  found : List (Option Pending)
  timedOut : List Nat

def Scan.start (now : Instant) : Scan :=
  { now, cursor := 0, nearest := none, expired := false, found := [], timedOut := [] }

/-- The nearer of two deadlines, the first of which there need not be. -/
def nearer (nearest : Option Instant) (deadline : Instant) : Option Instant :=
  match nearest with
  | none => some deadline
  | some current => if deadline < current then some deadline else some current

inductive Scheduler
  | idle
  | enabled
  | scanning (scan : Scan)
  /-- Waits for a notification, or for the nearest deadline of its scan if there is one. -/
  | parked (scan : Scan)
  | stopped

structure Manager (ι : Type) where
  clock : Instant
  nextId : UInt16
  slots : Fin maxSlots → Option Pending
  deadlineChanged : Notify
  verdict : SessionReuseVerdict
  registrations : List (Registration ι)
  scheduler : Scheduler
  calls : ι → Call
  -- from here on history
  drawn : Nat
  outcomes : List CompletionOutcome

/-! ## Completion of a response -/

/-- `deliver_response`: what is to be done with a transaction that has been taken off its
slot, and the result. -/
def deliverResponse (pending : Pending) (responseUnitId : UnitId) (arrival : Arrival) :
    List Action × CompletionOutcome :=
  let reply (result : Except ClientError OwnedResponsePdu) :=
    Action.send pending.sender { result, source := some arrival }
  let expectedUnitId := pending.expected.unitId
  if expectedUnitId ≠ responseUnitId then
    ([.retire .unexpectedResponseUnit,
      reply (.error (.unexpectedResponseUnitId expectedUnitId responseUnitId))],
      .unitMismatch expectedUnitId responseUnitId)
  else
    match OwnedResponsePdu.fromPdu arrival.frame.pdu with
    | .error error =>
      ([.retire .malformedResponse, reply (.error (.codec error))], .codecRejected error)
    | .ok response =>
      let expected := pending.expected.functionCode.code
      let got := response.functionCodeByte
      if got ≠ expected ∧ got ≠ expected ||| 0x80 then
        ([.retire .unexpectedResponseFunction,
          reply (.error (.unexpectedResponse expected got))], .functionRejected expected got)
      else ([reply (.ok response)], .delivered)

/-- The rest of `complete_response` behind the section in which it takes the transaction. -/
def completeTaken (pending : Pending) (responseUnitId : UnitId) (arrival : Arrival) :
    List Action × CompletionOutcome :=
  if pending.deadline ≤ arrival.time then
    ([.notify, .retire .responseExpired,
      .send pending.sender { result := .error .timeout, source := some arrival }], .expired)
  else
    let (actions, outcome) := deliverResponse pending responseUnitId arrival
    (.notify :: actions, outcome)

namespace Manager

variable {ι : Type} [DecidableEq ι]

/-- `TransactionManager::new`, with the scheduler's task spawned and no call made. -/
def new : Manager ι :=
  { clock := 0, nextId := 1, slots := fun _ => none, deadlineChanged := .new,
    verdict := .notQuiescent, registrations := [], scheduler := .idle, calls := fun _ => .idle,
    drawn := 0, outcomes := [] }

def setCall (s : Manager ι) (t : ι) (call : Call) : Manager ι :=
  { s with calls := update s.calls t call }

def proceed (s : Manager ι) (t : ι) (actions : List Action) : Manager ι :=
  s.setCall t (.rest actions)

def perform (s : Manager ι) : Action → Manager ι
  | .notify => { s with deadlineChanged := s.deadlineChanged.notifyOne }
  | .retire reason => { s with verdict := s.verdict.retireWith reason }
  | .send channel answer =>
    { s with registrations := s.registrations.modify channel fun r =>
        { r with answers := r.answers ++ [answer] } }

/-- Empty a slot. -/
def free (s : Manager ι) (slot : Fin maxSlots) (pending : Pending) : Manager ι :=
  { s with
    slots := update s.slots slot none
    registrations := s.registrations.modify pending.sender fun r => { r with freed := r.freed + 1 } }

/-! ## Registration -/

/-- One turn of the loop of `next_transaction_id`. -/
def draw (s : Manager ι) (t : ι) (q : Search) : Manager ι :=
  let id := s.nextId
  if id = 0 then { s with nextId := id + 1 }
  else
    { s with
      nextId := id + 1
      calls := update s.calls t (.locking (q.see (slotIdx id)) id s.drawn)
      drawn := s.drawn + 1 }

def fill (s : Manager ι) (t : ι) (q : Search) (txnId : UInt16) (draw : Nat) : Manager ι :=
  let channel := s.registrations.length
  { s with
    slots := update s.slots (slotIdx txnId) (some
      { txnId, sender := channel, sentAt := s.clock, deadline := q.deadline,
        expected := q.expected })
    deadlineChanged := s.deadlineChanged.notifyOne
    registrations := s.registrations ++ [
      { owner := t, txnId, deadline := q.deadline, expected := q.expected, answers := [], draw,
        registeredAt := s.drawn, freed := 0, droppedAt := none }]
    calls := update s.calls t (.registered channel txnId) }

/-- The section of `register` under the lock of the slot, which is held until after the
notification. -/
def lockSlot (s : Manager ι) (t : ι) (q : Search) (txnId : UInt16) (draw : Nat) : Manager ι :=
  match s.slots (slotIdx txnId) with
  | none => s.fill t q txnId draw
  | some _ => s.setCall t (.drawing q)

/-! ## Completion, removal, cancellation -/

def take (s : Manager ι) (t : ι) (slot : Fin maxSlots) (pending : Pending) (unitId : UnitId)
    (frame : Frame) : Manager ι :=
  let (actions, outcome) := completeTaken pending unitId { frame, time := s.clock }
  { (s.free slot pending).proceed t actions with outcomes := s.outcomes ++ [outcome] }

theorem take_call (s : Manager ι) (t : ι) (slot : Fin maxSlots) (pending : Pending)
    (unitId : UnitId) (frame : Frame) : (s.take t slot pending unitId frame).calls t =
      .rest (completeTaken pending unitId { frame, time := s.clock }).1 :=
  Function.update_self ..

theorem take_outcomes (s : Manager ι) (t : ι) (slot : Fin maxSlots) (pending : Pending)
    (unitId : UnitId) (frame : Frame) : (s.take t slot pending unitId frame).outcomes =
      s.outcomes ++ [(completeTaken pending unitId { frame, time := s.clock }).2] :=
  rfl

/-- A response for which no transaction is taken. -/
def reject (s : Manager ι) (t : ι) (reason : SessionRetirementReason)
    (outcome : CompletionOutcome) : Manager ι :=
  { s.setCall t .idle with
    verdict := s.verdict.retireWith reason, outcomes := s.outcomes ++ [outcome] }

def completeResponse (s : Manager ι) (t : ι) (header : MbapHeader) (pdu : List UInt8) : Manager ι :=
  let txnId := header.transactionId
  match s.slots (slotIdx txnId) with
  | some pending =>
    if pending.txnId = txnId then
      s.take t (slotIdx txnId) pending header.unitId { header := .mbap header, pdu }
    else s.reject t .unknownOrDuplicateResponse .unknownOrDuplicate
  | none => s.reject t .unknownOrDuplicateResponse .unknownOrDuplicate

/-- One turn of the loop of `complete_oldest_response`. -/
def look (s : Manager ι) (t : ι) (unitId : UnitId) (pdu : List UInt8) (slot : Fin maxSlots)
    (oldest : Option (Fin maxSlots × Instant)) : Manager ι :=
  let oldest' :=
    match s.slots slot, oldest with
    | some p, none => some (slot, p.sentAt)
    | some p, some (_, sentAt) => if p.sentAt < sentAt then some (slot, p.sentAt) else oldest
    | none, _ => oldest
  s.setCall t (.seeking unitId pdu (slot + 1) oldest')

/-- `complete_oldest_response` behind its loop. -/
def completeOldest (s : Manager ι) (t : ι) (unitId : UnitId) (pdu : List UInt8)
    (oldest : Option (Fin maxSlots × Instant)) : Manager ι :=
  match oldest with
  | none => s.reject t .unknownOrDuplicateResponse .unknownOrDuplicate
  | some (slot, _) =>
    match s.slots slot with
    | none => s.reject t .unknownOrDuplicateResponse .unknownOrDuplicate
    | some pending =>
      let frame := { header := .rtu unitId, pdu }
      if pending.deadline ≤ s.clock then s.take t slot pending unitId frame
      else if pending.expected.unitId ≠ unitId then
        s.reject t .unexpectedResponseUnit (.unitMismatch pending.expected.unitId unitId)
      else s.take t slot pending unitId frame

def remove (s : Manager ι) (t : ι) (txnId : UInt16) : Manager ι :=
  match s.slots (slotIdx txnId) with
  | some pending =>
    if pending.txnId = txnId then (s.free (slotIdx txnId) pending).proceed t [.notify]
    else s.setCall t .idle
  | none => s.setCall t .idle

def endLife (s : Manager ι) (channel : Nat) : Manager ι :=
  { s with registrations := s.registrations.modify channel fun r =>
      { r with droppedAt := some s.drawn } }

/-- `TransactionRegistration::drop`. -/
def dropRegistration (s : Manager ι) (t : ι) (channel : Nat) (txnId : UInt16) : Manager ι :=
  (s.endLife channel).remove t txnId

/-- One turn of the loop of `cancel_all`. -/
def cancelSlot (s : Manager ι) (t : ι) (error : ClientError) (slot : Fin maxSlots)
    (cancelled : Bool) : Manager ι :=
  match s.slots slot with
  | some pending =>
    ((s.free slot pending).perform
      (.send pending.sender { result := .error error, source := none })).setCall t
        (.cancelling error (slot + 1) true)
  | none => s.setCall t (.cancelling error (slot + 1) cancelled)

/-! ## The scheduler -/

/-- One turn of the loop of `expire_due_and_next_deadline`. -/
def visit (s : Manager ι) (scan : Scan) (slot : Fin maxSlots) : Manager ι :=
  let scan' := { scan with cursor := slot + 1, found := scan.found ++ [s.slots slot] }
  match s.slots slot with
  | none => { s with scheduler := .scanning scan' }
  | some pending =>
    if pending.deadline ≤ scan.now then
      { ((s.free slot pending).perform (.retire .requestTimedOut)).perform
          (.send pending.sender { result := .error .timeout, source := none }) with
        scheduler := .scanning
          { scan' with expired := true, timedOut := scan.timedOut ++ [pending.sender] } }
    else
      { s with
        scheduler := .scanning { scan' with nearest := nearer scan.nearest pending.deadline } }

def endScan (s : Manager ι) (scan : Scan) : Manager ι :=
  { (if scan.expired then s.perform .notify else s) with scheduler := .parked scan }

end Manager

/-! ## Steps -/

inductive Event (ι : Type)
  | tick (elapsed : Nat)
  | register (t : ι) (expected : ExpectedResponse) (deadline : Instant)
  | draw (t : ι)
  | lockSlot (t : ι)
  | conflict (t : ι)
  | giveUp (t : ι)
  | completeResponse (t : ι) (header : MbapHeader) (pdu : List UInt8)
  | completeOldestResponse (t : ι) (unitId : UnitId) (pdu : List UInt8)
  | look (t : ι)
  | completeOldest (t : ι)
  | act (t : ι)
  | remove (t : ι) (txnId : UInt16)
  | dropRegistration (t : ι)
  | cancelAll (t : ι) (error : ClientError)
  | cancelSlot (t : ι)
  | endCancel (t : ι)
  | enable
  | beginScan
  | visit
  | endScan
  | wake
  | sleepElapsed
  | stop
  /-- An update of the verdict by another part of the client. -/
  | retire (reason : SessionRetirementReason)
  | markCleanShutdown

namespace Manager

variable {ι : Type} [DecidableEq ι]

def step (s : Manager ι) : Event ι → Option (Manager ι)
  | .tick elapsed => some { s with clock := s.clock + elapsed }
  | .register t expected deadline =>
    match s.calls t with
    | .idle => some (s.setCall t (.drawing (.start expected deadline)))
    | _ => none
  | .draw t =>
    match s.calls t with
    | .drawing q => if q.seenCount < maxSlots then some (s.draw t q) else none
    | _ => none
  | .lockSlot t =>
    match s.calls t with
    | .locking q txnId draw => some (s.lockSlot t q txnId draw)
    | _ => none
  | .conflict t =>
    match s.calls t with
    | .drawing q =>
      if q.seenCount < maxSlots then none else some (s.setCall t (.refused (s.nextId - 1)))
    | _ => none
  | .giveUp t =>
    match s.calls t with
    | .refused _ => some (s.setCall t .idle)
    | _ => none
  | .completeResponse t header pdu =>
    match s.calls t with
    | .idle => some (s.completeResponse t header pdu)
    | _ => none
  | .completeOldestResponse t unitId pdu =>
    match s.calls t with
    | .idle => some (s.setCall t (.seeking unitId pdu 0 none))
    | _ => none
  | .look t =>
    match s.calls t with
    | .seeking unitId pdu cursor oldest =>
      if h : cursor < maxSlots then some (s.look t unitId pdu ⟨cursor, h⟩ oldest) else none
    | _ => none
  | .completeOldest t =>
    match s.calls t with
    | .seeking unitId pdu cursor oldest =>
      if cursor < maxSlots then none else some (s.completeOldest t unitId pdu oldest)
    | _ => none
  | .act t =>
    match s.calls t with
    | .finishing (action :: rest) => some ((s.perform action).proceed t rest)
    | _ => none
  | .remove t txnId =>
    match s.calls t with
    | .idle => some (s.remove t txnId)
    | _ => none
  | .dropRegistration t =>
    match s.calls t with
    | .registered channel txnId => some (s.dropRegistration t channel txnId)
    | _ => none
  | .cancelAll t error =>
    match s.calls t with
    | .idle => some (s.setCall t (.cancelling error 0 false))
    | _ => none
  | .cancelSlot t =>
    match s.calls t with
    | .cancelling error cursor cancelled =>
      if h : cursor < maxSlots then some (s.cancelSlot t error ⟨cursor, h⟩ cancelled) else none
    | _ => none
  | .endCancel t =>
    match s.calls t with
    | .cancelling _ cursor cancelled =>
      if cursor < maxSlots then none
      else some ((if cancelled then s.perform .notify else s).setCall t .idle)
    | _ => none
  | .enable =>
    match s.scheduler with
    | .idle => some { s with deadlineChanged := s.deadlineChanged.enable, scheduler := .enabled }
    | _ => none
  | .beginScan =>
    match s.scheduler with
    | .enabled => some { s with scheduler := .scanning (.start s.clock) }
    | _ => none
  | .visit =>
    match s.scheduler with
    | .scanning scan =>
      if h : scan.cursor < maxSlots then some (s.visit scan ⟨scan.cursor, h⟩) else none
    | _ => none
  | .endScan =>
    match s.scheduler with
    | .scanning scan => if scan.cursor < maxSlots then none else some (s.endScan scan)
    | _ => none
  | .wake =>
    match s.scheduler with
    | .parked _ =>
      if s.deadlineChanged.waiter = .woken then
        some { s with deadlineChanged := s.deadlineChanged.consume, scheduler := .idle }
      else none
    | _ => none
  | .sleepElapsed =>
    match s.scheduler with
    | .parked { nearest := some deadline, .. } =>
      if deadline ≤ s.clock then
        some { s with deadlineChanged := s.deadlineChanged.cancel, scheduler := .idle }
      else none
    | _ => none
  -- the task is cancelled where it waits, or before it has run at all
  | .stop =>
    match s.scheduler with
    | .parked _ | .idle =>
      some { s with deadlineChanged := s.deadlineChanged.cancel, scheduler := .stopped }
    | _ => none
  | .retire reason => some (s.perform (.retire reason))
  | .markCleanShutdown => some { s with verdict := s.verdict.markCleanShutdown }

end Manager

/-- The manager under every interleaving of its threads. -/
def manager (ι : Type) [DecidableEq ι] : Machine (Manager ι) (Event ι) where
  init := .new
  step := Manager.step

/-! ## What a step can do -/

section Transitions

variable {ι : Type} [DecidableEq ι]

/-- The steps, each with what has to be the case for it. -/
inductive Transition (s : Manager ι) : Event ι → Manager ι → Prop
  | tick (elapsed : Nat) : Transition s (.tick elapsed) { s with clock := s.clock + elapsed }
  | register {t expected deadline} (h : s.calls t = .idle) :
    Transition s (.register t expected deadline)
      (s.setCall t (.drawing (.start expected deadline)))
  | skip {t q} (h : s.calls t = .drawing q) (hzero : s.nextId = 0) :
    Transition s (.draw t) { s with nextId := 1 }
  | draw {t q} (h : s.calls t = .drawing q) (hne : s.nextId ≠ 0) :
    Transition s (.draw t)
      { s with
        nextId := s.nextId + 1
        calls := update s.calls t (.locking (q.see (slotIdx s.nextId)) s.nextId s.drawn)
        drawn := s.drawn + 1 }
  | fill {t q id k} (h : s.calls t = .locking q id k) (hslot : s.slots (slotIdx id) = none) :
    Transition s (.lockSlot t) (s.fill t q id k)
  | occupied {t q id k p} (h : s.calls t = .locking q id k)
    (hslot : s.slots (slotIdx id) = some p) :
    Transition s (.lockSlot t) (s.setCall t (.drawing q))
  | conflict {t q} (h : s.calls t = .drawing q) (hall : ¬ q.seenCount < maxSlots) :
    Transition s (.conflict t) (s.setCall t (.refused (s.nextId - 1)))
  | giveUp {t id} (h : s.calls t = .refused id) : Transition s (.giveUp t) (s.setCall t .idle)
  | takeResponse {t} {header : MbapHeader} {pdu p} (h : s.calls t = .idle)
    (hslot : s.slots (slotIdx header.transactionId) = some p)
    (hid : p.txnId = header.transactionId) :
    Transition s (.completeResponse t header pdu)
      (s.take t (slotIdx header.transactionId) p header.unitId { header := .mbap header, pdu })
  | rejectResponse {t} {header : MbapHeader} {pdu} (h : s.calls t = .idle) :
    Transition s (.completeResponse t header pdu)
      (s.reject t .unknownOrDuplicateResponse .unknownOrDuplicate)
  | completeOldestResponse {t unitId pdu} (h : s.calls t = .idle) :
    Transition s (.completeOldestResponse t unitId pdu) (s.setCall t (.seeking unitId pdu 0 none))
  | look {t unitId pdu cursor oldest} (h : s.calls t = .seeking unitId pdu cursor oldest)
    (hlt : cursor < maxSlots) : Transition s (.look t) (s.look t unitId pdu ⟨cursor, hlt⟩ oldest)
  | takeOldest {t unitId pdu cursor slot oldest p}
    (h : s.calls t = .seeking unitId pdu cursor oldest) (hslot : s.slots slot = some p) :
    Transition s (.completeOldest t) (s.take t slot p unitId { header := .rtu unitId, pdu })
  | rejectOldest {t unitId pdu cursor oldest reason outcome}
    (h : s.calls t = .seeking unitId pdu cursor oldest)
    (hreason : reason = .unknownOrDuplicateResponse ∨ reason = .unexpectedResponseUnit) :
    Transition s (.completeOldest t) (s.reject t reason outcome)
  | act {t a rest} (h : s.calls t = .finishing (a :: rest)) :
    Transition s (.act t) ((s.perform a).proceed t rest)
  | remove {t id p} (h : s.calls t = .idle) (hslot : s.slots (slotIdx id) = some p) :
    Transition s (.remove t id) ((s.free (slotIdx id) p).proceed t [.notify])
  | removeNone {t id} (h : s.calls t = .idle) : Transition s (.remove t id) (s.setCall t .idle)
  | dropRemove {t channel id p} (h : s.calls t = .registered channel id)
    (hslot : s.slots (slotIdx id) = some p) (hid : p.txnId = id) :
    Transition s (.dropRegistration t)
      (((s.endLife channel).free (slotIdx id) p).proceed t [.notify])
  | drop {t channel id} (h : s.calls t = .registered channel id)
    (hslot : ∀ p, s.slots (slotIdx id) = some p → p.txnId ≠ id) :
    Transition s (.dropRegistration t) ((s.endLife channel).setCall t .idle)
  | cancelAll {t error} (h : s.calls t = .idle) :
    Transition s (.cancelAll t error) (s.setCall t (.cancelling error 0 false))
  | cancelSlot {t error cursor cancelled p} (h : s.calls t = .cancelling error cursor cancelled)
    (hlt : cursor < maxSlots) (hslot : s.slots ⟨cursor, hlt⟩ = some p) :
    Transition s (.cancelSlot t)
      (((s.free ⟨cursor, hlt⟩ p).perform
        (.send p.sender { result := .error error, source := none })).setCall t
          (.cancelling error (cursor + 1) true))
  | passSlot {t error cursor cancelled} (h : s.calls t = .cancelling error cursor cancelled) :
    Transition s (.cancelSlot t) (s.setCall t (.cancelling error (cursor + 1) cancelled))
  | endCancel {t error cursor} (h : s.calls t = .cancelling error cursor true) :
    Transition s (.endCancel t) ((s.perform .notify).setCall t .idle)
  | endCancelNone {t error cursor} (h : s.calls t = .cancelling error cursor false) :
    Transition s (.endCancel t) (s.setCall t .idle)
  | enable (h : s.scheduler = .idle) :
    Transition s .enable
      { s with deadlineChanged := s.deadlineChanged.enable, scheduler := .enabled }
  | beginScan (h : s.scheduler = .enabled) :
    Transition s .beginScan { s with scheduler := .scanning (.start s.clock) }
  | visit {scan : Scan} (h : s.scheduler = .scanning scan) (hlt : scan.cursor < maxSlots) :
    Transition s .visit (s.visit scan ⟨scan.cursor, hlt⟩)
  | endScan {scan : Scan} (h : s.scheduler = .scanning scan) (hend : ¬ scan.cursor < maxSlots) :
    Transition s .endScan (s.endScan scan)
  | wake {scan : Scan} (h : s.scheduler = .parked scan)
    (hwoken : s.deadlineChanged.waiter = .woken) :
    Transition s .wake { s with deadlineChanged := s.deadlineChanged.consume, scheduler := .idle }
  | sleepElapsed {scan : Scan} {deadline} (h : s.scheduler = .parked scan)
    (hnearest : scan.nearest = some deadline) (hdue : deadline ≤ s.clock) :
    Transition s .sleepElapsed
      { s with deadlineChanged := s.deadlineChanged.cancel, scheduler := .idle }
  | stop (h : s.scheduler = .idle ∨ ∃ scan, s.scheduler = .parked scan) :
    Transition s .stop
      { s with deadlineChanged := s.deadlineChanged.cancel, scheduler := .stopped }
  | retire (reason : SessionRetirementReason) :
    Transition s (.retire reason) (s.perform (.retire reason))
  | markCleanShutdown :
    Transition s .markCleanShutdown { s with verdict := s.verdict.markCleanShutdown }

theorem transition_of_step {s s' : Manager ι} {e : Event ι} (h : s.step e = some s') :
    Transition s e s' := by
  cases e with
  | tick | retire | markCleanShutdown => cases h; constructor
  | draw =>
    simp only [Manager.step, Manager.draw] at h
    repeat' split at h
    all_goals cases h
    next hcall _ hzero => rw [hzero]; exact .skip hcall hzero
    next hcall _ hne => exact .draw hcall hne
  | lockSlot =>
    simp only [Manager.step, Manager.lockSlot] at h
    repeat' split at h
    all_goals cases h
    next hcall _ hslot => exact .fill hcall hslot
    next hcall _ p hslot => exact .occupied hcall hslot
  | completeResponse =>
    simp only [Manager.step, Manager.completeResponse] at h
    repeat' split at h
    all_goals cases h
    next hcall _ p hslot hid => exact .takeResponse hcall hslot hid
    all_goals exact .rejectResponse (by assumption)
  | completeOldest =>
    simp only [Manager.step, Manager.completeOldest] at h
    repeat' split at h
    all_goals cases h
    all_goals first
      | exact .takeOldest (by assumption) (by assumption)
      | exact .rejectOldest (by assumption) (by simp)
  | remove =>
    simp only [Manager.step, Manager.remove] at h
    repeat' split at h
    all_goals cases h
    next hcall _ p hslot _ => exact .remove hcall hslot
    all_goals exact .removeNone (by assumption)
  | dropRegistration =>
    simp only [Manager.step, Manager.dropRegistration, Manager.remove] at h
    repeat' split at h
    all_goals cases h
    next hcall _ p hslot hid => exact .dropRemove hcall hslot hid
    next hcall _ p hslot hid =>
      exact .drop hcall fun p' hp' => Option.some.inj (hslot.symm.trans hp') ▸ hid
    next hcall _ hslot => exact .drop hcall fun p hp => nomatch hslot.symm.trans hp
  | cancelSlot =>
    simp only [Manager.step, Manager.cancelSlot] at h
    repeat' split at h
    all_goals cases h
    next hcall hlt _ p hslot => exact .cancelSlot hcall hlt hslot
    next hcall _ _ _ => exact .passSlot hcall
  | endCancel =>
    simp only [Manager.step] at h
    repeat' split at h
    all_goals cases h
    next hcall _ hcancelled => exact .endCancel (hcancelled ▸ hcall)
    next hcall _ hcancelled => exact .endCancelNone (Bool.eq_false_iff.mpr hcancelled ▸ hcall)
  | sleepElapsed =>
    simp only [Manager.step] at h
    split at h
    next hcall =>
      split at h <;> cases h
      exact .sleepElapsed hcall rfl (by assumption)
    next => cases h
  | stop =>
    simp only [Manager.step] at h
    split at h <;> cases h
    next scan hcall => exact .stop (Or.inr ⟨scan, hcall⟩)
    next hcall => exact .stop (Or.inl hcall)
  | _ =>
    simp only [Manager.step] at h
    repeat' split at h
    all_goals cases h
    all_goals constructor <;> assumption

end Transitions

/-! ## What a step does to the registrations

Most steps leave the slots and the registrations alone and move one thread between places in
which it holds nothing of a registration. The others are few, and the invariants are proved
from this list rather than from the events. -/

/-- The thread holds neither an id nor a registration nor a transaction it has taken. -/
def Call.Plain : Call → Prop
  | .locking _ _ _ | .registered _ _ | .finishing _ => False
  | _ => True

/-- No thread gains or loses an id, a registration or a taken transaction. -/
def CallsPlain {ι : Type} (calls calls' : ι → Call) : Prop :=
  ∀ t, calls' t = calls t ∨ (calls t).Plain ∧ (calls' t).Plain

theorem CallsPlain.refl {ι : Type} (calls : ι → Call) : CallsPlain calls calls :=
  fun _ => Or.inl rfl

section Effects

variable {ι : Type} [DecidableEq ι]

theorem CallsPlain.update {calls : ι → Call} {t : ι} {call : Call} (h : (calls t).Plain)
    (h' : call.Plain) : CallsPlain calls (update calls t call) := by
  intro u
  by_cases hu : u = t
  · subst hu
    exact Or.inr ⟨h, by rwa [Function.update_self]⟩
  · exact Or.inl (Function.update_of_ne hu _ _)

inductive Effect (s : Manager ι) : Manager ι → Prop
  | quiet {s'} (hslots : s'.slots = s.slots) (hregs : s'.registrations = s.registrations)
    (hcalls : CallsPlain s.calls s'.calls) (hnext : s'.nextId = s.nextId)
    (hdrawn : s'.drawn = s.drawn) : Effect s s'
  | skip (hzero : s.nextId = 0) : Effect s { s with nextId := 1 }
  | draw {t q} (hcall : s.calls t = .drawing q) (hne : s.nextId ≠ 0) :
    Effect s { s with
      nextId := s.nextId + 1
      calls := update s.calls t (.locking (q.see (slotIdx s.nextId)) s.nextId s.drawn)
      drawn := s.drawn + 1 }
  | occupied {t q id k} (hcall : s.calls t = .locking q id k) : Effect s (s.setCall t (.drawing q))
  | fill {t q id k} (hcall : s.calls t = .locking q id k) (hslot : s.slots (slotIdx id) = none) :
    Effect s (s.fill t q id k)
  | take {t slot p unitId frame} (hcall : (s.calls t).Plain) (hslot : s.slots slot = some p)
    (hid : ∀ h, frame.header = .mbap h → p.txnId = h.transactionId)
    (hunit : frame.unitId = unitId) : Effect s (s.take t slot p unitId frame)
  | act {t a rest} (hcall : s.calls t = .finishing (a :: rest)) :
    Effect s ((s.perform a).proceed t rest)
  | remove {t slot p} (hcall : (s.calls t).Plain) (hslot : s.slots slot = some p) :
    Effect s ((s.free slot p).proceed t [.notify])
  | drop {t channel id} (hcall : s.calls t = .registered channel id)
    (hslot : ∀ p, s.slots (slotIdx id) = some p → p.txnId ≠ id) :
    Effect s ((s.endLife channel).setCall t .idle)
  | dropRemove {t channel id p} (hcall : s.calls t = .registered channel id)
    (hslot : s.slots (slotIdx id) = some p) (hid : p.txnId = id) :
    Effect s (((s.endLife channel).free (slotIdx id) p).proceed t [.notify])
  /-- A requester is told that its request failed, by the scan or by `cancel_all`. -/
  | fail {s' slot p error} (hslot : s.slots slot = some p)
    (hslots : s'.slots = update s.slots slot none)
    (hregs : s'.registrations = ((s.free slot p).perform
      (.send p.sender { result := .error error, source := none })).registrations)
    (hcalls : CallsPlain s.calls s'.calls) (hnext : s'.nextId = s.nextId)
    (hdrawn : s'.drawn = s.drawn)
    (herror : error = .timeout ∨
    ∃ t cursor cancelled, s.calls t = .cancelling error cursor cancelled) :
    Effect s s'

namespace Effect

variable {s s' : Manager ι} {t : ι}

theorem visit {scan : Scan} {slot : Fin maxSlots} : Effect s (s.visit scan slot) := by
  rw [Manager.visit]
  split
  next => exact quiet rfl rfl (.refl _) rfl rfl
  next p hslot =>
    split
    next => exact fail hslot rfl rfl (.refl _) rfl rfl (Or.inl rfl)
    next => exact quiet rfl rfl (.refl _) rfl rfl

end Effect

theorem effect_of_step {s s' : Manager ι} {e : Event ι} (he : s.step e = some s') :
    Effect s s' := by
  have plain {t : ι} {call : Call} (hcall : s.calls t = call) (hp : call.Plain) :
      (s.calls t).Plain := hcall ▸ hp
  cases transition_of_step he with
  | tick | retire | markCleanShutdown | enable | beginScan | wake | sleepElapsed | stop =>
    exact .quiet rfl rfl (.refl _) rfl rfl
  | register h | conflict h | giveUp h | completeOldestResponse h | look h | removeNone h
  | cancelAll h | passSlot h | endCancel h | endCancelNone h | rejectResponse h | rejectOldest h =>
    exact .quiet rfl rfl (.update (plain h trivial) trivial) rfl rfl
  | skip _ hzero => exact .skip hzero
  | draw h hne => exact .draw h hne
  | fill h hslot => exact .fill h hslot
  | occupied h => exact .occupied h
  | takeResponse h hslot hid =>
    exact .take (plain h trivial) hslot (fun _ heq => by cases heq; exact hid) rfl
  | takeOldest h hslot => exact .take (plain h trivial) hslot nofun rfl
  | act h => exact .act h
  | remove h hslot => exact .remove (plain h trivial) hslot
  | dropRemove h hslot hid => exact .dropRemove h hslot hid
  | drop h hslot => exact .drop h hslot
  | cancelSlot h _ hslot =>
    exact .fail hslot rfl rfl (.update (plain h trivial) trivial) rfl rfl (Or.inr ⟨_, _, _, h⟩)
  | visit => exact .visit
  | endScan =>
    unfold Manager.endScan
    split <;> exact .quiet rfl rfl (.refl _) rfl rfl

end Effects

end RustyModbus.Client.Concurrent
