import RustyModbus.Client.Manager
import RustyModbus.Client.Methods
import RustyModbus.Lib.Log

/-!
# Sending a request

One call of `send_with_retry` or of `send_broadcast`, as a program that looks at the rest of the
client through the events it meets: whether the client is connected or cancelled, what the clock
shows, whether the sink is free, what the transport and the response channel have to say. What
an event changes outside the call is the matter of `Client.Machine`; here the call is on its own
and every answer is possible, so what is proved holds whatever the rest does.

A poll of `select!` happens at one instant: the sleep in it is ready exactly if the clock has
reached its deadline there, and a send future does nothing before it is polled. What the call
still has to undo when it leaves, in the order in which its local variables are dropped, is a
list like the actions of the transaction manager.

`History` is not part of the call: it keeps each attempt with its deadline, the frame it built,
the instants at which its send was polled, and how it ended.
-/

namespace RustyModbus.Client.Concurrent

/-! ## Time -/

abbrev Duration := Nat

/-- `Duration::MAX` in nanoseconds. -/
def maxDuration : Duration := 18446744073709551615 * 1000000000 + 999999999

def saturatingAdd (a b : Duration) : Duration := min (a + b) maxDuration

def saturatingMul (a : Duration) (n : Nat) : Duration := min (a * n) maxDuration

def operationBudget (timeout retryDelay : Duration) (maxRetries : Nat) : Duration :=
  saturatingAdd (saturatingAdd (saturatingMul timeout maxRetries) timeout)
    (saturatingMul retryDelay maxRetries)

/-- `limit` is the last instant the platform can represent. -/
def checkedAdd (limit start : Instant) (duration : Duration) : Option Instant :=
  if start + duration ≤ limit then some (start + duration) else none

/-- The loop of `saturating_instant_add`. The midpoint lies below `upper`, so its sum does not
saturate. -/
def bisect (limit start : Instant) (lower upper : Duration) : Duration :=
  if upper - lower > 1 then
    let midpoint := lower + (upper - lower) / 2
    if (checkedAdd limit start midpoint).isSome then bisect limit start midpoint upper
    else bisect limit start lower midpoint
  else lower
termination_by upper - lower
decreasing_by
  all_goals dsimp only [Duration] at *
  all_goals omega

def saturatingInstantAdd (limit start : Instant) (duration : Duration) : Instant :=
  match checkedAdd limit start duration with
  | some deadline => deadline
  | none => (checkedAdd limit start (bisect limit start 0 duration)).getD start

theorem checkedAdd_isSome {limit start : Instant} {duration : Duration} :
    (checkedAdd limit start duration).isSome ↔ start + duration ≤ limit := by
  rw [checkedAdd]
  split <;> simp_all

/-! ## Data -/

def u32Max : Nat := 4294967295

structure ClientConfig where
  timeout : Duration
  maxInFlight : Nat
  retry : RetryConfig
  /-- `retry.retry_delay`. -/
  retryDelay : Duration
  shutdownTimeout : Duration
deriving DecidableEq, Repr

def ClientConfig.budget (config : ClientConfig) : Duration :=
  operationBudget config.timeout config.retryDelay config.retry.maxRetries.toNat

abbrev Outcome := Except ClientError OwnedResponsePdu

/-- The request of a typed method, and the checks it makes on a response. -/
structure Request where
  expected : ExpectedResponse
  pdu : List UInt8
  kind : RequestKind
  validate : OwnedResponsePdu → Except ClientError Unit

/-- What leaving `send_request` or `send_broadcast` undoes. -/
inductive Cleanup
  | retire (reason : SessionRetirementReason)
  | dropRegistration
  | unlock
deriving DecidableEq, Repr

/-- The local variables of `send_with_retry`. -/
structure Loop where
  pdu : SendablePdu
  deadline : Instant
  attemptsMade : Nat
  lastError : Option ClientError

inductive SendStage
  | connecting
  | admitting (pdu : SendablePdu)
  | starting (pdu : SendablePdu)
  -- the head of the loop
  | looping (l : Loop)
  | checking (l : Loop)
  | beginning (l : Loop)
  -- `send_request`
  | attempting (l : Loop) (deadline : Instant)
  | queueing (l : Loop) (deadline : Instant)
  | registering (l : Loop) (deadline : Instant)
  | sending (l : Loop) (deadline : Instant)
  | receiving (l : Loop)
  | awaiting (l : Loop)
  /-- A `result` of `none` means that the future is being dropped. -/
  | leaving (l : Loop) (cleanup : List Cleanup) (result : Option Outcome)
  -- the end of the loop
  | delaying (l : Loop)
  | resting (l : Loop) (wake : Instant)
  /-- The `OperationGuard` is being dropped. -/
  | returning (result : Option Outcome)
  /-- The typed method has the result. -/
  | returned (result : Option Outcome)
  | validated (response : OwnedResponsePdu)

structure Attempt where
  deadline : Instant
  channel : Option Nat
  frame : Option Frame
  polls : List Instant
  sent : Option (Except TransportError Unit)
  result : Option Outcome

def Attempt.start (deadline : Instant) : Attempt :=
  { deadline, channel := none, frame := none, polls := [], sent := none, result := none }

structure History where
  operationDeadline : Option Instant
  attempts : List Attempt

/-- Note something of the attempt that is being made. -/
def History.note (h : History) (f : Attempt → Attempt) : History :=
  { h with attempts := h.attempts.modify (h.attempts.length - 1) f }

structure SendWithRetry where
  request : Request
  stage : SendStage
  history : History

inductive PollOutcome (α : Type)
  | ready (output : α)
  | deadline
  | cancelled

/-- One poll of `poll_before_deadline_or_cancel`. -/
def pollBeforeDeadlineOrCancel {α : Type} (deadline now : Instant) (cancelled : Bool)
    (future : Option α) : Option (PollOutcome α) :=
  if cancelled then some .cancelled
  else if deadline ≤ now then some .deadline
  else future.map .ready

/-- What a call meets. -/
inductive OperationEvent
  | load (connected : Bool)
  | admitted
  | refused (error : ClientError)
  | now (now : Instant)
  | isCancelled (cancelled : Bool)
  | pollLock (cancelled : Bool) (now : Instant) (ready : Bool)
  | registered (channel : Nat) (txnId : UInt16)
  | conflict (txnId : UInt16)
  | pollSend (cancelled : Bool) (now : Instant) (sink : Option (Except TransportError Unit))
  | tryRecv (result : Option Outcome)
  | recv (result : Option Outcome)
  | clean
  | pollSleep (cancelled : Bool) (now : Instant)
  /-- The future is dropped where it awaits something. -/
  | drop
  | released
  | validate

/-- Why a send that failed retires the session. -/
def sendFailure (e : TransportError) : SessionRetirementReason :=
  match e with
  | .timeout => .requestTimedOut
  | _ => .sendFailed

/-! ## `send_with_retry` -/

namespace SendWithRetry

/-- A call that has not been polled. -/
def new (request : Request) : SendWithRetry :=
  { request, stage := .connecting, history := { operationDeadline := none, attempts := [] } }

def goto (o : SendWithRetry) (stage : SendStage) : SendWithRetry := { o with stage }

/-- Return from the loop; the guard is dropped on the way. -/
def finish (o : SendWithRetry) (result : Outcome) : SendWithRetry := o.goto (.returning (some result))

def note (o : SendWithRetry) (f : Attempt → Attempt) : SendWithRetry :=
  { o with history := o.history.note f }

section

variable (limit : Instant) (config : ClientConfig)

def connect (o : SendWithRetry) (connected : Bool) : SendWithRetry :=
  if connected then
    match checkedPduLength o.request.pdu with
    | .ok pdu => o.goto (.admitting pdu)
    | .error error => o.goto (.returned (some (.error error)))
  else o.goto (.returned (some (.error .notConnected)))

def start (o : SendWithRetry) (pdu : SendablePdu) (now : Instant) : SendWithRetry :=
  let deadline := saturatingInstantAdd limit now config.budget
  { o with
    stage := .looping { pdu, deadline, attemptsMade := 0, lastError := none }
    history := { o.history with operationDeadline := some deadline } }

def beginAttempt (o : SendWithRetry) (l : Loop) (now : Instant) : SendWithRetry :=
  let deadline := min (saturatingInstantAdd limit now config.timeout) l.deadline
  { o with
    stage := .attempting { l with attemptsMade := min (l.attemptsMade + 1) u32Max } deadline
    history := { o.history with attempts := o.history.attempts ++ [.start deadline] } }

/-- What `send_with_retry` does with the result of `send_request`. -/
def endAttempt (o : SendWithRetry) (l : Loop) (result : Outcome) : SendWithRetry :=
  let o := o.note fun a => { a with result := some result }
  match classifyAttempt config.retry o.request.kind result with
  | .complete result => o.finish result
  | .retry error =>
    if l.attemptsMade > config.retry.maxRetries.toNat ∨ l.attemptsMade = u32Max then
      o.finish (.error (.retriesExhausted l.attemptsMade error))
    else o.goto (.delaying { l with lastError := some error })

/-- Leave `send_request`, by returning or because the future is dropped. -/
def leave (o : SendWithRetry) (l : Loop) (cleanup : List Cleanup) (result : Option Outcome) :
    SendWithRetry :=
  match cleanup, result with
  | [], some result => o.endAttempt config l result
  | [], none => o.goto (.returning none)
  | _ :: _, _ => o.goto (.leaving l cleanup result)

def lockSink (o : SendWithRetry) (l : Loop) (deadline : Instant) :
    Option (PollOutcome Unit) → SendWithRetry
  | none => o
  | some (.ready ()) => o.goto (.registering l deadline)
  | some .deadline => o.leave config l [] (some (.error .timeout))
  | some .cancelled => o.leave config l [] (some (.error .shuttingDown))

def dispatch (o : SendWithRetry) (l : Loop) (deadline : Instant) (channel : Nat)
    (txnId : UInt16) : SendWithRetry :=
  let frame := requestFrame txnId o.request.expected.unitId l.pdu
  (o.note fun a => { a with channel := some channel, frame := some frame }).goto
    (.sending l deadline)

/-- A poll that gets as far as the sink hands it the frame, or lets it go on writing it. -/
def pollSink (o : SendWithRetry) (deadline now : Instant) (cancelled : Bool) : SendWithRetry :=
  if cancelled ∨ deadline ≤ now then o else o.note fun a => { a with polls := a.polls ++ [now] }

def send (o : SendWithRetry) (l : Loop) :
    Option (PollOutcome (Except TransportError Unit)) → SendWithRetry
  | none => o
  | some (.ready (.ok ())) =>
    (o.note fun a => { a with sent := some (.ok ()) }).goto (.awaiting l)
  | some (.ready (.error e)) =>
    (o.note fun a => { a with sent := some (.error e) }).leave config l
      [.retire (sendFailure e), .retire .dispatchCancelled, .dropRegistration, .unlock]
      (some (.error (.transport e)))
  | some .deadline =>
    o.leave config l
      [.retire .requestTimedOut, .retire .dispatchCancelled, .dropRegistration, .unlock]
      (some (.error .timeout))
  | some .cancelled => o.goto (.receiving l)

/-- `rx.try_recv` behind a send that was cancelled. -/
def tryRecv (o : SendWithRetry) (l : Loop) : Option Outcome → SendWithRetry
  | some (.ok response) => o.leave config l [.dropRegistration, .unlock] (some (.ok response))
  | some (.error error) =>
    o.leave config l [.retire .dispatchCancelled, .dropRegistration, .unlock]
      (some (.error error))
  | none =>
    o.leave config l [.retire .dispatchCancelled, .dropRegistration, .unlock]
      (some (.error .shuttingDown))

/-- `rx.await`; there is no result if the sender was dropped. -/
def recv (o : SendWithRetry) (l : Loop) : Option Outcome → SendWithRetry
  | some (.ok response) => o.leave config l [.dropRegistration] (some (.ok response))
  | some (.error error) =>
    o.leave config l [.retire .dispatchCancelled, .dropRegistration] (some (.error error))
  | none =>
    o.leave config l
      [.retire .responseChannelClosed, .retire .dispatchCancelled, .dropRegistration]
      (some (.error .shuttingDown))

def rest (o : SendWithRetry) (l : Loop) (wake now : Instant) (cancelled : Bool) : SendWithRetry :=
  if cancelled then o.finish (.error .shuttingDown)
  else if wake ≤ now then o.goto (.looping l)
  else o

def step (o : SendWithRetry) (e : OperationEvent) : Option SendWithRetry :=
  match o.stage, e with
  | .connecting, .load connected => some (o.connect connected)
  | .admitting pdu, .admitted => some (o.goto (.starting pdu))
  | .admitting _, .refused error => some (o.goto (.returned (some (.error error))))
  | .admitting _, .drop => some (o.goto (.returned none))
  | .starting pdu, .now now => some (o.start limit config pdu now)
  | .looping l, .isCancelled cancelled =>
    some (if cancelled then o.finish (.error .shuttingDown) else o.goto (.checking l))
  | .checking l, .now now =>
    some (if l.deadline ≤ now then
        o.finish (.error (.retriesExhausted l.attemptsMade (l.lastError.getD .timeout)))
      else o.goto (.beginning l))
  | .beginning l, .now now => some (o.beginAttempt limit config l now)
  | .attempting l deadline, .load connected =>
    some (if connected then o.goto (.queueing l deadline)
      else o.leave config l [] (some (.error .notConnected)))
  | .queueing l deadline, .pollLock cancelled now ready =>
    some (o.lockSink config l deadline
      (pollBeforeDeadlineOrCancel deadline now cancelled (if ready then some () else none)))
  | .queueing l _, .drop => some (o.leave config l [] none)
  | .registering l deadline, .registered channel txnId =>
    some (o.dispatch l deadline channel txnId)
  | .registering l _, .conflict txnId =>
    some (o.leave config l [.unlock] (some (.error (.transactionConflict txnId))))
  | .sending l deadline, .pollSend cancelled now sink =>
    some ((o.pollSink deadline now cancelled).send config l
      (pollBeforeDeadlineOrCancel deadline now cancelled sink))
  | .sending l _, .drop =>
    some (o.leave config l [.retire .dispatchCancelled, .dropRegistration, .unlock] none)
  | .receiving l, .tryRecv result => some (o.tryRecv config l result)
  | .awaiting l, .recv result => some (o.recv config l result)
  | .awaiting l, .drop =>
    some (o.leave config l [.retire .dispatchCancelled, .dropRegistration] none)
  | .leaving l (_ :: cleanup) result, .clean => some (o.leave config l cleanup result)
  | .delaying l, .now now =>
    some (o.goto (.resting l (min (saturatingInstantAdd limit now config.retryDelay) l.deadline)))
  | .resting l wake, .pollSleep cancelled now => some (o.rest l wake now cancelled)
  | .resting _ _, .drop => some (o.goto (.returning none))
  | .returning result, .released => some (o.goto (.returned result))
  | .returned (some (.ok response)), .validate => some (o.goto (.validated response))
  | _, _ => none

end

end SendWithRetry

/-- One call of `send_with_retry`, with the rest of the client doing anything. -/
def sendWithRetry (limit : Instant) (config : ClientConfig) (request : Request) :
    Machine SendWithRetry OperationEvent where
  init := .new request
  step := SendWithRetry.step limit config

/-! ## `send_broadcast` -/

inductive CastStage
  | connecting
  | admitting (pdu : SendablePdu)
  | checking (pdu : SendablePdu)
  | queueing (pdu : SendablePdu)
  | sending
  | leaving (cleanup : List Cleanup) (result : Option (Except ClientError Unit))
  | returning (result : Option (Except ClientError Unit))
  | returned (result : Option (Except ClientError Unit))

structure SendBroadcast where
  pdu : List UInt8
  stage : CastStage
  -- from here on history
  frame : Option Frame
  polls : List Instant
  sent : Option (Except TransportError Unit)

namespace SendBroadcast

def new (pdu : List UInt8) : SendBroadcast :=
  { pdu, stage := .connecting, frame := none, polls := [], sent := none }

def goto (o : SendBroadcast) (stage : CastStage) : SendBroadcast := { o with stage }

def connect (o : SendBroadcast) (connected : Bool) : SendBroadcast :=
  if connected then
    match checkedPduLength o.pdu with
    | .ok pdu => o.goto (.admitting pdu)
    | .error error => o.goto (.returned (some (.error error)))
  else o.goto (.returned (some (.error .notConnected)))

def leave (o : SendBroadcast) (cleanup : List Cleanup) (result : Option (Except ClientError Unit)) :
    SendBroadcast :=
  match cleanup with
  | [] => o.goto (.returning result)
  | _ :: _ => o.goto (.leaving cleanup result)

/-- The `select!` over the lock of the sink. -/
def lockSink (o : SendBroadcast) (pdu : SendablePdu) (cancelled ready : Bool) : SendBroadcast :=
  if cancelled then o.leave [] (some (.error .shuttingDown))
  else if ready then { o with stage := .sending, frame := some (requestFrame 0 0 pdu) }
  else o

/-- The `select!` over the send. -/
def send (o : SendBroadcast) (cancelled : Bool) (now : Instant)
    (sink : Option (Except TransportError Unit)) : SendBroadcast :=
  if cancelled then
    o.leave [.retire .dispatchCancelled, .unlock] (some (.error .shuttingDown))
  else
    let o := { o with polls := o.polls ++ [now], sent := sink }
    match sink with
    | none => o
    | some (.ok ()) => o.leave [.unlock] (some (.ok ()))
    | some (.error e) =>
      o.leave [.retire (sendFailure e), .retire .dispatchCancelled, .unlock]
        (some (.error (.transport e)))

def step (o : SendBroadcast) (e : OperationEvent) : Option SendBroadcast :=
  match o.stage, e with
  | .connecting, .load connected => some (o.connect connected)
  | .admitting pdu, .admitted => some (o.goto (.checking pdu))
  | .admitting _, .refused error => some (o.goto (.returned (some (.error error))))
  | .admitting _, .drop => some (o.goto (.returned none))
  | .checking pdu, .isCancelled cancelled =>
    some (if cancelled then o.leave [] (some (.error .shuttingDown)) else o.goto (.queueing pdu))
  | .queueing pdu, .pollLock cancelled _ ready => some (o.lockSink pdu cancelled ready)
  | .queueing _, .drop => some (o.leave [] none)
  | .sending, .pollSend cancelled now sink => some (o.send cancelled now sink)
  | .sending, .drop => some (o.leave [.retire .dispatchCancelled, .unlock] none)
  | .leaving (_ :: cleanup) result, .clean => some (o.leave cleanup result)
  | .returning result, .released => some (o.goto (.returned result))
  | _, _ => none

end SendBroadcast

/-! ## Either of them -/

inductive Operation
  | unicast (o : SendWithRetry)
  | broadcast (o : SendBroadcast)

/-- What a call holds where it is. -/
inductive Place
  | outside
  | admitting
  /-- Only the `OperationGuard`. -/
  | inside
  /-- The sink as well; registering. -/
  | registering (expected : ExpectedResponse) (deadline : Instant)
  /-- The sink and a registration. -/
  | dispatched
  /-- A registration. -/
  | awaiting
  /-- The sink. -/
  | casting
  | leaving (cleanup : List Cleanup)
  | returning
  | gone
deriving DecidableEq, Repr

def SendWithRetry.place (o : SendWithRetry) : Place :=
  match o.stage with
  | .connecting => .outside
  | .admitting _ => .admitting
  | .starting _ | .looping _ | .checking _ | .beginning _ | .attempting _ _ | .queueing _ _
  | .delaying _ | .resting _ _ => .inside
  | .registering _ deadline => .registering o.request.expected deadline
  | .sending _ _ | .receiving _ => .dispatched
  | .awaiting _ => .awaiting
  | .leaving _ cleanup _ => .leaving cleanup
  | .returning _ => .returning
  | .returned _ | .validated _ => .gone

def SendBroadcast.place (o : SendBroadcast) : Place :=
  match o.stage with
  | .connecting => .outside
  | .admitting _ => .admitting
  | .checking _ | .queueing _ => .inside
  | .sending => .casting
  | .leaving cleanup _ => .leaving cleanup
  | .returning _ => .returning
  | .returned _ => .gone

def Place.holdsSink : Place → Bool
  | .registering _ _ | .dispatched | .casting => true
  | .leaving cleanup => cleanup.contains .unlock
  | _ => false

namespace Operation

def place : Operation → Place
  | .unicast o => o.place
  | .broadcast o => o.place

def step (limit : Instant) (config : ClientConfig) (e : OperationEvent) :
    Operation → Option Operation
  | .unicast o => (o.step limit config e).map .unicast
  | .broadcast o => (o.step e).map .broadcast

end Operation

/-! ## What a step can do -/

def OperationEvent.IsPollSend (e : OperationEvent) : Prop :=
  ∃ cancelled now sink, e = .pollSend cancelled now sink

/-- The history after a poll of the send: the sink is handed the frame before the deadline only. -/
inductive History.Polled (deadline : Instant) (h : History) : History → Prop
  | early : Polled deadline h h
  | handed {now : Instant} (hnow : now < deadline) :
    Polled deadline h (h.note fun a => { a with polls := a.polls ++ [now] })

namespace SendWithRetry

section

variable (limit : Instant) (config : ClientConfig) (r : Request) (h : History)

/-- A step from a stage of the call, with what it looked at decided. -/
inductive Transition : SendStage → OperationEvent → SendWithRetry → Prop
  | connect {connected pdu} : Transition .connecting (.load connected) ⟨r, .admitting pdu, h⟩
  | reject {connected error}
    (herror : checkedPduLength r.pdu = .error error ∨ error = .notConnected) :
    Transition .connecting (.load connected) ⟨r, .returned (some (.error error)), h⟩
  | admitted {pdu} : Transition (.admitting pdu) .admitted ⟨r, .starting pdu, h⟩
  | refused {pdu error} :
    Transition (.admitting pdu) (.refused error) ⟨r, .returned (some (.error error)), h⟩
  | abandon {pdu} : Transition (.admitting pdu) .drop ⟨r, .returned none, h⟩
  | start {pdu now} :
    Transition (.starting pdu) (.now now) (start limit config ⟨r, .starting pdu, h⟩ pdu now)
  | cancelled {l} :
    Transition (.looping l) (.isCancelled true) ⟨r, .returning (some (.error .shuttingDown)), h⟩
  | proceed {l} : Transition (.looping l) (.isCancelled false) ⟨r, .checking l, h⟩
  | exhausted {l now error}
    (herror : error = .retriesExhausted l.attemptsMade (l.lastError.getD .timeout)) :
    Transition (.checking l) (.now now) ⟨r, .returning (some (.error error)), h⟩
  | inTime {l now} : Transition (.checking l) (.now now) ⟨r, .beginning l, h⟩
  | beginAttempt {l now} :
    Transition (.beginning l) (.now now) (beginAttempt limit config ⟨r, .beginning l, h⟩ l now)
  | queue {l deadline} :
    Transition (.attempting l deadline) (.load true) ⟨r, .queueing l deadline, h⟩
  | disconnected {l deadline} :
    Transition (.attempting l deadline) (.load false)
      (endAttempt config ⟨r, .attempting l deadline, h⟩ l (.error .notConnected))
  | queued {l deadline now cancelled ready} :
    Transition (.queueing l deadline) (.pollLock cancelled now ready) ⟨r, .queueing l deadline, h⟩
  | lock {l deadline now cancelled} :
    Transition (.queueing l deadline) (.pollLock cancelled now true)
      ⟨r, .registering l deadline, h⟩
  | unqueued {l deadline now cancelled ready error}
    (herror : error = .timeout ∨ error = .shuttingDown) :
    Transition (.queueing l deadline) (.pollLock cancelled now ready)
      (endAttempt config ⟨r, .queueing l deadline, h⟩ l (.error error))
  | dropQueueing {l deadline} : Transition (.queueing l deadline) .drop ⟨r, .returning none, h⟩
  | dispatch {l deadline channel txnId} :
    Transition (.registering l deadline) (.registered channel txnId)
      (dispatch ⟨r, .registering l deadline, h⟩ l deadline channel txnId)
  | conflict {l deadline txnId} :
    Transition (.registering l deadline) (.conflict txnId)
      ⟨r, .leaving l [.unlock] (some (.error (.transactionConflict txnId))), h⟩
  | sending {l deadline e h'} (he : e.IsPollSend) (hpoll : h.Polled deadline h') :
    Transition (.sending l deadline) e ⟨r, .sending l deadline, h'⟩
  | sent {l deadline e h'} (he : e.IsPollSend) (hpoll : h.Polled deadline h') :
    Transition (.sending l deadline) e
      ⟨r, .awaiting l, h'.note fun a => { a with sent := some (.ok ()) }⟩
  | sendFailed {l deadline e h' error} (he : e.IsPollSend) (hpoll : h.Polled deadline h') :
    Transition (.sending l deadline) e
      ⟨r, .leaving l [.retire (sendFailure error), .retire .dispatchCancelled,
      .dropRegistration, .unlock] (some (.error (.transport error))),
      h'.note fun a => { a with sent := some (.error error) }⟩
  | sendTimedOut {l deadline e} (he : e.IsPollSend) :
    Transition (.sending l deadline) e
      ⟨r, .leaving l [.retire .requestTimedOut, .retire .dispatchCancelled,
      .dropRegistration, .unlock] (some (.error .timeout)), h⟩
  | sendCancelled {l deadline e} (he : e.IsPollSend) :
    Transition (.sending l deadline) e ⟨r, .receiving l, h⟩
  | dropSending {l deadline} :
    Transition (.sending l deadline) .drop
      ⟨r, .leaving l [.retire .dispatchCancelled, .dropRegistration, .unlock] none, h⟩
  | received {l response} :
    Transition (.receiving l) (.tryRecv (some (.ok response)))
      ⟨r, .leaving l [.dropRegistration, .unlock] (some (.ok response)), h⟩
  | notReceived {l result error} (hresult : result = some (.error error) ∨ error = .shuttingDown) :
    Transition (.receiving l) (.tryRecv result)
      ⟨r, .leaving l [.retire .dispatchCancelled, .dropRegistration, .unlock] (some (.error error)), h⟩
  | answered {l response} :
    Transition (.awaiting l) (.recv (some (.ok response)))
      ⟨r, .leaving l [.dropRegistration] (some (.ok response)), h⟩
  | failed {l error} :
    Transition (.awaiting l) (.recv (some (.error error)))
      ⟨r, .leaving l [.retire .dispatchCancelled, .dropRegistration] (some (.error error)), h⟩
  | closed {l} :
    Transition (.awaiting l) (.recv none)
      ⟨r, .leaving l [.retire .responseChannelClosed, .retire .dispatchCancelled,
      .dropRegistration] (some (.error .shuttingDown)), h⟩
  | dropAwaiting {l} :
    Transition (.awaiting l) .drop
      ⟨r, .leaving l [.retire .dispatchCancelled, .dropRegistration] none, h⟩
  | clean {l c d cleanup result} :
    Transition (.leaving l (c :: d :: cleanup) result) .clean
      ⟨r, .leaving l (d :: cleanup) result, h⟩
  | cleaned {l c result} :
    Transition (.leaving l [c] (some result)) .clean
      (endAttempt config ⟨r, .leaving l [c] (some result), h⟩ l result)
  | dropped {l c} : Transition (.leaving l [c] none) .clean ⟨r, .returning none, h⟩
  | delay {l now wake} : Transition (.delaying l) (.now now) ⟨r, .resting l wake, h⟩
  | rest {l wake now cancelled} :
    Transition (.resting l wake) (.pollSleep cancelled now) ⟨r, .resting l wake, h⟩
  | restart {l wake now cancelled} :
    Transition (.resting l wake) (.pollSleep cancelled now) ⟨r, .looping l, h⟩
  | restCancelled {l wake now cancelled} :
    Transition (.resting l wake) (.pollSleep cancelled now)
      ⟨r, .returning (some (.error .shuttingDown)), h⟩
  | dropResting {l wake} : Transition (.resting l wake) .drop ⟨r, .returning none, h⟩
  | release {result} : Transition (.returning result) .released ⟨r, .returned result, h⟩
  | validate {response} :
    Transition (.returned (some (.ok response))) .validate ⟨r, .validated response, h⟩

end

section

variable {limit : Instant} {config : ClientConfig} {r : Request} {h : History} {l : Loop}

theorem lockSink_transition {deadline now : Instant} {cancelled ready : Bool} :
    Transition limit config r h (.queueing l deadline) (.pollLock cancelled now ready)
      (lockSink config ⟨r, .queueing l deadline, h⟩ l deadline
        (pollBeforeDeadlineOrCancel deadline now cancelled (if ready then some () else none))) := by
  unfold pollBeforeDeadlineOrCancel
  split
  next => exact .unqueued (Or.inr rfl)
  next =>
    split
    next => exact .unqueued (Or.inl rfl)
    next =>
      cases ready with
      | true => exact .lock
      | false => exact .queued

theorem send_transition {deadline now : Instant} {cancelled : Bool}
    {sink : Option (Except TransportError Unit)} :
    Transition limit config r h (.sending l deadline) (.pollSend cancelled now sink)
      ((pollSink ⟨r, .sending l deadline, h⟩ deadline now cancelled).send config l
        (pollBeforeDeadlineOrCancel deadline now cancelled sink)) := by
  unfold pollBeforeDeadlineOrCancel pollSink
  cases cancelled with
  | true => exact .sendCancelled ⟨_, _, _, rfl⟩
  | false =>
    by_cases hnow : deadline ≤ now
    · rw [if_neg Bool.false_ne_true, if_pos hnow, if_pos (Or.inr hnow)]
      exact .sendTimedOut ⟨_, _, _, rfl⟩
    · have hpoll := @History.Polled.handed deadline h now (Nat.lt_of_not_le hnow)
      rw [if_neg Bool.false_ne_true, if_neg hnow, if_neg (by simp [hnow])]
      rcases sink with _ | _ | _
      · exact .sending ⟨_, _, _, rfl⟩ hpoll
      · exact .sendFailed ⟨_, _, _, rfl⟩ hpoll
      · exact .sent ⟨_, _, _, rfl⟩ hpoll

theorem transition_of_step {o o' : SendWithRetry} {e : OperationEvent}
    (hstep : o.step limit config e = some o') :
    Transition limit config o.request o.history o.stage e o' := by
  obtain ⟨r, stage, h⟩ := o
  unfold step at hstep
  split at hstep <;> cases hstep <;> rename_i hstage <;> cases hstage
  next connected =>
    unfold connect
    split
    next =>
      split
      next => exact .connect
      next herror => exact .reject (Or.inl herror)
    next => exact .reject (Or.inr rfl)
  next => exact .admitted
  next => exact .refused
  next => exact .abandon
  next => exact .start
  next cancelled =>
    cases cancelled with
    | true => exact .cancelled
    | false => exact .proceed
  next =>
    split
    next => exact .exhausted rfl
    next => exact .inTime
  next => exact .beginAttempt
  next connected =>
    cases connected with
    | true => exact .queue
    | false => exact .disconnected
  next => exact lockSink_transition
  next => exact .dropQueueing
  next => exact .dispatch
  next => exact .conflict
  next => exact send_transition
  next => exact .dropSending
  next result =>
    rcases result with _ | _ | _
    · exact .notReceived (Or.inr rfl)
    · exact .notReceived (Or.inl rfl)
    · exact .received
  next result =>
    rcases result with _ | _ | _
    · exact .closed
    · exact .failed
    · exact .answered
  next => exact .dropAwaiting
  next cleanup result =>
    rcases cleanup with _ | _
    · cases result with
      | none => exact .dropped
      | some result => exact .cleaned
    · exact .clean
  next => exact .delay
  next cancelled =>
    unfold rest
    split
    next => exact .restCancelled
    next =>
      split
      next => exact .restart
      next => exact .rest
  next => exact .dropResting
  next => exact .release
  next => exact .validate

end

end SendWithRetry

end RustyModbus.Client.Concurrent
