import RustyModbus.Client.Lifecycle
import RustyModbus.Client.Operation

/-!
# The client

`ModbusClient` with everything that runs on it at once: any number of operations, the reader, the
deadline scheduler, `shutdown` and `abort` calls, the drop of the last owner, and the shutdown
coordinator. The transaction manager and the lifecycle are the machines they are on their own.
Here they meet: an operation's query is answered from the shared state, and what it does there
is a step of one of the two.

A step of the client is at most one step of either machine (`move`), a step of one operation, and
an update of the sink's lock or of the reader. The shutdown coordinator counts the pending
transactions slot by slot under the lock of the lifecycle; since no registration is alive where
the count matters, it is taken at one instant here.
-/

namespace RustyModbus.Client.Concurrent

/-! ## Data -/

/-- Who works on the transaction manager. -/
inductive Thread
  | op (i : Nat)
  | reader
  | coordinator (n : Nat)
  | abort (k : Nat)
deriving DecidableEq, Repr

/-- The reader's task: it waits for a frame, or it is on the way out after an error. `message` is
the text of the error. -/
inductive ReaderPc
  | receiving
  | failed (error : TransportError) (message : String)
  | disconnecting (error : TransportError) (message : String)
  | cancelling
deriving DecidableEq, Repr

structure ModbusClient where
  manager : Manager Thread
  lifecycle : Lifecycle
  operations : List Operation
  /-- Who holds the lock of the sink. -/
  sink : Option Nat
  reader : ReaderPc
  -- history
  readerErrors : List TransportError

/-- What an operation wants to know or to do. -/
inductive Query
  | load
  | admission
  | now
  | isCancelled
  | pollLock (ready : Bool)
  | registration
  | pollSend (sink : Option (Except TransportError Unit))
  | tryRecv
  | recv
  | clean
  | pollSleep
  | drop
  | released
  | validate

/-! ## The verdict of typed methods -/

/-- `finish_typed_response`. -/
def finishTypedResponse {α : Type} (result : Except ClientError α) :
    Option SessionRetirementReason :=
  match result with
  | .error (.unexpectedResponseEcho ..) => some .typedResponseEchoMismatch
  | .error (.codec ..) | .error (.shortResponse ..) | .error (.unexpectedResponseLength ..)
  | .error (.unexpectedResponsePadding ..) | .error (.unexpectedFileRecordSubResponseCount ..)
  | .error (.invalidDeviceIdentificationContinuation ..)
  | .error (.deviceIdentificationPaginationLimit ..) => some .typedResponseDataInvalid
  | _ => none

/-- What a typed method that has its response finds wrong with it. -/
def Operation.finding : Operation → Option SessionRetirementReason
  | .unicast { request, stage := .returned (some (.ok response)), .. } =>
    finishTypedResponse (request.validate response)
  | _ => none

namespace ModbusClient

inductive Event
  | tick (elapsed : Nat)
  /-- A typed method is called up to its `send_with_retry`. -/
  | request (request : Request)
  | broadcast (pdu : List UInt8)
  | operate (i : Nat) (query : Query)
  | shutdown
  | lifecycle (e : Lifecycle.Event)
  | manager (e : Concurrent.Event Thread)
  | abortStep (k : Nat)
  | coordinate (n : Nat)
  | receive (frame : Frame)
  /-- The read timed out, which ends nothing. -/
  | receiveTimeout
  | receiveError (error : TransportError) (message : String)
  | readerStep
  | readerStop
  | readerCancelled
  | readerPanicked
  | schedulerCancelled

/-- `from_transport`: the client runs and its two tasks are spawned. -/
def new (config : ClientConfig) : ModbusClient :=
  { manager := .new, lifecycle := .new (admissionCapacity config.maxInFlight), operations := [],
    sink := none, reader := .receiving, readerErrors := [] }

/-- `from_rtu_transport` starts a client with this. -/
def forRtu (config : ClientConfig) : ClientConfig := { config with maxInFlight := 1 }

/-- At most one step of the transaction manager and of the lifecycle. -/
def move (s : ModbusClient) (m : Option (Concurrent.Event Thread)) (l : Option Lifecycle.Event) :
    Option ModbusClient :=
  (m.elim (some s.manager) s.manager.step).bind fun manager =>
    (l.elim (some s.lifecycle) s.lifecycle.step).map fun lifecycle => { s with manager, lifecycle }

/-! ## Operations -/

/-- The thread still has an answer for the channel to send. -/
def owesTo (call : Call) (channel : Nat) : Bool :=
  match call with
  | .finishing actions =>
    actions.any fun
      | .send c _ => c == channel
      | _ => false
  | _ => false

/-- The response channel of an operation, if it has one. -/
def channel (s : ModbusClient) (i : Nat) : Option (Nat × Registration Thread) :=
  match s.manager.calls (.op i) with
  | .registered c _ => s.manager.registrations[c]?.map (c, ·)
  | _ => none

/-- What `rx.try_recv` finds: an answer, or that there is none. -/
def tryRecv (s : ModbusClient) (i : Nat) : Option OperationEvent :=
  (s.channel i).map fun (_, r) => .tryRecv (r.answers.head?.map Answer.result)

/-- What `rx.await` ends with. The sender is gone if the slot was emptied, nothing was sent and
the reader, who alone sends later than it empties a slot, is not about to. -/
def recv (s : ModbusClient) (i : Nat) : Option OperationEvent :=
  match s.channel i with
  | none => none
  | some (c, r) =>
    match r.answers.head? with
    | some answer => some (.recv (some answer.result))
    | none =>
      if r.freed = 0 ∨ owesTo (s.manager.calls .reader) c then none else some (.recv none)

/-- How the shared state answers a query. -/
def observe (s : ModbusClient) (i : Nat) : Query → Option OperationEvent
  | .load => some (.load s.lifecycle.connected)
  | .admission =>
    match s.lifecycle.admissions[i]? with
    | some .admitted => some .admitted
    | some (.ended (some error)) => some (.refused error)
    | _ => none
  | .now => some (.now s.manager.clock)
  | .isCancelled => some (.isCancelled s.lifecycle.cancellation)
  | .pollLock ready =>
    if ready ∧ s.sink.isSome then none
    else some (.pollLock s.lifecycle.cancellation s.manager.clock ready)
  | .registration =>
    match s.manager.calls (.op i) with
    | .registered c txnId => some (.registered c txnId)
    | .refused txnId => some (.conflict txnId)
    | _ => none
  | .pollSend sink => some (.pollSend s.lifecycle.cancellation s.manager.clock sink)
  | .tryRecv => s.tryRecv i
  | .recv => s.recv i
  | .clean => some .clean
  | .pollSleep => some (.pollSleep s.lifecycle.cancellation s.manager.clock)
  | .drop => some .drop
  | .released => if s.lifecycle.admissions[i]? = some (.ended none) then some .released else none
  | .validate => some .validate

/-- What the operation does to the transaction manager on its way from `place` to `place'`. -/
def managerEffect (i : Nat) (place place' : Place) (finding : Option SessionRetirementReason) :
    OperationEvent → Option (Concurrent.Event Thread)
  | .pollLock .. =>
    match place' with
    | .registering expected deadline => some (.register (.op i) expected deadline)
    | _ => none
  | .conflict _ => some (.giveUp (.op i))
  | .clean =>
    match place with
    | .leaving (.retire reason :: _) => some (.retire reason)
    | .leaving (.dropRegistration :: _) => some (.dropRegistration (.op i))
    | _ => none
  | .validate => finding.map .retire
  | _ => none

/-- An operation that is dropped where it waits for a permit takes its `admit` with it. -/
def lifecycleEffect (i : Nat) (place : Place) : OperationEvent → Option Lifecycle.Event
  | .drop => if place = .admitting then some (.abandon i) else none
  | _ => none

/-- An operation goes on once the notification of its last removal is given. -/
def isFinishing : Call → Bool
  | .finishing _ => true
  | _ => false

def operate (limit : Instant) (config : ClientConfig) (s : ModbusClient) (i : Nat) (query : Query)
    (op : Operation) : Option ModbusClient :=
  if isFinishing (s.manager.calls (.op i)) then none
  else
    (s.observe i query).bind fun e =>
      (op.step limit config e).bind fun op' =>
        (s.move (managerEffect i op.place op'.place op.finding e)
            (lifecycleEffect i op.place e)).map fun s' =>
          { s' with
            operations := s.operations.set i op'
            sink :=
              if op'.place.holdsSink then some i
              else if op.place.holdsSink then none
              else s.sink }

/-! ## The other parts -/

/-- The thread is not in a call of the transaction manager. -/
def isIdle (s : ModbusClient) (t : Thread) : Bool :=
  match s.manager.calls t with
  | .idle => true
  | _ => false

/-- The steps of the lifecycle that concern nothing else, once the operation is where they are
taken. -/
def allowsLifecycle (s : ModbusClient) : Lifecycle.Event → Bool
  | .check i | .acquire i | .enter i => s.operations[i]?.map Operation.place == some .admitting
  | .release i => s.operations[i]?.map Operation.place == some .returning && s.isIdle (.op i)
  | .notifyIdle _ | .returnPermit _ | .shutdownStep _ | .cancelShutdown _ | .abort _
  | .cancelCoordinator _ => true
  | .admitCall | .abandon _ | .shutdown _ | .abortStep _ | .coordinate .. | .endTask .. | .disconnect =>
    false

/-- The steps of the transaction manager that continue a call or belong to the scheduler. -/
def continues : Concurrent.Event Thread → Bool
  | .draw _ | .lockSlot _ | .conflict _ | .look _ | .completeOldest _ | .act _ | .cancelSlot _
  | .endCancel _ | .enable | .beginScan | .visit | .endScan | .wake | .sleepElapsed => true
  | .tick _ | .register .. | .giveUp _ | .completeResponse .. | .completeOldestResponse ..
  | .remove .. | .dropRegistration _ | .cancelAll .. | .stop | .retire _ | .markCleanShutdown => false

/-- What `abort_inner` does to the transaction manager. `cancel_all` begins with the step that
leads up to it. -/
def abortEffect (t : Thread) (reason : SessionRetirementReason) :
    AbortPc → Option (Concurrent.Event Thread)
  | .retire => some (.retire reason)
  | .disconnect => some (.cancelAll t .shuttingDown)
  | _ => none

def abortStep (s : ModbusClient) (k : Nat) : Option ModbusClient :=
  match s.lifecycle.aborts[k]? with
  | some (.running finalOwner pc) =>
    if pc = .cancelAll ∧ !s.isIdle (.abort k) then none
    else s.move (abortEffect (.abort k) (AbortCall.reason finalOwner) pc) (some (.abortStep k))
  | _ => none

def pendingEmpty (s : ModbusClient) : Bool :=
  (List.finRange maxSlots).all fun slot => (s.manager.slots slot).isNone

def coordinatorEffect (n : Nat) : CoordinatorPc → Option (Concurrent.Event Thread)
  | .aborting pc => abortEffect (.coordinator n) .shutdownDeadlineExceeded pc
  | .readerFailed _ | .deadlineFailed => some (.retire .backgroundTaskFailed)
  | .marking true => some .markCleanShutdown
  | .marking false => some (.retire .shutdownIncomplete)
  | _ => none

def coordinate (s : ModbusClient) (n : Nat) : Option ModbusClient :=
  match s.lifecycle.coordinators[n]? with
  | some c =>
    if c.pc = .aborting .cancelAll ∧ !s.isIdle (.coordinator n) then none
    else
      s.move (coordinatorEffect n c.pc)
        (some (.coordinate n s.manager.clock s.pendingEmpty))
  | none => none

/-- The reader is at its `select!`. -/
def isReceiving (s : ModbusClient) : Bool :=
  s.reader == .receiving && s.lifecycle.reader.ended.isNone && s.isIdle .reader

def receive (s : ModbusClient) (frame : Frame) : Option ModbusClient :=
  if s.isReceiving then
    match frame.header with
    | .mbap header => s.move (some (.completeResponse .reader header frame.pdu)) none
    | .rtu unitId => s.move (some (.completeOldestResponse .reader unitId frame.pdu)) none
  else none

def receiveError (s : ModbusClient) (error : TransportError) (message : String) : Option ModbusClient :=
  if s.isReceiving ∧ error ≠ .timeout then
    some { s with
      reader := .failed error message
      readerErrors := s.readerErrors ++ [error] }
  else none

/-- The reader's way out after an error. -/
def readerStep (s : ModbusClient) : Option ModbusClient :=
  match s.reader with
  | .receiving => none
  | .failed error message =>
    let reason : SessionRetirementReason :=
      if error = .disconnected then .readerDisconnected else .readerTransportFailed
    (s.move (some (.retire reason)) none).map fun s =>
      { s with reader := .disconnecting error message }
  | .disconnecting error message =>
    let cause : TransportError := if error = .disconnected then .disconnected else .io message
    (s.move (some (.cancelAll .reader (.transport cause))) (some .disconnect)).map fun s =>
      { s with reader := .cancelling }
  | .cancelling =>
    if s.isIdle .reader then s.move none (some (.endTask .reader .returned)) else none

/-- The reader's task ends at its `select!`. -/
def endReader (s : ModbusClient) (result : TaskEnd) : Option ModbusClient :=
  if s.isReceiving then s.move none (some (.endTask .reader result)) else none

/-! ## One step -/

def step (limit : Instant) (config : ClientConfig) (s : ModbusClient) : Event → Option ModbusClient
  | .tick elapsed => s.move (some (.tick elapsed)) none
  | .request request =>
    (s.move none (some .admitCall)).map fun s =>
      { s with operations := s.operations ++ [.unicast (.new request)] }
  | .broadcast pdu =>
    (s.move none (some .admitCall)).map fun s =>
      { s with operations := s.operations ++ [.broadcast (.new pdu)] }
  | .operate i query => s.operations[i]?.bind (s.operate limit config i query)
  | .shutdown =>
    s.move none
      (some (.shutdown (saturatingInstantAdd limit s.manager.clock config.shutdownTimeout)))
  | .lifecycle e => if s.allowsLifecycle e then s.move none (some e) else none
  | .manager e => if continues e then s.move (some e) none else none
  | .abortStep k => s.abortStep k
  | .coordinate n => s.coordinate n
  | .receive frame => s.receive frame
  | .receiveTimeout => if s.isReceiving then some s else none
  | .receiveError error message => s.receiveError error message
  | .readerStep => s.readerStep
  | .readerStop => if s.lifecycle.taskStop then s.endReader .returned else none
  | .readerCancelled => s.endReader .cancelled
  | .readerPanicked => s.endReader .panicked
  | .schedulerCancelled => s.move (some .stop) (some (.endTask .deadline .cancelled))

end ModbusClient

/-- A client under every interleaving of what runs on it. -/
def modbusClient (limit : Instant) (config : ClientConfig) :
    Machine ModbusClient ModbusClient.Event where
  init := .new config
  step := ModbusClient.step limit config

end RustyModbus.Client.Concurrent
