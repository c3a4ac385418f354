import RustyModbus.Client.Machine
import RustyModbus.Client.Shutdown

/-!
# The steps of a client

What a step of the client can do, as far as the invariants of `Client.Wiring` and of the modules
behind it have to know. A step of the transaction manager moves one thread and a step of the
lifecycle one admission; an operation moves between the places of `Place.Moves`; and every step of
the client is one of `Stepped`.
-/

namespace RustyModbus.Client.Concurrent

open Function (update)

/-! ## A step moves one thread -/

section Threads

variable {ι : Type}

/-- The thread that takes the step. -/
def Event.thread : Event ι → Option ι
  | .register t .. | .draw t | .lockSlot t | .conflict t | .giveUp t | .completeResponse t ..
  | .completeOldestResponse t .. | .look t | .completeOldest t | .act t | .remove t _
  | .dropRegistration t | .cancelAll t _ | .cancelSlot t | .endCancel t => some t
  | .tick _ | .enable | .beginScan | .visit | .endScan | .wake | .sleepElapsed | .stop | .retire _
  | .markCleanShutdown => none

namespace Manager

theorem perform_calls (s : Manager ι) (a : Action) : (s.perform a).calls = s.calls := by
  cases a <;> rfl

theorem visit_calls (s : Manager ι) (scan : Scan) (slot : Fin maxSlots) :
    (s.visit scan slot).calls = s.calls := by
  rw [Manager.visit]
  split
  next => rfl
  next => split <;> rfl

theorem endScan_calls (s : Manager ι) (scan : Scan) : (s.endScan scan).calls = s.calls := by
  rw [Manager.endScan]
  split <;> rfl

variable [DecidableEq ι] {s s' : Manager ι} {t u : ι}

theorem setCall_self (call : Call) : (s.setCall t call).calls t = call :=
  Function.update_self ..

theorem setCall_of_ne (hu : u ≠ t) (call : Call) : (s.setCall t call).calls u = s.calls u :=
  Function.update_of_ne hu ..

theorem calls_of_step {e : Event ι} (he : s.step e = some s') (hu : e.thread ≠ some u) :
    s'.calls u = s.calls u := by
  have hne {t : ι} (ht : e.thread = some t) : u ≠ t := fun heq => hu (heq ▸ ht)
  cases transition_of_step he with
  | tick | skip | enable | beginScan | wake | sleepElapsed | stop | retire | markCleanShutdown => rfl
  | act => exact (setCall_of_ne (hne rfl) _).trans (congrFun (perform_calls ..) u)
  | visit => exact congrFun (visit_calls ..) u
  | endScan => exact congrFun (endScan_calls ..) u
  | _ => exact Function.update_of_ne (hne rfl) ..

end Manager

/-- Not in a call, or about to give the last notification of one. -/
def Call.Quiet (call : Call) : Prop := call = .idle ∨ call = .finishing [.notify]

/-- What a step does to the call of the thread that takes it. -/
inductive CallStep (s : Manager ι) : Event ι → Call → Call → Prop
  | register {t expected deadline} :
    CallStep s (.register t expected deadline) .idle (.drawing (.start expected deadline))
  | skip {t q} : CallStep s (.draw t) (.drawing q) (.drawing q)
  | draw {t q} :
    CallStep s (.draw t) (.drawing q) (.locking (q.see (slotIdx s.nextId)) s.nextId s.drawn)
  | fill {t q id k} :
    CallStep s (.lockSlot t) (.locking q id k) (.registered s.registrations.length id)
  | occupied {t q id k} : CallStep s (.lockSlot t) (.locking q id k) (.drawing q)
  | conflict {t q id} (hall : ¬ q.seenCount < maxSlots) :
    CallStep s (.conflict t) (.drawing q) (.refused id)
  | giveUp {t id} : CallStep s (.giveUp t) (.refused id) .idle
  | completeResponse {t header pdu} (actions : List Action) :
    CallStep s (.completeResponse t header pdu) .idle (.rest actions)
  | completeOldestResponse {t unitId pdu} :
    CallStep s (.completeOldestResponse t unitId pdu) .idle (.seeking unitId pdu 0 none)
  | look {t unitId pdu cursor oldest oldest'} :
    CallStep s (.look t) (.seeking unitId pdu cursor oldest)
      (.seeking unitId pdu (cursor + 1) oldest')
  | completeOldest {t unitId pdu cursor oldest} (actions : List Action) :
    CallStep s (.completeOldest t) (.seeking unitId pdu cursor oldest) (.rest actions)
  | act {t a rest} : CallStep s (.act t) (.finishing (a :: rest)) (.rest rest)
  | remove {t id call} (h : call.Quiet) : CallStep s (.remove t id) .idle call
  | dropRegistration {t c id call} (h : call.Quiet) :
    CallStep s (.dropRegistration t) (.registered c id) call
  | cancelAll {t error} : CallStep s (.cancelAll t error) .idle (.cancelling error 0 false)
  | cancelSlot {t error cursor cancelled cancelled'} :
    CallStep s (.cancelSlot t) (.cancelling error cursor cancelled)
      (.cancelling error (cursor + 1) cancelled')
  | endCancel {t error cursor cancelled} :
    CallStep s (.endCancel t) (.cancelling error cursor cancelled) .idle

namespace Manager

variable [DecidableEq ι] {s s' : Manager ι} {t : ι}

theorem callStep_of_step {e : Event ι} (he : s.step e = some s') (ht : e.thread = some t) :
    CallStep s e (s.calls t) (s'.calls t) := by
  have step {call call' : Call} (h : s.calls t = call) (h' : s'.calls t = call')
      (hstep : CallStep s e call call') : CallStep s e (s.calls t) (s'.calls t) := by
    rwa [h, h']
  cases transition_of_step he with
  | tick | enable | beginScan | visit | endScan | wake | sleepElapsed | stop | retire
  | markCleanShutdown => cases ht
  | skip h => cases ht; exact step h h .skip
  | rejectResponse h => cases ht; exact step h (Function.update_self ..) (.completeResponse [])
  | rejectOldest h => cases ht; exact step h (Function.update_self ..) (.completeOldest [])
  | remove h => cases ht; exact step h (Function.update_self ..) (.remove (Or.inr rfl))
  | removeNone h => cases ht; exact step h (Function.update_self ..) (.remove (Or.inl rfl))
  | dropRemove h => cases ht; exact step h (Function.update_self ..) (.dropRegistration (Or.inr rfl))
  | drop h => cases ht; exact step h (Function.update_self ..) (.dropRegistration (Or.inl rfl))
  | conflict h hall => cases ht; exact step h (Function.update_self ..) (.conflict hall)
  | register h | draw h | fill h | occupied h | giveUp h | takeResponse h | completeOldestResponse h
  | look h | takeOldest h | act h | cancelAll h | cancelSlot h | passSlot h | endCancel h
  | endCancelNone h =>
    cases ht
    exact step h (Function.update_self ..) (by constructor)

end Manager

end Threads

/-! ## A step moves one admission -/

namespace Lifecycle

variable {s s' : Lifecycle} {e : Event}

theorem admissions_of_step (he : s.step e = some s') {i : Nat} (hi : e.admission = some i) :
    ∃ a b, s.admissions[i]? = some a ∧ Admission.Moves e a b ∧
      s'.admissions = s.admissions.set i b := by
  cases transition_of_step he with
  | admission hj ha hmoves =>
    cases hi.symm.trans hj
    exact ⟨_, _, ha, hmoves, rfl⟩
  | proceed hnone | abort hnone => cases hi.symm.trans hnone
  | _ => cases hi

theorem admissions_same (he : s.step e = some s') (hnone : e.admission = none) (hne : e ≠ .admitCall) :
    s'.admissions = s.admissions := by
  cases transition_of_step he with
  | admitCall => exact absurd rfl hne
  | admission hi => cases hnone.symm.trans hi
  | abort _ pc => exact (abortInner_step s pc).guards.admissions
  | coordinate _ hstep => exact (coordinate_step hstep).guards.admissions
  | _ => rfl

end Lifecycle

/-! ## The moves of an operation -/

/-- The events at which an operation leaves a send or a wait for the response. -/
def OperationEvent.IsEnd : OperationEvent → Prop
  | .pollSend .. | .tryRecv _ | .recv _ | .drop => True
  | _ => False

/-- The events at which an operation that holds only its guard looks at something. -/
def OperationEvent.IsLook : OperationEvent → Prop
  | .load _ | .now _ | .isCancelled _ | .pollLock .. | .pollSleep .. => True
  | _ => False

def Place.retiring (reasons : List SessionRetirementReason) (cleanup : List Cleanup) : Place :=
  .leaving (reasons.map .retire ++ cleanup)

inductive Place.Moves : Place → OperationEvent → Place → Prop
  | connect {b} : Moves .outside (.load b) .admitting
  | reject {b} : Moves .outside (.load b) .gone
  | admitCall : Moves .admitting .admitted .inside
  | refuse {error} : Moves .admitting (.refused error) .gone
  | abandon : Moves .admitting .drop .gone
  | look {e} (h : e.IsLook) : Moves .inside e .inside
  | finish {e} (h : e.IsLook ∨ e = .drop) : Moves .inside e .returning
  | lock {cancelled now deadline expected} :
    Moves .inside (.pollLock cancelled now true) (.registering expected deadline)
  | lockCast {cancelled now} : Moves .inside (.pollLock cancelled now true) .casting
  | dispatch {expected deadline channel id} :
    Moves (.registering expected deadline) (.registered channel id) .dispatched
  | conflict {expected deadline id} :
    Moves (.registering expected deadline) (.conflict id) (.leaving [.unlock])
  | sending {cancelled now sink} : Moves .dispatched (.pollSend cancelled now sink) .dispatched
  | sent {cancelled now sink} : Moves .dispatched (.pollSend cancelled now sink) .awaiting
  | leaveDispatched {e} (reasons : List SessionRetirementReason) (h : e.IsEnd) :
    Moves .dispatched e (.retiring reasons [.dropRegistration, .unlock])
  | leaveAwaiting {e} (reasons : List SessionRetirementReason) (h : e.IsEnd) :
    Moves .awaiting e (.retiring reasons [.dropRegistration])
  | casting {cancelled now sink} : Moves .casting (.pollSend cancelled now sink) .casting
  | leaveCasting {e} (reasons : List SessionRetirementReason) (h : e.IsEnd) :
    Moves .casting e (.retiring reasons [.unlock])
  | clean {c d rest} : Moves (.leaving (c :: d :: rest)) .clean (.leaving (d :: rest))
  | cleaned {c} : Moves (.leaving [c]) .clean .inside
  | left {c} : Moves (.leaving [c]) .clean .returning
  | release : Moves .returning .released .gone
  | validate : Moves .gone .validate .gone

namespace SendWithRetry

variable {limit : Instant} {config : ClientConfig} {o o' : SendWithRetry}

theorem place_endAttempt (config : ClientConfig) (o : SendWithRetry) (l : Loop) (result : Outcome) :
    (o.endAttempt config l result).place = .inside ∨
      (o.endAttempt config l result).place = .returning := by
  unfold endAttempt
  dsimp only
  split
  next => exact Or.inr rfl
  next =>
    split
    next => exact Or.inr rfl
    next => exact Or.inl rfl

/-- The end of an attempt, where the operation holds only its guard. -/
theorem moves_endAttempt {e : OperationEvent} {l : Loop} {result : Outcome} (he : e.IsLook) :
    Place.Moves .inside e (o.endAttempt config l result).place := by
  rcases place_endAttempt config o l result with h | h
  · rw [h]
    exact .look he
  · rw [h]
    exact .finish (Or.inl he)

theorem moves_of_step {e : OperationEvent} (h : o.step limit config e = some o') :
    Place.Moves o.place e o'.place := by
  obtain ⟨request, stage, history⟩ := o
  cases transition_of_step h with
  | connect => exact .connect
  | reject => exact .reject
  | admitted => exact .admitCall
  | refused => exact .refuse
  | abandon => exact .abandon
  | start | proceed | inTime | beginAttempt | queue | queued | delay | rest | restart =>
    exact .look trivial
  | cancelled | exhausted | restCancelled => exact .finish (Or.inl trivial)
  | dropQueueing | dropResting => exact .finish (Or.inr rfl)
  | disconnected | unqueued => exact moves_endAttempt trivial
  | lock => exact .lock
  | dispatch => exact .dispatch
  | conflict => exact .conflict
  | sending he | sendCancelled he => obtain ⟨_, _, _, rfl⟩ := he; exact .sending
  | sent he => obtain ⟨_, _, _, rfl⟩ := he; exact .sent
  | sendFailed he =>
    obtain ⟨_, _, _, rfl⟩ := he
    exact .leaveDispatched [sendFailure _, .dispatchCancelled] trivial
  | sendTimedOut he =>
    obtain ⟨_, _, _, rfl⟩ := he
    exact .leaveDispatched [.requestTimedOut, .dispatchCancelled] trivial
  | dropSending | notReceived => exact .leaveDispatched [.dispatchCancelled] trivial
  | received => exact .leaveDispatched [] trivial
  | answered => exact .leaveAwaiting [] trivial
  | failed | dropAwaiting => exact .leaveAwaiting [.dispatchCancelled] trivial
  | closed => exact .leaveAwaiting [.responseChannelClosed, .dispatchCancelled] trivial
  | clean => exact .clean
  | @cleaned l c result =>
    rcases place_endAttempt config ⟨request, .leaving l [c] (some result), history⟩ l result
      with h | h
    · rw [h]
      exact .cleaned
    · rw [h]
      exact .left
  | dropped => exact .left
  | release => exact .release
  | validate => exact .validate

end SendWithRetry

namespace SendBroadcast

variable {o o' : SendBroadcast}

theorem moves_of_step {e : OperationEvent} (h : o.step e = some o') :
    Place.Moves o.place e o'.place := by
  have hplace {stage : CastStage} (hstage : o.stage = stage) : o.place = (o.goto stage).place := by
    rw [← hstage]
    rfl
  unfold step at h
  split at h
  next hstage =>
    cases h
    rw [hplace hstage]
    unfold connect
    split
    next =>
      split
      next => exact .connect
      next => exact .reject
    next => exact .reject
  next hstage => cases h; rw [hplace hstage]; exact .admitCall
  next hstage => cases h; rw [hplace hstage]; exact .refuse
  next hstage => cases h; rw [hplace hstage]; exact .abandon
  next hstage =>
    cases h
    rw [hplace hstage]
    split
    next => exact .finish (Or.inl trivial)
    next => exact .look trivial
  next hstage =>
    cases h
    have ho := hplace hstage
    rw [ho]
    unfold lockSink
    split
    next => exact .finish (Or.inl trivial)
    next =>
      split
      next hready => cases hready; exact .lockCast
      next =>
        rw [ho]
        exact .look trivial
  next hstage => cases h; rw [hplace hstage]; exact .finish (Or.inr rfl)
  next hstage =>
    cases h
    have ho := hplace hstage
    rw [ho]
    unfold send
    split
    next => exact .leaveCasting [.dispatchCancelled] trivial
    next =>
      dsimp only
      split
      next =>
        show Place.Moves _ _ o.place
        rw [ho]
        exact .casting
      next => exact .leaveCasting [] trivial
      next e => exact .leaveCasting [sendFailure e, .dispatchCancelled] trivial
  next hstage => cases h; rw [hplace hstage]; exact .leaveCasting [.dispatchCancelled] trivial
  next c cleanup result hstage =>
    cases h
    rw [hplace hstage]
    cases cleanup with
    | nil => exact .left
    | cons => exact .clean
  next hstage => cases h; rw [hplace hstage]; exact .release
  next => cases h

end SendBroadcast

theorem Operation.moves_of_step {limit : Instant} {config : ClientConfig} {op op' : Operation}
    {e : OperationEvent} (h : op.step limit config e = some op') :
    Place.Moves op.place e op'.place := by
  cases op with
  | unicast o | broadcast o =>
    obtain ⟨o', ho', rfl⟩ := Option.map_eq_some_iff.mp h
    exact o.moves_of_step ho'

/-! ## The steps of a client -/

namespace ModbusClient

/-- The steps of the transaction manager that are not taken by an operation on its own account. -/
def foreign : Concurrent.Event Thread → Prop
  | .completeResponse t .. | .completeOldestResponse t .. => t = .reader
  | .cancelAll t error => (∀ i, t ≠ .op i) ∧ (error = .shuttingDown ∨ ∃ e, error = .transport e)
  | .register .. | .giveUp _ | .remove .. | .dropRegistration _ => False
  | _ => True

/-- The steps of the lifecycle that are not taken by an operation on its own account. -/
def harmless (s : ModbusClient) : Lifecycle.Event → Prop
  | .admitCall | .abandon _ => False
  | .check i | .acquire i | .enter i => ∃ op, s.operations[i]? = some op ∧ op.place = .admitting
  | .release i => ∃ op, s.operations[i]? = some op ∧ op.place = .returning ∧ s.isIdle (.op i) = true
  | _ => True

/-- The operation has this response channel. -/
def HasChannel (s : ModbusClient) (i c : Nat) (r : Registration Thread) : Prop :=
  (∃ id, s.manager.calls (.op i) = .registered c id) ∧ s.manager.registrations[c]? = some r

/-- What the shared state is like if it lets an operation see this. -/
def Observed (s : ModbusClient) (i : Nat) : OperationEvent → Prop
  | .load connected => connected = s.lifecycle.connected
  | .admitted => s.lifecycle.admissions[i]? = some .admitted
  | .refused error => s.lifecycle.admissions[i]? = some (.ended (some error))
  | .now now => now = s.manager.clock
  | .isCancelled cancelled => cancelled = s.lifecycle.cancellation
  | .pollLock cancelled now ready =>
    cancelled = s.lifecycle.cancellation ∧ now = s.manager.clock ∧ (ready = true → s.sink = none)
  | .registered c id => s.manager.calls (.op i) = .registered c id
  | .conflict id => s.manager.calls (.op i) = .refused id
  | .pollSend cancelled now _ | .pollSleep cancelled now =>
    cancelled = s.lifecycle.cancellation ∧ now = s.manager.clock
  | .tryRecv result => ∃ c r, s.HasChannel i c r ∧ result = r.answers.head?.map Answer.result
  | .recv result =>
    ∃ c r, s.HasChannel i c r ∧ result = r.answers.head?.map Answer.result ∧
      (r.answers = [] → r.freed ≠ 0)
  | .released => s.lifecycle.admissions[i]? = some (.ended none)
  | .clean | .drop | .validate => True

/-- A component takes a step or stays. -/
def Goes {σ ε : Type} (step : σ → ε → Option σ) (s : σ) (e : Option ε) (s' : σ) : Prop :=
  e.elim (some s) (step s) = some s'

theorem move_eq_some {s s' : ModbusClient} {m : Option (Concurrent.Event Thread)}
    {l : Option Lifecycle.Event} (h : s.move m l = some s') :
    ∃ manager lifecycle, Goes Manager.step s.manager m manager ∧
      Goes Lifecycle.step s.lifecycle l lifecycle ∧ s' = { s with manager, lifecycle } := by
  obtain ⟨manager, hm, h⟩ := Option.bind_eq_some_iff.mp h
  obtain ⟨lifecycle, hl, rfl⟩ := Option.map_eq_some_iff.mp h
  exact ⟨manager, lifecycle, hm, hl, rfl⟩

/-- What an operation does not do itself, with its part in the transaction manager, its part in
the lifecycle, and what becomes of the reader. -/
inductive OtherStep (s : ModbusClient) : Option (Concurrent.Event Thread) →
    Option Lifecycle.Event → ReaderPc → List TransportError → Prop
  | tick {elapsed} : OtherStep s (some (.tick elapsed)) none s.reader s.readerErrors
  | shutdown {deadline} : OtherStep s none (some (.shutdown deadline)) s.reader s.readerErrors
  | lifecycle {e} (h : s.allowsLifecycle e = true) :
    OtherStep s none (some e) s.reader s.readerErrors
  | manager {e} (h : continues e = true) : OtherStep s (some e) none s.reader s.readerErrors
  | abortStep {k finalOwner pc} (h : s.lifecycle.aborts[k]? = some (.running finalOwner pc)) :
    OtherStep s (abortEffect (.abort k) (AbortCall.reason finalOwner) pc) (some (.abortStep k))
      s.reader s.readerErrors
  | coordinate {n c} (h : s.lifecycle.coordinators[n]? = some c) :
    OtherStep s (coordinatorEffect n c.pc) (some (.coordinate n s.manager.clock s.pendingEmpty))
      s.reader s.readerErrors
  | completeResponse {header pdu} (h : s.isReceiving = true) :
    OtherStep s (some (.completeResponse .reader header pdu)) none s.reader s.readerErrors
  | completeOldestResponse {unitId pdu} (h : s.isReceiving = true) :
    OtherStep s (some (.completeOldestResponse .reader unitId pdu)) none s.reader s.readerErrors
  | receiveTimeout : OtherStep s none none s.reader s.readerErrors
  | receiveError {error message} (h : s.isReceiving = true) :
    OtherStep s none none (.failed error message) (s.readerErrors ++ [error])
  | failed {error message reason} (h : s.reader = .failed error message) :
    OtherStep s (some (.retire reason)) none (.disconnecting error message) s.readerErrors
  | disconnecting {error cause message} (h : s.reader = .disconnecting error message) :
    OtherStep s (some (.cancelAll .reader (.transport cause))) (some .disconnect) .cancelling
      s.readerErrors
  | endReader {result}
    (h : s.isReceiving = true ∨ s.reader = .cancelling ∧ s.isIdle .reader = true) :
    OtherStep s none (some (.endTask .reader result)) s.reader s.readerErrors
  | schedulerCancelled :
    OtherStep s (some .stop) (some (.endTask .deadline .cancelled)) s.reader s.readerErrors

section

variable {i : Nat} {place place' : Place} {finding : Option SessionRetirementReason}

variable (i place place' finding) in
/-- What an operation does to the transaction manager itself. -/
inductive OwnStep : Concurrent.Event Thread → Prop
  | register {expected deadline} (h : place' = .registering expected deadline) :
    OwnStep (.register (.op i) expected deadline)
  | giveUp : OwnStep (.giveUp (.op i))
  | retire {reason rest} (h : place = .leaving (.retire reason :: rest)) : OwnStep (.retire reason)
  | dropRegistration : OwnStep (.dropRegistration (.op i))
  | validate {reason} (h : finding = some reason) : OwnStep (.retire reason)

theorem ownStep_of_managerEffect {e : OperationEvent} {d : Concurrent.Event Thread}
    (h : managerEffect i place place' finding e = some d) : OwnStep i place place' finding d := by
  unfold managerEffect at h
  split at h
  next => split at h <;> cases h; exact .register rfl
  next => cases h; exact .giveUp
  next =>
    split at h <;> cases h
    · exact .retire rfl
    · exact .dropRegistration
  next =>
    obtain ⟨_, hfinding, rfl⟩ := Option.map_eq_some_iff.mp h
    exact .validate hfinding
  next => cases h

end

/-- The call has not been polled. -/
inductive IsNew : Operation → Prop
  | unicast (request : Request) : IsNew (.unicast (.new request))
  | broadcast (pdu : List UInt8) : IsNew (.broadcast (.new pdu))

theorem IsNew.place {op : Operation} (h : IsNew op) : op.place = .outside := by
  cases h <;> rfl

/-- The steps of a client: an operation's own, a new operation, or something else. -/
inductive Stepped (limit : Instant) (config : ClientConfig) (s : ModbusClient) : ModbusClient → Prop
  | operate {i e op op' manager lifecycle} (hop : s.operations[i]? = some op)
    (hidle : isFinishing (s.manager.calls (.op i)) = false) (hobs : s.Observed i e)
    (hstep : op.step limit config e = some op')
    (hm : Goes Manager.step s.manager (managerEffect i op.place op'.place op.finding e) manager)
    (hl : Goes Lifecycle.step s.lifecycle (lifecycleEffect i op.place e) lifecycle) :
    Stepped limit config s
      { s with
        manager, lifecycle
        operations := s.operations.set i op'
        sink :=
          if op'.place.holdsSink then some i else if op.place.holdsSink then none else s.sink }
  | call {op} (hop : IsNew op) :
    Stepped limit config s
      { s with
        lifecycle := { s.lifecycle with admissions := s.lifecycle.admissions ++ [.entered] }
        operations := s.operations ++ [op] }
  | other {m l manager lifecycle reader readerErrors} (hother : OtherStep s m l reader readerErrors)
    (hm : Goes Manager.step s.manager m manager)
    (hl : Goes Lifecycle.step s.lifecycle l lifecycle) :
    Stepped limit config s { s with manager, lifecycle, reader, readerErrors }

variable {limit : Instant} {config : ClientConfig} {s s' : ModbusClient}

theorem foreign_abortEffect {t : Thread} (ht : ∀ i, t ≠ .op i) (reason : SessionRetirementReason)
    (pc : AbortPc) : ∀ e, abortEffect t reason pc = some e → foreign e := by
  intro e he
  cases pc <;> cases he
  · trivial
  · exact ⟨ht, Or.inl rfl⟩

theorem foreign_coordinatorEffect (n : Nat) (pc : CoordinatorPc) :
    ∀ e, coordinatorEffect n pc = some e → foreign e := by
  intro e he
  cases pc with
  | aborting pc => exact foreign_abortEffect (by simp) _ pc e he
  | marking clean => cases clean <;> cases he <;> trivial
  | _ => cases he; try trivial

theorem harmless_of_allows {e : Lifecycle.Event} (h : s.allowsLifecycle e = true) :
    s.harmless e := by
  cases e with
  | check | acquire | enter =>
    obtain ⟨op, hop, hplace⟩ := Option.map_eq_some_iff.mp (beq_iff_eq.mp h)
    exact ⟨op, hop, hplace⟩
  | release =>
    obtain ⟨hplace, hidle⟩ := Bool.and_eq_true_iff.mp h
    obtain ⟨op, hop, hplace⟩ := Option.map_eq_some_iff.mp (beq_iff_eq.mp hplace)
    exact ⟨op, hop, hplace, hidle⟩
  | _ => trivial

namespace OtherStep

variable {m : Option (Concurrent.Event Thread)} {l : Option Lifecycle.Event} {reader : ReaderPc}
  {readerErrors : List TransportError}

theorem foreign (h : OtherStep s m l reader readerErrors) :
    ∀ e, m = some e → ModbusClient.foreign e := by
  rintro e he
  cases h with
  | tick | failed | schedulerCancelled => cases he; trivial
  | shutdown | lifecycle | receiveTimeout | receiveError | endReader => cases he
  | manager hc => cases he; cases e <;> trivial
  | abortStep => exact foreign_abortEffect (by simp) _ _ e he
  | coordinate => exact foreign_coordinatorEffect _ _ e he
  | completeResponse | completeOldestResponse => cases he; rfl
  | disconnecting => cases he; exact ⟨nofun, Or.inr ⟨_, rfl⟩⟩

theorem harmless (h : OtherStep s m l reader readerErrors) : ∀ e, l = some e → s.harmless e := by
  rintro e he
  cases h with
  | lifecycle hallows => cases he; exact harmless_of_allows hallows
  | _ => cases he <;> trivial

end OtherStep

theorem hasChannel_of_channel {i c : Nat} {r : Registration Thread}
    (h : s.channel i = some (c, r)) : s.HasChannel i c r := by
  unfold channel at h
  split at h
  next c' id hcall =>
    obtain ⟨r', hr', heq⟩ := Option.map_eq_some_iff.mp h
    cases heq
    exact ⟨⟨id, hcall⟩, hr'⟩
  next => cases h

theorem observed_of_observe {i : Nat} {query : Query} {e : OperationEvent}
    (h : s.observe i query = some e) : s.Observed i e := by
  cases query with
  | load | now | isCancelled => cases h; rfl
  | pollSend | pollSleep => cases h; exact ⟨rfl, rfl⟩
  | clean | drop | validate => cases h; trivial
  | admission | registration =>
    simp only [observe] at h
    split at h <;> cases h <;> assumption
  | pollLock ready =>
    simp only [observe] at h
    split at h <;> cases h
    next hfree =>
      refine ⟨rfl, rfl, fun hready => ?_⟩
      exact Option.not_isSome_iff_eq_none.mp fun hsome => hfree ⟨hready, hsome⟩
  | tryRecv =>
    obtain ⟨⟨c, r⟩, hc, rfl⟩ := Option.map_eq_some_iff.mp h
    exact ⟨c, r, hasChannel_of_channel hc, rfl⟩
  | recv =>
    simp only [observe, recv] at h
    split at h
    next => cases h
    next c r hc =>
      split at h
      next answer hanswer =>
        cases h
        refine ⟨c, r, hasChannel_of_channel hc, by rw [hanswer]; rfl, fun hnil => ?_⟩
        rw [hnil] at hanswer
        cases hanswer
      next hanswer =>
        split at h <;> cases h
        next hfreed =>
          refine ⟨c, r, hasChannel_of_channel hc, by rw [hanswer]; rfl, fun _ hzero => ?_⟩
          exact hfreed (Or.inl hzero)
  | released =>
    simp only [observe] at h
    split at h <;> cases h
    assumption

theorem stepped_of_operate {i : Nat} {query : Query} {op : Operation}
    (hop : s.operations[i]? = some op) (h : s.operate limit config i query op = some s') :
    Stepped limit config s s' := by
  unfold operate at h
  split at h
  next => cases h
  next hidle =>
    obtain ⟨e, hobs, h⟩ := Option.bind_eq_some_iff.mp h
    obtain ⟨op', hstep, h⟩ := Option.bind_eq_some_iff.mp h
    obtain ⟨t, ht, rfl⟩ := Option.map_eq_some_iff.mp h
    obtain ⟨manager, lifecycle, hm, hl, rfl⟩ := move_eq_some ht
    exact .operate hop (Bool.eq_false_iff.mpr hidle) (observed_of_observe hobs) hstep hm hl

theorem stepped_of_move {m : Option (Concurrent.Event Thread)} {l : Option Lifecycle.Event}
    (h : s.move m l = some s') (hother : OtherStep s m l s.reader s.readerErrors) :
    Stepped limit config s s' := by
  obtain ⟨manager, lifecycle, hm, hl, rfl⟩ := move_eq_some h
  exact .other hother hm hl

theorem stepped_of_receive {frame : Frame} (h : s.receive frame = some s') :
    Stepped limit config s s' := by
  unfold receive at h
  split at h
  next hrecv =>
    split at h
    next => exact stepped_of_move h (.completeResponse hrecv)
    next => exact stepped_of_move h (.completeOldestResponse hrecv)
  next => cases h

theorem stepped_of_readerStep (h : s.readerStep = some s') : Stepped limit config s s' := by
  unfold readerStep at h
  split at h
  next => cases h
  next hreader =>
    obtain ⟨t, ht, rfl⟩ := Option.map_eq_some_iff.mp h
    obtain ⟨manager, lifecycle, hm, hl, rfl⟩ := move_eq_some ht
    exact .other (.failed hreader) hm hl
  next hreader =>
    obtain ⟨t, ht, rfl⟩ := Option.map_eq_some_iff.mp h
    obtain ⟨manager, lifecycle, hm, hl, rfl⟩ := move_eq_some ht
    exact .other (.disconnecting hreader) hm hl
  next hreader =>
    split at h
    next hidle => exact stepped_of_move h (.endReader (Or.inr ⟨hreader, hidle⟩))
    next => cases h

theorem stepped_of_endReader {result : TaskEnd} (h : s.endReader result = some s') :
    Stepped limit config s s' := by
  unfold endReader at h
  split at h
  next hrecv => exact stepped_of_move h (.endReader (Or.inl hrecv))
  next => cases h

theorem stepped_of_abortStep {k : Nat} (h : s.abortStep k = some s') :
    Stepped limit config s s' := by
  unfold abortStep at h
  split at h
  next hcall =>
    split at h
    next => cases h
    next => exact stepped_of_move h (.abortStep hcall)
  next => cases h

theorem stepped_of_coordinate {n : Nat} (h : s.coordinate n = some s') :
    Stepped limit config s s' := by
  unfold coordinate at h
  split at h
  next hc =>
    split at h
    next => cases h
    next => exact stepped_of_move h (.coordinate hc)
  next => cases h

theorem stepped_of_step {e : Event} (h : s.step limit config e = some s') :
    Stepped limit config s s' := by
  cases e with
  | tick => exact stepped_of_move h .tick
  | request r => cases h; exact .call (.unicast r)
  | broadcast pdu => cases h; exact .call (.broadcast pdu)
  | operate i query =>
    obtain ⟨op, hop, h⟩ := Option.bind_eq_some_iff.mp h
    exact stepped_of_operate hop h
  | shutdown => exact stepped_of_move h .shutdown
  | lifecycle e =>
    simp only [step] at h
    split at h
    next hallowed => exact stepped_of_move h (.lifecycle hallowed)
    next => cases h
  | manager e =>
    simp only [step] at h
    split at h
    next hc => exact stepped_of_move h (.manager hc)
    next => cases h
  | abortStep k => exact stepped_of_abortStep h
  | coordinate n => exact stepped_of_coordinate h
  | receive frame => exact stepped_of_receive h
  | receiveTimeout =>
    simp only [step] at h
    split at h <;> cases h
    exact .other .receiveTimeout rfl rfl
  | receiveError error message =>
    simp only [step, receiveError] at h
    split at h <;> cases h
    next hrecv => exact .other (.receiveError hrecv.1) rfl rfl
  | readerStep => exact stepped_of_readerStep h
  | readerStop =>
    simp only [step] at h
    split at h
    next => exact stepped_of_endReader h
    next => cases h
  | readerCancelled | readerPanicked => exact stepped_of_endReader h
  | schedulerCancelled => exact stepped_of_move h .schedulerCancelled

end ModbusClient

end RustyModbus.Client.Concurrent
