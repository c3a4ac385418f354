import RustyModbus.Client.Answers
import RustyModbus.Client.Slots

/-!
# No conflict of transactions

`TransactionConflict` comes from a search for a slot that failed, and no search fails. Here the
error is followed through everything that hands errors on, up to what a call returns.
-/

namespace RustyModbus.Client.Concurrent

/-! ## What a call passes on -/

/-- The result is no conflict. -/
def Clear {α : Type} (result : Except ClientError α) : Prop :=
  ∀ error, result = .error error → error.isConflict = false

theorem Clear.ok {α : Type} (a : α) : Clear (.ok a) := nofun

theorem Clear.error {α : Type} {error : ClientError} (h : error.isConflict = false) :
    Clear (.error error : Except ClientError α) := by
  rintro _ ⟨⟩
  exact h

/-- The result, if there is one, is no conflict. -/
def ClearIfAny {α : Type} (result : Option (Except ClientError α)) : Prop :=
  ∀ r, result = some r → Clear r

theorem ClearIfAny.some {α : Type} {r : Except ClientError α} (h : Clear r) :
    ClearIfAny (some r) := by
  rintro _ ⟨⟩
  exact h

def Loop.Clear (l : Loop) : Prop := ∀ error, l.lastError = some error → error.isConflict = false

def SendStage.Clear : SendStage → Prop
  | .connecting | .admitting _ | .starting _ | .validated _ => True
  | .looping l | .checking l | .beginning l | .attempting l _ | .queueing l _ | .registering l _
  | .sending l _ | .receiving l | .awaiting l | .delaying l | .resting l _ => l.Clear
  | .leaving l _ result => l.Clear ∧ ClearIfAny result
  | .returning result | .returned result => ClearIfAny result

def CastStage.Clear : CastStage → Prop
  | .leaving _ result | .returning result | .returned result => ClearIfAny result
  | _ => True

def Operation.Clear : Operation → Prop
  | .unicast o => o.stage.Clear
  | .broadcast o => o.stage.Clear

/-- What a call meets brings no conflict. -/
def OperationEvent.Clear : OperationEvent → Prop
  | .refused error => error.isConflict = false
  | .conflict _ => False
  | .tryRecv result | .recv result => ClearIfAny result
  | _ => True

theorem clear_checkedPduLength {pdu : List UInt8} {error : ClientError}
    (h : checkedPduLength pdu = .error error) : error.isConflict = false := by
  unfold checkedPduLength at h
  split at h
  next => cases h; rfl
  next => split at h <;> cases h; rfl

def ClearDisposition : AttemptDisposition → Prop
  | .complete result => Clear result
  | .retry error => error.isConflict = false

theorem clear_classifyAttempt (retry : RetryConfig) (kind : RequestKind) {result : Outcome}
    (h : Clear result) : ClearDisposition (classifyAttempt retry kind result) := by
  unfold classifyAttempt
  split
  next =>
    split
    next => exact .ok _
    next => split <;> first | rfl | exact .ok _
  next => exact .ok _
  next => split <;> first | rfl | exact h
  next => split <;> first | rfl | exact h
  next => exact h

namespace SendWithRetry

variable {limit : Instant} {config : ClientConfig} {o o' : SendWithRetry} {l : Loop}

theorem clear_endAttempt {result : Outcome} (hr : Clear result) :
    (o.endAttempt config l result).stage.Clear := by
  have hclass := clear_classifyAttempt config.retry o.request.kind hr
  unfold endAttempt
  dsimp only [note]
  split
  next heq =>
    rw [heq] at hclass
    exact ClearIfAny.some hclass
  next error heq =>
    rw [heq] at hclass
    split
    next => exact ClearIfAny.some (.error hclass)
    next =>
      rintro _ ⟨⟩
      exact hclass

theorem clear_exhausted (hl : l.Clear) (attempts : Nat) :
    (ClientError.retriesExhausted attempts (l.lastError.getD .timeout)).isConflict = false := by
  show (l.lastError.getD .timeout).isConflict = false
  cases hlast : l.lastError with
  | none => rfl
  | some error => exact hl error hlast

theorem clear_of_step {e : OperationEvent} (h : o.stage.Clear) (he : e.Clear)
    (hstep : o.step limit config e = some o') : o'.stage.Clear := by
  have herror {error : ClientError} (herr : error.isConflict = false) :
      ClearIfAny (some (.error error : Outcome)) := .some (.error herr)
  obtain ⟨request, stage, history⟩ := o
  cases transition_of_step hstep with
  | connect | admitted | validate => trivial
  | reject hreject =>
    rcases hreject with hreject | rfl
    · exact herror (clear_checkedPduLength hreject)
    · exact herror rfl
  | refused => exact herror he
  | abandon | start | dropQueueing | dropResting | dropped => exact nofun
  | cancelled | restCancelled => exact herror rfl
  | exhausted hexhausted => exact herror (hexhausted ▸ clear_exhausted h _)
  | proceed | inTime | beginAttempt | queue | queued | lock | dispatch | sending | sent
  | sendCancelled | clean | delay | rest | restart | release => exact h
  | disconnected => exact clear_endAttempt (.error rfl)
  | unqueued herr =>
    rcases herr with rfl | rfl
    · exact clear_endAttempt (.error rfl)
    · exact clear_endAttempt (.error rfl)
  | conflict => cases he
  | sendFailed | sendTimedOut | closed => exact ⟨h, herror rfl⟩
  | dropSending | dropAwaiting => exact ⟨h, nofun⟩
  | received | answered | failed => exact ⟨h, he⟩
  | notReceived hresult =>
    rcases hresult with rfl | rfl
    · exact ⟨h, he⟩
    · exact ⟨h, herror rfl⟩
  | cleaned => exact clear_endAttempt (h.2 _ rfl)

end SendWithRetry

namespace SendBroadcast

variable {o o' : SendBroadcast}

theorem clear_leave (cleanup : List Cleanup) {result : Option (Except ClientError Unit)}
    (hr : ClearIfAny result) : (o.leave cleanup result).stage.Clear := by
  cases cleanup <;> exact hr

theorem clear_of_step {e : OperationEvent} (h : o.stage.Clear) (he : e.Clear)
    (hstep : o.step e = some o') : o'.stage.Clear := by
  have herror {error : ClientError} (herr : error.isConflict = false) :
      ClearIfAny (some (.error error : Except ClientError Unit)) := .some (.error herr)
  unfold step at hstep
  split at hstep <;> rename_i hstage <;> try rw [hstage] at h
  next =>
    cases hstep
    unfold connect
    split
    next =>
      split
      next => trivial
      next hlength => exact herror (clear_checkedPduLength hlength)
    next => exact herror rfl
  next => cases hstep; trivial
  next => cases hstep; exact herror he
  next => cases hstep; exact nofun
  next =>
    cases hstep
    split
    next => exact clear_leave _ (herror rfl)
    next => trivial
  next =>
    cases hstep
    unfold lockSink
    split
    next => exact clear_leave _ (herror rfl)
    next => split <;> first | trivial | (rw [hstage]; trivial)
  next => cases hstep; exact clear_leave _ nofun
  next =>
    cases hstep
    unfold send
    split
    next => exact clear_leave _ (herror rfl)
    next =>
      dsimp only
      split
      next => rw [hstage]; trivial
      next => exact clear_leave _ (.some (.ok _))
      next => exact clear_leave _ (herror rfl)
  next => cases hstep; exact clear_leave _ nofun
  next => cases hstep; exact clear_leave _ h
  next => cases hstep; exact h
  next => cases hstep

end SendBroadcast

theorem Operation.clear_of_step {limit : Instant} {config : ClientConfig} {op op' : Operation}
    {e : OperationEvent} (h : op.Clear) (he : e.Clear) (hstep : op.step limit config e = some op') :
    op'.Clear := by
  cases op with
  | unicast o | broadcast o =>
    obtain ⟨o', ho', rfl⟩ := Option.map_eq_some_iff.mp hstep
    exact o.clear_of_step h he ho'

/-! ## What a client passes on -/

/-- An admission that fails says why, and that is no conflict. -/
def Admission.Clear : Admission → Prop
  | .returning (some error) | .ended (some error) => error.isConflict = false
  | _ => True

theorem Admission.Clear.moves {e : Lifecycle.Event} {a b : Admission} (h : a.Clear)
    (hmoves : Admission.Moves e a b) : b.Clear := by
  cases hmoves with
  | refuse | fail | turnBack => rfl
  | @returnPermit _ error => cases error <;> exact h
  | _ => trivial

/-- What the call returns to the typed method, if that is an error. -/
def Operation.error : Operation → Option ClientError
  | .unicast { stage := .returned (some (.error error)), .. } => some error
  | .broadcast { stage := .returned (some (.error error)), .. } => some error
  | _ => none

theorem Operation.Clear.error {op : Operation} (h : op.Clear) {error : ClientError}
    (he : op.error = some error) : error.isConflict = false := by
  unfold Operation.error at he
  split at he <;> cases he <;> exact h _ rfl _ rfl

theorem Answer.Sound.clear {r : Registration Thread} {a : Answer} (h : a.Sound r) :
    Concurrent.Clear a.result := by
  intro error herror
  unfold Answer.Sound at h
  rw [herror] at h
  exact h

namespace ModbusClient

variable {limit : Instant} {config : ClientConfig} {s s' : ModbusClient}

theorem clear_of_isNew {op : Operation} (h : IsNew op) : op.Clear := by
  cases h <;> trivial

structure Untroubled (s : ModbusClient) : Prop where
  answered : Answered s.manager
  admissions : ∀ a ∈ s.lifecycle.admissions, a.Clear
  operations : ∀ op ∈ s.operations, op.Clear

namespace Untroubled

theorem new (config : ClientConfig) : Untroubled (.new config) where
  answered := .new
  admissions := fun _ h => absurd h List.not_mem_nil
  operations := fun _ h => absurd h List.not_mem_nil

theorem manager_goes (h : Untroubled s) (hc : Correlated s.manager)
    {me : Option (Concurrent.Event Thread)} {m : Manager Thread}
    (hm : Goes Manager.step s.manager me m)
    (herror : ∀ t error, me = some (.cancelAll t error) → error.isConflict = false) :
    Answered m := by
  rcases hm.cases with ⟨-, rfl⟩ | ⟨e, rfl, he⟩
  · exact h.answered
  · refine h.answered.step hc he fun t error heq => herror t error ?_
    rw [heq]

theorem lifecycle_step (h : Untroubled s) {e : Lifecycle.Event} {lifecycle : Lifecycle}
    (hl : s.lifecycle.step e = some lifecycle) (hne : e ≠ .admitCall) :
    ∀ a ∈ lifecycle.admissions, a.Clear := by
  cases hi : e.admission with
  | none =>
    rw [Lifecycle.admissions_same hl hi hne]
    exact h.admissions
  | some i =>
    obtain ⟨a, b, ha, hmoves, hset⟩ := Lifecycle.admissions_of_step hl hi
    rw [hset]
    intro a' ha'
    rcases List.mem_or_eq_of_mem_set ha' with ha' | rfl
    · exact h.admissions a' ha'
    · exact (h.admissions a (List.mem_of_getElem? ha)).moves hmoves

theorem lifecycle_goes (h : Untroubled s) {le : Option Lifecycle.Event} {lifecycle : Lifecycle}
    (hl : Goes Lifecycle.step s.lifecycle le lifecycle) (hne : le ≠ some .admitCall) :
    ∀ a ∈ lifecycle.admissions, a.Clear := by
  rcases hl.cases with ⟨-, rfl⟩ | ⟨e, rfl, he⟩
  · exact h.admissions
  · exact h.lifecycle_step he fun heq => hne (congrArg some heq)

/-- An operation is told of no conflict: of those that register none is refused. -/
theorem observed (h : Untroubled s) {i : Nat} {e : OperationEvent}
    (hseeks : Seeks s.manager (s.manager.calls (.op i))) (hobs : s.Observed i e) : e.Clear := by
  have hanswer {c : Nat} {r : Registration Thread} {result : Option Outcome}
      (hc : s.HasChannel i c r) (hresult : result = r.answers.head?.map Answer.result) :
      ClearIfAny result := by
    rintro _ rfl
    obtain ⟨a, ha, rfl⟩ := Option.map_eq_some_iff.mp hresult.symm
    exact (h.answered.answers hc.2 (List.mem_of_mem_head? ha)).clear
  cases e with
  | refused error => exact h.admissions _ (List.mem_of_getElem? hobs)
  | conflict id =>
    rw [show s.manager.calls (.op i) = .refused id from hobs] at hseeks
    exact hseeks
  | tryRecv result =>
    obtain ⟨c, r, hc, hresult⟩ := hobs
    exact hanswer hc hresult
  | recv result =>
    obtain ⟨c, r, hc, hresult, -⟩ := hobs
    exact hanswer hc hresult
  | _ => trivial

theorem step (h : Untroubled s) (hs : (modbusClient limit config).Reachable s)
    (hstep : Stepped limit config s s') : Untroubled s' := by
  have hc := Correlated.of_reachable (embeds_manager.reachable hs)
  cases hstep with
  | @operate i e op op' _ _ hop _ hobs hstep hm hl =>
    refine ⟨h.manager_goes hc hm ?_, h.lifecycle_goes hl ?_, fun op'' hop'' => ?_⟩
    · exact fun t error heq => nomatch ownStep_of_managerEffect heq
    · unfold lifecycleEffect
      split
      next => split <;> exact nofun
      next => exact nofun
    · rcases List.mem_or_eq_of_mem_set hop'' with hop'' | rfl
      · exact h.operations _ hop''
      · exact Operation.clear_of_step (h.operations _ (List.mem_of_getElem? hop))
          (h.observed (seeks_of_reachable hs i) hobs) hstep
  | @call op hop =>
    refine ⟨h.answered, fun a ha => ?_, fun op' hop' => ?_⟩
    · rcases List.mem_append.mp ha with ha | ha
      · exact h.admissions a ha
      · cases List.mem_singleton.mp ha
        trivial
    · rcases List.mem_append.mp hop' with hop' | hop'
      · exact h.operations op' hop'
      · cases List.mem_singleton.mp hop'
        exact clear_of_isNew hop
  | other hother hm hl =>
    refine ⟨h.manager_goes hc hm ?_, h.lifecycle_goes hl ?_, h.operations⟩
    · rintro t error rfl
      rcases (hother.foreign _ rfl).2 with rfl | ⟨_, rfl⟩ <;> rfl
    · rintro rfl
      exact hother.harmless _ rfl

theorem of_reachable (hs : (modbusClient limit config).Reachable s) : Untroubled s :=
  hs.invariant (new config) fun hs h he => h.step hs (stepped_of_step he)

end Untroubled

/-! ## Enough slots for everyone -/

/-- Slots never run out. -/
structure SlotsSuffice (limit : Instant) (config : ClientConfig) (s : ModbusClient) : Prop where
  /-- A slot is occupied for an operation that has been admitted, and `active` counts these. -/
  occupied_le : s.manager.occupied.card ≤ s.lifecycle.liveGuards ∧
    s.lifecycle.active = s.lifecycle.liveGuards
  /-- Whoever registers holds the sink. -/
  holder : ∀ t, (s.manager.calls t).IsSearching → ∃ i, t = .op i ∧ s.sink = some i
  /-- Whoever registers has a slot to find. -/
  free : ∀ t, (s.manager.calls t).IsSearching → ∃ j, s.manager.slots j = none
  /-- Before another id is drawn at most 30 have been. -/
  drawing : ∀ t q, s.manager.calls t = .drawing q → q.draws ≤ 30 ∧ q.seenCount < maxSlots
  locking : ∀ t q id k, s.manager.calls t = .locking q id k → q.draws ≤ 31
  /-- The loop ends with a registration, if only its thread goes on. -/
  registers : ∀ i, (s.manager.calls (.op i)).IsSearching →
    ∃ es s', (∀ e ∈ es, e = .manager (.draw (.op i)) ∨ e = .manager (.lockSlot (.op i))) ∧
      (modbusClient limit config).run s es = some s' ∧ (s'.manager.calls (.op i)).IsRegistered
  accepted : ∀ t id, s.manager.calls t ≠ .refused id
  /-- No call returns a conflict, not even as the last error of its retries. -/
  results : ∀ op ∈ s.operations, ∀ error, op.error = some error → error.isConflict = false
  rtu : ∀ original, config = forRtu original → s.manager.occupied.card ≤ 1

theorem seeks_of_wired (hs : (modbusClient limit config).Reachable s) (t : Thread) :
    Seeks s.manager (s.manager.calls t) := by
  cases t with
  | op i => exact seeks_of_reachable hs i
  | reader | coordinator | abort =>
    exact Seeks.of_foreign ((Wired.of_reachable hs).foreign (by simp)).reader

theorem slotsSuffice (hs : (modbusClient limit config).Reachable s) :
    SlotsSuffice limit config s := by
  have hw := Wired.of_reachable hs
  have hc := Correlated.of_reachable (embeds_manager.reachable hs)
  have hb := Lifecycle.Balanced.of_reachable (embeds_lifecycle.reachable hs)
  have hoccupied : s.manager.occupied.card ≤ s.lifecycle.active :=
    card_occupied_add_le hw hc hb.active ∅ (by simp)
  have hseeks := seeks_of_wired hs
  constructor
  case occupied_le => exact ⟨hb.active ▸ hoccupied, hb.active⟩
  case holder => exact fun t ht => hw.holder_of_searching ht
  case free => exact fun t ht => (hseeks t).exists_free ht
  case drawing =>
    intro t q hcall
    have h := hseeks t
    rw [hcall] at h
    obtain ⟨j, hj⟩ := h
    have := hj.draws_lt
    exact ⟨by omega, hj.seenCount_lt⟩
  case locking =>
    intro t q id k hcall
    have h := hseeks t
    rw [hcall] at h
    obtain ⟨hk, -, j, hj⟩ := h
    have := hj.draws_lt
    omega
  case registers => exact fun i hi => exists_registered hs hi
  case accepted =>
    intro t id hcall
    have h := hseeks t
    rw [hcall] at h
    exact h
  case results =>
    exact fun op hop error herror => ((Untroubled.of_reachable hs).operations op hop).error herror
  case rtu =>
    rintro original rfl
    exact Nat.le_trans hoccupied hb.active_le

/-- A request up to its first id. -/
def firstDraw (request : Request) : List Event :=
  [.request request, .operate 0 .load, .lifecycle (.check 0), .lifecycle (.acquire 0),
    .lifecycle (.enter 0), .operate 0 .admission, .operate 0 .now, .operate 0 .isCancelled,
    .operate 0 .now, .operate 0 .now, .operate 0 .load, .operate 0 (.pollLock true),
    .manager (.draw (.op 0))]

theorem slotsSuffice_firstDraw :
    let config : ClientConfig :=
      { timeout := 5, maxInFlight := 20, retryDelay := 3, shutdownTimeout := 9,
        retry := { maxRetries := 1, retryableExceptions := [] } }
    let request : Request :=
      { expected := { unitId := 1, functionCode := .readCoils },
        pdu := [1, 0, 0, 0, 3], kind := .replaySafe, validate := fun _ => .ok () }
    ∃ s, (modbusClient 100 config).run (.new config) (firstDraw request) = some s ∧
      s.sink = some 0 ∧ SlotsSuffice 100 config s := by
  intro config request
  have hrun : ((modbusClient 100 config).run (.new config) (firstDraw request)).map
      (fun s => s.sink) = some (some 0) := by decide +kernel
  obtain ⟨s, hs, hsink⟩ := Option.map_eq_some_iff.mp hrun
  exact ⟨s, hs, hsink, slotsSuffice (Machine.Reachable.init.run hs)⟩

end ModbusClient

end RustyModbus.Client.Concurrent
