import RustyModbus.Lib.Machine
import RustyModbus.Lib.Tasks

/-!
# Shutting the server down

The lifecycle that a server, its connections and all callers of `stop` share. Three parties work
on it: callers of `stop`, which seal the lifecycle, see to it that there is a coordinator, and wait
for the outcome; the coordinator, which waits for the supervisor and publishes how it ended; and
connections, which ask before each request whether they may go on. Every access to the state is
under one lock, so each is one step here; a party can be held up between any two of its steps.

However many callers there are, the supervisor is handed out once and there is one outcome, so
all of them return the same (`Lifecycle.Valid`).
-/

namespace RustyModbus.Server

/-- A reading of the clock. -/
abbrev Instant := Nat

inductive ShutdownOutcome
  | drained
  | forced
deriving DecidableEq, Repr

inductive Phase
  | running
  | draining
  | closed
deriving DecidableEq, Repr

/-- What the lifecycle's lock protects. -/
structure State where
  phase : Phase
  deadline : Option Instant
  outcome : Option ShutdownOutcome
  coordinatorStarted : Bool
deriving DecidableEq, Repr

/-- The locked part of `seal`: the first caller's deadline stands, and every caller goes on to
announce it. -/
def State.seal (s : State) (deadline : Instant) : State × Option Instant :=
  if s.phase = .running then
    ({ s with phase := .draining, deadline := some deadline }, some deadline)
  else (s, s.deadline)

/-- The locked part of `ensure_coordinator`: whether this caller has to start it. -/
def State.ensureCoordinator (s : State) : State × Bool :=
  if s.phase = .closed ∨ s.coordinatorStarted then (s, false)
  else ({ s with coordinatorStarted := true }, true)

/-- How far the supervisor is: it accepts connections, waits for them to end, aborts what is left
at the deadline. -/
inductive Supervisor
  | accepting
  | draining
  | aborting
  | returned (outcome : ShutdownOutcome)
  | failed
deriving DecidableEq, Repr

/-- What `supervisor.await` gives: a supervisor that failed counts as forced. -/
def Supervisor.outcome : Supervisor → Option ShutdownOutcome
  | .returned outcome => some outcome
  | .failed => some .forced
  | _ => none

inductive Coordinator
  | absent
  | awaiting
  | published (outcome : ShutdownOutcome)
  | finished (outcome : ShutdownOutcome)
deriving DecidableEq, Repr

def Coordinator.outcome : Coordinator → Option ShutdownOutcome
  | .published outcome | .finished outcome => some outcome
  | _ => none

/-- How far a call of `stop` is. -/
inductive Stopping
  | called
  | announcing (deadline : Instant)
  | announced
  | starting
  | waiting
  | returned (outcome : ShutdownOutcome)
  | panicked
deriving DecidableEq, Repr

/-- What is known of the state when a call of `stop` has come that far. -/
def Stopping.Agrees (state : State) : Stopping → Prop
  | .called => True
  | .announcing _ | .announced | .starting | .waiting => state.phase ≠ .running
  | .returned outcome => state.outcome = some outcome
  | .panicked => False

/-- The state moves only forward: a sealed state stays sealed, an outcome stands. -/
structure State.Advances (s s' : State) : Prop where
  phase : s.phase ≠ .running → s'.phase ≠ .running
  outcome : ∀ outcome, s.outcome = some outcome → s'.outcome = some outcome

theorem State.Advances.refl (s : State) : s.Advances s := ⟨id, fun _ => id⟩

theorem State.advances_seal (s : State) (deadline : Instant) : s.Advances (s.seal deadline).1 := by
  rw [State.seal]
  split
  · exact ⟨fun _ => by simp, fun _ => id⟩
  · exact .refl s

theorem State.advances_ensureCoordinator (s : State) : s.Advances s.ensureCoordinator.1 := by
  rw [State.ensureCoordinator]
  split
  · exact .refl s
  · exact ⟨id, fun _ => id⟩

theorem Stopping.Agrees.mono {s s' : State} (h : s.Advances s') {caller : Stopping}
    (hcaller : caller.Agrees s) : caller.Agrees s' := by
  cases caller with
  | called => trivial
  | announcing | announced | starting | waiting => exact h.phase hcaller
  | returned outcome => exact h.outcome outcome hcaller
  | panicked => exact hcaller

def Stopping.isStarting (c : Stopping) : Bool := c = .starting

structure Lifecycle where
  state : State
  /-- The values of the two watch channels. -/
  shutdownTx : Option Instant
  completionTx : Option ShutdownOutcome
  activeRequests : Nat
  supervisor : Supervisor
  /-- The supervisor's handle has been taken. -/
  supervisorTaken : Bool
  coordinator : Coordinator
  callers : List Stopping
deriving DecidableEq, Repr

namespace Lifecycle

def new : Lifecycle where
  state := { phase := .running, deadline := none, outcome := none, coordinatorStarted := false }
  shutdownTx := none
  completionTx := none
  activeRequests := 0
  supervisor := .accepting
  supervisorTaken := false
  coordinator := .absent
  callers := []

def shutdownDeadline (l : Lifecycle) : Option Instant := l.state.deadline

/-- `admit_request`, with the count that the guard stands for. -/
def admitRequest (l : Lifecycle) : Option Lifecycle :=
  if l.state.phase = .running then some { l with activeRequests := l.activeRequests + 1 } else none

/-- A request guard is dropped. -/
def dropGuard (l : Lifecycle) : Lifecycle := { l with activeRequests := l.activeRequests - 1 }

/-- The next step of a call of `stop`; `deadline` is what the clock and the configured time give
when the state is locked. -/
def stopStep (l : Lifecycle) (deadline : Instant) : Stopping → Option (Lifecycle × Stopping)
  | .called =>
    let (state, announced) := l.state.seal deadline
    match announced with
    | some deadline => some ({ l with state }, .announcing deadline)
    | none => some (l, .panicked)
  | .announcing deadline => some ({ l with shutdownTx := some deadline }, .announced)
  | .announced =>
    let (state, shouldStart) := l.state.ensureCoordinator
    some ({ l with state }, if shouldStart then .starting else .waiting)
  | .starting =>
    if l.supervisorTaken then some (l, .panicked)
    else some ({ l with supervisorTaken := true, coordinator := .awaiting }, .waiting)
  | .waiting => l.state.outcome.map fun outcome => (l, .returned outcome)
  | .returned _ | .panicked => none

def coordinatorStep (l : Lifecycle) : Option Lifecycle :=
  match l.coordinator with
  | .absent | .finished _ => none
  | .awaiting => l.supervisor.outcome.map fun outcome =>
    { l with
      state := { l.state with phase := .closed, outcome := some outcome }
      coordinator := .published outcome }
  | .published outcome =>
    some { l with completionTx := some outcome, coordinator := .finished outcome }

inductive Event
  /-- Somebody calls `stop`. -/
  | stop
  | caller (j : Nat) (deadline : Instant)
  | coordinator
  | supervisor (next : Supervisor)
  | admitRequest
  | dropGuard
deriving DecidableEq, Repr

def step (l : Lifecycle) : Event → Option Lifecycle
  | .stop => some { l with callers := l.callers ++ [.called] }
  | .caller j deadline => do
    let caller ← l.callers[j]?
    let (l, caller) ← l.stopStep deadline caller
    return { l with callers := l.callers.set j caller }
  | .coordinator => l.coordinatorStep
  | .supervisor next =>
    if l.supervisor.outcome = none then some { l with supervisor := next } else none
  | .admitRequest => l.admitRequest
  | .dropGuard => some l.dropGuard

def machine : Machine Lifecycle Event where
  init := new
  step := step

/-! ## What always holds -/

structure Valid (l : Lifecycle) : Prop where
  deadline : l.state.deadline.isSome ↔ l.state.phase ≠ .running
  /-- Only a deadline that stands is announced. -/
  announced : l.shutdownTx.isSome → l.state.phase ≠ .running
  started : l.state.coordinatorStarted → l.state.phase ≠ .running
  taken : l.supervisorTaken ↔ l.coordinator ≠ .absent
  /-- There is an outcome when the coordinator has found one. -/
  outcome : l.state.outcome = l.coordinator.outcome
  /-- Whoever started the coordinator still has to take the supervisor's handle, or has taken it:
  one of the two, and not twice. -/
  handle : l.callers.countP Stopping.isStarting + l.supervisorTaken.toNat
    = l.state.coordinatorStarted.toNat
  callers : ∀ caller ∈ l.callers, caller.Agrees l.state

variable {l l' : Lifecycle}

theorem valid_new : Valid new where
  deadline := by decide
  announced := by decide
  started := by decide
  taken := by decide
  outcome := rfl
  handle := rfl
  callers := List.forall_mem_nil _

/-- A call of `stop` takes the state forward and does not touch the count. -/
theorem stopStep_advances {deadline : Instant} {caller caller' : Stopping}
    (he : l.stopStep deadline caller = some (l', caller')) :
    l.state.Advances l'.state ∧ l'.activeRequests = l.activeRequests := by
  cases caller with
  | called =>
    have hseal := l.state.advances_seal deadline
    rw [Lifecycle.stopStep] at he
    cases hs : l.state.seal deadline with
    | mk state announced =>
      rw [hs] at he hseal
      cases announced with
      | some d =>
        cases he
        exact ⟨hseal, rfl⟩
      | none =>
        cases he
        exact ⟨.refl _, rfl⟩
  | announcing d =>
    cases he
    exact ⟨.refl _, rfl⟩
  | announced =>
    cases he
    exact ⟨l.state.advances_ensureCoordinator, rfl⟩
  | starting =>
    rw [Lifecycle.stopStep] at he
    split at he <;> cases he <;> exact ⟨.refl _, rfl⟩
  | waiting =>
    obtain ⟨outcome, -, hl⟩ := Option.map_eq_some_iff.mp he
    cases hl
    exact ⟨.refl _, rfl⟩
  | returned | panicked => cases he

theorem coordinatorStep_activeRequests (he : l.coordinatorStep = some l') :
    l'.activeRequests = l.activeRequests := by
  rw [Lifecycle.coordinatorStep] at he
  split at he
  · cases he
  · cases he
  · obtain ⟨outcome, -, hl⟩ := Option.map_eq_some_iff.mp he
    cases hl
    rfl
  · cases he
    rfl

theorem Valid.coordinatorStep_advances (h : Valid l) (he : l.coordinatorStep = some l') :
    l.state.Advances l'.state := by
  have houtcome := h.outcome
  rw [Lifecycle.coordinatorStep] at he
  cases hc : l.coordinator with
  | absent | finished =>
    rw [hc] at he
    cases he
  | awaiting =>
    rw [hc] at he houtcome
    obtain ⟨outcome, -, hl⟩ := Option.map_eq_some_iff.mp he
    cases hl
    exact ⟨fun _ => by simp, fun o ho => by rw [houtcome] at ho; cases ho⟩
  | published outcome =>
    rw [hc] at he
    cases he
    exact .refl _

/-- One step of one call of `stop`. -/
theorem Valid.stopStep (h : Valid l) {j : Nat} {deadline : Instant} {caller caller' : Stopping}
    (hj : l.callers[j]? = some caller) (he : l.stopStep deadline caller = some (l', caller')) :
    Valid { l' with callers := l'.callers.set j caller' } := by
  have hknown := h.callers caller (List.mem_of_getElem? hj)
  have hcount := fun c => Tasks.countP_set (b := c) Stopping.isStarting hj
  have hhandle : ∀ c : Stopping, c.isStarting = caller.isStarting →
      (l.callers.set j c).countP Stopping.isStarting + l.supervisorTaken.toNat
        = l.state.coordinatorStarted.toNat := fun c hc => by
    rw [Tasks.countP_set_of_eq hj hc]
    exact h.handle
  have hset : ∀ c : Stopping, c.Agrees l'.state →
      ∀ x ∈ l.callers.set j c, x.Agrees l'.state := fun c hc =>
    Tasks.forall_mem_set h.callers (fun _ => Stopping.Agrees.mono (stopStep_advances he).1) hc
  cases caller with
  | called =>
    by_cases hrun : l.state.phase = .running
    · rw [Lifecycle.stopStep, State.seal, if_pos hrun] at he
      cases he
      have hnext : Phase.draining ≠ .running := by decide
      exact { h with
        deadline := ⟨fun _ => hnext, fun _ => rfl⟩
        announced := fun _ => hnext
        started := fun _ => hnext
        handle := hhandle _ rfl
        callers := hset _ hnext }
    · obtain ⟨d, hd⟩ := Option.isSome_iff_exists.mp (h.deadline.mpr hrun)
      rw [Lifecycle.stopStep, State.seal, if_neg hrun, hd] at he
      cases he
      exact { h with handle := hhandle _ rfl, callers := hset _ hrun }
  | announcing d =>
    cases he
    exact { h with
      announced := fun _ => hknown
      handle := hhandle _ rfl
      callers := hset _ hknown }
  | announced =>
    by_cases hstart : l.state.phase = .closed ∨ l.state.coordinatorStarted
    · rw [Lifecycle.stopStep, State.ensureCoordinator, if_pos hstart] at he
      cases he
      exact { h with handle := hhandle _ rfl, callers := hset _ hknown }
    · rw [Lifecycle.stopStep, State.ensureCoordinator, if_neg hstart] at he
      cases he
      have hno : l.state.coordinatorStarted = false := by simpa using (not_or.mp hstart).2
      have hone : (l.callers.set j .starting).countP Stopping.isStarting
          = l.callers.countP Stopping.isStarting + 1 := hcount .starting
      exact { h with
        started := fun _ => hknown
        handle := by
          have := h.handle
          rw [hno] at this
          show (l.callers.set j .starting).countP Stopping.isStarting + _ = 1
          rw [hone, Nat.add_right_comm, this]
          rfl
        callers := hset _ hknown }
  | starting =>
    have hone : (l.callers.set j .waiting).countP Stopping.isStarting + 1
        = l.callers.countP Stopping.isStarting := hcount .waiting
    have hle : l.state.coordinatorStarted.toNat ≤ 1 := Bool.toNat_le _
    -- the caller that starts the coordinator is the one the handle is kept for
    have hfree : l.supervisorTaken = false := by
      have := h.handle
      cases htaken : l.supervisorTaken with
      | false => rfl
      | true =>
        rw [htaken] at this
        simp only [Bool.toNat_true] at this
        omega
    have habsent : l.coordinator = .absent :=
      Decidable.not_not.mp fun hne => Bool.false_ne_true (hfree.symm.trans (h.taken.mpr hne))
    rw [Lifecycle.stopStep, hfree] at he
    cases he
    exact { h with
      taken := ⟨fun _ => by simp, fun _ => rfl⟩
      outcome := by rw [h.outcome, habsent]; rfl
      handle := by
        have := h.handle
        rw [hfree] at this
        exact hone.trans this
      callers := hset _ hknown }
  | waiting =>
    obtain ⟨outcome, houtcome, hl⟩ := Option.map_eq_some_iff.mp he
    cases hl
    exact { h with handle := hhandle _ rfl, callers := hset _ houtcome }
  | returned | panicked => cases he

theorem Valid.coordinatorStep (h : Valid l) (he : l.coordinatorStep = some l') : Valid l' := by
  have hadvances := h.coordinatorStep_advances he
  have houtcome := h.outcome
  have htaken := h.taken
  rw [Lifecycle.coordinatorStep] at he
  cases hc : l.coordinator with
  | absent | finished =>
    rw [hc] at he
    cases he
  | awaiting =>
    rw [hc] at he houtcome htaken
    obtain ⟨outcome, -, hl⟩ := Option.map_eq_some_iff.mp he
    cases hl
    have hclosed : Phase.closed ≠ .running := by decide
    -- the handle was taken after the coordinator was started, and that after the seal
    have hsealed : l.state.deadline.isSome := by
      refine h.deadline.mpr (h.started ?_)
      have := h.handle
      rw [htaken.mpr (by decide)] at this
      cases hs : l.state.coordinatorStarted with
      | true => rfl
      | false => rw [hs] at this; cases this
    exact { h with
      deadline := ⟨fun _ => hclosed, fun _ => hsealed⟩
      announced := fun _ => hclosed
      started := fun _ => hclosed
      taken := ⟨fun _ => by simp, fun _ => htaken.mpr (by decide)⟩
      outcome := rfl
      callers := fun c hmem => (h.callers c hmem).mono hadvances }
  | published outcome =>
    rw [hc] at he houtcome htaken
    cases he
    exact { h with
      taken := ⟨fun _ => by simp, fun _ => htaken.mpr (by simp)⟩
      outcome := houtcome }

theorem Valid.step (h : Valid l) {e : Event} (he : l.step e = some l') : Valid l' := by
  cases e with
  | stop =>
    cases he
    exact { h with
      handle := by
        rw [List.countP_append]
        exact h.handle
      callers := Tasks.forall_mem_concat h.callers (fun _ => id) trivial }
  | caller j deadline =>
    obtain ⟨caller, hj, he⟩ := Option.bind_eq_some_iff.mp he
    obtain ⟨⟨l₁, caller'⟩, hstep, he⟩ := Option.bind_eq_some_iff.mp he
    cases he
    exact h.stopStep hj hstep
  | coordinator => exact h.coordinatorStep he
  | supervisor next | admitRequest =>
    obtain ⟨-, hl⟩ := Option.ite_none_right_eq_some.mp he
    cases hl
    exact { h with }
  | dropGuard =>
    cases he
    exact { h with }

theorem valid_of_reachable (hl : machine.Reachable l) : Valid l :=
  hl.invariant valid_new fun _ h he => h.step he

/-- All callers of `stop` that have returned have returned the same. -/
theorem Valid.returned_eq (h : Valid l) {o o' : ShutdownOutcome}
    (ho : .returned o ∈ l.callers) (ho' : .returned o' ∈ l.callers) : o = o' := by
  have hstate : l.state.outcome = some o := h.callers _ ho
  have hstate' : l.state.outcome = some o' := h.callers _ ho'
  exact Option.some.inj (hstate.symm.trans hstate')

/-- Every step takes the state forward. -/
theorem Valid.advances (h : Valid l) {e : Event} (he : l.step e = some l') :
    l.state.Advances l'.state := by
  cases e with
  | stop | dropGuard =>
    cases he
    exact .refl _
  | caller j deadline =>
    obtain ⟨caller, -, he⟩ := Option.bind_eq_some_iff.mp he
    obtain ⟨⟨l₁, caller'⟩, hstep, he⟩ := Option.bind_eq_some_iff.mp he
    cases he
    have hadvances := (stopStep_advances hstep).1
    exact hadvances
  | coordinator => exact h.coordinatorStep_advances he
  | supervisor next | admitRequest =>
    obtain ⟨-, hl⟩ := Option.ite_none_right_eq_some.mp he
    cases hl
    exact .refl _

/-- Only connections touch the count of requests. -/
theorem activeRequests_step {e : Event} (hadmitted : e ≠ .admitRequest) (hdrop : e ≠ .dropGuard)
    (he : l.step e = some l') : l'.activeRequests = l.activeRequests := by
  cases e with
  | stop =>
    cases he
    rfl
  | caller j deadline =>
    obtain ⟨caller, -, he⟩ := Option.bind_eq_some_iff.mp he
    obtain ⟨⟨l₁, caller'⟩, hstep, he⟩ := Option.bind_eq_some_iff.mp he
    cases he
    have hactive := (stopStep_advances hstep).2
    exact hactive
  | coordinator => exact coordinatorStep_activeRequests he
  | supervisor next =>
    obtain ⟨-, hl⟩ := Option.ite_none_right_eq_some.mp he
    cases hl
    rfl
  | admitRequest => exact absurd rfl hadmitted
  | dropGuard => exact absurd rfl hdrop

end Lifecycle

end RustyModbus.Server
