import RustyModbus.Client.Lifecycle

/-!
# What the lifecycle guarantees

Two groups of facts hold in every interleaving. The first is the balance of the guards: `active`
counts the live guards and what is left of the semaphore is what no admission holds, so no more
than the capacity can be live. The second follows the coordinator: there is at most one, since
`coordinator_started` is set in the section that decides to spawn it, and it is the only one to
take the handles of the two tasks, so where it closes the client it has joined both.
-/

namespace RustyModbus.Client.Concurrent

/-- The ways a client's phase moves. There is none back. -/
inductive Phase.Moves : Phase → Phase → Prop
  | drain : Moves .running .draining
  | cancelRunning : Moves .running .cancelling
  | cancelDraining : Moves .draining .cancelling
  | closeDraining : Moves .draining .closed
  | closeCancelling : Moves .cancelling .closed

theorem Phase.moves_cancelling {p : Phase} (h : p ≠ .closed) :
    Phase.cancelling = p ∨ p.Moves .cancelling := by
  cases p with
  | running => exact Or.inr .cancelRunning
  | draining => exact Or.inr .cancelDraining
  | cancelling => exact Or.inl rfl
  | closed => exact absurd rfl h

theorem Phase.moves_closed {p : Phase} (h : p ≠ .running) : Phase.closed = p ∨ p.Moves .closed := by
  cases p with
  | running => exact absurd rfl h
  | draining => exact Or.inr .closeDraining
  | cancelling => exact Or.inr .closeCancelling
  | closed => exact Or.inl rfl

theorem Phase.Moves.source {p q : Phase} (h : p.Moves q) : p ≠ .closed := by
  cases h <;> nofun

theorem Phase.Moves.target {p q : Phase} (h : p.Moves q) : q ≠ .running := by
  cases h <;> nofun

/-- The calls whose `seal` is behind them. -/
def ShutdownCall.isSealed : ShutdownCall → Bool
  | .sealing _ | .cancelled => false
  | _ => true

def ShutdownCall.isSpawning : ShutdownCall → Bool
  | .spawning => true
  | _ => false

/-- The moves of an admission, by the step that makes them. -/
inductive Admission.Moves : Lifecycle.Event → Admission → Admission → Prop
  | check {i} : Moves (.check i) .entered .checked
  | refuse {i} : Moves (.check i) .entered (.ended (some .notConnected))
  | acquire {i} : Moves (.acquire i) .checked .permitted
  | fail {i} : Moves (.acquire i) .checked (.ended (some .shuttingDown))
  | enter {i} : Moves (.enter i) .permitted .admitted
  | turnBack {i} : Moves (.enter i) .permitted (.returning (some .shuttingDown))
  | abandon {i} : Moves (.abandon i) .checked (.ended none)
  | abandonPermit {i} : Moves (.abandon i) .permitted (.returning none)
  | release {i becameIdle} : Moves (.release i) .admitted (.released becameIdle)
  | notifyIdle {i becameIdle} : Moves (.notifyIdle i) (.released becameIdle) (.returning none)
  | returnPermit {i error} : Moves (.returnPermit i) (.returning error) (.ended error)

namespace Lifecycle

def Event.admission : Event → Option Nat
  | .check i | .acquire i | .enter i | .abandon i | .release i | .notifyIdle i | .returnPermit i =>
    some i
  | _ => none

def liveGuards (s : Lifecycle) : Nat := s.admissions.countP Admission.isLive

/-! ## What a step can do -/

/-- The admissions, the count and the semaphore are left alone. -/
structure SameGuards (s s' : Lifecycle) : Prop where
  admissions : s'.admissions = s.admissions
  active : s'.active = s.active
  permits : s'.permits = s.permits

/-- Nothing the coordinator's progress is recorded in changes, and the phase moves nowhere the
coordinator alone may bring it. -/
structure Keeps (s s' : Lifecycle) : Prop where
  reader : s'.reader.handle = s.reader.handle ∧ s'.reader.joined = s.reader.joined
  deadline : s'.deadline.handle = s.deadline.handle ∧ s'.deadline.joined = s.deadline.joined
  completion : s'.completion = s.completion
  phase : s'.phase = s.phase ∨ s.phase.Moves s'.phase

variable {s s' : Lifecycle}

theorem Keeps.same (hreader : s'.reader = s.reader) (hdeadline : s'.deadline = s.deadline)
    (hcompletion : s'.completion = s.completion) (hphase : s'.phase = s.phase) : Keeps s s' :=
  ⟨by rw [hreader]; exact ⟨rfl, rfl⟩, by rw [hdeadline]; exact ⟨rfl, rfl⟩, hcompletion,
    Or.inl hphase⟩

/-- What is behind the coordinator at a place of its program. -/
def Passed (s : Lifecycle) : CoordinatorPc → Prop
  | .started | .draining _ _ | .aborting _ | .drained | .stopping _ | .abortingTasks _ | .taking =>
    s.reader.handle = true ∧ s.deadline.handle = true
  | .joiningReader reader deadline => reader = true ∧ deadline = true
  | .readerFailed deadline | .joiningDeadline deadline =>
    deadline = true ∧ s.reader.joined = true
  | .deadlineFailed | .disconnecting | .closing =>
    s.reader.joined = true ∧ s.deadline.joined = true
  | .marking _ | .publishing | .finished =>
    s.reader.joined = true ∧ s.deadline.joined = true ∧ s.phase = .closed
  | .aborted => True

variable {pc : CoordinatorPc}

theorem Keeps.passed (hk : Keeps s s') (h : s.Passed pc) : s'.Passed pc := by
  obtain ⟨⟨hrh, hrj⟩, ⟨hdh, hdj⟩, -, hphase⟩ := hk
  cases pc with
  | started | draining | aborting | drained | stopping | abortingTasks | taking =>
    exact ⟨hrh.trans h.1, hdh.trans h.2⟩
  | joiningReader => exact h
  | readerFailed | joiningDeadline => exact ⟨h.1, hrj.trans h.2⟩
  | deadlineFailed | disconnecting | closing => exact ⟨hrj.trans h.1, hdj.trans h.2⟩
  | marking | publishing | finished =>
    obtain ⟨hr, hd, hc⟩ := h
    refine ⟨hrj.trans hr, hdj.trans hd, ?_⟩
    rcases hphase with heq | hmove
    · exact heq.trans hc
    · exact absurd hc hmove.source
  | aborted => trivial

/-- A step of `abort_inner`, whoever runs it. -/
structure AbortStep (s s' : Lifecycle) : Prop where
  guards : SameGuards s s'
  keeps : Keeps s s'
  shutdowns : s'.shutdowns = s.shutdowns
  coordinators : s'.coordinators = s.coordinators
  started : s'.coordinatorStarted = s.coordinatorStarted

theorem abortInner_step (s : Lifecycle) (pc : AbortPc) : AbortStep s (s.abortInner pc) := by
  cases pc with
  | sealing =>
    refine ⟨⟨rfl, rfl, rfl⟩, ⟨⟨rfl, rfl⟩, ⟨rfl, rfl⟩, rfl, ?_⟩, rfl, rfl, rfl⟩
    by_cases hc : s.phase = .closed
    · exact Or.inl ((if_pos hc).trans hc.symm)
    · have hphase : (s.abortInner .sealing).phase = .cancelling := if_neg hc
      rw [hphase]
      exact Phase.moves_cancelling hc
  | retire | disconnect | cancelAll | cancel | stopTasks | abortTasks | done =>
    exact ⟨⟨rfl, rfl, rfl⟩, ⟨⟨rfl, rfl⟩, ⟨rfl, rfl⟩, rfl, Or.inl rfl⟩, rfl, rfl, rfl⟩

/-- A step of the coordinator `c`. -/
structure CoordinatorStep (s : Lifecycle) (n : Nat) (c : Coordinator) (s' : Lifecycle) : Prop where
  guards : SameGuards s s'
  shutdowns : s'.shutdowns = s.shutdowns
  started : s'.coordinatorStarted = s.coordinatorStarted
  phase : s'.phase = s.phase ∨ s.phase.Moves s'.phase ∨ s'.phase = .closed
  finished : s.Passed .finished → s'.Passed .finished
  completion : s'.completion = s.completion ∨ (s.Passed c.pc → s'.Passed .finished)
  coordinators : ∃ c', s'.coordinators = s.coordinators.set n c' ∧ (s.Passed c.pc → s'.Passed c'.pc)

variable {c : Coordinator}

/-- The coordinator goes on and nothing it has to pass changes. -/
theorem CoordinatorStep.quiet {n : Nat} (hguards : SameGuards s s') (hkeeps : Keeps s s')
    (hshut : s'.shutdowns = s.shutdowns) (hstarted : s'.coordinatorStarted = s.coordinatorStarted)
    (hcoord : s'.coordinators = s.coordinators.set n { c with pc })
    (hpassed : s'.Passed c.pc → s'.Passed pc) : CoordinatorStep s n c s' :=
  ⟨hguards, hshut, hstarted, hkeeps.phase.imp_right Or.inl, hkeeps.passed,
    Or.inl hkeeps.completion, _, hcoord, fun h => hpassed (hkeeps.passed h)⟩

theorem CoordinatorStep.goto (s : Lifecycle) (n : Nat) (hpassed : s.Passed c.pc → s.Passed pc) :
    CoordinatorStep s n c (s.goto n c pc) :=
  .quiet ⟨rfl, rfl, rfl⟩ (.same rfl rfl rfl rfl) rfl rfl rfl hpassed

theorem drain_step (s : Lifecycle) (n : Nat) (now deadline : Instant) (pc : DrainPc)
    (hc : c.pc = .draining deadline pc) :
    CoordinatorStep s n c (s.drain n c now deadline pc) := by
  have hpassed {s' : Lifecycle} (h : s'.Passed c.pc) :
      s'.reader.handle = true ∧ s'.deadline.handle = true := by rwa [hc] at h
  cases pc <;> simp only [drain] <;> split <;>
    exact .quiet ⟨rfl, rfl, rfl⟩ (.same rfl rfl rfl rfl) rfl rfl rfl hpassed

theorem coordinate_step {n : Nat} {now : Instant} {pendingEmpty : Bool}
    (h : s.coordinate n c now pendingEmpty = some s') :
    CoordinatorStep s n c s' := by
  obtain ⟨pc, abortRequested⟩ := c
  cases pc with
  | started =>
    simp only [coordinate] at h
    split at h <;> cases h
    · exact .goto s n fun h => by split <;> exact h
    · exact .goto s n fun h => h
  | draining => cases h; exact drain_step s n now _ _ rfl
  | aborting pc =>
    have hstep := abortInner_step s pc
    have habort (pc' : CoordinatorPc) (hpc' : ∀ {s'}, Passed s' (.aborting pc) → Passed s' pc') :
        CoordinatorStep s n ⟨.aborting pc, abortRequested⟩
          ((s.abortInner pc).goto n ⟨.aborting pc, abortRequested⟩ pc') :=
      .quiet { hstep.guards with } { hstep.keeps with } hstep.shutdowns hstep.started
        (by rw [← hstep.coordinators]; rfl) hpc'
    cases pc <;> cases h <;> exact habort _ fun h => h
  | drained | stopping | abortingTasks | disconnecting =>
    cases h
    exact .quiet ⟨rfl, rfl, rfl⟩ ⟨⟨rfl, rfl⟩, ⟨rfl, rfl⟩, rfl, Or.inl rfl⟩ rfl rfl rfl fun h => h
  | readerFailed | deadlineFailed | marking => cases h; exact .goto s n fun h => h
  | taking =>
    cases h
    exact ⟨⟨rfl, rfl, rfl⟩, rfl, rfl, Or.inl rfl, fun h => h, Or.inl rfl, _, rfl, fun h => h⟩
  | joiningReader reader deadline =>
    cases reader with
    | false => cases h; exact .goto s n fun h => nomatch h.1
    | true =>
      simp only [coordinate, joinReader] at h
      split at h <;> cases h
      exact ⟨⟨rfl, rfl, rfl⟩, rfl, rfl, Or.inl rfl, fun h => ⟨rfl, h.2⟩, Or.inl rfl, _, rfl,
        fun h => by split <;> exact ⟨h.2, rfl⟩⟩
  | joiningDeadline deadline =>
    cases deadline with
    | false => cases h; exact .goto s n fun h => nomatch h.1
    | true =>
      simp only [coordinate, joinDeadline] at h
      split at h <;> cases h
      exact ⟨⟨rfl, rfl, rfl⟩, rfl, rfl, Or.inl rfl, fun h => ⟨h.1, rfl, h.2.2⟩, Or.inl rfl, _,
        rfl, fun h => by split <;> exact ⟨h.2, rfl⟩⟩
  | closing =>
    cases h
    exact ⟨⟨rfl, rfl, rfl⟩, rfl, rfl, Or.inr (Or.inr rfl), fun h => ⟨h.1, h.2.1, rfl⟩, Or.inl rfl,
      _, rfl, fun h => ⟨h.1, h.2, rfl⟩⟩
  | publishing =>
    cases h
    exact ⟨⟨rfl, rfl, rfl⟩, rfl, rfl, Or.inl rfl, fun h => h, Or.inr fun h => h, _, rfl,
      fun h => h⟩
  | finished | aborted => cases h

/-- Any step, by what it moves. -/
inductive Transition (s : Lifecycle) : Event → Lifecycle → Prop
  | admitCall : Transition s .admitCall { s with admissions := s.admissions ++ [.entered] }
  /-- One admission moves, and takes what it counts for with it. -/
  | admission {e i active permits a b activeChanged} (he : e.admission = some i)
    (ha : s.admissions[i]? = some a) (hmoves : Admission.Moves e a b)
    (hactive : active = s.active + b.isLive.toNat - a.isLive.toNat)
    (hpermits : permits + b.holdsPermit.toNat = s.permits + a.holdsPermit.toNat)
    (hlive : b.isLive = true → s.phase = .running) :
    Transition s e { s with admissions := s.admissions.set i b, active, permits, activeChanged }
  | shutdown (deadline : Instant) :
    Transition s (.shutdown deadline) { s with shutdowns := s.shutdowns ++ [.sealing deadline] }
  | beginDrain {k deadline} (hcall : s.shutdowns[k]? = some (.sealing deadline))
    (hrun : s.phase = .running) : Transition s (.shutdownStep k) { s.setShutdown k .ensuring with
      phase := .draining, drainDeadline := some deadline, semaphoreClosed := true }
  | ensure {k} (hcall : s.shutdowns[k]? = some .ensuring)
    (hstarted : s.coordinatorStarted = false) :
    Transition s (.shutdownStep k) { s.setShutdown k .spawning with coordinatorStarted := true }
  | spawn {k} (hcall : s.shutdowns[k]? = some .spawning) : Transition s (.shutdownStep k)
    { s.setShutdown k (.recording s.coordinators.length) with
      coordinators := s.coordinators ++ [{ pc := .started, abortRequested := false }] }
  /-- A `shutdown` call goes on in some other way, or is dropped. -/
  | proceed {e k call call' coordinatorAbort} (he : e.admission = none)
    (hcall : s.shutdowns[k]? = some call)
    (hsealed : s.phase = .running → call.isSealed = false → call'.isSealed = false)
    (hspawn : call'.isSpawning = call.isSpawning) :
    Transition s e { s.setShutdown k call' with coordinatorAbort }
  | abort {e aborts} (he : e.admission = none) (pc : AbortPc) :
    Transition s e { s.abortInner pc with aborts }
  /-- A request to stop the coordinator, which does not move it. -/
  | abortCoordinator {k coordinators aborts}
    (hpcs : coordinators.map Coordinator.pc = s.coordinators.map Coordinator.pc) :
    Transition s (.abortStep k) { s with coordinators, aborts }
  | coordinate {n now pendingEmpty c s'} (hc : s.coordinators[n]? = some c)
    (hstep : s.coordinate n c now pendingEmpty = some s') :
    Transition s (.coordinate n now pendingEmpty) s'
  | cancelCoordinator {n c} (hc : s.coordinators[n]? = some c) (hawaits : c.pc.awaits = true) :
    Transition s (.cancelCoordinator n)
      { s.goto n c .aborted with activeChanged := s.activeChanged.cancel }
  | endReader {result} (hended : s.reader.ended = none) :
    Transition s (.endTask .reader result)
      { s with reader := { s.reader with ended := some result } }
  | endDeadline {result} :
    Transition s (.endTask .deadline result)
      { s with deadline := { s.deadline with ended := some result } }
  | disconnect : Transition s .disconnect { s with connected := false }

variable {e : Event}

theorem admission_transition {i : Nat} (hi : e.admission = some i) (h : s.step e = some s') :
    Transition s e s' := by
  cases e with
  | check i =>
    obtain ⟨a, ha, hstep⟩ := Option.bind_eq_some_iff.mp h
    cases a <;> cases hstep
    split
    · exact .admission rfl ha .check rfl rfl nofun
    · exact .admission rfl ha .refuse rfl rfl nofun
  | acquire i =>
    obtain ⟨a, ha, hstep⟩ := Option.bind_eq_some_iff.mp h
    cases a with
    | checked =>
      simp only [acquire] at hstep
      split at hstep
      next => cases hstep; exact .admission rfl ha .fail rfl rfl nofun
      next =>
        split at hstep <;> cases hstep
        next hpos =>
          have hpermits := Nat.sub_add_cancel (Nat.pos_of_ne_zero hpos)
          exact .admission rfl ha .acquire rfl hpermits nofun
    | entered | permitted | admitted | released | returning | ended => cases hstep
  | enter i =>
    obtain ⟨a, ha, hstep⟩ := Option.bind_eq_some_iff.mp h
    cases a with
    | permitted =>
      simp only [enter] at hstep
      split at hstep <;> cases hstep
      next hrun => exact .admission rfl ha .enter rfl rfl fun _ => hrun
      next => exact .admission rfl ha .turnBack rfl rfl nofun
    | entered | checked | admitted | released | returning | ended => cases hstep
  | abandon i | release i | notifyIdle i | returnPermit i =>
    obtain ⟨a, ha, hstep⟩ := Option.bind_eq_some_iff.mp h
    cases a <;> cases hstep <;> exact .admission rfl ha (by constructor) rfl rfl nofun
  | _ => cases hi

theorem shutdownStep_transition {k : Nat} {call : ShutdownCall} (hcall : s.shutdowns[k]? = some call)
    (h : s.shutdownStep k call = some s') : Transition s (.shutdownStep k) s' := by
  cases call with
  | sealing deadline =>
    simp only [shutdownStep] at h
    split at h <;> cases h
    next hrun => exact .beginDrain hcall hrun
    next hrun => exact .proceed rfl hcall (fun h => absurd h hrun) rfl
  | ensuring =>
    simp only [shutdownStep] at h
    split at h <;> cases h
    next => exact .proceed rfl hcall (fun _ h => nomatch h) rfl
    next hnot => exact .ensure hcall (by simpa using fun hs => hnot (Or.inr hs))
  | spawning => cases h; exact .spawn hcall
  | recording => cases h; exact .proceed rfl hcall (fun _ h => nomatch h) rfl
  | waiting =>
    simp only [shutdownStep] at h
    split at h <;> cases h
    exact .proceed rfl hcall (fun _ h => nomatch h) rfl
  | returned | cancelled => cases h

theorem abortCoordinator_same (s : Lifecycle) :
    s.abortCoordinator = { s with coordinators := s.abortCoordinator.coordinators } := by
  rw [abortCoordinator]
  split <;> rfl

theorem abortCoordinator_pcs (s : Lifecycle) :
    s.abortCoordinator.coordinators.map Coordinator.pc = s.coordinators.map Coordinator.pc := by
  rw [abortCoordinator]
  split
  next n _ =>
    refine List.ext_getElem? fun j => ?_
    rw [List.getElem?_map, List.getElem?_map, List.getElem?_modify]
    cases s.coordinators[j]? with
    | none => rfl
    | some c => by_cases hj : n = j <;> simp [hj]
  next => rfl

theorem abortStep_transition {k : Nat} {call : AbortCall} (h : s.abortStep k call = some s') :
    Transition s (.abortStep k) s' := by
  cases call with
  | returned => cases h
  | running finalOwner pc =>
    cases pc with
    | done =>
      cases h
      cases finalOwner with
      | false => exact .abort rfl .done
      | true =>
        rw [if_pos rfl, abortCoordinator_same]
        exact .abortCoordinator (abortCoordinator_pcs s)
    | retire | sealing | disconnect | cancelAll | cancel | stopTasks | abortTasks =>
      cases h
      exact .abort rfl _

theorem endTask_eq_some {t t' : Task} {result : TaskEnd} (h : endTask t result = some t') :
    t.ended = none ∧ t' = { t with ended := some result } := by
  rw [endTask] at h
  split at h <;> cases h
  next hnot => exact ⟨Option.not_isSome_iff_eq_none.mp fun hsome => hnot (Or.inl hsome), rfl⟩

theorem transition_of_step (h : s.step e = some s') : Transition s e s' := by
  cases e with
  | admitCall => cases h; exact .admitCall
  | check | acquire | enter | abandon | release | notifyIdle | returnPermit =>
    exact admission_transition rfl h
  | shutdown deadline => cases h; exact .shutdown deadline
  | shutdownStep k =>
    obtain ⟨call, hcall, hstep⟩ := Option.bind_eq_some_iff.mp h
    exact shutdownStep_transition hcall hstep
  | cancelShutdown k =>
    obtain ⟨call, hcall, hstep⟩ := Option.bind_eq_some_iff.mp h
    cases call <;> cases hstep <;> exact .proceed rfl hcall (fun _ _ => rfl) rfl
  | abort => cases h; exact .abort rfl .retire
  | abortStep k =>
    obtain ⟨call, -, hstep⟩ := Option.bind_eq_some_iff.mp h
    exact abortStep_transition hstep
  | coordinate n =>
    obtain ⟨c, hc, hstep⟩ := Option.bind_eq_some_iff.mp h
    exact .coordinate hc hstep
  | cancelCoordinator n =>
    obtain ⟨c, hc, hstep⟩ := Option.bind_eq_some_iff.mp h
    simp only [cancelCoordinator] at hstep
    split at hstep <;> cases hstep
    next hawaits => exact .cancelCoordinator hc hawaits.2
  | endTask task result =>
    cases task with
    | reader =>
      obtain ⟨t, ht, rfl⟩ := Option.map_eq_some_iff.mp h
      obtain ⟨hended, rfl⟩ := endTask_eq_some ht
      exact .endReader hended
    | deadline =>
      obtain ⟨t, ht, rfl⟩ := Option.map_eq_some_iff.mp h
      obtain ⟨-, rfl⟩ := endTask_eq_some ht
      exact .endDeadline
  | disconnect => cases h; exact .disconnect

/-! ## The balance of the guards -/

structure Balanced (capacity : Nat) (s : Lifecycle) : Prop where
  active : s.active = s.liveGuards
  permits : s.permits + s.admissions.countP Admission.holdsPermit = capacity

namespace Balanced

variable {capacity : Nat} {s s' : Lifecycle}

theorem new (capacity : Nat) : Balanced capacity (.new capacity) := ⟨rfl, rfl⟩

theorem same (h : Balanced capacity s) (hguards : SameGuards s s') : Balanced capacity s' := by
  obtain ⟨hadm, hactive, hpermits⟩ := hguards
  refine ⟨?_, ?_⟩
  · rw [hactive, liveGuards, hadm]; exact h.active
  · rw [hpermits, hadm]; exact h.permits

theorem step (h : Balanced capacity s) {e : Event} (he : s.step e = some s') :
    Balanced capacity s' := by
  cases transition_of_step he with
  | admitCall =>
    refine ⟨?_, ?_⟩
    · rw [liveGuards, List.countP_append]; exact h.active
    · rw [List.countP_append]; exact h.permits
  | @admission _ i active permits a b _ _ ha _ hactive hpermits =>
    have hlive := Log.countP_set (b := b) Admission.isLive ha
    have hhold := Log.countP_set (b := b) Admission.holdsPermit ha
    refine ⟨?_, ?_⟩
    · rw [hactive, liveGuards, h.active, liveGuards]
      dsimp only
      omega
    · have := h.permits
      dsimp only
      omega
  | abort _ pc =>
    have hguards := (abortInner_step s pc).guards
    exact h.same { hguards with }
  | coordinate _ hstep => exact h.same (coordinate_step hstep).guards
  | _ => exact ⟨h.active, h.permits⟩

theorem of_reachable {maxInFlight : Nat} (hs : (lifecycle maxInFlight).Reachable s) :
    Balanced (admissionCapacity maxInFlight) s :=
  hs.invariant (new _) fun _ h he => h.step he

/-- A live guard holds a permit, so there are no more of them than permits. -/
theorem active_le (h : Balanced capacity s) : s.active ≤ capacity := by
  have hle : s.admissions.countP Admission.isLive ≤ s.admissions.countP Admission.holdsPermit :=
    List.countP_mono_left fun a _ ha => by cases a <;> first | rfl | cases ha
  rw [h.active, liveGuards]
  have := h.permits
  omega

theorem active_pos (h : Balanced capacity s) {i : Nat} (ha : s.admissions[i]? = some .admitted) :
    0 < s.active := by
  rw [h.active]
  exact Log.countP_pos Admission.isLive ha rfl

end Balanced

/-! ## The coordinator -/

structure Coordinated (s : Lifecycle) : Prop where
  /-- Whoever could spawn a coordinator has sealed the client before. -/
  running : s.phase = .running →
    s.coordinators = [] ∧ ∀ call ∈ s.shutdowns, call.isSealed = false
  single : s.shutdowns.countP ShutdownCall.isSpawning + s.coordinators.length ≤
    s.coordinatorStarted.toNat
  handles : s.coordinators = [] → s.reader.handle = true ∧ s.deadline.handle = true
  passed : ∀ pc ∈ s.coordinators.map Coordinator.pc, s.Passed pc
  completion : s.completion = true → s.Passed .finished

namespace Coordinated

variable {s s' : Lifecycle}

theorem new (capacity : Nat) : Coordinated (.new capacity) :=
  ⟨fun _ => ⟨rfl, nofun⟩, Nat.le_refl _, fun _ => ⟨rfl, rfl⟩, nofun, nofun⟩

theorem length_le (h : Coordinated s) : s.coordinators.length ≤ 1 := by
  have hle := h.single
  have := Bool.toNat_le s.coordinatorStarted
  omega

theorem keep (h : Coordinated s) (hkeeps : Keeps s s')
    (hcoord : s'.coordinators.map Coordinator.pc = s.coordinators.map Coordinator.pc)
    (hsealed : s'.phase = .running → (∀ call ∈ s.shutdowns, call.isSealed = false) →
      ∀ call ∈ s'.shutdowns, call.isSealed = false)
    (hspawn : s'.shutdowns.countP ShutdownCall.isSpawning + s.coordinatorStarted.toNat ≤
      s.shutdowns.countP ShutdownCall.isSpawning + s'.coordinatorStarted.toNat) :
    Coordinated s' := by
  have hlen : s'.coordinators.length = s.coordinators.length := by
    rw [← List.length_map Coordinator.pc, hcoord, List.length_map]
  have hnil (hc : s'.coordinators = []) : s.coordinators = [] :=
    List.length_eq_zero_iff.mp (hlen ▸ List.length_eq_zero_iff.mpr hc)
  refine ⟨?_, ?_, ?_, ?_, ?_⟩
  · intro hrun
    rcases hkeeps.phase with heq | hmove
    · obtain ⟨hnone, hcalls⟩ := h.running (heq ▸ hrun)
      exact ⟨List.length_eq_zero_iff.mp (hlen.trans (congrArg _ hnone)), hsealed hrun hcalls⟩
    · exact absurd hrun hmove.target
  · have := h.single
    omega
  · intro hc
    obtain ⟨hr, hd⟩ := h.handles (hnil hc)
    exact ⟨hkeeps.reader.1.trans hr, hkeeps.deadline.1.trans hd⟩
  · rw [hcoord]
    exact fun pc hpc => hkeeps.passed (h.passed pc hpc)
  · intro hdone
    exact hkeeps.passed (h.completion (hkeeps.completion ▸ hdone))

/-- The same `shutdown` calls. -/
theorem keep_calls (h : Coordinated s) (hkeeps : Keeps s s')
    (hshut : s'.shutdowns = s.shutdowns)
    (hstarted : s'.coordinatorStarted = s.coordinatorStarted)
    (hcoord : s'.coordinators.map Coordinator.pc = s.coordinators.map Coordinator.pc) :
    Coordinated s' :=
  h.keep hkeeps hcoord (fun _ hcalls => hshut ▸ hcalls) (Nat.le_of_eq (by rw [hshut, hstarted]))

/-- One `shutdown` call goes on. -/
theorem keep_set (h : Coordinated s) {k : Nat} {call call' : ShutdownCall}
    (hcall : s.shutdowns[k]? = some call) (hkeeps : Keeps s s')
    (hshut : s'.shutdowns = s.shutdowns.set k call')
    (hcoord : s'.coordinators.map Coordinator.pc = s.coordinators.map Coordinator.pc)
    (hsealed : s'.phase = .running → call.isSealed = false → call'.isSealed = false)
    (hspawn : call'.isSpawning.toNat + s.coordinatorStarted.toNat ≤
      call.isSpawning.toNat + s'.coordinatorStarted.toNat) : Coordinated s' := by
  refine h.keep hkeeps hcoord ?_ ?_
  · intro hrun hcalls c hc
    rw [hshut] at hc
    rcases List.mem_or_eq_of_mem_set hc with hc | rfl
    · exact hcalls c hc
    · exact hsealed hrun (hcalls call (List.mem_of_getElem? hcall))
  · have := Log.countP_set (b := call') ShutdownCall.isSpawning hcall
    rw [hshut]
    omega

/-- Whoever spawns a coordinator spawns the first. -/
theorem none_of_spawning (h : Coordinated s) {k : Nat} (hcall : s.shutdowns[k]? = some .spawning) :
    s.coordinators = [] := by
  have hpos := Log.countP_pos ShutdownCall.isSpawning hcall rfl
  have hsingle := h.single
  have := Bool.toNat_le s.coordinatorStarted
  exact List.length_eq_zero_iff.mp (by omega)

theorem spawn (h : Coordinated s) {k : Nat} (hcall : s.shutdowns[k]? = some .spawning) :
    Coordinated { s.setShutdown k (.recording s.coordinators.length) with
      coordinators := s.coordinators ++ [{ pc := .started, abortRequested := false }] } := by
  have hcount := Log.countP_set (b := .recording s.coordinators.length) ShutdownCall.isSpawning hcall
  have hsingle := h.single
  have hnone := h.none_of_spawning hcall
  refine ⟨?_, ?_, ?_, ?_, h.completion⟩
  · intro hrun
    exact absurd ((h.running hrun).2 _ (List.mem_of_getElem? hcall)) nofun
  · rw [List.length_append]
    simp only [setShutdown, ShutdownCall.isSpawning, Bool.toNat_true, Bool.toNat_false,
      List.length_singleton] at hcount ⊢
    omega
  · rw [hnone]
    exact nofun
  · rw [hnone]
    intro pc hpc
    cases List.mem_singleton.mp hpc
    exact h.handles hnone

theorem coordinatorStep (h : Coordinated s) {n : Nat} {c : Coordinator}
    (hc : s.coordinators[n]? = some c) (hstep : CoordinatorStep s n c s') : Coordinated s' := by
  obtain ⟨c', hcoord, hpassed⟩ := hstep.coordinators
  obtain ⟨hone, hset⟩ := Log.set_singleton (b := c') h.length_le hc
  rw [hset] at hcoord
  have hc : s.Passed c.pc := h.passed _ (by rw [hone]; exact List.mem_singleton_self _)
  refine ⟨?_, ?_, ?_, ?_, ?_⟩
  · intro hrun
    rcases hstep.phase with heq | hmove | hclosed
    · have hnone := (h.running (heq ▸ hrun)).1
      rw [hone] at hnone
      cases hnone
    · exact absurd hrun hmove.target
    · rw [hclosed] at hrun
      cases hrun
  · have hsingle := h.single
    rw [hone] at hsingle
    rw [hstep.shutdowns, hstep.started, hcoord]
    exact hsingle
  · rw [hcoord]
    exact nofun
  · rw [hcoord]
    simpa using hpassed hc
  · intro hdone
    rcases hstep.completion with heq | hfinished
    · exact hstep.finished (h.completion (heq ▸ hdone))
    · exact hfinished hc

theorem step (h : Coordinated s) {e : Event} (he : s.step e = some s') : Coordinated s' := by
  cases transition_of_step he with
  | admitCall | admission | endReader | endDeadline | disconnect =>
    exact { h with }
  | shutdown =>
    refine h.keep (.same rfl rfl rfl rfl) rfl ?_ ?_
    · intro _ hcalls c hc
      rcases List.mem_append.mp hc with hc | hc
      · exact hcalls c hc
      · rw [List.mem_singleton.mp hc]
        rfl
    · rw [List.countP_append]
      exact Nat.le_refl _
  | beginDrain hcall hrun =>
    refine h.keep_set hcall ⟨⟨rfl, rfl⟩, ⟨rfl, rfl⟩, rfl, Or.inr ?_⟩ rfl rfl nofun (Nat.le_refl _)
    rw [hrun]
    exact .drain
  | ensure hcall hstarted =>
    refine h.keep_set hcall (.same rfl rfl rfl rfl) rfl rfl (fun _ h => nomatch h) ?_
    rw [hstarted]
    exact Nat.le_refl _
  | spawn hcall => exact h.spawn hcall
  | proceed _ hcall hsealed hspawn =>
    refine h.keep_set hcall (.same rfl rfl rfl rfl) rfl rfl hsealed ?_
    rw [hspawn]
    exact Nat.le_refl _
  | abort _ pc =>
    have hstep := abortInner_step s pc
    exact h.keep_calls { hstep.keeps with } hstep.shutdowns hstep.started
      (congrArg _ hstep.coordinators)
  | abortCoordinator hpcs => exact h.keep_calls (.same rfl rfl rfl rfl) rfl rfl hpcs
  | coordinate hc hstep => exact h.coordinatorStep hc (coordinate_step hstep)
  | cancelCoordinator hc =>
    exact h.coordinatorStep hc (.quiet ⟨rfl, rfl, rfl⟩ (.same rfl rfl rfl rfl) rfl rfl rfl
      fun _ => trivial)

theorem of_reachable {maxInFlight : Nat} (hs : (lifecycle maxInFlight).Reachable s) :
    Coordinated s :=
  hs.invariant (new _) fun _ h he => h.step he

end Coordinated

/-! ## The law -/

theorem phase_of_step (hs : Coordinated s) (he : s.step e = some s') :
    s'.phase = s.phase ∨ s.phase.Moves s'.phase := by
  cases transition_of_step he with
  | beginDrain _ hrun =>
    rw [hrun]
    exact Or.inr .drain
  | abort _ pc => exact (abortInner_step s pc).keeps.phase
  | coordinate hc hstep =>
    rcases (coordinate_step hstep).phase with heq | hmove | hclosed
    · exact Or.inl heq
    · exact Or.inr hmove
    · -- only a coordinator closes, and where there is one the client does not run
      rw [hclosed]
      refine Phase.moves_closed fun hrun => ?_
      rw [(hs.running hrun).1] at hc
      cases hc
  | _ => exact Or.inl rfl

/-- A guard that is live after a step was live before, unless the client ran. -/
theorem live_of_step (he : s.step e = some s') (hrun : s.phase ≠ .running) {i : Nat}
    (hi : s'.admissions[i]? = some .admitted) : s.admissions[i]? = some .admitted := by
  cases transition_of_step he with
  | admitCall =>
    rcases Log.concat_eq_some.mp hi with hi | ⟨-, hi⟩
    · exact hi
    · cases hi
  | admission _ _ _ _ _ hlive =>
    rcases Log.set_cases hi with ⟨-, rfl⟩ | ⟨-, hi⟩
    · exact absurd (hlive rfl) hrun
    · exact hi
  | abort _ pc => rwa [(abortInner_step s pc).guards.admissions] at hi
  | coordinate _ hstep => rwa [(coordinate_step hstep).guards.admissions] at hi
  | _ => exact hi

/-- What holds of a step from `s` to `s'`, and of every run from `s`. -/
structure Lawful (maxInFlight : Nat) (s : Lifecycle) (e : Event) (s' : Lifecycle) : Prop where
  active_eq : s.active = s.liveGuards
  active_le : s.active ≤ admissionCapacity maxInFlight
  /-- The count a guard is taken from is positive, so `saturating_sub` subtracts. -/
  release : ∀ i, e = .release i → s'.active + 1 = s.active
  phase : s'.phase = s.phase ∨ s.phase.Moves s'.phase
  /-- Once the client does not run it never does again, and no guard is made. -/
  sealed : s.phase ≠ .running →
    ∀ (es : List Event) (u : Lifecycle), (lifecycle maxInFlight).run s es = some u →
      u.phase ≠ .running ∧
        ∀ i : Nat, u.admissions[i]? = some .admitted → s.admissions[i]? = some .admitted
  one_coordinator : s.coordinators.length ≤ 1
  /-- A shutdown is reported as complete only where the client is closed and its tasks joined. -/
  completion : s.completion = true →
    s.phase = .closed ∧ s.reader.joined = true ∧ s.deadline.joined = true

theorem sealed_run {maxInFlight : Nat} {s u : Lifecycle} {es : List Event}
    (hs : (lifecycle maxInFlight).Reachable s) (hrun : s.phase ≠ .running)
    (h : (lifecycle maxInFlight).run s es = some u) :
    u.phase ≠ .running ∧
      ∀ i : Nat, u.admissions[i]? = some .admitted → s.admissions[i]? = some .admitted := by
  induction es generalizing s with
  | nil => cases h; exact ⟨hrun, fun _ hi => hi⟩
  | cons e es ih =>
    obtain ⟨t, ht, hrest⟩ := Option.bind_eq_some_iff.mp h
    have htrun : t.phase ≠ .running := by
      rcases phase_of_step (.of_reachable hs) ht with heq | hmove
      · rwa [heq]
      · exact hmove.target
    obtain ⟨hu, hlive⟩ := ih (hs.step ht) htrun hrest
    exact ⟨hu, fun i hi => live_of_step ht hrun (hlive i hi)⟩

theorem lawful_of_step (maxInFlight : Nat) {s s' : Lifecycle} {e : Event}
    (hs : (lifecycle maxInFlight).Reachable s) (h : (lifecycle maxInFlight).step s e = some s') :
    Lawful maxInFlight s e s' := by
  have hbal := Balanced.of_reachable hs
  have hcoord := Coordinated.of_reachable hs
  refine ⟨hbal.active, hbal.active_le, ?_, phase_of_step hcoord h, ?_,
    hcoord.length_le, ?_⟩
  · rintro i rfl
    obtain ⟨a, ha, hstep⟩ := Option.bind_eq_some_iff.mp h
    cases a <;> cases hstep
    exact Nat.sub_add_cancel (hbal.active_pos ha)
  · intro hrun es u hu
    exact sealed_run hs hrun hu
  · intro hdone
    obtain ⟨hr, hd, hc⟩ := hcoord.completion hdone
    exact ⟨hc, hr, hd⟩

/-- One operation, a `shutdown` that is cancelled while it waits and a coordinator that finishes
without it. -/
def oneShutdown : List Event :=
  [.admitCall, .check 0, .acquire 0, .enter 0, .shutdown 9, .shutdownStep 0, .shutdownStep 0,
    .shutdownStep 0, .shutdownStep 0, .cancelShutdown 0, .coordinate 0 1 true, .release 0,
    .coordinate 0 1 true, .coordinate 0 1 true, .coordinate 0 1 true, .coordinate 0 1 true,
    .coordinate 0 1 true, .endTask .reader .returned, .endTask .deadline .cancelled,
    .coordinate 0 1 true, .coordinate 0 1 true, .coordinate 0 1 true, .coordinate 0 1 true,
    .coordinate 0 1 true]

theorem lawful_of_step_oneShutdown :
    ∃ s s', (lifecycle 40).run (lifecycle 40).init oneShutdown = some s ∧
      (lifecycle 40).step s (.coordinate 0 1 true) = some s' ∧ s'.completion = true ∧
      Lawful 40 s (.coordinate 0 1 true) s' := by
  obtain ⟨s, hs⟩ : ∃ s, (lifecycle 40).run (lifecycle 40).init oneShutdown = some s := ⟨_, rfl⟩
  obtain ⟨s', hs', hdone⟩ : ∃ s', (lifecycle 40).step s (.coordinate 0 1 true) = some s' ∧
      s'.completion = true := by
    cases hs
    exact ⟨_, rfl, rfl⟩
  exact ⟨s, s', hs, hs', hdone, lawful_of_step 40 (Machine.Reachable.init.run hs) hs'⟩

end Lifecycle

end RustyModbus.Client.Concurrent
