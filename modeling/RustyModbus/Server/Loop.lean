import RustyModbus.Server.Broadcast
import RustyModbus.Server.Connection
import RustyModbus.Server.Lifecycle

/-!
# The connection loop

A running server: any number of connections, each a task that receives a frame, has it admitted,
processes it and sends the reply, one frame after the other; a store that all of them share; a
supervisor that accepts connections and, once the lifecycle is sealed, waits for them to end or
aborts them; and the lifecycle with its callers of `stop`. Tasks are interleaved at every point
where they touch something shared, so `process_request` runs call by call.

What a connection has done is recorded beside its task: the frames it admitted, what
`process_request` returned for each, the store calls that were made on behalf of each, and the
frames it sent.
-/

namespace RustyModbus.Server

open Wire Interaction

structure ServerConfig where
  unitId : UnitId
  deviceId : DeviceIdentification

/-- The unit identifiers a server listens to: its own, broadcasts, and 0xFF for the device at the
end of a TCP connection. -/
def isAddressed (unitId : UnitId) (frame : Frame) : Bool :=
  frame.unitId == unitId || isBroadcast frame.unitId || frame.unitId == 0xFF

def transactionId (frame : Frame) : UInt16 :=
  match frame.header with
  | .mbap header => header.transactionId
  | .rtu _ => 0

/-- Where a connection is in its loop. -/
inductive ConnectionTask
  | checking
  | receiving
  | admitting (frame : Frame)
  | addressing (frame : Frame)
  | processing (frame : Frame) (rest : StoreProgram (Option (List UInt8)))
  | sending (frame response : Frame)
  | closed
  /-- Aborted, or a send failed. -/
  | lost

structure Connection where
  /-- All frames that arrive on it. -/
  stream : List Frame
  incoming : List Frame
  task : ConnectionTask
  admitted : List Frame
  processed : List (Frame × Option (List UInt8))
  storeCalls : List (Frame × StoreOp)
  sent : List Frame

def Connection.new (stream : List Frame) : Connection where
  stream := stream
  incoming := stream
  task := .checking
  admitted := []
  processed := []
  storeCalls := []
  sent := []

namespace ConnectionTask

/-- The task holds a request guard. -/
def holdsGuard : ConnectionTask → Bool
  | .addressing _ | .processing .. | .sending .. => true
  | _ => false

def isOpen : ConnectionTask → Bool
  | .closed | .lost => false
  | _ => true

end ConnectionTask

structure Server (σ : Type) where
  lifecycle : Lifecycle
  store : σ
  connections : List Connection

/-- What can happen to a connection. -/
inductive Move
  | proceed
  /-- The select sees the shutdown signal. -/
  | shutdownSignal
  | sendFails
  | abort
deriving DecidableEq, Repr

section

variable {σ : Type} (config : ServerConfig) (store : DataStore σ)

/-- The next step of a connection in its loop. -/
def Connection.proceed (l : Lifecycle) (s : σ) (c : Connection) :
    Option (Lifecycle × σ × Connection) :=
  match c.task with
  | .checking =>
    some (l, s, { c with task := if l.shutdownDeadline.isSome then .closed else .receiving })
  | .receiving =>
    match c.incoming with
    | [] => some (l, s, { c with task := .closed })
    | frame :: incoming => some (l, s, { c with task := .admitting frame, incoming })
  | .admitting frame =>
    match l.admitRequest with
    | some l =>
      some (l, s, { c with task := .addressing frame, admitted := c.admitted ++ [frame] })
    | none => some (l, s, { c with task := .closed })
  | .addressing frame =>
    if isAddressed config.unitId frame then
      some (l, s, { c with
        task := .processing frame (processRequest frame.pdu frame.unitId config.deviceId) })
    else some (l.dropGuard, s, { c with task := .checking })
  | .processing frame (.call op k) =>
    let (reply, s) := store op s
    some (l, s, { c with
      task := .processing frame (k reply)
      storeCalls := c.storeCalls ++ [(frame, op)] })
  | .processing frame (.done result) =>
    let c := { c with processed := c.processed ++ [(frame, result)] }
    match result with
    | none => some (l.dropGuard, s, { c with task := .checking })
    | some responsePdu =>
      match responseFrame (transactionId frame) frame.unitId responsePdu with
      | none => some (l.dropGuard, s, { c with task := .closed })
      | some response => some (l, s, { c with task := .sending frame response })
  | .sending _ response =>
    some (l.dropGuard, s, { c with task := .checking, sent := c.sent ++ [response] })
  | .closed | .lost => none

/-- A task that ends early drops the guard it holds. -/
def Connection.lose (l : Lifecycle) (s : σ) (c : Connection) : Lifecycle × σ × Connection :=
  (if c.task.holdsGuard then l.dropGuard else l, s, { c with task := .lost })

def Connection.move (l : Lifecycle) (s : σ) (c : Connection) :
    Move → Option (Lifecycle × σ × Connection)
  | .proceed => c.proceed config store l s
  | .shutdownSignal =>
    match c.task with
    | .receiving =>
      if l.shutdownTx.isSome then some (l, s, { c with task := .closed }) else none
    | _ => none
  | .sendFails =>
    match c.task with
    | .sending .. => some (c.lose l s)
    | _ => none
  | .abort =>
    if c.task.isOpen ∧ (l.supervisor = .aborting ∨ l.supervisor = .failed) then some (c.lose l s)
    else none

inductive ServerEvent
  | accept (stream : List Frame)
  | connection (i : Nat) (move : Move)
  /-- The supervisor sees the shutdown deadline and stops accepting. -/
  | drain
  /-- The shutdown deadline passes before all connections are joined. -/
  | deadline
  /-- The last connection has ended. -/
  | joined
  | supervisorFails
  /-- A new call of `stop`, a step of one, a step of the coordinator. -/
  | stop
  | caller (j : Nat) (deadline : Instant)
  | coordinator

def Server.withLifecycle (s : Server σ) (l : Option Lifecycle) : Option (Server σ) :=
  l.map fun lifecycle => { s with lifecycle }

def Server.step (s : Server σ) : ServerEvent → Option (Server σ)
  | .accept stream =>
    if s.lifecycle.supervisor = .accepting then
      if s.lifecycle.shutdownDeadline.isSome then some s
      else some { s with connections := s.connections ++ [.new stream] }
    else none
  | .connection i move => do
    let c ← s.connections[i]?
    let (lifecycle, store, c) ← c.move config store s.lifecycle s.store move
    return { lifecycle, store, connections := s.connections.set i c }
  | .drain =>
    if s.lifecycle.supervisor = .accepting ∧ s.lifecycle.shutdownDeadline.isSome then
      s.withLifecycle (s.lifecycle.step (.supervisor .draining))
    else none
  | .deadline =>
    -- a connection that has ended counts until it is joined
    if s.lifecycle.supervisor = .draining ∧ ¬s.connections.isEmpty then
      s.withLifecycle (s.lifecycle.step (.supervisor .aborting))
    else none
  | .joined =>
    if s.connections.any (·.task.isOpen) then none
    else match s.lifecycle.supervisor with
      | .draining => s.withLifecycle (s.lifecycle.step (.supervisor (.returned .drained)))
      | .aborting => s.withLifecycle (s.lifecycle.step (.supervisor (.returned .forced)))
      | _ => none
  | .supervisorFails => s.withLifecycle (s.lifecycle.step (.supervisor .failed))
  | .stop => s.withLifecycle (s.lifecycle.step .stop)
  | .caller j deadline => s.withLifecycle (s.lifecycle.step (.caller j deadline))
  | .coordinator => s.withLifecycle (s.lifecycle.step .coordinator)

def serverMachine (initial : σ) : Machine (Server σ) ServerEvent where
  init := { lifecycle := .new, store := initial, connections := [] }
  step := Server.step config store

end

/-! ## What a step of a connection does -/

section

variable {σ : Type} {config : ServerConfig} {store : DataStore σ}

variable (config store) (l : Lifecycle) (s : σ) (c : Connection) in
/-- All that can happen to a connection. -/
inductive Moved : Lifecycle → σ → Connection → Prop
  | finish (hopen : c.task.isOpen) (hguard : c.task.holdsGuard = false) :
    Moved l s { c with task := .closed }
  | listen (h : c.task = .checking) : Moved l s { c with task := .receiving }
  | receive {frame incoming} (h : c.task = .receiving)
    (hincoming : c.incoming = frame :: incoming) :
    Moved l s { c with task := .admitting frame, incoming }
  | enter {frame l'} (h : c.task = .admitting frame) (hadmitted : l.admitRequest = some l') :
    Moved l' s
      { c with task := .addressing frame, admitted := c.admitted ++ [frame] }
  | process {frame} (h : c.task = .addressing frame)
    (haddressed : isAddressed config.unitId frame) : Moved l s { c with
      task := .processing frame (processRequest frame.pdu frame.unitId config.deviceId) }
  | discard {frame} (h : c.task = .addressing frame)
    (haddressed : isAddressed config.unitId frame = false) :
    Moved l.dropGuard s { c with task := .checking }
  | call {frame op k} (h : c.task = .processing frame (.call op k)) :
    Moved l (store op s).2 { c with
      task := .processing frame (k (store op s).1)
      storeCalls := c.storeCalls ++ [(frame, op)] }
  | silent {frame} (h : c.task = .processing frame (.done none)) : Moved l.dropGuard s
        { c with task := .checking, processed := c.processed ++ [(frame, none)] }
  | drop {frame pdu} (h : c.task = .processing frame (.done (some pdu)))
    (hresponse : responseFrame (transactionId frame) frame.unitId pdu = none) :
    Moved l.dropGuard s
      { c with task := .closed, processed := c.processed ++ [(frame, some pdu)] }
  | respond {frame response pdu} (h : c.task = .processing frame (.done (some pdu)))
    (hresponse : responseFrame (transactionId frame) frame.unitId pdu = some response) : Moved l s
      { c with task := .sending frame response, processed := c.processed ++ [(frame, some pdu)] }
  | send {frame response} (h : c.task = .sending frame response) : Moved l.dropGuard s
        { c with task := .checking, sent := c.sent ++ [response] }
  | lose (hopen : c.task.isOpen) : Moved (if c.task.holdsGuard then l.dropGuard else l) s
        { c with task := .lost }

variable {l l' : Lifecycle} {s s' : σ} {c c' : Connection}

theorem Connection.moved_proceed (h : c.proceed config store l s = some (l', s', c')) :
    Moved config store l s c l' s' c' := by
  obtain ⟨stream, incoming, task, admitted, processed, storeCalls, sent⟩ := c
  cases task with
  | checking =>
    cases h
    by_cases hd : l.shutdownDeadline.isSome
    · rw [if_pos hd]
      exact .finish rfl rfl
    · rw [if_neg hd]
      exact .listen rfl
  | receiving =>
    cases incoming with
    | nil => cases h; exact .finish rfl rfl
    | cons frame incoming => cases h; exact .receive rfl rfl
  | admitting frame =>
    cases hadmitted : l.admitRequest with
    | some l₁ =>
      simp only [proceed, hadmitted] at h
      cases h
      exact .enter rfl hadmitted
    | none =>
      simp only [proceed, hadmitted] at h
      cases h
      exact .finish rfl rfl
  | addressing frame =>
    simp only [proceed] at h
    split at h
    next haddressed => cases h; exact .process rfl haddressed
    next haddressed => cases h; exact .discard rfl (eq_false_of_ne_true haddressed)
  | processing frame rest =>
    cases rest with
    | call op k => cases h; exact .call rfl
    | done result =>
      cases result with
      | none => cases h; exact .silent rfl
      | some pdu =>
        cases hresponse : responseFrame (transactionId frame) frame.unitId pdu with
        | none =>
          simp only [proceed, hresponse] at h
          cases h
          exact .drop rfl hresponse
        | some response =>
          simp only [proceed, hresponse] at h
          cases h
          exact .respond rfl hresponse
  | sending frame response => cases h; exact .send rfl
  | closed | lost => cases h

theorem Connection.moved {m : Move} (h : c.move config store l s m = some (l', s', c')) :
    Moved config store l s c l' s' c' := by
  cases m with
  | proceed => exact moved_proceed h
  | shutdownSignal =>
    rw [Connection.move] at h
    split at h
    next htask =>
      obtain ⟨-, h⟩ := Option.ite_none_right_eq_some.mp h
      cases h
      exact .finish (by rw [htask]; rfl) (by rw [htask]; rfl)
    next => cases h
  | sendFails =>
    rw [Connection.move] at h
    split at h
    next htask =>
      cases h
      exact .lose (by rw [htask]; rfl)
    next => cases h
  | abort =>
    obtain ⟨⟨hopen, -⟩, h⟩ := Option.ite_none_right_eq_some.mp h
    cases h
    exact .lose hopen

/-! ## What a connection has done -/

/-- What `process_request` can return for a frame. -/
def IsResult (frame : Frame) (result : Option (List UInt8)) : Prop :=
  (frame.unitId = 0 → result = none) ∧
    ∀ pdu, result = some pdu → 0 < pdu.length ∧ pdu.length ≤ maxPduSize

theorem always_isResult (frame : Frame) (deviceId : DeviceIdentification) :
    (processRequest frame.pdu frame.unitId deviceId).Always (IsResult frame) := by
  by_cases hunit : frame.unitId = 0
  · rw [hunit]
    refine (always_processRequest_broadcast frame.pdu deviceId).mono fun result hresult => ?_
    cases hresult
    exact ⟨fun _ => rfl, fun pdu hpdu => absurd hpdu (Option.some_ne_none pdu).symm⟩
  · refine (always_processRequest frame.pdu hunit deviceId).mono fun result hresult => ?_
    refine ⟨fun h => absurd h hunit, fun pdu hpdu => ?_⟩
    obtain ⟨fc, hreply⟩ := hresult pdu hpdu
    exact ⟨hreply.length_pos, hreply.length_le⟩

/-- The reply to a frame, if `process_request` returned a PDU. -/
def response (x : Frame × Option (List UInt8)) : Option Frame :=
  x.2.bind (responseFrame (transactionId x.1) x.1.unitId)

namespace ConnectionTask

/-- The frame that is received and not yet admitted. -/
def held : ConnectionTask → List Frame
  | .admitting frame => [frame]
  | _ => []

/-- The frame that is admitted and not yet processed, if it is for this server. -/
def underway (unitId : UnitId) : ConnectionTask → List Frame
  | .addressing frame => [frame].filter (isAddressed unitId)
  | .processing frame _ => [frame]
  | _ => []

def outgoing : ConnectionTask → List Frame
  | .sending _ response => [response]
  | _ => []

end ConnectionTask

/-- Where each frame of the stream is. Nothing is out of order and nothing is missing, as long as
the connection is not lost. -/
structure Connection.Valid (unitId : UnitId) (c : Connection) : Prop where
  stream : ∃ rest, c.stream = c.admitted ++ rest ∧
    (c.task.isOpen → rest = c.task.held ++ c.incoming)
  processed : ∃ rest, c.admitted.filter (isAddressed unitId) = c.processed.map Prod.fst ++ rest ∧
    (c.task = .lost ∨ rest = c.task.underway unitId)
  sent : ∃ rest, c.processed.filterMap response = c.sent ++ rest ∧
    (c.task = .lost ∨ rest = c.task.outgoing)
  storeCalls : ∀ x ∈ c.storeCalls, isAddressed unitId x.1
  results : ∀ x ∈ c.processed, IsResult x.1 x.2
  processing : ∀ frame rest, c.task = .processing frame rest →
    isAddressed unitId frame ∧ rest.Always (IsResult frame)

theorem Connection.valid_new (unitId : UnitId) (stream : List Frame) :
    (Connection.new stream).Valid unitId where
  stream := ⟨stream, rfl, fun _ => rfl⟩
  processed := ⟨[], rfl, Or.inr rfl⟩
  sent := ⟨[], rfl, Or.inr rfl⟩
  storeCalls := List.forall_mem_nil _
  results := List.forall_mem_nil _
  processing := by simp [Connection.new]

theorem ConnectionTask.ne_lost {task : ConnectionTask} (hopen : task.isOpen) : task ≠ .lost := by
  rintro rfl
  cases hopen

/-- The task goes on with the frames it has. -/
theorem Connection.Valid.retask {unitId : UnitId} (h : c.Valid unitId) (hopen : c.task.isOpen)
    {task : ConnectionTask} {incoming : List Frame}
    (hheld : task.isOpen → c.task.held ++ c.incoming = task.held ++ incoming)
    (hunderway : c.task.underway unitId = task.underway unitId)
    (houtgoing : c.task.outgoing = task.outgoing)
    (hprocessing : ∀ frame rest, task = .processing frame rest →
      isAddressed unitId frame ∧ rest.Always (IsResult frame)) :
    { c with task, incoming }.Valid unitId := by
  obtain ⟨rest, hstream, hrest⟩ := h.stream
  obtain ⟨todo, hprocessed, htodo⟩ := h.processed
  obtain ⟨owed, hsent, howed⟩ := h.sent
  have hlost := ConnectionTask.ne_lost hopen
  exact { h with
    stream := ⟨rest, hstream, fun ht => (hrest hopen).trans (hheld ht)⟩
    processed := ⟨todo, hprocessed, Or.inr ((htodo.resolve_left hlost).trans hunderway)⟩
    sent := ⟨owed, hsent, Or.inr ((howed.resolve_left hlost).trans houtgoing)⟩
    processing := hprocessing }

/-- A result is noted, and the reply to it is what the task has left to send. -/
theorem Connection.Valid.note {unitId : UnitId} {frame : Frame} {result : Option (List UInt8)}
    (h : c.Valid unitId) (htask : c.task = .processing frame (.done result)) {task : ConnectionTask}
    (hheld : task.isOpen → task.held = []) (hunderway : task.underway unitId = [])
    (houtgoing : task.outgoing = (response (frame, result)).toList)
    (hprocessing : ∀ frame rest, task ≠ .processing frame rest) :
    { c with task, processed := c.processed ++ [(frame, result)] }.Valid unitId := by
  obtain ⟨-, hresult⟩ := h.processing _ _ htask
  obtain ⟨rest, hstream, hrest⟩ := h.stream
  obtain ⟨todo, hprocessed, htodo⟩ := h.processed
  obtain ⟨owed, hsent, howed⟩ := h.sent
  rw [htask] at hrest htodo howed
  obtain rfl : todo = [frame] := htodo.resolve_left (by simp)
  obtain rfl : owed = [] := howed.resolve_left (by simp)
  refine { h with
    stream := ⟨rest, hstream, fun ht => by rw [hheld ht]; exact hrest rfl⟩
    processed := ⟨[], by rw [hprocessed, List.map_append, List.append_nil]; rfl, Or.inr hunderway.symm⟩
    sent := ⟨_, ?_, Or.inr houtgoing.symm⟩
    results := Tasks.forall_mem_concat h.results (fun _ => id) hresult
    processing := fun frame rest htask => absurd htask (hprocessing frame rest) }
  rw [List.filterMap_append, hsent, List.append_nil]
  cases hr : response (frame, result) <;> simp [hr]

theorem Connection.Valid.moved (h : c.Valid config.unitId)
    (hm : Moved config store l s c l' s' c') : c'.Valid config.unitId := by
  cases hm with
  | finish hopen hguard =>
    have hidle : c.task.underway config.unitId = [] ∧ c.task.outgoing = [] := by
      cases htask : c.task <;> rw [htask] at hguard <;> first | exact ⟨rfl, rfl⟩ | cases hguard
    exact h.retask hopen nofun hidle.1 hidle.2 nofun
  | listen htask => exact h.retask (htask ▸ rfl) (fun _ => htask ▸ rfl) (htask ▸ rfl) (htask ▸ rfl) nofun
  | receive htask hincoming =>
    exact h.retask (htask ▸ rfl) (fun _ => by rw [htask, hincoming]; rfl) (htask ▸ rfl)
      (htask ▸ rfl) nofun
  | @enter frame _ htask hadmitted =>
    obtain ⟨rest, hstream, hrest⟩ := h.stream
    obtain ⟨todo, hprocessed, htodo⟩ := h.processed
    obtain ⟨owed, hsent, howed⟩ := h.sent
    rw [htask] at hrest htodo howed
    obtain rfl : todo = [] := htodo.resolve_left (by simp)
    exact { h with
      stream := ⟨c.incoming, by rw [hstream, hrest rfl]; exact List.append_cons .., fun _ => rfl⟩
      processed := ⟨_, by rw [List.filter_append, hprocessed, List.append_nil]; rfl, Or.inr rfl⟩
      sent := ⟨owed, hsent, Or.inr (howed.resolve_left (by simp))⟩
      processing := by simp }
  | process htask haddressed =>
    refine h.retask (htask ▸ rfl) (fun _ => htask ▸ rfl) ?_ (htask ▸ rfl) ?_
    · rw [htask, ConnectionTask.underway, List.filter_cons_of_pos haddressed]
      rfl
    · rintro frame _ hprocess
      cases hprocess
      exact ⟨haddressed, always_isResult _ _⟩
  | discard htask haddressed =>
    refine h.retask (htask ▸ rfl) (fun _ => htask ▸ rfl) ?_ (htask ▸ rfl) nofun
    rw [htask, ConnectionTask.underway, List.filter_cons_of_neg (by simp [haddressed])]
    rfl
  | call htask =>
    obtain ⟨haddressed, halways⟩ := h.processing _ _ htask
    refine { h.retask (htask ▸ rfl) (fun _ => htask ▸ rfl) (htask ▸ rfl) (htask ▸ rfl) ?_ with
      storeCalls := Tasks.forall_mem_concat h.storeCalls (fun _ => id) haddressed }
    rintro frame _ hprocess
    cases hprocess
    exact ⟨haddressed, halways _⟩
  | silent htask => exact h.note htask (fun _ => rfl) rfl rfl nofun
  | drop htask hresponse =>
    -- `process_request` returns no empty PDU
    obtain ⟨-, hresult⟩ := h.processing _ _ htask
    obtain ⟨hpos, hle⟩ := hresult.2 _ rfl
    rw [responseFrame_eq hpos hle] at hresponse
    cases hresponse
  | respond htask hresponse =>
    exact h.note htask (fun _ => rfl) rfl (congrArg Option.toList hresponse).symm nofun
  | @send _ response htask =>
    obtain ⟨owed, hsent, howed⟩ := h.sent
    rw [htask] at howed
    obtain rfl : owed = [response] := howed.resolve_left (by simp)
    obtain ⟨rest, hstream, hrest⟩ := h.stream
    obtain ⟨todo, hprocessed, htodo⟩ := h.processed
    rw [htask] at hrest htodo
    exact { h with
      stream := ⟨rest, hstream, hrest⟩
      processed := ⟨todo, hprocessed, Or.inr (htodo.resolve_left (by simp))⟩
      sent := ⟨[], by rw [hsent, List.append_nil], Or.inr rfl⟩
      processing := by simp }
  | lose hopen =>
    obtain ⟨rest, hstream, -⟩ := h.stream
    obtain ⟨todo, hprocessed, -⟩ := h.processed
    obtain ⟨owed, hsent, -⟩ := h.sent
    exact { h with
      stream := ⟨rest, hstream, nofun⟩
      processed := ⟨todo, hprocessed, Or.inl rfl⟩
      sent := ⟨owed, hsent, Or.inl rfl⟩
      processing := nofun }

/-! ## All connections -/

theorem Moved.lifecycle (h : Moved config store l s c l' s' c') :
    l' = l ∨ ∃ e, l.step e = some l' := by
  cases h with
  | finish | listen | receive | process | call | respond => exact Or.inl rfl
  | enter _ hadmitted => exact Or.inr ⟨.admitRequest, hadmitted⟩
  | discard | silent | drop | send => exact Or.inr ⟨.dropGuard, rfl⟩
  | lose =>
    split
    · exact Or.inr ⟨.dropGuard, rfl⟩
    · exact Or.inl rfl

/-- The count follows the guard of the connection. -/
theorem Moved.guards (h : Moved config store l s c l' s' c')
    (hpos : c.task.holdsGuard.toNat ≤ l.activeRequests) :
    l'.activeRequests + c.task.holdsGuard.toNat
      = l.activeRequests + c'.task.holdsGuard.toNat := by
  have hdrop : ∀ {task : ConnectionTask}, task.holdsGuard = true →
      task.holdsGuard.toNat ≤ l.activeRequests →
      l.dropGuard.activeRequests + task.holdsGuard.toNat = l.activeRequests := by
    intro task htask hpos
    rw [htask] at hpos ⊢
    exact Nat.sub_add_cancel hpos
  cases h with
  | finish hopen hguard =>
    rw [hguard]
    rfl
  | listen htask | receive htask | process htask | call htask | respond htask =>
    rw [htask]
    rfl
  | enter htask hadmitted =>
    obtain ⟨-, hl⟩ := Option.ite_none_right_eq_some.mp hadmitted
    cases hl
    rw [htask]
    rfl
  | discard htask | silent htask | drop htask | send htask => exact hdrop (by rw [htask]; rfl) hpos
  | lose hopen =>
    split
    next hguard => exact hdrop hguard hpos
    next hguard =>
      rw [eq_false_of_ne_true hguard]
      rfl

/-- A connection admits a frame only while the server runs. -/
theorem Moved.admitted (h : Moved config store l s c l' s' c') :
    c'.admitted = c.admitted ∨ l.state.phase = .running := by
  cases h with
  | enter _ hadmitted => exact Or.inr (Option.ite_none_right_eq_some.mp hadmitted).1
  | _ => exact Or.inl rfl

end

section

variable {σ : Type} {config : ServerConfig} {store : DataStore σ} {initial : σ}
variable {s s' : Server σ}

variable (config store s) in
/-- All that can happen to a server. -/
inductive Stepped : Server σ → Prop
  | same : Stepped s
  | accept (stream : List Frame) : Stepped { s with connections := s.connections ++ [.new stream] }
  | connection {i c c' l' t} (hi : s.connections[i]? = some c)
    (hm : Moved config store s.lifecycle s.store c l' t c') :
    Stepped { lifecycle := l', store := t, connections := s.connections.set i c' }
  | lifecycle {e l'} (he : s.lifecycle.step e = some l')
    (hactive : l'.activeRequests = s.lifecycle.activeRequests) :
    Stepped { s with lifecycle := l' }

theorem Stepped.withLifecycle {e : Lifecycle.Event} (hadmitted : e ≠ .admitRequest)
    (hdrop : e ≠ .dropGuard) (h : s.withLifecycle (s.lifecycle.step e) = some s') :
    Stepped config store s s' := by
  obtain ⟨l', he, hs⟩ := Option.map_eq_some_iff.mp h
  cases hs
  exact .lifecycle he (Lifecycle.activeRequests_step hadmitted hdrop he)

theorem Server.stepped {e : ServerEvent} (h : s.step config store e = some s') :
    Stepped config store s s' := by
  cases e with
  | accept stream =>
    obtain ⟨-, h⟩ := Option.ite_none_right_eq_some.mp h
    split at h
    next =>
      cases h
      exact .same
    next =>
      cases h
      exact .accept stream
  | connection i move =>
    obtain ⟨c, hi, h⟩ := Option.bind_eq_some_iff.mp h
    obtain ⟨⟨l', t, c'⟩, hmove, h⟩ := Option.bind_eq_some_iff.mp h
    cases h
    exact .connection hi (Connection.moved hmove)
  | drain | deadline =>
    obtain ⟨-, h⟩ := Option.ite_none_right_eq_some.mp h
    exact .withLifecycle (by simp) (by simp) h
  | joined =>
    obtain ⟨-, h⟩ := Option.ite_none_left_eq_some.mp h
    split at h
    next => exact .withLifecycle (by simp) (by simp) h
    next => exact .withLifecycle (by simp) (by simp) h
    next => cases h
  | supervisorFails | stop | caller | coordinator => exact .withLifecycle (by simp) (by simp) h

/-- The lifecycle is moved by its own steps only. -/
theorem embeds_lifecycle :
    (serverMachine config store initial).Embeds Lifecycle.machine Server.lifecycle where
  init := rfl
  step h := by
    cases Server.stepped h with
    | same | accept => exact Or.inl rfl
    | connection hi hm => exact hm.lifecycle
    | lifecycle he => exact Or.inr ⟨_, he⟩

structure Server.Valid (config : ServerConfig) (s : Server σ) : Prop where
  connections : ∀ c ∈ s.connections, c.Valid config.unitId
  guards : s.lifecycle.activeRequests = s.connections.countP (·.task.holdsGuard)

theorem Server.Valid.step (h : s.Valid config) (hs : Stepped config store s s') :
    s'.Valid config := by
  cases hs with
  | same => exact h
  | accept stream =>
    exact {
      connections := Tasks.forall_mem_concat h.connections (fun _ => id)
        (Connection.valid_new _ stream)
      guards := by
        rw [List.countP_append]
        exact h.guards }
  | @connection i c c' l' t hi hm =>
    have hcount := Tasks.countP_set (b := c') (·.task.holdsGuard) hi
    have hle : c.task.holdsGuard.toNat ≤ s.lifecycle.activeRequests := by
      cases hguard : c.task.holdsGuard with
      | false => exact Nat.zero_le _
      | true =>
        rw [h.guards]
        exact List.countP_pos_iff.mpr ⟨c, List.mem_of_getElem? hi, hguard⟩
    have hguards := hm.guards hle
    have hvalid := (h.connections c (List.mem_of_getElem? hi)).moved hm
    exact {
      connections := Tasks.forall_mem_set h.connections (fun _ => id) hvalid
      guards := by
        have := h.guards
        dsimp only at hcount ⊢
        omega }
  | lifecycle he hactive => exact { h with guards := hactive.trans h.guards }

theorem Server.valid_of_reachable (hs : (serverMachine config store initial).Reachable s) :
    s.Valid config :=
  hs.invariant ⟨List.forall_mem_nil _, rfl⟩ fun _ h he => h.step (Server.stepped he)

/-- The frames that connection `i` has admitted. -/
def Server.admittedBy (s : Server σ) (i : Nat) : List Frame :=
  (s.connections[i]?.map Connection.admitted).getD []

theorem Server.admittedBy_step (hs : s.lifecycle.state.phase ≠ .running)
    (h : Stepped config store s s') (i : Nat) : s'.admittedBy i = s.admittedBy i := by
  cases h with
  | same | lifecycle => rfl
  | accept stream =>
    simp only [Server.admittedBy, List.getElem?_append]
    split
    · rfl
    · next hlen =>
        rw [List.getElem?_eq_none (Nat.le_of_not_lt hlen), List.getElem?_singleton]
        split <;> rfl
  | @connection j c c' l' t hj hm =>
    have hadmitted := hm.admitted.resolve_right hs
    simp only [Server.admittedBy, List.getElem?_set]
    split
    next hij =>
      subst hij
      have hlen := (List.getElem?_eq_some_iff.mp hj).1
      rw [if_pos hlen, hj]
      exact hadmitted
    next => rfl

/-- Nothing is admitted after the seal. -/
theorem Server.admittedBy_run (hs : (serverMachine config store initial).Reachable s)
    (hphase : s.lifecycle.state.phase ≠ .running) {events : List ServerEvent}
    (hrun : (serverMachine config store initial).run s events = some s') (i : Nat) :
    s'.admittedBy i = s.admittedBy i := by
  have hkeeps := Machine.run_keeps (M := serverMachine config store initial)
    (P := fun u => (serverMachine config store initial).Reachable u ∧
      u.lifecycle.state.phase ≠ .running ∧ u.admittedBy i = s.admittedBy i)
    (fun {u e u'} hu he => ?_) ⟨hs, hphase, rfl⟩ hrun
  · exact hkeeps.2.2
  · obtain ⟨hu, hsealed, hsame⟩ := hu
    have hvalid := Lifecycle.valid_of_reachable (embeds_lifecycle.reachable hu)
    have hstepped := Server.stepped he
    refine ⟨hu.step he, ?_, (Server.admittedBy_step hsealed hstepped i).trans hsame⟩
    have hembeds : (serverMachine config store initial).Embeds Lifecycle.machine Server.lifecycle :=
      embeds_lifecycle
    rcases hembeds.step he with hl | ⟨d, hd⟩
    · rw [hl]
      exact hsealed
    · exact (hvalid.advances hd).phase hsealed

/-! ## The law of the loop -/

/-- What one connection has done. -/
structure Connection.Lawful (unitId : UnitId) (c : Connection) : Prop where
  admitted : c.admitted <+: c.stream
  /-- The admitted frames for this server are processed, in their order; one may be under way. -/
  processed : c.task ≠ .lost →
    c.admitted.filter (isAddressed unitId) = c.processed.map Prod.fst ++ c.task.underway unitId
  /-- Their replies are sent, in their order; one may be under way. -/
  sent : c.task ≠ .lost → c.processed.filterMap response = c.sent ++ c.task.outgoing
  /-- A lost connection has sent the first of the replies. -/
  lost : c.sent <+: c.processed.filterMap response ∧
    c.processed.map Prod.fst <+: c.admitted.filter (isAddressed unitId)
  /-- A PDU that is returned makes exactly one reply, to a frame that was sent to this server
  alone. -/
  replies : ∀ frame pdu, (frame, some pdu) ∈ c.processed →
    (frame.unitId = unitId ∨ frame.unitId = 0xFF) ∧ frame.unitId ≠ 0 ∧
    ∃ hlen, response (frame, some pdu) = some
      { header := .mbap (MbapHeader.new (transactionId frame) frame.unitId pdu.length hlen), pdu }
  storeCalls : ∀ x ∈ c.storeCalls, x.1.unitId = unitId ∨ x.1.unitId = 0 ∨ x.1.unitId = 0xFF

theorem isAddressed_iff {unitId : UnitId} {frame : Frame} :
    isAddressed unitId frame ↔
      frame.unitId = unitId ∨ frame.unitId = 0 ∨ frame.unitId = 0xFF := by
  simp [isAddressed, isBroadcast, or_assoc]

theorem Connection.Valid.lawful {unitId : UnitId} {c : Connection} (h : c.Valid unitId) :
    c.Lawful unitId := by
  obtain ⟨rest, hstream, -⟩ := h.stream
  obtain ⟨todo, hprocessed, htodo⟩ := h.processed
  obtain ⟨owed, hsent, howed⟩ := h.sent
  refine ⟨⟨rest, hstream.symm⟩, fun hlost => ?_, fun hlost => ?_,
    ⟨⟨owed, hsent.symm⟩, ⟨todo, hprocessed.symm⟩⟩, fun frame pdu hmem => ?_,
    fun x hx => isAddressed_iff.mp (h.storeCalls x hx)⟩
  · rw [hprocessed, htodo.resolve_left hlost]
  · rw [hsent, howed.resolve_left hlost]
  · obtain ⟨hbroadcast, hlength⟩ := h.results _ hmem
    obtain ⟨hpos, hle⟩ := hlength pdu rfl
    have hunit : frame.unitId ≠ 0 := fun hzero => Option.some_ne_none pdu (hbroadcast hzero)
    -- what is processed was admitted and is addressed to this server
    have hfrom : frame ∈ c.admitted.filter (isAddressed unitId) := by
      rw [hprocessed]
      exact List.mem_append_left _ (List.mem_map_of_mem hmem)
    have haddressed := isAddressed_iff.mp (List.mem_filter.mp hfrom).2
    refine ⟨haddressed.imp_right fun h => h.resolve_left hunit, hunit, hle, ?_⟩
    exact responseFrame_eq hpos hle _ _

/-- What holds of a server in every state it reaches. -/
structure ServerLaw (config : ServerConfig) (store : DataStore σ) (initial : σ) (s : Server σ) :
    Prop where
  connections : ∀ c ∈ s.connections, c.Lawful config.unitId
  /-- Once the lifecycle is sealed no connection, open or to come, admits a frame. -/
  sealed : s.lifecycle.state.phase ≠ .running → ∀ events s',
    (serverMachine config store initial).run s events = some s' →
      ∀ i, s'.admittedBy i = s.admittedBy i
  guards : s.lifecycle.activeRequests = s.connections.countP (·.task.holdsGuard)
  /-- All calls of `stop` that have returned have returned the same, and none panics. -/
  outcome : ∀ o o', .returned o ∈ s.lifecycle.callers → .returned o' ∈ s.lifecycle.callers → o = o'
  panics : .panicked ∉ s.lifecycle.callers

end

/-! A server of unit 1 that gets five frames: to itself, to unit 9, to all, to the device at this
end, and one that it has received but not admitted when `stop` is called. -/

def unitOne : ServerConfig where
  unitId := 1
  deviceId := unnamedDevice

def requestFrame (transactionId : UInt16) (unitId : UInt8) (pdu : List UInt8) : Frame where
  header := .mbap
    { transactionId, protocolId := 0, length := UInt16.ofNat (pdu.length + 1), unitId }
  pdu := pdu

def fiveFrames : List Frame :=
  [requestFrame 1 1 [0x11], requestFrame 2 9 [0x11], requestFrame 3 0 [0x05, 0, 0, 0xFF, 0],
    requestFrame 4 0xFF [0x07], requestFrame 5 1 [0x11]]

def stoppedTwice : List ServerEvent :=
  [.accept fiveFrames] ++ List.replicate 26 (.connection 0 .proceed) ++
    [.stop, .caller 0 100, .connection 0 .proceed, .stop, .caller 1 200, .caller 1 200,
      .caller 1 200, .caller 1 200, .caller 0 200, .drain, .joined, .coordinator, .caller 1 200,
      .caller 0 200, .caller 0 200]

def stoppedServer : Server Unit where
  lifecycle :=
    { state :=
        { phase := .closed, deadline := some 100, outcome := some .drained
          coordinatorStarted := true }
      shutdownTx := some 100
      completionTx := none
      activeRequests := 0
      supervisor := .returned .drained
      supervisorTaken := true
      coordinator := .published .drained
      callers := [.returned .drained, .returned .drained] }
  store := ()
  connections :=
    [{ stream := fiveFrames
       incoming := []
       task := .closed
       admitted := fiveFrames.take 4
       processed :=
         [(requestFrame 1 1 [0x11], some [0x91, 0x04]),
           (requestFrame 3 0 [0x05, 0, 0, 0xFF, 0], none),
           (requestFrame 4 0xFF [0x07], some [0x87, 0x01])]
       storeCalls :=
         [(requestFrame 1 1 [0x11], .appendServerId),
           (requestFrame 3 0 [0x05, 0, 0, 0xFF, 0], .writeCoil 0 true),
           (requestFrame 4 0xFF [0x07], .readExceptionStatus)]
       sent := [requestFrame 1 1 [0x91, 0x04], requestFrame 4 0xFF [0x87, 0x01]] }]

end RustyModbus.Server
