import RustyModbus.Client.Operation

/-!
# Retries

What can be said of one call of `send_with_retry` whatever it meets. Each place of the loop knows
how many attempts have been made and how the last of them ended; a further attempt begins only
at the head of the loop, and the head is reached again only past `classify_attempt`.
-/

namespace RustyModbus.Client.Concurrent

/-- After such an end of an attempt a request may be sent again. -/
inductive MayFollow (kind : RequestKind) : Option Outcome → Prop
  | busy {exc : ExceptionResponse} (h : exc.exceptionCode = .serverDeviceBusy) :
    MayFollow kind (some (.ok (.exception exc)))
  | timeout (h : kind = .replaySafe) : MayFollow kind (some (.error .timeout))
  | transportTimeout (h : kind = .replaySafe) : MayFollow kind (some (.error (.transport .timeout)))

/-- An attempt is repeated only after an answer that says busy, or a timeout of a request that
may be repeated. -/
theorem mayFollow_of_classifyAttempt {retry : RetryConfig} {kind : RequestKind} {result : Outcome}
    {error : ClientError} (h : classifyAttempt retry kind result = .retry error) :
    MayFollow kind (some result) := by
  unfold classifyAttempt at h
  split at h
  next exc =>
    split at h
    next => cases h
    next =>
      split at h
      next hbusy => exact .busy hbusy.1
      next => cases h
  next => cases h
  next =>
    split at h
    next hkind => exact .timeout hkind
    next => cases h
  next =>
    split at h
    next hkind => exact .transportTimeout hkind
    next => cases h
  next => cases h

namespace History

variable {config : ClientConfig} {kind : RequestKind} {h : History} {l : Loop}

/-! ## The history of a call -/

/-- What the attempts made so far have in common. -/
structure Sound (config : ClientConfig) (kind : RequestKind) (h : History) : Prop where
  /-- Every attempt that is not the last was allowed to be followed. -/
  follows : ∀ k a, h.attempts[k]? = some a → k + 1 < h.attempts.length → MayFollow kind a.result
  count : h.attempts.length ≤ config.retry.maxRetries.toNat + 1 ∧ h.attempts.length ≤ u32Max
  deadline : ∀ a ∈ h.attempts, ∃ d, h.operationDeadline = some d ∧ a.deadline ≤ d
  polls : ∀ a ∈ h.attempts, ∀ t ∈ a.polls, t < a.deadline

/-- Where no attempt is being made, another one may begin. -/
structure Between (config : ClientConfig) (kind : RequestKind) (h : History) (l : Loop) : Prop where
  attempts : h.attempts.length = l.attemptsMade
  more : l.attemptsMade ≤ config.retry.maxRetries.toNat ∧ l.attemptsMade < u32Max
  deadline : h.operationDeadline = some l.deadline
  last : ∀ a, h.attempts.getLast? = some a → MayFollow kind a.result

/-- Where one is being made. -/
structure During (h : History) (l : Loop) : Prop where
  attempts : h.attempts.length = l.attemptsMade
  deadline : h.operationDeadline = some l.deadline

theorem Sound.note {f : Attempt → Attempt} (hs : h.Sound config kind)
    (hdeadline : ∀ a, (f a).deadline = a.deadline)
    (hpolls : ∀ a, h.attempts.getLast? = some a → ∀ t ∈ (f a).polls, t < a.deadline) :
    (h.note f).Sound config kind := by
  have hlen : (h.note f).attempts.length = h.attempts.length := List.length_modify ..
  have hmem {b : Attempt} (hb : b ∈ (h.note f).attempts) :
      b ∈ h.attempts ∨ ∃ a, h.attempts.getLast? = some a ∧ b = f a := by
    obtain ⟨k, hk⟩ := List.mem_iff_getElem?.mp hb
    rcases Log.modify_cases hk with ⟨rfl, a, ha, rfl⟩ | ⟨-, hk⟩
    · exact Or.inr ⟨a, by rw [List.getLast?_eq_getElem?]; exact ha, rfl⟩
    · exact Or.inl (List.mem_of_getElem? hk)
  refine ⟨?_, hlen ▸ hs.count, ?_, ?_⟩
  · intro k a hk hlt
    rw [hlen] at hlt
    rcases Log.modify_cases hk with ⟨rfl, -⟩ | ⟨-, hk⟩
    · omega
    · exact hs.follows k a hk hlt
  · intro b hb
    rcases hmem hb with hb | ⟨a, ha, rfl⟩
    · exact hs.deadline b hb
    · rw [hdeadline]
      exact hs.deadline a (List.mem_of_getLast? ha)
  · intro b hb
    rcases hmem hb with hb | ⟨a, ha, rfl⟩
    · exact hs.polls b hb
    · rw [hdeadline]
      exact hpolls a ha

theorem During.note (hd : h.During l) (f : Attempt → Attempt) : (h.note f).During l :=
  ⟨(List.length_modify ..).trans hd.attempts, hd.deadline⟩

/-- An attempt begins. -/
theorem Sound.concat (hs : h.Sound config kind) (hb : h.Between config kind l) {deadline : Instant}
    (hle : deadline ≤ l.deadline) :
    Sound config kind { h with attempts := h.attempts ++ [.start deadline] } := by
  refine ⟨?_, ?_, ?_, ?_⟩
  · intro k a hk hlt
    rw [List.length_append, List.length_singleton] at hlt
    rcases Log.concat_eq_some.mp hk with hk | ⟨hlast, -⟩
    · by_cases hend : k + 1 = h.attempts.length
      · exact hb.last a (by rw [List.getLast?_eq_getElem?, ← hend]; exact hk)
      · exact hs.follows k a hk (by omega)
    · omega
  · have := hb.attempts
    have := hb.more
    rw [List.length_append, List.length_singleton]
    omega
  · intro a ha
    rcases List.mem_append.mp ha with ha | ha
    · exact hs.deadline a ha
    · cases List.mem_singleton.mp ha
      exact ⟨_, hb.deadline, hle⟩
  · intro a ha
    rcases List.mem_append.mp ha with ha | ha
    · exact hs.polls a ha
    · cases List.mem_singleton.mp ha
      exact nofun

end History

namespace SendWithRetry

variable {limit : Instant} {config : ClientConfig} {o o' : SendWithRetry} {l : Loop}

/-- What the history is like at a place of the call. -/
def AtStage (config : ClientConfig) (kind : RequestKind) (h : History) : SendStage → Prop
  | .connecting | .admitting _ | .starting _ => h.attempts = []
  | .looping l | .checking l | .beginning l | .delaying l | .resting l _ => h.Between config kind l
  | .attempting l deadline | .queueing l deadline | .registering l deadline
  | .sending l deadline =>
    h.During l ∧ ∀ a, h.attempts.getLast? = some a → a.deadline = deadline
  | .receiving l | .awaiting l | .leaving l _ _ => h.During l
  | .returning _ | .returned _ | .validated _ => True

structure Safe (config : ClientConfig) (o : SendWithRetry) : Prop where
  sound : o.history.Sound config o.request.kind
  stage : AtStage config o.request.kind o.history o.stage

theorem History.sound_nil {kind : RequestKind} {h : History} (hattempts : h.attempts = []) :
    h.Sound config kind := by
  refine ⟨?_, ?_, ?_, ?_⟩
  all_goals rw [hattempts]
  · intro k a hk
    cases hk
  · exact ⟨Nat.zero_le _, Nat.zero_le _⟩
  · intro a ha
    cases ha
  · intro a ha
    cases ha

theorem Safe.new (config : ClientConfig) (request : Request) : Safe config (.new request) :=
  ⟨History.sound_nil rfl, rfl⟩

theorem Safe.start (hattempts : o.history.attempts = []) (pdu : SendablePdu)
    (now : Instant) : Safe config (o.start limit config pdu now) := by
  refine ⟨History.sound_nil hattempts, congrArg List.length hattempts,
    ⟨Nat.zero_le _, (show 0 < u32Max by decide)⟩, rfl, ?_⟩
  intro a ha
  have hnone : o.history.attempts.getLast? = none := by rw [hattempts]; rfl
  exact nomatch hnone.symm.trans ha

theorem Safe.beginAttempt (h : Safe config o) (hb : o.history.Between config o.request.kind l)
    (now : Instant) : Safe config (o.beginAttempt limit config l now) := by
  refine ⟨h.sound.concat hb (Nat.min_le_right ..), ⟨?_, hb.deadline⟩, ?_⟩
  · have := hb.attempts
    have := hb.more
    show (o.history.attempts ++ [_]).length = min (l.attemptsMade + 1) u32Max
    rw [List.length_append, List.length_singleton]
    omega
  · intro a ha
    rw [show (o.beginAttempt limit config l now).history.attempts.getLast? = some (.start _) from
      List.getLast?_concat] at ha
    cases ha
    rfl

theorem Safe.endAttempt (h : Safe config o) (hd : o.history.During l) (result : Outcome) :
    Safe config (o.endAttempt config l result) := by
  have hsound := h.sound.note (f := fun a => { a with result := some result }) (fun _ => rfl)
    fun a ha => h.sound.polls a (List.mem_of_getLast? ha)
  unfold SendWithRetry.endAttempt
  dsimp only
  split
  next => exact ⟨hsound, trivial⟩
  next error hretry =>
    split
    next => exact ⟨hsound, trivial⟩
    next hmore =>
      have hle : l.attemptsMade ≤ u32Max := hd.attempts ▸ h.sound.count.2
      have hlt : l.attemptsMade ≤ config.retry.maxRetries.toNat ∧ l.attemptsMade < u32Max := by
        omega
      refine ⟨hsound, (hd.note _).attempts, hlt, hd.deadline, ?_⟩
      intro a ha
      obtain ⟨b, -, rfl⟩ := Option.map_eq_some_iff.mp (Log.getLast?_modify.symm.trans ha)
      exact mayFollow_of_classifyAttempt hretry

variable {deadline : Instant}

/-- What is noted of an attempt while it is made leaves its deadline and its polls alone. -/
theorem Sound.noted {h : History} {kind : RequestKind} (hs : h.Sound config kind)
    (f : Attempt → Attempt) (hdeadline : ∀ a, (f a).deadline = a.deadline)
    (hpolls : ∀ a, (f a).polls = a.polls) : (h.note f).Sound config kind :=
  hs.note hdeadline fun a ha => (hpolls a).symm ▸ hs.polls a (List.mem_of_getLast? ha)

theorem deadline_note {h : History} {f : Attempt → Attempt}
    (hdeadline : ∀ a, (f a).deadline = a.deadline)
    (hlast : ∀ a, h.attempts.getLast? = some a → a.deadline = deadline) :
    ∀ a, (h.note f).attempts.getLast? = some a → a.deadline = deadline := by
  intro a ha
  obtain ⟨b, hb, rfl⟩ := Option.map_eq_some_iff.mp (Log.getLast?_modify.symm.trans ha)
  exact (hdeadline b).trans (hlast b hb)

theorem Safe.dispatch (h : Safe config o)
    (hd : AtStage config o.request.kind o.history (.registering l deadline)) (channel : Nat)
    (txnId : UInt16) : Safe config (o.dispatch l deadline channel txnId) :=
  ⟨Sound.noted h.sound _ (fun _ => rfl) fun _ => rfl, hd.1.note _,
    deadline_note (fun _ => rfl) hd.2⟩

/-- The send is polled only before the deadline of its attempt. -/
theorem polled_sound {h h' : History} {kind : RequestKind} (hpoll : h.Polled deadline h')
    (hs : h.Sound config kind) (hd : AtStage config kind h (.sending l deadline)) :
    h'.Sound config kind ∧ AtStage config kind h' (.sending l deadline) := by
  cases hpoll with
  | early => exact ⟨hs, hd⟩
  | handed hnow =>
    refine ⟨hs.note (fun _ => rfl) ?_, hd.1.note _, deadline_note (fun _ => rfl) hd.2⟩
    intro a ha t ht
    rcases List.mem_append.mp ht with ht | ht
    · exact hs.polls a (List.mem_of_getLast? ha) t ht
    · rw [List.mem_singleton.mp ht, hd.2 a ha]
      exact hnow

theorem Safe.step {e : OperationEvent} (h : Safe config o) (he : o.step limit config e = some o') :
    Safe config o' := by
  obtain ⟨request, stage, history⟩ := o
  have hat := h.stage
  cases transition_of_step he with
  | connect | admitted | proceed | inTime | queue | queued | lock | received | notReceived
  | answered | failed | closed | dropAwaiting | clean | delay | rest | restart =>
    exact ⟨h.sound, hat⟩
  | reject | refused | abandon | cancelled | exhausted | dropQueueing | dropped | restCancelled
  | dropResting | release | validate => exact ⟨h.sound, trivial⟩
  | start => exact Safe.start hat ..
  | beginAttempt => exact h.beginAttempt hat _
  | disconnected | unqueued => exact h.endAttempt hat.1 _
  | dispatch => exact h.dispatch hat _ _
  | conflict | sendTimedOut | sendCancelled | dropSending => exact ⟨h.sound, hat.1⟩
  | sending _ hpoll =>
    obtain ⟨hsound, hd⟩ := polled_sound hpoll h.sound hat
    exact ⟨hsound, hd⟩
  | sent _ hpoll | sendFailed _ hpoll =>
    obtain ⟨hsound, hd⟩ := polled_sound hpoll h.sound hat
    exact ⟨Sound.noted hsound _ (fun _ => rfl) fun _ => rfl, hd.1.note _⟩
  | cleaned => exact h.endAttempt hat _

theorem of_reachable {request : Request}
    (ho : (sendWithRetry limit config request).Reachable o) : Safe config o :=
  ho.invariant (.new config request) fun _ h he => h.step he

theorem endAttempt_request (o : SendWithRetry) (l : Loop) (result : Outcome) :
    (o.endAttempt config l result).request = o.request := by
  unfold endAttempt
  dsimp only
  split
  next => rfl
  next => split <;> rfl

theorem request_of_step {e : OperationEvent} (h : o.step limit config e = some o') :
    o'.request = o.request := by
  obtain ⟨request, stage, history⟩ := o
  cases transition_of_step h with
  | disconnected | unqueued | cleaned => exact endAttempt_request ..
  | _ => rfl

end SendWithRetry

/-- What holds of a call of `send_with_retry` at every point of its run. -/
structure RetrySafe (config : ClientConfig) (request : Request) (o : SendWithRetry) : Prop where
  request_eq : o.request = request
  mutating : request.kind = .mutating → ∀ (k : Nat) (a b : Attempt),
    o.history.attempts[k]? = some a → o.history.attempts[k + 1]? = some b →
      ∃ exc, a.result = some (.ok (.exception exc)) ∧ exc.exceptionCode = .serverDeviceBusy
  replaySafe : request.kind = .replaySafe → ∀ (k : Nat) (a b : Attempt),
    o.history.attempts[k]? = some a → o.history.attempts[k + 1]? = some b →
      (∃ exc, a.result = some (.ok (.exception exc)) ∧ exc.exceptionCode = .serverDeviceBusy) ∨
        a.result = some (.error .timeout) ∨ a.result = some (.error (.transport .timeout))
  acknowledge : ∀ (k : Nat) (a : Attempt) (exc : ExceptionResponse),
    o.history.attempts[k]? = some a → a.result = some (.ok (.exception exc)) →
      exc.exceptionCode = .acknowledge → o.history.attempts[k + 1]? = none
  count : o.history.attempts.length ≤ config.retry.maxRetries.toNat + 1 ∧
    o.history.attempts.length ≤ u32Max
  deadline : ∀ a ∈ o.history.attempts, ∃ d, o.history.operationDeadline = some d ∧ a.deadline ≤ d
  /-- Whenever the send of an attempt was polled, its deadline lay ahead. -/
  handed : ∀ a ∈ o.history.attempts, ∀ now ∈ a.polls, now < a.deadline

/-- A write that is answered with busy and then made a second time. -/
def busyWrite : List OperationEvent :=
  let attempt (start : Instant) (id : UInt16) : List OperationEvent :=
    [.isCancelled false, .now start, .now start, .load true, .pollLock false start true,
      .registered id.toNat id, .pollSend false start none, .pollSend false (start + 1) (some (.ok ()))]
  [.load true, .admitted, .now 0] ++ attempt 0 1 ++
    [.recv (some (.ok (.exception
        { functionCode := .writeSingleRegister, exceptionCode := .serverDeviceBusy }))),
      .clean, .now 4, .pollSleep false 8] ++ attempt 8 2

end RustyModbus.Client.Concurrent
