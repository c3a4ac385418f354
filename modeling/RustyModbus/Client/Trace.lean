import RustyModbus.Client.Retry
import RustyModbus.Client.Conflict

/-!
# What became of every send

The record of a call against the rest of the client. An attempt whose send was started and that
is over either heard a response that answers it or has retired the session; where the attempt
is still being made, or is being left with a retirement yet to come, that is in what the call
has left to undo. `Traced` says this of one call, and holds as long as the session is not retired.
-/

namespace RustyModbus.Client.Concurrent

/-! ## The attempt that is being made -/

namespace History

variable {P Q Q' : Attempt → Prop} {h : History}

/-- All attempts but the last, and the last. -/
def Ongoing (P Q : Attempt → Prop) (h : History) : Prop :=
  ∃ before a, h.attempts = before ++ [a] ∧ (∀ b ∈ before, P b) ∧ Q a

theorem Ongoing.mono (hh : h.Ongoing P Q) (hq : ∀ a, Q a → Q' a) : h.Ongoing P Q' := by
  obtain ⟨before, a, hattempts, hbefore, ha⟩ := hh
  exact ⟨before, a, hattempts, hbefore, hq a ha⟩

theorem Ongoing.note {f : Attempt → Attempt} (hh : h.Ongoing P Q) (hq : ∀ a, Q a → Q' (f a)) :
    (h.note f).Ongoing P Q' := by
  obtain ⟨before, a, hattempts, hbefore, ha⟩ := hh
  refine ⟨before, f a, ?_, hbefore, hq a ha⟩
  show h.attempts.modify (h.attempts.length - 1) f = _
  rw [hattempts, List.length_append, List.length_singleton, Nat.add_sub_cancel, Log.modify_concat]

/-- An attempt that is over is one of those before the next. -/
theorem Ongoing.all (hh : h.Ongoing P P) : ∀ a ∈ h.attempts, P a := by
  obtain ⟨before, a, hattempts, hbefore, ha⟩ := hh
  rw [hattempts]
  intro b hb
  rcases List.mem_append.mp hb with hb | hb
  · exact hbefore b hb
  · rw [List.mem_singleton.mp hb]
    exact ha

end History

/-! ## A unicast call -/

/-- The registration of an attempt. -/
structure Attempt.Linked (regs : List (Registration Thread)) (request : Request) (a : Attempt)
    (c : Nat) (r : Registration Thread) : Prop where
  channel : a.channel = some c
  registration : regs[c]? = some r
  expected : r.expected = request.expected
  deadline : r.deadline = a.deadline
  frame : ∃ pdu, a.frame = some (requestFrame r.txnId request.expected.unitId pdu)

/-- The attempt heard this response. -/
def Attempt.Heard (regs : List (Registration Thread)) (request : Request) (a : Attempt)
    (response : OwnedResponsePdu) : Prop :=
  ∃ c r answer arrival, a.Linked regs request c r ∧ answer ∈ r.answers ∧
    answer.result = .ok response ∧ answer.source = some arrival ∧ Genuine r response arrival ∧
    ∀ e, a.sent ≠ some (.error e)

def Attempt.Unsent (a : Attempt) : Prop := a.polls = [] ∧ a.sent = none

/-- The attempt is over and has done no harm. -/
def Attempt.Done (regs : List (Registration Thread)) (request : Request) (a : Attempt) : Prop :=
  a.Unsent ∨ ∃ response, a.result = some (.ok response) ∧ a.Heard regs request response

/-- The frame of the attempt is under way, or out. -/
def Attempt.Underway (m : Manager Thread) (i : Nat) (request : Request)
    (sent : Option (Except TransportError Unit)) (a : Attempt) : Prop :=
  a.sent = sent ∧ ∃ c r id, a.Linked m.registrations request c r ∧
    m.calls (.op i) = .registered c id

/-- The attempt is being left. -/
def Attempt.Left (regs : List (Registration Thread)) (request : Request) (cleanup : List Cleanup)
    (result : Option Outcome) (a : Attempt) : Prop :=
  (∃ reason, .retire reason ∈ cleanup) ∨ a.Unsent ∨
    ∃ response, result = some (.ok response) ∧ a.Heard regs request response

def SendWithRetry.Traced (m : Manager Thread) (i : Nat) (o : SendWithRetry) : Prop :=
  let ongoing := o.history.Ongoing (Attempt.Done m.registrations o.request)
  match o.stage with
  | .attempting _ deadline | .queueing _ deadline | .registering _ deadline =>
    ongoing fun a => a.Unsent ∧ a.deadline = deadline
  | .sending _ _ | .receiving _ => ongoing (Attempt.Underway m i o.request none)
  | .awaiting _ => ongoing (Attempt.Underway m i o.request (some (.ok ())))
  | .leaving _ cleanup result => ongoing (Attempt.Left m.registrations o.request cleanup result)
  | _ => ∀ a ∈ o.history.attempts, a.Done m.registrations o.request

/-! ## A broadcast call -/

def SendBroadcast.Traced (o : SendBroadcast) : Prop :=
  let unsent := o.polls = [] ∧ o.sent = none
  match o.stage with
  | .connecting | .admitting _ | .checking _ | .queueing _ => unsent
  | .sending => o.sent = none
  | .leaving cleanup _ => (∃ reason, .retire reason ∈ cleanup) ∨ o.sent = some (.ok ())
  | .returning _ | .returned _ => unsent ∨ o.sent = some (.ok ())

def Operation.Traced (m : Manager Thread) (i : Nat) : Operation → Prop
  | .unicast o => o.Traced m i
  | .broadcast o => o.Traced

/-! ## Later states of the transaction manager -/

section Later

variable {regs regs' : List (Registration Thread)} {request : Request} {a : Attempt}

theorem Genuine.later {r r' : Registration Thread} {response : OwnedResponsePdu}
    {arrival : Arrival} (h : Genuine r response arrival) (hl : r.Later r') :
    Genuine r' response arrival where
  decoded := h.decoded
  inTime := hl.deadline ▸ h.inTime
  unitId := hl.expected ▸ h.unitId
  functionCode := hl.expected ▸ h.functionCode
  txnId := hl.txnId ▸ h.txnId

theorem Attempt.Linked.later {c : Nat} {r : Registration Thread}
    (h : a.Linked regs request c r) (hl : RegistrationsLater regs regs') :
    ∃ r', a.Linked regs' request c r' ∧ r.Later r' := by
  obtain ⟨r', hr', hlater⟩ := hl c r h.registration
  exact ⟨r', ⟨h.channel, hr', hlater.expected.trans h.expected, hlater.deadline.trans h.deadline,
    hlater.txnId ▸ h.frame⟩, hlater⟩

theorem Attempt.Heard.later {response : OwnedResponsePdu} (h : a.Heard regs request response)
    (hl : RegistrationsLater regs regs') : a.Heard regs' request response := by
  obtain ⟨c, r, answer, arrival, hlinked, hmem, hresult, hsource, hgenuine, hsent⟩ := h
  obtain ⟨r', hlinked', hlater⟩ := hlinked.later hl
  refine ⟨c, r', answer, arrival, hlinked', ?_, hresult, hsource, hgenuine.later hlater, hsent⟩
  rw [hlater.answers (List.ne_nil_of_mem hmem)]
  exact hmem

theorem Attempt.Done.later (h : a.Done regs request) (hl : RegistrationsLater regs regs') :
    a.Done regs' request := by
  rcases h with h | ⟨response, hresult, hheard⟩
  · exact Or.inl h
  · exact Or.inr ⟨response, hresult, hheard.later hl⟩

theorem Attempt.Left.later {cleanup : List Cleanup} {result : Option Outcome}
    (h : a.Left regs request cleanup result) (hl : RegistrationsLater regs regs') :
    a.Left regs' request cleanup result := by
  rcases h with h | h | ⟨response, hresult, hheard⟩
  · exact Or.inl h
  · exact Or.inr (Or.inl h)
  · exact Or.inr (Or.inr ⟨response, hresult, hheard.later hl⟩)

theorem History.Ongoing.later {Q Q' : Attempt → Prop} {h : History}
    (hh : h.Ongoing (Attempt.Done regs request) Q) (hl : RegistrationsLater regs regs')
    (hq : ∀ a, Q a → Q' a) : h.Ongoing (Attempt.Done regs' request) Q' := by
  obtain ⟨before, a, hattempts, hbefore, ha⟩ := hh
  exact ⟨before, a, hattempts, fun b hb => (hbefore b hb).later hl, hq a ha⟩

/-- A call is still traced later, if it still has its registration. -/
theorem SendWithRetry.Traced.later {m m' : Manager Thread} {i : Nat} {o : SendWithRetry}
    (h : o.Traced m i) (hl : RegistrationsLater m.registrations m'.registrations)
    (hcalls : o.place = .dispatched ∨ o.place = .awaiting →
      m'.calls (.op i) = m.calls (.op i)) : o.Traced m' i := by
  have hunderway {sent : Option (Except TransportError Unit)}
      (hplace : o.place = .dispatched ∨ o.place = .awaiting) (a : Attempt)
      (ha : a.Underway m i o.request sent) : a.Underway m' i o.request sent := by
    obtain ⟨hsent, c, r, id, hlinked, hcall⟩ := ha
    obtain ⟨r', hlinked', -⟩ := hlinked.later hl
    exact ⟨hsent, c, r', id, hlinked', (hcalls hplace).trans hcall⟩
  unfold SendWithRetry.Traced at h ⊢
  have hplace : o.place = (o.goto o.stage).place := rfl
  dsimp only at h ⊢
  cases hstage : o.stage <;> rw [hstage] at h hplace
  case attempting | queueing | registering => exact h.later hl fun _ ha => ha
  case sending | receiving => exact h.later hl (hunderway (Or.inl hplace))
  case awaiting => exact h.later hl (hunderway (Or.inr hplace))
  case leaving => exact h.later hl fun _ ha => ha.later hl
  all_goals exact fun a ha => (h a ha).later hl

end Later

/-! ## A step of a call -/

namespace SendWithRetry

variable {limit : Instant} {config : ClientConfig} {m : Manager Thread} {i : Nat}
  {o o' : SendWithRetry} {l : Loop} {deadline : Instant}

theorem traced_endAttempt {result : Outcome}
    (h : o.history.Ongoing (Attempt.Done m.registrations o.request)
      (Attempt.Left m.registrations o.request [] (some result))) :
    (o.endAttempt config l result).Traced m i := by
  have hall : ∀ a ∈ (o.history.note fun a => { a with result := some result }).attempts,
      a.Done m.registrations o.request := by
    refine (h.note fun a ha => ?_).all
    rcases ha with ⟨_, ⟨⟩⟩ | hunsent | ⟨response, hresult, c, r, answer, arrival, hlinked, hheard⟩
    · exact Or.inl hunsent
    · exact Or.inr ⟨response, hresult, c, r, answer, arrival, { hlinked with }, hheard⟩
  unfold endAttempt
  dsimp only
  split
  next => exact hall
  next =>
    split
    next => exact hall
    next => exact hall

variable {cleanup : List Cleanup} {result : Option Outcome}

/-- Leaving with a retirement to come. -/
theorem traced_retiring {Q : Attempt → Prop}
    (h : o.history.Ongoing (Attempt.Done m.registrations o.request) Q)
    {reason : SessionRetirementReason} (hmem : .retire reason ∈ cleanup) :
    (o.goto (.leaving l cleanup result)).Traced m i :=
  h.mono fun _ _ => Or.inl ⟨reason, hmem⟩

theorem traced_beginAttempt (h : ∀ a ∈ o.history.attempts, a.Done m.registrations o.request)
    (now : Instant) : (o.beginAttempt limit config l now).Traced m i :=
  ⟨o.history.attempts, _, rfl, h, ⟨rfl, rfl⟩, rfl⟩

variable {r : Registration Thread}

theorem traced_dispatch {deadline : Instant} {c : Nat} {id : UInt16}
    (h : o.history.Ongoing (Attempt.Done m.registrations o.request)
      fun a => a.Unsent ∧ a.deadline = deadline) (hcall : m.calls (.op i) = .registered c id)
    (hr : m.registrations[c]? = some r) (hid : r.txnId = id)
    (hexpected : r.expected = o.request.expected) (hdeadline : r.deadline = deadline) :
    (o.dispatch l deadline c id).Traced m i := by
  refine h.note fun a ha => ⟨ha.1.2, c, r, id, ⟨rfl, hr, hexpected, ?_, l.pdu, ?_⟩, hcall⟩
  · exact hdeadline.trans ha.2.symm
  · rw [hid]
    rfl

/-- Nothing the record of the send under way rests on is changed by a poll. -/
theorem ongoing_polled {h h' : History} {request : Request}
    {sent : Option (Except TransportError Unit)} (hpoll : h.Polled deadline h')
    (hh : h.Ongoing (Attempt.Done m.registrations request) (Attempt.Underway m i request sent)) :
    h'.Ongoing (Attempt.Done m.registrations request) (Attempt.Underway m i request sent) := by
  cases hpoll with
  | early => exact hh
  | handed =>
    refine hh.note fun a ha => ?_
    obtain ⟨hsent, c, r, id, hlinked, hcall⟩ := ha
    exact ⟨hsent, c, r, id, { hlinked with }, hcall⟩

variable {s : ModbusClient}

/-- A response that is on the channel of the call answers it. -/
theorem heard_of_observed (hans : Answered s.manager) {c : Nat} (hc : s.HasChannel i c r)
    {response : OwnedResponsePdu}
    (hresult : some (.ok response) = r.answers.head?.map Answer.result) {a : Attempt}
    {sent : Option (Except TransportError Unit)} (ha : a.Underway s.manager i o.request sent)
    (hsent : ∀ e, sent ≠ some (.error e)) :
    a.Heard s.manager.registrations o.request response := by
  obtain ⟨hasent, c', r', id, hlinked, hcall⟩ := ha
  obtain ⟨⟨id', hcall'⟩, hr⟩ := hc
  rw [hcall'] at hcall
  cases hcall
  cases hr.symm.trans hlinked.registration
  obtain ⟨answer, hhead, hok⟩ := Option.map_eq_some_iff.mp hresult.symm
  have hmem := List.mem_of_mem_head? hhead
  have hsound := hans.answers hr hmem
  unfold Answer.Sound at hsound
  rw [hok] at hsound
  obtain ⟨arrival, hsource, hgenuine⟩ := hsound
  exact ⟨c, r, answer, arrival, hlinked, hmem, hok, hsource, hgenuine, hasent ▸ hsent⟩

/-- Leaving with the response of the channel. -/
theorem traced_answered {sent : Option (Except TransportError Unit)} (hans : Answered s.manager)
    (h : o.history.Ongoing (Attempt.Done s.manager.registrations o.request)
      (Attempt.Underway s.manager i o.request sent)) (hsent : ∀ e, sent ≠ some (.error e)) {c : Nat}
    (hc : s.HasChannel i c r) {response : OwnedResponsePdu}
    (hresult : some (.ok response) = r.answers.head?.map Answer.result) :
    (o.goto (.leaving l cleanup (some (.ok response)))).Traced s.manager i :=
  h.mono fun _ ha => Or.inr (Or.inr ⟨response, rfl, heard_of_observed hans hc hresult ha hsent⟩)

theorem left_of_clean {c : Cleanup} (h : o.history.Ongoing (Attempt.Done m.registrations o.request)
      (Attempt.Left m.registrations o.request (c :: cleanup) result))
    (hc : ∀ reason, c ≠ .retire reason) :
    o.history.Ongoing (Attempt.Done m.registrations o.request)
      (Attempt.Left m.registrations o.request cleanup result) := by
  refine h.mono fun a ha => ?_
  rcases ha with ⟨reason, hmem⟩ | ha
  · rcases List.mem_cons.mp hmem with heq | hmem
    · exact absurd heq.symm (hc reason)
    · exact Or.inl ⟨reason, hmem⟩
  · exact Or.inr ha

/-- Every step but a retirement keeps the record. -/
theorem traced_of_step {e : OperationEvent} (h : o.Traced s.manager i) (hobs : s.Observed i e)
    (hans : Answered s.manager) (hreg : ∀ {l deadline c id}, o.stage = .registering l deadline →
      s.manager.calls (.op i) = .registered c id → ∃ r, s.manager.registrations[c]? = some r ∧
        r.txnId = id ∧ r.expected = o.request.expected ∧ r.deadline = deadline)
    (hretire : ∀ reason rest, o.place = .leaving (.retire reason :: rest) → e ≠ .clean)
    (hstep : o.step limit config e = some o') : o'.Traced s.manager i := by
  obtain ⟨request, stage, history⟩ := o
  have hunsent {deadline : Instant} {result : Option Outcome} {cleanup : List Cleanup}
      (h : history.Ongoing (Attempt.Done s.manager.registrations request)
        fun a => a.Unsent ∧ a.deadline = deadline) :
      history.Ongoing (Attempt.Done s.manager.registrations request)
        (Attempt.Left s.manager.registrations request cleanup result) :=
    h.mono fun _ ha => Or.inr (Or.inl ha.1)
  have hclean {l : Loop} {c : Cleanup} {cleanup : List Cleanup} {result : Option Outcome}
      (hleaving : stage = .leaving l (c :: cleanup) result) (he : e = .clean) (reason) :
      c ≠ .retire reason := by
    rintro rfl
    exact hretire reason cleanup (by rw [hleaving]; rfl) he
  cases transition_of_step hstep with
  | connect | reject | admitted | refused | abandon | start | cancelled | proceed | exhausted
  | inTime | queue | queued | lock | sendCancelled | delay | rest | restart | restCancelled
  | dropResting | release | validate => exact h
  | beginAttempt => exact traced_beginAttempt h _
  | disconnected | unqueued => exact traced_endAttempt (hunsent h)
  | dropQueueing => exact (h.mono fun _ ha => Or.inl ha.1).all
  | dispatch =>
    obtain ⟨r, hr, hid, hexpected, hdeadline⟩ := hreg rfl hobs
    exact traced_dispatch h hobs hr hid hexpected hdeadline
  | conflict => exact hunsent h
  | sending _ hpoll => exact ongoing_polled hpoll h
  | sent _ hpoll =>
    refine (ongoing_polled hpoll h).note fun a ha => ?_
    obtain ⟨-, c, r, id, hlinked, hcall⟩ := ha
    exact ⟨rfl, c, r, id, { hlinked with }, hcall⟩
  | sendFailed _ hpoll =>
    exact (ongoing_polled hpoll h).note fun _ _ => Or.inl ⟨_, List.mem_cons_self⟩
  | sendTimedOut | dropSending | notReceived | failed | closed | dropAwaiting =>
    exact traced_retiring h List.mem_cons_self
  | received =>
    obtain ⟨c, r, hc, hresult⟩ := hobs
    exact traced_answered hans h nofun hc hresult
  | answered =>
    obtain ⟨c, r, hc, hresult, -⟩ := hobs
    exact traced_answered hans h nofun hc hresult
  | clean => exact left_of_clean h (hclean rfl rfl)
  | cleaned => exact traced_endAttempt (left_of_clean h (hclean rfl rfl))
  | dropped =>
    refine ((left_of_clean h (hclean rfl rfl)).mono fun a ha => ?_).all
    rcases ha with ⟨_, ⟨⟩⟩ | hunsent | ⟨_, ⟨⟩, _⟩
    exact Or.inl hunsent

end SendWithRetry

theorem SendBroadcast.traced_of_step {o o' : SendBroadcast} {e : OperationEvent} (h : o.Traced)
    (hretire : ∀ reason rest, o.place = .leaving (.retire reason :: rest) → e ≠ .clean)
    (hstep : o.step e = some o') : o'.Traced := by
  have hplace : o.place = (o.goto o.stage).place := rfl
  unfold step at hstep
  unfold Traced at h
  dsimp only at h
  split at hstep <;> rename_i hstage <;> try rw [hstage] at h hplace
  next =>
    cases hstep
    unfold connect
    split
    next =>
      split
      next => exact h
      next => exact Or.inl h
    next => exact Or.inl h
  next => cases hstep; exact h
  next => cases hstep; exact Or.inl h
  next => cases hstep; exact Or.inl h
  next =>
    cases hstep
    split
    next => exact Or.inl h
    next => exact h
  next =>
    cases hstep
    unfold lockSink
    split
    next => exact Or.inl h
    next =>
      split
      next => exact h.2
      next =>
        unfold Traced
        dsimp only
        rw [hstage]
        exact h
  next => cases hstep; exact Or.inl h
  next =>
    cases hstep
    unfold send
    split
    next => exact Or.inl ⟨_, List.mem_cons_self⟩
    next =>
      dsimp only
      split
      next =>
        unfold Traced
        dsimp only
        rw [hstage]
      next => exact Or.inr rfl
      next => exact Or.inl ⟨_, List.mem_cons_self⟩
  next => cases hstep; exact Or.inl ⟨_, List.mem_cons_self⟩
  next c cleanup result =>
    cases hstep
    have hleft : (∃ reason, .retire reason ∈ cleanup) ∨ o.sent = some (.ok ()) := by
      rcases h with ⟨reason, hmem⟩ | h
      · rcases List.mem_cons.mp hmem with rfl | hmem
        · exact absurd rfl (hretire reason cleanup hplace)
        · exact Or.inl ⟨reason, hmem⟩
      · exact Or.inr h
    cases cleanup with
    | nil => exact Or.inr (hleft.resolve_left nofun)
    | cons => exact hleft
  next => cases hstep; exact h
  next => cases hstep

end RustyModbus.Client.Concurrent
