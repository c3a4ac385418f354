import RustyModbus.Client.Closing
import RustyModbus.Client.Trace

/-!
# When a session may be used again

The verdict is `ReuseEligible` only after a clean shutdown and only if nothing went wrong before.
`Blameless` collects what holds of a client whose verdict is not a retirement: each thing that
can go wrong has either not happened or is in the hands of someone who has yet to retire the
session, and whoever that is keeps the coordinator from publishing.
-/

namespace RustyModbus.Client.Concurrent

/-! ## The verdict -/

namespace Manager

variable {ι : Type} [DecidableEq ι] {s s' : Manager ι} {t : ι} {e : Event ι}

/-- The step says why, or the thread said so when it began. -/
def Says (s : Manager ι) (e : Event ι) (r : SessionRetirementReason) : Prop :=
  e = .retire r ∨ ∃ t rest, e = .act t ∧ s.calls t = .finishing (.retire r :: rest)

/-- The verdict is left alone, the session is retired, or a clean shutdown is published. -/
theorem verdict_of_step (he : s.step e = some s') :
    s'.verdict = s.verdict ∨
      (∃ r, s'.verdict = s.verdict.retireWith r ∧ (r.IsTyped → s.Says e r)) ∨
      e = .markCleanShutdown ∧ s'.verdict = s.verdict.markCleanShutdown := by
  have untyped {v : SessionReuseVerdict}
      (h : v = s.verdict ∨ ∃ r, v = s.verdict.retireWith r ∧ ¬ r.IsTyped) :
      v = s.verdict ∨ (∃ r, v = s.verdict.retireWith r ∧ (r.IsTyped → s.Says e r)) ∨
        e = .markCleanShutdown ∧ v = s.verdict.markCleanShutdown := by
    rcases h with h | ⟨r, h, hr⟩
    · exact Or.inl h
    · exact Or.inr (Or.inl ⟨r, h, fun ht => absurd ht hr⟩)
  cases transition_of_step he with
  | rejectResponse => exact untyped (Or.inr ⟨_, rfl, id⟩)
  | rejectOldest _ hreason =>
    exact untyped (Or.inr ⟨_, rfl, by rcases hreason with rfl | rfl <;> exact id⟩)
  | @act _ a _ h =>
    cases a with
    | notify | send => exact Or.inl rfl
    | retire r => exact Or.inr (Or.inl ⟨r, rfl, fun _ => Or.inr ⟨_, _, rfl, h⟩⟩)
  | visit =>
    unfold Manager.visit
    dsimp only
    split
    next => exact Or.inl rfl
    next =>
      split
      next => exact untyped (Or.inr ⟨.requestTimedOut, rfl, id⟩)
      next => exact Or.inl rfl
  | endScan => unfold Manager.endScan; split <;> exact Or.inl rfl
  | retire r => exact Or.inr (Or.inl ⟨r, rfl, fun _ => Or.inl rfl⟩)
  | markCleanShutdown => exact Or.inr (Or.inr ⟨rfl, rfl⟩)
  | _ => exact Or.inl rfl

theorem retired_of_step {r : SessionRetirementReason} (he : s.step e = some s')
    (h : s.verdict = .retire r) : s'.verdict = .retire r := by
  rcases verdict_of_step he with heq | ⟨r', heq, -⟩ | ⟨-, heq⟩ <;> rw [heq, h] <;> rfl

/-! ## Frames that do not answer a request -/

theorem completeTaken_blames {p : Pending} {unitId : UnitId} {a : Arrival}
    (h : (completeTaken p unitId a).2 ≠ .delivered) :
    ∃ reason, .retire reason ∈ (completeTaken p unitId a).1 := by
  unfold completeTaken deliverResponse at h ⊢
  dsimp only at h ⊢
  split
  next => exact ⟨_, List.mem_cons_of_mem _ List.mem_cons_self⟩
  next hdue =>
    rw [if_neg hdue] at h
    split
    next => exact ⟨_, List.mem_cons_of_mem _ List.mem_cons_self⟩
    next hunit =>
      rw [if_neg hunit] at h
      split
      next => exact ⟨_, List.mem_cons_of_mem _ List.mem_cons_self⟩
      next hdecode =>
        rw [hdecode] at h
        dsimp only at h
        split
        next => exact ⟨_, List.mem_cons_of_mem _ List.mem_cons_self⟩
        next hfc =>
          rw [if_neg hfc] at h
          exact absurd rfl h

/-- The thread took a transaction and knows what to do about it. -/
def Takes (s : Manager ι) (t : ι) (s' : Manager ι) : Prop :=
  ∃ p unitId arrival, s'.calls t = .rest (completeTaken p unitId arrival).1 ∧
    s'.outcomes = s.outcomes ++ [(completeTaken p unitId arrival).2]

theorem takes_take (slot : Fin maxSlots) (p : Pending) (unitId : UnitId) (frame : Frame) :
    Takes s t (s.take t slot p unitId frame) :=
  ⟨p, unitId, _, take_call .., take_outcomes ..⟩

theorem isRetired_reject (reason : SessionRetirementReason) (outcome : CompletionOutcome) :
    (s.reject t reason outcome).verdict.IsRetired :=
  SessionReuseVerdict.isRetired_retireWith ..

/-- Only a response that is completed has an outcome. -/
theorem outcomes_of_step (he : s.step e = some s') :
    s'.outcomes = s.outcomes ∨ s'.verdict.IsRetired ∨
      ∃ t, ((∃ header pdu, e = .completeResponse t header pdu) ∨ e = .completeOldest t) ∧
        ¬ (s.calls t).IsFinishing ∧ Takes s t s' := by
  cases transition_of_step he with
  | rejectResponse | rejectOldest => exact Or.inr (Or.inl (isRetired_reject ..))
  | takeResponse h =>
    exact Or.inr (Or.inr ⟨_, Or.inl ⟨_, _, rfl⟩, by rw [h]; exact id, takes_take ..⟩)
  | takeOldest h => exact Or.inr (Or.inr ⟨_, Or.inr rfl, by rw [h]; exact id, takes_take ..⟩)
  | @act _ a => cases a <;> exact Or.inl rfl
  | visit =>
    unfold Manager.visit
    dsimp only
    split
    next => exact Or.inl rfl
    next => split <;> exact Or.inl rfl
  | endScan => unfold Manager.endScan; split <;> exact Or.inl rfl
  | _ => exact Or.inl rfl

/-- A thread that has something left to do does that next. -/
theorem finishing_of_step {actions : List Action} (he : s.step e = some s')
    (hthread : e.thread = some t) (hcall : s.calls t = .finishing actions) :
    ∃ a rest, actions = a :: rest ∧ s' = (s.perform a).proceed t rest := by
  cases transition_of_step he with
  | tick | enable | beginScan | visit | endScan | wake | sleepElapsed | stop | retire
  | markCleanShutdown => cases hthread
  | act h =>
    cases hthread
    cases hcall.symm.trans h
    exact ⟨_, _, rfl, rfl⟩
  | register h | skip h | draw h | fill h | occupied h | conflict h | giveUp h | takeResponse h
  | rejectResponse h | completeOldestResponse h | look h | takeOldest h | rejectOldest h | remove h
  | removeNone h | dropRemove h | drop h | cancelAll h | cancelSlot h | passSlot h | endCancel h
  | endCancelNone h =>
    cases hthread
    cases hcall.symm.trans h

end Manager

theorem Call.rest_of_mem {a : Action} {actions : List Action} (h : a ∈ actions) :
    Call.rest actions = .finishing actions := by
  cases actions with
  | nil => cases h
  | cons => rfl

/-- Only the section under the lock of a slot ends with a registration. -/
theorem CallStep.lockSlot_of_registered {ι : Type} {m : Manager ι} {e : Event ι}
    {call call' : Call} {c : Nat}
    {id : UInt16} (h : CallStep m e call call') (hcall : call' = .registered c id) :
    ∃ t, e = .lockSlot t := by
  cases h with
  | fill => exact ⟨_, rfl⟩
  | completeResponse actions | completeOldest actions => cases actions <;> cases hcall
  | @act _ _ rest => cases rest <;> cases hcall
  | remove hquiet | dropRegistration hquiet => rcases hquiet with rfl | rfl <;> cases hcall
  | _ => cases hcall

/-- A registration ends with the drop of its guard. -/
theorem CallStep.drop_of_isRegistered {ι : Type} {m : Manager ι} {e : Event ι} {call call' : Call}
    (h : CallStep m e call call') (hcall : call.IsRegistered) : ∃ t, e = .dropRegistration t := by
  cases h with
  | dropRegistration => exact ⟨_, rfl⟩
  | _ => cases hcall

/-- Every response so far was delivered, or the reader is about to retire the session. -/
def Noted (m : Manager Thread) : Prop :=
  (∀ o ∈ m.outcomes, o = .delivered) ∨
    ∃ actions reason, m.calls .reader = .finishing actions ∧ .retire reason ∈ actions

namespace Noted

variable {m m' : Manager Thread} {e : Event Thread}

/-- The reader goes on with what it has left to do. -/
theorem act (h : Noted m) (he : m.step e = some m') (hsame : m'.outcomes = m.outcomes) :
    m'.verdict.IsRetired ∨ Noted m' := by
  rcases h with hall | ⟨actions, reason, hcall, hmem⟩
  · exact Or.inr (Or.inl (hsame ▸ hall))
  by_cases hthread : e.thread = some .reader
  · obtain ⟨a, rest, rfl, rfl⟩ := Manager.finishing_of_step he hthread hcall
    rcases List.mem_cons.mp hmem with rfl | hmem
    · exact Or.inl (SessionReuseVerdict.isRetired_retireWith ..)
    · refine Or.inr (Or.inr ⟨rest, reason, ?_, hmem⟩)
      rw [Manager.proceed, Manager.setCall_self]
      exact Call.rest_of_mem hmem
  · exact Or.inr (Or.inr ⟨actions, reason, (Manager.calls_of_step he hthread).trans hcall, hmem⟩)

theorem step (h : Noted m) (he : m.step e = some m')
    (hreader : ∀ t, (∃ header pdu, e = .completeResponse t header pdu) ∨ e = .completeOldest t →
      t = .reader) : m'.verdict.IsRetired ∨ Noted m' := by
  rcases Manager.outcomes_of_step he with
    hsame | hretired | ⟨t, hevent, hnot, p, unitId, arrival, hcall, hout⟩
  · exact h.act he hsame
  · exact Or.inl hretired
  cases hreader t hevent
  have hall : ∀ o ∈ m.outcomes, o = .delivered := by
    rcases h with hall | ⟨actions, reason, hfin, -⟩
    · exact hall
    · rw [hfin] at hnot
      exact absurd trivial hnot
  by_cases hdelivered : (completeTaken p unitId arrival).2 = .delivered
  · refine Or.inr (Or.inl fun o ho => ?_)
    rw [hout, hdelivered] at ho
    rcases List.mem_append.mp ho with ho | ho
    · exact hall o ho
    · exact List.mem_singleton.mp ho
  · obtain ⟨reason, hmem⟩ := Manager.completeTaken_blames hdelivered
    exact Or.inr (Or.inr ⟨_, reason, hcall.trans (Call.rest_of_mem hmem), hmem⟩)

end Noted

namespace ModbusClient

variable {limit : Instant} {config : ClientConfig} {s s' : ModbusClient}

variable {t : Thread}

/-- Only the reader looks for the oldest transaction. -/
theorem Wired.reader_of_seeking (hw : s.Wired) {unitId : UnitId} {pdu : List UInt8} {cursor : Nat}
    {oldest : Option (Fin maxSlots × Instant)}
    (hcall : s.manager.calls t = .seeking unitId pdu cursor oldest) : t = .reader := by
  have hforeign (ht : ∀ i, t ≠ .op i) : t = .reader := by
    have hforeign := hw.foreign ht
    rwa [hcall] at hforeign
  cases t with
  | op i =>
    cases hop : s.operations[i]? with
    | none =>
      rw [hw.fresh (List.getElem?_eq_none_iff.mp hop)] at hcall
      cases hcall
    | some op =>
      obtain ⟨expected, deadline, -, hreg⟩ :=
        registering_of_busy (hw.calls hop) (by rw [hcall]; trivial)
      rw [hcall] at hreg
      cases hreg
  | reader => rfl
  | coordinator | abort => exact hforeign nofun

variable {e : Concurrent.Event Thread}

/-- Who completes a response is the reader. -/
theorem Wired.reader_of_complete (hw : s.Wired) {m : Manager Thread}
    (hforeign : ModbusClient.foreign e) (he : s.manager.step e = some m) (t : Thread)
    (hevent : (∃ header pdu, e = .completeResponse t header pdu) ∨ e = .completeOldest t) :
    t = .reader := by
  rcases hevent with ⟨header, pdu, rfl⟩ | rfl
  · exact hforeign
  · cases transition_of_step he with
    | takeOldest h | rejectOldest h => exact hw.reader_of_seeking h

/-! ## What an operation registers -/

variable {m m' : Manager Thread}

theorem goes_later {e : Option (Concurrent.Event Thread)} (hc : Correlated m)
    (hm : Goes Manager.step m e m') :
    RegistrationsLater m.registrations m'.registrations := by
  rcases hm.step with rfl | ⟨d, hd⟩
  · exact .refl
  · exact .of_effect hc (effect_of_step hd)

/-- Where an operation registers, a registration of its own is for its request. -/
structure Registers (s : ModbusClient) : Prop where
  registration : ∀ {i : Nat} {op : Operation} {expected : ExpectedResponse} {deadline : Instant}
    {c : Nat} {id : UInt16}, s.operations[i]? = some op →
    op.place = .registering expected deadline → s.manager.calls (.op i) = .registered c id →
    ∃ r, s.manager.registrations[c]? = some r ∧ r.expected = expected ∧ r.deadline = deadline

variable {deadline : Instant}

/-- A registration is made from a search. -/
theorem registered_of_step {expected : ExpectedResponse} {c : Nat} {id : UInt16}
    (he : m.step e = some m') (hreg : (m.calls t).Registering expected deadline)
    (hcall : m'.calls t = .registered c id) :
    m.calls t = .registered c id ∨
      ∃ r, m'.registrations[c]? = some r ∧ r.expected = expected ∧ r.deadline = deadline := by
  by_cases hthread : e.thread = some t
  · by_cases hlock : e = .lockSlot t
    · subst hlock
      cases transition_of_step he with
      | fill h =>
        rw [h] at hreg
        cases (Function.update_self ..).symm.trans hcall
        exact Or.inr ⟨_, Log.concat_length, hreg⟩
      | occupied => cases (Function.update_self ..).symm.trans hcall
    · obtain ⟨u, rfl⟩ := (Manager.callStep_of_step he hthread).lockSlot_of_registered hcall
      cases hthread
      exact absurd rfl hlock
  · exact Or.inl ((Manager.calls_of_step he hthread).symm.trans hcall)

theorem registering_of_moves {place : Place} {e : OperationEvent} {expected : ExpectedResponse}
    (h : place.Moves e (.registering expected deadline)) :
    ∃ cancelled now, e = .pollLock cancelled now true := by
  cases h
  exact ⟨_, _, rfl⟩

namespace Registers

theorem new (config : ClientConfig) : Registers (.new config) := ⟨nofun⟩

theorem step (h : Registers s) (hs : (modbusClient limit config).Reachable s)
    (hstep : Stepped limit config s s') : Registers s' := by
  have hc := Correlated.of_reachable (embeds_manager.reachable hs)
  have hw := Wired.of_reachable hs
  constructor
  intro j op expected deadline c id hop hplace hcall
  cases hstep with
  | @operate i e opi op' _ _ hopi _ _ hstep hm =>
    rcases Log.set_cases hop with ⟨rfl, rfl⟩ | ⟨hne, hop⟩
    · -- it has only begun to look for a slot
      have hmoves := Operation.moves_of_step hstep
      rw [hplace] at hmoves hm
      obtain ⟨cancelled, now, rfl⟩ := registering_of_moves hmoves
      cases transition_of_step (show s.manager.step (.register ..) = some _ from hm)
      rw [Manager.setCall_self] at hcall
      cases hcall
    · dsimp only at hcall
      rw [calls_of_managerEffect hm fun heq => hne (Thread.op.inj heq).symm] at hcall
      obtain ⟨r, hr, hexpected, hdeadline⟩ := h.registration hop hplace hcall
      obtain ⟨r', hr', hlater⟩ := goes_later hc hm c r hr
      exact ⟨r', hr', hlater.expected.trans hexpected, hlater.deadline.trans hdeadline⟩
  | call hnew =>
    rcases Log.concat_eq_some.mp hop with hop | ⟨-, rfl⟩
    · exact h.registration hop hplace hcall
    · cases hnew.place.symm.trans hplace
  | other hother hm =>
    rcases hm.cases with ⟨-, rfl⟩ | ⟨e, rfl, he⟩
    · exact h.registration hop hplace hcall
    have hreg := hw.calls hop
    rw [hplace] at hreg
    rcases registered_of_step he hreg hcall with hold | hfound
    · obtain ⟨r, hr, hexpected, hdeadline⟩ := h.registration hop hplace hold
      obtain ⟨r', hr', hlater⟩ := goes_later hc hm c r hr
      exact ⟨r', hr', hlater.expected.trans hexpected, hlater.deadline.trans hdeadline⟩
    · exact hfound

theorem of_reachable (hs : (modbusClient limit config).Reachable s) : Registers s :=
  hs.invariant (new config) fun hs h he => h.step hs (stepped_of_step he)

end Registers

/-! ## The reader's end -/

/-- A reader that has ended is not in a call, and has nothing left to do about an error. -/
def ReaderRests (s : ModbusClient) : Prop :=
  s.lifecycle.reader.ended ≠ none →
    s.manager.calls .reader = .idle ∧ (s.reader = .receiving ∨ s.reader = .cancelling)

/-- A thread that is not in a call does not go on with one. -/
theorem not_continues_of_idle {m : Manager Thread} {call call' : Call} (h : CallStep m e call call')
    (hidle : call = .idle) : continues e = false := by
  cases h with
  | register | completeResponse | completeOldestResponse | remove | cancelAll => rfl
  | _ => cases hidle

theorem idle_of_step (hidle : m.calls t = .idle) (he : m.step e = some m')
    (h : e.thread ≠ some t ∨ continues e = true) : m'.calls t = .idle := by
  by_cases hthread : e.thread = some t
  · have hnot := not_continues_of_idle (Manager.callStep_of_step he hthread) hidle
    rcases h with h | h
    · exact absurd hthread h
    · rw [hnot] at h
      cases h
  · exact (Manager.calls_of_step he hthread).trans hidle

theorem isIdle_iff : s.isIdle t = true ↔ s.manager.calls t = .idle := by
  unfold isIdle
  cases s.manager.calls t <;> simp

theorem isReceiving_iff : s.isReceiving = true ↔
    s.reader = .receiving ∧ s.lifecycle.reader.ended = none ∧ s.manager.calls .reader = .idle := by
  rw [isReceiving, Bool.and_eq_true, Bool.and_eq_true, beq_iff_eq, Option.isNone_iff_eq_none,
    isIdle_iff, and_assoc]

variable {i : Nat}

theorem lifecycleEffect_eq_some {place : Place} {e : OperationEvent} {d : Lifecycle.Event}
    (h : lifecycleEffect i place e = some d) : d = .abandon i := by
  unfold lifecycleEffect at h
  split at h
  next => split at h <;> cases h; rfl
  next => cases h

variable {reason : SessionRetirementReason}

theorem thread_abortEffect {pc : AbortPc} (h : abortEffect t reason pc = some e) :
    e.thread = none ∨ e.thread = some t := by
  cases pc <;> cases h
  · exact Or.inl rfl
  · exact Or.inr rfl

theorem thread_coordinatorEffect {n : Nat} {pc : CoordinatorPc}
    (h : coordinatorEffect n pc = some e) :
    e.thread = none ∨ e.thread = some (.coordinator n) := by
  cases pc with
  | aborting pc => exact thread_abortEffect h
  | marking clean => cases clean <;> cases h <;> exact Or.inl rfl
  | readerFailed | deadlineFailed => cases h; exact Or.inl rfl
  | _ => cases h

namespace ReaderRests

theorem new (config : ClientConfig) : ReaderRests (.new config) := fun h => absurd rfl h

variable {l : Option Lifecycle.Event} {lifecycle : Lifecycle}

theorem goes_ended (hl : Goes Lifecycle.step s.lifecycle l lifecycle)
    (hne : ∀ result, l ≠ some (.endTask .reader result)) :
    lifecycle.reader.ended = s.lifecycle.reader.ended := by
  rcases hl.cases with ⟨-, rfl⟩ | ⟨d, rfl, hd⟩
  · rfl
  · exact Lifecycle.ended_of_step hd fun result heq => hne result (congrArg some heq)

variable {m : Option (Concurrent.Event Thread)} {manager : Manager Thread}

theorem goes_idle (hidle : s.manager.calls .reader = .idle)
    (hm : Goes Manager.step s.manager m manager)
    (h : ∀ e, m = some e → e.thread ≠ some .reader ∨ continues e = true) :
    manager.calls .reader = .idle := by
  rcases hm.cases with ⟨-, rfl⟩ | ⟨d, rfl, hd⟩
  · exact hidle
  · exact idle_of_step hidle hd (h d rfl)

/-- A step of another thread. -/
theorem of_other (h : ReaderRests s) {errors : List TransportError}
    (hm : Goes Manager.step s.manager m manager) (hl : Goes Lifecycle.step s.lifecycle l lifecycle)
    (hne : ∀ result, l ≠ some (.endTask .reader result))
    (hthread : ∀ e, m = some e → e.thread ≠ some .reader ∨ continues e = true) :
    ReaderRests { s with manager, lifecycle, readerErrors := errors } := by
  intro hended
  obtain ⟨hidle, hreader⟩ := h ((goes_ended hl hne) ▸ hended)
  exact ⟨goes_idle hidle hm hthread, hreader⟩

/-- A step that the reader takes while it runs. -/
theorem of_running {s' : ModbusClient} (h : s'.lifecycle.reader.ended = none) : ReaderRests s' :=
  fun hended => absurd h hended

theorem other (h : ReaderRests s) {reader : ReaderPc} {readerErrors : List TransportError}
    (hother : OtherStep s m l reader readerErrors) (hm : Goes Manager.step s.manager m manager)
    (hl : Goes Lifecycle.step s.lifecycle l lifecycle) :
    ReaderRests { s with manager, lifecycle, reader, readerErrors } := by
  cases hother with
  | tick | schedulerCancelled =>
    exact h.of_other hm hl nofun fun e he => by cases he; exact Or.inl nofun
  | shutdown | receiveTimeout => exact h.of_other hm hl nofun nofun
  | lifecycle hallows =>
    refine h.of_other hm hl (fun result heq => ?_) nofun
    cases heq
    cases hallows
  | manager hcontinues =>
    exact h.of_other hm hl nofun fun e he => by cases he; exact Or.inr hcontinues
  | abortStep =>
    refine h.of_other hm hl nofun fun e he => Or.inl ?_
    rcases thread_abortEffect he with hthread | hthread <;> rw [hthread] <;> exact nofun
  | coordinate =>
    refine h.of_other hm hl nofun fun e he => Or.inl ?_
    rcases thread_coordinatorEffect he with hthread | hthread <;> rw [hthread] <;> exact nofun
  | completeResponse hrecv | completeOldestResponse hrecv | receiveError hrecv =>
    exact of_running ((goes_ended hl nofun).trans (isReceiving_iff.mp hrecv).2.1)
  | failed hreader | disconnecting hreader =>
    refine fun hended => ?_
    obtain ⟨-, hrest⟩ := h ((goes_ended hl nofun) ▸ hended)
    rw [hreader] at hrest
    rcases hrest with hrest | hrest <;> cases hrest
  | endReader hwhere =>
    cases Goes.none hm
    refine fun _ => ?_
    rcases hwhere with hrecv | ⟨hreader, hidle⟩
    · exact ⟨(isReceiving_iff.mp hrecv).2.2, Or.inl (isReceiving_iff.mp hrecv).1⟩
    · exact ⟨isIdle_iff.mp hidle, Or.inr hreader⟩

theorem step (h : ReaderRests s) (hstep : Stepped limit config s s') : ReaderRests s' := by
  cases hstep with
  | operate _ _ _ _ hm hl =>
    intro hended
    have hsame := goes_ended hl fun _ heq => nomatch lifecycleEffect_eq_some heq
    obtain ⟨hidle, hreader⟩ := h (hsame ▸ hended)
    exact ⟨(calls_of_managerEffect (t := .reader) hm nofun).trans hidle, hreader⟩
  | call => exact h
  | other hother hm hl => exact h.other hother hm hl

theorem of_reachable (hs : (modbusClient limit config).Reachable s) : ReaderRests s :=
  hs.invariant (new config) fun {s _ _} _ (h : ReaderRests s) he => h.step (stepped_of_step he)

end ReaderRests

/-! ## A clean verdict is the coordinator's -/

variable {place place' : Place} {finding : Option SessionRetirementReason}

theorem abortEffect_ne_markCleanShutdown {pc : AbortPc} :
    abortEffect t reason pc ≠ some .markCleanShutdown := by
  cases pc <;> exact nofun

/-- Who publishes a clean shutdown is a coordinator that has closed the client. -/
theorem coordinator_of_markCleanShutdown {l : Option Lifecycle.Event} {reader : ReaderPc}
    {readerErrors : List TransportError}
    (h : OtherStep s (some .markCleanShutdown) l reader readerErrors) :
    ∃ (n : Nat) (c : Coordinator), s.lifecycle.coordinators[n]? = some c ∧
      c.pc = .marking true := by
  generalize hm : some Concurrent.Event.markCleanShutdown = m at h
  cases h with
  | @coordinate n c hc =>
    refine ⟨n, c, hc, ?_⟩
    cases hpc : c.pc <;> rw [hpc] at hm
    case marking clean =>
      cases clean with
      | true => rfl
      | false => cases hm
    case aborting => exact absurd hm.symm abortEffect_ne_markCleanShutdown
    all_goals cases hm
  | manager hc =>
    cases hm
    cases hc
  | abortStep => exact absurd hm.symm abortEffect_ne_markCleanShutdown
  | _ => cases hm

theorem eligible_of_goes {e : Option (Concurrent.Event Thread)} (hm : Goes Manager.step m e m')
    (h : m'.verdict = .reuseEligible) :
    m.verdict = .reuseEligible ∨ e = some .markCleanShutdown := by
  rcases hm.cases with ⟨-, rfl⟩ | ⟨d, rfl, hd⟩
  · exact Or.inl h
  rcases Manager.verdict_of_step hd with heq | ⟨r, heq, -⟩ | ⟨rfl, -⟩
  · exact Or.inl (heq.symm.trans h)
  · have hretired : m'.verdict.IsRetired := heq ▸ SessionReuseVerdict.isRetired_retireWith ..
    rw [h] at hretired
    cases hretired
  · exact Or.inr rfl

theorem goes_settled {l : Lifecycle} {e : Option Lifecycle.Event} {l' : Lifecycle}
    (h : l.Settled) (hs : Lifecycle.Coordinated l) (hl : Goes Lifecycle.step l e l') :
    l'.Settled := by
  rcases hl.step with rfl | ⟨d, hd⟩
  · exact h
  · exact h.step hs hd

/-- Where the verdict is clean the client is closed. -/
theorem settled_of_reachable (hs : (modbusClient limit config).Reachable s) :
    s.manager.verdict = .reuseEligible → s.lifecycle.Settled := by
  refine hs.invariant (P := fun s => s.manager.verdict = .reuseEligible → s.lifecycle.Settled)
    nofun fun {s e s'} hs h he hverdict => ?_
  have hco := Lifecycle.Coordinated.of_reachable (embeds_lifecycle.reachable hs)
  have hr := Lifecycle.Recorded.of_reachable (embeds_lifecycle.reachable hs)
  cases stepped_of_step he with
  | operate _ _ _ _ hm hl =>
    rcases eligible_of_goes hm hverdict with hold | heq
    · exact goes_settled (h hold) hco hl
    · cases ownStep_of_managerEffect heq
  | call => exact (h hverdict).step hco (e := .admitCall) rfl
  | other hother hm hl =>
    rcases eligible_of_goes hm hverdict with hold | rfl
    · exact goes_settled (h hold) hco hl
    · obtain ⟨n, c, hc, hpc⟩ := coordinator_of_markCleanShutdown hother
      exact goes_settled (.of_marking hco hr hc hpc) hco hl

/-! ## Nothing to blame the session for -/

structure Blameless (s : ModbusClient) : Prop where
  traced : ∀ {i : Nat} {op : Operation}, s.operations[i]? = some op → op.Traced s.manager i
  noted : Noted s.manager
  errors : s.readerErrors = [] ∨ ∃ error message, s.reader = .failed error message
  panics : s.lifecycle.NoPanic

theorem Operation.Traced.later {op : Operation} (h : op.Traced m i)
    (hl : RegistrationsLater m.registrations m'.registrations)
    (hcalls : op.place = .dispatched ∨ op.place = .awaiting →
      m'.calls (.op i) = m.calls (.op i)) : op.Traced m' i := by
  cases op with
  | unicast o => exact SendWithRetry.Traced.later h hl hcalls
  | broadcast o => exact h

/-- The place of a call that registers. -/
theorem place_of_registering {o : SendWithRetry} {l : Loop} (h : o.stage = .registering l deadline)
    :
    o.place = .registering o.request.expected deadline := by
  unfold SendWithRetry.place
  rw [h]

/-- An operation that has a response channel leaves the transaction manager alone. -/
theorem managerEffect_of_channel {e : OperationEvent} (h : place.Moves e place')
    (hplace : place' = .dispatched ∨ place' = .awaiting) :
    managerEffect i place place' finding e = none := by
  cases h with
  | dispatch | sending | sent => rfl
  | _ => rcases hplace with heq | heq <;> cases heq

theorem traced_of_step {e : OperationEvent} {op op' : Operation}
    (hs : (modbusClient limit config).Reachable s) (hop : s.operations[i]? = some op)
    (h : op.Traced s.manager i) (hobs : s.Observed i e)
    (hretire : ∀ reason rest, op.place = .leaving (.retire reason :: rest) → e ≠ .clean)
    (hstep : op.step limit config e = some op') : op'.Traced s.manager i := by
  have hc := Correlated.of_reachable (embeds_manager.reachable hs)
  cases op with
  | unicast o =>
    obtain ⟨o', ho', rfl⟩ := Option.map_eq_some_iff.mp hstep
    refine SendWithRetry.traced_of_step (o := o) h hobs (Untroubled.of_reachable hs).answered ?_
      hretire ho'
    intro l deadline c id hstage hcall
    obtain ⟨r, hr, hexpected, hdeadline⟩ :=
      (Registers.of_reachable hs).registration hop (place_of_registering hstage) hcall
    obtain ⟨r', hr', -, hid, -⟩ := hc.guarded.guard hcall
    cases hr.symm.trans hr'
    exact ⟨r, hr, hid, hexpected, hdeadline⟩
  | broadcast o =>
    obtain ⟨o', ho', rfl⟩ := Option.map_eq_some_iff.mp hstep
    exact SendBroadcast.traced_of_step (o := o) h hretire ho'

theorem retired_of_goes {e : Option (Concurrent.Event Thread)} (hm : Goes Manager.step m e m')
    (h : m.verdict.IsRetired) : m'.verdict.IsRetired := by
  rcases hm.step with rfl | ⟨d, hd⟩
  · exact h
  · cases hv : m.verdict with
    | retire r => rw [Manager.retired_of_step hd hv]; trivial
    | notQuiescent | reuseEligible => rw [hv] at h; cases h

theorem retired_of_retire (hm : Goes Manager.step m (some (.retire reason)) m') :
    m'.verdict.IsRetired := by
  cases transition_of_step (show m.step (.retire reason) = some m' from hm)
  exact SessionReuseVerdict.isRetired_retireWith ..

/-- A registration is given up only by the operation itself. -/
theorem registered_of_foreign (hreg : (m.calls (.op i)).IsRegistered) (hforeign : foreign e)
    (he : m.step e = some m') :
    m'.calls (.op i) = m.calls (.op i) := by
  by_cases hthread : e.thread = some (.op i)
  · obtain ⟨t, rfl⟩ := (Manager.callStep_of_step he hthread).drop_of_isRegistered hreg
    cases hforeign
  · exact Manager.calls_of_step he hthread

theorem noPanic_of_goes {l l' : Lifecycle} {e : Option Lifecycle.Event}
    (hs : Lifecycle.Coordinated l) (hr : Lifecycle.Recorded l) (h : l.NoPanic)
    (hl : Goes Lifecycle.step l e l')
    (hfailed : ∀ {n now pendingEmpty c deadline}, e = some (.coordinate n now pendingEmpty) →
      l.coordinators[n]? = some c → c.pc ≠ .readerFailed deadline) : l'.NoPanic := by
  rcases hl.cases with ⟨-, rfl⟩ | ⟨d, rfl, hd⟩
  · exact h
  · exact h.step hs hr hd fun heq => hfailed (congrArg some heq)

namespace Blameless

theorem new (config : ClientConfig) : Blameless (.new config) where
  traced := nofun
  noted := Or.inl nofun
  errors := Or.inl rfl
  panics := nofun

theorem operate (h : Blameless s) (hs : (modbusClient limit config).Reachable s) {i : Nat}
    {e : OperationEvent} {op op' : Operation} {manager : Manager Thread} {lifecycle : Lifecycle}
    {sink : Option Nat} (hop : s.operations[i]? = some op) (hobs : s.Observed i e)
    (hstep : op.step limit config e = some op')
    (hm : Goes Manager.step s.manager (managerEffect i op.place op'.place op.finding e) manager)
    (hl : Goes Lifecycle.step s.lifecycle (lifecycleEffect i op.place e) lifecycle) :
    manager.verdict.IsRetired ∨
      Blameless { s with manager, lifecycle, operations := s.operations.set i op', sink } := by
  have hc := Correlated.of_reachable (embeds_manager.reachable hs)
  have hco := Lifecycle.Coordinated.of_reachable (embeds_lifecycle.reachable hs)
  have hr := Lifecycle.Recorded.of_reachable (embeds_lifecycle.reachable hs)
  by_cases hclean : ∃ reason rest, op.place = .leaving (.retire reason :: rest) ∧ e = .clean
  · obtain ⟨reason, rest, hplace, rfl⟩ := hclean
    rw [hplace] at hm
    exact Or.inl (retired_of_retire hm)
  have hnoted : manager.verdict.IsRetired ∨ Noted manager := by
    rcases hm.cases with ⟨-, rfl⟩ | ⟨d, hd, hmd⟩
    · exact Or.inr h.noted
    · refine h.noted.step hmd fun t ht => ?_
      rcases ht with ⟨_, _, rfl⟩ | rfl <;> cases ownStep_of_managerEffect hd
  refine hnoted.imp_right fun hnoted => ⟨fun {j opj} hopj => ?_, hnoted, h.errors, ?_⟩
  · rcases Log.set_cases hopj with ⟨rfl, rfl⟩ | ⟨hne, hopj⟩
    · have htraced := traced_of_step hs hop (h.traced hop) hobs
        (fun reason rest hplace heq => hclean ⟨reason, rest, hplace, heq⟩) hstep
      refine Operation.Traced.later htraced (goes_later hc hm) fun hplace => ?_
      rw [managerEffect_of_channel (Operation.moves_of_step hstep) hplace] at hm
      rw [Goes.none hm]
    · refine Operation.Traced.later (h.traced hopj) (goes_later hc hm) fun _ => ?_
      exact calls_of_managerEffect hm fun heq => hne (Thread.op.inj heq).symm
  · exact noPanic_of_goes hco hr h.panics hl fun heq => nomatch lifecycleEffect_eq_some heq

theorem traced_new {op : Operation} (h : IsNew op) (m : Manager Thread) (i : Nat) :
    op.Traced m i := by
  cases h with
  | unicast => exact fun a ha => absurd ha List.not_mem_nil
  | broadcast => exact ⟨rfl, rfl⟩

theorem call (h : Blameless s) {op : Operation} (hop : IsNew op) :
    Blameless
      { s with
        lifecycle := { s.lifecycle with admissions := s.lifecycle.admissions ++ [.entered] }
        operations := s.operations ++ [op] } := by
  refine ⟨fun {j opj} hopj => ?_, h.noted, h.errors, h.panics⟩
  rcases Log.concat_eq_some.mp hopj with hopj | ⟨-, rfl⟩
  · exact h.traced hopj
  · exact traced_new hop _ _

/-- A step of something else that does not retire the session. -/
theorem other (h : Blameless s) (hs : (modbusClient limit config).Reachable s)
    {m : Option (Concurrent.Event Thread)} {l : Option Lifecycle.Event}
    {manager : Manager Thread} {lifecycle : Lifecycle} {reader : ReaderPc}
    {readerErrors : List TransportError} (hother : OtherStep s m l reader readerErrors)
    (hm : Goes Manager.step s.manager m manager)
    (hl : Goes Lifecycle.step s.lifecycle l lifecycle) :
    manager.verdict.IsRetired ∨ Blameless { s with manager, lifecycle, reader, readerErrors } := by
  have hc := Correlated.of_reachable (embeds_manager.reachable hs)
  have hw := Wired.of_reachable hs
  have hco := Lifecycle.Coordinated.of_reachable (embeds_lifecycle.reachable hs)
  have hr := Lifecycle.Recorded.of_reachable (embeds_lifecycle.reachable hs)
  have hnoted : manager.verdict.IsRetired ∨ Noted manager := by
    rcases hm.cases with ⟨-, rfl⟩ | ⟨d, rfl, hd⟩
    · exact Or.inr h.noted
    · exact h.noted.step hd (hw.reader_of_complete (hother.foreign d rfl) hd)
  have htraced {i : Nat} {op : Operation} (hop : s.operations[i]? = some op) :
      op.Traced manager i := by
    refine Operation.Traced.later (h.traced hop) (goes_later hc hm) fun hplace => ?_
    rcases hm.cases with ⟨-, rfl⟩ | ⟨d, rfl, hd⟩
    · rfl
    · refine registered_of_foreign ?_ (hother.foreign d rfl) hd
      have hcalls := hw.calls hop
      rcases hplace with hplace | hplace <;> rw [hplace] at hcalls <;> exact hcalls
  have hpanics (hfailed : ∀ {n now pendingEmpty c deadline},
      l = some (.coordinate n now pendingEmpty) → s.lifecycle.coordinators[n]? = some c →
        c.pc ≠ .readerFailed deadline) : lifecycle.NoPanic :=
    noPanic_of_goes hco hr h.panics hl hfailed
  cases hother with
  | tick | shutdown | manager | abortStep | completeResponse | completeOldestResponse
  | receiveTimeout | endReader | schedulerCancelled =>
    exact hnoted.imp_right fun hnoted => ⟨htraced, hnoted, h.errors, hpanics nofun⟩
  | lifecycle hallows =>
    refine hnoted.imp_right fun hnoted => ⟨htraced, hnoted, h.errors, hpanics ?_⟩
    rintro _ _ _ _ _ ⟨⟩
    cases hallows
  | @coordinate n c hn =>
    by_cases hpc : ∃ deadline, c.pc = .readerFailed deadline
    · obtain ⟨deadline, hpc⟩ := hpc
      rw [hpc] at hm
      exact Or.inl (retired_of_retire hm)
    · refine hnoted.imp_right fun hnoted => ⟨htraced, hnoted, h.errors, hpanics ?_⟩
      rintro _ _ _ c' deadline ⟨⟩ hc' hpc'
      cases hn.symm.trans hc'
      exact hpc ⟨deadline, hpc'⟩
  | receiveError =>
    exact hnoted.imp_right fun hnoted => ⟨htraced, hnoted, Or.inr ⟨_, _, rfl⟩, hpanics nofun⟩
  | failed => exact Or.inl (retired_of_retire hm)
  | disconnecting hreader =>
    refine hnoted.imp_right fun hnoted => ⟨htraced, hnoted, Or.inl ?_, hpanics nofun⟩
    rcases h.errors with hnil | ⟨error, message, hfailed⟩
    · exact hnil
    · cases hreader.symm.trans hfailed

theorem of_reachable (hs : (modbusClient limit config).Reachable s) :
    s.manager.verdict.IsRetired ∨ Blameless s := by
  refine hs.invariant (P := fun s => s.manager.verdict.IsRetired ∨ Blameless s) (Or.inr (new config))
    fun {s e s'} hs h he => ?_
  rcases h with hretired | h
  · refine Or.inl ?_
    cases stepped_of_step he with
    | operate _ _ _ _ hm | other _ hm => exact retired_of_goes hm hretired
    | call => exact hretired
  · cases stepped_of_step he with
    | operate hop _ hobs hstep hm hl => exact h.operate hs hop hobs hstep hm hl
    | call hop => exact Or.inr (h.call hop)
    | other hother hm hl => exact h.other hs hother hm hl

end Blameless

/-! ## A session that may be used again -/

/-- The operation is under its guard and has not begun to give it back. -/
def Guarded : Place → Prop
  | .inside | .registering _ _ | .dispatched | .awaiting | .casting | .leaving _ => True
  | _ => False

theorem admitted_of_guarded {place : Place} {a : Admission} (h : Guarded place)
    (ha : place.Admits a) : a = .admitted := by
  cases place with
  | inside | registering | dispatched | awaiting | casting | leaving => exact ha
  | _ => cases h

theorem done_of_traced {m : Manager Thread} {o : SendWithRetry} (h : o.Traced m i)
    (hplace : ¬ Guarded o.place) :
    ∀ a ∈ o.history.attempts, a.Done m.registrations o.request := by
  have hgoto : o.place = (o.goto o.stage).place := rfl
  unfold SendWithRetry.Traced at h
  dsimp only at h
  rw [hgoto] at hplace
  cases hstage : o.stage <;> rw [hstage] at h hplace
  case attempting | queueing | registering | sending | receiving | awaiting | leaving =>
    exact absurd trivial hplace
  all_goals exact h

theorem sent_of_traced {o : SendBroadcast} (h : o.Traced) (hplace : ¬ Guarded o.place) :
    o.polls = [] ∧ o.sent = none ∨ o.sent = some (.ok ()) := by
  have hgoto : o.place = (o.goto o.stage).place := rfl
  unfold SendBroadcast.Traced at h
  dsimp only at h
  rw [hgoto] at hplace
  cases hstage : o.stage <;> rw [hstage] at h hplace
  case connecting | admitting => exact Or.inl h
  case checking | queueing | sending | leaving => exact absurd trivial hplace
  case returning | returned => exact h

/-- With no active operation nobody is under a guard. -/
theorem not_guarded_of_active (hw : s.Wired) (hb : s.lifecycle.active = s.lifecycle.liveGuards)
    (hactive : s.lifecycle.active = 0) {op : Operation} (hop : s.operations[i]? = some op) :
    ¬ Guarded op.place := by
  intro hguarded
  obtain ⟨a, ha⟩ := hw.exists_admission hop
  cases admitted_of_guarded hguarded (hw.admits hop ha)
  have hpos := Log.countP_pos Admission.isLive ha rfl
  rw [hactive] at hb
  exact Nat.ne_of_lt hpos hb

theorem slots_of_active (hw : s.Wired) (hc : Correlated s.manager)
    (hb : s.lifecycle.active = s.lifecycle.liveGuards) (hactive : s.lifecycle.active = 0)
    (slot : Fin maxSlots) : s.manager.slots slot = none := by
  have hcard := card_occupied_add_le hw hc hb ∅ (by simp)
  rw [hactive, Finset.card_empty, Nat.add_zero, Nat.le_zero, Finset.card_eq_zero] at hcard
  refine Option.not_isSome_iff_eq_none.mp fun hsome => ?_
  have hmem : slot ∈ s.manager.occupied := Finset.mem_filter.mpr ⟨Finset.mem_univ slot, hsome⟩
  rw [hcard] at hmem
  cases hmem

/-- What a verdict of `ReuseEligible` vouches for. -/
structure ReuseSound (s : ModbusClient) : Prop where
  /-- What the coordinator saw where it closed the client. -/
  closing : ∃ c, s.lifecycle.closing = some c ∧ c.phase = .draining ∧ c.active = 0 ∧
    c.pendingEmpty = true
  phase : s.lifecycle.phase = .closed
  joined : s.lifecycle.reader.joined = true ∧ s.lifecycle.deadline.joined = true
  active : s.lifecycle.active = 0
  pending : ∀ slot, s.manager.slots slot = none
  /-- An attempt whose send was started was answered in time. The answer carries the id of the
  request if its frame carries an id at all. -/
  unicast : ∀ o, .unicast o ∈ s.operations → ∀ a ∈ o.history.attempts, a.polls ≠ [] →
    ∃ response, a.result = some (.ok response) ∧
      a.Heard s.manager.registrations o.request response
  broadcast : ∀ o, .broadcast o ∈ s.operations → o.polls ≠ [] → o.sent = some (.ok ())
  /-- No frame was unknown, a duplicate, mismatched, malformed or late. -/
  frames : ∀ outcome ∈ s.manager.outcomes, outcome = .delivered
  sends : (∀ o, .unicast o ∈ s.operations → ∀ a ∈ o.history.attempts, ∀ e,
      a.sent ≠ some (.error e)) ∧
    ∀ o, .broadcast o ∈ s.operations → ∀ e, o.sent ≠ some (.error e)
  readerErrors : s.readerErrors = []
  reader : ∃ result, s.lifecycle.reader.ended = some result ∧ result ≠ .panicked

theorem reuseSound_of_eligible (hs : (modbusClient limit config).Reachable s)
    (hverdict : s.manager.verdict = .reuseEligible) : ReuseSound s := by
  have hw := Wired.of_reachable hs
  have hc := Correlated.of_reachable (embeds_manager.reachable hs)
  have hl := embeds_lifecycle.reachable hs
  have hco := Lifecycle.Coordinated.of_reachable hl
  have hb := Lifecycle.Balanced.of_reachable hl
  have hsettled := settled_of_reachable hs hverdict
  have hblame : Blameless s := by
    rcases Blameless.of_reachable hs with hretired | hblame
    · rw [hverdict] at hretired
      cases hretired
    · exact hblame
  obtain ⟨hreader, hdeadline, hphase⟩ := hsettled.passed hco
  obtain ⟨result, hended⟩ := (Lifecycle.Recorded.of_reachable hl).ended hreader
  obtain ⟨hidle, hrests⟩ := ReaderRests.of_reachable hs (hended ▸ Option.some_ne_none _)
  have hdone {o : SendWithRetry} (ho : .unicast o ∈ s.operations) :
      ∀ a ∈ o.history.attempts, a.Done s.manager.registrations o.request := by
    obtain ⟨i, hi⟩ := List.mem_iff_getElem?.mp ho
    exact done_of_traced (hblame.traced hi) (not_guarded_of_active hw hb.active hsettled.active hi)
  have hsent {o : SendBroadcast} (ho : .broadcast o ∈ s.operations) :
      o.polls = [] ∧ o.sent = none ∨ o.sent = some (.ok ()) := by
    obtain ⟨i, hi⟩ := List.mem_iff_getElem?.mp ho
    exact sent_of_traced (hblame.traced hi) (not_guarded_of_active hw hb.active hsettled.active hi)
  constructor
  case closing =>
    obtain ⟨c, hclosing, hclean⟩ := hsettled.closing
    simp only [Closing.clean, Bool.and_eq_true, beq_iff_eq] at hclean
    exact ⟨c, hclosing, hclean.1.1, hclean.1.2, hclean.2⟩
  case phase => exact hphase
  case joined => exact ⟨hreader, hdeadline⟩
  case active => exact hsettled.active
  case pending => exact slots_of_active hw hc hb.active hsettled.active
  case unicast =>
    intro o ho a ha hpolls
    rcases hdone ho a ha with hunsent | hheard
    · exact absurd hunsent.1 hpolls
    · exact hheard
  case broadcast =>
    intro o ho hpolls
    rcases hsent ho with hunsent | hsent
    · exact absurd hunsent.1 hpolls
    · exact hsent
  case frames =>
    rcases hblame.noted with hall | ⟨actions, reason, hcall, -⟩
    · exact hall
    · cases hidle.symm.trans hcall
  case sends =>
    refine ⟨fun o ho a ha e => ?_, fun o ho e => ?_⟩
    · rcases hdone ho a ha with hunsent | ⟨_, -, _, _, _, _, -, -, -, -, -, hsent⟩
      · rw [hunsent.2]
        exact (Option.some_ne_none _).symm
      · exact hsent e
    · intro herror
      rcases hsent ho with hunsent | hsent
      · cases hunsent.2.symm.trans herror
      · cases hsent.symm.trans herror
  case readerErrors =>
    rcases hblame.errors with hnil | ⟨error, message, hfailed⟩
    · exact hnil
    · rw [hfailed] at hrests
      rcases hrests with hrests | hrests <;> cases hrests
  case reader =>
    refine ⟨result, hended, fun hpanicked => ?_⟩
    obtain ⟨pc, hpcs, hpc⟩ := hsettled.coordinators
    refine hblame.panics pc (by rw [hpcs]; exact List.mem_singleton_self pc) ?_
      (hpanicked ▸ hended)
    cases pc with
    | marking | publishing | finished => trivial
    | _ => cases hpc

theorem retired_of_run {r : SessionRetirementReason} {es : List Event}
    (h : s.manager.verdict = .retire r) (hrun : (modbusClient limit config).run s es = some s') :
    s'.manager.verdict = .retire r := by
  refine Machine.run_keeps (P := fun s => s.manager.verdict = .retire r) ?_ h hrun
  intro s e s' h he
  rcases embeds_manager.step he with hsame | ⟨d, hd⟩
  · exact hsame ▸ h
  · exact Manager.retired_of_step hd h

/-- Reuse is granted only to a session with nothing wrong, and a reason against it is final. -/
theorem reuse_sound (hs : (modbusClient limit config).Reachable s) :
    (s.manager.verdict = .reuseEligible → ReuseSound s) ∧
      ∀ r, s.manager.verdict = .retire r → ∀ es s',
        (modbusClient limit config).run s es = some s' → s'.manager.verdict = .retire r :=
  ⟨reuseSound_of_eligible hs, fun _ h _ _ hrun => retired_of_run h hrun⟩

/-- A call that is sent at once, and answered by the frame. -/
def answeredCall (i : Nat) (request : Request) (frame : Frame) : List Event :=
  [.request request, .operate i .load, .lifecycle (.check i), .lifecycle (.acquire i),
    .lifecycle (.enter i), .operate i .admission, .operate i .now, .operate i .isCancelled,
    .operate i .now, .operate i .now, .operate i .load, .operate i (.pollLock true),
    .manager (.draw (.op i)), .manager (.lockSlot (.op i)), .operate i .registration,
    .operate i (.pollSend (some (.ok ()))), .receive frame] ++
  (match frame.header with
    | .mbap _ => []
    | .rtu _ => List.replicate maxSlots (.manager (.look .reader)) ++
      [.manager (.completeOldest .reader)]) ++
  [.manager (.act .reader), .manager (.act .reader), .operate i .recv, .operate i .clean]

/-- The call gives its guard back. -/
def leave (i : Nat) : List Event :=
  [.lifecycle (.release i), .lifecycle (.notifyIdle i), .lifecycle (.returnPermit i),
    .operate i .released]

/-- A shutdown with nothing in the way, up to the verdict. -/
def cleanShutdown : List Event :=
  [.shutdown] ++ List.replicate 4 (.lifecycle (.shutdownStep 0)) ++
    List.replicate 6 (.coordinate 0) ++ [.readerStop, .schedulerCancelled] ++
    List.replicate 5 (.coordinate 0)

theorem reuse_sound_cleanShutdown :
    let config : ClientConfig :=
      { timeout := 5, maxInFlight := 20, retryDelay := 3, shutdownTimeout := 9,
        retry := { maxRetries := 1, retryableExceptions := [] } }
    let request : Request :=
      { expected := { unitId := 1, functionCode := .readCoils },
        pdu := [1, 0, 0, 0, 3], kind := .replaySafe, validate := fun _ => .ok () }
    let frame : Frame :=
      { header := .mbap { transactionId := 1, protocolId := 0, length := 4, unitId := 1 },
        pdu := [1, 1, 5] }
    ∃ s, (modbusClient 100 config).run (.new config)
        (answeredCall 0 request frame ++ leave 0 ++ cleanShutdown) = some s ∧
      s.manager.verdict = .reuseEligible ∧ ReuseSound s := by
  intro config request frame
  have hrun : ((modbusClient 100 config).run (.new config)
      (answeredCall 0 request frame ++ leave 0 ++ cleanShutdown)).map
        (fun s => s.manager.verdict) = some .reuseEligible := by decide +kernel
  obtain ⟨s, hs, hverdict⟩ := Option.map_eq_some_iff.mp hrun
  exact ⟨s, hs, hverdict, (reuse_sound (Machine.Reachable.init.run hs)).1 hverdict⟩

/-- Over a serial line the device answers the first of two requests twice, and the second answer
is taken for one to the second request. The session may still be used again. -/
theorem reuseEligible_without_id :
    let config : ClientConfig := forRtu
      { timeout := 5, maxInFlight := 20, retryDelay := 3, shutdownTimeout := 9,
        retry := { maxRetries := 1, retryableExceptions := [] } }
    let request (address : UInt8) : Request :=
      { expected := { unitId := 1, functionCode := .readCoils },
        pdu := [1, 0, address, 0, 3], kind := .replaySafe, validate := fun _ => .ok () }
    let frame : Frame := { header := .rtu 1, pdu := [1, 1, 5] }
    ∃ s, (modbusClient 100 config).run (.new config)
        (answeredCall 0 (request 0) frame ++ leave 0 ++
          (answeredCall 1 (request 8) frame ++ leave 1) ++ cleanShutdown) = some s ∧
      s.manager.verdict = .reuseEligible ∧
      (s.manager.registrations.map fun r => (r.txnId, r.answers.map fun a =>
        a.source.map (·.frame))) = [(1, [some frame]), (2, [some frame])] := by
  intro config request frame
  have hrun : ((modbusClient 100 config).run (.new config)
      (answeredCall 0 (request 0) frame ++ leave 0 ++
        (answeredCall 1 (request 8) frame ++ leave 1) ++ cleanShutdown)).map
      (fun s => (s.manager.verdict, s.manager.registrations.map fun r =>
        (r.txnId, r.answers.map fun a => a.source.map (·.frame)))) =
      some (.reuseEligible, [(1, [some frame]), (2, [some frame])]) := by decide +kernel
  obtain ⟨s, hs, heq⟩ := Option.map_eq_some_iff.mp hrun
  exact ⟨s, hs, congrArg Prod.fst heq, congrArg Prod.snd heq⟩

end ModbusClient

end RustyModbus.Client.Concurrent
