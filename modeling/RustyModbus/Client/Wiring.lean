import RustyModbus.Client.Correlation
import RustyModbus.Client.Moves

/-!
# How the parts of a client fit together

An operation, its admission and its thread in the transaction manager each know where they are.
`Wired` says which of these places go together and who holds the lock of the sink, and every step
keeps it.
-/

namespace RustyModbus.Client.Concurrent

/-! ## What goes together -/

/-- The place of an operation and its admission. -/
def Place.Admits : Place → Admission → Prop
  | .outside, a => a = .entered
  | .admitting, .entered | .admitting, .checked | .admitting, .permitted | .admitting, .admitted
  | .admitting, .returning (some _) | .admitting, .ended (some _) => True
  | .admitting, _ => False
  | .inside, a | .registering _ _, a | .dispatched, a | .awaiting, a | .casting, a
  | .leaving _, a => a = .admitted
  | .returning, .admitted | .returning, .released _ | .returning, .returning none
  | .returning, .ended none => True
  | .returning, _ => False
  | .gone, .entered | .gone, .returning _ | .gone, .ended _ => True
  | .gone, _ => False

/-- A call of `register` for such a request. -/
def Call.Registering (expected : ExpectedResponse) (deadline : Instant) : Call → Prop
  | .drawing q | .locking q _ _ => q.expected = expected ∧ q.deadline = deadline
  | .registered _ _ | .refused _ => True
  | _ => False

/-- The place of an operation and its thread in the transaction manager. -/
def Place.Calls : Place → Call → Prop
  | .outside, call | .admitting, call | .casting, call | .gone, call => call = .idle
  | .inside, call | .returning, call => call.Quiet
  | .registering expected deadline, call => call.Registering expected deadline
  | .dispatched, call | .awaiting, call => call.IsRegistered
  | .leaving cleanup, call =>
    cleanup.count .dropRegistration = 1 ∧ call.IsRegistered ∨
      cleanup.count .dropRegistration = 0 ∧ call.Quiet

/-- A thread that is no operation's does not register, and only the reader takes transactions. -/
def Call.Foreign (t : Thread) : Call → Prop
  | .idle | .cancelling .. => True
  | .seeking .. | .finishing _ => t = .reader
  | _ => False

theorem Call.Foreign.reader {t : Thread} {call : Call} (h : call.Foreign t) :
    call.Foreign .reader := by
  cases call <;> trivial

namespace ModbusClient

structure Wired (s : ModbusClient) : Prop where
  aligned : s.lifecycle.admissions.length = s.operations.length
  admits : ∀ {i : Nat} {op : Operation} {a : Admission}, s.operations[i]? = some op →
    s.lifecycle.admissions[i]? = some a → op.place.Admits a
  calls : ∀ {i : Nat} {op : Operation}, s.operations[i]? = some op →
    op.place.Calls (s.manager.calls (.op i))
  fresh : ∀ {i : Nat}, s.operations.length ≤ i → s.manager.calls (.op i) = .idle
  foreign : ∀ {t : Thread}, (∀ i, t ≠ .op i) → (s.manager.calls t).Foreign t
  sink : ∀ {i : Nat} {op : Operation}, s.operations[i]? = some op → op.place.holdsSink = true →
    s.sink = some i

/-! ## An operation moves -/

theorem Goes.none {σ ε : Type} {step : σ → ε → Option σ} {t t' : σ} (h : Goes step t none t') :
    t' = t :=
  (Option.some.inj h).symm

theorem Goes.cases {σ ε : Type} {step : σ → ε → Option σ} {t t' : σ} {e : Option ε}
    (h : Goes step t e t') : e = Option.none ∧ t' = t ∨ ∃ d, e = some d ∧ step t d = some t' := by
  cases e with
  | none => exact Or.inl ⟨rfl, Goes.none h⟩
  | some d => exact Or.inr ⟨d, rfl, h⟩

theorem Goes.step {σ ε : Type} {step : σ → ε → Option σ} {t t' : σ} {e : Option ε}
    (h : Goes step t e t') : t' = t ∨ ∃ d, step t d = some t' := by
  rcases h.cases with ⟨-, h⟩ | ⟨d, -, h⟩
  · exact Or.inl h
  · exact Or.inr ⟨d, h⟩

theorem isFinishing_quiet {call : Call} (hq : call.Quiet) (h : isFinishing call = false) :
    call = .idle := by
  rcases hq with rfl | rfl
  · rfl
  · cases h

theorem count_retiring (reasons : List SessionRetirementReason) (cleanup : List Cleanup) :
    (reasons.map Cleanup.retire ++ cleanup).count .dropRegistration =
      cleanup.count .dropRegistration := by
  rw [List.count_append, List.count_eq_zero_of_not_mem, Nat.zero_add]
  intro h
  obtain ⟨r, -, hr⟩ := List.mem_map.mp h
  cases hr

/-- The cleanup that is undone first, and what is left. -/
theorem calls_clean {m m' : Manager Thread} {i : Nat} {c : Cleanup} {rest : List Cleanup}
    {place' : Place} {finding : Option SessionRetirementReason}
    (hcalls : Place.Calls (.leaving (c :: rest)) (m.calls (.op i)))
    (hm : Goes Manager.step m (managerEffect i (.leaving (c :: rest)) place' finding .clean) m') :
    Place.Calls (.leaving rest) (m'.calls (.op i)) := by
  cases c with
  | retire reason | unlock =>
    cases hm
    exact hcalls
  | dropRegistration =>
    rcases hcalls with ⟨hcount, -⟩ | ⟨hcount, -⟩
    · rw [List.count_cons_self] at hcount
      refine Or.inr ⟨Nat.succ.inj hcount, ?_⟩
      have hm : m.step (.dropRegistration (.op i)) = some m' := hm
      cases transition_of_step hm with
      | dropRemove => exact Or.inr (Function.update_self ..)
      | drop => exact Or.inl (Function.update_self ..)
    · rw [List.count_cons_self] at hcount
      cases hcount

theorem quiet_of_leaving_nil {call : Call} (h : Place.Calls (.leaving []) call) : call.Quiet := by
  rcases h with ⟨hcount, -⟩ | ⟨-, hq⟩
  · cases hcount
  · exact hq

theorem managerEffect_of_isLook {i : Nat} {place place' : Place}
    {finding : Option SessionRetirementReason} {e : OperationEvent} (h : e.IsLook)
    (hplace : place' = .inside ∨ place' = .returning) :
    managerEffect i place place' finding e = none := by
  rcases hplace with rfl | rfl <;> cases e <;> first | rfl | cases h

theorem managerEffect_of_isEnd {i : Nat} {place place' : Place}
    {finding : Option SessionRetirementReason} {e : OperationEvent} (h : e.IsEnd) :
    managerEffect i place place' finding e = none := by
  cases e <;> first | rfl | cases h

theorem calls_operate {m m' : Manager Thread} {i : Nat} {place place' : Place}
    {finding : Option SessionRetirementReason} {e : OperationEvent}
    (hmoves : place.Moves e place') (hcalls : place.Calls (m.calls (.op i)))
    (hidle : isFinishing (m.calls (.op i)) = false)
    (hreg : ∀ c id, e = .registered c id → m.calls (.op i) = .registered c id)
    (hm : Goes Manager.step m (managerEffect i place place' finding e) m') :
    place'.Calls (m'.calls (.op i)) := by
  cases hmoves with
  | connect | reject | refuse | abandon | sending | sent | casting =>
    cases Goes.none hm
    exact hcalls
  | admitCall =>
    cases Goes.none hm
    exact Or.inl hcalls
  | look h =>
    rw [managerEffect_of_isLook h (Or.inl rfl)] at hm
    cases Goes.none hm
    exact hcalls
  | finish h =>
    rcases h with h | rfl
    · rw [managerEffect_of_isLook h (Or.inr rfl)] at hm
      cases Goes.none hm
      exact hcalls
    · cases Goes.none hm
      exact hcalls
  | lock =>
    cases transition_of_step (show m.step (.register ..) = some m' from hm)
    rw [Manager.setCall_self]
    exact ⟨rfl, rfl⟩
  | lockCast | release =>
    cases Goes.none hm
    exact isFinishing_quiet hcalls hidle
  | dispatch =>
    cases Goes.none hm
    rw [hreg _ _ rfl]
    trivial
  | conflict =>
    cases transition_of_step (show m.step (.giveUp (.op i)) = some m' from hm)
    rw [Manager.setCall_self]
    exact Or.inr ⟨rfl, Or.inl rfl⟩
  | leaveDispatched reasons h | leaveAwaiting reasons h =>
    rw [managerEffect_of_isEnd h] at hm
    cases Goes.none hm
    exact Or.inl ⟨(count_retiring ..).trans rfl, hcalls⟩
  | leaveCasting reasons h =>
    rw [managerEffect_of_isEnd h] at hm
    cases Goes.none hm
    exact Or.inr ⟨(count_retiring ..).trans rfl, Or.inl hcalls⟩
  | clean => exact calls_clean hcalls hm
  | cleaned | left => exact quiet_of_leaving_nil (calls_clean hcalls hm)
  | validate =>
    cases finding with
    | none => cases Goes.none hm; exact hcalls
    | some reason => cases hm; exact hcalls

/-! ## The other steps of the transaction manager -/

/-- In a loop, or refused. -/
def Busy : Call → Prop
  | .drawing _ | .locking _ _ _ | .refused _ | .seeking .. | .cancelling .. => True
  | _ => False

theorem Busy.not_quiet {call : Call} (h : Busy call) : ¬ call.Quiet := by
  rintro (rfl | rfl) <;> cases h

theorem Busy.not_isRegistered {call : Call} (h : Busy call) : ¬ call.IsRegistered := by
  intro hr
  cases call <;> first | cases h; done | cases hr

/-- The only busy operation is one that registers. -/
theorem registering_of_busy {place : Place} {call : Call} (h : place.Calls call)
    (hb : Busy call) : ∃ expected deadline, place = .registering expected deadline ∧
      call.Registering expected deadline := by
  cases place with
  | outside | admitting | casting | gone => exact absurd (Or.inl h) hb.not_quiet
  | inside | returning => exact absurd h hb.not_quiet
  | dispatched | awaiting => exact absurd h hb.not_isRegistered
  | leaving =>
    rcases h with ⟨-, h⟩ | ⟨-, h⟩
    · exact absurd h hb.not_isRegistered
    · exact absurd h hb.not_quiet
  | registering expected deadline => exact ⟨expected, deadline, rfl, h⟩

theorem calls_of_busy {place : Place} {call call' : Call} (h : place.Calls call) (hb : Busy call)
    (hmove : ∀ expected deadline, call.Registering expected deadline →
      call'.Registering expected deadline) : place.Calls call' := by
  obtain ⟨expected, deadline, rfl, hreg⟩ := registering_of_busy h hb
  exact hmove _ _ hreg

theorem calls_of_finishing {place : Place} {a : Action} {rest : List Action}
    (h : place.Calls (.finishing (a :: rest))) : a = .notify ∧ rest = [] ∧ place.Calls .idle := by
  have hquiet (hq : Call.Quiet (.finishing (a :: rest))) : a = .notify ∧ rest = [] := by
    rcases hq with hq | hq <;> cases hq
    exact ⟨rfl, rfl⟩
  cases place with
  | outside | admitting | casting | gone | registering | dispatched | awaiting => cases h
  | inside | returning => exact ⟨(hquiet h).1, (hquiet h).2, Or.inl rfl⟩
  | leaving =>
    rcases h with ⟨-, h⟩ | ⟨hcount, h⟩
    · cases h
    · exact ⟨(hquiet h).1, (hquiet h).2, Or.inr ⟨hcount, Or.inl rfl⟩⟩

theorem see_expected (q : Search) (slot : Fin maxSlots) :
    (q.see slot).expected = q.expected ∧ (q.see slot).deadline = q.deadline := by
  unfold Search.see
  dsimp only
  split <;> exact ⟨rfl, rfl⟩

/-- An operation's thread goes on with a call. -/
theorem Calls.callStep {m : Manager Thread} {e : Concurrent.Event Thread} {i : Nat} {place : Place}
    {call call' : Call} (h : place.Calls call) (hforeign : foreign e)
    (hthread : e.thread = some (.op i)) (hstep : CallStep m e call call') : place.Calls call' := by
  cases hstep with
  | register | giveUp | remove | dropRegistration => cases hforeign
  | completeResponse | completeOldestResponse =>
    cases hthread
    cases hforeign
  | cancelAll =>
    cases hthread
    exact absurd rfl (hforeign.1 i)
  | skip => exact h
  | draw =>
    refine calls_of_busy h trivial fun expected deadline hq => ?_
    obtain ⟨hexp, hdead⟩ := see_expected _ _
    exact ⟨hexp.trans hq.1, hdead.trans hq.2⟩
  | fill | conflict => exact calls_of_busy h trivial fun _ _ _ => trivial
  | occupied => exact calls_of_busy h trivial fun _ _ hq => hq
  | look | completeOldest | cancelSlot | endCancel => exact calls_of_busy h trivial nofun
  | act =>
    obtain ⟨-, rfl, hidle⟩ := calls_of_finishing h
    exact hidle

theorem calls_foreign {m m' : Manager Thread} {e : Concurrent.Event Thread} {i : Nat}
    {place : Place} (hcalls : place.Calls (m.calls (.op i))) (hforeign : foreign e)
    (hstep : m.step e = some m') : place.Calls (m'.calls (.op i)) := by
  by_cases hthread : e.thread = some (.op i)
  · exact Calls.callStep hcalls hforeign hthread (Manager.callStep_of_step hstep hthread)
  · rw [Manager.calls_of_step hstep hthread]
    exact hcalls

theorem foreign_rest (actions : List Action) : (Call.rest actions).Foreign .reader := by
  cases actions <;> trivial

/-- A thread that is no operation's goes on. -/
theorem Foreign.callStep {m : Manager Thread} {e : Concurrent.Event Thread} {t : Thread}
    {call call' : Call} (h : call.Foreign t) (hforeign : foreign e) (hthread : e.thread = some t)
    (hstep : CallStep m e call call') : call'.Foreign t := by
  cases hstep with
  | register | giveUp | remove | dropRegistration => cases hforeign
  | skip | draw | fill | occupied | conflict => cases h
  | completeResponse =>
    cases hthread
    cases hforeign
    exact foreign_rest _
  | completeOldestResponse =>
    cases hthread
    exact hforeign
  | look => exact h
  | completeOldest | act =>
    cases h
    exact foreign_rest _
  | cancelAll | cancelSlot | endCancel => trivial

theorem foreign_of_step {m m' : Manager Thread} {e : Concurrent.Event Thread} {t : Thread}
    (hcall : (m.calls t).Foreign t) (hforeign : foreign e) (hstep : m.step e = some m') :
    (m'.calls t).Foreign t := by
  by_cases hthread : e.thread = some t
  · exact Foreign.callStep hcall hforeign hthread (Manager.callStep_of_step hstep hthread)
  · rw [Manager.calls_of_step hstep hthread]
    exact hcall

/-! ## Admissions -/

theorem lifecycleEffect_of_ne {i : Nat} {place : Place} {e : OperationEvent}
    (h : place ≠ .admitting) : lifecycleEffect i place e = none := by
  cases e <;> first | rfl | exact if_neg h

variable {limit : Instant} {config : ClientConfig} {s s' : ModbusClient}

theorem admits_operate {i : Nat} {place place' : Place} {e : OperationEvent} {a : Admission}
    {lifecycle : Lifecycle} (hmoves : place.Moves e place') (hobs : s.Observed i e)
    (ha : s.lifecycle.admissions[i]? = some a) (hadmits : place.Admits a)
    (hl : Goes Lifecycle.step s.lifecycle (lifecycleEffect i place e) lifecycle) :
    ∃ b, lifecycle.admissions = s.lifecycle.admissions.set i b ∧ place'.Admits b := by
  have same (hnone : lifecycleEffect i place e = none) (hplace : place'.Admits a) :
      ∃ b, lifecycle.admissions = s.lifecycle.admissions.set i b ∧ place'.Admits b := by
    rw [hnone] at hl
    rw [Goes.none hl]
    exact ⟨a, (Log.set_same ha).symm, hplace⟩
  cases hmoves with
  | connect | reject => cases hadmits; exact same rfl trivial
  | admitCall => cases ha.symm.trans hobs; exact same rfl rfl
  | refuse | release => cases ha.symm.trans hobs; exact same rfl trivial
  | abandon =>
    obtain ⟨a', b, -, hmoves, hset⟩ :=
      Lifecycle.admissions_of_step (e := .abandon i) hl rfl
    cases hmoves <;> exact ⟨_, hset, trivial⟩
  | look | lock | lockCast | dispatch | conflict | sending | sent | leaveDispatched
  | leaveAwaiting | casting | leaveCasting | clean | cleaned =>
    exact same (lifecycleEffect_of_ne nofun) hadmits
  | finish | left =>
    cases hadmits
    exact same (lifecycleEffect_of_ne nofun) trivial
  | validate => exact same rfl hadmits

theorem admits_harmless {e : Lifecycle.Event} {j : Nat} {op : Operation} {a b : Admission}
    (hmoves : Admission.Moves e a b) (hharmless : s.harmless e) (hj : e.admission = some j)
    (hop : s.operations[j]? = some op) (hadmits : op.place.Admits a) : op.place.Admits b := by
  cases hmoves with
  | check | refuse | acquire | fail | enter | turnBack =>
    cases hj
    obtain ⟨op', hop', hplace⟩ := hharmless
    cases hop.symm.trans hop'
    rw [hplace]
    trivial
  | abandon | abandonPermit => cases hharmless
  | release =>
    cases hj
    obtain ⟨op', hop', hplace, -⟩ := hharmless
    cases hop.symm.trans hop'
    rw [hplace]
    trivial
  | notifyIdle => revert hadmits; cases op.place <;> first | exact fun _ => trivial | exact nofun
  | returnPermit =>
    rename_i error
    revert hadmits
    cases op.place <;> cases error <;> first | exact fun _ => trivial | exact nofun

/-! ## The lock of the sink -/

theorem holdsSink_retiring (reasons : List SessionRetirementReason) (cleanup : List Cleanup) :
    (Place.retiring reasons cleanup).holdsSink = cleanup.contains .unlock := by
  induction reasons with
  | nil => rfl
  | cons reason reasons ih => exact ih

/-- The lock is taken only where it is free. -/
theorem holdsSink_of_moves {place place' : Place} {e : OperationEvent} (h : place.Moves e place')
    (hsink : place'.holdsSink = true) :
    place.holdsSink = true ∨ ∃ cancelled now, e = .pollLock cancelled now true := by
  cases h with
  | connect | reject | admitCall | refuse | abandon | look | finish | sent | cleaned | left | release
  | validate => cases hsink
  | lock | lockCast => exact Or.inr ⟨_, _, rfl⟩
  | dispatch | conflict | sending | casting | leaveDispatched | leaveCasting => exact Or.inl rfl
  | leaveAwaiting =>
    rw [holdsSink_retiring] at hsink
    cases hsink
  | clean =>
    refine Or.inl ?_
    rw [Place.holdsSink, List.contains_cons, show List.contains _ _ = true from hsink, Bool.or_true]

/-! ## Every step keeps the parts together -/

theorem thread_managerEffect {i : Nat} {place place' : Place}
    {finding : Option SessionRetirementReason} {e : OperationEvent} {me : Concurrent.Event Thread}
    (h : managerEffect i place place' finding e = some me) :
    me.thread = none ∨ me.thread = some (.op i) := by
  cases ownStep_of_managerEffect h with
  | register | giveUp | dropRegistration => exact Or.inr rfl
  | retire | validate => exact Or.inl rfl

/-- What an operation does leaves the other threads where they are. -/
theorem calls_of_managerEffect {m m' : Manager Thread} {i : Nat} {place place' : Place}
    {finding : Option SessionRetirementReason} {e : OperationEvent} {t : Thread}
    (hm : Goes Manager.step m (managerEffect i place place' finding e) m') (ht : t ≠ .op i) :
    m'.calls t = m.calls t := by
  cases he : managerEffect i place place' finding e with
  | none =>
    rw [he] at hm
    rw [Goes.none hm]
  | some me =>
    rw [he] at hm
    refine Manager.calls_of_step (e := me) hm ?_
    rcases thread_managerEffect he with h | h <;> rw [h]
    · exact nofun
    · exact fun heq => ht (Option.some.inj heq).symm

namespace Wired

theorem new (config : ClientConfig) : Wired (.new config) where
  aligned := rfl
  admits := nofun
  calls := nofun
  fresh := fun _ => rfl
  foreign := fun _ => trivial
  sink := nofun

theorem operate (hw : s.Wired) {i : Nat} {e : OperationEvent} {op op' : Operation}
    {manager : Manager Thread} {lifecycle : Lifecycle} (hop : s.operations[i]? = some op)
    (hidle : isFinishing (s.manager.calls (.op i)) = false) (hobs : s.Observed i e)
    (hmoves : op.place.Moves e op'.place)
    (hm : Goes Manager.step s.manager (managerEffect i op.place op'.place op.finding e) manager)
    (hl : Goes Lifecycle.step s.lifecycle (lifecycleEffect i op.place e) lifecycle) :
    Wired
      { s with
        manager, lifecycle
        operations := s.operations.set i op'
        sink :=
          if op'.place.holdsSink then some i else if op.place.holdsSink then none else s.sink } := by
  obtain ⟨hlt, -⟩ := List.getElem?_eq_some_iff.mp hop
  obtain ⟨a, ha⟩ : ∃ a, s.lifecycle.admissions[i]? = some a :=
    ⟨_, List.getElem?_eq_getElem (hw.aligned ▸ hlt)⟩
  obtain ⟨b, hset, hb⟩ := admits_operate hmoves hobs ha (hw.admits hop ha) hl
  constructor
  case aligned =>
    rw [hset, List.length_set, List.length_set]
    exact hw.aligned
  case admits =>
    intro j opj aj hopj haj
    rw [hset] at haj
    rcases Log.set_cases hopj with ⟨rfl, rfl⟩ | ⟨hne, hopj⟩ <;>
      rcases Log.set_cases haj with ⟨heq, rfl⟩ | ⟨hne', haj⟩
    · exact hb
    · exact absurd rfl hne'
    · exact absurd heq hne
    · exact hw.admits hopj haj
  case calls =>
    intro j opj hopj
    rcases Log.set_cases hopj with ⟨rfl, rfl⟩ | ⟨hne, hopj⟩
    · refine calls_operate hmoves (hw.calls hop) hidle ?_ hm
      rintro c id rfl
      exact hobs
    · dsimp only
      rw [calls_of_managerEffect hm fun heq => hne (Thread.op.inj heq).symm]
      exact hw.calls hopj
  case fresh =>
    intro j hj
    rw [List.length_set] at hj
    refine (calls_of_managerEffect hm fun heq => ?_).trans (hw.fresh hj)
    cases heq
    exact Nat.not_lt_of_le hj hlt
  case foreign =>
    intro t ht
    dsimp only
    rw [calls_of_managerEffect hm (ht i)]
    exact hw.foreign ht
  case sink =>
    intro j opj hopj hholds
    rcases Log.set_cases hopj with ⟨rfl, rfl⟩ | ⟨hne, hopj⟩
    · exact if_pos hholds
    have hj := hw.sink hopj hholds
    have hnot (h : op.place.holdsSink = true) : False :=
      hne (Option.some.inj ((hw.sink hop h).symm.trans hj))
    have hnot' (h : op'.place.holdsSink = true) : False := by
      rcases holdsSink_of_moves hmoves h with h | ⟨cancelled, now, rfl⟩
      · exact hnot h
      · cases (hobs.2.2 rfl).symm.trans hj
    exact (if_neg hnot').trans ((if_neg hnot).trans hj)

theorem call (hw : s.Wired) {op : Operation} (hop : op.place = .outside) :
    Wired
      { s with
        lifecycle := { s.lifecycle with admissions := s.lifecycle.admissions ++ [.entered] }
        operations := s.operations ++ [op] } := by
  constructor
  case aligned =>
    rw [List.length_append, List.length_append, hw.aligned]
    rfl
  case admits =>
    intro j opj aj hopj haj
    rcases Log.concat_eq_some.mp hopj with hopj | ⟨rfl, rfl⟩ <;>
      rcases Log.concat_eq_some.mp haj with haj | ⟨hj, rfl⟩
    · exact hw.admits hopj haj
    · obtain ⟨hlt, -⟩ := List.getElem?_eq_some_iff.mp hopj
      exact absurd (hj.trans hw.aligned) (Nat.ne_of_lt hlt)
    · obtain ⟨hlt, -⟩ := List.getElem?_eq_some_iff.mp haj
      exact absurd hw.aligned.symm (Nat.ne_of_lt hlt)
    · rw [hop]
      rfl
  case calls =>
    intro j opj hopj
    rcases Log.concat_eq_some.mp hopj with hopj | ⟨rfl, rfl⟩
    · exact hw.calls hopj
    · rw [hop]
      exact hw.fresh (Nat.le_refl _)
  case fresh =>
    intro j hj
    rw [List.length_append] at hj
    exact hw.fresh (Nat.le_trans (Nat.le_add_right ..) hj)
  case foreign => exact hw.foreign
  case sink =>
    intro j opj hopj hholds
    rcases Log.concat_eq_some.mp hopj with hopj | ⟨rfl, rfl⟩
    · exact hw.sink hopj hholds
    · rw [hop] at hholds
      cases hholds

theorem lifecycle_step (hw : s.Wired) {e : Lifecycle.Event} {lifecycle : Lifecycle}
    (hharmless : s.harmless e) (hl : s.lifecycle.step e = some lifecycle) :
    lifecycle.admissions.length = s.operations.length ∧
      ∀ {i : Nat} {op : Operation} {a : Admission}, s.operations[i]? = some op →
        lifecycle.admissions[i]? = some a → op.place.Admits a := by
  cases hj : e.admission with
  | none =>
    rw [Lifecycle.admissions_same hl hj (by rintro rfl; exact hharmless)]
    exact ⟨hw.aligned, hw.admits⟩
  | some j =>
    obtain ⟨a, b, ha, hmoves, hset⟩ := Lifecycle.admissions_of_step hl hj
    rw [hset, List.length_set]
    refine ⟨hw.aligned, fun {i op a'} hop ha' => ?_⟩
    rcases Log.set_cases ha' with ⟨rfl, rfl⟩ | ⟨-, ha'⟩
    · exact admits_harmless hmoves hharmless hj hop (hw.admits hop ha)
    · exact hw.admits hop ha'

theorem other (hw : s.Wired) {m : Option (Concurrent.Event Thread)} {l : Option Lifecycle.Event}
    {manager : Manager Thread} {lifecycle : Lifecycle} {reader : ReaderPc}
    {readerErrors : List TransportError} (hother : OtherStep s m l reader readerErrors)
    (hm : Goes Manager.step s.manager m manager) (hl : Goes Lifecycle.step s.lifecycle l lifecycle) :
    Wired { s with manager, lifecycle, reader, readerErrors } := by
  have hlife : lifecycle.admissions.length = s.operations.length ∧
      ∀ {i : Nat} {op : Operation} {a : Admission}, s.operations[i]? = some op →
        lifecycle.admissions[i]? = some a → op.place.Admits a := by
    rcases hl.cases with ⟨-, rfl⟩ | ⟨e, rfl, he⟩
    · exact ⟨hw.aligned, hw.admits⟩
    · exact hw.lifecycle_step (hother.harmless e rfl) he
  rcases hm.cases with ⟨-, rfl⟩ | ⟨e, rfl, he⟩
  · exact ⟨hlife.1, hlife.2, hw.calls, hw.fresh, hw.foreign, hw.sink⟩
  · have hf := hother.foreign e rfl
    exact ⟨hlife.1, hlife.2, fun hop => calls_foreign (hw.calls hop) hf he,
      fun hi => calls_foreign (show Place.Calls .gone _ from hw.fresh hi) hf he,
      fun ht => foreign_of_step (hw.foreign ht) hf he, hw.sink⟩

theorem step (hw : s.Wired) (h : Stepped limit config s s') : s'.Wired := by
  cases h with
  | operate hop hidle hobs hstep hm hl =>
    exact hw.operate hop hidle hobs (Operation.moves_of_step hstep) hm hl
  | call hop => exact hw.call hop.place
  | other hother hm hl => exact hw.other hother hm hl

theorem of_reachable (h : (modbusClient limit config).Reachable s) : s.Wired :=
  h.invariant (new config) fun _ hw he => hw.step (stepped_of_step he)

end Wired

/-! ## The two machines within the client -/

theorem embeds_manager :
    (modbusClient limit config).Embeds (Concurrent.manager Thread) ModbusClient.manager where
  init := rfl
  step := by
    intro s e s' he
    cases stepped_of_step he with
    | operate _ _ _ _ hm | other _ hm => exact hm.step
    | call => exact Or.inl rfl

theorem embeds_lifecycle :
    (modbusClient limit config).Embeds (Concurrent.lifecycle config.maxInFlight)
      ModbusClient.lifecycle where
  init := rfl
  step := by
    intro s e s' he
    cases stepped_of_step he with
    | operate _ _ _ _ _ hl | other _ _ hl => exact hl.step
    | call => exact Or.inr ⟨.admitCall, rfl⟩

end ModbusClient

end RustyModbus.Client.Concurrent
