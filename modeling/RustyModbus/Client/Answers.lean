import RustyModbus.Client.Ids
import RustyModbus.Client.Moves

/-!
# What requesters are answered

Where an answer comes from. A response reaches a requester only if it was decoded from a frame
that matched the request and was in time; every other answer is an error, and none of these
errors is a conflict of transactions. `Answered` holds this of what was sent and of what a thread
still has to send.
-/

namespace RustyModbus.Client

/-- `TransactionConflict`, also as the last error of the retries. -/
def ClientError.isConflict : ClientError → Bool
  | .transactionConflict _ => true
  | .retriesExhausted _ lastError => lastError.isConflict
  | _ => false

namespace Concurrent

open Function (update)

variable {ι : Type} {s s' : Manager ι}

/-! ## Sound answers -/

/-- The frame answers the request that was registered. -/
structure Genuine (r : Registration ι) (response : OwnedResponsePdu) (arrival : Arrival) :
    Prop where
  decoded : OwnedResponsePdu.fromPdu arrival.frame.pdu = .ok response
  inTime : arrival.time < r.deadline
  unitId : arrival.frame.unitId = r.expected.unitId
  functionCode : arrival.frame.pdu.head? = some r.expected.functionCode.code ∨
    arrival.frame.pdu.head? = some (r.expected.functionCode.code ||| 0x80)
  txnId : ∀ header, arrival.frame.header = .mbap header → header.transactionId = r.txnId

def Answer.Sound (r : Registration ι) (a : Answer) : Prop :=
  match a.result with
  | .ok response => ∃ arrival, a.source = some arrival ∧ Genuine r response arrival
  | .error error => error.isConflict = false

variable {a : Answer}

theorem Answer.Sound.later {r r' : Registration ι} (h : a.Sound r) (hl : r.Later r') :
    a.Sound r' := by
  unfold Answer.Sound at h ⊢
  split at h
  next =>
    obtain ⟨arrival, hsource, hdecoded, htime, hunit, hfc, hid⟩ := h
    refine ⟨arrival, hsource, hdecoded, ?_, ?_, ?_, ?_⟩
    · rw [hl.deadline]; exact htime
    · rw [hl.expected]; exact hunit
    · rw [hl.expected]; exact hfc
    · rw [hl.txnId]; exact hid
  next => exact h

/-- What is sent for a transaction that has been taken. -/
theorem sound_of_completeTaken {r : Registration ι} {p : Pending} {unitId : UnitId} {a : Arrival}
    (hopen : r.Open p) (hid : ∀ h, a.frame.header = .mbap h → p.txnId = h.transactionId)
    (hunit : a.frame.unitId = unitId) {c : Nat} {answer : Answer}
    (hmem : .send c answer ∈ (completeTaken p unitId a).1) :
    c = p.sender ∧ answer.Sound r := by
  by_cases hdel : (completeTaken p unitId a).2 = .delivered
  · obtain ⟨htime, hdel', hactions⟩ := completeTaken_delivered hdel
    obtain ⟨response, hu, hdecoded, hfc, hsends⟩ := deliverResponse_delivered hdel'
    rw [hactions, hsends] at hmem
    rcases List.mem_cons.mp hmem with hmem | hmem
    · cases hmem
    · cases List.mem_singleton.mp hmem
      refine ⟨rfl, a, rfl, hdecoded, hopen.deadline ▸ htime, ?_, ?_, fun h hh => ?_⟩
      · rw [hopen.expected, hunit, hu]
      · rw [hopen.expected]; exact hfc
      · rw [hopen.txnId, hid h hh]
  · -- every other outcome is told as an error
    unfold completeTaken deliverResponse at hdel hmem
    dsimp only at hdel hmem
    repeat' split at hdel
    all_goals simp_all [Answer.Sound, ClientError.isConflict]

/-! ## Where answers come from -/

variable {r' : Registration ι}

theorem mem_answers_modify {regs : List (Registration ι)} {c d : Nat}
    {f : Registration ι → Registration ι} (hf : ∀ r, (f r).answers = r.answers)
    (hr' : (regs.modify d f)[c]? = some r') (ha : a ∈ r'.answers) :
    ∃ r, regs[c]? = some r ∧ a ∈ r.answers := by
  rcases Log.modify_cases hr' with ⟨-, r, hr, rfl⟩ | ⟨-, hr⟩
  · exact ⟨r, hr, hf r ▸ ha⟩
  · exact ⟨r', hr, ha⟩

theorem mem_answers_free (slot : Fin maxSlots) (p : Pending) {c : Nat}
    (hr' : (s.free slot p).registrations[c]? = some r') (ha : a ∈ r'.answers) :
    ∃ r, s.registrations[c]? = some r ∧ a ∈ r.answers :=
  mem_answers_modify (f := fun r => { r with freed := r.freed + 1 }) (fun _ => rfl) hr' ha

theorem mem_answers_endLife {d c : Nat} (hr' : (s.endLife d).registrations[c]? = some r')
    (ha : a ∈ r'.answers) :
    ∃ r, s.registrations[c]? = some r ∧ a ∈ r.answers :=
  mem_answers_modify (f := fun r => { r with droppedAt := some s.drawn }) (fun _ => rfl) hr' ha

theorem mem_answers_send {c d : Nat} {a b : Answer}
    (hr' : (s.perform (.send d b)).registrations[c]? = some r') (ha : a ∈ r'.answers) :
    (∃ r, s.registrations[c]? = some r ∧ a ∈ r.answers) ∨ c = d ∧ a = b := by
  rcases Log.modify_cases hr' with ⟨rfl, r, hr, rfl⟩ | ⟨-, hr⟩
  · rcases List.mem_append.mp ha with ha | ha
    · exact Or.inl ⟨r, hr, ha⟩
    · exact Or.inr ⟨rfl, List.mem_singleton.mp ha⟩
  · exact Or.inl ⟨r', hr, ha⟩

variable {t : ι}

/-- An answer is old, was about to be sent, or is the error of a scan or of `cancel_all`. -/
theorem answer_origin [DecidableEq ι] {c : Nat} (he : Effect s s')
    (hr' : s'.registrations[c]? = some r') (ha : a ∈ r'.answers) :
    (∃ r, s.registrations[c]? = some r ∧ a ∈ r.answers) ∨
      (∃ t rest, s.calls t = .finishing (.send c a :: rest)) ∨
      ∃ error, a.result = .error error ∧
        (error = .timeout ∨ ∃ t cursor cancelled, s.calls t = .cancelling error cursor cancelled) := by
  cases he with
  | quiet _ hregs => exact Or.inl ⟨r', hregs ▸ hr', ha⟩
  | skip | draw | occupied => exact Or.inl ⟨r', hr', ha⟩
  | fill =>
    rcases Log.concat_eq_some.mp hr' with hr' | ⟨-, rfl⟩
    · exact Or.inl ⟨r', hr', ha⟩
    · cases ha
  | @take _ slot p | @remove _ slot p =>
    exact Or.inl (mem_answers_free slot p hr' ha)
  | @drop _ d => exact Or.inl (mem_answers_endLife (d := d) hr' ha)
  | @dropRemove _ d id p =>
    obtain ⟨r₁, hr₁, ha₁⟩ :=
      mem_answers_free (s := s.endLife d) (slotIdx id) p hr' ha
    exact Or.inl (mem_answers_endLife hr₁ ha₁)
  | @act t action rest hcall =>
    cases action with
    | notify | retire => exact Or.inl ⟨r', hr', ha⟩
    | send d b =>
      rcases mem_answers_send hr' ha with h | ⟨rfl, rfl⟩
      · exact Or.inl h
      · exact Or.inr (Or.inl ⟨t, rest, hcall⟩)
  | fail _ _ hregs _ _ _ herror =>
    rw [hregs] at hr'
    rcases mem_answers_send hr' ha with ⟨r₁, hr₁, ha₁⟩ | ⟨-, rfl⟩
    · exact Or.inl (mem_answers_free _ _ hr₁ ha₁)
    · exact Or.inr (Or.inr ⟨_, rfl, herror⟩)

theorem finishing_update [DecidableEq ι] {calls : ι → Call} {u : ι} {call : Call} {actions : List Action}
    (h : update calls u call t = .finishing actions) :
    calls t = .finishing actions ∨ t = u ∧ call = .finishing actions := by
  by_cases ht : t = u
  · subst ht
    rw [Function.update_self] at h
    exact Or.inr ⟨rfl, h⟩
  · rw [Function.update_of_ne ht] at h
    exact Or.inl h

/-- What a thread has left to do was left before, or follows from a slot that it emptied. -/
theorem finishing_origin [DecidableEq ι] {actions : List Action} (he : Effect s s')
    (hcall : s'.calls t = .finishing actions) :
    s.calls t = .finishing actions ∨ (∃ a, s.calls t = .finishing (a :: actions)) ∨
      actions = [.notify] ∨
      ∃ slot p unitId frame, s.slots slot = some p ∧
        (∀ h, frame.header = .mbap h → p.txnId = h.transactionId) ∧ frame.unitId = unitId ∧
        actions = (completeTaken p unitId { frame, time := s.clock }).1 := by
  have plain (hcalls : CallsPlain s.calls s'.calls) : s.calls t = .finishing actions := by
    rcases hcalls t with heq | ⟨-, hplain⟩
    · exact heq ▸ hcall
    · rw [hcall] at hplain
      cases hplain
  cases he with
  | quiet _ _ hcalls | fail _ _ _ hcalls => exact Or.inl (plain hcalls)
  | skip => exact Or.inl hcall
  | draw | occupied | fill | drop =>
    rcases finishing_update hcall with h | ⟨-, h⟩
    · exact Or.inl h
    · cases h
  | @take _ slot p unitId frame _ hslot hid hunit =>
    rcases finishing_update hcall with h | ⟨-, h⟩
    · exact Or.inl h
    · exact Or.inr (Or.inr (Or.inr ⟨slot, p, unitId, frame, hslot, hid, hunit,
        Call.rest_eq_finishing h⟩))
  | @act u action rest hold =>
    rcases finishing_update hcall with h | ⟨rfl, h⟩
    · rw [Manager.perform_calls] at h
      exact Or.inl h
    · rw [Call.rest_eq_finishing h]
      exact Or.inr (Or.inl ⟨action, hold⟩)
  | remove | dropRemove =>
    rcases finishing_update hcall with h | ⟨-, h⟩
    · exact Or.inl h
    · exact Or.inr (Or.inr (Or.inl (Call.rest_eq_finishing h)))

theorem CallStep.cancelling {e : Event ι} {call call' : Call} {error : ClientError} {cursor : Nat}
    {cancelled : Bool} (hstep : CallStep s e call call') (hthread : e.thread = some t)
    (hcall : call' = .cancelling error cursor cancelled) :
    (∃ cursor cancelled, call = .cancelling error cursor cancelled) ∨ e = .cancelAll t error := by
  cases hstep with
  | cancelAll =>
    cases hcall
    cases hthread
    exact Or.inr rfl
  | cancelSlot => cases hcall; exact Or.inl ⟨_, _, rfl⟩
  | remove h | dropRegistration h => subst hcall; rcases h with h | h <;> cases h
  | completeResponse actions | completeOldest actions => cases actions <;> cases hcall
  | @act _ _ rest => cases rest <;> cases hcall
  | _ => cases hcall

/-- A thread that cancels was told why. -/
theorem cancelling_origin [DecidableEq ι] {e : Event ι} {error : ClientError} {cursor : Nat}
    {cancelled : Bool}
    (he : s.step e = some s') (hcall : s'.calls t = .cancelling error cursor cancelled) :
    (∃ cursor cancelled, s.calls t = .cancelling error cursor cancelled) ∨
      e = .cancelAll t error := by
  by_cases hthread : e.thread = some t
  · exact (Manager.callStep_of_step he hthread).cancelling hthread hcall
  · rw [Manager.calls_of_step he hthread] at hcall
    exact Or.inl ⟨_, _, hcall⟩

/-! ## Every answer is sound -/

structure Answered (s : Manager ι) : Prop where
  answers : ∀ {c : Nat} {r : Registration ι} {a : Answer}, s.registrations[c]? = some r →
    a ∈ r.answers → a.Sound r
  sends : ∀ {t : ι} {actions : List Action} {c : Nat} {a : Answer},
    s.calls t = .finishing actions → .send c a ∈ actions →
      ∃ r, s.registrations[c]? = some r ∧ a.Sound r
  cancels : ∀ {t : ι} {error : ClientError} {cursor : Nat} {cancelled : Bool},
    s.calls t = .cancelling error cursor cancelled → error.isConflict = false

namespace Answered

theorem new : Answered (Manager.new : Manager ι) := ⟨nofun, nofun, nofun⟩

/-- What is sent later goes to the same registration. -/
theorem sends_later (h : Answered s) (hlater : RegistrationsLater s.registrations s'.registrations)
    {actions : List Action} {c : Nat} {a : Answer} (hcall : s.calls t = .finishing actions)
    (hmem : .send c a ∈ actions) : ∃ r, s'.registrations[c]? = some r ∧ a.Sound r := by
  obtain ⟨r, hr, hsound⟩ := h.sends hcall hmem
  obtain ⟨r', hr', hl⟩ := hlater c r hr
  exact ⟨r', hr', hsound.later hl⟩

theorem step [DecidableEq ι] {e : Event ι} (h : Answered s) (hc : Correlated s) (he : s.step e = some s')
    (herror : ∀ t error, e = .cancelAll t error → error.isConflict = false) : Answered s' := by
  have heffect := effect_of_step he
  have hlater := RegistrationsLater.of_effect hc heffect
  constructor
  case answers =>
    intro c r' a hr' ha
    rcases answer_origin heffect hr' ha with ⟨r, hr, ha⟩ | ⟨t, rest, hcall⟩ | ⟨error, hres, hwhy⟩
    · obtain ⟨r'', hr'', hl⟩ := hlater c r hr
      cases hr'.symm.trans hr''
      exact (h.answers hr ha).later hl
    · obtain ⟨r'', hr'', hsound⟩ := h.sends_later hlater hcall List.mem_cons_self
      cases hr'.symm.trans hr''
      exact hsound
    · unfold Answer.Sound
      rw [hres]
      rcases hwhy with rfl | ⟨t, cursor, cancelled, hcall⟩
      · rfl
      · exact h.cancels hcall
  case sends =>
    intro t actions c a hcall hmem
    rcases finishing_origin heffect hcall with
      hold | ⟨b, hold⟩ | rfl | ⟨slot, p, unitId, frame, hslot, hid, hunit, rfl⟩
    · exact h.sends_later hlater hold hmem
    · exact h.sends_later hlater hold (List.mem_cons_of_mem _ hmem)
    · cases List.mem_singleton.mp hmem
    · obtain ⟨-, r, hr, hopen⟩ := hc.guarded.slot hslot
      obtain ⟨rfl, hsound⟩ := sound_of_completeTaken hopen hid hunit hmem
      obtain ⟨r', hr', hl⟩ := hlater _ r hr
      exact ⟨r', hr', hsound.later hl⟩
  case cancels =>
    intro t error cursor cancelled hcall
    rcases cancelling_origin he hcall with ⟨_, _, hold⟩ | rfl
    · exact h.cancels hold
    · exact herror t error rfl

end Answered

end Concurrent

end RustyModbus.Client
