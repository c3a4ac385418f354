import RustyModbus.Client.Correlation

/-!
# Transaction ids

The ids of the registrations are those of distinct draws, and the id of a draw is its number
modulo 65535, plus one. So two registrations with one id are at least 65535 draws apart, and as
long as no guard outlives that many draws from the one that gave it its id, no other live
registration has its id: a response reaches the requester it was meant for, and a guard removes
no registration but its own.

It has to be counted from the draw and not from the moment the slot is filled. A thread that
waits between the two can be overtaken by a whole turn of the counter, and then its guard
removes the registration of another.
-/

namespace RustyModbus.Client.Concurrent

open Function (update)

variable {ι : Type}

/-! ## Draws -/


/-- The ids that are not zero. -/
def idCount : Nat := 65535

/-- The id of a draw. -/
def idOf (draw : Nat) : Nat := draw % idCount + 1

theorem exists_mul_of_idOf_eq {j k : Nat} (hlt : j < k) (h : idOf j = idOf k) :
    ∃ m, 0 < m ∧ k - j = idCount * m := by
  have hmod : (k - j) % idCount = 0 := by
    simp only [idOf, idCount] at h ⊢
    omega
  refine ⟨(k - j) / idCount, ?_, (Nat.mul_div_cancel' (Nat.dvd_of_mod_eq_zero hmod)).symm⟩
  refine Nat.pos_of_ne_zero fun h0 => ?_
  have hmul := Nat.div_add_mod (k - j) idCount
  rw [h0, hmod] at hmul
  omega

/-- The entries of the history carry the same numbers, but for guards dropped now. -/
def SameNumbers (now : Nat) (regs regs' : List (Registration ι)) : Prop :=
  ∀ (c : Nat) (r' : Registration ι), regs'[c]? = some r' → ∃ r, regs[c]? = some r ∧
    r'.draw = r.draw ∧ r'.registeredAt = r.registeredAt ∧ r'.txnId = r.txnId ∧
    (r'.droppedAt = r.droppedAt ∨ r'.droppedAt = some now)

namespace SameNumbers

variable {now : Nat} {regs regs' regs'' : List (Registration ι)}

protected theorem refl : SameNumbers now regs regs :=
  fun _ _ hr => ⟨_, hr, rfl, rfl, rfl, Or.inl rfl⟩

protected theorem trans (h : SameNumbers now regs regs') (h' : SameNumbers now regs' regs'') :
    SameNumbers now regs regs'' := by
  intro c r'' hr''
  obtain ⟨r', hr', hdraw', hat', hid', hdrop'⟩ := h' c r'' hr''
  obtain ⟨r, hr, hdraw, hat, hid, hdrop⟩ := h c r' hr'
  refine ⟨r, hr, hdraw'.trans hdraw, hat'.trans hat, hid'.trans hid, ?_⟩
  rcases hdrop' with hdrop' | hdrop'
  · rw [hdrop']
    exact hdrop
  · exact Or.inr hdrop'

theorem modify {d : Nat} {f : Registration ι → Registration ι}
    (hf : ∀ r, (f r).draw = r.draw ∧ (f r).registeredAt = r.registeredAt ∧ (f r).txnId = r.txnId ∧
      ((f r).droppedAt = r.droppedAt ∨ (f r).droppedAt = some now)) :
    SameNumbers now regs (regs.modify d f) := by
  intro c r' hr'
  rcases Log.modify_cases hr' with ⟨-, r, hr, rfl⟩ | ⟨-, hr⟩
  · exact ⟨r, hr, hf r⟩
  · exact SameNumbers.refl c r' hr

theorem free (s : Manager ι) (slot : Fin maxSlots) (p : Pending) :
    SameNumbers now s.registrations (s.free slot p).registrations :=
  modify fun _ => ⟨rfl, rfl, rfl, Or.inl rfl⟩

theorem endLife (s : Manager ι) (c : Nat) :
    SameNumbers s.drawn s.registrations (s.endLife c).registrations :=
  modify fun _ => ⟨rfl, rfl, rfl, Or.inr rfl⟩

theorem perform (s : Manager ι) (a : Action) :
    SameNumbers now s.registrations (s.perform a).registrations := by
  cases a with
  | notify | retire => exact .refl
  | send => exact modify fun _ => ⟨rfl, rfl, rfl, Or.inl rfl⟩

end SameNumbers

structure Numbered (s : Manager ι) : Prop where
  counter : if s.nextId = 0 then s.drawn % idCount = 0 else s.nextId.toNat = idOf s.drawn
  locking : ∀ {t q id k}, s.calls t = .locking q id k → k < s.drawn ∧ id.toNat = idOf k
  number : ∀ {c : Nat} {r : Registration ι}, s.registrations[c]? = some r →
    r.draw < r.registeredAt ∧ r.registeredAt ≤ s.drawn ∧ r.txnId.toNat = idOf r.draw
  dropped : ∀ {c : Nat} {r : Registration ι} {d}, s.registrations[c]? = some r →
    r.droppedAt = some d → r.registeredAt ≤ d ∧ d ≤ s.drawn
  locking_inj : ∀ {t u q q' id id' k}, s.calls t = .locking q id k →
    s.calls u = .locking q' id' k → t = u
  fresh : ∀ {t q id k} {c : Nat} {r : Registration ι}, s.calls t = .locking q id k →
    s.registrations[c]? = some r → r.draw ≠ k
  number_inj : ∀ {c d : Nat} {r r' : Registration ι}, s.registrations[c]? = some r →
    s.registrations[d]? = some r' → r.draw = r'.draw → c = d

namespace Numbered

variable {s s' : Manager ι} {t : ι}

protected theorem new : Numbered (Manager.new : Manager ι) where
  counter := rfl
  locking := nofun
  number := nofun
  dropped := nofun
  locking_inj := nofun
  fresh := nofun
  number_inj := nofun

protected theorem sameNumbers (h : Numbered s) (hnext : s'.nextId = s.nextId)
    (hdrawn : s'.drawn = s.drawn)
    (hlocking : ∀ {t q id k}, s'.calls t = .locking q id k → s.calls t = .locking q id k)
    (hregs : SameNumbers s.drawn s.registrations s'.registrations) : Numbered s' := by
  refine ⟨?_, ?_, ?_, ?_, ?_, ?_, ?_⟩
  · rw [hnext, hdrawn]
    exact h.counter
  · intro t q id k hcall
    rw [hdrawn]
    exact h.locking (hlocking hcall)
  · intro c r' hr'
    obtain ⟨r, hr, hdraw, hat, hid, -⟩ := hregs _ _ hr'
    rw [hdrawn, hdraw, hat, hid]
    exact h.number hr
  · intro c r' d hr' hd
    obtain ⟨r, hr, -, hat, -, hdrop⟩ := hregs _ _ hr'
    rw [hdrawn, hat]
    rcases hdrop with hdrop | hdrop
    · exact h.dropped hr (hdrop.symm.trans hd)
    · rw [hd] at hdrop
      cases hdrop
      exact ⟨(h.number hr).2.1, Nat.le_refl _⟩
  · intro t u q q' id id' k ht hu
    exact h.locking_inj (hlocking ht) (hlocking hu)
  · intro t q id k c r' hcall hr'
    obtain ⟨r, hr, hdraw, -⟩ := hregs _ _ hr'
    rw [hdraw]
    exact h.fresh (hlocking hcall) hr
  · intro c d r₁' r₂' hr₁' hr₂' heq
    obtain ⟨r₁, hr₁, hdraw₁, -⟩ := hregs _ _ hr₁'
    obtain ⟨r₂, hr₂, hdraw₂, -⟩ := hregs _ _ hr₂'
    rw [hdraw₁, hdraw₂] at heq
    exact h.number_inj hr₁ hr₂ heq

theorem counter_succ (h : Numbered s) (hne : s.nextId ≠ 0) :
    if s.nextId + 1 = 0 then (s.drawn + 1) % idCount = 0
    else (s.nextId + 1).toNat = idOf (s.drawn + 1) := by
  have hcounter := h.counter
  rw [if_neg hne] at hcounter
  have hadd : (s.nextId + 1).toNat = (s.nextId.toNat + 1) % 65536 := UInt16.toNat_add ..
  have hzero : s.nextId + 1 = 0 ↔ (s.nextId + 1).toNat = 0 := UInt16.toNat_inj.symm
  have hlt : s.nextId.toNat < 65536 := s.nextId.toNat_lt
  simp only [idOf, idCount] at hcounter ⊢
  split
  next h0 =>
    rw [hzero, hadd] at h0
    omega
  next h0 =>
    rw [hzero, hadd] at h0
    omega

section

variable [DecidableEq ι]

/-- A thread leaves a call for one that is not about to lock a slot. -/
theorem locking_of_update {calls : ι → Call} {call : Call} {u : ι} {q : Search} {id : UInt16}
    {k : Nat} (h : update calls t call u = .locking q id k) (hnew : ¬ call.IsLocking) :
    u ≠ t ∧ calls u = .locking q id k := by
  by_cases hu : u = t
  · subst hu
    rw [Function.update_self] at h
    exact absurd (h ▸ trivial) hnew
  · rw [Function.update_of_ne hu] at h
    exact ⟨hu, h⟩

theorem not_isLocking_rest (actions : List Action) : ¬ (Call.rest actions).IsLocking := by
  cases actions <;> exact not_false

protected theorem draw {q : Search} (h : Numbered s) (hne : s.nextId ≠ 0) :
    Numbered { s with
      nextId := s.nextId + 1
      calls := update s.calls t (.locking (q.see (slotIdx s.nextId)) s.nextId s.drawn)
      drawn := s.drawn + 1 } := by
  have hid : s.nextId.toNat = idOf s.drawn := by
    have hcounter := h.counter
    rwa [if_neg hne] at hcounter
  -- the thread that has drawn, or one that had drawn before
  have hcases {u : ι} {q' : Search} {id : UInt16} {k : Nat}
      (hu : update s.calls t (.locking (q.see (slotIdx s.nextId)) s.nextId s.drawn) u
        = .locking q' id k) :
      u = t ∧ id = s.nextId ∧ k = s.drawn ∨ s.calls u = .locking q' id k ∧ k < s.drawn := by
    by_cases hut : u = t
    · subst hut
      rw [Function.update_self] at hu
      cases hu
      exact Or.inl ⟨rfl, rfl, rfl⟩
    · rw [Function.update_of_ne hut] at hu
      exact Or.inr ⟨hu, (h.locking hu).1⟩
  refine ⟨h.counter_succ hne, ?_, ?_, ?_, ?_, ?_, h.number_inj⟩
  · intro u q' id k hu
    rcases hcases hu with ⟨-, rfl, rfl⟩ | ⟨hold, -⟩
    · exact ⟨Nat.lt_succ_self _, hid⟩
    · exact ⟨Nat.lt_succ_of_lt (h.locking hold).1, (h.locking hold).2⟩
  · intro c r hr
    obtain ⟨hlt, hle, htxn⟩ := h.number hr
    exact ⟨hlt, Nat.le_succ_of_le hle, htxn⟩
  · intro c r d hr hd
    obtain ⟨hle, hle'⟩ := h.dropped hr hd
    exact ⟨hle, Nat.le_succ_of_le hle'⟩
  · intro u v q₁ q₂ id₁ id₂ k hu hv
    rcases hcases hu with ⟨rfl, -, rfl⟩ | ⟨hu, hlt⟩ <;> rcases hcases hv with ⟨rfl, -, hk⟩ | ⟨hv, hlt'⟩
    · rfl
    · exact absurd hlt' (Nat.lt_irrefl _)
    · exact absurd (hk ▸ hlt) (Nat.lt_irrefl _)
    · exact h.locking_inj hu hv
  · intro u q' id k c r hu hr
    rcases hcases hu with ⟨-, -, rfl⟩ | ⟨hu, -⟩
    · obtain ⟨hlt, hle, -⟩ := h.number hr
      exact Nat.ne_of_lt (Nat.lt_of_lt_of_le hlt hle)
    · exact h.fresh hu hr

protected theorem fill {q : Search} {id : UInt16} {k : Nat} (h : Numbered s)
    (hcall : s.calls t = .locking q id k) : Numbered (s.fill t q id k) := by
  obtain ⟨hlt, hid⟩ := h.locking hcall
  have hlocking {u : ι} {q' : Search} {id' : UInt16} {k' : Nat}
      (hu : (s.fill t q id k).calls u = .locking q' id' k') :
      u ≠ t ∧ s.calls u = .locking q' id' k' := locking_of_update hu not_false
  refine ⟨h.counter, fun hu => h.locking (hlocking hu).2, ?_, ?_, ?_, ?_, ?_⟩
  · intro c r hr
    rcases Log.concat_eq_some.mp hr with hr | ⟨-, rfl⟩
    · exact h.number hr
    · exact ⟨hlt, Nat.le_refl _, hid⟩
  · intro c r d hr hd
    rcases Log.concat_eq_some.mp hr with hr | ⟨-, rfl⟩
    · exact h.dropped hr hd
    · cases hd
  · intro u v q₁ q₂ id₁ id₂ k' hu hv
    exact h.locking_inj (hlocking hu).2 (hlocking hv).2
  · intro u q' id' k' c r hu hr
    obtain ⟨hut, hu⟩ := hlocking hu
    rcases Log.concat_eq_some.mp hr with hr | ⟨-, rfl⟩
    · exact h.fresh hu hr
    · rintro rfl
      exact hut (h.locking_inj hu hcall)
  · intro c d r₁ r₂ hr₁ hr₂ heq
    rcases Log.concat_eq_some.mp hr₁ with hr₁ | ⟨rfl, rfl⟩ <;>
      rcases Log.concat_eq_some.mp hr₂ with hr₂ | ⟨rfl, rfl⟩
    · exact h.number_inj hr₁ hr₂ heq
    · exact absurd heq (h.fresh hcall hr₁)
    · exact absurd heq.symm (h.fresh hcall hr₂)
    · rfl

protected theorem effect (h : Numbered s) (he : Effect s s') : Numbered s' := by
  have hplain {s' : Manager ι} (hcalls : CallsPlain s.calls s'.calls) {u : ι} {q : Search}
      {id : UInt16} {k : Nat} (hu : s'.calls u = .locking q id k) : s.calls u = .locking q id k :=
    (hcalls.sameOn (fun _ => Call.not_plain_of_isLocking) u (.locking q id k) trivial).mp hu
  cases he with
  | quiet hslots hregs hcalls hnext hdrawn =>
    exact h.sameNumbers hnext hdrawn (hplain hcalls) (hregs ▸ .refl)
  | skip hzero =>
    have hcounter := h.counter
    rw [if_pos hzero] at hcounter
    refine { h with counter := ?_ }
    show if (1 : UInt16) = 0 then _ else (1 : UInt16).toNat = s.drawn % idCount + 1
    rw [if_neg (by decide), hcounter]
    rfl
  | draw _ hne => exact h.draw hne
  | occupied =>
    exact h.sameNumbers rfl rfl (fun hu => (locking_of_update hu not_false).2) .refl
  | fill hcall => exact h.fill hcall
  | @take t slot p | @remove t slot p =>
    exact h.sameNumbers rfl rfl (fun hu => (locking_of_update hu (not_isLocking_rest _)).2)
      (.free s slot p)
  | @act t a rest =>
    refine h.sameNumbers ?_ ?_ (fun hu => ?_) (.perform s a)
    · cases a <;> rfl
    · cases a <;> rfl
    · have hcalls : (s.perform a).calls = s.calls := by cases a <;> rfl
      exact hcalls ▸ (locking_of_update hu (not_isLocking_rest _)).2
  | drop =>
    exact h.sameNumbers rfl rfl (fun hu => (locking_of_update hu not_false).2) (.endLife s _)
  | @dropRemove t c id p =>
    exact h.sameNumbers rfl rfl (fun hu => (locking_of_update hu (not_isLocking_rest _)).2)
      (.trans (.endLife s c) (.free (s.endLife c) (slotIdx id) p))
  | @fail _ slot p _ _ _ hregs hcalls hnext hdrawn =>
    exact h.sameNumbers hnext hdrawn (hplain hcalls)
      (hregs ▸ .trans (.free s slot p) (.perform (s.free slot p) _))

theorem of_reachable (hs : (manager ι).Reachable s) : Numbered s :=
  hs.invariant .new fun _ h he => h.effect (effect_of_step he)

end

end Numbered

/-! ## One live registration to an id -/

/-- Fewer than 65535 ids are drawn between the draw of a registration's id and the drop of its
guard. -/
def Timely (s : Manager ι) : Prop :=
  ∀ {c : Nat} {r : Registration ι}, s.registrations[c]? = some r →
    r.droppedAt.getD s.drawn - (r.draw + 1) < idCount

namespace Numbered

variable {s : Manager ι} {c d : Nat} {r r' : Registration ι}

theorem draws_apart (h : Numbered s) (hr : s.registrations[c]? = some r)
    (hr' : s.registrations[d]? = some r') (hne : c ≠ d) (hid : r.txnId = r'.txnId) :
    ∃ m, 0 < m ∧ (r.draw = r'.draw + idCount * m ∨ r'.draw = r.draw + idCount * m) := by
  have hidOf : idOf r.draw = idOf r'.draw := by
    rw [← (h.number hr).2.2, ← (h.number hr').2.2, hid]
  rcases Nat.lt_trichotomy r.draw r'.draw with hlt | heq | hlt
  · obtain ⟨m, hm, hsub⟩ := exists_mul_of_idOf_eq hlt hidOf
    exact ⟨m, hm, Or.inr (by omega)⟩
  · exact absurd (h.number_inj hr hr' heq) hne
  · obtain ⟨m, hm, hsub⟩ := exists_mul_of_idOf_eq hlt hidOf.symm
    exact ⟨m, hm, Or.inl (by omega)⟩

/-- Of two registrations with one id the guard of the older is gone. -/
theorem live_unique (h : Numbered s) (htimely : Timely s) (hr : s.registrations[c]? = some r)
    (hr' : s.registrations[d]? = some r') (hid : r.txnId = r'.txnId) (hlive : r.droppedAt = none)
    (hlive' : r'.droppedAt = none) : c = d := by
  refine Decidable.not_not.mp fun hne => ?_
  obtain ⟨m, hm, hdraws⟩ := h.draws_apart hr hr' hne hid
  have hlt := htimely hr
  have hlt' := htimely hr'
  rw [hlive, Option.getD_none] at hlt
  rw [hlive', Option.getD_none] at hlt'
  have hdrawn := h.number hr
  have hdrawn' := h.number hr'
  have hmul : idCount ≤ idCount * m := Nat.le_mul_of_pos_right _ hm
  rcases hdraws with hdraw | hdraw <;> omega

end Numbered

section

variable [DecidableEq ι] {s s' : Manager ι} {t : ι}

theorem txnId_ne_zero (hs : (manager ι).Reachable s) {c : Nat} {r : Registration ι}
    (hr : s.registrations[c]? = some r) : r.txnId ≠ 0 := by
  have hid := ((Numbered.of_reachable hs).number hr).2.2
  intro h0
  rw [h0, idOf] at hid
  exact absurd hid (Nat.succ_ne_zero _).symm

variable {header : MbapHeader}

/-- What makes a response be delivered: the id is that of the transaction in the slot, which is
not due, and unit and function are those of the request. -/
structure Delivers (s : Manager ι) (header : MbapHeader) (pdu : List UInt8) (p : Pending)
    (response : OwnedResponsePdu) : Prop where
  slot : s.slots (slotIdx header.transactionId) = some p
  txnId : p.txnId = header.transactionId
  inTime : s.clock < p.deadline
  unitId : header.unitId = p.expected.unitId
  decoded : OwnedResponsePdu.fromPdu pdu = .ok response
  functionCode : pdu.head? = some p.expected.functionCode.code ∨
    pdu.head? = some (p.expected.functionCode.code ||| 0x80)

variable {p : Pending}

/-- What a delivered response was, and what is left to do with it. -/
theorem deliverResponse_delivered {unitId : UnitId} {a : Arrival}
    (h : (deliverResponse p unitId a).2 = .delivered) :
    ∃ response, unitId = p.expected.unitId ∧ OwnedResponsePdu.fromPdu a.frame.pdu = .ok response ∧
      (a.frame.pdu.head? = some p.expected.functionCode.code ∨
        a.frame.pdu.head? = some (p.expected.functionCode.code ||| 0x80)) ∧
      (deliverResponse p unitId a).1 =
        [.send p.sender { result := .ok response, source := some a }] := by
  unfold deliverResponse at h ⊢
  dsimp only at h ⊢
  split at h
  next => cases h
  next hunit =>
    rw [if_neg hunit]
    split at h
    next => cases h
    next response hdecode =>
      split at h
      next => cases h
      next hfc =>
        rw [hdecode, if_neg hfc]
        refine ⟨response, (Decidable.not_not.mp hunit).symm, rfl, ?_, rfl⟩
        rw [not_and_or, Decidable.not_not, Decidable.not_not] at hfc
        rw [OwnedResponsePdu.head?_of_fromPdu hdecode]
        exact hfc.imp (congrArg some) (congrArg some)

theorem completeTaken_delivered {unitId : UnitId} {a : Arrival}
    (h : (completeTaken p unitId a).2 = .delivered) :
    a.time < p.deadline ∧ (deliverResponse p unitId a).2 = .delivered ∧
      (completeTaken p unitId a).1 = .notify :: (deliverResponse p unitId a).1 := by
  unfold completeTaken at h ⊢
  split at h
  next => cases h
  next hdue =>
    rw [if_neg hdue]
    exact ⟨Nat.lt_of_not_le hdue, h, rfl⟩

/-- The section of a response that is delivered, and what is left to do behind it. -/
theorem take_delivered {pdu : List UInt8} (hslot : s.slots (slotIdx header.transactionId) = some p)
    (hid : p.txnId = header.transactionId)
    (h : (completeTaken p header.unitId
      { frame := { header := .mbap header, pdu }, time := s.clock }).2 = .delivered) :
    ∃ response, Delivers s header pdu p response ∧
      Call.rest (completeTaken p header.unitId
        { frame := { header := .mbap header, pdu }, time := s.clock }).1 =
      .finishing [.notify, .send p.sender
        { result := .ok response,
          source := some { frame := { header := .mbap header, pdu }, time := s.clock } }] := by
  obtain ⟨hdue, hout, hactions⟩ := completeTaken_delivered h
  obtain ⟨response, hunit, hdecode, hfc, hsend⟩ := deliverResponse_delivered hout
  refine ⟨response, ⟨hslot, hid, hdue, hunit, hdecode, hfc⟩, ?_⟩
  rw [hactions, hsend]
  rfl

variable {id : UInt16}

/-- A guard takes nobody else's registration out of its slot. -/
theorem sender_of_guard (hs : (manager ι).Reachable s) (htimely : Timely s) {c : Nat}
    (hcall : s.calls t = .registered c id) {i : Fin maxSlots} (hslot : s.slots i = some p)
    (hid : p.txnId = id) : p.sender = c := by
  have hcor := Correlated.of_reachable hs
  obtain ⟨r, hr, -, hrid, hlive⟩ := hcor.guarded.guard hcall
  obtain ⟨hidx, r', hr', hopen⟩ := hcor.guarded.slot hslot
  exact (Numbered.of_reachable hs).live_unique htimely hr' hr
    (hopen.txnId.trans (hid.trans hrid.symm)) hopen.droppedAt hlive

/-- What is guaranteed of a step of the manager, and with `Timely` of the requesters. -/
structure Correlates (s : Manager ι) (e : Event ι) (s' : Manager ι) : Prop where
  /-- A slot holds ids of its own residue, and never zero. -/
  slot_ids : ∀ {i p}, s.slots i = some p → p.txnId ≠ 0 ∧ p.txnId.toNat % 16 = i
  /-- Two registrations with one id are a multiple of 65535 draws apart. -/
  draws : ∀ {c d : Nat} {r r' : Registration ι}, s.registrations[c]? = some r →
    s.registrations[d]? = some r' → c ≠ d → r.txnId = r'.txnId →
    ∃ m, 0 < m ∧ (r.draw = r'.draw + 65535 * m ∨ r'.draw = r.draw + 65535 * m)
  /-- A frame that matches no slot changes none. -/
  unmatched : ∀ {t header pdu}, e = .completeResponse t header pdu →
    (∀ i p, s.slots i = some p → p.txnId ≠ header.transactionId) → s'.slots = s.slots
  /-- A registration is answered at most once. -/
  answered : ∀ {c : Nat} {r : Registration ι}, s.registrations[c]? = some r → r.answers.length ≤ 1
  /-- It is in its slot or has been freed once, which it has when its guard is gone. -/
  freed : ∀ {c : Nat} {r : Registration ι}, s.registrations[c]? = some r →
    (r.freed = 0 ∧ r.droppedAt = none ∧ ∃ p, s.slots (slotIdx r.txnId) = some p ∧ p.sender = c) ∨
      (r.freed = 1 ∧ ∀ i p, s.slots i = some p → p.sender ≠ c)
  /-- A response that is delivered is on its way to the one live registration with its id, and
  fits what was requested. -/
  delivered : Timely s → ∀ {t header pdu}, e = .completeResponse t header pdu →
    s'.outcomes = s.outcomes ++ [.delivered] →
    ∃ c r response a, s.registrations[c]? = some r ∧ r.txnId = header.transactionId ∧
      r.droppedAt = none ∧
      (∀ (d : Nat) r', s.registrations[d]? = some r' → r'.txnId = header.transactionId →
        r'.droppedAt = none → d = c) ∧
      OwnedResponsePdu.fromPdu pdu = .ok response ∧ header.unitId = r.expected.unitId ∧
      (pdu.head? = some r.expected.functionCode.code ∨
        pdu.head? = some (r.expected.functionCode.code ||| 0x80)) ∧
      s'.calls t = .finishing [.notify, .send c { result := .ok response, source := a }]
  /-- An answer on its way reaches the registration it is for and no other. -/
  sent : ∀ {t c a rest}, e = .act t → s.calls t = .finishing (.send c a :: rest) →
    ∀ {d : Nat} {r : Registration ι}, s.registrations[d]? = some r → s'.registrations[d]? =
      some (if d = c then { r with answers := r.answers ++ [a] } else r)
  /-- A guard that is dropped takes no registration but its own out of its slot. -/
  dropped : Timely s → ∀ {t c id}, e = .dropRegistration t → s.calls t = .registered c id →
    ∀ {i p}, s.slots i = some p → s'.slots i ≠ some p → p.sender = c

/-- Requests and responses are correlated under every interleaving of the threads. -/
theorem manager_correlates {e : Event ι} (hs : (manager ι).Reachable s)
    (he : (manager ι).step s e = some s') : Correlates s e s' := by
  have hcor := Correlated.of_reachable hs
  have hnum := Numbered.of_reachable hs
  have he : s.step e = some s' := he
  refine ⟨?_, ?_, ?_, hcor.owed.answers, ?_, ?_, ?_, ?_⟩
  · intro i p hslot
    obtain ⟨hidx, r, hr, hopen⟩ := hcor.guarded.slot hslot
    exact ⟨hopen.txnId ▸ txnId_ne_zero hs hr, congrArg Fin.val hidx⟩
  · intro c d r r' hr hr' hne hid
    exact hnum.draws_apart hr hr' hne hid
  · rintro t header pdu rfl hnone
    cases transition_of_step he with
    | takeResponse _ hslot hid => exact absurd hid (hnone _ _ hslot)
    | rejectResponse => rfl
  · intro c r hr
    rcases hcor.guarded.freed hr with ⟨hfreed, p, hslot, rfl⟩ | hfreed
    · exact Or.inl ⟨hfreed, (hcor.guarded.open_of_slot hslot hr).droppedAt, p, hslot, rfl⟩
    · exact Or.inr ⟨hfreed, fun i p hslot => hcor.guarded.not_in_slot hr hfreed hslot⟩
  · rintro htimely t header pdu rfl hout
    cases transition_of_step he with
    | rejectResponse => cases List.append_cancel_left hout
    | @takeResponse _ _ _ p _ hslot hid =>
      obtain ⟨response, hdel, hactions⟩ :=
        take_delivered hslot hid (List.singleton_inj.mp (List.append_cancel_left hout))
      obtain ⟨-, r, hr, hopen⟩ := hcor.guarded.slot hdel.slot
      have hid : r.txnId = header.transactionId := hopen.txnId.trans hdel.txnId
      refine ⟨p.sender, r, response, _, hr, hid, hopen.droppedAt, ?_, hdel.decoded, ?_, ?_,
        (Manager.take_call ..).trans hactions⟩
      · intro d r' hr' hid' hlive'
        exact hnum.live_unique htimely hr' hr (hid'.trans hid.symm) hlive' hopen.droppedAt
      · rw [hopen.expected]
        exact hdel.unitId
      · rw [hopen.expected]
        exact hdel.functionCode
  · rintro t c a rest rfl hcall d r hr
    simp only [Manager.step, hcall] at he
    cases he
    by_cases hdc : d = c
    · subst hdc
      rw [if_pos rfl]
      exact Log.modify_self hr
    · rw [if_neg hdc]
      exact (Log.modify_ne (Ne.symm hdc)).trans hr
  · rintro htimely t c id rfl hcall i p hslot hgone
    cases transition_of_step he with
    | drop => exact absurd hslot hgone
    | dropRemove h hslot' hid =>
      cases hcall.symm.trans h
      by_cases hi : i = slotIdx id
      · cases hi
        cases hslot.symm.trans hslot'
        exact sender_of_guard hs htimely hcall hslot hid
      · exact absurd ((Function.update_of_ne hi ..).trans hslot) hgone

/-- Read Coils of unit 1, registered and waiting until instant 10. -/
def waiting : Manager Nat :=
  let q := Search.start { unitId := 1, functionCode := .readCoils } 10
  (((Manager.new : Manager Nat).setCall 0 (.drawing q)).draw 0 q).lockSlot 0 (q.see (slotIdx 1)) 1 0

theorem run_waiting : (manager Nat).run .new
    [.register 0 { unitId := 1, functionCode := .readCoils } 10, .draw 0, .lockSlot 0] =
      some waiting :=
  rfl

theorem timely_waiting : Timely waiting := by
  intro c r hr
  rcases Log.concat_eq_some.mp (show ([] ++ [_])[c]? = some r from hr) with hr | ⟨-, rfl⟩
  · cases hr
  · decide

theorem manager_correlates_waiting : ∃ s', (manager Nat).Reachable waiting ∧ Timely waiting ∧
    (manager Nat).step waiting (.completeResponse 1 (MbapHeader.new 1 1 3 (by decide))
      [0x01, 0x01, 0x05]) = some s' ∧ s'.outcomes = [.delivered] ∧
    Correlates waiting (.completeResponse 1 (MbapHeader.new 1 1 3 (by decide))
      [0x01, 0x01, 0x05]) s' :=
  ⟨_, Machine.Reachable.init.run run_waiting, timely_waiting, rfl, rfl,
    manager_correlates (Machine.Reachable.init.run run_waiting) rfl⟩

/-! ## A requester that is overtaken

Thread 0 draws id 1 and waits. While it does, 65534 other requests are registered and removed
again, and thread 1 draws id 1 as well. Then both go on: the one fills the slot and its response
arrives, the other fills the slot, and when the first drops its guard the slot holds its id. -/

/-- Fewer than 65535 ids are drawn during the life of a guard, which begins when the slot is
filled. -/
def TimelyGuards (s : Manager ι) : Prop :=
  ∀ {c : Nat} {r : Registration ι}, s.registrations[c]? = some r →
    r.droppedAt.getD s.drawn - r.registeredAt < idCount

/-- A request that is registered and whose guard is dropped at once. -/
def brief (t : ι) (expected : ExpectedResponse) (deadline : Instant) : List (Event ι) :=
  [.register t expected deadline, .draw t, .lockSlot t, .dropRegistration t, .act t]

theorem step_register (expected : ExpectedResponse) (deadline : Instant)
    (h : s.calls t = .idle) : (manager ι).step s (.register t expected deadline) =
      some (s.setCall t (.drawing (.start expected deadline))) := by
  simp only [manager, Manager.step, h]

variable {q : Search}

theorem step_draw (h : s.calls t = .drawing q) (hlt : q.seenCount < maxSlots) :
    (manager ι).step s (.draw t) = some (s.draw t q) := by
  simp only [manager, Manager.step, h, if_pos hlt]

theorem step_lockSlot {k : Nat} (h : s.calls t = .locking q id k)
    (hslot : s.slots (slotIdx id) = none) :
    (manager ι).step s (.lockSlot t) = some (s.fill t q id k) := by
  simp only [manager, Manager.step, h, Manager.lockSlot, hslot]

theorem step_dropRegistration {c : Nat} (h : s.calls t = .registered c id)
    (hslot : s.slots (slotIdx id) = some p) (hid : p.txnId = id) :
    (manager ι).step s (.dropRegistration t) =
      some (((s.endLife c).free (slotIdx id) p).proceed t [.notify]) := by
  have hslot' : (s.endLife c).slots (slotIdx id) = some p := hslot
  simp only [manager, Manager.step, h, Manager.dropRegistration, Manager.remove, hslot', if_pos hid]

/-- Another turn of the loop of `next_transaction_id` is needed behind zero only. -/
theorem step_draw_ne_zero (h : s.calls t = .drawing q) (hlt : q.seenCount < maxSlots)
    (hne : s.nextId ≠ 0) : (manager ι).step s (.draw t) = some { s with
      nextId := s.nextId + 1
      calls := update s.calls t (.locking (q.see (slotIdx s.nextId)) s.nextId s.drawn)
      drawn := s.drawn + 1 } := by
  rw [step_draw h hlt, Manager.draw, if_neg hne]

theorem step_act {a : Action} {rest : List Action} (h : s.calls t = .finishing (a :: rest)) :
    (manager ι).step s (.act t) = some ((s.perform a).proceed t rest) := by
  simp only [manager, Manager.step, h]

theorem run_brief (expected : ExpectedResponse) (deadline : Instant) (hidle : s.calls t = .idle)
    (hslots : s.slots = fun _ => none) (hne : s.nextId ≠ 0) :
    ∃ s' r, (manager ι).run s (brief t expected deadline) = some s' ∧ s'.slots = s.slots ∧
      s'.calls = s.calls ∧ s'.clock = s.clock ∧ s'.nextId = s.nextId + 1 ∧
      s'.drawn = s.drawn + 1 ∧ s'.registrations = s.registrations ++ [r] ∧
      r.droppedAt = some r.registeredAt := by
  refine ⟨_, _,
    Machine.run_step (step_register expected deadline hidle) <|
    Machine.run_step (step_draw_ne_zero (Function.update_self ..) (Nat.zero_lt_succ _) hne) <|
    Machine.run_step (step_lockSlot (Function.update_self ..) (congrFun hslots _)) <|
    Machine.run_step (step_dropRegistration (Function.update_self ..) (Function.update_self ..) rfl) <|
    Machine.run_step (step_act (Function.update_self ..)) <|
    rfl, ?_, ?_, rfl, rfl, rfl,
    (congrArg (List.modify · _ _) Log.modify_concat).trans Log.modify_concat, rfl⟩
  · show update (update s.slots _ _) _ none = s.slots
    rw [Function.update_idem, hslots]
    exact Function.update_eq_self _ _
  · funext u
    by_cases hu : u = t
    · subst hu
      exact (Function.update_self ..).trans hidle.symm
    · simp [Manager.proceed, Manager.setCall, Manager.perform, Manager.free, Manager.endLife,
      Manager.fill, Function.update_of_ne hu]

/-- Every guard was dropped before another id was drawn. -/
def Settled (regs : List (Registration ι)) : Prop :=
  ∀ {c : Nat} {r : Registration ι}, regs[c]? = some r → r.droppedAt = some r.registeredAt

theorem run_briefs (expected : ExpectedResponse) (deadline : Instant) (n : Nat)
    (hidle : s.calls t = .idle) (hslots : s.slots = fun _ => none) (hpos : 0 < s.nextId.toNat)
    (hle : s.nextId.toNat + n ≤ 65536) (hregs : Settled s.registrations) :
    ∃ s', (manager ι).run s (List.replicate n (brief t expected deadline)).flatten = some s' ∧
      s'.slots = s.slots ∧ s'.calls = s.calls ∧ s'.clock = s.clock ∧
      s'.nextId.toNat = (s.nextId.toNat + n) % 65536 ∧ s'.drawn = s.drawn + n ∧
      Settled s'.registrations := by
  induction n generalizing s with
  | zero =>
    refine ⟨s, rfl, rfl, rfl, rfl, ?_, rfl, hregs⟩
    rw [Nat.add_zero, Nat.mod_eq_of_lt s.nextId.toNat_lt]
  | succ n ih =>
    have hne : s.nextId ≠ 0 := fun h0 => by rw [h0] at hpos; exact absurd hpos (Nat.lt_irrefl 0)
    obtain ⟨s₁, r, hrun, hslots₁, hcalls₁, hclock₁, hnext₁, hdrawn₁, hregs₁, hr⟩ :=
      run_brief expected deadline hidle hslots hne
    have hsettled₁ : Settled s₁.registrations := by
      intro c r' hr'
      rw [hregs₁] at hr'
      rcases Log.concat_eq_some.mp hr' with hr' | ⟨-, rfl⟩
      · exact hregs hr'
      · exact hr
    have hadd : s₁.nextId.toNat = (s.nextId.toNat + 1) % 65536 := by
      rw [hnext₁]
      exact UInt16.toNat_add ..
    cases n with
    | zero =>
      refine ⟨s₁, ?_, hslots₁, hcalls₁, hclock₁, hadd, hdrawn₁, hsettled₁⟩
      rw [List.replicate_one, List.flatten_singleton, hrun]
    | succ n =>
      obtain ⟨s', hrun', hslots', hcalls', hclock', hnext', hdrawn', hsettled'⟩ :=
        ih (hcalls₁ ▸ hidle) (hslots₁.trans hslots) (by omega) (by omega) hsettled₁
      refine ⟨s', ?_, hslots'.trans hslots₁, hcalls'.trans hcalls₁, hclock'.trans hclock₁, ?_, ?_,
        hsettled'⟩
      · rw [List.replicate_succ, List.flatten_cons, Machine.run_append hrun, hrun']
      · omega
      · omega


theorem step_completeResponse (pdu : List UInt8) (h : s.calls t = .idle)
    (hslot : s.slots (slotIdx header.transactionId) = some p) (hid : p.txnId = header.transactionId)
    : (manager ι).step s (.completeResponse t header pdu) =
      some (s.take t (slotIdx header.transactionId) p header.unitId
        { header := .mbap header, pdu }) := by
  simp only [manager, Manager.step, h, Manager.completeResponse, hslot, if_pos hid]

theorem step_draw_zero (h : s.calls t = .drawing q) (hlt : q.seenCount < maxSlots)
    (hzero : s.nextId = 0) : (manager ι).step s (.draw t) = some { s with nextId := 1 } := by
  rw [step_draw h hlt, Manager.draw, if_pos hzero, hzero]
  rfl

/-- Of two requesters with one id the first fills its slot and is answered, then the second
fills it. -/
def overtaking (a b reader : ι) (header : MbapHeader) (pdu : List UInt8) : List (Event ι) :=
  [.lockSlot a, .completeResponse reader header pdu, .lockSlot b]

theorem run_overtaking {a b reader : ι} (hab : a ≠ b) (hra : reader ≠ a) (hrb : reader ≠ b)
    (header : MbapHeader) (pdu : List UInt8) (hid : header.transactionId = id) {q q' : Search}
    {k k' : Nat} (hslots : s.slots = fun _ => none) (ha : s.calls a = .locking q id k)
    (hb : s.calls b = .locking q' id k') (hidle : s.calls reader = .idle) :
    ∃ s' p r r', (manager ι).run s (overtaking a b reader header pdu) = some s' ∧
      s'.drawn = s.drawn ∧ s'.calls a = .registered s.registrations.length id ∧
      s'.slots (slotIdx id) = some p ∧ p.txnId = id ∧ p.sender = s.registrations.length + 1 ∧
      s'.registrations = s.registrations ++ [r] ++ [r'] ∧
      r.droppedAt = none ∧ r.registeredAt = s.drawn ∧
      r'.droppedAt = none ∧ r'.registeredAt = s.drawn := by
  subst hid
  refine ⟨_, _, _, _,
    Machine.run_step (step_lockSlot ha (congrFun hslots _)) <|
    Machine.run_step (step_completeResponse pdu ((Function.update_of_ne hra ..).trans hidle)
      (Function.update_self ..) rfl) <|
    Machine.run_step (step_lockSlot ((Function.update_of_ne hrb.symm ..).trans
      ((Function.update_of_ne hab.symm ..).trans hb)) (Function.update_self ..)) <|
    rfl, rfl, ?_, Function.update_self .., rfl, ?_,
    congrArg (· ++ [_]) Log.modify_concat, rfl, rfl, rfl, rfl⟩
  · exact (Function.update_of_ne hab ..).trans
      ((Function.update_of_ne hra.symm ..).trans (Function.update_self ..))
  · exact (List.length_modify ..).trans List.length_append

theorem TimelyGuards.drop {c : Nat} (h : TimelyGuards s)
    (hc : ∀ r, s.registrations[c]? = some r → r.droppedAt = none) :
    TimelyGuards (((s.endLife c).free (slotIdx id) p).proceed t [.notify]) := by
  have hend : TimelyGuards (s.endLife c) := by
    intro d r hr
    rcases Log.modify_cases hr with ⟨rfl, r₀, hr₀, rfl⟩ | ⟨-, hr₀⟩
    · have hlt := h hr₀
      rw [hc r₀ hr₀] at hlt
      exact hlt
    · exact h hr₀
  intro d r hr
  rcases Log.modify_cases hr with ⟨rfl, r₀, hr₀, rfl⟩ | ⟨-, hr₀⟩
  · have hlt := hend hr₀
    exact hlt
  · exact hend hr₀

/-- The counter stands at zero, which is left out. -/
theorem run_register_draw (expected : ExpectedResponse) (deadline : Instant)
    (hidle : s.calls t = .idle) (hzero : s.nextId = 0) :
    ∃ s' q k, (manager ι).run s [.register t expected deadline, .draw t, .draw t] = some s' ∧
      s'.slots = s.slots ∧ s'.registrations = s.registrations ∧ s'.calls t = .locking q 1 k ∧
      ∀ u, u ≠ t → s'.calls u = s.calls u := by
  refine ⟨_, _, _,
    Machine.run_step (step_register expected deadline hidle) <|
    Machine.run_step (step_draw_zero (Function.update_self ..) (Nat.zero_lt_succ _) hzero) <|
    Machine.run_step (step_draw_ne_zero (Function.update_self ..) (Nat.zero_lt_succ _)
      (show (1 : UInt16) ≠ 0 by decide)) <|
    rfl, rfl, rfl, Function.update_self .., ?_⟩
  intro u hu
  exact (Function.update_of_ne hu ..).trans (Function.update_of_ne hu ..)

/-- Two requesters about to lock the slot of one id, which was drawn twice in the meantime. -/
theorem exists_overtaken : ∃ (s : Manager Nat) (q q' : Search) (k k' : Nat),
    (manager Nat).Reachable s ∧ (s.slots = fun _ => none) ∧ s.calls 0 = .locking q 1 k ∧
      s.calls 1 = .locking q' 1 k' ∧ s.calls 3 = .idle ∧ Settled s.registrations := by
  let request : ExpectedResponse := { unitId := 1, functionCode := .readCoils }
  let s₁ : Manager Nat := { (Manager.new : Manager Nat) with
    nextId := 2
    calls := update (fun _ => .idle) 0 (.locking ((Search.start request 10).see (slotIdx 1)) 1 0)
    drawn := 1 }
  have hrun₁ : (manager Nat).run .new [.register 0 request 10, .draw 0] = some s₁ := by
    refine Machine.run_step (step_register _ _ rfl) (Machine.run_step
      (step_draw_ne_zero rfl (by decide) (by decide)) ?_)
    rw [Machine.run_nil]
    simp [s₁, Manager.setCall, Manager.new]
  have hidle {t : Nat} (ht : t ≠ 0) : s₁.calls t = .idle :=
    Function.update_of_ne ht _ fun _ => Call.idle
  obtain ⟨s₂, hrun₂, hslots₂, hcalls₂, -, hnext₂, -, hsettled₂⟩ :=
    run_briefs (s := s₁) (t := 2) request 10 65534 rfl rfl (by decide) (by decide) nofun
  have hzero : s₂.nextId = 0 := by
    rw [show s₁.nextId.toNat = 2 from rfl] at hnext₂
    exact UInt16.toNat_inj.mp hnext₂
  have hcall₂ {t : Nat} (ht : t ≠ 0) : s₂.calls t = .idle := (congrFun hcalls₂ t).trans (hidle ht)
  obtain ⟨s₃, q', k', hrun₃, hslots₃, hregs₃, hcall₃, hcalls₃⟩ :=
    run_register_draw request 10 (hcall₂ Nat.one_ne_zero) hzero
  have hfirst := (hcalls₃ 0 (by decide)).trans (congrFun hcalls₂ 0)
  exact ⟨s₃, _, q', _, k', ((Machine.Reachable.init.run hrun₁).run hrun₂).run hrun₃,
    hslots₃.trans hslots₂, hfirst, hcall₃, (hcalls₃ 3 (by decide)).trans (hcall₂ (by decide)),
    hregs₃ ▸ hsettled₂⟩

/-- The guard of a requester that was overtaken removes the registration of another, although
no id at all was drawn during its life. -/
theorem dropRegistration_removes_other :
    ∃ (s s' : Manager Nat) (p : Pending) (c : Nat) (id : UInt16),
      (manager Nat).Reachable s ∧ (manager Nat).step s (.dropRegistration 0) = some s' ∧
      TimelyGuards s ∧ TimelyGuards s' ∧ s.calls 0 = .registered c id ∧
      s.slots (slotIdx id) = some p ∧ p.sender ≠ c ∧ s'.slots (slotIdx id) = none := by
  obtain ⟨s₃, q, q', k, k', hreach, hslots, ha, hb, hidle, hsettled⟩ := exists_overtaken
  obtain ⟨s, p, r, r', hrun, hdrawn, hcall, hslot, hid, hsender, hregs, hlive, hat, hlive', hat'⟩ :=
    run_overtaking (by decide) (by decide) (by decide) (MbapHeader.new 1 1 3 (by decide))
      [0x01, 0x01, 0x05] rfl hslots ha hb hidle
  have htimely : TimelyGuards s := by
    intro c r₀ hr₀
    rw [hregs] at hr₀
    have hzero : r₀.droppedAt.getD s.drawn - r₀.registeredAt = 0 := by
      rcases Log.concat_eq_some.mp hr₀ with hr₀ | ⟨-, rfl⟩
      · rcases Log.concat_eq_some.mp hr₀ with hr₀ | ⟨-, rfl⟩
        · rw [hsettled hr₀]
          exact Nat.sub_self _
        · rw [hlive, hat, hdrawn]
          exact Nat.sub_self _
      · rw [hlive', hat', hdrawn]
        exact Nat.sub_self _
    rw [hzero]
    decide
  refine ⟨s, _, p, _, _, hreach.run hrun, step_dropRegistration hcall hslot hid, htimely,
    htimely.drop ?_, hcall, hslot, ?_, rfl⟩
  · intro r₀ hr₀
    obtain ⟨r₁, hr₁, -, -, hlive₁⟩ := (Correlated.of_reachable (hreach.run hrun)).guarded.guard hcall
    rw [hr₀] at hr₁
    cases hr₁
    exact hlive₁
  · rw [hsender]
    exact Nat.succ_ne_self _

end

end RustyModbus.Client.Concurrent
