import RustyModbus.Client.Manager
import RustyModbus.Lib.Log

/-!
# Correlation of requests and responses

Two invariants of the manager that need no assumption about the ids. `Guarded`: a slot holds a
registration whose guard is alive, and a registration that is in no slot has left it once.
`Owed`: whoever has taken a transaction off its slot is the only one to answer it. They hold
together, since an answer must not reach a registration that is still in its slot.
-/

namespace RustyModbus.Client.Concurrent

open Function (update)

variable {ι : Type}

/-! ## Threads in one kind of call -/

/-- The same threads are in a call of kind `P`, at the same place. -/
def SameOn (P : Call → Prop) (calls calls' : ι → Call) : Prop :=
  ∀ t call, P call → (calls' t = call ↔ calls t = call)

variable {call : Call}

theorem SameOn.update [DecidableEq ι] {P : Call → Prop} {calls : ι → Call} {t : ι}
    (hold : ¬ P (calls t)) (hnew : ¬ P call) : SameOn P calls (update calls t call) := by
  intro u c hc
  by_cases hu : u = t
  · subst hu
    rw [Function.update_self]
    constructor
    · rintro rfl
      exact absurd hc hnew
    · rintro rfl
      exact absurd hc hold
  · rw [Function.update_of_ne hu]

theorem CallsPlain.sameOn {P : Call → Prop} {calls calls' : ι → Call}
    (h : CallsPlain calls calls') (hP : ∀ call, P call → ¬ call.Plain) : SameOn P calls calls' := by
  intro t call hcall
  rcases h t with heq | ⟨hp, hp'⟩
  · rw [heq]
  · constructor
    · rintro rfl
      exact absurd hp' (hP _ hcall)
    · rintro rfl
      exact absurd hp (hP _ hcall)

def Call.IsRegistered : Call → Prop
  | .registered _ _ => True
  | _ => False

def Call.IsLocking : Call → Prop
  | .locking _ _ _ => True
  | _ => False

def Call.IsFinishing : Call → Prop
  | .finishing _ => True
  | _ => False

theorem Call.not_plain_of_isRegistered (h : call.IsRegistered) : ¬ call.Plain := by
  cases call <;> first | exact id | exact absurd h id

theorem Call.not_plain_of_isLocking (h : call.IsLocking) : ¬ call.Plain := by
  cases call <;> first | exact id | exact absurd h id

theorem Call.not_plain_of_isFinishing (h : call.IsFinishing) : ¬ call.Plain := by
  cases call <;> first | exact id | exact absurd h id

/-! ## Slots, registrations and guards -/

/-- The registration behind an occupied slot. -/
structure Registration.Open (r : Registration ι) (p : Pending) : Prop where
  txnId : r.txnId = p.txnId
  deadline : r.deadline = p.deadline
  expected : r.expected = p.expected
  freed : r.freed = 0
  answers : r.answers = []
  droppedAt : r.droppedAt = none

structure Guarded (slots : Fin maxSlots → Option Pending) (regs : List (Registration ι))
    (calls : ι → Call) : Prop where
  slot : ∀ {i p}, slots i = some p →
    slotIdx p.txnId = i ∧ ∃ r, regs[p.sender]? = some r ∧ r.Open p
  freed : ∀ {c r}, regs[c]? = some r →
    r.freed = 0 ∧ (∃ p, slots (slotIdx r.txnId) = some p ∧ p.sender = c) ∨ r.freed = 1
  guard : ∀ {t c id}, calls t = .registered c id →
    ∃ r, regs[c]? = some r ∧ r.owner = t ∧ r.txnId = id ∧ r.droppedAt = none
  live : ∀ {c r}, regs[c]? = some r → r.droppedAt = none → calls r.owner = .registered c r.txnId

namespace Guarded

variable {slots : Fin maxSlots → Option Pending} {regs : List (Registration ι)}
  {calls calls' : ι → Call} {i : Fin maxSlots} {p : Pending} {c : Nat} {r : Registration ι}

/-- Two slots do not hold the same registration. -/
theorem slot_inj (h : Guarded slots regs calls) {j : Fin maxSlots} {p' : Pending}
    (hi : slots i = some p) (hj : slots j = some p') (hsender : p'.sender = p.sender) : j = i := by
  obtain ⟨hidx, r, hr, hopen⟩ := h.slot hi
  obtain ⟨hidx', r', hr', hopen'⟩ := h.slot hj
  rw [hsender, hr] at hr'
  cases hr'
  rw [← hidx', ← hidx, ← hopen'.txnId, hopen.txnId]

theorem open_of_slot (h : Guarded slots regs calls) (hi : slots i = some p)
    (hr : regs[p.sender]? = some r) : r.Open p := by
  obtain ⟨-, r', hr', hopen⟩ := h.slot hi
  rw [hr] at hr'
  cases hr'
  exact hopen

theorem not_in_slot (h : Guarded slots regs calls) (hr : regs[c]? = some r) (hfreed : r.freed = 1)
    (hi : slots i = some p) : p.sender ≠ c := by
  rintro rfl
  have hopen := h.open_of_slot hi hr
  rw [hopen.freed] at hfreed
  cases hfreed

protected theorem new : Guarded (ι := ι) (fun _ => none) [] fun _ => .idle where
  slot := nofun
  freed := nofun
  guard := nofun
  live := nofun

protected theorem sameOn (h : Guarded slots regs calls)
    (hcalls : SameOn Call.IsRegistered calls calls') : Guarded slots regs calls' where
  slot := h.slot
  freed := h.freed
  guard {_ c id} hcall := h.guard ((hcalls _ (.registered c id) trivial).mp hcall)
  live {c r} hr hlive := (hcalls _ (.registered c r.txnId) trivial).mpr (h.live hr hlive)

/-- An entry that is changed keeps what the guards need of it. -/
theorem modify_guards {f : Registration ι → Registration ι} (h : Guarded slots regs calls)
    (hf : ∀ r, (f r).owner = r.owner ∧ (f r).txnId = r.txnId ∧ (f r).droppedAt = r.droppedAt) :
    (∀ {t d id}, calls t = .registered d id → ∃ r, (regs.modify c f)[d]? = some r ∧
      r.owner = t ∧ r.txnId = id ∧ r.droppedAt = none) ∧
    ∀ {d r}, (regs.modify c f)[d]? = some r → r.droppedAt = none →
      calls r.owner = .registered d r.txnId := by
  constructor
  · intro t d id hcall
    obtain ⟨r, hr, howner, hid, hlive⟩ := h.guard hcall
    by_cases hcd : c = d
    · subst hcd
      obtain ⟨hfo, hfi, hfd⟩ := hf r
      exact ⟨f r, Log.modify_self hr, hfo.trans howner, hfi.trans hid, hfd.trans hlive⟩
    · exact ⟨r, (Log.modify_ne hcd).trans hr, howner, hid, hlive⟩
  · intro d r hr hlive
    rcases Log.modify_cases hr with ⟨-, r₀, hr₀, rfl⟩ | ⟨-, hr₀⟩
    · obtain ⟨hfo, hfi, hfd⟩ := hf r₀
      rw [hfo, hfi]
      exact h.live hr₀ (hfd.symm.trans hlive)
    · exact h.live hr₀ hlive

/-- A transaction is taken off its slot. -/
protected theorem free (h : Guarded slots regs calls) (hi : slots i = some p) :
    Guarded (update slots i none)
      (regs.modify p.sender fun r => { r with freed := r.freed + 1 }) calls := by
  obtain ⟨hguard, hlive⟩ := h.modify_guards (c := p.sender)
    (f := fun r => { r with freed := r.freed + 1 }) fun _ => ⟨rfl, rfl, rfl⟩
  refine ⟨?_, ?_, hguard, hlive⟩
  · intro j p' hj
    have hne : j ≠ i := by
      rintro rfl
      rw [Function.update_self] at hj
      cases hj
    rw [Function.update_of_ne hne] at hj
    obtain ⟨hidx, r, hr, hopen⟩ := h.slot hj
    refine ⟨hidx, r, ?_, hopen⟩
    rw [Log.modify_ne fun heq => hne (h.slot_inj hi hj heq.symm)]
    exact hr
  · intro c r hr
    rcases Log.modify_cases hr with ⟨rfl, r₀, hr₀, rfl⟩ | ⟨hne, hr₀⟩
    · exact Or.inr (congrArg (· + 1) (h.open_of_slot hi hr₀).freed)
    · rcases h.freed hr₀ with ⟨hfreed, p', hslot, rfl⟩ | hfreed
      · refine Or.inl ⟨hfreed, p', ?_, rfl⟩
        rw [Function.update_of_ne, hslot]
        rintro rfl
        exact hne (congrArg Pending.sender (Option.some.inj (hi.symm.trans hslot)))
      · exact Or.inr hfreed

/-- A registration that has left its slot is answered. -/
protected theorem answer (h : Guarded slots regs calls) (hr : regs[c]? = some r)
    (hfreed : r.freed = 1) (a : Answer) :
    Guarded slots (regs.modify c fun r => { r with answers := r.answers ++ [a] }) calls := by
  obtain ⟨hguard, hlive⟩ := h.modify_guards (c := c)
    (f := fun r => { r with answers := r.answers ++ [a] }) fun _ => ⟨rfl, rfl, rfl⟩
  refine ⟨?_, ?_, hguard, hlive⟩
  · intro j p hj
    obtain ⟨hidx, r', hr', hopen⟩ := h.slot hj
    refine ⟨hidx, r', ?_, hopen⟩
    rw [Log.modify_ne (h.not_in_slot hr hfreed hj).symm]
    exact hr'
  · intro d r' hr'
    rcases Log.modify_cases hr' with ⟨-, r₀, hr₀, rfl⟩ | ⟨-, hr₀⟩
    · have hfreed₀ := h.freed hr₀
      exact hfreed₀
    · exact h.freed hr₀

section

variable [DecidableEq ι]

/-- A guard is dropped behind whose registration the slot is no more. -/
protected theorem drop {t : ι} {call : Call} {id : UInt16} (n : Nat) (h : Guarded slots regs calls)
    (hcall : calls t = .registered c id) (hcall' : ¬ call.IsRegistered) (hr : regs[c]? = some r)
    (hfreed : r.freed = 1) :
    Guarded slots (regs.modify c fun r => { r with droppedAt := some n })
      (update calls t call) := by
  have howner : r.owner = t := by
    obtain ⟨r', hr', howner, -⟩ := h.guard hcall
    rw [hr] at hr'
    cases hr'
    exact howner
  refine ⟨?_, ?_, ?_, ?_⟩
  · intro j p hj
    obtain ⟨hidx, r', hr', hopen⟩ := h.slot hj
    refine ⟨hidx, r', ?_, hopen⟩
    rw [Log.modify_ne (h.not_in_slot hr hfreed hj).symm]
    exact hr'
  · intro d r' hr'
    rcases Log.modify_cases hr' with ⟨-, r₀, hr₀, rfl⟩ | ⟨-, hr₀⟩
    · have hfreed₀ := h.freed hr₀
      exact hfreed₀
    · exact h.freed hr₀
  · intro u d id' hu
    by_cases hut : u = t
    · subst hut
      rw [Function.update_self] at hu
      exact absurd (hu ▸ trivial) hcall'
    · rw [Function.update_of_ne hut] at hu
      obtain ⟨r', hr', howner', hrest⟩ := h.guard hu
      refine ⟨r', ?_, howner', hrest⟩
      rw [Log.modify_ne, hr']
      rintro rfl
      rw [hr] at hr'
      cases hr'
      exact hut (howner'.symm.trans howner)
  · intro d r' hr' hlive
    rcases Log.modify_cases hr' with ⟨-, r₀, -, rfl⟩ | ⟨hne, hr₀⟩
    · cases hlive
    · have hother := h.live hr₀ hlive
      rw [Function.update_of_ne, hother]
      intro heq
      rw [heq, hcall] at hother
      cases hother
      exact hne rfl

/-- A slot is filled. -/
protected theorem fill {t : ι} {q : Search} {id : UInt16} {k : Nat} {s : Manager ι}
    (h : Guarded s.slots s.registrations s.calls) (hcall : s.calls t = .locking q id k)
    (hslot : s.slots (slotIdx id) = none) :
    Guarded (s.fill t q id k).slots (s.fill t q id k).registrations (s.fill t q id k).calls := by
  refine ⟨?_, ?_, ?_, ?_⟩
  · intro j p hj
    by_cases hji : j = slotIdx id
    · subst hji
      rw [show (s.fill t q id k).slots (slotIdx id) = _ from Function.update_self ..] at hj
      cases hj
      exact ⟨rfl, _, Log.concat_length, ⟨rfl, rfl, rfl, rfl, rfl, rfl⟩⟩
    · rw [show (s.fill t q id k).slots j = s.slots j from Function.update_of_ne hji ..] at hj
      obtain ⟨hidx, r, hr, hopen⟩ := h.slot hj
      exact ⟨hidx, r, Log.concat_of_some hr, hopen⟩
  · intro c r hr
    rcases Log.concat_eq_some.mp hr with hr | ⟨rfl, rfl⟩
    · rcases h.freed hr with ⟨hfreed, p, hp, hsender⟩ | hfreed
      · refine Or.inl ⟨hfreed, p, ?_, hsender⟩
        rw [← hp]
        refine Function.update_of_ne ?_ ..
        intro heq
        rw [heq, hslot] at hp
        cases hp
      · exact Or.inr hfreed
    · exact Or.inl ⟨rfl, _, Function.update_self .., rfl⟩
  · intro u c id' hu
    by_cases hut : u = t
    · subst hut
      rw [show (s.fill u q id k).calls u = _ from Function.update_self ..] at hu
      cases hu
      exact ⟨_, Log.concat_length, rfl, rfl, rfl⟩
    · rw [show (s.fill t q id k).calls u = s.calls u from Function.update_of_ne hut ..] at hu
      obtain ⟨r, hr, hrest⟩ := h.guard hu
      exact ⟨r, Log.concat_of_some hr, hrest⟩
  · intro c r hr hlive
    rcases Log.concat_eq_some.mp hr with hr | ⟨rfl, rfl⟩
    · have hother := h.live hr hlive
      rw [← hother]
      refine Function.update_of_ne ?_ ..
      intro heq
      rw [heq, hcall] at hother
      cases hother
    · exact Function.update_self ..

end

end Guarded

/-! ## Answers -/

def Action.isSend : Action → Bool
  | .send _ _ => true
  | _ => false

/-- The thread has yet to answer this registration. -/
def Call.Owes (call : Call) (channel : Nat) : Prop :=
  ∃ actions answer, call = .finishing actions ∧ .send channel answer ∈ actions

theorem Call.not_owes (h : ¬ call.IsFinishing) (channel : Nat) : ¬ call.Owes channel := by
  rintro ⟨actions, answer, rfl, -⟩
  exact h trivial

theorem Call.not_isRegistered_rest (actions : List Action) : ¬ (Call.rest actions).IsRegistered := by
  cases actions <;> exact id

theorem Call.rest_eq_finishing {actions actions' : List Action}
    (h : Call.rest actions = .finishing actions') : actions' = actions := by
  cases actions <;> cases h
  rfl

theorem Call.owes_rest {actions : List Action} {channel : Nat}
    (h : (Call.rest actions).Owes channel) : ∃ answer, .send channel answer ∈ actions := by
  obtain ⟨actions', answer, heq, hmem⟩ := h
  exact ⟨answer, rest_eq_finishing heq ▸ hmem⟩

/-- Taken off its slot and not answered. -/
def Unanswered (regs : List (Registration ι)) (c : Nat) : Prop :=
  ∃ r, regs[c]? = some r ∧ r.freed = 1 ∧ r.answers = []

structure Owed (regs : List (Registration ι)) (calls : ι → Call) : Prop where
  unanswered : ∀ {t c}, (calls t).Owes c → Unanswered regs c
  unique : ∀ {t u c}, (calls t).Owes c → (calls u).Owes c → t = u
  once : ∀ {t actions}, calls t = .finishing actions → actions.countP Action.isSend ≤ 1
  answers : ∀ {c : Nat} {r : Registration ι}, regs[c]? = some r → r.answers.length ≤ 1

namespace Owed

variable {regs regs' : List (Registration ι)} {calls calls' : ι → Call} {c : Nat}

protected theorem new : Owed (ι := ι) [] fun _ => .idle where
  unanswered h := absurd h (Call.not_owes id _)
  unique h := absurd h (Call.not_owes id _)
  once := nofun
  answers := nofun

theorem owes_iff (h : SameOn Call.IsFinishing calls calls') {t : ι} :
    (calls' t).Owes c ↔ (calls t).Owes c := by
  constructor
  · rintro ⟨actions, answer, hcall, hmem⟩
    exact ⟨actions, answer, (h t (.finishing actions) trivial).mp hcall, hmem⟩
  · rintro ⟨actions, answer, hcall, hmem⟩
    exact ⟨actions, answer, (h t (.finishing actions) trivial).mpr hcall, hmem⟩

protected theorem sameOn (h : Owed regs calls) (hcalls : SameOn Call.IsFinishing calls calls') :
    Owed regs calls' where
  unanswered ht := h.unanswered ((owes_iff hcalls).mp ht)
  unique ht hu := h.unique ((owes_iff hcalls).mp ht) ((owes_iff hcalls).mp hu)
  once {_ actions} hcall := h.once ((hcalls _ (.finishing actions) trivial).mp hcall)
  answers := h.answers

/-- The registrations change, but none that is still to be answered. -/
protected theorem regs (h : Owed regs calls)
    (hopen : ∀ {t c}, (calls t).Owes c → Unanswered regs c → Unanswered regs' c)
    (hanswers : ∀ {c : Nat} {r : Registration ι}, regs'[c]? = some r → r.answers.length ≤ 1) :
    Owed regs' calls where
  unanswered ht := hopen ht (h.unanswered ht)
  unique := h.unique
  once := h.once
  answers := hanswers

/-- A thread goes on to answer a registration nobody else will answer. -/
protected theorem update [DecidableEq ι] {t : ι} {call : Call} (h : Owed regs calls)
    (hopen : ∀ {c}, call.Owes c → Unanswered regs c)
    (hunique : ∀ {c u}, call.Owes c → u ≠ t → ¬ (calls u).Owes c)
    (honce : ∀ {actions}, call = .finishing actions → actions.countP Action.isSend ≤ 1) :
    Owed regs (update calls t call) := by
  have hself : update calls t call t = call := Function.update_self ..
  have hother {u : ι} (hu : u ≠ t) : update calls t call u = calls u := Function.update_of_ne hu ..
  refine ⟨?_, ?_, ?_, h.answers⟩
  · intro u c hu
    by_cases hut : u = t
    · subst hut
      exact hopen (hself ▸ hu)
    · exact h.unanswered (hother hut ▸ hu)
  · intro u v c hu hv
    by_cases hut : u = t <;> by_cases hvt : v = t
    · rw [hut, hvt]
    · subst hut
      exact absurd (hother hvt ▸ hv) (hunique (hself ▸ hu) hvt)
    · subst hvt
      exact absurd (hother hut ▸ hu) (hunique (hself ▸ hv) hut)
    · exact h.unique (hother hut ▸ hu) (hother hvt ▸ hv)
  · intro u actions hu
    by_cases hut : u = t
    · subst hut
      exact honce (hself ▸ hu)
    · exact h.once (hother hut ▸ hu)

theorem answers_modify {f : Registration ι → Registration ι} {d : Nat} {r : Registration ι}
    (h : Owed regs calls) (hf : ∀ r, (f r).answers = r.answers)
    (hr : (regs.modify d f)[c]? = some r) : r.answers.length ≤ 1 := by
  rcases Log.modify_cases hr with ⟨-, r₀, hr₀, rfl⟩ | ⟨-, hr₀⟩
  · rw [hf]
    exact h.answers hr₀
  · exact h.answers hr₀

end Owed

theorem Unanswered.modify {regs : List (Registration ι)} {c d : Nat}
    {f : Registration ι → Registration ι} (h : Unanswered regs c) (hne : d ≠ c) :
    Unanswered (regs.modify d f) c := by
  obtain ⟨r, hr, hrest⟩ := h
  exact ⟨r, (Log.modify_ne hne).trans hr, hrest⟩

/-! ## Both along a step -/

/-- A transaction that has been taken is answered once, with the frame it was taken for. -/
theorem sends_completeTaken (p : Pending) (unitId : UnitId) (a : Arrival) :
    ∃ result, (completeTaken p unitId a).1.filter Action.isSend =
      [.send p.sender { result, source := some a }] := by
  unfold completeTaken
  split
  · exact ⟨_, rfl⟩
  · unfold deliverResponse
    dsimp only
    split
    · exact ⟨_, rfl⟩
    · split
      · exact ⟨_, rfl⟩
      · split <;> exact ⟨_, rfl⟩

theorem eq_of_sends {actions : List Action} {c d : Nat} {answer answer' : Answer}
    (h : actions.filter Action.isSend = [.send c answer]) (hmem : .send d answer' ∈ actions) :
    d = c := by
  have hsend : Action.send d answer' ∈ actions.filter Action.isSend :=
    List.mem_filter.mpr ⟨hmem, rfl⟩
  rw [h, List.mem_singleton] at hsend
  cases hsend
  rfl

/-- A slot holds a registration whose guard is alive, and who takes it off answers it. -/
structure Correlated (s : Manager ι) : Prop where
  guarded : Guarded s.slots s.registrations s.calls
  owed : Owed s.registrations s.calls

namespace Correlated

variable {s s' : Manager ι} {t : ι} {slot : Fin maxSlots} {p : Pending}

/-- A transaction in a slot is owed by nobody. -/
theorem sender_ne (h : Correlated s) (hslot : s.slots slot = some p) {c : Nat}
    (howes : (s.calls t).Owes c) : p.sender ≠ c := by
  obtain ⟨r, hr, hfreed, -⟩ := h.owed.unanswered howes
  exact h.guarded.not_in_slot hr hfreed hslot

theorem unanswered_free (h : Correlated s) (hslot : s.slots slot = some p) :
    Unanswered (s.free slot p).registrations p.sender := by
  obtain ⟨-, r, hr, hopen⟩ := h.guarded.slot hslot
  exact ⟨_, Log.modify_self hr, congrArg (· + 1) hopen.freed, hopen.answers⟩

protected theorem free (h : Correlated s) (hslot : s.slots slot = some p) :
    Correlated (s.free slot p) where
  guarded := h.guarded.free hslot
  owed := h.owed.regs (fun howes hun => hun.modify (h.sender_ne hslot howes))
    (h.owed.answers_modify fun _ => rfl)

/-- Nobody who is left owes the registration an answer, and it gets one. -/
protected theorem send {c : Nat} (h : Correlated s) (hun : Unanswered s.registrations c)
    (hnone : ∀ t, ¬ (s.calls t).Owes c) (a : Answer) : Correlated (s.perform (.send c a)) := by
  obtain ⟨r, hr, hfreed, hanswers⟩ := hun
  refine ⟨h.guarded.answer hr hfreed a, h.owed.regs ?_ ?_⟩
  · intro t d howes hun
    refine hun.modify ?_
    rintro rfl
    exact hnone t howes
  · intro d r' hr'
    rcases Log.modify_cases hr' with ⟨rfl, r₀, hr₀, rfl⟩ | ⟨-, hr₀⟩
    · rw [hr] at hr₀
      cases hr₀
      simp [hanswers]
    · exact h.owed.answers hr₀

/-- The scan or `cancel_all` tells a requester that its request failed. -/
protected theorem fail {a : Answer} (h : Correlated s) (hslot : s.slots slot = some p) :
    Correlated ((s.free slot p).perform (.send p.sender a)) :=
  (h.free hslot).send (h.unanswered_free hslot) (fun _ howes => h.sender_ne hslot howes rfl) a

theorem sameCalls {s' : Manager ι} (h : Correlated s) (hslots : s'.slots = s.slots)
    (hregs : s'.registrations = s.registrations) (hcalls : CallsPlain s.calls s'.calls) :
    Correlated s' where
  guarded := by
    rw [hslots, hregs]
    exact h.guarded.sameOn (hcalls.sameOn fun _ => Call.not_plain_of_isRegistered)
  owed := by
    rw [hregs]
    exact h.owed.sameOn (hcalls.sameOn fun _ => Call.not_plain_of_isFinishing)

section

variable [DecidableEq ι]

/-- A thread goes on to answer what nobody else will answer. -/
protected theorem proceed {actions : List Action} (h : Correlated s)
    (hold : ¬ (s.calls t).IsRegistered) (hcount : actions.countP Action.isSend ≤ 1)
    (hopen : ∀ {c answer}, .send c answer ∈ actions → Unanswered s.registrations c)
    (hunique : ∀ {c answer u}, .send c answer ∈ actions → u ≠ t → ¬ (s.calls u).Owes c) :
    Correlated (s.proceed t actions) where
  guarded := h.guarded.sameOn (.update hold (Call.not_isRegistered_rest actions))
  owed := by
    refine h.owed.update ?_ ?_ ?_
    · intro c howes
      obtain ⟨answer, hmem⟩ := Call.owes_rest howes
      exact hopen hmem
    · intro c u howes hu
      obtain ⟨answer, hmem⟩ := Call.owes_rest howes
      exact hunique hmem hu
    · intro actions' heq
      rw [Call.rest_eq_finishing heq]
      exact hcount

/-- A transaction is taken off its slot, to be answered by the thread that takes it. -/
protected theorem take {unitId : UnitId} {frame : Frame} (h : Correlated s)
    (hcall : (s.calls t).Plain) (hslot : s.slots slot = some p) :
    Correlated (s.take t slot p unitId frame) := by
  obtain ⟨result, hsends⟩ := sends_completeTaken p unitId { frame, time := s.clock }
  have hproceed : Correlated ((s.free slot p).proceed t
      (completeTaken p unitId { frame, time := s.clock }).1) := by
    refine (h.free hslot).proceed (fun hr => Call.not_plain_of_isRegistered hr hcall) ?_ ?_ ?_
    · rw [List.countP_eq_length_filter, hsends]
      exact Nat.le_refl 1
    · intro c answer hmem
      rw [eq_of_sends hsends hmem]
      exact h.unanswered_free hslot
    · intro c answer u hmem _ howes
      exact h.sender_ne hslot howes (eq_of_sends hsends hmem).symm
  exact ⟨hproceed.guarded, hproceed.owed⟩

/-- A thread does the next of its actions. -/
protected theorem act {a : Action} {rest : List Action} (h : Correlated s)
    (hcall : s.calls t = .finishing (a :: rest)) : Correlated ((s.perform a).proceed t rest) := by
  have hnot : ¬ (s.calls t).IsRegistered := by
    rw [hcall]
    exact id
  have hcount : (a :: rest).countP Action.isSend ≤ 1 := h.owed.once hcall
  have howes {c : Nat} {answer : Answer} (hmem : Action.send c answer ∈ a :: rest) :
      (s.calls t).Owes c := ⟨_, answer, hcall, hmem⟩
  -- the thread gives up `a`; what else it owes it owed before
  have hrest : Correlated (s.proceed t rest) := by
    refine h.proceed hnot ?_ ?_ ?_
    · exact Nat.le_trans (List.sublist_cons_self a rest).countP_le hcount
    · intro c answer hmem
      exact h.owed.unanswered (howes (List.mem_cons_of_mem a hmem))
    · intro c answer u hmem hu hother
      exact hu (h.owed.unique hother (howes (List.mem_cons_of_mem a hmem)))
  cases a with
  | notify | retire => exact ⟨hrest.guarded, hrest.owed⟩
  | send c answer =>
    have hnone : rest.countP Action.isSend = 0 := by
      rw [List.countP_cons_of_pos rfl] at hcount
      exact Nat.le_zero.mp (Nat.le_of_succ_le_succ hcount)
    have hdone : ∀ u, ¬ ((s.proceed t rest).calls u).Owes c := by
      intro u hu
      by_cases hut : u = t
      · subst hut
        rw [show (s.proceed u rest).calls u = _ from Function.update_self ..] at hu
        obtain ⟨answer', hmem⟩ := Call.owes_rest hu
        exact List.countP_eq_zero.mp hnone _ hmem rfl
      · rw [show (s.proceed t rest).calls u = _ from Function.update_of_ne hut ..] at hu
        exact hut (h.owed.unique hu (howes List.mem_cons_self))
    have hsent := hrest.send (h.owed.unanswered (howes List.mem_cons_self)) hdone answer
    exact ⟨hsent.guarded, hsent.owed⟩

/-- A slot is emptied for nobody to answer. -/
protected theorem remove (h : Correlated s) (hcall : ¬ (s.calls t).IsRegistered)
    (hslot : s.slots slot = some p) : Correlated ((s.free slot p).proceed t [.notify]) :=
  (h.free hslot).proceed hcall (Nat.zero_le 1) (fun hmem => by cases hmem; contradiction)
    (fun hmem => by cases hmem; contradiction)

variable {id : UInt16}

/-- A guard is dropped whose registration has left its slot. -/
protected theorem endLife {call : Call} {c : Nat} {r : Registration ι} (h : Correlated s)
    (hcall : s.calls t = .registered c id) (hr : s.registrations[c]? = some r)
    (hfreed : r.freed = 1) (hreg : ¬ call.IsRegistered) (hfin : ∀ d, ¬ call.Owes d)
    (honce : ∀ {actions}, call = .finishing actions → actions.countP Action.isSend ≤ 1) :
    Correlated ((s.endLife c).setCall t call) where
  guarded := h.guarded.drop s.drawn hcall hreg hr hfreed
  owed := by
    have howed : Owed (s.endLife c).registrations s.calls := by
      refine h.owed.regs ?_ (h.owed.answers_modify fun _ => rfl)
      rintro u d - ⟨r', hr', hrest⟩
      by_cases hcd : c = d
      · subst hcd
        exact ⟨_, Log.modify_self hr', hrest⟩
      · exact ⟨r', (Log.modify_ne hcd).trans hr', hrest⟩
    exact howed.update (fun ho => absurd ho (hfin _)) (fun ho => absurd ho (hfin _)) honce

protected theorem drop {c : Nat} (h : Correlated s) (hcall : s.calls t = .registered c id)
    (hslot : ∀ p, s.slots (slotIdx id) = some p → p.txnId ≠ id) :
    Correlated ((s.endLife c).setCall t .idle) := by
  obtain ⟨r, hr, -, hid, -⟩ := h.guarded.guard hcall
  rcases h.guarded.freed hr with ⟨-, p, hp, rfl⟩ | hfreed
  · rw [hid] at hp
    exact absurd ((h.guarded.open_of_slot hp hr).txnId.symm.trans hid) (hslot p hp)
  · exact h.endLife hcall hr hfreed not_false (Call.not_owes not_false) nofun

/-- Behind the guard the slot holds its id, so whatever was registered there is gone. -/
protected theorem dropRemove {c : Nat} (h : Correlated s) (hcall : s.calls t = .registered c id)
    (hslot : s.slots (slotIdx id) = some p) :
    Correlated (((s.endLife c).free (slotIdx id) p).proceed t [.notify]) := by
  have hfree := h.free hslot
  obtain ⟨r, hr, -, hid, -⟩ := hfree.guarded.guard hcall
  have hfreed : r.freed = 1 := by
    rcases hfree.guarded.freed hr with ⟨-, p', hp', -⟩ | hfreed
    · rw [hid, show (s.free (slotIdx id) p).slots (slotIdx id) = _ from Function.update_self ..] at hp'
      cases hp'
    · exact hfreed
  have hdrop : Correlated (((s.free (slotIdx id) p).endLife c).setCall t (.rest [.notify])) := by
    refine hfree.endLife hcall hr hfreed not_false ?_ ?_
    · intro d howes
      obtain ⟨answer, hmem⟩ := Call.owes_rest howes
      cases hmem
      contradiction
    · intro actions heq
      rw [Call.rest_eq_finishing heq]
      exact Nat.zero_le 1
  have hcomm : ((s.free (slotIdx id) p).endLife c).registrations =
      ((s.endLife c).free (slotIdx id) p).registrations := by
    by_cases hc : p.sender = c
    · subst hc
      simp only [Manager.endLife, Manager.free, List.modify_modify_eq]
      rfl
    · exact List.modify_modify_ne _ _ _ hc
  exact ⟨hcomm ▸ hdrop.guarded, hcomm ▸ hdrop.owed⟩

protected theorem fill {q : Search} {k : Nat} (h : Correlated s)
    (hcall : s.calls t = .locking q id k) (hslot : s.slots (slotIdx id) = none) :
    Correlated (s.fill t q id k) where
  guarded := h.guarded.fill hcall hslot
  owed := by
    have howed : Owed (s.fill t q id k).registrations s.calls := by
      refine h.owed.regs ?_ ?_
      · rintro u c - ⟨r, hr, hrest⟩
        exact ⟨r, Log.concat_of_some hr, hrest⟩
      · intro c r hr
        rcases Log.concat_eq_some.mp hr with hr | ⟨-, rfl⟩
        · exact h.owed.answers hr
        · exact Nat.zero_le 1
    exact howed.sameOn (.update (by rw [hcall]; exact not_false) not_false)

protected theorem effect (h : Correlated s) (he : Effect s s') : Correlated s' := by
  cases he with
  | quiet hslots hregs hcalls => exact h.sameCalls hslots hregs hcalls
  | skip => exact ⟨h.guarded, h.owed⟩
  | draw hcall | occupied hcall =>
    exact ⟨h.guarded.sameOn (.update (by rw [hcall]; exact not_false) not_false),
      h.owed.sameOn (.update (by rw [hcall]; exact not_false) not_false)⟩
  | fill hcall hslot => exact h.fill hcall hslot
  | take hcall hslot => exact h.take hcall hslot
  | act hcall => exact h.act hcall
  | remove hcall hslot =>
    exact h.remove (fun hr => Call.not_plain_of_isRegistered hr hcall) hslot
  | drop hcall hslot => exact h.drop hcall hslot
  | dropRemove hcall hslot => exact h.dropRemove hcall hslot
  | fail hslot hslots hregs hcalls => exact (h.fail hslot).sameCalls hslots hregs hcalls

theorem of_reachable (hs : (manager ι).Reachable s) : Correlated s :=
  hs.invariant ⟨.new, .new⟩ fun _ h he => h.effect (effect_of_step he)

end

end Correlated

/-! ## What is on record stays -/

/-- A registration later on: the request is the same, and an answer that was given is the one. -/
structure Registration.Later (r r' : Registration ι) : Prop where
  owner : r'.owner = r.owner
  txnId : r'.txnId = r.txnId
  deadline : r'.deadline = r.deadline
  expected : r'.expected = r.expected
  answers : r.answers ≠ [] → r'.answers = r.answers

namespace Registration.Later

variable {r r' r'' : Registration ι}

protected theorem refl : r.Later r := ⟨rfl, rfl, rfl, rfl, fun _ => rfl⟩

protected theorem trans (h : r.Later r') (h' : r'.Later r'') : r.Later r'' where
  owner := h'.owner.trans h.owner
  txnId := h'.txnId.trans h.txnId
  deadline := h'.deadline.trans h.deadline
  expected := h'.expected.trans h.expected
  answers ha := by
    have hsame := h.answers ha
    rw [← hsame] at ha ⊢
    exact h'.answers ha

end Registration.Later

def RegistrationsLater (regs regs' : List (Registration ι)) : Prop :=
  ∀ (c : Nat) (r : Registration ι), regs[c]? = some r → ∃ r', regs'[c]? = some r' ∧ r.Later r'

namespace RegistrationsLater

variable {regs regs' regs'' : List (Registration ι)} {s : Manager ι}

protected theorem refl : RegistrationsLater regs regs :=
  fun _ _ hr => ⟨_, hr, .refl⟩

protected theorem trans (h : RegistrationsLater regs regs') (h' : RegistrationsLater regs' regs'') :
    RegistrationsLater regs regs'' := by
  intro c r hr
  obtain ⟨r', hr', hlater⟩ := h c r hr
  obtain ⟨r'', hr'', hlater'⟩ := h' c r' hr'
  exact ⟨r'', hr'', hlater.trans hlater'⟩

theorem modify {d : Nat} {f : Registration ι → Registration ι}
    (hf : ∀ r, regs[d]? = some r → r.Later (f r)) : RegistrationsLater regs (regs.modify d f) := by
  intro c r hr
  by_cases hdc : d = c
  · subst hdc
    exact ⟨f r, Log.modify_self hr, hf r hr⟩
  · exact ⟨r, (Log.modify_ne hdc).trans hr, .refl⟩

theorem free (s : Manager ι) (slot : Fin maxSlots) (p : Pending) :
    RegistrationsLater s.registrations (s.free slot p).registrations :=
  modify fun _ _ => ⟨rfl, rfl, rfl, rfl, fun _ => rfl⟩

theorem endLife (s : Manager ι) (c : Nat) :
    RegistrationsLater s.registrations (s.endLife c).registrations :=
  modify fun _ _ => ⟨rfl, rfl, rfl, rfl, fun _ => rfl⟩

theorem send {c : Nat} {a : Answer} (hun : Unanswered s.registrations c) :
    RegistrationsLater s.registrations (s.perform (.send c a)).registrations := by
  obtain ⟨r₀, hr₀, -, hanswers⟩ := hun
  refine modify fun r hr => ⟨rfl, rfl, rfl, rfl, fun ha => ?_⟩
  rw [hr₀] at hr
  cases hr
  exact absurd hanswers ha

theorem of_effect [DecidableEq ι] {s' : Manager ι} (h : Correlated s) (he : Effect s s') :
    RegistrationsLater s.registrations s'.registrations := by
  cases he with
  | quiet _ hregs => exact hregs ▸ .refl
  | skip | draw | occupied => exact .refl
  | fill => exact fun _ _ hr => ⟨_, Log.concat_of_some hr, .refl⟩
  | @take t slot p | @remove t slot p => exact .free s slot p
  | @act t a rest hcall =>
    cases a with
    | notify | retire => exact .refl
    | send c a => exact .send (h.owed.unanswered ⟨_, a, hcall, List.mem_cons_self⟩)
  | @drop t c => exact .endLife s c
  | @dropRemove t c id p => exact .trans (.endLife s c) (.free (s.endLife c) (slotIdx id) p)
  | @fail _ slot p error hslot _ hregs =>
    exact hregs ▸ .trans (.free s slot p) (.send (h.unanswered_free hslot))

/-- A registration that is in its slot is taken off it and told that its request failed. -/
theorem fail {slot : Fin maxSlots} {p : Pending} (h : Correlated s) (hslot : s.slots slot = some p)
    (a : Answer) :
    RegistrationsLater s.registrations
        ((s.free slot p).perform (.send p.sender a)).registrations ∧
      ∃ r, ((s.free slot p).perform (.send p.sender a)).registrations[p.sender]? = some r ∧
        r.answers = [a] := by
  have hun := h.unanswered_free hslot
  refine ⟨.trans (.free s slot p) (.send hun), ?_⟩
  obtain ⟨r, hr, -, hanswers⟩ := hun
  exact ⟨_, Log.modify_self hr, congrArg (· ++ [a]) hanswers⟩

end RegistrationsLater

end RustyModbus.Client.Concurrent
