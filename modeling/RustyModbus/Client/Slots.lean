import Mathlib.Data.Fintype.Card
import RustyModbus.Client.Ids
import RustyModbus.Client.Wiring

/-!
# Enough slots

An operation that registers always finds a free slot. Every occupied slot belongs to an operation
that was admitted, the one that registers has none yet, and no more are admitted than there are
slots; so a slot is free when the search begins. Only whoever holds the sink registers, so nobody
else draws an id or fills a slot while the search is on, and 31 ids in a row meet every slot.
-/

namespace RustyModbus.Client.Concurrent

/-! ## Consecutive ids -/

/-- The slot of the id that is drawn as number `k`. -/
def slotOf (k : Nat) : Fin maxSlots := ⟨idOf k % maxSlots, Nat.mod_lt _ (by decide)⟩

theorem slotIdx_eq_slotOf {id : UInt16} {k : Nat} (h : id.toNat = idOf k) : slotIdx id = slotOf k :=
  Fin.ext (congrArg (· % maxSlots) h)

/-- Any 31 ids in a row meet every slot. There are 16 of them where the numbers do not wrap. -/
theorem exists_slotOf (a : Nat) (j : Fin maxSlots) : ∃ k, a ≤ k ∧ k < a + 31 ∧ slotOf k = j := by
  have hj : j.val < 16 := j.isLt
  let d := (j.val + 15 - a % 65535 % 16) % 16
  by_cases hwrap : a % 65535 + d < 65535
  · refine ⟨a + d, by omega, by omega, Fin.ext ?_⟩
    show ((a + d) % 65535 + 1) % 16 = j.val
    omega
  · refine ⟨a + (65535 - a % 65535) + (j.val + 15) % 16, by omega, by omega, Fin.ext ?_⟩
    show ((a + (65535 - a % 65535) + (j.val + 15) % 16) % 65535 + 1) % 16 = j.val
    omega

/-! ## Nobody else searches -/

/-- In the loop of `register`. -/
def Call.IsSearching : Call → Prop
  | .drawing _ | .locking _ _ _ => True
  | _ => False

section

variable {ι : Type} {s s' : Manager ι}

def Manager.occupied (s : Manager ι) : Finset (Fin maxSlots) :=
  Finset.univ.filter fun j => (s.slots j).isSome

theorem update_none {slots : Fin maxSlots → Option Pending} {j : Fin maxSlots}
    (hj : slots j = none) (slot : Fin maxSlots) : Function.update slots slot none j = none := by
  by_cases hjs : j = slot
  · rw [hjs, Function.update_self]
  · rw [Function.update_of_ne hjs, hj]

/-- While only one thread registers, the others draw no id and fill no slot. -/
theorem Effect.keeps_free [DecidableEq ι] {u : ι} (he : Effect s s')
    (honly : ∀ t, (s.calls t).IsSearching → t = u) (hcall : s'.calls u = s.calls u) :
    s'.drawn = s.drawn ∧ ∀ j, s.slots j = none → s'.slots j = none := by
  cases he with
  | quiet hslots _ _ _ hdrawn => exact ⟨hdrawn, fun j hj => hslots ▸ hj⟩
  | skip | occupied | drop => exact ⟨rfl, fun j hj => hj⟩
  | draw ht =>
    obtain rfl := honly _ (by rw [ht]; trivial)
    dsimp only at hcall
    rw [Function.update_self, ht] at hcall
    cases hcall
  | fill ht =>
    obtain rfl := honly _ (by rw [ht]; trivial)
    unfold Manager.fill at hcall
    dsimp only at hcall
    rw [Function.update_self, ht] at hcall
    cases hcall
  | take | remove | dropRemove => exact ⟨rfl, fun j hj => update_none hj _⟩
  | act =>
    rename_i a _ _
    cases a <;> exact ⟨rfl, fun j hj => hj⟩
  | fail _ hslots _ _ _ hdrawn => exact ⟨hdrawn, fun j hj => hslots ▸ update_none hj _⟩

/-! ## The search for a slot -/

/-- The ids of the search are the last that were drawn. Those before number `last` did not belong
to slot `j`, which is free. -/
structure Sought (s : Manager ι) (q : Search) (last : Nat) (j : Fin maxSlots) : Prop where
  free : s.slots j = none
  draws_le : q.draws ≤ s.drawn
  missed : ∀ k, s.drawn ≤ k + q.draws → k < last → slotOf k ≠ j
  seen : ∀ i, q.seenSlots i = true → ∃ k, s.drawn ≤ k + q.draws ∧ k < s.drawn ∧ slotOf k = i
  count : q.seenCount = (Finset.univ.filter fun i => q.seenSlots i = true).card

/-- Where a search that will succeed is. -/
def Seeks (s : Manager ι) : Call → Prop
  | .drawing q => ∃ j, Sought s q s.drawn j
  | .locking q _ k => s.drawn = k + 1 ∧ 0 < q.draws ∧ ∃ j, Sought s q k j
  | .refused _ => False
  | _ => True

namespace Sought

variable {q : Search} {last : Nat} {j : Fin maxSlots}

theorem start (expected : ExpectedResponse) (deadline : Instant) (hj : s.slots j = none) :
    Sought s (.start expected deadline) s.drawn j where
  free := hj
  draws_le := Nat.zero_le _
  missed := fun k hk hlt => absurd hlt (Nat.not_lt_of_le hk)
  seen := nofun
  count := by simp [Search.start]

theorem keep (h : Sought s q last j) (hdrawn : s'.drawn = s.drawn)
    (hfree : ∀ j, s.slots j = none → s'.slots j = none) : Sought s' q last j where
  free := hfree j h.free
  draws_le := hdrawn ▸ h.draws_le
  missed := hdrawn ▸ h.missed
  seen := hdrawn ▸ h.seen
  count := h.count

/-- The next 31 ids would have met the slot. -/
theorem draws_lt (h : Sought s q last j) : last + q.draws < s.drawn + 31 := by
  apply Nat.lt_of_not_le
  intro hle
  obtain ⟨k, hk, hlt, hslot⟩ := exists_slotOf (s.drawn - q.draws) j
  have := h.draws_le
  exact h.missed k (by omega) (by omega) hslot

/-- The slot that is free has not been seen. -/
theorem seenCount_lt (h : Sought s q s.drawn j) : q.seenCount < maxSlots := by
  have hj : j ∉ Finset.univ.filter fun i => q.seenSlots i = true := by
    intro hj
    obtain ⟨k, hk, hlt, hslot⟩ := h.seen j (Finset.mem_filter.mp hj).2
    exact h.missed k hk hlt hslot
  have hlt := Finset.card_lt_univ_of_notMem hj
  rwa [Fintype.card_fin, ← h.count] at hlt

theorem see_draws (q : Search) (slot : Fin maxSlots) : (q.see slot).draws = q.draws + 1 := by
  unfold Search.see
  dsimp only
  split <;> rfl

theorem see_seenSlots (q : Search) (slot i : Fin maxSlots) :
    (q.see slot).seenSlots i = true ↔ i = slot ∨ q.seenSlots i = true := by
  unfold Search.see
  dsimp only
  split
  next hseen =>
    constructor
    · exact Or.inr
    · rintro (rfl | h)
      · exact hseen
      · exact h
  next =>
    by_cases hi : i = slot
    · simp [hi]
    · simp [hi]

theorem see_seenCount (h : q.seenCount = (Finset.univ.filter fun i => q.seenSlots i = true).card)
    (slot : Fin maxSlots) : (q.see slot).seenCount =
      (Finset.univ.filter fun i => (q.see slot).seenSlots i = true).card := by
  have hinsert : (Finset.univ.filter fun i => (q.see slot).seenSlots i = true) =
      insert slot (Finset.univ.filter fun i => q.seenSlots i = true) := by
    ext i
    simp [see_seenSlots]
  rw [hinsert]
  unfold Search.see
  dsimp only
  split
  next hseen => rw [h, Finset.insert_eq_of_mem (by simpa using hseen)]
  next hseen => rw [Finset.card_insert_of_notMem (by simpa using hseen), ← h]

end Sought

namespace Seeks

variable {t : ι} {q : Search}

theorem of_foreign {call : Call} (h : call.Foreign .reader) : Seeks s call := by
  cases call <;> first | exact trivial | cases h

/-- The other threads do not disturb a search. -/
theorem keep {call : Call} (h : Seeks s call) (hdrawn : s'.drawn = s.drawn)
    (hfree : ∀ j, s.slots j = none → s'.slots j = none) : Seeks s' call := by
  cases call with
  | drawing q =>
    obtain ⟨j, hj⟩ := h
    exact ⟨j, hdrawn ▸ hj.keep hdrawn hfree⟩
  | locking q id k =>
    obtain ⟨hk, hpos, j, hj⟩ := h
    exact ⟨hdrawn.trans hk, hpos, j, hj.keep hdrawn hfree⟩
  | refused => exact h
  | _ => trivial

theorem exists_free {call : Call} (h : Seeks s call) (hsearch : call.IsSearching) :
    ∃ j, s.slots j = none := by
  cases call with
  | drawing q =>
    obtain ⟨j, hj⟩ := h
    exact ⟨j, hj.free⟩
  | locking q id k =>
    obtain ⟨-, -, j, hj⟩ := h
    exact ⟨j, hj.free⟩
  | _ => cases hsearch

theorem draw (hn : Numbered s) (hne : s.nextId ≠ 0) (h : Seeks s (.drawing q))
    (calls : ι → Call) :
    Seeks { s with nextId := s.nextId + 1, calls, drawn := s.drawn + 1 }
      (.locking (q.see (slotIdx s.nextId)) s.nextId s.drawn) := by
  obtain ⟨j, hj⟩ := h
  have hid := hn.counter
  rw [if_neg hne] at hid
  refine ⟨rfl, by rw [Sought.see_draws]; exact Nat.succ_pos _, j, hj.free, ?_, ?_, ?_, ?_⟩
  · rw [Sought.see_draws]
    exact Nat.succ_le_succ hj.draws_le
  · intro k hk hlt
    rw [Sought.see_draws] at hk
    exact hj.missed k (Nat.le_of_succ_le_succ hk) hlt
  · intro i hi
    rw [Sought.see_draws]
    rcases (Sought.see_seenSlots ..).mp hi with rfl | hi
    · refine ⟨s.drawn, ?_, Nat.lt_succ_self _, (slotIdx_eq_slotOf hid).symm⟩
      dsimp only
      omega
    · obtain ⟨k, hk, hlt, hslot⟩ := hj.seen i hi
      exact ⟨k, Nat.succ_le_succ hk, Nat.lt_succ_of_lt hlt, hslot⟩
  · exact Sought.see_seenCount hj.count _

theorem occupied (hn : Numbered s) {id : UInt16} {k : Nat} {p : Pending}
    (h : Seeks s (.locking q id k)) (hcall : s.calls t = .locking q id k)
    (hslot : s.slots (slotIdx id) = some p) : Seeks s (.drawing q) := by
  obtain ⟨hdrawn, -, j, hj⟩ := h
  refine ⟨j, hj.free, hj.draws_le, fun i hi hlt => ?_, hj.seen, hj.count⟩
  -- the last id belonged to a slot that is not free
  rcases Nat.lt_succ_iff_lt_or_eq.mp (hdrawn ▸ hlt) with hlt | rfl
  · exact hj.missed i hi hlt
  · rintro rfl
    rw [slotIdx_eq_slotOf (hn.locking hcall).2, hj.free] at hslot
    cases hslot

end Seeks

end

theorem Call.IsSearching.busy {call : Call} (h : call.IsSearching) :
    ModbusClient.Busy call ∧ ¬ call.Foreign .reader := by
  cases call with
  | drawing | locking => exact ⟨trivial, id⟩
  | _ => cases h

theorem foreign_of_quiet {call : Call} (h : call.Quiet) : call.Foreign .reader := by
  rcases h with rfl | rfl <;> trivial

/-- What the thread does itself. A search begins only while a slot is free. -/
theorem Seeks.own {m m' : Manager Thread} {e : Event Thread} {t : Thread} (hn : Numbered m)
    (h : Seeks m (m.calls t)) (he : m.step e = some m') (ht : e.thread = some t)
    (hfree : ∀ expected deadline, e = .register t expected deadline → ∃ j, m.slots j = none) :
    Seeks m' (m'.calls t) := by
  have seeks {call : Call} (hcall : m'.calls t = call) (hseeks : Seeks m' call) :
      Seeks m' (m'.calls t) := hcall ▸ hseeks
  cases transition_of_step he with
  | tick | enable | beginScan | visit | endScan | wake | sleepElapsed | stop | retire
  | markCleanShutdown => cases ht
  | register =>
    cases ht
    obtain ⟨j, hj⟩ := hfree _ _ rfl
    exact seeks (Function.update_self ..) ⟨j, Sought.start _ _ hj⟩
  | skip hcall =>
    cases ht
    rw [hcall] at h
    obtain ⟨j, hj⟩ := h
    exact seeks hcall ⟨j, hj.keep rfl fun _ h => h⟩
  | draw hcall hne =>
    cases ht
    rw [hcall] at h
    exact seeks (Function.update_self ..) (h.draw hn hne _)
  | occupied hcall hslot =>
    cases ht
    rw [hcall] at h
    have hseeks := h.occupied hn hcall hslot
    exact seeks (Function.update_self ..) (hseeks.keep rfl fun _ h => h)
  | conflict hcall hall =>
    rw [Option.some.inj ht] at hcall
    rw [hcall] at h
    obtain ⟨j, hj⟩ := h
    exact absurd hj.seenCount_lt hall
  | takeResponse | takeOldest | act =>
    cases ht
    exact seeks (Function.update_self ..) (of_foreign (ModbusClient.foreign_rest _))
  | _ =>
    cases ht
    exact seeks (Function.update_self ..) trivial

/-! ## Slots and admissions -/

namespace ModbusClient

variable {limit : Instant} {config : ClientConfig} {s s' : ModbusClient}

theorem admitted_of_calls {place : Place} {call : Call} {a : Admission} (h : place.Calls call)
    (hcall : ¬ call.Quiet) (ha : place.Admits a) : a = .admitted := by
  cases place with
  | outside | admitting | casting | gone => exact absurd (Or.inl h) hcall
  | inside | returning => exact absurd h hcall
  | registering | dispatched | awaiting | leaving => exact ha

/-- A thread that is in a call of an operation is an operation's. -/
theorem Wired.exists_operation (hw : s.Wired) {t : Thread}
    (hforeign : ¬ (s.manager.calls t).Foreign .reader) :
    ∃ i op, t = .op i ∧ s.operations[i]? = some op := by
  cases t with
  | op i =>
    refine ⟨i, _, rfl, List.getElem?_eq_getElem (Nat.lt_of_not_le fun hle => hforeign ?_)⟩
    rw [hw.fresh hle]
    trivial
  | reader | coordinator | abort => exact absurd (hw.foreign (by simp)).reader hforeign

variable {i : Nat}

theorem Wired.exists_admission (hw : s.Wired) {op : Operation} (hop : s.operations[i]? = some op) :
    ∃ a, s.lifecycle.admissions[i]? = some a := by
  obtain ⟨hlt, -⟩ := List.getElem?_eq_some_iff.mp hop
  exact ⟨_, List.getElem?_eq_getElem (hw.aligned ▸ hlt)⟩

/-- Who has a registration or looks for a slot has been admitted. -/
theorem Wired.admitted (hw : s.Wired) (hforeign : ¬ (s.manager.calls (.op i)).Foreign .reader) :
    s.lifecycle.admissions[i]? = some .admitted := by
  obtain ⟨_, op, ⟨⟩, hop⟩ := hw.exists_operation hforeign
  obtain ⟨a, ha⟩ := hw.exists_admission hop
  rw [ha, admitted_of_calls (hw.calls hop) (fun hq => hforeign (foreign_of_quiet hq))
    (hw.admits hop ha)]

/-- The operation behind an occupied slot. -/
theorem exists_owner (hw : s.Wired) (hc : Correlated s.manager) {j : Fin maxSlots}
    (hj : j ∈ s.manager.occupied) : ∃ p i, s.manager.slots j = some p ∧
      s.manager.calls (.op i) = .registered p.sender p.txnId := by
  obtain ⟨p, hp⟩ := Option.isSome_iff_exists.mp (Finset.mem_filter.mp hj).2
  obtain ⟨-, r, hr, hopen⟩ := hc.guarded.slot hp
  have hcall := hc.guarded.live hr hopen.droppedAt
  obtain ⟨i, op, hi, -⟩ := hw.exists_operation (t := r.owner) (by rw [hcall]; exact id)
  exact ⟨p, i, hp, by rw [← hi, hcall, hopen.txnId]⟩

/-- The occupied slots and any operations without a registration are no more than the admitted
operations. -/
theorem card_occupied_add_le (hw : s.Wired) (hc : Correlated s.manager)
    (hb : s.lifecycle.active = s.lifecycle.liveGuards) (others : Finset Nat)
    (hothers : ∀ i ∈ others, s.lifecycle.admissions[i]? = some .admitted ∧
      ¬ (s.manager.calls (.op i)).IsRegistered) :
    s.manager.occupied.card + others.card ≤ s.lifecycle.active := by
  have howner (j : Fin maxSlots) : ∃ i, j ∈ s.manager.occupied → ∃ p, s.manager.slots j = some p ∧
      s.manager.calls (.op i) = .registered p.sender p.txnId := by
    by_cases hj : j ∈ s.manager.occupied
    · obtain ⟨p, i, hp, hi⟩ := exists_owner hw hc hj
      exact ⟨i, fun _ => ⟨p, hp, hi⟩⟩
    · exact ⟨0, fun h => absurd h hj⟩
  choose owner howner using howner
  have hinj : Set.InjOn owner s.manager.occupied := by
    intro j hj k hk heq
    obtain ⟨p, hp, hcall⟩ := howner j hj
    obtain ⟨p', hp', hcall'⟩ := howner k hk
    rw [heq, hcall'] at hcall
    exact hc.guarded.slot_inj hp' hp (Call.registered.inj hcall).1.symm
  have hdisjoint : Disjoint (s.manager.occupied.image owner) others := by
    refine Finset.disjoint_left.mpr fun i hi hi' => ?_
    obtain ⟨j, hj, rfl⟩ := Finset.mem_image.mp hi
    obtain ⟨p, -, hcall⟩ := howner j hj
    exact (hothers _ hi').2 (by rw [hcall]; trivial)
  rw [hb, ← Finset.card_image_of_injOn hinj, ← Finset.card_union_of_disjoint hdisjoint]
  refine Log.card_le_countP _ _ fun i hi => ⟨.admitted, ?_, rfl⟩
  rcases Finset.mem_union.mp hi with hi | hi
  · obtain ⟨j, hj, rfl⟩ := Finset.mem_image.mp hi
    obtain ⟨p, -, hcall⟩ := howner j hj
    exact hw.admitted (by rw [hcall]; exact id)
  · exact (hothers i hi).1

theorem admissionCapacity_le (n : Nat) : admissionCapacity n ≤ maxSlots := by
  simp only [admissionCapacity, maxSlots]
  omega

variable {m : Manager Thread}

theorem exists_free (h : m.occupied.card < maxSlots) : ∃ j, m.slots j = none := by
  have hne : m.occupied ≠ Finset.univ := by
    intro heq
    rw [heq, Finset.card_univ, Fintype.card_fin] at h
    exact Nat.lt_irrefl _ h
  obtain ⟨j, hj⟩ := not_forall.mp (mt Finset.eq_univ_iff_forall.mpr hne)
  refine ⟨j, Option.not_isSome_iff_eq_none.mp fun hsome => hj ?_⟩
  exact Finset.mem_filter.mpr ⟨Finset.mem_univ j, hsome⟩

/-- Only the holder of the sink searches. -/
theorem Wired.holder_of_searching (hw : s.Wired) {t : Thread}
    (ht : (s.manager.calls t).IsSearching) : ∃ i, t = .op i ∧ s.sink = some i := by
  obtain ⟨hbusy, hforeign⟩ := ht.busy
  obtain ⟨i, op, rfl, hop⟩ := hw.exists_operation hforeign
  obtain ⟨expected, deadline, hplace, -⟩ := registering_of_busy (hw.calls hop) hbusy
  refine ⟨i, rfl, hw.sink hop ?_⟩
  rw [hplace]
  rfl

theorem Wired.searching_unique (hw : s.Wired) {t u : Thread}
    (ht : (s.manager.calls t).IsSearching) (hu : (s.manager.calls u).IsSearching) : t = u := by
  obtain ⟨i, rfl, hi⟩ := hw.holder_of_searching ht
  obtain ⟨j, rfl, hj⟩ := hw.holder_of_searching hu
  rw [Option.some.inj (hi.symm.trans hj)]

/-! ## Every search succeeds -/

theorem seeks_of_manager_step (hw : s.Wired) (hn : Numbered s.manager)
    (h : ∀ i, Seeks s.manager (s.manager.calls (.op i))) {e : Concurrent.Event Thread}
    (he : s.manager.step e = some m)
    (hfree : ∀ i expected deadline, e = .register (.op i) expected deadline →
      ∃ j, s.manager.slots j = none) : ∀ i, Seeks m (m.calls (.op i)) := by
  intro i
  by_cases hthread : e.thread = some (.op i)
  · exact (h i).own hn he hthread (hfree i)
  have hcall := Manager.calls_of_step he hthread
  rw [hcall]
  by_cases hs : (s.manager.calls (.op i)).IsSearching
  · obtain ⟨hdrawn, hkeep⟩ :=
      (effect_of_step he).keeps_free (fun t ht => hw.searching_unique ht hs) hcall
    exact (h i).keep hdrawn hkeep
  · have hi := h i
    cases hcall : s.manager.calls (.op i) <;> rw [hcall] at hi hs <;>
      first | trivial | exact absurd trivial hs

/-- An operation begins to register where it holds only its guard. -/
theorem inside_of_register {e : OperationEvent} {place place' : Place}
    {finding : Option SessionRetirementReason} {t : Thread} {expected : ExpectedResponse}
    {deadline : Instant} (hmoves : place.Moves e place')
    (h : managerEffect i place place' finding e = some (.register t expected deadline)) :
    place = .inside ∧ t = .op i := by
  cases ownStep_of_managerEffect h with
  | register hplace =>
    subst hplace
    cases hmoves
    exact ⟨rfl, rfl⟩

/-- The one that begins to search is admitted and has no slot. -/
theorem free_of_inside (hw : s.Wired) (hc : Correlated s.manager)
    (hb : Lifecycle.Balanced (admissionCapacity config.maxInFlight) s.lifecycle) {op : Operation}
    (hop : s.operations[i]? = some op) (hplace : op.place = .inside) :
    ∃ j, s.manager.slots j = none := by
  obtain ⟨a, ha⟩ := hw.exists_admission hop
  have hadmits := hw.admits hop ha
  have hcalls := hw.calls hop
  rw [hplace] at hadmits hcalls
  have hcard := card_occupied_add_le hw hc hb.active {i} (by
    intro k hk
    cases Finset.mem_singleton.mp hk
    refine ⟨ha.trans (congrArg some hadmits), fun hr => ?_⟩
    rcases hcalls with hcall | hcall <;> rw [hcall] at hr <;> cases hr)
  rw [Finset.card_singleton] at hcard
  exact exists_free (Nat.lt_of_lt_of_le (Nat.lt_of_succ_le hcard)
    (Nat.le_trans hb.active_le (admissionCapacity_le _)))

theorem seeks_of_reachable (hs : (modbusClient limit config).Reachable s) :
    ∀ i, Seeks s.manager (s.manager.calls (.op i)) := by
  induction hs with
  | init => exact fun _ => trivial
  | step hs he ih =>
    have hw := Wired.of_reachable hs
    have hm := embeds_manager.reachable hs
    have hb := Lifecycle.Balanced.of_reachable (embeds_lifecycle.reachable hs)
    cases stepped_of_step he with
    | call => exact ih
    | operate hop _ _ hstep hgoes =>
      rcases hgoes.cases with ⟨-, rfl⟩ | ⟨me, heffect, hme⟩
      · exact ih
      · refine seeks_of_manager_step hw (.of_reachable hm) ih hme ?_
        rintro k expected deadline rfl
        obtain ⟨hplace, -⟩ := inside_of_register (Operation.moves_of_step hstep) heffect
        exact free_of_inside hw (.of_reachable hm) hb hop hplace
    | other hother hgoes =>
      rcases hgoes.cases with ⟨-, rfl⟩ | ⟨me, rfl, hme⟩
      · exact ih
      · refine seeks_of_manager_step hw (.of_reachable hm) ih hme ?_
        rintro k expected deadline rfl
        exact (hother.foreign _ rfl).elim

theorem step_manager (limit : Instant) (config : ClientConfig) {e : Concurrent.Event Thread}
    (hc : continues e = true) (he : (Concurrent.manager Thread).step s.manager e = some m) :
    (modbusClient limit config).step s (.manager e) = some { s with manager := m } := by
  show (if continues e then s.move (some e) none else none) = _
  rw [if_pos hc]
  show (s.manager.step e).bind _ = _
  rw [show s.manager.step e = some m from he]
  rfl

/-- One more id, behind zero with a second turn. -/
theorem exists_locking (limit : Instant) (config : ClientConfig) {q : Search}
    (hcall : s.manager.calls (.op i) = .drawing q) (hlt : q.seenCount < maxSlots) :
    ∃ es s' id k, (∀ e ∈ es, e = .manager (.draw (.op i))) ∧
      (modbusClient limit config).run s es = some s' ∧
      s'.manager.calls (.op i) = .locking (q.see (slotIdx id)) id k := by
  by_cases hzero : s.manager.nextId = 0
  · have hskip := step_manager limit config rfl (step_draw_zero hcall hlt hzero)
    have hdraw := step_manager limit config rfl
      (s := { s with manager := { s.manager with nextId := 1 } })
      (step_draw_ne_zero (s := { s.manager with nextId := 1 }) hcall hlt
        (show (1 : UInt16) ≠ 0 by decide))
    refine ⟨[.manager (.draw (.op i)), .manager (.draw (.op i))], _, 1, s.manager.drawn, by simp,
      Machine.run_step hskip (Machine.run_step hdraw rfl), ?_⟩
    exact Function.update_self ..
  · have hdraw := step_manager limit config rfl
      (step_draw_ne_zero hcall hlt hzero)
    refine ⟨[.manager (.draw (.op i))], _, s.manager.nextId, s.manager.drawn, by simp,
      Machine.run_step hdraw rfl, ?_⟩
    exact Function.update_self ..

/-- The loop of `register` ends with a registration. Each turn leaves one id less that could be
drawn in vain. -/
theorem exists_registered_of_locking {q : Search} {id : UInt16} {k : Nat}
    (hs : (modbusClient limit config).Reachable s)
    (hcall : s.manager.calls (.op i) = .locking q id k) :
    ∃ es s', (∀ e ∈ es, e = .manager (.draw (.op i)) ∨ e = .manager (.lockSlot (.op i))) ∧
      (modbusClient limit config).run s es = some s' ∧
      (s'.manager.calls (.op i)).IsRegistered := by
  induction hn : 31 - q.draws using Nat.strong_induction_on generalizing s q id k with
  | _ n ih =>
    cases hslot : s.manager.slots (slotIdx id) with
    | none =>
      have hfill := step_manager limit config rfl
        (step_lockSlot hcall hslot)
      refine ⟨[.manager (.lockSlot (.op i))], _, by simp, Machine.run_step hfill rfl, ?_⟩
      unfold Manager.fill
      dsimp only
      rw [Function.update_self]
      trivial
    | some p =>
      have hback : (Concurrent.manager Thread).step s.manager (.lockSlot (.op i)) =
          some (s.manager.setCall (.op i) (.drawing q)) := by
        simp only [Concurrent.manager, Manager.step, hcall, Manager.lockSlot, hslot]
      have hstep := step_manager limit config rfl hback
      have hs₁ := hs.step hstep
      obtain ⟨j, hj⟩ : Seeks (s.manager.setCall (.op i) (.drawing q)) (.drawing q) := by
        have := seeks_of_reachable hs₁ i
        rwa [Manager.setCall_self] at this
      have hdraws := hj.draws_lt
      obtain ⟨es, s₂, id', k', hes, hrun, hcall₂⟩ := exists_locking limit
        config (s := { s with manager := s.manager.setCall (.op i) (.drawing q) })
        (Manager.setCall_self _) hj.seenCount_lt
      obtain ⟨fs, s', hfs, hrun', hreg⟩ := ih _ (by rw [Sought.see_draws]; omega)
        (hs₁.run hrun) hcall₂ rfl
      refine ⟨.manager (.lockSlot (.op i)) :: (es ++ fs), s', ?_, ?_, hreg⟩
      · intro e he
        rcases List.mem_cons.mp he with rfl | he
        · exact Or.inr rfl
        rcases List.mem_append.mp he with he | he
        · exact Or.inl (hes e he)
        · exact hfs e he
      · exact Machine.run_step hstep (Machine.run_append hrun fs ▸ hrun')

theorem exists_registered (hs : (modbusClient limit config).Reachable s)
    (hi : (s.manager.calls (.op i)).IsSearching) :
    ∃ es s', (∀ e ∈ es, e = .manager (.draw (.op i)) ∨ e = .manager (.lockSlot (.op i))) ∧
      (modbusClient limit config).run s es = some s' ∧
      (s'.manager.calls (.op i)).IsRegistered := by
  cases hcall : s.manager.calls (.op i) with
  | locking q id k => exact exists_registered_of_locking hs hcall
  | drawing q =>
    have hseeks := seeks_of_reachable hs i
    rw [hcall] at hseeks
    obtain ⟨j, hj⟩ := hseeks
    obtain ⟨es, s₁, id, k, hes, hrun, hcall₁⟩ :=
      exists_locking limit config hcall hj.seenCount_lt
    obtain ⟨fs, s', hfs, hrun', hreg⟩ := exists_registered_of_locking (hs.run hrun) hcall₁
    refine ⟨es ++ fs, s', ?_, Machine.run_append hrun fs ▸ hrun', hreg⟩
    intro e he
    rcases List.mem_append.mp he with he | he
    · exact Or.inl (hes e he)
    · exact hfs e he
  | _ => rw [hcall] at hi; cases hi

end ModbusClient

end RustyModbus.Client.Concurrent
