import RustyModbus.Pool.Places

/-!
# Borrowers are kept apart

What goes back to the idle list has never been lent, or was given back by a session that found it
fit for reuse; and it is lent again only if nothing has arrived on it in the meantime. So what a
borrower decodes has arrived during its own loan.
-/

namespace RustyModbus.Pool

open Client (SessionReuseVerdict)

variable {Addr : Type} {signals : Signals}

/-! ## Transports -/

namespace Network

variable (net : Network) {id id' : TransportId}

@[grind =] theorem lend_wires_self (id : TransportId) : (net.lend id).wires id
    = { net.wires id with loan := (net.wires id).loan + 1, standing := .lent } :=
  Function.update_self ..

@[grind =] theorem giveBack_wires_self (id : TransportId) (verdict : SessionReuseVerdict) :
    (net.giveBack id verdict).wires id = { net.wires id with standing := .returned verdict } :=
  Function.update_self ..

@[grind =] theorem spoil_wires_self (id : TransportId) :
    (net.spoil id).wires id = { net.wires id with spoiled := true } :=
  Function.update_self ..

@[grind =] theorem connect_wires_self (standing : Standing) : (net.connect standing).wires net.next
    = { received := [], buffer := [], loan := 0, standing, spoiled := false } :=
  Function.update_self ..

@[grind =] theorem lend_wires_of_ne (h : id' ≠ id) : (net.lend id).wires id' = net.wires id' :=
  Function.update_of_ne h ..

@[grind =] theorem giveBack_wires_of_ne (verdict : SessionReuseVerdict) (h : id' ≠ id) :
    (net.giveBack id verdict).wires id' = net.wires id' :=
  Function.update_of_ne h ..

@[grind =] theorem spoil_wires_of_ne (h : id' ≠ id) : (net.spoil id).wires id' = net.wires id' :=
  Function.update_of_ne h ..

@[grind =] theorem connect_wires_of_ne (standing : Standing) (h : id' ≠ net.next) :
    (net.connect standing).wires id' = net.wires id' :=
  Function.update_of_ne h ..

end Network

/-! ## How a transport came to be idle -/

/-- The transport may be lent: it has not been lent yet, or the last session has found it fit. -/
structure Wire.Kept (w : Wire) : Prop where
  unspoiled : w.spoiled = false
  standing : w.standing = .preconnected ∨ w.standing = .returned .reuseEligible

/-- What a task has may come back as far as the task shows. -/
structure Holding.Clean (wires : TransportId → Wire) (role : Role Addr) (holding : Holding Addr) :
    Prop where
  evicted : ∀ e, holding.evicted = some e → (wires e.stream).Kept
  pristine : ∀ e, holding.loan = some e → holding.pristine = true →
    (wires e.stream).spoiled = false
  connected : ∀ e evicted, holding = .connected e evicted →
    (wires e.stream).spoiled = false ∧ (wires e.stream).standing = role.standing

section

variable {wires wires' : TransportId → Wire}

theorem Holding.clean_nothing (wires : TransportId → Wire) (role : Role Addr) :
    (Holding.nothing : Holding Addr).Clean wires role := by
  constructor
  · intro _ h
    cases h
  · intro _ h
    cases h
  · intro _ _ h
    cases h

variable {role : Role Addr}

theorem Holding.clean_pending {evicted : Option (PoolEntry Addr)}
    (h : ∀ e, evicted = some e → (wires e.stream).Kept) : (pending evicted).Clean wires role := by
  constructor
  · exact h
  · intro _ h
    cases h
  · intro _ _ h
    cases h

variable {holding : Holding Addr}

theorem Holding.clean_of_loan {entry : PoolEntry Addr} (hloan : holding.loan = some entry)
    (h : holding.pristine = true → (wires entry.stream).spoiled = false) :
    holding.Clean wires role := by
  constructor
  · intro e he
    rw [(connection_of_loan hloan).2] at he
    cases he
  · intro e he hpristine
    cases hloan.symm.trans he
    exact h hpristine
  · rintro e evicted rfl
    cases hloan

theorem Holding.places_of_connection {e : PoolEntry Addr} (h : holding.connection = some e) :
    0 < holding.places e.stream := by
  have hon : e.on e.stream = true := decide_eq_true rfl
  rw [places, owns, h, Option.any_some, hon]
  exact Nat.lt_of_lt_of_le Nat.zero_lt_one (Nat.le_add_right _ _)

theorem Holding.places_of_evicted {e : PoolEntry Addr} (h : holding.evicted = some e) :
    0 < holding.places e.stream := by
  have hon : e.on e.stream = true := decide_eq_true rfl
  rw [places, setsAside, h, Option.any_some, hon]
  exact Nat.lt_of_lt_of_le Nat.zero_lt_one (Nat.le_add_left _ _)

theorem Wire.Kept.congr {w w' : Wire} (h : w.Kept) (hspoiled : w'.spoiled = w.spoiled)
    (hstanding : w'.standing = w.standing) : w'.Kept :=
  ⟨hspoiled.trans h.unspoiled, hstanding ▸ h.standing⟩

/-- It does not matter what happens to the transports of others, and to the bytes. -/
theorem Holding.Clean.congr (h : holding.Clean wires role)
    (hspoiled : ∀ id, 0 < holding.places id → (wires' id).spoiled = (wires id).spoiled)
    (hstanding : ∀ id, 0 < holding.places id → (wires' id).standing = (wires id).standing) :
    holding.Clean wires' role := by
  constructor
  · intro e he
    have hpos := places_of_evicted he
    exact (h.evicted e he).congr (hspoiled _ hpos) (hstanding _ hpos)
  · intro e he hpristine
    rw [hspoiled _ (places_of_connection (connection_of_loan he).1)]
    exact h.pristine e he hpristine
  · rintro e evicted rfl
    have hpos : 0 < (Holding.connected e evicted).places e.stream := places_of_connection rfl
    rw [hspoiled _ hpos, hstanding _ hpos]
    exact h.connected e evicted rfl

end

/-! ## What has arrived -/

/-- What new transports have, and a transport does not lose by being lent, spoiled and given back,
nor by what happens to its bytes. -/
structure WireInvariant (P : Wire → Prop) : Prop where
  made : ∀ standing, P { received := [], buffer := [], loan := 0, standing, spoiled := false }
  lent : ∀ w, w.received ++ w.buffer = [] → P w →
    P { w with loan := w.loan + 1, standing := .lent }
  spoiled : ∀ w, P w → P { w with spoiled := true }
  returned : ∀ w verdict, P w → P { w with standing := .returned verdict }
  carried : ∀ {f : Wire → Wire} {w : Wire}, Carries f → P w → P (f w)

theorem forall_update {P : Wire → Prop} {wires : TransportId → Wire} {w : Wire} {id : TransportId}
    (h : ∀ id, P (wires id)) (hw : P w) : ∀ id', P (Function.update wires id w id') :=
  (Function.forall_update_iff wires fun _ w => P w).mpr ⟨hw, fun id _ => h id⟩

/-- What has arrived and is not yet decoded has arrived during the loan. -/
def Wire.Current (w : Wire) : Prop := ∀ b ∈ w.received ++ w.buffer, b.loan = w.loan

theorem wireInvariant_current : WireInvariant Wire.Current := by
  constructor
  · exact fun _ => List.forall_mem_nil _
  · intro w hempty _ b hb
    have hb : b ∈ w.received ++ w.buffer := hb
    rw [hempty] at hb
    cases hb
  · exact fun _ hw => hw
  · exact fun _ _ hw => hw
  · intro f w hcarries hw b hb
    rw [hcarries.loan]
    rcases hcarries.bytes w b hb with hb | hb
    · exact hw b hb
    · exact hb

/-- A transport that waits for its first borrower has not been lent. -/
def Wire.Unused (w : Wire) : Prop := w.standing = .preconnected → w.loan = 0

theorem wireInvariant_unused : WireInvariant Wire.Unused := by
  constructor
  · exact fun _ _ => rfl
  · intro _ _ _ h
    cases h
  · exact fun _ hw => hw
  · intro _ _ _ h
    cases h
  · intro f w hcarries hw h
    rw [hcarries.standing] at h
    rw [hcarries.loan]
    exact hw h

/-- What a search finds has no byte waiting. -/
theorem Taken.empty {net : Network} {wanted : PoolEntry Addr → Bool} {entry : PoolEntry Addr}
    {idle idle' retirements : List (PoolEntry Addr)}
    (h : Taken net signals wanted idle idle' (some entry) retirements) :
    (net.wires entry.stream).received ++ (net.wires entry.stream).buffer = [] := by
  obtain ⟨-, hbuffer, hreceived⟩ := Network.empty_of_retains (h.clean entry rfl).2
  rw [hbuffer, hreceived]
  rfl

theorem Network.pollPeek_of_retains {net : Network} {entry : PoolEntry Addr}
    (h : net.retains signals entry = true) :
    (net.wires entry.stream).pollPeek (signals entry.stream) = .pending := by
  obtain ⟨hhalves, hbuffer, -⟩ := Network.empty_of_retains h
  have hobserved : net.inspectIdleTcp signals entry.sink entry.stream = .noAdverseSignal :=
    of_decide_eq_true h
  rw [Network.inspectIdleTcp, if_pos hhalves, Wire.observeIdle, hbuffer, if_pos List.isEmpty_nil]
    at hobserved
  cases hpeek : (net.wires entry.stream).pollPeek (signals entry.stream) with
  | pending => rfl
  | ready count =>
    rw [hpeek] at hobserved
    cases count <;> cases hobserved
  | failed =>
    rw [hpeek] at hobserved
    cases hobserved

/-! ## Steps of a task -/

variable [DecidableEq Addr] {config : PoolConfig Addr} {strict : Bool}

section

variable {s : Shared Addr} {t : Task Addr} {r : Result Addr}

/-- A step leaves a transport alone that is neither idle nor in the hands of the task. -/
theorem Acted.wires_eq (h : Acted config strict signals s t r) {id : TransportId}
    (hnext : id ≠ s.net.next) (hidle : ∀ e ∈ s.inner.idle, e.stream ≠ id)
    (hheld : t.holding.places id = 0) : r.shared.net.wires id = s.net.wires id := by
  have hloan : ∀ e, t.holding.loan = some e → id ≠ e.stream := by
    rintro e he rfl
    have := Holding.places_of_connection (Holding.connection_of_loan he).1
    omega
  cases h <;> grind

/-- What is idle after a step may be lent. -/
theorem Acted.kept (h : Acted config strict signals s t r)
    (hnext : ∀ e ∈ s.inner.idle, e.stream < s.net.next)
    (hone : ∀ e ∈ s.inner.idle, s.inner.idle.countP (·.on e.stream) = 1)
    (hheld : ∀ e ∈ s.inner.idle, t.holding.places e.stream = 0)
    (hkept : ∀ e ∈ s.inner.idle, (s.net.wires e.stream).Kept)
    (hclean : t.holding.Clean s.net.wires t.role) :
    ∀ e ∈ r.shared.inner.idle, (r.shared.net.wires e.stream).Kept := by
  intro e he
  have hloan : ∀ entry, t.holding.loan = some entry → e ∈ s.inner.idle →
      e.stream ≠ entry.stream := by
    intro entry hentry he heq
    have := Holding.places_of_connection (Holding.connection_of_loan hentry).1
    rw [← heq, hheld e he] at this
    exact absurd this (by decide)
  cases h with
  | @reused _ _ idle' _ entry _ _ _ _ _ _ htaken =>
    have he : e ∈ idle' := by simpa using he
    have hne : e.stream ≠ entry.stream := by
      intro heq
      have hcount := htaken.countP_eq (·.on entry.stream)
      have hentry : 0 < [entry].countP (·.on entry.stream) := countP_on_pos List.mem_cons_self
      have hother := heq ▸ countP_on_pos he
      rw [hone entry htaken.mem_found, Option.toList_some] at hcount
      omega
    grind
  | evicted _ _ _ _ _ _ hidx =>
    have hrest := fun e => @mem_of_mem_swapRemove _ _ _ _ e hidx
    grind
  | settled hholding hmaintainer =>
    obtain ⟨hunspoiled, hstanding⟩ := hclean.connected _ _ hholding
    rw [hmaintainer] at hstanding
    have hnew := Wire.Kept.mk hunspoiled (Or.inl hstanding)
    grind
  | rolledBack | discarded =>
    have hback := hclean.evicted
    grind
  | @returned entry now hholding =>
    have hentry : t.holding.loan = some entry := by rw [hholding]; rfl
    have hunspoiled := hclean.pristine entry hentry (by rw [hholding]; rfl)
    grind [Wire.Kept]
  | _ => grind

/-- What the task has after a step may come back as far as the task shows. -/
theorem Acted.clean (h : Acted config strict signals s t r)
    (hnext : ∀ id, 0 < t.holding.places id → id < s.net.next)
    (hkept : ∀ e ∈ s.inner.idle, (s.net.wires e.stream).Kept)
    (hclean : t.holding.Clean s.net.wires t.role) :
    r.task.holding.Clean r.shared.net.wires r.task.role := by
  cases h with
  | moved | unavailable | refused | unclaimed | swept | closed => exact hclean
  | @reused _ now _ _ entry _ _ _ _ _ _ htaken hloan =>
    have hkept := hkept entry htaken.mem_found
    refine @Holding.clean_of_loan _ _ _ _ { entry with lastUsed := now } ?_ fun _ => ?_
    · grind
    · grind [Wire.Kept]
  | reserved | maintains => exact Holding.clean_pending (by grind)
  | evicted _ _ _ _ htaken _ hidx =>
    have hmem := htaken.mem (List.mem_of_getElem? hidx)
    exact Holding.clean_pending (by grind)
  | @connected c evicted now hholding =>
    constructor
    · intro e he
      have he : t.holding.evicted = some e := by rw [hholding]; exact he
      have hlt := hnext _ (Holding.places_of_evicted he)
      rw [Network.connect_wires_of_ne _ _ (Nat.ne_of_lt hlt)]
      exact hclean.evicted e he
    · grind
    · grind
  | committed hholding =>
    exact Holding.clean_of_loan rfl fun _ => (hclean.connected _ _ hholding).1
  | settled | rolledBack | discarded | retired | returned => exact Holding.clean_nothing _ _
  | touched => exact Holding.clean_of_loan rfl (by grind)
  | handed hloan hloan' hpristine =>
    exact Holding.clean_of_loan hloan' fun h => hclean.pristine _ hloan (hpristine h)

end

section

variable {s s' : PoolState Addr}

structure Standings (s : PoolState Addr) : Prop where
  idle : ∀ e ∈ s.shared.inner.idle, (s.shared.net.wires e.stream).Kept
  held : ∀ t ∈ s.tasks, t.holding.Clean s.shared.net.wires t.role

theorem Standings.acted {i : Nat} {t : Task Addr} {r : Result Addr} (h : Standings s)
    (hplaced : Placed s) (hacted : ActedAt config strict signals s s' i t r) : Standings s' := by
  have ht := List.mem_of_getElem? hacted.task
  have hclean := h.held t ht
  constructor
  · rw [hacted.shared]
    exact hacted.acted.kept (fun e he => (hplaced.idle he).1) (fun e he => (hplaced.idle he).2.1)
      (fun e he => (hplaced.idle he).2.2 t ht) h.idle hclean
  · intro u hu
    rw [hacted.shared]
    rcases hacted.mem_cases hu with ⟨hrole, hholding⟩ | ⟨j, v, hij, hv, hrole, hholding⟩
    · rw [hrole, hholding]
      exact hacted.acted.clean (fun id hpos => (hplaced.held hacted.task hpos).1) h.idle hclean
    · -- the transports of the other tasks are left alone
      rw [hrole, hholding]
      have hwires : ∀ id, 0 < v.holding.places id →
          r.shared.net.wires id = s.shared.net.wires id := by
        intro id hpos
        obtain ⟨hlt, hidle, hothers⟩ := hplaced.held hv hpos
        exact hacted.acted.wires_eq (Nat.ne_of_lt hlt) hidle
          (hothers i t (Ne.symm hij) hacted.task)
      refine (h.held v (List.mem_of_getElem? hv)).congr ?_ ?_
      · exact fun id hpos => congrArg Wire.spoiled (hwires id hpos)
      · exact fun id hpos => congrArg Wire.standing (hwires id hpos)

theorem standings_of_reachable (hs : (poolMachine config strict).Reachable s) : Standings s := by
  have hfresh : ∀ {wires : TransportId → Wire} (t : Task Addr), Fresh t →
      t.holding.Clean wires t.role := by
    intro wires t ht
    rw [ht.holding]
    exact Holding.clean_nothing _ _
  refine pool_invariant ⟨List.forall_mem_nil _, fun t ht => hfresh t (fresh_new t ht)⟩ ?_ hs
  intro s s' signals hs hstandings hstep
  rcases hstep.quiet_or_acted with hquiet | ⟨i, t, r, hacted⟩
  · constructor
    · rw [hquiet.inner]
      exact fun e he => (hstandings.idle e he).congr (hquiet.spoiled _) (hquiet.standing _)
    · refine hquiet.forall_tasks (fun _ _ _ => rfl) hstandings.held ?_ fun t ht _ => hfresh t ht
      exact fun t h => h.congr (fun id _ => hquiet.spoiled id) fun id _ => hquiet.standing id
  · exact hstandings.acted (placed_of_reachable hs) hacted

end

/-! ## What a borrower decodes -/

section

variable {P : Wire → Prop} {s : Shared Addr} {t : Task Addr} {r : Result Addr}

theorem Acted.forall_wires (h : Acted config strict signals s t r) (hP : WireInvariant P)
    (hs : ∀ id, P (s.net.wires id)) : ∀ id, P (r.shared.net.wires id) := by
  cases h with
  | @reused _ _ _ _ entry _ _ _ _ _ _ htaken =>
    exact forall_update hs (hP.lent _ htaken.empty (hs entry.stream))
  | connected => exact forall_update hs (hP.made _)
  | @touched entry => exact forall_update hs (hP.spoiled _ (hs entry.stream))
  | @retired entry _ _ hnet =>
    rcases hnet with rfl | rfl
    · exact hs
    · exact forall_update hs (hP.spoiled _ (hs entry.stream))
  | @returned entry =>
    dsimp only
    split
    · exact hs
    · exact forall_update hs (hP.returned _ _ (hs entry.stream))
  | settled | rolledBack | discarded =>
    dsimp only
    split <;> exact hs
  | moved | unavailable | reserved | evicted | refused | unclaimed | maintains | committed | handed
  | swept | closed => exact hs

end

section

variable {s s' : PoolState Addr}

theorem forall_wires_of_reachable {P : Wire → Prop} (hP : WireInvariant P)
    (hs : (poolMachine config strict).Reachable s) : ∀ id, P (s.shared.net.wires id) := by
  refine pool_invariant (P := fun s => ∀ id, P (s.shared.net.wires id))
    (fun _ => hP.made .lent) ?_ hs
  intro s s' signals _ hwires hstep
  cases hstep with
  | joined | notified => exact hwires
  | acted _ _ hacted => exact hacted.forall_wires hP hwires
  | wired hcarries => exact forall_update hwires (hP.carried hcarries (hwires _))

/-- Nothing is decoded during a loan that has arrived before it. -/
theorem decoded_of_reachable (hs : (poolMachine config strict).Reachable s) :
    ∀ d ∈ s.decoded, d.byte.loan = d.loan := by
  refine pool_invariant (P := fun s => ∀ d ∈ s.decoded, d.byte.loan = d.loan)
    (List.forall_mem_nil _) ?_ hs
  intro s s' signals hs hbefore hstep
  cases hstep with
  | joined | notified | acted => exact hbefore
  | wired _ hdecoded =>
    intro d hd
    rcases List.mem_append.mp hd with hd | hd
    · exact hbefore d hd
    · obtain ⟨hloan, hbyte⟩ := hdecoded d hd
      rw [hloan]
      exact forall_wires_of_reachable wireInvariant_current hs _ _
        (List.mem_append_right _ hbyte)

end

/-! ## Reuse -/

section

variable {s : Shared Addr} {t : Task Addr} {r : Result Addr}

/-- An idle transport is lent only if the decoder is empty and a peek at the socket says nothing. -/
theorem Acted.reuses (h : Acted config strict signals s t r) {e : PoolEntry Addr}
    (hheld : t.holding.places e.stream = 0) (hloan : r.task.holding.loan = some e) :
    (s.net.wires e.stream).buffer = [] ∧
      (s.net.wires e.stream).pollPeek (signals e.stream) = .pending ∧
      (r.shared.net.wires e.stream).loan = (s.net.wires e.stream).loan + 1 := by
  have hmine : t.holding.connection ≠ some e := by
    intro hconnection
    have := Holding.places_of_connection hconnection
    omega
  cases h with
  | reused _ _ _ htaken =>
    have hretains := (htaken.clean _ rfl).2
    have hempty := (Network.empty_of_retains hretains).2.1
    have hpeek := Network.pollPeek_of_retains hretains
    grind
  | _ => grind

/-- A loan begins only with a transport that was idle. -/
theorem Acted.loan_eq (h : Acted config strict signals s t r) {id : TransportId}
    (hlt : id < s.net.next) :
    (r.shared.net.wires id).loan = (s.net.wires id).loan ∨
      (∃ e ∈ s.inner.idle, e.stream = id) ∧ ∃ e, r.task.holding.loan = some e ∧ e.stream = id := by
  have hupdate : ∀ {w : Wire} {id' : TransportId}, w.loan = (s.net.wires id').loan →
      (Function.update s.net.wires id' w id).loan = (s.net.wires id).loan := by
    intro w id' hw
    by_cases hid : id = id'
    · subst hid
      rw [Function.update_self]
      exact hw
    · rw [Function.update_of_ne hid]
  cases h <;> grind

end

end RustyModbus.Pool
