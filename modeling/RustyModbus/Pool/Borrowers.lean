import RustyModbus.Pool.Isolation

/-!
# What is over is over

A transport that is retired or that a borrower has spoiled stays so, and is never idle again. A pool
that is shut down stays shut down: nothing is idle any more, and nobody gets a share of the pool who
has none, while those who have a reservation may still get their connection.

`borrower_isolation` puts this together with what is known of idle transports and of reuse.
-/

namespace RustyModbus.Pool

variable {Addr : Type}

/-! ## Spent transports -/

namespace Network

/-- The transport is retired, or a borrower has spoiled it. -/
def Spent (net : Network) (id : TransportId) : Prop :=
  id < net.next ∧ ((net.wires id).spoiled = true ∨ id ∈ net.retired)

variable {net : Network} {id : TransportId}

theorem Spent.update (h : net.Spent id) (id' : TransportId) {f : Wire → Wire}
    (hf : ∀ w, w.spoiled = true → (f w).spoiled = true) : (net.update id' f).Spent id := by
  obtain ⟨hlt, hspoiled | hretired⟩ := h
  · refine ⟨hlt, Or.inl ?_⟩
    show (Function.update net.wires id' (f (net.wires id')) id).spoiled = true
    by_cases hid : id = id'
    · subst hid
      rw [Function.update_self]
      exact hf _ hspoiled
    · rw [Function.update_of_ne hid]
      exact hspoiled
  · exact ⟨hlt, Or.inr hretired⟩

@[grind ←]
theorem Spent.lend (h : net.Spent id) (id' : TransportId) : (net.lend id').Spent id :=
  h.update id' fun _ hw => hw

@[grind ←]
theorem Spent.giveBack (h : net.Spent id) (id' : TransportId)
    (verdict : Client.SessionReuseVerdict) : (net.giveBack id' verdict).Spent id :=
  h.update id' fun _ hw => hw

@[grind ←]
theorem Spent.spoil (h : net.Spent id) (id' : TransportId) : (net.spoil id').Spent id :=
  h.update id' fun _ _ => rfl

@[grind ←]
theorem Spent.retire (h : net.Spent id) (entries : List (PoolEntry Addr)) :
    (net.retire entries).Spent id := by
  obtain ⟨hlt, hspoiled | hretired⟩ := h
  · exact ⟨hlt, Or.inl hspoiled⟩
  · exact ⟨hlt, Or.inr (List.mem_append_left _ hretired)⟩

@[grind ←]
theorem Spent.connect (h : net.Spent id) (standing : Standing) :
    (net.connect standing).Spent id := by
  obtain ⟨hlt, hspoiled | hretired⟩ := h
  · refine ⟨Nat.lt_succ_of_lt hlt, Or.inl ?_⟩
    rw [connect_wires_of_ne _ _ (Nat.ne_of_lt hlt)]
    exact hspoiled
  · exact ⟨Nat.lt_succ_of_lt hlt, Or.inr hretired⟩

theorem spent_spoil (h : id < net.next) : (net.spoil id).Spent id := by
  refine ⟨h, Or.inl ?_⟩
  rw [spoil_wires_self]

end Network

variable [DecidableEq Addr] {config : PoolConfig Addr} {strict : Bool} {signals : Signals}

section

variable {s : Shared Addr} {t : Task Addr} {r : Result Addr}

theorem Acted.spent (h : Acted config strict signals s t r) {id : TransportId}
    (hspent : s.net.Spent id) : r.shared.net.Spent id := by
  cases h <;> grind

/-- Retired is retired. -/
theorem Acted.retired_mem (h : Acted config strict signals s t r) {id : TransportId}
    (hid : id ∈ s.net.retired) : id ∈ r.shared.net.retired := by
  cases h <;> grind [Network.retire]

/-! ## Shutdown -/

/-- A pool that is shut down stays so; nobody is let in, and nothing becomes idle. -/
theorem Acted.down (h : Acted config strict signals s t r) (hdown : s.inner.shuttingDown = true) :
    r.shared.inner.shuttingDown = true ∧ (s.inner.idle = [] → r.shared.inner.idle = []) ∧
      (r.task.holding.live = true → t.holding.live = true) := by
  cases h with
  | handed hloan =>
    refine ⟨hdown, fun h => h, fun _ => ?_⟩
    cases hholding : t.holding <;> simp_all [Holding.live, Holding.loan]
  | _ => simp_all [Holding.live, PoolInner.shutdown, PoolInner.rollback_idle,
    PoolInner.returnToPool_idle, PoolInner.commitPriorityIdleIfNeeded_idle,
    PoolInner.commitPriorityIdleIfNeeded_rejects]

/-- Only `shutdown` shuts a pool down, and it leaves nothing idle. -/
theorem Acted.closes (h : Acted config strict signals s t r)
    (hup : s.inner.shuttingDown = false) (hdown : r.shared.inner.shuttingDown = true) :
    r.shared.inner.idle = [] := by
  cases h with
  | closed => rfl
  | _ => simp_all [PoolInner.retiring, PoolInner.runHealthCheck,
    PoolInner.recordConnectionsRetired]

end

/-! ## Steps that can be taken -/

section

variable {s : Shared Addr} {t : Task Addr} {addr : Addr} {evicted : Option (PoolEntry Addr)}

omit [DecidableEq Addr] in
theorem Shared.reads_succ (strict : Bool) (s : Shared Addr) :
    s.reads strict (s.clock + 1) = true := by
  rw [reads]
  split
  · exact decide_eq_true (Nat.lt_succ_self _)
  · exact decide_eq_true (Nat.le_succ _)

theorem act_connectOk (config : PoolConfig Addr) (strict : Bool) (s : Shared Addr)
    (howes : t.owes = false) (hrole : t.role = .demand addr) (hphase : t.phase = .connecting)
    (hholding : t.holding = .pending evicted) :
    ∃ r, t.act config strict s (.connectOk (s.clock + 1)) = some r ∧ r.task.role = .demand addr ∧
      r.task.phase = .committing ∧ (∃ entry, r.task.holding = .connected entry evicted) ∧
      r.task.owes = false := by
  have hact : t.act config strict s (.connectOk (s.clock + 1))
      = t.connectOk config strict s (s.clock + 1) := by
    show (if t.owes then none else _) = _
    rw [howes, if_neg Bool.false_ne_true]
  rw [hact, Task.connectOk, hphase, hrole, hholding]
  dsimp only [Role.budget]
  rw [if_pos (s.reads_succ strict)]
  exact ⟨_, rfl, rfl, rfl, ⟨_, rfl⟩, howes⟩

theorem act_commit (config : PoolConfig Addr) (strict : Bool) (s : Shared Addr)
    {entry : PoolEntry Addr} (howes : t.owes = false) (hrole : t.role = .demand addr)
    (hphase : t.phase = .committing) (hholding : t.holding = .connected entry evicted) :
    ∃ r, t.act config strict s .proceed = some r ∧ r.task.holding = .lease entry false := by
  have hact : t.act config strict s .proceed = t.proceed config s := by
    show (if t.owes then none else _) = _
    rw [howes, if_neg Bool.false_ne_true]
  rw [hact, Task.proceed, hphase, hholding]
  dsimp only [Task.commit]
  rw [hrole]
  exact ⟨_, rfl, rfl⟩

theorem step_task {s : PoolState Addr} {i : Nat} {t : Task Addr} {a : Action} {r : Result Addr}
    (ht : s.tasks[i]? = some t) (hact : t.act config strict s.shared a = some r) :
    ∃ s' u, (poolMachine config strict).step s (.task i a) = some s' ∧ s'.tasks[i]? = some u ∧
      s'.shared = r.shared ∧ u.role = r.task.role ∧ u.phase = r.task.phase ∧
      u.holding = r.task.holding ∧ u.owes = r.task.owes := by
  have hset : (s.tasks.set i r.task)[i]? = some r.task :=
    List.getElem?_set_self (List.getElem?_eq_some_iff.mp ht).1
  have hstep : (poolMachine config strict).step s (.task i a) = some { s with
      shared := r.shared
      tasks := if r.notice then (s.tasks.set i r.task).map Task.notified
        else s.tasks.set i r.task } := by
    show (s.tasks[i]?.bind fun t => (t.act config strict s.shared a).bind _) = _
    rw [ht, Option.bind_some, hact]
    rfl
  cases hnotice : r.notice with
  | true =>
    refine ⟨_, r.task.notified, hstep, ?_, rfl, rfl, rfl, rfl, rfl⟩
    rw [hnotice, if_pos rfl, List.getElem?_map, hset, Option.map_some]
  | false =>
    refine ⟨_, r.task, hstep, ?_, rfl, rfl, rfl, rfl, rfl⟩
    rw [hnotice, if_neg Bool.false_ne_true]
    exact hset

end

/-! ## Whole runs -/

/-- The task has a share of the pool: a reservation, a lease or a client. -/
def PoolState.Shares (s : PoolState Addr) (i : Nat) : Prop :=
  (s.tasks.map (·.holding.live))[i]? = some true

section

variable {s s' u : PoolState Addr} {es : List (PoolEvent Addr)} {id : TransportId}

variable {e : PoolEvent Addr}

section

variable (hs : (poolMachine config strict).Reachable s)

include hs

theorem spent_of_step
    (h : (poolMachine config strict).step s e = some s') (hspent : s.shared.net.Spent id) :
    s'.shared.net.Spent id := by
  rcases (stepped_of_reachable hs h).quiet_or_acted with hquiet | ⟨i, t, r, hacted⟩
  · rw [Network.Spent, hquiet.next, hquiet.spoiled, hquiet.retired]
    exact hspent
  · rw [hacted.shared]
    exact hacted.acted.spent hspent

theorem spent_of_run
    (hspent : s.shared.net.Spent id) (h : (poolMachine config strict).run s es = some u) :
    u.shared.net.Spent id :=
  hs.run_keeps (fun hs hspent he => spent_of_step hs he hspent) hspent h

/-- What is spent is not idle. -/
theorem not_idle_of_spent
    (hspent : s.shared.net.Spent id) : ∀ e ∈ s.shared.inner.idle, e.stream ≠ id := by
  rintro e he rfl
  obtain ⟨-, hspoiled | hretired⟩ := hspent
  · cases ((standings_of_reachable hs).idle e he).unspoiled.symm.trans hspoiled
  · have hone := (placed_of_reachable hs).le_one e.stream
    have hidle := countP_on_pos he
    have hcount := List.count_pos_iff.mpr hretired
    rw [PoolState.places, Shared.places] at hone
    omega

theorem retired_of_run
    (hid : id ∈ s.shared.net.retired) (h : (poolMachine config strict).run s es = some u) :
    id ∈ u.shared.net.retired := by
  refine hs.run_keeps (P := fun u => id ∈ u.shared.net.retired) (fun hs hid he => ?_) hid h
  rcases (stepped_of_reachable hs he).quiet_or_acted with hquiet | ⟨i, t, r, hacted⟩
  · rw [hquiet.retired]
    exact hid
  · rw [hacted.shared]
    exact hacted.acted.retired_mem hid

/-- Whoever asks a lease for one of its halves, gives it up or drops it has spent its transport. -/
theorem spent_of_use {i : Nat} {t : Task Addr} {entry : PoolEntry Addr} {rawAccessed : Bool}
    {a : Action} (ht : s.tasks[i]? = some t) (hholding : t.holding = .lease entry rawAccessed)
    (ha : a = .touch ∨ a = .retire) (h : (poolMachine config strict).step s (.task i a) = some s') :
    s'.shared.net.Spent entry.stream := by
  have hlt : entry.stream < s.shared.net.next := by
    refine ((placed_of_reachable hs).held ht (Holding.places_of_connection ?_)).1
    rw [hholding]
    rfl
  obtain ⟨t', ht', h⟩ := Option.bind_eq_some_iff.mp h
  cases ht.symm.trans ht'
  obtain ⟨r, hact, h⟩ := Option.bind_eq_some_iff.mp h
  cases h
  have huse : t.use strict s.shared a = some r := by
    have heq : t.act config strict s.shared a = if t.owes then none
        else if t.phase = .borrowing then t.use strict s.shared a else none := by
      rcases ha with rfl | rfl <;> rfl
    rw [heq] at hact
    split at hact
    next => cases hact
    next =>
      split at hact
      next => exact hact
      next => cases hact
  unfold Task.use at huse
  rw [hholding] at huse
  rcases ha with rfl | rfl
  · cases huse
    exact Network.spent_spoil hlt
  · cases huse
    exact (Network.spent_spoil hlt).retire [entry]

/-! ### Shutdown -/

theorem sealed_of_reachable
    (hdown : s.shared.inner.shuttingDown = true) : s.shared.inner.idle = [] := by
  refine pool_invariant (P := fun s => s.shared.inner.shuttingDown = true →
    s.shared.inner.idle = []) (fun _ => rfl) ?_ hs hdown
  intro s s' signals _ hsealed hstep hdown
  rcases hstep.quiet_or_acted with hquiet | ⟨i, t, r, hacted⟩
  · rw [hquiet.inner] at hdown ⊢
    exact hsealed hdown
  · rw [hacted.shared] at hdown ⊢
    cases hbefore : s.shared.inner.shuttingDown with
    | true => exact (hacted.acted.down hbefore).2.1 (hsealed hbefore)
    | false => exact hacted.acted.closes hbefore hdown

/-- Nobody is let in who is not in. -/
theorem shares_of_step (h : (poolMachine config strict).step s e = some s')
    (hdown : s.shared.inner.shuttingDown = true) :
    s'.shared.inner.shuttingDown = true ∧ ∀ i, s'.Shares i → s.Shares i := by
  rcases (stepped_of_reachable hs h).quiet_or_acted with hquiet | ⟨j, t, r, hacted⟩
  · refine ⟨by rw [hquiet.inner]; exact hdown, fun i hi => ?_⟩
    obtain ⟨fresh, hfresh, -, htasks⟩ := hquiet.tasks
    rw [PoolState.Shares, htasks _ fun _ _ _ => rfl, List.getElem?_append] at hi
    split at hi
    next => exact hi
    next =>
      -- those who have just come hold nothing
      obtain ⟨t, ht, hlive⟩ := List.mem_map.mp (List.mem_of_getElem? hi)
      rw [(hfresh t ht).holding] at hlive
      cases hlive
  · obtain ⟨hdown', -, hlive⟩ := hacted.acted.down hdown
    refine ⟨by rw [hacted.shared]; exact hdown', fun i hi => ?_⟩
    rw [PoolState.Shares, hacted.tasks _ fun _ _ _ => rfl, List.getElem?_set] at hi
    split at hi
    next hij =>
      subst hij
      split at hi
      next =>
        rw [PoolState.Shares, List.getElem?_map, hacted.task, Option.map_some]
        exact congrArg some (hlive (Option.some.inj hi))
      next => cases hi
    next => exact hi

theorem shares_of_run (hdown : s.shared.inner.shuttingDown = true)
    (h : (poolMachine config strict).run s es = some u) :
    u.shared.inner.shuttingDown = true ∧ ∀ i, u.Shares i → s.Shares i := by
  refine hs.run_keeps (P := fun u => u.shared.inner.shuttingDown = true ∧
    ∀ i, u.Shares i → s.Shares i) (fun hv ⟨hdown, hshares⟩ he => ?_) ⟨hdown, fun _ => id⟩ h
  obtain ⟨hdown', hstep⟩ := shares_of_step hv he hdown
  exact ⟨hdown', fun i hi => hshares i (hstep i hi)⟩

end

/-- A caller who has a reservation may get its connection, shutdown or not. -/
theorem completes_of_reservation (config : PoolConfig Addr) (strict : Bool) {i : Nat}
    {t : Task Addr} {addr : Addr} {evicted : Option (PoolEntry Addr)} (ht : s.tasks[i]? = some t)
    (hphase : t.phase = .connecting) (hrole : t.role = .demand addr)
    (hholding : t.holding = .pending evicted) :
    ∃ (as : List Action) (u : PoolState Addr) (t' : Task Addr) (entry : PoolEntry Addr),
      (poolMachine config strict).run s (as.map (.task i)) = some u ∧ u.tasks[i]? = some t' ∧
        t'.holding = .lease entry false := by
  -- first what is owed is paid
  have hpaid : ∃ (as : List Action) (s' : PoolState Addr) (t' : Task Addr),
      (poolMachine config strict).run s (as.map (.task i)) = some s' ∧
      s'.tasks[i]? = some t' ∧ t'.role = t.role ∧ t'.phase = t.phase ∧ t'.holding = t.holding ∧
      t'.owes = false := by
    cases howes : t.owes with
    | false => exact ⟨[], s, t, rfl, ht, rfl, rfl, rfl, howes⟩
    | true =>
      have hact : t.act config strict s.shared .notify
          = some { shared := s.shared, task := { t with owes := false }, notice := true } := by
        rw [Task.act, if_pos howes]
      obtain ⟨s', t', hstep, ht', -, hrole, hphase, hholding, howes⟩ := step_task ht hact
      exact ⟨[.notify], s', t', Machine.run_step hstep rfl, ht', hrole, hphase, hholding, howes⟩
  obtain ⟨as, s₁, t₁, hrun, ht₁, hrole₁, hphase₁, hholding₁, howes₁⟩ := hpaid
  rw [hrole] at hrole₁
  rw [hphase] at hphase₁
  rw [hholding] at hholding₁
  obtain ⟨r₂, hact₂, hrole₂, hphase₂, ⟨entry, hholding₂⟩, howes₂⟩ :=
    act_connectOk config strict s₁.shared howes₁ hrole₁ hphase₁ hholding₁
  obtain ⟨s₂, t₂, hstep₂, ht₂, -, hrole₂', hphase₂', hholding₂', howes₂'⟩ := step_task ht₁ hact₂
  obtain ⟨r₃, hact₃, hholding₃⟩ := act_commit config strict s₂.shared (howes₂'.trans howes₂)
    (hrole₂'.trans hrole₂) (hphase₂'.trans hphase₂) (hholding₂'.trans hholding₂)
  obtain ⟨s₃, t₃, hstep₃, ht₃, -, -, -, hholding₃', -⟩ := step_task ht₂ hact₃
  refine ⟨as ++ [.connectOk (s₁.shared.clock + 1), .proceed], s₃, t₃, entry, ?_, ht₃,
    hholding₃'.trans hholding₃⟩
  rw [List.map_append, Machine.run_append hrun]
  exact Machine.run_step hstep₂ (Machine.run_step hstep₃ rfl)

/-! ### Reuse -/

/-- The transport was idle before the step and is on loan after it. -/
def Reused (s s' : PoolState Addr) (id : TransportId) : Prop :=
  (∃ e ∈ s.shared.inner.idle, e.stream = id) ∧
    ∃ t ∈ s'.tasks, ∃ e, t.holding.loan = some e ∧ e.stream = id

theorem reused_of_step (hs : (poolMachine config strict).Reachable s)
    (h : (poolMachine config strict).step s e = some s') (hreused : Reused s s' id) :
    (s.shared.net.wires id).buffer = [] ∧
      (s.shared.net.wires id).pollPeek (e.signals id) = .pending ∧
      (s'.shared.net.wires id).loan = (s.shared.net.wires id).loan + 1 := by
  obtain ⟨⟨entry, hidle, rfl⟩, u, hu, lent, hloan, hstream⟩ := hreused
  have hfree := ((placed_of_reachable hs).idle hidle).2.2
  have hnobody : ∀ t ∈ s.tasks, ∀ e, t.holding.loan = some e → e.stream ≠ entry.stream := by
    intro t ht e he heq
    have hpos := Holding.places_of_connection (Holding.connection_of_loan he).1
    rw [heq, hfree t ht] at hpos
    exact absurd hpos (by decide)
  rcases (stepped_of_reachable hs h).quiet_or_acted with hquiet | ⟨i, t, r, hacted⟩
  · have hstill := hquiet.forall_tasks (fun _ _ _ => rfl) hnobody (fun _ h => h) (by
      intro t ht _ e he
      rw [ht.holding] at he
      cases he)
    exact absurd hstream (hstill u hu lent hloan)
  · rcases hacted.mem_cases hu with ⟨-, hholding⟩ | ⟨j, v, -, hv, -, hholding⟩
    · rw [hholding] at hloan
      rw [← hstream, hacted.shared]
      refine hacted.acted.reuses ?_ hloan
      rw [hstream]
      exact hfree t (List.mem_of_getElem? hacted.task)
    · rw [hholding] at hloan
      exact absurd hstream (hnobody v (List.mem_of_getElem? hv) lent hloan)

/-- A loan of a transport begins only with its reuse. -/
theorem loan_of_step (hs : (poolMachine config strict).Reachable s)
    (h : (poolMachine config strict).step s e = some s') (hid : id < s.shared.net.next) :
    (s'.shared.net.wires id).loan = (s.shared.net.wires id).loan ∨ Reused s s' id := by
  rcases (stepped_of_reachable hs h).quiet_or_acted with hquiet | ⟨i, t, r, hacted⟩
  · exact Or.inl (hquiet.loan id)
  · rw [hacted.shared]
    refine (hacted.acted.loan_eq hid).imp_right ?_
    rintro ⟨hidle, lent, hloan, hstream⟩
    obtain ⟨u, hu, hholding⟩ := hacted.mem_after
    exact ⟨hidle, u, hu, lent, hholding ▸ hloan, hstream⟩

/-! ## Isolation -/

/-- What keeps borrowers apart, in one state and in the runs that start from it. -/
structure Isolation (config : PoolConfig Addr) (strict : Bool) (s : PoolState Addr) : Prop where
  /-- A transport is idle, in the hands of one task, set aside for one reservation, or retired. -/
  onePlace : ∀ id < s.shared.net.next, s.places id = 1
  /-- Its two halves go together. -/
  halves : AllEntries (fun e => e.sink = e.stream) s
  /-- An idle transport has been connected by priority maintenance and not been lent, or was given
  back by a session that found it fit for reuse. -/
  idle : ∀ e ∈ s.shared.inner.idle,
    ((s.shared.net.wires e.stream).standing = .preconnected ∧
      (s.shared.net.wires e.stream).loan = 0) ∨
    (s.shared.net.wires e.stream).standing = .returned .reuseEligible
  /-- Once a lease is asked for one of its halves, is given up or is dropped, its transport is never
  idle again. -/
  used : ∀ {i t entry rawAccessed a s' es u}, s.tasks[i]? = some t →
    t.holding = .lease entry rawAccessed → a = .touch ∨ a = .retire →
    (poolMachine config strict).step s (.task i a) = some s' →
    (poolMachine config strict).run s' es = some u →
    ∀ e ∈ u.shared.inner.idle, e.stream ≠ entry.stream
  retired : ∀ {id es u}, id ∈ s.shared.net.retired →
    (poolMachine config strict).run s es = some u →
    id ∈ u.shared.net.retired ∧ ∀ e ∈ u.shared.inner.idle, e.stream ≠ id
  /-- When a transport is reused, its decoder is empty and a peek at its socket says nothing. -/
  reuse : ∀ {e s' id}, (poolMachine config strict).step s e = some s' → Reused s s' id →
    (s.shared.net.wires id).buffer = [] ∧
      (s.shared.net.wires id).pollPeek (e.signals id) = .pending ∧
      (s'.shared.net.wires id).loan = (s.shared.net.wires id).loan + 1
  loan : ∀ {e s' id}, (poolMachine config strict).step s e = some s' → id < s.shared.net.next →
    (s'.shared.net.wires id).loan = (s.shared.net.wires id).loan ∨ Reused s s' id
  /-- What a borrower has decoded has arrived during its own loan. -/
  decoded : ∀ d ∈ s.decoded, d.byte.loan = d.loan
  /-- After shutdown nothing is idle, and only those have a share who had one before. -/
  down : ∀ {es u}, s.shared.inner.shuttingDown = true →
    (poolMachine config strict).run s es = some u →
    u.shared.inner.shuttingDown = true ∧ u.shared.inner.idle = [] ∧ ∀ i, u.Shares i → s.Shares i
  /-- A caller with a reservation may still complete it by its own steps. -/
  completes : ∀ {i t addr evicted}, s.tasks[i]? = some t → t.role = .demand addr →
    t.holding = .pending evicted →
    ∃ (as : List Action) (u : PoolState Addr) (t' : Task Addr) (entry : PoolEntry Addr),
      (poolMachine config strict).run s (as.map (.task i)) = some u ∧ u.tasks[i]? = some t' ∧
        t'.holding = .lease entry false

/-- Borrowers are kept apart in every run of the pool. -/
theorem borrower_isolation (config : PoolConfig Addr) (strict : Bool)
    (hs : (poolMachine config strict).Reachable s) : Isolation config strict s where
  onePlace id hid := by
    rw [placed_of_reachable hs id, decide_eq_true hid]
    rfl
  halves := allEntries_of_reachable (P := fun _ e => e.sink = e.stream) (fun _ h => h)
    (fun h => h) (fun _ _ _ _ => rfl) hs
  idle e he := by
    refine ((standings_of_reachable hs).idle e he).standing.imp_left fun hstanding => ?_
    exact ⟨hstanding, forall_wires_of_reachable wireInvariant_unused hs _ hstanding⟩
  used ht hholding ha hstep hrun := by
    have hs' := hs.step hstep
    have hspent := spent_of_use hs ht hholding ha hstep
    exact not_idle_of_spent (hs'.run hrun) (spent_of_run hs' hspent hrun)
  retired {id es u} hid hrun := by
    have hlt : id < s.shared.net.next := by
      refine (placed_of_reachable hs).lt_next ?_
      have := List.count_pos_iff.mpr hid
      rw [PoolState.places, Shared.places]
      omega
    refine ⟨retired_of_run hs hid hrun, not_idle_of_spent (hs.run hrun) ?_⟩
    exact spent_of_run hs ⟨hlt, Or.inr hid⟩ hrun
  reuse := reused_of_step hs
  loan := loan_of_step hs
  decoded := decoded_of_reachable hs
  down hdown hrun := by
    obtain ⟨hdown', hshares⟩ := shares_of_run hs hdown hrun
    exact ⟨hdown', sealed_of_reachable (hs.run hrun) hdown', hshares⟩
  completes {i t addr evicted} ht hrole hholding := by
    have hphase : t.phase = .connecting := by
      have hfits := fits_of_reachable hs t (List.mem_of_getElem? ht)
      rw [hholding] at hfits
      exact hfits.pending
    exact completes_of_reservation config strict ht hphase hrole hholding

end

/-- The connection that was given back is lent again, and the borrower decodes what it receives. -/
def lentAgain : List (PoolEvent Nat) :=
  givenBack ++ [.get 1 none, .task 2 (.attempt 0 3 fun _ => .pending), .task 2 .intoReusableClient,
    .receive 0 7, .read 2 1, .decode 2 1]

theorem borrower_isolation_lentAgain :
    ∃ s, (poolMachine onlyOne false).run (.new onlyOne) lentAgain = some s ∧
      s.decoded = [⟨0, 1, ⟨7, 1⟩⟩] ∧ Isolation onlyOne false s := by
  refine ⟨_, rfl, rfl, borrower_isolation onlyOne false ?_⟩
  exact @Machine.Reachable.run _ _ (poolMachine onlyOne false) lentAgain _ _ .init rfl

end RustyModbus.Pool
