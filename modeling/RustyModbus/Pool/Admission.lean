import RustyModbus.Pool.Entries

/-!
# When the pool admits a caller

An attempt is refused if nothing that is idle can be lent and the budget of the address has no room.
For a priority device that is so exactly if the active charges have reached the cap. For the other
addresses an idle entry can make way, but only one that was last used before the clock is read: if
all of them carry the very time of the attempt, the caller is refused although there is room.
-/

namespace RustyModbus.Pool

variable {Addr : Type}

/-- What is left if nothing was found. -/
theorem Taken.rest {net : Network} {signals : Signals} {wanted : PoolEntry Addr → Bool}
    {idle idle' retirements : List (PoolEntry Addr)}
    (h : Taken net signals wanted idle idle' none retirements) :
    idle'.Perm (idle.filter (!wanted ·)) ∧
      ∀ e ∈ idle, wanted e = true → net.retains signals e = false := by
  have hretired : retirements.filter (!wanted ·) = [] := by
    refine List.filter_eq_nil_iff.mpr fun e he => ?_
    rw [(h.retired e he).1]
    decide
  have hrest : idle'.filter (!wanted ·) = idle' := by
    refine List.filter_eq_self.mpr fun e he => ?_
    rw [h.exhausted rfl e he]
    rfl
  refine ⟨?_, fun e he hwanted => ?_⟩
  · have hperm := h.perm.filter (!wanted ·)
    rw [List.filter_append, hretired, Option.toList_none, List.nil_append, List.nil_append,
      hrest] at hperm
    exact hperm.symm
  · rcases List.mem_append.mp (h.perm.mem_iff.mp he) with he | he
    · exact (h.retired e he).2
    · rw [Option.toList_none, List.nil_append] at he
      rw [h.exhausted rfl e he] at hwanted
      cases hwanted

variable [DecidableEq Addr] {config : PoolConfig Addr} {inner : PoolInner Addr} {net : Network}
variable {signals : Signals} {now : Instant} {addr : Addr} {isPriority : Bool}

/-- Nothing can be lent: something speaks against every idle entry of the address. -/
def PoolInner.NothingToLend (inner : PoolInner Addr) (net : Network) (signals : Signals)
    (addr : Addr) : Prop :=
  ∀ e ∈ inner.idle, e.addr = addr → net.retains signals e = false

/-- Idle entries that share the common budget, apart from those of one address. -/
def PoolInner.otherIdle (inner : PoolInner Addr) (addr : Addr) : List (PoolEntry Addr) :=
  inner.idle.filter fun e => !e.isPriority && e.addr ≠ addr

/-- There is no room in the budget without the idle entries of the address, and none can be made. -/
def PoolInner.NoRoom (config : PoolConfig Addr) (inner : PoolInner Addr) (now : Instant)
    (addr : Addr) (isPriority : Bool) : Prop :=
  if isPriority then config.priorityCap addr ≤ Counts.get inner.activePriority addr
  else config.maxConnections ≤ inner.activeNonPriority + (inner.otherIdle addr).length ∧
    ∀ e ∈ inner.otherIdle addr, now ≤ e.lastUsed

section

variable {idle' retirements : List (PoolEntry Addr)}

theorem mem_otherIdle_iff (h : Taken net signals (·.addr = addr) inner.idle idle' none retirements)
    {e : PoolEntry Addr} : e ∈ inner.otherIdle addr ↔ e ∈ idle' ∧ e.isPriority = false := by
  rw [h.rest.1.mem_iff]
  simp only [PoolInner.otherIdle, List.mem_filter, Bool.and_eq_true, Bool.not_eq_true',
    decide_eq_false_iff_not, ne_eq, decide_not]
  tauto

theorem length_otherIdle (h : Taken net signals (·.addr = addr) inner.idle idle' none retirements) :
    (inner.otherIdle addr).length = idle'.countP (!·.isPriority) := by
  rw [h.rest.1.countP_eq, List.countP_eq_length_filter, List.filter_filter, PoolInner.otherIdle]
  refine congrArg List.length (List.filter_congr fun e _ => ?_)
  simp

/-- What the search leaves has no room, in terms of what it found. -/
theorem noRoom_iff (h : Taken net signals (·.addr = addr) inner.idle idle' none retirements) :
    inner.NoRoom config now addr isPriority ↔
      (inner.retiring idle' retirements).Full config addr isPriority ∧
        (isPriority = false → ∀ e ∈ idle', e.isPriority = false → now ≤ e.lastUsed) := by
  cases isPriority with
  | true =>
    have hnone : (inner.retiring idle' retirements).priorityIdleCount addr = 0 := by
      refine List.countP_eq_zero.mpr fun e he => ?_
      have := h.exhausted rfl e he
      simp_all
    show config.priorityCap addr ≤ _ ↔ config.priorityCap addr ≤ _ + _ ∧ _
    rw [hnone]
    exact ⟨fun h => ⟨h, fun h => absurd h (by decide)⟩, fun h => h.1⟩
  | false =>
    show config.maxConnections ≤ _ ∧ _ ↔ config.maxConnections ≤ _ + _ ∧ _
    rw [length_otherIdle h]
    refine and_congr_right fun _ => ?_
    refine ⟨fun hyoung _ e he hnon => hyoung e ((mem_otherIdle_iff h).mpr ⟨he, hnon⟩),
      fun hyoung e he => ?_⟩
    obtain ⟨he, hnon⟩ := (mem_otherIdle_iff h).mp he
    exact hyoung rfl e he hnon

end

theorem PoolInner.refused_iff :
    (inner.tryAcquireLocked config net signals now addr isPriority).acquisition = none ↔
      inner.NothingToLend net signals addr ∧ inner.NoRoom config now addr isPriority := by
  have hattempted := inner.attempted config net signals now addr isPriority
  revert hattempted
  generalize inner.tryAcquireLocked config net signals now addr isPriority = a
  intro hattempted
  cases hattempted with
  | @reused idle' retirements entry htaken =>
    have hmem : entry ∈ inner.idle := htaken.mem_found
    obtain ⟨haddr, hretains⟩ := htaken.clean entry rfl
    refine ⟨fun h => absurd h (by simp), fun h => ?_⟩
    rw [h.1 entry hmem (of_decide_eq_true haddr)] at hretains
    cases hretains
  | reserved htaken hroom =>
    refine ⟨fun h => absurd h (by simp), fun h => ?_⟩
    exact absurd ((noRoom_iff htaken).mp h.2).1 hroom
  | @evicted idle' retirements entry idx htaken hbudget hfull hidx holdest hold =>
    refine ⟨fun h => absurd h (by simp), fun h => ?_⟩
    have hyoung := ((noRoom_iff htaken).mp h.2).2 hbudget entry holdest.1 holdest.2.1
    exact absurd hold (Nat.not_lt_of_le hyoung)
  | refused htaken hfull hyoung =>
    refine ⟨fun _ => ⟨?_, (noRoom_iff htaken).mpr ⟨hfull, hyoung⟩⟩, fun _ => rfl⟩
    exact fun e he haddr => htaken.rest.2 e he (decide_eq_true haddr)

/-! ## The law -/

/-- The cap of the budget that an address is charged to. -/
def PoolConfig.budgetCap (config : PoolConfig Addr) (addr : Addr) : Nat :=
  if config.isPriorityAddr addr then config.priorityCap addr else config.maxConnections

namespace PoolState

/-- The active charges in the budget of an address. -/
def activeCharges (config : PoolConfig Addr) (s : PoolState Addr) (addr : Addr) : Nat :=
  if config.isPriorityAddr addr then
    s.tasks.countP fun t => Charge.priorityAt addr (t.charge config)
  else s.tasks.countP fun t => Charge.nonPriority (t.charge config)

/-- An attempt to acquire a connection. -/
def attempt (config : PoolConfig Addr) (s : PoolState Addr) (signals : Signals) (now : Instant)
    (addr : Addr) : Attempt Addr :=
  s.shared.inner.tryAcquireLocked config s.shared.net signals now addr (config.isPriorityAddr addr)

end PoolState

/-- There is room for the caller, but every idle entry that could make way for it was last used at
the very time of the attempt. -/
structure Stranded (config : PoolConfig Addr) (s : PoolState Addr) (signals : Signals)
    (now : Instant) (addr : Addr) : Prop where
  shared : config.isPriorityAddr addr = false
  nothingToLend : s.shared.inner.NothingToLend s.shared.net signals addr
  room : s.activeCharges config addr < config.maxConnections
  full : config.maxConnections
    ≤ s.activeCharges config addr + (s.shared.inner.otherIdle addr).length
  young : ∀ e ∈ s.shared.inner.otherIdle addr, e.lastUsed = now

section

variable {s : PoolState Addr}

theorem Booked.activeCharges_of_priority (h : Booked config s)
    (haddr : config.isPriorityAddr addr = true) :
    s.activeCharges config addr = Counts.get s.shared.inner.activePriority addr := by
  rw [PoolState.activeCharges, if_pos haddr, h.priority]

theorem Booked.activeCharges_of_nonPriority (h : Booked config s)
    (haddr : config.isPriorityAddr addr = false) :
    s.activeCharges config addr = s.shared.inner.activeNonPriority := by
  rw [PoolState.activeCharges, if_neg (ne_true_of_eq_false haddr), h.nonPriority]

/-- If the active charges have reached the cap, nothing in the budget is idle. -/
theorem Booked.idle_of_full (h : Booked config s)
    (hfull : config.budgetCap addr ≤ s.activeCharges config addr) :
    (∀ e ∈ s.shared.inner.idle, e.addr ≠ addr) ∧
      (config.isPriorityAddr addr = false → s.shared.inner.otherIdle addr = []) := by
  cases haddr : config.isPriorityAddr addr with
  | true =>
    have hcap := h.priorityCap addr haddr
    rw [PoolConfig.budgetCap, if_pos haddr, h.activeCharges_of_priority haddr] at hfull
    rw [PoolInner.priorityTotal] at hcap
    have hnone : s.shared.inner.priorityIdleCount addr = 0 := by omega
    refine ⟨fun e he hsame => ?_, fun h => absurd h (by decide)⟩
    have hpriority : e.isPriority = true := (h.idle e he).trans (hsame ▸ haddr)
    exact absurd (List.countP_eq_zero.mp hnone e he) (by simp [hpriority, hsame])
  | false =>
    have hcap := h.nonPriorityCap
    rw [PoolConfig.budgetCap, if_neg (ne_true_of_eq_false haddr),
      h.activeCharges_of_nonPriority haddr] at hfull
    rw [PoolInner.nonPriorityTotal] at hcap
    have hnone : s.shared.inner.nonPriorityIdleCount = 0 := by omega
    have hpriority : ∀ e ∈ s.shared.inner.idle, e.isPriority = true := by
      intro e he
      have := List.countP_eq_zero.mp hnone e he
      simpa using this
    refine ⟨fun e he hsame => ?_, fun _ => ?_⟩
    · have hnon : e.isPriority = false := (h.idle e he).trans (hsame ▸ haddr)
      rw [hpriority e he] at hnon
      cases hnon
    · refine List.filter_eq_nil_iff.mpr fun e he => ?_
      simp [hpriority e he]

/-- If the active charges have reached the cap, the attempt is refused. -/
theorem Booked.refused_of_full (h : Booked config s)
    (hfull : config.budgetCap addr ≤ s.activeCharges config addr) :
    (s.attempt config signals now addr).acquisition = none := by
  obtain ⟨hnone, hother⟩ := h.idle_of_full hfull
  refine PoolInner.refused_iff.mpr ⟨fun e he hsame => absurd hsame (hnone e he), ?_⟩
  rw [PoolInner.NoRoom]
  cases haddr : config.isPriorityAddr addr with
  | true =>
    rw [PoolConfig.budgetCap, if_pos haddr, h.activeCharges_of_priority haddr] at hfull
    exact hfull
  | false =>
    rw [PoolConfig.budgetCap, if_neg (ne_true_of_eq_false haddr),
      h.activeCharges_of_nonPriority haddr] at hfull
    rw [hother haddr]
    exact ⟨hfull, List.forall_mem_nil _⟩

/-- An attempt is refused although there is room exactly if the caller is stranded. -/
theorem Booked.stranded_iff (h : Booked config s)
    (hdated : ∀ e ∈ s.shared.inner.idle, e.lastUsed ≤ now) :
    Stranded config s signals now addr ↔
      (s.attempt config signals now addr).acquisition = none ∧
        s.activeCharges config addr < config.budgetCap addr := by
  have hrefused := @PoolInner.refused_iff _ _ config s.shared.inner s.shared.net signals now addr
    (config.isPriorityAddr addr)
  cases haddr : config.isPriorityAddr addr with
  | true =>
    constructor
    · intro hstranded
      cases haddr.symm.trans hstranded.shared
    · rintro ⟨hnone, hroom⟩
      have hfull := (hrefused.mp hnone).2
      rw [PoolInner.NoRoom, if_pos haddr, ← h.activeCharges_of_priority haddr] at hfull
      rw [PoolConfig.budgetCap, if_pos haddr] at hroom
      exact absurd hroom (Nat.not_lt_of_le hfull)
  | false =>
    have hcap : config.budgetCap addr = config.maxConnections :=
      if_neg (ne_true_of_eq_false haddr)
    have hactive := h.activeCharges_of_nonPriority haddr
    rw [PoolInner.NoRoom, if_neg (ne_true_of_eq_false haddr), ← hactive] at hrefused
    rw [hcap]
    constructor
    · intro hstranded
      exact ⟨hrefused.mpr ⟨hstranded.nothingToLend, hstranded.full,
        fun e he => Nat.le_of_eq (hstranded.young e he).symm⟩, hstranded.room⟩
    · rintro ⟨hnone, hroom⟩
      obtain ⟨hlend, hfull, hyoung⟩ := hrefused.mp hnone
      exact ⟨haddr, hlend, hroom, hfull, fun e he =>
        Nat.le_antisymm (hdated e (List.mem_filter.mp he).1) (hyoung e he)⟩

/-- What is evicted is the oldest of the entries that share the common budget. -/
theorem oldest_of_evicted {e : PoolEntry Addr}
    (h : (s.attempt config signals now addr).acquisition = some (.reserved (some e))) :
    Oldest (s.shared.inner.idle.filter (·.addr ≠ addr)) e := by
  have hattempted := s.shared.inner.attempted config s.shared.net signals now addr
    (config.isPriorityAddr addr)
  rw [PoolState.attempt] at h
  revert hattempted h
  generalize s.shared.inner.tryAcquireLocked config s.shared.net signals now addr
    (config.isPriorityAddr addr) = a
  intro h hattempted
  cases hattempted with
  | reused | reserved | refused => cases h
  | evicted htaken _ _ _ holdest =>
    cases h
    have hmem : ∀ e', e' ∈ s.shared.inner.idle.filter (·.addr ≠ addr) ↔ e' ∈ _ := fun e' => by
      rw [htaken.rest.1.mem_iff]
      simp
    exact ⟨(hmem e).mpr holdest.1, holdest.2.1, fun e' he' => holdest.2.2 e' ((hmem e').mp he')⟩

/-- An attempt is refused exactly if the active charges in its budget have reached the cap, unless
the caller is stranded; and what is evicted is always the oldest. -/
theorem admission_law (config : PoolConfig Addr) (strict : Bool)
    (hs : (poolMachine config strict).Reachable s) (addr : Addr) (signals : Signals)
    (hnow : s.shared.clock ≤ now) :
    (((s.attempt config signals now addr).acquisition = none ↔
        config.budgetCap addr ≤ s.activeCharges config addr) ↔
      ¬Stranded config s signals now addr) ∧
    ∀ e, (s.attempt config signals now addr).acquisition = some (.reserved (some e)) →
      Oldest (s.shared.inner.idle.filter (·.addr ≠ addr)) e := by
  have hbooked := booked_of_reachable hs
  have hdated : ∀ e ∈ s.shared.inner.idle, e.lastUsed ≤ now := fun e he =>
    Nat.le_trans (lastUsed_le_of_reachable hs e he) hnow
  refine ⟨?_, fun e => oldest_of_evicted⟩
  rw [hbooked.stranded_iff hdated, not_and, Nat.not_lt]
  exact ⟨fun h => h.mp, fun h => ⟨h, hbooked.refused_of_full⟩⟩

end

/-- One tick later, the idle entry makes way. -/
theorem admission_law_givenBack :
    ∃ s, (poolMachine onlyOne false).run (.new onlyOne) givenBack = some s ∧
      (((s.attempt onlyOne (fun _ => .pending) 3 2).acquisition = none ↔
          onlyOne.budgetCap 2 ≤ s.activeCharges onlyOne 2) ↔
        ¬Stranded onlyOne s (fun _ => .pending) 3 2) ∧
      Oldest (s.shared.inner.idle.filter (·.addr ≠ 2))
        { addr := 1, sink := 0, stream := 0, lastUsed := 2, isPriority := false } := by
  have hlaw := fun s hs => @admission_law _ _ 3 s onlyOne false hs 2 (fun _ => .pending)
  refine ⟨_, rfl, (hlaw _ ?_ (by decide)).1, (hlaw _ ?_ (by decide)).2 _ rfl⟩
  all_goals exact @Machine.Reachable.run _ _ (poolMachine onlyOne false) givenBack _ _ .init rfl

/-- With no charge active, a caller is refused: the one idle entry was last used at the very time of
the attempt. -/
theorem refused_without_charges :
    ∃ s, (poolMachine onlyOne false).Reachable s ∧ s.shared.inner.shuttingDown = false ∧
      s.shared.clock ≤ 2 ∧
      (s.attempt onlyOne (fun _ => .pending) 2 2).acquisition = none ∧
      s.activeCharges onlyOne 2 = 0 ∧ onlyOne.budgetCap 2 = 1 := by
  exact ⟨_, @Machine.Reachable.run _ _ (poolMachine onlyOne false) givenBack _ _ .init rfl, rfl,
    by decide, rfl, rfl, rfl⟩

end RustyModbus.Pool
