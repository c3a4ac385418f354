import RustyModbus.Pool.Admission

/-!
# No wake-up is lost

A task that waits has registered for notices before it looked at the pool, and found nothing for it.
As long as no notice comes, nothing has changed that it waits for: whoever changes it gives notice,
after the change can be seen. In between the change and the notice the task that has changed it
`owes` the notice; in every other state the tasks that wait have reason to.

The clock is taken to be strict. If two readings can agree, a caller may be refused although an idle
entry could make way, and wait with nobody to wake it.
-/

namespace RustyModbus.Pool

variable {Addr : Type}

/-! ## One maintainer for each device -/

/-- The device that a task maintains. -/
def Role.maintained : Role Addr → Option Addr
  | .maintainer addr _ _ => some addr
  | .demand _ | .health | .closer => none

/-- No two tasks maintain the same device. -/
def Apart (x y : Option Addr) : Prop := ∀ a, x = some a → y ≠ some a

theorem Apart.none_left (y : Option Addr) : Apart none y := nofun

theorem Apart.none_right (x : Option Addr) : Apart x none := nofun

theorem Apart.symm {x y : Option Addr} (h : Apart x y) : Apart y x :=
  fun a hy hx => h a hx hy

theorem apart_of_ne {tasks : List (Task Addr)} {t u : Task Addr} {i j : Nat}
    (h : (tasks.map (·.role.maintained)).Pairwise Apart) (ht : tasks[i]? = some t)
    (hu : tasks[j]? = some u) (hij : j ≠ i) : Apart t.role.maintained u.role.maintained := by
  obtain ⟨hi, rfl⟩ := List.getElem?_eq_some_iff.mp ht
  obtain ⟨hj, rfl⟩ := List.getElem?_eq_some_iff.mp hu
  rw [List.pairwise_map, List.pairwise_iff_getElem] at h
  rcases Nat.lt_or_gt_of_ne hij with hlt | hlt
  · exact (h j i hj hi hlt).symm
  · exact h i j hi hj hlt

variable [DecidableEq Addr]

theorem distinctDevices_apart (devices : List (PriorityDevice Addr)) (seen : List Addr) :
    (distinctDevices devices seen).Pairwise (·.addr ≠ ·.addr) ∧
      ∀ device ∈ distinctDevices devices seen, device.addr ∉ seen := by
  induction devices generalizing seen with
  | nil => exact ⟨.nil, List.forall_mem_nil _⟩
  | cons first devices ih =>
    rw [distinctDevices]
    split
    · exact ih seen
    next hfirst =>
      obtain ⟨hpairwise, hseen⟩ := ih (first.addr :: seen)
      refine ⟨List.pairwise_cons.mpr ⟨fun device hdevice heq => ?_, hpairwise⟩, ?_⟩
      · exact hseen device hdevice (heq ▸ List.mem_cons_self)
      · exact List.forall_mem_cons.mpr ⟨hfirst, fun device hdevice hmem =>
          hseen device hdevice (List.mem_cons_of_mem _ hmem)⟩

variable {config : PoolConfig Addr} {strict : Bool}

theorem apart_of_reachable {s : PoolState Addr} (hs : (poolMachine config strict).Reachable s) :
    (s.tasks.map (·.role.maintained)).Pairwise Apart := by
  refine pool_invariant (P := fun s => (s.tasks.map (·.role.maintained)).Pairwise Apart) ?_ ?_ hs
  · refine List.pairwise_cons.mpr ⟨fun y _ => .none_left y, ?_⟩
    rw [spawnPriorityMaintenance, List.map_map, List.pairwise_map]
    refine ((distinctDevices_apart config.priorityDevices []).1.filter _).imp ?_
    intro device device' hne a ha ha'
    exact hne (Option.some.inj (ha.trans ha'.symm))
  · intro s s' signals _ hapart hstep
    rcases hstep.quiet_or_acted with hquiet | ⟨i, t, r, hacted⟩
    · obtain ⟨fresh, -, hrole, hmap⟩ := hquiet.tasks
      have hnone : ∀ x ∈ fresh.map (·.role.maintained), x = none := by
        intro x hx
        obtain ⟨t, ht, rfl⟩ := List.mem_map.mp hx
        cases h : t.role with
        | maintainer => exact absurd h (hrole t ht _ _ _)
        | demand | health | closer => rfl
      rw [hmap _ fun _ _ _ => rfl]
      refine List.pairwise_append.mpr ⟨hapart, ?_, fun x _ y hy => hnone y hy ▸ .none_right x⟩
      exact List.pairwise_of_forall_mem_list fun x hx y _ => hnone x hx ▸ .none_left y
    · have hsame : (s.tasks.map (·.role.maintained))[i]? = some r.task.role.maintained := by
        rw [List.getElem?_map, hacted.task, Option.map_some, hacted.acted.role_eq]
      rw [hacted.tasks _ fun _ _ _ => rfl, Tasks.set_same hsame]
      exact hapart

/-! ## What a task waits for -/

/-- Active charges use up the budget of the address. -/
def PoolInner.Saturated (config : PoolConfig Addr) (inner : PoolInner Addr) (addr : Addr) : Prop :=
  if config.isPriorityAddr addr then config.priorityCap addr ≤ Counts.get inner.activePriority addr
  else config.maxConnections ≤ inner.activeNonPriority

/-- A device needs no connection, or can have none. -/
def PoolInner.Supplied (config : PoolConfig Addr) (inner : PoolInner Addr) (addr : Addr) : Prop :=
  inner.priorityIdleCount addr ≠ 0 ∨ config.priorityCap addr ≤ inner.priorityTotal addr

/-- If the task waits, it has reason to. -/
structure Task.Blocked (config : PoolConfig Addr) (inner : PoolInner Addr) (t : Task Addr) :
    Prop where
  caller : ∀ addr deadline, t.role = .demand addr → t.phase = .parked deadline →
    inner.shuttingDown = false ∧ inner.Saturated config addr
  maintainer : ∀ addr probe, t.role = .maintainer addr true probe → t.phase = .idling →
    inner.shuttingDown = false ∧ inner.Supplied config addr

section

variable {inner inner' inner'' : PoolInner Addr} {own : Option Addr} {t : Task Addr}

theorem Task.blocked_of_awake (config : PoolConfig Addr) (inner : PoolInner Addr)
    (h : t.phase.waiting = false) : t.Blocked config inner := by
  constructor <;> intro _ _ _ hphase <;> cases hphase ▸ h

/-- Nothing has become available, except perhaps to the maintainer of `own`. -/
structure Tightens (inner inner' : PoolInner Addr) (own : Option Addr) : Prop where
  shuttingDown : inner'.shuttingDown = inner.shuttingDown
  nonPriority : inner.activeNonPriority ≤ inner'.activeNonPriority
  priority : ∀ a, Counts.get inner.activePriority a ≤ Counts.get inner'.activePriority a
  idle : ∀ a, own ≠ some a → inner'.priorityIdleCount a = inner.priorityIdleCount a

theorem Tightens.refl (inner : PoolInner Addr) (own : Option Addr) : Tightens inner inner own :=
  ⟨rfl, Nat.le_refl _, fun _ => Nat.le_refl _, fun _ _ => rfl⟩

theorem Tightens.trans (h : Tightens inner inner' own) (h' : Tightens inner' inner'' own) :
    Tightens inner inner'' own where
  shuttingDown := h'.shuttingDown.trans h.shuttingDown
  nonPriority := Nat.le_trans h.nonPriority h'.nonPriority
  priority a := Nat.le_trans (h.priority a) (h'.priority a)
  idle a ha := (h'.idle a ha).trans (h.idle a ha)

theorem Tightens.charge (inner : PoolInner Addr) (isPriority : Bool) (addr : Addr) :
    Tightens inner (inner.chargeActiveFor isPriority addr) own := by
  have hcharge := transfers_chargeActiveFor inner isPriority addr
  refine ⟨inner.chargeActiveFor_shuttingDown _ _, ?_, fun a => ?_, fun a _ => ?_⟩
  · have := hcharge.nonPriority
    rw [Charge.nonPriority_none] at this
    exact Nat.le.intro this.symm
  · have := hcharge.priority a
    rw [Charge.priorityAt_none] at this
    exact Nat.le.intro this.symm
  · rw [PoolInner.priorityIdleCount, PoolInner.chargeActiveFor_idle]
    rfl

/-- An entry of the common budget makes way for a charge. -/
theorem Tightens.evict {idx : Nat} {entry : PoolEntry Addr} (hidx : inner.idle[idx]? = some entry)
    (hentry : entry.isPriority = false) (addr : Addr) :
    Tightens inner ({ inner with idle := swapRemove inner.idle idx }.chargeActiveFor false addr)
      own := by
  have hcharge : Tightens { inner with idle := swapRemove inner.idle idx } _ own :=
    .charge _ false addr
  refine ⟨hcharge.shuttingDown, hcharge.nonPriority, hcharge.priority, fun a ha => ?_⟩
  have hcount := (perm_swapRemove hidx).countP_eq fun e => e.isPriority && e.addr = a
  rw [List.countP_cons_of_neg (by simp [hentry])] at hcount
  exact (hcharge.idle a ha).trans hcount.symm

/-- What a task waits for stays out of reach, unless it is another one's maintainer that acts. -/
theorem Task.Blocked.tighten (h : t.Blocked config inner) (htight : Tightens inner inner' own)
    (hapart : Apart own t.role.maintained) : t.Blocked config inner' := by
  constructor
  · intro addr deadline hrole hphase
    obtain ⟨hup, hsaturated⟩ := h.caller addr deadline hrole hphase
    refine ⟨htight.shuttingDown.trans hup, ?_⟩
    rw [PoolInner.Saturated] at hsaturated ⊢
    by_cases haddr : config.isPriorityAddr addr
    · rw [if_pos haddr] at hsaturated ⊢
      exact Nat.le_trans hsaturated (htight.priority addr)
    · rw [if_neg haddr] at hsaturated ⊢
      exact Nat.le_trans hsaturated htight.nonPriority
  · intro addr probe hrole hphase
    obtain ⟨hup, hsupplied⟩ := h.maintainer addr probe hrole hphase
    have hidle := htight.idle addr fun hown => hapart addr hown (by rw [hrole]; rfl)
    have hactive := htight.priority addr
    refine ⟨htight.shuttingDown.trans hup, ?_⟩
    rw [PoolInner.Supplied, PoolInner.priorityTotal] at hsupplied ⊢
    omega

end

/-! ## One step -/

section

variable {signals : Signals} {s : Shared Addr} {t : Task Addr} {r : Result Addr}

/-- If the search has retired nothing, it has only put the list in another order. -/
theorem tightens_retiring {wanted : PoolEntry Addr → Bool} {inner : PoolInner Addr} {net : Network}
    {own : Option Addr} {idle' retirements : List (PoolEntry Addr)}
    {found : Option (PoolEntry Addr)}
    (h : Taken net signals wanted inner.idle idle' found retirements)
    (hnone : (!retirements.isEmpty) = false)
    (hfound : ∀ e, found = some e → e.isPriority = true → own = some e.addr) :
    Tightens inner (inner.retiring idle' retirements) own := by
  obtain rfl : retirements = [] := by
    rw [Bool.not_eq_false'] at hnone
    exact List.isEmpty_iff.mp hnone
  refine ⟨rfl, Nat.le_refl _, fun _ => Nat.le_refl _, fun a ha => ?_⟩
  have hcount := h.countP_eq fun e => e.isPriority && e.addr = a
  have hother : found.toList.countP (fun e => e.isPriority && e.addr = a) = 0 := by
    refine List.countP_eq_zero.mpr fun e he => ?_
    rw [Bool.and_eq_true, decide_eq_true_eq]
    rintro ⟨hpriority, rfl⟩
    exact ha (hfound e (Option.mem_toList.mp he) hpriority)
  rw [hother, List.countP_nil, Nat.zero_add, Nat.zero_add] at hcount
  exact hcount.symm

/-- A step after which no notice is owed, and with which none is given, makes nothing available. -/
theorem Acted.tightens (h : Acted config strict signals s t r) (hnotice : r.notice = false)
    (howes : r.task.owes = false) : Tightens s.inner r.shared.inner t.role.maintained := by
  cases h with
  | moved | unavailable | connected | touched | handed => exact .refl _ _
  | reused _ _ _ htaken _ hgiven =>
    refine (tightens_retiring htaken howes ?_).trans (.charge _ _ _)
    intro e he hpriority
    cases he
    rcases hgiven with hgiven | ⟨standing, hrole⟩
    · rw [hpriority] at hgiven
      cases hnotice.symm.trans hgiven
    · rw [hrole]
      rfl
  | reserved _ _ _ _ htaken =>
    exact (tightens_retiring htaken howes nofun).trans (.charge _ _ _)
  | @evicted addr _ _ _ _ _ _ _ _ _ htaken _ hidx hentry =>
    exact (tightens_retiring htaken howes nofun).trans (.evict hidx hentry addr)
  | refused _ _ _ _ _ htaken | unclaimed _ _ htaken => exact tightens_retiring htaken howes nofun
  | @maintains addr => exact .charge s.inner true addr
  | @committed _ _ evicted =>
    cases evicted <;> exact ⟨rfl, Nat.le_refl _, fun _ => Nat.le_refl _, fun _ _ => rfl⟩
  | @swept now =>
    have hkept : s.inner.idle.filter (PoolInner.survives config s.net signals now)
        = s.inner.idle := by
      rw [Bool.not_eq_false'] at howes
      refine List.filter_eq_self.mpr fun e he => ?_
      have := List.filter_eq_nil_iff.mp (List.isEmpty_iff.mp howes) e he
      simpa using this
    refine ⟨rfl, Nat.le_refl _, fun _ => Nat.le_refl _, fun a _ => ?_⟩
    exact congrArg (List.countP _) hkept
  | settled | rolledBack | discarded | retired | returned | closed => cases howes

omit [DecidableEq Addr] in
theorem Fits.awake_of_loan {phase : Phase} {holding : Holding Addr} {entry : PoolEntry Addr}
    (h : Fits phase holding) (hloan : holding.loan = some entry) : phase.waiting = false := by
  cases h with
  | borrowing => rfl
  | free | connecting | committing => cases hloan

/-- With a strict clock, a caller is refused only if its budget is used up. -/
theorem saturated_of_refused {inner : PoolInner Addr} {net : Network} {clock now : Instant}
    {addr : Addr} {idle' retirements : List (PoolEntry Addr)}
    (htaken : Taken net signals (·.addr = addr) inner.idle idle' none retirements)
    (hfull : (inner.retiring idle' retirements).Full config addr (config.isPriorityAddr addr))
    (hyoung : config.isPriorityAddr addr = false →
      ∀ e ∈ idle', e.isPriority = false → now ≤ e.lastUsed)
    (hnow : clock < now) (hdated : ∀ e ∈ inner.idle, e.lastUsed ≤ clock) :
    inner.Saturated config addr := by
  have hroom := (noRoom_iff htaken).mpr ⟨hfull, hyoung⟩
  rw [PoolInner.NoRoom] at hroom
  rw [PoolInner.Saturated]
  by_cases haddr : config.isPriorityAddr addr
  · rw [if_pos haddr] at hroom ⊢
    exact hroom
  · rw [if_neg haddr] at hroom ⊢
    obtain ⟨hroom, hyoung⟩ := hroom
    have hnone : inner.otherIdle addr = [] := by
      refine List.eq_nil_iff_forall_not_mem.mpr fun e he => ?_
      have hlate := Nat.le_trans (hyoung e he) (hdated e (List.mem_filter.mp he).1)
      exact absurd hnow (Nat.not_lt_of_le hlate)
    rw [hnone] at hroom
    exact hroom

/-- A task that begins to wait has reason to. -/
theorem Acted.blocked (h : Acted config true signals s t r) (hfits : Fits t.phase t.holding)
    (hdated : ∀ e ∈ s.inner.idle, e.lastUsed ≤ s.clock) :
    r.task.Blocked config r.shared.inner := by
  cases h with
  | moved _ _ _ hawake | settled _ _ _ hawake | rolledBack _ _ _ hawake
  | discarded _ _ _ hawake => exact Task.blocked_of_awake _ _ hawake
  | unavailable _ hrole hfull =>
    constructor
    · intro _ _ hdemand
      cases hrole.symm.trans hdemand
    · intro _ _ hmaintainer _
      cases hrole.symm.trans hmaintainer
      exact hfull rfl
  | refused _ hup _ hstrict hrole htaken hfull hyoung =>
    constructor
    · intro _ _ hdemand _
      cases hrole.symm.trans hdemand
      have hsaturated : s.inner.Saturated config _ :=
        saturated_of_refused htaken hfull hyoung (hstrict rfl) hdated
      exact ⟨hup, hsaturated⟩
    · intro _ _ hmaintainer
      cases hrole.symm.trans hmaintainer
  | touched hholding =>
    exact Task.blocked_of_awake _ _ (hfits.awake_of_loan (congrArg Holding.loan hholding))
  | handed hloan => exact Task.blocked_of_awake _ _ (hfits.awake_of_loan hloan)
  | retired | returned => exact Task.blocked_of_awake _ _ t.role.waiting_afterLoan
  | reused | reserved | evicted | unclaimed | maintains | connected | committed | swept
  | closed => exact Task.blocked_of_awake _ _ rfl

end

/-! ## Whole runs -/

section

variable {s s' : PoolState Addr}

/-- Somebody owes notice, or everybody who waits and has had no notice has reason to. -/
def Woken (config : PoolConfig Addr) (s : PoolState Addr) : Prop :=
  (∃ t ∈ s.tasks, t.owes = true) ∨
    ∀ t ∈ s.tasks, t.waiter = some false → t.Blocked config s.shared.inner

omit [DecidableEq Addr] in
/-- Notice reaches everybody who waits. -/
theorem waiter_of_notified {tasks : List (Task Addr)} {t : Task Addr}
    (h : t ∈ tasks.map Task.notified) : t.waiter ≠ some false := by
  obtain ⟨u, -, rfl⟩ := List.mem_map.mp h
  cases hwaiter : u.waiter <;> simp [Task.notified, hwaiter]

/-- A step of one task with which no notice is given. -/
theorem Woken.acted {signals : Signals} {i : Nat} {t : Task Addr} {r : Result Addr}
    (hs : (poolMachine config true).Reachable s) (h : Woken config s) (ht : s.tasks[i]? = some t)
    (howes : t.owes = false) (hacted : Acted config true signals s.shared t r)
    (hnotice : r.notice = false) :
    Woken config { s with shared := r.shared, tasks := s.tasks.set i r.task } := by
  cases hrowes : r.task.owes with
  | true =>
    left
    exact ⟨r.task, List.mem_set (List.getElem?_eq_some_iff.mp ht).1 _, hrowes⟩
  | false =>
    rcases h with ⟨u, hu, huowes⟩ | hblocked
    · -- who owed notice before was another task, and still does
      obtain ⟨j, hj⟩ := List.mem_iff_getElem?.mp hu
      have hij : j ≠ i := by
        rintro rfl
        cases ht.symm.trans hj
        cases howes.symm.trans huowes
      exact Or.inl ⟨u, Tasks.mem_set_of_ne hj hij, huowes⟩
    · refine Or.inr fun u hu hwaiter => ?_
      rcases Tasks.mem_set_cases hu with rfl | ⟨j, hij, hj⟩
      · exact hacted.blocked (fits_of_reachable hs t (List.mem_of_getElem? ht))
          (lastUsed_le_of_reachable hs)
      · refine (hblocked u (List.mem_of_getElem? hj) hwaiter).tighten
          (hacted.tightens hnotice hrowes) ?_
        exact apart_of_ne (apart_of_reachable hs) ht hj hij

theorem Woken.step {signals : Signals} (hs : (poolMachine config true).Reachable s)
    (h : Woken config s) (hstep : Stepped config true signals s s') : Woken config s' := by
  cases hstep with
  | joined hfresh =>
    rcases h with ⟨t, ht, howes⟩ | hblocked
    · exact Or.inl ⟨t, List.mem_append_left _ ht, howes⟩
    · refine Or.inr fun t ht hwaiter => ?_
      rcases List.mem_append.mp ht with ht | ht
      · exact hblocked t ht hwaiter
      · rw [List.mem_singleton.mp ht, hfresh.waiter] at hwaiter
        cases hwaiter
  | notified => exact Or.inr fun t ht hwaiter => absurd hwaiter (waiter_of_notified ht)
  | wired => exact h
  | @acted i t r ht howes hacted =>
    cases hnotice : r.notice with
    | true =>
      rw [if_pos rfl]
      exact Or.inr fun u hu hwaiter => absurd hwaiter (waiter_of_notified hu)
    | false =>
      rw [if_neg Bool.false_ne_true]
      exact h.acted hs ht howes hacted hnotice

theorem woken_of_reachable (hs : (poolMachine config true).Reachable s) : Woken config s := by
  refine pool_invariant (P := Woken config) ?_ (fun hs h hstep => h.step hs hstep) hs
  refine Or.inr fun t ht hwaiter => ?_
  rw [(fresh_new t ht).waiter] at hwaiter
  cases hwaiter

/-- In a state in which nobody owes notice, whoever waits and has had no notice since it registered
has reason to: the pool is not shutting down, and an attempt of a caller would be refused whatever
the clock and the sockets say, while the device of a standing maintainer has an idle entry or no
room for one. -/
theorem no_lost_wakeup (config : PoolConfig Addr) (hs : (poolMachine config true).Reachable s)
    (hquiet : ∀ t ∈ s.tasks, t.owes = false) {t : Task Addr} (ht : t ∈ s.tasks)
    (hwaiter : t.waiter = some false) :
    (∀ addr deadline, t.role = .demand addr → t.phase = .parked deadline →
      s.shared.inner.shuttingDown = false ∧
      ∀ signals now, (s.attempt config signals now addr).acquisition = none) ∧
    ∀ addr probe, t.role = .maintainer addr true probe → t.phase = .idling →
      s.shared.inner.shuttingDown = false ∧
      (s.shared.inner.priorityIdleCount addr ≠ 0 ∨
        config.priorityCap addr ≤ s.shared.inner.priorityTotal addr) := by
  have hblocked : t.Blocked config s.shared.inner := by
    rcases woken_of_reachable hs with ⟨u, hu, howes⟩ | hblocked
    · cases (hquiet u hu).symm.trans howes
    · exact hblocked t ht hwaiter
  refine ⟨fun addr deadline hrole hphase => ?_, hblocked.maintainer⟩
  obtain ⟨hup, hsaturated⟩ := hblocked.caller addr deadline hrole hphase
  have hbooked := booked_of_reachable hs
  refine ⟨hup, fun signals now => hbooked.refused_of_full ?_⟩
  rw [PoolInner.Saturated] at hsaturated
  rw [PoolConfig.budgetCap]
  by_cases haddr : config.isPriorityAddr addr
  · rw [if_pos haddr] at hsaturated ⊢
    rw [hbooked.activeCharges_of_priority haddr]
    exact hsaturated
  · rw [if_neg haddr] at hsaturated ⊢
    rw [hbooked.activeCharges_of_nonPriority (eq_false_of_ne_true haddr)]
    exact hsaturated

end

/-- One caller borrows the only connection there can be, another one waits for it. -/
def parkedBehind : List (PoolEvent Nat) :=
  [.get 1 none, .task 1 (.attempt 0 1 fun _ => .pending), .task 1 (.connectOk 2), .task 1 .proceed,
    .get 2 (some 10), .task 2 (.attempt 0 3 fun _ => .pending), .task 2 (.readClock 4),
    .task 2 .enable, .task 2 (.attempt 0 5 fun _ => .pending)]

theorem no_lost_wakeup_parkedBehind :
    ∃ s t, (poolMachine onlyOne true).run (.new onlyOne) parkedBehind = some s ∧
      s.tasks[2]? = some t ∧ t.phase = .parked 14 ∧ t.waiter = some false ∧
      ∀ signals now, (s.attempt onlyOne signals now 2).acquisition = none := by
  refine ⟨_, _, rfl, rfl, rfl, rfl, ?_⟩
  refine ((no_lost_wakeup onlyOne ?_ ?_ (List.mem_of_getElem? (i := 2) rfl) rfl).1 2 14 rfl rfl).2
  · exact @Machine.Reachable.run _ _ (poolMachine onlyOne true) parkedBehind _ _ .init rfl
  · have hall : ∀ {tasks : List (Task Nat)}, tasks.all (!·.owes) = true →
        ∀ t ∈ tasks, t.owes = false := by simp
    exact hall rfl

end RustyModbus.Pool
