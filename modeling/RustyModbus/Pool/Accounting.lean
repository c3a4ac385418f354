import RustyModbus.Pool.Steps

/-!
# The pool's accounting

Behind every charge on the books stands a task that holds a lease, a client or a reservation. The
books are kept under the lock, the tasks move on their own; that the two agree in every reachable
state is proved from what each step does to both (`Acted.balances`).
-/

namespace RustyModbus.Pool

variable {Addr : Type}

/-- Something is charged for what the task holds. -/
def Holding.live : Holding Addr → Bool
  | .nothing => false
  | .pending _ | .connected _ _ | .lease _ _ | .retiring _ _ _ | .session _ _ => true

/-- How many connections on the books the task holds. -/
def Holding.held (holding : Holding Addr) : Nat :=
  holding.loan.isSome.toNat + holding.evicted.isSome.toNat

namespace PoolState

/-- Leases, leases that clients hold, and reservations. -/
def liveCharges (s : PoolState Addr) : Nat := s.tasks.countP (·.holding.live)

/-- Leases, and leases that clients hold. -/
def committedLeases (s : PoolState Addr) : Nat := s.tasks.countP (·.holding.loan.isSome)

/-- Entries that were evicted for reservations which are pending. -/
def evictedEntries (s : PoolState Addr) : Nat := s.tasks.countP (·.holding.evicted.isSome)

end PoolState

variable [DecidableEq Addr]

/-- The entry is charged to the budget that the configuration gives its address. -/
def PoolEntry.Filed (config : PoolConfig Addr) (e : PoolEntry Addr) : Prop :=
  e.isPriority = config.isPriorityAddr e.addr

def Role.Filed (config : PoolConfig Addr) (role : Role Addr) : Prop :=
  ∀ c, role.budget config = some c → c.isPriority = config.isPriorityAddr c.addr

/-- The budget that a task draws on. -/
def Task.charge (config : PoolConfig Addr) (t : Task Addr) : Option (Charge Addr) :=
  match t.holding with
  | .nothing => none
  | .pending _ | .connected _ _ => t.role.budget config
  | .lease entry _ | .retiring entry _ _ | .session entry _ => some ⟨entry.isPriority, entry.addr⟩

/-- An entry that was evicted for a reservation shares its budget. -/
def Evictable (config : PoolConfig Addr) (c : Charge Addr) (evicted : Option (PoolEntry Addr)) :
    Prop :=
  ∀ e, evicted = some e → c.isPriority = false ∧ e.isPriority = false ∧ e.Filed config

inductive Sound (config : PoolConfig Addr) (role : Role Addr) : Holding Addr → Prop
  | nothing : Sound config role .nothing
  | pending {c evicted} (hbudget : role.budget config = some c)
    (hevicted : Evictable config c evicted) : Sound config role (.pending evicted)
  | connected {entry evicted} (hbudget : role.budget config = some ⟨entry.isPriority, entry.addr⟩)
    (hevicted : Evictable config ⟨entry.isPriority, entry.addr⟩ evicted) :
    Sound config role (.connected entry evicted)
  | loan {holding entry} (hloan : holding.loan = some entry) (hfiled : entry.Filed config) :
    Sound config role holding

section

variable {config : PoolConfig Addr} {strict : Bool} {signals : Signals}

/-! ## One step -/

section

variable {role : Role Addr}

variable {evicted : Option (PoolEntry Addr)}

theorem Sound.pending_budget {c : Charge Addr} (h : Sound config role (.pending evicted))
    (hbudget : role.budget config = some c) :
    Evictable config c evicted := by
  cases h with
  | pending hbudget' hevicted =>
    cases hbudget.symm.trans hbudget'
    exact hevicted
  | loan hloan => cases hloan

theorem Sound.connected_budget {entry : PoolEntry Addr}
    (h : Sound config role (.connected entry evicted)) :
    role.budget config = some ⟨entry.isPriority, entry.addr⟩ ∧
      Evictable config ⟨entry.isPriority, entry.addr⟩ evicted := by
  cases h with
  | connected hbudget hevicted => exact ⟨hbudget, hevicted⟩
  | loan hloan => cases hloan

theorem Sound.filed {holding : Holding Addr} {entry : PoolEntry Addr}
    (h : Sound config role holding) (hloan : holding.loan = some entry) : entry.Filed config := by
  cases h with
  | loan hloan' hfiled =>
    cases hloan.symm.trans hloan'
    exact hfiled
  | nothing | pending | connected => cases hloan

theorem evictable_none (config : PoolConfig Addr) (c : Charge Addr) : Evictable config c none := by
  intro e he
  cases he

/-- Nothing is evicted for a priority device. -/
theorem Evictable.eq_none {c : Charge Addr} (h : Evictable config c evicted)
    (hpriority : c.isPriority = true) : evicted = none := by
  cases evicted with
  | none => rfl
  | some e => rw [(h e rfl).1] at hpriority; cases hpriority

end

variable {s : Shared Addr} {t : Task Addr} {r : Result Addr}

variable {entry : PoolEntry Addr} {evicted : Option (PoolEntry Addr)}

/-- A maintainer connects to its own device, and has evicted nothing for it. -/
theorem Sound.maintainer_connected {addr : Addr} {standing probe : Bool}
    (h : Sound config (.maintainer addr standing probe) (.connected entry evicted)) :
    entry.isPriority = true ∧ evicted = none := by
  obtain ⟨hbudget, hevicted⟩ := h.connected_budget
  have hpriority : entry.isPriority = true :=
    (congrArg Charge.isPriority (Option.some.inj hbudget)).symm
  exact ⟨hpriority, hevicted.eq_none hpriority⟩

/-- A sound task stays sound. -/
theorem Acted.sound (h : Acted config strict signals s t r) (hrole : t.role.Filed config)
    (hsound : Sound config t.role t.holding) (hidle : ∀ e ∈ s.inner.idle, e.Filed config) :
    Sound config r.task.role r.task.holding := by
  cases h with
  | moved | unavailable | refused | unclaimed | swept | closed => exact hsound
  | @reused _ _ _ _ entry _ _ _ _ _ _ htaken hloan =>
    have hmem : entry ∈ s.inner.idle := htaken.mem_found
    rcases hloan with rfl | rfl <;> exact .loan rfl (hidle entry hmem)
  | reserved _ _ _ hdemand =>
    exact .pending (c := ⟨_, _⟩) (congrArg _ hdemand) (evictable_none _ _)
  | evicted _ _ _ hdemand htaken hbudget hidx hentry =>
    refine .pending (c := ⟨_, _⟩) (congrArg _ hdemand) ?_
    intro e he
    cases he
    exact ⟨hbudget, hentry, hidle _ (htaken.mem (List.mem_of_getElem? hidx))⟩
  | maintains _ _ hmaintainer =>
    exact .pending (c := ⟨_, _⟩) (congrArg _ hmaintainer) (evictable_none _ _)
  | connected hholding _ hbudget =>
    rw [hholding] at hsound
    exact .connected hbudget (hsound.pending_budget hbudget)
  | committed hholding =>
    rw [hholding] at hsound
    exact .loan rfl (hrole _ hsound.connected_budget.1)
  | settled | rolledBack | discarded | retired | returned => exact .nothing
  | touched hholding =>
    rw [hholding] at hsound
    exact .loan rfl (hsound.filed rfl)
  | handed hloan hloan' => exact .loan hloan' (hsound.filed hloan)

/-- The search has only retired entries. -/
theorem Taken.balances {net : Network} {wanted : PoolEntry Addr → Bool} {inner : PoolInner Addr}
    {idle' retirements : List (PoolEntry Addr)}
    (h : Taken net signals wanted inner.idle idle' none retirements) :
    Balances config inner (inner.retiring idle' retirements) none none 0 0 := by
  refine .retire (fun p => ?_) ?_ fun e he => h.mem he
  · rw [h.countP_eq p]
    exact Nat.le_trans (Nat.le_add_left _ _) (Nat.le_add_left _ _)
  · rw [h.length_eq]
    simp

theorem PoolInner.room_of_not_full {inner : PoolInner Addr} {addr : Addr} {isPriority : Bool}
    (h : ¬inner.Full config addr isPriority) :
    if isPriority then inner.priorityTotal addr < config.priorityCap addr
    else inner.nonPriorityTotal < config.maxConnections := by
  cases isPriority with
  | true => exact Nat.lt_of_not_le h
  | false => exact Nat.lt_of_not_le h

omit [DecidableEq Addr] in
theorem Holding.held_of_loan {holding : Holding Addr} (h : holding.loan = some entry) :
    holding.held = 1 := by
  cases holding with
  | lease | retiring | session => rfl
  | nothing | pending | connected => cases h

theorem Task.charge_of_loan (config : PoolConfig Addr) (h : t.holding.loan = some entry) :
    t.charge config = some ⟨entry.isPriority, entry.addr⟩ := by
  rw [Task.charge]
  cases hholding : t.holding with
  | lease | retiring | session =>
    rw [hholding] at h
    cases h
    rfl
  | nothing | pending | connected =>
    rw [hholding] at h
    cases h

theorem Task.charge_of_nothing (config : PoolConfig Addr) (h : t.holding = .nothing) :
    t.charge config = none := by
  rw [Task.charge, h]

theorem Task.charge_of_pending (config : PoolConfig Addr) (h : t.holding = .pending evicted) :
    t.charge config = t.role.budget config := by
  rw [Task.charge, h]

theorem Task.charge_of_connected (config : PoolConfig Addr)
    (h : t.holding = .connected entry evicted) :
    t.charge config = t.role.budget config := by
  rw [Task.charge, h]

omit [DecidableEq Addr] in
theorem Holding.held_connected (entry : PoolEntry Addr) (evicted : Option (PoolEntry Addr)) :
    (connected entry evicted).held = evicted.isSome.toNat :=
  Nat.zero_add _

section

variable {inner inner' : PoolInner Addr}

/-- The task holds nothing before the step and after it. -/
theorem Balances.of_nothing (hholding : t.holding = .nothing)
    (h : Balances config inner inner' none none 0 0) :
    Balances config inner inner' (t.charge config) (t.charge config) t.holding.held
      t.holding.held := by
  rwa [t.charge_of_nothing config hholding, hholding]

/-- The task held nothing and has a reservation now. -/
theorem Balances.of_budget {c : Charge Addr} {held : Nat} (hholding : t.holding = .nothing)
    (hbudget : t.role.budget config = some c) (h : Balances config inner inner' none (some c) 0 held) :
    Balances config inner inner' (t.charge config) (t.role.budget config) t.holding.held held := by
  rwa [t.charge_of_nothing config hholding, hholding, hbudget]

end

/-- Every step of a task balances. -/
theorem Acted.balances (h : Acted config strict signals s t r) (hrole : t.role.Filed config)
    (hsound : Sound config t.role t.holding)
    (hcharged : ∀ c, t.charge config = some c → s.inner.Charged c.isPriority c.addr) :
    Balances config s.inner r.shared.inner (t.charge config) (r.task.charge config)
      t.holding.held r.task.holding.held := by
  cases h with
  | moved | unavailable => exact .refl config s.inner (t.charge config) t.holding.held
  | reused hholding _ _ htaken hloan =>
    rw [t.charge_of_nothing config hholding, hholding]
    rcases hloan with rfl | rfl <;> exact .reuse htaken
  | reserved hholding _ _ hdemand htaken hroom =>
    exact .of_budget hholding (congrArg _ hdemand)
      (htaken.balances.trans (.reserve (PoolInner.room_of_not_full hroom)))
  | evicted hholding _ _ hdemand htaken hpriority hidx hentry =>
    refine .of_budget hholding (congrArg _ hdemand) ?_
    rw [hpriority]
    exact htaken.balances.trans (.evict _ hidx hentry)
  | refused hholding _ _ _ _ htaken | unclaimed hholding _ htaken =>
    exact .of_nothing hholding htaken.balances
  | @maintains addr _ _ hholding _ hmaintainer hroom =>
    have hroom : ¬s.inner.Full config addr true := Nat.not_le_of_lt hroom
    exact .of_budget hholding (congrArg _ hmaintainer)
      (.reserve (PoolInner.room_of_not_full hroom))
  | connected hholding =>
    show Balances _ _ _ _ (t.role.budget config) _ _
    rw [t.charge_of_pending config hholding, hholding]
    exact .refl config s.inner _ _
  | @committed _ entry evicted hholding =>
    rw [hholding] at hsound
    rw [t.charge_of_connected config hholding, hsound.connected_budget.1, hholding,
      Holding.held_connected]
    exact .commit s.inner evicted _
  | @settled addr _ _ _ entry evicted _ hholding hmaintainer =>
    rw [hholding] at hsound
    have hbudget := hsound.connected_budget.1
    have hcharge := (t.charge_of_connected config hholding).trans hbudget
    rw [hmaintainer] at hsound
    obtain ⟨hpriority, rfl⟩ := hsound.maintainer_connected
    rw [hcharge, hholding, hpriority]
    refine .commitPriorityIdle ?_ hpriority (hrole _ hbudget)
    exact hpriority ▸ hcharged _ hcharge
  | @rolledBack c evicted connectionFailed _ hholding hbudget =>
    rw [hholding] at hsound
    have hcharge := (t.charge_of_pending config hholding).trans hbudget
    rw [hcharge, hholding, show (Holding.pending evicted).held = _ from Nat.zero_add _]
    exact .rollback connectionFailed (hcharged _ hcharge) (hsound.pending_budget hbudget)
  | @discarded c entry evicted connectionFailed _ hholding hbudget =>
    rw [hholding] at hsound
    obtain ⟨hbudget', hevicted⟩ := hsound.connected_budget
    cases hbudget.symm.trans hbudget'
    have hcharge := (t.charge_of_connected config hholding).trans hbudget
    rw [hcharge, hholding, Holding.held_connected]
    exact .rollback connectionFailed (hcharged _ hcharge) hevicted
  | @touched entry rawAccessed hholding =>
    have hloan : t.holding.loan = some entry := by rw [hholding]; rfl
    rw [t.charge_of_loan config hloan, hholding]
    exact .refl config s.inner _ _
  | handed hloan hloan' =>
    rw [t.charge_of_loan config hloan, Task.charge_of_loan config hloan',
      Holding.held_of_loan hloan, Holding.held_of_loan hloan']
    exact .refl config s.inner _ _
  | retired hloan =>
    have hcharge := t.charge_of_loan config hloan
    rw [hcharge, Holding.held_of_loan hloan]
    exact .retireActive (hcharged _ hcharge)
  | @returned entry now hholding =>
    have hloan : t.holding.loan = some entry := by rw [hholding]; rfl
    have hcharge := t.charge_of_loan config hloan
    rw [hcharge, Holding.held_of_loan hloan]
    exact .returnToPool (hcharged _ hcharge) (hsound.filed hloan)
  | swept hholding => exact .of_nothing hholding (.healthCheck s.inner _)
  | closed hholding => exact .of_nothing hholding (.shutdown s.inner)

end

/-! ## Whole runs -/

/-- The books agree with what the tasks hold. -/
structure Booked (config : PoolConfig Addr) (s : PoolState Addr) : Prop where
  roles : ∀ t ∈ s.tasks, t.role.Filed config
  sound : ∀ t ∈ s.tasks, Sound config t.role t.holding
  idle : ∀ e ∈ s.shared.inner.idle, e.Filed config
  nonPriority : s.shared.inner.activeNonPriority
    = s.tasks.countP fun t => Charge.nonPriority (t.charge config)
  priority : ∀ a, Counts.get s.shared.inner.activePriority a
    = s.tasks.countP fun t => Charge.priorityAt a (t.charge config)
  total : s.shared.inner.activeConnections = s.tasks.countP fun t => (t.charge config).isSome
  sum : s.shared.inner.activeConnections
    = s.shared.inner.activeNonPriority + Counts.total s.shared.inner.activePriority
  nonPriorityCap : s.shared.inner.nonPriorityTotal ≤ config.maxConnections
  priorityCap : ∀ a, config.isPriorityAddr a →
    s.shared.inner.priorityTotal a ≤ config.priorityCap a
  books : s.shared.inner.connectionsCreated < maxCount →
    s.shared.inner.connectionsCreated = s.shared.inner.connectionsRetired
      + (s.shared.inner.idle.length + s.committedLeases + s.evictedEntries)

section

variable {config : PoolConfig Addr} {strict : Bool} {signals : Signals} {s s' : PoolState Addr}

variable {t : Task Addr}

/-- What a task holds is on the books. -/
theorem Booked.charged (h : Booked config s) (ht : t ∈ s.tasks) {c : Charge Addr}
    (hc : t.charge config = some c) : s.shared.inner.Charged c.isPriority c.addr := by
  constructor
  · rw [h.total]
    exact List.countP_pos_iff.mpr ⟨t, ht, by rw [hc]; rfl⟩
  · cases hpriority : c.isPriority with
    | true =>
      rw [if_pos rfl, h.priority]
      exact List.countP_pos_iff.mpr ⟨t, ht, by simp [hc, hpriority]⟩
    | false =>
      rw [if_neg Bool.false_ne_true, h.nonPriority]
      exact List.countP_pos_iff.mpr ⟨t, ht, by simp [hc, hpriority]⟩

theorem mem_of_mem_distinctDevices {devices : List (PriorityDevice Addr)} {seen : List Addr}
    {device : PriorityDevice Addr} (h : device ∈ distinctDevices devices seen) :
    device ∈ devices := by
  induction devices generalizing seen with
  | nil => exact h
  | cons first devices ih =>
    rw [distinctDevices] at h
    split at h
    · exact List.mem_cons_of_mem _ (ih h)
    · rcases List.mem_cons.mp h with rfl | h
      · exact List.mem_cons_self
      · exact List.mem_cons_of_mem _ (ih h)

theorem filed_of_not_maintainer {role : Role Addr}
    (h : ∀ addr standing probe, role ≠ .maintainer addr standing probe) : role.Filed config := by
  intro c hc
  cases role with
  | demand =>
    cases hc
    rfl
  | maintainer => exact absurd rfl (h _ _ _)
  | health | closer => cases hc

theorem booked_new (config : PoolConfig Addr) : Booked config (.new config) := by
  have hfresh := @fresh_new _ _ config
  have hcharge : ∀ t ∈ (PoolState.new config).tasks, t.charge config = none :=
    fun t ht => t.charge_of_nothing config (hfresh t ht).holding
  have hnone : ∀ p : Task Addr → Bool, (∀ t ∈ (PoolState.new config).tasks, p t = false) →
      (PoolState.new config).tasks.countP p = 0 :=
    fun p hp => List.countP_eq_zero.mpr fun t ht => ne_true_of_eq_false (hp t ht)
  have hloan := hnone (·.holding.loan.isSome) fun t ht => by rw [(hfresh t ht).holding]; rfl
  have hevicted := hnone (·.holding.evicted.isSome) fun t ht => by rw [(hfresh t ht).holding]; rfl
  constructor
  case roles =>
    intro t ht
    rcases List.mem_cons.mp ht with rfl | ht
    · exact filed_of_not_maintainer nofun
    · obtain ⟨device, hdevice, rfl⟩ := List.mem_map.mp ht
      have hmem := mem_of_mem_distinctDevices (List.mem_filter.mp hdevice).1
      intro c hc
      cases hc
      exact (List.any_eq_true.mpr ⟨device, hmem, decide_eq_true rfl⟩).symm
  case sound => exact fun t ht => (hfresh t ht).holding ▸ .nothing
  case idle => exact List.forall_mem_nil _
  case nonPriority => exact (hnone _ fun t ht => by rw [hcharge t ht]; rfl).symm
  case priority => exact fun a => (hnone _ fun t ht => by rw [hcharge t ht]; rfl).symm
  case total => exact (hnone _ fun t ht => by rw [hcharge t ht]; rfl).symm
  case sum => rfl
  case nonPriorityCap => exact Nat.zero_le _
  case priorityCap => exact fun _ _ => Nat.zero_le _
  case books =>
    intro _
    rw [PoolState.committedLeases, PoolState.evictedEntries, hloan, hevicted]
    rfl

theorem Booked.quiet (h : Booked config s) (hquiet : Quiet s s') : Booked config s' := by
  have hcharge : ∀ t : Task Addr, Fresh t → t.charge config = none :=
    fun t ht => t.charge_of_nothing config ht.holding
  have hloan := hquiet.countP (p := (·.holding.loan.isSome)) (fun _ _ _ => rfl)
    fun t ht => by rw [ht.holding]; rfl
  have hevicted := hquiet.countP (p := (·.holding.evicted.isSome)) (fun _ _ _ => rfl)
    fun t ht => by rw [ht.holding]; rfl
  constructor
  case roles =>
    exact hquiet.forall_tasks (fun _ _ _ => rfl) h.roles (fun _ h => h) fun t _ hrole =>
      filed_of_not_maintainer hrole
  case sound =>
    exact hquiet.forall_tasks (fun _ _ _ => rfl) h.sound (fun _ h => h) fun t ht _ =>
      ht.holding ▸ .nothing
  case idle => exact hquiet.inner ▸ h.idle
  case nonPriority =>
    rw [hquiet.inner, h.nonPriority]
    exact (hquiet.countP (fun _ _ _ => rfl) fun t ht => by rw [hcharge t ht]; rfl).symm
  case priority =>
    intro a
    rw [hquiet.inner, h.priority]
    exact (hquiet.countP (fun _ _ _ => rfl) fun t ht => by rw [hcharge t ht]; rfl).symm
  case total =>
    rw [hquiet.inner, h.total]
    exact (hquiet.countP (fun _ _ _ => rfl) fun t ht => by rw [hcharge t ht]; rfl).symm
  case sum => exact hquiet.inner ▸ h.sum
  case nonPriorityCap => exact hquiet.inner ▸ h.nonPriorityCap
  case priorityCap => exact hquiet.inner ▸ h.priorityCap
  case books =>
    rw [hquiet.inner, PoolState.committedLeases, PoolState.evictedEntries, hloan, hevicted]
    exact h.books

theorem Booked.acted {i : Nat} {r : Result Addr} (h : Booked config s)
    (hacted : ActedAt config strict signals s s' i t r) : Booked config s' := by
  have ht := List.mem_of_getElem? hacted.task
  have hrole := h.roles t ht
  have hbalances := hacted.acted.balances hrole (h.sound t ht) fun c hc => h.charged ht hc
  have htransfers := hbalances.transfers
  have hloan := hacted.countP (p := (·.holding.loan.isSome)) (fun _ _ _ => rfl)
  have hevicted := hacted.countP (p := (·.holding.evicted.isSome)) (fun _ _ _ => rfl)
  constructor
  case roles =>
    exact hacted.forall_tasks (fun _ _ _ => rfl) h.roles (fun _ h => h)
      (hacted.acted.role_eq ▸ hrole)
  case sound =>
    exact hacted.forall_tasks (fun _ _ _ => rfl) h.sound (fun _ h => h)
      (hacted.acted.sound hrole (h.sound t ht) h.idle)
  all_goals rw [hacted.shared]
  case idle => exact hbalances.entries h.idle
  case nonPriority =>
    have hcount := hacted.countP (p := fun t => Charge.nonPriority (t.charge config))
      (fun _ _ _ => rfl)
    have := htransfers.nonPriority
    have := h.nonPriority
    omega
  case priority =>
    intro a
    have hcount := hacted.countP (p := fun t => Charge.priorityAt a (t.charge config))
      (fun _ _ _ => rfl)
    have := htransfers.priority a
    have := h.priority a
    omega
  case total =>
    have hcount := hacted.countP (p := fun t => (t.charge config).isSome) (fun _ _ _ => rfl)
    have := htransfers.total
    have := h.total
    omega
  case sum => exact htransfers.sum h.sum
  case nonPriorityCap => exact hbalances.nonPriorityCap h.nonPriorityCap
  case priorityCap => exact fun a ha => hbalances.priorityCap a ha (h.priorityCap a ha)
  case books =>
    intro hbelow
    -- what was retired is no more than what had been created, so that counter is not saturated
    obtain ⟨created, retired, hcreated, hretired, hbooks⟩ := hbalances.books
    have hcreated := hcreated.below hbelow
    have hbefore := h.books (by omega)
    simp only [PoolState.committedLeases, PoolState.evictedEntries] at hbefore ⊢
    simp only [Holding.held] at hbooks
    have hretired := hretired.exact (by omega)
    omega

theorem booked_of_reachable (hs : (poolMachine config strict).Reachable s) : Booked config s := by
  refine pool_invariant (booked_new config) ?_ hs
  intro s s' signals _ hbooked hstep
  rcases hstep.quiet_or_acted with hquiet | ⟨i, t, r, hacted⟩
  · exact hbooked.quiet hquiet
  · exact hbooked.acted hacted

theorem Sound.isSome_charge (h : Sound config t.role t.holding) :
    (t.charge config).isSome = t.holding.live := by
  rw [Task.charge]
  cases hholding : t.holding with
  | nothing | lease | retiring | session => rfl
  | pending =>
    rw [hholding] at h
    cases h with
    | pending hbudget => exact congrArg Option.isSome hbudget
    | loan hloan => cases hloan
  | connected =>
    rw [hholding] at h
    exact congrArg Option.isSome h.connected_budget.1

/-- The pool's books in one state. -/
structure Accounting (config : PoolConfig Addr) (s : PoolState Addr) : Prop where
  /-- The aggregate is the sum of the budgets. -/
  sum : s.shared.inner.activeConnections
    = s.shared.inner.activeNonPriority + Counts.total s.shared.inner.activePriority
  /-- Every active charge is a lease, a lease that a client holds or a pending reservation. -/
  charges : s.shared.inner.activeConnections = s.liveCharges
  nonPriorityCap : s.shared.inner.activeNonPriority + s.shared.inner.nonPriorityIdleCount
    ≤ config.maxConnections
  priorityCap : ∀ a, config.isPriorityAddr a →
    Counts.get s.shared.inner.activePriority a + s.shared.inner.priorityIdleCount a
      ≤ config.priorityCap a
  /-- While the counters are not saturated, what was created and not retired is idle, on loan, or
  evicted for a reservation that is pending. -/
  lifecycle : s.shared.inner.connectionsCreated < maxCount →
    s.shared.inner.connectionsRetired ≤ s.shared.inner.connectionsCreated ∧
    s.shared.inner.connectionsCreated - s.shared.inner.connectionsRetired
      = s.shared.inner.idle.length + s.committedLeases + s.evictedEntries

/-- The books balance in every reachable state. -/
theorem pool_accounting (config : PoolConfig Addr) (strict : Bool)
    (hs : (poolMachine config strict).Reachable s) : Accounting config s := by
  have hbooked := booked_of_reachable hs
  refine ⟨hbooked.sum, ?_, hbooked.nonPriorityCap, hbooked.priorityCap, fun hbelow => ?_⟩
  · rw [hbooked.total, PoolState.liveCharges]
    refine List.countP_congr fun t ht => ?_
    rw [(hbooked.sound t ht).isSome_charge]
  · have hbooks := hbooked.books hbelow
    omega

end

/-- A pool with one slot and no priority devices. -/
def onlyOne : PoolConfig Nat where
  maxConnections := 1
  priorityDevices := []
  preConnect := false
  priorityReplenishment := false
  idleTimeout := 60
  latestInstant := 1000

/-- A caller borrows a new connection to device 1 and gives it back at time 2. -/
def givenBack : List (PoolEvent Nat) :=
  [.get 1 none, .task 1 (.attempt 0 0 fun _ => .pending), .task 1 (.connectOk 1), .task 1 .proceed,
    .task 1 .intoReusableClient, .task 1 (.shutdownAndReturn .reuseEligible 2), .task 1 .notify]

/-- A caller for another device has the idle entry evicted. -/
def takenOver : List (PoolEvent Nat) :=
  givenBack ++ [.get 2 none, .task 2 (.attempt 0 3 fun _ => .pending)]

theorem pool_accounting_takenOver :
    ∃ s, (poolMachine onlyOne false).run (.new onlyOne) takenOver = some s ∧
      s.liveCharges = 1 ∧ s.evictedEntries = 1 ∧ Accounting onlyOne s := by
  refine ⟨_, rfl, rfl, rfl, pool_accounting onlyOne false ?_⟩
  exact @Machine.Reachable.run _ _ (poolMachine onlyOne false) takenOver _ _ .init rfl

end RustyModbus.Pool
