import RustyModbus.Pool.Entries

/-!
# Each transport is in one place

A transport is idle, in the hands of one task, set aside with a reservation, or retired. A step
moves it from one of these places to another; it is counted how often each transport is in each of
them.
-/

namespace RustyModbus.Pool

open Client (SessionReuseVerdict)

variable {Addr : Type}

/-- The entry stands for that transport. -/
def PoolEntry.on (id : TransportId) (e : PoolEntry Addr) : Bool := e.stream = id

/-- The task has the transport as its connection. -/
def Holding.owns (id : TransportId) (holding : Holding Addr) : Bool :=
  holding.connection.any (·.on id)

/-- The task has the transport set aside with its reservation. -/
def Holding.setsAside (id : TransportId) (holding : Holding Addr) : Bool :=
  holding.evicted.any (·.on id)

/-- How often a transport is idle or retired. -/
def Shared.places (s : Shared Addr) (id : TransportId) : Nat :=
  s.inner.idle.countP (·.on id) + s.net.retired.count id

/-- How often a task has it. -/
def Holding.places (holding : Holding Addr) (id : TransportId) : Nat :=
  (holding.owns id).toNat + (holding.setsAside id).toNat

/-- In how many places a transport is. -/
def PoolState.places (s : PoolState Addr) (id : TransportId) : Nat :=
  s.shared.places id
    + (s.tasks.countP (·.holding.owns id) + s.tasks.countP (·.holding.setsAside id))

theorem countP_toList (p : PoolEntry Addr → Bool) (found : Option (PoolEntry Addr)) :
    found.toList.countP p = (found.any p).toNat := by
  cases found with
  | none => rfl
  | some e => exact Tasks.countP_singleton p e

@[grind =] theorem Network.count_retire (net : Network) (entries : List (PoolEntry Addr))
    (id : TransportId) :
    (net.retire entries).retired.count id = net.retired.count id + entries.countP (·.on id) := by
  rw [Network.retire, List.count_append, List.count_eq_countP, List.count_eq_countP,
    List.countP_map]
  refine congrArg (_ + ·) (List.countP_congr fun e _ => ?_)
  simp [PoolEntry.on]

@[grind =] theorem Holding.places_eq (holding : Holding Addr) (id : TransportId) :
    holding.places id = holding.entries.countP (·.on id) := by
  rw [places, entries, List.countP_append, countP_toList, countP_toList]
  rfl

variable [DecidableEq Addr] {config : PoolConfig Addr} {strict : Bool} {signals : Signals}

section

variable {s : Shared Addr} {t : Task Addr} {r : Result Addr}

omit [DecidableEq Addr] in
/-- What a search takes from the idle list is retired or lent. -/
theorem Taken.places {net : Network} {wanted : PoolEntry Addr → Bool} {inner : PoolInner Addr}
    {idle' retirements : List (PoolEntry Addr)} {found : Option (PoolEntry Addr)}
    (h : Taken net signals wanted inner.idle idle' found retirements) (id : TransportId) :
    idle'.countP (·.on id) + (net.retire retirements).retired.count id
        + found.toList.countP (·.on id)
      = inner.idle.countP (·.on id) + net.retired.count id := by
  rw [net.count_retire, h.countP_eq]
  omega

/-- A step moves transports from place to place; a connector makes a new one. -/
theorem Acted.places (h : Acted config strict signals s t r)
    (hsound : Sound config t.role t.holding) :
    (r.shared.net.next = s.net.next ∧ ∀ id,
      r.shared.places id + r.task.holding.places id = s.places id + t.holding.places id) ∨
    (r.shared.net.next = s.net.next + 1 ∧ ∀ id,
      r.shared.places id + r.task.holding.places id
        = s.places id + t.holding.places id + (decide (s.net.next = id)).toNat) := by
  simp only [Shared.places]
  cases h with
  | connected => exact Or.inr ⟨rfl, fun id => by grind [PoolEntry.on]⟩
  | reused _ _ _ htaken =>
    left
    grind [htaken.places, PoolEntry.on]
  | evicted _ _ _ _ htaken _ hidx =>
    left
    have hrest := fun id => (perm_swapRemove hidx).countP_eq (PoolEntry.on id)
    grind [htaken.places]
  | reserved _ _ _ _ htaken | refused _ _ _ _ _ htaken | unclaimed _ _ htaken =>
    left
    grind [htaken.places]
  | settled hholding hmaintainer =>
    rw [hholding, hmaintainer] at hsound
    obtain ⟨-, rfl⟩ := hsound.maintainer_connected
    left
    grind
  | returned =>
    left
    grind [PoolEntry.on]
  | swept =>
    left
    grind [List.countP_eq_countP_filter_add, PoolInner.runHealthCheck]
  | moved | unavailable | maintains | committed | rolledBack | discarded | touched | handed
  | retired | closed =>
    left
    grind

end

/-! ## Whole runs -/

section

variable {s s' : PoolState Addr}

def Placed (s : PoolState Addr) : Prop :=
  ∀ id, s.places id = (decide (id < s.shared.net.next)).toNat

theorem placed_of_reachable (hs : (poolMachine config strict).Reachable s) : Placed s := by
  refine pool_invariant ?_ ?_ hs
  · intro id
    have hnone : ∀ p : Holding Addr → Bool, p .nothing = false →
        (PoolState.new config).tasks.countP (fun t => p t.holding) = 0 := by
      intro p hp
      refine List.countP_eq_zero.mpr fun t ht => ?_
      rw [(fresh_new t ht).holding, hp]
      decide
    rw [PoolState.places, hnone (·.owns id) rfl, hnone (·.setsAside id) rfl]
    rfl
  · intro s s' signals hs hplaced hstep id
    have hplaced := hplaced id
    rcases hstep.quiet_or_acted with hquiet | ⟨i, t, r, hacted⟩
    · have howns := hquiet.countP (p := (·.holding.owns id)) (fun _ _ _ => rfl)
        fun t ht => by rw [ht.holding]; rfl
      have hsets := hquiet.countP (p := (·.holding.setsAside id)) (fun _ _ _ => rfl)
        fun t ht => by rw [ht.holding]; rfl
      rw [PoolState.places, Shared.places] at hplaced ⊢
      rw [howns, hsets, hquiet.inner, hquiet.retired, hquiet.next, hplaced]
    · have howns := hacted.countP (p := (·.holding.owns id)) (fun _ _ _ => rfl)
      have hsets := hacted.countP (p := (·.holding.setsAside id)) (fun _ _ _ => rfl)
      have hsound := (booked_of_reachable hs).sound t (List.mem_of_getElem? hacted.task)
      rw [PoolState.places] at hplaced ⊢
      rw [hacted.shared]
      rcases hacted.acted.places hsound with ⟨hnext, hmoved⟩ | ⟨hnext, hmoved⟩
      · have hmoved := hmoved id
        rw [Holding.places, Holding.places] at hmoved
        rw [hnext, ← hplaced]
        omega
      · have hmoved := hmoved id
        rw [Holding.places, Holding.places] at hmoved
        have hcount : (decide (id < s.shared.net.next + 1)).toNat
            = (decide (id < s.shared.net.next)).toNat
              + (decide (s.shared.net.next = id)).toNat := by
          rcases Nat.lt_trichotomy id s.shared.net.next with hlt | heq | hgt
          · simp [hlt, Nat.lt_succ_of_lt hlt, Nat.ne_of_gt hlt]
          · simp [heq]
          · simp [Nat.not_lt_of_gt hgt, Nat.ne_of_lt hgt, Nat.not_lt_of_le hgt]
        rw [hnext, hcount, ← hplaced]
        omega

omit [DecidableEq Addr] in
theorem Placed.lt_next (h : Placed s) {id : TransportId} (hpos : 0 < s.places id) :
    id < s.shared.net.next := by
  rw [h id] at hpos
  by_contra hle
  rw [decide_eq_false hle] at hpos
  exact absurd hpos (by decide)

omit [DecidableEq Addr] in
theorem Placed.le_one (h : Placed s) (id : TransportId) : s.places id ≤ 1 := by
  rw [h id]
  exact Bool.toNat_le _

omit [DecidableEq Addr] in
theorem countP_on_pos {idle : List (PoolEntry Addr)} {e : PoolEntry Addr} (he : e ∈ idle) :
    0 < idle.countP (·.on e.stream) :=
  List.countP_pos_iff.mpr ⟨e, he, decide_eq_true rfl⟩

omit [DecidableEq Addr] in
theorem places_le {t : Task Addr} {i : Nat} (ht : s.tasks[i]? = some t) (id : TransportId) :
    s.shared.places id + t.holding.places id ≤ s.places id := by
  have howns := Tasks.countP_ge (·.holding.owns id) ht
  have hsets := Tasks.countP_ge (·.holding.setsAside id) ht
  rw [PoolState.places, Holding.places]
  omega

omit [DecidableEq Addr] in
/-- What is idle is in nobody's hands. -/
theorem Placed.idle (h : Placed s) {e : PoolEntry Addr} (he : e ∈ s.shared.inner.idle) :
    e.stream < s.shared.net.next ∧ s.shared.inner.idle.countP (·.on e.stream) = 1 ∧
      ∀ t ∈ s.tasks, t.holding.places e.stream = 0 := by
  have hidle := countP_on_pos he
  have hone := h.le_one e.stream
  refine ⟨h.lt_next ?_, ?_, fun t ht => ?_⟩
  · rw [PoolState.places, Shared.places]
    omega
  · rw [PoolState.places, Shared.places] at hone
    omega
  · obtain ⟨i, ht⟩ := List.mem_iff_getElem?.mp ht
    have := places_le ht e.stream
    rw [Shared.places] at this
    omega

omit [DecidableEq Addr] in
/-- What is in somebody's hands is not idle and in nobody else's hands. -/
theorem Placed.held (h : Placed s) {t : Task Addr} {i : Nat} (ht : s.tasks[i]? = some t)
    {id : TransportId} (hpos : 0 < t.holding.places id) :
    id < s.shared.net.next ∧ (∀ e ∈ s.shared.inner.idle, e.stream ≠ id) ∧
      ∀ j u, j ≠ i → s.tasks[j]? = some u → u.holding.places id = 0 := by
  have hle := places_le ht id
  have hone := h.le_one id
  refine ⟨h.lt_next (by omega), ?_, fun j u hij hu => ?_⟩
  · rintro e he rfl
    have := countP_on_pos he
    rw [Shared.places] at hle
    omega
  · have howns := Tasks.countP_ge_two (·.holding.owns id) ht hu hij
    have hsets := Tasks.countP_ge_two (·.holding.setsAside id) ht hu hij
    rw [PoolState.places] at hone
    rw [Holding.places] at hpos ⊢
    omega

end

end RustyModbus.Pool
