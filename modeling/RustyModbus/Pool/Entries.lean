import RustyModbus.Pool.Accounting

/-!
# Where the pool's entries go

A step moves entries between the idle list, the hands of the tasks and the list of what is retired;
it makes none, except when a connector has made a connection.
-/

namespace RustyModbus.Pool

variable {Addr : Type}

namespace Holding

/-- The connection that a task has, committed or not. -/
def connection : Holding Addr → Option (PoolEntry Addr)
  | .connected entry _ | .lease entry _ | .retiring entry _ _ | .session entry _ => some entry
  | .nothing | .pending _ => none

def entries (holding : Holding Addr) : List (PoolEntry Addr) :=
  holding.connection.toList ++ holding.evicted.toList

attribute [grind] connection entries

@[grind →] theorem connection_of_loan {holding : Holding Addr} {entry : PoolEntry Addr}
    (h : holding.loan = some entry) : holding.connection = some entry ∧ holding.evicted = none := by
  cases holding with
  | lease | retiring | session => exact ⟨h, rfl⟩
  | nothing | pending | connected => cases h

@[grind →] theorem entries_of_loan {holding : Holding Addr} {entry : PoolEntry Addr}
    (h : holding.loan = some entry) : holding.entries = [entry] := by
  obtain ⟨hconnection, hevicted⟩ := connection_of_loan h
  rw [entries, hconnection, hevicted]
  rfl

end Holding

variable [DecidableEq Addr] {config : PoolConfig Addr} {strict : Bool} {signals : Signals}
variable {s : Shared Addr} {t : Task Addr} {r : Result Addr}

/-- The entries that a task can see. -/
def Shared.entries (s : Shared Addr) (t : Task Addr) : List (PoolEntry Addr) :=
  s.inner.idle ++ t.holding.entries

/-- An entry after a step was there before, but for the time at which it was last used, or belongs
to a new connection. -/
inductive Stems (s : Shared Addr) (t : Task Addr) (clock : Instant) : PoolEntry Addr → Prop
  | kept {e : PoolEntry Addr} (h : e ∈ s.entries t) : Stems s t clock e
  | used {e : PoolEntry Addr} (h : e ∈ s.entries t) : Stems s t clock { e with lastUsed := clock }
  | made (addr : Addr) (isPriority : Bool) :
    Stems s t clock
      { addr, sink := s.net.next, stream := s.net.next, lastUsed := clock, isPriority }

omit [DecidableEq Addr] in
theorem Stems.idle {clock : Instant} {e : PoolEntry Addr} (h : e ∈ s.inner.idle) :
    Stems s t clock e :=
  .kept (List.mem_append_left _ h)

omit [DecidableEq Addr] in
theorem Stems.held {clock : Instant} {e : PoolEntry Addr} (h : e ∈ t.holding.entries) :
    Stems s t clock e :=
  .kept (List.mem_append_right _ h)

theorem Acted.stems (h : Acted config strict signals s t r) :
    ∀ e ∈ r.shared.entries r.task, Stems s t r.shared.clock e := by
  intro e he
  rw [Shared.entries, List.mem_append] at he
  cases h with
  | @reused _ _ _ _ entry _ _ _ _ _ _ htaken =>
    have hentry : entry ∈ s.entries t := List.mem_append_left _ htaken.mem_found
    grind [Stems.idle, Stems.used]
  | evicted _ _ _ _ _ _ hidx =>
    have hrest := fun e => @mem_of_mem_swapRemove _ _ _ _ e hidx
    grind [Stems.idle, List.mem_of_getElem?]
  | connected => grind [Stems.idle, Stems.held, Stems.made]
  | @returned entry _ hholding =>
    have hentry : entry ∈ s.entries t := List.mem_append_right _ (by simp [hholding, Holding.entries,
      Holding.connection])
    grind [Stems.idle, Stems.used]
  | _ => grind [Stems.idle, Stems.held]

theorem Acted.clock_le (h : Acted config strict signals s t r) : s.clock ≤ r.shared.clock := by
  cases h with
  | moved _ hclock | reused _ _ hclock | reserved _ _ hclock | evicted _ _ hclock
  | refused _ _ hclock | connected _ hclock | returned _ hclock => exact hclock
  | unavailable | unclaimed | maintains | committed | settled | rolledBack | discarded | touched
  | handed | retired | swept | closed => exact Nat.le_refl _

/-! ## All entries -/

/-- What holds of every entry, idle or in somebody's hands. -/
structure AllEntries (P : PoolEntry Addr → Prop) (s : PoolState Addr) : Prop where
  idle : ∀ e ∈ s.shared.inner.idle, P e
  held : ∀ t ∈ s.tasks, ∀ e ∈ t.holding.entries, P e

/-- What holds of new connections, and is not lost by use and with time, holds of all entries. -/
theorem allEntries_of_reachable {P : Instant → PoolEntry Addr → Prop} {s : PoolState Addr}
    (hlater : ∀ {clock clock' e}, clock ≤ clock' → P clock e → P clock' e)
    (hused : ∀ {clock clock' e}, P clock e → P clock' { e with lastUsed := clock' })
    (hmade : ∀ clock addr id isPriority, P clock
      { addr, sink := id, stream := id, lastUsed := clock, isPriority })
    (hs : (poolMachine config strict).Reachable s) : AllEntries (P s.shared.clock) s := by
  have hfresh : ∀ {Q : PoolEntry Addr → Prop} (t : Task Addr), Fresh t →
      ∀ e ∈ t.holding.entries, Q e := by
    intro Q t ht
    rw [ht.holding]
    exact List.forall_mem_nil _
  refine pool_invariant (P := fun s => AllEntries (P s.shared.clock) s)
    ⟨List.forall_mem_nil _, fun t ht => hfresh t (fresh_new t ht)⟩ ?_ hs
  intro s s' signals _ hall hstep
  rcases hstep.quiet_or_acted with hquiet | ⟨i, t, r, hacted⟩
  · refine ⟨?_, ?_⟩
    · rw [hquiet.inner, hquiet.clock]
      exact hall.idle
    · rw [hquiet.clock]
      exact hquiet.forall_tasks (fun _ _ _ => rfl) hall.held (fun _ h => h)
        fun t ht _ => hfresh t ht
  · have hclock := hacted.acted.clock_le
    have hbefore : ∀ e ∈ s.shared.entries t, P s.shared.clock e := by
      intro e he
      rcases List.mem_append.mp he with he | he
      · exact hall.idle e he
      · exact hall.held t (List.mem_of_getElem? hacted.task) e he
    have hafter : ∀ e ∈ r.shared.entries r.task, P r.shared.clock e := by
      intro e he
      cases hacted.acted.stems e he with
      | kept hsource => exact hlater hclock (hbefore _ hsource)
      | used hsource => exact hused (hbefore _ hsource)
      | made => exact hmade _ _ _ _
    rw [hacted.shared]
    refine ⟨?_, ?_⟩
    · rw [hacted.shared]
      exact fun e he => hafter e (List.mem_append_left _ he)
    · exact hacted.forall_tasks (fun _ _ _ => rfl) hall.held
        (fun t h e he => hlater hclock (h e he))
        fun e he => hafter e (List.mem_append_right _ he)

/-- No entry was last used later than the clock was last read. -/
theorem lastUsed_le_of_reachable {s : PoolState Addr}
    (hs : (poolMachine config strict).Reachable s) :
    ∀ e ∈ s.shared.inner.idle, e.lastUsed ≤ s.shared.clock := by
  refine (allEntries_of_reachable (P := fun clock e => e.lastUsed ≤ clock) ?_ ?_ ?_ hs).idle
  · exact fun hclock he => Nat.le_trans he hclock
  · exact fun _ => Nat.le_refl _
  · exact fun _ _ _ _ => Nat.le_refl _

end RustyModbus.Pool
