import RustyModbus.Client.Operation
import RustyModbus.Lib.Duration
import RustyModbus.Lib.Loop

/-!
# Deadlines

A deadline is an instant and a duration added, and `checked_add` of the platform's clock fails where
the sum has no representation. `saturating_instant_add` then looks for the longest duration that can
be added, by bisection between zero and the duration it was given. The client and the server each
have a copy.

Here durations are seconds and nanoseconds, with the arithmetic of the standard library, and nothing
is known of the clock but how far its sums reach. The operation of the client counts nanoseconds
instead; at the end the two are shown to agree.
-/

namespace RustyModbus

open Time

/-- A clock's instants lie on a line, and `checked_add` moves along it where it can. -/
structure Clock (Instant : Type) where
  checkedAdd : Instant → Duration → Option Instant
  /-- Where an instant lies, in nanoseconds. -/
  nanos : Instant → Int
  nanos_checkedAdd : ∀ {start duration sum}, checkedAdd start duration = some sum →
    nanos sum = nanos start + duration.toNanos

namespace Clock

variable {Instant : Type} (clock : Clock Instant) (start : Instant)

/-- The two variables of the loop. -/
structure Interval where
  lower : Duration
  upper : Duration
deriving DecidableEq

def Interval.midpoint (i : Interval) : Duration :=
  i.lower.saturatingAdd ((i.upper.saturatingSub i.lower).div 2 (by decide))

def Interval.gap (i : Interval) : Nat := i.upper.toNanos - i.lower.toNanos

/-- The body of the loop, behind its condition. -/
def round (i : Interval) : Option Interval :=
  if i.upper.saturatingSub i.lower > Duration.fromNanos 1 then
    if (clock.checkedAdd start i.midpoint).isSome then some { i with lower := i.midpoint }
    else some { i with upper := i.midpoint }
  else none

/-- The truncating division leaves the midpoint within the interval, so the sum is exact. -/
theorem Interval.toNanos_midpoint {i : Interval} (h : 1 < i.gap) :
    i.midpoint.toNanos = i.lower.toNanos + i.gap / 2 := by
  have hmax := i.upper.toNanos_le_max
  rw [gap] at h
  rw [midpoint, Duration.toNanos_saturatingAdd, Duration.toNanos_div,
    Duration.toNanos_saturatingSub, gap, Nat.min_eq_left]
  omega

theorem lt_gap_iff {i : Interval} :
    i.upper.saturatingSub i.lower > Duration.fromNanos 1 ↔ 1 < i.gap := by
  rw [gt_iff_lt, Duration.lt_iff_toNanos, Duration.toNanos_fromNanos,
    Duration.toNanos_saturatingSub]
  rfl

variable {clock start}

/-- What a round does: one end moves to the middle. -/
theorem round_eq_some {i j : Interval} (h : clock.round start i = some j) :
    1 < i.gap ∧
      ((clock.checkedAdd start i.midpoint).isSome = true ∧ j = { i with lower := i.midpoint } ∨
        (clock.checkedAdd start i.midpoint).isSome = false ∧
          j = { i with upper := i.midpoint }) := by
  rw [round] at h
  split at h
  next hgap =>
    refine ⟨lt_gap_iff.mp hgap, ?_⟩
    split at h
    next hfits => exact Or.inl ⟨hfits, (Option.some.inj h).symm⟩
    next hfits => exact Or.inr ⟨Bool.eq_false_iff.mpr hfits, (Option.some.inj h).symm⟩
  next => cases h

theorem round_eq_none {i : Interval} (h : clock.round start i = none) : i.gap ≤ 1 := by
  rw [round] at h
  split at h
  next => split at h <;> cases h
  next hgap => exact Nat.not_lt.mp (mt lt_gap_iff.mpr hgap)

theorem gap_of_round {i j : Interval} (h : clock.round start i = some j) :
    1 < i.gap ∧ j.gap ≤ (i.gap + 1) / 2 := by
  obtain ⟨hgap, hj⟩ := round_eq_some h
  have hmid := Interval.toNanos_midpoint hgap
  refine ⟨hgap, ?_⟩
  rcases hj with ⟨-, rfl⟩ | ⟨-, rfl⟩
  · simp only [Interval.gap] at hgap hmid ⊢
    omega
  · simp only [Interval.gap] at hgap hmid ⊢
    omega

variable (clock start)

def bisection : Loop.While Interval where
  round := clock.round start
  variant := Interval.gap
  lowers h := by
    have := gap_of_round h
    omega

def saturatingInstantAdd (duration : Duration) : Instant :=
  match clock.checkedAdd start duration with
  | some deadline => deadline
  | none =>
    let i := (clock.bisection start).run { lower := .zero, upper := duration }
    (clock.checkedAdd start i.lower).getD start

/-! ## The bisection finds the bound -/

/-- From `start` the clock reaches exactly as far as `limit`. -/
def Reaches (limit : Duration) : Prop :=
  ∀ duration, (clock.checkedAdd start duration).isSome ↔ duration ≤ limit

/-- The invariant of the loop. -/
structure Interval.Brackets (i : Interval) (limit : Duration) : Prop where
  lower : i.lower.toNanos ≤ limit.toNanos
  upper : limit.toNanos < i.upper.toNanos

variable {clock start} {limit : Duration}

theorem Reaches.isSome_iff (h : clock.Reaches start limit) {duration : Duration} :
    (clock.checkedAdd start duration).isSome ↔ duration.toNanos ≤ limit.toNanos :=
  (h duration).trans Duration.le_iff_toNanos

theorem brackets_of_round (hlimit : clock.Reaches start limit) {i j : Interval}
    (hi : i.Brackets limit) (h : clock.round start i = some j) : j.Brackets limit := by
  obtain ⟨-, ⟨hfits, rfl⟩ | ⟨hfits, rfl⟩⟩ := round_eq_some h
  · exact ⟨hlimit.isSome_iff.mp hfits, hi.upper⟩
  · refine ⟨hi.lower, Nat.lt_of_not_le fun hle => ?_⟩
    cases hfits.symm.trans (hlimit.isSome_iff.mpr hle)

/-- At a gap of one nanosecond the lower end is the bound. -/
theorem lower_run (hlimit : clock.Reaches start limit) {i : Interval} (hi : i.Brackets limit) :
    ((clock.bisection start).run i).lower = limit := by
  have hbrackets : ((clock.bisection start).run i).Brackets limit :=
    Loop.While.run_keeps (P := (Interval.Brackets · limit)) (brackets_of_round hlimit) hi
  have hgap := round_eq_none (Loop.While.round_run (L := clock.bisection start) i)
  have hlower := hbrackets.lower
  have hupper := hbrackets.upper
  refine Duration.toNanos_injective ?_
  rw [Interval.gap] at hgap
  omega

theorem rounds_le (duration : Duration) :
    (clock.bisection start).rounds { lower := .zero, upper := duration } ≤ 94 := by
  have hgap : Interval.gap { lower := .zero, upper := duration } ≤ 1 <<< 94 := by
    rw [Interval.gap, Duration.toNanos_zero, Nat.sub_zero]
    exact Nat.le_trans duration.toNanos_le_max (by decide)
  exact Loop.While.rounds_le (L := clock.bisection start) gap_of_round hgap

/-- The smaller of the two is what is added. -/
theorem checkedAdd_saturatingInstantAdd (hlimit : clock.Reaches start limit)
    (duration : Duration) :
    clock.checkedAdd start (if duration ≤ limit then duration else limit)
      = some (clock.saturatingInstantAdd start duration) := by
  rw [saturatingInstantAdd]
  cases hsum : clock.checkedAdd start duration with
  | some deadline =>
    have hle := (hlimit duration).mp (by rw [hsum]; rfl)
    rw [if_pos hle]
    exact hsum
  | none =>
    have hlt : ¬duration ≤ limit := by
      intro hle
      have hfits := (hlimit duration).mpr hle
      rw [hsum] at hfits
      cases hfits
    have hbrackets : Interval.Brackets { lower := .zero, upper := duration } limit := by
      constructor
      · rw [Duration.toNanos_zero]
        exact Nat.zero_le _
      · exact Nat.lt_of_not_le (mt Duration.le_iff_toNanos.mpr hlt)
    obtain ⟨last, hlast⟩ := Option.isSome_iff_exists.mp
      (hlimit.isSome_iff.mpr (Nat.le_refl limit.toNanos))
    dsimp only
    rw [if_neg hlt, lower_run hlimit hbrackets, hlast]
    rfl

theorem nanos_saturatingInstantAdd (hlimit : clock.Reaches start limit) (duration : Duration) :
    clock.nanos (clock.saturatingInstantAdd start duration)
      = clock.nanos start + min duration.toNanos limit.toNanos := by
  rw [clock.nanos_checkedAdd (checkedAdd_saturatingInstantAdd hlimit duration)]
  split
  next hle => rw [Nat.min_eq_left (Duration.le_iff_toNanos.mp hle)]
  next hle =>
    rw [Nat.min_eq_right (Nat.le_of_not_le (mt Duration.le_iff_toNanos.mpr hle))]

end Clock

/-! ## The copies of the client and of the server -/

def Client.saturatingInstantAdd {Instant : Type} (clock : Clock Instant) (start : Instant)
    (duration : Duration) : Instant :=
  clock.saturatingInstantAdd start duration

def Server.saturatingInstantAdd {Instant : Type} (clock : Clock Instant) (start : Instant)
    (duration : Duration) : Instant :=
  clock.saturatingInstantAdd start duration

/-! ## The clock of the client's operations -/

namespace Client.Concurrent

/-- A clock that counts nanoseconds and ends with `limit`. -/
def clockUpTo (limit : Instant) : Clock Instant where
  checkedAdd start duration := checkedAdd limit start duration.toNanos
  nanos start := Int.ofNat start
  nanos_checkedAdd h := by
    rw [checkedAdd] at h
    split at h
    next =>
      cases h
      exact Int.natCast_add _ _
    next => cases h

theorem clockUpTo_checkedAdd (limit start : Instant) (duration : Time.Duration) :
    (clockUpTo limit).checkedAdd start duration = checkedAdd limit start duration.toNanos :=
  rfl

theorem reaches_clockUpTo (start : Instant) (limit : Time.Duration) :
    (clockUpTo (start + limit.toNanos)).Reaches start limit := by
  intro duration
  rw [Duration.le_iff_toNanos]
  exact checkedAdd_isSome.trans Nat.add_le_add_iff_left

/-- The loop over nanoseconds goes along with the loop over durations. -/
theorem bisect_eq_run (limit start : Instant) (i : Clock.Interval) :
    bisect limit start i.lower.toNanos i.upper.toNanos
      = (((clockUpTo limit).bisection start).run i).lower.toNanos := by
  fun_induction Loop.While.run ((clockUpTo limit).bisection start) i with
  | case1 i h =>
    have hgap : ¬i.upper.toNanos - i.lower.toNanos > 1 := Nat.not_lt.mpr (Clock.round_eq_none h)
    rw [bisect, if_neg hgap]
  | case2 i j h _ ih =>
    obtain ⟨hgap, hj⟩ := Clock.round_eq_some h
    have hwide : i.upper.toNanos - i.lower.toNanos > 1 := hgap
    rw [← ih, bisect, if_pos hwide, ← Clock.Interval.gap, ← Clock.Interval.toNanos_midpoint hgap]
    rcases hj with ⟨hfits, rfl⟩ | ⟨hfits, rfl⟩
    · exact if_pos hfits
    · exact if_neg (Bool.eq_false_iff.mp hfits)

/-- The operations of the client compute their deadlines as the code does. -/
theorem saturatingInstantAdd_eq_clock (limit start : Instant) (duration : Time.Duration) :
    saturatingInstantAdd limit start duration.toNanos
      = Client.saturatingInstantAdd (clockUpTo limit) start duration := by
  have hrun := bisect_eq_run limit start { lower := .zero, upper := duration }
  rw [Duration.toNanos_zero] at hrun
  rw [saturatingInstantAdd, Client.saturatingInstantAdd, Clock.saturatingInstantAdd,
    clockUpTo_checkedAdd]
  cases checkedAdd limit start duration.toNanos with
  | some deadline => rfl
  | none =>
    dsimp only
    rw [clockUpTo_checkedAdd, hrun]

end Client.Concurrent

/-! ## Deadlines of both -/

/-- Behind `start` by the smaller of the duration and the limit, and found in few rounds. -/
structure Saturates {Instant : Type} (clock : Clock Instant) (start : Instant)
    (limit duration : Duration) (deadline : Instant) : Prop where
  sum : clock.checkedAdd start (if duration ≤ limit then duration else limit) = some deadline
  nanos : clock.nanos deadline = clock.nanos start + min duration.toNanos limit.toNanos
  rounds : (clock.bisection start).rounds { lower := .zero, upper := duration } ≤ 94

theorem deadline_saturates {Instant : Type} (clock : Clock Instant) (start : Instant)
    {limit : Duration} (hlimit : clock.Reaches start limit) (duration : Duration) :
    Saturates clock start limit duration (Client.saturatingInstantAdd clock start duration) ∧
      Saturates clock start limit duration (Server.saturatingInstantAdd clock start duration) := by
  have h : Saturates clock start limit duration (clock.saturatingInstantAdd start duration) :=
    { sum := Clock.checkedAdd_saturatingInstantAdd hlimit duration
      nanos := Clock.nanos_saturatingInstantAdd hlimit duration
      rounds := Clock.rounds_le duration }
  exact ⟨h, h⟩

/-- A clock that ends seven nanoseconds behind its third instant. -/
def endsSoon : Clock Client.Concurrent.Instant :=
  Client.Concurrent.clockUpTo (3 + (Duration.fromNanos 7).toNanos)

theorem deadline_saturates_endsSoon :
    endsSoon.Reaches 3 (.fromNanos 7) ∧
      Saturates endsSoon 3 (.fromNanos 7) .max (Client.saturatingInstantAdd endsSoon 3 .max) ∧
      Saturates endsSoon 3 (.fromNanos 7) .max (Server.saturatingInstantAdd endsSoon 3 .max) :=
  ⟨Client.Concurrent.reaches_clockUpTo 3 (.fromNanos 7),
    deadline_saturates endsSoon 3 (Client.Concurrent.reaches_clockUpTo 3 (.fromNanos 7)) .max⟩

end RustyModbus
