/-!
# Durations

A span of time as the standard library keeps it: whole seconds in 64 bits, and the nanoseconds of
the second that has begun. The operations work on the two fields and carry between them. Each is
specified through `toNanos`, which gives the span in nanoseconds: subtraction stops at zero, addition
at the longest span, division drops the remainder, and the order of the fields is that of the spans.
-/

namespace Time

structure Duration where
  secs : Nat
  nanos : Nat
  secs_lt : secs < 18446744073709551616
  nanos_lt : nanos < 1000000000
deriving DecidableEq

namespace Duration

def toNanos (d : Duration) : Nat := d.secs * 1000000000 + d.nanos

def zero : Duration := { secs := 0, nanos := 0, secs_lt := by decide, nanos_lt := by decide }

/-- The longest span. -/
def max : Duration where
  secs := 18446744073709551615
  nanos := 999999999
  secs_lt := by decide
  nanos_lt := by decide

def fromNanos (n : UInt64) : Duration where
  secs := n.toNat / 1000000000
  nanos := n.toNat % 1000000000
  secs_lt := Nat.lt_of_le_of_lt (Nat.div_le_self _ _) n.toNat_lt
  nanos_lt := Nat.mod_lt _ (by decide)

def checkedAdd (a b : Duration) : Option Duration :=
  if hsecs : a.secs + b.secs < 18446744073709551616 then
    if hnanos : a.nanos + b.nanos < 1000000000 then
      some { secs := a.secs + b.secs, nanos := a.nanos + b.nanos,
             secs_lt := hsecs, nanos_lt := hnanos }
    else if hcarry : a.secs + b.secs + 1 < 18446744073709551616 then
      some { secs := a.secs + b.secs + 1, nanos := a.nanos + b.nanos - 1000000000,
             secs_lt := hcarry,
             nanos_lt := by have := a.nanos_lt; have := b.nanos_lt; omega }
    else none
  else none

def saturatingAdd (a b : Duration) : Duration := (a.checkedAdd b).getD max

def checkedSub (a b : Duration) : Option Duration :=
  if b.secs ≤ a.secs then
    if hnanos : b.nanos ≤ a.nanos then
      some { secs := a.secs - b.secs, nanos := a.nanos - b.nanos,
             secs_lt := Nat.lt_of_le_of_lt (Nat.sub_le _ _) a.secs_lt,
             nanos_lt := Nat.lt_of_le_of_lt (Nat.sub_le _ _) a.nanos_lt }
    else if 1 ≤ a.secs - b.secs then
      some { secs := a.secs - b.secs - 1, nanos := a.nanos + 1000000000 - b.nanos,
             secs_lt := by have := a.secs_lt; omega,
             nanos_lt := by have := a.nanos_lt; omega }
    else none
  else none

def saturatingSub (a b : Duration) : Duration := (a.checkedSub b).getD zero

/-- What is left of the seconds is divided along with what is left of the nanoseconds. -/
theorem div_nanos_eq (secs nanos : Nat) {n : Nat} (hn : 0 < n) :
    nanos / n + (secs % n * 1000000000 + nanos % n) / n = (secs % n * 1000000000 + nanos) / n := by
  have hsplit : secs % n * 1000000000 + nanos
      = n * (nanos / n) + (secs % n * 1000000000 + nanos % n) := by
    have := Nat.div_add_mod nanos n
    omega
  rw [hsplit, Nat.mul_add_div hn]

theorem div_nanos_lt (d : Duration) {n : Nat} (hn : 0 < n) :
    d.nanos / n + (d.secs % n * 1000000000 + d.nanos % n) / n < 1000000000 := by
  rw [div_nanos_eq _ _ hn]
  refine Nat.div_lt_of_lt_mul ?_
  have hrest : d.secs % n + 1 ≤ n := Nat.mod_lt _ hn
  have hmul := Nat.mul_le_mul_right 1000000000 hrest
  have hnanos := d.nanos_lt
  omega

/-- Division by a whole number. -/
def div (d : Duration) (n : Nat) (hn : 0 < n) : Duration where
  secs := d.secs / n
  nanos := d.nanos / n + (d.secs % n * 1000000000 + d.nanos % n) / n
  secs_lt := Nat.lt_of_le_of_lt (Nat.div_le_self _ _) d.secs_lt
  nanos_lt := d.div_nanos_lt hn

/-- Seconds first, nanoseconds among equal seconds. -/
instance : LT Duration where
  lt a b := a.secs < b.secs ∨ a.secs = b.secs ∧ a.nanos < b.nanos

instance (a b : Duration) : Decidable (a < b) :=
  inferInstanceAs (Decidable (a.secs < b.secs ∨ a.secs = b.secs ∧ a.nanos < b.nanos))

instance : LE Duration where
  le a b := ¬b < a

instance (a b : Duration) : Decidable (a ≤ b) := inferInstanceAs (Decidable (¬b < a))

/-! ## Spans in nanoseconds -/

variable (a b : Duration)

theorem toNanos_le_max : a.toNanos ≤ max.toNanos := by
  have hsecs := a.secs_lt
  have hnanos := a.nanos_lt
  simp only [toNanos, max]
  omega

theorem toNanos_injective {a b : Duration} (h : a.toNanos = b.toNanos) : a = b := by
  have ha := a.nanos_lt
  have hb := b.nanos_lt
  obtain ⟨secs, nanos, _, _⟩ := a
  obtain ⟨secs', nanos', _, _⟩ := b
  simp only [toNanos] at h ha hb
  obtain rfl : secs = secs' := by omega
  obtain rfl : nanos = nanos' := by omega
  rfl

@[simp] theorem toNanos_zero : zero.toNanos = 0 := rfl

theorem toNanos_fromNanos (n : UInt64) : (fromNanos n).toNanos = n.toNat := by
  simp only [toNanos, fromNanos]
  omega

theorem toNanos_saturatingAdd :
    (a.saturatingAdd b).toNanos = min (a.toNanos + b.toNanos) max.toNanos := by
  have ha := a.nanos_lt
  have hb := b.nanos_lt
  have hmax : max.toNanos = 18446744073709551615 * 1000000000 + 999999999 := rfl
  rw [saturatingAdd, checkedAdd, hmax]
  split
  next =>
    split
    next =>
      simp only [Option.getD_some, toNanos]
      omega
    next =>
      split
      next =>
        simp only [Option.getD_some, toNanos]
        omega
      next =>
        simp only [Option.getD_none, toNanos, max]
        omega
  next =>
    simp only [Option.getD_none, toNanos, max]
    omega

@[simp] theorem toNanos_saturatingSub : (a.saturatingSub b).toNanos = a.toNanos - b.toNanos := by
  have ha := a.nanos_lt
  have hb := b.nanos_lt
  rw [saturatingSub, checkedSub]
  split
  next =>
    split
    next =>
      simp only [Option.getD_some, toNanos]
      omega
    next =>
      split
      next =>
        simp only [Option.getD_some, toNanos]
        omega
      next =>
        simp only [Option.getD_none, toNanos, zero]
        omega
  next =>
    simp only [Option.getD_none, toNanos, zero]
    omega

@[simp] theorem toNanos_div {n : Nat} (hn : 0 < n) : (a.div n hn).toNanos = a.toNanos / n := by
  have hsplit : a.secs * 1000000000 + a.nanos
      = n * (a.secs / n * 1000000000) + (a.secs % n * 1000000000 + a.nanos) := by
    have hsecs : (n * (a.secs / n) + a.secs % n) * 1000000000 = a.secs * 1000000000 := by
      rw [Nat.div_add_mod]
    rw [Nat.add_mul, Nat.mul_assoc] at hsecs
    omega
  rw [toNanos, toNanos, hsplit, Nat.mul_add_div hn, ← div_nanos_eq _ _ hn]
  rfl

variable {a b}

theorem lt_iff_toNanos : a < b ↔ a.toNanos < b.toNanos := by
  have ha := a.nanos_lt
  have hb := b.nanos_lt
  show a.secs < b.secs ∨ a.secs = b.secs ∧ a.nanos < b.nanos ↔ _
  simp only [toNanos]
  omega

theorem le_iff_toNanos : a ≤ b ↔ a.toNanos ≤ b.toNanos :=
  (not_congr lt_iff_toNanos).trans Nat.not_lt

end Duration

end Time
