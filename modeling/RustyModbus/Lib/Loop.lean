/-!
# Loops

A `while` loop as one round of its body, which gives nothing once the condition fails. A variant
that every round lowers makes the loop end. What the body keeps then holds behind the loop, next to
the negated condition, and where every round halves the variant the rounds are counted by its
binary logarithm.
-/

namespace Loop

/-- The rounds of a loop, with the variant they lower. -/
structure While (σ : Type) where
  round : σ → Option σ
  variant : σ → Nat
  lowers : ∀ {s t}, round s = some t → variant t < variant s

namespace While

variable {σ : Type} (L : While σ)

/-- The state behind the loop. -/
def run (s : σ) : σ :=
  match h : L.round s with
  | none => s
  | some t =>
    have := L.lowers h
    run t
termination_by L.variant s

/-- How often the body is run. -/
def rounds (s : σ) : Nat :=
  match h : L.round s with
  | none => 0
  | some t =>
    have := L.lowers h
    rounds t + 1
termination_by L.variant s

variable {L}

/-- Behind the loop its condition fails. -/
theorem round_run (s : σ) : L.round (L.run s) = none := by
  fun_induction L.run s with
  | case1 s h => exact h
  | case2 s t h _ ih => exact ih

/-- What every round keeps holds behind the loop. -/
theorem run_keeps {P : σ → Prop} (hround : ∀ {s t}, P s → L.round s = some t → P t) {s : σ}
    (hs : P s) : P (L.run s) := by
  fun_induction L.run s with
  | case1 s h => exact hs
  | case2 s t h _ ih => exact ih (hround hs h)

/-- A loop that halves its variant, rounding up, ends within as many rounds as the variant has
binary digits. -/
theorem rounds_le {n : Nat} {s : σ}
    (hround : ∀ {s t}, L.round s = some t → 1 < L.variant s ∧ L.variant t ≤ (L.variant s + 1) / 2)
    (hs : L.variant s ≤ 1 <<< n) : L.rounds s ≤ n := by
  induction n generalizing s with
  | zero =>
    rw [rounds]
    split
    next => exact Nat.le_refl 0
    next t h =>
      have hlt := (hround h).1
      exact absurd hs (Nat.not_le.mpr hlt)
  | succ n ih =>
    rw [rounds]
    split
    next => exact Nat.zero_le _
    next t h =>
      have hhalf := (hround h).2
      rw [Nat.shiftLeft_succ] at hs
      exact Nat.succ_le_succ (ih (by omega))

end While

end Loop
